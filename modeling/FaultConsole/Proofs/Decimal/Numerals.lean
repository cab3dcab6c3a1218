import FaultConsole.Decimal.Digits
import Mathlib.Algebra.Ring.Nat
import Mathlib.Data.List.Induction

/-!
# Digits and the number they say

Zeros in front of a number do not count (`digitsValue_zeros_append`), and they are all that a number
does not say about its digits: whatever digits have a value are the numeral of that value with zeros
in front (`exists_zeros`).
-/

namespace FaultConsole.Decimal

theorem digitsValue_eq_ofDigitChars (digits : List Char) :
    digitsValue digits = Nat.ofDigitChars 10 digits 0 := by
  simp only [digitsValue, Nat.ofDigitChars, Nat.mul_comm]
  rfl

theorem digitsValue_append_singleton (digits : List Char) (c : Char) :
    digitsValue (digits ++ [c]) = digitsValue digits * 10 + digitValue c := by
  simp [digitsValue]

theorem digitValue_lt {c : Char} (h : c.isDigit = true) : digitValue c < 10 := by
  have high : c.toNat ≤ 57 := (Char.isDigit_iff_toNat.mp h).2
  unfold digitValue
  omega

theorem digitsValue_lt {digits : List Char} (h : ∀ c ∈ digits, c.isDigit = true) :
    digitsValue digits < 10 ^ digits.length := by
  induction digits using List.reverseRecOn with
  | nil => decide
  | append_singleton digits c ih =>
      have shorter := ih fun d hd => h d (List.mem_append_left _ hd)
      have last := digitValue_lt (h c (by simp))
      rw [digitsValue_append_singleton, List.length_append, List.length_singleton, Nat.pow_succ]
      omega

/-- Zeros in front of a numeral do not count. -/
theorem digitsValue_zeros_append (zeros n : Nat) :
    digitsValue (List.replicate zeros '0' ++ Nat.toDigits 10 n) = n := by
  rw [digitsValue_eq_ofDigitChars, Nat.ofDigitChars_append, Nat.ofDigitChars_replicate_zero,
    Nat.mul_zero, Nat.ofDigitChars_ten_toDigits]

theorem isDigit_of_mem_zeros_append {zeros n : Nat} {c : Char}
    (h : c ∈ List.replicate zeros '0' ++ Nat.toDigits 10 n) : c.isDigit = true := by
  rcases List.mem_append.mp h with filled | digit
  · obtain rfl := List.eq_of_mem_replicate filled
    rfl
  · exact Nat.isDigit_of_mem_toDigits (by decide) (by decide) digit

theorem digitChar_digitValue {c : Char} (h : c.isDigit = true) :
    (digitValue c).digitChar = c := by
  have low : '0'.toNat ≤ c.toNat := (Char.isDigit_iff_toNat.mp h).1
  have value : (digitValue c).digitChar.toNat = c.toNat := by
    rw [Nat.toNat_digitChar_of_lt_ten (digitValue_lt h)]
    exact Nat.add_sub_cancel' low
  exact Char.toNat_inj.mp value

/-- **Digits are the numeral of their value**, with zeros in front. -/
theorem exists_zeros {digits : List Char} (some_digit : digits ≠ [])
    (h : ∀ c ∈ digits, c.isDigit = true) :
    ∃ zeros, digits = List.replicate zeros '0' ++ Nat.toDigits 10 (digitsValue digits) := by
  induction digits using List.reverseRecOn with
  | nil => exact absurd rfl some_digit
  | append_singleton digits c ih =>
      have digit : c.isDigit = true := h c (by simp)
      have last : Nat.toDigits 10 (digitValue c) = [c] := by
        rw [Nat.toDigits_of_lt_base (digitValue_lt digit), digitChar_digitValue digit]
      rw [digitsValue_append_singleton]
      by_cases only : digits = []
      · exact ⟨0, by simp [only, digitsValue, last]⟩
      · obtain ⟨zeros, split⟩ := ih only fun d hd => h d (List.mem_append_left _ hd)
        generalize digitsValue digits = n at split ⊢
        rcases Nat.eq_zero_or_pos n with rfl | positive
        · -- only zeros so far, and the last digit is the whole numeral
          refine ⟨zeros + 1, ?_⟩
          rw [split, Nat.zero_mul, Nat.zero_add, last, List.replicate_succ']
          rfl
        · refine ⟨zeros, ?_⟩
          rw [split, Nat.mul_comm,
            ← Nat.toDigits_append_toDigits (by decide) positive (digitValue_lt digit), last,
            List.append_assoc]

end FaultConsole.Decimal
