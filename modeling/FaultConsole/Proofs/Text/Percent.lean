import FaultConsole.Text.Percent

/-!
# What a segment says

An identifier of any text is written as one segment of a path. `isSegment_encode` says what such a
segment is made of: unreserved characters and escapes, and so nothing that has a meaning in an
address (`IsSegment.slash_not_mem`). `decode?_encode` says that the identifier is read back from it,
octet by octet and then as UTF-8, so no two identifiers share a segment.
-/

namespace FaultConsole.Text.Percent

/-! ## Reading back -/

theorem hexValue?_hexDigit : ∀ n < 16, hexValue? (hexDigit n) = some n := by
  decide

theorem octets?_escape (b : UInt8) (rest : List Char) :
    octets? (escape b ++ rest) = (octets? rest).map (b :: ·) := by
  have size : b.toNat < 256 := b.toNat_lt_size
  have high := hexValue?_hexDigit (b.toNat / 16) (by omega)
  have low := hexValue?_hexDigit (b.toNat % 16) (by omega)
  have whole : UInt8.ofNat (16 * (b.toNat / 16) + b.toNat % 16) = b := by
    rw [Nat.div_add_mod, UInt8.ofNat_toNat]
  simp only [escape, List.cons_append, List.nil_append, octets?, high, low]
  cases octets? rest with
  | none => rfl
  | some bytes => exact congrArg (fun b => some (b :: bytes)) whole

theorem octets?_escapes (bytes : List UInt8) (rest : List Char) :
    octets? (bytes.flatMap escape ++ rest) = (octets? rest).map (bytes ++ ·) := by
  induction bytes with
  | nil => simp
  | cons b bytes ih =>
      rw [List.flatMap_cons, List.append_assoc, octets?_escape, ih, Option.map_map]
      rfl

theorem octets?_cons {c : Char} (h : c ≠ '%') (rest : List Char) :
    octets? (c :: rest) = (octets? rest).map (String.utf8EncodeChar c ++ ·) := by
  have other : (c == '%') = false := by simpa using h
  rw [octets?]
  · simp [other]
  · intro hi lo more
    simp [h]

theorem ne_percent_of_isUnreserved {c : Char} (h : isUnreserved c = true) : c ≠ '%' := by
  rintro rfl
  exact absurd h (by decide)

/-- **A character stands for its octets**, escaped or not. -/
theorem octets?_encodeChar (c : Char) (rest : List Char) :
    octets? (encodeChar c ++ rest) = (octets? rest).map (String.utf8EncodeChar c ++ ·) := by
  unfold encodeChar
  split
  · rename_i unreserved
    exact octets?_cons (ne_percent_of_isUnreserved unreserved) rest
  · exact octets?_escapes _ rest

theorem octets?_flatMap (cs : List Char) :
    octets? (cs.flatMap encodeChar) = some (cs.flatMap String.utf8EncodeChar) := by
  induction cs with
  | nil => rfl
  | cons c cs ih =>
      rw [List.flatMap_cons, octets?_encodeChar, ih, List.flatMap_cons, Option.map_some]

theorem fromUTF8?_utf8Encode (s : String) :
    String.fromUTF8? (ByteArray.mk (s.toList.flatMap String.utf8EncodeChar).toArray) = some s := by
  have bytes : ByteArray.mk (s.toList.flatMap String.utf8EncodeChar).toArray = s.toByteArray := by
    rw [← String.utf8Encode_toList, List.utf8Encode]
    refine ByteArray.ext ?_
    rw [← Array.toList_inj, List.toList_data_toByteArray]
  rw [bytes, String.fromUTF8?, dif_pos s.isValidUTF8]
  rfl

/-- **A segment is decoded to the identifier it was made from**, whatever characters that has. -/
theorem decode?_encode (s : String) : decode? (encode s) = some s := by
  rw [decode?, encode, String.toList_ofList, octets?_flatMap]
  exact fromUTF8?_utf8Encode s

@[simp] theorem encode_inj {s t : String} : encode s = encode t ↔ s = t := by
  refine ⟨fun h => ?_, congrArg encode⟩
  have decoded := congrArg decode? h
  rw [decode?_encode, decode?_encode] at decoded
  exact Option.some.inj decoded

/-! ## What a segment is made of -/

/-- The hexadecimal digits of escapes. -/
def isHexDigit (c : Char) : Bool := "0123456789ABCDEF".toList.contains c

/-- Unreserved characters and escapes, and nothing else. -/
inductive IsSegment : List Char → Prop
  | nil : IsSegment []
  | unreserved {c : Char} {rest : List Char} (kept : isUnreserved c = true)
      (tail : IsSegment rest) : IsSegment (c :: rest)
  | escape {high low : Char} {rest : List Char} (first : isHexDigit high = true)
      (second : isHexDigit low = true) (tail : IsSegment rest) :
      IsSegment ('%' :: high :: low :: rest)

theorem isHexDigit_hexDigit : ∀ n < 16, isHexDigit (hexDigit n) = true := by
  decide

theorem IsSegment.escapes (bytes : List UInt8) {rest : List Char} (tail : IsSegment rest) :
    IsSegment (bytes.flatMap Percent.escape ++ rest) := by
  induction bytes with
  | nil => exact tail
  | cons b bytes ih =>
      have size : b.toNat < 256 := b.toNat_lt_size
      exact .escape (isHexDigit_hexDigit _ (by omega)) (isHexDigit_hexDigit _ (by omega)) ih

theorem isSegment_flatMap (cs : List Char) : IsSegment (cs.flatMap encodeChar) := by
  induction cs with
  | nil => exact .nil
  | cons c cs ih =>
      rw [List.flatMap_cons, encodeChar]
      split
      · rename_i unreserved
        exact .unreserved unreserved ih
      · exact ih.escapes _

/-- **An identifier is written as a segment.** -/
theorem isSegment_encode (s : String) : IsSegment (encode s).toList := by
  rw [encode, String.toList_ofList]
  exact isSegment_flatMap s.toList

theorem isUnreserved_of_isHexDigit {c : Char} (h : isHexDigit c = true) :
    isUnreserved c = true := by
  have all : "0123456789ABCDEF".toList.all isUnreserved = true := by decide
  exact List.all_eq_true.mp all c (List.contains_iff_mem.mp h)

theorem IsSegment.isUnreserved_or {cs : List Char} (h : IsSegment cs) :
    ∀ c ∈ cs, isUnreserved c = true ∨ c = '%' := by
  induction h with
  | nil => simp
  | unreserved kept _ ih =>
      intro c hc
      rcases List.mem_cons.mp hc with rfl | hc
      · exact Or.inl kept
      · exact ih c hc
  | escape first second _ ih =>
      intro c hc
      simp only [List.mem_cons] at hc
      rcases hc with rfl | rfl | rfl | hc
      · exact Or.inr rfl
      · exact Or.inl (isUnreserved_of_isHexDigit first)
      · exact Or.inl (isUnreserved_of_isHexDigit second)
      · exact ih c hc

/-- A segment has no slash in it, so it is one segment. -/
theorem IsSegment.slash_not_mem {cs : List Char} (h : IsSegment cs) : '/' ∉ cs := by
  intro slash
  rcases h.isUnreserved_or '/' slash with kept | percent
  · exact absurd kept (by decide)
  · exact absurd percent (by decide)

theorem toNat_lt_of_isUnreserved {c : Char} (h : isUnreserved c = true) : c.toNat < 128 := by
  have alphanum : c.isAlphanum =
      (decide (65 ≤ c.val ∧ c.val ≤ 90) || (decide (97 ≤ c.val) && decide (c.val ≤ 122)) ||
        (decide (48 ≤ c.val) && decide (c.val ≤ 57))) := rfl
  simp only [isUnreserved, alphanum, Bool.or_eq_true, Bool.and_eq_true, decide_eq_true_eq,
    beq_iff_eq, UInt32.le_iff_toNat_le, UInt32.reduceToNat] at h
  rcases h with ((((letter | digit) | rfl) | rfl) | rfl) | rfl
  · simp only [Char.toNat]
    omega
  · simp only [Char.toNat]
    omega
  all_goals decide

/-- A segment is plain ASCII. -/
theorem IsSegment.toNat_lt {cs : List Char} (h : IsSegment cs) : ∀ c ∈ cs, c.toNat < 128 := by
  intro c hc
  rcases h.isUnreserved_or c hc with kept | rfl
  · exact toNat_lt_of_isUnreserved kept
  · decide

end FaultConsole.Text.Percent
