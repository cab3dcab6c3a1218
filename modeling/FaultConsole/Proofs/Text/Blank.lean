import FaultConsole.Text.Blank
import Mathlib.Data.List.DropRight

/-!
# Trimming twice

What is dropped from the ends of a text is all that there is to drop: what is left does not begin or
end with it, so dropping again changes nothing (`trim_trim`, `dropEnd_dropEnd`). A text without
blanks is left as it is (`trim_eq_self`).
-/

namespace FaultConsole.Text

variable {α : Type} {p : α → Bool}

/-! ## One end -/

theorem dropEnd_eq_rdropWhile (p : α → Bool) (l : List α) : dropEnd p l = l.rdropWhile p := rfl

theorem dropEnd_dropEnd (p : α → Bool) (l : List α) : dropEnd p (dropEnd p l) = dropEnd p l :=
  List.rdropWhile_idempotent p l

theorem dropEnd_eq_self {l : List α} (h : ∀ x ∈ l, p x = false) : dropEnd p l = l := by
  rw [dropEnd_eq_rdropWhile, List.rdropWhile_eq_self_iff]
  intro some_element
  simp [h _ (List.getLast_mem some_element)]

/-- Something that is kept protects all in front of it. -/
theorem dropEnd_append {l' : List α} (h : ∃ x ∈ l', p x = false) (l : List α) :
    dropEnd p (l ++ l') = l ++ dropEnd p l' := by
  have stops : ∃ x ∈ l'.reverse, p x = false := by simpa using h
  rw [dropEnd, List.reverse_append, List.dropWhile_append, if_neg, List.reverse_append,
    List.reverse_reverse, dropEnd]
  simpa using h

/-- What is dropped does not protect anything. -/
theorem dropEnd_append_of_dropped {l' : List α} (h : ∀ x ∈ l', p x = true) (l : List α) :
    dropEnd p (l ++ l') = dropEnd p l := by
  have passed : ∀ x ∈ l'.reverse, p x = true := by simpa using h
  rw [dropEnd, List.reverse_append, List.dropWhile_append_of_pos passed, dropEnd]

/-- What ends in something that is kept stays, whatever follows it. -/
theorem dropEnd_append_of_kept {l : List α} (h : dropEnd p l = l) (l' : List α) :
    dropEnd p (l ++ l') = l ++ dropEnd p l' := by
  by_cases kept : ∃ x ∈ l', p x = false
  · exact dropEnd_append kept l
  · have dropped : ∀ x ∈ l', p x = true := by simpa using kept
    have none : dropEnd p l' = [] := List.rdropWhile_eq_nil_iff.mpr dropped
    rw [dropEnd_append_of_dropped dropped, h, none, List.append_nil]

/-- What is left does not end with what is dropped. -/
theorem getLast?_dropEnd (p : α → Bool) (l : List α) :
    ∀ x ∈ (dropEnd p l).getLast?, p x = false := by
  intro x hx
  obtain ⟨some_element, rfl⟩ := List.mem_getLast?_eq_getLast hx
  exact Bool.eq_false_iff.mpr (List.rdropWhile_last_not p l some_element)

/-! ## Both ends -/

theorem exists_trimmed (l : List Char) :
    ∃ front back, l = front ++ trimmed l ++ back ∧ (∀ c ∈ front, isBlank c = true) ∧
      ∀ c ∈ back, isBlank c = true := by
  obtain ⟨back, split, blank⟩ := dropEnd_append_dropped isBlank (l.dropWhile isBlank)
  refine ⟨l.takeWhile isBlank, back, ?_, fun c hc => List.mem_takeWhile_imp hc, blank⟩
  rw [List.append_assoc, trimmed, ← split, List.takeWhile_append_dropWhile]

theorem trimmed_eq_self {l : List Char} (h : ∀ c ∈ l, isBlank c = false) : trimmed l = l := by
  have front : l.dropWhile isBlank = l := by
    cases l with
    | nil => rfl
    | cons c l => simp [h c List.mem_cons_self]
  rw [trimmed, front, dropEnd_eq_self h]

theorem trim_eq_self {s : String} (h : ∀ c ∈ s.toList, isBlank c = false) : trim s = s := by
  rw [trim, trimmed_eq_self h, String.ofList_toList]

/-- What is left does not begin with a blank. -/
theorem head?_trimmed (l : List Char) : ∀ c ∈ (trimmed l).head?, isBlank c = false := by
  intro c hc
  obtain ⟨back, split, -⟩ := dropEnd_append_dropped isBlank (l.dropWhile isBlank)
  have first : c ∈ (l.dropWhile isBlank).head? := by
    rw [split, List.head?_append]
    rw [trimmed] at hc
    rw [Option.mem_def.mp hc]
    rfl
  have kept := List.head?_dropWhile_not isBlank l
  rw [Option.mem_def.mp first] at kept
  exact kept

theorem trimmed_trimmed (l : List Char) : trimmed (trimmed l) = trimmed l := by
  have front : (trimmed l).dropWhile isBlank = trimmed l := by
    cases left : trimmed l with
    | nil => rfl
    | cons c cs =>
        have first : isBlank c = false := head?_trimmed l c (by rw [left]; rfl)
        simp [first]
  rw [trimmed, front, trimmed, dropEnd_dropEnd]

theorem trim_trim (s : String) : trim (trim s) = trim s := by
  simp only [trim, String.toList_ofList, trimmed_trimmed]

/-- Nothing is left of blanks, and of nothing else. -/
theorem trimmed_eq_nil_iff {l : List Char} : trimmed l = [] ↔ ∀ c ∈ l, isBlank c = true := by
  constructor
  · intro none c hc
    obtain ⟨front, back, split, frontBlank, backBlank⟩ := exists_trimmed l
    rw [none, List.append_nil] at split
    rw [split, List.mem_append] at hc
    exact hc.elim (frontBlank c) (backBlank c)
  · intro blank
    rw [trimmed, List.dropWhile_eq_nil_iff.mpr blank, dropEnd_nil]

theorem isEmpty_trim (s : String) : (trim s).isEmpty = isBlankText s := by
  rw [Bool.eq_iff_iff, isBlankText, List.all_eq_true, ← trimmed_eq_nil_iff, trim,
    String.isEmpty_iff, String.ofList_eq_empty_iff]

end FaultConsole.Text
