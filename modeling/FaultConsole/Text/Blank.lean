/-!
# Blank space around a text

Everything a user types is trimmed before it is used, and "blank" means Unicode's
`White_Space` property, not ASCII's six characters: a no-break space or an ideographic
space at the end of a name is dropped, a zero-width space is not.

The functions work on lists of characters, where their laws are easy to state: trimming
removes blanks at the two ends and nothing else, and trimming twice changes nothing.
-/

namespace FaultConsole.Text

/-- The characters with the Unicode property `White_Space`. -/
def isBlank (c : Char) : Bool :=
  let n := c.toNat
  (9 ≤ n && n ≤ 13) || n == 0x20 || n == 0x85 || n == 0xA0 || n == 0x1680 ||
    (0x2000 ≤ n && n ≤ 0x200A) || n == 0x2028 || n == 0x2029 || n == 0x202F ||
    n == 0x205F || n == 0x3000

/-- What is left of a list when its longest end satisfying `p` is dropped. -/
def dropEnd {α : Type} (p : α → Bool) (l : List α) : List α :=
  (l.reverse.dropWhile p).reverse

/-- A list of characters without the blanks at its two ends. -/
def trimmed (l : List Char) : List Char :=
  dropEnd isBlank (l.dropWhile isBlank)

/-- A text without the blanks at its two ends. -/
def trim (s : String) : String :=
  String.ofList (trimmed s.toList)

/-- A text that holds nothing but blanks. -/
def isBlankText (s : String) : Bool :=
  s.toList.all isBlank

/-- A text without the slashes at its end. -/
def withoutTrailingSlashes (s : String) : String :=
  String.ofList (dropEnd (· == '/') s.toList)

/-! ## What the ends look like -/

theorem dropEnd_append_dropped {α : Type} (p : α → Bool) (l : List α) :
    ∃ tail, l = dropEnd p l ++ tail ∧ ∀ x ∈ tail, p x = true := by
  refine ⟨(l.reverse.takeWhile p).reverse, ?_, ?_⟩
  · rw [dropEnd, ← List.reverse_append, List.takeWhile_append_dropWhile, List.reverse_reverse]
  · intro x hx
    rw [List.mem_reverse] at hx
    exact List.all_eq_true.mp List.all_takeWhile x hx

@[simp] theorem dropEnd_nil {α : Type} (p : α → Bool) : dropEnd p [] = [] := rfl

theorem toList_trim (s : String) : (trim s).toList = trimmed s.toList := by
  simp [trim]

end FaultConsole.Text
