import FaultConsole.Json.Printer
import FaultConsole.Json.Reader
import FaultConsole.Proofs.Json.Reading

/-!
# Texts that read back

A string is written character by character, and of what stands between its quotes the reader takes
one character at a time, so whatever the string holds (quotes, backslashes, control characters, any
other character) it is read as it was: `reads_stringText`. An object is read member by member, so
it reads back if its values do (`reads_membersText`), and a whole text of an object of strings reads
as the object with these members, in whatever order they were written: `read_compactInOrder`.

Where reading stands afterwards does not matter here, only that what follows is left as it is.
`Reads` says both.
-/

namespace FaultConsole.Json

/-- A reader takes a text in front of anything else and gives a value for it. -/
def Reads {α : Type} (reader : Reader α) (text : List Char) (v : α) : Prop :=
  ∀ rest offset, ∃ after, reader ⟨text ++ rest, offset⟩ = .ok (v, ⟨rest, after⟩)

/-! ## Strings -/

theorem fourHex?_hexDigit :
    ∀ n < 32, fourHex? '0' '0' (hexDigit (n / 16)) (hexDigit (n % 16)) = some n := by
  decide

/-- **A character is read as it was written**, escaped or not. -/
theorem stringChars_escapedChar (c : Char) (rest : List Char) (offset : Nat) :
    ∃ after, stringChars .kept (escapedChar c ++ rest) offset =
      prepend c (stringChars .kept rest after) := by
  unfold escapedChar
  -- seven characters have an escape of one letter
  iterate 7
    split
    · rename_i h
      obtain rfl := beq_iff_eq.mp h
      exact ⟨offset + 2, rfl⟩
  split
  · rename_i control
    have digits := fourHex?_hexDigit c.toNat control
    have low : isLowSurrogate c.toNat = false := by
      simp only [isLowSurrogate, Bool.and_eq_false_iff, decide_eq_false_iff_not]
      omega
    have high : isHighSurrogate c.toNat = false := by
      simp only [isHighSurrogate, Bool.and_eq_false_iff, decide_eq_false_iff_not]
      omega
    refine ⟨offset + 6, ?_⟩
    simp only [List.cons_append, List.nil_append, stringChars, digits, low, high,
      Char.ofNat_toNat, reduceCtorEq, if_false, Bool.false_eq_true]
  · rename_i quote backslash _ _ _ _ _ control
    rw [beq_iff_eq] at quote backslash
    refine ⟨offset + c.utf8Size, ?_⟩
    rw [List.singleton_append, stringChars]
    · rw [if_neg control]
    all_goals simp [quote, backslash]

theorem stringChars_flatMap (cs rest : List Char) (offset : Nat) :
    ∃ after, stringChars .kept (cs.flatMap escapedChar ++ '"' :: rest) offset =
      .ok (cs, ⟨rest, after⟩) := by
  induction cs generalizing offset with
  | nil => exact ⟨offset + 1, rfl⟩
  | cons c cs ih =>
      rw [List.flatMap_cons, List.append_assoc]
      obtain ⟨behind, first⟩ :=
        stringChars_escapedChar c (cs.flatMap escapedChar ++ '"' :: rest) offset
      obtain ⟨after, others⟩ := ih behind
      exact ⟨after, by rw [first, others, prepend]⟩

/-- **A string reads back**, whatever it holds. -/
theorem reads_stringText (s : String) : Reads stringAfterQuote (stringText s) s := by
  intro rest offset
  obtain ⟨after, read⟩ := stringChars_flatMap s.toList rest (offset + 1)
  refine ⟨after, ?_⟩
  simp only [stringAfterQuote, stringText, List.cons_append, List.append_assoc, List.nil_append,
    List.drop_succ_cons, List.drop_zero, read]
  simp [bind, Except.bind, pure, Except.pure]

/-! ## Values and members -/

theorem reads_value_stringText (depth : Nat) (s : String) :
    Reads (value depth) (stringText s) (.string s) := by
  intro rest offset
  obtain ⟨after, read⟩ := reads_stringText s rest offset
  refine ⟨after, ?_⟩
  have kept : ∀ inner,
      valueWith inner ⟨stringText s ++ rest, offset⟩ = .ok (.string s, ⟨rest, after⟩) :=
    fun inner => bind_eq_ok_iff.mpr ⟨(s, ⟨rest, after⟩), read, rfl⟩
  cases depth <;> exact kept _

/-- The text of some members begins with the quote of a key. -/
theorem exists_membersText_cons (m : Member) (ms : List Member) :
    ∃ more, membersText (m :: ms) = '"' :: more := by
  obtain ⟨k, v⟩ := m
  cases ms <;> exact ⟨_, rfl⟩

/-- **Members read back** if their values do. -/
theorem reads_membersText {depth fuel : Nat} {ms : List Member} (some_member : ms ≠ [])
    (values : ∀ m ∈ ms, Reads (value depth) (text m.2) m.2) (enough : ms.length ≤ fuel) :
    Reads (members (value depth) fuel) (membersText ms ++ ['\x7d']) ms := by
  induction ms generalizing fuel with
  | nil => exact absurd rfl some_member
  | cons m ms ih =>
      obtain ⟨k, v⟩ := m
      obtain ⟨fuel, rfl⟩ : ∃ left, fuel = left + 1 := ⟨fuel - 1, by simp at enough; omega⟩
      intro rest offset
      cases ms with
      | nil =>
          obtain ⟨behind, key⟩ := reads_stringText k (':' :: (text v ++ '\x7d' :: rest)) offset
          obtain ⟨after, read⟩ := values (k, v) (by simp) ('\x7d' :: rest) (behind + 1)
          refine ⟨after + 1, ?_⟩
          simp only [membersText, List.append_assoc, List.cons_append, List.nil_append]
          exact bind_eq_ok_iff.mpr ⟨_, key, bind_eq_ok_iff.mpr ⟨_, rfl, bind_eq_ok_iff.mpr
            ⟨_, read, rfl⟩⟩⟩
      | cons next ms =>
          obtain ⟨more, starts⟩ := exists_membersText_cons next ms
          have others : Reads (members (value depth) fuel) (membersText (next :: ms) ++ ['\x7d'])
              (next :: ms) :=
            ih (by simp) (fun m hm => values m (by simp [hm])) (by simpa using enough)
          obtain ⟨behind, key⟩ := reads_stringText k
            (':' :: (text v ++ ',' :: (membersText (next :: ms) ++ '\x7d' :: rest))) offset
          obtain ⟨comma, read⟩ := values (k, v) (by simp)
            (',' :: (membersText (next :: ms) ++ '\x7d' :: rest)) (behind + 1)
          obtain ⟨after, tail⟩ := others rest (comma + 1)
          refine ⟨after, ?_⟩
          have whole : membersText ((k, v) :: next :: ms) =
              stringText k ++ ':' :: (text v ++ ',' :: membersText (next :: ms)) := rfl
          simp only [whole, List.append_assoc, List.cons_append, List.nil_append] at tail ⊢
          refine bind_eq_ok_iff.mpr ⟨_, key, bind_eq_ok_iff.mpr ⟨_, rfl, bind_eq_ok_iff.mpr
            ⟨_, read, ?_⟩⟩⟩
          rw [starts] at tail ⊢
          exact bind_eq_ok_iff.mpr ⟨_, tail, rfl⟩

theorem length_le_length_membersText (ms : List Member) :
    ms.length ≤ (membersText ms).length := by
  induction ms with
  | nil => simp
  | cons m ms ih =>
      obtain ⟨k, v⟩ := m
      cases ms with
      | nil =>
          simp only [membersText, List.length_append, List.length_cons, List.length_nil]
          omega
      | cons next ms =>
          simp only [membersText, List.length_append, List.length_cons] at ih ⊢
          omega

/-- **The text of an object is read as the object**, in whatever order its members are written, if
their values read back. -/
theorem reads_value_compactInOrder {depth : Nat} {ms : List Member} (some_member : ms ≠ [])
    (values : ∀ m ∈ ms, Reads (value depth) (text m.2) m.2) :
    Reads (value (depth + 1)) (compactInOrder ms).toList (.ofMembers ms) := by
  obtain ⟨m, more, rfl⟩ := List.exists_cons_of_ne_nil some_member
  obtain ⟨letters, starts⟩ := exists_membersText_cons m more
  intro rest offset
  have enough : (m :: more).length ≤ (membersText (m :: more) ++ '\x7d' :: rest).length := by
    have := length_le_length_membersText (m :: more)
    simp only [List.length_append]
    omega
  obtain ⟨after, inside⟩ := reads_membersText some_member values enough rest (offset + 1)
  refine ⟨after, ?_⟩
  simp only [compactInOrder, String.toList_ofList, List.cons_append, List.append_assoc,
    List.nil_append] at inside ⊢
  rw [starts] at inside ⊢
  exact bind_eq_ok_iff.mpr ⟨_, inside, rfl⟩

/-- So is a whole text that is one. -/
theorem read_compactInOrder {ms : List Member} (some_member : ms ≠ [])
    (values : ∀ m ∈ ms, Reads (value (maxDepth - 1)) (text m.2) m.2) :
    read (compactInOrder ms) = .ok (.ofMembers ms) := by
  obtain ⟨after, whole⟩ := reads_value_compactInOrder some_member values [] 0
  rw [List.append_nil] at whole
  exact readWith_eq_ok_iff.mpr ⟨⟨[], after⟩, whole, rfl⟩

end FaultConsole.Json
