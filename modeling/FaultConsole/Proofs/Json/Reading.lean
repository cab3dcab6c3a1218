import FaultConsole.Service.Result

/-!
# What a text begins with

Between tokens a text may hold any space, so every reader of values passes over it first. The
character that comes next already decides which kind of value it is: only a text whose first
character is `n` can be the value `null`.

This settles what a list means that may be `null`. `readBody_orNull_iff` says that it is the empty
list if the text is the value `null`, and that it is what the reader of the list says otherwise.
-/

namespace FaultConsole

/-- Two steps succeed if the first does, and the second with what the first gives. -/
theorem bind_eq_ok_iff {ε α β : Type} {x : Except ε α} {f : α → Except ε β} {b : β} :
    (x >>= f) = .ok b ↔ ∃ a, x = .ok a ∧ f a = .ok b := by
  cases x with
  | error e => simp [bind, Except.bind]
  | ok a => simp [bind, Except.bind]

theorem map_eq_ok_iff {ε α β : Type} {x : Except ε α} {f : α → β} {b : β} :
    f <$> x = .ok b ↔ ∃ a, x = .ok a ∧ f a = b := by
  cases x with
  | error e => simp [Functor.map, Except.map]
  | ok a => simp [Functor.map, Except.map]

namespace Json

variable {α : Type}

/-! ## Space -/

namespace Cursor

/-- No space is next. -/
def AtToken (c : Cursor) : Prop := ∀ ch ∈ c.rest.head?, isSpace ch = false

theorem skipSpace_of_atToken {c : Cursor} (h : c.AtToken) : c.skipSpace = c := by
  obtain ⟨rest, offset⟩ := c
  cases rest with
  | nil => rfl
  | cons ch rest =>
      have first : isSpace ch = false := h ch rfl
      simp [skipSpace, first]

theorem atToken_skipSpace (c : Cursor) : c.skipSpace.AtToken := by
  intro ch hch
  have first := List.head?_dropWhile_not isSpace c.rest
  rw [skipSpace] at hch
  rw [Option.mem_def.mp hch] at first
  exact first

@[simp] theorem skipSpace_skipSpace (c : Cursor) : c.skipSpace.skipSpace = c.skipSpace :=
  skipSpace_of_atToken c.atToken_skipSpace

end Cursor

/-! ## Whole texts -/

/-- A whole text is read if a reader reads it and only space is left. -/
theorem readWith_eq_ok_iff {reader : Reader α} {source : String} {v : α} :
    readWith reader source = .ok v ↔
      ∃ c, reader (Cursor.start source) = .ok (v, c) ∧ ending c = .ok () := by
  unfold readWith
  rw [bind_eq_ok_iff]
  constructor
  · rintro ⟨⟨w, c⟩, read, rest⟩
    obtain ⟨⟨⟩, ended, same⟩ := bind_eq_ok_iff.mp rest
    cases same
    exact ⟨c, read, ended⟩
  · rintro ⟨c, read, ended⟩
    exact ⟨(v, c), read, bind_eq_ok_iff.mpr ⟨(), ended, rfl⟩⟩

/-! ## The value `null` -/

/-- The word `null` is next, after space, and reading goes on behind it. -/
def Cursor.AtNull (c after : Cursor) : Prop :=
  c.skipSpace.rest.head? = some 'n' ∧ word "ull".toList (c.skipSpace.skip 1) = .ok after

/-- A value is `null` exactly if the word is next. -/
theorem value_eq_null_iff {depth : Nat} {c after : Cursor} :
    value depth c = .ok (.null, after) ↔ c.AtNull after := by
  have kept : ∀ inner : Option (Reader Json),
      valueWith inner c = .ok (.null, after) ↔ c.AtNull after := by
    intro inner
    unfold valueWith Cursor.AtNull
    generalize c.skipSpace = c
    obtain ⟨rest, offset⟩ := c
    constructor
    · intro h
      simp only at h
      split at h
      · exact absurd h (by simp)
      · obtain ⟨c, hw, same⟩ := bind_eq_ok_iff.mp h
        cases same
        exact ⟨rfl, hw⟩
      -- the other first characters lead to other values
      · obtain ⟨c, -, same⟩ := bind_eq_ok_iff.mp h
        cases same
      · obtain ⟨c, -, same⟩ := bind_eq_ok_iff.mp h
        cases same
      · obtain ⟨c, -, same⟩ := bind_eq_ok_iff.mp h
        cases same
      · split at h
        · cases h
        · split at h
          · cases h
          · cases h
          · obtain ⟨c, -, same⟩ := bind_eq_ok_iff.mp h
            cases same
      · split at h
        · cases h
        · split at h
          · cases h
          · cases h
          · obtain ⟨c, -, same⟩ := bind_eq_ok_iff.mp h
            cases same
          · cases h
      · split at h
        · obtain ⟨⟨n, c⟩, -, same⟩ := bind_eq_ok_iff.mp h
          cases n <;> cases same
        · cases h
    · rintro ⟨first, hw⟩
      cases rest with
      | nil => exact absurd first (by simp)
      | cons ch rest =>
          cases first
          simp only [hw]
          rfl
  cases depth <;> exact kept _

/-- What may be left out is left out exactly if the word is next. -/
theorem readOptional_eq_none_iff {reader : Reader α} {c after : Cursor} :
    Record.readOptional reader c = .ok (none, after) ↔ c.AtNull after := by
  unfold Record.readOptional Cursor.AtNull
  generalize c.skipSpace = c
  obtain ⟨rest, offset⟩ := c
  constructor
  · intro h
    simp only at h
    split at h
    · obtain ⟨c, hw, same⟩ := bind_eq_ok_iff.mp h
      cases same
      exact ⟨rfl, hw⟩
    · obtain ⟨⟨v, c⟩, -, same⟩ := bind_eq_ok_iff.mp h
      cases same
  · rintro ⟨first, hw⟩
    cases rest with
    | nil => exact absurd first (by simp)
    | cons ch rest =>
        cases first
        simp only [hw]
        rfl

/-- It is there if something else is next, which the reader then reads. -/
theorem readOptional_eq_some_iff {reader : Reader α} {c after : Cursor} {v : α} :
    Record.readOptional reader c = .ok (some v, after) ↔
      c.skipSpace.rest.head? ≠ some 'n' ∧ reader c.skipSpace = .ok (v, after) := by
  unfold Record.readOptional
  generalize c.skipSpace = c
  obtain ⟨rest, offset⟩ := c
  simp only
  split
  · constructor
    · intro h
      obtain ⟨c, -, same⟩ := bind_eq_ok_iff.mp h
      cases same
    · intro h
      exact absurd rfl h.1
  · rename_i other
    constructor
    · intro h
      obtain ⟨⟨w, c⟩, read, same⟩ := bind_eq_ok_iff.mp h
      cases same
      refine ⟨?_, read⟩
      intro first
      cases rest with
      | nil => exact absurd first (by simp)
      | cons ch rest => cases first; exact other rest rfl
    · rintro ⟨-, read⟩
      exact bind_eq_ok_iff.mpr ⟨(v, after), read, rfl⟩

/-! ## Lists that may be `null` -/

/-- A reader of lists passes over space, and a list does not begin with an `n`. -/
structure ListReader (reader : Reader (List α)) : Prop where
  skipSpace : ∀ c, reader c.skipSpace = reader c
  notNull : ∀ c items after, reader c = .ok (items, after) → c.skipSpace.rest.head? ≠ some 'n'

theorem readList_isListReader (shape : Record.Shape) : ListReader (Record.readList shape) where
  skipSpace c := by
    unfold Record.readList
    rw [Cursor.skipSpace_skipSpace]
  notNull c items after h := by
    intro first
    unfold Record.readList at h
    generalize c.skipSpace = c at h first
    obtain ⟨rest, offset⟩ := c
    cases rest with
    | nil => exact absurd first (by simp)
    | cons ch rest => cases first; cases h

theorem ListReader.map {β : Type} {reader : Reader (List α)} (lists : ListReader reader)
    (f : α → β) :
    ListReader fun c => do
      let (vs, c) ← reader c
      return (vs.map f, c) where
  skipSpace c := by rw [lists.skipSpace]
  notNull c items after h := by
    obtain ⟨⟨vs, c'⟩, read, -⟩ := bind_eq_ok_iff.mp h
    exact lists.notNull c vs c' read

end Json

theorem Target.listReader_isListReader : Json.ListReader Target.listReader :=
  (Json.readList_isListReader shape).map ofValues

theorem readBody_eq_ok_iff {α : Type} {reader : Json.Reader α} {body : String} {v : α} :
    readBody reader body = .ok v ↔ Json.readWith reader body = .ok v := by
  unfold readBody
  cases Json.readWith reader body with
  | ok w => simp
  | error f => simp

/-- **A list that may be `null`** is the empty list if the text is the value `null`, and what the
reader of the list says otherwise. -/
theorem readBody_orNull_iff {α : Type} {reader : Json.Reader (List α)}
    (lists : Json.ListReader reader) {body : String} {items : List α} :
    readBody (orNull reader) body = .ok items ↔
      (Json.read body = .ok .null ∧ items = []) ∨ readBody reader body = .ok items := by
  have either : ∀ after, orNull reader (.start body) = .ok (items, after) ↔
      (Json.value Json.maxDepth (.start body) = .ok (.null, after) ∧ items = []) ∨
        reader (.start body) = .ok (items, after) := by
    intro after
    have absent := @Json.readOptional_eq_none_iff (List α) reader (.start body) after
    rw [Json.value_eq_null_iff, ← absent, ← lists.skipSpace]
    unfold orNull
    rw [bind_eq_ok_iff]
    constructor
    · rintro ⟨⟨read, c⟩, optional, same⟩
      cases same
      cases read with
      | none => exact Or.inl ⟨optional, rfl⟩
      | some items => exact Or.inr (Json.readOptional_eq_some_iff.mp optional).2
    · rintro (⟨absent, rfl⟩ | there)
      · exact ⟨(none, after), absent, rfl⟩
      · refine ⟨(some items, after), Json.readOptional_eq_some_iff.mpr ⟨?_, there⟩, rfl⟩
        have first := lists.notNull _ _ _ there
        rwa [Json.Cursor.skipSpace_skipSpace] at first
  rw [readBody_eq_ok_iff, readBody_eq_ok_iff, Json.read, Json.readWith_eq_ok_iff,
    Json.readWith_eq_ok_iff, Json.readWith_eq_ok_iff]
  simp only [either, or_and_right, exists_or]
  constructor
  · rintro (⟨c, ⟨null, rfl⟩, ended⟩ | there)
    · exact Or.inl ⟨⟨c, null, ended⟩, rfl⟩
    · exact Or.inr there
  · rintro (⟨⟨c, null, ended⟩, rfl⟩ | there)
    · exact Or.inl ⟨c, ⟨null, rfl⟩, ended⟩
    · exact Or.inr there

end FaultConsole
