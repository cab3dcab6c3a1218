import FaultConsole.Json.Record.Reader
import FaultConsole.Proofs.Json.Strings

/-!
# The text of a record

A record may be written with its members in any order, with space between them, and with members
that nobody asked for. `readBody_objectText` says what is read from such a text: the record whose
fields have the values that the members' texts stand for, and else those of fields that are left
out.

What a text stands for is said for the place where it is: in front of the comma or the brace that
ends its member (`ReadsInside`). Space on either side of a value is a part of its text.
-/

namespace FaultConsole.Json

/-! ## Texts inside an object -/

/-- The comma or the brace that ends a member is next. -/
def EndsMember (rest : List Char) : Prop :=
  ∃ more, rest = ',' :: more ∨ rest = '\x7d' :: more

/-- A reader takes a text inside an object and gives a value for it; only space is left in front of
what ends the member. -/
def ReadsInside {ε α : Type} (reader : Cursor → Except ε (α × Cursor)) (text : List Char) (v : α) :
    Prop :=
  ∀ rest offset, EndsMember rest →
    ∃ after, reader ⟨text ++ rest, offset⟩ = .ok (v, after) ∧ after.skipSpace.rest = rest

/-- A text inside an object can be passed over. -/
def PassesInside (text : List Char) : Prop :=
  ∀ rest offset, EndsMember rest →
    ∃ after, pass ⟨text ++ rest, offset⟩ = .ok after ∧ after.skipSpace.rest = rest

theorem EndsMember.skipSpace {rest : List Char} (h : EndsMember rest) (offset : Nat) :
    (Cursor.skipSpace ⟨rest, offset⟩).rest = rest := by
  obtain ⟨more, rfl | rfl⟩ := h <;> rfl

theorem Reads.inside {α : Type} {reader : Reader α} {text : List Char} {v : α}
    (h : Reads reader text v) : ReadsInside reader text v := by
  intro rest offset ends
  obtain ⟨after, read⟩ := h rest offset
  exact ⟨_, read, ends.skipSpace after⟩

/-- What a string is written as is passed over character by character, too. -/
theorem stringChars_passedOver_escapedChar (c : Char) (rest : List Char) (offset : Nat) :
    ∃ ch after, stringChars .passedOver (escapedChar c ++ rest) offset =
      prepend ch (stringChars .passedOver rest after) := by
  unfold escapedChar
  iterate 7
    split
    · rename_i h
      obtain rfl := beq_iff_eq.mp h
      exact ⟨_, offset + 2, rfl⟩
  split
  · rename_i control
    refine ⟨'u', offset + 6, ?_⟩
    simp only [List.cons_append, List.nil_append, stringChars, fourHex?_hexDigit c.toNat control,
      if_true]
  · rename_i quote backslash _ _ _ _ _ control
    rw [beq_iff_eq] at quote backslash
    refine ⟨c, offset + c.utf8Size, ?_⟩
    rw [List.singleton_append, stringChars]
    · rw [if_neg control]
    all_goals simp [quote, backslash]

theorem passString_stringText (s : String) (rest : List Char) (offset : Nat) :
    ∃ after, passString ⟨stringText s ++ rest, offset⟩ = .ok ⟨rest, after⟩ := by
  have chars : ∀ (cs : List Char) (offset : Nat), ∃ passed after,
      stringChars .passedOver (cs.flatMap escapedChar ++ '"' :: rest) offset =
        .ok (passed, ⟨rest, after⟩) := by
    intro cs
    induction cs with
    | nil => exact fun offset => ⟨[], offset + 1, rfl⟩
    | cons c cs ih =>
        intro offset
        rw [List.flatMap_cons, List.append_assoc]
        obtain ⟨ch, behind, first⟩ := stringChars_passedOver_escapedChar c
          (cs.flatMap escapedChar ++ '"' :: rest) offset
        obtain ⟨passed, after, others⟩ := ih behind
        exact ⟨ch :: passed, after, by rw [first, others, prepend]⟩
  obtain ⟨passed, after, read⟩ := chars s.toList (offset + 1)
  refine ⟨after, bind_eq_ok_iff.mpr ⟨(passed, ⟨rest, after⟩), ?_, rfl⟩⟩
  simpa [stringText] using read

/-- **A string is passed over**, whatever it holds. -/
theorem passesInside_stringText (s : String) : PassesInside (stringText s) := by
  intro rest offset ends
  obtain ⟨after, passed⟩ := passString_stringText s rest offset
  refine ⟨⟨rest, after⟩, ?_, ends.skipSpace after⟩
  have start : passStart ⟨stringText s ++ rest, offset⟩ = .ok (none, ⟨rest, after⟩) :=
    map_eq_ok_iff.mpr ⟨_, passed, rfl⟩
  exact bind_eq_ok_iff.mpr ⟨_, start, rfl⟩

namespace Record

/-! ## Members as they are written -/

/-- A member as it is written: space, the key, and what stands between the colon and the comma or
the brace behind the member. -/
structure Entry where
  space : List Char := []
  key : String
  text : List Char

/-- The space in front of the key is space. -/
def Entry.Spaced (e : Entry) : Prop := ∀ c ∈ e.space, Cursor.isSpace c = true

/-- An entry from its key on. -/
def Entry.body (e : Entry) : List Char := stringText e.key ++ ':' :: e.text

/-- The entries behind the first, each behind its comma. -/
def othersText (es : List Entry) : List Char := es.flatMap fun e => ',' :: (e.space ++ e.body)

/-- An object, entry by entry. -/
def objectText : List Entry → List Char
  | [] => ['\x7b', '\x7d']
  | e :: es => '\x7b' :: (e.space ++ e.body ++ othersText es ++ ['\x7d'])

/-- The text of a member stands for the value of the field that is named so; if there is none, it
can be passed over. -/
def Fits (depth : Nat) (e : Entry) : (fields : List Field) → Values fields → Prop
  | [], () => PassesInside e.text
  | f :: fs, (v, vs) =>
    (f.name = e.key → ReadsInside (readKind depth f.kind) e.text v) ∧
      (f.name ≠ e.key → Fits depth e fs vs)

/-- Every field without a member has the value of a field that is left out. -/
def LeftOut (keys : List String) : (fields : List Field) → Values fields → Prop
  | [], () => True
  | f :: fs, (v, vs) => (f.name ∉ keys → f.fallback = some v) ∧ LeftOut keys fs vs

/-! ## Reading the members -/

/-- The values read so far, once the members with some keys have been read. -/
def slotsOf (keys : List String) : (fields : List Field) → Values fields → Slots fields
  | [], () => ()
  | f :: fs, (v, vs) => (if f.name ∈ keys then some v else none, slotsOf keys fs vs)

variable {depth : Nat} {fields : List Field} {vs : Values fields} {keys : List String}

theorem slotsOf_nil : slotsOf [] fields vs = Slots.none fields := by
  induction fields with
  | nil => rfl
  | cons f fs ih => simp [slotsOf, Slots.none, ih]

theorem slotsOf_congr {others : List String} (h : ∀ key, key ∈ keys ↔ key ∈ others) :
    slotsOf keys fields vs = slotsOf others fields vs := by
  induction fields with
  | nil => rfl
  | cons f fs ih => simp [slotsOf, h, ih]

/-- A key that no field has changes nothing. -/
theorem slotsOf_cons_of_not_mem {key : String} (h : key ∉ fields.map Field.name) :
    slotsOf (key :: keys) fields vs = slotsOf keys fields vs := by
  induction fields with
  | nil => rfl
  | cons f fs ih =>
      rw [List.map_cons, List.mem_cons, not_or] at h
      simp [slotsOf, ih h.2, Ne.symm h.1]

theorem complete_slotsOf (h : LeftOut keys fields vs) :
    Slots.complete fields (slotsOf keys fields vs) = .ok vs := by
  induction fields with
  | nil => rfl
  | cons f fs ih =>
      obtain ⟨v, vs⟩ := vs
      obtain ⟨first, others⟩ := h
      have rest := ih others
      by_cases given : f.name ∈ keys
      · simp only [Slots.complete, slotsOf, given, if_true, rest]
        rfl
      · simp only [Slots.complete, slotsOf, given, if_false, first given, rest]
        rfl

theorem lift_eq_ok_iff {α : Type} {x : Except Fault α} {a : α} : lift x = .ok a ↔ x = .ok a := by
  cases x <;> simp [lift]

/-- A string stands for the value of a field that holds text. -/
theorem readsInside_text (depth : Nat) (s : String) :
    ReadsInside (readKind depth .text) (stringText s) s := by
  intro rest offset ends
  obtain ⟨after, read⟩ := reads_stringText s rest offset
  exact ⟨⟨rest, after⟩, lift_eq_ok_iff.mpr read, ends.skipSpace after⟩

/-- **One member is read into the slot of its field**, or passed over. -/
theorem readMember_of_fits (names : (fields.map Field.name).Nodup) {e : Entry}
    (fits : Fits depth e fields vs) (new : e.key ∉ keys) {rest : List Char}
    (ends : EndsMember rest) (offset : Nat) :
    ∃ after,
      readMember depth e.key fields (slotsOf keys fields vs) ⟨':' :: (e.text ++ rest), offset⟩ =
        .ok (slotsOf (e.key :: keys) fields vs, after) ∧ after.skipSpace.rest = rest := by
  induction fields with
  | nil =>
      obtain ⟨after, passed, left⟩ := fits rest (offset + 1) ends
      refine ⟨after, ?_, left⟩
      refine bind_eq_ok_iff.mpr ⟨⟨e.text ++ rest, offset + 1⟩, rfl, ?_⟩
      exact bind_eq_ok_iff.mpr ⟨after, lift_eq_ok_iff.mpr passed, rfl⟩
  | cons f fs ih =>
      obtain ⟨v, vs⟩ := vs
      rw [List.map_cons, List.nodup_cons] at names
      by_cases named : f.name = e.key
      · obtain ⟨after, read, left⟩ := fits.1 named rest (offset + 1) ends
        refine ⟨after, ?_, left⟩
        have others : slotsOf (e.key :: keys) fs vs = slotsOf keys fs vs :=
          slotsOf_cons_of_not_mem (named ▸ names.1)
        simp only [readMember, slotsOf, named, new, others, if_true, if_false, Option.isSome_none,
          Bool.false_eq_true, List.mem_cons, true_or]
        refine bind_eq_ok_iff.mpr ⟨⟨e.text ++ rest, offset + 1⟩, rfl, ?_⟩
        exact bind_eq_ok_iff.mpr ⟨_, read, rfl⟩
      · obtain ⟨after, read, left⟩ := ih names.2 (fits.2 named)
        refine ⟨after, ?_, left⟩
        simp only [readMember, slotsOf, named, if_false, List.mem_cons, false_or]
        exact bind_eq_ok_iff.mpr ⟨_, read, rfl⟩

/-- Space is passed over up to what is no space. -/
theorem skipSpace_append {space : List Char} (h : ∀ c ∈ space, Cursor.isSpace c = true)
    {rest : List Char} (token : Cursor.AtToken ⟨rest, 0⟩) (offset : Nat) :
    Cursor.skipSpace ⟨space ++ rest, offset⟩ = ⟨rest, offset + space.length⟩ := by
  have dropped : rest.dropWhile Cursor.isSpace = rest ∧
      rest.takeWhile Cursor.isSpace = [] := by
    cases rest with
    | nil => exact ⟨rfl, rfl⟩
    | cons c rest => simp [show Cursor.isSpace c = false from token c rfl]
  simp [Cursor.skipSpace, List.dropWhile_append_of_pos h, List.takeWhile_append_of_pos h, dropped]

theorem exists_body_cons (e : Entry) : ∃ more, e.body = '"' :: more := ⟨_, rfl⟩

theorem length_le_length_othersText (es : List Entry) : es.length ≤ (othersText es).length := by
  induction es with
  | nil => simp
  | cons e es ih =>
      simp only [othersText, List.flatMap_cons, List.length_append, List.length_cons] at ih ⊢
      omega

theorem endsMember_othersText (es : List Entry) (rest : List Char) :
    EndsMember (othersText es ++ '\x7d' :: rest) := by
  cases es with
  | nil => exact ⟨rest, Or.inr rfl⟩
  | cons e es => exact ⟨_, Or.inl rfl⟩

/-- **The members of an object are read one by one**, up to the brace. -/
theorem readMembers_body (names : (fields.map Field.name).Nodup) {e : Entry} {es : List Entry}
    (spaced : ∀ m ∈ es, m.Spaced) (fits : ∀ m ∈ e :: es, Fits depth m fields vs)
    (distinct : ((e :: es).map Entry.key).Nodup) (new : ∀ m ∈ e :: es, m.key ∉ keys)
    {fuel : Nat} (enough : es.length < fuel) (rest : List Char) (offset : Nat) :
    ∃ after,
      readMembers depth fields fuel (slotsOf keys fields vs)
          ⟨e.body ++ (othersText es ++ '\x7d' :: rest), offset⟩ =
        .ok (slotsOf (((e :: es).map Entry.key).reverse ++ keys) fields vs, after) ∧
      after.rest = '\x7d' :: rest := by
  induction es generalizing e keys fuel offset with
  | nil =>
      obtain ⟨fuel, rfl⟩ : ∃ left, fuel = left + 1 := ⟨fuel - 1, by omega⟩
      obtain ⟨behind, key⟩ := reads_stringText e.key (':' :: (e.text ++ '\x7d' :: rest)) offset
      obtain ⟨after, read, left⟩ := readMember_of_fits names (fits e List.mem_cons_self)
        (new e List.mem_cons_self) (endsMember_othersText [] rest) behind
      refine ⟨after.skipSpace, ?_, left⟩
      have start : e.body ++ (othersText [] ++ '\x7d' :: rest) =
          stringText e.key ++ ':' :: (e.text ++ '\x7d' :: rest) := by simp [Entry.body, othersText]
      rw [start]
      refine bind_eq_ok_iff.mpr ⟨_, lift_eq_ok_iff.mpr key, bind_eq_ok_iff.mpr ⟨_, read, ?_⟩⟩
      simp only [othersText, List.flatMap_nil, List.nil_append] at left
      simp only [left]
      rfl
  | cons next es ih =>
      obtain ⟨fuel, rfl⟩ : ∃ left, fuel = left + 1 := ⟨fuel - 1, by omega⟩
      obtain ⟨behind, key⟩ := reads_stringText e.key
        (':' :: (e.text ++ (othersText (next :: es) ++ '\x7d' :: rest))) offset
      obtain ⟨comma, read, left⟩ := readMember_of_fits names (fits e List.mem_cons_self)
        (new e List.mem_cons_self) (endsMember_othersText (next :: es) rest) behind
      rw [List.map_cons, List.nodup_cons] at distinct
      have later : ∀ m ∈ next :: es, m.key ∉ e.key :: keys := by
        intro m hm twice
        rcases List.mem_cons.mp twice with same | old
        · exact distinct.1 (same ▸ List.mem_map_of_mem hm)
        · exact new m (List.mem_cons_of_mem _ hm) old
      obtain ⟨after, others, ended⟩ := ih (fun m hm => spaced m (List.mem_cons_of_mem _ hm))
        (fun m hm => fits m (List.mem_cons_of_mem _ hm)) distinct.2 later
        (Nat.lt_of_succ_lt_succ enough) (comma.skipSpace.offset + 1 + next.space.length)
      refine ⟨after, ?_, ended⟩
      have start : e.body ++ (othersText (next :: es) ++ '\x7d' :: rest) =
          stringText e.key ++ ':' :: (e.text ++ (othersText (next :: es) ++ '\x7d' :: rest)) := by
        simp [Entry.body]
      have behindComma : othersText (next :: es) ++ '\x7d' :: rest =
          ',' :: (next.space ++ (next.body ++ (othersText es ++ '\x7d' :: rest))) := by
        simp [othersText]
      have keyNext : (comma.skipSpace.skip 1).skipSpace =
          ⟨next.body ++ (othersText es ++ '\x7d' :: rest),
            comma.skipSpace.offset + 1 + next.space.length⟩ := by
        rw [Cursor.skip, left, behindComma, List.drop_succ_cons, List.drop_zero]
        refine skipSpace_append (spaced next List.mem_cons_self) ?_ _
        rintro c ⟨⟩
        rfl
      rw [start]
      refine bind_eq_ok_iff.mpr ⟨_, lift_eq_ok_iff.mpr key, bind_eq_ok_iff.mpr ⟨_, read, ?_⟩⟩
      rw [behindComma] at left
      obtain ⟨more, quote⟩ := exists_body_cons next
      simp only [left, keyNext]
      rw [quote, List.cons_append] at others ⊢
      rw [others]
      simp

/-! ## Reading the record -/

/-- The members say what the record is: each stands for the value of its field, no key comes twice,
and a field without a member may be left out. -/
structure Writes (depth : Nat) (es : List Entry) (fields : List Field) (vs : Values fields) :
    Prop where
  spaced : ∀ e ∈ es, e.Spaced
  fits : ∀ e ∈ es, Fits depth e fields vs
  distinct : (es.map Entry.key).Nodup
  leftOut : LeftOut (es.map Entry.key) fields vs

theorem readObject_of_writes (names : (fields.map Field.name).Nodup) {es : List Entry}
    (written : Writes depth es fields vs) (rest : List Char) (offset : Nat) :
    ∃ after, readObject depth fields ⟨(objectText es).drop 1 ++ rest, offset⟩ = .ok (vs, after) ∧
      after.rest = '\x7d' :: rest := by
  cases es with
  | nil =>
      refine ⟨⟨'\x7d' :: rest, offset⟩, ?_, rfl⟩
      have complete := complete_slotsOf written.leftOut
      rw [List.map_nil, slotsOf_nil] at complete
      refine bind_eq_ok_iff.mpr ⟨(Slots.none fields, ⟨'\x7d' :: rest, offset⟩), rfl, ?_⟩
      simp only [complete]
      rfl
  | cons e es =>
      have inside : (objectText (e :: es)).drop 1 ++ rest =
          e.space ++ (e.body ++ (othersText es ++ '\x7d' :: rest)) := by
        simp [objectText]
      have start : Cursor.skipSpace ⟨(objectText (e :: es)).drop 1 ++ rest, offset⟩ =
          ⟨e.body ++ (othersText es ++ '\x7d' :: rest), offset + e.space.length⟩ := by
        rw [inside]
        refine skipSpace_append (written.spaced e List.mem_cons_self) ?_ _
        rintro c ⟨⟩
        rfl
      have enough : es.length < (e.body ++ (othersText es ++ '\x7d' :: rest)).length := by
        have := length_le_length_othersText es
        simp only [List.length_append, List.length_cons]
        omega
      have new : ∀ m ∈ e :: es, m.key ∉ [] := fun _ _ => List.not_mem_nil
      obtain ⟨after, read, ended⟩ := readMembers_body names
        (fun m hm => written.spaced m (List.mem_cons_of_mem _ hm)) written.fits written.distinct
        new enough rest (offset + e.space.length)
      have order : slotsOf ((e :: es).map Entry.key).reverse fields vs =
          slotsOf ((e :: es).map Entry.key) fields vs := slotsOf_congr fun _ => List.mem_reverse
      rw [slotsOf_nil, List.append_nil, order] at read
      refine ⟨after, ?_, ended⟩
      obtain ⟨more, quote⟩ := exists_body_cons e
      rw [readObject]
      simp only [start]
      rw [quote, List.cons_append] at read ⊢
      refine bind_eq_ok_iff.mpr ⟨_, read, ?_⟩
      simp only [complete_slotsOf written.leftOut]
      rfl

/-- **The text of an object is read as the record that its members say**, whatever their order. -/
theorem reads_readRecord {shape : Shape} (names : (shape.fields.map Field.name).Nodup)
    {vs : Values shape.fields} {es : List Entry} (written : Writes depth es shape.fields vs) :
    Reads (readRecord shape (depth + 1)) (objectText es) vs := by
  intro rest offset
  obtain ⟨after, read, ended⟩ := readObject_of_writes names written rest (offset + 1)
  have brace : objectText es = '\x7b' :: (objectText es).drop 1 := by cases es <;> rfl
  have closed : closeObject after = (⟨rest, after.offset + 1⟩, none) := by
    obtain ⟨left, offset⟩ := after
    cases ended
    rfl
  refine ⟨after.offset + 1, ?_⟩
  rw [brace, List.cons_append]
  show settle closeObject (readObject depth shape.fields
    ⟨(objectText es).drop 1 ++ rest, offset + 1⟩) = _
  rw [read, settle, closed]

/-- **A body that is such a text is read as what is made of the record.** -/
theorem readBody_objectText {α : Type} {shape : Shape} (names : (shape.fields.map Field.name).Nodup)
    {vs : Values shape.fields} {es : List Entry}
    (written : Writes (maxDepth - 1) es shape.fields vs) (make : Values shape.fields → α) :
    readBody (fun c => do let (v, c) ← readOne shape c; return (make v, c))
      (String.ofList (objectText es)) = .ok (make vs) := by
  obtain ⟨after, read⟩ := reads_readRecord names written [] 0
  rw [List.append_nil] at read
  refine readBody_eq_ok_iff.mpr (readWith_eq_ok_iff.mpr ⟨⟨[], after⟩, ?_, rfl⟩)
  rw [Cursor.start, String.toList_ofList]
  exact bind_eq_ok_iff.mpr ⟨_, read, rfl⟩

end Record

end FaultConsole.Json
