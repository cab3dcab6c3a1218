import FaultConsole.Json.Record.Value
import FaultConsole.Proofs.Json.Members
import FaultConsole.Proofs.Json.Reading
import FaultConsole.Proofs.Time.Timestamps

/-!
# Records that are written and read back

A record is written with one member for each field, and read by looking for the member of each
field, so the order that an object gives its members does not matter. What could be lost between
the two is in the values: a timestamp is read from its text, and parameters are decoded on the way
in but not encoded on the way out.

`ofMembersJson_eq_ok_iff` says what reading a record means, field by field. `ofJson_toMembers` is
the result for every shape whose fields have different names: a record that was read once, and
whose timestamps have years of four digits, reads back as itself, with its parameters decoded once
more.
-/

namespace FaultConsole.Json.Record

open Time (Instant)

variable {fields : List Field} {members : List Member}

/-! ## What an object says of a field -/

/-- An object says of a field that it has a value: the member of its name is that value, or there
is none and the value is the one of a field that is left out. -/
def Says (members : List Member) (f : Field) (v : f.kind.Value) : Prop :=
  (∃ j, members.lookup f.name = some j ∧ ofJsonKind f.kind j = .ok v) ∨
    members.lookup f.name = none ∧ f.fallback = some v

/-- An object says of all fields which values they have. -/
def SaysAll (members : List Member) : (fields : List Field) → Values fields → Prop
  | [], () => True
  | f :: fs, (v, vs) => Says members f v ∧ SaysAll members fs vs

/-- **A record is read from an object** exactly if the object says of every field what its value
is. -/
theorem ofMembersJson_eq_ok_iff {vs : Values fields} :
    ofMembersJson members fields = .ok vs ↔ SaysAll members fields vs := by
  induction fields with
  | nil => simp [ofMembersJson, SaysAll]
  | cons f fs ih =>
      obtain ⟨v, vs⟩ := vs
      have rest : ∀ w, Prod.mk w <$> ofMembersJson members fs = .ok (v, vs) ↔
          w = v ∧ SaysAll members fs vs := by
        intro w
        rw [map_eq_ok_iff, ← ih]
        constructor
        · rintro ⟨ws, tail, same⟩
          cases same
          exact ⟨rfl, tail⟩
        · rintro ⟨rfl, tail⟩
          exact ⟨vs, tail, rfl⟩
      simp only [ofMembersJson, SaysAll, Says]
      cases members.lookup f.name with
      | some j => simp [bind_eq_ok_iff, rest]
      | none => cases f.fallback <;> simp [bind_eq_ok_iff, rest]

/-! ## The instants of a record -/

/-- The instants that a value holds. -/
def Kind.instants : (kind : Kind) → kind.Value → List Instant
  | .instant, t => [t]
  | .optionalInstant, t => t.toList
  | .text, _ | .count, _ | .optionalCount, _ | .parameters, _ => []

/-- The instants that a record holds. -/
def Values.instants : (fields : List Field) → Values fields → List Instant
  | [], () => []
  | f :: fs, (v, vs) => f.kind.instants v ++ Values.instants fs vs

theorem wellFormed_of_instantOf {s : String} {t : Instant} (h : instantOf s = .ok t) :
    t.WellFormed := by
  unfold instantOf at h
  split at h
  · cases h
    exact Time.wellFormed_of_parse? (by assumption)
  · cases h

theorem wellFormed_of_ofJsonKind {kind : Kind} {j : Json} {v : kind.Value}
    (h : ofJsonKind kind j = .ok v) : ∀ t ∈ kind.instants v, t.WellFormed := by
  intro t ht
  cases kind with
  | text | count | optionalCount | parameters => exact absurd ht (by simp [Kind.instants])
  | instant =>
      obtain rfl : t = v := by simpa [Kind.instants] using ht
      cases j with
      | string s => exact wellFormed_of_instantOf h
      | _ => cases h
  | optionalInstant =>
      obtain rfl : v = some t := by simpa [Kind.instants] using ht
      cases j with
      | null => cases h
      | string s =>
          simp only [ofJsonKind] at h
          obtain ⟨u, read, same⟩ := map_eq_ok_iff.mp h
          cases same
          exact wellFormed_of_instantOf read
      | _ => cases h

/-- What fields have that are left out is well-formed, too. -/
def FallbacksWellFormed (fields : List Field) : Prop :=
  ∀ f ∈ fields, ∀ v ∈ f.fallback, ∀ t ∈ f.kind.instants v, t.WellFormed

theorem wellFormed_of_says {f : Field}
    (fallback : ∀ v ∈ f.fallback, ∀ t ∈ f.kind.instants v, t.WellFormed) {v : f.kind.Value}
    (h : Says members f v) : ∀ t ∈ f.kind.instants v, t.WellFormed := by
  rcases h with ⟨j, -, read⟩ | ⟨-, left_out⟩
  · exact wellFormed_of_ofJsonKind read
  · exact fallback v left_out

theorem wellFormed_of_saysAll (fallbacks : FallbacksWellFormed fields) {vs : Values fields}
    (h : SaysAll members fields vs) : ∀ t ∈ Values.instants fields vs, t.WellFormed := by
  induction fields with
  | nil => exact fun t ht => absurd ht (by simp [Values.instants])
  | cons f fs ih =>
      obtain ⟨v, vs⟩ := vs
      obtain ⟨head, tail⟩ := h
      intro t ht
      rcases List.mem_append.mp ht with here | there
      · exact wellFormed_of_says (fallbacks f (by simp)) head t here
      · exact ih (fun g hg => fallbacks g (by simp [hg])) tail t there

theorem wellFormed_of_ofItemsJson (fallbacks : FallbacksWellFormed fields) {title : String}
    {index : Nat} {items : List Json} {vs : Values fields}
    (h : ofItemsJson title fields index items = .ok vs) :
    ∀ t ∈ Values.instants fields vs, t.WellFormed := by
  induction fields generalizing index items with
  | nil => exact fun t ht => absurd ht (by simp [Values.instants])
  | cons f fs ih =>
      have later : FallbacksWellFormed fs := fun g hg => fallbacks g (by simp [hg])
      have step : ∀ w items, (∀ t ∈ f.kind.instants w, t.WellFormed) →
          Prod.mk w <$> ofItemsJson title fs (index + 1) items = .ok vs →
            ∀ t ∈ Values.instants (f :: fs) vs, t.WellFormed := by
        intro w items here rest t ht
        obtain ⟨ws, tail, same⟩ := map_eq_ok_iff.mp rest
        cases same
        exact (List.mem_append.mp ht).elim (here t) (ih later tail t)
      cases items with
      | nil =>
          simp only [ofItemsJson] at h
          split at h
          · rename_i w left_out
            exact step w [] (fallbacks f (by simp) w left_out) h
          · cases h
      | cons item items =>
          obtain ⟨w, read, rest⟩ := bind_eq_ok_iff.mp h
          exact step w items (wellFormed_of_ofJsonKind read) rest

/-- **The instants of a record that was read are points in time**, whichever form it had. -/
theorem wellFormed_of_ofJson {shape : Shape} (fallbacks : FallbacksWellFormed shape.fields)
    {v : Json} {vs : Values shape.fields} (h : ofJson shape v = .ok vs) :
    ∀ t ∈ Values.instants shape.fields vs, t.WellFormed := by
  cases v with
  | object members => exact wellFormed_of_saysAll fallbacks (ofMembersJson_eq_ok_iff.mp h)
  | array items => exact wellFormed_of_ofItemsJson fallbacks h
  | _ => cases h

/-! ## Writing and reading back -/

/-- What becomes of a value that is written and read back: parameters are decoded once more. -/
def Kind.decoded : (kind : Kind) → kind.Value → kind.Value
  | .parameters, v => decodeParameters (fun s => (read s).toOption) v
  | .text, v | .count, v | .optionalCount, v | .instant, v | .optionalInstant, v => v

/-- What becomes of a record that is written and read back. -/
def Values.decoded : (fields : List Field) → Values fields → Values fields
  | [], () => ()
  | f :: fs, (v, vs) => (f.kind.decoded v, Values.decoded fs vs)

theorem instantOf_toText {t : Instant} (h : Instant.parse? t.toText = some t) :
    instantOf t.toText = .ok t := by
  simp [instantOf, h]

theorem ofJsonKind_toJsonKind {kind : Kind} {v : kind.Value}
    (readable : ∀ t ∈ kind.instants v, Instant.parse? t.toText = some t) :
    ofJsonKind kind (toJsonKind kind v) = .ok (kind.decoded v) := by
  cases kind with
  | text | parameters => rfl
  | count => simp [ofJsonKind, toJsonKind, Kind.decoded]
  | optionalCount => cases v <;> simp [ofJsonKind, toJsonKind, Kind.decoded]
  | instant =>
      have read := instantOf_toText (readable v (by simp [Kind.instants]))
      simp only [ofJsonKind, toJsonKind, Kind.decoded, read]
  | optionalInstant =>
      cases v with
      | none => rfl
      | some t =>
          have read := instantOf_toText (readable t (by simp [Kind.instants]))
          simp only [ofJsonKind, toJsonKind, Kind.decoded, read]
          rfl

theorem saysAll_of_lookup {vs : Values fields}
    (held : ∀ m ∈ toMembers fields vs, members.lookup m.1 = some m.2)
    (readable : ∀ t ∈ Values.instants fields vs, Instant.parse? t.toText = some t) :
    SaysAll members fields (Values.decoded fields vs) := by
  induction fields with
  | nil => trivial
  | cons f fs ih =>
      obtain ⟨v, vs⟩ := vs
      refine ⟨Or.inl ⟨toJsonKind f.kind v, ?_, ?_⟩, ih ?_ ?_⟩
      · exact held (f.name, toJsonKind f.kind v) (by simp [toMembers])
      · exact ofJsonKind_toJsonKind fun t ht => readable t (List.mem_append_left _ ht)
      · exact fun m hm => held m (List.mem_cons_of_mem _ hm)
      · exact fun t ht => readable t (List.mem_append_right _ ht)

theorem map_fst_toMembers (fields : List Field) (vs : Values fields) :
    (toMembers fields vs).map Prod.fst = fields.map Field.name := by
  induction fields with
  | nil => rfl
  | cons f fs ih =>
      obtain ⟨v, vs⟩ := vs
      simp [toMembers, ih]

/-- **A record that was read reads back**, with its parameters decoded once more. -/
theorem ofJson_toMembers {shape : Shape} (names : (shape.fields.map Field.name).Nodup)
    (fallbacks : FallbacksWellFormed shape.fields) {v : Json} {vs : Values shape.fields}
    (h : ofJson shape v = .ok vs)
    (years : ∀ t ∈ Values.instants shape.fields vs, 0 ≤ t.date.year ∧ t.date.year ≤ 9999) :
    ofJson shape (.ofMembers (toMembers shape.fields vs)) =
      .ok (Values.decoded shape.fields vs) := by
  have wellFormed := wellFormed_of_ofJson fallbacks h
  refine ofMembersJson_eq_ok_iff.mpr (saysAll_of_lookup ?_ ?_)
  · intro m hm
    refine lookup_sortMembers_of_mem ?_ hm
    rwa [map_fst_toMembers]
  · intro t ht
    exact Instant.parse?_toText (wellFormed t ht) (years t ht).1 (years t ht).2

end FaultConsole.Json.Record
