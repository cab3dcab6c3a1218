import FaultConsole.Json.Basic
import Mathlib.Data.List.Induction
import Mathlib.Data.List.Nodup
import Mathlib.Data.List.Sort
import Mathlib.Data.String.Basic

/-!
# The members of an object

An object keeps its members in the order of their keys, so what is written in any order becomes one
object. Two things matter about that form. What it holds under a key is the last member given with
that key (`lookup_sortMembers`), and members with different keys may be given in any order
(`sortMembers_congr`), the order of the form itself included (`sortMembers_sortMembers`).

`Ascending` is the form itself. What was put into it has it (`ascending_sortMembers`), and then the
keys are told by what is held under them (`keys_eq_of_lookup`).
-/

namespace FaultConsole.Json

variable {a b m : Member} {members : List Member} {key : String}

/-! ## What is held under a key -/

theorem lookup_cons (m : Member) (members : List Member) (key : String) :
    (m :: members).lookup key = if key = m.1 then some m.2 else members.lookup key := by
  obtain ⟨k, v⟩ := m
  rw [List.lookup_cons]
  by_cases same : key = k
  · simp [same]
  · have other : (key == k) = false := by simpa using same
    simp [other, same]

theorem lookup_insertMember (m : Member) (members : List Member) (key : String) :
    (insertMember m members).lookup key = if key = m.1 then some m.2 else members.lookup key := by
  induction members with
  | nil => exact lookup_cons m [] key
  | cons first rest ih =>
      unfold insertMember
      split
      · exact lookup_cons m (first :: rest) key
      · split
        · rename_i replaced
          rw [lookup_cons, lookup_cons, ← replaced]
          split <;> rfl
        · rename_i other
          rw [lookup_cons, lookup_cons, ih]
          by_cases same : key = m.1
          · simp [same, other]
          · simp [same]

theorem sortMembers_concat (members : List Member) (m : Member) :
    sortMembers (members ++ [m]) = insertMember m (sortMembers members) := by
  simp [sortMembers]

/-- **An object holds the last member given with a key.** -/
theorem lookup_sortMembers (members : List Member) (key : String) :
    (sortMembers members).lookup key = members.reverse.lookup key := by
  induction members using List.reverseRecOn with
  | nil => rfl
  | append_singleton members m ih =>
      rw [sortMembers_concat, lookup_insertMember, ih, List.reverse_append, List.reverse_singleton,
        List.singleton_append, lookup_cons]

/-- Members given later go before those given earlier. -/
theorem lookup_sortMembers_append (earlier later : List Member) (key : String) :
    (sortMembers (earlier ++ later)).lookup key =
      ((sortMembers later).lookup key).or ((sortMembers earlier).lookup key) := by
  simp only [lookup_sortMembers, List.reverse_append, List.lookup_append]

theorem lookup_eq_some_of_mem (distinct : (members.map Prod.fst).Nodup) (h : m ∈ members) :
    members.lookup m.1 = some m.2 := by
  obtain ⟨before, after, rfl⟩ := List.append_of_mem h
  refine List.lookup_eq_some_iff.mpr ⟨before, after, rfl, ?_⟩
  intro p hp
  rw [List.map_append, List.nodup_append] at distinct
  simpa using (distinct.2.2 p.1 (List.mem_map_of_mem hp) m.1 (by simp)).symm

/-- If no key is given twice, an object holds all the members given. -/
theorem lookup_sortMembers_of_mem (distinct : (members.map Prod.fst).Nodup) (h : m ∈ members) :
    (sortMembers members).lookup m.1 = some m.2 := by
  rw [lookup_sortMembers]
  refine lookup_eq_some_of_mem ?_ (List.mem_reverse.mpr h)
  rw [List.map_reverse]
  exact (List.reverse_perm _).nodup_iff.mpr distinct

/-! ## The order in which members are given -/

theorem insertMember_comm (h : a.1 ≠ b.1) (members : List Member) :
    insertMember a (insertMember b members) = insertMember b (insertMember a members) := by
  induction members with
  | nil =>
      rcases lt_or_gt_of_ne h with before | before <;>
        simp [insertMember, before, h, h.symm, before.not_gt]
  | cons first rest ih =>
      -- each of the two goes before the first member, into its place, or behind it
      rcases lt_trichotomy a.1 first.1 with ha | ha | ha <;>
        rcases lt_trichotomy b.1 first.1 with hb | hb | hb
      all_goals grind [insertMember, lt_asymm, lt_trans]

/-- A member with a new key is one more. -/
theorem insertMember_perm (new : m.1 ∉ members.map Prod.fst) :
    (insertMember m members).Perm (m :: members) := by
  induction members with
  | nil => exact List.Perm.refl _
  | cons first rest ih =>
      rw [List.map_cons, List.mem_cons, not_or] at new
      unfold insertMember
      rw [if_neg new.1]
      split
      · exact List.Perm.refl _
      · exact ((ih new.2).cons first).trans (List.Perm.swap m first rest)

/-- An object has the members given, if no key is given twice. -/
theorem sortMembers_perm (distinct : (members.map Prod.fst).Nodup) :
    (sortMembers members).Perm members := by
  induction members using List.reverseRecOn with
  | nil => exact List.Perm.refl _
  | append_singleton members m ih =>
      rw [List.map_append, List.nodup_append] at distinct
      have sorted := ih distinct.1
      have new : m.1 ∉ (sortMembers members).map Prod.fst := by
        rw [(sorted.map Prod.fst).mem_iff]
        intro twice
        exact distinct.2.2 m.1 twice m.1 (by simp) rfl
      rw [sortMembers_concat]
      exact ((insertMember_perm new).trans (sorted.cons m)).trans
        (List.perm_append_singleton m members).symm

/-- **The order of members does not matter**, if no key is given twice. -/
theorem sortMembers_congr {other : List Member} (same : members.Perm other)
    (distinct : (members.map Prod.fst).Nodup) : sortMembers members = sortMembers other := by
  refine same.foldl_eq' ?_ []
  intro a ha b hb sorted
  by_cases equal : a.1 = b.1
  · have : a = b := List.inj_on_of_nodup_map distinct ha hb equal
    rw [this]
  · exact insertMember_comm (Ne.symm equal) sorted

theorem sortMembers_sortMembers (distinct : (members.map Prod.fst).Nodup) :
    sortMembers (sortMembers members) = sortMembers members :=
  (sortMembers_congr (sortMembers_perm distinct).symm distinct).symm

/-! ## In the order of their keys -/

/-- Members in ascending order of their keys, no key twice. -/
def Ascending (members : List Member) : Prop := members.Pairwise fun m m' => m.1 < m'.1

theorem mem_insertMember {m' : Member} (h : m' ∈ insertMember m members) :
    m' = m ∨ m' ∈ members := by
  induction members with
  | nil => exact Or.inl (List.mem_singleton.mp h)
  | cons first rest ih => grind [insertMember]

theorem ascending_insertMember (h : Ascending members) : Ascending (insertMember m members) := by
  induction members with
  | nil => exact List.pairwise_singleton _ _
  | cons first rest ih =>
      obtain ⟨below, tail⟩ := List.pairwise_cons.mp h
      unfold insertMember
      split
      · rename_i before
        refine List.pairwise_cons.mpr ⟨fun m' hm' => ?_, h⟩
        rcases List.mem_cons.mp hm' with rfl | later
        · exact before
        · exact lt_trans before (below m' later)
      · split
        · rename_i same
          exact List.pairwise_cons.mpr ⟨fun m' hm' => same ▸ below m' hm', tail⟩
        · rename_i before same
          have behind : first.1 < m.1 := lt_of_le_of_ne (not_lt.mp before) (Ne.symm same)
          refine List.pairwise_cons.mpr ⟨fun m' hm' => ?_, ih tail⟩
          rcases mem_insertMember hm' with rfl | old
          · exact behind
          · exact below m' old

theorem ascending_sortMembers (members : List Member) : Ascending (sortMembers members) := by
  induction members using List.reverseRecOn with
  | nil => exact List.Pairwise.nil
  | append_singleton members m ih =>
      rw [sortMembers_concat]
      exact ascending_insertMember ih

theorem Ascending.keys (h : Ascending members) : (members.map Prod.fst).Pairwise (· < ·) :=
  List.pairwise_map.mpr h

theorem Ascending.nodup_keys (h : Ascending members) : (members.map Prod.fst).Nodup :=
  h.keys.imp ne_of_lt

/-- Members that are already in order are put into no other. -/
theorem sortMembers_of_perm {sorted : List Member} (h : Ascending sorted)
    (same : members.Perm sorted) : sortMembers members = sorted := by
  have distinct : (members.map Prod.fst).Nodup :=
    (same.map Prod.fst).nodup_iff.mpr h.nodup_keys
  refine ((sortMembers_perm distinct).trans same).eq_of_pairwise ?_
    (ascending_sortMembers members) h
  exact fun a b _ _ before after => absurd after before.asymm

theorem mem_keys_iff_lookup : key ∈ members.map Prod.fst ↔ (members.lookup key).isSome := by
  induction members with
  | nil => simp
  | cons first rest ih =>
      rw [List.map_cons, List.mem_cons, lookup_cons, ih]
      split <;> simp_all

/-- **The keys of an object are told by what it holds.** -/
theorem keys_eq_of_lookup {other : List Member} (h : Ascending members) (h' : Ascending other)
    (same : ∀ key, (members.lookup key).isSome = (other.lookup key).isSome) :
    members.map Prod.fst = other.map Prod.fst := by
  refine List.Pairwise.eq_of_mem_iff h.keys h'.keys fun key => ?_
  rw [mem_keys_iff_lookup, mem_keys_iff_lookup, same key]

end FaultConsole.Json
