import FaultConsole.Listing.Table
import Mathlib.Data.List.FinRange

/-!
# Newest first

Which place of a list comes before which, once it is shown newest first, is told by two things alone:
when the records there were created and, where that is the same, how the places follow each other
(`ListedBefore`). Of two places one is always listed before the other, so there is one order only in
which all places can be gone through (`IsListing.unique`), and `newestFirst` goes through them in this
order: `newestFirst_eq_map_listing`.

An order of places says more than an order of records. It says that no record is lost or shown twice,
even where two records are equal in every field, and that ties keep the order they came in.
-/

namespace FaultConsole

open Time (Instant)

/-! ## Instants -/

namespace Time.Instant

/-- One instant comes after another: by its second, or within that second. -/
def IsAfter (a b : Instant) : Prop :=
  b.seconds < a.seconds ∨ b.seconds = a.seconds ∧ b.nanos < a.nanos

instance (a b : Instant) : Decidable (a.IsAfter b) := by
  unfold IsAfter
  infer_instance

theorem IsAfter.asymm {a b : Instant} (h : a.IsAfter b) : ¬b.IsAfter a := by
  unfold IsAfter at *
  omega

theorem IsAfter.trans {a b c : Instant} (h : a.IsAfter b) (h' : b.IsAfter c) : a.IsAfter c := by
  unfold IsAfter at *
  omega

theorem not_isAfter_self (a : Instant) : ¬a.IsAfter a := fun h => h.asymm h

theorem IsAfter.ne {a b : Instant} (h : a.IsAfter b) : a ≠ b := by
  rintro rfl
  exact not_isAfter_self a h

theorem isAfter_trichotomy (a b : Instant) : a.IsAfter b ∨ a = b ∨ b.IsAfter a := by
  obtain ⟨seconds, nanos⟩ := a
  obtain ⟨seconds', nanos'⟩ := b
  simp only [IsAfter, mk.injEq]
  omega

theorem le_iff {a b : Instant} : a.le b = true ↔ ¬a.IsAfter b := by
  simp only [le, IsAfter, Bool.or_eq_true, Bool.and_eq_true, decide_eq_true_eq, beq_iff_eq]
  omega

theorem le_trans {a b c : Instant} (h : a.le b = true) (h' : b.le c = true) : a.le c = true := by
  rw [le_iff, IsAfter] at *
  omega

theorem le_total (a b : Instant) : (a.le b || b.le a) = true := by
  rw [Bool.or_eq_true, le_iff, le_iff, IsAfter, IsAfter]
  omega

theorem le_antisymm {a b : Instant} (h : a.le b = true) (h' : b.le a = true) : a = b := by
  rw [le_iff] at h h'
  exact ((isAfter_trichotomy a b).resolve_left h).resolve_right h'

end Time.Instant

/-! ## The order of places -/

variable {α : Type} {createdAt : α → Instant} {items : List α}

/-- A place of a list is listed before another: its record is the newer one, or the records are of
the same instant and the place is the earlier one. -/
def ListedBefore (createdAt : α → Instant) (items : List α) (i j : Fin items.length) : Prop :=
  (createdAt items[i]).IsAfter (createdAt items[j]) ∨
    createdAt items[i] = createdAt items[j] ∧ i < j

instance (createdAt : α → Instant) (items : List α) (i j : Fin items.length) :
    Decidable (ListedBefore createdAt items i j) := by
  unfold ListedBefore
  infer_instance

namespace ListedBefore

theorem asymm {i j : Fin items.length} (h : ListedBefore createdAt items i j) :
    ¬ListedBefore createdAt items j i := by
  rintro (newer | ⟨same, earlier⟩)
  · rcases h with newer' | ⟨same, -⟩
    · exact newer'.asymm newer
    · exact newer.ne same.symm
  · rcases h with newer | ⟨-, earlier'⟩
    · exact newer.ne same.symm
    · exact absurd earlier earlier'.asymm

/-- Of two places one is listed before the other. -/
theorem or_of_ne {i j : Fin items.length} (h : i ≠ j) :
    ListedBefore createdAt items i j ∨ ListedBefore createdAt items j i := by
  rcases Instant.isAfter_trichotomy (createdAt items[i]) (createdAt items[j])
    with newer | same | newer
  · exact Or.inl (Or.inl newer)
  · rcases lt_or_gt_of_ne h with earlier | earlier
    · exact Or.inl (Or.inr ⟨same, earlier⟩)
    · exact Or.inr (Or.inr ⟨same.symm, earlier⟩)
  · exact Or.inr (Or.inl newer)

theorem trans {i j k : Fin items.length} (h : ListedBefore createdAt items i j)
    (h' : ListedBefore createdAt items j k) : ListedBefore createdAt items i k := by
  rcases h with newer | ⟨same, earlier⟩
  · rcases h' with newer' | ⟨same', -⟩
    · exact Or.inl (newer.trans newer')
    · exact Or.inl (same' ▸ newer)
  · rcases h' with newer' | ⟨same', earlier'⟩
    · exact Or.inl (same ▸ newer')
    · exact Or.inr ⟨same.trans same', earlier.trans earlier'⟩

theorem not_trans {i j k : Fin items.length} (h : ¬ListedBefore createdAt items j i)
    (h' : ¬ListedBefore createdAt items k j) : ¬ListedBefore createdAt items k i := by
  intro before
  by_cases same : j = k
  · exact h (same ▸ before)
  · exact h (((or_of_ne same).resolve_right h').trans before)

end ListedBefore

/-! ## Listings -/

/-- All places of a list, each of them once, in the order in which they are listed. -/
structure IsListing (createdAt : α → Instant) (items : List α) (places : List (Fin items.length)) :
    Prop where
  perm : places.Perm (List.finRange items.length)
  sorted : places.Pairwise (ListedBefore createdAt items)

/-- **There is only one order to list the places in.** -/
theorem IsListing.unique {places places' : List (Fin items.length)}
    (h : IsListing createdAt items places) (h' : IsListing createdAt items places') :
    places = places' := by
  refine List.Perm.eq_of_pairwise ?_ h.sorted h'.sorted (h.perm.trans h'.perm.symm)
  intro i j _ _ before after
  exact absurd after before.asymm

theorem IsListing.mem {places : List (Fin items.length)} (h : IsListing createdAt items places)
    (i : Fin items.length) : i ∈ places :=
  h.perm.mem_iff.mpr (List.mem_finRange i)

/-- The places of a list in the order in which they are listed. -/
def listing (createdAt : α → Instant) (items : List α) : List (Fin items.length) :=
  (List.finRange items.length).mergeSort fun i j => !decide (ListedBefore createdAt items j i)

theorem isListing_listing (createdAt : α → Instant) (items : List α) :
    IsListing createdAt items (listing createdAt items) := by
  have perm : (listing createdAt items).Perm (List.finRange items.length) :=
    List.mergeSort_perm _ _
  have sorted : (listing createdAt items).Pairwise fun i j =>
      (!decide (ListedBefore createdAt items j i)) = true := by
    refine List.pairwise_mergeSort ?_ ?_ _
    · intro i j k
      simp only [Bool.not_eq_true', decide_eq_false_iff_not]
      exact ListedBefore.not_trans
    · intro i j
      simp only [Bool.or_eq_true, Bool.not_eq_true', decide_eq_false_iff_not]
      exact or_iff_not_imp_left.mpr fun before => (not_not.mp before).asymm
  have once : (listing createdAt items).Nodup := perm.nodup_iff.mpr (List.nodup_finRange _)
  refine ⟨perm, sorted.imp₂ (fun i j notAfter different => ?_) once⟩
  simp only [Bool.not_eq_true', decide_eq_false_iff_not] at notAfter
  exact (ListedBefore.or_of_ne different).resolve_right notAfter

/-! ## What is listed -/

/-- The records of a list, each with its place. -/
theorem zipIdx_eq_map_finRange (items : List α) :
    items.zipIdx = (List.finRange items.length).map fun i => (items[i], i.val) :=
  List.ext_getElem (by simp) (by simp)

/-- Where the sort breaks ties by place, it compares places. -/
theorem zipIdxLE_eq (createdAt : α → Instant) (items : List α) (i j : Fin items.length) :
    List.zipIdxLE (fun a b => (createdAt b).le (createdAt a)) (items[i], i.val) (items[j], j.val) =
      !decide (ListedBefore createdAt items j i) := by
  rw [Bool.eq_iff_iff, Bool.not_eq_true', decide_eq_false_iff_not]
  simp only [List.zipIdxLE, ListedBefore, Instant.le_iff]
  generalize createdAt items[i] = a
  generalize createdAt items[j] = b
  rcases Instant.isAfter_trichotomy a b with newer | rfl | older
  · simp [newer, newer.asymm, newer.ne.symm]
  · simp [Instant.not_isAfter_self]
  · simp [older]

/-- **A list is shown in the order of its places.** -/
theorem newestFirst_eq_map_listing (createdAt : α → Instant) (items : List α) :
    newestFirst createdAt items = (listing createdAt items).map (items[·]) := by
  rw [newestFirst, ← List.mergeSort_zipIdx, zipIdx_eq_map_finRange,
    ← List.map_mergeSort fun i _ j _ => (zipIdxLE_eq createdAt items i j).symm, List.map_map]
  rfl

theorem newestFirst_perm (createdAt : α → Instant) (items : List α) :
    (newestFirst createdAt items).Perm items :=
  List.mergeSort_perm items _

theorem pairwise_newestFirst (createdAt : α → Instant) (items : List α) :
    (newestFirst createdAt items).Pairwise fun a b => (createdAt b).le (createdAt a) = true := by
  refine List.pairwise_mergeSort ?_ ?_ items
  · exact fun _ _ _ h h' => Instant.le_trans h' h
  · exact fun a b => Instant.le_total (createdAt b) (createdAt a)

/-- Records of different instants can be listed in one order only. -/
theorem newestFirst_eq_of_pairwise {items' : List α} (same : items'.Perm items)
    (sorted : items'.Pairwise fun a b => (createdAt b).le (createdAt a) = true)
    (distinct : (items.map createdAt).Nodup) : newestFirst createdAt items = items' := by
  have perm := newestFirst_perm createdAt items
  refine List.Perm.eq_of_pairwise ?_ (pairwise_newestFirst createdAt items) sorted
    (perm.trans same.symm)
  intro a b ha hb older newer
  exact List.inj_on_of_nodup_map distinct (perm.mem_iff.mp ha) (same.mem_iff.mp hb)
    (Instant.le_antisymm newer older)

/-- Records of different instants are listed alike, whatever order they come in. -/
theorem newestFirst_congr {items' : List α} (same : items'.Perm items)
    (distinct : (items.map createdAt).Nodup) :
    newestFirst createdAt items' = newestFirst createdAt items :=
  (newestFirst_eq_of_pairwise ((newestFirst_perm createdAt items').trans same)
    (pairwise_newestFirst createdAt items') distinct).symm

end FaultConsole
