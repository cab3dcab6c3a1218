import FaultConsole.Listing.Choice
import FaultConsole.Proofs.Listing.Order

/-!
# Which targets are offered

The dropdown goes through the targets from the newest to the oldest and skips those whose selector
it has offered already. `mem_firstOfEach_iff` says what is left without mentioning what was seen on
the way: an element is kept if it comes before all others with its key. So a selector is offered for
the newest of its targets, and for the one that was listed first where several are as new:
`newest_target_of_each_selector_is_offered`.
-/

namespace FaultConsole

/-! ## The first of each key -/

section FirstOfEach

variable {α β : Type} {key : α → String} {seen : List String} {l : List α}

theorem firstOfEach_cons_of_mem {a : α} (h : key a ∈ seen) :
    firstOfEach key seen (a :: l) = firstOfEach key seen l :=
  if_pos (List.contains_iff_mem.mpr h)

theorem firstOfEach_cons_of_not_mem {a : α} (h : key a ∉ seen) :
    firstOfEach key seen (a :: l) = a :: firstOfEach key (key a :: seen) l :=
  if_neg (mt List.contains_iff_mem.mp h)

theorem firstOfEach_map (key : α → String) (f : β → α) (seen : List String) (l : List β) :
    firstOfEach key seen (l.map f) = (firstOfEach (fun b => key (f b)) seen l).map f := by
  induction l generalizing seen with
  | nil => rfl
  | cons b l ih =>
      rw [List.map_cons]
      by_cases old : key (f b) ∈ seen
      · have skipped : firstOfEach (fun b => key (f b)) seen (b :: l) = _ :=
          firstOfEach_cons_of_mem old
        rw [firstOfEach_cons_of_mem old, skipped, ih]
      · have kept : firstOfEach (fun b => key (f b)) seen (b :: l) = _ :=
          firstOfEach_cons_of_not_mem old
        rw [firstOfEach_cons_of_not_mem old, kept, ih, List.map_cons]

theorem firstOfEach_sublist (key : α → String) (seen : List String) (l : List α) :
    (firstOfEach key seen l).Sublist l := by
  induction l generalizing seen with
  | nil => exact List.Sublist.slnil
  | cons a l ih =>
      by_cases old : key a ∈ seen
      · rw [firstOfEach_cons_of_mem old]
        exact (ih seen).cons a
      · rw [firstOfEach_cons_of_not_mem old]
        exact (ih (key a :: seen)).cons_cons a

/-- **What is kept comes before all others with its key.** -/
theorem mem_firstOfEach_iff {before : α → α → Prop} (asymm : ∀ {a b}, before a b → ¬before b a)
    (sorted : l.Pairwise before) {a : α} :
    a ∈ firstOfEach key seen l ↔
      a ∈ l ∧ key a ∉ seen ∧ ∀ b ∈ l, key b = key a → b ≠ a → before a b := by
  induction l generalizing seen with
  | nil => simp [firstOfEach]
  | cons c l ih =>
      obtain ⟨first, sorted⟩ := List.pairwise_cons.mp sorted
      by_cases old : key c ∈ seen
      · rw [firstOfEach_cons_of_mem old, ih sorted]
        constructor
        · rintro ⟨inRest, fresh, foremost⟩
          refine ⟨List.mem_cons_of_mem c inRest, fresh, ?_⟩
          rintro b (_ | ⟨_, hb⟩) same
          · exact absurd (same ▸ old) fresh
          · exact foremost b hb same
        · rintro ⟨_ | ⟨_, inRest⟩, fresh, foremost⟩
          · exact absurd old fresh
          · exact ⟨inRest, fresh, fun b hb => foremost b (List.mem_cons_of_mem c hb)⟩
      · rw [firstOfEach_cons_of_not_mem old, List.mem_cons, ih sorted, List.mem_cons, not_or]
        constructor
        · rintro (rfl | ⟨inRest, ⟨other, fresh⟩, foremost⟩)
          · refine ⟨List.mem_cons_self, old, ?_⟩
            rintro b (_ | ⟨_, hb⟩) _ different
            · exact absurd rfl different
            · exact first b hb
          · refine ⟨List.mem_cons_of_mem c inRest, fresh, ?_⟩
            rintro b (_ | ⟨_, hb⟩) same
            · exact absurd same.symm other
            · exact foremost b hb same
        · rintro ⟨_ | ⟨_, inRest⟩, fresh, foremost⟩
          · exact Or.inl rfl
          · refine Or.inr ⟨inRest, ⟨?_, fresh⟩, fun b hb => foremost b (List.mem_cons_of_mem c hb)⟩
            -- the head of the list would have to come after an element of the rest
            intro same
            have later := first a inRest
            have different : c ≠ a := by
              rintro rfl
              exact asymm later later
            exact asymm later (foremost c List.mem_cons_self same.symm different)

theorem mem_keys_firstOfEach_iff {k : String} :
    k ∈ (firstOfEach key seen l).map key ↔ k ∈ l.map key ∧ k ∉ seen := by
  induction l generalizing seen with
  | nil => simp [firstOfEach]
  | cons a l ih =>
      by_cases old : key a ∈ seen
      · rw [firstOfEach_cons_of_mem old, ih, List.map_cons, List.mem_cons]
        constructor
        · exact fun ⟨inRest, fresh⟩ => ⟨Or.inr inRest, fresh⟩
        · rintro ⟨rfl | inRest, fresh⟩
          · exact absurd old fresh
          · exact ⟨inRest, fresh⟩
      · rw [firstOfEach_cons_of_not_mem old, List.map_cons, List.mem_cons, ih, List.map_cons,
          List.mem_cons, List.mem_cons, not_or]
        by_cases same : k = key a
        · simp [same, old]
        · simp [same]

theorem nodup_keys_firstOfEach (key : α → String) (seen : List String) (l : List α) :
    ((firstOfEach key seen l).map key).Nodup := by
  induction l generalizing seen with
  | nil => exact List.nodup_nil
  | cons a l ih =>
      by_cases old : key a ∈ seen
      · rw [firstOfEach_cons_of_mem old]
        exact ih seen
      · rw [firstOfEach_cons_of_not_mem old, List.map_cons, List.nodup_cons]
        exact ⟨fun again => (mem_keys_firstOfEach_iff.mp again).2 List.mem_cons_self, ih _⟩

end FirstOfEach

/-! ## The dropdown -/

/-- The places whose targets are offered, in the order in which they are. -/
def offeredPlaces (targets : List Target) : List (Fin targets.length) :=
  firstOfEach (fun i => targets[i].selector) [] (listing (·.createdAt) targets)

theorem targetChoices_eq (targets : List Target) :
    targetChoices targets = (offeredPlaces targets).map fun i => targets[i].choice := by
  rw [targetChoices, newestFirst_eq_map_listing, firstOfEach_map, List.map_map]
  rfl

theorem offeredPlaces_pairwise (targets : List Target) :
    (offeredPlaces targets).Pairwise (ListedBefore (·.createdAt) targets) :=
  (isListing_listing (·.createdAt) targets).sorted.sublist (firstOfEach_sublist _ _ _)

theorem mem_offeredPlaces_iff {targets : List Target} {i : Fin targets.length} :
    i ∈ offeredPlaces targets ↔ ∀ j, targets[j].selector = targets[i].selector → j ≠ i →
      ListedBefore (·.createdAt) targets i j := by
  have all := isListing_listing (·.createdAt) targets
  rw [offeredPlaces, mem_firstOfEach_iff ListedBefore.asymm all.sorted]
  simp [all.mem]

theorem values_targetChoices (targets : List Target) :
    (targetChoices targets).map (·.value) =
      (firstOfEach (·.selector) [] (newestFirst (·.createdAt) targets)).map (·.selector) := by
  rw [targetChoices, List.map_map]
  rfl

/-- **Each selector is offered once, for the newest of its targets.** The values of the dropdown are
the selectors of the targets, each of them once. Each entry is made from the target that is listed
before all others with its selector, and the entries follow each other in the order in which these
targets are listed. -/
theorem newest_target_of_each_selector_is_offered (targets : List Target) :
    ((targetChoices targets).map (·.value)).Nodup ∧
    (∀ selector, selector ∈ (targetChoices targets).map (·.value) ↔
      ∃ t ∈ targets, t.selector = selector) ∧
    ∃ places : List (Fin targets.length),
      (targetChoices targets = places.map fun i =>
        { value := targets[i].selector
          label := targets[i].name ++ " (" ++ targets[i].kind ++ ")"
          kind := targets[i].kind }) ∧
      (∀ i, i ∈ places ↔ ∀ j, targets[j].selector = targets[i].selector → j ≠ i →
        ListedBefore (·.createdAt) targets i j) ∧
      places.Pairwise (ListedBefore (·.createdAt) targets) := by
  refine ⟨?_, ?_, offeredPlaces targets, targetChoices_eq targets, fun _ => mem_offeredPlaces_iff,
    offeredPlaces_pairwise targets⟩
  · rw [values_targetChoices]
    exact nodup_keys_firstOfEach _ _ _
  · intro selector
    rw [values_targetChoices, mem_keys_firstOfEach_iff, List.mem_map]
    simp [(newestFirst_perm (·.createdAt) targets).mem_iff]

end FaultConsole
