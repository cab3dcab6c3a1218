import FaultConsole.Proofs.Form.Drafts
import FaultConsole.Proofs.Listing.Choices

/-!
# Choosing a target that is listed

A selector goes a long way from one form to the other. It is trimmed when its target is created,
comes back in a list, is offered in the dropdown, and is trimmed again when an experiment is made
for it. A service that finds targets by their selectors needs it to arrive as it was listed.

It does, since nothing is left to trim the second time (`nonBlank?_of_nonBlank?`). And the dropdown
does not leave open which target is meant where several have the selector: it is the newest, whose
name the entry shows (`mem_targetChoices_iff`).
-/

namespace FaultConsole

open Text (isBlankText trim)

/-! ## Selectors -/

/-- What is left of a text when it is trimmed is accepted as it is. -/
theorem nonBlank?_of_nonBlank? {s t : String} (h : nonBlank? s = some t) :
    nonBlank? t = some t := by
  obtain ⟨notBlank, rfl⟩ := nonBlank?_eq_some_iff.mp h
  refine nonBlank?_eq_some_iff.mpr ⟨?_, (Text.trim_trim s).symm⟩
  rw [← Text.isEmpty_trim, Text.trim_trim, Text.isEmpty_trim]
  exact notBlank

/-- A selector that a target is created with: some form makes a draft that has it. -/
def IsSelector (selector : String) : Prop :=
  ∃ (f : TargetForm) (d : TargetDraft), f.draft = .ok d ∧ d.selector = selector

theorem nonBlank?_of_isSelector {selector : String} (h : IsSelector selector) :
    nonBlank? selector = some selector := by
  obtain ⟨f, d, made, rfl⟩ := h
  unfold TargetForm.draft at made
  split at made
  · rename_i hasSelector
    cases made
    exact nonBlank?_of_nonBlank? hasSelector
  · cases made

/-! ## The form -/

namespace ExperimentForm

/-- The form with another target. -/
def choose (target : String) (f : ExperimentForm) : ExperimentForm := { f with target }

/-- Everything but the target is in order. -/
structure IsReadyForTarget (f : ExperimentForm) : Prop where
  name : isBlankText f.name = false
  kind : isBlankText f.kind = false
  duration : ∃ n, SaysSeconds f.duration n
  inRange : f.IsInRange

/-- Then any target will do that is not blank, and one that is trimmed already is kept as it is. -/
theorem exists_draft_choose {f : ExperimentForm} (h : f.IsReadyForTarget) {target : String}
    (hasTarget : nonBlank? target = some target) :
    ∃ d, (f.choose target).draft = .ok d ∧ d.target = target := by
  obtain ⟨notBlank, trimmed⟩ := nonBlank?_eq_some_iff.mp hasTarget
  have filled : (f.choose target).IsFilledIn := ⟨h.name, h.kind, notBlank, h.duration⟩
  obtain ⟨d, made, asked⟩ := exists_draft filled h.inRange
  exact ⟨d, made, asked.target.trans trimmed.symm⟩

end ExperimentForm

/-! ## The entry -/

/-- The entries of the dropdown are those of the targets that are the newest with their selector. -/
theorem mem_targetChoices_iff {targets : List Target} {c : Choice} :
    c ∈ targetChoices targets ↔ ∃ i, (targets.get i).choice = c ∧
      ∀ j, (targets.get j).selector = (targets.get i).selector → j ≠ i →
        ListedBefore (·.createdAt) targets i j := by
  rw [targetChoices_eq, List.mem_map]
  refine exists_congr fun i => ?_
  rw [mem_offeredPlaces_iff, and_comm]
  rfl

/-- **An experiment for a target of the dropdown is for a target that is listed.** Where the targets
have selectors that targets are created with, and everything else in a form is in order, every entry
of the dropdown can be chosen, and the draft is for the value of that entry, to the letter. This is
the selector of a target in the list, and the newest with it is the one that the entry names. -/
theorem chosen_target_is_listed (targets : List Target)
    (selectors : ∀ t ∈ targets, IsSelector t.selector) (f : ExperimentForm)
    (ready : f.IsReadyForTarget) (c : Choice) (offered : c ∈ targetChoices targets) :
    (∃ d, (f.choose c.value).draft = .ok d ∧ d.target = c.value) ∧
    ∃ i, (targets.get i).selector = c.value ∧
      c.label = (targets.get i).name ++ " (" ++ (targets.get i).kind ++ ")" ∧
      c.kind = (targets.get i).kind ∧
      ∀ j, (targets.get j).selector = c.value → j ≠ i →
        ListedBefore (·.createdAt) targets i j := by
  obtain ⟨i, rfl, newest⟩ := mem_targetChoices_iff.mp offered
  have hasTarget := nonBlank?_of_isSelector (selectors (targets.get i) (targets.get_mem i))
  exact ⟨ExperimentForm.exists_draft_choose ready hasTarget, i, rfl, rfl, rfl, newest⟩

/-- A target of a second, with a selector. -/
def targetAt (name : String) (second : Int) (selector : String) : Target :=
  { id := name, name, description := "", kind := "pod", scope := "default", selector,
    createdAt := ⟨second, 0⟩, updatedAt := none }

/-- Targets two of which share a selector, with a blank in the middle. -/
def sharedSelector : List Target :=
  [targetAt "old" 1 "app=\u3000web", targetAt "new" 2 "app=\u3000web", targetAt "db" 3 "app=db"]

/-- The place of the newer of them. -/
def newerPlace : Fin sharedSelector.length := (1 : Fin 3)

/-- What was typed for it had blanks around it, too. -/
theorem isSelector_shared : IsSelector "app=\u3000web" :=
  ⟨{ name := "new", selector := "\u3000app=\u3000web\n" }, _, rfl, by decide⟩

/-- A form that lacks its target only. -/
def formWithoutTarget : ExperimentForm := { name := "outage" }

/-- The selector is chosen for the newer of its targets, and keeps the blank in its middle. -/
theorem shared_selector_is_kept :
    (∀ t ∈ sharedSelector, IsSelector t.selector) ∧ formWithoutTarget.IsReadyForTarget ∧
      ∃ c ∈ targetChoices sharedSelector, c.label = "new (pod)" ∧
        ∃ d, (formWithoutTarget.choose c.value).draft = .ok d ∧ d.target = "app=\u3000web" := by
  have selectors : ∀ t ∈ sharedSelector, IsSelector t.selector := by
    intro t ht
    simp only [sharedSelector, List.mem_cons, List.not_mem_nil, or_false] at ht
    rcases ht with rfl | rfl | rfl
    · exact isSelector_shared
    · exact isSelector_shared
    · exact ⟨{ name := "db", selector := "app=db" }, _, rfl, by decide⟩
  have minute : duration? formWithoutTarget.duration = some 60 := by decide
  have ready : formWithoutTarget.IsReadyForTarget :=
    ⟨by decide, by decide, ⟨60, duration?_eq_some_iff.mp minute⟩, Or.inl (by decide)⟩
  have offered : ⟨"app=\u3000web", "new (pod)", "pod"⟩ ∈ targetChoices sharedSelector :=
    mem_targetChoices_iff.mpr ⟨newerPlace, rfl, by decide⟩
  obtain ⟨chosen, -⟩ :=
    chosen_target_is_listed sharedSelector selectors formWithoutTarget ready _ offered
  exact ⟨selectors, ready, _, offered, rfl, chosen⟩

end FaultConsole
