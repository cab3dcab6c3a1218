import FaultConsole.Proofs.Dashboard.Effects
import Mathlib.Algebra.Ring.Nat
import Mathlib.Data.List.Induction

/-!
# How long a ticket counts

A ticket holds a number, and the router compares numbers. What a number stands for is in `after_eq`:
it counts the navigations, be they to another view or to the one that is active. So two numbers are
equal exactly if no navigation lies between them, and a ticket that a navigation overtook stays
overtaken, even by a way back to its own view. A ticket for a hidden view never counts at all: only a
navigation could make its view the active one.

The numbers here grow without end. In a word of 64 bits they come round, and `wordAfter_append_eq_iff`
says when that would be noticed: words are as good as numbers unless 2 ^ 64 navigations, or a multiple
of that, have overtaken a ticket.
-/

namespace FaultConsole

namespace Router

/-! ## Navigations -/

/-- A navigation: to a view that it names, or to the one that is active. -/
inductive Move where
  | navigate (view : View)
  | reload

/-- A router after a navigation. -/
def Move.apply (r : Router) : Move → Router
  | .navigate view => r.navigate view
  | .reload => r.reload

/-- The view that a navigation names. -/
def Move.view? : Move → Option View
  | .navigate view => some view
  | .reload => none

/-- A new router after some navigations. -/
def after (moves : List Move) : Router := moves.foldl Move.apply {}

theorem after_append (moves : List Move) (m : Move) :
    after (moves ++ [m]) = m.apply (after moves) := by
  rw [after, List.foldl_append]
  rfl

/-- What a navigation makes of a router. -/
theorem Move.apply_eq (r : Router) (m : Move) :
    m.apply r = { active := m.view?.getD r.active, generation := r.generation + 1 } := by
  cases m <;> rfl

/-- **What a router remembers** of the navigations so far: the last view that one of them named, and
how many there were. -/
theorem after_eq (moves : List Move) :
    after moves =
      { active := (moves.filterMap Move.view?).getLast?.getD .dashboard
        generation := moves.length } := by
  induction moves using List.reverseRecOn with
  | nil => rfl
  | append_singleton moves m ih =>
      rw [after_append, Move.apply_eq, ih]
      cases named : m.view? <;> simp [named]

theorem generation_after (moves : List Move) : (after moves).generation = moves.length := by
  rw [after_eq]

/-! ## Tickets -/

/-- A ticket that is taken now counts if it is for the active view. -/
theorem isCurrent_ticket (r : Router) (l : Loader) :
    r.isCurrent (r.ticket l) = true ↔ l.view = r.active := by
  simp [isCurrent, ticket]

/-- A ticket counts as long as there is no navigation, if it is for the active view. -/
theorem isCurrent_ticket_iff {before since : List Move} {l : Loader} :
    (after (before ++ since)).isCurrent ((after before).ticket l) = true ↔
      since = [] ∧ l.view = (after (before ++ since)).active := by
  have level : (after before).generation = (after (before ++ since)).generation ↔ since = [] := by
    rw [generation_after, generation_after, List.length_append]
    simp
  rw [isCurrent, Bool.and_eq_true, beq_iff_eq, beq_iff_eq]
  exact and_congr_left' level

/-- What does not count will not count later. -/
theorem isCurrent_ticket_later {before since : List Move} {l : Loader}
    (h : (after (before ++ since)).isCurrent ((after before).ticket l) = false)
    (later : List Move) :
    (after (before ++ since ++ later)).isCurrent ((after before).ticket l) = false := by
  rw [Bool.eq_false_iff] at h ⊢
  rw [List.append_assoc]
  intro counts
  obtain ⟨quiet, -⟩ := isCurrent_ticket_iff.mp counts
  -- then nothing at all has happened since the ticket was taken
  obtain ⟨rfl, rfl⟩ := List.append_eq_nil_iff.mp quiet
  exact h counts

/-- A reload overtakes every ticket. -/
theorem isCurrent_ticket_reload (before since : List Move) (l : Loader) :
    (after (before ++ since)).reload.isCurrent ((after before).ticket l) = false := by
  have reloaded : (after (before ++ since)).reload = after (before ++ (since ++ [.reload])) := by
    rw [← List.append_assoc, after_append]
    rfl
  rw [reloaded, Bool.eq_false_iff]
  intro counts
  obtain ⟨quiet, -⟩ := isCurrent_ticket_iff.mp counts
  simp at quiet

/-- A view loads nothing that is shown elsewhere. -/
theorem view_of_mem_loaders {v : View} {l : Loader} (h : l ∈ v.plan.loaders) : l.view = v := by
  cases v with
  | results => exact absurd h List.not_mem_nil
  | settings => exact absurd h List.not_mem_nil
  | _ =>
      rw [List.mem_singleton.mp h]
      rfl

/-! ## Numbers in a word -/

/-- What a word of 64 bits holds after some navigations, if each of them adds one to it. -/
def wordAfter (moves : List Move) : UInt64 := moves.foldl (fun word _ => word + 1) 0

/-- Whether a ticket still counts, if words are compared. The ticket was taken after some navigations,
and others have happened since. -/
def countsByWord (before since : List Move) (l : Loader) : Bool :=
  wordAfter before == wordAfter (before ++ since) && l.view == (after (before ++ since)).active

theorem wordAfter_append (moves : List Move) (m : Move) :
    wordAfter (moves ++ [m]) = wordAfter moves + 1 := by
  rw [wordAfter, List.foldl_append]
  rfl

/-- The word is what is left of the number where 64 bits are kept. -/
theorem toNat_wordAfter (moves : List Move) :
    (wordAfter moves).toNat = (after moves).generation % 2 ^ 64 := by
  rw [generation_after]
  induction moves using List.reverseRecOn with
  | nil => rfl
  | append_singleton moves m ih =>
      rw [wordAfter_append, UInt64.toNat_add, ih, List.length_append, List.length_singleton,
        UInt64.toNat_one]
      omega

/-- **A word comes round** after 2 ^ 64 navigations, and not before. -/
theorem wordAfter_append_eq_iff (before since : List Move) :
    wordAfter before = wordAfter (before ++ since) ↔ 2 ^ 64 ∣ since.length := by
  rw [← UInt64.toNat_inj, toNat_wordAfter, toNat_wordAfter, generation_after, generation_after,
    List.length_append]
  omega

/-- Short of that, words tell what numbers tell. -/
theorem countsByWord_eq {before since : List Move} (few : since.length < 2 ^ 64) (l : Loader) :
    countsByWord before since l =
      (after (before ++ since)).isCurrent ((after before).ticket l) := by
  have round : 2 ^ 64 ∣ since.length ↔ since = [] := by
    rw [← List.length_eq_zero_iff]
    omega
  rw [Bool.eq_iff_iff, isCurrent_ticket_iff, countsByWord, Bool.and_eq_true, beq_iff_eq, beq_iff_eq,
    wordAfter_append_eq_iff, round]

end Router

open Router

/-- **A ticket counts until the next navigation.** Take a ticket for any loader after any navigations,
and let others happen since. It counts if and only if there were none, and its loader's view is the
active one. Once it does not count, it never will again, whatever happens later; and a reload is the
end of it in any case. Words of 64 bits tell no less than numbers, while fewer than 2 ^ 64 navigations
have happened since.

A reload keeps the active view, and what entering it loads. Tickets for these loads that are taken
after the reload count, and the dashboard takes just those and starts the loads with them. -/
theorem ticket_counts_until_next_navigation :
    (∀ (before since : List Move) (l : Loader),
      let t := (after before).ticket l
      let r := after (before ++ since)
      (r.isCurrent t = true ↔ since = [] ∧ l.view = r.active) ∧
      (r.isCurrent t = false → ∀ later, (after (before ++ since ++ later)).isCurrent t = false) ∧
      r.reload.isCurrent t = false ∧
      (since.length < 2 ^ 64 → countsByWord before since l = r.isCurrent t)) ∧
    (∀ r : Router,
      r.reload.active = r.active ∧ r.reload.active.plan = r.active.plan ∧
      ∀ l ∈ r.active.plan.loaders, r.reload.isCurrent (r.reload.ticket l) = true) ∧
    ∀ d : Dashboard,
      d.reload.router = d.router.reload ∧
      d.reload.pending = d.pending ++
        d.router.active.plan.loaders.map (Dashboard.loadRequest d.base d.router.reload) := by
  refine ⟨fun before since l => ?_, fun r => ?_, fun d => ?_⟩
  · exact ⟨isCurrent_ticket_iff, isCurrent_ticket_later, isCurrent_ticket_reload before since l,
      fun few => countsByWord_eq few l⟩
  · refine ⟨rfl, rfl, fun l planned => ?_⟩
    exact (isCurrent_ticket r.reload l).mpr (view_of_mem_loaders planned)
  · exact ⟨congrArg Dashboard.Holdings.router (Dashboard.holdings_reload d),
      congrArg Dashboard.Outbox.pending (Dashboard.outbox_reload d)⟩

/-- Away from the page of targets, and back to it. -/
def roundTrip : List Move := [.navigate .settings, .navigate .targets]

/-- The way back to a view does not bring back the tickets that were taken there before. -/
theorem round_trip_overtakes_ticket :
    let t := (after [.navigate .targets]).ticket .targets
    let back := after ([.navigate .targets] ++ roundTrip)
    (after [.navigate .targets]).isCurrent t = true ∧
      back.active = Loader.targets.view ∧ back.isCurrent t = false ∧
      (∀ later, (after ([.navigate .targets] ++ roundTrip ++ later)).isCurrent t = false) ∧
      roundTrip.length < 2 ^ 64 ∧ countsByWord [.navigate .targets] roundTrip .targets = false ∧
      Loader.targets ∈ back.active.plan.loaders ∧
      back.reload.isCurrent (back.reload.ticket .targets) = true := by
  obtain ⟨tickets, reloads, -⟩ := ticket_counts_until_next_navigation
  obtain ⟨atOnce, -⟩ := tickets [.navigate .targets] [] .targets
  obtain ⟨onReturn, never, -, words⟩ := tickets [.navigate .targets] roundTrip .targets
  have overtaken := Bool.eq_false_iff.mpr fun counts => List.cons_ne_nil _ _ (onReturn.mp counts).1
  have few : roundTrip.length < 2 ^ 64 := by decide
  have planned : Loader.targets ∈
      (after ([.navigate .targets] ++ roundTrip)).active.plan.loaders := by decide
  exact ⟨atOnce.mpr ⟨rfl, rfl⟩, rfl, overtaken, never overtaken, few, (words few).trans overtaken,
    planned, (reloads _).2.2 _ planned⟩

end FaultConsole
