import FaultConsole.Proofs.Dashboard.Waiting
import FaultConsole.Proofs.Outcome.Endings
import Mathlib.Algebra.Ring.Nat

/-!
# When nothing is out

A panel that says that it is loading, although nothing will come any more, says so for ever: only a
reply to a load takes the mark away. So whoever sets the mark owes a reply, and every reply must
take it away, whatever it says.

`marked_record` has both halves: a marked panel has a load out. What is left to see is that replies
come to an end, since a reply may send new requests. It never sends more than a few, and these are
loads, which send none: `Task.work` counts how many replies a request can still lead to, and
`work_answer_lt` says that every reply that arrives leaves less of it.

`spinner_has_load` says what follows: a spinner that turns is waiting for something, and when
nothing is out, all of them have stopped.
-/

namespace FaultConsole

/-! ## What is still to be answered -/

/-- The most replies that a request can come to: its own, and those to the loads that are started
when it has arrived. -/
def Task.work : Task → Nat
  | .load _ | .refreshChoices => 1
  | .configure => 2
  | .finish _ => 3

theorem Task.work_pos (task : Task) : 0 < task.work := by
  cases task <;> simp [work]

/-- A view loads one list at most. -/
theorem View.length_loaders_le (v : View) : v.plan.loaders.length ≤ 1 := by
  cases v <;> simp [plan, LoadPlan.loaders]

/-- An operation has two lists loaded again at most. -/
theorem Operation.length_reload_finish_le (op : Operation) (r : Reply) :
    (op.finish r).reload.length ≤ 2 := by
  rcases reload_finish r op with none | own
  · rw [none]
    exact Nat.zero_le 2
  · rw [own]
    cases op <;> simp [owners]

namespace Dashboard

/-- The replies that requests can come to. -/
def workOf (ps : List Pending) : Nat := (ps.map (·.task.work)).sum

/-- The replies that can still come. -/
def work (d : Dashboard) : Nat := workOf d.pending

theorem workOf_append (ps qs : List Pending) : workOf (ps ++ qs) = workOf ps + workOf qs := by
  simp [workOf]

theorem length_le_workOf (ps : List Pending) : ps.length ≤ workOf ps := by
  induction ps with
  | nil => exact Nat.le_refl 0
  | cons p ps ih =>
      have one := p.task.work_pos
      simp only [workOf, List.map_cons, List.sum_cons, List.length_cons] at ih ⊢
      omega

theorem workOf_loads (base : String) (router : Router) (ls : List Loader) :
    workOf (ls.map (loadRequest base router)) = ls.length := by
  induction ls with
  | nil => rfl
  | cons l ls ih =>
      simp only [workOf, List.map_cons, List.sum_cons, List.length_cons] at ih ⊢
      rw [ih]
      exact Nat.add_comm 1 _

/-- What a task sends when it has its reply is less than what it was itself. -/
theorem workOf_answered_lt (r : Reply) (d : Dashboard) (task : Task) :
    workOf (d.answered r task) < task.work := by
  cases task with
  | configure =>
      have few := d.router.active.length_loaders_le
      rw [answered, workOf_loads, Task.work]
      omega
  | load t => exact Nat.zero_lt_one
  | refreshChoices => exact Nat.zero_lt_one
  | finish op =>
      have few := op.length_reload_finish_le r
      rw [answered, workOf_loads, Task.work]
      omega

/-- The request at a position is part of what there is to do. -/
theorem workOf_eraseIdx {ps : List Pending} {i : Nat} {p : Pending} (h : ps[i]? = some p) :
    workOf (ps.eraseIdx i) + p.task.work = workOf ps := by
  induction ps generalizing i with
  | nil => exact absurd h (by simp)
  | cons q ps ih =>
      cases i with
      | zero =>
          cases h
          simp only [List.eraseIdx_cons_zero, workOf, List.map_cons, List.sum_cons]
          exact Nat.add_comm _ _
      | succ i =>
          have rest := ih (i := i) h
          simp only [List.eraseIdx_cons_succ, workOf, List.map_cons, List.sum_cons] at rest ⊢
          omega

/-- An event is a reply to a request that is out. -/
def Answers (d : Dashboard) (e : Event) : Prop :=
  ∃ i r, e = .deliver i r ∧ i < d.pending.length

/-- **Every reply leaves less to be answered.** -/
theorem work_answer_lt {d : Dashboard} {e : Event} (h : d.Answers e) :
    (d.step e).work < d.work := by
  obtain ⟨i, r, rfl, hi⟩ := h
  have hp : d.pending[i]? = some d.pending[i] := List.getElem?_eq_getElem hi
  have answered := workOf_answered_lt r d d.pending[i].task
  have whole := workOf_eraseIdx hp
  rw [work, work, pending_step, workOf_append, remaining, launched]
  simp only [hp]
  omega

/-- Events that all are replies to requests that are out when they arrive. -/
def AllAnswer (d : Dashboard) : List Event → Prop
  | [] => True
  | e :: es => d.Answers e ∧ (d.step e).AllAnswer es

/-- Replies come to an end: after each of them, those that came and those that are still out are
no more than could come at first. -/
theorem length_add_pending_le {d : Dashboard} {es : List Event} (h : d.AllAnswer es) :
    es.length + (d.run es).pending.length ≤ d.work := by
  induction es generalizing d with
  | nil =>
      have out := length_le_workOf d.pending
      rw [List.length_nil, Nat.zero_add]
      exact out
  | cons e es ih =>
      have less := work_answer_lt h.1
      have rest := ih h.2
      rw [List.length_cons]
      show es.length + 1 + ((d.step e).run es).pending.length ≤ d.work
      omega

/-- A panel that is marked has a load out. -/
theorem exists_load_of_loading {s : Settings} {es : List Event} {l : Loader}
    (h : (((new s).run es).panel l).loading = true) :
    ∃ p ∈ ((new s).run es).pending, p.task.loader? = some l := by
  have record : (Chronicle.record s es).now = (new s).run es := Chronicle.now_run _ es
  rw [← record] at h
  obtain ⟨f, hf, loads, -⟩ := (Chronicle.marked_record s es l).mp h
  refine ⟨f.request, ?_, f.loader?_eq.symm.trans loads⟩
  rw [← record, ← (Chronicle.sound_record s es).requests]
  exact List.mem_map_of_mem hf

end Dashboard

open Dashboard in
/-- **A spinner turns only while a load of its panel is out.**

The run may be any, with any replies. So when nothing is out no panel is loading, and that is where
every run gets to if the replies arrive that are still out and nothing else happens: there are only
so many of them. -/
theorem spinner_has_load (s : Settings) (es : List Event) :
    let d := (Dashboard.new s).run es
    (∀ l, (d.panel l).loading = true → ∃ p ∈ d.pending, p.task.loader? = some l) ∧
    (d.pending = [] → ∀ l, (d.panel l).loading = false) ∧
    ∀ answers, d.AllAnswer answers →
      answers.length + (d.run answers).pending.length ≤ d.work ∧
      ((d.run answers).pending = [] → ∀ l, ((d.run answers).panel l).loading = false) := by
  have quiet : ∀ es', ((Dashboard.new s).run es').pending = [] →
      ∀ l, (((Dashboard.new s).run es').panel l).loading = false := by
    intro es' none l
    rw [Bool.eq_false_iff]
    intro loading
    obtain ⟨p, hp, -⟩ := exists_load_of_loading loading
    rw [none] at hp
    exact absurd hp List.not_mem_nil
  refine ⟨fun l => exists_load_of_loading, quiet es, fun answers arrive => ?_⟩
  refine ⟨length_add_pending_le arrive, ?_⟩
  rw [← run_append]
  exact quiet (es ++ answers)

end FaultConsole
