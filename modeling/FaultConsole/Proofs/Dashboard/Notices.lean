import FaultConsole.Proofs.Dashboard.Effects
import Mathlib.Data.List.Induction

/-!
# Which notices are on show

Notices come from everywhere: a load that fails, a form that is not filled in, an operation that
ends. They go in two ways, by the user's hand or by a timer, and both name a notice by its number.
So the list on show rests on three things at once: the counter, the list itself, and the timers
that are still waiting.

This file gathers them in a `Board`, a third view of the dashboard, with one lemma for each
operation. `board_step` says all that an event can do to it: it posts the notice that `raised?`
names, takes one down, or lets time pass.

Against the board stands the memory of a run. `raisings` lists the notices that were raised, each
with its time and with what has happened since. `notices_shown_exactly` says that the board shows
exactly those of them that are neither closed nor over.
-/

namespace FaultConsole

namespace Dashboard

/-! ## The board -/

/-- The notices on show, the number of the next, the time, and the timers that wait. -/
structure Board where
  notices : List (Nat × Notice)
  nextNotice : Nat
  clock : Nat
  timers : List Timer

/-- The board of the dashboard. -/
def board (d : Dashboard) : Board :=
  { notices := d.notices, nextNotice := d.nextNotice, clock := d.clock, timers := d.timers }

namespace Board

/-- The board with one more notice. -/
def post (n : Notice) (b : Board) : Board :=
  { b with
    notices := b.notices ++ [(b.nextNotice, n)]
    nextNotice := b.nextNotice + 1
    timers :=
      if n.dismissesItself then b.timers ++ [⟨b.clock + noticeTime, b.nextNotice⟩] else b.timers }

/-- The board with one more notice, if there is one. -/
def postAny : Option Notice → Board → Board
  | some n, b => b.post n
  | none, b => b

/-- The board without the notice with a number. -/
def takeDown (id : Nat) (b : Board) : Board :=
  { b with notices := b.notices.filter (·.1 != id) }

/-- The board some time later. A notice goes if a timer for it is over. -/
def later (milliseconds : Nat) (b : Board) : Board :=
  let now := b.clock + milliseconds
  { b with
    clock := now
    notices := b.notices.filter fun x => !b.timers.any fun t => t.due ≤ now && t.notice == x.1
    timers := b.timers.filter fun t => !(t.due ≤ now) }

end Board

/-! ### What an event does to it -/

theorem board_notifyAny (n : Option Notice) (d : Dashboard) :
    (notifyAny n d).board = d.board.postAny n := by
  cases n <;> rfl

/-- Taking notices down one after another leaves those that none of the numbers names. -/
theorem board_dismissAll (ts : List Timer) (d : Dashboard) :
    (ts.foldl (fun d t => d.dismiss t.notice) d).board =
      { d.board with notices := d.notices.filter fun x => !ts.any fun t => t.notice == x.1 } := by
  induction ts generalizing d with
  | nil =>
      have all : d.notices.filter (fun x => !([] : List Timer).any fun t => t.notice == x.1) =
          d.notices := List.filter_eq_self.mpr fun _ _ => rfl
      rw [all]
      rfl
  | cons t ts ih =>
      have rest := ih (d.dismiss t.notice)
      rw [List.foldl_cons, rest]
      simp only [board, dismiss, List.filter_filter, List.any_cons, Board.mk.injEq, and_true]
      refine List.filter_congr ?_
      intro x _
      rw [Bool.not_or, Bool.and_comm, bne, BEq.comm]

theorem board_wait (ms : Nat) (d : Dashboard) : (d.wait ms).board = d.board.later ms := by
  simp only [wait, List.partition_eq_filter_filter]
  rw [board_dismissAll]
  simp only [board, Board.later, List.any_filter, Board.mk.injEq, true_and]
  exact ⟨rfl, rfl⟩

theorem board_load (l : Loader) (d : Dashboard) : (d.load l).board = d.board := by
  cases l <;> rfl

theorem board_loadAll (ls : List Loader) (d : Dashboard) : (d.loadAll ls).board = d.board := by
  induction ls generalizing d with
  | nil => rfl
  | cons l ls ih => exact (ih (d.load l)).trans (board_load l d)

theorem board_reload (d : Dashboard) : d.reload.board = d.board := board_loadAll _ _

theorem board_configure (s : Settings) (d : Dashboard) : (d.configure s).board = d.board := by
  simp only [board, configure]

theorem board_apply (o : Outcome) (d : Dashboard) :
    (d.apply o).board = d.board.postAny o.notice := by
  unfold apply
  rw [board_loadAll]
  cases o.detail with
  | none => exact board_notifyAny o.notice d
  | some detail => exact board_notifyAny o.notice d

theorem board_conclude (op : Operation) (o : Outcome) (d : Dashboard) :
    (d.conclude op o).board = d.board.postAny o.notice := by
  rw [conclude, board_apply]
  cases op <;> rfl

/-- The notice of an operation that ends before anything is sent. -/
def refusal? (base : String) (confirmed : Bool) (op : Operation) : Option Notice :=
  match op.start base confirmed with
  | .ok _ => none
  | .error o => o.notice

theorem board_perform (op : Operation) (confirmed : Bool) (d : Dashboard) :
    (d.perform op confirmed).board = d.board.postAny (refusal? d.base confirmed op) := by
  unfold perform refusal?
  cases op.start d.base confirmed with
  | ok call => rfl
  | error o => exact board_conclude op o d

/-- The notice that a list could not be loaded. -/
def loadProblem? (l : Loader) (r : Reply) : Option Notice :=
  match r.list l with
  | .ok _ => none
  | .error p => some (.ofProblem l.context p)

/-- The notice of a task once its reply has come. -/
def said? (r : Reply) : Task → Option Notice
  | .configure => none
  | .load t => loadProblem? t.loader r
  | .refreshChoices => loadProblem? .targets r
  | .finish op => (op.finish r).notice

theorem board_settle (t : Ticket) (r : Reply) (d : Dashboard) :
    (d.settle t r).board = d.board.postAny (loadProblem? t.loader r) := by
  have offered : ((d.offerFrom t.loader r).setPanel t.loader ((d.panel t.loader).settle
      (r.list t.loader) (d.router.isCurrent t) t.loader.context).1).board = d.board := by
    cases t.loader with
    | dashboard => rfl
    | experiments => rfl
    | targets =>
        show (d.offer r).board = d.board
        unfold offer
        cases r.targets <;> rfl
  rw [settle_eq, board_notifyAny, offered, loadProblem?]
  cases r.list t.loader with
  | error p => rfl
  | ok items => cases d.router.isCurrent t <;> rfl

theorem board_receive (r : Reply) (d : Dashboard) (task : Task) :
    (d.receive r task).board = d.board.postAny (said? r task) := by
  cases task with
  | configure =>
      simp only [receive, said?, Board.postAny]
      rw [board_reload, board_configure]
  | load t => exact board_settle t r d
  | refreshChoices =>
      simp only [receive, said?, loadProblem?, Reply.list]
      cases r.targets <;> rfl
  | finish op => exact board_conclude op _ d

/-- The notice that an event raises, if it raises one. -/
def raised? (d : Dashboard) : Event → Option Notice
  | .notify n => some n
  | .submitExperiment => refusal? d.base false (.createExperiment d.experimentModal.form.draft)
  | .submitTarget => refusal? d.base false (.createTarget d.targetModal.form.draft)
  | .clickExperiment event confirmed => refusal? d.base confirmed event.onExperiment
  | .clickTarget event confirmed => event.onTarget?.bind (refusal? d.base confirmed)
  | .deliver i r => (d.pending[i]?).bind fun p => said? r p.task
  | _ => none

/-- The board after an event. -/
def boardAfter (d : Dashboard) : Event → Board
  | .dismiss id => d.board.takeDown id
  | .wait ms => d.board.later ms
  | e => d.board.postAny (d.raised? e)

/-- **What an event does to the board.** -/
theorem board_step (d : Dashboard) (e : Event) : (d.step e).board = d.boardAfter e := by
  cases e with
  | configure s => exact board_configure s d
  | navigate v => exact board_loadAll _ _
  | reload => exact board_reload d
  | load l => exact board_load l d
  | submitExperiment => exact board_perform _ _ _
  | submitTarget => exact board_perform _ _ _
  | clickExperiment event confirmed => exact board_perform _ _ d
  | clickTarget event confirmed =>
      simp only [step, boardAfter, raised?]
      cases event.onTarget? with
      | some op => exact board_perform op confirmed d
      | none => rfl
  | wait ms => exact board_wait ms d
  | deliver i r =>
      simp only [step, deliver, boardAfter, raised?]
      cases d.pending[i]? with
      | some p => exact board_receive r _ p.task
      | none => rfl
  | _ => rfl

end Dashboard

/-! ## The notices that were raised -/

/-- Whether an event closes the notice with a number. -/
def Event.closes (id : Nat) : Event → Bool
  | .dismiss i => i == id
  | _ => false

theorem Event.eq_dismiss_of_closes {id : Nat} {e : Event} (h : e.closes id = true) :
    e = .dismiss id := by
  cases e with
  | dismiss i => rw [eq_of_beq h]
  | _ => exact absurd h (by simp [closes])

/-- A notice that was raised, the time when it was, and what has happened since. -/
structure Raising where
  notice : Notice
  time : Nat
  since : List Event := []

namespace Raising

/-- The raising after one more event. -/
def outlasts (e : Event) (x : Raising) : Raising := { x with since := x.since ++ [e] }

/-- Whether a notice with a number has been closed by hand since it was raised. -/
def closed (id : Nat) (x : Raising) : Bool := x.since.any (·.closes id)

/-- Whether a notice with a number ought to be on show: it has not been closed, and it is an error
or less than five seconds old. -/
def ongoing (now id : Nat) (x : Raising) : Bool :=
  !x.closed id && (x.notice.tone == .error || now < x.time + 5000)

/-- Whether a timer ought to wait for a notice. -/
def timed (now : Nat) (x : Raising) : Bool :=
  x.notice.dismissesItself && now < x.time + noticeTime

theorem ongoing_outlasts (now id : Nat) (e : Event) (x : Raising) :
    (x.outlasts e).ongoing now id = (x.ongoing now id && !e.closes id) := by
  have seen : (x.outlasts e).closed id = (x.closed id || e.closes id) := by
    simp [closed, outlasts]
  show (!(x.outlasts e).closed id && (x.notice.tone == .error || now < x.time + 5000)) = _
  rw [seen, Bool.not_or, ongoing, Bool.and_assoc, Bool.and_comm (!e.closes id), Bool.and_assoc]

/-- Later, a notice is on show if it was and no timer for it has run out. -/
theorem ongoing_later (now ms id : Nat) (x : Raising) :
    x.ongoing (now + ms) id =
      (x.ongoing now id && !(x.timed now && decide (x.time + noticeTime ≤ now + ms))) := by
  unfold ongoing timed Notice.dismissesItself noticeTime
  rw [bne]
  cases x.notice.tone == .error with
  | true => simp
  | false =>
      have time : decide (now + ms < x.time + 5000) =
          (decide (now < x.time + 5000) &&
            !(decide (now < x.time + 5000) && decide (x.time + 5000 ≤ now + ms))) := by
        rw [Bool.eq_iff_iff]
        simp only [Bool.and_eq_true, Bool.not_eq_true', Bool.and_eq_false_iff, decide_eq_true_eq,
          decide_eq_false_iff_not]
        omega
      simp only [Bool.false_or, Bool.not_false, Bool.true_and, Bool.and_assoc]
      rw [time]

end Raising

namespace Dashboard

/-- The notices that were raised in a run, oldest first. -/
def raisings (d : Dashboard) : List Event → List Raising
  | [] => []
  | e :: es =>
    ((d.raised? e).map fun n => { notice := n, time := d.clock, since := es }).toList ++
      (d.step e).raisings es

/-- One more event is the latest that any notice has seen, and may raise one. -/
theorem raisings_concat (d : Dashboard) (es : List Event) (e : Event) :
    d.raisings (es ++ [e]) =
      (d.raisings es).map (·.outlasts e) ++
        (((d.run es).raised? e).map fun n =>
          { notice := n, time := (d.run es).clock, since := [] }).toList := by
  induction es generalizing d with
  | nil => simp [raisings, run]
  | cons e' es ih =>
      have rest := ih (d.step e')
      simp only [List.cons_append, raisings, rest, List.map_append, List.append_assoc]
      congr 1
      cases d.raised? e' <;> rfl

theorem run_concat (d : Dashboard) (es : List Event) (e : Event) :
    d.run (es ++ [e]) = (d.run es).step e :=
  run_append d es [e]

namespace Board

/-- What ties a board to the notices that were raised. A notice has the number of those raised
before it. -/
structure Shows (b : Board) (raised : List Raising) : Prop where
  /-- On show are those that ought to be. -/
  notices : b.notices =
    (raised.zipIdx.filter fun x => x.1.ongoing b.clock x.2).map fun x => (x.2, x.1.notice)
  /-- The next number was not given to any of them. -/
  next : b.nextNotice = raised.length
  /-- A timer waits for each that will go by itself. -/
  timers : b.timers =
    (raised.zipIdx.filter fun x => x.1.timed b.clock).map fun x => ⟨x.1.time + noticeTime, x.2⟩

theorem shows_nil (clock : Nat) : Shows ⟨[], 0, clock, []⟩ [] := ⟨rfl, rfl, rfl⟩

/-- Once something has happened, those on show are those from before that it has not closed. -/
theorem ongoing_map_outlasts (raised : List Raising) (now : Nat) (e : Event) :
    (((raised.map (·.outlasts e)).zipIdx.filter fun x => x.1.ongoing now x.2).map
        fun x => (x.2, x.1.notice)) =
      ((raised.zipIdx.filter fun x => x.1.ongoing now x.2).map
        fun x => (x.2, x.1.notice)).filter fun x => !e.closes x.1 := by
  rw [List.zipIdx_map, List.filter_map, List.map_map, List.filter_map, List.filter_filter]
  congr 1
  refine List.filter_congr ?_
  rintro ⟨x, id⟩ _
  exact (x.ongoing_outlasts now id e).trans (Bool.and_comm _ _)

theorem timed_map_outlasts (raised : List Raising) (now : Nat) (e : Event) :
    (((raised.map (·.outlasts e)).zipIdx.filter fun x => x.1.timed now).map
        fun x => (⟨x.1.time + noticeTime, x.2⟩ : Timer)) =
      (raised.zipIdx.filter fun x => x.1.timed now).map
        fun x => ⟨x.1.time + noticeTime, x.2⟩ := by
  rw [List.zipIdx_map, List.filter_map, List.map_map]
  rfl

variable {b : Board} {raised : List Raising}

/-- Taking a notice down closes it. -/
theorem Shows.takeDown (h : b.Shows raised) (id : Nat) :
    (b.takeDown id).Shows (raised.map (·.outlasts (.dismiss id))) where
  notices := by
    refine Eq.trans ?_ (ongoing_map_outlasts raised b.clock (.dismiss id)).symm
    rw [← h.notices]
    refine List.filter_congr ?_
    intro x _
    rw [Event.closes, bne, BEq.comm]
  next := by rw [List.length_map]; exact h.next
  timers := by rw [timed_map_outlasts]; exact h.timers

/-- What closes no notice leaves those on show that are. -/
theorem Shows.outlasts (h : b.Shows raised) {e : Event} (quiet : ∀ id, e.closes id = false) :
    b.Shows (raised.map (·.outlasts e)) where
  notices := by
    rw [ongoing_map_outlasts, ← h.notices]
    refine (List.filter_eq_self.mpr ?_).symm
    intro x _
    rw [quiet, Bool.not_false]
  next := by rw [List.length_map]; exact h.next
  timers := by rw [timed_map_outlasts]; exact h.timers

/-- A new notice is on show, and has its timer if it goes by itself. -/
theorem Shows.post (h : b.Shows raised) (n : Notice) :
    (b.post n).Shows (raised ++ [{ notice := n, time := b.clock, since := [] }]) where
  notices := by
    have fresh : ∀ id, ({ notice := n, time := b.clock, since := [] } : Raising).ongoing
        b.clock id = true := by
      intro id
      simp [Raising.ongoing, Raising.closed]
    rw [List.zipIdx_append, List.filter_append, List.map_append]
    simp [Board.post, h.notices, h.next, fresh]
  next := by simp [Board.post, h.next]
  timers := by
    have fresh : ({ notice := n, time := b.clock, since := [] } : Raising).timed b.clock =
        n.dismissesItself := by
      simp [Raising.timed, noticeTime]
    rw [List.zipIdx_append, List.filter_append, List.map_append]
    cases hn : n.dismissesItself with
    | true => simp [Board.post, h.timers, h.next, fresh, hn]
    | false => simp [Board.post, h.timers, fresh, hn]

/-- As time passes, a notice goes exactly when its timer runs out. Numbers are not given twice, so
the timer that names it is its own. -/
theorem Shows.later (h : b.Shows raised) (ms : Nat) :
    (b.later ms).Shows (raised.map (·.outlasts (.wait ms))) where
  notices := by
    have kept : (b.later ms).notices =
        (raised.zipIdx.filter fun x => x.1.ongoing (b.clock + ms) x.2).map
          fun x => (x.2, x.1.notice) := by
      simp only [Board.later]
      rw [h.notices, List.filter_map, List.filter_filter]
      congr 1
      refine List.filter_congr ?_
      rintro ⟨x, id⟩ hx
      have expired : (b.timers.any fun t => t.due ≤ b.clock + ms && t.notice == id) =
          (x.timed b.clock && decide (x.time + noticeTime ≤ b.clock + ms)) := by
        rw [h.timers, List.any_map, List.any_filter, Bool.eq_iff_iff]
        simp only [List.any_eq_true, Function.comp_apply, Bool.and_eq_true, decide_eq_true_eq,
          beq_iff_eq]
        constructor
        · rintro ⟨⟨y, id'⟩, hy, timed, expired, rfl⟩
          -- the timer's notice has the same place among those that were raised
          rw [List.mem_zipIdx_iff_getElem?] at hx hy
          have same : y = x := Option.some.inj (hy.symm.trans hx)
          rw [← same]
          exact ⟨timed, expired⟩
        · rintro ⟨timed, expired⟩
          exact ⟨(x, id), hx, timed, expired, rfl⟩
      simp only [Function.comp_apply]
      rw [expired, x.ongoing_later, Bool.and_comm]
    rw [kept]
    refine (Eq.trans (ongoing_map_outlasts raised (b.clock + ms) (.wait ms)) ?_).symm
    exact List.filter_eq_self.mpr fun _ _ => rfl
  next := by rw [List.length_map]; exact h.next
  timers := by
    refine Eq.trans ?_ (timed_map_outlasts raised (b.clock + ms) (.wait ms)).symm
    simp only [Board.later]
    rw [h.timers, List.filter_map, List.filter_filter]
    congr 1
    refine List.filter_congr ?_
    rintro ⟨x, id⟩ _
    simp only [Function.comp_apply, Raising.timed]
    rw [Bool.eq_iff_iff]
    simp only [Bool.and_eq_true, Bool.not_eq_true', decide_eq_true_eq, decide_eq_false_iff_not]
    constructor
    · rintro ⟨ahead, goes, -⟩
      exact ⟨goes, by omega⟩
    · rintro ⟨goes, ahead⟩
      exact ⟨by omega, goes, by omega⟩

/-- **Every event keeps the board tied to the notices that were raised.** -/
theorem shows_step {d : Dashboard} {raised : List Raising} (h : d.board.Shows raised)
    (e : Event) :
    (d.step e).board.Shows (raised.map (·.outlasts e) ++
      ((d.raised? e).map fun n => { notice := n, time := d.clock, since := [] }).toList) := by
  let new := ((d.raised? e).map fun n => ({ notice := n, time := d.clock } : Raising)).toList
  have silent : ∀ b : Board, d.raised? e = none → b.Shows (raised.map (·.outlasts e)) →
      b.Shows (raised.map (·.outlasts e) ++ new) := by
    intro b none shown
    simp only [new, none, Option.map_none, Option.toList_none, List.append_nil]
    exact shown
  have posted : (∀ id, e.closes id = false) →
      (d.board.postAny (d.raised? e)).Shows (raised.map (·.outlasts e) ++ new) := by
    intro quiet
    have outlasted := h.outlasts quiet
    cases hn : d.raised? e with
    | none => exact silent _ hn outlasted
    | some n =>
        simp only [new, hn]
        exact outlasted.post n
  rw [board_step]
  cases e with
  | dismiss id => exact silent _ rfl (h.takeDown id)
  | wait ms => exact silent _ rfl (h.later ms)
  | _ => exact posted fun _ => rfl

/-- **After every run the board shows what was raised in it.** -/
theorem shows_run (s : Settings) (es : List Event) :
    ((new s).run es).board.Shows ((new s).raisings es) := by
  induction es using List.reverseRecOn with
  | nil => exact shows_nil 0
  | append_singleton es e ih =>
      rw [run_concat, raisings_concat]
      exact shows_step ih e

/-! ### What the board tells of a notice -/

theorem Shows.mem_notices_iff (h : b.Shows raised) {id : Nat} {n : Notice} :
    (id, n) ∈ b.notices ↔
      ∃ x, raised[id]? = some x ∧ x.ongoing b.clock id = true ∧ x.notice = n := by
  rw [h.notices]
  simp only [List.mem_map, List.mem_filter, List.mem_zipIdx_iff_getElem?, Prod.mk.injEq]
  constructor
  · rintro ⟨⟨x, id'⟩, ⟨place, ongoing⟩, rfl, rfl⟩
    exact ⟨x, place, ongoing, rfl⟩
  · rintro ⟨x, place, ongoing, rfl⟩
    exact ⟨(x, id), ⟨place, ongoing⟩, rfl, rfl⟩

/-- Numbers are shown in the order in which they were given. -/
theorem Shows.numbers_pairwise (h : b.Shows raised) :
    (b.notices.map (·.1)).Pairwise (· < ·) := by
  have numbers : (raised.zipIdx.map (·.2)).Pairwise (· < ·) := by
    rw [List.zipIdx_map_snd]
    exact List.pairwise_lt_range'
  rw [h.notices, List.map_map]
  exact numbers.sublist (List.filter_sublist.map _)

theorem Shows.number_lt (h : b.Shows raised) {x : Nat × Notice} (hx : x ∈ b.notices) :
    x.1 < b.nextNotice := by
  obtain ⟨_, place, -⟩ := h.mem_notices_iff.mp hx
  rw [h.next]
  exact (List.getElem?_eq_some_iff.mp place).1

end Board

/-- Closing a notice that is not on show does nothing. -/
theorem step_dismiss_of_not_mem {d : Dashboard} {id : Nat} (h : ∀ n, (id, n) ∉ d.notices) :
    d.step (.dismiss id) = d := by
  have kept : d.notices.filter (·.1 != id) = d.notices := by
    refine List.filter_eq_self.mpr ?_
    rintro ⟨id', n⟩ hx
    rw [bne_iff_ne]
    rintro rfl
    exact h n hx
  rw [step, dismiss, kept]

/-- Timers for notices that are not on show do nothing. -/
theorem notices_step_wait_of_not_mem {d : Dashboard} {ms : Nat}
    (h : ∀ t ∈ d.timers, t.due ≤ d.clock + ms → ∀ n, (t.notice, n) ∉ d.notices) :
    (d.step (.wait ms)).notices = d.notices := by
  refine (congrArg Board.notices (board_step d (.wait ms))).trans ?_
  refine List.filter_eq_self.mpr ?_
  rintro ⟨id, n⟩ hx
  rw [Bool.not_eq_true', List.any_eq_false]
  intro t ht due
  simp only [Bool.and_eq_true, decide_eq_true_eq, beq_iff_eq] at due
  obtain ⟨due, rfl⟩ := due
  exact h t ht due n hx

/-- An error stays until it is closed by hand. -/
theorem Board.Shows.eq_dismiss_of_error {d : Dashboard} {raised : List Raising}
    (h : d.board.Shows raised) {e : Event} {id : Nat} {n : Notice} (shown : (id, n) ∈ d.notices)
    (error : n.tone = .error) (gone : (id, n) ∉ (d.step e).notices) : e = .dismiss id := by
  refine Event.eq_dismiss_of_closes ?_
  by_contra open_
  obtain ⟨x, place, ongoing, rfl⟩ := h.mem_notices_iff.mp shown
  have notClosed : x.closed id = false := by
    rw [Raising.ongoing, Bool.and_eq_true, Bool.not_eq_true'] at ongoing
    exact ongoing.1
  refine gone ((Board.shows_step h e).mem_notices_iff.mpr ⟨x.outlasts e, ?_, ?_, rfl⟩)
  · have inside : id < (raised.map (·.outlasts e)).length := by
      rw [List.length_map]
      exact (List.getElem?_eq_some_iff.mp place).1
    rw [List.getElem?_append_left inside, List.getElem?_map, place]
    rfl
  · rw [Raising.ongoing_outlasts, Raising.ongoing, notClosed, error]
    simpa using open_

end Dashboard

/-- **The notices on show are those that were raised, except the closed ones and the old ones.**

They stand in the order in which they were raised, each with the number of those raised before it.
An old one is five seconds old and no error. -/
theorem notices_shown_exactly (s : Settings) (es : List Event) :
    let d := (Dashboard.new s).run es
    let raised := (Dashboard.new s).raisings es
    d.notices =
      (raised.zipIdx.filter fun x => x.1.ongoing d.clock x.2).map (fun x => (x.2, x.1.notice)) ∧
    -- no number is given twice
    d.nextNotice = raised.length ∧
    (d.notices.map (·.1)).Pairwise (· < ·) ∧
    (∀ x ∈ d.notices, x.1 < d.nextNotice) ∧
    -- neither the user nor a timer can take down what is not on show
    (∀ id, (∀ n, (id, n) ∉ d.notices) → d.step (.dismiss id) = d) ∧
    (∀ ms, (∀ t ∈ d.timers, t.due ≤ d.clock + ms → ∀ n, (t.notice, n) ∉ d.notices) →
      (d.step (.wait ms)).notices = d.notices) ∧
    -- an error goes only by the user's hand
    (∀ e id n, (id, n) ∈ d.notices → n.tone = .error → (id, n) ∉ (d.step e).notices →
      e = .dismiss id) := by
  intro d raised
  have shows : d.board.Shows raised := Dashboard.Board.shows_run s es
  refine ⟨shows.notices, shows.next, shows.numbers_pairwise, ?_, ?_, ?_, ?_⟩
  · intro x
    exact shows.number_lt
  · intro id
    exact Dashboard.step_dismiss_of_not_mem
  · intro ms
    exact Dashboard.notices_step_wait_of_not_mem
  · intro e id n
    exact shows.eq_dismiss_of_error

end FaultConsole
