import FaultConsole.Proofs.Outcome.Problems
import FaultConsole.Proofs.Terminal.Invocations
import Mathlib.Data.List.TakeWhile

/-!
# The courses of a command

A script looks at a command's exit status and at its output, and wants to know what the service was
asked to do. For this a command has few courses to take. It may have nothing that it could send, or be
called off by the user; otherwise it sends one request, and fails on the reply or does not.

* `Command.Unsendable`, `Command.Declined` and `Command.FailsOn` say when each of these is so, without
  the dialogue of the command, and `Course` what is left of the dialogue then.
* `course_dialogue` says that a command takes one of these courses. All that is printed after a request
  is printed at the end of the last course, so a failure prints the question at most.
* The log shares the output with what is printed. What it has to say about a failure are complaints
  (`Complains`), and they are all that stands behind the question then.
* A root is accepted for its scheme alone, so there may be no address in it to send a request to
  (`Command.LacksAddress`). Then the request is made and refused before it goes out.
* `command_sends_once_and_fails_by_complaint` adds the settings, which come before all of this.
-/

namespace FaultConsole

/-! ## Replies without a value -/

/-- The reply does not hold the value that is looked for, because of a problem. -/
inductive Reply.Lacks {α : Type} (reader : Json.Reader α) (r : Reply) : Problem → Prop where
  /-- There was no response. -/
  | rejected {reason : String} (failed : r = .failure reason) : Lacks reader r (.network reason)
  /-- The status is no success. -/
  | refused {response : Response} (answered : r = .response response)
    (status : ¬ (200 ≤ response.status ∧ response.status < 300)) :
    Lacks reader r (.http response.status response.statusText)
  /-- The body cannot be read. -/
  | unreadable {response : Response} {p : Problem} (answered : r = .response response)
    (status : 200 ≤ response.status ∧ response.status < 300)
    (unread : readBody reader response.body = .error p) : Lacks reader r p

theorem Reply.value_eq_error_iff {α : Type} {reader : Json.Reader α} {r : Reply} {p : Problem} :
    r.value reader = .error p ↔ r.Lacks reader p := by
  constructor
  · intro h
    cases r with
    | failure reason => cases h; exact .rejected rfl
    | response response =>
        by_cases status : 200 ≤ response.status ∧ response.status < 300
        · rw [value_of_accept (accept_of_success status)] at h
          exact .unreadable rfl status h
        · rw [value, accept_of_no_success status] at h
          cases h
          exact .refused rfl status
  · rintro (failed | ⟨answered, status⟩ | ⟨answered, status, unread⟩)
    · subst failed
      rfl
    · subst answered
      rw [value, accept_of_no_success status]
      rfl
    · subst answered
      rw [value_of_accept (accept_of_success status), unread]

/-! ## What is logged about failures -/

/-- Entries of the log that are warnings and errors. -/
def Log.Complains (entries : List Log.Entry) : Prop := ∀ e ∈ entries, e.level ≠ .info

namespace Log

theorem Complains.append {entries more : List Entry} (h : Complains entries) (h' : Complains more) :
    Complains (entries ++ more) :=
  List.forall_mem_append.mpr ⟨h, h'⟩

theorem complains_warning (message : String) (values : List (String × String)) :
    Complains [⟨.warn, message, values⟩] := by
  simp [Complains]

theorem complains_ofProblem (context : String) (p : Problem) :
    Complains [.ofProblem context p] := by
  rw [Complains, List.forall_mem_singleton, Entry.ofProblem]
  split <;> simp

/-- A reply gives no occasion for anything but complaints. -/
theorem complains_replyLog (c : Call) (r : Reply) : Complains (c.replyLog r) := by
  cases r with
  | failure reason => exact complains_warning _ _
  | response response =>
      rw [Call.replyLog]
      split
      · exact List.forall_mem_nil _
      · exact complains_warning _ _

end Log

theorem Operation.Unsendable.complains {op : Operation} {p : Problem} (h : op.Unsendable p) :
    Log.Complains op.unsentLog := by
  cases h with
  | experimentForm p => exact Log.complains_ofProblem _ _
  | targetForm p => exact Log.complains_ofProblem _ _
  | stop id => exact (Log.complains_warning _ _).append (Log.complains_ofProblem _ _)

theorem Operation.finishLog_of_failsOn {op : Operation} {r : Reply} {p : Problem}
    (h : op.FailsOn r p) : op.finishLog r = [.ofProblem op.context p] := by
  rw [finishLog, result_of_failsOn h]

/-! ## What is asked of the service -/

/-- What is sent is sent as if it had been confirmed. -/
theorem Operation.start_eq_of_not_declined {op : Operation} {confirmed : Bool}
    (h : ¬op.Declined confirmed) (base : String) :
    op.start base confirmed = op.start base true := by
  cases confirmed with
  | true => rfl
  | false => cases op <;> first | rfl | exact absurd ⟨rfl, rfl⟩ h

namespace Terminal

/-! ## The user's answer -/

/-- The line that an input begins with. It ends before the first line feed, or with the input. -/
def IsFirstLine (line : String) (input : List UInt8) : Prop :=
  10 ∉ line.toUTF8.data.toList ∧
    ∃ rest, input = line.toUTF8.data.toList ++ rest ∧ (rest = [] ∨ rest.head? = some 10)

/-- The user answers a question with yes. -/
def SaysYes (input : List UInt8) : Prop :=
  ∃ line, IsFirstLine line input ∧
    ((Text.trim line).toLower = "y" ∨ (Text.trim line).toLower = "yes")

theorem fromUTF8?_eq_some_iff {bytes : ByteArray} {s : String} :
    String.fromUTF8? bytes = some s ↔ s.toUTF8 = bytes := by
  unfold String.fromUTF8?
  split
  next valid =>
    rw [Option.some.injEq]
    constructor
    · rintro rfl
      rfl
    · intro same
      exact String.toByteArray_inj.mp same.symm
  next invalid =>
    constructor
    · rintro ⟨⟩
    · rintro rfl
      exact absurd s.isValidUTF8 invalid

/-- **The line that is read is the first one**, if that is text. -/
theorem takeLine_eq_some_iff {input : List UInt8} {line : String} :
    (takeLine input).1 = some line ↔ IsFirstLine line input := by
  have bytes : (takeLine input).1 = some line ↔
      line.toUTF8.data.toList = input.takeWhile (· != 10) := by
    rw [takeLine, fromUTF8?_eq_some_iff, ByteArray.ext_iff, ← Array.toList_inj]
  rw [bytes]
  constructor
  · intro same
    refine ⟨?_, input.dropWhile (· != 10), ?_, ?_⟩
    · intro feed
      rw [same] at feed
      exact absurd (List.mem_takeWhile_imp feed) (by decide)
    · rw [same, List.takeWhile_append_dropWhile]
    · -- the line goes on up to a line feed, if there is one
      cases more : input.dropWhile (· != 10) with
      | nil => exact .inl rfl
      | cons byte rest =>
          have stops := List.head?_dropWhile_not (· != 10) input
          rw [more] at stops
          exact .inr (congrArg some (by simpa using stops))
  · rintro ⟨no_feed, rest, rfl, ends⟩
    have passed : ∀ byte ∈ line.toUTF8.data.toList, (byte != 10) = true := by
      intro byte hb
      exact bne_iff_ne.mpr fun feed => no_feed (feed ▸ hb)
    have stops : rest.takeWhile (· != 10) = [] := by
      rcases ends with rfl | first
      · rfl
      · obtain ⟨more, rfl⟩ := List.head?_eq_some_iff.mp first
        rfl
    rw [List.takeWhile_append_of_pos passed, stops, List.append_nil]

theorem any_isYes_takeLine {input : List UInt8} :
    (takeLine input).1.any isYes = true ↔ SaysYes input := by
  simp only [SaysYes, ← takeLine_eq_some_iff, isYes, Option.any_eq_true, Bool.or_eq_true, beq_iff_eq]

/-! ## What becomes of a command -/

/-- A command that deletes a record, and whether this is confirmed together with it. -/
inductive Command.Deletes : Command → Bool → Prop where
  | experiment (id : String) (yes : Bool) : Deletes (.operate (.deleteExperiment id) yes) yes
  | target (id : String) (yes : Bool) : Deletes (.operate (.deleteTarget id) yes) yes

/-- What is printed to ask the user, if there is anything to ask. -/
def Command.prompt : Command → String
  | operate (.deleteExperiment _) false => "Are you sure you want to delete this experiment? [y/N] "
  | operate (.deleteTarget _) false => "Are you sure you want to delete this target? [y/N] "
  | _ => ""

/-- What a command asks of the service at a base if nothing stands in its way. -/
def Command.request? (base : String) : Command → Option Call
  | serve _ _ => none
  | listExperiments _ | summary => some (Endpoint.listExperiments.call base)
  | listTargets => some (Endpoint.listTargets.call base)
  | operate op _ => (op.start base true).toOption

/-- A command has nothing to send, because of a problem: a form that is not filled in, or an operation
that the service does not have. -/
inductive Command.Unsendable : Command → Problem → Prop where
  | operation {op : Operation} {p : Problem} (h : op.Unsendable p) (yes : Bool) :
    Unsendable (.operate op yes) p

/-- The user calls a command off. -/
def Command.Declined (input : List UInt8) (c : Command) : Prop := c.Deletes false ∧ ¬SaysYes input

/-- A command fails on a reply, because of a problem. -/
inductive Command.FailsOn (r : Reply) : Command → Problem → Prop where
  | experiments (table : ExperimentTable) {p : Problem}
    (h : r.Lacks (orNull Experiment.listReader) p) : FailsOn r (.listExperiments table) p
  | targets {p : Problem} (h : r.Lacks (orNull Target.listReader) p) : FailsOn r .listTargets p
  | summary {p : Problem} (h : r.Lacks (orNull Experiment.listReader) p) : FailsOn r .summary p
  | operation {op : Operation} {p : Problem} (h : op.FailsOn r p) (yes : Bool) :
    FailsOn r (.operate op yes) p

/-- There is no address to send the request of a command to. -/
def Command.LacksAddress (s : Settings) (c : Command) : Prop :=
  ∃ call, c.request? s.apiBase = some call ∧ call.hasAddress = false

/-- The courses that a command can take once there are settings, and what is left of each. -/
inductive Course (s : Settings) (w : World) (c : Command) : Report → Prop where
  | unsendable {p : Problem} {entries : List Log.Entry} (h : c.Unsendable p)
    (logged : Log.Complains entries) (stderr : String) :
    Course s w c { status := 1, stdout := w.written entries, stderr }
  | declined (h : c.Declined w.input) : Course s w c { stdout := c.prompt ++ "Cancelled.\n" }
  | failed {call : Call} {p : Problem} {entries : List Log.Entry}
    (sent : c.request? s.apiBase = some call) (agreed : ¬c.Declined w.input)
    (h : c.FailsOn (w.reply call) p) (logged : Log.Complains entries) (stderr : String) :
    Course s w c
      { status := 1, stdout := c.prompt ++ w.written entries, stderr, calls := [call] }
  | succeeded {call : Call} (sent : c.request? s.apiBase = some call)
    (agreed : ¬c.Declined w.input) (h : ∀ p, ¬c.FailsOn (w.reply call) p) (stdout : String) :
    Course s w c { stdout, calls := [call] }

/-- A command fails: it cannot be sent, or it is sent and fails on the reply. -/
def Command.Fails (s : Settings) (w : World) (c : Command) : Prop :=
  (∃ p, c.Unsendable p) ∨
    ∃ call p, c.request? s.apiBase = some call ∧ ¬c.Declined w.input ∧ c.FailsOn (w.reply call) p

/-! ## What a course tells -/

namespace Command

variable {c : Command}

theorem Deletes.unique {yes yes' : Bool} (h : c.Deletes yes) (h' : c.Deletes yes') : yes = yes' := by
  cases h <;> cases h' <;> rfl

theorem Unsendable.not_deletes {p : Problem} (h : c.Unsendable p) (yes : Bool) :
    ¬c.Deletes yes := by
  intro deletes
  obtain ⟨h⟩ := h
  cases h <;> cases deletes

theorem Unsendable.request?_eq_none {p : Problem} (h : c.Unsendable p) (base : String) :
    c.request? base = none := by
  obtain ⟨h⟩ := h
  cases h <;> rfl

/-- The user agrees to a deletion, or there is nothing to agree to. -/
theorem not_declined_iff {input : List UInt8} {yes : Bool} (h : c.Deletes yes) :
    ¬c.Declined input ↔ yes = true ∨ SaysYes input := by
  rw [Declined, not_and_not_right]
  cases yes with
  | true => exact iff_of_true (fun h' => absurd (h.unique h') (by decide)) (.inl rfl)
  | false => simp [h]

theorem method_eq_delete_iff {base : String} {call : Call} (sent : c.request? base = some call) :
    call.method = .delete ↔ ∃ yes, c.Deletes yes := by
  constructor
  · intro method
    cases c with
    | operate op yes =>
        cases op with
        | deleteExperiment id => exact ⟨yes, .experiment id yes⟩
        | deleteTarget id => exact ⟨yes, .target id yes⟩
        | createExperiment draft =>
            cases draft with
            | ok draft => cases sent; cases method
            | error p => cases sent
        | createTarget draft =>
            cases draft with
            | ok draft => cases sent; cases method
            | error p => cases sent
        | _ => cases sent <;> cases method
    | _ => cases sent <;> cases method
  · rintro ⟨yes, ⟨id⟩ | ⟨id⟩⟩ <;> cases sent <;> rfl

end Command

namespace Course

variable {s : Settings} {w : World} {c : Command} {r : Report}

theorem length_calls_le (h : Course s w c r) : r.calls.length ≤ 1 := by
  cases h <;> simp

theorem calls_eq_nil_iff (h : Course s w c r) :
    r.calls = [] ↔ (∃ p, c.Unsendable p) ∨ c.Declined w.input := by
  have neither {call : Call} (sent : c.request? s.apiBase = some call)
      (agreed : ¬c.Declined w.input) : ¬((∃ p, c.Unsendable p) ∨ c.Declined w.input) := by
    rintro (⟨p, unsendable⟩ | declined)
    · rw [unsendable.request?_eq_none] at sent
      cases sent
    · exact agreed declined
  cases h with
  | unsendable h => exact iff_of_true rfl (.inl ⟨_, h⟩)
  | declined h => exact iff_of_true rfl (.inr h)
  | failed sent agreed h => exact iff_of_false (by simp) (neither sent agreed)
  | succeeded sent agreed h stdout => exact iff_of_false (by simp) (neither sent agreed)

/-- **Nothing is deleted but what is to be deleted**, and that without fail, once it is agreed to. -/
theorem exists_delete_iff (h : Course s w c r) :
    (∃ call ∈ r.calls, call.method = .delete) ↔
      ∃ yes, c.Deletes yes ∧ (yes = true ∨ SaysYes w.input) := by
  -- where a request is sent it is the only one, so all depends on its method
  have one {call : Call} (sent : c.request? s.apiBase = some call)
      (agreed : ¬c.Declined w.input) :
      (∃ call' ∈ [call], call'.method = .delete) ↔
        ∃ yes, c.Deletes yes ∧ (yes = true ∨ SaysYes w.input) := by
    simp only [List.mem_singleton, exists_eq_left, Command.method_eq_delete_iff sent]
    exact exists_congr fun yes =>
      ⟨fun h => ⟨h, (Command.not_declined_iff h).mp agreed⟩, fun h => h.1⟩
  cases h with
  | unsendable h =>
      exact iff_of_false (by simp) fun ⟨yes, deletes, _⟩ => h.not_deletes yes deletes
  | declined h =>
      refine iff_of_false (by simp) ?_
      rintro ⟨yes, deletes, agreed⟩
      exact (Command.not_declined_iff deletes).mpr agreed h
  | failed sent agreed => exact one sent agreed
  | succeeded sent agreed => exact one sent agreed

/-- **What is asked of the service goes out, unless there is no address for it.** -/
theorem sent_eq (h : Course s w c r) :
    (c.LacksAddress s → r.sent = []) ∧ (¬c.LacksAddress s → r.sent = r.calls) := by
  have one {call : Call} (sent : c.request? s.apiBase = some call) :
      (c.LacksAddress s → [call].filter (·.hasAddress) = []) ∧
        (¬c.LacksAddress s → [call].filter (·.hasAddress) = [call]) := by
    constructor
    · rintro ⟨call', sent', lost⟩
      rw [sent] at sent'
      cases sent'
      simp [lost]
    · intro present
      have address : call.hasAddress = true := by
        rw [← Bool.not_eq_false]
        exact fun lost => present ⟨call, sent, lost⟩
      simp [address]
  cases h with
  | unsendable h => exact ⟨fun _ => rfl, fun _ => rfl⟩
  | declined h => exact ⟨fun _ => rfl, fun _ => rfl⟩
  | failed sent agreed => exact one sent
  | succeeded sent agreed => exact one sent

theorem status_ne_zero_iff (h : Course s w c r) : r.status ≠ 0 ↔ c.Fails s w := by
  cases h with
  | unsendable h => exact iff_of_true Nat.one_ne_zero (.inl ⟨_, h⟩)
  | failed sent agreed h => exact iff_of_true Nat.one_ne_zero (.inr ⟨_, _, sent, agreed, h⟩)
  | declined h =>
      refine iff_of_false (not_not.mpr rfl) ?_
      rintro (⟨p, unsendable⟩ | ⟨call, p, -, agreed, -⟩)
      · exact unsendable.not_deletes false h.1
      · exact agreed h
  | succeeded sent agreed h stdout =>
      refine iff_of_false (not_not.mpr rfl) ?_
      rintro (⟨p, unsendable⟩ | ⟨call, p, sent', -, fails⟩)
      · rw [unsendable.request?_eq_none] at sent
        cases sent
      · rw [sent] at sent'
        cases sent'
        exact h p fails

theorem eq_of_declined (h : Course s w c r) (declined : c.Declined w.input) :
    r = { stdout := c.prompt ++ "Cancelled.\n" } := by
  cases h with
  | declined h => rfl
  | unsendable h => exact absurd declined.1 (h.not_deletes false)
  | failed sent agreed => exact absurd declined agreed
  | succeeded sent agreed => exact absurd declined agreed

/-- **A failure prints nothing of its own**: behind the question there are complaints of the log. -/
theorem stdout_of_failure (h : Course s w c r) (failure : r.status ≠ 0) :
    ∃ asked entries, (asked = "" ∨ asked = c.prompt) ∧ Log.Complains entries ∧
      r.stdout = asked ++ w.written entries := by
  cases h with
  | unsendable h logged => exact ⟨"", _, .inl rfl, logged, String.empty_append.symm⟩
  | failed sent agreed h logged => exact ⟨c.prompt, _, .inr rfl, logged, rfl⟩
  | declined h => exact absurd rfl failure
  | succeeded sent agreed h stdout => exact absurd rfl failure

end Course

/-! ## Lists -/

variable {s : Settings} {w : World}

/-- A command that prints a list takes its course: nothing is printed before the whole list is read. -/
theorem course_of_list {α : Type} {c : Command} {reader : Json.Reader α} {call : Call}
    (sent : c.request? s.apiBase = some call) (agreed : ¬c.Declined w.input) (silent : c.prompt = "")
    (fails : ∀ r p, c.FailsOn r p ↔ r.Lacks reader p) (lines : α → List String) :
    Course s w c ((Dialogue.request call fun reply =>
      .orFail (reply.value reader) fun a => (lines a).foldr .say .stop).run w) := by
  cases value : (w.reply call).value reader with
  | error p =>
      -- no line has been printed yet
      have fails := (fails _ p).mpr (Reply.value_eq_error_iff.mp value)
      have failed := Course.failed sent agreed fails (Log.complains_replyLog call (w.reply call))
        ("Error: " ++ p.message ++ "\n")
      rw [silent, String.empty_append] at failed
      simpa only [run_request, value, Dialogue.orFail, Dialogue.run, Ending.status, Ending.complaint,
        String.append_empty] using failed
  | ok a =>
      have fine : ∀ p, ¬c.FailsOn (w.reply call) p := by
        intro p h
        have error := Reply.value_eq_error_iff.mpr ((fails _ p).mp h)
        rw [value] at error
        cases error
      have told := run_foldr_say (w := w) .stop (lines a)
      simp only [run_request, value, Dialogue.orFail, told]
      exact .succeeded sent agreed fine _

/-! ## Operations -/

section Operations

variable {op : Operation} {yes : Bool}

theorem deletes_false_iff : (Command.operate op yes).Deletes false ↔ op.Declined yes := by
  constructor
  · rintro (⟨id⟩ | ⟨id⟩) <;> exact ⟨rfl, rfl⟩
  · intro h
    obtain rfl := h.2
    obtain ⟨id, rfl | rfl⟩ := h.isDeletion
    · exact .experiment id false
    · exact .target id false

theorem prompt_of_question {question : String} (h : op.question? = some question) :
    (Command.operate op false).prompt = question ++ " [y/N] " := by
  cases op <;> cases h <;> rfl

theorem prompt_of_unasked (h : ¬op.Declined yes) : (Command.operate op yes).prompt = "" := by
  cases yes with
  | true => cases op <;> rfl
  | false => cases op <;> first | rfl | exact absurd ⟨rfl, rfl⟩ h

theorem confirm_of_unasked (h : ¬op.Declined yes) (next : Bool → Dialogue) :
    confirm op yes next = next yes := by
  unfold confirm
  cases yes with
  | true => cases op.question? <;> rfl
  | false =>
      have unasked : op.question? = none :=
        Option.not_isSome_iff_eq_none.mp fun asked => h ⟨asked, rfl⟩
      rw [unasked]

/-- An operation goes on with the answer to its question, or with the confirmation it came with. -/
theorem run_dialogue_operate (zone : Time.Zone) (s : Settings) (w : World) (op : Operation)
    (yes : Bool) :
    ∃ answer input, (op.Declined answer ↔ (Command.operate op yes).Declined w.input) ∧
      ((Command.operate op yes).dialogue zone s).run w =
        let r := (operate zone s.apiBase op answer).run { w with input }
        { r with stdout := (Command.operate op yes).prompt ++ r.stdout } := by
  rw [Command.Declined, deletes_false_iff]
  -- the user is asked where the operation would count as declined without an answer
  by_cases asked : op.Declined yes
  · obtain rfl := asked.2
    obtain ⟨question, some_question⟩ := Option.isSome_iff_exists.mp asked.1
    refine ⟨(takeLine w.input).1.any isYes, (takeLine w.input).2, ?_, ?_⟩
    · rw [← any_isYes_takeLine, Bool.not_eq_true]
      exact and_congr_left fun _ => (iff_of_true asked.1 asked)
    · rw [prompt_of_question some_question]
      simp only [Command.dialogue, confirm, some_question]
      rfl
  · refine ⟨yes, w.input, iff_of_false asked fun h => asked h.1, ?_⟩
    rw [prompt_of_unasked asked, Command.dialogue, confirm_of_unasked asked]
    simp only [String.empty_append]

theorem course_operate (zone : Time.Zone) (s : Settings) (w : World) (op : Operation) (yes : Bool) :
    Course s w (.operate op yes) (((Command.operate op yes).dialogue zone s).run w) := by
  obtain ⟨answer, input, answered, run⟩ := run_dialogue_operate zone s w op yes
  have written (entries : List Log.Entry) :
      ({ w with input } : World).written entries = w.written entries := rfl
  rw [run]
  cases started : op.start s.apiBase answer with
  | error o =>
      rcases Operation.start_eq_error_iff.mp started with ⟨declined, rfl⟩ | ⟨p, unsendable, rfl⟩
      · -- the question was not answered with yes
        rw [run_operate_of_unsent started]
        obtain ⟨id, rfl | rfl⟩ := declined.isDeletion <;> exact .declined (answered.mp declined)
      · -- an operation that cannot be sent asks no question
        have unasked : ¬op.Declined yes := by
          intro asked
          obtain ⟨id, rfl | rfl⟩ := asked.isDeletion <;> cases unsendable
        rw [run_operate_of_unsent started, prompt_of_unasked unasked, run_tell_failed]
        simp only [written, String.empty_append, String.append_empty]
        exact .unsendable (.operation unsendable yes) unsendable.complains _
  | ok call =>
      have agreed : ¬op.Declined answer := by
        intro declined
        have cancelled : op.start s.apiBase answer = .error .cancelled :=
          Operation.start_eq_error_iff.mpr (.inl ⟨declined, rfl⟩)
        rw [started] at cancelled
        cases cancelled
      have sent : (Command.operate op yes).request? s.apiBase = some call := by
        rw [Operation.start_eq_of_not_declined agreed] at started
        rw [Command.request?, started]
        rfl
      rw [run_operate_of_start started]
      simp only [written]
      rcases Operation.result_cases (w.reply call) op with ⟨p, fails, -⟩ | ⟨o, result, succeeded⟩
      · have logged := (Log.complains_replyLog call (w.reply call)).append
          (Log.complains_ofProblem op.context p)
        rw [Operation.finish_of_failsOn fails, Operation.finishLog_of_failsOn fails, run_tell_failed]
        simp only [String.append_empty]
        exact .failed sent (mt answered.mpr agreed) (.operation fails yes) logged _
      · have finished : op.finish (w.reply call) = o := by rw [Operation.finish, result]
        have fine : ∀ p, ¬(Command.operate op yes).FailsOn (w.reply call) p := by
          intro p fails
          cases fails with
          | operation fails =>
              rw [Operation.result_of_failsOn fails] at result
              cases result
        obtain ⟨lines, told⟩ := exists_lines_tell (.inl succeeded) zone
        rw [finished, told, run_foldr_say]
        exact .succeeded sent (mt answered.mpr agreed) fine _

end Operations

/-! ## Commands -/

/-- **A command takes one of its courses.** -/
theorem course_dialogue {c : Command} (noServer : ∀ host port, c ≠ .serve host port)
    (zone : Time.Zone) (s : Settings) (w : World) : Course s w c ((c.dialogue zone s).run w) := by
  have never {c : Command} (h : ∀ yes, ¬c.Deletes yes) : ¬c.Declined w.input := fun d => h _ d.1
  cases c with
  | serve host port => exact absurd rfl (noServer host port)
  | operate op yes => exact course_operate zone s w op yes
  | listExperiments table =>
      have fails (r : Reply) (p : Problem) : (Command.listExperiments table).FailsOn r p ↔
          r.Lacks (orNull Experiment.listReader) p :=
        ⟨fun | .experiments _ h => h, .experiments table⟩
      exact course_of_list rfl (never (by rintro _ ⟨⟩)) rfl fails fun es =>
        ["Experiments at: " ++ s.apiBase, (experimentGrid zone table es).draw]
  | listTargets =>
      have fails (r : Reply) (p : Problem) : Command.listTargets.FailsOn r p ↔
          r.Lacks (orNull Target.listReader) p :=
        ⟨fun | .targets h => h, .targets⟩
      exact course_of_list rfl (never (by rintro _ ⟨⟩)) rfl fails fun ts =>
        ["Targets at: " ++ s.apiBase, (targetGrid zone ts).draw]
  | summary =>
      have fails (r : Reply) (p : Problem) : Command.summary.FailsOn r p ↔
          r.Lacks (orNull Experiment.listReader) p :=
        ⟨fun | .summary h => h, .summary⟩
      exact course_of_list rfl (never (by rintro _ ⟨⟩)) rfl fails fun es =>
        [(Summary.ofExperiments es).line, "Recent experiments:",
          (experimentGrid zone .recent es).draw]

/-! ## Command lines -/

/-- Settings that are refused are the end. -/
theorem run_of_refused {i : Invocation} {p : Problem} (refused : i.resolved w = .error p)
    (zone : Time.Zone) :
    (i.dialogue zone).run w = { status := 1, stderr := "Error: " ++ p.message ++ "\n" } := by
  rw [Invocation.resolved] at refused
  rw [Invocation.dialogue, Invocation.withSettings]
  cases path : i.settingsPath with
  | none =>
      rw [path, Option.map_none] at refused
      rw [refused]
      rfl
  | some file =>
      rw [path, Option.map_some] at refused
      simp only [Dialogue.run, refused]
      rfl

/-- **A command sends one request, and fails with complaints only.** Whatever the arguments ask for,
apart from a server, and whatever is in the file of settings, is typed in, or comes back from the
service:

* one request is made at most, and none exactly if the settings are refused, there is nothing to send,
  or the user calls a deletion off;
* the request goes out, unless the root that was accepted gives no address to send it to;
* a deletion is asked for exactly if the command is a deletion, which the settings do not prevent, and
  it is confirmed on the command line or with the first line of the input;
* the exit status is that of a failure exactly if the settings are refused or the command fails; a
  deletion that was called off is no failure, and is said to be cancelled;
* a failure prints nothing but, possibly, the question. All else in its output comes from the log, and
  these are warnings and errors. -/
theorem command_sends_once_and_fails_by_complaint {environment : Option String} {args : List String}
    {i : Invocation} (understood : Invocation.ofArguments environment args = .ok i)
    (noServer : ∀ host port, i.command ≠ .serve host port) (zone : Time.Zone) (w : World) :
    let report := (commandLine zone environment args).run w
    let refused := ∃ p, i.resolved w = .error p
    let lost := ∃ s, i.resolved w = .ok s ∧ i.command.LacksAddress s
    report.calls.length ≤ 1 ∧
    (report.calls = [] ↔
      refused ∨ (∃ p, i.command.Unsendable p) ∨ i.command.Declined w.input) ∧
    (lost → report.sent = []) ∧ (¬lost → report.sent = report.calls) ∧
    ((∃ call ∈ report.calls, call.method = .delete) ↔
      ¬refused ∧ ∃ yes, i.command.Deletes yes ∧ (yes = true ∨ SaysYes w.input)) ∧
    (report.status ≠ 0 ↔ refused ∨ ∃ s, i.resolved w = .ok s ∧ i.command.Fails s w) ∧
    (¬refused → i.command.Declined w.input →
      report = { stdout := i.command.prompt ++ "Cancelled.\n" }) ∧
    (report.status ≠ 0 → ∃ asked entries, (asked = "" ∨ asked = i.command.prompt) ∧
      Log.Complains entries ∧ report.stdout = asked ++ w.written entries) := by
  intro report refused lost
  have same : report = (i.dialogue zone).run w := by
    simp only [report, commandLine, understood]
  cases resolved : i.resolved w with
  | error p =>
      have isRefused : refused := ⟨p, resolved⟩
      rw [run_of_refused resolved] at same
      rw [same]
      refine ⟨by simp, iff_of_true rfl (.inl isRefused), fun _ => rfl, fun _ => rfl, ?_, ?_, ?_, ?_⟩
      · exact iff_of_false (by simp) fun h => h.1 isRefused
      · exact iff_of_true Nat.one_ne_zero (.inl isRefused)
      · exact fun h => absurd isRefused h
      · exact fun _ => ⟨"", [], .inl rfl, List.forall_mem_nil _, String.empty_append.symm⟩
  | ok s =>
      have accepted : ¬refused := by
        rintro ⟨p, h⟩
        rw [resolved] at h
        cases h
      have lost_iff : lost ↔ i.command.LacksAddress s := by
        simp only [lost, resolved, Except.ok.injEq, exists_eq_left']
      have course := course_dialogue noServer zone s w
      rw [← run_of_resolved resolved, ← same] at course
      refine ⟨course.length_calls_le, ?_, ?_, ?_, ?_, ?_, ?_, course.stdout_of_failure⟩
      · rw [course.calls_eq_nil_iff, or_iff_right accepted]
      · exact fun h => course.sent_eq.1 (lost_iff.mp h)
      · exact fun h => course.sent_eq.2 (mt lost_iff.mpr h)
      · rw [course.exists_delete_iff, and_iff_right accepted]
      · rw [course.status_ne_zero_iff, or_iff_right accepted]
        simp
      · exact fun _ => course.eq_of_declined

/-- The deletion of a record that is no longer there is asked about, confirmed with `Yes`, sent, and
found to have failed, which the log says twice. -/
theorem late_deletion_is_sent_and_fails :
    let args := ["experiments", "delete", "e1"]
    let i : Invocation := { command := .operate (.deleteExperiment "e1") false }
    let gone : Reply := .response ⟨404, "Not Found", ""⟩
    let w : World :=
      { input := "Yes\r".toUTF8.data.toList ++ [10], reply := fun _ => gone,
        log := fun e => e.text ++ "\n" }
    let report := (commandLine .utc none args).run w
    Invocation.ofArguments none args = .ok i ∧
    report.calls.length ≤ 1 ∧ (∃ call ∈ report.sent, call.method = .delete) ∧
    report.status ≠ 0 ∧
    ∃ asked entries,
      (asked = "" ∨ asked = "Are you sure you want to delete this experiment? [y/N] ") ∧
      Log.Complains entries ∧ report.stdout = asked ++ w.written entries := by
  intro args i gone w report
  have understood : Invocation.ofArguments none args = .ok i := by rfl
  have noServer : ∀ host port, i.command ≠ .serve host port := by
    intro host port same
    cases same
  have valid : Settings.validate {} = .ok () := by decide
  have resolved : i.resolved w = .ok {} :=
    Settings.resolve_eq_ok_iff.mpr ⟨{}, rfl, rfl, valid⟩
  have accepted : ¬∃ p, i.resolved w = .error p := by
    rintro ⟨p, refused⟩
    rw [resolved] at refused
    cases refused
  have present : ¬∃ s, i.resolved w = .ok s ∧ i.command.LacksAddress s := by
    rintro ⟨s, same, call, asks, lost⟩
    rw [resolved] at same
    cases same
    cases asks
    revert lost
    decide +kernel
  have lowered : (Text.trim "Yes\r").toLower = "yes" := by decide +kernel
  have agrees : SaysYes w.input :=
    ⟨"Yes\r", ⟨by decide, [10], rfl, .inr rfl⟩, .inr lowered⟩
  have deletes : i.command.Deletes false := .experiment "e1" false
  have fails : i.command.Fails {} w :=
    .inr ⟨_, _, rfl, fun declined => declined.2 agrees,
      .operation (.refused _ rfl (by decide)) false⟩
  obtain ⟨once, -, -, goesOut, deleted, failure, -, complains⟩ :=
    command_sends_once_and_fails_by_complaint understood noServer .utc w
  have failed := failure.mpr (.inr ⟨{}, resolved, fails⟩)
  have sent := deleted.mpr ⟨accepted, false, deletes, .inr agrees⟩
  rw [← goesOut present] at sent
  exact ⟨understood, once, sent, failed, complains failed⟩

/-- **A confirmed deletion may not be sent, and a failure may have an output.** The root `http://[` is
accepted, since it has the scheme of an address, but there is no address in it. So nothing goes out,
although the deletion is confirmed on the command line, and the log says so in the output. -/
theorem deletion_without_address_is_logged :
    let args := ["--api-root", "http://[", "experiments", "delete", "e1", "--yes"]
    let i : Invocation :=
      { apiRoot := some "http://[", command := .operate (.deleteExperiment "e1") true }
    let w : World := { reply := Network.none.reply, log := fun e => e.text ++ "\n" }
    let report := (commandLine .utc none args).run w
    Invocation.ofArguments none args = .ok i ∧ i.resolved w = .ok { apiRoot := "http://[" } ∧
    i.command.Deletes true ∧
    ¬(∃ call ∈ report.sent, call.method = .delete) ∧
    report.status = 1 ∧
    report.stderr = "Error: Error deleting experiment: network error: builder error\n" ∧
    report.stdout =
      " WARN request failed method=DELETE url=http://[/api/v1/experiments/e1" ++
        " error=network error: builder error\n" ++
        "ERROR Error deleting experiment error=network error: builder error\n" ∧
    report.stdout ≠ i.command.prompt := by
  intro args i w report
  have understood : Invocation.ofArguments none args = .ok i := by rfl
  have trimmed : Text.trim "http://[" = "http://[" := by decide
  have accepted : Settings.validate { apiRoot := "http://[" } = .ok () := by decide
  have found : i.resolved w = .ok { apiRoot := "http://[" } := by
    refine Settings.resolve_eq_ok_iff.mpr ⟨{}, rfl, ?_, accepted⟩
    rw [Option.elim_some, trimmed]
  let s : Settings := { apiRoot := "http://[" }
  let call : Call := (Endpoint.deleteExperiment "e1").call s.apiBase
  have starts : (Operation.deleteExperiment "e1").start s.apiBase true = .ok call := rfl
  have url : call.url = "http://[/api/v1/experiments/e1" := by decide +kernel
  have lost : call.hasAddress = false := by
    rw [Call.hasAddress, url]
    decide +kernel
  have unsent : w.reply call = .failure "builder error" := by
    rw [Call.hasAddress, Option.isSome_eq_false_iff, Option.isNone_iff_eq_none] at lost
    simp only [w, Network.reply, lost]
  have same : report = (operate .utc s.apiBase (.deleteExperiment "e1") true).run w := by
    simp only [report, commandLine, understood]
    rw [run_of_resolved found]
    rfl
  have finished : (Operation.deleteExperiment "e1").finish (.failure "builder error") =
      .failed "Error deleting experiment" (.network "builder error") := rfl
  rw [run_operate_of_start starts, unsent] at same
  simp only [finished, run_tell_failed, String.append_empty] at same
  have sent : report.sent = [] := by
    rw [same, Report.sent, List.filter_cons_of_neg (by simp [lost]), List.filter_nil]
  have stdout : report.stdout =
      w.written [⟨.warn, "request failed", [("method", "DELETE"),
          ("url", "http://[/api/v1/experiments/e1"), ("error", "network error: builder error")]⟩,
        ⟨.error, "Error deleting experiment", [("error", "network error: builder error")]⟩] := by
    rw [same, ← url]
    rfl
  refine ⟨understood, found, .experiment "e1" true, ?_, ?_, ?_, ?_, ?_⟩
  · rw [sent]
    rintro ⟨_, none_sent, -⟩
    exact List.not_mem_nil none_sent
  · rw [same]
  · rw [same]
    decide
  · rw [stdout]
    decide +kernel
  · rw [stdout]
    decide +kernel

end Terminal
end FaultConsole
