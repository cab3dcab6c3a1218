import FaultConsole.Proofs.Json.Reading
import FaultConsole.Terminal.CommandLine

/-!
# How an invocation goes on

The settings are those of the file or the default ones, with the root that was asked for, and they are
in order (`resolve_eq_ok_iff`). An invocation reads its file, if it has one, and goes on with its command
once it has found its settings there (`dialogue_of_resolved`). So whatever is said of the dialogue of a
command holds of an invocation that comes to it: of its report (`run_of_resolved`) and of what it comes
to (`reached_of_resolved`), which the report does not tell where a server is started.

What is logged stands in front of what is said afterwards (`run_logAll`). An operation sends what it
starts with and nothing else (`run_operate_of_start`); one whose form is not in order sends nothing and
says what is wrong (`run_operate_of_invalid`).
-/

namespace FaultConsole

/-- **The settings that are found** are those of the file, or the default ones, in which the root may
have been replaced by an option; and they can be used. -/
theorem Settings.resolve_eq_ok_iff {option : Option String} {file : Option (Except Problem Settings)}
    {s : Settings} :
    resolve option file = .ok s ↔ ∃ base, file.getD (.ok {}) = .ok base ∧
      s = option.elim base (fun root => { base with apiRoot := Text.trim root }) ∧
      s.validate = .ok () := by
  constructor
  · intro h
    obtain ⟨base, read, rest⟩ := bind_eq_ok_iff.mp h
    obtain ⟨⟨⟩, valid, same⟩ := bind_eq_ok_iff.mp rest
    cases same
    refine ⟨base, read, ?_, valid⟩
    cases option <;> rfl
  · rintro ⟨base, read, rfl, valid⟩
    cases option with
    | none => exact bind_eq_ok_iff.mpr ⟨base, read, bind_eq_ok_iff.mpr ⟨(), valid, rfl⟩⟩
    | some root => exact bind_eq_ok_iff.mpr ⟨base, read, bind_eq_ok_iff.mpr ⟨(), valid, rfl⟩⟩

namespace Terminal

variable {i : Invocation} {w : World} {s : Settings}

/-! ## Lines -/

/-- The lines of a text. -/
def ofLines (lines : List String) : String :=
  lines.foldr (fun line text => line ++ "\n" ++ text) ""

/-- What a dialogue comes to once it has printed and logged what it does at first, and read its files. -/
def Dialogue.reached (file : String → Except Settings.FileFault String) : Dialogue → Dialogue
  | print _ next => next.reached file
  | log _ next => next.reached file
  | readFile path next => (next (file path)).reached file
  | d => d

/-- Lines are printed first, and change nothing else. -/
theorem run_foldr_say (d : Dialogue) (lines : List String) :
    (lines.foldr Dialogue.say d).run w =
      { d.run w with stdout := ofLines lines ++ (d.run w).stdout } := by
  induction lines with
  | nil => simp only [List.foldr_nil, ofLines, String.empty_append]
  | cons line lines ih =>
      rw [List.foldr_cons, Dialogue.say, Dialogue.run, ih]
      simp only [ofLines, List.foldr_cons, String.append_assoc]

theorem reached_foldr_say (file : String → Except Settings.FileFault String) (d : Dialogue)
    (lines : List String) : (lines.foldr Dialogue.say d).reached file = d.reached file := by
  induction lines with
  | nil => rfl
  | cons line lines ih => rw [List.foldr_cons, Dialogue.say, Dialogue.reached, ih]

/-! ## The log -/

theorem World.written_append (w : World) (entries more : List Log.Entry) :
    w.written (entries ++ more) = w.written entries ++ w.written more := by
  induction entries with
  | nil => simp only [written, List.nil_append, List.foldr_nil, String.empty_append]
  | cons entry entries ih =>
      simp only [written, List.cons_append, List.foldr_cons, String.append_assoc] at ih ⊢
      rw [ih]

/-- What is logged is written in front of the rest of the output, and changes nothing else. -/
theorem run_logAll (entries : List Log.Entry) (next : Dialogue) :
    (Dialogue.logAll entries next).run w =
      { next.run w with stdout := w.written entries ++ (next.run w).stdout } := by
  induction entries with
  | nil => simp only [Dialogue.logAll, World.written, List.foldr_nil, String.empty_append]
  | cons entry entries ih =>
      rw [Dialogue.logAll, List.foldr_cons, ← Dialogue.logAll, Dialogue.run, ih]
      simp only [World.written, List.foldr_cons, String.append_assoc]

theorem run_request (call : Call) (next : Reply → Dialogue) :
    (Dialogue.request call next).run w =
      let r := (next (w.reply call)).run w
      { r with
        stdout := w.written (call.replyLog (w.reply call)) ++ r.stdout, calls := call :: r.calls } := by
  rw [Dialogue.request, Dialogue.run, run_logAll]

/-! ## Operations -/

theorem exists_lines_showDetail (zone : Time.Zone) (detail : Detail) :
    ∃ lines : List String, showDetail zone detail = lines.foldr Dialogue.say .stop := by
  cases detail with
  | experiment e =>
      simp only [showDetail]
      split
      · exact ⟨[(fieldGrid (e.fields zone)).draw], rfl⟩
      · exact ⟨[(fieldGrid (e.fields zone)).draw, parametersTitle,
          (fieldGrid (parameterFields e.parameters)).draw], rfl⟩
  | target t => exact ⟨[(fieldGrid (t.fields zone)).draw], rfl⟩

/-- What is no failure is told in lines. -/
theorem exists_lines_tell {o : Outcome} (h : o.succeeded = true ∨ o.notice = none) (zone : Time.Zone) :
    ∃ lines : List String, tell zone o = lines.foldr Dialogue.say .stop := by
  obtain ⟨succeeded, notice, reload, detail⟩ := o
  have shown : ∃ lines : List String, tell zone { succeeded := true, reload, detail } =
      lines.foldr Dialogue.say .stop := by
    cases detail with
    | none => exact ⟨[], rfl⟩
    | some d => exact exists_lines_showDetail zone d
  obtain ⟨lines, shown⟩ := shown
  cases notice with
  | none =>
      cases succeeded with
      | true => exact ⟨lines, shown⟩
      | false => exact ⟨"Cancelled." :: lines, congrArg (Dialogue.say _) shown⟩
  | some notice =>
      cases succeeded with
      | true => exact ⟨("✓ " ++ notice.message) :: lines, congrArg (Dialogue.say _) shown⟩
      | false => exact absurd h (by simp)

/-- A failure is told where no script takes it for a result. -/
theorem run_tell_failed (zone : Time.Zone) (context : String) (p : Problem) :
    (tell zone (.failed context p)).run w =
      { status := 1, stderr := "Error: " ++ (Notice.ofProblem context p).message ++ "\n" } := rfl

/-- To say how an operation ended takes no more requests. -/
theorem calls_tell (zone : Time.Zone) (o : Outcome) : ((tell zone o).run w).calls = [] := by
  by_cases noFailure : o.succeeded = true ∨ o.notice = none
  · obtain ⟨lines, told⟩ := exists_lines_tell noFailure zone
    rw [told, run_foldr_say]
    rfl
  · obtain ⟨succeeded, notice, reload, detail⟩ := o
    cases notice with
    | none => exact absurd (.inr rfl) noFailure
    | some notice =>
        cases succeeded with
        | true => exact absurd (.inl rfl) noFailure
        | false => rfl

section Operate

variable {op : Operation} {base : String} {confirmed : Bool}

/-- An operation that starts sends its request and says how it ended. What it logs stands between
the two. -/
theorem run_operate_of_start {call : Call} (h : op.start base confirmed = .ok call)
    (zone : Time.Zone) :
    (operate zone base op confirmed).run w =
      let reply := w.reply call
      let told := (tell zone (op.finish reply)).run w
      { told with
        stdout := w.written (call.replyLog reply ++ op.finishLog reply) ++ told.stdout
        calls := [call] } := by
  rw [operate, h]
  simp only [run_request, run_logAll, World.written_append, String.append_assoc, calls_tell]

theorem run_operate_of_unsent {o : Outcome} (h : op.start base confirmed = .error o)
    (zone : Time.Zone) :
    (operate zone base op confirmed).run w =
      { (tell zone o).run w with
        stdout := w.written op.unsentLog ++ ((tell zone o).run w).stdout } := by
  rw [operate, h]
  exact run_logAll _ _

/-- What is wrong with what was entered is all that is said; the log says it, too. -/
theorem run_operate_of_invalid {message : String}
    (h : op.start base confirmed = .error (.failed op.context (.validation message)))
    (zone : Time.Zone) :
    (operate zone base op confirmed).run w =
      { status := 1, stdout := w.written op.unsentLog, stderr := "Error: " ++ message ++ "\n" } := by
  rw [run_operate_of_unsent h, run_tell_failed, String.append_empty]
  rfl

end Operate

/-- An operation that asks no question goes ahead. -/
theorem dialogue_operate_of_unasked {op : Operation} (h : op.question? = none) (zone : Time.Zone)
    (s : Settings) (confirmed : Bool) :
    (Command.operate op confirmed).dialogue zone s = operate zone s.apiBase op confirmed := by
  simp only [Command.dialogue, confirm, h]

/-! ## Settings that are found -/

/-- The settings that an invocation finds. -/
def Invocation.resolved (i : Invocation) (w : World) : Except Problem Settings :=
  Settings.resolve i.apiRoot (i.settingsPath.map fun path => Settings.ofFile path (w.file path))

/-- An invocation that finds its settings goes on with its command, after it has read its file, if
it has one. -/
theorem dialogue_of_resolved (found : i.resolved w = .ok s) (zone : Time.Zone) :
    i.dialogue zone = i.command.dialogue zone s ∨
      ∃ path next, i.dialogue zone = .readFile path next ∧
        next (w.file path) = i.command.dialogue zone s := by
  rw [Invocation.resolved] at found
  rw [Invocation.dialogue, Invocation.withSettings]
  cases path : i.settingsPath with
  | none =>
      rw [path, Option.map_none] at found
      exact .inl (by rw [found, Dialogue.orFail])
  | some file =>
      rw [path, Option.map_some] at found
      exact .inr ⟨file, _, rfl, by rw [found, Dialogue.orFail]⟩

theorem run_of_resolved (found : i.resolved w = .ok s) (zone : Time.Zone) :
    (i.dialogue zone).run w = (i.command.dialogue zone s).run w := by
  rcases dialogue_of_resolved found zone with same | ⟨path, next, reads, goesOn⟩
  · rw [same]
  · rw [reads, Dialogue.run, goesOn]

theorem reached_of_resolved (found : i.resolved w = .ok s) (zone : Time.Zone) :
    (i.dialogue zone).reached w.file = (i.command.dialogue zone s).reached w.file := by
  rcases dialogue_of_resolved found zone with same | ⟨path, next, reads, goesOn⟩
  · rw [same]
  · rw [reads, Dialogue.reached, goesOn]

end Terminal
end FaultConsole
