import FaultConsole.Proofs.Dashboard.Failures
import FaultConsole.Proofs.Form.Drafts
import FaultConsole.Proofs.Terminal.Invocations

/-!
# Creating records from the command line

A record can be created from the command line and from the dashboard. The command line has an option
for every field of the form, and says itself what holds for an option that is left out, so nothing
but care keeps the two the same.

* `enter_eq` — an option sets the field that it stands for, and no other. So a new form in which the
  options that were given are entered, in any order, is the form of the command
  (`foldl_enter_experiment`, `foldl_enter_target`), and what is left out has the same value in both.
* `CreatesAlike` — a command and a dashboard send the same request, or say the same and send none.
* `command_creates_as_dashboard_does` puts them together for both kinds of records.
-/

namespace FaultConsole

open Terminal (OptionValue Reading)

attribute [ext] ExternalFields WorkloadFields ExperimentForm TargetForm

/-! ## Options and fields -/

namespace Terminal

/-- The text that a value is. -/
def OptionValue.text? : OptionValue → Option String
  | text s => some s
  | _ => none

/-- The number that a value is. -/
def OptionValue.number? : OptionValue → Option Nat
  | number n => some n
  | _ => none

/-- What an option sets the field with a name to, if it stands for that field. -/
def setting {α : Type} (name : String) (read : OptionValue → Option α)
    (option : String × OptionValue) : Option α :=
  if option.1 = name then read option.2 else none

/-- The options of a place that were given, each with its value. -/
def Reading.givenTo (p : Place) (r : Reading) : List (String × OptionValue) :=
  p.ownOptions.filterMap fun o => (r.values.lookup o.long).map fun value => (o.long, value)

end Terminal

open Terminal (setting)
open Terminal.OptionValue (text? number?)

/-- The form once an option has been entered, in the field that it stands for. -/
def ExperimentForm.enter (f : ExperimentForm) : String × OptionValue → ExperimentForm
  | ("name", .text s) => { f with name := s }
  | ("description", .text s) => { f with description := s }
  | ("type", .text s) => f.setKind s
  | ("target", .text s) => { f with target := s }
  | ("duration", .text s) => { f with duration := s }
  | ("endpoint", .text s) => { f with external := { f.external with endpoint := s } }
  | ("auth-token", .text s) => { f with external := { f.external with authToken := s } }
  | ("cleanup-endpoint", .text s) =>
    { f with external := { f.external with cleanupEndpoint := s } }
  | ("namespace", .text s) => { f with workload := { f.workload with scope := s } }
  | ("percentage", .number n) => { f with workload := { f.workload with percentage := n } }
  | _ => f

/-- The form once an option has been entered, in the field that it stands for. -/
def TargetForm.enter (f : TargetForm) : String × OptionValue → TargetForm
  | ("name", .text s) => { f with name := s }
  | ("description", .text s) => { f with description := s }
  | ("type", .text s) => { f with kind := s }
  | ("namespace", .text s) => { f with scope := s }
  | ("selector", .text s) => { f with selector := s }
  | _ => f

/-- An option sets the field that it stands for, and no other. -/
theorem ExperimentForm.enter_eq (f : ExperimentForm) (option : String × OptionValue) :
    f.enter option =
      { name := (setting "name" text? option).getD f.name
        description := (setting "description" text? option).getD f.description
        kind := (setting "type" text? option).getD f.kind
        target := (setting "target" text? option).getD f.target
        duration := (setting "duration" text? option).getD f.duration
        external :=
          { endpoint := (setting "endpoint" text? option).getD f.external.endpoint
            authToken := (setting "auth-token" text? option).getD f.external.authToken
            cleanupEndpoint :=
              (setting "cleanup-endpoint" text? option).getD f.external.cleanupEndpoint }
        workload :=
          { scope := (setting "namespace" text? option).getD f.workload.scope
            percentage := (setting "percentage" number? option).getD f.workload.percentage } } := by
  obtain ⟨name, value⟩ := option
  cases value with
  | on => simp [enter, setting, text?, number?]
  | text s =>
      unfold enter
      split <;> simp_all [setting, text?, number?, setKind]
  | number n =>
      unfold enter
      split <;> simp_all [setting, text?, number?]

/-- An option sets the field that it stands for, and no other. -/
theorem TargetForm.enter_eq (f : TargetForm) (option : String × OptionValue) :
    f.enter option =
      { name := (setting "name" text? option).getD f.name
        description := (setting "description" text? option).getD f.description
        kind := (setting "type" text? option).getD f.kind
        scope := (setting "namespace" text? option).getD f.scope
        selector := (setting "selector" text? option).getD f.selector } := by
  obtain ⟨name, value⟩ := option
  cases value with
  | text s =>
      unfold enter
      split <;> simp_all [setting, text?]
  | _ => simp [enter, setting, text?]

namespace Terminal

section Fields

variable {Form α : Type} {enter : Form → String × OptionValue → Form} {field : Form → α}
  {name : String} {read : OptionValue → Option α}

/-- Options that agree on what they set a field to can be entered in any order, and more than once:
the field has that value if any of them sets it, and else the one that it had. -/
theorem field_foldl_enter
    (sets : ∀ f option, field (enter f option) = (setting name read option).getD (field f))
    {edits : List (String × OptionValue)} {value? : Option α}
    (only : ∀ v, value? = some v ↔ ∃ option ∈ edits, setting name read option = some v) (f : Form) :
    field (edits.foldl enter f) = value?.getD (field f) := by
  induction edits generalizing f value? with
  | nil =>
      have unset : value? = none := Option.eq_none_iff_forall_ne_some.mpr fun v said => by
        obtain ⟨option, given, -⟩ := (only v).mp said
        exact List.not_mem_nil given
      rw [unset]
      rfl
  | cons first rest ih =>
      rw [List.foldl_cons]
      by_cases again : ∃ v, ∃ option ∈ rest, setting name read option = some v
      · -- a later option has the last word, which is what the first one may have set too
        obtain ⟨v, option, given, reads⟩ := again
        have said : value? = some v := (only v).mpr ⟨option, List.mem_cons_of_mem _ given, reads⟩
        have later : ∀ u, value? = some u ↔ ∃ option ∈ rest, setting name read option = some u := by
          intro u
          constructor
          · intro same
            rw [said, Option.some.injEq] at same
            exact ⟨option, given, same ▸ reads⟩
          · rintro ⟨other, hother, readsToo⟩
            exact (only u).mpr ⟨other, List.mem_cons_of_mem _ hother, readsToo⟩
        rw [ih later, said]
        rfl
      · have last : value? = setting name read first := by
          ext v
          rw [only v, List.exists_mem_cons_iff, or_iff_left fun later => again ⟨v, later⟩]
        have later : ∀ u, none = some u ↔ ∃ option ∈ rest, setting name read option = some u :=
          fun u => ⟨nofun, fun later => absurd ⟨u, later⟩ again⟩
        rw [ih later, sets, last]
        rfl

variable {p : Place} {r : Reading} {edits : List (String × OptionValue)}

theorem mem_givenTo_iff {option : String × OptionValue} :
    option ∈ r.givenTo p ↔
      (∃ o ∈ p.ownOptions, o.long = option.1) ∧ r.values.lookup option.1 = some option.2 := by
  obtain ⟨name, value⟩ := option
  simp only [Reading.givenTo, List.mem_filterMap, Option.map_eq_some_iff, Prod.mk.injEq]
  constructor
  · rintro ⟨o, known, value, given, rfl, rfl⟩
    exact ⟨⟨o, known, rfl⟩, given⟩
  · rintro ⟨⟨o, known, rfl⟩, given⟩
    exact ⟨o, known, value, given, rfl, rfl⟩

/-- What a field is once the options that were given are entered, in any order. -/
theorem field_foldl_given (all : ∀ option, option ∈ edits ↔ option ∈ r.givenTo p) (name : String)
    (field : Form → α) (known : ∃ o ∈ p.ownOptions, o.long = name)
    (sets : ∀ f option, field (enter f option) = (setting name read option).getD (field f))
    (f : Form) :
    field (edits.foldl enter f) = ((r.values.lookup name).bind read).getD (field f) := by
  refine field_foldl_enter sets (fun v => ?_) f
  simp only [Option.bind_eq_some_iff, all, mem_givenTo_iff, setting]
  constructor
  · rintro ⟨value, given, reads⟩
    exact ⟨(name, value), ⟨known, given⟩, by rw [if_pos rfl, reads]⟩
  · rintro ⟨⟨other, value⟩, ⟨-, given⟩, reads⟩
    rw [Option.ite_none_right_eq_some] at reads
    obtain ⟨rfl, reads⟩ := reads
    exact ⟨value, given, reads⟩

variable (enter) in
theorem text_foldl_given (all : ∀ option, option ∈ edits ↔ option ∈ r.givenTo p) (name : String)
    (field : Form → String) (known : ∃ o ∈ p.ownOptions, o.long = name)
    (sets : ∀ f option, field (enter f option) = (setting name text? option).getD (field f))
    (f : Form) : field (edits.foldl enter f) = (r.text? name).getD (field f) := by
  have read : r.text? name = (r.values.lookup name).bind text? := by
    rw [Reading.text?]
    cases r.values.lookup name with
    | none => rfl
    | some value => cases value <;> rfl
  rw [read]
  exact field_foldl_given all name field known sets f

variable (enter) in
theorem number_foldl_given (all : ∀ option, option ∈ edits ↔ option ∈ r.givenTo p) (name : String)
    (field : Form → Nat) (known : ∃ o ∈ p.ownOptions, o.long = name)
    (sets : ∀ f option, field (enter f option) = (setting name number? option).getD (field f))
    (f : Form) : field (edits.foldl enter f) = (r.number? name).getD (field f) := by
  have read : r.number? name = (r.values.lookup name).bind number? := by
    rw [Reading.number?]
    cases r.values.lookup name with
    | none => rfl
    | some value => cases value <;> rfl
  rw [read]
  exact field_foldl_given all name field known sets f

end Fields

variable {r : Reading} {edits : List (String × OptionValue)}

/-- **A new form in which the options that were given are entered is the form of the command.** -/
theorem foldl_enter_experiment
    (all : ∀ option, option ∈ edits ↔ option ∈ r.givenTo .createExperiment) :
    edits.foldl ExperimentForm.enter {} = r.experimentArguments.form := by
  have text (name : String) (field : ExperimentForm → String) known sets :=
    text_foldl_given ExperimentForm.enter all name field known sets {}
  apply ExperimentForm.ext
  case name => exact text "name" (·.name) (by decide) fun f o => by rw [f.enter_eq]
  case description =>
    exact text "description" (·.description) (by decide) fun f o => by rw [f.enter_eq]
  case kind => exact text "type" (·.kind) (by decide) fun f o => by rw [f.enter_eq]
  case target => exact text "target" (·.target) (by decide) fun f o => by rw [f.enter_eq]
  case duration => exact text "duration" (·.duration) (by decide) fun f o => by rw [f.enter_eq]
  case external =>
    apply ExternalFields.ext
    case endpoint =>
      exact text "endpoint" (·.external.endpoint) (by decide) fun f o => by rw [f.enter_eq]
    case authToken =>
      exact text "auth-token" (·.external.authToken) (by decide) fun f o => by rw [f.enter_eq]
    case cleanupEndpoint =>
      exact text "cleanup-endpoint" (·.external.cleanupEndpoint) (by decide) fun f o => by
        rw [f.enter_eq]
  case workload =>
    apply WorkloadFields.ext
    case scope =>
      exact text "namespace" (·.workload.scope) (by decide) fun f o => by rw [f.enter_eq]
    case percentage =>
      exact number_foldl_given ExperimentForm.enter all "percentage" (·.workload.percentage)
        (by decide) (fun f o => by rw [f.enter_eq]) {}

/-- **A new form in which the options that were given are entered is the form of the command.** -/
theorem foldl_enter_target (all : ∀ option, option ∈ edits ↔ option ∈ r.givenTo .createTarget) :
    edits.foldl TargetForm.enter {} = r.targetArguments.form := by
  have text (name : String) (field : TargetForm → String) known sets :=
    text_foldl_given TargetForm.enter all name field known sets {}
  apply TargetForm.ext
  case name => exact text "name" (·.name) (by decide) fun f o => by rw [f.enter_eq]
  case description =>
    exact text "description" (·.description) (by decide) fun f o => by rw [f.enter_eq]
  case kind => exact text "type" (·.kind) (by decide) fun f o => by rw [f.enter_eq]
  case scope => exact text "namespace" (·.scope) (by decide) fun f o => by rw [f.enter_eq]
  case selector => exact text "selector" (·.selector) (by decide) fun f o => by rw [f.enter_eq]

end Terminal

/-! ## The dashboard -/

namespace Dashboard

/-- While a form is edited nothing else happens. -/
theorem run_editExperiment (edits : List (String × OptionValue)) (d : Dashboard) :
    d.run (edits.map fun option => .editExperiment (·.enter option)) =
      { d with experimentModal :=
          d.experimentModal.edit fun f => edits.foldl ExperimentForm.enter f } := by
  induction edits generalizing d with
  | nil => rfl
  | cons option edits ih => exact ih (d.step (.editExperiment (·.enter option)))

/-- While a form is edited nothing else happens. -/
theorem run_editTarget (edits : List (String × OptionValue)) (d : Dashboard) :
    d.run (edits.map fun option => .editTarget (·.enter option)) =
      { d with targetModal := d.targetModal.edit fun f => edits.foldl TargetForm.enter f } := by
  induction edits generalizing d with
  | nil => rfl
  | cons option edits ih => exact ih (d.step (.editTarget (·.enter option)))

end Dashboard

/-! ## Both -/

open Terminal (Command Invocation Report World)

/-- A command and a dashboard create a record alike. Where there is a draft, each of them sends the
request for it and nothing else; where there is none, they send nothing, and the words of the
dashboard's one new notice, a warning, are those of the command's error, and of its entry in the log
`w`, which has the context in front. -/
def CreatesAlike {Draft : Type} (w : World) (context : String) (draft : Except Problem Draft)
    (request : Draft → Call) (report : Report) (before after : Dashboard) : Prop :=
  (∀ x, draft = .ok x →
    report.calls = [request x] ∧
    after.sent = before.sent ++ [request x] ∧ after.notices = before.notices) ∧
  (∀ p, draft = .error p → ∃ message, p = .validation message ∧
    report = { status := 1, stdout := w.written [⟨.warn, context, [("error", message)]⟩],
               stderr := "Error: " ++ message ++ "\n" } ∧
    after.sent = before.sent ∧
    after.notices = before.notices ++ [(before.nextNotice, ⟨.warning, message⟩)])

/-- It makes no difference what happened before, as long as nothing was sent and no notice shown. -/
theorem CreatesAlike.of_earlier {Draft : Type} {w : World} {context : String}
    {draft : Except Problem Draft} {request : Draft → Call} {report : Report}
    {earlier before after : Dashboard}
    (h : CreatesAlike w context draft request report before after) (sent : before.sent = earlier.sent)
    (notices : before.notices = earlier.notices)
    (number : before.nextNotice = earlier.nextNotice) :
    CreatesAlike w context draft request report earlier after := by
  rw [CreatesAlike, sent, notices, number] at h
  exact h

section Creation

variable {i : Invocation} {s : Settings} {w : World} {d : Dashboard} {r : Reading}
  {edits : List (String × OptionValue)}

/-- A command and an event that ask for one creation create it alike. -/
theorem createsAlike_of_operation? {Draft : Type} {draft : Except Problem Draft}
    {request : Draft → Call} {op : Operation} {e : Event} (found : i.resolved w = .ok s)
    (base : d.base = s.apiBase) (commands : i.command = .operate op false)
    (asks : d.operation? e = some (op, false)) (unasked : op.question? = none)
    (starts : ∀ x, draft = .ok x → op.start s.apiBase false = .ok (request x))
    (unsendable : ∀ p, draft = .error p → op.Unsendable p)
    (logs : ∀ p, draft = .error p → op.unsentLog = [.ofProblem op.context p])
    (invalid : ∀ p, draft = .error p → ∃ message, p = .validation message) (zone : Time.Zone) :
    CreatesAlike w op.context draft request ((i.dialogue zone).run w) d (d.step e) := by
  have runs : (i.dialogue zone).run w = (Terminal.operate zone s.apiBase op false).run w := by
    rw [Terminal.run_of_resolved found, commands, Terminal.dialogue_operate_of_unasked unasked]
  rw [runs]
  constructor
  · intro x made
    rw [Terminal.run_operate_of_start (starts x made),
      Dashboard.step_of_start asks (base ▸ starts x made)]
    exact ⟨rfl, rfl, rfl⟩
  · intro p refused
    obtain ⟨message, rfl⟩ := invalid p refused
    have stopped : op.start s.apiBase false = .error (.failed op.context (.validation message)) :=
      Operation.start_eq_error_iff.mpr (Or.inr ⟨_, unsendable _ refused, rfl⟩)
    refine ⟨message, rfl, ?_, ?_⟩
    · rw [Terminal.run_operate_of_invalid stopped, logs _ refused]
      rfl
    · rw [Dashboard.step_of_unsendable asks (unsendable _ refused)]
      exact ⟨rfl, rfl⟩

theorem createsAlike_experiment (found : i.resolved w = .ok s) (base : d.base = s.apiBase)
    (commands : Command.ofReading .createExperiment r = .ok i.command)
    (fresh : d.experimentModal.form = {})
    (all : ∀ option, option ∈ edits ↔ option ∈ r.givenTo .createExperiment) (zone : Time.Zone) :
    CreatesAlike w "Error creating experiment" (edits.foldl ExperimentForm.enter {}).draft
      (fun x => ⟨.post, s.apiBase ++ "/experiments", some x.toJson⟩) ((i.dialogue zone).run w) d
      (d.run (edits.map (fun option => .editExperiment (·.enter option)) ++
        [.submitExperiment])) := by
  have command :
      i.command = .operate (.createExperiment r.experimentArguments.form.draft) false := by
    rw [Command.ofReading, Except.ok.injEq] at commands
    exact commands.symm
  have entered := Terminal.foldl_enter_experiment all
  let edited := { d with
    experimentModal := d.experimentModal.edit fun f => edits.foldl ExperimentForm.enter f }
  have form : edited.experimentModal.form = r.experimentArguments.form := by
    rw [← entered, ← fresh]
    rfl
  have asks : edited.operation? .submitExperiment =
      some (.createExperiment r.experimentArguments.form.draft, false) := by
    rw [Dashboard.operation?, form]
  have alike : CreatesAlike w "Error creating experiment" r.experimentArguments.form.draft
      (fun x => ⟨.post, s.apiBase ++ "/experiments", some x.toJson⟩) ((i.dialogue zone).run w)
      edited (edited.step .submitExperiment) := by
    refine createsAlike_of_operation? (d := edited) found base command asks rfl ?_ ?_ ?_ ?_ zone
    · intro x made
      rw [made]
      rfl
    · intro p refused
      rw [refused]
      exact .experimentForm p
    · intro p refused
      rw [refused]
      rfl
    · intro p
      exact ExperimentForm.exists_validation_of_draft
  rw [Dashboard.run_append, Dashboard.run_editExperiment, entered, Dashboard.run,
    List.foldl_cons, List.foldl_nil]
  exact alike.of_earlier rfl rfl rfl

theorem createsAlike_target (found : i.resolved w = .ok s) (base : d.base = s.apiBase)
    (commands : Command.ofReading .createTarget r = .ok i.command)
    (fresh : d.targetModal.form = {})
    (all : ∀ option, option ∈ edits ↔ option ∈ r.givenTo .createTarget) (zone : Time.Zone) :
    CreatesAlike w "Error creating target" (edits.foldl TargetForm.enter {}).draft
      (fun x => ⟨.post, s.apiBase ++ "/targets", some x.toJson⟩) ((i.dialogue zone).run w) d
      (d.run (edits.map (fun option => .editTarget (·.enter option)) ++ [.submitTarget])) := by
  have command : i.command = .operate (.createTarget r.targetArguments.form.draft) false := by
    rw [Command.ofReading, Except.ok.injEq] at commands
    exact commands.symm
  have entered := Terminal.foldl_enter_target all
  let edited := { d with
    targetModal := d.targetModal.edit fun f => edits.foldl TargetForm.enter f }
  have form : edited.targetModal.form = r.targetArguments.form := by
    rw [← entered, ← fresh]
    rfl
  have asks : edited.operation? .submitTarget =
      some (.createTarget r.targetArguments.form.draft, false) := by
    rw [Dashboard.operation?, form]
  have alike : CreatesAlike w "Error creating target" r.targetArguments.form.draft
      (fun x => ⟨.post, s.apiBase ++ "/targets", some x.toJson⟩) ((i.dialogue zone).run w)
      edited (edited.step .submitTarget) := by
    refine createsAlike_of_operation? (d := edited) found base command asks rfl ?_ ?_ ?_ ?_ zone
    · intro x made
      rw [made]
      rfl
    · intro p refused
      rw [refused]
      exact .targetForm p
    · intro p refused
      rw [refused]
      rfl
    · intro p
      exact TargetForm.exists_validation_of_draft
  rw [Dashboard.run_append, Dashboard.run_editTarget, entered, Dashboard.run, List.foldl_cons,
    List.foldl_nil]
  exact alike.of_earlier rfl rfl rfl

end Creation

/-- **A command creates what the dashboard creates from a form that is edited in the same fields.**
The options of the command that were given may be any, with any values, and they may be entered in
any order. The dashboard may be in any state in which its form is new, as long as the two have the
same service. -/
theorem command_creates_as_dashboard_does (zone : Time.Zone) (w : World) (i : Invocation) (s : Settings)
    (found : i.resolved w = .ok s) (d : Dashboard) (base : d.base = s.apiBase) (r : Reading)
    (edits : List (String × OptionValue)) :
    (Command.ofReading .createExperiment r = .ok i.command → d.experimentModal.form = {} →
      (∀ option, option ∈ edits ↔ option ∈ r.givenTo .createExperiment) →
      CreatesAlike w "Error creating experiment" (edits.foldl ExperimentForm.enter {}).draft
        (fun x => ⟨.post, s.apiBase ++ "/experiments", some x.toJson⟩) ((i.dialogue zone).run w) d
        (d.run (edits.map (fun option => .editExperiment (·.enter option)) ++
          [.submitExperiment]))) ∧
    (Command.ofReading .createTarget r = .ok i.command → d.targetModal.form = {} →
      (∀ option, option ∈ edits ↔ option ∈ r.givenTo .createTarget) →
      CreatesAlike w "Error creating target" (edits.foldl TargetForm.enter {}).draft
        (fun x => ⟨.post, s.apiBase ++ "/targets", some x.toJson⟩) ((i.dialogue zone).run w) d
        (d.run (edits.map (fun option => .editTarget (·.enter option)) ++ [.submitTarget]))) :=
  ⟨fun commands fresh all => createsAlike_experiment found base commands fresh all zone,
    fun commands fresh all => createsAlike_target found base commands fresh all zone⟩

/-- The options of a command for an experiment that would disrupt more than the whole of a
workload. -/
def excessiveOptions : List (String × OptionValue) :=
  [("percentage", .number 200), ("type", .text "pod-failure"), ("name", .text " outage"),
    ("target", .text "app=web")]

/-- The options of a command for a target. -/
def namedTargetOptions : List (String × OptionValue) :=
  [("selector", .text "app=web "), ("name", .text "web")]

/-- The experiment is refused in the same words, and the target created by the same request, with
the kind and the namespace that were left out. -/
theorem sparse_options_are_taken_alike :
    let s : Settings := {}
    let d := Dashboard.new s
    let w : World := { reply := fun _ => .failure "no route" }
    let experiment : Reading := { values := excessiveOptions }
    let target : Reading := { values := namedTargetOptions }
    let i : Invocation :=
      { command := .operate (.createExperiment experiment.experimentArguments.form.draft) false }
    let j : Invocation :=
      { command := .operate (.createTarget target.targetArguments.form.draft) false }
    i.resolved w = .ok s ∧ j.resolved w = .ok s ∧
    ((i.dialogue .utc).run w).stderr = "Error: Percentage must be between 0 and 100\n" ∧
    (d.run (excessiveOptions.map (fun option => .editExperiment (·.enter option)) ++
      [.submitExperiment])).notices =
        [(0, ⟨.warning, "Percentage must be between 0 and 100"⟩)] ∧
    ∃ x : TargetDraft, x.name = "web" ∧ x.kind = "pod" ∧ x.scope = "default" ∧
      x.selector = "app=web" ∧
      ((j.dialogue .utc).run w).calls =
        [⟨.post, "http://localhost:8080/api/v1/targets", some x.toJson⟩] ∧
      (d.run (namedTargetOptions.map (fun option => .editTarget (·.enter option)) ++
        [.submitTarget])).sent =
          [⟨.post, "http://localhost:8080/api/v1/targets", some x.toJson⟩] := by
  intro s d w experiment target i j
  have found : Settings.resolve none none = .ok s :=
    Settings.resolve_eq_ok_iff.mpr ⟨{}, rfl, rfl, by decide⟩
  have url : s.apiBase ++ "/targets" = "http://localhost:8080/api/v1/targets" := by decide
  have given : excessiveOptions.Perm (experiment.givenTo .createExperiment) := by decide
  have givenToo : namedTargetOptions.Perm (target.givenTo .createTarget) := by decide
  have tooMuch : (excessiveOptions.foldl ExperimentForm.enter {}).draft =
      .error (.validation percentageRange) := by rfl
  have inOrder : (namedTargetOptions.foldl TargetForm.enter {}).draft =
      .ok ⟨"web", "", "pod", "default", "app=web"⟩ := by rfl
  obtain ⟨creates, -⟩ := command_creates_as_dashboard_does .utc w i s found d rfl experiment
    excessiveOptions
  obtain ⟨-, refused⟩ := creates rfl rfl fun _ => given.mem_iff
  obtain ⟨message, same, report, -, notices⟩ := refused _ tooMuch
  obtain ⟨-, creates⟩ := command_creates_as_dashboard_does .utc w j s found d rfl target
    namedTargetOptions
  obtain ⟨made, -⟩ := creates rfl rfl fun _ => givenToo.mem_iff
  obtain ⟨calls, sent, -⟩ := made _ inOrder
  cases same
  rw [url] at calls sent
  refine ⟨found, found, ?_, notices, _, rfl, rfl, rfl, rfl, calls, sent⟩
  rw [report]
  decide

end FaultConsole
