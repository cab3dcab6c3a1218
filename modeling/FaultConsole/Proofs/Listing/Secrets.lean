import FaultConsole.Dashboard.Event
import FaultConsole.Page.Views
import FaultConsole.Proofs.Json.Members
import FaultConsole.Proofs.Json.RecordTexts
import FaultConsole.Proofs.Outcome.Problems
import FaultConsole.Proofs.Terminal.Invocations

/-!
# What is shown of a secret

An experiment may hold a token among its parameters. Two experiments that differ in the token alone
(`Experiment.AlikeButToken`) look the same wherever they are shown: in the list of their parameters,
on the page, and on the terminal. Everything else is shown as it is.

For the service may give the parameters as an object or as a string with the text of the object, it
is part of the same property that both are read as the object (`Reply.experiment_of_delivers`): a
string that were kept as it is would be shown with the token in it.
-/

namespace FaultConsole

open Json (Ascending Member ReadsInside)
open Json.Record (Entry Fits LeftOut Writes objectText readKind decodeParameters)

/-! ## Two experiments that differ in the token -/

/-- Two experiments have the same fields, and parameters that are objects with the same keys and the
same values, but for the value of the token. -/
structure Experiment.AlikeButToken (e e' : Experiment) : Prop where
  fields : e' = { e with parameters := e'.parameters }
  parameters : ∃ members members', e.parameters = .object members ∧
    e'.parameters = .object members' ∧ Ascending members ∧ Ascending members' ∧
    ∀ key, (members.lookup key).isSome = (members'.lookup key).isSome ∧
      (key ≠ "auth_token" → members.lookup key = members'.lookup key)

/-- What is shown beside a key of some parameters. -/
def shownUnder (members : List Member) (key : String) : String :=
  ((members.lookup key).map (parameterText key)).getD ""

/-- The list of parameters is told by their keys and by what is shown beside each. -/
theorem parameterFields_object {members : List Member} (h : Ascending members) :
    parameterFields (.object members) =
      (members.map Prod.fst).map fun key => (key, shownUnder members key) := by
  rw [parameterFields, List.map_map]
  refine List.map_congr_left fun m hm => ?_
  simp [shownUnder, Json.lookup_eq_some_of_mem h.nodup_keys hm]

/-- A token is shown as a mask, whatever it is. -/
theorem shownUnder_token (members : List Member) :
    shownUnder members "auth_token" =
      if (members.lookup "auth_token").isSome then mask else "" := by
  unfold shownUnder
  cases members.lookup "auth_token" <;> rfl

/-- Any other value is shown as it is. -/
theorem parameterText_of_ne {key : String} (h : key ≠ "auth_token") (v : Json) :
    parameterText key v = match v with
      | .string s => s
      | v => v.compact := by
  have plain : ¬secretKeys.contains key = true := by simp [secretKeys, h]
  cases v <;> exact if_neg plain

namespace Experiment.AlikeButToken

variable {e e' : Experiment} (alike : e.AlikeButToken e')

include alike

theorem parameterFields_eq : parameterFields e.parameters = parameterFields e'.parameters := by
  obtain ⟨members, members', h, h', ascending, ascending', same⟩ := alike.parameters
  have keys := Json.keys_eq_of_lookup ascending ascending' fun key => (same key).1
  have texts : shownUnder members = shownUnder members' := by
    funext key
    by_cases token : key = "auth_token"
    · rw [token, shownUnder_token, shownUnder_token, (same "auth_token").1]
    · rw [shownUnder, shownUnder, (same key).2 token]
  rw [h, h', parameterFields_object ascending, parameterFields_object ascending', keys, texts]

theorem fields_eq (zone : Time.Zone) : e.fields zone = e'.fields zone := by
  rw [alike.fields]
  rfl

theorem detailPanel_eq (zone : Time.Zone) :
    Page.detailPanel zone (.experiment e) = Page.detailPanel zone (.experiment e') := by
  simp only [Page.detailPanel, Page.detailContent, alike.fields_eq, alike.parameterFields_eq]

theorem showDetail_eq (zone : Time.Zone) :
    Terminal.showDetail zone (.experiment e) = Terminal.showDetail zone (.experiment e') := by
  simp only [Terminal.showDetail, alike.fields_eq, alike.parameterFields_eq]

end Experiment.AlikeButToken

/-! ## Where experiments are shown -/

theorem result_viewExperiment_of_ok {r : Reply} {e : Experiment} (h : r.experiment = .ok e)
    (id : String) : Operation.result r (.viewExperiment id) = .ok (.shown (.experiment e)) := by
  rw [Operation.result, h]
  rfl

theorem finish_viewExperiment {r : Reply} {e : Experiment} (h : r.experiment = .ok e)
    (id : String) : Operation.finish r (.viewExperiment id) = .shown (.experiment e) := by
  rw [Operation.finish, result_viewExperiment_of_ok h]

/-- The page once the experiment has come that the user wants to see. -/
theorem page_deliver_viewExperiment {d : Dashboard} {k : Nat} {call : Call} {id : String}
    (out : d.pending[k]? = some ⟨call, .finish (.viewExperiment id)⟩) {r : Reply} {e : Experiment}
    (h : r.experiment = .ok e) (zone : Time.Zone) (debug : Bool) :
    (d.step (.deliver k r)).page zone debug =
      ({ d with detail := some (.experiment e) } : Dashboard).page zone debug := by
  simp only [Dashboard.step, Dashboard.deliver, out, Dashboard.receive,
    finish_viewExperiment h]
  rfl

namespace Terminal

/-- What is shown of a record is printed, whatever else the program may be told or logs. -/
theorem run_showDetail (zone : Time.Zone) (detail : Detail) (w w' : World) :
    (showDetail zone detail).run w = (showDetail zone detail).run w' := by
  cases detail with
  | experiment e =>
      simp only [showDetail, Dialogue.say, Dialogue.run]
      split <;> rfl
  | target t => rfl

/-- A view prints the experiment that comes, and logs nothing. -/
theorem run_operate_viewExperiment (zone : Time.Zone) (base id : String) {w : World} {e : Experiment}
    (h : (w.reply ((Endpoint.getExperiment id).call base)).experiment = .ok e) :
    (operate zone base (.viewExperiment id) false).run w =
      { (showDetail zone (.experiment e)).run w with
        calls := [(Endpoint.getExperiment id).call base] } := by
  obtain ⟨response, accepted⟩ := Reply.exists_accept_of_value h
  have unlogged : Operation.finishLog (w.reply ((Endpoint.getExperiment id).call base))
      (.viewExperiment id) = [] := by
    rw [Operation.finishLog, result_viewExperiment_of_ok h]
    rfl
  rw [run_operate_of_start rfl]
  simp only [Call.replyLog_of_accept accepted, unlogged, finish_viewExperiment h, World.written,
    List.append_nil, List.foldr_nil, String.empty_append]
  rfl

/-- A command line that asks for an experiment ends alike for experiments that are alike. -/
theorem run_commandLine_alike {e e' : Experiment} (alike : e.AlikeButToken e') (zone : Time.Zone)
    {environment : Option String} {args : List String} {i : Invocation} {id : String}
    (asked : Invocation.ofArguments environment args = .ok i)
    (command : i.command = .operate (.viewExperiment id) false) {w : World} {reply : Call → Reply}
    (h : ∀ base, (w.reply ((Endpoint.getExperiment id).call base)).experiment = .ok e)
    (h' : ∀ base, (reply ((Endpoint.getExperiment id).call base)).experiment = .ok e') :
    (commandLine zone environment args).run w =
      (commandLine zone environment args).run { w with reply } := by
  have viewed : ∀ s, (i.command.dialogue zone s).run w =
      (i.command.dialogue zone s).run { w with reply } := by
    intro s
    have operated : i.command.dialogue zone s =
        operate zone s.apiBase (.viewExperiment id) false := by
      rw [command]
      rfl
    rw [operated, run_operate_viewExperiment zone _ _ (h _),
      run_operate_viewExperiment zone _ _ (h' _), alike.showDetail_eq,
      run_showDetail zone _ w { w with reply }]
  have gone_on : ∀ settings : Except Problem Settings,
      (Dialogue.orFail settings (i.command.dialogue zone)).run w =
        (Dialogue.orFail settings (i.command.dialogue zone)).run { w with reply } := by
    intro settings
    cases settings with
    | ok s => exact viewed s
    | error p => rfl
  simp only [commandLine, asked, Invocation.dialogue, Invocation.withSettings]
  cases i.settingsPath with
  | none => exact gone_on _
  | some path => exact gone_on _

end Terminal

/-! ## How the parameters arrive -/

/-- The members of an object that was read are in the order of their keys. -/
theorem ascending_of_value {depth : Nat} {c after : Json.Cursor} {members : List Member}
    (h : Json.value depth c = .ok (.object members, after)) : Ascending members := by
  have kept : ∀ inner, Json.valueWith inner c = .ok (.object members, after) →
      Ascending members := by
    intro inner h
    unfold Json.valueWith at h
    simp only at h
    split at h
    · cases h
    -- words and strings are other values
    iterate 4
      · obtain ⟨c, -, same⟩ := bind_eq_ok_iff.mp h
        cases same
    · split at h
      · cases h
      · split at h
        · cases h
        · cases h
        · obtain ⟨c, -, same⟩ := bind_eq_ok_iff.mp h
          cases same
    · split at h
      · cases h
      · split at h
        · cases h
        · cases h
          exact List.Pairwise.nil
        · obtain ⟨⟨ms, c⟩, -, same⟩ := bind_eq_ok_iff.mp h
          cases same
          exact Json.ascending_sortMembers ms
        · cases h
    · split at h
      · obtain ⟨⟨n, c⟩, -, same⟩ := bind_eq_ok_iff.mp h
        cases n <;> cases same
      · cases h
  cases depth <;> exact kept _ h

/-- A text inside a record gives an object as parameters: it is the text of the object, or that of a
string which holds such a text. -/
inductive GivesObject (text : List Char) (members : List Member) : Prop where
  | plain (read : ReadsInside (Json.value (Json.maxDepth - 1)) text (.object members))
  | encoded {s : String} (read : ReadsInside (Json.value (Json.maxDepth - 1)) text (.string s))
    (inner : Json.read s = .ok (.object members))

namespace GivesObject

variable {text : List Char} {members : List Member}

theorem ascending (h : GivesObject text members) : Ascending members := by
  cases h with
  | plain read =>
      obtain ⟨after, read, -⟩ := read ['\x7d'] 0 ⟨[], Or.inr rfl⟩
      exact ascending_of_value read
  | encoded read inner =>
      obtain ⟨after, read, -⟩ := Json.readWith_eq_ok_iff.mp inner
      exact ascending_of_value read

/-- **Both forms are read as the object.** -/
theorem readsInside (h : GivesObject text members) :
    ReadsInside (readKind (Json.maxDepth - 1) .parameters) text (.object members) := by
  intro rest offset ends
  cases h with
  | plain read =>
      obtain ⟨after, read, left⟩ := read rest offset ends
      exact ⟨after, bind_eq_ok_iff.mpr ⟨_, Json.Record.lift_eq_ok_iff.mpr read, rfl⟩, left⟩
  | encoded read inner =>
      obtain ⟨after, read, left⟩ := read rest offset ends
      refine ⟨after, bind_eq_ok_iff.mpr ⟨_, Json.Record.lift_eq_ok_iff.mpr read, ?_⟩, left⟩
      simp [decodeParameters, inner, Except.toOption, pure, Except.pure]

end GivesObject

/-- A reply delivers an experiment whose parameters are an object: its body has a member for each
field, in any order and with any others between them, and that of the parameters gives the object in
one of the two forms. -/
def Reply.Delivers (r : Reply) (e : Experiment) : Prop :=
  ∃ (response : Response) (entries : List Entry) (vs : Json.Record.Values Experiment.shape.fields)
    (members : List Member),
    r = .response response ∧ 200 ≤ response.status ∧ response.status < 300 ∧
    response.body = String.ofList (objectText entries) ∧
    (∀ m ∈ entries, m.Spaced) ∧ (entries.map Entry.key).Nodup ∧
    LeftOut (entries.map Entry.key) Experiment.shape.fields vs ∧
    (∀ m ∈ entries, if m.key = "parameters" then GivesObject m.text members
      else Fits (Json.maxDepth - 1) m Experiment.shape.fields vs) ∧
    e = Experiment.ofValues vs ∧ e.parameters = .object members

theorem Reply.Delivers.ascending {r : Reply} {e : Experiment} (h : r.Delivers e)
    {members : List Member} (object : e.parameters = .object members) : Ascending members := by
  obtain ⟨response, entries, vs, given, -, -, -, -, -, -, leftOut, fits, rfl, object'⟩ := h
  rw [object'] at object
  cases object
  obtain ⟨id, name, description, kind, target, parameters, rest⟩ := vs
  cases object'
  -- the parameters are an object, so they were not left out
  have there : "parameters" ∈ entries.map Entry.key := by
    by_contra missing
    cases leftOut.2.2.2.2.2.1 missing
  obtain ⟨m, hm, key⟩ := List.mem_map.mp there
  have gives := fits m hm
  rw [if_pos key] at gives
  exact gives.ascending

theorem Reply.experiment_of_delivers {r : Reply} {e : Experiment} (h : r.Delivers e) :
    r.experiment = .ok e := by
  obtain ⟨response, entries, vs, members, rfl, low, high, body, spaced, distinct, leftOut, fits,
    rfl, object⟩ := h
  have written : Writes (Json.maxDepth - 1) entries Experiment.shape.fields vs := by
    refine ⟨spaced, fun m hm => ?_, distinct, leftOut⟩
    have given := fits m hm
    split at given
    · rename_i key
      obtain ⟨id, name, description, kind, target, parameters, rest⟩ := vs
      cases object
      simpa [Fits, key] using given.readsInside
    · exact given
  rw [Reply.experiment, Reply.value_of_accept (Reply.accept_of_success ⟨low, high⟩), body]
  exact Json.Record.readBody_objectText (by decide) written Experiment.ofValues

/-- **The token of an experiment is never shown, and everything else is.** Whether the service gives
the parameters as an object or as a string with its text, the experiment is read with the object.
Two experiments that differ in the token alone look the same: their parameters, the panel and the
whole page that show them, and all that a command line which asks for them prints. And every other
parameter is shown as it is, in the order of the keys. -/
theorem token_is_all_that_is_hidden :
    (∀ (r : Reply) (e : Experiment), r.Delivers e →
      r.experiment = .ok e ∧ ∀ members, e.parameters = .object members → Ascending members) ∧
    (∀ e e' : Experiment, e.AlikeButToken e' →
      parameterFields e.parameters = parameterFields e'.parameters ∧
      (∀ zone, Page.detailPanel zone (.experiment e) = Page.detailPanel zone (.experiment e')) ∧
      -- the page, once the reply has come to a dashboard that waits for it
      (∀ (d : Dashboard) (k : Nat) (call : Call) (id : String) (r r' : Reply),
        d.pending[k]? = some ⟨call, .finish (.viewExperiment id)⟩ →
        r.experiment = .ok e → r'.experiment = .ok e' →
        ∀ zone debug,
          (d.step (.deliver k r)).page zone debug = (d.step (.deliver k r')).page zone debug) ∧
      -- the command line, which is told the one or the other
      ∀ (zone : Time.Zone) (environment : Option String) (args : List String)
        (i : Terminal.Invocation) (id : String) (w : Terminal.World) (reply : Call → Reply),
        Terminal.Invocation.ofArguments environment args = .ok i →
        i.command = .operate (.viewExperiment id) false →
        (∀ base, (w.reply ((Endpoint.getExperiment id).call base)).experiment = .ok e) →
        (∀ base, (reply ((Endpoint.getExperiment id).call base)).experiment = .ok e') →
        (Terminal.commandLine zone environment args).run w =
          (Terminal.commandLine zone environment args).run { w with reply }) ∧
    ∀ members, Ascending members →
      (parameterFields (.object members)).map Prod.fst = members.map Prod.fst ∧
      ((parameterFields (.object members)).map Prod.fst).Pairwise (· < ·) ∧
      ∀ m ∈ members, m.1 ≠ "auth_token" →
        (m.1, match m.2 with
          | .string s => s
          | v => v.compact) ∈ parameterFields (.object members) := by
  refine ⟨?_, ?_, ?_⟩
  · intro r e delivers
    refine ⟨Reply.experiment_of_delivers delivers, ?_⟩
    intro members object
    exact delivers.ascending object
  · intro e e' alike
    refine ⟨alike.parameterFields_eq, alike.detailPanel_eq, ?_, ?_⟩
    · intro d k call id r r' out h h' zone debug
      rw [page_deliver_viewExperiment out h, page_deliver_viewExperiment out h']
      simp only [Dashboard.page, Option.map_some, alike.detailPanel_eq]
      rfl
    · intro zone environment args i id w reply asked command h h'
      exact Terminal.run_commandLine_alike alike zone asked command h h'
  · intro members ascending
    have keys : (parameterFields (.object members)).map Prod.fst = members.map Prod.fst := by
      simp [parameterFields]
    refine ⟨keys, keys ▸ ascending.keys, ?_⟩
    intro m hm shown
    rw [← parameterText_of_ne shown]
    exact List.mem_map_of_mem hm

/-- Parameters with a token. -/
def tokenMembers (token : String) : List Member :=
  [("auth_token", .string token), ("mode", .string "cold")]

/-- An experiment with these parameters. -/
def tokenExperiment (token : String) : Experiment :=
  { id := "e1", name := "outage", description := "", kind := .podFailure, target := "app=web"
    parameters := .object (tokenMembers token), duration := 60, status := .running
    createdAt := ⟨1704153600, 0⟩, updatedAt := none }

/-- The members of its record and one that nobody asked for, with some text of the parameters. -/
def tokenEntries (parameters : String) : List Entry :=
  [{ key := "parameters", text := parameters.toList },
    { space := ['\n', ' '], key := "owner", text := " \"ops\" ".toList },
    { key := "id", text := "\"e1\"".toList }, { key := "name", text := "\"outage\"".toList },
    { key := "type", text := "\"pod-failure\"".toList },
    { key := "target", text := "\"app=web\"".toList }, { key := "duration", text := "60".toList },
    { key := "status", text := "\"running\"".toList },
    { key := "created_at", text := "\"2024-01-02\"".toList }]

/-- A reply with these members. -/
def tokenReply (parameters : String) : Reply :=
  .response
    { status := 200, statusText := "OK"
      body := String.ofList (objectText (tokenEntries parameters)) }

theorem tokenReply_delivers {parameters token : String}
    (h : GivesObject parameters.toList (tokenMembers token)) :
    (tokenReply parameters).Delivers (tokenExperiment token) := by
  have success : 200 ≤ 200 ∧ 200 < 300 := by decide
  refine ⟨_, tokenEntries parameters, (tokenExperiment token).toValues, _, rfl, success.1,
    success.2, rfl, ?_, by simp [tokenEntries], ?_, ?_, rfl, rfl⟩
  · simp [tokenEntries, Entry.Spaced, Json.Cursor.isSpace]
  · simp [LeftOut, tokenEntries, tokenExperiment, Experiment.toValues]
  · simp only [tokenEntries, Char.isValue, String.reduceToList, List.mem_cons, List.not_mem_nil,
      or_false, Fits, ne_eq, forall_eq_or_imp, if_true, if_false, h, String.reduceEq,
      IsEmpty.forall_iff, not_false_eq_true, forall_const, true_and, not_true_eq_false, and_true,
      forall_eq]
    -- every other text is read as it stands
    refine ⟨?_, ?_, ?_, ?_, ?_, ?_, ?_, ?_⟩ <;>
      (rintro rest offset ⟨more, rfl | rfl⟩ <;> exact ⟨_, rfl, rfl⟩)

theorem ascending_tokenMembers (token : String) : Ascending (tokenMembers token) := by
  have order : "auth_token" < "mode" := by decide
  exact List.pairwise_pair.mpr order

theorem reads_tokenMembers (depth : Nat) (token : String) {written : List Member}
    (order : written.Perm (tokenMembers token)) :
    Json.Reads (Json.value (depth + 1)) (Json.compactInOrder written).toList
      (.object (tokenMembers token)) := by
  have some_member : written ≠ [] := by
    rintro rfl
    simpa [tokenMembers] using order.length_eq
  rw [← Json.sortMembers_of_perm (ascending_tokenMembers token) order]
  refine Json.reads_value_compactInOrder some_member fun m hm => ?_
  have strings : ∀ m ∈ tokenMembers token, ∃ s, m.2 = .string s := by simp [tokenMembers]
  obtain ⟨s, same⟩ := strings m (order.mem_iff.mp hm)
  rw [same]
  exact Json.reads_value_stringText depth s

/-- Two services that hold other tokens, one of which gives the parameters as an object and the
other as a string with its text, lead to the same output on the terminal. -/
theorem other_token_prints_the_same :
    let plain := tokenReply (Json.compactInOrder (tokenMembers "s3cret").reverse)
    let encoded := tokenReply
      (Json.compact (.string (Json.compactInOrder (tokenMembers "other"))))
    plain.Delivers (tokenExperiment "s3cret") ∧ encoded.Delivers (tokenExperiment "other") ∧
      (tokenExperiment "s3cret").AlikeButToken (tokenExperiment "other") ∧
      (Terminal.commandLine .utc none ["experiments", "show", "e1"]).run { reply := fun _ => plain } =
        (Terminal.commandLine .utc none ["experiments", "show", "e1"]).run
          { reply := fun _ => encoded } := by
  intro plain encoded
  have delivers : plain.Delivers (tokenExperiment "s3cret") :=
    tokenReply_delivers (.plain (reads_tokenMembers _ _ (List.reverse_perm _)).inside)
  have delivers' : encoded.Delivers (tokenExperiment "other") := by
    obtain ⟨after, whole⟩ := reads_tokenMembers (Json.maxDepth - 1) "other" (List.Perm.refl _) [] 0
    have inner : Json.read (Json.compactInOrder (tokenMembers "other")) =
        .ok (.object (tokenMembers "other")) := by
      rw [List.append_nil] at whole
      exact Json.readWith_eq_ok_iff.mpr ⟨⟨[], after⟩, whole, rfl⟩
    refine tokenReply_delivers (.encoded ?_ inner)
    rw [Json.compact, String.toList_ofList]
    exact (Json.reads_value_stringText _ _).inside
  have alike : (tokenExperiment "s3cret").AlikeButToken (tokenExperiment "other") := by
    refine ⟨rfl, _, _, rfl, rfl, ascending_tokenMembers _, ascending_tokenMembers _, ?_⟩
    intro key
    by_cases token : key = "auth_token" <;> simp [tokenMembers, Json.lookup_cons, token]
  obtain ⟨read, shown, -⟩ := token_is_all_that_is_hidden
  have h := (read _ _ delivers).1
  have h' := (read _ _ delivers').1
  refine ⟨delivers, delivers', alike, ?_⟩
  have asked : Terminal.Invocation.ofArguments none ["experiments", "show", "e1"] =
      .ok { command := .operate (.viewExperiment "e1") false } := rfl
  exact (shown _ _ alike).2.2.2 .utc none _ _ "e1" { reply := fun _ => plain } (fun _ => encoded)
    asked rfl (fun _ => h) (fun _ => h')

end FaultConsole
