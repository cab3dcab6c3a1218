import FaultConsole.Form.Basic
import FaultConsole.Outcome.Operation
import FaultConsole.Proofs.Json.Strings
import FaultConsole.Proofs.Model.RoundTrip

/-!
# A request that comes back as a record

What creates an experiment and what reports one are written and read by different parts, each with
its own names for the members. They meet at the service, which keeps what it was sent and gives it
back with an id, a status and a time added. It may give the parameters back as the object that was
sent or as a string with the JSON text of that object.

`echoed_request_reads_back` says that both are read as the experiment that was asked for. For the
object there is nothing to decode. For the string it matters that every parameter is a string
(`Parameters.members_strings`), since texts of strings read back whatever they hold.
-/

namespace FaultConsole

open Json.Record (decodeParameters instantOf ofJsonKind ofMembersJson_eq_ok_iff)

/-! ## What is sent -/

theorem optionalMember_strings {key : String} {value : Option String} {m : Json.Member}
    (h : m ∈ optionalMember key value) : ∃ s, m.2 = .string s := by
  cases value with
  | none => exact absurd h (by simp [optionalMember])
  | some s =>
      obtain rfl : m = (key, .string s) := by simpa [optionalMember] using h
      exact ⟨s, rfl⟩

namespace Parameters

/-- Every parameter is sent as a string. -/
theorem members_strings {p : Parameters} {m : Json.Member} (h : m ∈ p.members) :
    ∃ s, m.2 = .string s := by
  cases p with
  | external p =>
      simp only [members, List.mem_append] at h
      rcases h with (h | h) | h
      · simp only [List.mem_cons, List.not_mem_nil, or_false] at h
        rcases h with rfl | rfl | rfl <;> exact ⟨_, rfl⟩
      · exact optionalMember_strings h
      · exact optionalMember_strings h
  | workload p =>
      simp only [members, List.mem_cons, List.not_mem_nil, or_false] at h
      rcases h with rfl | rfl <;> exact ⟨_, rfl⟩

theorem members_ne_nil (p : Parameters) : p.members ≠ [] := by
  cases p <;> simp [members]

theorem keys_nodup (p : Parameters) : (p.members.map Prod.fst).Nodup := by
  cases p with
  | external p =>
      obtain ⟨endpoint, authToken, cleanupEndpoint⟩ := p
      cases authToken <;> cases cleanupEndpoint <;> simp [members, optionalMember]
  | workload p => simp [members]

/-- **The text of the parameters reads as the object**, in whatever order they are written. -/
theorem read_compactInOrder {p : Parameters} {order : List Json.Member}
    (same : order.Perm p.members) :
    Json.read (Json.compactInOrder order) = .ok (.ofMembers p.members) := by
  have some_member : order ≠ [] := by
    rintro rfl
    exact p.members_ne_nil same.nil_eq.symm
  have values : ∀ m ∈ order, Json.Reads (Json.value (Json.maxDepth - 1)) (Json.text m.2) m.2 := by
    intro m hm
    obtain ⟨s, string⟩ := members_strings (same.mem_iff.mp hm)
    rw [string]
    exact Json.reads_value_stringText _ s
  rw [Json.read_compactInOrder some_member values, Json.ofMembers, Json.ofMembers,
    Json.sortMembers_congr same.symm p.keys_nodup]

end Parameters

/-- The kind of a draft is one that its name stands for. -/
theorem ExperimentForm.ofName_kind_of_draft {f : ExperimentForm} {d : ExperimentDraft}
    (accepted : f.draft = .ok d) : Kind.ofName d.kind.name = d.kind := by
  unfold draft at accepted
  split at accepted
  · rename_i name kind target duration _ chosen _ _
    obtain ⟨parameters, -, same⟩ := bind_eq_ok_iff.mp accepted
    cases same
    obtain ⟨s, -, rfl⟩ := Option.map_eq_some_iff.mp chosen
    simp only [Kind.name_ofName]
  · cases accepted

/-! ## What comes back -/

/-- An object with more members, each in the place of the one with its key. -/
def Json.extended (more : List Json.Member) : Json → Json
  | .object members => .ofMembers (members ++ more)
  | v => v

theorem Json.member?_extended {own more : List Json.Member} (distinct : (own.map Prod.fst).Nodup)
    (key : String) :
    (Json.extended more (.ofMembers own)).member? key =
      (more.reverse.lookup key).or (own.reverse.lookup key) := by
  simp only [ofMembers, extended, member?]
  rw [lookup_sortMembers_append, sortMembers_sortMembers distinct, lookup_sortMembers,
    lookup_sortMembers]

namespace ExperimentDraft

/-- What a draft is kept as by the service, which adds three members and gives the parameters in a
form of its own. -/
def echo (d : ExperimentDraft) (id status createdAt : String) (parameters : Json) : Json :=
  d.toJson.extended [("id", .string id), ("status", .string status),
    ("created_at", .string createdAt), ("parameters", parameters)]

theorem parameters_toJson (d : ExperimentDraft) :
    d.toJson.member? "parameters" = some (.ofMembers d.parameters.members) := by
  rw [toJson, Json.ofMembers, Json.member?, Json.lookup_sortMembers]
  rfl

/-- What comes back is read as the experiment that was asked for, with the parameters that are
read. -/
theorem ofJson_echo {d : ExperimentDraft} (kind : Kind.ofName d.kind.name = d.kind)
    (id status : String) {createdAt : String} {t : Time.Instant}
    (time : Time.Instant.parse? createdAt = some t) (returned : Json) :
    Experiment.ofJson (d.echo id status createdAt returned) =
      .ok { id, name := d.name, description := d.description, kind := d.kind, target := d.target
            parameters := decodeParameters (fun s => (Json.read s).toOption) returned
            duration := d.duration, status := .ofName status, createdAt := t
            updatedAt := none } := by
  have held : ∀ key, (d.echo id status createdAt returned).member? key = _ :=
    Json.member?_extended (by simp)
  refine map_eq_ok_iff.mpr ⟨(id, d.name, d.description, d.kind.name, d.target,
    decodeParameters (fun s => (Json.read s).toOption) returned, d.duration, status, t, none, ()),
    ofMembersJson_eq_ok_iff.mpr ?_, ?_⟩
  · refine
      ⟨Or.inl ⟨.string id, held "id", rfl⟩,
        Or.inl ⟨.string d.name, held "name", rfl⟩,
        Or.inl ⟨.string d.description, held "description", rfl⟩,
        Or.inl ⟨.string d.kind.name, held "type", rfl⟩,
        Or.inl ⟨.string d.target, held "target", rfl⟩,
        Or.inl ⟨returned, held "parameters", rfl⟩,
        Or.inl ⟨.int d.duration, held "duration", ?_⟩,
        Or.inl ⟨.string status, held "status", rfl⟩,
        Or.inl ⟨.string createdAt, held "created_at", ?_⟩,
        Or.inr ⟨held "updated_at", rfl⟩, trivial⟩
    · simp [ofJsonKind]
    · simp only [ofJsonKind, instantOf, time]
  · simp only [Experiment.ofValues, kind]

end ExperimentDraft

/-- **A request that comes back is read as what was asked for.** The parameters that are sent are an
object of strings. Whether the service gives them back as that object or as a string with its
text, and whatever id, status and time it adds, the record is read as the same experiment: the one
of the request, with these parameters. -/
theorem echoed_request_reads_back {f : ExperimentForm} {d : ExperimentDraft}
    (accepted : f.draft = .ok d) :
    ∃ ms, d.toJson.member? "parameters" = some (.object ms) ∧
      (∀ m ∈ ms, ∃ s, m.2 = .string s) ∧
      ∀ id status createdAt t, Time.Instant.parse? createdAt = some t →
        ∀ returned, returned = .object ms ∨ returned = .string (Json.compact (.object ms)) →
          Experiment.ofJson (d.echo id status createdAt returned) =
            .ok { id, name := d.name, description := d.description, kind := d.kind
                  target := d.target, parameters := .object ms, duration := d.duration
                  status := .ofName status, createdAt := t, updatedAt := none } := by
  have sorted := Json.sortMembers_perm d.parameters.keys_nodup
  refine ⟨Json.sortMembers d.parameters.members, d.parameters_toJson, ?_, ?_⟩
  · intro m hm
    exact Parameters.members_strings (sorted.mem_iff.mp hm)
  · intro id status createdAt t time returned form
    have decoded : decodeParameters (fun s => (Json.read s).toOption) returned =
        .ofMembers d.parameters.members := by
      rcases form with rfl | rfl
      · rfl
      · have text : Json.compact (.object (Json.sortMembers d.parameters.members)) =
            Json.compactInOrder (Json.sortMembers d.parameters.members) := rfl
        simp only [decodeParameters, text, Parameters.read_compactInOrder sorted, Except.toOption,
          Option.getD_some]
    have kind := ExperimentForm.ofName_kind_of_draft accepted
    rw [ExperimentDraft.ofJson_echo kind id status time returned, decoded]
    rfl

/-- A form with quotes, a backslash and a line break. -/
def quotedForm : ExperimentForm :=
  { name := " say \"no\" ", target := "app=web", duration := "+060"
    external := { endpoint := "C:\\chaos\nC:\\order", authToken := "\"" } }

/-- The draft of that form. -/
def quotedDraft : ExperimentDraft :=
  { name := "say \"no\"", description := "", kind := .externalTarget, target := "app=web"
    parameters := .external
      { endpoint := "C:\\chaos\nC:\\order", authToken := some "\"", cleanupEndpoint := none }
    duration := 60 }

/-- The text of its parameters, with each of these characters escaped, is decoded. -/
theorem quoted_request_reads_back :
    quotedForm.draft = .ok quotedDraft ∧
      Experiment.ofJson (quotedDraft.echo "e1" "queued" "2024-01-02" (.string
        ("\x7b\"auth_token\":\"\\\"\",\"endpoint\":\"C:\\\\chaos\\nC:\\\\order\"," ++
          "\"target_type\":\"external\",\"type\":\"service-failure\"\x7d"))) =
        .ok { id := "e1", name := "say \"no\"", description := "", kind := .externalTarget
              target := "app=web"
              parameters := .object [("auth_token", .string "\""),
                ("endpoint", .string "C:\\chaos\nC:\\order"), ("target_type", .string "external"),
                ("type", .string "service-failure")]
              duration := 60, status := .other "queued", createdAt := ⟨1704153600, 0⟩
              updatedAt := none } := by
  refine ⟨rfl, ?_⟩
  obtain ⟨ms, posted, -, read⟩ := echoed_request_reads_back (f := quotedForm) (d := quotedDraft) rfl
  cases posted
  exact read "e1" "queued" "2024-01-02" ⟨1704153600, 0⟩ rfl _ (Or.inr rfl)

end FaultConsole
