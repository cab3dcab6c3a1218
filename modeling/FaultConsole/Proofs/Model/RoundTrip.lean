import FaultConsole.Model.Experiment
import FaultConsole.Model.Target
import FaultConsole.Proofs.Json.Records

/-!
# Experiments and targets that are written and read back

The records of experiments and of targets are two shapes, so what holds of every shape holds of
them. Two steps remain. A kind and a status are kept as they are if they are not known, and their
names say which they are (`Kind.name_ofName`, `Status.name_ofName`); what is known has a name of its own
(`Kind.ofName_name`, `Status.ofName_name`). And parameters are decoded each
time they are read: a string that is JSON text stands for what it encodes, but it is encoded again
by nobody. So one record does not read back as itself, the one whose parameters are still a string
of JSON text after they were decoded once.
-/

namespace FaultConsole

open Json.Record
  (decodeParameters ofJson_toMembers FallbacksWellFormed Kind.instants Values.instants)

/-! ## Names -/

theorem Kind.name_ofName (s : String) : (Kind.ofName s).name = s := by
  unfold ofName
  split <;> rfl

/-- A kind that is known here is the one with its name. -/
theorem Kind.ofName_name {k : Kind} (known : ∀ s, k ≠ other s) : Kind.ofName k.name = k := by
  cases k with
  | other s => exact absurd rfl (known s)
  | _ => rfl

theorem Status.name_ofName (s : String) : (Status.ofName s).name = s := by
  unfold ofName
  split <;> rfl

/-- A status that is known here is the one with its name. -/
theorem Status.ofName_name {st : Status} (known : ∀ s, st ≠ other s) :
    Status.ofName st.name = st := by
  cases st with
  | other s => exact absurd rfl (known s)
  | _ => rfl

/-! ## Records -/

/-- The year of an instant, in UTC, is one of those written with four digits. -/
def Time.Instant.HasPlainYear (t : Time.Instant) : Prop := 0 ≤ t.date.year ∧ t.date.year ≤ 9999

instance (t : Time.Instant) : Decidable t.HasPlainYear := inferInstanceAs (Decidable (_ ∧ _))

namespace Experiment

theorem toValues_ofValues (vs : Json.Record.Values shape.fields) :
    (ofValues vs).toValues = vs := by
  obtain ⟨id, name, description, kind, target, parameters, duration, status, createdAt,
    updatedAt, ⟨⟩⟩ := vs
  simp only [ofValues, toValues, Kind.name_ofName, Status.name_ofName]

theorem fallbacksWellFormed : FallbacksWellFormed shape.fields := by
  simp [FallbacksWellFormed, Kind.instants]

theorem instants_havePlainYears {vs : Json.Record.Values shape.fields}
    (created : (ofValues vs).createdAt.HasPlainYear)
    (updated : ∀ t ∈ (ofValues vs).updatedAt, t.HasPlainYear) :
    ∀ t ∈ Values.instants shape.fields vs, t.HasPlainYear := by
  obtain ⟨id, name, description, kind, target, parameters, duration, status, createdAt,
    updatedAt, ⟨⟩⟩ := vs
  simp only [Values.instants, Kind.instants, List.nil_append, List.append_nil,
    List.singleton_append, List.forall_mem_cons, Option.mem_toList]
  exact ⟨created, updated⟩

/-- An experiment that was read reads back, with its parameters decoded once more. -/
theorem ofJson_toJson {v : Json} {e : Experiment} (h : ofJson v = .ok e)
    (created : e.createdAt.HasPlainYear) (updated : ∀ t ∈ e.updatedAt, t.HasPlainYear) :
    ofJson e.toJson =
      .ok { e with
        parameters := decodeParameters (fun s => (Json.read s).toOption) e.parameters } := by
  obtain ⟨vs, read, rfl⟩ := map_eq_ok_iff.mp h
  have back := ofJson_toMembers (by decide) fallbacksWellFormed read
    (instants_havePlainYears created updated)
  simp only [ofJson, toJson, members, toValues_ofValues, back]
  rfl

end Experiment

namespace Target

theorem toValues_ofValues (vs : Json.Record.Values shape.fields) :
    (ofValues vs).toValues = vs := rfl

theorem fallbacksWellFormed : FallbacksWellFormed shape.fields := by
  simp [FallbacksWellFormed, Kind.instants]

theorem instants_havePlainYears {vs : Json.Record.Values shape.fields}
    (created : (ofValues vs).createdAt.HasPlainYear)
    (updated : ∀ t ∈ (ofValues vs).updatedAt, t.HasPlainYear) :
    ∀ t ∈ Values.instants shape.fields vs, t.HasPlainYear := by
  obtain ⟨id, name, description, kind, scope, selector, createdAt, updatedAt, ⟨⟩⟩ := vs
  simp only [Values.instants, Kind.instants, List.nil_append, List.append_nil,
    List.singleton_append, List.forall_mem_cons, Option.mem_toList]
  exact ⟨created, updated⟩

/-- A target that was read reads back. -/
theorem ofJson_toJson {v : Json} {t : Target} (h : ofJson v = .ok t)
    (created : t.createdAt.HasPlainYear) (updated : ∀ u ∈ t.updatedAt, u.HasPlainYear) :
    ofJson t.toJson = .ok t := by
  obtain ⟨vs, read, rfl⟩ := map_eq_ok_iff.mp h
  have back := ofJson_toMembers (by decide) fallbacksWellFormed read
    (instants_havePlainYears created updated)
  simp only [ofJson, toJson, members, toValues_ofValues, back]
  rfl

end Target

/-! ## Both records -/

/-- **What was read reads back.** An experiment and a target that were read from any value, and
whose years have four digits, are the same after they are written and read again: with a kind and a
status that are not known, without an update, with every fraction of a second, and in a leap
second. The one exception is an experiment whose parameters are a string of JSON text: they are
replaced by the value of that text, and nothing else changes. -/
theorem records_read_back :
    (∀ v e, Experiment.ofJson v = .ok e →
      e.createdAt.HasPlainYear → (∀ t ∈ e.updatedAt, t.HasPlainYear) →
        ((∀ s w, e.parameters = .string s → Json.read s ≠ .ok w) →
          Experiment.ofJson e.toJson = .ok e) ∧
        ∀ s w, e.parameters = .string s → Json.read s = .ok w →
          Experiment.ofJson e.toJson = .ok { e with parameters := w }) ∧
    ∀ v t, Target.ofJson v = .ok t →
      t.createdAt.HasPlainYear → (∀ u ∈ t.updatedAt, u.HasPlainYear) →
        Target.ofJson t.toJson = .ok t := by
  refine ⟨?_, fun v t h created updated => Target.ofJson_toJson h created updated⟩
  intro v e h created updated
  have back := Experiment.ofJson_toJson h created updated
  constructor
  · intro kept
    have same : decodeParameters (fun s => (Json.read s).toOption) e.parameters = e.parameters := by
      cases holds : e.parameters with
      | string s =>
          cases read : Json.read s with
          | ok w => exact absurd read (kept s w holds)
          | error f => simp [decodeParameters, read, Except.toOption]
      | _ => rfl
    rw [back, same]
  · intro s w holds read
    rw [back]
    simp [decodeParameters, holds, read, Except.toOption]

/-- A record that can be read as an experiment and as a target. It is of a leap second and of a
kind that is not known, and its parameters are JSON text twice over. -/
def leapSecondRecord : Json :=
  .ofMembers [("id", .string "r1"), ("name", .string "reset"), ("type", .string "time-warp"),
    ("target", .string "app=web"), ("namespace", .string "default"),
    ("selector", .string "app=web"), ("parameters", .string "\"7\""), ("duration", .int 60),
    ("status", .string "cancelled"), ("created_at", .string "2016-12-31T23:59:60.123456789Z")]

/-- The experiment of that record. -/
def leapSecondExperiment : Experiment :=
  { id := "r1", name := "reset", description := "", kind := .other "time-warp", target := "app=web"
    parameters := .string "7", duration := 60, status := .other "cancelled"
    createdAt := ⟨1483228799, 1123456789⟩, updatedAt := none }

/-- The target of that record. -/
def leapSecondTarget : Target :=
  { id := "r1", name := "reset", description := "", kind := "time-warp", scope := "default"
    selector := "app=web", createdAt := ⟨1483228799, 1123456789⟩, updatedAt := none }

/-- The experiment's parameters are decoded twice, and then it reads back as the target does. -/
theorem leap_second_record_reads_back :
    Experiment.ofJson leapSecondRecord = .ok leapSecondExperiment ∧
      Experiment.ofJson leapSecondExperiment.toJson =
        .ok { leapSecondExperiment with parameters := .int 7 } ∧
      Experiment.ofJson { leapSecondExperiment with parameters := .int 7 }.toJson =
        .ok { leapSecondExperiment with parameters := .int 7 } ∧
      Target.ofJson leapSecondRecord = .ok leapSecondTarget ∧
      Target.ofJson leapSecondTarget.toJson = .ok leapSecondTarget := by
  have year : leapSecondExperiment.createdAt.HasPlainYear := by decide
  have second : Experiment.ofJson leapSecondExperiment.toJson =
      .ok { leapSecondExperiment with parameters := .int 7 } :=
    (records_read_back.1 leapSecondRecord leapSecondExperiment rfl year nofun).2
      "7" (.int 7) rfl rfl
  have third := (records_read_back.1 _ _ second year nofun).1 nofun
  exact ⟨rfl, second, third, rfl,
    records_read_back.2 leapSecondRecord leapSecondTarget rfl year nofun⟩

end FaultConsole
