import FaultConsole.Service.Endpoint
import FaultConsole.Proofs.Text.Percent

/-!
# What an address says

A request to the service is a method and an address, and the service has nothing else to tell from
which operation is meant, and for which record. `method_and_url_determine_endpoint` says that this
is enough, whatever the base is and whatever the ids are: an id is one segment of the path, so no id
can add a segment, or take one away, and be taken for another operation.

An address is compared by the texts between its slashes (`slashParts`). Those of the base come
first, then the segments of the operation (`slashParts_url`).
-/

namespace FaultConsole

open Text.Percent (encode decode? IsSegment isSegment_encode decode?_encode)

/-! ## Between the slashes -/

/-- The texts between the slashes of a text, in order. -/
def slashParts (s : String) : List String := (s.toList.splitOn '/').map String.ofList

/-- A segment behind a text is one more part. -/
theorem slashParts_append {segment : String} (h : '/' ∉ segment.toList) (front : String) :
    slashParts (front ++ ("/" ++ segment)) = slashParts front ++ [segment] := by
  have split : (front ++ ("/" ++ segment)).toList = front.toList ++ '/' :: segment.toList := by
    simp
  rw [slashParts, split, List.splitOn_append_cons_self, List.splitOn_eq_singleton h]
  simp [slashParts]

/-- So are several, one behind the other. -/
theorem slashParts_append_join {segments : List String} (h : ∀ s ∈ segments, '/' ∉ s.toList)
    (front : String) :
    slashParts (front ++ String.join (segments.map ("/" ++ ·))) =
      slashParts front ++ segments := by
  induction segments generalizing front with
  | nil => simp
  | cons s segments ih =>
      have rest := ih (fun t ht => h t (List.mem_cons_of_mem s ht)) (front ++ ("/" ++ s))
      rw [slashParts_append (h s List.mem_cons_self)] at rest
      simpa [String.append_assoc] using rest

namespace Endpoint

/-- The segments of an operation's path. -/
def segments : Endpoint → List String
  | listExperiments | createExperiment => ["experiments"]
  | getExperiment id | deleteExperiment id => ["experiments", encode id]
  | executeExperiment id => ["experiments", encode id, "execute"]
  | listTargets | createTarget => ["targets"]
  | deleteTarget id => ["targets", encode id]

theorem path_eq (e : Endpoint) : e.path = String.join (e.segments.map ("/" ++ ·)) := by
  rw [← String.toList_inj]
  cases e <;> simp [path, segments]

theorem slash_not_mem_segments (e : Endpoint) : ∀ s ∈ e.segments, '/' ∉ s.toList := by
  have id : ∀ id, '/' ∉ (encode id).toList := fun id => (isSegment_encode id).slash_not_mem
  cases e <;> simp [segments, id]

/-- **The parts of an address are those of the base, then the segments of the operation.** -/
theorem slashParts_url (base : String) (e : Endpoint) (body : Option Json) :
    slashParts (e.call base body).url = slashParts base ++ e.segments := by
  rw [call, path_eq]
  exact slashParts_append_join e.slash_not_mem_segments base

/-- The method and the segments say which operation it is, and for which record. -/
theorem eq_of_segments {e e' : Endpoint} (method : e.method = e'.method)
    (segments : e.segments = e'.segments) : e = e' := by
  cases e <;> cases e' <;> simp_all [Endpoint.segments, Endpoint.method]

end Endpoint

/-- **The method and the address of a request determine the operation and the id.** Behind any
base, two requests share both only if they are for the same operation on the same record. The id,
whatever text it is, is one of the texts between the slashes of the address. That text is made of
unreserved characters and escapes, and it is decoded to the id. -/
theorem method_and_url_determine_endpoint (base : String) :
    (∀ (e e' : Endpoint) (body body' : Option Json),
      ((e.call base body).method = (e'.call base body').method ∧
        (e.call base body).url = (e'.call base body').url) ↔ e = e') ∧
    ∀ id : String, ∃ segment : String,
      IsSegment segment.toList ∧ (∀ c ∈ segment.toList, c.toNat < 128) ∧
      decode? segment = some id ∧
      slashParts ((Endpoint.getExperiment id).call base).url =
        slashParts base ++ ["experiments", segment] ∧
      slashParts ((Endpoint.executeExperiment id).call base).url =
        slashParts base ++ ["experiments", segment, "execute"] ∧
      slashParts ((Endpoint.deleteExperiment id).call base).url =
        slashParts base ++ ["experiments", segment] ∧
      slashParts ((Endpoint.deleteTarget id).call base).url =
        slashParts base ++ ["targets", segment] := by
  constructor
  · intro e e' body body'
    constructor
    · rintro ⟨method, url⟩
      have parts := congrArg slashParts url
      rw [Endpoint.slashParts_url, Endpoint.slashParts_url] at parts
      exact Endpoint.eq_of_segments method (List.append_cancel_left parts)
    · rintro rfl
      exact ⟨rfl, rfl⟩
  · intro id
    have segment := isSegment_encode id
    exact ⟨encode id, segment, segment.toNat_lt, decode?_encode id,
      Endpoint.slashParts_url base _ none, Endpoint.slashParts_url base _ none,
      Endpoint.slashParts_url base _ none, Endpoint.slashParts_url base _ none⟩

end FaultConsole
