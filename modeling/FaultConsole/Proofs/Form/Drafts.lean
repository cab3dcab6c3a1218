import FaultConsole.Form.Basic
import FaultConsole.Proofs.Decimal.Numerals
import FaultConsole.Proofs.Json.Reading
import FaultConsole.Proofs.Model.RoundTrip
import FaultConsole.Proofs.Text.Blank

/-!
# When a form makes a draft

Five fields of the experiment form decide together whether it can be sent. Four of them have to be
filled in (`IsFilledIn`), which for the duration means that it is the numeral of a number of seconds
(`SaysSeconds`). The fifth is the share of a workload (`IsInRange`), which counts for a workload only.

What is typed into the part of the form that is hidden counts for nothing (`LooksLike`), neither for
what is sent nor for whether it can be. For that the kind has to be asked before the share is.
-/

namespace FaultConsole

open Text (isBlankText trim)

/-! ## Fields -/

theorem nonBlank?_eq (s : String) : nonBlank? s = if isBlankText s then none else some (trim s) := by
  simp only [nonBlank?, Text.isEmpty_trim]

theorem nonBlank?_eq_some_iff {s t : String} :
    nonBlank? s = some t ↔ isBlankText s = false ∧ t = trim s := by
  rw [nonBlank?_eq]
  cases isBlankText s <;> simp [eq_comm]

/-- A text says a number of seconds, from 1 to what 64 bits hold: once trimmed it is the numeral of
the number, perhaps with zeros and a plus sign in front. -/
def SaysSeconds (s : String) (n : Nat) : Prop :=
  (∃ (sign : List Char) (zeros : Nat), (sign = [] ∨ sign = ['+']) ∧
    (trim s).toList = sign ++ (List.replicate zeros '0' ++ (toString n).toList)) ∧
  1 ≤ n ∧ n < 2 ^ 64

/-- What follows the sign. -/
def unsigned : List Char → List Char
  | '+' :: rest => rest
  | cs => cs

theorem exists_sign (cs : List Char) :
    ∃ sign, (sign = [] ∨ sign = ['+']) ∧ cs = sign ++ unsigned cs := by
  unfold unsigned
  split
  · exact ⟨['+'], Or.inr rfl, rfl⟩
  · exact ⟨[], Or.inl rfl, rfl⟩

theorem unsigned_append {sign digits : List Char} (known : sign = [] ∨ sign = ['+'])
    (h : ∀ c ∈ digits, c.isDigit = true) : unsigned (sign ++ digits) = digits := by
  rcases known with rfl | rfl
  · rw [List.nil_append]
    unfold unsigned
    split
    · exact absurd (h '+' List.mem_cons_self) (by decide)
    · rfl
  · rfl

theorem duration?_eq_some_iff_unsigned {s : String} {digits : List Char}
    (h : unsigned (Text.trimmed s.toList) = digits) {n : Nat} :
    duration? s = some n ↔ digits ≠ [] ∧ (∀ c ∈ digits, c.isDigit = true) ∧
      Decimal.digitsValue digits = n ∧ 1 ≤ n ∧ n < 2 ^ 64 := by
  have unfolded : duration? s =
      if digits.isEmpty || !digits.all Char.isDigit then none
      else
        let n := Decimal.digitsValue digits
        if 1 ≤ n ∧ n < 2 ^ 64 then some n else none := by
    rw [← h]
    rfl
  rw [unfolded]
  by_cases readable : digits ≠ [] ∧ ∀ c ∈ digits, c.isDigit = true
  · obtain ⟨some_digit, all⟩ := readable
    rw [if_neg (by simpa [some_digit] using all)]
    simp only [Option.ite_none_right_eq_some, Option.some.injEq]
    constructor
    · rintro ⟨inRange, rfl⟩
      exact ⟨some_digit, all, rfl, inRange⟩
    · rintro ⟨-, -, rfl, inRange⟩
      exact ⟨inRange, rfl⟩
  · rw [if_pos (by simpa [or_iff_not_imp_left] using readable)]
    exact ⟨nofun, fun h => absurd ⟨h.1, h.2.1⟩ readable⟩

/-- **A duration is a text that says a number of seconds.** -/
theorem duration?_eq_some_iff {s : String} {n : Nat} : duration? s = some n ↔ SaysSeconds s n := by
  rw [SaysSeconds, Text.toList_trim, Nat.toString_eq_repr, Nat.toList_repr]
  constructor
  · intro read
    obtain ⟨some_digit, all, rfl, inRange⟩ := (duration?_eq_some_iff_unsigned rfl).mp read
    obtain ⟨sign, known, split⟩ := exists_sign (Text.trimmed s.toList)
    obtain ⟨zeros, numeral⟩ := Decimal.exists_zeros some_digit all
    exact ⟨⟨sign, zeros, known, numeral ▸ split⟩, inRange⟩
  · rintro ⟨⟨sign, zeros, known, split⟩, inRange⟩
    have all : ∀ c ∈ List.replicate zeros '0' ++ Nat.toDigits 10 n, c.isDigit = true :=
      fun c hc => Decimal.isDigit_of_mem_zeros_append hc
    refine (duration?_eq_some_iff_unsigned (split ▸ unsigned_append known all)).mpr ?_
    exact ⟨by simp, all, Decimal.digitsValue_zeros_append zeros n, inRange⟩

/-! ## The kind -/

theorem Kind.isExternal_ofName (s : String) :
    (Kind.ofName s).isExternal = decide (s = "external-target") := by
  rw [Bool.eq_iff_iff, decide_eq_true_eq, isExternal, beq_iff_eq]
  constructor
  · intro external
    rw [← Kind.name_ofName s, external]
    rfl
  · rintro rfl
    exact Kind.ofName_name (k := externalTarget) fun s other => by cases other

namespace ExperimentForm

theorem chosenKind?_eq (f : ExperimentForm) :
    f.chosenKind? = if isBlankText f.kind then none else some (Kind.ofName (trim f.kind)) := by
  rw [chosenKind?, nonBlank?_eq]
  cases isBlankText f.kind <;> rfl

/-- The part for external services is the visible one just where the kind is theirs. -/
theorem showsExternal_iff {f : ExperimentForm} :
    f.showsExternal = true ↔ trim f.kind = "external-target" := by
  rw [showsExternal, chosenKind?_eq]
  cases blank : isBlankText f.kind with
  | true =>
      rw [← Text.isEmpty_trim, String.isEmpty_iff] at blank
      simp [blank]
  | false => simp [Kind.isExternal_ofName]

/-! ## Accepted forms -/

/-- The four fields that are required are filled in. -/
structure IsFilledIn (f : ExperimentForm) : Prop where
  name : isBlankText f.name = false
  kind : isBlankText f.kind = false
  target : isBlankText f.target = false
  duration : ∃ n, SaysSeconds f.duration n

/-- The share of a workload is at most the whole; an external service has none. -/
def IsInRange (f : ExperimentForm) : Prop :=
  trim f.kind = "external-target" ∨ f.workload.percentage ≤ 100

/-- The parameters that the visible part of the form asks for. What is optional is left out where
nothing is typed. -/
def visibleParameters (f : ExperimentForm) : Parameters :=
  let given (s : String) : Option String := if isBlankText s then none else some (trim s)
  if f.showsExternal then
    .external
      { endpoint := trim f.external.endpoint
        authToken := given f.external.authToken
        cleanupEndpoint := given f.external.cleanupEndpoint }
  else .workload { scope := trim f.workload.scope, percentage := f.workload.percentage }

/-- A draft is the one that the form asks for: it holds every field as it was typed, but trimmed. -/
structure AsksFor (f : ExperimentForm) (d : ExperimentDraft) : Prop where
  name : d.name = trim f.name
  description : d.description = trim f.description
  kind : d.kind.name = trim f.kind
  target : d.target = trim f.target
  duration : SaysSeconds f.duration d.duration
  parameters : d.parameters = f.visibleParameters

theorem isExternal_chosen (f : ExperimentForm) :
    (Kind.ofName (trim f.kind)).isExternal = f.showsExternal := by
  rw [Bool.eq_iff_iff, showsExternal_iff, Kind.isExternal_ofName, decide_eq_true_eq]

theorem parametersFor_of_isInRange {f : ExperimentForm} (h : f.IsInRange) :
    f.parametersFor (Kind.ofName (trim f.kind)) = .ok f.visibleParameters := by
  rw [parametersFor, isExternal_chosen, visibleParameters, nonBlank?_eq, nonBlank?_eq]
  cases external : f.showsExternal with
  | true => rfl
  | false =>
      rw [IsInRange, ← showsExternal_iff, external] at h
      have few : ¬100 < f.workload.percentage := Nat.not_lt.mpr (h.resolve_left Bool.false_ne_true)
      simp only [Bool.false_eq_true, if_false, if_neg few]

theorem parametersFor_of_not_isInRange {f : ExperimentForm} (h : ¬f.IsInRange) :
    f.parametersFor (Kind.ofName (trim f.kind)) = .error (.validation percentageRange) := by
  rw [IsInRange, ← showsExternal_iff, not_or, Nat.not_le] at h
  rw [parametersFor, isExternal_chosen, if_neg h.1, if_pos h.2]

/-- The draft of a form's own fields, with some parameters and a duration. -/
def ownDraft (f : ExperimentForm) (duration : Nat) (parameters : Parameters) : ExperimentDraft where
  name := trim f.name
  description := trim f.description
  kind := Kind.ofName (trim f.kind)
  target := trim f.target
  parameters := parameters
  duration := duration

/-- Only the parameters can be wrong in a form whose required fields are filled in. -/
theorem draft_of_isFilledIn {f : ExperimentForm} (h : f.IsFilledIn) :
    ∃ n, SaysSeconds f.duration n ∧
      f.draft = (f.parametersFor (Kind.ofName (trim f.kind))).map (f.ownDraft n) := by
  obtain ⟨n, spelled⟩ := h.duration
  refine ⟨n, spelled, ?_⟩
  rw [draft, nonBlank?_eq, h.name, chosenKind?_eq, h.kind, nonBlank?_eq, h.target,
    duration?_eq_some_iff.mpr spelled]
  rfl

theorem draft_of_not_isFilledIn {f : ExperimentForm} (h : ¬f.IsFilledIn) :
    f.draft = .error (.validation requiredFields) := by
  unfold draft
  split
  · rename_i name kind target duration hasName hasKind hasTarget hasDuration
    obtain ⟨typed, hasKind, -⟩ := Option.map_eq_some_iff.mp hasKind
    exact absurd ⟨(nonBlank?_eq_some_iff.mp hasName).1, (nonBlank?_eq_some_iff.mp hasKind).1,
      (nonBlank?_eq_some_iff.mp hasTarget).1, duration, duration?_eq_some_iff.mp hasDuration⟩ h
  · rfl

theorem draft_of_not_isInRange {f : ExperimentForm} (h : f.IsFilledIn) (large : ¬f.IsInRange) :
    f.draft = .error (.validation percentageRange) := by
  obtain ⟨n, -, made⟩ := draft_of_isFilledIn h
  rw [made, parametersFor_of_not_isInRange large]
  rfl

theorem exists_draft {f : ExperimentForm} (h : f.IsFilledIn) (inRange : f.IsInRange) :
    ∃ d, f.draft = .ok d ∧ f.AsksFor d := by
  obtain ⟨n, spelled, made⟩ := draft_of_isFilledIn h
  rw [parametersFor_of_isInRange inRange, Except.map] at made
  refine ⟨f.ownDraft n f.visibleParameters, made, ?_⟩
  constructor
  case kind => simp only [ownDraft, Kind.name_ofName]
  case duration => simpa only [ownDraft] using spelled
  all_goals simp only [ownDraft]

/-- There are no other drafts. -/
theorem accepted_of_draft {f : ExperimentForm} {d : ExperimentDraft} (made : f.draft = .ok d) :
    f.IsFilledIn ∧ f.IsInRange := by
  by_contra refused
  by_cases filled : f.IsFilledIn
  · rw [draft_of_not_isInRange filled fun inRange => refused ⟨filled, inRange⟩] at made
    cases made
  · rw [draft_of_not_isFilledIn filled] at made
    cases made

theorem asksFor_of_draft {f : ExperimentForm} {d : ExperimentDraft} (made : f.draft = .ok d) :
    f.AsksFor d := by
  obtain ⟨filled, inRange⟩ := accepted_of_draft made
  obtain ⟨d', made', asked⟩ := exists_draft filled inRange
  rw [made] at made'
  cases made'
  exact asked

/-- A form that makes no draft only complains of what was entered. -/
theorem exists_validation_of_draft {f : ExperimentForm} {p : Problem} (h : f.draft = .error p) :
    ∃ message, p = .validation message := by
  by_cases filled : f.IsFilledIn
  · by_cases inRange : f.IsInRange
    · obtain ⟨d, made, -⟩ := exists_draft filled inRange
      rw [made] at h
      cases h
    · rw [draft_of_not_isInRange filled inRange] at h
      cases h
      exact ⟨percentageRange, rfl⟩
  · rw [draft_of_not_isFilledIn filled] at h
    cases h
    exact ⟨requiredFields, rfl⟩

/-! ## What is hidden -/

/-- A form looks like another: they agree in everything but the part that is hidden. -/
structure LooksLike (f g : ExperimentForm) : Prop where
  name : g.name = f.name
  description : g.description = f.description
  kind : g.kind = f.kind
  target : g.target = f.target
  duration : g.duration = f.duration
  external : f.showsExternal = true → g.external = f.external
  workload : f.showsExternal = false → g.workload = f.workload

theorem LooksLike.parametersFor_eq {f g : ExperimentForm} (h : f.LooksLike g) {kind : Kind}
    (chosen : f.chosenKind? = some kind) : g.parametersFor kind = f.parametersFor kind := by
  have shown : f.showsExternal = kind.isExternal := by
    rw [showsExternal, chosen]
    rfl
  unfold parametersFor
  cases external : kind.isExternal with
  | true => rw [h.external (shown.trans external), if_pos rfl, if_pos rfl]
  | false => rw [h.workload (shown.trans external), if_neg Bool.false_ne_true,
      if_neg Bool.false_ne_true]

theorem LooksLike.draft_eq {f g : ExperimentForm} (h : f.LooksLike g) : g.draft = f.draft := by
  have chosen : g.chosenKind? = f.chosenKind? := by rw [chosenKind?, chosenKind?, h.kind]
  unfold draft
  rw [h.name, h.description, h.target, h.duration, chosen]
  split
  · rename_i hasKind _ _
    rw [h.parametersFor_eq hasKind]
  · rfl

/-- Of several kinds that are chosen one after another only the last one is kept. -/
theorem setKind_foldl (f : ExperimentForm) (kinds : List String) (kind : String) :
    (kinds.foldl (fun f kind => f.setKind kind) f).setKind kind = f.setKind kind := by
  induction kinds generalizing f with
  | nil => rfl
  | cons first kinds ih => exact ih (f.setKind first)

end ExperimentForm

/-- A form that makes no draft only complains of what was entered. -/
theorem TargetForm.exists_validation_of_draft {f : TargetForm} {p : Problem}
    (h : f.draft = .error p) : ∃ message, p = .validation message := by
  unfold draft at h
  split at h
  · cases h
  · cases h
    exact ⟨requiredFields, rfl⟩

/-- **A form makes a draft just where it is filled in and in range**, and the draft is the one that it
asks for. Otherwise it says what is wrong, and that something is missing before anything else. What is
hidden makes no difference, nor does it that another kind was chosen for a while. -/
theorem form_makes_draft_iff_filled_in (f : ExperimentForm) :
    ((∃ d, f.draft = .ok d) ↔ f.IsFilledIn ∧ f.IsInRange) ∧
    (¬f.IsFilledIn → f.draft = .error (.validation "Please fill in all required fields")) ∧
    (f.IsFilledIn → ¬f.IsInRange →
      f.draft = .error (.validation "Percentage must be between 0 and 100")) ∧
    (∀ d, f.draft = .ok d → f.AsksFor d) ∧
    (∀ g : ExperimentForm, f.LooksLike g → g.draft = f.draft) ∧
    ∀ kinds : List String,
      ((kinds.foldl (fun f kind => f.setKind kind) f).setKind f.kind).draft = f.draft := by
  refine ⟨⟨?_, ?_⟩, ExperimentForm.draft_of_not_isFilledIn, ExperimentForm.draft_of_not_isInRange,
    fun d => ExperimentForm.asksFor_of_draft, fun g => ExperimentForm.LooksLike.draft_eq, ?_⟩
  · rintro ⟨d, made⟩
    exact ExperimentForm.accepted_of_draft made
  · rintro ⟨filled, inRange⟩
    obtain ⟨d, made, -⟩ := ExperimentForm.exists_draft filled inRange
    exact ⟨d, made⟩
  · intro kinds
    rw [f.setKind_foldl kinds f.kind]
    rfl

/-- A form with blanks around its fields, a sign and zeros in front of the duration, and a share that
is too large for a workload. -/
def paddedForm : ExperimentForm where
  name := " outage "
  kind := "\texternal-target\u3000"
  target := "app=web\n"
  duration := " +0060 "
  external := { endpoint := " http://web", authToken := " \u00a0" }
  workload := { percentage := 200 }

/-- It makes the draft of an external service, for which the share does not count. -/
theorem padded_form_makes_draft :
    paddedForm.IsFilledIn ∧ paddedForm.IsInRange ∧
      paddedForm.LooksLike { paddedForm with workload := {} } ∧
      ∃ d, paddedForm.draft = .ok d ∧ { paddedForm with workload := {} }.draft = .ok d ∧
        d.name = "outage" ∧ d.duration = 60 ∧
        d.parameters = .external
          { endpoint := "http://web", authToken := none, cleanupEndpoint := none } := by
  have minute : duration? paddedForm.duration = some 60 := by decide
  have filled : paddedForm.IsFilledIn :=
    ⟨by decide, by decide, by decide, 60, duration?_eq_some_iff.mp minute⟩
  have inRange : paddedForm.IsInRange := Or.inl (by decide)
  have shown : paddedForm.showsExternal = true := ExperimentForm.showsExternal_iff.mpr (by decide)
  have alike : paddedForm.LooksLike { paddedForm with workload := {} } :=
    ⟨rfl, rfl, rfl, rfl, rfl, fun _ => rfl, fun hidden => by rw [shown] at hidden; cases hidden⟩
  obtain ⟨iff, -, -, asks, hidden, -⟩ := form_makes_draft_iff_filled_in paddedForm
  obtain ⟨d, made⟩ := iff.mpr ⟨filled, inRange⟩
  have asked := asks d made
  refine ⟨filled, inRange, alike, d, made, (hidden _ alike).trans made, ?_, ?_, ?_⟩
  · rw [asked.name]
    decide
  · have read := duration?_eq_some_iff.mpr asked.duration
    rw [minute] at read
    exact (Option.some.inj read).symm
  · rw [asked.parameters]
    decide

end FaultConsole
