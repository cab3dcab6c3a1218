import FaultConsole.Proofs.Terminal.Invocations
import FaultConsole.Proofs.Text.Blank

/-!
# Roots that are accepted and then refused

A root is accepted if it starts with a scheme, as it was given, but it is used without the slashes
at its end, and these may be those of the scheme itself: of `http://` there is left `http:`. The
server looks at what is left once more, after it has printed its banner.

`accepted_root_is_served_iff` says that this is the only way for the two to differ. An accepted root
gives a base with something behind the scheme, and a server that is not refused, exactly when there
is more behind its scheme than slashes (`Settings.NamesNothing`).
-/

namespace FaultConsole

open Text (isBlank dropEnd trim)

namespace Settings

/-! ## Roots -/

/-- The schemes of an address that can be used. -/
def IsScheme (scheme : String) : Prop := scheme = "http://" ∨ scheme = "https://"

/-- A root that is, once trimmed, a scheme with nothing behind it but slashes. -/
def NamesNothing (root : String) : Prop :=
  ∃ scheme slashes : String, IsScheme scheme ∧ trim root = scheme ++ slashes ∧
    ∀ c ∈ slashes.toList, c = '/'

/-- An http or https address that names something and does not end in a slash. -/
def NamesService (root : String) : Prop :=
  ∃ scheme name : String, IsScheme scheme ∧ root = scheme ++ name ∧ name ≠ "" ∧
    ∀ c ∈ name.toList.getLast?, c ≠ '/'

theorem startsWith_iff {front s : String} :
    startsWith front s = true ↔ ∃ rest : String, s = front ++ rest := by
  rw [startsWith, List.isPrefixOf_iff_prefix]
  constructor
  · rintro ⟨rest, split⟩
    exact ⟨String.ofList rest, String.toList_inj.mp (by simpa using split.symm)⟩
  · rintro ⟨rest, rfl⟩
    exact ⟨rest.toList, String.toList_append.symm⟩

/-- A root is accepted for the scheme that it starts with. -/
theorem validate_eq_ok_iff {s : Settings} :
    s.validate = .ok () ↔ ∃ scheme rest, IsScheme scheme ∧ trim s.apiRoot = scheme ++ rest := by
  rw [validate]
  constructor
  · intro accepted
    split at accepted
    next starts =>
      rcases (Bool.or_eq_true _ _).mp starts with plain | secure
      · obtain ⟨rest, split⟩ := startsWith_iff.mp plain
        exact ⟨_, rest, .inl rfl, split⟩
      · obtain ⟨rest, split⟩ := startsWith_iff.mp secure
        exact ⟨_, rest, .inr rfl, split⟩
    next => cases accepted
  · rintro ⟨scheme, rest, known, split⟩
    have front := startsWith_iff.mpr ⟨rest, split⟩
    rw [if_pos]
    rcases known with rfl | rfl
    · rw [front, Bool.true_or]
    · rw [front, Bool.or_true]

theorem toList_cleanRoot (root : String) :
    (cleanRoot root).toList = dropEnd (· == '/') (trim root).toList := by
  rw [cleanRoot, Text.withoutTrailingSlashes, String.toList_ofList]

/-! ## What is left of a root -/

/-- If there are only slashes behind the scheme, those of the scheme go with them. -/
theorem NamesNothing.cleanRoot_eq {root : String} (h : NamesNothing root) :
    cleanRoot root = "http:" ∨ cleanRoot root = "https:" := by
  obtain ⟨scheme, slashes, known, trimmed, only⟩ := h
  have left : (cleanRoot root).toList = dropEnd (· == '/') scheme.toList := by
    rw [toList_cleanRoot, trimmed, String.toList_append,
      Text.dropEnd_append_of_dropped (by simpa using only)]
  rcases known with rfl | rfl
  · exact .inl (String.toList_inj.mp left)
  · exact .inr (String.toList_inj.mp left)

/-- If there is anything else, it protects the scheme. -/
theorem namesService_cleanRoot {s : Settings} (accepted : s.validate = .ok ())
    (named : ¬ NamesNothing s.apiRoot) : NamesService (cleanRoot s.apiRoot) := by
  obtain ⟨scheme, rest, known, trimmed⟩ := validate_eq_ok_iff.mp accepted
  have kept : ∃ c ∈ rest.toList, (c == '/') = false := by
    by_contra none
    exact named ⟨scheme, rest, known, trimmed, by simpa using none⟩
  have left : (cleanRoot s.apiRoot).toList = scheme.toList ++ dropEnd (· == '/') rest.toList := by
    rw [toList_cleanRoot, trimmed, String.toList_append, Text.dropEnd_append kept]
  refine ⟨scheme, String.ofList (dropEnd (· == '/') rest.toList), known, ?_, ?_, ?_⟩
  · exact String.toList_inj.mp (by simpa using left)
  · intro empty
    obtain ⟨c, inRest, notSlash⟩ := kept
    have dropped := List.rdropWhile_eq_nil_iff.mp (String.ofList_eq_empty_iff.mp empty) c inRest
    exact Bool.false_ne_true (notSlash.symm.trans dropped)
  · intro c last
    rw [String.toList_ofList] at last
    simpa using Text.getLast?_dropEnd (· == '/') rest.toList c last

/-- What is left of the scheme alone is no address any more. -/
theorem NamesNothing.not_namesService {root : String} (h : NamesNothing root) :
    ¬ NamesService (cleanRoot root) := by
  rintro ⟨scheme, name, known, split, -, -⟩
  have short : (cleanRoot root).length ≤ 6 := by
    rcases h.cleanRoot_eq with left | left <;> rw [left] <;> decide
  have long : 7 ≤ scheme.length := by
    rcases known with rfl | rfl <;> decide
  rw [split, String.length_append] at short
  omega

/-! ## The second look -/

/-- An address that names something is accepted, even with blanks at its end. -/
theorem NamesService.validate {s : Settings} (h : NamesService s.apiRoot) :
    s.validate = .ok () := by
  obtain ⟨scheme, name, known, split, -, -⟩ := h
  have first : (scheme.toList ++ name.toList).dropWhile isBlank = scheme.toList ++ name.toList := by
    rcases known with rfl | rfl <;> rfl
  have last : dropEnd isBlank scheme.toList = scheme.toList := by
    rcases known with rfl | rfl <;> rfl
  have trimmed : trim s.apiRoot = scheme ++ String.ofList (dropEnd isBlank name.toList) := by
    apply String.toList_inj.mp
    rw [split, Text.toList_trim, String.toList_append, Text.trimmed, first,
      Text.dropEnd_append_of_kept last, String.toList_append, String.toList_ofList]
  exact validate_eq_ok_iff.mpr ⟨scheme, _, known, trimmed⟩

/-- The refusal of a root. -/
def refusal (root : String) : Problem :=
  .config ("api_root must be an http(s) URL, got '" ++ root ++ "'")

theorem NamesNothing.validate_cleanRoot {root : String} (h : NamesNothing root) :
    validate { apiRoot := cleanRoot root } = .error (refusal (cleanRoot root)) := by
  rcases h.cleanRoot_eq with left | left <;> rw [left] <;> rfl

end Settings

/-! ## Starting the server -/

namespace Terminal

/-- What is printed before the server is started. -/
def banner (s : Settings) (host : String) (port : Nat) : List String :=
  ["🔥 chaosdash", "   API:         " ++ s.apiBase,
    "   URL:         http://" ++ (host ++ ":" ++ toString port), ""]

/-- What comes after the banner: the root is looked at once more, and then the place. -/
def startServer (server : ServerSettings) : Dialogue :=
  Dialogue.orFail server.dashboard.validate fun _ =>
    if Address.isSocketAddress (server.host ++ ":" ++ toString server.port) then .listen server
    else .finish (.failed "invalid socket address syntax")

theorem serve_eq (s : Settings) (host : String) (port : Nat) :
    serve s host port = (banner s host port).foldr Dialogue.say
      (startServer { host, port, apiRoot := s.apiRoot }) := by
  simp only [serve, banner, startServer, List.foldr_cons, List.foldr_nil]

theorem startServer_of_refused {server : ServerSettings} {p : Problem}
    (refused : server.dashboard.validate = .error p) :
    startServer server = .finish (.failed p.message) := by
  rw [startServer, refused, Dialogue.orFail]

theorem startServer_of_accepted {server : ServerSettings}
    (accepted : server.dashboard.validate = .ok ()) :
    startServer server =
      if Address.isSocketAddress (server.host ++ ":" ++ toString server.port) then .listen server
      else .finish (.failed "invalid socket address syntax") := by
  rw [startServer, accepted, Dialogue.orFail]

/-- Nothing more is printed after the banner, and nothing more is read. -/
theorem startServer_cases (server : ServerSettings) :
    startServer server = .listen server ∨
      ∃ reason, startServer server = .finish (.failed reason) := by
  cases valid : server.dashboard.validate with
  | error p => exact .inr ⟨_, startServer_of_refused valid⟩
  | ok _ =>
      rw [startServer_of_accepted valid]
      split
      · exact .inl rfl
      · exact .inr ⟨_, rfl⟩

theorem stdout_serve (s : Settings) (host : String) (port : Nat) (w : World) :
    ((serve s host port).run w).stdout = ofLines (banner s host port) := by
  rw [serve_eq, run_foldr_say]
  rcases startServer_cases { host, port, apiRoot := s.apiRoot } with listens | ⟨reason, fails⟩
  · rw [listens, Dialogue.run, String.append_empty]
  · rw [fails, Dialogue.run, String.append_empty]

theorem reached_serve (s : Settings) (host : String) (port : Nat)
    (file : String → Except Settings.FileFault String) :
    (serve s host port).reached file = startServer { host, port, apiRoot := s.apiRoot } := by
  rw [serve_eq, reached_foldr_say]
  rcases startServer_cases { host, port, apiRoot := s.apiRoot } with listens | ⟨reason, fails⟩
  · rw [listens]
    rfl
  · rw [fails]
    rfl

end Terminal

open Terminal (Invocation World banner ofLines)

/-- **An accepted root is served unless it names nothing.** Let a root be accepted. Then the base of
all requests is an http or https address that names something and does not end in a slash, with the
path of the service behind it, exactly if there is more than slashes behind the scheme of the root.
For exactly these roots the server's own settings are accepted once more.

An invocation that finds its settings and starts the server prints the banner in any case. If the
root names nothing, it fails after that, over the scheme without its slashes. Otherwise it can fail
only over the place that the server is to listen at. -/
theorem accepted_root_is_served_iff (s : Settings) (host : String) (port : Nat) :
    let server : ServerSettings := { host, port, apiRoot := s.apiRoot }
    (s.validate = .ok () →
      ((∃ root, Settings.NamesService root ∧ s.apiBase = root ++ "/api/v1") ↔
        ¬ Settings.NamesNothing s.apiRoot) ∧
      (server.dashboard.validate = .ok () ↔ ¬ Settings.NamesNothing s.apiRoot)) ∧
    ∀ (i : Invocation) (w : World), i.command = .serve host port → i.resolved w = .ok s →
      ∀ zone,
        ((i.dialogue zone).run w).stdout = ofLines (banner s host port) ∧
        (Settings.NamesNothing s.apiRoot →
          let left := Settings.cleanRoot s.apiRoot
          (left = "http:" ∨ left = "https:") ∧
            (i.dialogue zone).reached w.file =
              .finish (.failed (Settings.refusal left).message)) ∧
        (¬ Settings.NamesNothing s.apiRoot →
          (i.dialogue zone).reached w.file =
            if Address.isSocketAddress (host ++ ":" ++ toString port) then .listen server
            else .finish (.failed "invalid socket address syntax")) := by
  intro server
  have served (accepted : s.validate = .ok ()) (named : ¬ Settings.NamesNothing s.apiRoot) :
      server.dashboard.validate = .ok () :=
    Settings.NamesService.validate (Settings.namesService_cleanRoot accepted named)
  have refused (nothing : Settings.NamesNothing s.apiRoot) :
      server.dashboard.validate = .error (Settings.refusal (Settings.cleanRoot s.apiRoot)) :=
    nothing.validate_cleanRoot
  constructor
  · intro accepted
    refine ⟨⟨?_, ?_⟩, ?_, served accepted⟩
    · rintro ⟨root, names, split⟩ nothing
      have same : Settings.cleanRoot s.apiRoot = root := (String.append_left_inj _).mp split
      exact nothing.not_namesService (same ▸ names)
    · intro named
      exact ⟨_, Settings.namesService_cleanRoot accepted named, rfl⟩
    · intro valid nothing
      rw [refused nothing] at valid
      cases valid
  · intro i w command found zone
    rw [Terminal.run_of_resolved found, Terminal.reached_of_resolved found, command,
      Terminal.Command.dialogue, Terminal.stdout_serve, Terminal.reached_serve]
    refine ⟨rfl, ?_, ?_⟩
    · intro nothing
      exact ⟨nothing.cleanRoot_eq, Terminal.startServer_of_refused (refused nothing)⟩
    · intro named
      obtain ⟨-, -, -, accepted⟩ := Settings.resolve_eq_ok_iff.mp found
      exact Terminal.startServer_of_accepted (served accepted named)

/-- The root `http://` is accepted and printed, and then refused. -/
theorem bare_scheme_is_refused_after_banner :
    let s : Settings := { apiRoot := "http://" }
    let i : Invocation := { apiRoot := some " http:// ", command := .serve "127.0.0.1" 8000 }
    let w : World := { reply := fun _ => .failure "no route" }
    i.resolved w = .ok s ∧
      ((i.dialogue .utc).run w).stdout =
        "🔥 chaosdash\n   API:         http:/api/v1\n   URL:         http://127.0.0.1:8000\n\n" ∧
      (i.dialogue .utc).reached w.file =
        .finish (.failed "config error: api_root must be an http(s) URL, got 'http:'") := by
  intro s i w
  have split : trim s.apiRoot = "http://" ++ "" := by decide
  have accepted : s.validate = .ok () :=
    Settings.validate_eq_ok_iff.mpr ⟨"http://", "", .inl rfl, split⟩
  have trimmed : trim " http:// " = s.apiRoot := by decide
  have found : i.resolved w = .ok s := by
    refine Settings.resolve_eq_ok_iff.mpr ⟨{}, rfl, ?_, accepted⟩
    rw [Option.elim_some, trimmed]
  have nothing : Settings.NamesNothing s.apiRoot :=
    ⟨"http://", "", .inl rfl, split, by simp⟩
  obtain ⟨-, started⟩ := accepted_root_is_served_iff s "127.0.0.1" 8000
  obtain ⟨printed, fails, -⟩ := started i w rfl found .utc
  have words : (Settings.refusal (Settings.cleanRoot s.apiRoot)).message =
      "config error: api_root must be an http(s) URL, got 'http:'" := by decide
  refine ⟨found, ?_, ?_⟩
  · rw [printed]
    decide
  · rw [← words]
    exact (fails nothing).2

end FaultConsole
