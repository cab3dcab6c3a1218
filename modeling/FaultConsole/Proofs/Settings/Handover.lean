import FaultConsole.Proofs.Dashboard.StartUp
import FaultConsole.Proofs.Json.RecordTexts
import FaultConsole.Proofs.Terminal.Invocations
import FaultConsole.Proofs.Text.Blank
import FaultConsole.Server.Respond

/-!
# From the command line to the browser

The root of the service is given to the command line, which hands it to the server, which hands it
to the browser. Each of the three cleans it for itself, and between the last two it is written as
JSON and read as a record of another shape. `browser_asks_where_the_terminal_does` says that nothing
is lost on the way: the browser sends its requests to where the command line sends its own.

The root must be an address to begin with (`Settings.IsAddress`). Once it is clean it stays as it
is, however often it is cleaned again (`Settings.IsClean`).
-/

namespace FaultConsole

open Text (isBlank dropEnd trim)
open Json.Record (Entry Fits LeftOut Writes objectText)

namespace Settings

/-! ## Clean roots -/

/-- A root that is, once trimmed, an http or https address with something other than slashes behind
the scheme and without blanks. -/
def IsAddress (root : String) : Prop :=
  ∃ scheme rest : String, (scheme = "http://" ∨ scheme = "https://") ∧ trim root = scheme ++ rest ∧
    (∀ c ∈ rest.toList, isBlank c = false) ∧ ∃ c ∈ rest.toList, c ≠ '/'

/-- One text is another without the blanks around it and without the slashes at its end. -/
def IsCleaned (clean raw : String) : Prop :=
  ∃ front slashes back, raw.toList = front ++ clean.toList ++ slashes ++ back ∧
    (∀ c ∈ front, isBlank c = true) ∧ (∀ c ∈ slashes, c = '/') ∧ (∀ c ∈ back, isBlank c = true) ∧
    (∀ c ∈ clean.toList.head?, isBlank c = false) ∧
    ∀ c ∈ clean.toList.getLast?, isBlank c = false ∧ c ≠ '/'

/-- An http or https address that is clean. -/
structure IsClean (root : String) : Prop where
  scheme : (startsWith "http://" root || startsWith "https://" root) = true
  noBlank : ∀ c ∈ root.toList, isBlank c = false
  noSlash : dropEnd (· == '/') root.toList = root.toList

theorem IsClean.trim_eq {root : String} (h : IsClean root) : trim root = root :=
  Text.trim_eq_self h.noBlank

theorem IsClean.cleanRoot_eq {root : String} (h : IsClean root) : cleanRoot root = root := by
  rw [cleanRoot, h.trim_eq, Text.withoutTrailingSlashes, h.noSlash, String.ofList_toList]

theorem IsClean.validate {s : Settings} (h : IsClean s.apiRoot) : s.validate = .ok () := by
  rw [Settings.validate, h.trim_eq, if_pos h.scheme]

/-- **An address is clean once it was cleaned.** -/
theorem IsAddress.isClean {root : String} (h : IsAddress root) : IsClean (cleanRoot root) := by
  obtain ⟨scheme, rest, known, trimmed, noBlank, name, inRest, noSlash⟩ := h
  have kept : ∃ c ∈ rest.toList, (c == '/') = false := ⟨name, inRest, by simpa using noSlash⟩
  have chars : (cleanRoot root).toList = scheme.toList ++ dropEnd (· == '/') rest.toList := by
    rw [cleanRoot, trimmed, Text.withoutTrailingSlashes, String.toList_ofList,
      String.toList_append, Text.dropEnd_append kept]
  have schemeNoBlank : scheme.toList.any isBlank = false := by
    rcases known with rfl | rfl <;> decide
  refine ⟨?_, ?_, ?_⟩
  · have front : startsWith scheme (cleanRoot root) = true := by
      rw [startsWith, List.isPrefixOf_iff_prefix]
      exact ⟨_, chars.symm⟩
    rcases known with rfl | rfl
    · rw [front, Bool.true_or]
    · rw [front, Bool.or_true]
  · intro c hc
    rw [chars, List.mem_append] at hc
    obtain ⟨slashes, split, -⟩ := Text.dropEnd_append_dropped (· == '/') rest.toList
    rcases hc with inScheme | inRest
    · simpa using List.any_eq_false.mp schemeNoBlank c inScheme
    · exact noBlank c (split ▸ List.mem_append_left _ inRest)
  · rw [cleanRoot, Text.withoutTrailingSlashes, String.toList_ofList, Text.dropEnd_dropEnd]

theorem IsClean.isCleaned {root : String} (h : IsClean (cleanRoot root)) :
    IsCleaned (cleanRoot root) root := by
  obtain ⟨front, back, around, frontBlank, backBlank⟩ := Text.exists_trimmed root.toList
  obtain ⟨slashes, split, areSlashes⟩ :=
    Text.dropEnd_append_dropped (· == '/') (Text.trimmed root.toList)
  have chars : (cleanRoot root).toList = dropEnd (· == '/') (Text.trimmed root.toList) := by
    simp [cleanRoot, Text.withoutTrailingSlashes, Text.trim]
  refine ⟨front, slashes, back, ?_, frontBlank, by simpa using areSlashes, backBlank, ?_, ?_⟩
  · rw [chars, List.append_assoc front, ← split, ← around]
  · exact fun c hc => h.noBlank c (List.mem_of_mem_head? hc)
  · intro c hc
    refine ⟨h.noBlank c (List.mem_of_mem_getLast? hc), ?_⟩
    rw [chars] at hc
    simpa using Text.getLast?_dropEnd (· == '/') _ c hc

/-! ## Where the root comes from -/

/-- The root that was given: that of the option, or else that of the file, or else the default. -/
def givenRoot (option : Option String) (file : Option (Except Problem Settings)) : String :=
  match option, file with
  | some root, _ => root
  | none, some (.ok s) => s.apiRoot
  | none, _ => defaultApiRoot

theorem cleanRoot_trim (root : String) : cleanRoot (trim root) = cleanRoot root := by
  rw [cleanRoot, Text.trim_trim, cleanRoot]

/-- Settings that are accepted live where the root that was given says. -/
theorem cleanRoot_of_resolve {option : Option String} {file : Option (Except Problem Settings)}
    {s : Settings} (h : resolve option file = .ok s) :
    cleanRoot s.apiRoot = cleanRoot (givenRoot option file) := by
  obtain ⟨base, found, rfl, -⟩ := resolve_eq_ok_iff.mp h
  cases option with
  | some root => exact cleanRoot_trim root
  | none =>
      cases file with
      | none =>
          cases found
          rfl
      | some read =>
          cases found
          rfl

/-! ## From the server to the browser -/

/-- What the server answers to the browser, which asks for the settings. -/
theorem respond_settingsCall (s : Settings) {headers : List (String × String)}
    (names : headers.all (Server.isToken ·.1) = true)
    (values : headers.all (Server.isHeaderValue ·.2) = true) :
    Server.respond s
        { method := settingsCall.method.name, uri := settingsCall.url, headers } =
      .ok (Server.answer s "GET" .settings) := by
  have path : Server.Uri.path settingsCall.url = .ok settingsCall.url := by rfl
  have method : Server.isToken settingsCall.method.name = true := by decide
  rw [Server.respond, path, method, names, values]
  rfl

/-- The body of that answer, as the text of a record. -/
theorem body_answer (s : Settings) :
    (Server.answer s "GET" .settings).body =
      String.ofList (objectText
        [{ key := "api_root", text := Json.stringText s.apiRoot },
          { key := "version", text := Json.stringText Server.version }]) := by
  have content : (Server.answer s "GET" .settings).body =
      Json.compactInOrder [("api_root", .string s.apiRoot), ("version", .string Server.version)] :=
    rfl
  rw [content, Json.compactInOrder]
  simp [Json.membersText, Json.text, objectText, Entry.body, Json.Record.othersText]

theorem readBody_answer (s : Settings) :
    readBody reader (Server.answer s "GET" .settings).body = .ok { apiRoot := s.apiRoot } := by
  have written : Writes (Json.maxDepth - 1)
      [{ key := "api_root", text := Json.stringText s.apiRoot },
        { key := "version", text := Json.stringText Server.version }] shape.fields
      (s.apiRoot, none, ()) := by
    refine ⟨by simp [Entry.Spaced], ?_, by simp, by simp [LeftOut]⟩
    have root := Json.Record.readsInside_text (Json.maxDepth - 1) s.apiRoot
    simpa [Fits, Json.passesInside_stringText] using root
  rw [body_answer]
  exact Json.Record.readBody_objectText (by decide) written ofValues

end Settings

/-- The server that a dialogue comes to, after what it prints and logs. -/
def Terminal.Dialogue.server? : Dialogue → Option ServerSettings
  | print _ next | log _ next => next.server?
  | listen server => some server
  | finish _ | readFile _ _ | ask _ | send _ _ => none

/-- A server whose settings are accepted is started wherever there is a place for it. -/
theorem server?_serve {s : Settings} {host : String} {port : Nat}
    (accepted : (ServerSettings.mk host port s.apiRoot).dashboard.validate = .ok ())
    (place : Address.isSocketAddress (host ++ ":" ++ toString port) = true) :
    (Terminal.serve s host port).server? = some { host, port, apiRoot := s.apiRoot } := by
  simp only [Terminal.serve, Terminal.Dialogue.say, Terminal.Dialogue.server?, accepted,
    Terminal.Dialogue.orFail, place, if_true]

/-- **The browser sends its requests to where the command line sends its own.** Let the command line
accept its settings, with a root that is an address. Then the server that it starts from them is in
order, the browser can use what the server answers, and both ask behind the same base: the root that
was given, without the blanks around it and the slashes at its end, and the path of the service. -/
theorem browser_asks_where_the_terminal_does {option : Option String}
    {file : Option (Except Problem Settings)} {s : Settings}
    (accepted : Settings.resolve option file = .ok s) (address : Settings.IsAddress s.apiRoot)
    (host : String) (port : Nat) :
    let server : ServerSettings := { host, port, apiRoot := s.apiRoot }
    -- the server's own settings are accepted, and it is started if there is a place for it
    server.dashboard.validate = .ok () ∧
    (Address.isSocketAddress (host ++ ":" ++ toString port) = true → ∀ zone,
      (Terminal.Command.dialogue zone s (.serve host port)).server? = some server) ∧
    -- what it answers holds settings that the browser accepts, and asks by from then on
    (∀ headers : List (String × String), headers.all (Server.isToken ·.1) = true →
      headers.all (Server.isHeaderValue ·.2) = true →
      ∃ answer, Server.respond server.dashboard
          { method := settingsCall.method.name, uri := settingsCall.url, headers } = .ok answer ∧
        ∀ statusText, ∃ b,
          let reply := Reply.response { status := answer.status, statusText, body := answer.body }
          reply.Gives b ∧ reply.settings = b ∧ b.apiBase = s.apiBase ∧
          ∀ (d : Dashboard) (k : Nat) (call : Call), d.pending[k]? = some ⟨call, .configure⟩ →
            (d.step (.deliver k reply)).base = s.apiBase) ∧
    ∃ clean, Settings.IsCleaned clean (Settings.givenRoot option file) ∧
      s.apiBase = clean ++ "/api/v1" := by
  intro server
  have clean : Settings.IsClean server.dashboard.apiRoot := address.isClean
  refine ⟨clean.validate, ?_, ?_, ?_⟩
  · intro place zone
    exact server?_serve clean.validate place
  · intro headers names values
    refine ⟨_, Settings.respond_settingsCall server.dashboard names values, ?_⟩
    intro statusText
    refine ⟨{ apiRoot := server.dashboard.apiRoot }, ?_⟩
    intro reply
    have success : 200 ≤ 200 ∧ 200 < 300 := by decide
    have gives : reply.Gives { apiRoot := server.dashboard.apiRoot } :=
      ⟨_, rfl, success.1, success.2, Settings.readBody_answer _, clean.validate⟩
    have settings := Reply.settings_of_gives gives
    have base : Settings.apiBase { apiRoot := server.dashboard.apiRoot } = s.apiBase := by
      rw [Settings.apiBase, clean.cleanRoot_eq]
      rfl
    refine ⟨gives, settings, base, ?_⟩
    intro d k call out
    rw [Dashboard.base_step, Dashboard.heldAfter_deliver out, ← base, ← settings]
    rfl
  · have given := Settings.cleanRoot_of_resolve accepted
    refine ⟨Settings.cleanRoot (Settings.givenRoot option file), ?_, ?_⟩
    · exact (given ▸ address.isClean).isCleaned
    · rw [← given]
      rfl

/-- The root of an option, with blanks of two kinds and three slashes around it. -/
def blankRoot : String := "  https://chaos.example:9000///\u3000"

/-- The settings that are made of it, beside a file. -/
def blankRootSettings : Settings :=
  { apiRoot := "https://chaos.example:9000///", timeoutSeconds := some 5 }

/-- The browser is told of the root without them. -/
theorem blank_root_is_handed_over :
    let file : Settings := { apiRoot := "http://elsewhere", timeoutSeconds := some 5 }
    Settings.resolve (some blankRoot) (some (.ok file)) = .ok blankRootSettings ∧
      Settings.IsAddress blankRootSettings.apiRoot ∧
      ∃ answer, Server.respond (ServerSettings.mk "::1" 80 blankRootSettings.apiRoot).dashboard
          { uri := "/dashboard/config" } = .ok answer ∧
        ∀ statusText, ∃ b,
          (Reply.response { status := answer.status, statusText, body := answer.body }).Gives b ∧
          b.apiBase = "https://chaos.example:9000/api/v1" := by
  intro file
  have trimmed : trim blankRoot = blankRootSettings.apiRoot := by decide
  have valid : blankRootSettings.validate = .ok () := rfl
  have accepted : Settings.resolve (some blankRoot) (some (.ok file)) = .ok blankRootSettings := by
    refine Settings.resolve_eq_ok_iff.mpr ⟨file, rfl, ?_, valid⟩
    rw [Option.elim_some, trimmed]
    rfl
  have noBlank : "chaos.example:9000///".toList.any isBlank = false := by decide
  have address : Settings.IsAddress blankRootSettings.apiRoot := by
    refine ⟨"https://", "chaos.example:9000///", Or.inr rfl, rfl, ?_, 'c', by decide, by decide⟩
    intro c hc
    simpa using List.any_eq_false.mp noBlank c hc
  obtain ⟨-, -, answers, -⟩ := browser_asks_where_the_terminal_does accepted address "::1" 80
  obtain ⟨answer, answered, read⟩ := answers [] rfl rfl
  refine ⟨accepted, address, answer, answered, fun statusText => ?_⟩
  obtain ⟨b, gives, -, base, -⟩ := read statusText
  exact ⟨b, gives, base.trans rfl⟩

end FaultConsole
