import Relocation.Proofs.SettingValues

/-! What loading settings comes to. Each setting has the value of its first source, and all of them
obey the rules; or else something stands in the way, and of that the first in the order of the
stages is reported. -/

namespace Relocation

namespace Setting

/-- The settings in the order in which they are gone through. -/
def inOrder : List Setting :=
  [.bindAddress, .tcpPort, .shutdownSeconds, .fixturesPath, .sessionHeader, .maxSessions,
    .idleSeconds, .logLevel, .logFormat]

theorem mem_inOrder (k : Setting) : k ∈ inOrder := by
  cases k <;> decide

def default : (k : Setting) → k.Value
  | .bindAddress => "127.0.0.1"
  | .tcpPort => (8080 : Nat)
  | .shutdownSeconds => (15 : Nat)
  | .fixturesPath => (none : Option String)
  | .sessionHeader => "x-wizard-session"
  | .maxSessions => (10000 : Nat)
  | .idleSeconds => (1800 : Nat)
  | .logLevel => "info"
  | .logFormat => LogFormat.compact

theorem get_default (k : Setting) : ({} : Settings).get k = k.default := by
  cases k <;> rfl

def fromEnvironment? (k : Setting) (env : Environment) : Option k.Value :=
  (k.givenIn? env).bind fun given => k.read given.2

/-- What is reported of a variable that cannot be read. -/
def misread (name text : String) : Setting → SettingsError
  | .logFormat => .invalid (.logFormat (Text.lower (Text.trim text)))
  | _ => .invalidVariable name text

/-- What is wrong with the variable that gives a setting. Its other variables are not read. -/
def variableProblem? (k : Setting) (env : Environment) : Option SettingsError :=
  (k.givenIn? env).bind fun given =>
    if (k.read given.2).isNone then some (k.misread given.1 given.2) else none

end Setting

namespace Settings

/-- A section is missing or a table, or an array with a value for each of its keys. A date says
nothing. -/
def isSection (keys : List String) : Option Toml → Bool
  | none | some (.table _) | some (.datetime _) => true
  | some (.array items) => keys.length ≤ items.length
  | some _ => false

/-- All sections of the document are sections, and each setting can be read where it is given. -/
def isDocument (t : Toml) : Bool :=
  isSection ["bind_address", "port", "graceful_shutdown_secs"] (t.get? "server") &&
    isSection ["fixtures_path"] (t.get? "data") &&
    isSection ["session_header", "max_sessions", "session_idle_secs"] (t.get? "wizard") &&
    isSection ["level", "format"] (t.get? "logging") &&
    Setting.inOrder.all fun k => (k.item? t).all fun item => (k.ofToml? item).isSome

/-- Lower-case ASCII letters, digits and hyphens, at least one of them. -/
def IsHeaderName (name : String) : Prop :=
  name ≠ "" ∧ ∀ c ∈ name.toList, ('a' ≤ c ∧ c ≤ 'z') ∨ ('0' ≤ c ∧ c ≤ '9') ∨ c = '-'

instance : DecidablePred IsHeaderName := fun name => inferInstanceAs (Decidable
  (name ≠ "" ∧ ∀ c ∈ name.toList, ('a' ≤ c ∧ c ≤ 'z') ∨ ('0' ≤ c ∧ c ≤ '9') ∨ c = '-'))

/-- The rule for each setting. -/
def Obeys (files : Files) (s : Settings) : Setting → Prop
  | .bindAddress => ¬ Text.isBlankText s.bindAddress
  | .tcpPort => 1 ≤ s.tcpPort
  | .shutdownSeconds => 1 ≤ s.shutdownSeconds ∧ s.shutdownSeconds ≤ 300
  | .fixturesPath => ∀ path ∈ s.fixturesPath, (files.look path).isFile
  | .sessionHeader => IsHeaderName s.sessionHeader
  | .maxSessions => 1 ≤ s.maxSessions
  | .idleSeconds => 1 ≤ s.idleSeconds
  | .logLevel => Text.lower (Text.trim s.logLevel) ∈ ["trace", "debug", "info", "warn", "error"]
  | .logFormat => True

instance (files : Files) (s : Settings) : DecidablePred (Obeys files s)
  | .bindAddress => inferInstanceAs (Decidable (¬ Text.isBlankText s.bindAddress))
  | .tcpPort => inferInstanceAs (Decidable (1 ≤ s.tcpPort))
  | .shutdownSeconds => inferInstanceAs (Decidable
      (1 ≤ s.shutdownSeconds ∧ s.shutdownSeconds ≤ 300))
  | .fixturesPath => inferInstanceAs (Decidable (∀ path ∈ s.fixturesPath, (files.look path).isFile))
  | .sessionHeader => inferInstanceAs (Decidable (IsHeaderName s.sessionHeader))
  | .maxSessions => inferInstanceAs (Decidable (1 ≤ s.maxSessions))
  | .idleSeconds => inferInstanceAs (Decidable (1 ≤ s.idleSeconds))
  | .logLevel => inferInstanceAs (Decidable
      (Text.lower (Text.trim s.logLevel) ∈ ["trace", "debug", "info", "warn", "error"]))
  | .logFormat => inferInstanceAs (Decidable True)

/-- What is wrong with settings that break the rule for a setting. -/
def breach (s : Settings) : Setting → Defect
  | .bindAddress => .bindAddress
  | .tcpPort => .tcpPort
  | .shutdownSeconds => .shutdownSeconds
  | .fixturesPath => .fixturesPath (s.fixturesPath.getD "")
  | .sessionHeader => .sessionHeader
  | .maxSessions => .maxSessions
  | .idleSeconds => .idleSeconds
  | .logLevel => .logLevel
  | .logFormat => .logFormat (Named.name s.logFormat)

def ruleProblem? (files : Files) (s : Settings) (k : Setting) : Option SettingsError :=
  if s.Obeys files k then none else some (.invalid (s.breach k))

def ofValues (value : (k : Setting) → k.Value) : Settings where
  bindAddress := value .bindAddress
  tcpPort := value .tcpPort
  shutdownSeconds := value .shutdownSeconds
  fixturesPath := value .fixturesPath
  sessionHeader := value .sessionHeader
  maxSessions := value .maxSessions
  idleSeconds := value .idleSeconds
  logLevel := value .logLevel
  logFormat := value .logFormat

/-- The stages of loading in their order. -/
inductive Stage where
  | find
  | read
  | interpolate
  | parse
  | variable (k : Setting)
  | rule (k : Setting)

def Stage.all : List Stage :=
  [.find, .read, .interpolate, .parse] ++ Setting.inOrder.map .variable ++
    Setting.inOrder.map .rule

namespace Request

variable (r : Request) (files : Files) (env : Environment)

/-- The settings file that is read. One that was asked for is the only one looked for. -/
def chosenFile? : Option String :=
  (r.path.elim ["mymove.toml", "config/mymove.toml"] ([·])).find? fun path =>
    (files.look path).exists?

def text? : Option String := (r.chosenFile? files).bind fun path => (files.look path).read.toOption

/-- The text of the settings file with its variables put in. -/
def content? : Option String :=
  (r.text? files).bind fun text => (Interpolation.interpolate env text).toOption

def fromFile? (k : Setting) : Option k.Value :=
  (r.content? files env).bind fun content =>
    (Toml.read? content).bind fun t => (k.item? t).bind k.ofToml?

/-- The value that is insisted on, or else that of the environment, or else that of the settings
file, or else the default. -/
def value (k : Setting) : k.Value :=
  (r.overrides.get k).getD <| (k.fromEnvironment? env).getD <|
    (r.fromFile? files env k).getD k.default

def settings : Settings := ofValues (r.value files env)

/-- What goes wrong at a stage, if anything does; later stages go on with what they have. -/
def problem? : Stage → Option SettingsError
  | .find =>
    if r.chosenFile? files = none ∧ r.isFileRequired then
      some (.missingFile (r.path.getD "mymove.toml"))
    else none
  | .read =>
    (r.chosenFile? files).bind fun path => (error? (files.look path).read).map (.unreadable path)
  | .interpolate => (r.text? files).bind fun text => error? (Interpolation.interpolate env text)
  | .parse =>
    (r.chosenFile? files).bind fun path => (r.content? files env).bind fun content =>
      if (Toml.read? content).any isDocument then none else some (.malformed path)
  | .variable k => k.variableProblem? env
  | .rule k => (r.settings files env).ruleProblem? files k

end Request

end Settings

namespace Patch

theorem error?_number (env : Environment) (bits : Nat) (k : Setting) :
    error? (number env bits k) = (k.givenIn? env).bind fun given =>
      if (countOf? bits given.2).isNone then some (.invalidVariable given.1 given.2) else none := by
  rw [number, Setting.givenIn?_eq]
  cases k.variableNames.findSome? fun name => (env.given? name).map (name, ·) with
  | none => rfl
  | some given =>
    change error? ((countOf? bits given.2).elim _ _) = _
    cases h : countOf? bits given.2 <;> simp [error?, h]

theorem eq_of_read_eq_error {text : String} {d : Defect} (h : LogFormat.read text = .error d) :
    d = .logFormat (Text.lower (Text.trim text)) := by
  rw [LogFormat.read] at h
  cases hf : LogFormat.texts.lookup (Text.lower (Text.trim text)) <;> simp only [hf] at h <;>
    cases h
  rfl

theorem error?_format (env : Environment) :
    error? (format env) = Setting.logFormat.variableProblem? env := by
  rw [format, ← Setting.map_snd_givenIn?, Setting.variableProblem?]
  cases Setting.logFormat.givenIn? env with
  | none => rfl
  | some given =>
    have hread : Setting.logFormat.read given.2 = (LogFormat.read given.2).toOption :=
      (LogFormat.toOption_read given.2).symm
    dsimp only [Option.map_some, Option.bind_some]
    rw [hread]
    cases h : LogFormat.read given.2 with
    | ok format => rfl
    | error d =>
      rw [eq_of_read_eq_error h]
      rfl

/-- The first variable that cannot be read counts. -/
theorem error?_ofEnvironment (env : Environment) :
    error? (ofEnvironment env) =
      Setting.inOrder.findSome? fun k => k.variableProblem? env := by
  -- The settings that are texts have no stage of their own, but every text can be read.
  have htext : ∀ k : Setting, (∀ text, (k.read text).isSome) → k.variableProblem? env = none := by
    intro k hk
    have hread : ∀ text, (k.read text).isNone = false := fun text => by simp [hk]
    cases h : k.givenIn? env <;> simp [Setting.variableProblem?, h, hread]
  have hport : error? (number env 16 .tcpPort) = Setting.tcpPort.variableProblem? env :=
    error?_number env 16 .tcpPort
  have hshutdown : error? (number env 64 .shutdownSeconds) =
      Setting.shutdownSeconds.variableProblem? env := error?_number env 64 .shutdownSeconds
  have hmost : error? (number env 64 .maxSessions) = Setting.maxSessions.variableProblem? env :=
    error?_number env 64 .maxSessions
  have hidle : error? (number env 64 .idleSeconds) = Setting.idleSeconds.variableProblem? env :=
    error?_number env 64 .idleSeconds
  calc error? (ofEnvironment env)
    _ = (error? (number env 16 .tcpPort)).or ((error? (number env 64 .shutdownSeconds)).or
          ((error? (number env 64 .maxSessions)).or ((error? (number env 64 .idleSeconds)).or
            ((error? (format env)).or none)))) :=
      error?_bind fun _ _ => error?_bind fun _ _ => error?_bind fun _ _ => error?_bind fun _ _ =>
        error?_bind fun _ _ => rfl
    _ = _ := by
      rw [hport, hshutdown, hmost, hidle, error?_format]
      simp only [Setting.inOrder, findSome?_cons_eq_or, List.findSome?_nil,
        htext .bindAddress fun _ => rfl, htext .fixturesPath fun _ => rfl,
        htext .sessionHeader fun _ => rfl, htext .logLevel fun _ => rfl, Option.none_or]

end Patch

namespace Settings

variable {files : Files} {env : Environment} {r : Request} {s : Settings}

theorem get_ofValues (value : (k : Setting) → k.Value) (k : Setting) :
    (ofValues value).get k = value k := by
  cases k <;> rfl

theorem ofValues_get (s : Settings) : ofValues s.get = s := rfl

theorem isHeaderName_iff {name : String} :
    IsHeaderName name ↔ name ≠ "" ∧ name.toList.all isHeaderChar = true := by
  have hrange : ∀ a b c : Char, (decide (c.val ≥ a.val) && decide (c.val ≤ b.val)) = true ↔
      a ≤ c ∧ c ≤ b := fun a b c => by
    rw [Bool.and_eq_true, decide_eq_true_iff, decide_eq_true_iff]
    rfl
  have hchar : ∀ c, isHeaderChar c = true ↔
      ('a' ≤ c ∧ c ≤ 'z') ∨ ('0' ≤ c ∧ c ≤ '9') ∨ c = '-' := fun c => by
    rw [isHeaderChar, Bool.or_eq_true, Bool.or_eq_true, or_assoc, decide_eq_true_iff]
    exact or_congr (hrange 'a' 'z' c) (or_congr_left (hrange '0' '9' c))
  rw [IsHeaderName, List.all_eq_true]
  simp only [hchar]

/-- The checks are the rules in the order of the settings; the last setting has none. -/
theorem checks_append (files : Files) (s : Settings) :
    s.checks files ++ [(true, s.breach .logFormat)] =
      Setting.inOrder.map fun k => (decide (s.Obeys files k), s.breach k) := by
  have hshutdown : (decide (0 < s.shutdownSeconds) && decide (s.shutdownSeconds ≤ 300)) =
      decide (s.Obeys files .shutdownSeconds) := (Bool.decide_and _ _).symm
  have hpath : (s.fixturesPath.all fun path => (files.look path).isFile) =
      decide (s.Obeys files .fixturesPath) := by
    rw [Bool.eq_iff_iff, decide_eq_true_iff]
    cases h : s.fixturesPath <;> simp [Obeys, h]
  have hheader : (decide (s.sessionHeader ≠ "") && s.sessionHeader.toList.all isHeaderChar) =
      decide (s.Obeys files .sessionHeader) := by
    rw [Bool.eq_iff_iff, decide_eq_true_iff, Bool.and_eq_true, decide_eq_true_iff]
    exact isHeaderName_iff.symm
  have haddress : (!Text.isBlankText s.bindAddress) = decide (s.Obeys files .bindAddress) := by
    rw [Bool.eq_iff_iff, decide_eq_true_iff]
    simp [Obeys]
  simp only [checks, haddress, hshutdown, hpath, hheader]
  rfl

/-- The rules are checked in the order of the settings. -/
theorem findSome?_ruleProblem? (files : Files) (s : Settings) :
    Setting.inOrder.findSome? (s.ruleProblem? files) =
      (s.defect? files).map .invalid := by
  calc Setting.inOrder.findSome? (s.ruleProblem? files)
    _ = (s.checks files ++ [(true, s.breach .logFormat)]).findSome? fun check =>
          if check.1 then none else some (.invalid check.2) := by
      rw [checks_append, List.findSome?_map]
      congr 1
      funext k
      simp [ruleProblem?]
    _ = (s.checks files).findSome? fun check =>
          if check.1 then none else some (.invalid check.2) := by
      simp [List.findSome?_append]
    _ = (s.defect? files).map .invalid := by
      rw [defect?, List.find?_eq_findSome?_guard, List.map_findSome?, List.map_findSome?]
      congr 1
      funext check
      cases h : check.1 <;> simp [h, Option.guard]

theorem isSection_eq (keys : List String) (part? : Option Toml) :
    isSection keys part? = (Patch.sectionValues? keys part?).isSome := by
  fun_cases Patch.sectionValues? keys part? with
  | case3 items h => simpa [isSection] using h
  | case4 items h => simpa [isSection] using h
  | case1 | case2 | case5 => rfl
  | case6 t htable harray hdate =>
    cases t with
    | table entries => exact absurd rfl (htable entries)
    | array items => exact absurd rfl (harray items)
    | datetime written => exact absurd rfl (hdate written)
    | _ => rfl

theorem isSome_bind {α β : Type} {x : Option α} {f : α → Option β} (hx : x.isSome = true)
    (hf : ∀ a, (f a).isSome = true) : (x.bind f).isSome = true := by
  obtain ⟨a, rfl⟩ := Option.isSome_iff_exists.mp hx
  exact hf a

theorem isSome_reading {α : Type} (read : Toml → Option α) (t? : Option Toml) :
    (Patch.reading read t?).isSome = t?.all fun t => (read t).isSome := by
  cases t? <;> simp [Patch.reading]

theorem isSome_reading_map {α β : Type} (read : Toml → Option α) (f : α → β) (t? : Option Toml) :
    (Patch.reading (fun t => (read t).map f) t?).isSome = (Patch.reading read t?).isSome := by
  simp [isSome_reading]

section

variable {keys : List String} {part? : Option Toml} {t : Toml}

theorem isSection_of_sectionValues? {values : List (Option Toml)}
    (h : Patch.sectionValues? keys part? = some values) : isSection keys part? = true := by
  rw [isSection_eq, h]
  rfl

theorem sectionValues?_of_isSection (h : isSection keys part? = true) :
    Patch.sectionValues? keys part? =
      some (keys.mapIdx fun place key => Patch.sectionItem? place key part?) := by
  rw [isSection_eq] at h
  obtain ⟨values, hvalues⟩ := Option.isSome_iff_exists.mp h
  rw [hvalues, Patch.eq_of_sectionValues? hvalues]

theorem isDocument_of_ofToml? {p : Patch} (h : Patch.ofToml? t = some p) :
    isDocument t = true := by
  have hread : ∀ k : Setting, (k.item? t).all (fun item => (k.ofToml? item).isSome) = true := by
    intro k
    rw [← isSome_reading, Patch.reading_of_ofToml? h k]
    rfl
  unfold Patch.ofToml? at h
  simp only [Option.bind_eq_bind, Option.bind_eq_some_iff] at h
  obtain ⟨server, hserver, _, -, data, hdata, _, -, wizard, hwizard, _, -, logging, hlogging, -⟩ :=
    h
  simp only [isDocument, isSection_of_sectionValues? hserver, isSection_of_sectionValues? hdata,
    isSection_of_sectionValues? hwizard, isSection_of_sectionValues? hlogging, hread]
  rfl

theorem isSome_ofToml?_of_isDocument (h : isDocument t = true) :
    (Patch.ofToml? t).isSome = true := by
  simp only [isDocument, Bool.and_eq_true, List.all_eq_true] at h
  obtain ⟨⟨⟨⟨hserver, hdata⟩, hwizard⟩, hlogging⟩, hitems⟩ := h
  have hread : ∀ k : Setting, (Patch.reading k.ofToml? (k.item? t)).isSome = true := by
    intro k
    rw [isSome_reading]
    exact hitems k k.mem_inOrder
  have hpath : (Patch.reading Setting.textOf? (Setting.fixturesPath.item? t)).isSome = true := by
    rw [← isSome_reading_map Setting.textOf? (some : String → Option String)]
    exact hread .fixturesPath
  rw [Patch.ofToml?, sectionValues?_of_isSection hserver, sectionValues?_of_isSection hdata,
    sectionValues?_of_isSection hwizard, sectionValues?_of_isSection hlogging]
  simp only [Option.bind_eq_bind, Option.bind_some, List.mapIdx_cons, List.mapIdx_nil,
    Patch.server?, Patch.data?, Patch.wizard?, Patch.logging?, Patch.text?_eq, Patch.count?_eq,
    Patch.format?_eq]
  refine isSome_bind ?server fun _ => isSome_bind ?data fun _ =>
    isSome_bind ?wizard fun _ => ?logging
  case server =>
    exact isSome_bind (hread .bindAddress) fun _ => isSome_bind (hread .tcpPort) fun _ =>
      isSome_bind (hread .shutdownSeconds) fun _ => rfl
  case data => exact isSome_bind hpath fun _ => rfl
  case wizard =>
    exact isSome_bind (hread .sessionHeader) fun _ => isSome_bind (hread .maxSessions) fun _ =>
      isSome_bind (hread .idleSeconds) fun _ => rfl
  case logging =>
    exact isSome_bind (hread .logLevel) fun _ => isSome_bind (hread .logFormat) fun _ => rfl

end

theorem isSome_ofToml? (t : Toml) : (Patch.ofToml? t).isSome = isDocument t := by
  rw [Bool.eq_iff_iff]
  refine ⟨fun h => ?_, isSome_ofToml?_of_isDocument⟩
  obtain ⟨p, hp⟩ := Option.isSome_iff_exists.mp h
  exact isDocument_of_ofToml? hp

theorem file?_eq (r : Request) (files : Files) : r.file? files = r.chosenFile? files := by
  unfold Request.file? Request.chosenFile?
  cases r.path with
  | none => rfl
  | some path => cases h : (files.look path).exists? <;> simp [h]

/-- What is wrong with the file. -/
theorem error?_filePatch : error? (r.filePatch files env) =
    [Stage.find, .read, .interpolate, .parse].findSome? (r.problem? files env) := by
  rw [Request.filePatch, file?_eq]
  cases hfile : r.chosenFile? files with
  | none =>
    by_cases hrequired : r.isFileRequired
    · simp [hfile, hrequired, Request.problem?, error?, fileName]
    · simp [hfile, hrequired, Request.problem?, Request.text?, error?]
  | some path =>
    have hfind : r.problem? files env .find = none := by simp [Request.problem?, hfile]
    simp only [Patch.ofFile, findSome?_cons_eq_or, hfind, List.findSome?_nil, Option.or_none,
      Option.none_or]
    cases hread : (files.look path).read with
    | error e => simp [Request.problem?, hfile, hread, Except.mapError, error?, bind, Except.bind]
    | ok text =>
      have htext : r.text? files = some text := by
        simp [Request.text?, hfile, hread, Except.toOption]
      have hnone : r.problem? files env .read = none := by
        simp [Request.problem?, hfile, hread, error?]
      have hinterpolate : r.problem? files env .interpolate =
          error? (Interpolation.interpolate env text) := by
        simp [Request.problem?, htext]
      rw [hnone, Option.none_or, hinterpolate]
      change error? (Interpolation.interpolate env text >>= _) = _
      refine error?_bind fun content hcontent => ?_
      have hcontent : r.content? files env = some content := by
        simp [Request.content?, htext, hcontent, Except.toOption]
      simp only [Request.problem?, hfile, hcontent, Option.bind_some]
      have hdocument : (Toml.read? content).any isDocument =
          ((Toml.read? content).bind Patch.ofToml?).isSome := by
        cases Toml.read? content <;> simp [isSome_ofToml?]
      rw [hdocument]
      cases (Toml.read? content).bind Patch.ofToml? <;> rfl

theorem get_of_filePatch {p : Patch} (h : r.filePatch files env = .ok p) (k : Setting) :
    p.get k = r.fromFile? files env k := by
  rw [Request.filePatch, file?_eq] at h
  rw [Request.fromFile?, Request.content?, Request.text?]
  cases hfile : r.chosenFile? files with
  | none =>
    rw [hfile] at h
    dsimp only at h
    split at h
    · cases h
    · cases h
      exact Patch.get_empty k
  | some path =>
    rw [hfile] at h
    obtain ⟨text, htext, h⟩ := except_bind_eq_ok_iff.mp h
    obtain ⟨content, hcontent, h⟩ := except_bind_eq_ok_iff.mp h
    rw [except_mapError_eq_ok_iff] at htext
    cases ht : Toml.read? content with
    | none =>
      rw [ht] at h
      cases h
    | some t =>
      rw [ht, Option.bind_some] at h
      cases hp : Patch.ofToml? t with
      | none =>
        rw [hp] at h
        cases h
      | some p' =>
        rw [hp] at h
        cases h
        simp [htext, hcontent, ht, Except.toOption, Patch.get_ofToml? hp]

theorem get_of_merged (h : merged files env r = .ok s) (k : Setting) :
    s.get k = r.value files env k := by
  obtain ⟨fromFile, hfile, h⟩ := except_bind_eq_ok_iff.mp h
  obtain ⟨fromEnvironment, henv, h⟩ := except_bind_eq_ok_iff.mp h
  have hgiven : fromEnvironment.get k = k.fromEnvironment? env := by
    rw [(Patch.get_ofEnvironment henv k).1, Setting.fromEnvironment?, ← Setting.map_snd_givenIn?,
      Option.bind_map]
    rfl
  rw [← Except.ok.inj h, get_apply, get_apply, get_apply, Request.value, hgiven,
    get_of_filePatch hfile, Setting.get_default]

theorem eq_settings_of_merged (h : merged files env r = .ok s) : s = r.settings files env := by
  rw [← ofValues_get s, Request.settings]
  exact congrArg ofValues (funext (get_of_merged h))

theorem error?_merged : error? (merged files env r) =
    (error? (r.filePatch files env)).or (error? (Patch.ofEnvironment env)) := by
  refine error?_bind fun fromFile _ => ?_
  rw [← @Option.or_none _ (error? (Patch.ofEnvironment env))]
  exact error?_bind fun _ _ => rfl

theorem error?_load : error? (load files env r) = Stage.all.findSome? (r.problem? files env) := by
  -- Once the sources are merged, the settings are those of the request, so the rules can be stated
  -- without the merge.
  have hrules : error? (load files env r) = (error? (merged files env r)).or
      (Setting.inOrder.findSome? ((r.settings files env).ruleProblem? files)) := by
    refine error?_bind fun s hs => ?_
    rw [← eq_settings_of_merged hs, findSome?_ruleProblem?]
    cases s.defect? files <;> rfl
  rw [hrules, error?_merged, error?_filePatch, Patch.error?_ofEnvironment, Stage.all,
    List.findSome?_append, List.findSome?_append, List.findSome?_map, List.findSome?_map]
  rfl

theorem eq_settings_of_load (h : load files env r = .ok s) : s = r.settings files env := by
  obtain ⟨merged, hm, hs⟩ := except_bind_eq_ok_iff.mp h
  rw [← eq_settings_of_merged hm]
  cases hd : merged.defect? files with
  | none =>
    rw [hd] at hs
    exact (Except.ok.inj hs).symm
  | some defect =>
    rw [hd] at hs
    cases hs

/-- Loading gives every setting the value of its first source where nothing stands in the way, and
these values obey the rules; else it fails with the problem of the first stage that has one. -/
theorem load_follows_stages (files : Files) (env : Environment) (r : Request) :
    (∀ s, load files env r = .ok s ↔
      (∀ stage ∈ Stage.all, r.problem? files env stage = none) ∧
        ∀ k, s.get k = r.value files env k) ∧
    (∀ e, load files env r = .error e ↔
      Stage.all.findSome? (r.problem? files env) = some e) ∧
    ∀ s, load files env r = .ok s → ∀ k, s.Obeys files k := by
  have hnone : (∀ stage ∈ Stage.all, r.problem? files env stage = none) ↔
      ∃ s, load files env r = .ok s := by
    rw [← List.findSome?_eq_none_iff, ← error?_load, error?_eq_none_iff]
  refine ⟨fun s => ⟨fun h => ⟨hnone.mpr ⟨s, h⟩, fun k => ?_⟩, ?_⟩, fun e => ?_, fun s h k => ?_⟩
  · rw [eq_settings_of_load h, Request.settings, get_ofValues]
  · rintro ⟨hstages, hvalues⟩
    obtain ⟨s', h⟩ := hnone.mp hstages
    have hs : s = s' := by
      rw [eq_settings_of_load h, Request.settings, ← ofValues_get s]
      exact congrArg ofValues (funext hvalues)
    rw [hs, h]
  · rw [← error?_load, error?_eq_some_iff]
  · have hstage : Stage.rule k ∈ Stage.all :=
      List.mem_append_right _ (List.mem_map_of_mem k.mem_inOrder)
    have hrule := hnone.mpr ⟨s, h⟩ _ hstage
    rw [Request.problem?, ← eq_settings_of_load h, ruleProblem?] at hrule
    by_contra hk
    rw [if_neg hk] at hrule
    cases hrule

/-- A settings file that gives the port, the time for a shutdown and the log level. -/
def exampleFiles : Files := Tree.files [(["mymove.toml"], .text
  "[server]\nport = 9000\ngraceful_shutdown_secs = 20\n\n[logging]\nlevel = \"warn\"\n")]

/-- A blank variable says nothing, so its other name counts; a variable has to be read although its
value is not used. -/
theorem load_follows_stages_of_overridden_port :
    let r : Request := { overrides := { tcpPort := some 7000 } }
    let env : Environment := ⟨.ofList [("MYMOVE_SERVER_PORT", "9001"),
      ("MYMOVE_LOGGING_LEVEL", " "), ("MYMOVE_LOG_LEVEL", "debug")]⟩
    let unread : Environment := ⟨.ofList [("MYMOVE_SERVER_PORT", "http")]⟩
    let s : Settings := { tcpPort := 7000, shutdownSeconds := 20, logLevel := "debug" }
    load exampleFiles env r = .ok s ∧ (∀ k, s.get k = r.value exampleFiles env k) ∧
      (∀ k, s.Obeys exampleFiles k) ∧
      load exampleFiles unread r = .error (.invalidVariable "MYMOVE_SERVER_PORT" "http") ∧
      Stage.all.findSome? (r.problem? exampleFiles unread) =
        some (.invalidVariable "MYMOVE_SERVER_PORT" "http") := by
  intro r env unread s
  have hload : load exampleFiles env r = .ok s := by decide +kernel
  have hunread : load exampleFiles unread r =
      .error (.invalidVariable "MYMOVE_SERVER_PORT" "http") := by decide +kernel
  obtain ⟨hok, -, hobeys⟩ := load_follows_stages exampleFiles env r
  obtain ⟨-, herror, -⟩ := load_follows_stages exampleFiles unread r
  exact ⟨hload, ((hok _).mp hload).2, hobeys _ hload, hunread, (herror _).mp hunread⟩

end Settings

end Relocation
