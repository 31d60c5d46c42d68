import Relocation.Proofs.Outcomes
import Relocation.Settings.Load

/-! Settings field by field. A patch is read from the environment and from a settings file setting
by setting, and loading puts the later source in the place of the earlier one. -/

namespace Relocation

def Setting.Value : Setting → Type
  | .bindAddress | .sessionHeader | .logLevel => String
  | .tcpPort | .shutdownSeconds | .maxSessions | .idleSeconds => Nat
  | .fixturesPath => Option String
  | .logFormat => LogFormat

def Settings.get (s : Settings) : (k : Setting) → k.Value
  | .bindAddress => s.bindAddress
  | .tcpPort => s.tcpPort
  | .shutdownSeconds => s.shutdownSeconds
  | .fixturesPath => s.fixturesPath
  | .sessionHeader => s.sessionHeader
  | .maxSessions => s.maxSessions
  | .idleSeconds => s.idleSeconds
  | .logLevel => s.logLevel
  | .logFormat => s.logFormat

def Patch.get (p : Patch) : (k : Setting) → Option k.Value
  | .bindAddress => p.bindAddress
  | .tcpPort => p.tcpPort
  | .shutdownSeconds => p.shutdownSeconds
  | .fixturesPath => p.fixturesPath.map some
  | .sessionHeader => p.sessionHeader
  | .maxSessions => p.maxSessions
  | .idleSeconds => p.idleSeconds
  | .logLevel => p.logLevel
  | .logFormat => p.logFormat

def countOf? (bits : Nat) (text : String) : Option Nat :=
  (Text.readUnsigned? text).filter (· < Nat.pow 2 bits)

def LogFormat.named? (name : String) : Option LogFormat :=
  [("compact", compact), ("pretty", pretty), ("json", json)].lookup name

def Setting.read : (k : Setting) → String → Option k.Value
  | .bindAddress, text | .sessionHeader, text | .logLevel, text => some text
  | .tcpPort, text => countOf? 16 text
  | .shutdownSeconds, text | .maxSessions, text | .idleSeconds, text => countOf? 64 text
  | .fixturesPath, text => some (some text)
  | .logFormat, text => LogFormat.named? (Text.lower (Text.trim text))

/-- The environment variables of a setting; one that is blank leaves it to the next. -/
def Setting.variables : Setting → List String
  | .bindAddress => ["MYMOVE_SERVER_BIND_ADDRESS"]
  | .tcpPort => ["MYMOVE_SERVER_PORT"]
  | .shutdownSeconds => ["MYMOVE_SERVER_GRACEFUL_SHUTDOWN_SECS"]
  | .fixturesPath => ["MYMOVE_DATA_FIXTURES_PATH"]
  | .sessionHeader => ["MYMOVE_WIZARD_SESSION_HEADER"]
  | .maxSessions => ["MYMOVE_WIZARD_MAX_SESSIONS"]
  | .idleSeconds => ["MYMOVE_WIZARD_SESSION_IDLE_SECS"]
  | .logLevel => ["MYMOVE_LOGGING_LEVEL", "MYMOVE_LOG_LEVEL"]
  | .logFormat => ["MYMOVE_LOGGING_FORMAT", "MYMOVE_LOG_FORMAT"]

/-- The first variable of a setting that is set and not blank, with what it says. -/
def Setting.givenIn? (k : Setting) (env : Environment) : Option (String × String) :=
  k.variables.findSome? fun name =>
    ((env.value? name).filter fun text => !Text.isBlankText text).map (name, ·)

theorem Setting.givenIn?_eq (k : Setting) (env : Environment) :
    k.givenIn? env = k.variableNames.findSome? fun name => (env.given? name).map (name, ·) := by
  cases k <;> rfl

theorem Setting.map_snd_givenIn? (k : Setting) (env : Environment) :
    (k.givenIn? env).map Prod.snd = env.firstGiven? k.variableNames := by
  rw [givenIn?_eq, Environment.firstGiven?, List.map_findSome?]
  simp [Function.comp_def]

theorem LogFormat.toOption_read (text : String) :
    (LogFormat.read text).toOption = LogFormat.named? (Text.lower (Text.trim text)) := by
  have hread : LogFormat.read text = (LogFormat.named? (Text.lower (Text.trim text))).elim
      (.error (.logFormat (Text.lower (Text.trim text)))) .ok := by
    rw [LogFormat.read, LogFormat.texts, LogFormat.named?]
  rw [hread]
  cases LogFormat.named? (Text.lower (Text.trim text)) <;> rfl

theorem LogFormat.named?_eq (name : String) : LogFormat.named? name = Named.ofName? name :=
  Named.lookup_nameTable name

theorem Settings.get_apply (s : Settings) (p : Patch) (k : Setting) :
    (s.apply p).get k = (p.get k).getD (s.get k) := by
  cases k <;> try rfl
  simp only [apply, get, Patch.get]
  cases p.fixturesPath <;> rfl

@[simp] theorem Patch.get_empty (k : Setting) : ({} : Patch).get k = none := by
  cases k <;> rfl

namespace Patch

variable {env : Environment} {p : Patch}

theorem number_eq_ok {bits : Nat} {k : Setting} {n? : Option Nat}
    (h : number env bits k = .ok n?) :
    n? = (env.firstGiven? k.variableNames).bind (countOf? bits) ∧
      n?.isSome = (env.firstGiven? k.variableNames).isSome := by
  have hs := Setting.map_snd_givenIn? k env
  rw [Setting.givenIn?_eq] at hs
  unfold number at h
  split at h
  · next hn =>
    rw [hn] at hs
    cases h
    simp [← hs]
  · next name value hn =>
    rw [hn] at hs
    rw [← hs]
    change (countOf? bits value).elim _ _ = _ at h
    cases hr : countOf? bits value with
    | none =>
      rw [hr] at h
      cases h
    | some n =>
      rw [hr] at h
      cases h
      exact ⟨hr.symm, rfl⟩

theorem format_eq_ok {f? : Option LogFormat} (h : format env = .ok f?) :
    f? = (env.firstGiven? Setting.logFormat.variableNames).bind Setting.logFormat.read ∧
      f?.isSome = (env.firstGiven? Setting.logFormat.variableNames).isSome := by
  unfold format at h
  split at h
  · next hn =>
    cases h
    rw [hn]
    exact ⟨rfl, rfl⟩
  · next value hn =>
    rw [hn]
    have hnamed := LogFormat.toOption_read value
    cases hr : LogFormat.read value with
    | error e =>
      rw [hr] at h
      cases h
    | ok f =>
      rw [hr] at h hnamed
      cases h
      exact ⟨by rw [Option.bind_some, Setting.read, ← hnamed, Except.toOption], rfl⟩

/-- The environment gives a setting where one of its variables says something, and then what the
first of these says. -/
theorem get_ofEnvironment (h : ofEnvironment env = .ok p) (k : Setting) :
    p.get k = (env.firstGiven? k.variableNames).bind k.read ∧
      (p.get k).isSome = (env.firstGiven? k.variableNames).isSome := by
  unfold ofEnvironment at h
  obtain ⟨tcpPort, ht, h⟩ := except_bind_eq_ok_iff.mp h
  obtain ⟨shutdownSeconds, hs, h⟩ := except_bind_eq_ok_iff.mp h
  obtain ⟨maxSessions, hm, h⟩ := except_bind_eq_ok_iff.mp h
  obtain ⟨idleSeconds, hi, h⟩ := except_bind_eq_ok_iff.mp h
  obtain ⟨logFormat, hf, h⟩ := except_bind_eq_ok_iff.mp h
  have htext : ∀ x : Option String, x = x.bind (fun text => some text) ∧ x.isSome = x.isSome := by
    intro x
    cases x <;> exact ⟨rfl, rfl⟩
  have hpath : ∀ x : Option String, x.map some = x.bind (fun text => some (some text)) ∧
      (x.map some).isSome = x.isSome := by
    intro x
    cases x <;> exact ⟨rfl, rfl⟩
  cases h
  cases k with
  | tcpPort => exact number_eq_ok ht
  | shutdownSeconds => exact number_eq_ok hs
  | maxSessions => exact number_eq_ok hm
  | idleSeconds => exact number_eq_ok hi
  | logFormat => exact format_eq_ok hf
  | bindAddress => exact htext _
  | sessionHeader => exact htext _
  | logLevel => exact htext _
  | fixturesPath => exact hpath _

/-- A section says something about a key: it has it, or it is the list of its values. -/
def sectionHas (key : String) : Option Toml → Bool
  | some (.array _) => true
  | some t => (t.get? key).isSome
  | none => false

/-- What a section has under the key at a place among its keys. A section that is an array has its
values in the order of the keys. -/
def sectionItem? (place : Nat) (key : String) : Option Toml → Option Toml
  | some (.array items) => items[place]?
  | some t => t.get? key
  | none => none

section

variable {keys : List String} {part? : Option Toml} {values : List (Option Toml)}

theorem eq_of_sectionValues? (h : sectionValues? keys part? = some values) :
    values = keys.mapIdx fun place key => sectionItem? place key part? := by
  unfold sectionValues? at h
  split at h
  · cases h
    exact List.ext_getElem (by simp) (by simp [sectionItem?])
  · cases h
    exact List.ext_getElem (by simp) (by simp [sectionItem?])
  · split at h
    · next hle =>
      cases h
      exact List.ext_getElem (by simp [hle]) (by simp [sectionItem?])
    · cases h
  · cases h
    exact List.ext_getElem (by simp) (by simp [sectionItem?, Toml.get?])
  · cases h

theorem isSome_sectionItem? (h : sectionValues? keys part? = some values) {place : Nat}
    (hplace : place < keys.length) (key : String) :
    (sectionItem? place key part?).isSome = sectionHas key part? := by
  unfold sectionValues? at h
  split at h
  · rfl
  · rfl
  · next items =>
    split at h
    · next hle => simp [sectionItem?, sectionHas, Nat.lt_of_lt_of_le hplace hle]
    · cases h
  · rfl
  · cases h

end

theorem isSome_of_reading {α : Type} {read : Toml → Option α} {t? : Option Toml} {a? : Option α}
    (h : reading read t? = some a?) : a?.isSome = t?.isSome := by
  cases t? with
  | none => cases h; rfl
  | some t =>
    obtain ⟨a, -, rfl⟩ := Option.map_eq_some_iff.mp h
    rfl

theorem eq_bind_of_reading {α : Type} {read : Toml → Option α} {t? : Option Toml} {a? : Option α}
    (h : reading read t? = some a?) : a? = t?.bind read := by
  cases t? with
  | none => cases h; rfl
  | some t =>
    obtain ⟨a, ha, rfl⟩ := Option.map_eq_some_iff.mp h
    exact ha.symm

theorem reading_map {α β : Type} {read : Toml → Option α} {t? : Option Toml} {a? : Option α}
    (f : α → β) (h : reading read t? = some a?) :
    reading (fun t => (read t).map f) t? = some (a?.map f) := by
  cases t? with
  | none => cases h; rfl
  | some t =>
    obtain ⟨a, ha, rfl⟩ := Option.map_eq_some_iff.mp h
    simp [reading, ha]

def isDefinedIn (k : Setting) (t : Toml) : Bool :=
  sectionHas (k.place.getLastD "") (t.get? (k.place.headD ""))

end Patch

/-- The place of the key of a setting among the keys of its section. -/
def Setting.index : Setting → Nat
  | .bindAddress | .fixturesPath | .sessionHeader | .logLevel => 0
  | .tcpPort | .maxSessions | .logFormat => 1
  | .shutdownSeconds | .idleSeconds => 2

def Setting.sectionName : Setting → String
  | .bindAddress | .tcpPort | .shutdownSeconds => "server"
  | .fixturesPath => "data"
  | .sessionHeader | .maxSessions | .idleSeconds => "wizard"
  | .logLevel | .logFormat => "logging"

def Setting.keyName : Setting → String
  | .bindAddress => "bind_address"
  | .tcpPort => "port"
  | .shutdownSeconds => "graceful_shutdown_secs"
  | .fixturesPath => "fixtures_path"
  | .sessionHeader => "session_header"
  | .maxSessions => "max_sessions"
  | .idleSeconds => "session_idle_secs"
  | .logLevel => "level"
  | .logFormat => "format"

/-- What a settings document has for a setting. -/
def Setting.item? (k : Setting) (t : Toml) : Option Toml :=
  Patch.sectionItem? k.index k.keyName (t.get? k.sectionName)

def Setting.textOf? : Toml → Option String
  | .string s => some s
  | _ => none

def Setting.countBelow? (bound : Int) : Toml → Option Nat
  | .integer n => if 0 ≤ n ∧ n < bound then some n.toNat else none
  | _ => none

/-- A format is a name, or the key of a table with nothing in it. -/
def Setting.formatOf? : Toml → Option LogFormat
  | .string s => LogFormat.named? s
  | .table [(name, .array [])] | .table [(name, .table [])] => LogFormat.named? name
  | _ => none

/-- The value of a setting that a value of a document stands for. -/
def Setting.ofToml? : (k : Setting) → Toml → Option k.Value
  | .bindAddress | .sessionHeader | .logLevel => textOf?
  | .tcpPort => countBelow? 65536
  | .shutdownSeconds | .maxSessions | .idleSeconds => countBelow? 18446744073709551616
  | .fixturesPath => fun t => (textOf? t).map some
  | .logFormat => formatOf?

namespace Patch

variable {p : Patch} {t : Toml}

theorem text?_eq : text? = Setting.textOf? := by
  funext t
  cases t <;> rfl

theorem count?_eq (bits : Nat) : count? bits = Setting.countBelow? (Nat.pow 2 bits) := by
  funext t
  cases t with
  | integer n =>
    have hiff : (0 ≤ n ∧ n.toNat < Nat.pow 2 bits) ↔ (0 ≤ n ∧ n < Nat.pow 2 bits) :=
      and_congr_right fun hn => Int.toNat_lt hn
    exact if_congr hiff rfl rfl
  | _ => rfl

theorem format?_eq : format? = Setting.formatOf? := by
  funext t
  fun_cases Setting.formatOf? t with
  | case1 s => exact (LogFormat.named?_eq s).symm
  | case2 name | case3 name => exact (LogFormat.named?_eq name).symm
  | case4 t hs harray htable =>
    fun_cases format? t with
    | case1 s => exact absurd rfl (hs s)
    | case2 name t hempty =>
      fun_cases isEmptyValue t with
      | case1 => exact absurd rfl (harray name)
      | case2 => exact absurd rfl (htable name)
      | case3 => simp [isEmptyValue] at hempty
    | case3 | case4 => rfl

/-- The patch of a document has what the document has for each setting, and every entry for a
setting is read. -/
theorem reading_of_ofToml? (h : ofToml? t = some p) (k : Setting) :
    reading k.ofToml? (k.item? t) = some (p.get k) := by
  unfold ofToml? at h
  simp only [Option.bind_eq_bind, Option.bind_eq_some_iff] at h
  obtain ⟨server, hserver, p₁, h₁, data, hdata, p₂, h₂, wizard, hwizard, p₃, h₃, logging, hlogging,
    h₄⟩ := h
  obtain rfl := eq_of_sectionValues? hserver
  obtain rfl := eq_of_sectionValues? hdata
  obtain rfl := eq_of_sectionValues? hwizard
  obtain rfl := eq_of_sectionValues? hlogging
  simp only [server?, data?, wizard?, logging?, List.mapIdx_cons, List.mapIdx_nil,
    Option.bind_eq_bind, Option.bind_eq_some_iff, Option.pure_def, Option.some.injEq] at h₁ h₂ h₃ h₄
  obtain ⟨address, haddress, tcpPort, htcpPort, shutdown, hshutdown, rfl⟩ := h₁
  obtain ⟨path, hpath, rfl⟩ := h₂
  obtain ⟨header, hheader, most, hmost, idle, hidle, rfl⟩ := h₃
  obtain ⟨level, hlevel, format, hformat, rfl⟩ := h₄
  rw [text?_eq] at haddress hpath hheader hlevel
  rw [count?_eq] at htcpPort hshutdown hmost hidle
  rw [format?_eq] at hformat
  cases k with
  | bindAddress => exact haddress
  | tcpPort => exact htcpPort
  | shutdownSeconds => exact hshutdown
  | fixturesPath => exact reading_map some hpath
  | sessionHeader => exact hheader
  | maxSessions => exact hmost
  | idleSeconds => exact hidle
  | logLevel => exact hlevel
  | logFormat => exact hformat

theorem get_ofToml? (h : ofToml? t = some p) (k : Setting) :
    p.get k = (k.item? t).bind k.ofToml? :=
  eq_bind_of_reading (reading_of_ofToml? h k)

theorem isSome_get_ofToml? (h : ofToml? t = some p) (k : Setting) :
    (p.get k).isSome = isDefinedIn k t := by
  rw [isSome_of_reading (reading_of_ofToml? h k), isDefinedIn, Setting.item?]
  -- The section was read as a whole, so an array in its place is long enough.
  unfold ofToml? at h
  simp only [Option.bind_eq_bind, Option.bind_eq_some_iff] at h
  obtain ⟨server, hserver, _, -, data, hdata, _, -, wizard, hwizard, _, -, logging, hlogging, -⟩ :=
    h
  cases k with
  | bindAddress | tcpPort | shutdownSeconds => exact isSome_sectionItem? hserver (by decide) _
  | fixturesPath => exact isSome_sectionItem? hdata (by decide) _
  | sessionHeader | maxSessions | idleSeconds => exact isSome_sectionItem? hwizard (by decide) _
  | logLevel | logFormat => exact isSome_sectionItem? hlogging (by decide) _

end Patch

/-- Each setting has the value of the last source that gives it. -/
theorem Settings.get_of_load {files : Files} {env : Environment} {r : Settings.Request}
    {s : Settings} (h : load files env r = .ok s) :
    ∃ fromFile fromEnvironment, r.filePatch files env = .ok fromFile ∧
      Patch.ofEnvironment env = .ok fromEnvironment ∧
      ∀ k, s.get k = (r.overrides.get k).getD ((fromEnvironment.get k).getD
        ((fromFile.get k).getD (({} : Settings).get k))) := by
  obtain ⟨merged, hm, hs⟩ := except_bind_eq_ok_iff.mp h
  obtain ⟨fromFile, hf, hm⟩ := except_bind_eq_ok_iff.mp hm
  obtain ⟨fromEnvironment, he, hm⟩ := except_bind_eq_ok_iff.mp hm
  obtain rfl : merged = s := by
    cases hd : merged.defect? files with
    | none =>
      rw [hd] at hs
      exact Except.ok.inj hs
    | some defect =>
      rw [hd] at hs
      cases hs
  refine ⟨fromFile, fromEnvironment, hf, he, fun k => ?_⟩
  rw [← Except.ok.inj hm, get_apply, get_apply, get_apply]

end Relocation
