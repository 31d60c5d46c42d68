import Relocation.Command.Configuration
import Relocation.Proofs.SettingValues

/-! The sources that the configuration command names. It looks again at the variables that are set
and at the text of the settings file, so that a blank variable, a variable in the file and a
section written as an array can each make it name a source that the value does not come from. -/

namespace Relocation.Command

theorem Source.text_injective : Function.Injective Source.text := by
  intro a b h
  have hs : ∀ s : String, toString s = s := fun _ => rfl
  have hl := congrArg String.toList h
  cases a <;> cases b <;> simp only [text, hs, String.toList_append] at hl <;> simp at hl ⊢
  · exact String.toList_inj.mp hl
  · exact String.toList_inj.mp hl

def givenBy? (env : Environment) (k : Setting) : Option String :=
  k.variableNames.find? fun name => (env.given? name).isSome

def fileValue? (w : Surroundings) (path : String) (k : Setting) : Option k.Value :=
  (Patch.ofFile w.files w.environment path).toOption.bind (·.get k)

/-- The source that loading takes the value of a setting from. -/
def origin (w : Surroundings) (k : Setting) : Source :=
  match givenBy? w.environment k with
  | some name => .environment name
  | none =>
    match Settings.detect w.files with
    | none => .default
    | some path => if (fileValue? w path k).isSome then .file path else .default

def Source.value? (w : Surroundings) (k : Setting) : Source → Option k.Value
  | .environment name => (w.environment.given? name).bind k.read
  | .file path => fileValue? w path k
  | .default => some (({} : Settings).get k)

def loadedTable? (w : Surroundings) (path : String) : Option Toml :=
  (w.files.look path).read.toOption.bind fun raw =>
    (Interpolation.interpolate w.environment raw).toOption.bind Toml.read?

variable {w : Surroundings} {settings : Settings} {k : Setting}

theorem find?_isSome_bind {α β : Type} (f : α → Option β) (l : List α) :
    (l.find? fun a => (f a).isSome).bind f = l.findSome? f := by
  induction l with
  | nil => rfl
  | cons a l ih =>
    cases h : f a with
    | none => simp [h, ih]
    | some b => simp [h]

theorem firstGiven?_eq (env : Environment) (k : Setting) :
    env.firstGiven? k.variableNames = (givenBy? env k).bind env.given? :=
  (find?_isSome_bind env.given? k.variableNames).symm

theorem isSome_given?_of_givenBy? {env : Environment} {name : String}
    (h : givenBy? env k = some name) : (env.given? name).isSome = true :=
  List.find?_some (p := fun name => (env.given? name).isSome) h

theorem filePatch_eq {p : Patch}
    (h : ({} : Settings.Request).filePatch w.files w.environment = .ok p) :
    (Settings.detect w.files = none ∧ p = {}) ∨ ∃ path t, Settings.detect w.files = some path ∧
      Patch.ofFile w.files w.environment path = .ok p ∧ loadedTable? w path = some t ∧
      Patch.ofToml? t = some p := by
  have hfile : ({} : Settings.Request).file? w.files = Settings.detect w.files := rfl
  rw [Settings.Request.filePatch, hfile] at h
  cases hd : Settings.detect w.files with
  | none =>
    rw [hd] at h
    exact .inl ⟨rfl, (Except.ok.inj h).symm⟩
  | some path =>
    rw [hd] at h
    refine .inr ⟨path, ?_⟩
    have hp : Patch.ofFile w.files w.environment path = .ok p := h
    obtain ⟨raw, hraw, h⟩ := except_bind_eq_ok_iff.mp h
    obtain ⟨content, hcontent, h⟩ := except_bind_eq_ok_iff.mp h
    cases ht : (Toml.read? content).bind Patch.ofToml? with
    | none =>
      rw [ht] at h
      cases h
    | some q =>
      rw [ht] at h
      obtain rfl : q = p := Except.ok.inj h
      obtain ⟨t, hread, hq⟩ := Option.bind_eq_some_iff.mp ht
      refine ⟨t, rfl, hp, ?_, hq⟩
      have hlook := except_mapError_eq_ok_iff.mp hraw
      simp [loadedTable?, hlook, hcontent, Except.toOption, hread]

theorem isSet_of_given? {env : Environment} {name : String} (h : (env.given? name).isSome = true) :
    env.isSet name = true := by
  unfold Environment.given? at h
  unfold Environment.isSet
  cases hv : env.value? name with
  | none => simp [hv] at h
  | some value => rfl

theorem value?_origin (h : Settings.load w.files w.environment {} = .ok settings) (k : Setting) :
    (origin w k).value? w k = some (settings.get k) := by
  obtain ⟨fromFile, fromEnvironment, hf, he, hget⟩ := Settings.get_of_load h
  obtain ⟨hread, hsome⟩ := Patch.get_ofEnvironment he k
  have hover : ({} : Settings.Request).overrides.get k = none := Patch.get_empty k
  rw [hget, hover, Option.getD_none]
  rw [firstGiven?_eq] at hread hsome
  unfold origin
  cases hg : givenBy? w.environment k with
  | some name =>
    have hgiven := isSome_given?_of_givenBy? hg
    rw [hg, Option.bind_some] at hread hsome
    obtain ⟨value, hv⟩ := Option.isSome_iff_exists.mp (hsome.trans hgiven)
    rw [hv, Option.getD_some]
    exact hread.symm.trans hv
  | none =>
    rw [hg, Option.bind_none, Option.bind_none] at hread
    rw [hread, Option.getD_none]
    rcases filePatch_eq hf with ⟨hd, rfl⟩ | ⟨path, t, hd, hp, -, -⟩
    · simp only [hd]
      rw [Patch.get_empty]
      rfl
    · have hvalue : fileValue? w path k = fromFile.get k := by
        simp [fileValue?, hp, Except.toOption]
      simp only [hd, hvalue]
      cases hk : fromFile.get k with
      | none => simp [Source.value?]
      | some value => simp [Source.value?, hvalue, hk]

theorem place_eq (k : Setting) : k.place = [k.place.headD "", k.place.getLastD ""] := by
  cases k <;> rfl

theorem source_eq_origin_iff (h : Settings.load w.files w.environment {} = .ok settings)
    (k : Setting) :
    source w k = origin w k ↔
      k.variableNames.find? w.environment.isSet = givenBy? w.environment k ∧
        (givenBy? w.environment k = none → ∀ path, Settings.detect w.files = some path →
          ((rawTable? w path).bind (Toml.getPath? k.place)).isSome =
            (loadedTable? w path).any (Patch.isDefinedIn k)) := by
  obtain ⟨fromFile, -, hf, -, -⟩ := Settings.get_of_load h
  unfold source origin
  cases hs : k.variableNames.find? w.environment.isSet with
  | some name =>
    cases hg : givenBy? w.environment k with
    | some name' => simp
    | none =>
      -- All variables that are set are blank, so the right source is never a variable.
      cases hd : Settings.detect w.files with
      | none => simp
      | some path =>
        dsimp only
        split <;> simp
  | none =>
    have hg : givenBy? w.environment k = none := by
      refine List.find?_eq_none.mpr fun name hn hgiven => ?_
      exact List.find?_eq_none.mp hs name hn (isSet_of_given? hgiven)
    rw [hg]
    rcases filePatch_eq hf with ⟨hd, rfl⟩ | ⟨path, t, hd, hp, ht, hq⟩
    · simp [hd]
    · have hvalue : (fileValue? w path k).isSome = Patch.isDefinedIn k t := by
        simp [fileValue?, hp, Except.toOption, ← Patch.isSome_get_ofToml? hq k]
      simp only [hd, hvalue, ht, Option.any_some, true_and, forall_const, Option.some.injEq,
        forall_eq']
      cases ((rawTable? w path).bind (Toml.getPath? k.place)).isSome <;>
        cases Patch.isDefinedIn k t <;> simp

/-- For variables with something to say, and a file without references and without arrays for
sections, the command names the right source of every setting. -/
theorem source_eq_origin_of_plain
    (h : Settings.load w.files w.environment {} = .ok settings)
    (hset : ∀ name, w.environment.isSet name = true → (w.environment.given? name).isSome = true)
    (hraw : ∀ path, Settings.detect w.files = some path → loadedTable? w path = rawTable? w path)
    (harray : ∀ path t items, Settings.detect w.files = some path → rawTable? w path = some t →
      t.get? (k.place.headD "") ≠ some (.array items)) :
    source w k = origin w k := by
  have hsame : w.environment.isSet = fun name => (w.environment.given? name).isSome :=
    funext fun name => Bool.eq_iff_iff.mpr ⟨hset name, isSet_of_given?⟩
  refine (source_eq_origin_iff h k).mpr ⟨by rw [hsame]; rfl, fun _ path hd => ?_⟩
  rw [hraw path hd]
  cases ht : rawTable? w path with
  | none => rfl
  | some t =>
    rw [place_eq k]
    simp only [Option.bind_some, Toml.getPath?, Option.any_some, Patch.isDefinedIn]
    cases hs : t.get? (k.place.headD "") with
    | none => rfl
    | some part =>
      have hpart : ∀ items, part ≠ .array items := fun items hp =>
        harray path t items hd ht (hp ▸ hs)
      cases part with
      | array items => exact absurd rfl (hpart items)
      | _ => simp [Patch.sectionHas]

/-- The command names the source of a setting where the first variable that is set also says
something, or none is set and the text of the settings file has the setting exactly if the file
gives it when it is loaded. -/
theorem text_source_eq_iff (h : Settings.load w.files w.environment {} = .ok settings)
    (k : Setting) :
    (origin w k).value? w k = some (settings.get k) ∧
      ((source w k).text = (origin w k).text ↔
        k.variableNames.find? w.environment.isSet = givenBy? w.environment k ∧
          (givenBy? w.environment k = none → ∀ path, Settings.detect w.files = some path →
            ((rawTable? w path).bind (Toml.getPath? k.place)).isSome =
              (loadedTable? w path).any (Patch.isDefinedIn k))) :=
  ⟨value?_origin h k, Source.text_injective.eq_iff.trans (source_eq_origin_iff h k)⟩

theorem text_source_eq_iff_of_variable :
    let w : Surroundings :=
      { files := ⟨fun _ => .missing⟩
        environment := ⟨.ofList [("MYMOVE_SERVER_PORT", "9000")]⟩
        today := ⟨2020, 1, 1, by decide, by decide, by decide⟩ }
    Settings.load w.files w.environment {} = .ok { tcpPort := 9000 } ∧
      (origin w .tcpPort).value? w .tcpPort = some (9000 : Nat) ∧
      (source w .tcpPort).text = (origin w .tcpPort).text := by
  have hload : Settings.load ⟨fun _ => .missing⟩ ⟨.ofList [("MYMOVE_SERVER_PORT", "9000")]⟩ {} =
      .ok { tcpPort := 9000 } := by rfl
  intro w
  obtain ⟨hvalue, hiff⟩ := text_source_eq_iff (w := w) hload .tcpPort
  exact ⟨hload, hvalue, hiff.mpr ⟨by rfl, nofun⟩⟩

/-- A blank variable is named as the source of a default. -/
theorem source_of_blank_variable :
    let w : Surroundings :=
      { files := ⟨fun _ => .missing⟩
        environment := ⟨.ofList [("MYMOVE_SERVER_PORT", "")]⟩
        today := ⟨2020, 1, 1, by decide, by decide, by decide⟩ }
    Settings.load w.files w.environment {} = .ok {} ∧
      (source w .tcpPort).text = "env (MYMOVE_SERVER_PORT)" ∧
      (origin w .tcpPort).text = "default" :=
  ⟨by rfl, by rfl, by rfl⟩

end Relocation.Command
