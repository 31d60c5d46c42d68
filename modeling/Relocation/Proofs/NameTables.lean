import Mathlib.Data.List.TakeWhile
import Relocation.Proofs.PlanFailures
import Relocation.Proofs.RecordTexts
import Relocation.Settings.Error
import Relocation.Web.MoveApi

/-! The names of statuses, pages, move types and log formats. A value has a name, is written in
documents by a rule or a table of its own, and is read from texts by another table; on every text
the three agree. -/

namespace Relocation

open Json (Decoder)

/-- What is left of a text when all white space around it is taken away. -/
structure Text.IsBare (s base : String) : Prop where
  around : ∃ before after : List Char, (∀ c ∈ before ++ after, isBlank c = true) ∧
    s.toList = before ++ (base.toList ++ after)
  head? : ∀ c ∈ base.toList.head?, isBlank c = false
  getLast? : ∀ c ∈ base.toList.getLast?, isBlank c = false

/-- The text is the string `s` in JSON, however its characters are spelled. -/
def Json.IsStringText (text s : String) : Prop := IsText text (.string (some s))

/-- A string in a document stands for the value that has it as its name. -/
def DecodesNames (α : Type) [Named α] : Prop :=
  ∀ text s, Json.IsStringText text s →
    ∀ a : α, Json.decode Named.decoder text = .ok a ↔ s = Named.name a

/-- A status is read by its exact name, and what is no name is refused as it is. -/
structure IsStatusReader {α : Type} [Named α] (kind : StatusKind)
    (read : String → Except Violation α) : Prop where
  decodes : DecodesNames α
  read_iff : ∀ s a, read s = .ok a ↔ s = Named.name a
  refused : ∀ s v, read s = .error v ↔ (∀ a : α, s ≠ Named.name a) ∧ v = .unknownStatus kind s

/-- A page key is read by its name, and white space around that does not count. -/
structure Wizard.PageKey.IsReadByName : Prop where
  decodes : DecodesNames PageKey
  read_iff : ∀ s k, read? s = some k ↔ Text.IsBare s k.name

/-- White space around a text and the case of its letters do not count, and what is left is read
as in documents. -/
structure IsFoldedReader {α ε : Type} (d : Decoder α) (fold : String → String)
    (read : String → Except ε α) : Prop where
  read_iff : ∀ s base text, Text.IsBare s base → Json.IsStringText text (fold base) →
    ∀ a, read s = .ok a ↔ Json.decode d text = .ok a
  accepts : ∀ text s a, Json.IsStringText text s → Json.decode d text = .ok a → read s = .ok a

/-- A move type is written by its name in every document that has one, and the name for both legs
that is only read is never written. -/
structure MoveType.IsWrittenByName : Prop where
  render : ∀ t : MoveType, (Json.ofNamed t).render = "\"" ++ t.name ++ "\""
  no_combo : ∀ t : MoveType, ¬ Json.IsStringText (Json.ofNamed t).render "COMBO"
  record : ∀ r : MoveRecord, r.toJson.member? "selected_move_type" =
    some (.ofOption (r.moveType.map MoveType.name))
  state : ∀ s : Wizard.State, s.toJson.member? "selected_move_type" =
    some (.ofOption (s.moveType.map MoveType.name))
  plan : ∀ p : Summary.Plan, (Web.planJson p).member? "move_type" =
    some (.ofOption (p.moveType.map MoveType.name))

/-! ### White space -/

namespace Text

theorem trimLeft_append {around cs : List Char} (ha : ∀ c ∈ around, isBlank c = true)
    (h : ∀ c ∈ cs.head?, isBlank c = false) : trimLeft (around ++ cs) = cs := by
  rw [trimLeft, List.dropWhile_append_of_pos ha]
  cases cs with
  | nil => rfl
  | cons c cs => exact List.dropWhile_cons_of_neg (by simp [h c rfl])

theorem exists_append_trimLeft (cs : List Char) :
    ∃ around, (∀ c ∈ around, isBlank c = true) ∧ cs = around ++ trimLeft cs :=
  ⟨cs.takeWhile isBlank, fun _ => List.mem_takeWhile_imp, List.takeWhile_append_dropWhile.symm⟩

theorem head?_trimLeft (cs : List Char) : ∀ c ∈ (trimLeft cs).head?, isBlank c = false := by
  intro c hc
  have h := List.head?_dropWhile_not isBlank cs
  rwa [show (cs.dropWhile isBlank).head? = some c from hc] at h

theorem isBare_trim (s : String) : IsBare s (trim s) := by
  obtain ⟨before, hbefore, hs⟩ := exists_append_trimLeft s.toList
  obtain ⟨after, hafter, hleft⟩ := exists_append_trimLeft (trimLeft s.toList).reverse
  have htrim : (trim s).toList = trimChars s.toList := by rw [trim, String.toList_ofList]
  have hright : trimLeft s.toList = (trim s).toList ++ after.reverse := by
    rw [htrim, trimChars, ← List.reverse_append, ← hleft, List.reverse_reverse]
  rw [hright] at hs
  refine ⟨⟨before, after.reverse, fun c hc => ?_, hs⟩, fun c hc => ?_, fun c hc => ?_⟩
  · rcases List.mem_append.mp hc with hc | hc
    · exact hbefore c hc
    · exact hafter c (List.mem_reverse.mp hc)
  · refine head?_trimLeft s.toList c ?_
    rw [hright, List.head?_append, Option.mem_def.mp hc, Option.some_or]
    rfl
  · rw [htrim, trimChars, List.getLast?_reverse] at hc
    exact head?_trimLeft _ c hc

theorem IsBare.trim_eq {s base : String} (h : IsBare s base) : trim s = base := by
  obtain ⟨⟨before, after, hblank, hs⟩, hhead, hlast⟩ := h
  have hbefore : ∀ c ∈ before, isBlank c = true := fun c hc =>
    hblank c (List.mem_append_left _ hc)
  have hafter : ∀ c ∈ after.reverse, isBlank c = true := fun c hc =>
    hblank c (List.mem_append_right _ (List.mem_reverse.mp hc))
  rw [trim, trimChars, hs]
  cases hbase : base.toList with
  | nil =>
    -- Nothing tells the space before from the space after.
    have hnil : trimLeft (before ++ after ++ []) = [] := trimLeft_append hblank nofun
    rw [List.append_nil] at hnil
    rw [List.nil_append, hnil, ← String.ofList_toList (s := base), hbase]
    rfl
  | cons c cs =>
    rw [hbase] at hhead hlast
    have hleft : trimLeft (before ++ (c :: cs ++ after)) = c :: cs ++ after :=
      trimLeft_append hbefore fun d hd => hhead d hd
    have hright : trimLeft (c :: cs ++ after).reverse = (c :: cs).reverse := by
      rw [List.reverse_append]
      exact trimLeft_append hafter (by rwa [List.head?_reverse])
    rw [hleft, hright, List.reverse_reverse, ← hbase, String.ofList_toList]

theorem isBare_iff {s base : String} : IsBare s base ↔ trim s = base :=
  ⟨IsBare.trim_eq, fun h => h ▸ isBare_trim s⟩

end Text

/-! ### Tables -/

namespace Json

theorem isStringText_render (s : String) : IsStringText (Json.string s).render s :=
  isText_render (.string s)

theorem IsStringText.unique {text s s' : String} (h : IsStringText text s)
    (h' : IsStringText text s') : s = s' :=
  Except.ok.inj ((decode_of_isText Json.text h).symm.trans (decode_of_isText Json.text h'))

theorem decode_named_iff {α : Type} {ofName? : String → Option α} {text s : String} {a : α}
    (h : IsStringText text s) : decode (named ofName?) text = .ok a ↔ ofName? s = some a := by
  rw [decode_of_isText _ h, named, elim_eq_ok_iff]

end Json

theorem decodesNames (α : Type) [Named α] : DecodesNames α := by
  intro text s h a
  rw [Named.decoder, Json.decode_named_iff h, Named.ofName?_eq_some_iff, eq_comm]

theorem isStatusReader {α : Type} [Named α] {kind : StatusKind} {texts : List (String × α)}
    (h : texts = Named.nameTable) : IsStatusReader kind (readStatus kind texts) where
  decodes := decodesNames α
  read_iff s a := (readStatus_eq_ok_iff h).trans eq_comm
  refused s v := by
    rw [readStatus_eq_error_iff h]
    simp [Named.mem_all, eq_comm]

theorem Wizard.PageKey.isReadByName : IsReadByName where
  decodes := decodesNames PageKey
  read_iff s k := by
    have hname : Text.IsBare s k.name ↔ Named.ofName? (Text.trim s) = some k := by
      rw [Text.isBare_iff, Named.ofName?_eq_some_iff, eq_comm]
    rw [hname, read?, Named.decoder, Json.named]
    cases (Named.ofName? (Text.trim s) : Option PageKey) <;> simp [Except.toOption]

/-- A reader that looks up what is left of a text reads every name as it is, where nothing of a
name is lost. -/
theorem IsFoldedReader.of_ofName? {α ε : Type} {ofName? : String → Option α}
    {fold : String → String} {read : String → Except ε α}
    (hread : ∀ s a, read s = .ok a ↔ ofName? (fold (Text.trim s)) = some a)
    (hname : ∀ s a, ofName? s = some a → fold (Text.trim s) = s) :
    IsFoldedReader (Json.named ofName?) fold read where
  read_iff s base text hbase htext a := by
    rw [hread, Text.isBare_iff.mp hbase, Json.decode_named_iff htext]
  accepts text s a htext h := by
    have hs := (Json.decode_named_iff htext).mp h
    rwa [hread, hname s a hs]

namespace MoveType

theorem lookup_texts (s : String) : texts.lookup s = ofName? s := by
  have htexts : texts = Named.nameTable ++ [("COMBO", .hhgPpm)] := rfl
  rw [htexts, ofName?, List.lookup_append, Named.lookup_nameTable]
  split
  · next hs =>
    subst hs
    decide
  · next hs =>
    have hb : (s == "COMBO") = false := by simpa using hs
    simp [List.lookup_cons, hb]

theorem read_eq_ok_iff {s : String} {t : MoveType} :
    read s = .ok t ↔ ofName? (Text.upper (Text.trim s)) = some t := by
  rw [read, lookup_texts, elim_eq_ok_iff]

theorem upper_trim_of_ofName? {s : String} {t : MoveType} (h : ofName? s = some t) :
    Text.upper (Text.trim s) = s := by
  rw [ofName?] at h
  split at h
  · next hs => subst hs; decide
  · obtain rfl := Named.ofName?_eq_some_iff.mp h
    cases t <;> decide

theorem isFoldedReader : IsFoldedReader decoder Text.upper read :=
  .of_ofName? (fun _ _ => read_eq_ok_iff) fun _ _ => upper_trim_of_ofName?

theorem ofNamed_eq (t : MoveType) : Json.ofNamed t = .string t.name := by
  rw [Json.ofNamed, Named.written_eq_name]

theorem elim_ofNamed (t? : Option MoveType) :
    t?.elim .null Json.ofNamed = .ofOption (t?.map MoveType.name) := by
  cases t? with
  | none => rfl
  | some t => exact ofNamed_eq t

theorem isWrittenByName : IsWrittenByName where
  render t := by cases t <;> decide
  no_combo t h := by
    have hname := h.unique (ofNamed_eq t ▸ Json.isStringText_render t.name)
    cases t <;> revert hname <;> decide
  record r := congrArg some (elim_ofNamed r.moveType)
  state s := congrArg some (elim_ofNamed s.moveType)
  plan p := congrArg some (elim_ofNamed p.moveType)

end MoveType

namespace LogFormat

theorem read_eq_ok_iff {s : String} {f : LogFormat} :
    read s = .ok f ↔ Named.ofName? (Text.lower (Text.trim s)) = some f := by
  rw [read, texts_eq, Named.lookup_nameTable, elim_eq_ok_iff]

theorem lower_trim_name (f : LogFormat) : Text.lower (Text.trim (Named.name f)) = Named.name f := by
  cases f <;> decide

theorem isFoldedReader : IsFoldedReader (Named.decoder : Decoder LogFormat) Text.lower read := by
  refine .of_ofName? (fun _ _ => read_eq_ok_iff) fun s f h => ?_
  obtain rfl := Named.ofName?_eq_some_iff.mp h
  exact lower_trim_name f

-- A no-break space is white space, and a space of no width is not.
example : read "\u00a0JSON" = .ok .json ∧
    read "\u200bjson" = .error (.logFormat "\u200bjson") := by decide

end LogFormat

/-- Every text is read as the value that documents take it for, apart from the space and the case
that its reader does not count, and is refused where documents take it for none. -/
theorem name_tables_agree :
    IsStatusReader .move MoveStatus.read ∧ IsStatusReader .ppm PpmStatus.read ∧
    IsStatusReader .shipment ShipmentStatus.read ∧ Wizard.PageKey.IsReadByName ∧
    IsFoldedReader MoveType.decoder Text.upper MoveType.read ∧
    IsFoldedReader (Named.decoder : Decoder LogFormat) Text.lower LogFormat.read ∧
    MoveType.IsWrittenByName :=
  ⟨isStatusReader MoveStatus.texts_eq, isStatusReader PpmStatus.texts_eq,
    isStatusReader ShipmentStatus.texts_eq, Wizard.PageKey.isReadByName, MoveType.isFoldedReader,
    LogFormat.isFoldedReader, MoveType.isWrittenByName⟩

theorem name_tables_agree_on_combo :
    Text.IsBare "\tcombo " "combo" ∧ Json.IsStringText "\"COMBO\"" "COMBO" ∧
      MoveType.read "\tcombo " = .ok .hhgPpm ∧
      MoveStatus.read "Draft" = .error (.unknownStatus .move "Draft") := by
  have hbare : Text.IsBare "\tcombo " "combo" := Text.isBare_iff.mpr (by decide)
  have htext : Json.IsStringText "\"COMBO\"" "COMBO" := Json.isStringText_render "COMBO"
  obtain ⟨hstatus, -, -, -, htype, -, -⟩ := name_tables_agree
  refine ⟨hbare, htext, ?_, (hstatus.refused _ _).mpr ⟨?_, rfl⟩⟩
  · exact (htype.read_iff _ _ _ hbare htext _).mpr ((Json.decode_named_iff htext).mpr rfl)
  · rintro (_ | _ | _ | _ | _) <;> decide

end Relocation
