import Relocation.Move.Wire
import Relocation.Proofs.DateTexts
import Relocation.Proofs.InFlowNavigation
import Relocation.Proofs.JsonTexts
import Relocation.Proofs.Outcomes

/-! Moves and wizard states are read back from the texts that they are written as. Each decoder
undoes its writer, part by part. -/

namespace Relocation

namespace Json

variable {α : Type} {d : Decoder α} {toJson : α → Json}

/-- The decoder undoes the writer. -/
def Undoes (d : Decoder α) (toJson : α → Json) : Prop := ∀ a, d (toJson a).document = .ok a

theorem undoes_text : Undoes text .string := fun _ => rfl

theorem undoes_optional (h : Undoes d toJson) (hnull : ∀ a, toJson a ≠ .null) :
    Undoes (optional d) fun a? => a?.elim .null toJson := by
  rintro (_ | a)
  · rfl
  · have ha := h a
    have hne := hnull a
    simp only [Option.elim_some]
    cases hj : toJson a with
    | null => exact absurd hj hne
    | _ =>
      rw [hj] at ha
      simp only [document, numberDocument] at ha ⊢
      simp [optional, ha]

theorem decodeItems_itemDocuments (h : Undoes d toJson) (l : List α) :
    decodeItems d (itemDocuments (l.map toJson)) = .ok l := by
  induction l with
  | nil => rfl
  | cons a l ih =>
    rw [List.map_cons, itemDocuments, decodeItems, h a, ih]
    rfl

theorem undoes_list (h : Undoes d toJson) : Undoes (list d) fun l => .array (l.map toJson) := by
  intro l
  rw [document, list, decodeItems_itemDocuments h l]
  rfl

/-- Members that come in the order of the fields, each with a value that its field reads, take a
partly filled record from one state to another. -/
inductive Fills {σ : Type} : List (RecordField σ) → List (String × Json) → σ → σ → Prop
  | nil (s : σ) : Fills [] [] s s
  | cons {β : Type} {name : String} {get : σ → Option β} {set : σ → β → σ} {d : Decoder β}
      {s s' : σ} {value : Json} {b : β} {fields : List (RecordField σ)}
      {members : List (String × Json)}
      (hs : get s = none) (hread : d value.document = .ok b)
      (h : Fills fields members (set s b) s') :
      Fills (.of name get set d :: fields) ((name, value) :: members) s s'

theorem fillMembers_of_fills {σ : Type} {all fields : List (RecordField σ)}
    {members : List (String × Json)} {s s' : σ} (hn : (all.map RecordField.name).Nodup)
    (hsub : ∀ field ∈ fields, field ∈ all) (h : Fills fields members s s') :
    fillMembers all s (memberDocuments members) = .ok s' := by
  induction h with
  | nil => rfl
  | @cons β name get set d s s' value b fields members hs hread _ ih =>
    have hfound : findField all name = some (.of name get set d) :=
      Wizard.find?_key_of_nodup hn (hsub _ List.mem_cons_self)
    have hrest := ih fun field hm => hsub field (List.mem_cons_of_mem _ hm)
    simp only [memberDocuments, fillMembers, hfound, RecordField.of, hs, hread]
    exact hrest

/-- A record without two fields of one name is read back from the object of all its fields. -/
theorem undoes_record {σ : Type} {fields : List (RecordField σ)} {start : σ}
    {build : σ → Option α} (hn : (fields.map RecordField.name).Nodup)
    (h : ∀ a, ∃ members s, toJson a = .object members ∧ Fills fields members start s ∧
      build s = some a) : Undoes (record fields start build) toJson := by
  intro a
  obtain ⟨members, s, hj, hs, hb⟩ := h a
  have hfill := fillMembers_of_fills hn (fun _ hm => hm) hs
  simp only [hj, document, record, hfill, except_ok_bind, ofCause?, hb, Option.elim_some]
  rfl

end Json

open Json

theorem Date.undoes_decoder : Undoes decoder toJson := by
  intro d
  have hread : read? d.render = some d := read?_render d
  simp only [toJson, document, decoder, text, except_ok_bind, hread]
  rfl

theorem MoveType.undoes_decoder : Undoes decoder Json.ofNamed := by
  rintro (_ | _ | _) <;> rfl

theorem undoes_optional_text : Undoes (optional text) .ofOption :=
  undoes_optional undoes_text nofun

theorem MoveType.undoes_optional :
    Undoes (optional decoder) fun t? => t?.elim .null Json.ofNamed :=
  Json.undoes_optional undoes_decoder nofun

theorem PpmRecord.undoes_decoder : Undoes decoder toJson := by
  refine undoes_record (by decide) fun r => ?_
  have hdate := undoes_optional Date.undoes_decoder (by simp [Date.toJson]) r.plannedDate
  refine ⟨_, ⟨some r.id, some r.status, some r.plannedDate⟩, rfl, ?_, rfl⟩
  exact .cons rfl (undoes_text _) (.cons rfl (undoes_optional_text _) (.cons rfl hdate (.nil _)))

theorem ShipmentRecord.undoes_decoder : Undoes decoder toJson := by
  refine undoes_record (by decide) fun r => ?_
  refine ⟨_, ⟨some r.id, some r.status⟩, rfl, ?_, rfl⟩
  exact .cons rfl (undoes_text _) (.cons rfl (undoes_optional_text _) (.nil _))

theorem MoveRecord.undoes_decoder : Undoes decoder toJson := by
  refine undoes_record (by decide) fun r => ?_
  have hppm := undoes_optional PpmRecord.undoes_decoder (by simp [PpmRecord.toJson]) r.ppm
  have hshipments := undoes_list ShipmentRecord.undoes_decoder r.shipments
  refine ⟨_, ⟨some r.id, some r.ordersId, some r.locator, some r.status, some r.moveType,
    some r.ppm, some r.shipments⟩, rfl, ?_, rfl⟩
  refine .cons rfl (undoes_text _) (.cons rfl (undoes_text _) ?_)
  refine .cons rfl (undoes_optional_text _) (.cons rfl (undoes_text _) ?_)
  refine .cons rfl (MoveType.undoes_optional _) (.cons rfl hppm ?_)
  exact .cons rfl hshipments (.nil _)

theorem undoes_flag : Undoes flag .bool := fun _ => rfl

theorem Wizard.State.undoes_decoder : Undoes decoder toJson := by
  refine undoes_record (by decide) fun s => ?_
  refine ⟨_, ⟨some s.serviceMemberId, some s.moveType, some s.hasMove, some s.moveId,
    some s.ordersId⟩, rfl, ?_, rfl⟩
  refine .cons rfl (undoes_optional_text _) (.cons rfl (MoveType.undoes_optional _) ?_)
  refine .cons rfl (undoes_flag _) (.cons rfl (undoes_optional_text _) ?_)
  exact .cons rfl (undoes_optional_text _) (.nil _)

/-- Whatever a record or a state holds, the text that it is written as is decoded to it. -/
theorem records_survive_wire :
    (∀ r : MoveRecord, decode MoveRecord.decoder r.toJson.render = .ok r) ∧
    (∀ r : PpmRecord, decode PpmRecord.decoder r.toJson.render = .ok r) ∧
    (∀ r : ShipmentRecord, decode ShipmentRecord.decoder r.toJson.render = .ok r) ∧
    ∀ s : Wizard.State, decode Wizard.State.decoder s.toJson.render = .ok s := by
  refine ⟨fun r => ?_, fun r => ?_, fun r => ?_, fun s => ?_⟩
  · rw [decode_render]
    exact MoveRecord.undoes_decoder r
  · rw [decode_render]
    exact PpmRecord.undoes_decoder r
  · rw [decode_render]
    exact ShipmentRecord.undoes_decoder r
  · rw [decode_render]
    exact Wizard.State.undoes_decoder s

end Relocation
