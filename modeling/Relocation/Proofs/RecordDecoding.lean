import Mathlib.Tactic.MkIffOfInductiveProp
import Relocation.Move.Wire
import Relocation.Proofs.FieldsByName
import Relocation.Proofs.JsonTexts

/-! How wizard states and moves are decoded from the text of a JSON object: by the names of their
fields, with a default where a field has one, and without a value where anything is wrong. -/

namespace Relocation

open Json

variable {members members' : List (String × Document)}

/-! ### Wizard states -/

namespace Wizard.State

/-- The state that an object describes, field by field. -/
@[mk_iff]
structure SaidBy (members : List (String × Document)) (s : State) : Prop where
  serviceMemberId :
    Reads members "service_member_id" (optional text) (some none) s.serviceMemberId
  moveType : Reads members "selected_move_type" (optional MoveType.decoder) (some none) s.moveType
  hasMove : Reads members "has_move" flag (some false) s.hasMove
  moveId : Reads members "move_id" (optional text) (some none) s.moveId
  ordersId : Reads members "current_orders_id" (optional text) (some none) s.ordersId

/-- The names of the fields in the order in which an array has their values. -/
def fieldNames : List String :=
  ["service_member_id", "selected_move_type", "has_move", "move_id", "current_orders_id"]

def parts : List (DraftPart Draft) := [
  ⟨"service_member_id", (·.serviceMemberId), ({ · with serviceMemberId := some · }), optional text⟩,
  ⟨"selected_move_type", (·.moveType), ({ · with moveType := some · }),
    optional MoveType.decoder⟩,
  ⟨"has_move", (·.hasMove), ({ · with hasMove := some · }), flag⟩,
  ⟨"move_id", (·.moveId), ({ · with moveId := some · }), optional text⟩,
  ⟨"current_orders_id", (·.ordersId), ({ · with ordersId := some · }), optional text⟩]

theorem areParts : AreParts parts {} where
  nodup := by decide
  get_start := by simp [parts]
  get_set := by simp [parts]
  get_set_of_ne := by simp [parts]

theorem isLayout : IsLayout fields {} := areParts.isLayout

theorem build_eq_iff {draft : Draft} {s : State}
    (h : fillMembers fields {} (withNames members) = .ok draft) :
    draft.build = s ↔ s.SaidBy members := by
  have hsays := areParts.says_of_fill h
  simp only [parts, List.forall_mem_cons] at hsays
  obtain ⟨hmember, htype, hhas, hmove, horders, -⟩ := hsays
  constructor
  · rintro rfl
    exact ⟨hmember.reads (Option.or_some ..), htype.reads (Option.or_some ..),
      hhas.reads (Option.or_some ..), hmove.reads (Option.or_some ..),
      horders.reads (Option.or_some ..)⟩
  · have honce := isLayout.knownOnce_of_fill h
    rintro ⟨rmember, rtype, rhas, rmove, rorders⟩
    rw [Draft.build, hmember.getD_eq rmember honce (by decide),
      htype.getD_eq rtype honce (by decide), hhas.getD_eq rhas honce (by decide),
      hmove.getD_eq rmove honce (by decide), horders.getD_eq rorders honce (by decide)]

theorem SaidBy.readable {s : State} (h : s.SaidBy members) (honce : KnownOnce fieldNames members) :
    ∀ field ∈ fields, ∀ value, (field.name, value) ∈ members →
      ∃ put, field.read value = .ok put := by
  simp only [fields, List.forall_mem_cons]
  exact ⟨h.serviceMemberId.exists_put honce (by decide), h.moveType.exists_put honce (by decide),
    h.hasMove.exists_put honce (by decide), h.moveId.exists_put honce (by decide),
    h.ordersId.exists_put honce (by decide), nofun⟩

theorem decoder_eq_ok_iff {s : State} (hover : ∀ member ∈ members, member.2.passOver = .ok ()) :
    decoder (.object (withNames members) none) = .ok s ↔
      KnownOnce fieldNames members ∧ s.SaidBy members := by
  rw [decoder, record_eq_ok_iff]
  constructor
  · rintro ⟨draft, hfill, hbuild⟩
    exact ⟨isLayout.knownOnce_of_fill hfill, (build_eq_iff hfill).mp (Option.some.inj hbuild)⟩
  · rintro ⟨honce, h⟩
    obtain ⟨draft, hfill⟩ := isLayout.exists_fill honce hover (h.readable honce)
    exact ⟨draft, hfill, congrArg some ((build_eq_iff hfill).mpr h)⟩

theorem saidBy_congr {s : State}
    (h : ∀ name ∈ fieldNames, ∀ value, (name, value) ∈ members ↔ (name, value) ∈ members') :
    s.SaidBy members ↔ s.SaidBy members' := by
  simp only [fieldNames, List.forall_mem_cons] at h
  obtain ⟨hmember, htype, hhas, hmove, horders, -⟩ := h
  rw [saidBy_iff, saidBy_iff, reads_congr hmember, reads_congr htype, reads_congr hhas,
    reads_congr hmove, reads_congr horders]

def nullable : List String :=
  ["service_member_id", "selected_move_type", "move_id", "current_orders_id"]

theorem saidBy_cons_null {s : State} {name : String} (hn : name ∈ nullable)
    (hm : ∀ value, (name, value) ∉ members) :
    s.SaidBy ((name, .null) :: members) ↔ s.SaidBy members := by
  simp only [nullable, List.mem_cons, List.not_mem_nil, or_false] at hn
  rcases hn with rfl | rfl | rfl | rfl <;>
    simp [saidBy_iff, reads_cons_null hm, reads_cons_of_ne]

theorem SaidBy.ne_null {s : State} (h : s.SaidBy members) (honce : KnownOnce fieldNames members)
    {name : String} (hn : name ∈ fieldNames) (hnull : name ∉ nullable) :
    (name, .null) ∉ members := by
  have honly : ∀ name ∈ fieldNames, name ∉ nullable → name = "has_move" := by decide
  obtain rfl := honly name hn hnull
  intro hm
  cases h.hasMove.of_mem honce hn hm

end Wizard.State

/-! ### Moves -/

namespace MoveRecord

/-- The move that an object describes, field by field. Id, orders id and status have no default. -/
@[mk_iff]
structure SaidBy (members : List (String × Document)) (r : MoveRecord) : Prop where
  id : Reads members "id" text none r.id
  ordersId : Reads members "orders_id" text none r.ordersId
  locator : Reads members "locator" (optional text) (some none) r.locator
  status : Reads members "status" text none r.status
  moveType : Reads members "selected_move_type" (optional MoveType.decoder) (some none) r.moveType
  ppm : Reads members "ppm" (optional PpmRecord.decoder) (some none) r.ppm
  shipments : Reads members "shipments" (list ShipmentRecord.decoder) (some []) r.shipments

/-- The names of the fields in the order in which an array has their values. -/
def fieldNames : List String :=
  ["id", "orders_id", "locator", "status", "selected_move_type", "ppm", "shipments"]

def parts : List (DraftPart Draft) := [
  ⟨"id", (·.id), ({ · with id := some · }), text⟩,
  ⟨"orders_id", (·.ordersId), ({ · with ordersId := some · }), text⟩,
  ⟨"locator", (·.locator), ({ · with locator := some · }), optional text⟩,
  ⟨"status", (·.status), ({ · with status := some · }), text⟩,
  ⟨"selected_move_type", (·.moveType), ({ · with moveType := some · }),
    optional MoveType.decoder⟩,
  ⟨"ppm", (·.ppm), ({ · with ppm := some · }), optional PpmRecord.decoder⟩,
  ⟨"shipments", (·.shipments), ({ · with shipments := some · }), list ShipmentRecord.decoder⟩]

theorem areParts : AreParts parts {} where
  nodup := by decide
  get_start := by simp [parts]
  get_set := by simp [parts]
  get_set_of_ne := by simp [parts]

theorem isLayout : IsLayout fields {} := areParts.isLayout

theorem build?_eq_some_iff {draft : Draft} {r : MoveRecord}
    (h : fillMembers fields {} (withNames members) = .ok draft) :
    draft.build? = some r ↔ r.SaidBy members := by
  have hsays := areParts.says_of_fill h
  simp only [parts, List.forall_mem_cons] at hsays
  obtain ⟨hid, horders, hlocator, hstatus, htype, hppm, hshipments, -⟩ := hsays
  constructor
  · intro hbuild
    simp only [Draft.build?, Option.bind_eq_bind, Option.bind_eq_some_iff] at hbuild
    obtain ⟨id, eid, ordersId, eorders, status, estatus, hr⟩ := hbuild
    obtain rfl := Option.some.inj hr
    exact ⟨hid.reads (by simp [eid]), horders.reads (by simp [eorders]),
      hlocator.reads (Option.or_some ..), hstatus.reads (by simp [estatus]),
      htype.reads (Option.or_some ..), hppm.reads (Option.or_some ..),
      hshipments.reads (Option.or_some ..)⟩
  · have honce := isLayout.knownOnce_of_fill h
    rintro ⟨rid, rorders, rlocator, rstatus, rtype, rppm, rshipments⟩
    rw [Draft.build?, hid.eq_some rid honce (by decide), horders.eq_some rorders honce (by decide),
      hstatus.eq_some rstatus honce (by decide), hlocator.getD_eq rlocator honce (by decide),
      htype.getD_eq rtype honce (by decide), hppm.getD_eq rppm honce (by decide),
      hshipments.getD_eq rshipments honce (by decide)]
    rfl

theorem SaidBy.readable {r : MoveRecord} (h : r.SaidBy members)
    (honce : KnownOnce fieldNames members) :
    ∀ field ∈ fields, ∀ value, (field.name, value) ∈ members →
      ∃ put, field.read value = .ok put := by
  simp only [fields, List.forall_mem_cons]
  exact ⟨h.id.exists_put honce (by decide), h.ordersId.exists_put honce (by decide),
    h.locator.exists_put honce (by decide), h.status.exists_put honce (by decide),
    h.moveType.exists_put honce (by decide), h.ppm.exists_put honce (by decide),
    h.shipments.exists_put honce (by decide), nofun⟩

theorem decoder_eq_ok_iff {r : MoveRecord}
    (hover : ∀ member ∈ members, member.2.passOver = .ok ()) :
    decoder (.object (withNames members) none) = .ok r ↔
      KnownOnce fieldNames members ∧ r.SaidBy members := by
  rw [decoder, record_eq_ok_iff]
  constructor
  · rintro ⟨draft, hfill, hbuild⟩
    exact ⟨isLayout.knownOnce_of_fill hfill, (build?_eq_some_iff hfill).mp hbuild⟩
  · rintro ⟨honce, h⟩
    obtain ⟨draft, hfill⟩ := isLayout.exists_fill honce hover (h.readable honce)
    exact ⟨draft, hfill, (build?_eq_some_iff hfill).mpr h⟩

theorem saidBy_congr {r : MoveRecord}
    (h : ∀ name ∈ fieldNames, ∀ value, (name, value) ∈ members ↔ (name, value) ∈ members') :
    r.SaidBy members ↔ r.SaidBy members' := by
  simp only [fieldNames, List.forall_mem_cons] at h
  obtain ⟨hid, horders, hlocator, hstatus, htype, hppm, hshipments, -⟩ := h
  rw [saidBy_iff, saidBy_iff, reads_congr hid, reads_congr horders, reads_congr hlocator,
    reads_congr hstatus, reads_congr htype, reads_congr hppm, reads_congr hshipments]

def nullable : List String := ["locator", "selected_move_type", "ppm"]

def required : List String := ["id", "orders_id", "status"]

theorem saidBy_cons_null {r : MoveRecord} {name : String} (hn : name ∈ nullable)
    (hm : ∀ value, (name, value) ∉ members) :
    r.SaidBy ((name, .null) :: members) ↔ r.SaidBy members := by
  simp only [nullable, List.mem_cons, List.not_mem_nil, or_false] at hn
  rcases hn with rfl | rfl | rfl <;> simp [saidBy_iff, reads_cons_null hm, reads_cons_of_ne]

theorem SaidBy.ne_null {r : MoveRecord} (h : r.SaidBy members)
    (honce : KnownOnce fieldNames members) {name : String} (hn : name ∈ fieldNames)
    (hnull : name ∉ nullable) : (name, .null) ∉ members := by
  have honly : ∀ name ∈ fieldNames, name ∉ nullable →
      name = "id" ∨ name = "orders_id" ∨ name = "status" ∨ name = "shipments" := by decide
  intro hm
  rcases honly name hn hnull with rfl | rfl | rfl | rfl
  · cases h.id.of_mem honce hn hm
  · cases h.ordersId.of_mem honce hn hm
  · cases h.status.of_mem honce hn hm
  · cases h.shipments.of_mem honce hn hm

theorem SaidBy.exists_mem {r : MoveRecord} (h : r.SaidBy members) {name : String}
    (hn : name ∈ required) : ∃ value, (name, value) ∈ members := by
  by_contra hm
  have hm := not_exists.mp hm
  simp only [required, List.mem_cons, List.not_mem_nil, or_false] at hn
  rcases hn with rfl | rfl | rfl
  · cases h.id.of_notMem hm
  · cases h.ordersId.of_notMem hm
  · cases h.status.of_notMem hm

end MoveRecord

/-! ### By name -/

theorem MoveType.mem_of_decoder_eq_ok {t? : Option String} {moveType : Option MoveType}
    (h : optional MoveType.decoder (.string t?) = .ok moveType) :
    ∃ t ∈ t?, t ∈ ["HHG", "PPM", "HHG_PPM", "COMBO"] := by
  cases t? with
  | none => cases h
  | some t =>
    refine ⟨t, rfl, ?_⟩
    by_contra hnot
    simp only [List.mem_cons, List.not_mem_nil, or_false, not_or] at hnot
    obtain ⟨hhhg, hppm, hboth, hcombo⟩ := hnot
    have hname : ofName? t = none := by
      simp [ofName?, Named.ofName?, Named.all, Named.written, hcombo, Ne.symm hhhg, Ne.symm hppm,
        Ne.symm hboth]
    simp [Json.optional, MoveType.decoder, Json.named, hname] at h

section

variable {α : Type} {d : Decoder α} {names nullable required : List String}
  {SaidBy : List (String × Document) → α → Prop}

/-- What is never decoded: a field without a default is left out, a field comes twice, one that
takes no `null` is `null`, or the move type is a text that names none. -/
inductive Refused (names nullable required : List String) (members : List (String × Document)) :
    Prop
  | omitted {name : String} (hn : name ∈ required) (hm : ∀ value, (name, value) ∉ members)
  | repeated (h : ¬ KnownOnce names members)
  | null {name : String} (hn : name ∈ names) (hnull : name ∉ nullable)
      (hm : (name, .null) ∈ members)
  | moveType {t? : Option String} (hm : ("selected_move_type", .string t?) ∈ members)
      (ht : ∀ t ∈ t?, t ∉ ["HHG", "PPM", "HHG_PPM", "COMBO"])

/-- Fields are decoded by their names. Some of them may be `null`, and some are required; `SaidBy`
tells field by field which value an object stands for. -/
structure DecodesByName (d : Decoder α) (names nullable required : List String)
    (SaidBy : List (String × Document) → α → Prop) : Prop where
  value : ∀ {s members}, IsObjectText s members → KnownOnce names members →
    ∀ a, decode d s = .ok a ↔ SaidBy members a
  anyOrder : ∀ {s s' members members'}, IsObjectText s members → IsObjectText s' members' →
    KnownOnce names members → (known names members).Perm (known names members') →
    ∀ a, decode d s = .ok a ↔ decode d s' = .ok a
  nullAsOmitted : ∀ {s s' members members' name}, IsObjectText s members →
    IsObjectText s' members' → KnownOnce names members → name ∈ nullable →
    (known names members).Perm ((name, .null) :: known names members') →
    ∀ a, decode d s = .ok a ↔ decode d s' = .ok a
  refused : ∀ {s members}, IsObjectText s members → Refused names nullable required members →
    ∃ cause, decode d s = .error cause
  array : ∀ {s s' values}, values.length ≤ names.length → IsText s (.array values none) →
    IsObjectText s' (names.zip values) → decode d s = decode d s'

/-- What the decoder of a record makes of members that can be passed over. -/
structure FieldRules (d : Decoder α) (names nullable required : List String)
    (SaidBy : List (String × Document) → α → Prop) : Prop where
  eq_ok_iff : ∀ {members a}, (∀ member ∈ members, member.2.passOver = .ok ()) →
    (d (.object (withNames members) none) = .ok a ↔ KnownOnce names members ∧ SaidBy members a)
  congr : ∀ {members members' a},
    (∀ name ∈ names, ∀ value, (name, value) ∈ members ↔ (name, value) ∈ members') →
    (SaidBy members a ↔ SaidBy members' a)
  cons_null : ∀ {members a}, ∀ name ∈ nullable, (∀ value, (name, value) ∉ members) →
    (SaidBy ((name, .null) :: members) a ↔ SaidBy members a)
  ne_null : ∀ {members a}, SaidBy members a → KnownOnce names members →
    ∀ name ∈ names, name ∉ nullable → (name, .null) ∉ members
  exists_mem : ∀ {members a}, SaidBy members a → ∀ name ∈ required,
    ∃ value, (name, value) ∈ members
  moveType : "selected_move_type" ∈ names ∧ ∀ {members a}, SaidBy members a → ∃ moveType,
    Reads members "selected_move_type" (optional MoveType.decoder) (some none) moveType
  array : ∀ {values}, values.length ≤ names.length → d (.array values none) =
    d (.object (withNames (names.zip values)) none)
  nullable_subset : nullable ⊆ names

theorem exists_error {ε β : Type} {x : Except ε β} (h : ∀ b, x ≠ .ok b) : ∃ e, x = .error e := by
  cases x with
  | error e => exact ⟨e, rfl⟩
  | ok b => exact absurd rfl (h b)

theorem FieldRules.decode_eq_ok_iff (h : FieldRules d names nullable required SaidBy) {s : String}
    {a : α} (hs : IsObjectText s members) :
    decode d s = .ok a ↔ KnownOnce names members ∧ SaidBy members a := by
  rw [decode_of_isText d hs]
  exact h.eq_ok_iff hs.passOver

theorem FieldRules.decodesByName (h : FieldRules d names nullable required SaidBy) :
    DecodesByName d names nullable required SaidBy where
  value hs honce a := by
    rw [h.decode_eq_ok_iff hs, and_iff_right honce]
  anyOrder hs hs' honce hp a := by
    rw [h.decode_eq_ok_iff hs, h.decode_eq_ok_iff hs', and_iff_right honce,
      and_iff_right (honce.perm hp)]
    refine h.congr fun name hn value => ?_
    rw [← mem_known_iff hn, hp.mem_iff, mem_known_iff hn]
  nullAsOmitted {s s' members members' name} hs hs' honce hnull hp a := by
    have hn : name ∈ names := h.nullable_subset hnull
    have hcons : known names ((name, .null) :: members') =
        (name, .null) :: known names members' := by
      simp [known, hn]
    rw [← hcons] at hp
    obtain ⟨hnot, honce'⟩ := (knownOnce_cons_of_mem hn _).mp (honce.perm hp)
    rw [h.decode_eq_ok_iff hs, h.decode_eq_ok_iff hs', and_iff_right honce,
      and_iff_right honce', ← h.cons_null name hnull hnot]
    refine h.congr fun name hn value => ?_
    rw [← mem_known_iff hn, hp.mem_iff, mem_known_iff hn]
  refused {s members} hs hrefused := by
    refine exists_error fun a ha => ?_
    obtain ⟨honce, hsaid⟩ := (h.decode_eq_ok_iff hs).mp ha
    cases hrefused with
    | omitted hn hm =>
      obtain ⟨value, hvalue⟩ := h.exists_mem hsaid _ hn
      exact hm value hvalue
    | repeated hnot => exact hnot honce
    | null hn hnull hm => exact h.ne_null hsaid honce _ hn hnull hm
    | moveType hm ht =>
      obtain ⟨moveType, hread⟩ := h.moveType.2 hsaid
      obtain ⟨t, ht?, hname⟩ :=
        MoveType.mem_of_decoder_eq_ok (hread.of_mem honce h.moveType.1 hm)
      exact ht t ht? hname
  array hlen hs hs' := by
    rw [decode_of_isText d hs, decode_of_isText d hs', h.array hlen]

end

theorem Wizard.State.fieldRules : FieldRules decoder fieldNames nullable [] fun members s =>
    s.SaidBy members where
  eq_ok_iff := decoder_eq_ok_iff
  congr := saidBy_congr
  cons_null _ := saidBy_cons_null
  ne_null h honce _ := h.ne_null honce
  exists_mem _ := nofun
  moveType := ⟨by decide, fun h => ⟨_, h.moveType⟩⟩
  array := isLayout.record_array
  nullable_subset := by decide

theorem MoveRecord.fieldRules : FieldRules decoder fieldNames nullable required fun members r =>
    r.SaidBy members where
  eq_ok_iff := decoder_eq_ok_iff
  congr := saidBy_congr
  cons_null _ := saidBy_cons_null
  ne_null h honce _ := h.ne_null honce
  exists_mem h _ := h.exists_mem
  moveType := ⟨by decide, fun h => ⟨_, h.moveType⟩⟩
  array := isLayout.record_array
  nullable_subset := by decide

/-- Wizard states and moves are decoded by the names of their fields. -/
theorem records_decode_by_name :
    DecodesByName Wizard.State.decoder Wizard.State.fieldNames Wizard.State.nullable []
      Wizard.State.SaidBy ∧
    DecodesByName MoveRecord.decoder MoveRecord.fieldNames MoveRecord.nullable MoveRecord.required
      MoveRecord.SaidBy :=
  ⟨Wizard.State.fieldRules.decodesByName, MoveRecord.fieldRules.decodesByName⟩

/-- A state with an unknown field in front and its own fields out of order, and a move without a
status. -/
theorem records_decode_by_name_out_of_order :
    decode Wizard.State.decoder (Json.object [("notes", .array [.object [("has_move", .null)]]),
        ("has_move", .bool true), ("move_id", .null),
        ("selected_move_type", .string "COMBO")]).render =
      .ok { hasMove := true, moveType := some .hhgPpm } ∧
    ∃ cause, decode MoveRecord.decoder
      (Json.object [("orders_id", .string "o-1"), ("id", .string "m-1")]).render =
        .error cause := by
  constructor
  · refine (records_decode_by_name.1.value (isObjectText_render _) (by decide) _).mpr ?_
    have hmoveType : optional MoveType.decoder (.string (some "COMBO")) = .ok (some .hhgPpm) := rfl
    have hmoveId : optional text .null = .ok none := rfl
    have hhasMove : flag (.bool true) = .ok true := rfl
    exact ⟨.omitted (by simp [memberValues]) rfl,
      .given (by simp [memberValues, document]) hmoveType,
      .given (by simp [memberValues, document]) hhasMove,
      .given (by simp [memberValues, document]) hmoveId, .omitted (by simp [memberValues]) rfl⟩
  · have hrequired : "status" ∈ MoveRecord.required := by decide
    exact records_decode_by_name.2.refused (isObjectText_render _)
      (.omitted hrequired (by simp [memberValues]))

end Relocation
