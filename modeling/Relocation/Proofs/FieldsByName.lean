import Relocation.Proofs.InFlowNavigation
import Relocation.Proofs.JsonGrammar

/-! Records that are read by the names of their fields. What is read of a field depends on what the
object says of it, not on where it says so nor on the members that no field is named like. -/

namespace Relocation.Json

variable {σ α β : Type} {fields : List (RecordField σ)} {names : List String} {name : String}
  {members members' : List (String × Document)} {s s' : σ}

/-! ### What an object says -/

/-- No name of a field comes twice. -/
def KnownOnce (names : List String) (members : List (String × Document)) : Prop :=
  ((members.map Prod.fst).filter (· ∈ names)).Nodup

instance (names : List String) (members : List (String × Document)) :
    Decidable (KnownOnce names members) :=
  inferInstanceAs (Decidable (List.Nodup _))

/-- The members that are named like a field. -/
def known (names : List String) (members : List (String × Document)) : List (String × Document) :=
  members.filter (·.1 ∈ names)

theorem knownOnce_cons_of_mem (hn : name ∈ names) (value : Document) :
    KnownOnce names ((name, value) :: members) ↔
      (∀ value', (name, value') ∉ members) ∧ KnownOnce names members := by
  simp [KnownOnce, hn]

theorem knownOnce_cons_of_notMem (hn : name ∉ names) (value : Document) :
    KnownOnce names ((name, value) :: members) ↔ KnownOnce names members := by
  simp [KnownOnce, hn]

theorem knownOnce_iff_nodup_known :
    KnownOnce names members ↔ ((known names members).map Prod.fst).Nodup := by
  rw [KnownOnce, known, List.filter_map]
  rfl

theorem KnownOnce.perm (h : KnownOnce names members)
    (hp : (known names members).Perm (known names members')) : KnownOnce names members' := by
  rw [knownOnce_iff_nodup_known] at h ⊢
  exact (hp.map Prod.fst).nodup_iff.mp h

theorem mem_known_iff (hn : name ∈ names) (value : Document) :
    (name, value) ∈ known names members ↔ (name, value) ∈ members := by
  simp [known, hn]

/-- A field is said once at most. -/
theorem KnownOnce.eq_of_mem (h : KnownOnce names members) (hn : name ∈ names)
    {value value' : Document} (hm : (name, value) ∈ members) (hm' : (name, value') ∈ members) :
    value = value' := by
  rw [← mem_known_iff hn] at hm hm'
  have heq := List.inj_on_of_nodup_map (knownOnce_iff_nodup_known.mp h) hm hm' rfl
  exact congrArg Prod.snd heq

/-- What an object says of a field: the value of a member with its name, or nothing. -/
inductive Says (members : List (String × Document)) (name : String) (d : Decoder β) :
    Option β → Prop
  | given {value : Document} {b : β} (hm : (name, value) ∈ members) (hd : d value = .ok b) :
      Says members name d (some b)
  | omitted (hm : ∀ value, (name, value) ∉ members) : Says members name d none

/-- What is read of a field that may have a default. -/
inductive Reads (members : List (String × Document)) (name : String) (d : Decoder β)
    (default? : Option β) : β → Prop
  | given {value : Document} {b : β} (hm : (name, value) ∈ members) (hd : d value = .ok b) :
      Reads members name d default? b
  | omitted {b : β} (hm : ∀ value, (name, value) ∉ members) (hdefault : default? = some b) :
      Reads members name d default? b

section

variable {d : Decoder β} {default? b? : Option β} {b : β} {value : Document}

theorem Says.reads (h : Says members name d b?) (hb : b?.or default? = some b) :
    Reads members name d default? b := by
  cases h with
  | given hm hd =>
    obtain rfl := Option.some.inj hb
    exact .given hm hd
  | omitted hm => exact .omitted hm hb

theorem Reads.of_mem (h : Reads members name d default? b) (honce : KnownOnce names members)
    (hn : name ∈ names) (hm : (name, value) ∈ members) : d value = .ok b := by
  cases h with
  | given hm' hd => rwa [honce.eq_of_mem hn hm hm']
  | omitted hm' _ => exact absurd hm (hm' value)

theorem Reads.of_notMem (h : Reads members name d default? b)
    (hm : ∀ value, (name, value) ∉ members) : default? = some b := by
  cases h with
  | given hm' _ => exact absurd hm' (hm _)
  | omitted _ hdefault => exact hdefault

theorem Says.or_eq_of_reads (h : Says members name d b?) (hr : Reads members name d default? b)
    (honce : KnownOnce names members) (hn : name ∈ names) : b?.or default? = some b := by
  cases h with
  | given hm hd => exact congrArg some (Except.ok.inj (hd.symm.trans (hr.of_mem honce hn hm)))
  | omitted hm => exact hr.of_notMem hm

theorem Says.getD_eq {c : β} (h : Says members name d b?) (hr : Reads members name d (some c) b)
    (honce : KnownOnce names members) (hn : name ∈ names) : b?.getD c = b := by
  have hor := h.or_eq_of_reads hr honce hn
  rw [Option.or_some] at hor
  exact Option.some.inj hor

theorem Says.eq_some (h : Says members name d b?) (hr : Reads members name d none b)
    (honce : KnownOnce names members) (hn : name ∈ names) : b? = some b := by
  have hor := h.or_eq_of_reads hr honce hn
  rwa [Option.or_none] at hor

theorem reads_congr (h : ∀ value, (name, value) ∈ members ↔ (name, value) ∈ members') :
    Reads members name d default? b ↔ Reads members' name d default? b := by
  constructor
  · rintro (⟨hm, hd⟩ | ⟨hm, hdefault⟩)
    · exact .given ((h _).mp hm) hd
    · exact .omitted (fun value hm' => hm value ((h value).mpr hm')) hdefault
  · rintro (⟨hm, hd⟩ | ⟨hm, hdefault⟩)
    · exact .given ((h _).mpr hm) hd
    · exact .omitted (fun value hm' => hm value ((h value).mp hm')) hdefault

theorem reads_cons_of_ne {other : String} (hne : name ≠ other) :
    Reads ((other, value) :: members) name d default? b ↔ Reads members name d default? b :=
  reads_congr fun value => by simp [hne]

/-- To write `null` is to leave the field out. -/
theorem reads_cons_null {d : Decoder β} {b? : Option β} (hm : ∀ value, (name, value) ∉ members) :
    Reads ((name, .null) :: members) name (optional d) (some none) b? ↔
      Reads members name (optional d) (some none) b? := by
  constructor
  · rintro (⟨hm', hd⟩ | ⟨hm', -⟩)
    · rcases List.mem_cons.mp hm' with heq | hm'
      · cases heq
        obtain rfl := Except.ok.inj hd
        exact .omitted hm rfl
      · exact absurd hm' (hm _)
    · exact absurd List.mem_cons_self (hm' .null)
  · intro h
    obtain rfl := Option.some.inj (h.of_notMem hm)
    exact .given List.mem_cons_self rfl

end

/-! ### Filling a record -/

/-- Reading the field leaves this part of the record as it is. -/
def RecordField.Keeps (field : RecordField σ) (get : σ → Option β) : Prop :=
  ∀ value put s, field.read value = .ok put → get (put s) = get s

@[simp]
theorem RecordField.name_of (name : String) (get : σ → Option β) (set : σ → β → σ)
    (d : Decoder β) : (RecordField.of name get set d).name = name :=
  rfl

theorem RecordField.keeps_of {γ : Type} {name : String} {get : σ → Option γ} {set : σ → γ → σ}
    {d : Decoder γ} {get' : σ → Option β} (h : ∀ s c, get' (set s c) = get' s) :
    (RecordField.of name get set d).Keeps get' := by
  intro value put s hread
  obtain ⟨c, -, hput⟩ := except_bind_eq_ok_iff.mp hread
  obtain rfl := Except.ok.inj hput
  exact h s c

theorem Reads.exists_put {get : σ → Option β} {set : σ → β → σ} {d : Decoder β}
    {default? : Option β} {b : β} (h : Reads members name d default? b)
    (honce : KnownOnce names members) (hn : name ∈ names) (value : Document)
    (hm : (name, value) ∈ members) : ∃ put, (RecordField.of name get set d).read value = .ok put :=
  ⟨_, except_bind_eq_ok_iff.mpr ⟨b, h.of_mem honce hn hm, rfl⟩⟩

/-- The field of this name is kept in `get` and read by `d`. No other field touches it. -/
structure IsField (fields : List (RecordField σ)) (name : String) (get : σ → Option β)
    (d : Decoder β) : Prop where
  found : ∃ set, findField fields name = some (.of name get set d) ∧ ∀ s b, get (set s b) = some b
  kept : ∀ field ∈ fields, field.name ≠ name → field.Keeps get

theorem findField_eq_some {field : RecordField σ} (h : findField fields name = some field) :
    field ∈ fields ∧ field.name = name :=
  ⟨List.mem_of_find?_eq_some h, by simpa using List.find?_some h⟩

theorem findField_eq_none_iff : findField fields name = none ↔
    name ∉ fields.map RecordField.name := by
  simp [findField]

theorem fillMembers_unknown (h : findField fields name = none) {value : Document} :
    fillMembers fields s (withNames ((name, value) :: members)) =
      (do value.passOver; fillMembers fields s (withNames members)) := by
  simp only [withNames, List.map_cons, fillMembers, h]

theorem fillMembers_known {field : RecordField σ} (h : findField fields name = some field)
    {value : Document} : fillMembers fields s (withNames ((name, value) :: members)) = .ok s' ↔
      field.isSet s = false ∧ ∃ put, field.read value = .ok put ∧
        fillMembers fields (put s) (withNames members) = .ok s' := by
  simp only [withNames, List.map_cons, fillMembers, h]
  cases hs : field.isSet s
  · simp [except_bind_eq_ok_iff]
  · simp [bind, Except.bind, throw, throwThe, MonadExceptOf.throw]

/-- What filling leaves in the place of a field: what was there, where no member has its name, and
else what the member is read as. -/
def Leaves (members : List (String × Document)) (name : String) (d : Decoder β)
    (b? b?' : Option β) : Prop :=
  (b?' = b? ∧ ∀ value, (name, value) ∉ members) ∨
    b? = none ∧ ∃ value b, (name, value) ∈ members ∧ d value = .ok b ∧ b?' = some b

theorem Leaves.cons_of_ne {d : Decoder β} {b? b?' : Option β} {other : String}
    (h : Leaves members name d b? b?') (hne : other ≠ name) (value : Document) :
    Leaves ((other, value) :: members) name d b? b?' := by
  rcases h with ⟨hb, hm⟩ | ⟨hb, value', b, hm, hd⟩
  · exact .inl ⟨hb, by simp [hne.symm, hm]⟩
  · exact .inr ⟨hb, value', b, List.mem_cons_of_mem _ hm, hd⟩

theorem IsField.leaves_of_fill {get : σ → Option β} {d : Decoder β}
    (hf : IsField fields name get d) (h : fillMembers fields s (withNames members) = .ok s') :
    Leaves members name d (get s) (get s') := by
  induction members generalizing s with
  | nil =>
    obtain rfl := Except.ok.inj h
    exact .inl ⟨rfl, fun _ => List.not_mem_nil⟩
  | cons member members ih =>
    obtain ⟨n, value⟩ := member
    obtain ⟨set, hfound, hset⟩ := hf.found
    cases hn : findField fields n with
    | none =>
      have hne : n ≠ name := by
        rintro rfl
        rw [hn] at hfound
        cases hfound
      rw [fillMembers_unknown hn] at h
      obtain ⟨_, -, h⟩ := except_bind_eq_ok_iff.mp h
      exact (ih h).cons_of_ne hne value
    | some field =>
      obtain ⟨hunset, put, hread, h⟩ := (fillMembers_known hn).mp h
      have hrest := ih h
      by_cases hne : n = name
      · subst hne
        obtain rfl := Option.some.inj (hn.symm.trans hfound)
        obtain ⟨b, hd, hput⟩ := except_bind_eq_ok_iff.mp hread
        obtain rfl := Except.ok.inj hput
        rw [hset] at hrest
        refine .inr ⟨by simpa [RecordField.of] using hunset, value, b, List.mem_cons_self, hd, ?_⟩
        exact hrest.elim And.left fun hset => absurd hset.1 (Option.some_ne_none b)
      · obtain ⟨hmem, rfl⟩ := findField_eq_some hn
        rw [hf.kept field hmem hne value put s hread] at hrest
        exact hrest.cons_of_ne hne value

/-- A list of fields each of which has a place of its own in the record, with nothing in it at the
start. -/
structure IsLayout (fields : List (RecordField σ)) (start : σ) : Prop where
  nodup : (fields.map RecordField.name).Nodup
  field : ∀ field ∈ fields, ∃ (β : Type) (get : σ → Option β) (d : Decoder β),
    IsField fields field.name get d
  start : ∀ field ∈ fields, field.isSet start = false

section

variable {start : σ} {get : σ → Option β} {d : Decoder β}

theorem IsField.isSet_eq (hf : IsField fields name get d) {field : RecordField σ}
    (h : findField fields name = some field) (s : σ) : field.isSet s = (get s).isSome := by
  obtain ⟨set, hfound, -⟩ := hf.found
  obtain rfl := Option.some.inj (h.symm.trans hfound)
  rfl

theorem IsLayout.findField (hl : IsLayout fields start) {field : RecordField σ}
    (h : field ∈ fields) : findField fields field.name = some field :=
  Wizard.find?_key_of_nodup hl.nodup h

/-- Reading one field sets that one and no other. -/
theorem IsLayout.isSet_put (hl : IsLayout fields start) {field other : RecordField σ}
    (h : field ∈ fields) (ho : other ∈ fields) {value : Document} {put : σ → σ}
    (hread : field.read value = .ok put) (hset : other.isSet (put s) = true) :
    other.name = field.name ∨ other.isSet s = true := by
  by_cases hne : other.name = field.name
  · exact .inl hne
  · obtain ⟨β, get, d, hf⟩ := hl.field other ho
    have hkept := hf.kept field h (Ne.symm hne) value put s hread
    rw [hf.isSet_eq (hl.findField ho), hkept, ← hf.isSet_eq (hl.findField ho)] at hset
    exact .inr hset

theorem IsLayout.says_of_fill (hl : IsLayout fields start) (hf : IsField fields name get d)
    (h : fillMembers fields start (withNames members) = .ok s) : Says members name d (get s) := by
  obtain ⟨set, hfound, -⟩ := hf.found
  have hstart := hl.start _ (findField_eq_some hfound).1
  have hnone : get start = none := by simpa [RecordField.of] using hstart
  rcases hf.leaves_of_fill h with ⟨hs, hm⟩ | ⟨-, value, b, hm, hd, hs⟩
  · rw [hs, hnone]
    exact .omitted hm
  · rw [hs]
    exact .given hm hd

/-- A field that comes twice is an error. -/
theorem IsLayout.knownOnce_of_fill (hl : IsLayout fields start)
    (h : fillMembers fields s (withNames members) = .ok s') :
    KnownOnce (fields.map RecordField.name) members := by
  induction members generalizing s with
  | nil => exact List.nodup_nil
  | cons member members ih =>
    obtain ⟨n, value⟩ := member
    cases hn : Json.findField fields n with
    | none =>
      rw [fillMembers_unknown hn] at h
      obtain ⟨_, -, h⟩ := except_bind_eq_ok_iff.mp h
      exact (knownOnce_cons_of_notMem (findField_eq_none_iff.mp hn) value).mpr (ih h)
    | some field =>
      obtain ⟨hmem, rfl⟩ := findField_eq_some hn
      obtain ⟨β, get, d, hf⟩ := hl.field field hmem
      obtain ⟨-, put, hread, h⟩ := (fillMembers_known hn).mp h
      refine (knownOnce_cons_of_mem (List.mem_map_of_mem hmem) value).mpr ⟨?_, ih h⟩
      obtain ⟨set, hfound, hset⟩ := hf.found
      rw [hn] at hfound
      have hput : ∃ b, get (put s) = some b := by
        rw [Option.some.inj hfound] at hread
        obtain ⟨b, -, hput⟩ := except_bind_eq_ok_iff.mp hread
        obtain rfl := Except.ok.inj hput
        exact ⟨b, hset s b⟩
      obtain ⟨b, hb⟩ := hput
      have hleaves := hf.leaves_of_fill h
      rw [hb] at hleaves
      exact hleaves.elim And.right fun hset => absurd hset.1 (Option.some_ne_none b)

theorem IsLayout.exists_fill_from (hl : IsLayout fields start)
    (honce : KnownOnce (fields.map RecordField.name) members)
    (hover : ∀ member ∈ members, member.2.passOver = .ok ())
    (hread : ∀ field ∈ fields, ∀ value, (field.name, value) ∈ members →
      ∃ put, field.read value = .ok put)
    (hfree : ∀ field ∈ fields, field.isSet s = true → ∀ value, (field.name, value) ∉ members) :
    ∃ s', fillMembers fields s (withNames members) = .ok s' := by
  induction members generalizing s with
  | nil => exact ⟨s, rfl⟩
  | cons member members ih =>
    obtain ⟨n, value⟩ := member
    obtain ⟨hvalue, hover'⟩ := List.forall_mem_cons.mp hover
    have hread' : ∀ field ∈ fields, ∀ value, (field.name, value) ∈ members →
        ∃ put, field.read value = .ok put :=
      fun field hm value hv => hread field hm value (List.mem_cons_of_mem _ hv)
    cases hn : Json.findField fields n with
    | none =>
      rw [knownOnce_cons_of_notMem (findField_eq_none_iff.mp hn)] at honce
      rw [fillMembers_unknown hn, hvalue]
      refine ih honce hover' hread' fun field hm hset value hv => ?_
      exact hfree field hm hset value (List.mem_cons_of_mem _ hv)
    | some field =>
      obtain ⟨hmem, rfl⟩ := findField_eq_some hn
      obtain ⟨hnot, honce⟩ := (knownOnce_cons_of_mem (List.mem_map_of_mem hmem) value).mp honce
      have hunset : field.isSet s = false := by
        by_contra hset
        exact hfree field hmem (Bool.not_eq_false _ ▸ hset) value List.mem_cons_self
      obtain ⟨put, hput⟩ := hread field hmem value List.mem_cons_self
      have hfree' : ∀ other ∈ fields, other.isSet (put s) = true →
          ∀ value, (other.name, value) ∉ members := by
        intro other ho hset value' hv
        rcases hl.isSet_put hmem ho hput hset with heq | hset
        · exact hnot value' (heq ▸ hv)
        · exact hfree other ho hset value' (List.mem_cons_of_mem _ hv)
      obtain ⟨s', hs'⟩ := ih honce hover' hread' hfree'
      exact ⟨s', (fillMembers_known hn).mpr ⟨hunset, put, hput, hs'⟩⟩

/-- Filling does not fail on members that are in order one by one. -/
theorem IsLayout.exists_fill (hl : IsLayout fields start)
    (honce : KnownOnce (fields.map RecordField.name) members)
    (hover : ∀ member ∈ members, member.2.passOver = .ok ())
    (hread : ∀ field ∈ fields, ∀ value, (field.name, value) ∈ members →
      ∃ put, field.read value = .ok put) :
    ∃ s, fillMembers fields start (withNames members) = .ok s := by
  refine hl.exists_fill_from honce hover hread fun field hm hset => ?_
  rw [hl.start field hm] at hset
  cases hset

/-- The values of the fields in their order fill the record as the members with their names do. -/
theorem IsLayout.fillItems_eq (hl : IsLayout fields start) {others : List (RecordField σ)}
    (hsub : ∀ field ∈ others, field ∈ fields) (hn : (others.map RecordField.name).Nodup)
    (hfree : ∀ field ∈ others, field.isSet s = false) {values : List Document}
    (hlen : values.length ≤ others.length) : fillItems others s values =
      fillMembers fields s (withNames ((others.map RecordField.name).zip values)) := by
  induction others generalizing s values with
  | nil =>
    obtain rfl := List.length_eq_zero_iff.mp (Nat.le_zero.mp hlen)
    rfl
  | cons field others ih =>
    cases values with
    | nil => rfl
    | cons value values =>
      obtain ⟨hmem, hsub⟩ := List.forall_mem_cons.mp hsub
      obtain ⟨hunset, hfree⟩ := List.forall_mem_cons.mp hfree
      obtain ⟨hnot, hn⟩ := List.nodup_cons.mp hn
      simp only [fillItems, List.map_cons, List.zip_cons_cons, withNames, fillMembers,
        hl.findField hmem, hunset, Bool.false_eq_true, if_false]
      cases hput : field.read value with
      | error cause => rfl
      | ok put =>
        refine ih hsub hn (fun other ho => ?_) (Nat.le_of_succ_le_succ hlen)
        by_contra hset
        rcases hl.isSet_put hmem (hsub other ho) hput (Bool.not_eq_false _ ▸ hset) with heq | hset
        · exact hnot (heq ▸ List.mem_map_of_mem ho)
        · rw [hfree other ho] at hset
          cases hset

end

/-! ### Parts of a record -/

/-- A part of a record: the name of its field, the place where it is kept and how it is read. -/
structure DraftPart (σ : Type) where
  {Value : Type}
  name : String
  get : σ → Option Value
  set : σ → Value → σ
  decoder : Decoder Value

def DraftPart.field (p : DraftPart σ) : RecordField σ := .of p.name p.get p.set p.decoder

/-- Parts with names and places of their own, all of which are empty at the start. -/
structure AreParts (parts : List (DraftPart σ)) (start : σ) : Prop where
  nodup : (parts.map DraftPart.name).Nodup
  get_start : ∀ p ∈ parts, p.get start = none
  get_set : ∀ p ∈ parts, ∀ s b, p.get (p.set s b) = some b
  get_set_of_ne : ∀ p ∈ parts, ∀ q ∈ parts, q.name ≠ p.name → ∀ s b, p.get (q.set s b) = p.get s

section

variable {parts : List (DraftPart σ)} {start : σ} {p : DraftPart σ}

theorem map_name_map_field (parts : List (DraftPart σ)) :
    (parts.map DraftPart.field).map RecordField.name = parts.map DraftPart.name := by
  rw [List.map_map]
  rfl

theorem AreParts.isField (h : AreParts parts start) (hp : p ∈ parts) :
    IsField (parts.map DraftPart.field) p.name p.get p.decoder where
  found := by
    have hn := h.nodup
    rw [← map_name_map_field] at hn
    exact ⟨p.set, Wizard.find?_key_of_nodup hn (List.mem_map_of_mem hp), h.get_set p hp⟩
  kept := by
    intro field hf hne
    obtain ⟨q, hq, rfl⟩ := List.mem_map.mp hf
    exact RecordField.keeps_of (h.get_set_of_ne p hp q hq hne)

theorem AreParts.isLayout (h : AreParts parts start) :
    IsLayout (parts.map DraftPart.field) start where
  nodup := by
    rw [map_name_map_field]
    exact h.nodup
  field := by
    intro field hf
    obtain ⟨p, hp, rfl⟩ := List.mem_map.mp hf
    exact ⟨_, _, _, h.isField hp⟩
  start := by
    intro field hf
    obtain ⟨p, hp, rfl⟩ := List.mem_map.mp hf
    exact congrArg Option.isSome (h.get_start p hp)

/-- Filling puts into each part what the object says of it. -/
theorem AreParts.says_of_fill (h : AreParts parts start)
    (hfill : fillMembers (parts.map DraftPart.field) start (withNames members) = .ok s) :
    ∀ p ∈ parts, Says members p.name p.decoder (p.get s) := fun _ hp =>
  h.isLayout.says_of_fill (h.isField hp) hfill

end

/-! ### Records -/

section

variable {start : σ} {build : σ → Option α} {a : α}

theorem record_eq_ok_iff : record fields start build (.object (withNames members) none) = .ok a ↔
    ∃ s, fillMembers fields start (withNames members) = .ok s ∧ build s = some a := by
  simp only [record, ofCause?, except_bind_eq_ok_iff]
  constructor
  · rintro ⟨s, hs, -, -, hb⟩
    cases hbuild : build s with
    | none =>
      rw [hbuild] at hb
      cases hb
    | some a' =>
      rw [hbuild] at hb
      obtain rfl := Except.ok.inj hb
      exact ⟨s, hs, hbuild⟩
  · rintro ⟨s, hs, hb⟩
    exact ⟨s, hs, (), trivial, by rw [hb]; rfl⟩

/-- The array of the first fields' values is read as the object with these members. -/
theorem IsLayout.record_array (hl : IsLayout fields start) {values : List Document}
    (hlen : values.length ≤ fields.length) : record fields start build (.array values none) =
      record fields start build
        (.object (withNames ((fields.map RecordField.name).zip values)) none) := by
  rw [record, record, hl.fillItems_eq (fun _ h => h) hl.nodup hl.start hlen]

end

end Relocation.Json
