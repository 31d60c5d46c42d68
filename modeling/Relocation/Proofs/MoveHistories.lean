import Mathlib.Data.List.Induction
import Relocation.Proofs.MoveStores
import Relocation.Proofs.Outcomes

/-! A store of moves after any operations, one after another. It is a map from ids to the records
that it was made from and those that it created, and lists them in the order of their ids. -/

namespace Relocation.MoveStore

inductive Operation where
  | create (id : MoveId) (locator : String) (ordersId : OrdersId)
  | fetch (id : MoveId)
  | size
  | isEmpty
  | records

inductive Answer where
  | created (record : MoveRecord)
  | fetched (result : Except StoreError MoveRecord)
  | counted (size : Nat)
  | told (isEmpty : Bool)
  | listed (records : List MoveRecord)

structure Event where
  operation : Operation
  answer : Answer

/-- The record that a move was created with. -/
def Event.created? (e : Event) : Option MoveRecord :=
  match e.answer with
  | .created record => some record
  | _ => none

def perform (store : MoveStore) : Operation → Answer × MoveStore
  | .create id locator ordersId => (store.create id locator ordersId).map .created (·)
  | .fetch id => (.fetched (store.fetch id), store)
  | .size => (.counted store.size, store)
  | .isEmpty => (.told store.isEmpty, store)
  | .records => (.listed store.records, store)

def after (store : MoveStore) (op : Operation) : MoveStore := (store.perform op).2

def event (store : MoveStore) (op : Operation) : Event := ⟨op, (store.perform op).1⟩

def run (store : MoveStore) (ops : List Operation) : MoveStore := ops.foldl after store

def history : MoveStore → List Operation → List Event
  | _, [] => []
  | store, op :: ops => store.event op :: history (store.after op) ops

def createdRecords (events : List Event) : List MoveRecord := events.filterMap Event.created?

/-- The ids of created moves are all different, and no record that the store was made from has
one of them. -/
structure FreshIds (seed : List MoveRecord) (events : List Event) : Prop where
  nodup : ((createdRecords events).map MoveRecord.id).Nodup
  unused : ∀ created ∈ createdRecords events, ∀ record ∈ seed, record.id ≠ created.id

/-- The last record with its id that the store was made from, or what a move was created with. -/
def Known (seed : List MoveRecord) (events : List Event) (record : MoveRecord) : Prop :=
  IsLast seed record ∨ record ∈ createdRecords events

/-- No record that the store was made from has this id, and no move was created under it. -/
def Unknown (seed : List MoveRecord) (events : List Event) (id : MoveId) : Prop :=
  (∀ record ∈ seed, record.id ≠ id) ∧ ∀ record ∈ createdRecords events, record.id ≠ id

def codePoints (s : String) : List Nat := s.toList.map Char.toNat

/-- What holds of the store that a history has led to. -/
structure IsMoveMap (seed : List MoveRecord) (events : List Event) (store : MoveStore) :
    Prop where
  found : ∀ id record, store.fetch id = .ok record ↔ Known seed events record ∧ record.id = id
  missed : ∀ id e, store.fetch id = .error e ↔ e = .moveNotFound id ∧ Unknown seed events id
  increases : store.records.Pairwise fun a b => codePoints a.id < codePoints b.id
  listed : ∀ record, record ∈ store.records ↔ ∃ id, store.fetch id = .ok record
  size_eq : store.size = store.records.length
  isEmpty_iff : store.isEmpty = true ↔ store.size = 0
  created : ∀ id locator ordersId, Unknown seed events id →
    let record : MoveRecord := ⟨id, ordersId, some locator, "DRAFT", none, none, []⟩
    let later := (store.create id locator ordersId).2
    (store.create id locator ordersId).1 = record ∧ later.fetch id = .ok record ∧
      (∀ other, other ≠ id → later.fetch other = store.fetch other) ∧
      (∀ r, r ∈ later.records ↔ r = record ∨ r ∈ store.records) ∧ later.size = store.size + 1

/-- What a store is made of when it is read from a file. -/
structure IsReadFrom (files : Files) (path : String) : Prop where
  unreadable : ∀ e, (files.look path).read = .error e →
    ofFixture files path = .error (.fixture s!"could not read `{path}`: {e.message}")
  undecodable : ∀ content cause, (files.look path).read = .ok content →
    Json.decode (Json.list MoveRecord.decoder) content = .error cause →
    ofFixture files path = .error (.fixture s!"could not parse `{path}`: {unreadDetail}")
  loaded : ∀ store, ofFixture files path = .ok store ↔
    ∃ records, FixtureHas files path records ∧ store = ofRecords records

variable {store : MoveStore} {seed : List MoveRecord} {record : MoveRecord} {events : List Event}
  {ops : List Operation} {op : Operation} {id : MoveId}

theorem run_append_singleton (store : MoveStore) (ops : List Operation) (op : Operation) :
    store.run (ops ++ [op]) = (store.run ops).after op := by
  simp [run]

theorem history_append (store : MoveStore) (ops later : List Operation) :
    store.history (ops ++ later) = store.history ops ++ (store.run ops).history later := by
  induction ops generalizing store with
  | nil => rfl
  | cons op ops ih =>
    have hh := ih (store.after op)
    simp only [List.cons_append, history, hh]
    rfl

theorem createdRecords_append (events later : List Event) :
    createdRecords (events ++ later) = createdRecords events ++ createdRecords later :=
  List.filterMap_append

theorem FreshIds.of_append {later : List Event} (h : FreshIds seed (events ++ later)) :
    FreshIds seed events := by
  have hsub : (createdRecords events).Sublist (createdRecords (events ++ later)) := by
    rw [createdRecords_append]
    exact List.sublist_append_left ..
  exact ⟨h.nodup.sublist (hsub.map _), fun created hc => h.unused created (hsub.subset hc)⟩

/-! ### What one operation does -/

/-- An operation creates a move, or leaves the store as it is. -/
theorem perform_cases (store : MoveStore) (op : Operation) :
    (∃ id locator ordersId, (store.event op).created? = some (.draft id ordersId locator) ∧
      store.after op = (store.create id locator ordersId).2) ∨
    ((store.event op).created? = none ∧ store.after op = store) := by
  cases op with
  | create id locator ordersId => exact .inl ⟨id, locator, ordersId, rfl, rfl⟩
  | _ => exact .inr ⟨rfl, rfl⟩

theorem get?_create (store : MoveStore) (id : MoveId) (locator : String) (ordersId : OrdersId)
    (other : MoveId) : (store.create id locator ordersId).2.moves.get? other =
      if other = id then some (.draft id ordersId locator) else store.moves.get? other := by
  simp [create]

theorem IsKeyed.create (h : store.IsKeyed) (id : MoveId) (locator : String)
    (ordersId : OrdersId) : (store.create id locator ordersId).2.IsKeyed := by
  intro other record hget
  rw [get?_create] at hget
  split at hget
  · next he =>
    obtain rfl := Option.some.inj hget
    exact he.symm
  · exact h other record hget

theorem IsKeyed.after (h : store.IsKeyed) (op : Operation) : (store.after op).IsKeyed := by
  rcases store.perform_cases op with ⟨id, locator, ordersId, -, ha⟩ | ⟨-, ha⟩ <;> rw [ha]
  · exact h.create id locator ordersId
  · exact h

theorem IsKeyed.run (h : store.IsKeyed) (ops : List Operation) : (store.run ops).IsKeyed := by
  induction ops generalizing store with
  | nil => exact h
  | cons op ops ih => exact ih (h.after op)

/-! ### What a run leaves -/

theorem Unknown.not_known (h : Unknown seed events id) (hk : Known seed events record) :
    record.id ≠ id := by
  rcases hk with hlast | hcreated
  · exact h.1 record hlast.mem
  · exact h.2 record hcreated

theorem FreshIds.unknown {e : Event} (h : FreshIds seed (events ++ [e]))
    (he : e.created? = some record) : Unknown seed events record.id := by
  have hcreated : createdRecords (events ++ [e]) = createdRecords events ++ [record] := by
    simp [createdRecords, he]
  obtain ⟨hnodup, hunused⟩ := h
  rw [hcreated] at hnodup hunused
  refine ⟨hunused record (by simp), fun other hother => ?_⟩
  rw [List.map_append, List.nodup_append] at hnodup
  exact hnodup.2.2 other.id (List.mem_map_of_mem hother) record.id (by simp)

/-- What is stored is what is known. -/
theorem get?_run_iff (h : FreshIds seed ((ofRecords seed).history ops)) :
    ((ofRecords seed).run ops).moves.get? id = some record ↔
      Known seed ((ofRecords seed).history ops) record ∧ record.id = id := by
  induction ops using List.reverseRecOn with
  | nil => simp [run, history, Known, createdRecords, get?_ofRecords_eq_some_iff]
  | append_singleton ops op ih =>
    rw [history_append] at h ⊢
    have he : ((ofRecords seed).run ops).history [op] = [((ofRecords seed).run ops).event op] := rfl
    have ih := ih h.of_append
    rw [he] at h ⊢
    rw [run_append_singleton, Known, createdRecords_append]
    rcases perform_cases ((ofRecords seed).run ops) op with
      ⟨newId, locator, ordersId, hc, ha⟩ | ⟨hc, ha⟩
    · have hnew := h.unknown hc
      have hcreated : createdRecords [((ofRecords seed).run ops).event op] =
          [.draft newId ordersId locator] := by
        simp [createdRecords, hc]
      rw [ha, get?_create, hcreated, List.mem_append, List.mem_singleton, ← or_assoc]
      change _ ↔ (Known seed _ record ∨ _) ∧ _
      split
      · next hid =>
        subst hid
        constructor
        · intro hr
          obtain rfl := Option.some.inj hr
          exact ⟨.inr rfl, rfl⟩
        · rintro ⟨hk | rfl, hr⟩
          · exact absurd hr (hnew.not_known hk)
          · rfl
      · next hid =>
        rw [ih]
        refine and_congr_left fun hr => ⟨.inl, fun hk => hk.resolve_right ?_⟩
        rintro rfl
        exact hid hr.symm
    · have hcreated : createdRecords [((ofRecords seed).run ops).event op] = [] := by
        simp [createdRecords, hc]
      rw [ha, hcreated, List.append_nil]
      exact ih

theorem fetch_eq_ok_iff : store.fetch id = .ok record ↔ store.moves.get? id = some record := by
  rw [fetch, elim_eq_ok_iff]

theorem fetch_eq_error_iff {e : StoreError} :
    store.fetch id = .error e ↔ e = .moveNotFound id ∧ store.moves.get? id = none := by
  rw [fetch, elim_eq_error_iff]

theorem unknown_iff :
    Unknown seed events id ↔ ∀ record, Known seed events record → record.id ≠ id := by
  constructor
  · exact fun h record hk => h.not_known hk
  · intro h
    refine ⟨fun record hm hid => ?_, fun record hm => h record (.inr hm)⟩
    have hsome : (ofRecords seed).moves.get? id ≠ none := fun hnone =>
      get?_ofRecords_eq_none_iff.mp hnone record hm hid
    obtain ⟨last, hlast⟩ := Option.ne_none_iff_exists'.mp hsome
    obtain ⟨hlast, hid⟩ := get?_ofRecords_eq_some_iff.mp hlast
    exact h last (.inl hlast) hid

theorem map_toNat_lt {cs ds : List Char} (h : cs < ds) : cs.map Char.toNat < ds.map Char.toNat := by
  induction cs generalizing ds with
  | nil =>
    cases ds with
    | nil => exact absurd h (List.lt_irrefl _)
    | cons d ds => exact List.nil_lt_cons ..
  | cons c cs ih =>
    cases ds with
    | nil => exact absurd h (List.not_lt_nil _)
    | cons d ds =>
      rw [List.map_cons, List.map_cons, List.cons_lt_cons_iff]
      rcases List.cons_lt_cons_iff.mp h with hlt | ⟨rfl, hlt⟩
      · exact .inl hlt
      · exact .inr ⟨rfl, ih hlt⟩

theorem codePoints_lt {a b : String} (h : a < b) : codePoints a < codePoints b :=
  map_toNat_lt h

theorem IsKeyed.mem_records_iff_fetch (h : store.IsKeyed) :
    record ∈ store.records ↔ ∃ id, store.fetch id = .ok record := by
  simp only [fetch_eq_ok_iff]
  rw [h.mem_records_iff]
  exact ⟨fun hget => ⟨_, hget⟩, fun ⟨id, hget⟩ => h id record hget ▸ hget⟩

/-- A new move under an id that has none is added to the records, and no other is touched. -/
theorem IsKeyed.adds (h : store.IsKeyed) (hnone : store.moves.get? id = none) (locator : String)
    (ordersId : OrdersId) :
    let later := (store.create id locator ordersId).2
    (∀ r, r ∈ later.records ↔ r = .draft id ordersId locator ∨ r ∈ store.records) ∧
      later.size = store.size + 1 := by
  refine ⟨fun r => ?_, Dictionary.size_insert_of_absent _ hnone⟩
  rw [(h.create id locator ordersId).mem_records_iff, get?_create, h.mem_records_iff]
  split
  · next hid =>
    constructor
    · exact fun hr => .inl (Option.some.inj hr).symm
    · rintro (rfl | hget)
      · rfl
      · rw [hid, hnone] at hget
        cases hget
  · next hid =>
    refine ⟨.inr, fun hr => hr.resolve_left ?_⟩
    rintro rfl
    exact hid rfl

theorem get?_run_eq_none_iff (h : FreshIds seed ((ofRecords seed).history ops)) :
    ((ofRecords seed).run ops).moves.get? id = none ↔
      Unknown seed ((ofRecords seed).history ops) id := by
  rw [unknown_iff, Option.eq_none_iff_forall_ne_some]
  simp only [ne_eq, get?_run_iff h, not_and]

theorem isMoveMap_run (h : FreshIds seed ((ofRecords seed).history ops)) :
    IsMoveMap seed ((ofRecords seed).history ops) ((ofRecords seed).run ops) where
  found id record := fetch_eq_ok_iff.trans (get?_run_iff h)
  missed id e := fetch_eq_error_iff.trans (and_congr_right fun _ => get?_run_eq_none_iff h)
  increases := ((isKeyed_ofRecords seed).run ops).pairwise_records.imp codePoints_lt
  listed record := ((isKeyed_ofRecords seed).run ops).mem_records_iff_fetch
  size_eq := (List.length_map _).symm
  isEmpty_iff := List.isEmpty_iff.trans List.length_eq_zero_iff.symm
  created id locator ordersId hid := by
    have hkeyed := (isKeyed_ofRecords seed).run ops
    refine ⟨rfl, ?_, fun other hne => ?_, hkeyed.adds ((get?_run_eq_none_iff h).mpr hid) ..⟩
    · rw [fetch_eq_ok_iff, get?_create, if_pos rfl]
      rfl
    · rw [fetch, fetch, get?_create, if_neg hne]

theorem isReadFrom (files : Files) (path : String) : IsReadFrom files path where
  unreadable e h := by simp [ofFixture, h]
  undecodable content cause h hd := by simp [ofFixture, h, hd]
  loaded store := ofFixture_eq_ok_iff

/-- After any operations, a store of moves is the map from ids to the records that it was made from
and those that it created since. It is read from a file or not made at all. -/
theorem stores_are_maps_in_order_of_ids (seed : List MoveRecord) (ops : List Operation)
    (h : FreshIds seed ((ofRecords seed).history ops)) :
    (∀ earlier later, ops = earlier ++ later →
      IsMoveMap seed ((ofRecords seed).history earlier) ((ofRecords seed).run earlier)) ∧
    ∀ files path, IsReadFrom files path := by
  refine ⟨?_, isReadFrom⟩
  rintro earlier later rfl
  rw [history_append] at h
  exact isMoveMap_run h.of_append

/-- Of the three records that it is made from two share an id, and of the ids one is Greek. -/
def seededStore : List MoveRecord :=
  [.draft "a" "o-1" "L1", .draft "ω" "o-2" "L2", .draft "a" "o-3" "L3"]

theorem stores_are_maps_in_order_of_ids_of_seed :
    let ops : List Operation := [.fetch "z", .create "z" "L4" "o-4", .fetch "z", .records]
    FreshIds seededStore ((ofRecords seededStore).history ops) ∧
      (ofRecords seededStore).fetch "z" = .error (.moveNotFound "z") ∧
      ((ofRecords seededStore).run ops).fetch "z" = .ok (.draft "z" "o-4" "L4") ∧
      ((ofRecords seededStore).run ops).fetch "a" = .ok (.draft "a" "o-3" "L3") := by
  intro ops
  have hfresh : FreshIds seededStore ((ofRecords seededStore).history ops) :=
    ⟨by decide, by decide⟩
  obtain ⟨hmap, -⟩ := stores_are_maps_in_order_of_ids seededStore ops hfresh
  have hstart := hmap [] ops rfl
  have hend := hmap ops [] (List.append_nil _).symm
  refine ⟨hfresh, (hstart.missed _ _).mpr ⟨rfl, by decide, by decide⟩,
    (hend.found _ _).mpr ⟨.inr (by decide), rfl⟩, (hend.found _ _).mpr ⟨.inl ?_, rfl⟩⟩
  exact ⟨[.draft "a" "o-1" "L1", .draft "ω" "o-2" "L2"], [], rfl, by decide⟩

end Relocation.MoveStore
