import Relocation.Move.Fixture
import Relocation.Proofs.DictionaryLookup

/-! Moves that are stored under their own ids, as they are when a store is made from records. Then
the store is told by its records, which are in the order of their ids; of those it was made from, it
has the last one with each id. -/

namespace Relocation.MoveStore

/-- Every record is stored under its own id. -/
def IsKeyed (store : MoveStore) : Prop :=
  ∀ id record, store.moves.get? id = some record → record.id = id

/-- No later record has the id of this one. -/
def IsLast (records : List MoveRecord) (record : MoveRecord) : Prop :=
  ∃ before after, records = before ++ record :: after ∧ ∀ later ∈ after, later.id ≠ record.id

/-- Every id once and in increasing order, with the last record that has it. -/
structure IsListing (records listing : List MoveRecord) : Prop where
  increases : listing.Pairwise fun a b => a.id < b.id
  isLast : ∀ record ∈ listing, IsLast records record
  covers : ∀ record ∈ records, ∃ listed ∈ listing, listed.id = record.id

/-- The file can be read, and these are the records in it. -/
def FixtureHas (files : Files) (path : String) (records : List MoveRecord) : Prop :=
  ∃ content, (files.look path).read = .ok content ∧
    Json.decode (Json.list MoveRecord.decoder) content = .ok records

variable {files : Files} {path : String} {store : MoveStore} {records : List MoveRecord}
  {record : MoveRecord} {id : MoveId}

theorem isKeyed_ofRecords (records : List MoveRecord) : (ofRecords records).IsKeyed := by
  intro id record h
  obtain ⟨stored, -, he⟩ := List.mem_map.mp (Dictionary.mem_of_get?_ofList h)
  obtain ⟨rfl, rfl⟩ := Prod.mk.inj he
  rfl

theorem ofFixture_eq_ok_iff : ofFixture files path = .ok store ↔
    ∃ records, FixtureHas files path records ∧ store = ofRecords records := by
  unfold ofFixture FixtureHas
  cases (files.look path).read with
  | error e => simp
  | ok content =>
    cases hd : Json.decode (Json.list MoveRecord.decoder) content with
    | error e => simp [hd]
    | ok records => simp [hd, eq_comm]

theorem isKeyed_of_ofFixture (h : ofFixture files path = .ok store) : store.IsKeyed := by
  obtain ⟨records, -, rfl⟩ := ofFixture_eq_ok_iff.mp h
  exact isKeyed_ofRecords records

theorem IsKeyed.mem_records_iff (h : store.IsKeyed) :
    record ∈ store.records ↔ store.moves.get? record.id = some record := by
  rw [records, Dictionary.values, List.mem_map]
  constructor
  · rintro ⟨⟨id, record⟩, hm, rfl⟩
    have hget := Dictionary.mem_entries_iff.mp hm
    rwa [h id record hget]
  · intro hget
    exact ⟨(record.id, record), Dictionary.mem_entries_iff.mpr hget, rfl⟩

theorem IsKeyed.get?_eq_some_iff (h : store.IsKeyed) :
    store.moves.get? id = some record ↔ record ∈ store.records ∧ record.id = id := by
  constructor
  · intro hget
    obtain rfl := h id record hget
    exact ⟨h.mem_records_iff.mpr hget, rfl⟩
  · rintro ⟨hm, rfl⟩
    exact h.mem_records_iff.mp hm

theorem IsKeyed.pairwise_records (h : store.IsKeyed) :
    store.records.Pairwise fun a b => a.id < b.id := by
  have hid : ∀ e ∈ store.moves.entries, e.2.id = e.1 := fun e he =>
    h e.1 e.2 (Dictionary.mem_entries_iff.mp he)
  refine List.pairwise_map.mpr (store.moves.sorted.imp_of_mem fun ha hb hlt => ?_)
  rwa [hid _ ha, hid _ hb]

/-- Fetching a move finds the only record with its id, or there is none. -/
theorem IsKeyed.fetch_cases (h : store.IsKeyed) (id : MoveId) :
    (∃ record ∈ store.records, record.id = id ∧ store.fetch id = .ok record) ∨
      (∀ record ∈ store.records, record.id ≠ id) ∧ store.fetch id = .error (.moveNotFound id) := by
  cases hget : store.moves.get? id with
  | some record =>
    obtain ⟨hm, hid⟩ := h.get?_eq_some_iff.mp hget
    exact .inl ⟨record, hm, hid, by simp [fetch, hget]⟩
  | none =>
    refine .inr ⟨fun record hm hid => ?_, by simp [fetch, hget]⟩
    have hsome := h.get?_eq_some_iff.mpr ⟨hm, hid⟩
    cases hget.symm.trans hsome

theorem IsKeyed.eq_of_id_eq (h : store.IsKeyed) {record' : MoveRecord} (hm : record ∈ store.records)
    (hm' : record' ∈ store.records) (hid : record.id = record'.id) : record = record' := by
  have hget := h.get?_eq_some_iff.mpr ⟨hm, hid⟩
  exact Option.some.inj (hget.symm.trans (h.mem_records_iff.mp hm'))

/-! ### The records that a store was made from -/

theorem get?_ofRecords (records : List MoveRecord) (id : MoveId) :
    (ofRecords records).moves.get? id = records.reverse.find? fun record => record.id = id := by
  rw [ofRecords, Dictionary.get?_ofList, ← List.map_reverse, List.find?_map, Option.map_map]
  simp [Function.comp_def]

theorem get?_ofRecords_eq_some_iff :
    (ofRecords records).moves.get? id = some record ↔ IsLast records record ∧ record.id = id := by
  rw [get?_ofRecords, List.find?_eq_some_iff_append, decide_eq_true_iff]
  constructor
  · rintro ⟨rfl, after, before, hreverse, hafter⟩
    have hrecords : records = before.reverse ++ record :: after.reverse := by
      rw [← List.reverse_reverse records, hreverse]
      simp
    exact ⟨⟨_, _, hrecords, by simpa using hafter⟩, rfl⟩
  · rintro ⟨⟨before, after, rfl, hafter⟩, rfl⟩
    exact ⟨rfl, after.reverse, before.reverse, by simp, by simpa using hafter⟩

theorem IsLast.mem (h : IsLast records record) : record ∈ records := by
  obtain ⟨before, after, rfl, -⟩ := h
  simp

theorem IsLast.eq_of_id_eq {record' : MoveRecord} (h : IsLast records record)
    (h' : IsLast records record') (hid : record.id = record'.id) : record = record' := by
  have hget := get?_ofRecords_eq_some_iff.mpr ⟨h, hid⟩
  exact Option.some.inj (hget.symm.trans (get?_ofRecords_eq_some_iff.mpr ⟨h', rfl⟩))

theorem IsListing.mem_iff {listing : List MoveRecord} (h : IsListing records listing) :
    record ∈ listing ↔ IsLast records record := by
  refine ⟨h.isLast record, fun hlast => ?_⟩
  obtain ⟨listed, hm, hid⟩ := h.covers record hlast.mem
  obtain rfl := (h.isLast listed hm).eq_of_id_eq hlast hid
  exact hm

theorem isListing_records (records : List MoveRecord) :
    IsListing records (ofRecords records).records := by
  have hkeyed := isKeyed_ofRecords records
  refine ⟨hkeyed.pairwise_records, fun record hm => ?_, fun record hm => ?_⟩
  · exact (get?_ofRecords_eq_some_iff.mp (hkeyed.mem_records_iff.mp hm)).1
  · obtain ⟨listed, hlisted⟩ := Dictionary.exists_get?_ofList
      (List.mem_map_of_mem (f := fun r : MoveRecord => (r.id, r)) hm)
    exact ⟨listed, hkeyed.get?_eq_some_iff.mp hlisted⟩

theorem get?_ofRecords_eq_none_iff :
    (ofRecords records).moves.get? id = none ↔ ∀ record ∈ records, record.id ≠ id := by
  rw [get?_ofRecords]
  simp

end Relocation.MoveStore
