import Relocation.Proofs.DictionaryKeys
import Relocation.Proofs.SessionLiveness

/-! Sessions after any operations, one after another. They are a bounded map from ids to the states
that were last written, and an id that was dropped once is never found again. -/

namespace Relocation.Wizard.Sessions

inductive Operation where
  | create (id : SessionId) (state : State)
  | get (id : SessionId)
  | lease (id : SessionId)
  | replace (id : SessionId) (state : State)
  | remove (id : SessionId)
  | size

inductive Answer where
  | created (result : Except SessionError SessionId)
  | found (state? : Option State)
  | leased (id? : Option SessionId)
  | replaced (result : Except SessionError Unit)
  | removed (result : Except SessionError Unit)
  | counted (size : Nat)

structure Event where
  operation : Operation
  answer : Answer

structure Step where
  now : Nat
  operation : Operation

namespace Event

/-- The id that a session was started under. -/
def created? (e : Event) : Option SessionId :=
  match e.answer with
  | .created (.ok id) => some id
  | _ => none

/-- The state that was written under an id. -/
def written? (e : Event) (id : SessionId) : Option State :=
  match e.operation, e.answer with
  | .create _ state, .created (.ok k) => if k = id then some state else none
  | .replace k state, .replaced (.ok ()) => if k = id then some state else none
  | _, _ => none

/-- The operation is about the session under the id, and finds it. -/
inductive Finds : Event → SessionId → Prop
  | get (id : SessionId) (state : State) : Finds ⟨.get id, .found (some state)⟩ id
  | lease (id k : SessionId) : Finds ⟨.lease id, .leased (some k)⟩ id
  | replace (id : SessionId) (state : State) : Finds ⟨.replace id state, .replaced (.ok ())⟩ id
  | remove (id : SessionId) : Finds ⟨.remove id, .removed (.ok ())⟩ id

end Event

def perform (s : Sessions) (now : Nat) : Operation → Answer × Sessions
  | .create id state => (s.create now id state).map .created (·)
  | .get id => (s.get now id).map .found (·)
  | .lease id => (.leased (s.lease id), s)
  | .replace id state => (s.replace now id state).map .replaced (·)
  | .remove id => (s.remove id).map .removed (·)
  | .size => (.counted s.size, s)

def after (s : Sessions) (step : Step) : Sessions := (s.perform step.now step.operation).2

def event (s : Sessions) (step : Step) : Event :=
  ⟨step.operation, (s.perform step.now step.operation).1⟩

def run (s : Sessions) (steps : List Step) : Sessions := steps.foldl after s

def history : Sessions → List Step → List Event
  | _, [] => []
  | s, step :: steps => s.event step :: history (s.after step) steps

def createdIds (events : List Event) : List SessionId := events.filterMap Event.created?

def lastWritten (events : List Event) (id : SessionId) : Option State :=
  events.reverse.findSome? (·.written? id)

def storedIds (s : Sessions) : Set SessionId := {id | (s.state? id).isSome}

def liveIds (s : Sessions) (now : Nat) : Set SessionId := {id | ∃ state, s.LiveAt now id state}

/-- Which operation drops a session: one that looks it up when it is idle, one that ends it, and
one that starts another session when it is idle. -/
inductive Drops (s : Sessions) (now : Nat) : Operation → SessionId → Prop
  | get {id : SessionId} (h : s.IdleAt now id) : Drops s now (.get id) id
  | remove {id : SessionId} (h : id ∈ s.storedIds) : Drops s now (.remove id) id
  | create {id : SessionId} (newId : SessionId) (state : State) (h : s.IdleAt now id) :
      Drops s now (.create newId state) id

/-- What is under the id is gone if it was idle, and is as it was otherwise. -/
def DropsIdleAt (s : Sessions) (now : Nat) (s' : Sessions) (id : SessionId) : Prop :=
  (s.IdleAt now id → s'.entries.get? id = none) ∧
    (¬ s.IdleAt now id → s'.entries.get? id = s.entries.get? id)

variable {s : Sessions} {now : Nat} {id k : SessionId} {state : State} {step : Step}

theorem run_append_singleton (s : Sessions) (steps : List Step) (step : Step) :
    s.run (steps ++ [step]) = (s.run steps).after step := by
  simp [run]

theorem history_append (s : Sessions) (steps later : List Step) :
    s.history (steps ++ later) = s.history steps ++ (s.run steps).history later := by
  induction steps generalizing s with
  | nil => rfl
  | cons step steps ih =>
    have hh := ih (s.after step)
    simp only [List.cons_append, history, hh]
    rfl

theorem lastWritten_append_singleton (events : List Event) (e : Event) (id : SessionId) :
    lastWritten (events ++ [e]) id = (e.written? id).or (lastWritten events id) := by
  cases h : e.written? id <;> simp [lastWritten, h]

theorem mem_createdIds_cons {e : Event} {events : List Event} :
    id ∈ createdIds (e :: events) ↔ e.created? = some id ∨ id ∈ createdIds events := by
  simp [createdIds, List.mem_filterMap]

/-! How many sessions there are -/

theorem mem_storedIds_iff : id ∈ s.storedIds ↔ (s.state? id).isSome := Iff.rfl

theorem mem_storedIds_iff_contains : id ∈ s.storedIds ↔ s.entries.contains id = true := by
  simp [mem_storedIds_iff, state?, Dictionary.contains]

theorem mem_storedIds_iff_live_or_idle :
    id ∈ s.storedIds ↔ (∃ state, s.LiveAt now id state) ∨ s.IdleAt now id :=
  mem_storedIds_iff_contains.trans contains_iff

theorem mem_storedIds_of_get?_eq {s' : Sessions} (h : s'.entries.get? id = s.entries.get? id)
    (hid : id ∈ s.storedIds) : id ∈ s'.storedIds := by
  rw [mem_storedIds_iff, state?, Option.isSome_map] at hid ⊢
  rwa [h]

theorem storedIds_eq (s : Sessions) : s.storedIds = {id | (s.entries.get? id).isSome} := by
  ext id
  simp [storedIds, state?]

theorem size_eq_ncard_storedIds (s : Sessions) : s.size = s.storedIds.ncard := by
  rw [storedIds_eq]
  exact s.entries.size_eq_ncard

theorem finite_storedIds (s : Sessions) : s.storedIds.Finite := by
  rw [storedIds_eq]
  exact s.entries.finite_setOf_isSome_get?

theorem size_le_of_subset {s' : Sessions} (h : s'.storedIds ⊆ s.storedIds) : s'.size ≤ s.size := by
  rw [size_eq_ncard_storedIds, size_eq_ncard_storedIds]
  exact Set.ncard_le_ncard h s.finite_storedIds

theorem dropsIdleAt_prune (s : Sessions) (now : Nat) (id : SessionId) :
    s.DropsIdleAt now (s.prune now) id := by
  have hget : (s.prune now).entries.get? id =
      (s.entries.get? id).filter fun session => !s.isIdle now session :=
    Dictionary.get?_filter ..
  constructor
  · rintro ⟨session, hs, hi⟩
    simp [hget, hs, hi, Option.filter]
  · intro hidle
    cases hs : s.entries.get? id with
    | none => simp [hget, hs]
    | some session =>
      have hi : s.isIdle now session = false := by
        rw [← Bool.not_eq_true]
        exact fun hi => hidle ⟨session, hs, hi⟩
      simp [hget, hs, hi, Option.filter]

theorem storedIds_prune (s : Sessions) (now : Nat) : (s.prune now).storedIds = s.liveIds now := by
  ext id
  obtain ⟨hgone, hkept⟩ := s.dropsIdleAt_prune now id
  constructor
  · intro hstored
    have hidle : ¬ s.IdleAt now id := by
      intro hidle
      rw [mem_storedIds_iff, state?, hgone hidle] at hstored
      cases hstored
    rw [mem_storedIds_iff, state?, hkept hidle] at hstored
    exact (mem_storedIds_iff_live_or_idle.mp hstored).resolve_right hidle
  · rintro ⟨state, hl⟩
    have hstored := mem_storedIds_iff_live_or_idle.mpr (.inl ⟨state, hl⟩)
    exact mem_storedIds_of_get?_eq (hkept hl.not_idleAt) hstored

theorem size_prune (s : Sessions) (now : Nat) : (s.prune now).size = (s.liveIds now).ncard := by
  rw [size_eq_ncard_storedIds, storedIds_prune]

theorem storedIds_write (s : Sessions) (now : Nat) (id : SessionId) (state : State) :
    (s.write now id state).storedIds = insert id s.storedIds := by
  ext k
  rw [mem_storedIds_iff, state?_write, Set.mem_insert_iff]
  by_cases hk : k = id
  · simp [hk]
  · simp [hk, storedIds]

theorem storedIds_erase (s : Sessions) (id : SessionId) :
    ({ s with entries := s.entries.erase id } : Sessions).storedIds = s.storedIds \ {id} := by
  ext k
  by_cases hk : k = id <;> simp [mem_storedIds_iff, state?, hk]

theorem not_mem_storedIds_erase (s : Sessions) (id : SessionId) :
    id ∉ ({ s with entries := s.entries.erase id } : Sessions).storedIds := by
  rw [storedIds_erase]
  exact fun hid => hid.2 rfl

theorem size_erase_add_one (h : id ∈ s.storedIds) :
    ({ s with entries := s.entries.erase id } : Sessions).size + 1 = s.size := by
  rw [size_eq_ncard_storedIds, size_eq_ncard_storedIds s, storedIds_erase]
  exact Set.ncard_sdiff_singleton_add_one h s.finite_storedIds

theorem size_write (h : id ∈ s.storedIds) (now : Nat) (state : State) :
    (s.write now id state).size = s.size := by
  rw [size_eq_ncard_storedIds, size_eq_ncard_storedIds s, storedIds_write,
    Set.insert_eq_of_mem h]

theorem IdleAt.mem_storedIds (h : s.IdleAt now id) : id ∈ s.storedIds :=
  mem_storedIds_iff_live_or_idle.mpr (.inr h)

/-! Finding a session or not -/

theorem replace_of_stored (h : id ∈ s.storedIds) (now : Nat) (state : State) :
    s.replace now id state = (.ok (), s.write now id state) :=
  if_pos (mem_storedIds_iff_contains.mp h)

theorem remove_of_stored (h : id ∈ s.storedIds) :
    s.remove id = (.ok (), { s with entries := s.entries.erase id }) :=
  if_pos (mem_storedIds_iff_contains.mp h)

theorem replace_of_not_stored (h : id ∉ s.storedIds) (now : Nat) (state : State) :
    s.replace now id state = (.error (.notFound id), s) :=
  if_neg (mt mem_storedIds_iff_contains.mpr h)

theorem remove_of_not_stored (h : id ∉ s.storedIds) : s.remove id = (.error (.notFound id), s) :=
  if_neg (mt mem_storedIds_iff_contains.mpr h)

theorem get?_eq_none_of_not_stored (h : id ∉ s.storedIds) : s.entries.get? id = none := by
  simpa [storedIds_eq] using h

theorem not_stored_after_remove (h : id ∈ s.storedIds) : id ∉ (s.remove id).2.storedIds := by
  rw [remove_of_stored h]
  exact s.not_mem_storedIds_erase id

/-- Looking a session up drops it where it is idle. -/
theorem not_stored_after_get_iff :
    id ∈ s.storedIds ∧ id ∉ (s.get now id).2.storedIds ↔ s.IdleAt now id := by
  constructor
  · rintro ⟨hstored, hdropped⟩
    refine (mem_storedIds_iff_live_or_idle.mp hstored).resolve_left fun ⟨state, hl⟩ => ?_
    rw [get_of_live hl, storedIds_write] at hdropped
    exact hdropped (.inl rfl)
  · intro hidle
    refine ⟨hidle.mem_storedIds, ?_⟩
    rw [get_of_idle hidle]
    exact s.not_mem_storedIds_erase id

theorem create_of_full (h : s.limit ≤ (s.liveIds now).ncard) (id : SessionId) (state : State) :
    s.create now id state = (.error (.limitReached s.limit), s.prune now) := by
  have hsize : (s.prune now).limit ≤ (s.prune now).size := s.size_prune now ▸ h
  exact if_pos hsize

theorem create_of_room (h : (s.liveIds now).ncard < s.limit) (id : SessionId) (state : State) :
    s.create now id state = (.ok id, (s.prune now).write now id state) := by
  have hsize : (s.prune now).size < (s.prune now).limit := s.size_prune now ▸ h
  exact if_neg (Nat.not_le.mpr hsize)

theorem size_write_prune_le (s : Sessions) (now : Nat) (id : SessionId) (state : State) :
    ((s.prune now).write now id state).size ≤ (s.liveIds now).ncard + 1 := by
  rw [size_eq_ncard_storedIds, storedIds_write, storedIds_prune]
  exact Set.ncard_insert_le ..

theorem size_write_prune_of_fresh (h : s.state? id = none) :
    ((s.prune now).write now id state).size = (s.liveIds now).ncard + 1 := by
  have hfinite : (s.liveIds now).Finite := s.storedIds_prune now ▸ finite_storedIds _
  have hid : id ∉ s.liveIds now := by
    rintro ⟨state, hl⟩
    rw [hl.state?] at h
    cases h
  rw [size_eq_ncard_storedIds, storedIds_write, storedIds_prune,
    Set.ncard_insert_of_notMem hid hfinite]

/-! What one step does -/

theorem after_create_of_full (h : s.limit ≤ (s.liveIds now).ncard) (id : SessionId)
    (state : State) : s.after ⟨now, .create id state⟩ = s.prune now := by
  rw [after, perform, create_of_full h]
  rfl

theorem after_create_of_room (h : (s.liveIds now).ncard < s.limit) (id : SessionId)
    (state : State) :
    s.after ⟨now, .create id state⟩ = (s.prune now).write now id state := by
  rw [after, perform, create_of_room h]
  rfl

theorem after_replace_of_stored (h : id ∈ s.storedIds) (now : Nat) (state : State) :
    s.after ⟨now, .replace id state⟩ = s.write now id state := by
  rw [after, perform, replace_of_stored h]
  rfl

theorem after_replace_of_not_stored (h : id ∉ s.storedIds) (now : Nat) (state : State) :
    s.after ⟨now, .replace id state⟩ = s := by
  rw [after, perform, replace_of_not_stored h]
  rfl

/-- What a step does to the state under one id. -/
inductive Change (s : Sessions) (step : Step) (id : SessionId) : Prop
  | created (state : State) (hc : (s.event step).created? = some id)
      (hw : (s.event step).written? id = some state) (h : (s.after step).state? id = some state)
  | replaced (state : State) (hstored : id ∈ s.storedIds)
      (hw : (s.event step).written? id = some state) (h : (s.after step).state? id = some state)
  | kept (hw : (s.event step).written? id = none) (h : (s.after step).state? id = s.state? id)
  | dropped (hw : (s.event step).written? id = none) (h : (s.after step).state? id = none)

theorem KeepsAt.change (hw : (s.event step).written? id = none)
    (h : s.KeepsAt step.now (s.after step) id) : s.Change step id := by
  rcases h with h | ⟨h, -⟩
  · exact .kept hw h
  · exact .dropped hw h

theorem change_create (s : Sessions) (now : Nat) (id : SessionId) (state : State) (k : SessionId) :
    s.Change ⟨now, .create id state⟩ k := by
  have hprune := s.keeps_prune now k
  rcases Nat.lt_or_ge (s.liveIds now).ncard s.limit with hroom | hfull
  · have ha := after_create_of_room hroom id state
    have he : s.event ⟨now, .create id state⟩ = ⟨.create id state, .created (.ok id)⟩ := by
      simp [event, perform, create_of_room hroom]
    by_cases hk : k = id
    · subst hk
      exact .created state (by rw [he]; rfl) (by simp [he, Event.written?])
        (by rw [ha, state?_write, if_pos rfl])
    · have hw : (s.event ⟨now, .create id state⟩).written? k = none := by
        simp [he, Event.written?, Ne.symm hk]
      refine KeepsAt.change hw ?_
      rw [ha, KeepsAt, state?_write, if_neg hk]
      exact hprune
  · have hw : (s.event ⟨now, .create id state⟩).written? k = none := by
      simp [event, perform, create_of_full hfull, Event.written?]
    exact KeepsAt.change hw (after_create_of_full hfull id state ▸ hprune)

theorem change_replace (s : Sessions) (now : Nat) (id : SessionId) (state : State)
    (k : SessionId) : s.Change ⟨now, .replace id state⟩ k := by
  by_cases hstored : id ∈ s.storedIds
  · have ha := after_replace_of_stored hstored now state
    have he : s.event ⟨now, .replace id state⟩ = ⟨.replace id state, .replaced (.ok ())⟩ := by
      simp [event, perform, replace_of_stored hstored]
    by_cases hk : k = id
    · subst hk
      exact .replaced state hstored (by simp [he, Event.written?])
        (by rw [ha, state?_write, if_pos rfl])
    · exact .kept (by simp [he, Event.written?, Ne.symm hk])
        (by rw [ha, state?_write, if_neg hk])
  · have hw : (s.event ⟨now, .replace id state⟩).written? k = none := by
      simp [event, perform, replace_of_not_stored hstored, Event.written?]
    exact .kept hw (by rw [after_replace_of_not_stored hstored])

theorem change_remove (s : Sessions) (now : Nat) (id k : SessionId) :
    s.Change ⟨now, .remove id⟩ k := by
  have hw : (s.event ⟨now, .remove id⟩).written? k = none := by
    simp [event, perform, Event.written?]
  rcases s.remove_cases id with hr | hr
  · have ha : (s.after ⟨now, .remove id⟩).state? k = if k = id then none else s.state? k := by
      by_cases hk : k = id <;> simp [after, perform, hr, state?, hk]
    by_cases hk : k = id
    · exact .dropped hw (by rw [ha, if_pos hk])
    · exact .kept hw (by rw [ha, if_neg hk])
  · exact .kept hw (by simp [after, perform, hr])

theorem change (s : Sessions) (step : Step) (id : SessionId) : s.Change step id := by
  obtain ⟨now, operation⟩ := step
  cases operation with
  | create k state => exact s.change_create now k state id
  | get k =>
    have hw : (s.event ⟨now, .get k⟩).written? id = none := by simp [event, Event.written?]
    exact KeepsAt.change hw (s.keeps_get now k id)
  | lease k => exact .kept (by simp [event, Event.written?]) rfl
  | replace k state => exact s.change_replace now k state id
  | remove k => exact s.change_remove now k id
  | size => exact .kept (by simp [event, Event.written?]) rfl

theorem Change.mem_storedIds (h : s.Change step id) (hid : id ∈ (s.after step).storedIds) :
    (s.event step).created? = some id ∨ id ∈ s.storedIds := by
  cases h with
  | created state hc _ _ => exact .inl hc
  | replaced state hstored _ _ => exact .inr hstored
  | kept _ h =>
    rw [mem_storedIds_iff, h] at hid
    exact .inr hid
  | dropped _ h =>
    rw [mem_storedIds_iff, h] at hid
    cases hid

theorem Change.written (h : s.Change step id) (hs : (s.after step).state? id = some state) :
    (s.event step).written? id = some state ∨
      ((s.event step).written? id = none ∧ s.state? id = some state) := by
  cases h with
  | created state' _ hw h =>
    rw [h] at hs
    exact .inl (hw.trans hs)
  | replaced state' _ hw h =>
    rw [h] at hs
    exact .inl (hw.trans hs)
  | kept hw h => exact .inr ⟨hw, h.symm.trans hs⟩
  | dropped _ h =>
    rw [h] at hs
    cases hs

theorem mem_storedIds_of_finds (h : (s.event step).Finds id) : id ∈ s.storedIds := by
  rw [mem_storedIds_iff_contains]
  obtain ⟨now, operation⟩ := step
  generalize he : s.event ⟨now, operation⟩ = e at h
  cases h with
  | get _ state =>
    cases operation <;> simp [event, perform] at he
    obtain ⟨rfl, hg⟩ := he
    exact contains_iff.mpr (.inl ⟨state, live_of_get hg⟩)
  | lease _ k =>
    cases operation <;> simp [event, perform] at he
    obtain ⟨rfl, hl⟩ := he
    exact isSome_lease_iff.mp (Option.isSome_iff_exists.mpr ⟨k, hl⟩)
  | replace _ state =>
    cases operation <;> simp [event, perform] at he
    obtain ⟨⟨rfl, rfl⟩, hr⟩ := he
    exact replace_eq_ok_iff.mp hr
  | remove =>
    cases operation <;> simp [event, perform] at he
    obtain ⟨rfl, hr⟩ := he
    exact remove_eq_ok_iff.mp hr

theorem created?_eq_some_iff : (s.event step).created? = some id ↔
    ∃ state, step.operation = .create id state ∧ (s.liveIds step.now).ncard < s.limit := by
  obtain ⟨now, operation⟩ := step
  cases operation with
  | create k state =>
    rcases Nat.lt_or_ge (s.liveIds now).ncard s.limit with hroom | hfull
    · simp [event, perform, create_of_room hroom, Event.created?, hroom]
    · simp [event, perform, create_of_full hfull, Event.created?, Nat.not_lt.mpr hfull]
  | _ => simp [event, perform, Event.created?]

theorem limit_after (s : Sessions) (step : Step) : (s.after step).limit = s.limit := by
  obtain ⟨now, operation⟩ := step
  cases operation with
  | create id state =>
    rcases s.create_cases now id state with hc | hc <;> simp [after, perform, hc, write, prune]
  | get id =>
    unfold after perform get
    dsimp only [Prod.map]
    split
    · rfl
    · split <;> rfl
  | replace id state =>
    rcases s.replace_cases now id state with hr | hr <;> simp [after, perform, hr, write]
  | remove id => rcases s.remove_cases id with hr | hr <;> simp [after, perform, hr]
  | lease | size => rfl

theorem size_after_le (h : s.size ≤ s.limit) (step : Step) : (s.after step).size ≤ s.limit := by
  cases hc : (s.event step).created? with
  | none =>
    have hsubset : (s.after step).storedIds ⊆ s.storedIds := by
      intro id hid
      rcases (s.change step id).mem_storedIds hid with hnew | hid
      · cases hc.symm.trans hnew
      · exact hid
    exact (size_le_of_subset hsubset).trans h
  | some id =>
    obtain ⟨now, operation⟩ := step
    obtain ⟨state, rfl, hroom⟩ := created?_eq_some_iff.mp hc
    rw [after_create_of_room hroom]
    exact (s.size_write_prune_le now id state).trans hroom

theorem mem_storedIds_and_not_live_iff :
    id ∈ s.storedIds ∧ id ∉ s.liveIds now ↔ s.IdleAt now id := by
  have hstored : id ∈ s.storedIds ↔ id ∈ s.liveIds now ∨ s.IdleAt now id :=
    mem_storedIds_iff_live_or_idle
  rw [hstored]
  constructor
  · rintro ⟨hlive | hidle, hnot⟩
    · exact absurd hlive hnot
    · exact hidle
  · exact fun hidle => ⟨.inr hidle, fun ⟨_, hl⟩ => hl.not_idleAt hidle⟩

theorem drops_get_iff : s.Drops now (.get id) id ↔ s.IdleAt now id :=
  ⟨fun | .get h => h, .get⟩

theorem drops_create_iff (newId : SessionId) (state : State) :
    s.Drops now (.create newId state) id ↔ s.IdleAt now id :=
  ⟨fun | .create _ _ h => h, .create newId state⟩

/-- A step drops a session where the operation is one of those that do, and nowhere else. -/
theorem dropped_iff (hfresh : ∀ k, (s.event step).created? = some k → k ∉ s.storedIds) :
    id ∈ s.storedIds ∧ id ∉ (s.after step).storedIds ↔ s.Drops step.now step.operation id := by
  obtain ⟨now, operation⟩ := step
  cases operation with
  | create k state =>
    rw [drops_create_iff, ← mem_storedIds_and_not_live_iff]
    refine and_congr_right fun hstored => not_congr ?_
    rcases Nat.lt_or_ge (s.liveIds now).ncard s.limit with hroom | hfull
    · have hk : id ≠ k := by
        rintro rfl
        exact hfresh id (created?_eq_some_iff.mpr ⟨state, rfl, hroom⟩) hstored
      rw [after_create_of_room hroom, storedIds_write, storedIds_prune, Set.mem_insert_iff,
        or_iff_right hk]
    · rw [after_create_of_full hfull, storedIds_prune]
  | get k =>
    by_cases hk : id = k
    · subst hk
      rw [drops_get_iff]
      exact not_stored_after_get_iff
    · refine iff_of_false (fun h => h.2 ?_) fun | .get _ => hk rfl
      exact mem_storedIds_of_get?_eq (get?_get_of_ne hk) h.1
  | remove k =>
    by_cases hk : id = k
    · subst hk
      refine ⟨fun h => .remove h.1, fun | .remove hstored => ⟨hstored, ?_⟩⟩
      exact not_stored_after_remove hstored
    · refine iff_of_false (fun h => h.2 ?_) fun | .remove _ => hk rfl
      exact mem_storedIds_of_get?_eq (get?_remove_of_ne hk) h.1
  | replace k state =>
    refine iff_of_false (fun h => h.2 ?_) nofun
    by_cases hk : k ∈ s.storedIds
    · rw [after_replace_of_stored hk, storedIds_write]
      exact .inr h.1
    · rw [after_replace_of_not_stored hk]
      exact h.1
  | lease k | size => exact iff_of_false (fun h => h.2 h.1) nofun

/-! What a run leaves -/

section

variable {limit idleTime : Nat} {steps : List Step}

theorem limit_run (s : Sessions) (steps : List Step) : (s.run steps).limit = s.limit := by
  induction steps generalizing s with
  | nil => rfl
  | cons step steps ih => exact (ih (s.after step)).trans (s.limit_after step)

theorem size_run_le (h : s.size ≤ s.limit) (steps : List Step) :
    (s.run steps).size ≤ s.limit := by
  induction steps generalizing s with
  | nil => exact h
  | cons step steps ih =>
    have hlimit := s.limit_after step
    have hsize := size_after_le h step
    have hh := ih (hlimit.symm ▸ hsize)
    rwa [hlimit] at hh

theorem lastWritten_of_stored (h : ((new limit idleTime).run steps).state? id = some state) :
    lastWritten ((new limit idleTime).history steps) id = some state := by
  -- The last step has written what is stored, or it was there before that step.
  induction steps using List.reverseRecOn generalizing state with
  | nil => cases h
  | append_singleton steps step ih =>
    rw [run_append_singleton] at h
    rw [history_append]
    have he : ((new limit idleTime).run steps).history [step] =
        [((new limit idleTime).run steps).event step] := rfl
    rw [he, lastWritten_append_singleton]
    rcases (change _ step id).written h with hw | ⟨hw, hs⟩
    · rw [hw]
      rfl
    · rw [hw, ih hs]
      rfl

theorem mem_createdIds_of_stored (h : id ∈ ((new limit idleTime).run steps).storedIds) :
    id ∈ createdIds ((new limit idleTime).history steps) := by
  induction steps using List.reverseRecOn with
  | nil => cases h
  | append_singleton steps step ih =>
    rw [run_append_singleton] at h
    rw [history_append, createdIds, List.filterMap_append, List.mem_append]
    rcases (change _ step id).mem_storedIds h with hnew | hstored
    · exact .inr (List.mem_filterMap.mpr ⟨_, List.mem_cons_self, hnew⟩)
    · exact .inl (ih hstored)

/-- An id that is not stored is found again only after it is given to a new session. -/
theorem not_found_of_not_stored (h : id ∉ s.storedIds)
    (hcreated : id ∉ createdIds (s.history steps)) :
    id ∉ (s.run steps).storedIds ∧ ∀ e ∈ s.history steps, ¬ e.Finds id := by
  induction steps generalizing s with
  | nil => exact ⟨h, fun e he => absurd he List.not_mem_nil⟩
  | cons step steps ih =>
    rw [history, mem_createdIds_cons, not_or] at hcreated
    obtain ⟨hnew, hlater⟩ := hcreated
    have hgone : id ∉ (s.after step).storedIds := fun hid =>
      ((s.change step id).mem_storedIds hid).elim hnew h
    obtain ⟨hrest, hfinds⟩ := ih hgone hlater
    refine ⟨hrest, fun e he => ?_⟩
    rcases List.mem_cons.mp he with rfl | he
    · exact fun hf => h (mem_storedIds_of_finds hf)
    · exact hfinds e he

end

/-- What holds of the sessions that a history has led to. -/
structure IsBoundedMap (limit : Nat) (events : List Event) (s : Sessions) : Prop where
  size_eq : s.size = s.storedIds.ncard
  size_le : s.size ≤ limit
  full : ∀ now id state, limit ≤ (s.liveIds now).ncard →
    (s.create now id state).1 = .error (.limitReached limit) ∧
      ∀ k, s.DropsIdleAt now (s.create now id state).2 k
  room : ∀ now id state, id ∉ createdIds events → (s.liveIds now).ncard < limit →
    (s.create now id state).1 = .ok id ∧ s.state? id = none ∧
      (s.create now id state).2.HoldsAt now id state ∧
      (s.create now id state).2.size = (s.liveIds now).ncard + 1 ∧
      ∀ k, k ≠ id → s.DropsIdleAt now (s.create now id state).2 k
  found : ∀ now id, id ∈ s.storedIds → ¬ s.IdleAt now id →
    ∃ state, lastWritten events id = some state ∧ (s.get now id).1 = some state ∧
      (s.get now id).2.HoldsAt now id state ∧ (s.get now id).2.size = s.size
  expired : ∀ now id, s.IdleAt now id →
    (s.get now id).1 = none ∧ id ∉ (s.get now id).2.storedIds ∧
      (s.get now id).2.size + 1 = s.size
  replaced : ∀ now id state, id ∈ s.storedIds →
    (s.replace now id state).1 = .ok () ∧ (s.replace now id state).2.HoldsAt now id state ∧
      (s.replace now id state).2.size = s.size
  removed : ∀ id, id ∈ s.storedIds →
    (s.remove id).1 = .ok () ∧ id ∉ (s.remove id).2.storedIds ∧ (s.remove id).2.size + 1 = s.size
  absent : ∀ now id state, id ∉ s.storedIds →
    s.get now id = (none, s) ∧ s.replace now id state = (.error (.notFound id), s) ∧
      s.remove id = (.error (.notFound id), s)
  others : ∀ now id state k, k ≠ id →
    (s.get now id).2.entries.get? k = s.entries.get? k ∧
      (s.replace now id state).2.entries.get? k = s.entries.get? k ∧
      (s.remove id).2.entries.get? k = s.entries.get? k

theorem isBoundedMap_run (limit idleTime : Nat) (steps : List Step) :
    IsBoundedMap limit ((new limit idleTime).history steps) ((new limit idleTime).run steps) where
  size_eq := size_eq_ncard_storedIds _
  size_le := by
    have hempty : (new limit idleTime).size ≤ (new limit idleTime).limit := Nat.zero_le limit
    exact size_run_le hempty steps
  full now id state h := by
    have hlimit : ((new limit idleTime).run steps).limit = limit := limit_run _ steps
    rw [create_of_full (hlimit.symm ▸ h), hlimit]
    exact ⟨rfl, dropsIdleAt_prune _ now⟩
  room now id state hfresh h := by
    have hlimit : ((new limit idleTime).run steps).limit = limit := limit_run _ steps
    have hnone : ((new limit idleTime).run steps).state? id = none :=
      Option.not_isSome_iff_eq_none.mp fun hid => hfresh (mem_createdIds_of_stored hid)
    rw [create_of_room (hlimit.symm ▸ h)]
    refine ⟨rfl, hnone, holdsAt_write .., size_write_prune_of_fresh hnone, fun k hk => ?_⟩
    rw [DropsIdleAt, get?_write, if_neg hk]
    exact dropsIdleAt_prune _ now k
  found now id hstored hidle := by
    obtain ⟨state, hl⟩ := (mem_storedIds_iff_live_or_idle.mp hstored).resolve_right hidle
    rw [get_of_live hl]
    exact ⟨state, lastWritten_of_stored hl.state?, rfl, holdsAt_write .., size_write hstored ..⟩
  expired now id hidle := by
    rw [get_of_idle hidle]
    exact ⟨rfl, not_mem_storedIds_erase _ id, size_erase_add_one hidle.mem_storedIds⟩
  replaced now id state hstored := by
    rw [replace_of_stored hstored]
    exact ⟨rfl, holdsAt_write .., size_write hstored ..⟩
  removed id hstored := by
    rw [remove_of_stored hstored]
    exact ⟨rfl, not_mem_storedIds_erase _ id, size_erase_add_one hstored⟩
  absent now id state h :=
    ⟨get_of_not_stored (get?_eq_none_of_not_stored h), replace_of_not_stored h ..,
      remove_of_not_stored h⟩
  others now id state k hk := ⟨get?_get_of_ne hk, get?_replace_of_ne hk, get?_remove_of_ne hk⟩

/-- Sessions that any operations have led to are a bounded map to the states that were last
written. If no two sessions were started under one id, a session is dropped only by looking it up
or starting another when it is idle, and by ending it, and all that follow miss it then. -/
theorem sessions_are_bounded_map (limit idleTime : Nat) (steps : List Step)
    (hfresh : (createdIds ((new limit idleTime).history steps)).Nodup) :
    IsBoundedMap limit ((new limit idleTime).history steps) ((new limit idleTime).run steps) ∧
      ∀ earlier step later id, steps = earlier ++ step :: later →
        let before := (new limit idleTime).run earlier
        let after := before.after step
        (id ∈ before.storedIds ∧ id ∉ after.storedIds ↔
            before.Drops step.now step.operation id) ∧
          (before.Drops step.now step.operation id →
            id ∉ (after.run later).storedIds ∧ ∀ e ∈ after.history later, ¬ e.Finds id) := by
  refine ⟨isBoundedMap_run limit idleTime steps, ?_⟩
  rintro earlier step later id rfl before after
  have hhistory : (new limit idleTime).history (earlier ++ step :: later) =
      (new limit idleTime).history earlier ++ before.event step :: after.history later :=
    history_append _ earlier (step :: later)
  rw [hhistory, createdIds, List.filterMap_append, List.nodup_append] at hfresh
  obtain ⟨-, -, hdisjoint⟩ := hfresh
  have hold : ∀ k, k ∈ before.storedIds →
      k ∉ createdIds (before.event step :: after.history later) := fun k hk hm =>
    hdisjoint k (mem_createdIds_of_stored hk) k hm rfl
  have hdrops : id ∈ before.storedIds ∧ id ∉ after.storedIds ↔
      before.Drops step.now step.operation id :=
    dropped_iff fun k hk hstored => hold k hstored (mem_createdIds_cons.mpr (.inl hk))
  refine ⟨hdrops, fun hd => ?_⟩
  obtain ⟨hstored, hdropped⟩ := hdrops.mpr hd
  exact not_found_of_not_stored hdropped fun hm =>
    hold id hstored (mem_createdIds_cons.mpr (.inr hm))

theorem sessions_are_bounded_map_of_expired :
    let earlier : List Step := [⟨0, .create "a" {}⟩, ⟨3, .replace "a" { hasMove := true }⟩,
      ⟨4, .create "b" {}⟩]
    let expiry : Step := ⟨9, .get "a"⟩
    let later : List Step := [⟨9, .create "b" {}⟩, ⟨10, .remove "a"⟩]
    let after := ((new 1 5).run earlier).after expiry
    IsBoundedMap 1 ((new 1 5).history (earlier ++ expiry :: later))
        ((new 1 5).run (earlier ++ expiry :: later)) ∧
      "a" ∉ (after.run later).storedIds ∧ ∀ e ∈ after.history later, ¬ e.Finds "a" := by
  intro earlier expiry later after
  have hfresh : (createdIds ((new 1 5).history (earlier ++ expiry :: later))).Nodup := by decide
  obtain ⟨hmap, hgone⟩ := sessions_are_bounded_map 1 5 (earlier ++ expiry :: later) hfresh
  have hstored : "a" ∈ ((new 1 5).run earlier).storedIds := mem_storedIds_iff.mpr (by decide)
  have hdropped : "a" ∉ after.storedIds := fun h => absurd (mem_storedIds_iff.mp h) (by decide)
  obtain ⟨hdrops, hmissed⟩ := hgone earlier expiry later "a" rfl
  exact ⟨hmap, hmissed (hdrops.mp ⟨hstored, hdropped⟩)⟩

end Relocation.Wizard.Sessions
