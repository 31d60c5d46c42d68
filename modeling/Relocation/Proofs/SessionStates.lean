import Relocation.Proofs.DictionaryLookup
import Relocation.Wizard.Sessions

/-! What the operations on sessions do to the states under all ids. -/

namespace Relocation.Wizard.Sessions

variable {s : Sessions} {now : Nat} {id k : SessionId} {state : State}

/-- A session is stored under the id, but was not touched for the idle time. -/
def IdleAt (s : Sessions) (now : Nat) (id : SessionId) : Prop :=
  ∃ session, s.entries.get? id = some session ∧ s.isIdle now session = true

/-- A session with this state is stored under the id and is not idle. -/
def LiveAt (s : Sessions) (now : Nat) (id : SessionId) (state : State) : Prop :=
  ∃ touchedAt, s.entries.get? id = some ⟨state, touchedAt⟩ ∧ now - touchedAt < s.idleTime

/-- The session under the id has this state, and was touched last at this time. -/
def HoldsAt (s : Sessions) (touchedAt : Nat) (id : SessionId) (state : State) : Prop :=
  s.entries.get? id = some ⟨state, touchedAt⟩

/-- What is under the id stays as it is, unless it was idle and is gone. -/
def KeepsAt (s : Sessions) (now : Nat) (s' : Sessions) (id : SessionId) : Prop :=
  s'.state? id = s.state? id ∨ (s'.state? id = none ∧ s.IdleAt now id)

/-- Every session keeps its state, but for idle ones that may be gone; none is new. -/
def Keeps (s : Sessions) (now : Nat) (s' : Sessions) : Prop := ∀ id, s.KeepsAt now s' id

theorem Keeps.refl (s : Sessions) (now : Nat) : s.Keeps now s := fun _ => .inl rfl

theorem KeepsAt.of_eq_some {s' : Sessions} (h : s.KeepsAt now s' id)
    (hs : s'.state? id = some state) : s.state? id = some state := by
  rcases h with he | ⟨he, -⟩
  · exact he ▸ hs
  · rw [he] at hs
    cases hs

@[simp] theorem get?_write (s : Sessions) (now : Nat) (id k : SessionId) (state : State) :
    (s.write now id state).entries.get? k =
      if k = id then some ⟨state, now⟩ else s.entries.get? k :=
  Dictionary.get?_insert ..

theorem state?_write (s : Sessions) (now : Nat) (id k : SessionId) (state : State) :
    (s.write now id state).state? k = if k = id then some state else s.state? k := by
  rw [state?, get?_write]
  split <;> rfl

theorem holdsAt_write (s : Sessions) (now : Nat) (id : SessionId) (state : State) :
    (s.write now id state).HoldsAt now id state := by
  simp [HoldsAt]

theorem keeps_prune (s : Sessions) (now : Nat) : s.Keeps now (s.prune now) := by
  intro id
  rw [KeepsAt, state?, prune, Dictionary.get?_filter]
  cases h : s.entries.get? id with
  | none => exact .inl (by simp [state?, h])
  | some session =>
    cases hi : s.isIdle now session with
    | true => exact .inr ⟨by simp [hi], session, h, hi⟩
    | false => exact .inl (by simp [state?, h, hi])

theorem isIdle_eq_false_iff {session : Session} :
    s.isIdle now session = false ↔ now - session.touchedAt < s.idleTime := by
  simp [isIdle]

theorem LiveAt.state? (h : s.LiveAt now id state) : s.state? id = some state := by
  obtain ⟨touchedAt, hg, -⟩ := h
  simp [Sessions.state?, hg]

theorem get_of_live (h : s.LiveAt now id state) :
    s.get now id = (some state, s.write now id state) := by
  obtain ⟨touchedAt, hg, ht⟩ := h
  have hi : s.isIdle now ⟨state, touchedAt⟩ = false := isIdle_eq_false_iff.mpr ht
  simp [Sessions.get, hg, hi]

theorem live_of_get (h : (s.get now id).1 = some state) : s.LiveAt now id state := by
  unfold Sessions.get at h
  split at h
  · cases h
  · next session hg =>
    split at h
    · cases h
    · next hi =>
      cases h
      exact ⟨session.touchedAt, hg, isIdle_eq_false_iff.mp (by simpa using hi)⟩

theorem live_write {later : Nat} (h : later - now < s.idleTime) :
    (s.write now id state).LiveAt later id state :=
  ⟨now, by simp, h⟩

/-- No session is live where all are idle at once. -/
theorem LiveAt.lt_idleTime {later : Nat} (h : s.LiveAt now id state)
    (ht : later - now < s.idleTime ∨ s.idleTime = 0) : later - now < s.idleTime := by
  obtain ⟨touchedAt, -, hidle⟩ := h
  omega

theorem get_of_idle (h : s.IdleAt now id) :
    s.get now id = (none, { s with entries := s.entries.erase id }) := by
  obtain ⟨session, hg, hi⟩ := h
  simp [Sessions.get, hg, hi]

theorem get_of_not_stored (h : s.entries.get? id = none) : s.get now id = (none, s) := by
  simp [Sessions.get, h]

theorem not_stored_of_get {s' : Sessions} (h : s.get now id = (none, s')) :
    s'.entries.get? id = none := by
  unfold Sessions.get at h
  split at h
  · next hg =>
    cases h
    exact hg
  · split at h
    · cases h
      simp
    · cases h

theorem keeps_write_of_live (h : s.LiveAt now id state) :
    s.Keeps now (s.write now id state) := by
  intro k
  rw [KeepsAt, state?_write]
  split
  · next he => exact .inl (he ▸ h.state?.symm)
  · exact .inl rfl

theorem keeps_get (s : Sessions) (now : Nat) (id : SessionId) : s.Keeps now (s.get now id).2 := by
  cases hs : (s.get now id).1 with
  | some state =>
    have hl := live_of_get hs
    rw [get_of_live hl]
    exact keeps_write_of_live hl
  | none =>
    unfold Sessions.get at hs ⊢
    split
    · exact .refl s now
    · next session hg =>
      split
      · next hi =>
        intro k
        rw [KeepsAt, state?, Dictionary.get?_erase]
        by_cases hk : k = id
        · exact .inr ⟨by simp [hk], session, hk ▸ hg, hi⟩
        · exact .inl (by simp [hk, state?])
      · next hi => simp [hg, hi] at hs

theorem contains_write (s : Sessions) (now : Nat) (id : SessionId) (state : State) :
    (s.write now id state).entries.contains id = true :=
  Dictionary.contains_eq_true_iff.mpr ⟨⟨state, now⟩, by simp⟩

theorem keepsAt_write {k : SessionId} (hk : k ≠ id) : s.KeepsAt now (s.write now id state) k :=
  .inl (by rw [state?_write, if_neg hk])

theorem create_cases (s : Sessions) (now : Nat) (id : SessionId) (state : State) :
    s.create now id state = (.ok id, (s.prune now).write now id state) ∨
      s.create now id state = (.error (.limitReached s.limit), s.prune now) := by
  by_cases h : s.limit ≤ (s.prune now).size
  · exact .inr (if_pos h)
  · exact .inl (if_neg h)

theorem replace_cases (s : Sessions) (now : Nat) (id : SessionId) (state : State) :
    s.replace now id state = (.ok (), s.write now id state) ∨
      s.replace now id state = (.error (.notFound id), s) := by
  unfold replace
  split
  · exact .inl rfl
  · exact .inr rfl

theorem remove_cases (s : Sessions) (id : SessionId) :
    s.remove id = (.ok (), { s with entries := s.entries.erase id }) ∨
      s.remove id = (.error (.notFound id), s) := by
  unfold remove
  split
  · exact .inl rfl
  · exact .inr rfl

theorem get?_get_of_ne (hk : k ≠ id) : (s.get now id).2.entries.get? k = s.entries.get? k := by
  unfold get
  split
  · rfl
  · split <;> simp [hk]

theorem get?_replace_of_ne (hk : k ≠ id) :
    (s.replace now id state).2.entries.get? k = s.entries.get? k := by
  rcases s.replace_cases now id state with hr | hr <;> simp [hr, hk]

theorem get?_remove_of_ne (hk : k ≠ id) : (s.remove id).2.entries.get? k = s.entries.get? k := by
  rcases s.remove_cases id with hr | hr <;> simp [hr, hk]

theorem state?_replace_of_ne (hk : k ≠ id) : (s.replace now id state).2.state? k = s.state? k :=
  congrArg (Option.map Session.state) (get?_replace_of_ne hk)

theorem state?_remove_of_ne (hk : k ≠ id) : (s.remove id).2.state? k = s.state? k :=
  congrArg (Option.map Session.state) (get?_remove_of_ne hk)

end Relocation.Wizard.Sessions
