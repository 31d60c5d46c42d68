import Relocation.Proofs.SessionStates

/-! Which sessions the operations find. Looking a session up is the only one of them that asks
whether it is idle, so the others still find an idle session that nobody has looked up since. -/

namespace Relocation.Wizard.Sessions

variable {s : Sessions} {now : Nat} {id : SessionId} {state : State}

/-- Asked of the same sessions, the four operations all find the session or all miss it. -/
def OperationsAgree (s : Sessions) (now : Nat) (id : SessionId) : Prop :=
  ((s.get now id).1.isSome ↔ (s.lease id).isSome) ∧
    ((s.get now id).1.isSome ↔ ∀ state, (s.replace now id state).1 = .ok ()) ∧
    ((s.get now id).1.isSome ↔ (s.remove id).1 = .ok ())

theorem isSome_get_iff : (s.get now id).1.isSome ↔ ∃ state, s.LiveAt now id state := by
  rw [Option.isSome_iff_exists]
  constructor
  · rintro ⟨state, h⟩
    exact ⟨state, live_of_get h⟩
  · rintro ⟨state, h⟩
    exact ⟨state, by rw [get_of_live h]⟩

theorem isSome_lease_iff : (s.lease id).isSome ↔ s.entries.contains id = true := by
  by_cases h : s.entries.contains id = true <;> simp [lease, h]

theorem replace_eq_ok_iff : (s.replace now id state).1 = .ok () ↔ s.entries.contains id = true := by
  by_cases h : s.entries.contains id = true <;> simp [replace, h]

theorem remove_eq_ok_iff : (s.remove id).1 = .ok () ↔ s.entries.contains id = true := by
  by_cases h : s.entries.contains id = true <;> simp [remove, h]

/-- A stored session is live or idle. -/
theorem contains_iff : s.entries.contains id = true ↔
    (∃ state, s.LiveAt now id state) ∨ s.IdleAt now id := by
  rw [Dictionary.contains_eq_true_iff]
  constructor
  · rintro ⟨session, h⟩
    by_cases hi : s.isIdle now session = true
    · exact .inr ⟨session, h, hi⟩
    · have ht := isIdle_eq_false_iff.mp (Bool.eq_false_iff.mpr hi)
      exact .inl ⟨session.state, session.touchedAt, h, ht⟩
  · rintro (⟨state, touchedAt, h, -⟩ | ⟨session, h, -⟩)
    · exact ⟨_, h⟩
    · exact ⟨_, h⟩

theorem LiveAt.not_idleAt (h : s.LiveAt now id state) : ¬ s.IdleAt now id := by
  rintro ⟨session, hs, hi⟩
  obtain ⟨touchedAt, hg, ht⟩ := h
  obtain rfl : ⟨state, touchedAt⟩ = session := Option.some.inj (hg.symm.trans hs)
  rw [isIdle_eq_false_iff.mpr ht] at hi
  cases hi

theorem get_of_idleAt (h : s.IdleAt now id) : (s.get now id).1 = none := by
  rw [get_of_idle h]

/-- A session that was replaced is live again, even if it was idle before. -/
theorem get_replace (h : s.entries.contains id = true) (ht : 0 < s.idleTime) :
    ((s.replace now id state).2.get now id).1 = some state := by
  have hl : (s.write now id state).LiveAt now id state := live_write (by omega)
  rw [replace, if_pos h, get_of_live hl]

theorem operationsAgree_iff_not_idleAt : s.OperationsAgree now id ↔ ¬ s.IdleAt now id := by
  have hstored := @contains_iff s now id
  simp only [OperationsAgree, isSome_get_iff, isSome_lease_iff, replace_eq_ok_iff,
    remove_eq_ok_iff, forall_const, and_self]
  constructor
  · rintro hagree hidle
    obtain ⟨state, hl⟩ := hagree.mpr (hstored.mpr (.inr hidle))
    exact hl.not_idleAt hidle
  · intro hidle
    rw [hstored, or_iff_left hidle]

/-- Whatever led to the sessions, the operations agree about one of them exactly if it is not idle.
An idle one is missed by the look-up alone: it can still be replaced, which revives it, and
ended. -/
theorem operations_agree_unless_idle (s : Sessions) (now : Nat) (id : SessionId) :
    (s.OperationsAgree now id ↔ ¬ s.IdleAt now id) ∧
      (s.IdleAt now id → (s.get now id).1 = none ∧ (s.lease id).isSome ∧
        (∀ state, (s.replace now id state).1 = .ok () ∧
          (0 < s.idleTime → ((s.replace now id state).2.get now id).1 = some state)) ∧
        (s.remove id).1 = .ok ()) := by
  refine ⟨operationsAgree_iff_not_idleAt, fun hidle => ?_⟩
  have hstored : s.entries.contains id = true := contains_iff.mpr (.inr hidle)
  exact ⟨get_of_idleAt hidle, isSome_lease_iff.mpr hstored,
    fun state => ⟨replace_eq_ok_iff.mpr hstored, get_replace hstored⟩, remove_eq_ok_iff.mpr hstored⟩

/-- With an idle time of zero, a session that was just started is missed by the look-up, but can be
replaced and ended. -/
theorem operations_disagree_on_idle_session :
    let s := ((new 4 0).create 0 "s" {}).2
    (s.get 0 "s").1 = none ∧ (s.lease "s").isSome ∧ (s.replace 0 "s" {}).1 = .ok () ∧
      (s.remove "s").1 = .ok () ∧ ¬ s.OperationsAgree 0 "s" := by
  intro s
  have hget : (s.get 0 "s").1 = none := by decide
  have hlease : (s.lease "s").isSome = true := by decide
  refine ⟨hget, hlease, by decide, by decide, fun hagree => ?_⟩
  have hsome := hagree.1.mpr hlease
  rw [hget] at hsome
  cases hsome

end Relocation.Wizard.Sessions
