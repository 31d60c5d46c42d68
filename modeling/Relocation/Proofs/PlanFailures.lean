import Relocation.Proofs.Outcomes
import Relocation.Summary.Plan

/-! Which records have a summary. Only the status of the move and that of a personally procured leg
that is shown have to be known; whatever else a record holds, its summary can be planned. -/

namespace Relocation

section

variable {α : Type} [Named α] {texts : List (String × α)} {kind : StatusKind} {s : String}
  {v : Violation}

theorem readStatus_eq_ok_iff (h : texts = Named.nameTable) {a : α} :
    readStatus kind texts s = .ok a ↔ Named.name a = s := by
  rw [readStatus, h, Named.lookup_nameTable, elim_eq_ok_iff, Named.ofName?_eq_some_iff]

theorem ofName?_eq_none_iff :
    Named.ofName? (α := α) s = none ↔ s ∉ (Named.all : List α).map Named.name := by
  simp [Named.ofName?, Named.written_eq_name]

theorem readStatus_eq_error_iff (h : texts = Named.nameTable) :
    readStatus kind texts s = .error v ↔
      s ∉ (Named.all : List α).map Named.name ∧ v = .unknownStatus kind s := by
  rw [readStatus, h, Named.lookup_nameTable, elim_eq_error_iff, ofName?_eq_none_iff, and_comm]

end

namespace Summary

def moveStatusNames : List String := ["DRAFT", "SUBMITTED", "APPROVED", "COMPLETED", "CANCELED"]

def ppmStatusNames : List String :=
  ["DRAFT", "SUBMITTED", "APPROVED", "PAYMENT_REQUESTED", "COMPLETED", "CANCELED"]

/-- The summary of the record shows a personally procured leg. -/
def HasPpmLeg (record : MoveRecord) : Prop :=
  record.moveType = some .ppm ∨ record.moveType = some .hhgPpm

/-- The status of the personally procured leg that is shown is given by this text. -/
def ShownPpmText (record : MoveRecord) (text : String) : Prop :=
  HasPpmLeg record ∧ ∃ ppm, record.ppm = some ppm ∧ ppm.status = some text

/-- What a plan shows of the record it was made for. -/
structure Plan.Shows (p : Plan) (record : MoveRecord) : Prop where
  hhg : p.hhg.isSome ↔ record.moveType ≠ some .ppm
  ppm : p.ppm.isSome ↔ HasPpmLeg record
  some_leg : p.hhg.isSome ∨ p.ppm.isSome
  payment : p.queueStatus = "PAYMENT_REQUESTED" ↔ ShownPpmText record "PAYMENT_REQUESTED"
  no_payment : ¬ ShownPpmText record "PAYMENT_REQUESTED" → p.queueStatus = record.status

variable {record : MoveRecord} {today : Date} {v : Violation} {p : Plan}

theorem showsPpm_eq_true_iff : showsPpm record.moveType = true ↔ HasPpmLeg record := by
  simp [showsPpm, HasPpmLeg]

theorem readStatus_move_eq_error_iff : record.readStatus = .error v ↔
    record.status ∉ moveStatusNames ∧ v = .unknownStatus .move record.status :=
  readStatus_eq_error_iff MoveStatus.texts_eq

theorem read_ppm_eq_error_iff {text : String} : PpmStatus.read text = .error v ↔
    text ∉ ppmStatusNames ∧ v = .unknownStatus .ppm text :=
  readStatus_eq_error_iff PpmStatus.texts_eq

/-- The leg is hidden, or is a draft for want of a status, or has its status read. -/
theorem shownPpmStatus_cases (record : MoveRecord) :
    (¬ HasPpmLeg record ∧ shownPpmStatus record = .ok none) ∨
      (HasPpmLeg record ∧ (∀ text, ¬ ShownPpmText record text) ∧
        shownPpmStatus record = .ok (some .draft)) ∨
      ∃ text, HasPpmLeg record ∧ (∀ text', ShownPpmText record text' ↔ text' = text) ∧
        shownPpmStatus record = some <$> PpmStatus.read text := by
  by_cases hleg : HasPpmLeg record
  · have hshows := showsPpm_eq_true_iff.mpr hleg
    cases hp : record.ppm with
    | none =>
      refine .inr (.inl ⟨hleg, ?_, ?_⟩)
      · simp [ShownPpmText, hp]
      · simp [shownPpmStatus, hshows, hp]
    | some ppm =>
      cases hs : ppm.status with
      | none =>
        refine .inr (.inl ⟨hleg, ?_, ?_⟩)
        · simp [ShownPpmText, hp, hs]
        · simp [shownPpmStatus, hshows, hp, PpmRecord.readStatus, hs]
      | some text =>
        refine .inr (.inr ⟨text, hleg, ?_, ?_⟩)
        · simp [ShownPpmText, hleg, hp, hs, eq_comm]
        · simp [shownPpmStatus, hshows, hp, PpmRecord.readStatus, hs]
  · have hshows : ¬ showsPpm record.moveType = true := mt showsPpm_eq_true_iff.mp hleg
    exact .inl ⟨hleg, by simp [shownPpmStatus, hshows]⟩

theorem shownPpmStatus_eq_error_iff : shownPpmStatus record = .error v ↔
    ∃ text, ShownPpmText record text ∧ text ∉ ppmStatusNames ∧ v = .unknownStatus .ppm text := by
  rcases shownPpmStatus_cases record with ⟨hleg, hs⟩ | ⟨-, hno, hs⟩ | ⟨text, -, htext, hs⟩
  · have hno : ∀ text, ¬ ShownPpmText record text := fun _ h => hleg h.1
    simp [hs, hno]
  · simp [hs, hno]
  · rw [hs, except_map_eq_error_iff, read_ppm_eq_error_iff]
    simp [htext]

theorem shownPpmStatus_eq_ok {ppm? : Option PpmStatus} (h : shownPpmStatus record = .ok ppm?) :
    (ppm?.isSome ↔ HasPpmLeg record) ∧
      (ppm? = some .paymentRequested ↔ ShownPpmText record "PAYMENT_REQUESTED") := by
  rcases shownPpmStatus_cases record with ⟨hleg, hs⟩ | ⟨hleg, hno, hs⟩ | ⟨text, hleg, htext, hs⟩
  · have hno : ¬ ShownPpmText record "PAYMENT_REQUESTED" := fun h => hleg h.1
    obtain rfl := Except.ok.inj (hs.symm.trans h)
    simp [hleg, hno]
  · obtain rfl := Except.ok.inj (hs.symm.trans h)
    simp [hleg, hno]
  · rw [hs] at h
    cases hread : PpmStatus.read text with
    | error v =>
      rw [hread] at h
      cases h
    | ok status =>
      rw [hread] at h
      obtain rfl := Except.ok.inj h
      have hname : Named.name status = text :=
        (readStatus_eq_ok_iff PpmStatus.texts_eq).mp hread
      have hpayment : status = .paymentRequested ↔ "PAYMENT_REQUESTED" = text := by
        rw [← hname]
        cases status <;> decide
      simp [hleg, htext, hpayment]

theorem exists_readStatus_move_eq_ok_iff :
    (∃ move, record.readStatus = .ok move) ↔ record.status ∈ moveStatusNames := by
  cases hs : record.readStatus with
  | ok move =>
    have hknown : record.status ∈ moveStatusNames := by
      by_contra hno
      cases hs.symm.trans (readStatus_move_eq_error_iff.mpr ⟨hno, rfl⟩)
    exact iff_of_true ⟨move, rfl⟩ hknown
  | error v =>
    have hno := (readStatus_move_eq_error_iff.mp hs).1
    exact iff_of_false nofun hno

/-- The move's status is read first, so it decides where both statuses are unknown. -/
theorem plan_eq_error_iff : plan record today = .error v ↔
    (record.status ∉ moveStatusNames ∧ v = .unknownStatus .move record.status) ∨
      (record.status ∈ moveStatusNames ∧ ∃ text, ShownPpmText record text ∧
        text ∉ ppmStatusNames ∧ v = .unknownStatus .ppm text) := by
  rw [plan, except_bind_eq_error_iff, readStatus_move_eq_error_iff]
  -- Once the move's status is read, only that of the leg that is shown can still be unknown.
  refine or_congr_right ?_
  rw [← exists_readStatus_move_eq_ok_iff, ← shownPpmStatus_eq_error_iff]
  constructor
  · rintro ⟨move, hmove, h⟩
    rcases except_bind_eq_error_iff.mp h with h | ⟨ppm?, -, h⟩
    · exact ⟨⟨move, hmove⟩, h⟩
    · cases h
  · rintro ⟨⟨move, hmove⟩, h⟩
    exact ⟨move, hmove, except_bind_eq_error_iff.mpr (.inl h)⟩

theorem exists_plan_eq_error_iff : (∃ v, plan record today = .error v) ↔
    record.status ∉ moveStatusNames ∨
      ∃ text, ShownPpmText record text ∧ text ∉ ppmStatusNames := by
  simp only [plan_eq_error_iff]
  constructor
  · rintro ⟨v, ⟨hmove, -⟩ | ⟨-, text, hshown, hno, -⟩⟩
    · exact .inl hmove
    · exact .inr ⟨text, hshown, hno⟩
  · rintro (hmove | ⟨text, hshown, hno⟩)
    · exact ⟨_, .inl ⟨hmove, rfl⟩⟩
    · by_cases hmove : record.status ∈ moveStatusNames
      · exact ⟨_, .inr ⟨hmove, text, hshown, hno, rfl⟩⟩
      · exact ⟨_, .inl ⟨hmove, rfl⟩⟩

theorem queueStatus_eq_payment_iff {move : MoveStatus} {ppm? : Option PpmStatus} :
    queueStatus move ppm? = "PAYMENT_REQUESTED" ↔ ppm? = some .paymentRequested := by
  by_cases h : ppm? = some .paymentRequested
  · simp [queueStatus, h]
    rfl
  · have hname : Named.name move ≠ "PAYMENT_REQUESTED" := by cases move <;> decide
    simp [queueStatus, h, hname]

theorem plan_shows (h : plan record today = .ok p) : p.Shows record := by
  obtain ⟨move, hmove, h⟩ := except_bind_eq_ok_iff.mp h
  obtain ⟨ppm?, hppm, h⟩ := except_bind_eq_ok_iff.mp h
  obtain rfl := Except.ok.inj h
  obtain ⟨hleg, hpayment⟩ := shownPpmStatus_eq_ok hppm
  have hhhg : ∀ leg : Leg, (if showsHhg record.moveType then some leg else none).isSome ↔
      record.moveType ≠ some .ppm := fun leg => by simp [showsHhg]
  have hname : Named.name move = record.status :=
    (readStatus_eq_ok_iff MoveStatus.texts_eq).mp hmove
  refine ⟨hhhg _, ?_, ?_, queueStatus_eq_payment_iff.trans hpayment, fun hno => ?_⟩
  · simpa using hleg
  · rw [hhhg, Option.isSome_map, hleg]
    by_cases htype : record.moveType = some .ppm
    · exact .inr (.inl htype)
    · exact .inl htype
  · have hother : ppm? ≠ some .paymentRequested := fun he => hno (hpayment.mp he)
    simp [queueStatus, hother, hname]

section

variable {records : List MoveRecord} {id : MoveId}

theorem planAll_eq_mapM (today : Date) (records : List MoveRecord) :
    planAll today records = records.mapM fun r => (plan r today).mapError (r.id, ·) := by
  induction records with
  | nil => rfl
  | cons record records ih => rw [planAll, ih, List.mapM_cons]

theorem exists_planAll_eq_ok_iff : (∃ plans, planAll today records = .ok plans) ↔
    ∀ record ∈ records, ∃ p, plan record today = .ok p := by
  simp only [planAll_eq_mapM, exists_mapM_eq_ok_iff, except_mapError_eq_ok_iff]

theorem planAll_eq_error_iff : planAll today records = .error (id, v) ↔
    ∃ before record after, records = before ++ record :: after ∧
      (∀ earlier ∈ before, ∃ p, plan earlier today = .ok p) ∧
        plan record today = .error v ∧ record.id = id := by
  have herror : ∀ record : MoveRecord,
      (plan record today).mapError (record.id, ·) = .error (id, v) ↔
        plan record today = .error v ∧ record.id = id := by
    intro record
    cases plan record today <;> simp [Except.mapError, and_comm]
  simp only [planAll_eq_mapM, mapM_eq_error_iff, except_mapError_eq_ok_iff, herror]

end

/-- A summary cannot be planned exactly if the status of the move is unknown, or that of a leg that
is shown and personally procured; the move's comes first. Records that agree in these and in the
type fail alike, whatever else they hold and on whatever days. A plan always has a leg. -/
theorem plan_fails_exactly_on_unknown_status (record : MoveRecord) (today : Date) :
    ((∃ v, plan record today = .error v) ↔ record.status ∉ moveStatusNames ∨
        ∃ text, ShownPpmText record text ∧ text ∉ ppmStatusNames) ∧
      (record.status ∉ moveStatusNames →
        plan record today = .error (.unknownStatus .move record.status)) ∧
      (∀ text, record.status ∈ moveStatusNames → ShownPpmText record text →
        text ∉ ppmStatusNames → plan record today = .error (.unknownStatus .ppm text)) ∧
      (∀ (record' : MoveRecord) (today' : Date), record'.status = record.status →
        (∀ text, ShownPpmText record' text ↔ ShownPpmText record text) →
        ∀ v, plan record' today' = .error v ↔ plan record today = .error v) ∧
      ∀ p, plan record today = .ok p → p.Shows record := by
  refine ⟨exists_plan_eq_error_iff, fun hmove => ?_, fun text hmove hshown hno => ?_,
    fun record' today' hstatus htext v => ?_, fun p => plan_shows⟩
  · exact plan_eq_error_iff.mpr (.inl ⟨hmove, rfl⟩)
  · exact plan_eq_error_iff.mpr (.inr ⟨hmove, text, hshown, hno, rfl⟩)
  · simp only [plan_eq_error_iff, hstatus, htext]

end Summary

end Relocation
