import Relocation.Proofs.DateOrder
import Relocation.Proofs.PlanLegs

/-! What a summary shows as the days pass. Nothing of it depends on the day but whether an approved
PPM is in progress yet, and that changes once, on the planned date. -/

namespace Relocation.Summary

variable {record : MoveRecord} {t t₁ t₂ t₃ : Date} {p p₁ p₂ p₃ : Plan}

def Plan.ppmStatus? (p : Plan) : Option String := p.ppm.map Leg.status

def Plan.ppmView? (p : Plan) : Option View := p.ppm.map Leg.view

/-- The views of all legs that are shown. -/
def Plan.views (p : Plan) : List View := (p.hhg.toList ++ p.ppm.toList).map Leg.view

/-- The PPM is planned for a date after the first day and not after the second. -/
def StartsBetween (record : MoveRecord) (t₁ t₂ : Date) : Prop :=
  ∃ ppm planned, record.ppm = some ppm ∧ ppm.plannedDate = some planned ∧
    t₁ < planned ∧ planned ≤ t₂

/-- How the plan of a record on one day differs from its plan on another: in the view of an approved
PPM, if the PPM starts in between, and in nothing else. -/
structure Advances (record : MoveRecord) (t₁ t₂ : Date) (p₁ p₂ : Plan) : Prop where
  others : p₂ = { p₁ with ppm := p₂.ppm }
  status : p₂.ppmStatus? = p₁.ppmStatus?
  switches_iff : p₂.ppmView? ≠ p₁.ppmView? ↔
    p₁.ppmStatus? = some "APPROVED" ∧ StartsBetween record t₁ t₂
  forward : p₂.ppmView? ≠ p₁.ppmView? →
    p₁.ppmView? = some .ppmApproved ∧ p₂.ppmView? = some .ppmInProgress

/-- The PPM of the record, if there is one, is under way. -/
def underWay (record : MoveRecord) (t : Date) : Bool := record.ppm.any (·.isUnderWay t)

theorem underWay_eq_true_iff : underWay record t = true ↔
    ∃ ppm, record.ppm = some ppm ∧ ∀ planned, ppm.plannedDate = some planned → planned ≤ t := by
  simp [underWay, PpmRecord.isUnderWay, Option.any_eq_true, Option.all_eq_true]

theorem underWay_mono (h : t₁ ≤ t₂) (h₁ : underWay record t₁ = true) :
    underWay record t₂ = true := by
  obtain ⟨ppm, hppm, hday⟩ := underWay_eq_true_iff.mp h₁
  exact underWay_eq_true_iff.mpr
    ⟨ppm, hppm, fun planned hplanned => le_trans (hday planned hplanned) h⟩

theorem startsBetween_iff : StartsBetween record t₁ t₂ ↔
    underWay record t₁ = false ∧ underWay record t₂ = true := by
  unfold StartsBetween underWay
  cases record.ppm with
  | none => simp
  | some ppm => cases hplanned : ppm.plannedDate <;> simp [PpmRecord.isUnderWay, hplanned]

theorem ofPpm_ne_iff (status : PpmStatus) {early late : Bool} (h : early = true → late = true) :
    View.ofPpm status late ≠ View.ofPpm status early ↔
      status = .approved ∧ early = false ∧ late = true := by
  cases status <;> cases early <;> cases late <;> simp_all [View.ofPpm]

theorem name_eq_approved_iff {status : PpmStatus} :
    Named.name status = "APPROVED" ↔ status = .approved := by
  cases status <;> decide

section

variable (record : MoveRecord) (move : MoveStatus) (ppm? : Option PpmStatus)

theorem ppmStatus?_planFrom (t : Date) : (planFrom record move ppm? t).ppmStatus? =
    ppm?.map fun ppm => Named.name (effectivePpmStatus move ppm record.moveType) := by
  cases ppm? <;> rfl

theorem ppmView?_planFrom (t : Date) : (planFrom record move ppm? t).ppmView? =
    ppm?.map fun ppm =>
      View.ofPpm (effectivePpmStatus move ppm record.moveType) (underWay record t) := by
  cases ppm? <;> rfl

theorem advances_planFrom (h : t₁ ≤ t₂) :
    Advances record t₁ t₂ (planFrom record move ppm? t₁) (planFrom record move ppm? t₂) := by
  have hstatus := ppmStatus?_planFrom record move ppm?
  have hview := ppmView?_planFrom record move ppm?
  cases ppm? with
  | none => exact ⟨rfl, rfl, by simp [hstatus, hview], by simp [hview]⟩
  | some ppm =>
    have hmono : underWay record t₁ = true → underWay record t₂ = true := underWay_mono h
    have hne := ofPpm_ne_iff (effectivePpmStatus move ppm record.moveType) hmono
    refine ⟨rfl, by rw [hstatus, hstatus], ?_, fun hdiffers => ?_⟩
    · rw [startsBetween_iff, hstatus, hview, hview, Option.map_some, Option.map_some,
        Option.map_some, ne_eq, Option.some.injEq, Option.some.injEq, name_eq_approved_iff]
      exact hne
    · rw [hview, hview, Option.map_some, Option.map_some, ne_eq, Option.some.injEq] at hdiffers
      obtain ⟨happroved, hearly, hlate⟩ := hne.mp hdiffers
      simp [hview, happroved, hearly, hlate, View.ofPpm]

end

/-- Which plan a record has, and whether it has one, is the same on every day but for what
`planFrom` does with the day. -/
theorem exists_planFrom (h : plan record t = .ok p) : ∃ move ppm?,
    planFrom record move ppm? t = p ∧
      ∀ t', plan record t' = .ok (planFrom record move ppm? t') := by
  obtain ⟨move, ppm?, hmove, hread, hp⟩ := plan_eq_ok_iff.mp h
  exact ⟨move, ppm?, hp, fun t' => plan_eq_ok_iff.mpr ⟨move, ppm?, hmove, hread, rfl⟩⟩

theorem advances_of_le (h : t₁ ≤ t₂) (h₁ : plan record t₁ = .ok p₁)
    (h₂ : plan record t₂ = .ok p₂) : Advances record t₁ t₂ p₁ p₂ := by
  obtain ⟨move, ppm?, rfl, hplan⟩ := exists_planFrom h₁
  obtain rfl := Except.ok.inj ((hplan t₂).symm.trans h₂)
  exact advances_planFrom record move ppm? h

theorem plan_error_or_advances (record : MoveRecord) (h : t₁ ≤ t₂) :
    (∃ v, plan record t₁ = .error v ∧ plan record t₂ = .error v) ∨
      ∃ p₁ p₂, plan record t₁ = .ok p₁ ∧ plan record t₂ = .ok p₂ ∧
        Advances record t₁ t₂ p₁ p₂ := by
  cases h₁ : plan record t₁ with
  | error v => exact .inl ⟨v, rfl, plan_eq_error_iff.mpr (plan_eq_error_iff.mp h₁)⟩
  | ok p₁ =>
    obtain ⟨move, ppm?, rfl, hplan⟩ := exists_planFrom h₁
    exact .inr ⟨_, _, rfl, hplan t₂, advances_planFrom record move ppm? h⟩

theorem ppmInProgress_not_mem_views (hnone : record.ppm = none) (h : plan record t = .ok p) :
    View.ppmInProgress ∉ p.views := by
  obtain ⟨move, ppm?, rfl, -⟩ := exists_planFrom h
  have hhhg : ∀ status, View.ofHhg status ≠ .ppmInProgress := by
    intro status
    cases status with
    | canceled => decide
    | shipment status => cases status <;> decide
  have hppm : ∀ status, View.ofPpm status false ≠ .ppmInProgress := by
    intro status
    cases status <;> decide
  intro hm
  obtain ⟨leg, hleg, hview⟩ := List.mem_map.mp hm
  rcases List.mem_append.mp hleg with hleg | hleg
  · simp only [planFrom, Option.mem_toList, Option.ite_none_right_eq_some,
      Option.some.injEq] at hleg
    exact hhhg _ (hleg.2 ▸ hview)
  · simp only [planFrom, Option.mem_toList, Option.map_eq_some_iff] at hleg
    obtain ⟨ppm, -, rfl⟩ := hleg
    rw [ppmLeg, hnone] at hview
    exact hppm _ hview

/-- Between two days a summary fails alike, or its plan advances: an approved PPM gets in progress
if its planned date comes in between, and all else stays. So over three days the view changes at
most once. Where there is no PPM record, none is ever in progress. -/
theorem summary_moves_forward (record : MoveRecord) (h : t₁ ≤ t₂) :
    ((∃ v, plan record t₁ = .error v ∧ plan record t₂ = .error v) ∨
      ∃ p₁ p₂, plan record t₁ = .ok p₁ ∧ plan record t₂ = .ok p₂ ∧
        Advances record t₁ t₂ p₁ p₂) ∧
      (∀ t₃ p₁ p₂ p₃, t₂ ≤ t₃ → plan record t₁ = .ok p₁ → plan record t₂ = .ok p₂ →
        plan record t₃ = .ok p₃ → p₂.ppmView? ≠ p₁.ppmView? → p₃.ppmView? = p₂.ppmView?) ∧
      ∀ t p, record.ppm = none → plan record t = .ok p → View.ppmInProgress ∉ p.views := by
  refine ⟨plan_error_or_advances record h, fun t₃ p₁ p₂ p₃ h' h₁ h₂ h₃ hfirst => ?_,
    fun t p => ppmInProgress_not_mem_views⟩
  by_contra hsecond
  -- The second change would set out from the view that the first one has left.
  have hlate := ((advances_of_le h h₁ h₂).forward hfirst).2
  have hearly := ((advances_of_le h' h₂ h₃).forward hsecond).1
  cases hlate.symm.trans hearly

theorem summary_moves_forward_on_planned_date :
    let eve : Date := ⟨2018, 5, 31, by decide, by decide, by decide⟩
    let planned : Date := ⟨2018, 6, 1, by decide, by decide, by decide⟩
    let record : MoveRecord :=
      { id := "m", ordersId := "o", locator := none, status := "SUBMITTED"
        moveType := some .hhgPpm, ppm := some ⟨"p", some "APPROVED", some planned⟩
        shipments := [] }
    eve ≤ planned ∧ ∃ p₁ p₂, plan record eve = .ok p₁ ∧ plan record planned = .ok p₂ ∧
      Advances record eve planned p₁ p₂ ∧ p₁.ppmView? = some .ppmApproved ∧
      p₂.ppmView? = some .ppmInProgress := by
  intro eve planned record
  have hle : eve ≤ planned := by decide
  rcases (summary_moves_forward record hle).1 with ⟨v, hv, -⟩ | ⟨p₁, p₂, h₁, h₂, hadvances⟩
  · cases hv
  · have happroved : p₁.ppmStatus? = some "APPROVED" := by
      cases h₁
      rfl
    have hstarts : StartsBetween record eve planned :=
      ⟨_, planned, rfl, rfl, by decide, by decide⟩
    have hswitch := hadvances.forward (hadvances.switches_iff.mpr ⟨happroved, hstarts⟩)
    exact ⟨hle, p₁, p₂, h₁, h₂, hadvances, hswitch⟩

end Relocation.Summary
