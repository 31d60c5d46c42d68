import Relocation.Proofs.PlanFailures

/-! What each leg of a summary is told from. The household goods leg reads the move and its first
shipment, the personally procured leg reads the move and the PPM, and neither reads what the other
does. -/

namespace Relocation

/-- The texts of the statuses of an active shipment. -/
def activeShipmentNames : List String :=
  ["SUBMITTED", "AWARDED", "ACCEPTED", "APPROVED", "IN_TRANSIT", "DELIVERED", "COMPLETED"]

/-- What counts of a PPM record; its id does not. -/
def PpmRecord.withoutId (r : PpmRecord) : Option String × Option Date := (r.status, r.plannedDate)

/-- The text of the first shipment's status, where there is a shipment with one. -/
def MoveRecord.firstShipmentText? (r : MoveRecord) : Option String :=
  r.shipments.head?.bind ShipmentRecord.status

/-- The first shipments of two records count alike: both are missing, or their statuses have equal
texts, or none of the two is active. -/
def AlikeFirstShipments (r r' : MoveRecord) : Prop :=
  r'.firstShipmentText? = r.firstShipmentText? ∨ ∀ text ∈ activeShipmentNames,
    r.firstShipmentText? ≠ some text ∧ r'.firstShipmentText? ≠ some text

theorem toOption_read_shipment (text : String) :
    (ShipmentStatus.read text).toOption = Named.ofName? text := by
  rw [ShipmentStatus.read, readStatus, ShipmentStatus.texts_eq, Named.lookup_nameTable]
  cases (Named.ofName? text : Option ShipmentStatus) <;> rfl

theorem name_mem_activeShipmentNames {status : ShipmentStatus} (h : status.isActive = true) :
    Named.name status ∈ activeShipmentNames := by
  revert h
  cases status <;> decide

theorem activeStatus_eq_none_of_not_mem {text : String} (h : text ∉ activeShipmentNames) :
    (Named.ofName? text : Option ShipmentStatus).filter ShipmentStatus.isActive = none := by
  refine Option.filter_eq_none_iff.mpr fun status hs hactive => h ?_
  exact Named.ofName?_eq_some_iff.mp hs ▸ name_mem_activeShipmentNames hactive

namespace Summary

variable {record record' : MoveRecord} {today today' : Date} {move : MoveStatus} {p p' : Plan}

/-- The plan for a record, once the statuses of the move and of the PPM that is shown are read. -/
def planFrom (record : MoveRecord) (move : MoveStatus) (ppm? : Option PpmStatus) (today : Date) :
    Plan where
  moveId := record.id
  locator := record.locator
  moveStatus := move
  moveType := record.moveType
  queueStatus := queueStatus move ppm?
  hhg := if showsHhg record.moveType then some (hhgLeg record move) else none
  ppm := ppm?.map fun ppm => ppmLeg record move ppm today
  editEnabled := move ≠ .draft

theorem plan_eq_ok_iff : plan record today = .ok p ↔ ∃ move ppm?,
    record.readStatus = .ok move ∧ shownPpmStatus record = .ok ppm? ∧
      planFrom record move ppm? today = p := by
  have hplan : plan record today = record.readStatus >>= fun move =>
      shownPpmStatus record >>= fun ppm? => .ok (planFrom record move ppm? today) := rfl
  simp only [hplan, except_bind_eq_ok_iff, Except.ok.injEq, exists_and_left]

/-- Of all shipments only the first one's text counts, and only where it is that of an active
status. -/
theorem activeStatus?_primaryShipment (record : MoveRecord) :
    record.primaryShipment?.bind ShipmentRecord.activeStatus? =
      (record.firstShipmentText?.bind Named.ofName?).filter ShipmentStatus.isActive := by
  unfold MoveRecord.firstShipmentText? MoveRecord.primaryShipment?
  cases record.shipments.head? with
  | none => rfl
  | some shipment => simp [ShipmentRecord.activeStatus?, toOption_read_shipment]

theorem activeStatus?_congr (h : AlikeFirstShipments record record') :
    record'.primaryShipment?.bind ShipmentRecord.activeStatus? =
      record.primaryShipment?.bind ShipmentRecord.activeStatus? := by
  rw [activeStatus?_primaryShipment, activeStatus?_primaryShipment]
  rcases h with h | h
  · rw [h]
  · have hnone : ∀ text? : Option String, (∀ text ∈ activeShipmentNames, text? ≠ some text) →
        (text?.bind (Named.ofName? (α := ShipmentStatus))).filter ShipmentStatus.isActive =
          none := by
      intro text? hno
      cases text? with
      | none => rfl
      | some text => exact activeStatus_eq_none_of_not_mem fun hm => hno text hm rfl
    rw [hnone _ fun text hm => (h text hm).1, hnone _ fun text hm => (h text hm).2]

theorem hhgLeg_congr (h : AlikeFirstShipments record record') :
    hhgLeg record' move = hhgLeg record move := by
  have hstatus : effectiveHhgStatus move record'.primaryShipment? =
      effectiveHhgStatus move record.primaryShipment? := by
    rw [effectiveHhgStatus, effectiveHhgStatus, activeStatus?_congr h]
  rw [hhgLeg, hhgLeg, hstatus]

section

variable (htype : record'.moveType = record.moveType)
  (hppm : record'.ppm.map PpmRecord.withoutId = record.ppm.map PpmRecord.withoutId)

include htype hppm

theorem shownPpmStatus_congr : shownPpmStatus record' = shownPpmStatus record := by
  have hread : ∀ r : MoveRecord, r.ppm.elim (.ok .draft) PpmRecord.readStatus =
      (r.ppm.map PpmRecord.withoutId).elim (.ok .draft) fun ppm =>
        ppm.1.elim (.ok .draft) PpmStatus.read := by
    intro r
    cases r.ppm <;> rfl
  rw [shownPpmStatus, shownPpmStatus, htype, hread, hread, hppm]

theorem ppmLeg_congr (ppm : PpmStatus) :
    ppmLeg record' move ppm today = ppmLeg record move ppm today := by
  have hunderWay : ∀ r : MoveRecord, r.ppm.any (·.isUnderWay today) =
      (r.ppm.map PpmRecord.withoutId).any fun ppm => ppm.2.all (· ≤ today) := by
    intro r
    cases r.ppm <;> rfl
  rw [ppmLeg, ppmLeg, htype, hunderWay, hunderWay, hppm]

end

theorem hhgLeg_of_canceled (record : MoveRecord) :
    hhgLeg record .canceled = ⟨"CANCELED", .canceledMove⟩ := rfl

/-- Of two records with one status and one type the household goods legs are equal where the first
shipments count alike, whatever else the records hold and on whatever days. The personally procured
legs and the status for the queue are equal on one day where the PPM records are but for their ids,
whatever the shipments are. A canceled move shows no shipment's status. -/
theorem legs_are_independent (hstatus : record'.status = record.status)
    (htype : record'.moveType = record.moveType) (hp : plan record today = .ok p)
    (hp' : plan record' today' = .ok p') :
    (AlikeFirstShipments record record' → p'.hhg = p.hhg) ∧
      (record'.ppm.map PpmRecord.withoutId = record.ppm.map PpmRecord.withoutId →
        today' = today → p'.ppm = p.ppm ∧ p'.queueStatus = p.queueStatus ∧
          p'.editEnabled = p.editEnabled) ∧
      ∀ leg, record.status = "CANCELED" → p.hhg = some leg → leg.view = .canceledMove := by
  obtain ⟨move, ppm?, hmove, hread, rfl⟩ := plan_eq_ok_iff.mp hp
  obtain ⟨move', ppm?', hmove', hread', rfl⟩ := plan_eq_ok_iff.mp hp'
  obtain rfl : move' = move := by
    rw [MoveRecord.readStatus, hstatus] at hmove'
    exact Except.ok.inj (hmove'.symm.trans hmove)
  refine ⟨fun halike => ?_, fun hppm hday => ?_, fun leg hcanceled hleg => ?_⟩
  · simp only [planFrom, htype, hhgLeg_congr halike]
  · subst hday
    obtain rfl : ppm?' = ppm? := by
      rw [shownPpmStatus_congr htype hppm] at hread'
      exact Except.ok.inj (hread'.symm.trans hread)
    simp only [planFrom, ppmLeg_congr htype hppm, and_self]
  · obtain rfl : move' = .canceled := by
      have hname : Named.name move' = record.status :=
        (readStatus_eq_ok_iff MoveStatus.texts_eq).mp hmove
      exact Named.eq_of_name_eq (hname.trans hcanceled)
    simp only [planFrom, hhgLeg_of_canceled] at hleg
    split at hleg
    · exact Option.some.inj hleg ▸ rfl
    · cases hleg

/-- A shipment that is a draft and one with an unknown status count alike, and once the move is
canceled none counts. -/
theorem legs_are_independent_of_unknown_shipment :
    let today : Date := ⟨2020, 1, 1, by decide, by decide, by decide⟩
    let record (status : String) : MoveRecord :=
      { id := "m", ordersId := "o", locator := none, status, moveType := some .hhgPpm
        ppm := some ⟨"p", some "PAYMENT_REQUESTED", none⟩, shipments := [⟨"s", some "DRAFT"⟩] }
    let record' : MoveRecord :=
      { record "APPROVED" with
        ppm := some ⟨"q", some "PAYMENT_REQUESTED", none⟩
        shipments := [⟨"t", some "LOST"⟩, ⟨"s", some "IN_TRANSIT"⟩] }
    (∃ p p', plan (record "APPROVED") today = .ok p ∧ plan record' today = .ok p' ∧
        p'.hhg = p.hhg ∧ p'.ppm = p.ppm ∧ p'.queueStatus = p.queueStatus) ∧
      ∃ p leg, plan (record "CANCELED") today = .ok p ∧ p.hhg = some leg ∧
        leg.view = .canceledMove := by
  intro today record record'
  obtain ⟨p, hp⟩ : ∃ p, plan (record "APPROVED") today = .ok p := ⟨_, rfl⟩
  obtain ⟨p', hp'⟩ : ∃ p, plan record' today = .ok p := ⟨_, rfl⟩
  obtain ⟨q, hq⟩ : ∃ p, plan (record "CANCELED") today = .ok p := ⟨_, rfl⟩
  have halike : AlikeFirstShipments (record "APPROVED") record' := .inr (by decide)
  have hstatus : record'.status = (record "APPROVED").status := rfl
  have htype : record'.moveType = (record "APPROVED").moveType := rfl
  obtain ⟨hhhg, hppm, -⟩ := legs_are_independent hstatus htype hp hp'
  obtain ⟨hleg, hqueue, -⟩ := hppm rfl rfl
  obtain ⟨-, -, hcanceled⟩ := legs_are_independent rfl rfl hq hq
  obtain ⟨leg, hshown⟩ : ∃ leg, q.hhg = some leg := by
    cases hq
    exact ⟨_, rfl⟩
  exact ⟨⟨p, p', hp, hp', hhhg halike, hleg, hqueue⟩,
    q, leg, hq, hshown, hcanceled leg rfl hshown⟩

end Summary

end Relocation
