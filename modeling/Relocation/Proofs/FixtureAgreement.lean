import Mathlib.Tactic.TFAE
import Relocation.Command.Doctor
import Relocation.Command.Summaries
import Relocation.Proofs.SummaryRequests

/-! The moves of a fixture file are judged in four places: by the check of the fixtures, by the
command that prints all summaries, by the one that prints a single summary, and by the application
that was started with the file. All four come to the same result. -/

namespace Relocation

namespace Summary

/-- No summary can be planned for the record, and of those records it has the least id. -/
structure IsLeastFailure (today : Date) (records : List MoveRecord) (record : MoveRecord)
    (v : Violation) : Prop where
  mem : record ∈ records
  fails : plan record today = .error v
  le_id : ∀ other ∈ records, (∃ v', plan other today = .error v') → record.id ≤ other.id

theorem exists_isLeastFailure {today : Date} {store : MoveStore} {id : MoveId} {v : Violation}
    (hkeyed : store.IsKeyed) (h : planAll today store.records = .error (id, v)) :
    ∃ record, record.id = id ∧ IsLeastFailure today store.records record v := by
  obtain ⟨before, record, after, hrecords, hbefore, hv, hid⟩ := planAll_eq_error_iff.mp h
  have hsorted := hkeyed.pairwise_records
  rw [hrecords] at hsorted
  refine ⟨record, hid, ⟨by simp [hrecords], hv, fun other hm hother => ?_⟩⟩
  rw [hrecords] at hm
  -- What was planned before the failure is no failure, and what comes after has a greater id.
  rcases List.mem_append.mp hm with hm | hm
  · obtain ⟨p, hp⟩ := hbefore other hm
    obtain ⟨v', hv'⟩ := hother
    cases hp.symm.trans hv'
  · rcases List.mem_cons.mp hm with rfl | hm
    · exact Std.le_refl _
    · have hafter := (List.pairwise_append.mp hsorted).2.1
      have hlt : record.id < other.id := List.rel_of_pairwise_cons hafter hm
      exact Std.le_of_lt hlt

end Summary

namespace Command

open Web

/-- What the readiness report says about the fixtures. -/
def movesCheck? (w : Surroundings) : Option Check :=
  (checks w).find? (·.name = "move_fixtures")

/-- The legs that a plan shows, with their labels. -/
def shownLegs (p : Summary.Plan) : List (String × Summary.Leg) :=
  [("hhg", p.hhg), ("ppm", p.ppm)].filterMap fun (label, leg?) => leg?.map (label, ·)

/-- The lines that a move has in a listing: its own, and one for each leg shown. -/
def block (p : Summary.Plan) : List String :=
  let locator := p.locator.getD "-"
  let status := Named.name p.moveStatus
  let moveType := p.moveType.elim "<unset>" MoveType.name
  let edit := if p.editEnabled then "enabled" else "disabled"
  (s!"- {p.moveId} [{locator}] status={status} type={moveType} " ++
      s!"edit_move={edit} queue={p.queueStatus}") ::
    (shownLegs p).map fun (label, leg) =>
      s!"    {label}: {leg.status} -> {Named.name leg.view} \"{leg.view.headline}\""

theorem planLines_eq_block (p : Summary.Plan) : planLines p = block p := by
  obtain ⟨moveId, locator, moveStatus, moveType, queueStatus, hhg, ppm, editEnabled⟩ := p
  cases hhg <;> cases ppm <;> rfl

/-- The answer that lists these plans. -/
def listed (path : String) (plans : List Summary.Plan) : Report where
  command := "summary"
  message := "\n".intercalate (s!"move summaries from `{path}`:" :: plans.flatMap block)

def unplanned (id : MoveId) (v : Violation) : Report where
  command := "summary"
  fault := some .unknownStatus
  message := s!"move `{id}`: {v.message}"

section

variable {w : Surroundings} {settings : Settings} {path : String} {store : MoveStore}

theorem exitCode_summary_eq_zero_iff {a : SummaryArguments} :
    (summary w a).exitCode = 0 ↔ ∃ lines, summaryLines w a = .ok lines := by
  unfold summary
  cases h : summaryLines w a with
  | ok lines => simp [Report.exitCode]
  | error e => cases e <;> simp [Report.exitCode, SummaryError.fault, Fault.exitCode]

variable (hload : Settings.load w.files w.environment {} = .ok settings)
  (hpath : settings.fixturesPath = some path)

include hload hpath

theorem movesCheck?_eq : movesCheck? w =
    some ⟨"move_fixtures", (fixtureFindings w path).1, (fixtureFindings w path).2⟩ := by
  have hfind : movesCheck? w = some (fixtureCheck w (Settings.load w.files w.environment {})) := by
    simp [movesCheck?, checks, settingsCheck, flowCheck, fixtureCheck]
  rw [hfind, hload]
  simp [fixtureCheck, hpath]

theorem fixturePath_eq (id? : Option MoveId) : fixturePath w { moveId := id? } = .ok path := by
  refine except_bind_eq_ok_iff.mpr ⟨settings, except_mapError_eq_ok_iff.mpr hload, ?_⟩
  rw [hpath]
  rfl

omit hload in
theorem fixtureMoves_eq : fixtureMoves w.files settings = MoveStore.ofFixture w.files path := by
  rw [fixtureMoves, hpath]
  rfl

theorem reports_of_ofFixture_eq_error (e : StoreError)
    (hf : MoveStore.ofFixture w.files path = .error e) :
    movesCheck? w = some ⟨"move_fixtures", .fail, e.message⟩ ∧
      (∀ id?, (summary w { moveId := id? }).exitCode = 4) ∧
      start w.files w.environment {} = .error (.fixtures e) := by
  refine ⟨?_, fun id? => ?_, ?_⟩
  · rw [movesCheck?_eq hload hpath, fixtureFindings, hf]
  · have hlines : summaryLines w { moveId := id? } = .error (.fixture e) := by
      rw [summaryLines, fixturePath_eq hload hpath, except_ok_bind, hf]
      rfl
    rw [summary, hlines]
    rfl
  · refine except_bind_eq_error_iff.mpr (.inr ⟨settings, ?_, ?_⟩)
    · exact except_mapError_eq_ok_iff.mpr hload
    · refine except_bind_eq_error_iff.mpr (.inl ?_)
      rw [fixtureMoves_eq hpath, hf]
      rfl

section

variable (hf : MoveStore.ofFixture w.files path = .ok store)

include hf

theorem exists_start_eq_of_ok : ∃ app log, start w.files w.environment {} = .ok (app, log) ∧
    app.flow = Wizard.standardFlow ∧ app.service = .store store := by
  have hmoves : fixtureMoves w.files settings = .ok store := (fixtureMoves_eq hpath).trans hf
  have hstart : start w.files w.environment {} =
      .ok (.assemble settings Wizard.standardFlow (.store store),
        startLog settings store Wizard.standardFlow) := by
    refine except_bind_eq_ok_iff.mpr ⟨settings, except_mapError_eq_ok_iff.mpr hload, ?_⟩
    exact except_bind_eq_ok_iff.mpr ⟨store, except_mapError_eq_ok_iff.mpr hmoves, rfl⟩
  exact ⟨_, _, hstart, rfl, rfl⟩

omit hload hpath in
theorem summaryLines_eq_of_ok {a : SummaryArguments} (ha : fixturePath w a = .ok path) :
    summaryLines w a = do
      let records ← chosenRecords store a.moveId
      let plans ← (Summary.planAll w.today records).mapError fun (id, v) => .unknownStatus id v
      return s!"move summaries from `{path}`:" :: plans.flatMap planLines := by
  rw [summaryLines, ha, except_ok_bind, hf]
  rfl

omit hload hpath in
theorem summary_eq_of_chosenRecords {a : SummaryArguments} {records : List MoveRecord}
    (ha : fixturePath w a = .ok path) (h : chosenRecords store a.moveId = .ok records) :
    summary w a = match Summary.planAll w.today records with
      | .ok plans => listed path plans
      | .error (id, v) => unplanned id v := by
  rw [summary, summaryLines_eq_of_ok hf ha, h, except_ok_bind, funext planLines_eq_block]
  cases Summary.planAll w.today records <;> rfl

theorem exitCode_summary_eq_zero_iff_plans {id? : Option MoveId} :
    (summary w { moveId := id? }).exitCode = 0 ↔ ∃ records, chosenRecords store id? = .ok records ∧
      ∀ record ∈ records, ∃ p, Summary.plan record w.today = .ok p := by
  rw [exitCode_summary_eq_zero_iff, summaryLines_eq_of_ok hf (fixturePath_eq hload hpath id?)]
  simp only [except_bind_eq_ok_iff, except_mapError_eq_ok_iff, ← Summary.exists_planAll_eq_ok_iff]
  constructor
  · rintro ⟨lines, records, hrecords, plans, hplans, -⟩
    exact ⟨records, hrecords, plans, hplans⟩
  · rintro ⟨records, hrecords, plans, hplans⟩
    exact ⟨_, records, hrecords, plans, hplans, rfl⟩

theorem exitCode_summary_all_iff : (summary w {}).exitCode = 0 ↔
    ∀ record ∈ store.records, ∃ p, Summary.plan record w.today = .ok p := by
  rw [exitCode_summary_eq_zero_iff_plans hload hpath hf]
  simp [chosenRecords]

theorem exitCode_summary_one_iff {record : MoveRecord} (hm : record ∈ store.records) :
    (summary w { moveId := some record.id }).exitCode = 0 ↔
      ∃ p, Summary.plan record w.today = .ok p := by
  have hkeyed := MoveStore.isKeyed_of_ofFixture hf
  have hfetch : store.fetch record.id = .ok record := by
    simp [MoveStore.fetch, hkeyed.mem_records_iff.mp hm]
  rw [exitCode_summary_eq_zero_iff_plans hload hpath hf]
  simp [chosenRecords, hfetch, Except.mapError, Except.map]

theorem movesCheck?_passes_iff : (∃ check, movesCheck? w = some check ∧ check.status = .pass) ↔
    ∀ record ∈ store.records, ∃ p, Summary.plan record w.today = .ok p := by
  rw [movesCheck?_eq hload hpath, ← Summary.exists_planAll_eq_ok_iff, fixtureFindings, hf]
  cases h : Summary.planAll w.today store.records with
  | ok plans => simp [h]
  | error e => simp [h]

theorem reports_of_planAll_eq_error {id : MoveId} {v : Violation}
    (h : Summary.planAll w.today store.records = .error (id, v)) :
    movesCheck? w =
        some ⟨"move_fixtures", .fail, s!"move `{id}` cannot be summarized: {v.message}"⟩ ∧
      summary w {} =
        { command := "summary", fault := some .unknownStatus
          message := s!"move `{id}`: {v.message}" } := by
  constructor
  · simp [movesCheck?_eq hload hpath, fixtureFindings, hf, h]
  · rw [summary_eq_of_chosenRecords hf (fixturePath_eq hload hpath none) rfl, h]
    rfl

omit hload hpath in
theorem answers_iff {app : App} (hflow : app.flow = Wizard.standardFlow)
    (hservice : app.service = .store store) :
    (∀ record ∈ store.records, ∀ call : Call, call.occasion.today = w.today →
        call.AsksSummary record.id → (app.turn call).response.status = 200) ↔
      ∀ record ∈ store.records, ∃ p, Summary.plan record w.today = .ok p := by
  have hkeyed := MoveStore.isKeyed_of_ofFixture hf
  constructor
  · intro h record hm
    -- The answers say something about each record only as each can be asked for.
    obtain ⟨call, ho, hasks⟩ :=
      exists_asksSummary { Occasion.zero "" "" with today := w.today } record.id
    have htoday : call.occasion.today = w.today := by rw [ho]
    have hstatus := h record hm call htoday hasks
    obtain ⟨record', hm', hid, hplan⟩ :=
      (App.status_turn_iff hflow hservice hkeyed hasks).1.mp hstatus
    obtain rfl := hkeyed.eq_of_id_eq hm' hm hid
    rwa [htoday] at hplan
  · intro h record hm call htoday hasks
    have hplan := h record hm
    rw [← htoday] at hplan
    exact (App.status_turn_iff hflow hservice hkeyed hasks).1.mpr ⟨record, hm, rfl, hplan⟩

end

end

/-- The check of the fixtures, the command that prints all summaries, the one that prints a single
summary and the started application agree on a fixture file: none of them loads it, or all find
that every record has a summary, or all find that some have none. -/
theorem doctor_summary_and_server_agree {w : Surroundings} {settings : Settings} {path : String}
    (hload : Settings.load w.files w.environment {} = .ok settings)
    (hpath : settings.fixturesPath = some path) :
    (∀ e, MoveStore.ofFixture w.files path = .error e →
      movesCheck? w = some ⟨"move_fixtures", .fail, e.message⟩ ∧
        (∀ id?, (summary w { moveId := id? }).exitCode = 4) ∧
        start w.files w.environment {} = .error (.fixtures e)) ∧
    ∀ store, MoveStore.ofFixture w.files path = .ok store →
      ∃ app log, start w.files w.environment {} = .ok (app, log) ∧
        [∃ check, movesCheck? w = some check ∧ check.status = .pass,
          (summary w {}).exitCode = 0,
          ∀ record ∈ store.records, (summary w { moveId := some record.id }).exitCode = 0,
          ∀ record ∈ store.records, ∀ call : Call, call.occasion.today = w.today →
            call.AsksSummary record.id → (app.turn call).response.status = 200].TFAE ∧
        ((summary w {}).exitCode ≠ 0 →
          ∃ record v, Summary.IsLeastFailure w.today store.records record v ∧
            movesCheck? w = some ⟨"move_fixtures", .fail,
              s!"move `{record.id}` cannot be summarized: {v.message}"⟩ ∧
            summary w {} =
              { command := "summary", fault := some .unknownStatus
                message := s!"move `{record.id}`: {v.message}" }) ∧
        ∀ (call : Call) (id : MoveId), call.occasion.today = w.today → call.AsksSummary id →
          ((app.turn call).response.status = 500 ↔ ∃ record ∈ store.records, record.id = id ∧
            ∃ v, Summary.plan record w.today = .error v) ∧
          ((app.turn call).response.status = 404 ↔ ∀ record ∈ store.records, record.id ≠ id) := by
  refine ⟨reports_of_ofFixture_eq_error hload hpath, fun store hf => ?_⟩
  obtain ⟨app, log, hstart, hflow, hservice⟩ := exists_start_eq_of_ok hload hpath hf
  have hkeyed := MoveStore.isKeyed_of_ofFixture hf
  refine ⟨app, log, hstart, ?_, fun hexit => ?_, fun call id htoday hasks => ?_⟩
  · have hall := exitCode_summary_all_iff hload hpath hf
    have hone : (∀ record ∈ store.records,
        (summary w { moveId := some record.id }).exitCode = 0) ↔
          ∀ record ∈ store.records, ∃ p, Summary.plan record w.today = .ok p :=
      forall₂_congr fun _ hm => exitCode_summary_one_iff hload hpath hf hm
    tfae_have 1 ↔ 2 := (movesCheck?_passes_iff hload hpath hf).trans hall.symm
    tfae_have 2 ↔ 3 := hall.trans hone.symm
    tfae_have 3 ↔ 4 := hone.trans (answers_iff hf hflow hservice).symm
    tfae_finish
  · cases hplans : Summary.planAll w.today store.records with
    | ok plans =>
      have hall := Summary.exists_planAll_eq_ok_iff.mp ⟨plans, hplans⟩
      exact absurd ((exitCode_summary_all_iff hload hpath hf).mpr hall) hexit
    | error e =>
      obtain ⟨record, hid, hleast⟩ := Summary.exists_isLeastFailure hkeyed hplans
      have hreports := reports_of_planAll_eq_error hload hpath hf hplans
      rw [← hid] at hreports
      exact ⟨record, e.2, hleast, hreports⟩
  · rw [← htoday]
    exact (App.status_turn_iff hflow hservice hkeyed hasks).2

/-- A fixture file with one move, in a status that no move has. -/
def lostMove : Surroundings where
  files := Tree.files
    [(["moves.json"], .text "[\x7b\"id\":\"m\",\"orders_id\":\"o\",\"status\":\"LOST\"\x7d]")]
  environment := ⟨.ofList [("MYMOVE_DATA_FIXTURES_PATH", "moves.json")]⟩
  today := (Occasion.zero "" "").today

theorem doctor_summary_and_server_agree_on_lostMove :
    Settings.load lostMove.files lostMove.environment {} =
        .ok { fixturesPath := some "moves.json" } ∧
      ∃ app log, start lostMove.files lostMove.environment {} = .ok (app, log) ∧
        ∀ call : Call, call.occasion.today = lostMove.today →
          (call.AsksSummary "m" → (app.turn call).response.status = 500) ∧
            (call.AsksSummary "n" → (app.turn call).response.status = 404) := by
  have hload : Settings.load lostMove.files lostMove.environment {} =
      .ok { fixturesPath := some "moves.json" } := by rfl
  have hf : MoveStore.ofFixture lostMove.files "moves.json" =
      .ok (.ofRecords [⟨"m", "o", none, "LOST", none, none, []⟩]) := by decide +kernel
  obtain ⟨-, hagree⟩ := doctor_summary_and_server_agree hload rfl
  obtain ⟨app, log, hstart, -, -, hstatus⟩ := hagree _ hf
  refine ⟨hload, app, log, hstart, fun call htoday => ⟨fun hasks => ?_, fun hasks => ?_⟩⟩
  · exact (hstatus call "m" htoday hasks).1.mpr ⟨_, List.mem_singleton_self _, rfl, _, rfl⟩
  · refine (hstatus call "n" htoday hasks).2.mpr fun record hm => ?_
    obtain rfl := List.mem_singleton.mp hm
    decide

end Command

end Relocation
