import Relocation.Proofs.FixtureAgreement

/-! The summaries of the moves in a fixture file. All of them are listed, in the order of their
ids, or none is and the first move without a summary is named. A single summary depends on the last
record with its id only. -/

namespace Relocation.Command

open MoveStore

def unstored (id : MoveId) : Report where
  command := "summary"
  fault := some .unknownMove
  message := s!"move `{id}` was not found"

@[simp] theorem exitCode_listed (path : String) (plans : List Summary.Plan) :
    (listed path plans).exitCode = 0 := rfl

@[simp] theorem exitCode_unplanned (id : MoveId) (v : Violation) :
    (unplanned id v).exitCode = 6 := rfl

@[simp] theorem exitCode_unstored (id : MoveId) : (unstored id).exitCode = 5 := rfl

variable {w : Surroundings} {path : String} {records : List MoveRecord} {record : MoveRecord}

/-- All summaries are listed, or the first move without one is named. -/
theorem summary_all_cases (h : FixtureHas w.files path records) :
    (∃ plans, List.Forall₂ (fun record p => Summary.plan record w.today = .ok p)
        (ofRecords records).records plans ∧
      summary w { fixture := some path } = listed path plans) ∨
    ∃ record v, Summary.IsLeastFailure w.today (ofRecords records).records record v ∧
      summary w { fixture := some path } = unplanned record.id v := by
  have hreport := summary_eq_of_chosenRecords (a := { fixture := some path })
    (ofFixture_eq_ok_iff.mpr ⟨records, h, rfl⟩) rfl rfl
  rw [hreport]
  cases hplans : Summary.planAll w.today (ofRecords records).records with
  | ok plans =>
    refine .inl ⟨plans, ?_, rfl⟩
    rw [Summary.planAll_eq_mapM, mapM_eq_ok_iff] at hplans
    simpa only [except_mapError_eq_ok_iff] using hplans
  | error e =>
    obtain ⟨record, hid, hleast⟩ := Summary.exists_isLeastFailure (isKeyed_ofRecords records) hplans
    exact .inr ⟨record, e.2, hleast, hid ▸ rfl⟩

section

variable (h : FixtureHas w.files path records) (id : MoveId)

include h

theorem summary_one_eq : summary w { fixture := some path, moveId := some id } =
    match (ofRecords records).moves.get? id with
    | none => unstored id
    | some record =>
      match Summary.plan record w.today with
      | .ok p => listed path [p]
      | .error v => unplanned record.id v := by
  have hf : MoveStore.ofFixture w.files path = .ok (ofRecords records) :=
    ofFixture_eq_ok_iff.mpr ⟨records, h, rfl⟩
  cases hget : (ofRecords records).moves.get? id with
  | none =>
    rw [summary, summaryLines_eq_of_ok hf rfl, chosenRecords, fetch, hget]
    rfl
  | some record =>
    have hchosen : chosenRecords (ofRecords records) (some id) = .ok [record] := by
      rw [chosenRecords, fetch, hget]
      rfl
    rw [summary_eq_of_chosenRecords hf rfl hchosen, Summary.planAll]
    dsimp only
    cases Summary.plan record w.today <;> rfl

/-- What the command answers when it is asked for one summary. -/
theorem summary_one_cases :
    (∃ record, IsLast records record ∧ record.id = id ∧
      ((∃ p, Summary.plan record w.today = .ok p ∧
          summary w { fixture := some path, moveId := some id } = listed path [p]) ∨
        ∃ v, Summary.plan record w.today = .error v ∧
          summary w { fixture := some path, moveId := some id } = unplanned id v)) ∨
      (∀ record ∈ records, record.id ≠ id) ∧
        summary w { fixture := some path, moveId := some id } = unstored id := by
  have hreport := summary_one_eq h id
  cases hget : (ofRecords records).moves.get? id with
  | none =>
    rw [hget] at hreport
    exact .inr ⟨get?_ofRecords_eq_none_iff.mp hget, hreport⟩
  | some record =>
    obtain ⟨hlast, rfl⟩ := get?_ofRecords_eq_some_iff.mp hget
    rw [hget] at hreport
    refine .inl ⟨record, hlast, rfl, ?_⟩
    cases hplan : Summary.plan record w.today with
    | ok p => exact .inl ⟨p, rfl, by simpa only [hplan] using hreport⟩
    | error v => exact .inr ⟨v, rfl, by simpa only [hplan] using hreport⟩

end

/-- The exit code tells whether a move is stored and whether it has a summary. -/
theorem summary_one_iff (h : FixtureHas w.files path records) (id : MoveId) :
    ((summary w { fixture := some path, moveId := some id }).exitCode = 5 ↔
      ∀ record ∈ records, record.id ≠ id) ∧
    ((summary w { fixture := some path, moveId := some id }).exitCode = 6 ↔
      ∃ record, IsLast records record ∧ record.id = id ∧
        ∃ v, Summary.plan record w.today = .error v) ∧
    ∀ record, IsLast records record → record.id = id → ∀ p, Summary.plan record w.today = .ok p →
      summary w { fixture := some path, moveId := some id } = listed path [p] := by
  rcases summary_one_cases h id with
    ⟨record, hlast, hid, ⟨p, hp, hreport⟩ | ⟨v, hv, hreport⟩⟩ | ⟨hno, hreport⟩ <;> rw [hreport]
  · have hplan : ∀ record', IsLast records record' → record'.id = id →
        Summary.plan record' w.today = .ok p := fun record' hlast' hid' =>
      (hlast'.eq_of_id_eq hlast (hid'.trans hid.symm)) ▸ hp
    refine ⟨iff_of_false (by simp) fun hno => hno record hlast.mem hid,
      iff_of_false (by simp) ?_, fun record' hlast' hid' p' hp' => ?_⟩
    · rintro ⟨record', hlast', hid', v, hv⟩
      cases (hplan record' hlast' hid').symm.trans hv
    · cases (hplan record' hlast' hid').symm.trans hp'
      rfl
  · refine ⟨iff_of_false (by simp) fun hno => hno record hlast.mem hid,
      iff_of_true (by simp) ⟨record, hlast, hid, v, hv⟩, fun record' hlast' hid' p hp => ?_⟩
    rw [hlast'.eq_of_id_eq hlast (hid'.trans hid.symm), hv] at hp
    cases hp
  · refine ⟨iff_of_true (by simp) hno, iff_of_false (by simp) ?_, fun record hlast hid => ?_⟩
    · rintro ⟨record, hlast, hid, -⟩
      exact hno record hlast.mem hid
    · exact absurd hid (hno record hlast.mem)

/-- The same last record gives the same answer, whatever else the files have. -/
theorem summary_one_congr {w' : Surroundings} {records' : List MoveRecord} {id : MoveId}
    (h : FixtureHas w.files path records) (h' : FixtureHas w'.files path records')
    (htoday : w'.today = w.today)
    (hlast : ∀ record, record.id = id → (IsLast records' record ↔ IsLast records record)) :
    summary w' { fixture := some path, moveId := some id } =
      summary w { fixture := some path, moveId := some id } := by
  -- The store is asked for this id only, and has the last record with it.
  have hget : (ofRecords records').moves.get? id = (ofRecords records).moves.get? id := by
    refine Option.ext fun record => ?_
    rw [get?_ofRecords_eq_some_iff, get?_ofRecords_eq_some_iff]
    exact and_congr_left (hlast record)
  rw [summary_one_eq h, summary_one_eq h', hget, htoday]

/-- With a fixture file, the summaries of all its moves are listed in the order of their ids, or
none is where one cannot be planned. The summary of one move is the same as in the list, and only
the last record with the id counts. -/
theorem summary_lists_all_or_names_first {w : Surroundings} {path : String}
    {records : List MoveRecord} (h : FixtureHas w.files path records) :
    ∃ listing, IsListing records listing ∧
      ((∀ record ∈ listing, ∃ p, Summary.plan record w.today = .ok p) →
        (summary w { fixture := some path }).exitCode = 0 ∧
        ∃ plans, List.Forall₂ (fun record p => Summary.plan record w.today = .ok p) listing plans ∧
          summary w { fixture := some path } = listed path plans) ∧
      ((∃ record ∈ listing, ∃ v, Summary.plan record w.today = .error v) →
        (summary w { fixture := some path }).exitCode = 6 ∧
        ∃ record v, Summary.IsLeastFailure w.today listing record v ∧
          summary w { fixture := some path } = unplanned record.id v) ∧
      ∀ id,
        ((summary w { fixture := some path, moveId := some id }).exitCode = 5 ↔
          ∀ record ∈ records, record.id ≠ id) ∧
        ((summary w { fixture := some path, moveId := some id }).exitCode = 6 ↔
          ∃ record ∈ listing, record.id = id ∧ ∃ v, Summary.plan record w.today = .error v) ∧
        (∀ record ∈ listing, record.id = id → ∀ p, Summary.plan record w.today = .ok p →
          summary w { fixture := some path, moveId := some id } = listed path [p]) ∧
        ∀ (w' : Surroundings) (records' : List MoveRecord), FixtureHas w'.files path records' →
          w'.today = w.today →
          (∀ record, record.id = id → (IsLast records' record ↔ IsLast records record)) →
          summary w' { fixture := some path, moveId := some id } =
            summary w { fixture := some path, moveId := some id } := by
  have hlisting := isListing_records records
  refine ⟨_, hlisting, fun hall => ?_, fun ⟨record, hm, v, hv⟩ => ?_, fun id => ?_⟩
  · rcases summary_all_cases h with ⟨plans, hplans, hreport⟩ | ⟨record, v, hleast, -⟩
    · exact ⟨by simp [hreport], plans, hplans, hreport⟩
    · obtain ⟨p, hp⟩ := hall record hleast.mem
      cases hp.symm.trans hleast.fails
  · rcases summary_all_cases h with ⟨plans, hplans, -⟩ | ⟨record', v', hleast, hreport⟩
    · obtain ⟨p, hp⟩ := exists_mapM_eq_ok_iff.mp ⟨plans, mapM_eq_ok_iff.mpr hplans⟩ record hm
      cases hp.symm.trans hv
    · exact ⟨by simp [hreport], record', v', hleast, hreport⟩
  · obtain ⟨hunstored, hunplanned, hlisted⟩ := summary_one_iff h id
    refine ⟨hunstored, ?_, fun record hm hid p hp => ?_, fun w' records' h' htoday hlast => ?_⟩
    · simpa only [hlisting.mem_iff] using hunplanned
    · exact hlisted record (hlisting.mem_iff.mp hm) hid p hp
    · exact summary_one_congr h h' htoday hlast

/-- The record of a move in this status, with nothing else in it. -/
def bareRecord (id : MoveId) (status : String) : MoveRecord :=
  ⟨id, "o", none, status, none, none, []⟩

/-- The first move is stored twice, at last as a draft; the second is in a status that no move
has. -/
def halfLost : Surroundings where
  files := Tree.files
    [(["moves.json"], .text ("[\x7b\"id\":\"a\",\"orders_id\":\"o\",\"status\":\"LOST\"\x7d," ++
      "\x7b\"id\":\"b\",\"orders_id\":\"o\",\"status\":\"LOST\"\x7d," ++
      "\x7b\"id\":\"a\",\"orders_id\":\"o\",\"status\":\"DRAFT\"\x7d]"))]
  environment := ⟨.ofList []⟩
  today := (Web.Occasion.zero "" "").today

theorem summary_lists_all_or_names_first_of_halfLost :
    FixtureHas halfLost.files "moves.json"
        [bareRecord "a" "LOST", bareRecord "b" "LOST", bareRecord "a" "DRAFT"] ∧
      (summary halfLost { fixture := some "moves.json" }).exitCode = 6 ∧
      (summary halfLost { fixture := some "moves.json", moveId := some "a" }).message =
        "\n".intercalate ["move summaries from `moves.json`:",
          "- a [-] status=DRAFT type=<unset> edit_move=disabled queue=DRAFT",
          "    hhg: DRAFT -> hhg_draft \"Next Step: Finish setting up your move\""] ∧
      (summary halfLost { fixture := some "moves.json", moveId := some "b" }).exitCode = 6 ∧
      (summary halfLost { fixture := some "moves.json", moveId := some "c" }).exitCode = 5 := by
  have hfixture : FixtureHas halfLost.files "moves.json"
      [bareRecord "a" "LOST", bareRecord "b" "LOST", bareRecord "a" "DRAFT"] :=
    ⟨_, rfl, by decide +kernel⟩
  obtain ⟨listing, hlisting, -, hfails, hone⟩ := summary_lists_all_or_names_first hfixture
  have ha : bareRecord "a" "DRAFT" ∈ listing :=
    hlisting.mem_iff.mpr ⟨[bareRecord "a" "LOST", bareRecord "b" "LOST"], [], rfl, by simp⟩
  have hb : bareRecord "b" "LOST" ∈ listing :=
    hlisting.mem_iff.mpr ⟨[bareRecord "a" "LOST"], [bareRecord "a" "DRAFT"], rfl, by decide⟩
  have hlost : Summary.plan (bareRecord "b" "LOST") halfLost.today =
      .error (.unknownStatus .move "LOST") := by rfl
  have hdraft : Summary.plan (bareRecord "a" "DRAFT") halfLost.today = .ok
      ⟨"a", none, .draft, none, "DRAFT", some ⟨"DRAFT", .hhgDraft⟩, none, false⟩ := by rfl
  have hlisted := (hone "a").2.2.1 _ ha rfl _ hdraft
  exact ⟨hfixture, (hfails ⟨_, hb, _, hlost⟩).1, congrArg Report.message hlisted,
    (hone "b").2.1.mpr ⟨_, hb, rfl, _, hlost⟩, (hone "c").1.mpr (by decide)⟩

end Relocation.Command
