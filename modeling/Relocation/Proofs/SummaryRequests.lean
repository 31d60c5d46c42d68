import Relocation.Proofs.EscapedPaths
import Relocation.Proofs.MoveStores
import Relocation.Proofs.PageRoutes
import Relocation.Proofs.PlanFailures
import Relocation.Proofs.Runs

/-! Requests for the summary of a move. Every id can be asked for, and the status of the answer
tells whether a move is stored under it and whether its summary can be planned. -/

namespace Relocation

namespace Summary

theorem rejectionKind_of_plan_eq_error {record : MoveRecord} {today : Date} {v : Violation}
    (h : plan record today = .error v) : v.rejectionKind = .internal := by
  rcases plan_eq_error_iff.mp h with ⟨-, rfl⟩ | ⟨-, text, -, -, rfl⟩
  · rfl
  · rfl

end Summary

namespace Web

open Http Wizard Pattern

/-- The call asks for the summary of the move with this id, escapes put in. -/
def Call.AsksSummary (call : Call) (id : MoveId) : Prop :=
  call.request.method ∈ Endpoint.summary.methods ∧
    ∃ taken, endpoint? standardFlow call.request.path = some (.summary, taken) ∧
      decodePercent? (taken.headD "") = some id

def summaryPath (id : MoveId) : String :=
  joinParts ["api", "v1", "moves", encodePercent id, "summary"]

theorem cut_summaryPath (id : MoveId) :
    (Text.cut '/' (summaryPath id).toList).map String.ofList =
      ["", "api", "v1", "moves", encodePercent id, "summary"] := by
  have hslash : ∀ part ∈ ["api", "v1", "moves", encodePercent id, "summary"],
      '/' ∉ part.toList := by
    have hid := slash_not_mem_encodePercent id
    simpa using hid
  rw [summaryPath, toList_joinParts (by simp), cut_flatMap_slash hslash]
  simp

section

variable {segments : List Segment} {endpoint : Endpoint} {part : String} {taken : List String}

theorem takes_summary_of_fixed {route : String × Endpoint} (hm : route ∈ fixedRoutes)
    (h : Routes.Takes (Routes.segments route.1) ["", "api", "v1", "moves", part, "summary"] taken) :
    route.2 = .summary ∧ taken = [part] := by
  simp only [fixedRoutes, List.mem_cons, List.not_mem_nil, or_false] at hm
  rcases hm with rfl | rfl | rfl | rfl | rfl <;>
    simp [Routes.segments, Text.cut, Segment.ofPart, Routes.takes_literal_iff,
      Routes.takes_parameter_iff, Routes.takes_nil_iff] at h
  exact ⟨rfl, h⟩

/-- The only route that takes a path of this form leads to the summary. -/
theorem takes_summary (hm : (segments, endpoint) ∈ routes standardFlow)
    (h : Routes.Takes segments ["", "api", "v1", "moves", part, "summary"] taken) :
    endpoint = .summary ∧ taken = [part] := by
  rw [routes_standardFlow] at hm
  rcases List.mem_append.mp hm with hm | hm
  · obtain ⟨route, hfixed, hroute⟩ := List.mem_map.mp hm
    obtain ⟨rfl, rfl⟩ := Prod.mk.inj hroute
    exact takes_summary_of_fixed hfixed h
  · obtain ⟨e, he, hroute⟩ := List.mem_flatMap.mp hm
    obtain ⟨s, hs, hhead⟩ := head_of_mem_standardSegments e he
    obtain ⟨rest, hrest⟩ := List.head?_eq_some_iff.mp hhead
    have hsegments : ∃ more, segments = .literal "" :: .literal s :: more := by
      simp only [hrest, List.mem_cons, List.not_mem_nil, or_false, Prod.mk.injEq] at hroute
      rcases hroute with ⟨rfl, -⟩ | ⟨rfl, -⟩
      · exact ⟨_, rfl⟩
      · exact ⟨_, rfl⟩
    obtain ⟨more, rfl⟩ := hsegments
    obtain ⟨rfl, -⟩ := Routes.takes_literal_iff.mp (Routes.takes_literal_iff.mp h).2
    simp at hs

end

theorem endpoint?_summaryPath (id : MoveId) :
    endpoint? standardFlow (summaryPath id) = some (.summary, [encodePercent id]) := by
  have hroute : (Routes.segments "/api/v1/moves/\x7bmove_id\x7d/summary", Endpoint.summary) ∈
      routes standardFlow := by
    refine List.mem_map.mpr ⟨("/api/v1/moves/\x7bmove_id\x7d/summary", .summary), ?_, rfl⟩
    exact List.mem_append_left _ (by simp [fixedRoutes])
  have htakes : Routes.Takes (Routes.segments "/api/v1/moves/\x7bmove_id\x7d/summary")
      ["", "api", "v1", "moves", encodePercent id, "summary"] [encodePercent id] := by
    simp [Routes.segments, Text.cut, Segment.ofPart, Routes.takes_literal_iff,
      Routes.takes_parameter_iff, Routes.takes_nil_iff]
  rw [endpoint?, cut_summaryPath]
  obtain ⟨⟨endpoint, taken⟩, hfound⟩ :=
    Option.isSome_iff_exists.mp (Routes.isSome_route?_of_takes hroute htakes)
  obtain ⟨segments, hm, h⟩ := Routes.takes_of_route? hfound
  obtain ⟨rfl, rfl⟩ := takes_summary hm h
  exact hfound

theorem exists_asksSummary (o : Occasion) (id : MoveId) :
    ∃ call : Call, call.occasion = o ∧ call.AsksSummary id := by
  refine ⟨⟨o, { method := "GET", target := ⟨summaryPath id, ""⟩ }⟩, rfl, ?_, ?_⟩
  · simp [Endpoint.methods]
  · exact ⟨_, endpoint?_summaryPath id, decodePercent?_encodePercent id⟩

namespace App

variable {app : App} {store : MoveStore} {call : Call} {id : MoveId}

theorem status_turn_of_asksSummary (hflow : app.flow = standardFlow) (h : call.AsksSummary id) :
    (app.turn call).response.status = (app.summarize call.occasion id).response.status := by
  obtain ⟨hmethod, taken, hroute, hid⟩ := h
  have hanswer : app.answer call.occasion call.request .summary taken =
      app.summarize call.occasion id := by
    simp only [answer, withId, hid]
  rw [turn, step, hflow, hroute]
  dsimp only
  rw [if_pos hmethod, hanswer]
  split <;> rfl

theorem summarize_cases (hservice : app.service = .store store) (hkeyed : store.IsKeyed)
    (o : Occasion) (id : MoveId) :
    (∃ record ∈ store.records, record.id = id ∧ (∃ p, Summary.plan record o.today = .ok p) ∧
        (app.summarize o id).response.status = 200) ∨
      (∃ record ∈ store.records, record.id = id ∧ (∃ v, Summary.plan record o.today = .error v) ∧
        (app.summarize o id).response.status = 500) ∨
      (∀ record ∈ store.records, record.id ≠ id) ∧
        (app.summarize o id).response.status = 404 := by
  have hfetch : app.service.fetch id = store.fetch id := by
    rw [hservice]
    rfl
  rcases hkeyed.fetch_cases id with ⟨record, hm, hid, hf⟩ | ⟨hnone, hf⟩
  · cases hp : Summary.plan record o.today with
    | ok p =>
      refine .inl ⟨record, hm, hid, ⟨p, hp⟩, ?_⟩
      simp [summarize, hfetch, hf, hp, reply]
    | error v =>
      refine .inr (.inl ⟨record, hm, hid, ⟨v, hp⟩, ?_⟩)
      have hkind := Summary.rejectionKind_of_plan_eq_error hp
      simp [summarize, hfetch, hf, hp, reject, Refusal.rejection, Failure.rejection, hkind,
        rejectionResponse, rejectionStatus]
  · refine .inr (.inr ⟨hnone, ?_⟩)
    simp [summarize, hfetch, hf, reject, Refusal.rejection, Failure.rejection,
      StoreError.rejectionKind, rejectionResponse, rejectionStatus]

/-- The status of the answer says what there is to know about the move that is asked for. -/
theorem status_turn_iff (hflow : app.flow = standardFlow) (hservice : app.service = .store store)
    (hkeyed : store.IsKeyed) (h : call.AsksSummary id) :
    ((app.turn call).response.status = 200 ↔
        ∃ record ∈ store.records, record.id = id ∧
          ∃ p, Summary.plan record call.occasion.today = .ok p) ∧
      ((app.turn call).response.status = 500 ↔
        ∃ record ∈ store.records, record.id = id ∧
          ∃ v, Summary.plan record call.occasion.today = .error v) ∧
      ((app.turn call).response.status = 404 ↔ ∀ record ∈ store.records, record.id ≠ id) := by
  have hsame : ∀ record ∈ store.records, record.id = id → ∀ record' ∈ store.records,
      record'.id = id → record' = record :=
    fun record hm hid record' hm' hid' => hkeyed.eq_of_id_eq hm' hm (hid'.trans hid.symm)
  rw [status_turn_of_asksSummary hflow h]
  rcases summarize_cases hservice hkeyed call.occasion id with
    ⟨record, hm, hid, ⟨p, hp⟩, hs⟩ | ⟨record, hm, hid, ⟨v, hv⟩, hs⟩ | ⟨hnone, hs⟩ <;> rw [hs]
  · refine ⟨iff_of_true rfl ⟨record, hm, hid, p, hp⟩, iff_of_false (by decide) ?_,
      iff_of_false (by decide) fun hnone => hnone record hm hid⟩
    rintro ⟨record', hm', hid', v, hv⟩
    rw [hsame record hm hid record' hm' hid', hp] at hv
    cases hv
  · refine ⟨iff_of_false (by decide) ?_, iff_of_true rfl ⟨record, hm, hid, v, hv⟩,
      iff_of_false (by decide) fun hnone => hnone record hm hid⟩
    rintro ⟨record', hm', hid', p, hp⟩
    rw [hsame record hm hid record' hm' hid', hv] at hp
    cases hp
  · have hno : ∀ P : MoveRecord → Prop, ¬ ∃ record ∈ store.records, record.id = id ∧ P record :=
      fun P ⟨record, hm, hid, _⟩ => hnone record hm hid
    exact ⟨iff_of_false (by decide) (hno _), iff_of_false (by decide) (hno _),
      iff_of_true rfl hnone⟩

end App

end Web

end Relocation
