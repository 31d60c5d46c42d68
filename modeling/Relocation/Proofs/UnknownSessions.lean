import Mathlib.Data.List.TakeWhile
import Relocation.Proofs.SessionIsolation

/-! Requests that name no stored session. They are answered as if they named none, which is also how
a session in the empty state is answered, and they leave the application as it is. -/

namespace Relocation

theorem Text.trim_of_isBlankText {s : String} (h : isBlankText s = true) : trim s = "" := by
  have hleft : trimLeft s.toList = [] := List.dropWhile_eq_nil_iff.mpr (List.all_eq_true.mp h)
  rw [trim, trimChars, hleft]
  rfl

namespace Web

open Http Wizard

/-- The first value of the header that names the session, whatever it holds. -/
def App.sessionText? (app : App) (r : Request) : Option String :=
  (r.headers.find? (·.1 = app.sessionHeader)).map (·.2)

/-- The header that names the session is not there, or its first value is blank, is not printable
ASCII, or is the id of no stored session. No header value holds a control character but the tab, so
what is not printable ASCII lies beyond it. -/
inductive NamesNoSession (app : App) (r : Request) : Prop
  | noHeader (h : ∀ header ∈ r.headers, header.1 ≠ app.sessionHeader)
  | blank {text : String} (h : app.sessionText? r = some text)
      (hblank : Text.isBlankText text = true)
  | notAscii {text : String} {c : Char} (h : app.sessionText? r = some text)
      (hc : c ∈ text.toList) (hbeyond : 0x7F ≤ c.toNat)
  | notStored {text : String} (h : app.sessionText? r = some text)
      (hnone : app.sessions.state? (Text.trim text) = none)

/-- The request names a live session, which is in the empty state. -/
def NamesEmptySession (app : App) (call : Call) : Prop :=
  ∃ id, app.namedSession? call.request = some id ∧
    app.sessions.LiveAt call.occasion.now id {}

/-- The request shows or submits a page, or lists the pages. -/
inductive AsksForPages (flow : Flow) (r : Request) : Prop
  | shows {taken : List String} (hmethod : r.method = "GET")
      (hroute : endpoint? flow r.path = some (.page, taken))
  | submits {taken : List String} (hmethod : r.method = "POST")
      (hroute : endpoint? flow r.path = some (.page, taken))
  | lists {taken : List String} (hmethod : r.method = "GET")
      (hroute : endpoint? flow r.path = some (.listing, taken))

/-- The requests ask for the same. Their headers and bodies may be anything. -/
structure AsksSame (r r' : Request) : Prop where
  method : r'.method = r.method
  target : r'.target = r.target

namespace App

variable {app app' : App} {o o' : Occasion} {r r' : Request} {call call' : Call}

theorem namedSession?_eq_some_iff {id : SessionId} : app.namedSession? r = some id ↔
    (∃ text, app.sessionText? r = some text ∧ (∀ c ∈ text.toList, c.toNat < 0x7F) ∧
      Text.trim text = id) ∧ id ≠ "" := by
  have hheader : r.header? app.sessionHeader =
      (app.sessionText? r).filter fun text => text.toList.all fun c => c.toNat < 0x7F := rfl
  rw [namedSession?, hheader]
  simp only [Option.filter_eq_some_iff, Option.map_eq_some_iff, List.all_eq_true,
    decide_eq_true_eq, and_assoc]

theorem state?_of_namesNoSession {id : SessionId} (h : NamesNoSession app r)
    (hn : app.namedSession? r = some id) : app.sessions.state? id = none := by
  obtain ⟨⟨text, ht, hascii, rfl⟩, hne⟩ := namedSession?_eq_some_iff.mp hn
  cases h with
  | noHeader h =>
    obtain ⟨header, hfind, -⟩ := Option.map_eq_some_iff.mp ht
    have hname : header.1 = app.sessionHeader := by simpa using List.find?_some hfind
    exact absurd hname (h header (List.mem_of_find?_eq_some hfind))
  | blank h hblank =>
    obtain rfl := Option.some.inj (h.symm.trans ht)
    exact absurd (Text.trim_of_isBlankText hblank) hne
  | notAscii h hc hbeyond =>
    obtain rfl := Option.some.inj (h.symm.trans ht)
    exact absurd (hascii _ hc) (Nat.not_lt.mpr hbeyond)
  | notStored h hnone =>
    obtain rfl := Option.some.inj (h.symm.trans ht)
    exact hnone

theorem caller_of_namesNoSession (h : NamesNoSession app r) (o : Occasion) :
    app.caller o r = (none, app) := by
  cases hn : app.namedSession? r with
  | none => simp [caller, hn]
  | some id =>
    have hstored : app.sessions.entries.get? id = none :=
      Option.map_eq_none_iff.mp (state?_of_namesNoSession h hn)
    simp [caller, hn, visit, Sessions.get_of_not_stored hstored]

theorem submitAction_ne_createMove {stop : Stop} (h : stop.state.ordersId = none)
    (ordersId : OrdersId) : stop.submitAction ≠ .ok (.createMove ordersId) := by
  unfold Stop.submitAction
  cases stop.page.onSubmit with
  | advance => simp
  | createMoveIfMissing => cases hm : stop.state.hasMove <;> simp [h]

theorem withoutTrace_goOn (app app' : App) (o o' : Occasion) (stop : Stop)
    (params : Dictionary String) (action : SubmitAction) (created : Option MoveId)
    (log log' : List LogEvent) :
    (app'.goOn o' stop params action created log').response.withoutTrace =
      (app.goOn o stop params action created log).response.withoutTrace := by
  cases hnext : stop.nextPath params with
  | error v => rw [goOn_of_error hnext, goOn_of_error hnext, withoutTrace_reject]
  | ok next? =>
    rw [goOn_of_ok hnext, goOn_of_ok hnext]
    rfl

/-- Where there are no orders a submit creates no move, so all it does is look up the session. -/
theorem submitPage_of_no_orders (h : (callerState (app.caller o r).1).ordersId = none) :
    (app.submitPage o r).app = (app.caller o r).2 := by
  rcases submitPage_cases rfl with happ | ⟨page, params, ordersId, log, -, -, haction, -⟩
  · exact happ
  · exact absurd haction (submitAction_ne_createMove h ordersId)

theorem submitPage_response_congr (hflow : app'.flow = app.flow) (htarget : r'.target = r.target)
    (hs : callerState (app'.caller o' r').1 = callerState (app.caller o r).1)
    (horders : (callerState (app.caller o r).1).ordersId = none) :
    (app'.submitPage o' r').response.withoutTrace =
      (app.submitPage o r).response.withoutTrace := by
  have hpath : r'.path = r.path := congrArg Target.path htarget
  obtain ⟨found, sessions, hc⟩ := app.caller_eq o r
  obtain ⟨found', sessions', hc'⟩ := app'.caller_eq o' r'
  simp only [hc, hc'] at hs horders
  cases hr : app.flow.pageAt? r.path with
  | none =>
    have hr' : app'.flow.pageAt? r'.path = none := by rwa [hflow, hpath]
    obtain ⟨log, he⟩ := submitPage_of_none hc hr
    obtain ⟨log', he'⟩ := submitPage_of_none hc' hr'
    rw [he, he', hpath, withoutTrace_reject]
  | some pair =>
    obtain ⟨page, params⟩ := pair
    have hr' : app'.flow.pageAt? r'.path = some (page, params) := by rwa [hflow, hpath]
    cases hin : page.isInFlow (callerState found) with
    | false =>
      obtain ⟨log, he⟩ := submitPage_of_outOfFlow hc hr hin
      obtain ⟨log', he'⟩ := submitPage_of_outOfFlow hc' hr' (hs ▸ hin)
      rw [he, he', withoutTrace_reject]
    | true =>
      have hp : page ∈ app.flow.inFlowPages (callerState found) :=
        Flow.mem_inFlowPages.mpr ⟨(Flow.pageAt?_eq_some hr).1, hin⟩
      have hp' : page ∈ app'.flow.inFlowPages (callerState found') := by rwa [hflow, hs]
      obtain ⟨log, he⟩ := submitPage_of_inFlow hc hr hp
      obtain ⟨log', he'⟩ := submitPage_of_inFlow hc' hr' hp'
      rw [he, he']
      simp only [hflow, hs]
      cases haction : (app.flow.stop page (callerState found)).submitAction with
      | error v => exact withoutTrace_reject ..
      | ok action =>
        cases action with
        | advance => exact withoutTrace_goOn ..
        | createMove ordersId => exact absurd haction (submitAction_ne_createMove horders ordersId)

/-- Requests for the same by callers in the empty state get the same answer, whoever they are and
whatever else the applications hold. -/
theorem response_turn_of_empty_state (hflow : app'.flow = app.flow)
    (hasks : AsksForPages app.flow call.request) (hsame : AsksSame call.request call'.request)
    (hs : callerState (app.caller call.occasion call.request).1 = {})
    (hs' : callerState (app'.caller call'.occasion call'.request).1 = {}) :
    (app'.turn call').response.withoutTrace = (app.turn call).response.withoutTrace := by
  have hpath : call'.request.path = call.request.path := congrArg Target.path hsame.target
  have heq := hs'.trans hs.symm
  cases hasks with
  | shows hmethod hroute =>
    rw [turn_eq_showPage call hmethod hroute,
      turn_eq_showPage call' (hsame.method.trans hmethod) (hflow.symm ▸ hpath.symm ▸ hroute)]
    exact showPage_response_congr hflow hsame.target heq
  | submits hmethod hroute =>
    rw [turn_eq_submitPage call hmethod hroute,
      turn_eq_submitPage call' (hsame.method.trans hmethod) (hflow.symm ▸ hpath.symm ▸ hroute)]
    exact submitPage_response_congr hflow hsame.target heq (by rw [hs])
  | lists hmethod hroute =>
    rw [turn_eq_answer hmethod hroute (by decide),
      turn_eq_answer (hsame.method.trans hmethod) (hflow.symm ▸ hpath.symm ▸ hroute) (by decide)]
    exact congrArg _ (listPages_response_congr hflow hsame.target heq)

theorem app_turn_of_namesNoSession (hasks : AsksForPages app.flow call.request)
    (h : NamesNoSession app call.request) : (app.turn call).app = app := by
  have hc := caller_of_namesNoSession h call.occasion
  cases hasks with
  | shows hmethod hroute => rw [turn_eq_showPage call hmethod hroute, app_showPage, hc]
  | submits hmethod hroute =>
    rw [turn_eq_submitPage call hmethod hroute, submitPage_of_no_orders (by rw [hc]; rfl), hc]
  | lists hmethod hroute =>
    rw [turn_eq_answer hmethod hroute (by decide)]
    rcases app_listPages app call.occasion call.request with happ | happ
    · exact happ
    · exact happ.trans (by rw [hc])

/-- However a request for the pages fails to name a session, it leaves sessions and moves as they
are, and gets the answer that every other such request for the same gets. A session in the empty
state gets this answer too, in any application on the same flow. -/
theorem unknown_session_is_no_session (app : App) (call : Call)
    (hasks : AsksForPages app.flow call.request) (hnone : NamesNoSession app call.request) :
    (app.turn call).app = app ∧
      (∀ (app' : App) (call' : Call), app'.flow = app.flow → AsksSame call.request call'.request →
        NamesNoSession app' call'.request →
        (app'.turn call').response.withoutTrace = (app.turn call).response.withoutTrace) ∧
      ∀ (app' : App) (call' : Call), app'.flow = app.flow → AsksSame call.request call'.request →
        NamesEmptySession app' call' →
        (app'.turn call').response.withoutTrace = (app.turn call).response.withoutTrace := by
  have hs : callerState (app.caller call.occasion call.request).1 = {} := by
    rw [caller_of_namesNoSession hnone]
    rfl
  refine ⟨app_turn_of_namesNoSession hasks hnone, fun app' call' hflow hsame hnone' => ?_,
    fun app' call' hflow hsame ⟨id, hn, hl⟩ => ?_⟩
  · refine response_turn_of_empty_state hflow hasks hsame hs ?_
    rw [caller_of_namesNoSession hnone']
    rfl
  · refine response_turn_of_empty_state hflow hasks hsame hs ?_
    rw [caller_of_live hn hl]
    rfl

/-- The orders page is submitted for an unknown session, for a blank one, and in a session in the
empty state. -/
theorem unknown_session_is_no_session_on_ordersTransition :
    let app := withSession "s" {}
    let unknown := Call.submit "/orders/transition" "t" "m"
    let blank := Call.submit "/orders/transition" " \t" "n"
    let empty := Call.submit "/orders/transition" "s" "m"
    (app.turn unknown).app = app ∧
      (app.turn blank).response.withoutTrace = (app.turn unknown).response.withoutTrace ∧
      (app.turn empty).response.withoutTrace = (app.turn unknown).response.withoutTrace := by
  intro app unknown blank empty
  have hasks : AsksForPages app.flow unknown.request := .submits rfl endpoint?_ordersTransition
  have htext : app.sessionText? unknown.request = some "t" := by decide
  have htext' : app.sessionText? blank.request = some " \t" := by decide
  have hunknown : NamesNoSession app unknown.request := .notStored htext (by decide)
  have hblank : NamesNoSession app blank.request := .blank htext' (by decide)
  have hempty : NamesEmptySession app empty := ⟨"s", by decide, 0, by decide, by decide⟩
  obtain ⟨happ, hnone, hlive⟩ := unknown_session_is_no_session app unknown hasks hunknown
  exact ⟨happ, hnone app blank rfl ⟨rfl, rfl⟩ hblank, hlive app empty rfl ⟨rfl, rfl⟩ hempty⟩

end App

end Web

end Relocation
