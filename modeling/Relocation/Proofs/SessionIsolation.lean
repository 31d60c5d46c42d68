import Relocation.Proofs.PageRoutes
import Relocation.Proofs.Runs

/-! Sessions are apart from each other. A request writes no session but one that it names or starts,
and what is read in a session depends on the state of that session alone. -/

namespace Relocation.Http

/-- A response but for the id that it is traced by. -/
def Response.withoutTrace (response : Response) : Response :=
  match response.content with
  | .json (.object members) =>
    { response with content := .json (.object (members.filter (·.1 ≠ "correlation_id"))) }
  | _ => response

end Relocation.Http

namespace Relocation.Web

open Http Wizard

/-- The request may write the session under an id: it submits a page in the session, replaces or
ends it, or starts it. -/
inductive MayWrite (app : App) (call : Call) : SessionId → Prop
  | submits {taken : List String} {id : SessionId}
      (hroute : endpoint? app.flow call.request.path = some (.page, taken))
      (hmethod : call.request.method = "POST") (hnamed : app.namedSession? call.request = some id) :
      MayWrite app call id
  | addresses {taken : List String} {id : SessionId}
      (hroute : endpoint? app.flow call.request.path = some (.session, taken))
      (hmethod : call.request.method = "PUT" ∨ call.request.method = "DELETE")
      (hid : decodePercent? (taken.headD "") = some id) : MayWrite app call id
  | starts {taken : List String}
      (hroute : endpoint? app.flow call.request.path = some (.sessions, taken))
      (hmethod : call.request.method = "POST") (hstatus : (app.turn call).response.status = 201) :
      MayWrite app call call.occasion.sessionId

/-- The request reads in the session under an id: it asks for a page or the listing of the pages
and names the session, or it asks for the session itself. -/
inductive ReadsIn (app : App) (r : Request) : SessionId → Prop
  | page {taken : List String} {id : SessionId} (hmethod : r.method = "GET")
      (hroute : endpoint? app.flow r.path = some (.page, taken))
      (hnamed : app.namedSession? r = some id) : ReadsIn app r id
  | listing {taken : List String} {id : SessionId} (hmethod : r.method = "GET")
      (hroute : endpoint? app.flow r.path = some (.listing, taken))
      (hnamed : app.namedSession? r = some id) : ReadsIn app r id
  | session {taken : List String} {id : SessionId} (hmethod : r.method = "GET")
      (hroute : endpoint? app.flow r.path = some (.session, taken))
      (hid : decodePercent? (taken.headD "") = some id) : ReadsIn app r id

/-- Two applications that are set up alike, with a live session under the same id and in the same
state. Their other sessions and their moves may be anything. -/
structure ShareSession (app app' : App) (now now' : Nat) (id : SessionId) (s : State) : Prop where
  flow : app'.flow = app.flow
  header : app'.sessionHeader = app.sessionHeader
  live : app.sessions.LiveAt now id s
  live' : app'.sessions.LiveAt now' id s

namespace App

variable {app app' visited : App} {o o' : Occasion} {r r' : Request} {call call' : Call}
  {id k : SessionId} {s : State}

/-! What a request writes -/

/-- A request is turned away at once, or it is answered at the place it is for. -/
theorem turn_cases (app : App) (call : Call) :
    (app.turn call).app = app ∨ ∃ endpoint taken,
      endpoint? app.flow call.request.path = some (endpoint, taken) ∧
        call.request.method ∈ endpoint.methods ∧
        (app.turn call).app = (app.answer call.occasion call.request endpoint taken).app ∧
        (app.turn call).response.status =
          (app.answer call.occasion call.request endpoint taken).response.status := by
  unfold turn step
  cases hroute : endpoint? app.flow call.request.path with
  | none => exact .inl rfl
  | some found =>
    obtain ⟨endpoint, taken⟩ := found
    by_cases hmethod : call.request.method ∈ endpoint.methods
    · refine .inr ⟨endpoint, taken, rfl, hmethod, ?_⟩
      simp only [if_pos hmethod]
      split <;> exact ⟨rfl, rfl⟩
    · exact .inl (by simp only [if_neg hmethod, app_reply])

theorem namedSession?_of_caller (hc : app.caller o r = (some (id, s), visited)) :
    app.namedSession? r = some id := by
  unfold caller at hc
  cases hn : app.namedSession? r with
  | none =>
    rw [hn] at hc
    cases hc
  | some k =>
    simp only [hn, Prod.mk.injEq, Option.map_eq_some_iff] at hc
    obtain ⟨⟨state, -, rfl, -⟩, -⟩ := hc
    rfl

theorem sessions_submitOrders (app : App) (o : Occasion) (found : Option (SessionId × State))
    (key : PageKey) (params : Dictionary String) (ordersId : OrdersId) (log : List LogEvent) :
    (app.submitOrders o found key params ordersId log).app.sessions = app.sessions ∨
      ∃ id s s', found = some (id, s) ∧
        (app.submitOrders o found key params ordersId log).app.sessions =
          (app.sessions.replace o.now id s').2 := by
  unfold submitOrders
  cases app.service.create o.moveId o.locator ordersId with
  | error e => exact .inl rfl
  | ok created =>
    cases found with
    | none =>
      simp only [keep, Option.map_none]
      split <;> simp
    | some pair =>
      obtain ⟨id, s⟩ := pair
      rcases app.sessions.replace_cases o.now id (s.withMove created.1.id) with hr | hr
      · refine .inr ⟨id, s, s.withMove created.1.id, rfl, ?_⟩
        simp only [keep, Option.map_some, callerState, Option.elim_some, hr]
        split <;> simp
      · simp only [keep, Option.map_some, callerState, Option.elim_some, hr]
        exact .inl rfl

theorem keepsAt_submitPage (hn : app.namedSession? r ≠ some id) :
    app.sessions.KeepsAt o.now (app.submitPage o r).app.sessions id := by
  obtain ⟨found, sessions, hc⟩ := app.caller_eq o r
  have hkeeps : app.sessions.KeepsAt o.now sessions id := by
    obtain ⟨sessions', he, hk⟩ := caller_effect app o r
    rw [hc] at he
    obtain rfl : sessions = sessions' := congrArg App.sessions he
    exact hk id
  rcases submitPage_cases hc with happ | ⟨page, params, ordersId, log, -, -, -, he⟩
  · rw [happ]
    exact hkeeps
  · rw [he]
    rcases sessions_submitOrders { app with sessions } o found page.key params ordersId log with
      hs | ⟨k, s, s', rfl, hs⟩
    · rw [hs]
      exact hkeeps
    · have hk : id ≠ k := fun e => hn (e ▸ namedSession?_of_caller hc)
      rw [hs, Sessions.KeepsAt, Sessions.state?_replace_of_ne hk]
      exact hkeeps

theorem keepsAt_startSession
    (hid : (app.startSession o r).response.status = 201 → id ≠ o.sessionId) :
    app.sessions.KeepsAt o.now (app.startSession o r).app.sessions id := by
  unfold startSession at hid ⊢
  cases hbody : stateBody r with
  | error status => exact .inl rfl
  | ok s =>
    simp only [hbody] at hid
    have hprune := app.sessions.keeps_prune o.now id
    rcases app.sessions.create_cases o.now o.sessionId s with hc | hc
    · simp only [hc] at hid ⊢
      rw [app_reply, Sessions.KeepsAt, Sessions.state?_write, if_neg (hid rfl)]
      exact hprune
    · simp only [hc]
      exact hprune

theorem keepsAt_replaceSession (hk : id ≠ k) :
    app.sessions.KeepsAt o.now (app.replaceSession o r k).app.sessions id := by
  unfold replaceSession
  cases stateBody r with
  | error status => exact .inl rfl
  | ok s =>
    rcases app.sessions.replace_cases o.now k s with hr | hr
    · simp only [hr]
      exact Sessions.keepsAt_write hk
    · simp only [hr]
      exact .inl rfl

theorem keepsAt_endSession (hk : id ≠ k) :
    app.sessions.KeepsAt o.now (app.endSession o k).app.sessions id := by
  have hframe := Sessions.state?_remove_of_ne (s := app.sessions) hk
  unfold endSession
  rcases app.sessions.remove_cases k with hr | hr
  · simp only [hr] at hframe ⊢
    exact .inl hframe
  · simp only [hr]
    exact .inl rfl

theorem answer_read (app : App) (o : Occasion) (taken : List String) {endpoint : Endpoint}
    (hread : r.method = "GET" ∨ r.method = "HEAD") (hmethod : r.method ∈ endpoint.methods) :
    ∃ sessions, (app.answer o r endpoint taken).app = { app with sessions } ∧
      app.sessions.Keeps o.now sessions := by
  have hpost : r.method ≠ "POST" := by rcases hread with h | h <;> simp [h]
  have hput : r.method ≠ "PUT" := by rcases hread with h | h <;> simp [h]
  have hdelete : r.method ≠ "DELETE" := by rcases hread with h | h <;> simp [h]
  have hsame : ∃ sessions, app = { app with sessions } ∧ app.sessions.Keeps o.now sessions :=
    ⟨app.sessions, rfl, Sessions.Keeps.refl _ _⟩
  cases endpoint with
  | sessions => simp [Endpoint.methods, hpost] at hmethod
  | session =>
    simp only [answer, withId]
    cases decodePercent? (taken.headD "") with
    | none => exact hsame
    | some id =>
      simp only [if_neg hput, if_neg hdelete, app_showSession]
      exact visit_effect app o id
  | listing =>
    rcases app_listPages app o r with happ | happ
    · exact happ.symm ▸ hsame
    · exact happ.symm ▸ caller_effect app o r
  | summary =>
    simp only [answer, withId]
    cases decodePercent? (taken.headD "") with
    | none => exact hsame
    | some id => exact (app_summarize app o id).symm ▸ hsame
  | health => exact hsame
  | page =>
    simp only [answer, if_neg hpost, app_showPage]
    exact caller_effect app o r

theorem keepsAt_turn (h : ¬ MayWrite app call id) :
    app.sessions.KeepsAt call.occasion.now (app.turn call).app.sessions id := by
  rcases app.turn_cases call with happ | ⟨endpoint, taken, hroute, hmethod, happ, hstatus⟩
  · exact .inl (by rw [happ])
  · rw [happ]
    by_cases hread : call.request.method = "GET" ∨ call.request.method = "HEAD"
    · obtain ⟨sessions, hanswer, hkeeps⟩ := answer_read app call.occasion taken hread hmethod
      rw [hanswer]
      exact hkeeps id
    · cases endpoint with
      | sessions =>
        have hpost : call.request.method = "POST" := by
          simpa [Endpoint.methods] using hmethod
        refine keepsAt_startSession fun hcreated hid => h ?_
        exact hid ▸ .starts hroute hpost (hstatus.trans hcreated)
      | session =>
        have hwrite : call.request.method = "PUT" ∨ call.request.method = "DELETE" := by
          simpa [Endpoint.methods, not_or.mp hread] using hmethod
        simp only [answer, withId]
        cases hdecoded : decodePercent? (taken.headD "") with
        | none => exact .inl rfl
        | some k =>
          have hk : id ≠ k := fun he => h (he ▸ .addresses hroute hwrite hdecoded)
          rcases hwrite with hput | hdelete
          · simp only [if_pos hput]
            exact keepsAt_replaceSession hk
          · simp only [hdelete]
            exact keepsAt_endSession hk
      | listing | summary | health => exact absurd (by simpa [Endpoint.methods] using hmethod) hread
      | page =>
        have hpost : call.request.method = "POST" := by
          simpa [Endpoint.methods, not_or.mp hread] using hmethod
        simp only [answer, if_pos hpost]
        exact keepsAt_submitPage fun hn => h (.submits hroute hpost hn)

theorem turn_get (hget : call.request.method = "GET") :
    (app.turn call).app.service = app.service ∧
      app.sessions.Keeps call.occasion.now (app.turn call).app.sessions := by
  rcases app.turn_cases call with happ | ⟨endpoint, taken, -, hmethod, happ, -⟩
  · rw [happ]
    exact ⟨rfl, Sessions.Keeps.refl _ _⟩
  · obtain ⟨sessions, hanswer, hkeeps⟩ :=
      answer_read app call.occasion taken (.inl hget) hmethod
    rw [happ, hanswer]
    exact ⟨rfl, hkeeps⟩

/-! What a request reads -/

theorem turn_eq_answer (hget : call.request.method = "GET") {endpoint : Endpoint}
    {taken : List String} (hroute : endpoint? app.flow call.request.path = some (endpoint, taken))
    (hmethod : "GET" ∈ endpoint.methods) :
    app.turn call = app.answer call.occasion call.request endpoint taken := by
  simp [turn, step, hroute, hget, hmethod]

theorem withoutTrace_reject (app app' : App) (o o' : Occasion) (refusal : Refusal)
    (log log' : List LogEvent) : (app'.reject o' refusal log').response.withoutTrace =
      (app.reject o refusal log).response.withoutTrace := by
  simp [reject, rejectionResponse, Response.withoutTrace]

theorem showPage_response_congr (hflow : app'.flow = app.flow) (htarget : r'.target = r.target)
    (hs : callerState (app'.caller o' r').1 = callerState (app.caller o r).1) :
    (app'.showPage o' r').response.withoutTrace = (app.showPage o r).response.withoutTrace := by
  have hpath : r'.path = r.path := congrArg Target.path htarget
  obtain ⟨found, sessions, hc⟩ := app.caller_eq o r
  obtain ⟨found', sessions', hc'⟩ := app'.caller_eq o' r'
  simp only [hc, hc'] at hs
  cases hr : app.flow.pageAt? r.path with
  | none =>
    have hr' : app'.flow.pageAt? r'.path = none := by rwa [hflow, hpath]
    obtain ⟨log, he⟩ := showPage_of_none hc hr
    obtain ⟨log', he'⟩ := showPage_of_none hc' hr'
    rw [he, he', hpath, withoutTrace_reject]
  | some pair =>
    obtain ⟨page, params⟩ := pair
    have hr' : app'.flow.pageAt? r'.path = some (page, params) := by rwa [hflow, hpath]
    cases hin : page.isInFlow (callerState found) with
    | false =>
      obtain ⟨log, he⟩ := showPage_of_outOfFlow hc hr hin
      obtain ⟨log', he'⟩ := showPage_of_outOfFlow hc' hr' (hs ▸ hin)
      rw [he, he']
      rfl
    | true =>
      have hp : page ∈ app.flow.inFlowPages (callerState found) :=
        Flow.mem_inFlowPages.mpr ⟨(Flow.pageAt?_eq_some hr).1, hin⟩
      have hp' : page ∈ app'.flow.inFlowPages (callerState found') := by rwa [hflow, hs]
      obtain ⟨log, he⟩ := showPage_of_inFlow hc hr hp
      obtain ⟨log', he'⟩ := showPage_of_inFlow hc' hr' hp'
      rw [he, he']
      simp only [reply, hflow, hs, hpath]

theorem listPages_response_congr (hflow : app'.flow = app.flow) (htarget : r'.target = r.target)
    (hs : callerState (app'.caller o' r').1 = callerState (app.caller o r).1) :
    (app'.listPages o' r').response = (app.listPages o r).response := by
  obtain ⟨found, sessions, hc⟩ := app.caller_eq o r
  obtain ⟨found', sessions', hc'⟩ := app'.caller_eq o' r'
  simp only [hc, hc'] at hs
  unfold listPages
  rw [htarget]
  cases currentPage? r.target.query with
  | none => rfl
  | some current? => simp only [hc, hc', hs, hflow, reply]

theorem response_turn_of_readsIn (hr : ReadsIn app call.request id)
    (hrequest : call'.request = call.request)
    (h : ShareSession app app' call.occasion.now call'.occasion.now id s) :
    (app'.turn call').response.withoutTrace = (app.turn call).response.withoutTrace := by
  have hnamed' : app'.namedSession? call.request = app.namedSession? call.request := by
    simp [namedSession?, h.header]
  have hcaller : ∀ hn : app.namedSession? call.request = some id,
      callerState (app'.caller call'.occasion call.request).1 =
        callerState (app.caller call.occasion call.request).1 := by
    intro hn
    rw [caller_of_live hn h.live, caller_of_live (hnamed'.trans hn) h.live']
  cases hr with
  | page hget hroute hn =>
    have hroute' := h.flow.symm ▸ hroute
    rw [turn_eq_showPage call hget hroute,
      turn_eq_showPage call' (hrequest ▸ hget) (hrequest ▸ hroute'), hrequest]
    exact showPage_response_congr h.flow rfl (hcaller hn)
  | listing hget hroute hn =>
    have hroute' := h.flow.symm ▸ hroute
    rw [turn_eq_answer hget hroute (by decide),
      turn_eq_answer (hrequest ▸ hget) (hrequest ▸ hroute') (by decide), hrequest]
    exact congrArg _ (listPages_response_congr h.flow rfl (hcaller hn))
  | session hget hroute hid =>
    have hroute' := h.flow.symm ▸ hroute
    have hput : call.request.method ≠ "PUT" := by simp [hget]
    have hdelete : call.request.method ≠ "DELETE" := by simp [hget]
    rw [turn_eq_answer hget hroute (by decide),
      turn_eq_answer (hrequest ▸ hget) (hrequest ▸ hroute') (by decide), hrequest]
    simp only [answer, withId, hid, if_neg hput, if_neg hdelete, showSession, visit,
      Sessions.get_of_live h.live, Sessions.get_of_live h.live', h.flow]
    rfl

/-- Whatever the flow and the state of the application, a request leaves every session as it is
that it may not write, but for an idle one that may be dropped, and a request that only reads
leaves them all so, and the moves. What is read in a session is the same in every application that
shares this one session. -/
theorem sessions_are_isolated (app : App) (call : Call) :
    (∀ id, ¬ MayWrite app call id →
        app.sessions.KeepsAt call.occasion.now (app.turn call).app.sessions id) ∧
      (call.request.method = "GET" → (app.turn call).app.service = app.service ∧
        app.sessions.Keeps call.occasion.now (app.turn call).app.sessions) ∧
      ∀ (app' : App) (call' : Call) (id : SessionId) (s : State),
        call'.request = call.request → ReadsIn app call.request id →
        ShareSession app app' call.occasion.now call'.occasion.now id s →
        (app'.turn call').response.withoutTrace = (app.turn call).response.withoutTrace :=
  ⟨fun _ h => keepsAt_turn h, turn_get,
    fun _ _ _ _ hrequest hr h => response_turn_of_readsIn hr hrequest h⟩

theorem sessions_are_isolated_on_ordersTransition :
    let app := withSession "s" { ordersId := some "o" }
    let app' := { app with
      sessions := app.sessions.write 0 "t" { hasMove := true }
      service := .store (.ofRecords [.draft "m" "o" "L"]) }
    let post := Call.submit "/orders/transition" "s" "n"
    let get := { post with request.method := "GET" }
    (app'.turn post).app.sessions.state? "t" = some { hasMove := true } ∧
      (app'.turn get).app.service = app'.service ∧
      (app'.turn get).response.withoutTrace = (app.turn get).response.withoutTrace := by
  intro app app' post get
  have hroute : endpoint? standardFlow post.request.path = some (.page, []) :=
    endpoint?_ordersTransition
  have hnamed : app'.namedSession? post.request = some "s" := by decide
  have happ' := sessions_are_isolated app' post
  have hother : ¬ MayWrite app' post "t" := by
    generalize ht : "t" = t
    intro h
    cases h with
    | submits _ _ hn =>
      have hst : "t" = "s" := ht.trans (Option.some.inj (hn.symm.trans hnamed))
      exact absurd hst (by decide)
    | addresses hr _ _ => cases hr.symm.trans hroute
    | starts hr _ _ => cases hr.symm.trans hroute
  have hkept : (app'.turn post).app.sessions.state? "t" = some { hasMove := true } := by
    rcases happ'.1 "t" hother with hs | ⟨-, session, hs, hidle⟩
    · exact hs.trans (by decide)
    · have hentry : app'.sessions.entries.get? "t" = some ⟨{ hasMove := true }, 0⟩ := by decide
      obtain rfl := Option.some.inj (hentry.symm.trans hs)
      cases hidle
  have hshare : ShareSession app app' 0 0 "s" { ordersId := some "o" } :=
    ⟨rfl, rfl, ⟨0, by decide, by decide⟩, ⟨0, by decide, by decide⟩⟩
  have hreads : ReadsIn app get.request "s" := .page rfl hroute (by decide)
  exact ⟨hkept, ((sessions_are_isolated app' get).2.1 rfl).1,
    (sessions_are_isolated app get).2.2 app' get "s" _ rfl hreads hshare⟩

end App

end Relocation.Web
