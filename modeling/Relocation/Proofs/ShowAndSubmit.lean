import Relocation.Proofs.NextButton
import Relocation.Proofs.PageRoutes
import Relocation.Proofs.Runs

/-! Showing a page and submitting it tell the same story. The submit goes on to where the next
button of the page leads then, and is refused if the button has no link although more pages come. -/

namespace Relocation.Web

open Http Wizard

def Turn.IsOutOfFlow (turn : Turn) : Prop :=
  turn.response.status = 409 ∧ ∃ id key,
    turn.log.getLast? = some (.requestRejected id (Refusal.outOfFlow key).rejection.display)

/-- Only the log tells the two conflicts of a submit apart. -/
theorem display_outOfFlow_ne (key key' : PageKey) :
    (Refusal.outOfFlow key).rejection.display ≠
      (Refusal.failure (.violation (.missingOrders key'))).rejection.display := by
  have hout : (Refusal.outOfFlow key).rejection.display =
      "conflict: " ++ ("page `" ++ key.name ++ "` is not in flow for this wizard session") := rfl
  have horders : (Refusal.failure (.violation (.missingOrders key'))).rejection.display =
      "conflict: " ++ ("page `" ++ key'.name ++
        "` creates a move but the wizard state has no current orders") := rfl
  rw [hout, horders]
  intro h
  have hlast := congrArg (fun s => s.toList.getLast?) h
  simp [List.getLast?_cons, List.getLast?_append] at hlast

theorem submitAction_cases (stop : Stop) :
    stop.submitAction = .ok .advance ∨
      (∃ ordersId, stop.state.ordersId = some ordersId ∧
        stop.submitAction = .ok (.createMove ordersId)) ∨
      stop.submitAction = .error (.missingOrders stop.page.key) := by
  unfold Stop.submitAction
  cases stop.page.onSubmit with
  | advance => exact .inl rfl
  | createMoveIfMissing =>
    cases stop.state.hasMove with
    | true => exact .inl rfl
    | false =>
      cases stop.state.ordersId with
      | none => exact .inr (.inr rfl)
      | some ordersId => exact .inr (.inl ⟨ordersId, rfl, rfl⟩)

/-- The button of a page that has this next path. -/
def NextButton.ofNextPath : Except Violation (Option String) → NextButton
  | .ok (some href) => .link href
  | .ok none => .complete
  | .error _ => .plain

section

variable {flow : Flow} {page : Page} {s : State} {params : Dictionary String}

theorem nextPath_eq_error (hp : page ∈ flow.inFlowPages s) {v : Violation}
    (h : (flow.stop page s).nextPath params = .error v) : v.rejectionKind = .badRequest := by
  rcases Flow.nextPath_cases hp params with ⟨-, -, hn⟩ | ⟨-, -, next, hn⟩
  · rw [hn] at h
    cases h
  · have hf := except_map_eq_error_iff.mp (hn.symm.trans h)
    obtain ⟨name, -, rfl⟩ := Pattern.fill_eq_error_iff.mp hf
    rfl

theorem pageDocument_eq_render (hp : page ∈ flow.inFlowPages s) (path : String) :
    ∃ content : PageContent,
      (pageDocument (flow.stop page s) path params).1 = content.render ∧
        content.nextButton = .ofNextPath ((flow.stop page s).nextPath params) := by
  refine ⟨pageContent (flow.stop page s) path
    (link .previous ((flow.stop page s).previousPath params)).1
    (link .next ((flow.stop page s).nextPath params)).1, by simp only [pageDocument], ?_⟩
  have hbutton : ∀ previousHref nextHref,
      (pageContent (flow.stop page s) path previousHref nextHref).nextButton =
        .of (present? nextHref) (flow.stop page s).navigation.isLast := fun _ _ => rfl
  rw [hbutton]
  rcases Flow.nextPath_cases hp params with ⟨-, hlast, hn⟩ | ⟨-, hlast, next, hn⟩
  · rw [hlast, hn]
    rfl
  · rw [hlast, hn]
    cases hf : next.path.fill (s.pathParams.merge params) with
    | error v => rfl
    | ok href =>
      have hhref : present? (some href) = some href := by
        simp [present?, Option.filter, Pattern.ne_empty_of_fill hf]
      exact congrArg (NextButton.of · false) hhref

end

namespace App

variable {app : App} {params : Dictionary String}

/-- The submit leaves the page in a state that the session has from then on. -/
structure Leaves (app : App) (post : Call) (page : Page) (params : Dictionary String)
    (s s' : State) (app' : App) : Prop where
  submit : ∃ action created log, (app.flow.stop page s).submitAction = .ok action ∧
    app.submitPage post.occasion post.request =
      app'.goOn post.occasion (app.flow.stop page s') params action created log
  flow : app'.flow = app.flow
  header : app'.sessionHeader = app.sessionHeader
  moveType : s'.moveType = s.moveType
  later : ∀ call : Call, app'.namedSession? call.request = app.namedSession? post.request →
    (call.occasion.now - post.occasion.now < app.sessions.idleTime ∨
      app.sessions.idleTime = 0) →
    callerState (app'.caller call.occasion call.request).1 = s'

section

variable {post : Call} {page : Page}

theorem leaves_of_advance {found : Option (SessionId × State)} {sessions : Sessions}
    (hc : app.caller post.occasion post.request = (found, { app with sessions }))
    (hr : app.flow.pageAt? post.request.path = some (page, params))
    (hp : page ∈ app.flow.inFlowPages (callerState found))
    (ha : (app.flow.stop page (callerState found)).submitAction = .ok .advance) :
    app.Leaves post page params (callerState found) (callerState found)
      { app with sessions } := by
  obtain ⟨log, he⟩ := submitPage_of_inFlow hc hr hp
  refine ⟨⟨.advance, none, log, ha, ?_⟩, rfl, rfl, rfl, fun call hn hsoon => ?_⟩
  · simp only [he, ha]
  · rw [caller_again hc hn hsoon]

theorem leaves_of_createMove {moves : MoveStore} {id : SessionId} {s : State}
    {ordersId : OrdersId} (hservice : app.service = .store moves)
    (hn : app.namedSession? post.request = some id)
    (hl : app.sessions.LiveAt post.occasion.now id s)
    (hr : app.flow.pageAt? post.request.path = some (page, params))
    (hp : page ∈ app.flow.inFlowPages s)
    (ha : (app.flow.stop page s).submitAction = .ok (.createMove ordersId)) :
    ∃ app', app.Leaves post page params s (s.withMove post.occasion.moveId) app' := by
  obtain ⟨log, he⟩ := submitPage_of_live hn hl hr hp
  have hp' : page ∈ app.flow.inFlowPages (s.withMove post.occasion.moveId) := by simpa using hp
  let touched := app.sessions.write post.occasion.now id s
  let app' := { app with
    service := .store (moves.create post.occasion.moveId post.occasion.locator ordersId).2
    sessions := touched.write post.occasion.now id (s.withMove post.occasion.moveId) }
  have hsubmit : app.submitPage post.occasion post.request =
      app'.goOn post.occasion (app.flow.stop page (s.withMove post.occasion.moveId)) params
        (.createMove ordersId) (some post.occasion.moveId)
        (log ++ [.moveCreated post.occasion.correlationId post.occasion.moveId ordersId]) := by
    simp only [he, ha]
    exact submitOrders_eq_goOn { app with sessions := touched } hservice
      (Sessions.contains_write ..) hp' ordersId log
  refine ⟨app', ⟨_, _, _, ha, hsubmit⟩, rfl, rfl, rfl, fun call hn' hsoon => ?_⟩
  rw [caller_of_live (hn'.trans hn) (Sessions.live_write (hl.lt_idleTime hsoon))]
  rfl

/-- A page in flow is left unless it has no orders to create a move for. -/
theorem submitPage_inFlow_cases {found : Option (SessionId × State)} {sessions : Sessions}
    {moves : MoveStore} (hservice : app.service = .store moves)
    (hc : app.caller post.occasion post.request = (found, { app with sessions }))
    (hr : app.flow.pageAt? post.request.path = some (page, params))
    (hp : page ∈ app.flow.inFlowPages (callerState found)) :
    ((app.flow.stop page (callerState found)).submitAction = .error (.missingOrders page.key) ∧
      ∃ log, app.submitPage post.occasion post.request =
        { app with sessions }.reject post.occasion
          (.failure (.violation (.missingOrders page.key))) log) ∨
    ∃ s' app', app.Leaves post page params (callerState found) s' app' := by
  rcases submitAction_cases (app.flow.stop page (callerState found)) with
    ha | ⟨ordersId, horders, ha⟩ | ha
  · exact .inr ⟨_, _, leaves_of_advance hc hr hp ha⟩
  · rcases caller_cases app post.occasion post.request with
      ⟨id, s, hn, hl⟩ | ⟨sessions', hnone, -⟩
    · obtain ⟨rfl, -⟩ := Prod.mk.inj (hc.symm.trans (caller_of_live hn hl))
      exact .inr ⟨_, leaves_of_createMove hservice hn hl hr hp ha⟩
    · -- an empty state has no orders
      obtain ⟨rfl, -⟩ := Prod.mk.inj (hc.symm.trans hnone)
      cases horders
  · obtain ⟨log, he⟩ := submitPage_of_inFlow hc hr hp
    refine .inl ⟨ha, log, ?_⟩
    simp only [he, ha]
    rfl

end

end App

/-- What the submit of a page comes to is what showing the page tells, before and after it. -/
structure SubmitAgrees (flow : Flow) (s : State) (path : String)
    (before submitted after : Turn) : Prop where
  outOfFlow : submitted.IsOutOfFlow ↔ before.response.content = .html missingContextDocument
  goesOn : submitted.response.status = 200 → ∃ next? : Option String,
    submitted.member? "next_path" = some (.ofOption next?) ∧
    (∀ href, ShowsNext after.response.content (.link href) ↔ next? = some href) ∧
    (next? = none → ShowsNext after.response.content .complete ∧ ∃ page params,
      flow.pageAt? path = some (page, params) ∧ (flow.inFlowPages s).getLast? = some page)
  refused : submitted.response.status = 400 ↔ ∃ page params,
    flow.pageAt? path = some (page, params) ∧ page ∈ flow.inFlowPages s ∧
    (∃ action, (flow.stop page s).submitAction = .ok action) ∧
    ShowsNext after.response.content .plain ∧ (flow.inFlowPages s).getLast? ≠ some page

theorem isOutOfFlow_reject (app : App) (o : Occasion) (key : PageKey) (log : List LogEvent) :
    (app.reject o (.outOfFlow key) log).IsOutOfFlow :=
  ⟨rfl, o.correlationId, key, by simp [App.reject]; rfl⟩

theorem not_isOutOfFlow_missingOrders (app : App) (o : Occasion) (key : PageKey)
    (log : List LogEvent) :
    ¬ (app.reject o (.failure (.violation (.missingOrders key))) log).IsOutOfFlow := by
  rintro ⟨-, id, key', hlast⟩
  have hevent : rejectionEvent
      { (Refusal.failure (.violation (.missingOrders key))).rejection with
        correlationId := o.correlationId } =
      .requestRejected o.correlationId
        (Refusal.failure (.violation (.missingOrders key))).rejection.display := rfl
  simp only [App.reject, List.getLast?_append, List.getLast?_singleton, Option.some_or, hevent,
    Option.some.injEq, LogEvent.requestRejected.injEq] at hlast
  exact display_outOfFlow_ne key' key hlast.2.symm

section

variable {flow : Flow} {s s' : State} {path : String} {before submitted after : Turn} {page : Page}
  {params : Dictionary String}

theorem submitAgrees_of_reject {app : App} {o : Occasion} {refusal : Refusal}
    {log : List LogEvent}
    (hkind : refusal.rejection.kind = .notFound ∨ refusal.rejection.kind = .conflict)
    (hout : (app.reject o refusal log).IsOutOfFlow ↔
      before.response.content = .html missingContextDocument)
    (hno : ∀ page params, flow.pageAt? path = some (page, params) → page ∈ flow.inFlowPages s →
      ∀ action, (flow.stop page s).submitAction ≠ .ok action) :
    SubmitAgrees flow s path before (app.reject o refusal log) after := by
  have hstatus : (app.reject o refusal log).response.status = 404 ∨
      (app.reject o refusal log).response.status = 409 :=
    hkind.imp (congrArg rejectionStatus) (congrArg rejectionStatus)
  refine ⟨hout, fun h => by omega, iff_of_false (by omega) ?_⟩
  rintro ⟨page, params, hr, hp, ⟨action, ha⟩, -, -⟩
  exact hno page params hr hp action ha

theorem submitAgrees_of_goOn {app : App} {o : Occasion} {action action' : SubmitAction}
    {created : Option MoveId} {log : List LogEvent} {content content' : PageContent}
    (hr : flow.pageAt? path = some (page, params)) (hp : page ∈ flow.inFlowPages s)
    (ha : (flow.stop page s).submitAction = .ok action')
    (htype : s'.moveType = s.moveType)
    (hsubmitted : submitted = app.goOn o (flow.stop page s') params action created log)
    (hbefore : before.response.content = .html content.render)
    (hafter : after.response.content = .html content'.render)
    (hbutton : content'.nextButton = .ofNextPath ((flow.stop page s').nextPath params)) :
    SubmitAgrees flow s path before submitted after := by
  have hpages : flow.inFlowPages s' = flow.inFlowPages s := Flow.inFlowPages_congr htype
  have hp' : page ∈ flow.inFlowPages s' := hpages ▸ hp
  have hlast := Flow.getLast?_eq_some_iff_nextPath hp' params
  have hmissing : before.response.content ≠ .html missingContextDocument := by
    rw [hbefore]
    exact fun he => content.render_ne_missingContextDocument (Content.html.inj he)
  have hshows : ∀ b, ShowsNext after.response.content b ↔
      b = .ofNextPath ((flow.stop page s').nextPath params) := by
    intro b
    rw [hafter, PageContent.showsNext_render_iff, hbutton]
  rw [hpages] at hlast
  cases hn : (flow.stop page s').nextPath params with
  | error v =>
    rw [hn] at hshows hlast
    have hstatus : submitted.response.status = 400 := by
      rw [hsubmitted, App.goOn_of_error hn]
      exact congrArg rejectionStatus (nextPath_eq_error hp' hn)
    refine ⟨iff_of_false (fun h => ?_) hmissing, fun h => ?_, iff_of_true hstatus ?_⟩
    · have hconflict := h.1
      omega
    · omega
    · have hplain := (hshows .plain).mpr rfl
      exact ⟨page, params, hr, hp, ⟨action', ha⟩, hplain, fun h => nomatch hlast.mp h⟩
  | ok next? =>
    rw [hn] at hshows hlast
    rw [App.goOn_of_ok hn] at hsubmitted
    have hstatus : submitted.response.status = 200 := congrArg (·.response.status) hsubmitted
    have hmember : submitted.member? "next_path" = some (.ofOption next?) := by
      rw [hsubmitted]
      exact App.member?_next_path_submitJson ..
    refine ⟨iff_of_false (fun h => ?_) hmissing, fun _ => ⟨next?, hmember, fun href => ?_, ?_⟩,
      iff_of_false (fun h => ?_) ?_⟩
    · have hconflict := h.1
      omega
    · rw [hshows]
      cases next? <;> simp [NextButton.ofNextPath, eq_comm]
    · rintro rfl
      exact ⟨(hshows .complete).mpr rfl, page, params, hr, hlast.mpr rfl⟩
    · omega
    · rintro ⟨-, -, -, -, -, hplain, -⟩
      have hb := (hshows .plain).mp hplain
      cases next? <;> cases hb

end

namespace App

variable {app : App} {post get : Call} {found : Option (SessionId × State)} {sessions : Sessions}
  {page : Page} {params : Dictionary String}

theorem submitAgrees_of_undeclared
    (hc : app.caller post.occasion post.request = (found, { app with sessions }))
    (hnamed : app.namedSession? get.request = app.namedSession? post.request)
    (hpath : get.request.path = post.request.path)
    (hr : app.flow.pageAt? post.request.path = none) (after : Turn) :
    SubmitAgrees app.flow (callerState found) post.request.path
      (app.showPage post.occasion get.request) (app.submitPage post.occasion post.request)
      after := by
  obtain ⟨log, hb⟩ := showPage_of_none ((caller_congr hnamed).trans hc) (hpath ▸ hr)
  obtain ⟨log', he⟩ := submitPage_of_none hc hr
  rw [hb, he]
  refine submitAgrees_of_reject (.inl rfl) (iff_of_false (fun h => ?_) nofun) ?_
  · cases h.1
  · intro page params hpage
    cases hr.symm.trans hpage

theorem submitAgrees_of_outOfFlow
    (hc : app.caller post.occasion post.request = (found, { app with sessions }))
    (hnamed : app.namedSession? get.request = app.namedSession? post.request)
    (hpath : get.request.path = post.request.path)
    (hr : app.flow.pageAt? post.request.path = some (page, params))
    (hin : page.isInFlow (callerState found) = false) (after : Turn) :
    SubmitAgrees app.flow (callerState found) post.request.path
      (app.showPage post.occasion get.request) (app.submitPage post.occasion post.request)
      after := by
  obtain ⟨log, hb⟩ := showPage_of_outOfFlow ((caller_congr hnamed).trans hc) (hpath ▸ hr) hin
  obtain ⟨log', he⟩ := submitPage_of_outOfFlow hc hr hin
  rw [hb, he]
  refine submitAgrees_of_reject (.inr rfl) (iff_of_true (isOutOfFlow_reject ..) rfl) ?_
  intro page' params' hpage hp
  obtain ⟨rfl, -⟩ := Prod.mk.inj (Option.some.inj (hr.symm.trans hpage))
  rw [(Flow.mem_inFlowPages.mp hp).2] at hin
  cases hin

/-- A page that is left is shown afterwards as it was left. -/
theorem Leaves.turn_content {s s' : State} {app' : App} {taken : List String}
    (hleaves : app.Leaves post page params s s' app') (hget : get.request.method = "GET")
    (hroute : endpoint? app.flow get.request.path = some (.page, taken))
    (hnamed : app.namedSession? get.request = app.namedSession? post.request)
    (hsoon : get.occasion.now - post.occasion.now < app.sessions.idleTime ∨
      app.sessions.idleTime = 0)
    (hr : app.flow.pageAt? get.request.path = some (page, params))
    (hp : page ∈ app.flow.inFlowPages s) :
    ∃ content : PageContent, (app'.turn get).response.content = .html content.render ∧
      content.nextButton = .ofNextPath ((app.flow.stop page s').nextPath params) := by
  have hn : app'.namedSession? get.request = app.namedSession? get.request := by
    simp [namedSession?, hleaves.header]
  have hs := hleaves.later get (hn.trans hnamed) hsoon
  obtain ⟨found, sessions, hc⟩ := app'.caller_eq get.occasion get.request
  rw [hc] at hs
  have hp' : page ∈ app'.flow.inFlowPages (callerState found) := by
    rw [hleaves.flow, hs, Flow.inFlowPages_congr hleaves.moveType]
    exact hp
  rw [← hleaves.flow] at hr hroute
  obtain ⟨log, he⟩ := showPage_of_inFlow hc hr hp'
  obtain ⟨content, hcontent, hbutton⟩ := pageDocument_eq_render hp' get.request.path
  refine ⟨content, ?_, ?_⟩
  · rw [turn_eq_showPage get hget hroute, he]
    exact congrArg Content.html hcontent
  · rw [hbutton, hs, hleaves.flow]

theorem submitAgrees_of_inFlow {taken : List String} {moves : MoveStore}
    (hservice : app.service = .store moves)
    (hc : app.caller post.occasion post.request = (found, { app with sessions }))
    (hget : get.request.method = "GET")
    (hroute : endpoint? app.flow get.request.path = some (.page, taken))
    (hpath : get.request.path = post.request.path)
    (hnamed : app.namedSession? get.request = app.namedSession? post.request)
    (hsoon : get.occasion.now - post.occasion.now < app.sessions.idleTime ∨
      app.sessions.idleTime = 0)
    (hr : app.flow.pageAt? post.request.path = some (page, params))
    (hp : page ∈ app.flow.inFlowPages (callerState found)) :
    SubmitAgrees app.flow (callerState found) post.request.path
      (app.showPage post.occasion get.request) (app.submitPage post.occasion post.request)
      ((app.submitPage post.occasion post.request).app.turn get) := by
  have hr' : app.flow.pageAt? get.request.path = some (page, params) := hpath ▸ hr
  obtain ⟨log, hb⟩ := showPage_of_inFlow ((caller_congr hnamed).trans hc) hr' hp
  obtain ⟨content, hcontent, -⟩ := pageDocument_eq_render hp get.request.path
  have hshown : (app.showPage post.occasion get.request).response.content =
      .html content.render := by
    rw [hb]
    exact congrArg Content.html hcontent
  rcases submitPage_inFlow_cases hservice hc hr hp with ⟨ha, log', he⟩ | ⟨s', app', hleaves⟩
  · have hmissing : (app.showPage post.occasion get.request).response.content ≠
        .html missingContextDocument := by
      rw [hshown]
      exact fun h => content.render_ne_missingContextDocument (Content.html.inj h)
    rw [he]
    refine submitAgrees_of_reject (.inr rfl)
      (iff_of_false (not_isOutOfFlow_missingOrders _ _ _ _) hmissing) ?_
    intro page' params' hpage _ action ha'
    obtain ⟨rfl, -⟩ := Prod.mk.inj (Option.some.inj (hr.symm.trans hpage))
    cases ha.symm.trans ha'
  · obtain ⟨action, created, log', ha, he⟩ := hleaves.submit
    obtain ⟨content', hafter, hbutton⟩ := hleaves.turn_content hget hroute hnamed hsoon hr' hp
    have happ : (app.submitPage post.occasion post.request).app = app' := by rw [he, app_goOn]
    rw [happ]
    exact submitAgrees_of_goOn hr hp ha hleaves.moveType he hshown hafter hbutton

/-- Whatever the flow and the state of the application, a page that is shown right after its submit
tells by its next button what the submit came to: the button leads to where the submit goes on, and
has no link although more pages come exactly if the submit was refused. A page that is not in flow
is not shown, and its submit is a conflict. -/
theorem show_and_submit_agree {taken : List String} {moves : MoveStore}
    (hservice : app.service = .store moves)
    (hroute : endpoint? app.flow post.request.path = some (.page, taken))
    (hpost : post.request.method = "POST") (hget : get.request.method = "GET")
    (hpath : get.request.path = post.request.path)
    (hnamed : app.namedSession? get.request = app.namedSession? post.request)
    (hsoon : get.occasion.now - post.occasion.now < app.sessions.idleTime ∨
      app.sessions.idleTime = 0) {s : State} (hmade : app.MadeIn post.occasion post.request s) :
    let before := app.turn { get with occasion := post.occasion }
    let submitted := app.turn post
    let after := submitted.app.turn get
    SubmitAgrees app.flow s post.request.path before submitted after := by
  intro before submitted after
  obtain ⟨found, sessions, hc⟩ := app.caller_eq post.occasion post.request
  have hs : s = callerState found := by rw [← hmade.callerState_eq, hc]
  have hroute' : endpoint? app.flow get.request.path = some (.page, taken) := hpath ▸ hroute
  have hbefore : before = app.showPage post.occasion get.request :=
    turn_eq_showPage _ hget hroute'
  have hsubmitted : submitted = app.submitPage post.occasion post.request :=
    turn_eq_submitPage post hpost hroute
  have hafter : after = (app.submitPage post.occasion post.request).app.turn get :=
    congrArg (·.app.turn get) hsubmitted
  rw [hs, hbefore, hsubmitted]
  cases hr : app.flow.pageAt? post.request.path with
  | none => exact submitAgrees_of_undeclared hc hnamed hpath hr after
  | some pair =>
    obtain ⟨page, params⟩ := pair
    cases hin : page.isInFlow (callerState found) with
    | false => exact submitAgrees_of_outOfFlow hc hnamed hpath hr hin after
    | true =>
      have hp : page ∈ app.flow.inFlowPages (callerState found) :=
        Flow.mem_inFlowPages.mpr ⟨(Flow.pageAt?_eq_some hr).1, hin⟩
      rw [hafter]
      exact submitAgrees_of_inFlow hservice hc hget hroute' hpath hnamed hsoon hr hp

theorem show_and_submit_agree_on_ordersTransition :
    let app := withSession "s" { ordersId := some "o" }
    let post := Call.submit "/orders/transition" "s" "m"
    let get := { post with request.method := "GET" }
    SubmitAgrees app.flow { ordersId := some "o" } "/orders/transition"
      (app.turn get) (app.turn post) ((app.turn post).app.turn get) := by
  intro app post get
  have hroute : endpoint? app.flow post.request.path = some (.page, []) :=
    endpoint?_ordersTransition
  have hget : get.request.method = "GET" := rfl
  have hnamed : app.namedSession? post.request = some "s" := by decide
  have hlive : app.sessions.LiveAt 0 "s" { ordersId := some "o" } := ⟨0, by decide, by decide⟩
  exact show_and_submit_agree rfl hroute rfl hget rfl rfl (.inl (by decide))
    (.session hnamed hlive)

end App

end Relocation.Web
