import Relocation.Proofs.PathRouting
import Relocation.Proofs.ShowAndSubmit
import Relocation.Proofs.WizardWalk

/-! What is answered at the paths that lead to the pages: the page is the one that the flow resolves
the path to. Where a parameter is empty, the flow sees another path than the routes do. -/

namespace Relocation.Web

open Http Wizard

/-- What is shown of a route: its page, or that it is not in flow. -/
def routeDocument (r : Route) (path : String) (params : Dictionary String) : String :=
  r.stop?.elim missingContextDocument fun stop => (pageDocument stop path params).1

/-- The page is declared, and a submit that is accepted says which page it was. -/
structure Turn.AnswersFor (turn : Turn) (key : PageKey) : Prop where
  declared : turn.response.status ≠ 404
  named : turn.response.status = 200 → turn.text? "page" = some key.name

/-- Whatever the method, the answer is about this route. -/
structure Serves (turn : Turn) (method path : String) (r : Route) (params : Dictionary String) :
    Prop where
  declared : turn.response.status ≠ 404
  get : method = "GET" → turn.response = ⟨200, .html (routeDocument r path params)⟩
  head : method = "HEAD" → turn.response = ⟨200, .html ""⟩
  post : method = "POST" → turn.response.status = 200 → turn.text? "page" = some r.key.name

/-- Nothing but the log differs. -/
structure SameOutcome (turn turn' : Turn) : Prop where
  response : turn'.response = turn.response
  app : turn'.app = turn.app

namespace App

variable {app visited : App} {o : Occasion} {r r' : Request} {page : Page}
  {params : Dictionary String} {found : Option (SessionId × State)} {log log' : List LogEvent}

theorem reject_answersFor {refusal : Refusal} (key : PageKey)
    (h : refusal.rejection.kind ≠ .notFound) :
    (app.reject o refusal log).AnswersFor key := by
  have hstatus : (app.reject o refusal log).response.status =
      rejectionStatus refusal.rejection.kind := rfl
  refine ⟨?_, fun h' => ?_⟩
  · rw [hstatus]
    cases hk : refusal.rejection.kind <;> simp_all [rejectionStatus]
  · rw [hstatus] at h'
    cases hk : refusal.rejection.kind <;> simp [hk, rejectionStatus] at h'

theorem goOn_answersFor {flow : Flow} {s : State} (hp : page ∈ flow.inFlowPages s)
    (action : SubmitAction) (created : Option MoveId) :
    (app.goOn o (flow.stop page s) params action created log).AnswersFor page.key := by
  cases hn : (flow.stop page s).nextPath params with
  | error v =>
    rw [goOn_of_error hn]
    refine reject_answersFor page.key ?_
    have hkind : (Refusal.failure (.violation v)).rejection.kind = v.rejectionKind := rfl
    rw [hkind, nextPath_eq_error hp hn]
    decide
  | ok next? =>
    rw [goOn_of_ok hn]
    exact ⟨by simp [reply], fun _ => rfl⟩

theorem submitOrders_answersFor {id : SessionId} {s : State} {ordersId : OrdersId}
    (hsession : app.sessions.entries.contains id = true) (hp : page ∈ app.flow.inFlowPages s) :
    (app.submitOrders o (some (id, s)) page.key params ordersId log).AnswersFor page.key := by
  cases hservice : app.service with
  | store moves =>
    have hp' : page ∈ app.flow.inFlowPages (s.withMove o.moveId) := by simpa using hp
    rw [submitOrders_eq_goOn app hservice hsession hp']
    exact goOn_answersFor hp' _ _
  | offline reason =>
    simp only [submitOrders, hservice, MoveService.create]
    exact reject_answersFor page.key (by simp [Refusal.rejection, Failure.rejection,
      StoreError.rejectionKind])

theorem submitPage_answersFor (hr : app.flow.pageAt? r.path = some (page, params)) :
    (app.submitPage o r).AnswersFor page.key := by
  obtain ⟨found, sessions, hc⟩ := app.caller_eq o r
  cases hin : page.isInFlow (callerState found) with
  | false =>
    obtain ⟨log, he⟩ := submitPage_of_outOfFlow hc hr hin
    rw [he]
    exact reject_answersFor page.key (by simp [Refusal.rejection])
  | true =>
    have hp : page ∈ app.flow.inFlowPages (callerState found) :=
      Flow.mem_inFlowPages.mpr ⟨(Flow.pageAt?_eq_some hr).1, hin⟩
    obtain ⟨log, he⟩ := submitPage_of_inFlow hc hr hp
    rw [he]
    rcases submitAction_cases (app.flow.stop page (callerState found)) with
      ha | ⟨ordersId, horders, ha⟩ | ha
    · simp only [ha]
      exact goOn_answersFor hp _ _
    · simp only [ha]
      rcases caller_cases app o r with ⟨id, s, hn, hl⟩ | ⟨sessions', hnone, -⟩
      · obtain ⟨rfl, happ⟩ := Prod.mk.inj (hc.symm.trans (caller_of_live hn hl))
        rw [happ]
        exact submitOrders_answersFor (Sessions.contains_write ..) hp
      · -- an empty state has no orders
        obtain ⟨rfl, -⟩ := Prod.mk.inj (hc.symm.trans hnone)
        cases horders
    · simp only [ha]
      exact reject_answersFor page.key (by simp [Refusal.rejection, Failure.rejection,
        Violation.rejectionKind])

theorem showPage_response (hc : app.caller o r = (found, visited))
    (hr : visited.flow.pageAt? r.path = some (page, params)) :
    let route := visited.flow.routeOf (callerState found) page
    (app.showPage o r).response = ⟨200, .html (routeDocument route r.path params)⟩ := by
  intro route
  cases hin : page.isInFlow (callerState found) with
  | false =>
    obtain ⟨log, he⟩ := showPage_of_outOfFlow hc hr hin
    rw [he]
    simp [reply, routeDocument, route, Flow.routeOf, hin]
  | true =>
    have hp := Flow.mem_inFlowPages.mpr ⟨(Flow.pageAt?_eq_some hr).1, hin⟩
    obtain ⟨log, he⟩ := showPage_of_inFlow hc hr hp
    have hstop : route.stop? = _ := Flow.stop?_routeOf hp
    rw [he, routeDocument, hstop]
    rfl

theorem goOn_sameOutcome (stop : Stop) (action : SubmitAction) (created : Option MoveId) :
    SameOutcome (app.goOn o stop params action created log)
      (app.goOn o stop params action created log') := by
  unfold goOn
  split <;> exact ⟨rfl, rfl⟩

theorem submitOrders_sameOutcome (key : PageKey) (ordersId : OrdersId) :
    SameOutcome (app.submitOrders o found key params ordersId log)
      (app.submitOrders o found key params ordersId log') := by
  unfold submitOrders
  split
  · exact ⟨rfl, rfl⟩
  · dsimp only
    split
    · exact ⟨rfl, rfl⟩
    · split
      · exact ⟨rfl, rfl⟩
      · exact goOn_sameOutcome _ _ _

/-- Of the path of a submit only the page that it leads to counts. -/
theorem submitPage_sameOutcome (hn : app.namedSession? r' = app.namedSession? r)
    (hat : app.flow.pageAt? r'.path = app.flow.pageAt? r.path) :
    SameOutcome (app.submitPage o r) (app.submitPage o r') := by
  obtain ⟨found, sessions, hc⟩ := app.caller_eq o r
  have hc' := (caller_congr (o := o) hn).trans hc
  cases hr : app.flow.pageAt? r.path with
  | none =>
    obtain ⟨log, he⟩ := submitPage_of_none hc hr
    obtain ⟨log', he'⟩ := submitPage_of_none hc' (hat.trans hr)
    rw [he, he']
    exact ⟨rfl, rfl⟩
  | some pair =>
    obtain ⟨page, params⟩ := pair
    cases hin : page.isInFlow (callerState found) with
    | false =>
      obtain ⟨log, he⟩ := submitPage_of_outOfFlow hc hr hin
      obtain ⟨log', he'⟩ := submitPage_of_outOfFlow hc' (hat.trans hr) hin
      rw [he, he']
      exact ⟨rfl, rfl⟩
    | true =>
      have hp : page ∈ app.flow.inFlowPages (callerState found) :=
        Flow.mem_inFlowPages.mpr ⟨(Flow.pageAt?_eq_some hr).1, hin⟩
      obtain ⟨log, he⟩ := submitPage_of_inFlow hc hr hp
      obtain ⟨log', he'⟩ := submitPage_of_inFlow hc' (hat.trans hr) hp
      rw [he, he']
      dsimp only
      split
      · exact ⟨rfl, rfl⟩
      · exact goOn_sameOutcome _ _ _
      · exact submitOrders_sameOutcome _ _

theorem turn_eq_headPage (call : Call) {taken : List String}
    (hmethod : call.request.method = "HEAD")
    (hroute : endpoint? app.flow call.request.path = some (.page, taken)) :
    app.turn call =
      let shown := app.showPage call.occasion call.request
      { shown with response.content := emptied shown.response.content } := by
  simp [turn, step, hroute, hmethod, Endpoint.methods, answer]

theorem serves_of_pageAt? {call : Call} {taken : List String}
    (hroute : endpoint? app.flow call.request.path = some (.page, taken))
    (hr : app.flow.pageAt? call.request.path = some (page, params)) {s : State}
    (hmade : app.MadeIn call.occasion call.request s) :
    Serves (app.turn call) call.request.method call.request.path (app.flow.routeOf s page)
      params := by
  obtain ⟨found, sessions, hc⟩ := app.caller_eq call.occasion call.request
  have hs : s = callerState found := by rw [← hmade.callerState_eq, hc]
  have hshow := showPage_response hc hr
  have hsubmit := submitPage_answersFor (o := call.occasion) hr
  rw [hs]
  by_cases hget : call.request.method = "GET"
  · rw [turn_eq_showPage call hget hroute]
    exact ⟨by rw [hshow]; simp, fun _ => hshow, by simp [hget], by simp [hget]⟩
  by_cases hhead : call.request.method = "HEAD"
  · rw [turn_eq_headPage call hhead hroute]
    refine ⟨?_, by simp [hhead], fun _ => ?_, by simp [hhead]⟩
    · dsimp only
      rw [hshow]
      simp
    · dsimp only
      rw [hshow]
      rfl
  by_cases hpost : call.request.method = "POST"
  · rw [turn_eq_submitPage call hpost hroute]
    exact ⟨hsubmit.declared, by simp [hpost], by simp [hpost], fun _ => hsubmit.named⟩
  · have hturn : app.turn call = app.reply 405 .nothing := by
      simp [turn, step, hroute, Endpoint.methods, hget, hhead, hpost]
    rw [hturn]
    exact ⟨by simp [reply], fun h => absurd h hget, fun h => absurd h hhead,
      fun h => absurd h hpost⟩

theorem undeclared_of_pageAt? {call : Call} {taken : List String}
    (hroute : endpoint? app.flow call.request.path = some (.page, taken))
    (hr : app.flow.pageAt? call.request.path = none)
    (hmethod : call.request.method = "GET" ∨ call.request.method = "POST") :
    ∃ visited log,
      app.turn call = reject visited call.occasion (.undeclaredPath call.request.path) log := by
  obtain ⟨found, sessions, hc⟩ := app.caller_eq call.occasion call.request
  rcases hmethod with hget | hpost
  · obtain ⟨log, he⟩ := showPage_of_none hc hr
    exact ⟨_, log, (turn_eq_showPage call hget hroute).trans he⟩
  · obtain ⟨log, he⟩ := submitPage_of_none hc hr
    exact ⟨_, log, (turn_eq_submitPage call hpost hroute).trans he⟩

end App

/-- The routes and the flow at one path. -/
structure RoutesMatchFlow (path : String) : Prop where
  reaches_iff : ∀ s, ReachesPages path ↔
    IsPlainPath path ∧ (standardFlow.resolve path s).isSome = true ∨ TakesBlank path
  blank : TakesBlank path → ¬ IsPlainPath path ∧
    ∀ s r params, standardFlow.resolve path s = some (r, params) → r.key = .moveType
  declared : IsPlainPath path → ReachesPages path → ∀ s,
    (standardFlow.resolve path s).isSome = true
  served : ReachesPages path → ∀ (app : App) (call : Call), app.flow = standardFlow →
    call.request.path = path → ∀ s, app.MadeIn call.occasion call.request s →
    ∀ r params, standardFlow.resolve path s = some (r, params) →
    Serves (app.turn call) call.request.method path r params
  undeclared : ReachesPages path → ∀ (app : App) (call : Call), app.flow = standardFlow →
    call.request.path = path → (∀ s, standardFlow.resolve path s = none) →
    call.request.method = "GET" ∨ call.request.method = "POST" →
    ∃ visited log, app.turn call = App.reject visited call.occasion (.undeclaredPath path) log
  apart : ∀ s, (standardFlow.resolve path s).isSome = true → ∀ e taken,
    endpoint? standardFlow path = some (e, taken) → e = .page
  slash : path.toList.getLast? ≠ some '/' →
    (ReachesPages (path ++ "/") ↔ ReachesPages path) ∧
    (ReachesPages path → ∀ (app : App) (call : Call), app.flow = standardFlow →
      call.request.method = "POST" →
      SameOutcome (app.turn (call.to path)) (app.turn (call.to (path ++ "/"))))

section

variable {path : String}

theorem pageAt?_append_slash (flow : Flow) (path : String) :
    flow.pageAt? (path ++ "/") = flow.pageAt? path := by
  have hslash : pathParts (path ++ "/") = pathParts path := by
    simpa using pathParts_append_slash path.toList
  simp only [Flow.pageAt?, Pattern.match?, hslash]

theorem reachesPages_append_slash (h : path.toList.head? = some '/')
    (hlast : path.toList.getLast? ≠ some '/') :
    ReachesPages (path ++ "/") ↔ ReachesPages path := by
  have hslash : (path ++ "/").toList.head? = some '/' := by
    rw [String.toList_append, List.head?_append, h, Option.some_or]
  rw [reachesPages_iff hslash, reachesPages_iff h, innerParts_append_slash h hlast]

/-- For every path the routes and the flow agree on the page, as long as no parameter is empty. -/
theorem routes_match_flow (h : path.toList.head? = some '/') : RoutesMatchFlow path where
  reaches_iff := reachesPages_iff_resolve_or_blank h
  blank hblank := ⟨not_isPlainPath_of_takesBlank hblank,
    fun _ _ _ hr => key_eq_moveType_of_takesBlank h hblank hr⟩
  declared hplain hreaches s := by
    rcases (reachesPages_iff_resolve_or_blank h s).mp hreaches with ⟨-, hs⟩ | hblank
    · exact hs
    · exact absurd hplain (not_isPlainPath_of_takesBlank hblank)
  served := by
    rintro ⟨taken, hroute⟩ app call hflow rfl s hmade r params hr
    obtain ⟨⟨page, values⟩, hat, he⟩ := Option.map_eq_some_iff.mp hr
    obtain ⟨rfl, rfl⟩ := Prod.mk.inj he
    rw [← hflow] at hroute hat ⊢
    exact App.serves_of_pageAt? hroute hat hmade
  undeclared := by
    rintro ⟨taken, hroute⟩ app call hflow rfl hnone hmethod
    have hat : standardFlow.pageAt? call.request.path = none := Option.map_eq_none_iff.mp (hnone {})
    rw [← hflow] at hroute hat
    exact App.undeclared_of_pageAt? hroute hat hmethod
  apart _ hs _ _ := eq_page_of_resolve hs
  slash hlast := by
    have hreaches := reachesPages_append_slash h hlast
    refine ⟨hreaches, fun hpath app call hflow hpost => ?_⟩
    obtain ⟨values, hroute⟩ := hpath
    obtain ⟨values', hroute'⟩ := hreaches.mpr ⟨values, hroute⟩
    rw [← hflow] at hroute hroute'
    rw [App.turn_eq_submitPage (call.to path) hpost hroute,
      App.turn_eq_submitPage (call.to (path ++ "/")) hpost hroute']
    exact App.submitPage_sameOutcome rfl (pageAt?_append_slash app.flow path)

end

theorem routes_match_flow_review :
    "/moves/m/review/".toList.head? = some '/' ∧ RoutesMatchFlow "/moves/m/review/" :=
  ⟨by decide, routes_match_flow (by decide)⟩

/-- A path with an empty parameter leads to the pages too. There no page is declared for it, or
another one than its route belongs to. -/
theorem blank_parameter_reaches_pages :
    (ReachesPages "/moves//" ∧ ¬ IsPlainPath "/moves//" ∧
      ∀ s, standardFlow.resolve "/moves//" s = none) ∧
    (ReachesPages "/moves//review" ∧ ¬ IsPlainPath "/moves//review" ∧
      ∀ s, ∃ r params, standardFlow.resolve "/moves//review" s = some (r, params) ∧
        r.key = .moveType) ∧
    ¬ ReachesPages "/moves/" ∧
    ∃ (app : App) (call : Call) (visited : App) (log : List LogEvent), app.flow = standardFlow ∧
      call.request.path = "/moves//" ∧
      app.turn call = visited.reject call.occasion (.undeclaredPath call.request.path) log := by
  have hblank : endpoint? standardFlow "/moves//" = some (.page, [""]) := by
    rw [endpoint?, routes_standardFlow]
    decide +kernel
  have hreview : endpoint? standardFlow "/moves//review" = some (.page, [""]) := by
    rw [endpoint?, routes_standardFlow]
    decide +kernel
  have hmoves : endpoint? standardFlow "/moves/" = none := by
    rw [endpoint?, routes_standardFlow]
    decide +kernel
  have hnone : standardFlow.pageAt? "/moves//" = none := by
    rw [← Option.isNone_iff_eq_none]
    decide +kernel
  have htype : (standardFlow.pageAt? "/moves//review").map (·.1.key) = some .moveType := by
    decide +kernel
  refine ⟨⟨⟨_, hblank⟩, by decide +kernel, fun s => by rw [Flow.resolve, hnone]; rfl⟩,
    ⟨⟨_, hreview⟩, by decide +kernel, fun s => ?_⟩, ?_, ?_⟩
  · obtain ⟨⟨page, params⟩, hat, hkey⟩ := Option.map_eq_some_iff.mp htype
    exact ⟨standardFlow.routeOf s page, params, by rw [Flow.resolve, hat]; rfl, hkey⟩
  · rintro ⟨taken, hroute⟩
    rw [hmoves] at hroute
    cases hroute
  · let call : Call :=
      { occasion := .zero "s" "m", request := { method := "GET", target := ⟨"/moves//", ""⟩ } }
    obtain ⟨app, hflow⟩ : ∃ app : App, app.flow = standardFlow := ⟨.withSession "s" {}, rfl⟩
    rw [← hflow] at hblank hnone
    have hroute : endpoint? app.flow call.request.path = some (.page, [""]) := hblank
    obtain ⟨visited, log, he⟩ := App.undeclared_of_pageAt? hroute hnone (.inl rfl)
    exact ⟨app, call, visited, log, hflow, rfl, he⟩

end Relocation.Web
