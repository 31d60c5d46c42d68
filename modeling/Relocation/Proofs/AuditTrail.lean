import Relocation.Proofs.RouteLookups
import Relocation.Proofs.Runs

/-! What auditing leaves behind. It changes no result; a path that is declared and an attempt to
plan a summary leave one event each, and a run of requests leaves one for each request that reaches
a page or a stored move, in their order. -/

namespace Relocation

namespace Audit

/-- The log after an audited computation, whose events come behind those that are there. -/
def logged {α : Type} (prior : List Event) (audited : α × List Event) : List Event :=
  prior ++ audited.2

/-- The event carries the context that it happened in. -/
structure Event.IsIn (e : Event) (c : Context) : Prop where
  moveId : e.moveId = c.moveId
  correlationId : e.correlationId = c.correlationId
  actor : e.actor = c.actor

theorem Context.isIn_event (c : Context) (eventType : String) (category : Category)
    (outcome : Outcome) (metadata : List (String × String)) :
    (c.event eventType category outcome metadata).IsIn c :=
  ⟨rfl, rfl, rfl⟩

end Audit

open Audit

/-! ### Resolving a path -/

namespace Wizard.Flow

variable {flow : Flow} {path : String} {s : State} {c : Context} {e : Event} {r : Route}

/-- The event tells which route a path was resolved to, and whether it is in flow. -/
structure TellsRoute (e : Event) (c : Context) (path : String) (r : Route) : Prop where
  isIn : e.IsIn c
  category : e.category = .wizard
  inFlow : ∀ stop, r.stop? = some stop →
    e.eventType = "wizard.page_resolved" ∧ e.outcome = .success
  outOfFlow : r.stop? = none → e.eventType = "wizard.missing_context" ∧ e.outcome = .rejected
  page : e.metadata.get? "page" = some r.key.name
  path : e.metadata.get? "path" = some path

theorem tellsRoute_resolveEvent (c : Context) (path : String) (r : Route) :
    TellsRoute (resolveEvent c path r) c path r where
  isIn := by
    unfold resolveEvent
    split <;> exact c.isIn_event ..
  category := by
    unfold resolveEvent
    split <;> rfl
  inFlow stop h := by simp [resolveEvent, Route.isInFlow, h, Context.event]
  outOfFlow h := by simp [resolveEvent, Route.isInFlow, h, Context.event]
  page := by
    unfold resolveEvent
    split <;> simp [Context.event, Dictionary.get?_ofList]
  path := by
    unfold resolveEvent
    split <;> simp [Context.event, Dictionary.get?_ofList]

theorem resolveAudited_of_some {params : Dictionary String}
    (h : flow.resolve path s = some (r, params)) :
    flow.resolveAudited path s c = (some (r, params), [resolveEvent c path r]) := by
  rw [resolveAudited, h]

theorem resolveAudited_of_none (h : flow.resolve path s = none) :
    flow.resolveAudited path s c = (none, []) := by
  rw [resolveAudited, h]

theorem resolve_eq_none_iff :
    flow.resolve path s = none ↔ ∀ page ∈ flow.pages, page.path.match? path = none := by
  simp [resolve, pageAt?, List.findSome?_eq_none_iff]

/-- Resolving a path with an audit. -/
structure AuditsRoute (flow : Flow) (path : String) (s : State) (c : Context)
    (prior : List Event) : Prop where
  result : (flow.resolveAudited path s c).1 = flow.resolve path s
  declared : ∀ page ∈ flow.pages, page.path.match? path ≠ none → ∃ r params e,
    flow.resolve path s = some (r, params) ∧ TellsRoute e c path r ∧
      logged prior (flow.resolveAudited path s c) = prior ++ [e]
  undeclared : (∀ page ∈ flow.pages, page.path.match? path = none) →
    logged prior (flow.resolveAudited path s c) = prior

theorem auditsRoute (flow : Flow) (path : String) (s : State) (c : Context)
    (prior : List Event) : AuditsRoute flow path s c prior where
  result := by
    cases h : flow.resolve path s with
    | none => rw [resolveAudited_of_none h]
    | some found => rw [resolveAudited_of_some h]
  declared page hpage hmatch := by
    cases h : flow.resolve path s with
    | none => exact absurd (resolve_eq_none_iff.mp h page hpage) hmatch
    | some found =>
      refine ⟨found.1, found.2, _, rfl, tellsRoute_resolveEvent c path found.1, ?_⟩
      rw [logged, resolveAudited_of_some h]
  undeclared hnone := by
    rw [logged, resolveAudited_of_none (resolve_eq_none_iff.mpr hnone), List.append_nil]

end Wizard.Flow

/-! ### Planning a summary -/

namespace Summary

/-- The event tells how planning a summary ended: with these statuses, or with this error. -/
structure TellsPlan (e : Event) (c : Context) (result : Except Violation Plan) : Prop where
  isIn : e.IsIn c
  category : e.category = .summary
  planned : ∀ p, result = .ok p → e.eventType = "summary.dispatched" ∧ e.outcome = .success ∧
    e.metadata.get? "move_status" = some (Named.name p.moveStatus) ∧
    e.metadata.get? "queue_status" = some p.queueStatus ∧
    e.metadata.get? "hhg" = some (p.hhg.elim "hidden" Leg.status) ∧
    e.metadata.get? "ppm" = some (p.ppm.elim "hidden" Leg.status)
  failed : ∀ v, result = .error v → e.eventType = "summary.unknown_status" ∧
    e.outcome = .failed ∧ e.metadata.get? "error" = some v.message

theorem tellsPlan_planEvent (c : Context) (result : Except Violation Plan) :
    TellsPlan (planEvent c result) c result where
  isIn := by cases result <;> exact ⟨rfl, rfl, rfl⟩
  category := by cases result <;> rfl
  planned p h := by
    subst h
    simp [planEvent, legStatus, Context.event, Dictionary.get?_ofList]
  failed v h := by
    subst h
    simp [planEvent, Context.event, Dictionary.get?_ofList]

/-- Planning a summary with an audit. -/
structure AuditsPlan (record : MoveRecord) (today : Date) (c : Context) (prior : List Event) :
    Prop where
  result : (planAudited record today c).1 = plan record today
  event : ∃ e, TellsPlan e c (plan record today) ∧
    logged prior (planAudited record today c) = prior ++ [e]

theorem auditsPlan (record : MoveRecord) (today : Date) (c : Context) (prior : List Event) :
    AuditsPlan record today c prior :=
  ⟨rfl, _, tellsPlan_planEvent c _, rfl⟩

end Summary

/-! ### A run of requests -/

namespace Web

open Http Wizard

def LogEvent.audit? : LogEvent → Option Event
  | .audited e => some e
  | _ => none

/-- The audit events of a log. -/
def audits (log : List LogEvent) : List Event := log.filterMap LogEvent.audit?

@[simp]
theorem audits_nil : audits [] = [] := rfl

@[simp]
theorem audits_cons_audited (e : Event) (log : List LogEvent) :
    audits (.audited e :: log) = e :: audits log :=
  rfl

@[simp]
theorem audits_append (log log' : List LogEvent) :
    audits (log ++ log') = audits log ++ audits log' :=
  List.filterMap_append

@[simp]
theorem audits_map_audited (events : List Event) : audits (events.map .audited) = events := by
  simp [audits, List.filterMap_map, Function.comp_def, LogEvent.audit?]

theorem audits_rejectionEvent (r : Rejection) : audits [rejectionEvent r] = [] := by
  unfold rejectionEvent
  split <;> rfl

theorem audits_link (direction : Direction) (href : Except Violation (Option String)) :
    audits (link direction href).2 = [] := by
  cases href <;> rfl

theorem audits_pageDocument (stop : Stop) (path : String) (params : Dictionary String) :
    audits (pageDocument stop path params).2 = [] := by
  simp [pageDocument, audits_link]

theorem MoveService.fetch_eq_ok_iff {service : MoveService} {id : MoveId} {record : MoveRecord} :
    service.fetch id = .ok record ↔
      ∃ moves, service = .store moves ∧ moves.moves.get? id = some record := by
  cases service with
  | store moves => cases h : moves.moves.get? id <;> simp [fetch, MoveStore.fetch, h]
  | offline reason => simp [fetch]

namespace App

variable {app : App} {call : Call} {calls : List Call} {o : Occasion} {r : Request}

@[simp]
theorem audits_reply (app : App) (status : Nat) (content : Content) (log : List LogEvent) :
    audits (app.reply status content log).log = audits log :=
  rfl

@[simp]
theorem audits_reject (app : App) (o : Occasion) (refusal : Refusal) (log : List LogEvent) :
    audits (app.reject o refusal log).log = audits log := by
  simp [reject, audits_rejectionEvent]

@[simp]
theorem audits_goOn (app : App) (o : Occasion) (stop : Stop) (params : Dictionary String)
    (action : SubmitAction) (created : Option MoveId) (log : List LogEvent) :
    audits (app.goOn o stop params action created log).log = audits log := by
  unfold goOn
  split <;> simp

@[simp]
theorem audits_submitOrders (app : App) (o : Occasion) (found : Option (SessionId × State))
    (key : PageKey) (params : Dictionary String) (ordersId : OrdersId) (log : List LogEvent) :
    audits (app.submitOrders o found key params ordersId log).log = audits log := by
  have hcreated : ∀ id, audits [.moveCreated o.correlationId id ordersId] = [] := fun _ => rfl
  unfold submitOrders
  dsimp only
  split
  · exact audits_reject ..
  · split
    · exact audits_reject ..
    · split <;> simp [hcreated]

/-- The log after a run, whose events come behind those that are there. -/
def logAfter (app : App) (prior : List LogEvent) : List Call → List LogEvent
  | [] => prior
  | call :: calls => (app.turn call).app.logAfter (prior ++ (app.turn call).log) calls

/-- The request gets or posts a page, and in a session with this state its path leads to this route.
A `HEAD` request is answered as the `GET` request that it asks about. A path with an empty part may
come to where the pages are served though no page is declared for it; it reaches none. -/
def ReachesPage (app : App) (call : Call) (s : State) (r : Route) : Prop :=
  app.MadeIn call.occasion call.request s ∧ call.request.method ∈ ["GET", "HEAD", "POST"] ∧
    (∃ taken, endpoint? app.flow call.request.path = some (.page, taken)) ∧
    ∃ params, app.flow.resolve call.request.path s = some (r, params)

/-- The request is for the summary of the move with this id, and this move is stored. -/
def ReachesMove (app : App) (call : Call) (id : MoveId) (record : MoveRecord) : Prop :=
  call.request.method ∈ ["GET", "HEAD"] ∧
    (∃ taken, endpoint? app.flow call.request.path = some (.summary, taken) ∧
      decodePercent? (taken.headD "") = some id) ∧
    ∃ moves, app.service = .store moves ∧ moves.moves.get? id = some record

/-- The audit events that are due for a request: one if it reaches a page, with the move of its
session as it was before; one if it reaches a stored move, with the id that it asks for; and else
none. -/
inductive Due (app : App) (call : Call) : List Event → Prop
  | page {s : State} {r : Route} {e : Event} (hr : app.ReachesPage call s r)
      (he : Flow.TellsRoute e ⟨s.moveId, call.occasion.correlationId, "wizard"⟩
        call.request.path r) : Due app call [e]
  | summary {id : MoveId} {record : MoveRecord} {e : Event} (hr : app.ReachesMove call id record)
      (he : Summary.TellsPlan e ⟨some id, call.occasion.correlationId, "summary"⟩
        (Summary.plan record call.occasion.today)) : Due app call [e]
  | silent (hpage : ∀ s r, ¬ app.ReachesPage call s r)
      (hmove : ∀ id record, ¬ app.ReachesMove call id record) : Due app call []

/-- The audit events that are due for a run, each request taken as the ones before it left the
application. -/
inductive Trail : App → List Call → List Event → Prop
  | nil (app : App) : Trail app [] []
  | cons {app : App} {call : Call} {calls : List Call} {es es' : List Event}
      (hdue : app.Due call es) (h : Trail (app.turn call).app calls es') :
      Trail app (call :: calls) (es ++ es')

/-- The context that a page is resolved in. -/
def pageContext (app : App) (o : Occasion) (r : Request) : Context :=
  ⟨(callerState (app.caller o r).1).moveId, o.correlationId, "wizard"⟩

theorem audits_showPage (app : App) (o : Occasion) (r : Request) :
    audits (app.showPage o r).log = (app.flow.resolveAudited r.path
      (callerState (app.caller o r).1) (app.pageContext o r)).2 := by
  obtain ⟨found, sessions, hc⟩ := app.caller_eq o r
  simp only [showPage, resolve, pageContext, hc]
  cases hr : app.flow.resolve r.path (callerState found) with
  | none => simp [Flow.resolveAudited_of_none hr]
  | some pair =>
    simp only [Flow.resolveAudited_of_some hr]
    split <;> simp [audits_pageDocument]

theorem audits_submitPage (app : App) (o : Occasion) (r : Request) :
    audits (app.submitPage o r).log = (app.flow.resolveAudited r.path
      (callerState (app.caller o r).1) (app.pageContext o r)).2 := by
  obtain ⟨found, sessions, hc⟩ := app.caller_eq o r
  simp only [submitPage, resolve, pageContext, hc]
  cases hr : app.flow.resolve r.path (callerState found) with
  | none => simp [Flow.resolveAudited_of_none hr]
  | some pair =>
    simp only [Flow.resolveAudited_of_some hr]
    split
    · simp
    · split <;> simp

/-- A request is turned away at once, or its log is that of the place it is for. -/
theorem log_turn (app : App) (call : Call) :
    (∀ endpoint taken, endpoint? app.flow call.request.path = some (endpoint, taken) →
        call.request.method ∉ endpoint.methods) ∧ (app.turn call).log = [] ∨
      ∃ endpoint taken, endpoint? app.flow call.request.path = some (endpoint, taken) ∧
        call.request.method ∈ endpoint.methods ∧
        (app.turn call).log = (app.answer call.occasion call.request endpoint taken).log := by
  unfold turn step
  cases hroute : endpoint? app.flow call.request.path with
  | none => exact .inl ⟨nofun, rfl⟩
  | some found =>
    obtain ⟨endpoint, taken⟩ := found
    by_cases hmethod : call.request.method ∈ endpoint.methods
    · refine .inr ⟨endpoint, taken, rfl, hmethod, ?_⟩
      simp only [if_pos hmethod]
      split <;> rfl
    · refine .inl ⟨?_, by simp only [if_neg hmethod]; rfl⟩
      rintro _ _ ⟨⟩
      exact hmethod

theorem audits_startSession (app : App) (o : Occasion) (r : Request) :
    audits (app.startSession o r).log = [] := by
  unfold startSession
  split
  · rfl
  · split
    · exact audits_reject ..
    · rfl

theorem audits_session (app : App) (o : Occasion) (r : Request) (taken : List String) :
    audits (app.answer o r .session taken).log = [] := by
  simp only [answer, withId]
  split
  · rfl
  · split_ifs
    · unfold replaceSession
      split
      · rfl
      · split <;> simp
    · unfold endSession
      split
      · exact audits_reject ..
      · rfl
    · unfold showSession
      split <;> simp

theorem audits_listPages (app : App) (o : Occasion) (r : Request) :
    audits (app.listPages o r).log = [] := by
  unfold listPages
  split <;> rfl

/-- A summary that is asked for leaves an event where its move is stored. -/
theorem audits_summarize_of_ok {id : MoveId} {record : MoveRecord}
    (h : app.service.fetch id = .ok record) : audits (app.summarize o id).log =
      [Summary.planEvent ⟨some id, o.correlationId, "summary"⟩ (Summary.plan record o.today)] := by
  cases hp : Summary.plan record o.today <;> simp [summarize, h, hp]

theorem audits_summarize_of_error {id : MoveId} {e : StoreError}
    (h : app.service.fetch id = .error e) : audits (app.summarize o id).log = [] := by
  simp [summarize, h]

section

variable {endpoint : Endpoint} {taken : List String} {route : Route} {id : MoveId}
  {record : MoveRecord}

theorem ReachesPage.endpoint_eq {s : State} (h : app.ReachesPage call s route)
    (hroute : endpoint? app.flow call.request.path = some (endpoint, taken)) :
    endpoint = .page := by
  obtain ⟨-, -, ⟨taken', hpage⟩, -⟩ := h
  rw [hpage] at hroute
  exact (Prod.mk.inj (Option.some.inj hroute)).1.symm

theorem ReachesMove.endpoint_eq (h : app.ReachesMove call id record)
    (hroute : endpoint? app.flow call.request.path = some (endpoint, taken)) :
    endpoint = .summary ∧ decodePercent? (taken.headD "") = some id := by
  obtain ⟨-, ⟨taken', hsummary, hid⟩, -⟩ := h
  rw [hsummary] at hroute
  obtain ⟨rfl, rfl⟩ := Prod.mk.inj (Option.some.inj hroute)
  exact ⟨rfl, hid⟩

theorem due_page (hmethod : call.request.method ∈ Endpoint.page.methods)
    (hroute : endpoint? app.flow call.request.path = some (.page, taken)) :
    app.Due call (app.flow.resolveAudited call.request.path
      (callerState (app.caller call.occasion call.request).1)
      (app.pageContext call.occasion call.request)).2 := by
  have hmade := app.madeIn_caller call.occasion call.request
  cases hr : app.flow.resolve call.request.path
      (callerState (app.caller call.occasion call.request).1) with
  | none =>
    rw [Flow.resolveAudited_of_none hr]
    refine .silent ?_ fun id record h => nomatch (h.endpoint_eq hroute).1
    rintro s r ⟨hs, -, -, params, hsome⟩
    rw [hs.eq hmade, hr] at hsome
    cases hsome
  | some found =>
    rw [Flow.resolveAudited_of_some hr]
    exact .page ⟨hmade, hmethod, ⟨taken, hroute⟩, found.2, hr⟩ (Flow.tellsRoute_resolveEvent ..)

theorem due_summary (hmethod : call.request.method ∈ Endpoint.summary.methods)
    (hroute : endpoint? app.flow call.request.path = some (.summary, taken)) :
    app.Due call (audits (app.withId taken (app.summarize call.occasion)).log) := by
  have hpage : ∀ s r, ¬ app.ReachesPage call s r := fun s r h => nomatch h.endpoint_eq hroute
  unfold withId
  cases hid : decodePercent? (taken.headD "") with
  | none =>
    refine .silent hpage fun id record h => ?_
    rw [(h.endpoint_eq hroute).2] at hid
    cases hid
  | some id =>
    dsimp only
    cases hfetch : app.service.fetch id with
    | error e =>
      rw [audits_summarize_of_error hfetch]
      refine .silent hpage fun id' record h => ?_
      obtain rfl := Option.some.inj (hid.symm.trans (h.endpoint_eq hroute).2)
      obtain ⟨-, -, hstored⟩ := h
      cases hfetch.symm.trans (MoveService.fetch_eq_ok_iff.mpr hstored)
    | ok record =>
      rw [audits_summarize_of_ok hfetch]
      have hstored := MoveService.fetch_eq_ok_iff.mp hfetch
      exact .summary ⟨hmethod, ⟨taken, hroute, hid⟩, hstored⟩ (Summary.tellsPlan_planEvent ..)

theorem due_of_other (hroute : endpoint? app.flow call.request.path = some (endpoint, taken))
    (hpage : endpoint ≠ .page) (hsummary : endpoint ≠ .summary) : app.Due call [] :=
  .silent (fun _ _ h => hpage (h.endpoint_eq hroute))
    fun _ _ h => hsummary (h.endpoint_eq hroute).1

end

/-- A turn leaves the events that are due for its request. -/
theorem due_turn (app : App) (call : Call) : app.Due call (audits (app.turn call).log) := by
  rcases app.log_turn call with ⟨hno, hlog⟩ | ⟨endpoint, taken, hroute, hmethod, hlog⟩
  · rw [hlog]
    refine .silent ?_ ?_
    · rintro s r ⟨-, hmethod, ⟨taken, hroute⟩, -⟩
      exact hno _ _ hroute hmethod
    · rintro id record ⟨hmethod, ⟨taken, hroute, -⟩, -⟩
      exact hno _ _ hroute hmethod
  · rw [hlog]
    cases endpoint with
    | page =>
      simp only [answer]
      split
      · rw [audits_submitPage]
        exact due_page hmethod hroute
      · rw [audits_showPage]
        exact due_page hmethod hroute
    | summary => exact due_summary hmethod hroute
    | sessions =>
      rw [answer, audits_startSession]
      exact due_of_other hroute (by decide) (by decide)
    | session =>
      rw [audits_session]
      exact due_of_other hroute (by decide) (by decide)
    | listing =>
      rw [answer, audits_listPages]
      exact due_of_other hroute (by decide) (by decide)
    | health => exact due_of_other hroute (by decide) (by decide)

theorem exists_trail (app : App) (prior : List LogEvent) (calls : List Call) :
    ∃ es, Trail app calls es ∧ audits (app.logAfter prior calls) = audits prior ++ es := by
  induction calls generalizing app prior with
  | nil => exact ⟨[], .nil app, (List.append_nil _).symm⟩
  | cons call calls ih =>
    obtain ⟨es, htrail, hlog⟩ := ih (app.turn call).app (prior ++ (app.turn call).log)
    refine ⟨_, .cons (due_turn app call) htrail, ?_⟩
    rw [logAfter, hlog, audits_append, List.append_assoc]

end App

end Web

/-- Auditing changes no result and misses nothing. Resolving a path and planning a summary return
what they return without an audit, and what they log comes behind the log there is; a run of
requests logs the events that are due. -/
theorem audit_observes :
    (∀ flow path s c prior, Wizard.Flow.AuditsRoute flow path s c prior) ∧
      (∀ record today c prior, Summary.AuditsPlan record today c prior) ∧
      ∀ (app : Web.App) (prior : List Web.LogEvent) (calls : List Web.Call),
        ∃ es, Web.App.Trail app calls es ∧
          Web.audits (app.logAfter prior calls) = Web.audits prior ++ es :=
  ⟨Wizard.Flow.auditsRoute, Summary.auditsPlan, Web.App.exists_trail⟩

end Relocation
