import Relocation.Proofs.PageTurns
import Relocation.Proofs.StandardPages

/-! Submitting a page of the standard flow in a session. The only submit that creates a move is
that of the orders page, and once the move is there nothing keeps it from going on. -/

namespace Relocation.Web

open Http Wizard

def Turn.member? (turn : Turn) (name : String) : Option Json :=
  match turn.response.content with
  | .json answer => answer.member? name
  | _ => none

theorem submitAction_stop_eq_createMove_iff {page : Page} {s : State} {ordersId : OrdersId}
    (hp : page ∈ standardPages) :
    (standardFlow.stop page s).submitAction = .ok (.createMove ordersId) ↔
      page.key = .ordersTransition ∧ s.hasMove = false ∧ s.ordersId = some ordersId := by
  rw [← onSubmit_of_mem_standardPages hp]
  unfold Stop.submitAction Flow.stop
  cases page.onSubmit <;> cases s.hasMove <;> cases s.ordersId <;> simp

theorem submitAction_stop_eq_advance {page : Page} {s : State} (hp : page ∈ standardPages)
    (h : page.key = .ordersTransition → s.hasMove = true) :
    (standardFlow.stop page s).submitAction = .ok .advance := by
  rw [← onSubmit_of_mem_standardPages hp] at h
  unfold Stop.submitAction Flow.stop
  cases hc : page.onSubmit with
  | advance => rfl
  | createMoveIfMissing => simp [h hc]

/-- The wizard starts with the page that makes a service member. -/
theorem inFlowPages_standardFlow_create (s : State) :
    ∃ create rest, create.path = memberPath "create" ∧
      standardFlow.inFlowPages s = create :: rest := by
  obtain ⟨create, rest, hpages, hpath, hc⟩ : ∃ create rest, standardFlow.pages = create :: rest ∧
      create.path = memberPath "create" ∧ create.condition = .always :=
    ⟨_, standardPages.drop 1, rfl, rfl, rfl⟩
  have hin : create.isInFlow s = true := by simp [Page.isInFlow, hc, Condition.holds]
  exact ⟨create, rest.filter (·.isInFlow s), hpath, by simp [Flow.inFlowPages, hpages, hin]⟩

theorem inFlowPages_standardFlow_split (s : State) :
    ∃ before orders type rest,
      standardFlow.inFlowPages s = before ++ orders :: type :: rest ∧
        orders.key = .ordersTransition ∧ type.key = .moveType := by
  obtain ⟨before, orders, type, rest, he, ho, ht, hk, hk'⟩ :
      ∃ before orders type rest, standardPages = before ++ orders :: type :: rest ∧
        orders.condition = .always ∧ type.condition = .always ∧
        orders.key = .ordersTransition ∧ type.key = .moveType :=
    ⟨standardPages.take 10, _, _, standardPages.drop 12, rfl, rfl, rfl, rfl, rfl⟩
  refine ⟨before.filter (·.isInFlow s), orders, type, rest.filter (·.isInFlow s), ?_, hk, hk'⟩
  have ho' : orders.isInFlow s = true := by simp [Page.isInFlow, ho, Condition.holds]
  have ht' : type.isInFlow s = true := by simp [Page.isInFlow, ht, Condition.holds]
  have hf : standardFlow.pages = before ++ orders :: type :: rest := he
  simp [Flow.inFlowPages, hf, ho', ht']

theorem nextPath_orders {s : State} {moveId : MoveId} {page : Page} {params : Dictionary String}
    (hp : page ∈ standardPages) (hk : page.key = .ordersTransition) (hs : s.moveId = some moveId)
    (hm : moveId ≠ "") (hparams : ∀ name, params.get? name = none) :
    ∃ next, (standardFlow.stop page s).nextPath params = .ok (some next) := by
  obtain ⟨before, orders, type, rest, he, ho, ht⟩ := inFlowPages_standardFlow_split s
  have hmem : ∀ p ∈ before ++ orders :: type :: rest, p ∈ standardPages := fun p h =>
    (Flow.inFlowPages_sublist _ _).mem (he ▸ h)
  obtain rfl : page = orders := by
    have hpage := find?_key_of_nodup standardFlow.keys_nodup hp
    have horders := find?_key_of_nodup standardFlow.keys_nodup (hmem orders (by simp))
    rw [hk, ← ho, horders] at hpage
    exact (Option.some.inj hpage).symm
  have hnames := parameterNames_moveType (hmem type (by simp)) ht
  have hknown : ∀ name ∈ type.path.parameterNames,
      ∃ value, (s.pathParams.merge params).get? name = some value ∧ value ≠ "" := by
    intro name hn
    rw [hnames, List.mem_singleton] at hn
    exact ⟨moveId, by simp [hn, hparams, State.get?_pathParams, hs], hm⟩
  obtain ⟨path, hfill⟩ := Pattern.exists_fill_of_known hknown
  exact ⟨_, by rw [Flow.nextPath_stop he, List.head?_cons, Option.elim_some, hfill]; rfl⟩

/-- Creating the move for a session at hand: the store gets a draft, the session learns of it, and
the page goes on as it is then. -/
theorem App.submitOrders_eq_goOn (app : App) {o : Occasion} {id : SessionId} {s : State}
    {page : Page} {moves : MoveStore} {params : Dictionary String}
    (hservice : app.service = .store moves) (hsession : app.sessions.entries.contains id = true)
    (hp : page ∈ app.flow.inFlowPages (s.withMove o.moveId)) (ordersId : OrdersId)
    (log : List LogEvent) :
    app.submitOrders o (some (id, s)) page.key params ordersId log =
      let app' := { app with
        service := .store (moves.create o.moveId o.locator ordersId).2
        sessions := app.sessions.write o.now id (s.withMove o.moveId) }
      app'.goOn o (app.flow.stop page (s.withMove o.moveId)) params (.createMove ordersId)
        (some o.moveId) (log ++ [.moveCreated o.correlationId o.moveId ordersId]) := by
  have hroute := Flow.route?_of_mem (s := s.withMove o.moveId) (Flow.mem_inFlowPages.mp hp).1
  have hstop := Flow.stop?_routeOf hp
  simp [submitOrders, hservice, MoveService.create, MoveStore.create, MoveRecord.draft, callerState,
    keep, Sessions.replace, hsession, hroute, hstop]

theorem App.submitOrders_eq (app : App) {o : Occasion} {id : SessionId} {s : State} {page : Page}
    {moves : MoveStore} {params : Dictionary String} {next : Option String}
    (hservice : app.service = .store moves) (hsession : app.sessions.entries.contains id = true)
    (hp : page ∈ app.flow.inFlowPages (s.withMove o.moveId))
    (hnext : (app.flow.stop page (s.withMove o.moveId)).nextPath params = .ok next)
    (ordersId : OrdersId) (log : List LogEvent) :
    app.submitOrders o (some (id, s)) page.key params ordersId log =
      { app := { app with
          service := .store (moves.create o.moveId o.locator ordersId).2
          sessions := app.sessions.write o.now id (s.withMove o.moveId) }
        response := ⟨200, .json (submitJson page.key (.createMove ordersId) next (some o.moveId))⟩
        log := log ++ [.moveCreated o.correlationId o.moveId ordersId] } := by
  rw [app.submitOrders_eq_goOn hservice hsession hp, goOn_of_ok hnext]
  rfl

namespace App

variable {app : App} {o : Occasion} {r : Request} {id : SessionId} {s : State}

@[simp] theorem app_reply (app : App) (status : Nat) (content : Content) (log : List LogEvent) :
    (app.reply status content log).app = app := rfl

@[simp] theorem app_reject (app : App) (o : Occasion) (refusal : Refusal) (log : List LogEvent) :
    (app.reject o refusal log).app = app := rfl

@[simp] theorem app_goOn (app : App) (o : Occasion) (stop : Stop) (params : Dictionary String)
    (action : SubmitAction) (created : Option MoveId) (log : List LogEvent) :
    (app.goOn o stop params action created log).app = app := by
  unfold goOn
  split <;> rfl

theorem member?_next_path_submitJson (key : PageKey) (action : SubmitAction)
    (next? : Option String) (created : Option MoveId) :
    (submitJson key action next? created).member? "next_path" = some (.ofOption next?) := by
  cases action <;> rfl

/-- Submitting a page leaves the application as the look-up of the session left it, unless the page
is in flow and creates a move. -/
theorem submitPage_cases {found : Option (SessionId × State)} {visited : App}
    (hc : app.caller o r = (found, visited)) :
    (app.submitPage o r).app = visited ∨ ∃ page params ordersId log,
      visited.flow.pageAt? r.path = some (page, params) ∧
        page ∈ visited.flow.inFlowPages (callerState found) ∧
        (visited.flow.stop page (callerState found)).submitAction = .ok (.createMove ordersId) ∧
        app.submitPage o r = visited.submitOrders o found page.key params ordersId log := by
  cases hr : visited.flow.pageAt? r.path with
  | none =>
    obtain ⟨log, he⟩ := submitPage_of_none hc hr
    exact .inl (by rw [he, app_reject])
  | some pair =>
    obtain ⟨page, params⟩ := pair
    cases hin : page.isInFlow (callerState found) with
    | false =>
      obtain ⟨log, he⟩ := submitPage_of_outOfFlow hc hr hin
      exact .inl (by rw [he, app_reject])
    | true =>
      have hp : page ∈ visited.flow.inFlowPages (callerState found) :=
        Flow.mem_inFlowPages.mpr ⟨(Flow.pageAt?_eq_some hr).1, hin⟩
      obtain ⟨log, he⟩ := submitPage_of_inFlow hc hr hp
      cases ha : (visited.flow.stop page (callerState found)).submitAction with
      | error v => exact .inl (by simp only [he, ha, app_reject])
      | ok action =>
        cases action with
        | advance => exact .inl (by simp only [he, ha, app_goOn])
        | createMove ordersId =>
          exact .inr ⟨page, params, ordersId, log, rfl, hp, ha, by simp only [he, ha]⟩

/-- Submitting a page in flow, in a live session: the session is touched, and the action of the
page decides. -/
theorem submitPage_of_live {page : Page} {params : Dictionary String}
    (hn : app.namedSession? r = some id) (hl : app.sessions.LiveAt o.now id s)
    (hr : app.flow.pageAt? r.path = some (page, params)) (hp : page ∈ app.flow.inFlowPages s) :
    ∃ log, app.submitPage o r =
      let touched := { app with sessions := app.sessions.write o.now id s }
      match (app.flow.stop page s).submitAction with
      | .error v => touched.reject o (.failure (.violation v)) log
      | .ok .advance => touched.goOn o (app.flow.stop page s) params .advance none log
      | .ok (.createMove ordersId) =>
        touched.submitOrders o (some (id, s)) page.key params ordersId log :=
  submitPage_of_inFlow (caller_of_live hn hl) hr hp

end App

end Relocation.Web
