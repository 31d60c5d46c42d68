import Relocation.Proofs.OrdersSubmit
import Relocation.Web.Router

/-! What a request does to the application. Apart from touching and dropping sessions there are
three effects: a client writes a session, ends one, or submits the orders page and gets a move. -/

namespace Relocation.Web

open Http Wizard

/-- The application on the standard flow, with its moves at hand. -/
def App.IsStandard (app : App) : Prop :=
  app.flow = standardFlow ∧ ∃ moves, app.service = .store moves

/-- A client writes the state of a session: the request starts the session or replaces its state,
and the answer says that it did. -/
inductive ClientWrite (flow : Flow) (o : Occasion) (r : Request) (status : Nat) : SessionId → Prop
  | started {taken : List String} (hroute : endpoint? flow r.path = some (.sessions, taken))
      (hmethod : r.method = "POST") (hstatus : status = 201) :
      ClientWrite flow o r status o.sessionId
  | replaced {taken : List String} {id : SessionId}
      (hroute : endpoint? flow r.path = some (.session, taken)) (hmethod : r.method = "PUT")
      (hid : decodePercent? (taken.headD "") = some id) (hstatus : status = 200) :
      ClientWrite flow o r status id

/-- The request submits the orders page in a live session that has orders but no move. One draft
for the orders is stored, the answer names it, and of the session only the move changes. -/
structure CreatesMove (app : App) (o : Occasion) (r : Request) (turn : Turn) (id : SessionId)
    (s : State) (ordersId : OrdersId) : Prop where
  method : r.method = "POST"
  page : ∃ page params, app.flow.pageAt? r.path = some (page, params) ∧
    page.key = .ordersTransition
  session : app.namedSession? r = some id
  live : app.sessions.LiveAt o.now id s
  noMove : s.hasMove = false
  orders : s.ordersId = some ordersId
  stored : turn.app.service = .store ⟨app.service.moves.moves.insert o.moveId
    ⟨o.moveId, ordersId, some o.locator, "DRAFT", none, none, []⟩⟩
  status : turn.response.status = 200
  moveId : turn.member? "move_id" = some (.string o.moveId)
  states : ∀ k, turn.app.sessions.state? k =
    if k = id then some ⟨s.serviceMemberId, s.moveType, true, some o.moveId, s.ordersId⟩
    else app.sessions.state? k
  flow : turn.app.flow = app.flow

/-- What a turn does to the sessions and the moves. -/
inductive Effect (app : App) (o : Occasion) (r : Request) (turn : Turn) : Prop
  | kept (sessions : Sessions) (happ : turn.app = { app with sessions })
      (hkeeps : app.sessions.Keeps o.now sessions)
  | written (sessions : Sessions) (id : SessionId) (happ : turn.app = { app with sessions })
      (hwrite : ClientWrite app.flow o r turn.response.status id)
      (hkeeps : ∀ k, k ≠ id → app.sessions.KeepsAt o.now sessions k)
  | ended (sessions : Sessions) (id : SessionId) (happ : turn.app = { app with sessions })
      (hstatus : turn.response.status = 204) (hnone : sessions.state? id = none)
      (hkeeps : ∀ k, k ≠ id → app.sessions.KeepsAt o.now sessions k)
  | created (id : SessionId) (s : State) (ordersId : OrdersId)
      (h : CreatesMove app o r turn id s ordersId)

theorem Effect.sessions_or_created {app : App} {o : Occasion} {r : Request} {turn : Turn}
    (h : Effect app o r turn) :
    (∃ sessions, turn.app = { app with sessions }) ∨
      ∃ id s ordersId, CreatesMove app o r turn id s ordersId := by
  cases h with
  | kept sessions happ _ => exact .inl ⟨sessions, happ⟩
  | written sessions _ happ _ _ => exact .inl ⟨sessions, happ⟩
  | ended sessions _ happ _ _ _ => exact .inl ⟨sessions, happ⟩
  | created id s ordersId h => exact .inr ⟨id, s, ordersId, h⟩

/-- What holds of the state under an id holds there after a turn, unless the client wrote the
session in it; a session that gets its move has to be looked at apart. -/
theorem Effect.forall_state {app : App} {o : Occasion} {r : Request} {turn : Turn} {id : SessionId}
    {P : State → Prop} (h : Effect app o r turn)
    (hw : ¬ ClientWrite app.flow o r turn.response.status id)
    (hp : ∀ s, app.sessions.state? id = some s → P s)
    (hc : ∀ s ordersId, CreatesMove app o r turn id s ordersId →
      P ⟨s.serviceMemberId, s.moveType, true, some o.moveId, s.ordersId⟩) :
    ∀ s, turn.app.sessions.state? id = some s → P s := by
  intro s hs
  cases h with
  | kept sessions happ hkeeps =>
    rw [happ] at hs
    exact hp s ((hkeeps id).of_eq_some hs)
  | written sessions k happ hwrite hkeeps =>
    have hk : id ≠ k := fun he => hw (he ▸ hwrite)
    rw [happ] at hs
    exact hp s ((hkeeps id hk).of_eq_some hs)
  | ended sessions k happ _ hnone hkeeps =>
    rw [happ] at hs
    by_cases hk : id = k
    · subst hk
      have hno : sessions.state? id = some s := hs
      rw [hnone] at hno
      cases hno
    · exact hp s ((hkeeps id hk).of_eq_some hs)
  | created k s' ordersId hcreates =>
    have hstate := hcreates.states id
    rw [hs] at hstate
    by_cases hk : id = k
    · subst hk
      rw [if_pos rfl] at hstate
      exact Option.some.inj hstate ▸ hc s' ordersId hcreates
    · rw [if_neg hk] at hstate
      exact hp s hstate.symm

namespace App

variable {app : App} {o : Occasion} {r : Request}

theorem effect_of_app_eq {turn : Turn} (h : turn.app = app) : Effect app o r turn :=
  .kept app.sessions h (Sessions.Keeps.refl _ _)

theorem visit_effect (app : App) (o : Occasion) (id : SessionId) :
    ∃ sessions, (app.visit o id).2 = { app with sessions } ∧ app.sessions.Keeps o.now sessions :=
  ⟨_, rfl, Sessions.keeps_get _ _ _⟩

theorem startSession_effect {taken : List String}
    (hroute : endpoint? app.flow r.path = some (.sessions, taken)) (hmethod : r.method = "POST") :
    Effect app o r (app.startSession o r) := by
  unfold startSession
  cases stateBody r with
  | error status => exact effect_of_app_eq rfl
  | ok s =>
    rcases app.sessions.create_cases o.now o.sessionId s with hc | hc
    · simp only [hc]
      refine .written _ o.sessionId rfl (.started hroute hmethod rfl) fun k hk => ?_
      rw [Sessions.KeepsAt, Sessions.state?_write, if_neg hk]
      exact app.sessions.keeps_prune o.now k
    · simp only [hc]
      exact .kept _ rfl (app.sessions.keeps_prune o.now)

theorem app_showSession (app : App) (o : Occasion) (id : SessionId) :
    (app.showSession o id).app = (app.visit o id).2 := by
  unfold showSession
  split <;> next h => rw [h]; rfl

theorem showSession_effect (id : SessionId) : Effect app o r (app.showSession o id) := by
  obtain ⟨sessions, ha, hk⟩ := visit_effect app o id
  exact .kept sessions ((app_showSession app o id).trans ha) hk

theorem replaceSession_effect {taken : List String} {id : SessionId}
    (hroute : endpoint? app.flow r.path = some (.session, taken)) (hmethod : r.method = "PUT")
    (hid : decodePercent? (taken.headD "") = some id) :
    Effect app o r (app.replaceSession o r id) := by
  unfold replaceSession
  cases stateBody r with
  | error status => exact effect_of_app_eq rfl
  | ok s =>
    rcases app.sessions.replace_cases o.now id s with hc | hc
    · simp only [hc]
      exact .written _ id rfl (.replaced hroute hmethod hid rfl) fun k hk =>
        Sessions.keepsAt_write hk
    · simp only [hc]
      exact effect_of_app_eq rfl

theorem endSession_effect (id : SessionId) : Effect app o r (app.endSession o id) := by
  unfold endSession
  rcases app.sessions.remove_cases id with hc | hc
  · simp only [hc]
    refine .ended _ id rfl rfl ?_ fun k hk => .inl ?_
    · simp [Sessions.state?]
    · simp [Sessions.state?, hk]
  · simp only [hc]
    exact effect_of_app_eq rfl

theorem app_listPages (app : App) (o : Occasion) (r : Request) :
    (app.listPages o r).app = app ∨ (app.listPages o r).app = (app.caller o r).2 := by
  unfold listPages
  split
  · exact .inl rfl
  · exact .inr rfl

theorem listPages_effect : Effect app o r (app.listPages o r) := by
  rcases app_listPages app o r with happ | happ
  · exact effect_of_app_eq happ
  · obtain ⟨sessions, ha, hk⟩ := caller_effect app o r
    exact .kept sessions (happ.trans ha) hk

theorem app_summarize (app : App) (o : Occasion) (id : MoveId) :
    (app.summarize o id).app = app := by
  unfold summarize
  split
  · rfl
  · dsimp only
    split <;> rfl

theorem app_showPage (app : App) (o : Occasion) (r : Request) :
    (app.showPage o r).app = (app.caller o r).2 := by
  unfold showPage
  dsimp only
  split
  · rfl
  · split <;> rfl

theorem showPage_effect : Effect app o r (app.showPage o r) := by
  obtain ⟨sessions, ha, hk⟩ := caller_effect app o r
  exact .kept sessions ((app_showPage app o r).trans ha) hk

theorem createsMove_submitPage {id : SessionId} {s : State} {ordersId : OrdersId} {page : Page}
    {params : Dictionary String} (hstd : app.IsStandard) (hmethod : r.method = "POST")
    (ho : o.moveId ≠ "") (hn : app.namedSession? r = some id)
    (hl : app.sessions.LiveAt o.now id s) (hp : app.flow.pageAt? r.path = some (page, params))
    (hin : page ∈ app.flow.inFlowPages s) (hkey : page.key = .ordersTransition)
    (hno : s.hasMove = false) (horders : s.ordersId = some ordersId) :
    CreatesMove app o r (app.submitPage o r) id s ordersId := by
  obtain ⟨hflow, moves, hservice⟩ := hstd
  obtain ⟨log, he⟩ := submitPage_of_live hn hl hp hin
  have hp' := hp
  rw [hflow] at hp' hin
  obtain ⟨hmem, hmatch⟩ := Flow.pageAt?_eq_some hp'
  have ha := (submitAction_stop_eq_createMove_iff hmem).mpr ⟨hkey, hno, horders⟩
  have hparams := Pattern.get?_of_match?_of_no_parameter
    (parameterNames_ordersTransition hmem hkey) hmatch
  obtain ⟨next, hnext⟩ := nextPath_orders (s := s.withMove o.moveId) hmem hkey rfl ho hparams
  rw [← hflow] at ha hnext hin
  have hturn := submitOrders_eq { app with sessions := app.sessions.write o.now id s } hservice
    (Sessions.contains_write ..) (by simpa using hin) hnext ordersId log
  simp only [ha, hturn] at he
  rw [he]
  refine ⟨hmethod, ⟨page, params, hp, hkey⟩, hn, hl, hno, horders, ?_, rfl, rfl, ?_, rfl⟩
  · simp only [hservice, MoveService.moves]
    rfl
  · intro k
    simp only [Sessions.state?_write]
    split <;> rfl

theorem submitPage_effect (hstd : app.IsStandard) (hmethod : r.method = "POST")
    (ho : o.moveId ≠ "") : Effect app o r (app.submitPage o r) := by
  have hflow := hstd.1
  rcases caller_cases app o r with ⟨id, s, hn, hl⟩ | ⟨sessions, hc, hk⟩
  · rcases submitPage_cases (caller_of_live hn hl) with
      happ | ⟨page, params, ordersId, log, hp, hin, ha, -⟩
    · exact .kept _ happ (Sessions.keeps_write_of_live hl)
    · simp only [callerState, Option.elim_some, hflow] at hp hin ha
      obtain ⟨hkey, hno, horders⟩ :=
        (submitAction_stop_eq_createMove_iff (Flow.pageAt?_eq_some hp).1).mp ha
      rw [← hflow] at hp hin
      exact .created id s ordersId
        (createsMove_submitPage hstd hmethod ho hn hl hp hin hkey hno horders)
  · rcases submitPage_cases hc with happ | ⟨page, params, ordersId, log, hp, hin, ha, he⟩
    · exact .kept _ happ hk
    · simp only [callerState, Option.elim_none, hflow] at hp hin ha
      have hmem := (Flow.pageAt?_eq_some hp).1
      cases ((submitAction_stop_eq_createMove_iff hmem).mp ha).2.2

theorem withId_effect {taken : List String} {act : String → Turn}
    (h : ∀ id, decodePercent? (taken.headD "") = some id → Effect app o r (act id)) :
    Effect app o r (app.withId taken act) := by
  unfold withId
  cases hid : decodePercent? (taken.headD "") with
  | none => exact effect_of_app_eq rfl
  | some id => exact h id hid

theorem answer_effect {endpoint : Endpoint} {taken : List String} (hstd : app.IsStandard)
    (ho : o.moveId ≠ "") (hroute : endpoint? app.flow r.path = some (endpoint, taken))
    (hmethod : r.method ∈ endpoint.methods) :
    Effect app o r (app.answer o r endpoint taken) := by
  cases endpoint with
  | sessions => exact startSession_effect hroute (by simpa [Endpoint.methods] using hmethod)
  | session =>
    refine withId_effect fun id hid => ?_
    by_cases hput : r.method = "PUT"
    · rw [if_pos hput]
      exact replaceSession_effect hroute hput hid
    · rw [if_neg hput]
      by_cases hdelete : r.method = "DELETE"
      · rw [if_pos hdelete]
        exact endSession_effect id
      · rw [if_neg hdelete]
        exact showSession_effect id
  | listing => exact listPages_effect
  | summary => exact withId_effect fun id _ => effect_of_app_eq (app_summarize app o id)
  | health => exact effect_of_app_eq rfl
  | page =>
    by_cases hpost : r.method = "POST"
    · simp only [answer, if_pos hpost]
      exact submitPage_effect hstd hpost ho
    · simp only [answer, if_neg hpost]
      exact showPage_effect

/-- Every request has one of the four effects, whatever it asks for. -/
theorem step_effect (hstd : app.IsStandard) (ho : o.moveId ≠ "") :
    Effect app o r (app.step o r) := by
  unfold step
  cases hroute : endpoint? app.flow r.path with
  | none => exact effect_of_app_eq rfl
  | some found =>
    obtain ⟨endpoint, taken⟩ := found
    dsimp only
    split
    · next hmethod =>
      have heffect := answer_effect hstd ho hroute hmethod
      split
      · next hhead =>
        cases heffect with
        | kept sessions happ hkeeps => exact .kept sessions happ hkeeps
        | written sessions id happ hwrite hkeeps => exact .written sessions id happ hwrite hkeeps
        | ended sessions id happ hstatus hnone hkeeps =>
          exact .ended sessions id happ hstatus hnone hkeeps
        | created id s ordersId h =>
          have hpost : "HEAD" = "POST" := hhead.symm.trans h.method
          simp at hpost
      · exact heffect
    · exact effect_of_app_eq rfl

end App

end Relocation.Web
