import Relocation.Proofs.MoveCreation

/-! A move that a session knows. Requests on the pages leave a session alone that is marked as
having its move, or that has no orders; whether it names a move does not count. -/

namespace Relocation.Web

open Http Wizard

def Call.IsOnPage (call : Call) : Prop :=
  ∃ taken, endpoint? standardFlow call.request.path = some (.page, taken)

def Call.start (body : String) (sessionId : SessionId) : Call where
  occasion := .zero sessionId ""
  request :=
    { method := "POST", target := ⟨"/api/v1/sessions", ""⟩, body
      headers := [("content-type", "application/json")] }

/-- A session in this state is marked as having its move, or has no orders to create one for. -/
def NeedsNoMove (s : State) : Prop := s.hasMove = true ∨ s.ordersId = none

namespace App

variable {app : App} {call : Call} {calls : List Call} {id : SessionId} {s : State}

theorem not_createsMove_of_needsNoMove {turn : Turn} {s' : State} {ordersId : OrdersId}
    (hs : ∀ s', app.sessions.state? id = some s' → s' = s) (hn : NeedsNoMove s) :
    ¬ CreatesMove app call.occasion call.request turn id s' ordersId := by
  intro hc
  obtain rfl := hs s' hc.live.state?
  rcases hn with hmove | horders
  · rw [hc.noMove] at hmove
    cases hmove
  · rw [hc.orders] at horders
    cases horders

theorem not_clientWrite_of_isOnPage {status : Nat} (hstd : app.IsStandard) (hpage : call.IsOnPage) :
    ¬ ClientWrite app.flow call.occasion call.request status id := by
  obtain ⟨taken, hroute⟩ := hpage
  rw [hstd.1]
  intro hw
  cases hw with
  | started hroute' _ _ =>
    rw [hroute] at hroute'
    cases hroute'
  | replaced hroute' _ _ _ =>
    rw [hroute] at hroute'
    cases hroute'

theorem state_turn_of_isOnPage (hstd : app.IsStandard) (hid : call.occasion.moveId ≠ "")
    (hpage : call.IsOnPage) (hn : NeedsNoMove s)
    (hs : ∀ s', app.sessions.state? id = some s' → s' = s) :
    ∀ s', (app.turn call).app.sessions.state? id = some s' → s' = s :=
  (step_effect hstd hid).forall_state (not_clientWrite_of_isOnPage hstd hpage) hs
    fun _ _ hc => absurd hc (not_createsMove_of_needsNoMove hs hn)

theorem state_run_of_isOnPage (hstd : app.IsStandard) (hids : ∀ c ∈ calls, c.occasion.moveId ≠ "")
    (hpages : ∀ c ∈ calls, c.IsOnPage) (hn : NeedsNoMove s)
    (hs : ∀ s', app.sessions.state? id = some s' → s' = s) :
    ∀ s', (app.run calls).sessions.state? id = some s' → s' = s := by
  induction calls generalizing app with
  | nil => exact hs
  | cons call calls ih =>
    have hid := hids call List.mem_cons_self
    have hturn := state_turn_of_isOnPage hstd hid (hpages call List.mem_cons_self) hn hs
    exact ih (isStandard_turn hstd hid) (fun c hc => hids c (List.mem_cons_of_mem _ hc))
      (fun c hc => hpages c (List.mem_cons_of_mem _ hc)) hturn

theorem service_turn_of_needsNoMove (hstd : app.IsStandard) (hid : call.occasion.moveId ≠ "")
    (hn : NeedsNoMove s) (hs : ∀ s', app.sessions.state? id = some s' → s' = s)
    (hnamed : app.namedSession? call.request = some id) :
    (app.turn call).app.service = app.service := by
  have heffect : Effect app call.occasion call.request (app.turn call) := step_effect hstd hid
  rcases heffect.sessions_or_created with ⟨sessions, happ⟩ | ⟨k, s', ordersId, hc⟩
  · rw [happ]
  · obtain rfl : k = id := Option.some.inj (hc.session.symm.trans hnamed)
    exact absurd hc (not_createsMove_of_needsNoMove hs hn)

/-- Whatever is asked for on the pages, a session that names a move keeps it, and no submit in the
session creates one, if the session is marked as having its move or has no orders. -/
theorem known_move_is_kept {moveId : MoveId} (hstd : app.IsStandard)
    (hids : ∀ c ∈ calls, c.occasion.moveId ≠ "") (hpages : ∀ c ∈ calls, c.IsOnPage)
    (hs : app.sessions.state? id = some s) (hmove : s.moveId = some moveId)
    (hn : NeedsNoMove s) :
    (∀ before call after, calls = before ++ call :: after →
      (app.run before).namedSession? call.request = some id →
      ((app.run before).turn call).app.service = (app.run before).service) ∧
    ∀ s', (app.run calls).sessions.state? id = some s' → s' = s ∧ s'.moveId = some moveId := by
  have hs₀ : ∀ s', app.sessions.state? id = some s' → s' = s := fun s' h =>
    Option.some.inj (h.symm.trans hs)
  constructor
  · rintro before call after rfl hnamed
    have hids' : ∀ c ∈ before, c.occasion.moveId ≠ "" := fun c hc => hids c (by simp [hc])
    have hbefore := state_run_of_isOnPage hstd hids' (fun c hc => hpages c (by simp [hc])) hn hs₀
    exact service_turn_of_needsNoMove (isStandard_run hstd hids') (hids call (by simp)) hn hbefore
      hnamed
  · intro s' h
    obtain rfl := state_run_of_isOnPage hstd hids hpages hn hs₀ s' h
    exact ⟨rfl, hmove⟩

theorem known_move_is_kept_on_resubmit :
    let s : State := { hasMove := true, moveId := some "m", ordersId := some "o" }
    let app := withSession "s" s
    let call := Call.submit "/orders/transition" "s" "n"
    (app.turn call).app.service = app.service ∧
      ∀ s', (app.run [call]).sessions.state? "s" = some s' → s' = s ∧ s'.moveId = some "m" := by
  intro s app call
  have hpages : ∀ c ∈ [call], c.IsOnPage := by
    intro c hc
    exact List.mem_singleton.mp hc ▸ ⟨[], endpoint?_ordersTransition⟩
  have hstate : app.sessions.state? "s" = some s := by decide
  have hnamed : app.namedSession? call.request = some "s" := by decide
  have hkept := known_move_is_kept ⟨rfl, _, rfl⟩ (by decide) hpages hstate rfl (.inl rfl)
  exact ⟨hkept.1 [] call [] rfl hnamed, hkept.2⟩

theorem turn_start {body : String} {sessionId : SessionId} (hstd : app.IsStandard)
    (hbody : stateBody (Call.start body sessionId).request = .ok s)
    (hroom : (app.sessions.prune 0).size < app.sessions.limit) :
    (app.turn (.start body sessionId)).app =
      { app with sessions := (app.sessions.prune 0).write 0 sessionId s } := by
  have hcreate : app.sessions.create 0 sessionId s =
      (.ok sessionId, (app.sessions.prune 0).write 0 sessionId s) := if_neg (Nat.not_le.mpr hroom)
  have hroute : endpoint? app.flow (Call.start body sessionId).request.path =
      some (.sessions, []) := hstd.1 ▸ endpoint?_sessions
  have hmethod : (Call.start body sessionId).request.method = "POST" := rfl
  have hnow : (Call.start body sessionId).occasion.now = 0 := rfl
  have hid : (Call.start body sessionId).occasion.sessionId = sessionId := rfl
  simp [turn, step, hroute, hmethod, hnow, hid, Endpoint.methods, answer, startSession, hbody,
    hcreate]

theorem move_of_submit {ordersId : OrdersId} (hstd : app.IsStandard)
    (hid : call.occasion.moveId ≠ "") (hmethod : call.request.method = "POST")
    (hpath : call.request.path = "/orders/transition")
    (hn : app.namedSession? call.request = some id)
    (hl : app.sessions.LiveAt call.occasion.now id s) (hno : s.hasMove = false)
    (horders : s.ordersId = some ordersId) :
    (app.turn call).app.move? call.occasion.moveId =
        some ⟨call.occasion.moveId, ordersId, some call.occasion.locator, "DRAFT", none, none,
          []⟩ ∧
      (app.turn call).app.sessions.state? id =
        some ⟨s.serviceMemberId, s.moveType, true, some call.occasion.moveId, s.ordersId⟩ := by
  obtain ⟨s', ordersId', hc⟩ := createsMoveFor_of_submit hstd hid hmethod hpath hn hl hno horders
  obtain rfl := Option.some.inj (hl.state?.symm.trans hc.live.state?)
  obtain rfl := Option.some.inj (horders.symm.trans hc.orders)
  constructor
  · rw [move?, hc.stored]
    simp [MoveService.moves]
  · rw [hc.states, if_pos rfl]

/-- A session that was started with a move and orders, but without the mark, gets another move. -/
theorem unmarked_move_is_replaced :
    let app := (assemble {} standardFlow (.store (.ofRecords []))).run
      [.start "\x7b\"move_id\":\"m\",\"current_orders_id\":\"o\"\x7d" "s"]
    let after := (app.turn (.submit "/orders/transition" "s" "n")).app
    app.sessions.state? "s" = some { moveId := some "m", ordersId := some "o" } ∧
      after.move? "n" = some ⟨"n", "o", some "L", "DRAFT", none, none, []⟩ ∧
      after.sessions.state? "s" =
        some { hasMove := true, moveId := some "n", ordersId := some "o" } := by
  intro app after
  have happ : app = withSession "s" { moveId := some "m", ordersId := some "o" } :=
    turn_start ⟨rfl, _, rfl⟩ (by decide +kernel) (by decide)
  have hlive : app.sessions.LiveAt 0 "s" { moveId := some "m", ordersId := some "o" } := by
    rw [happ]
    exact ⟨0, by decide, by decide⟩
  have hstd : app.IsStandard := by
    rw [happ]
    exact ⟨rfl, _, rfl⟩
  have hnamed : app.namedSession? (Call.submit "/orders/transition" "s" "n").request =
      some "s" := by
    rw [happ]
    decide
  have hid : (Call.submit "/orders/transition" "s" "n").occasion.moveId ≠ "" := by decide
  obtain ⟨hdraft, hstate⟩ := move_of_submit hstd hid rfl rfl hnamed hlive rfl rfl
  exact ⟨hlive.state?, hdraft, hstate⟩

end App

end Relocation.Web
