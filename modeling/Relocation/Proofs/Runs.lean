import Relocation.Proofs.Outcomes
import Relocation.Proofs.RequestEffect
import Relocation.Web.Start

/-! Requests that are answered one after another. The application stays on the standard flow, and
every move that is stored was there before or was created by one of the requests. -/

namespace Relocation.Web

open Http Wizard

def Occasion.zero (sessionId : SessionId) (moveId : MoveId) : Occasion where
  now := 0
  today := ⟨2020, 1, 1, by decide, by decide, by decide⟩
  time := "2020-01-01T00:00:00Z"
  correlationId := "c"
  sessionId := sessionId
  moveId := moveId
  locator := "L"

structure Call where
  occasion : Occasion
  request : Request

def Call.submit (path : String) (sessionId : SessionId) (moveId : MoveId) : Call where
  occasion := .zero "" moveId
  request :=
    { method := "POST", target := ⟨path, ""⟩, headers := [("x-wizard-session", sessionId)] }

namespace App

/-- The application without moves, and with one session. -/
def withSession (id : SessionId) (s : State) : App :=
  let app := assemble {} standardFlow (.store (.ofRecords []))
  { app with sessions := app.sessions.write 0 id s }

def turn (app : App) (call : Call) : Turn := app.step call.occasion call.request

def run (app : App) (calls : List Call) : App :=
  calls.foldl (fun app call => (app.turn call).app) app

def move? (app : App) (id : MoveId) : Option MoveRecord := app.service.moves.moves.get? id

variable {app : App} {call : Call} {calls : List Call}

theorem run_cons (app : App) (call : Call) (calls : List Call) :
    app.run (call :: calls) = (app.turn call).app.run calls := rfl

theorem run_append (app : App) (calls calls' : List Call) :
    app.run (calls ++ calls') = (app.run calls).run calls' :=
  List.foldl_append

theorem turn_eq_submitPage (call : Call) {taken : List String}
    (hmethod : call.request.method = "POST")
    (hroute : endpoint? app.flow call.request.path = some (.page, taken)) :
    app.turn call = app.submitPage call.occasion call.request := by
  simp [turn, step, hroute, hmethod, Endpoint.methods, answer]

theorem turn_eq_showPage (call : Call) {taken : List String} (hmethod : call.request.method = "GET")
    (hroute : endpoint? app.flow call.request.path = some (.page, taken)) :
    app.turn call = app.showPage call.occasion call.request := by
  simp [turn, step, hroute, hmethod, Endpoint.methods, answer]

theorem isStandard_of_start {files : Files} {env : Environment} {request : Settings.Request}
    {log : List LogEvent} (h : start files env request = .ok (app, log)) : app.IsStandard := by
  obtain ⟨settings, -, h⟩ := except_bind_eq_ok_iff.mp h
  obtain ⟨moves, -, h⟩ := except_bind_eq_ok_iff.mp h
  obtain ⟨rfl, -⟩ := Prod.mk.inj (Except.ok.inj h)
  exact ⟨rfl, moves, rfl⟩

theorem isStandard_turn (hstd : app.IsStandard) (hid : call.occasion.moveId ≠ "") :
    (app.turn call).app.IsStandard := by
  have heffect : Effect app call.occasion call.request (app.turn call) := step_effect hstd hid
  rcases heffect.sessions_or_created with ⟨sessions, happ⟩ | ⟨id, s, ordersId, h⟩
  · rw [happ]
    exact hstd
  · exact ⟨h.flow.trans hstd.1, _, h.stored⟩

theorem isStandard_run (hstd : app.IsStandard)
    (hids : ∀ call ∈ calls, call.occasion.moveId ≠ "") : (app.run calls).IsStandard := by
  induction calls generalizing app with
  | nil => exact hstd
  | cons call calls ih =>
    have hturn := isStandard_turn hstd (hids call List.mem_cons_self)
    exact ih hturn fun c hc => hids c (List.mem_cons_of_mem _ hc)

theorem move?_turn (hstd : app.IsStandard) (hid : call.occasion.moveId ≠ "") {id : MoveId}
    (hne : id ≠ call.occasion.moveId) : (app.turn call).app.move? id = app.move? id := by
  have heffect : Effect app call.occasion call.request (app.turn call) := step_effect hstd hid
  rcases heffect.sessions_or_created with ⟨sessions, happ⟩ | ⟨_, s, ordersId, h⟩
  · rw [happ]
    rfl
  · rw [move?, h.stored]
    simp [MoveService.moves, move?, hne]

theorem move?_run (hstd : app.IsStandard) (hids : ∀ call ∈ calls, call.occasion.moveId ≠ "")
    {id : MoveId} (hne : ∀ call ∈ calls, id ≠ call.occasion.moveId) :
    (app.run calls).move? id = app.move? id := by
  induction calls generalizing app with
  | nil => rfl
  | cons call calls ih =>
    have hcall := hids call List.mem_cons_self
    rw [run_cons, ih (isStandard_turn hstd hcall) (fun c hc => hids c (List.mem_cons_of_mem _ hc))
      fun c hc => hne c (List.mem_cons_of_mem _ hc)]
    exact move?_turn hstd hcall (hne call List.mem_cons_self)

end App

end Relocation.Web
