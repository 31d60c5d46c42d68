import Relocation.Proofs.PageRoutes
import Relocation.Proofs.Runs

/-! Requests that are not answered with success. They leave the moves as they are, and of the
sessions only idle ones may be dropped. -/

namespace Relocation.Web

open Http Wizard

def Turn.IsRefused (turn : Turn) : Prop :=
  ¬ (200 ≤ turn.response.status ∧ turn.response.status < 300)

theorem ClientWrite.isSuccess {flow : Flow} {o : Occasion} {r : Request} {status : Nat}
    {id : SessionId} (h : ClientWrite flow o r status id) : 200 ≤ status ∧ status < 300 := by
  cases h with
  | started _ _ hstatus => omega
  | replaced _ _ _ hstatus => omega

namespace App

/-- A client write, the end of a session and the creation of a move are all answered with
success, so a refused request at most touches or drops sessions. -/
theorem app_eq_of_refused {app : App} {call : Call} (hstd : app.IsStandard)
    (hid : call.occasion.moveId ≠ "") (hfail : (app.turn call).IsRefused) :
    ∃ sessions, (app.turn call).app = { app with sessions } ∧
      app.sessions.Keeps call.occasion.now sessions := by
  cases step_effect (r := call.request) hstd hid with
  | kept sessions happ hkeeps => exact ⟨sessions, happ, hkeeps⟩
  | written _ _ _ hwrite _ => exact absurd hwrite.isSuccess hfail
  | ended _ _ _ hstatus _ _ =>
    have hsuccess : (app.turn call).response.status = 204 := hstatus
    exact absurd (by omega) hfail
  | created _ _ _ h =>
    have hsuccess : (app.turn call).response.status = 200 := h.status
    exact absurd (by omega) hfail

/-- In a state that any requests have led to, a request that is refused changes no move and no
session, adds none, and drops at most sessions that are past the idle time. -/
theorem refused_request_changes_nothing {app : App} {calls : List Call} {call : Call}
    (hstd : app.IsStandard) (hids : ∀ c ∈ calls, c.occasion.moveId ≠ "")
    (hid : call.occasion.moveId ≠ "") (hfail : ((app.run calls).turn call).IsRefused) :
    let before := app.run calls
    let after := (before.turn call).app
    after.service = before.service ∧
      (∀ id s, before.sessions.state? id = some s →
        after.sessions.state? id = some s ∨
          (after.sessions.state? id = none ∧
            before.sessions.IdleAt call.occasion.now id)) ∧
      ∀ id, before.sessions.state? id = none → after.sessions.state? id = none := by
  intro before after
  obtain ⟨sessions, happ, hkeeps⟩ := app_eq_of_refused (isStandard_run hstd hids) hid hfail
  have hafter : after = { before with sessions } := happ
  rw [hafter]
  refine ⟨rfl, fun id s hs => ?_, fun id hn => ?_⟩
  · exact (hkeeps id).imp_left fun he => he.trans hs
  · exact (hkeeps id).elim (fun he => he.trans hn) And.left

theorem startSession_refused {app : App} (hstd : app.IsStandard) (id : SessionId)
    (moveId : MoveId) : (app.turn (.submit "/api/v1/sessions" id moveId)).IsRefused := by
  have hstatus : (app.turn (.submit "/api/v1/sessions" id moveId)).response.status = 415 := by
    simp [turn, step, Call.submit, Request.path, hstd.1, endpoint?_sessions, Endpoint.methods,
      answer, startSession, stateBody, Request.hasJson, Request.header?, reply]
  rw [Turn.IsRefused, hstatus]
  omega

theorem refused_request_changes_nothing_without_content_type :
    let before := (withSession "s" {}).run [.submit "/orders/transition" "s" "m"]
    let after := (before.turn (.submit "/api/v1/sessions" "s" "n")).app
    after.service = before.service ∧
      (∀ id s, before.sessions.state? id = some s →
        after.sessions.state? id = some s ∨
          (after.sessions.state? id = none ∧ before.sessions.IdleAt 0 id)) ∧
      ∀ id, before.sessions.state? id = none → after.sessions.state? id = none := by
  have hstd : (withSession "s" {}).IsStandard := ⟨rfl, _, rfl⟩
  have hids : ∀ c ∈ [Call.submit "/orders/transition" "s" "m"], c.occasion.moveId ≠ "" := by
    decide
  exact refused_request_changes_nothing hstd hids (by decide)
    (startSession_refused (isStandard_run hstd hids) "s" "n")

end App

end Relocation.Web
