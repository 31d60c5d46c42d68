import Relocation.Proofs.PathRouting
import Relocation.Proofs.Runs

/-! When moves are created. A session that got its move has it until the client writes the session
again, and a session that has its move gets no other. -/

namespace Relocation.Web

open Http Wizard

/-- The ids given to new moves are not empty, are all different, and name no stored move. -/
structure FreshIds (app : App) (calls : List Call) : Prop where
  nonempty : ∀ call ∈ calls, call.occasion.moveId ≠ ""
  nodup : (calls.map (·.occasion.moveId)).Nodup
  unused : ∀ call ∈ calls, app.move? call.occasion.moveId = none

namespace App

def CreatesMoveFor (app : App) (call : Call) (id : SessionId) : Prop :=
  ∃ s ordersId, CreatesMove app call.occasion call.request (app.turn call) id s ordersId

/-- If there is a session under the id, it has its move. -/
def IsSettled (app : App) (id : SessionId) : Prop :=
  ∀ s, app.sessions.state? id = some s → s.hasMove = true

variable {app : App} {call : Call} {calls : List Call} {id : SessionId}

theorem isSettled_of_createsMoveFor (h : app.CreatesMoveFor call id) :
    (app.turn call).app.IsSettled id := by
  obtain ⟨s, ordersId, hc⟩ := h
  intro s' hs
  have hstate := hc.states id
  rw [if_pos rfl, hs] at hstate
  rw [Option.some.inj hstate]

theorem not_isSettled_of_createsMoveFor (h : app.CreatesMoveFor call id) : ¬ app.IsSettled id := by
  obtain ⟨s, ordersId, hc⟩ := h
  intro hsettled
  have hmove := hsettled s hc.live.state?
  rw [hc.noMove] at hmove
  cases hmove

theorem isSettled_turn (hstd : app.IsStandard) (hid : call.occasion.moveId ≠ "")
    (h : app.IsSettled id)
    (hw : ¬ ClientWrite app.flow call.occasion call.request (app.turn call).response.status id) :
    (app.turn call).app.IsSettled id :=
  (step_effect hstd hid).forall_state hw h fun _ _ _ => rfl

/-- What was settled and is so no longer was written by its client in between. -/
theorem exists_write_of_not_isSettled (hstd : app.IsStandard)
    (hids : ∀ c ∈ calls, c.occasion.moveId ≠ "") (h : app.IsSettled id)
    (hn : ¬ (app.run calls).IsSettled id) :
    ∃ earlier call later, calls = earlier ++ call :: later ∧
      ClientWrite app.flow call.occasion call.request
        ((app.run earlier).turn call).response.status id := by
  -- The first request that unsettles the session is the write that is looked for.
  induction calls generalizing app with
  | nil => exact absurd h hn
  | cons call calls ih =>
    by_cases hw : ClientWrite app.flow call.occasion call.request
        (app.turn call).response.status id
    · exact ⟨[], call, calls, rfl, hw⟩
    · have hcall := hids call List.mem_cons_self
      have hstd' := isStandard_turn hstd hcall
      have hflow : (app.turn call).app.flow = app.flow := hstd'.1.trans hstd.1.symm
      have htail : ∀ c ∈ calls, c.occasion.moveId ≠ "" := fun c hc =>
        hids c (List.mem_cons_of_mem _ hc)
      obtain ⟨earlier, c, later, he, hc⟩ :=
        ih hstd' htail (isSettled_turn hstd hcall h hw) hn
      rw [hflow] at hc
      exact ⟨call :: earlier, c, later, by rw [he, List.cons_append], hc⟩

theorem move?_run_of_fresh {before after : List Call} (hstd : app.IsStandard)
    (hids : FreshIds app (before ++ call :: after)) :
    (app.run before).move? call.occasion.moveId = none := by
  have hne : ∀ c ∈ before, call.occasion.moveId ≠ c.occasion.moveId := by
    intro c hc
    have hn := hids.nodup
    rw [List.map_append, List.nodup_append] at hn
    exact (hn.2.2 _ (List.mem_map_of_mem hc) _ (by simp)).symm
  rw [move?_run hstd (fun c hc => hids.nonempty c (List.mem_append_left _ hc)) hne]
  exact hids.unused call (by simp)

/-- A request leaves the moves as they are, or it submits the orders page in a live session with
orders but no move; then the store gets one draft for these orders, under a new id, and the session
learns of it. -/
theorem moves_turn (hstd : app.IsStandard) (hid : call.occasion.moveId ≠ "")
    (hnew : app.move? call.occasion.moveId = none) :
    (app.turn call).app.service = app.service ∨ ∃ id s ordersId,
      CreatesMove app call.occasion call.request (app.turn call) id s ordersId ∧
      (app.turn call).app.service.moves.size = app.service.moves.size + 1 ∧
      (app.turn call).app.move? call.occasion.moveId =
        some ⟨call.occasion.moveId, ordersId, some call.occasion.locator, "DRAFT", none, none,
          []⟩ := by
  have heffect : Effect app call.occasion call.request (app.turn call) := step_effect hstd hid
  rcases heffect.sessions_or_created with ⟨sessions, happ⟩ | ⟨id, s, ordersId, hc⟩
  · exact .inl (by rw [happ])
  · refine .inr ⟨id, s, ordersId, hc, ?_, ?_⟩
    · rw [hc.stored]
      exact Dictionary.size_insert_of_absent _ hnew
    · rw [move?, hc.stored]
      simp [MoveService.moves]

/-- Of any requests, one adds to the moves only where it submits the orders page in a live session
that has orders but no move. Stored moves stay. Between two that create a move for the same session
its client writes the session. -/
theorem one_move_between_client_writes (hstd : app.IsStandard) (hids : FreshIds app calls) :
    (∀ before call after, calls = before ++ call :: after →
      let current := app.run before
      let turn := current.turn call
      (turn.app.service = current.service ∨ ∃ id s ordersId,
        CreatesMove current call.occasion call.request turn id s ordersId ∧
        turn.app.service.moves.size = current.service.moves.size + 1 ∧
        turn.app.move? call.occasion.moveId =
          some ⟨call.occasion.moveId, ordersId, some call.occasion.locator, "DRAFT", none, none,
            []⟩) ∧
      ∀ moveId record, current.move? moveId = some record →
        turn.app.move? moveId = some record) ∧
    ∀ before first between second after id,
      calls = before ++ first :: (between ++ second :: after) →
      (app.run before).CreatesMoveFor first id →
      (app.run (before ++ first :: between)).CreatesMoveFor second id →
      ∃ earlier call later, between = earlier ++ call :: later ∧
        ClientWrite app.flow call.occasion call.request
          ((app.run (before ++ first :: earlier)).turn call).response.status id := by
  constructor
  · rintro before call after rfl current turn
    have hid := hids.nonempty call (by simp)
    have hnew := move?_run_of_fresh hstd hids
    have hcurrent : current.IsStandard :=
      isStandard_run hstd fun c hc => hids.nonempty c (List.mem_append_left _ hc)
    refine ⟨moves_turn hcurrent hid hnew, fun moveId record hr => ?_⟩
    have hne : moveId ≠ call.occasion.moveId := by
      rintro rfl
      rw [hnew] at hr
      cases hr
    exact (move?_turn hcurrent hid hne).trans hr
  · rintro before first between second after id rfl hfirst hsecond
    have hne := hids.nonempty
    have hstd₀ : (app.run before).IsStandard :=
      isStandard_run hstd fun c hc => hne c (List.mem_append_left _ hc)
    have hstd₁ := isStandard_turn hstd₀ (hne first (by simp))
    have hrun : ∀ cs, app.run (before ++ first :: cs) = ((app.run before).turn first).app.run cs :=
      fun cs => run_append ..
    have hunsettled := not_isSettled_of_createsMoveFor hsecond
    rw [hrun] at hunsettled
    obtain ⟨earlier, call, later, he, hw⟩ := exists_write_of_not_isSettled hstd₁
      (fun c hc => hne c (by simp [hc])) (isSettled_of_createsMoveFor hfirst) hunsettled
    refine ⟨earlier, call, later, he, ?_⟩
    rw [hrun]
    exact hstd₁.1.trans hstd.1.symm ▸ hw

theorem fill_orders {page : Page} (params : Dictionary String) (hp : page ∈ standardPages)
    (hk : page.key = .ordersTransition) : page.path.fill params = .ok "/orders/transition" := by
  refine Pattern.fill_eq_ok_iff.mpr ⟨["orders", "transition"], ?_, rfl⟩
  rw [segments_ordersTransition hp hk]
  exact .cons (.literal _) (.cons (.literal _) .nil)

/-- A live session with orders but no move does get one for a submit of the orders page. -/
theorem createsMoveFor_of_submit {s : State} {ordersId : OrdersId} (hstd : app.IsStandard)
    (hid : call.occasion.moveId ≠ "") (hmethod : call.request.method = "POST")
    (hpath : call.request.path = "/orders/transition")
    (hn : app.namedSession? call.request = some id)
    (hl : app.sessions.LiveAt call.occasion.now id s) (hno : s.hasMove = false)
    (horders : s.ordersId = some ordersId) : app.CreatesMoveFor call id := by
  obtain ⟨before, page, type, rest, hsplit, hkey, -⟩ := inFlowPages_standardFlow_split s
  have hin : page ∈ standardFlow.inFlowPages s := by simp [hsplit]
  have hp := (Flow.mem_inFlowPages.mp hin).1
  have hfill := fill_orders ∅ hp hkey
  have hv : ∀ name value, (∅ : Dictionary String).get? name = some value →
      '/' ∉ value.toList := by simp
  obtain ⟨taken, hroute⟩ := endpoint?_of_fill hp hv hfill
  obtain ⟨params, hat, -⟩ := standardFlow.pageAt?_of_fill standardPages_apart hp hv hfill
  rw [← hpath, ← hstd.1] at hroute hat
  refine ⟨s, ordersId, ?_⟩
  rw [turn_eq_submitPage call hmethod hroute]
  exact createsMove_submitPage hstd hmethod hid hn hl hat (hstd.1 ▸ hin) hkey hno horders

theorem one_move_between_client_writes_two_submits :
    let app := withSession "s" { ordersId := some "o" }
    app.CreatesMoveFor (.submit "/orders/transition" "s" "m") "s" ∧
      ¬ (app.run [.submit "/orders/transition" "s" "m"]).CreatesMoveFor
        (.submit "/orders/transition" "s" "n") "s" := by
  intro app
  have hstd : app.IsStandard := ⟨rfl, _, rfl⟩
  have hfirst : app.CreatesMoveFor (.submit "/orders/transition" "s" "m") "s" :=
    createsMoveFor_of_submit (s := { ordersId := some "o" }) hstd (by decide) rfl rfl (by decide)
      ⟨0, by decide, by decide⟩ rfl rfl
  have hids : FreshIds app
      [.submit "/orders/transition" "s" "m", .submit "/orders/transition" "s" "n"] :=
    ⟨by decide, by decide, by decide⟩
  refine ⟨hfirst, fun hsecond => ?_⟩
  obtain ⟨earlier, call, later, he, -⟩ :=
    (one_move_between_client_writes hstd hids).2 [] _ [] _ [] "s" rfl hfirst hsecond
  cases earlier <;> cases he

end App

end Relocation.Web
