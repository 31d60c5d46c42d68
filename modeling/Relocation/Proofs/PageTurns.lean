import Relocation.Proofs.InFlowNavigation
import Relocation.Proofs.SessionStates
import Relocation.Web.Pages

/-! Who makes a request on a page, and what comes of it: nothing stands at the path, the page there
is not in flow, or it is. -/

namespace Relocation.Web

open Http Wizard

namespace App

variable {app app' visited : App} {o o' : Occasion} {r r' : Request} {id : SessionId} {s : State}

theorem caller_of_live (hn : app.namedSession? r = some id)
    (hl : app.sessions.LiveAt o.now id s) :
    app.caller o r = (some (id, s), { app with sessions := app.sessions.write o.now id s }) := by
  simp [caller, hn, visit, Sessions.get_of_live hl]

/-- A request is made in the live session that it names, or in none. -/
theorem caller_cases (app : App) (o : Occasion) (r : Request) :
    (∃ id s, app.namedSession? r = some id ∧ app.sessions.LiveAt o.now id s) ∨
      ∃ sessions, app.caller o r = (none, { app with sessions }) ∧
        app.sessions.Keeps o.now sessions := by
  cases hn : app.namedSession? r with
  | none => exact .inr ⟨app.sessions, by simp [caller, hn], Sessions.Keeps.refl _ _⟩
  | some id =>
    cases hg : (app.sessions.get o.now id).1 with
    | some s => exact .inl ⟨id, s, rfl, Sessions.live_of_get hg⟩
    | none =>
      refine .inr ⟨(app.sessions.get o.now id).2, ?_, Sessions.keeps_get _ _ _⟩
      simp [caller, hn, visit, hg]

theorem caller_effect (app : App) (o : Occasion) (r : Request) :
    ∃ sessions, (app.caller o r).2 = { app with sessions } ∧ app.sessions.Keeps o.now sessions := by
  rcases caller_cases app o r with ⟨id, s, hn, hl⟩ | ⟨sessions, hc, hk⟩
  · exact ⟨_, by rw [caller_of_live hn hl], Sessions.keeps_write_of_live hl⟩
  · exact ⟨sessions, by rw [hc], hk⟩

theorem caller_eq (app : App) (o : Occasion) (r : Request) :
    ∃ found sessions, app.caller o r = (found, { app with sessions }) := by
  obtain ⟨sessions, he, -⟩ := caller_effect app o r
  exact ⟨(app.caller o r).1, sessions, Prod.ext rfl he⟩

/-- A session that is not there now is not there later either. -/
theorem caller_again_of_none (hc : app.caller o r = (none, visited))
    (hn : app.namedSession? r' = app.namedSession? r) : (visited.caller o' r').1 = none := by
  cases hr : app.namedSession? r with
  | none =>
    rw [caller, hr] at hc
    cases hc
    simp [caller, hn, hr]
  | some id =>
    cases hg : app.sessions.get o.now id with
    | mk state? sessions =>
      simp only [caller, hr, visit, hg, Prod.mk.injEq, Option.map_eq_none_iff] at hc
      obtain ⟨rfl, rfl⟩ := hc
      have hgone : sessions.get o'.now id = (none, sessions) :=
        Sessions.get_of_not_stored (Sessions.not_stored_of_get hg)
      have hnamed : { app with sessions }.namedSession? r' = some id := hn.trans hr
      simp [caller, hnamed, visit, hgone]

theorem caller_congr (hn : app.namedSession? r' = app.namedSession? r) :
    app.caller o r' = app.caller o r := by
  simp [caller, hn]

/-- Within the idle time a request finds what one before it found. -/
theorem caller_again {found : Option (SessionId × State)}
    (hc : app.caller o r = (found, visited)) (hn : app.namedSession? r' = app.namedSession? r)
    (ht : o'.now - o.now < app.sessions.idleTime ∨ app.sessions.idleTime = 0) :
    (visited.caller o' r').1 = found := by
  rcases caller_cases app o r with ⟨id, s, hid, hl⟩ | ⟨sessions, hnone, -⟩
  · obtain ⟨rfl, rfl⟩ := Prod.mk.inj ((caller_of_live hid hl).symm.trans hc)
    have hn' : { app with sessions := app.sessions.write o.now id s }.namedSession? r' =
        some id := hn.trans hid
    rw [caller_of_live hn' (Sessions.live_write (hl.lt_idleTime ht))]
  · obtain ⟨rfl, rfl⟩ := Prod.mk.inj (hnone.symm.trans hc)
    exact caller_again_of_none hnone hn

/-- The request is made in a live session with this state, or in none, which counts as a session in
the empty state. -/
inductive MadeIn (app : App) (o : Occasion) (r : Request) : State → Prop
  | session {id : SessionId} {s : State} (hn : app.namedSession? r = some id)
      (hl : app.sessions.LiveAt o.now id s) : MadeIn app o r s
  | noSession (h : ∀ id s, app.namedSession? r = some id → ¬ app.sessions.LiveAt o.now id s) :
      MadeIn app o r {}

theorem madeIn_caller (app : App) (o : Occasion) (r : Request) :
    app.MadeIn o r (callerState (app.caller o r).1) := by
  cases hn : app.namedSession? r with
  | none =>
    rw [caller, hn]
    refine .noSession fun id s h => ?_
    rw [hn] at h
    cases h
  | some id =>
    by_cases hlive : ∃ s, app.sessions.LiveAt o.now id s
    · obtain ⟨s, hl⟩ := hlive
      rw [caller_of_live hn hl]
      exact .session hn hl
    · have hget : (app.sessions.get o.now id).1 = none := by
        rw [Option.eq_none_iff_forall_ne_some]
        exact fun s hs => hlive ⟨s, Sessions.live_of_get hs⟩
      simp only [caller, hn, visit, hget, Option.map_none]
      refine .noSession fun id' s h hl => ?_
      obtain rfl := Option.some.inj (hn.symm.trans h)
      exact hlive ⟨s, hl⟩

theorem MadeIn.eq {s s' : State} (h : app.MadeIn o r s) (h' : app.MadeIn o r s') : s = s' := by
  cases h with
  | session hn hl =>
    cases h' with
    | session hn' hl' =>
      obtain rfl := Option.some.inj (hn.symm.trans hn')
      exact Option.some.inj (hl.state?.symm.trans hl'.state?)
    | noSession hnone => exact absurd hl (hnone _ _ hn)
  | noSession hnone =>
    cases h' with
    | session hn' hl' => exact absurd hl' (hnone _ _ hn')
    | noSession => rfl

theorem MadeIn.callerState_eq (h : app.MadeIn o r s) : callerState (app.caller o r).1 = s :=
  (app.madeIn_caller o r).eq h

section

variable {found : Option (SessionId × State)} {page : Page} {params : Dictionary String}

theorem resolve_eq_none (hr : app.flow.pageAt? r.path = none) (s : State) :
    ∃ log, app.resolve o r.path s = (none, log) := by
  simp [resolve, Flow.resolveAudited, Flow.resolve, hr]

theorem resolve_eq_some (hr : app.flow.pageAt? r.path = some (page, params)) (s : State) :
    ∃ log, app.resolve o r.path s = (some (app.flow.routeOf s page, params), log) := by
  simp [resolve, Flow.resolveAudited, Flow.resolve, hr]

theorem showPage_of_none (hc : app.caller o r = (found, visited))
    (hr : visited.flow.pageAt? r.path = none) :
    ∃ log, app.showPage o r = visited.reject o (.undeclaredPath r.path) log := by
  obtain ⟨log, he⟩ := resolve_eq_none (o := o) hr (callerState found)
  exact ⟨log, by simp only [showPage, hc, he]⟩

theorem submitPage_of_none (hc : app.caller o r = (found, visited))
    (hr : visited.flow.pageAt? r.path = none) :
    ∃ log, app.submitPage o r = visited.reject o (.undeclaredPath r.path) log := by
  obtain ⟨log, he⟩ := resolve_eq_none (o := o) hr (callerState found)
  exact ⟨log, by simp only [submitPage, hc, he]⟩

theorem showPage_of_outOfFlow (hc : app.caller o r = (found, visited))
    (hr : visited.flow.pageAt? r.path = some (page, params))
    (hp : page.isInFlow (callerState found) = false) :
    ∃ log, app.showPage o r = visited.reply 200 (.html missingContextDocument) log := by
  obtain ⟨log, he⟩ := resolve_eq_some (o := o) hr (callerState found)
  have hstop : (visited.flow.routeOf (callerState found) page).stop? = none := by
    simp [Flow.routeOf, hp]
  exact ⟨log, by simp only [showPage, hc, he, hstop]⟩

theorem submitPage_of_outOfFlow (hc : app.caller o r = (found, visited))
    (hr : visited.flow.pageAt? r.path = some (page, params))
    (hp : page.isInFlow (callerState found) = false) :
    ∃ log, app.submitPage o r = visited.reject o (.outOfFlow page.key) log := by
  obtain ⟨log, he⟩ := resolve_eq_some (o := o) hr (callerState found)
  have hstop : (visited.flow.routeOf (callerState found) page).stop? = none := by
    simp [Flow.routeOf, hp]
  have hkey : (visited.flow.routeOf (callerState found) page).key = page.key := rfl
  exact ⟨log, by simp only [submitPage, hc, he, hstop, hkey]⟩

theorem showPage_of_inFlow (hc : app.caller o r = (found, visited))
    (hr : visited.flow.pageAt? r.path = some (page, params))
    (hp : page ∈ visited.flow.inFlowPages (callerState found)) :
    ∃ log, app.showPage o r =
      visited.reply 200 (.html
        (pageDocument (visited.flow.stop page (callerState found)) r.path params).1) log := by
  obtain ⟨log, he⟩ := resolve_eq_some (o := o) hr (callerState found)
  have hstop := Flow.stop?_routeOf hp
  simp only [showPage, hc, he, hstop]
  exact ⟨_, rfl⟩

/-- The action of a page in flow decides what its submit comes to. -/
theorem submitPage_of_inFlow (hc : app.caller o r = (found, visited))
    (hr : visited.flow.pageAt? r.path = some (page, params))
    (hp : page ∈ visited.flow.inFlowPages (callerState found)) :
    ∃ log, app.submitPage o r =
      let stop := visited.flow.stop page (callerState found)
      match stop.submitAction with
      | .error v => visited.reject o (.failure (.violation v)) log
      | .ok .advance => visited.goOn o stop params .advance none log
      | .ok (.createMove ordersId) =>
        visited.submitOrders o found page.key params ordersId log := by
  obtain ⟨log, he⟩ := resolve_eq_some (o := o) hr (callerState found)
  have hstop := Flow.stop?_routeOf hp
  have hkey : (visited.flow.routeOf (callerState found) page).key = page.key := rfl
  simp only [submitPage, hc, he, hstop, hkey]
  exact ⟨log, rfl⟩

variable {stop : Stop} {action : SubmitAction} {created : Option MoveId} {log : List LogEvent}

theorem goOn_of_ok {next? : Option String} (h : stop.nextPath params = .ok next?) :
    app.goOn o stop params action created log =
      app.reply 200 (.json (submitJson stop.page.key action next? created)) log := by
  simp only [goOn, h]

theorem goOn_of_error {v : Violation} (h : stop.nextPath params = .error v) :
    app.goOn o stop params action created log = app.reject o (.failure (.violation v)) log := by
  simp only [goOn, h]

end

end App

end Relocation.Web
