import Relocation.Audit
import Relocation.Wizard.Navigation

/-! A flow is the list of a wizard's pages in wizard order. For a state it gives the pages in
flow, the route of each page, and the page that a request path leads to. -/

namespace Relocation.Wizard

/-- The first page that repeats the key or the path of an earlier one. -/
def duplicate? (earlier : List Page) : List Page → Option Violation
  | [] => none
  | page :: pages =>
    if page.key ∈ earlier.map Page.key then some (.duplicatePage page.key)
    else if page.trimmedPath ∈ earlier.map Page.trimmedPath then
      some (.duplicatePath page.path.raw)
    else duplicate? (earlier ++ [page]) pages

theorem duplicate?_eq_none_iff {earlier pages : List Page}
    (hk : (earlier.map Page.key).Nodup) (hp : (earlier.map Page.trimmedPath).Nodup) :
    duplicate? earlier pages = none ↔
      ((earlier ++ pages).map Page.key).Nodup ∧
        ((earlier ++ pages).map Page.trimmedPath).Nodup := by
  induction pages generalizing earlier with
  | nil => simp [duplicate?, hk, hp]
  | cons page pages ih =>
    have step : ∀ {α : Type} (f : Page → α), (earlier.map f).Nodup → f page ∉ earlier.map f →
        ((earlier ++ [page]).map f).Nodup := by
      intro α f h hn
      rw [List.map_append, List.nodup_append]
      refine ⟨h, by simp, ?_⟩
      intro a ha b hb e
      simp only [List.map_cons, List.map_nil, List.mem_singleton] at hb
      exact hn (hb ▸ e ▸ ha)
    have back : ∀ {α : Type} (f : Page → α), f page ∈ earlier.map f →
        ¬ ((earlier ++ page :: pages).map f).Nodup := by
      intro α f hm h
      rw [List.map_append, List.nodup_append] at h
      exact h.2.2 (f page) hm (f page) (by simp) rfl
    unfold duplicate?
    split
    · next h =>
      exact ⟨nofun, fun e => absurd e.1 (back Page.key h)⟩
    · next h =>
      split
      · next h' => exact ⟨nofun, fun e => absurd e.2 (back Page.trimmedPath h')⟩
      · next h' =>
        rw [ih (step Page.key hk h) (step Page.trimmedPath hp h')]
        simp [List.append_assoc]

/-- Pages of which no two share a key or, but for slashes at the end, a path. -/
structure Flow where
  pages : List Page
  keys_nodup : (pages.map Page.key).Nodup
  paths_nodup : (pages.map Page.trimmedPath).Nodup

namespace Flow

def ofPages (pages : List Page) : Except Violation Flow :=
  match h : duplicate? [] pages with
  | some violation => .error violation
  | none =>
    have hn := (duplicate?_eq_none_iff (by simp) (by simp)).mp h
    .ok ⟨pages, hn.1, hn.2⟩

def page? (flow : Flow) (key : PageKey) : Option Page := flow.pages.find? (fun p => p.key = key)

def inFlowPages (flow : Flow) (s : State) : List Page := flow.pages.filter (·.isInFlow s)

def inFlow (flow : Flow) (s : State) : List PageKey := (flow.inFlowPages s).map Page.key

def patterns (flow : Flow) : List (PageKey × Pattern) := flow.pages.map fun p => (p.key, p.path)

end Flow

structure Route where
  key : PageKey
  path : Pattern
  stop? : Option Stop
deriving DecidableEq

def Route.isInFlow (r : Route) : Bool := r.stop?.isSome

namespace Flow

def stop (flow : Flow) (page : Page) (s : State) : Stop where
  page := page
  pages := flow.inFlow s
  patterns := flow.patterns
  state := s

def routeOf (flow : Flow) (s : State) (page : Page) : Route where
  key := page.key
  path := page.path
  stop? := if page.isInFlow s then some (flow.stop page s) else none

def routes (flow : Flow) (s : State) : List Route := flow.pages.map (flow.routeOf s)

def route? (flow : Flow) (key : PageKey) (s : State) : Option Route :=
  (flow.page? key).map (flow.routeOf s)

def pageAt? (flow : Flow) (path : String) : Option (Page × Dictionary String) :=
  flow.pages.findSome? fun page => (page.path.match? path).map (page, ·)

def resolve (flow : Flow) (path : String) (s : State) : Option (Route × Dictionary String) :=
  (flow.pageAt? path).map fun (page, params) => (flow.routeOf s page, params)

def resolveEvent (c : Audit.Context) (path : String) (r : Route) : Audit.Event :=
  let metadata := [("page", r.key.name), ("path", path)]
  if r.isInFlow then c.event "wizard.page_resolved" .wizard .success metadata
  else c.event "wizard.missing_context" .wizard .rejected metadata

/-- Resolves a path; a path that leads nowhere leaves no event. -/
def resolveAudited (flow : Flow) (path : String) (s : State) (c : Audit.Context) :
    Option (Route × Dictionary String) × List Audit.Event :=
  match flow.resolve path s with
  | some (r, params) => (some (r, params), [resolveEvent c path r])
  | none => (none, [])

end Flow

end Relocation.Wizard
