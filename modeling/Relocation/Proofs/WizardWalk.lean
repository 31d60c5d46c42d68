import Relocation.Proofs.PathRouting
import Relocation.Proofs.Runs

/-! Walking through the wizard. A client submits a page and goes on to the path that it is told,
until it is told none. -/

namespace Relocation.Web

open Http Wizard

def Call.to (call : Call) (path : String) : Call := { call with request.target.path := path }

def Turn.text? (turn : Turn) (name : String) : Option String :=
  match turn.member? name with
  | some (.string text) => some text
  | _ => none

/-- The answers to requests of which each but the first is sent to the path that the answer before
it gave to go on to. -/
def App.walk (app : App) (path : String) : List Call → List Turn
  | [] => []
  | call :: calls =>
    let turn := app.turn (call.to path)
    turn :: (turn.text? "next_path").elim [] fun next => turn.app.walk next calls

/-- An id of ASCII letters, digits and hyphens. -/
def IsSafe (id : String) : Prop := id ≠ "" ∧ ∀ c ∈ id.toList, c.isAlphanum = true ∨ c = '-'

theorem IsSafe.isPart {id : String} (h : IsSafe id) : IsPart id := by
  refine ⟨h.1, fun hm => ?_⟩
  have hc := h.2 '/' hm
  simp at hc

/-- In this state the wizard knows all that it takes to go through these pages. -/
structure CanWalk (s : State) (pages : List Page) : Prop where
  member : ∃ memberId, s.serviceMemberId = some memberId ∧ IsPart memberId
  orders : ∃ ordersId, s.ordersId = some ordersId
  move : (s.hasMove = true ∧ ∃ moveId, s.moveId = some moveId ∧ IsPart moveId) ∨
    (s.hasMove = false ∧ s.moveId = none ∧ ∃ page ∈ pages, page.key = .ordersTransition)

namespace CanWalk

variable {s : State} {page : Page} {pages : List Page}

theorem no_slash (h : CanWalk s pages) (name value : String)
    (hg : s.pathParams.get? name = some value) : '/' ∉ value.toList := by
  obtain ⟨memberId, hm, hpart⟩ := h.member
  rw [State.get?_pathParams] at hg
  split at hg
  · rw [hm] at hg
    exact Option.some.inj hg ▸ hpart.2
  · split at hg
    · rcases h.move with ⟨-, moveId, hv, hpart'⟩ | ⟨-, hv, -⟩
      · rw [hv] at hg
        exact Option.some.inj hg ▸ hpart'.2
      · rw [hv] at hg
        cases hg
    · cases hg

/-- While the move is not known, no page up to the one that creates it needs it. -/
theorem fill (h : CanWalk s (page :: pages)) (hs : (page :: pages).Sublist standardPages) :
    ∃ path, page.path.fill s.pathParams = .ok path := by
  have hp : page ∈ standardPages := hs.mem List.mem_cons_self
  have hknown : ∀ name ∈ page.path.parameterNames,
      ∃ value, s.pathParams.get? name = some value ∧ value ≠ "" := by
    intro name hn
    obtain ⟨memberId, hm, hpart⟩ := h.member
    rcases parameter_of_mem_standardPages hp hn with rfl | rfl
    · exact ⟨memberId, by simp [State.get?_pathParams, hm], hpart.1⟩
    · rcases h.move with ⟨-, moveId, hv, hpart'⟩ | ⟨-, -, orders, ho, hk⟩
      · exact ⟨moveId, by simp [State.get?_pathParams, hv], hpart'.1⟩
      · rcases List.mem_cons.mp ho with rfl | ho
        · rw [parameterNames_ordersTransition hp hk] at hn
          cases hn
        · have hlater := standardPages_move_later.sublist hs
          exact absurd hn (List.rel_of_pairwise_cons hlater ho hk)
  exact Pattern.exists_fill_of_known hknown

theorem tail_of_ne (h : CanWalk s (page :: pages))
    (hne : s.hasMove = false → page.key ≠ .ordersTransition) : CanWalk s pages := by
  refine ⟨h.member, h.orders, h.move.imp_right ?_⟩
  rintro ⟨hno, hv, orders, ho, hk⟩
  refine ⟨hno, hv, orders, ?_, hk⟩
  rcases List.mem_cons.mp ho with rfl | ho
  · exact absurd hk (hne hno)
  · exact ho

theorem withMove (h : CanWalk s pages) {moveId : MoveId} (hid : IsPart moveId)
    (pages' : List Page) : CanWalk (s.withMove moveId) pages' :=
  ⟨h.member, h.orders, .inl ⟨rfl, moveId, rfl, hid⟩⟩

theorem next (h : CanWalk s pages) (hs : pages.Sublist standardPages) :
    ∃ next : Option String,
      (pages.head?.elim (.ok none) fun p => some <$> p.path.fill s.pathParams) =
        (.ok next : Except Violation (Option String)) ∧
      (pages = [] → next = none) ∧
      ∀ p ∈ pages.head?, ∃ path, next = some path ∧ p.path.fill s.pathParams = .ok path := by
  cases pages with
  | nil => exact ⟨none, by simp⟩
  | cons page pages =>
    obtain ⟨path, hpath⟩ := h.fill hs
    refine ⟨some path, by simp [hpath], nofun, fun p hp => ⟨path, rfl, ?_⟩⟩
    rw [List.head?_cons, Option.mem_some_iff] at hp
    exact hp ▸ hpath

end CanWalk

/-- A submit on the walk is accepted, and its answer leads to the page behind, if there is one. The
session is left with a state that the rest of the walk can be done in. -/
structure WalkStep (app : App) (id : SessionId) (s : State) (page : Page) (rest : List Page)
    (now : Nat) (turn : Turn) (s' : State) : Prop where
  status : turn.response.status = 200
  named : turn.text? "page" = some page.key.name
  action : turn.text? "action" =
    some (if page.key = .ordersTransition ∧ s.hasMove = false then "create_move" else "advance")
  last : rest = [] → turn.member? "next_path" = some .null
  next : ∀ p ∈ rest.head?, ∃ path, turn.member? "next_path" = some (.string path) ∧
    p.path.fill s'.pathParams = .ok path
  standard : turn.app.IsStandard
  header : turn.app.sessionHeader = app.sessionHeader
  idleTime : turn.app.sessions.idleTime = app.sessions.idleTime
  session : turn.app.sessions.entries.get? id = some ⟨s', now⟩
  canWalk : CanWalk s' rest
  moveType : s'.moveType = s.moveType
  later : ∀ p ∈ rest, p.key = .ordersTransition → s'.hasMove = s.hasMove

namespace App

variable {app : App} {id : SessionId} {s : State} {page : Page} {before rest : List Page}
  {call : Call} {path : String}

theorem nextPath_of_agree {params : Dictionary String}
    (hsplit : standardFlow.inFlowPages s = before ++ page :: rest)
    (hagree : ∀ name value, params.get? name = some value → s.pathParams.get? name = some value) :
    (standardFlow.stop page s).nextPath params =
      rest.head?.elim (.ok none) fun next => some <$> next.path.fill s.pathParams := by
  have hmerge : ∀ name, (s.pathParams.merge params).get? name = s.pathParams.get? name := by
    intro name
    rw [Dictionary.get?_merge]
    cases hv : params.get? name with
    | none => rfl
    | some value => exact (hagree name value hv).symm
  rw [Flow.nextPath_stop hsplit]
  cases rest.head? with
  | none => rfl
  | some next => simp only [Option.elim_some, Pattern.fill_congr hmerge]

theorem member?_submitJson {turn : Turn} {key : PageKey} {action : SubmitAction}
    {next : Option String} {created : Option MoveId}
    (h : turn.response.content = .json (submitJson key action next created)) :
    turn.text? "page" = some key.name ∧
      turn.text? "action" = some (if action = .advance then "advance" else "create_move") ∧
      turn.member? "next_path" = some (.ofOption next) := by
  unfold Turn.text? Turn.member?
  rw [h]
  cases action <;> exact ⟨rfl, rfl, rfl⟩

theorem walkStep_of_answer (moves : MoveStore) (sessions : Sessions) {turn : Turn} {s' : State}
    {now : Nat} {action : SubmitAction} {next : Option String} {created : Option MoveId}
    (hflow : app.flow = standardFlow)
    (happ : turn.app = { app with service := .store moves, sessions })
    (hresponse : turn.response = ⟨200, .json (submitJson page.key action next created)⟩)
    (haction : action = .advance ↔ ¬ (page.key = .ordersTransition ∧ s.hasMove = false))
    (hlast : rest = [] → next = none)
    (hnext : ∀ p ∈ rest.head?, ∃ path, next = some path ∧ p.path.fill s'.pathParams = .ok path)
    (hidle : sessions.idleTime = app.sessions.idleTime)
    (hsession : sessions.entries.get? id = some ⟨s', now⟩) (hw : CanWalk s' rest)
    (htype : s'.moveType = s.moveType)
    (hlater : ∀ p ∈ rest, p.key = .ordersTransition → s'.hasMove = s.hasMove) :
    WalkStep app id s page rest now turn s' := by
  obtain ⟨hpage, haction', hnext'⟩ := member?_submitJson (congrArg Response.content hresponse)
  exact {
    status := congrArg Response.status hresponse
    named := hpage
    action := by
      rw [haction']
      by_cases hc : page.key = .ordersTransition ∧ s.hasMove = false
      · rw [if_neg fun ha => haction.mp ha hc, if_pos hc]
      · rw [if_pos (haction.mpr hc), if_neg hc]
    last := fun hl => by rw [hnext', hlast hl]; rfl
    next := fun p hp => by
      obtain ⟨path, hn, hf⟩ := hnext p hp
      exact ⟨path, by rw [hnext', hn]; rfl, hf⟩
    standard := ⟨by rw [happ, ← hflow], moves, by rw [happ]⟩
    header := by rw [happ]
    idleTime := by rw [happ, ← hidle]
    session := by rw [happ, ← hsession]
    canWalk := hw
    moveType := htype
    later := hlater }

theorem exists_walkStep (hstd : app.IsStandard)
    (hsplit : standardFlow.inFlowPages s = before ++ page :: rest)
    (hw : CanWalk s (page :: rest)) (hmethod : call.request.method = "POST")
    (hnamed : app.namedSession? call.request = some id)
    (hlive : app.sessions.LiveAt call.occasion.now id s) (hid : IsPart call.occasion.moveId)
    (hpath : page.path.fill s.pathParams = .ok path) :
    ∃ s', WalkStep app id s page rest call.occasion.now (app.turn (call.to path)) s' := by
  obtain ⟨hflow, moves, hservice⟩ := hstd
  have hmem : page ∈ standardFlow.inFlowPages s := by simp [hsplit]
  have hsub : (page :: rest).Sublist standardPages :=
    (List.sublist_append_right before _).trans (hsplit ▸ Flow.inFlowPages_sublist standardFlow s)
  have hp : page ∈ standardPages := hsub.mem List.mem_cons_self
  have hrest : rest.Sublist standardPages := (List.sublist_cons_self page rest).trans hsub
  obtain ⟨taken, hroute⟩ := endpoint?_of_fill hp hw.no_slash hpath
  obtain ⟨params, hat, hparams⟩ :=
    standardFlow.pageAt?_of_fill standardPages_apart hp hw.no_slash hpath
  have hsubmit : app.turn (call.to path) = app.submitPage call.occasion (call.to path).request :=
    turn_eq_submitPage (call.to path) hmethod (hflow ▸ hroute)
  rw [hsubmit]
  obtain ⟨log, he⟩ := submitPage_of_live (r := (call.to path).request) (o := call.occasion) hnamed
    hlive (hflow ▸ hat) (hflow ▸ hmem)
  by_cases hc : page.key = .ordersTransition ∧ s.hasMove = false
  · -- The submit creates the move, and the state that knows it goes on.
    obtain ⟨ordersId, ho⟩ := hw.orders
    have ha := (submitAction_stop_eq_createMove_iff hp).mpr ⟨hc.1, hc.2, ho⟩
    have hw' : CanWalk (s.withMove call.occasion.moveId) rest := hw.withMove hid rest
    have hsplit' : standardFlow.inFlowPages (s.withMove call.occasion.moveId) =
        before ++ page :: rest :=
      (standardFlow.inFlowPages_withMove ..).trans hsplit
    have hnone : ∀ name, params.get? name = none := by
      intro name
      rw [hparams, parameterNames_ordersTransition hp hc.1]
      rfl
    obtain ⟨next, hnext, hlast, hpath'⟩ := hw'.next hrest
    have hstop : (standardFlow.stop page (s.withMove call.occasion.moveId)).nextPath params =
        .ok next :=
      (nextPath_of_agree hsplit' fun name value hv => by rw [hnone] at hv; cases hv).trans hnext
    have hturn := submitOrders_eq { app with sessions := app.sessions.write call.occasion.now id s }
      hservice (Sessions.contains_write ..) (by simp [hflow, hsplit]) (hflow ▸ hstop) ordersId
      log
    have hkey : ∀ p ∈ rest, p.key ≠ .ordersTransition := by
      intro p hpr hk
      have hn := standardFlow.keys_nodup.sublist (hsub.map Page.key)
      rw [List.map_cons, List.nodup_cons, hc.1, ← hk] at hn
      exact hn.1 (List.mem_map_of_mem hpr)
    rw [← hflow] at ha
    simp only [ha] at he
    rw [he, hturn]
    exact ⟨_, walkStep_of_answer _ _ hflow rfl rfl (by simp [hc]) hlast hpath' rfl (by simp) hw' rfl
      fun p hpr hk => absurd hk (hkey p hpr)⟩
  · -- The submit only goes on.
    have ha := submitAction_stop_eq_advance (s := s) hp fun hk => by simpa [hk] using hc
    have hw' : CanWalk s rest := hw.tail_of_ne fun hno hk => hc ⟨hk, hno⟩
    have hagree : ∀ name value, params.get? name = some value →
        s.pathParams.get? name = some value := by
      intro name value hv
      rw [hparams] at hv
      split at hv
      · exact hv
      · cases hv
    obtain ⟨next, hnext, hlast, hpath'⟩ := hw'.next hrest
    have hstop := (nextPath_of_agree hsplit hagree).trans hnext
    have hpage : (app.flow.stop page s).page = page := rfl
    rw [← hflow] at ha hstop
    simp only [ha, goOn, hstop, hpage] at he
    rw [he]
    exact ⟨s, walkStep_of_answer moves (app.sessions.write call.occasion.now id s) hflow
      (by rw [app_reply, ← hservice]) rfl (by simp [hc]) hlast hpath' rfl (by simp) hw' rfl
      fun _ _ _ => rfl⟩

end App

/-- All submits are accepted, each of the pages is submitted in its turn, and it is the last
answer that gives no path to go on to. -/
structure ReachesEnd (pages : List PageKey) (hasMove : Bool) (turns : List Turn) : Prop where
  status : ∀ turn ∈ turns, turn.response.status = 200
  named : turns.map (·.text? "page") = pages.map fun k => some k.name
  actions : turns.map (·.text? "action") = pages.map fun k =>
    some (if k = .ordersTransition ∧ hasMove = false then "create_move" else "advance")
  ends : ∃ earlier last, turns = earlier ++ [last] ∧ last.member? "next_path" = some .null ∧
    ∀ turn ∈ earlier, turn.member? "next_path" ≠ some .null

theorem ReachesEnd.single {app : App} {id : SessionId} {s s' : State} {page : Page} {now : Nat}
    {turn : Turn} (h : WalkStep app id s page [] now turn s') :
    ReachesEnd [page.key] s.hasMove [turn] where
  status := by simpa using h.status
  named := by simpa using h.named
  actions := by simpa using h.action
  ends := ⟨[], turn, rfl, h.last rfl, nofun⟩

theorem ReachesEnd.cons {app : App} {id : SessionId} {s s' : State} {page next : Page}
    {rest : List Page} {now : Nat} {turn : Turn} {turns : List Turn}
    (h : WalkStep app id s page (next :: rest) now turn s')
    (ht : ReachesEnd ((next :: rest).map Page.key) s'.hasMove turns) :
    ReachesEnd ((page :: next :: rest).map Page.key) s.hasMove (turn :: turns) where
  status := List.forall_mem_cons.mpr ⟨h.status, ht.status⟩
  named := by rw [List.map_cons, List.map_cons, List.map_cons, h.named, ht.named]
  actions := by
    rw [List.map_cons, List.map_cons, List.map_cons, h.action, ht.actions]
    refine congrArg _ (List.map_congr_left fun k hk => ?_)
    obtain ⟨p, hp, rfl⟩ := List.mem_map.mp hk
    by_cases hkey : p.key = .ordersTransition
    · simp [hkey, h.later p hp hkey]
    · simp [hkey]
  ends := by
    obtain ⟨earlier, last, rfl, hlast, hearlier⟩ := ht.ends
    obtain ⟨path, hpath, -⟩ := h.next next rfl
    refine ⟨turn :: earlier, last, rfl, hlast, List.forall_mem_cons.mpr ⟨?_, hearlier⟩⟩
    rw [hpath]
    simp

namespace App

/-- From any page in flow on, the walk goes through the pages that are left. -/
theorem reachesEnd_walk {app : App} {id : SessionId} {s : State} {touchedAt : Nat} {page : Page}
    {before rest : List Page} {path : String} {calls : List Call} (hstd : app.IsStandard)
    (hsplit : standardFlow.inFlowPages s = before ++ page :: rest)
    (hw : CanWalk s (page :: rest)) (hpath : page.path.fill s.pathParams = .ok path)
    (hsession : app.sessions.entries.get? id = some ⟨s, touchedAt⟩)
    (hmethod : ∀ call ∈ calls, call.request.method = "POST")
    (hnamed : ∀ call ∈ calls, app.namedSession? call.request = some id)
    (hids : ∀ call ∈ calls, IsPart call.occasion.moveId)
    (hidle : (touchedAt :: calls.map (·.occasion.now)).IsChain
      fun a b => b - a < app.sessions.idleTime)
    (hlen : rest.length < calls.length) :
    ReachesEnd ((page :: rest).map Page.key) s.hasMove (app.walk path calls) := by
  -- Each submit leaves a state that the walk through the pages left can start from again.
  induction rest generalizing app s touchedAt page before path calls with
  | nil =>
    cases calls with
    | nil => cases hlen
    | cons call calls =>
      rw [List.map_cons, List.isChain_cons_cons] at hidle
      obtain ⟨s', hstep⟩ := exists_walkStep hstd hsplit hw (hmethod call List.mem_cons_self)
        (hnamed call List.mem_cons_self) ⟨touchedAt, hsession, hidle.1⟩
        (hids call List.mem_cons_self) hpath
      have hnone : (app.turn (call.to path)).text? "next_path" = none := by
        rw [Turn.text?, hstep.last rfl]
      rw [walk]
      simp only [hnone, Option.elim_none]
      exact .single hstep
  | cons next rest ih =>
    cases calls with
    | nil => cases hlen
    | cons call calls =>
      rw [List.map_cons, List.isChain_cons_cons] at hidle
      obtain ⟨s', hstep⟩ := exists_walkStep hstd hsplit hw (hmethod call List.mem_cons_self)
        (hnamed call List.mem_cons_self) ⟨touchedAt, hsession, hidle.1⟩
        (hids call List.mem_cons_self) hpath
      obtain ⟨path', hnext, hfill⟩ := hstep.next next rfl
      have hsome : (app.turn (call.to path)).text? "next_path" = some path' := by
        rw [Turn.text?, hnext]
      have hsplit' : standardFlow.inFlowPages s' = (before ++ [page]) ++ next :: rest := by
        rw [Flow.inFlowPages_congr hstep.moveType, hsplit, List.append_assoc]
        rfl
      have htail := ih hstep.standard hsplit' hstep.canWalk hfill hstep.session
        (fun c hc => hmethod c (List.mem_cons_of_mem _ hc))
        (fun c hc => by
          rw [namedSession?, hstep.header]
          exact hnamed c (List.mem_cons_of_mem _ hc))
        (fun c hc => hids c (List.mem_cons_of_mem _ hc)) (by rw [hstep.idleTime]; exact hidle.2)
        (by simpa using hlen)
      rw [walk]
      simp only [hsome, Option.elim_some]
      exact .cons hstep htail

theorem fill_create {s : State} {memberId : String} (hmember : s.serviceMemberId = some memberId)
    (hne : memberId ≠ "") :
    (memberPath "create").fill s.pathParams =
      .ok ("/service-member/" ++ memberId ++ "/create") := by
  have hparts : ∀ part ∈ memberParts "create", IsPart part := by decide
  have hsegments : (memberPath "create").segments =
      [.literal "service-member", .parameter "service_member_id", .literal "create"] := by
    rw [memberPath_eq, Pattern.segments_joinParts hparts]
    rfl
  have hget : s.pathParams.get? "service_member_id" = some memberId := by
    rw [State.get?_pathParams, if_pos rfl, hmember]
  refine Pattern.fill_eq_ok_iff.mpr ⟨["service-member", memberId, "create"], ?_, ?_⟩
  · rw [hsegments]
    exact .cons (.literal _) (.cons (.parameter hget hne) (.cons (.literal _) .nil))
  · refine String.toList_inj.mp ?_
    rw [Pattern.toList_joinParts (by simp)]
    simp

theorem countP_create_move {pages : List PageKey} {hasMove : Bool} {turns : List Turn}
    (h : ReachesEnd pages hasMove turns) (hn : pages.Nodup) (hm : .ordersTransition ∈ pages) :
    turns.countP (fun turn => turn.text? "action" = some "create_move") =
      if hasMove then 0 else 1 := by
  have hmap : turns.countP (fun turn => turn.text? "action" = some "create_move") =
      (turns.map (·.text? "action")).countP (· = some "create_move") := by
    rw [List.countP_map]
    rfl
  rw [hmap, h.actions, List.countP_map]
  cases hasMove with
  | true => simp [Function.comp_def]
  | false =>
    have hone : pages.count .ordersTransition = 1 := by rw [hn.count, if_pos hm]
    rw [if_neg (by simp), ← hone, List.count]
    refine List.countP_congr fun k _ => ?_
    by_cases hk : k = .ordersTransition <;> simp [hk]

/-- The wizard can be walked to its end. Whatever the move type, a session that knows its service
member and has orders goes through exactly the pages in flow, each once and in order; a move is
created on the way exactly once if there was none, and only the last answer has nowhere to go. -/
theorem walk_reaches_end {app : App} {id : SessionId} {s : State} {touchedAt : Nat}
    {memberId : String} {ordersId : OrdersId} {calls : List Call} (hstd : app.IsStandard)
    (hsession : app.sessions.entries.get? id = some ⟨s, touchedAt⟩)
    (hmember : s.serviceMemberId = some memberId) (hsafe : IsSafe memberId)
    (horders : s.ordersId = some ordersId)
    (hmove : (s.hasMove = false ∧ s.moveId = none) ∨
      (s.hasMove = true ∧ ∃ moveId, s.moveId = some moveId ∧ IsSafe moveId))
    (hmethod : ∀ call ∈ calls, call.request.method = "POST")
    (hnamed : ∀ call ∈ calls, app.namedSession? call.request = some id)
    (hids : ∀ call ∈ calls, IsSafe call.occasion.moveId)
    (hidle : (touchedAt :: calls.map (·.occasion.now)).IsChain
      fun a b => b - a < app.sessions.idleTime)
    (hlen : (standardFlow.inFlow s).length ≤ calls.length) :
    let turns := app.walk ("/service-member/" ++ memberId ++ "/create") calls
    ReachesEnd (standardFlow.inFlow s) s.hasMove turns ∧ (standardFlow.inFlow s).Nodup ∧
      turns.countP (fun turn => turn.text? "action" = some "create_move") =
        if s.hasMove then 0 else 1 := by
  intro turns
  obtain ⟨create, rest, hpath, hsplit⟩ := inFlowPages_standardFlow_create s
  obtain ⟨before, orders, type, after, he, ho, -⟩ := inFlowPages_standardFlow_split s
  have horders' : orders ∈ create :: rest := by
    have hm : orders ∈ standardFlow.inFlowPages s := by simp [he]
    rwa [hsplit] at hm
  have hw : CanWalk s (create :: rest) := by
    refine ⟨⟨memberId, hmember, hsafe.isPart⟩, ⟨ordersId, horders⟩, ?_⟩
    rcases hmove with ⟨hno, hv⟩ | ⟨hhas, moveId, hv, hsafe'⟩
    · exact .inr ⟨hno, hv, orders, horders', ho⟩
    · exact .inl ⟨hhas, moveId, hv, hsafe'.isPart⟩
  have hkeys : standardFlow.inFlow s = (create :: rest).map Page.key := by
    rw [Flow.inFlow, hsplit]
  have hreach : ReachesEnd (standardFlow.inFlow s) s.hasMove turns := by
    have hfirst : standardFlow.inFlowPages s = [] ++ create :: rest := hsplit
    rw [hkeys]
    refine reachesEnd_walk hstd hfirst hw ?_ hsession hmethod hnamed
      (fun c hc => (hids c hc).isPart) hidle ?_
    · rw [hpath]
      exact fill_create hmember hsafe.1
    · rw [hkeys, List.length_map, List.length_cons] at hlen
      omega
  have hmem : PageKey.ordersTransition ∈ standardFlow.inFlow s :=
    hkeys ▸ List.mem_map.mpr ⟨orders, horders', ho⟩
  have hn := standardFlow.inFlow_nodup s
  exact ⟨hreach, hn, countP_create_move hreach hn hmem⟩

theorem walk_reaches_end_of_combined_move :
    let s : State :=
      { serviceMemberId := some "a-1", moveType := some .hhgPpm, ordersId := some "o" }
    let turns := (withSession "s" s).walk ("/service-member/" ++ "a-1" ++ "/create")
      (List.replicate 20 (.submit "" "s" "m-1"))
    ReachesEnd (standardFlow.inFlow s) false turns ∧ (standardFlow.inFlow s).Nodup ∧
      turns.countP (fun turn => turn.text? "action" = some "create_move") = 1 := by
  intro s turns
  have hcalls : ∀ call ∈ List.replicate 20 (Call.submit "" "s" "m-1"),
      call = .submit "" "s" "m-1" := fun call hc => List.eq_of_mem_replicate hc
  have hsession : (withSession "s" s).sessions.entries.get? "s" = some ⟨s, 0⟩ := by
    simp [withSession]
  have hsafe : IsSafe "a-1" := by simp [IsSafe]
  have hnamed : (withSession "s" s).namedSession? (Call.submit "" "s" "m-1").request =
      some "s" := by
    decide
  have hid : IsSafe (Call.submit "" "s" "m-1").occasion.moveId := by
    simp [IsSafe, Call.submit, Occasion.zero]
  exact walk_reaches_end ⟨rfl, _, rfl⟩ hsession rfl hsafe rfl (.inl ⟨rfl, rfl⟩)
    (fun c hc => hcalls c hc ▸ rfl) (fun c hc => hcalls c hc ▸ hnamed)
    (fun c hc => hcalls c hc ▸ hid) (by decide) (by decide)

end App

end Relocation.Web
