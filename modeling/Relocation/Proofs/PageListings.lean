import Relocation.Command.Flow
import Relocation.Proofs.RouteLookups
import Relocation.Proofs.SessionIsolation

/-! The pages in flow as the command lists them and as requests list them. Both lists come from the
same rows, and both give a page the same place among them. -/

namespace Relocation

open Wizard

/-! ### Rows -/

/-- A page of a listing, with its path where the wizard knows enough to make one. -/
structure Row where
  key : PageKey
  href? : Option String
  pattern : String

namespace Row

def ofPage (s : State) (page : Page) : Row :=
  ⟨page.key, (page.path.fill s.pathParams).toOption, page.path.raw⟩

/-- The pages in flow, in the order of the flow. -/
def inFlow (flow : Flow) (s : State) : List Row :=
  (flow.pages.filter (·.isInFlow s)).map (ofPage s)

theorem inFlow_eq (flow : Flow) (s : State) :
    inFlow flow s = (flow.inFlowPages s).map (ofPage s) := rfl

theorem length_inFlow {flow : Flow} {s : State} {before rest : List Page} {page : Page}
    (h : flow.inFlowPages s = before ++ page :: rest) :
    (inFlow flow s).length = before.length + rest.length + 1 := by
  simp [inFlow_eq, h, Nat.add_assoc]

/-- The line of a page tells its path, or its pattern while there is no path. -/
def line (number : Nat) (row : Row) : String :=
  let number := Text.padLeft ' ' 2 (toString number)
  s!"  {number}. {row.key.name} {row.href?.getD row.pattern}"

/-- The line above those of so many pages. -/
def title (moveType : Option MoveType) (count : Nat) : String :=
  let moveType := moveType.elim "<unset>" MoveType.name
  let total := standardFlow.pages.length
  s!"in-flow pages for move type {moveType} ({count} of {total}):"

/-- The lines of a listing are numbered from one on. -/
def lines (rows : List Row) : List String := rows.mapIdx fun i row => row.line (i + 1)

def neighbourLine (label : String) : Option Row → String
  | none => s!"  {label}: <none>"
  | some row =>
    let path := row.href?.getD "<needs more context>"
    s!"  {label}: {row.key.name} {path}"

/-- An entry of a listing tells key, path and pattern of the page; the path may be `null`. -/
structure IsListed (row : Row) (entry : Json) : Prop where
  key : entry.member? "key" = some (.string row.key.name)
  href : entry.member? "href" = some (.ofOption row.href?)
  pattern : entry.member? "pattern" = some (.string row.pattern)

/-- The entries of a listing are these rows. -/
def AreListed (rows : List Row) (listing : Json) : Prop :=
  ∃ entries, listing.member? "pages" = some (.array entries) ∧ List.Forall₂ IsListed rows entries

end Row

/-- What a listing says of the place of a page and the lines that describe the page agree. Both have
no place for it and it has no row, or both have it where its row stands, between the rows that are
next to it. -/
inductive PlaceAgrees (rows : List Row) (key : PageKey) (navigation : Json) : List String → Prop
  | outOfFlow (hrows : ∀ row ∈ rows, row.key ≠ key)
      (hposition : navigation.member? "position" = some .null) :
      PlaceAgrees rows key navigation
        [s!"page {key.name}: missing context (not in flow for this state)"]
  | inFlow {before after : List Row} {row : Row} (submitLine : String)
      (hrows : rows = before ++ row :: after) (hkey : row.key = key)
      (hposition : navigation.member? "position" = some (.number before.length))
      (htotal : navigation.member? "total" = some (.number rows.length))
      (hprevious : navigation.member? "previous" =
        some (.ofOption (before.getLast?.map (·.key.name))))
      (hnext : navigation.member? "next" = some (.ofOption (after.head?.map (·.key.name)))) :
      PlaceAgrees rows key navigation
        [s!"page {key.name}: in flow (step {before.length + 1} of {rows.length})",
          Row.neighbourLine "previous" before.getLast?, Row.neighbourLine "next" after.head?,
          submitLine]

/-! ### The command -/

namespace Command

variable {flow : Flow} {s : State} {page : Page} {key : PageKey}

theorem pageLines_eq (s : State) (pages : List Page) :
    pageLines s pages = Row.lines (pages.map (Row.ofPage s)) := by
  refine List.ext_getElem (by simp [pageLines, Row.lines]) fun i h h' => ?_
  simp only [pageLines, Row.lines, List.getElem_mapIdx, List.getElem_map]
  rfl

theorem merge_self (d : Dictionary String) : d.merge d = d := by
  refine Dictionary.ext_get? fun k => ?_
  rw [Dictionary.get?_merge]
  cases d.get? k <;> rfl

theorem neighbourLine_eq (label : String) (s : State) (neighbour? : Option Page) :
    neighbourLine label (neighbour?.map Page.key) (neighbour?.elim (.ok none) fun page =>
        some <$> page.path.fill (s.pathParams.merge s.pathParams)) =
      Row.neighbourLine label (neighbour?.map (Row.ofPage s)) := by
  cases neighbour? with
  | none => rfl
  | some page =>
    rw [merge_self]
    simp only [Option.map_some, Option.elim_some, neighbourLine, Row.neighbourLine, Row.ofPage]
    cases page.path.fill s.pathParams <;> rfl

theorem describePage_of_outOfFlow (hp : page ∈ flow.pages) (h : page.isInFlow s = false) :
    describePage flow page.key s =
      [s!"page {page.key.name}: missing context (not in flow for this state)"] := by
  simp [describePage, Flow.route?_of_mem hp, Flow.routeOf, h]

theorem describePage_of_inFlow {before rest : List Page}
    (h : flow.inFlowPages s = before ++ page :: rest) : describePage flow page.key s =
      let earlier := before.map (Row.ofPage s)
      let later := rest.map (Row.ofPage s)
      let total := (Row.inFlow flow s).length
      [s!"page {page.key.name}: in flow (step {earlier.length + 1} of {total})",
        Row.neighbourLine "previous" earlier.getLast?, Row.neighbourLine "next" later.head?,
        s!"  submit: {submitText (flow.stop page s).submitAction}"] := by
  have hp : page ∈ flow.inFlowPages s := by simp [h]
  have hroute := Flow.route?_of_mem (s := s) (Flow.mem_inFlowPages.mp hp).1
  have hstate : (flow.stop page s).state = s := rfl
  simp only [describePage, hroute, Flow.stop?_routeOf hp, Option.elim_some, stopLines, hstate,
    Flow.previousPath_stop h, Flow.nextPath_stop h, Flow.navigation_stop h, neighbourLine_eq,
    Row.length_inFlow h, List.getLast?_map, List.head?_map, List.length_map]
  rfl

/-- The state that the arguments describe: what they give is known, and there is a move if they
give the id of one. -/
def FlowArguments.described (a : FlowArguments) : State where
  serviceMemberId := a.serviceMemberId
  moveType := a.moveType
  hasMove := a.moveId.isSome
  moveId := a.moveId
  ordersId := a.ordersId

theorem FlowArguments.state_eq (a : FlowArguments) : a.state = a.described := by
  obtain ⟨serviceMemberId, moveType, moveId, ordersId, page⟩ := a
  cases ordersId <;> cases moveId <;> rfl

theorem message_flow (a : FlowArguments) :
    let rows := Row.inFlow standardFlow a.described
    (Command.flow a).message = "\n".intercalate
      (Row.title a.moveType rows.length :: (Row.lines rows ++
        a.page.elim [] fun key => describePage standardFlow key a.described)) := by
  intro rows
  have hlength : rows.length = (standardFlow.inFlowPages a.described).length := List.length_map _
  have hlines : Row.lines rows = pageLines a.described (standardFlow.inFlowPages a.described) :=
    (pageLines_eq ..).symm
  rw [hlength, hlines]
  simp only [Command.flow, flowLines, Text.joinLines, a.state_eq]
  rfl

theorem exists_page (key : PageKey) : ∃ page ∈ standardFlow.pages, page.key = key := by
  have h : ∀ key ∈ (Named.all : List PageKey), key ∈ standardFlow.pages.map Page.key := by decide
  exact List.mem_map.mp (h key (Named.mem_all key))

end Command

/-! ### The requests -/

namespace Web

open Http

variable {flow : Flow} {s : State} {page : Page} {current? : Option PageKey}

theorem isListed_listingJson (s : State) (page : Page) :
    (Row.ofPage s page).IsListed (listingJson s page) :=
  ⟨rfl, rfl, rfl⟩

theorem areListed_pagesJson (flow : Flow) (s : State) (current? : Option PageKey) :
    Row.AreListed (Row.inFlow flow s) (pagesJson flow s current?) := by
  refine ⟨_, rfl, ?_⟩
  rw [Row.inFlow, List.forall₂_map_left_iff, List.forall₂_map_right_iff]
  exact List.forall₂_same.mpr fun page _ => isListed_listingJson s page

theorem member?_sessionJson (flow : Flow) (id : SessionId) (s : State) :
    (sessionJson flow id s).member? "pages" =
      some (Json.strings ((Row.inFlow flow s).map (·.key.name))) := by
  have hkeys : (flow.inFlow s).map PageKey.name = (Row.inFlow flow s).map (·.key.name) := by
    simp [Flow.inFlow, Row.inFlow_eq, Row.ofPage, Function.comp_def]
  rw [← hkeys]
  rfl

theorem navigationJson_of_inFlow {before rest : List Page}
    (h : flow.inFlowPages s = before ++ page :: rest) :
    let navigation := navigationJson (.locate page.key (flow.inFlow s))
    let earlier := before.map (Row.ofPage s)
    let later := rest.map (Row.ofPage s)
    navigation.member? "position" = some (.number earlier.length) ∧
      navigation.member? "total" = some (.number (Row.inFlow flow s).length) ∧
      navigation.member? "previous" = some (.ofOption (earlier.getLast?.map (·.key.name))) ∧
      navigation.member? "next" = some (.ofOption (later.head?.map (·.key.name))) := by
  intro navigation earlier later
  have hnavigation : navigation = navigationJson _ :=
    congrArg navigationJson (Flow.navigation_stop h)
  have hname : ∀ page? : Option Page, (page?.map (Row.ofPage s)).map (·.key.name) =
      (page?.map Page.key).map PageKey.name := fun page? => by
    simp [Option.map_map, Function.comp_def, Row.ofPage]
  rw [hnavigation, Row.length_inFlow h, List.length_map, List.getLast?_map, List.head?_map, hname,
    hname]
  exact ⟨rfl, rfl, rfl, rfl⟩

/-- A page that is not in flow has no place in the listing, and one that is has the place that its
lines tell. -/
theorem placeAgrees (hp : page ∈ flow.pages) : PlaceAgrees (Row.inFlow flow s) page.key
    (navigationJson (.locate page.key (flow.inFlow s)))
    (Command.describePage flow page.key s) := by
  cases hin : page.isInFlow s with
  | false =>
    rw [Command.describePage_of_outOfFlow hp hin]
    have hnot : page.key ∉ flow.inFlow s := fun hk => by
      rw [Flow.mem_inFlow_iff hp, hin] at hk
      cases hk
    have hposition : (flow.inFlow s).findIdx? (· = page.key) = none := by
      rw [List.findIdx?_eq_none_iff]
      intro key hk
      simpa using fun he : key = page.key => hnot (he ▸ hk)
    refine .outOfFlow (fun row hrow he => ?_) ?_
    · obtain ⟨other, ho, rfl⟩ := List.mem_map.mp hrow
      exact hnot (he ▸ List.mem_map_of_mem ho)
    · simp [navigationJson, Navigation.locate, hposition, Json.member?]
  | true =>
    obtain ⟨before, rest, h⟩ := List.append_of_mem (Flow.mem_inFlowPages.mpr ⟨hp, hin⟩)
    obtain ⟨hposition, htotal, hprevious, hnext⟩ := navigationJson_of_inFlow h
    have hrows : Row.inFlow flow s =
        before.map (Row.ofPage s) ++ Row.ofPage s page :: rest.map (Row.ofPage s) := by
      rw [Row.inFlow_eq, h, List.map_append, List.map_cons]
    rw [Command.describePage_of_inFlow h]
    exact .inFlow _ hrows rfl hposition htotal hprevious hnext

/-- A `GET` request for the listing of the pages, made in a session, whose query asks for the place
of a page by its name, or of none. -/
structure Call.AsksListing (call : Call) (app : App) (id : SessionId)
    (current? : Option PageKey) : Prop where
  method : call.request.method = "GET"
  path : call.request.path = "/api/v1/wizard/pages"
  named : app.namedSession? call.request = some id
  query : (formFields call.request.target.query).filter (·.1 = some "current") =
    (current?.map fun key => (some "current", some key.name)).toList

theorem Call.AsksListing.currentPage?_eq {app : App} {call : Call} {id : SessionId}
    (h : call.AsksListing app id current?) :
    currentPage? call.request.target.query = some current? := by
  rw [currentPage?, h.query]
  cases current? with
  | none => rfl
  | some key => simp [Named.ofName?_eq_some_iff.mpr (rfl : Named.name key = key.name)]

theorem endpoint?_listing :
    endpoint? standardFlow "/api/v1/wizard/pages" = some (.listing, []) := by
  rw [endpoint?, routes_standardFlow]
  decide +kernel

namespace App

variable {app : App} {call : Call} {id : SessionId}

/-- The request is answered with the session under an id and this state: it reads the session,
replaces its state, or starts it. -/
inductive ShowsSession (app : App) (call : Call) (id : SessionId) (s : State) : Prop
  | read {taken : List String} (hmethod : call.request.method = "GET")
      (hroute : endpoint? app.flow call.request.path = some (.session, taken))
      (hid : decodePercent? (taken.headD "") = some id)
      (hlive : app.sessions.LiveAt call.occasion.now id s)
  | replaced {taken : List String} (hmethod : call.request.method = "PUT")
      (hroute : endpoint? app.flow call.request.path = some (.session, taken))
      (hid : decodePercent? (taken.headD "") = some id) (hbody : stateBody call.request = .ok s)
      (hstored : app.sessions.entries.contains id = true)
  | started {taken : List String} (hmethod : call.request.method = "POST")
      (hroute : endpoint? app.flow call.request.path = some (.sessions, taken))
      (hbody : stateBody call.request = .ok s)
      (hcreated : (app.sessions.create call.occasion.now call.occasion.sessionId s).1 = .ok id)

theorem response_turn_of_asksListing (hflow : app.flow = standardFlow)
    (h : call.AsksListing app id current?)
    (hlive : app.sessions.LiveAt call.occasion.now id s) :
    (app.turn call).response = ⟨200, .json (pagesJson standardFlow s current?)⟩ := by
  have hroute : endpoint? app.flow call.request.path = some (.listing, []) := by
    rw [hflow, h.path]
    exact endpoint?_listing
  rw [turn_eq_answer h.method hroute (by decide)]
  simp only [answer, listPages, h.currentPage?_eq, caller_of_live h.named hlive, hflow]
  rfl

theorem turn_eq_answer_of_ne_head (hhead : call.request.method ≠ "HEAD") {endpoint : Endpoint}
    {taken : List String} (hroute : endpoint? app.flow call.request.path = some (endpoint, taken))
    (hmethod : call.request.method ∈ endpoint.methods) :
    app.turn call = app.answer call.occasion call.request endpoint taken := by
  simp [turn, step, hroute, hhead, hmethod]

theorem response_turn_of_showsSession (h : app.ShowsSession call id s) :
    ∃ status, (app.turn call).response = ⟨status, .json (sessionJson app.flow id s)⟩ := by
  cases h with
  | read hmethod hroute hid hlive =>
    have hput : call.request.method ≠ "PUT" := by simp [hmethod]
    have hdelete : call.request.method ≠ "DELETE" := by simp [hmethod]
    rw [turn_eq_answer hmethod hroute (by decide)]
    simp only [answer, withId, hid, if_neg hput, if_neg hdelete, showSession, visit,
      Sessions.get_of_live hlive]
    exact ⟨200, rfl⟩
  | replaced hmethod hroute hid hbody hstored =>
    rw [turn_eq_answer_of_ne_head (by simp [hmethod]) hroute (by simp [hmethod, Endpoint.methods])]
    simp only [answer, withId, hid, if_pos hmethod, replaceSession, hbody, Sessions.replace,
      if_pos hstored]
    exact ⟨200, rfl⟩
  | started hmethod hroute hbody hcreated =>
    rw [turn_eq_answer_of_ne_head (by simp [hmethod]) hroute (by simp [hmethod, Endpoint.methods])]
    cases hcreate : app.sessions.create call.occasion.now call.occasion.sessionId s with
    | mk result sessions =>
      rw [hcreate] at hcreated
      obtain rfl : result = .ok id := hcreated
      simp only [answer, startSession, hbody, hcreate]
      exact ⟨201, rfl⟩

end App

end Web

/-- The command and the requests in a session with the state that its arguments describe list the
pages in flow in their order, with the same paths, and agree on the place of a page. -/
theorem listings_agree (a : Command.FlowArguments) {app : Web.App} {list session : Web.Call}
    {id id' : SessionId} {current? : Option PageKey} (hflow : app.flow = standardFlow)
    (hlist : list.AsksListing app id current?)
    (hlive : app.sessions.LiveAt list.occasion.now id a.described)
    (hsession : app.ShowsSession session id' a.described) :
    let rows := Row.inFlow standardFlow a.described
    ∃ described,
      (Command.flow a).message = "\n".intercalate
        (Row.title a.moveType rows.length :: (Row.lines rows ++ described)) ∧
      (a.page = none → described = []) ∧
      (∃ listing, (app.turn list).response = ⟨200, .json listing⟩ ∧
        Row.AreListed rows listing ∧
        ∀ key, a.page = some key → current? = some key → ∃ navigation,
          listing.member? "navigation" = some navigation ∧
            PlaceAgrees rows key navigation described) ∧
      ∃ status shown, (app.turn session).response = ⟨status, .json shown⟩ ∧
        shown.member? "pages" = some (Json.strings (rows.map (·.key.name))) := by
  intro rows
  refine ⟨a.page.elim [] fun key => Command.describePage standardFlow key a.described,
    Command.message_flow a, fun hnone => by rw [hnone, Option.elim_none], ?_, ?_⟩
  · refine ⟨_, Web.App.response_turn_of_asksListing hflow hlist hlive,
      Web.areListed_pagesJson .., ?_⟩
    rintro key hpage rfl
    obtain ⟨page, hp, rfl⟩ := Command.exists_page key
    rw [hpage, Option.elim_some]
    exact ⟨_, rfl, Web.placeAgrees hp⟩
  · obtain ⟨status, hresponse⟩ := Web.App.response_turn_of_showsSession hsession
    rw [hflow] at hresponse
    exact ⟨status, _, hresponse, Web.member?_sessionJson ..⟩

/-- A page of a move that the arguments name is described with what the listing has for its
neighbours. -/
theorem listings_agree_on_moveType :
    let a : Command.FlowArguments :=
      { serviceMemberId := some "m-1", moveId := some "v-1", ordersId := some "o-1",
        page := some .moveType }
    let s : State :=
      { serviceMemberId := some "m-1", hasMove := true, moveId := some "v-1",
        ordersId := some "o-1" }
    let app := Web.App.withSession "s" s
    let headers := [("x-wizard-session", "s")]
    let list : Web.Call := { occasion := .zero "" "", request :=
      { method := "GET", target := ⟨"/api/v1/wizard/pages", "current=move-type"⟩, headers } }
    let session : Web.Call := { occasion := .zero "" "", request :=
      { method := "GET", target := ⟨"/api/v1/sessions/s", ""⟩ } }
    let rows := Row.inFlow standardFlow s
    ∃ listing navigation described,
      (app.turn list).response = ⟨200, .json listing⟩ ∧ Row.AreListed rows listing ∧
      listing.member? "navigation" = some navigation ∧
      PlaceAgrees rows .moveType navigation described ∧
      (Command.flow a).message =
        "\n".intercalate (Row.title none rows.length :: (Row.lines rows ++ described)) ∧
      ∃ status shown, (app.turn session).response = ⟨status, .json shown⟩ ∧
        shown.member? "pages" = some (Json.strings (rows.map (·.key.name))) := by
  intro a s app headers list session rows
  have hlive : app.sessions.LiveAt 0 "s" a.described := ⟨0, by decide, by decide⟩
  have hlist : list.AsksListing app "s" (some .moveType) :=
    ⟨rfl, rfl, by decide, by decide +kernel⟩
  have hroute : Web.endpoint? standardFlow "/api/v1/sessions/s" =
      some (Web.Endpoint.session, ["s"]) := by
    rw [Web.endpoint?, Web.routes_standardFlow]
    decide +kernel
  have hsession : app.ShowsSession session "s" a.described :=
    .read rfl hroute (by decide +kernel) hlive
  obtain ⟨described, hmessage, -, ⟨listing, hresponse, hlisted, hplace⟩, hshown⟩ :=
    listings_agree a rfl hlist hlive hsession
  obtain ⟨navigation, hnavigation, hagrees⟩ := hplace .moveType rfl rfl
  exact ⟨listing, navigation, described, hresponse, hlisted, hnavigation, hagrees, hmessage, hshown⟩

end Relocation
