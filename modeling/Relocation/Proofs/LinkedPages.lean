import Relocation.Proofs.RouteLookups

/-! The pages in flow as a doubly linked list. Going from the first one to the next and the next
leads through all of them in order, and every step on can be undone by a step back. -/

namespace Relocation.Wizard

/-- What a list says about the place of a key in it. -/
structure Locates (n : Navigation) (key : PageKey) (keys : List PageKey) : Prop where
  current : n.current = key
  total : n.total = keys.length
  position_iff : ∀ i, n.position = some i ↔ keys[i]? = some key ∧ ∀ j < i, keys[j]? ≠ some key
  previous_iff : ∀ k, n.previous = some k ↔ ∃ i, n.position = some (i + 1) ∧ keys[i]? = some k
  next_iff : ∀ k, n.next = some k ↔ ∃ i, n.position = some i ∧ keys[i + 1]? = some k
  absent : key ∉ keys → n.position = none ∧ n.previous = none ∧ n.next = none ∧
    n.isFirst = false ∧ n.isLast = false

namespace Navigation

variable {key : PageKey} {keys : List PageKey}

theorem position_locate_iff {i : Nat} : (locate key keys).position = some i ↔
    keys[i]? = some key ∧ ∀ j < i, keys[j]? ≠ some key := by
  have hp : (locate key keys).position = keys.findIdx? (· = key) := rfl
  rw [hp, List.findIdx?_eq_some_iff_getElem]
  constructor
  · rintro ⟨hi, hkey, hbefore⟩
    have hk : keys[i] = key := by simpa using hkey
    refine ⟨List.getElem?_eq_some_iff.mpr ⟨hi, hk⟩, fun j hj he => ?_⟩
    obtain ⟨hlt, hjk⟩ := List.getElem?_eq_some_iff.mp he
    exact hbefore j hj (by simpa using hjk)
  · rintro ⟨hkey, hbefore⟩
    obtain ⟨hi, hk⟩ := List.getElem?_eq_some_iff.mp hkey
    refine ⟨hi, by simpa using hk, fun j hj he => hbefore j hj ?_⟩
    have hjk : keys[j] = key := by simpa using he
    rw [List.getElem?_eq_getElem (hj.trans hi), hjk]

theorem previous_locate_iff {k : PageKey} : (locate key keys).previous = some k ↔
    ∃ i, (locate key keys).position = some (i + 1) ∧ keys[i]? = some k := by
  have hp : (locate key keys).previous =
      (locate key keys).position.bind fun i => if i = 0 then none else keys[i - 1]? := rfl
  rw [hp, Option.bind_eq_some_iff]
  constructor
  · rintro ⟨i, hi, hk⟩
    cases i with
    | zero => cases hk
    | succ i => exact ⟨i, hi, by simpa using hk⟩
  · rintro ⟨i, hi, hk⟩
    exact ⟨i + 1, hi, by simpa using hk⟩

theorem next_locate_iff {k : PageKey} : (locate key keys).next = some k ↔
    ∃ i, (locate key keys).position = some i ∧ keys[i + 1]? = some k :=
  Option.bind_eq_some_iff

theorem locates_locate (key : PageKey) (keys : List PageKey) :
    Locates (locate key keys) key keys := by
  refine
    { current := rfl
      total := rfl
      position_iff := fun i => position_locate_iff
      previous_iff := fun k => previous_locate_iff
      next_iff := fun k => next_locate_iff
      absent := fun hno => ?_ }
  simp [locate, isFirst, isLast, findIdx?_eq_none_of_notMem hno]

example : locate .review [.orders, .review, .agreement, .review] =
    { current := .review, position := some 1, total := 4
      previous := some .orders, next := some .agreement } := by decide

end Navigation

namespace Flow

variable {flow : Flow} {s : State} {key next : PageKey} {n : Navigation}
  {before after keys : List PageKey}

/-- The stop that the route of a page makes; a page out of flow has none. -/
def stop? (flow : Flow) (key : PageKey) (s : State) : Option Stop :=
  (flow.route? key s).bind Route.stop?

theorem stop?_eq_some_iff {own : Stop} : flow.stop? key s = some own ↔
    ∃ page ∈ flow.inFlowPages s, page.key = key ∧ own = flow.stop page s := by
  rw [stop?, Option.bind_eq_some_iff]
  constructor
  · rintro ⟨r, hr, hown⟩
    obtain ⟨hm, rfl⟩ := route?_eq_some_iff.mp hr
    exact stop?_eq_some hm hown
  · rintro ⟨page, hp, rfl, rfl⟩
    exact ⟨flow.routeOf s page, route?_of_mem (mem_inFlowPages.mp hp).1, stop?_routeOf hp⟩

def navigation? (flow : Flow) (key : PageKey) (s : State) : Option Navigation :=
  (flow.stop? key s).map Stop.navigation

theorem navigation?_eq_some_iff : flow.navigation? key s = some n ↔
    key ∈ flow.inFlow s ∧ n = .locate key (flow.inFlow s) := by
  rw [navigation?, Option.map_eq_some_iff]
  simp only [stop?_eq_some_iff]
  constructor
  · rintro ⟨_, ⟨page, hp, rfl, rfl⟩, rfl⟩
    exact ⟨List.mem_map_of_mem hp, rfl⟩
  · rintro ⟨hkey, rfl⟩
    obtain ⟨page, hp, rfl⟩ := List.mem_map.mp hkey
    exact ⟨flow.stop page s, ⟨page, hp, rfl, rfl⟩, rfl⟩

theorem navigation?_of_split (h : flow.inFlow s = before ++ key :: after) :
    flow.navigation? key s = some
      { current := key, position := some before.length
        total := before.length + after.length + 1
        previous := before.getLast?, next := after.head? } :=
  navigation?_eq_some_iff.mpr ⟨by simp [h], (locate_inFlow h).symm⟩

theorem exists_split_of_navigation? (h : flow.navigation? key s = some n) :
    ∃ before after, flow.inFlow s = before ++ key :: after :=
  List.append_of_mem (navigation?_eq_some_iff.mp h).1

theorem next_eq_some_iff : (flow.navigation? key s).bind Navigation.next = some next ↔
    ∃ before after, flow.inFlow s = before ++ key :: next :: after := by
  constructor
  · intro h
    obtain ⟨n, hn, hnext⟩ := Option.bind_eq_some_iff.mp h
    obtain ⟨before, after, hsplit⟩ := exists_split_of_navigation? hn
    rw [navigation?_of_split hsplit, Option.bind_some] at h
    obtain ⟨rest, rfl⟩ := List.head?_eq_some_iff.mp h
    exact ⟨before, rest, hsplit⟩
  · rintro ⟨before, after, hsplit⟩
    rw [navigation?_of_split hsplit]
    rfl

theorem previous_eq_some_iff : (flow.navigation? next s).bind Navigation.previous = some key ↔
    ∃ before after, flow.inFlow s = before ++ key :: next :: after := by
  constructor
  · intro h
    obtain ⟨n, hn, hprevious⟩ := Option.bind_eq_some_iff.mp h
    obtain ⟨before, after, hsplit⟩ := exists_split_of_navigation? hn
    rw [navigation?_of_split hsplit, Option.bind_some] at h
    obtain ⟨front, rfl⟩ := List.getLast?_eq_some_iff.mp h
    exact ⟨front, after, by simpa using hsplit⟩
  · rintro ⟨before, after, hsplit⟩
    have hsplit' : flow.inFlow s = (before ++ [key]) ++ next :: after := by simpa using hsplit
    rw [navigation?_of_split hsplit']
    simp

/-- The pages that one comes through from a page on, going on to the next page while there is
one. -/
inductive Walk (flow : Flow) (s : State) : PageKey → List PageKey → Prop
  | last {key : PageKey} {n : Navigation} (h : flow.navigation? key s = some n)
      (hn : n.next = none) : Walk flow s key [key]
  | step {key next : PageKey} {n : Navigation} {keys : List PageKey}
      (h : flow.navigation? key s = some n) (hn : n.next = some next)
      (rest : Walk flow s next keys) : Walk flow s key (key :: keys)

theorem walk_of_split (h : flow.inFlow s = before ++ key :: after) :
    flow.Walk s key (key :: after) := by
  have hn := navigation?_of_split h
  induction after generalizing before key with
  | nil => exact .last hn rfl
  | cons next after ih =>
    have hsplit : flow.inFlow s = (before ++ [key]) ++ next :: after := by simpa using h
    exact .step hn rfl (ih hsplit (navigation?_of_split hsplit))

/-- A step of the walk leaves no choice. -/
theorem Walk.unique {keys' : List PageKey} (h : flow.Walk s key keys) (h' : flow.Walk s key keys') :
    keys = keys' := by
  induction h generalizing keys' with
  | @last key n hnav hnone =>
    cases h' with
    | last => rfl
    | step hnav' hsome rest =>
      obtain rfl := Option.some.inj (hnav.symm.trans hnav')
      rw [hnone] at hsome
      cases hsome
  | @step key next n keys hnav hsome _ ih =>
    cases h' with
    | last hnav' hnone =>
      obtain rfl := Option.some.inj (hnav.symm.trans hnav')
      rw [hnone] at hsome
      cases hsome
    | @step _ next' _ _ hnav' hsome' rest' =>
      obtain rfl := Option.some.inj (hnav.symm.trans hnav')
      obtain rfl := Option.some.inj (hsome.symm.trans hsome')
      rw [ih rest']

theorem walk_iff (h : flow.inFlow s = key :: after) :
    flow.Walk s key keys ↔ keys = flow.inFlow s := by
  have hsplit : flow.inFlow s = [] ++ key :: after := h
  have hwalk : flow.Walk s key (flow.inFlow s) := h.symm ▸ walk_of_split hsplit
  exact ⟨fun hk => hk.unique hwalk, fun hk => hk ▸ hwalk⟩

theorem isFirst_iff (h : flow.navigation? key s = some n) :
    n.isFirst = true ↔ (flow.inFlow s).head? = some key := by
  constructor
  · intro hfirst
    obtain ⟨before, after, hsplit⟩ := exists_split_of_navigation? h
    obtain rfl := Option.some.inj (h.symm.trans (navigation?_of_split hsplit))
    have hbefore : before = [] := by simpa [Navigation.isFirst] using hfirst
    rw [hsplit, hbefore]
    rfl
  · intro hhead
    obtain ⟨after, hsplit⟩ := List.head?_eq_some_iff.mp hhead
    have hsplit' : flow.inFlow s = [] ++ key :: after := hsplit
    obtain rfl := Option.some.inj (h.symm.trans (navigation?_of_split hsplit'))
    rfl

theorem isLast_iff (h : flow.navigation? key s = some n) :
    n.isLast = true ↔ (flow.inFlow s).getLast? = some key := by
  constructor
  · intro hlast
    obtain ⟨before, after, hsplit⟩ := exists_split_of_navigation? h
    obtain rfl := Option.some.inj (h.symm.trans (navigation?_of_split hsplit))
    have hafter : after = [] := by simpa [Navigation.isLast] using hlast
    rw [hsplit, hafter, List.getLast?_concat]
  · intro hlast
    obtain ⟨before, hsplit⟩ := List.getLast?_eq_some_iff.mp hlast
    obtain rfl := Option.some.inj (h.symm.trans (navigation?_of_split hsplit))
    rfl

theorem exists_navigation?_of_getElem? {i : Nat} (h : (flow.inFlow s)[i]? = some key) :
    ∃ n, flow.navigation? key s = some n ∧ n.position = some i ∧
      n.total = (flow.inFlow s).length := by
  obtain ⟨hi, hkey⟩ := List.getElem?_eq_some_iff.mp h
  have hdrop : (flow.inFlow s).drop i = key :: (flow.inFlow s).drop (i + 1) := by
    rw [List.drop_eq_getElem_cons hi, hkey]
  have hsplit : flow.inFlow s = (flow.inFlow s).take i ++ key :: (flow.inFlow s).drop (i + 1) := by
    rw [← hdrop, List.take_append_drop]
  refine ⟨_, navigation?_of_split hsplit, ?_, ?_⟩
  · simp only [List.length_take, Option.some.injEq]
    omega
  · simp only [List.length_take, List.length_drop]
    omega

/-- Going on leads through the pages in flow in order, and going back undoes it. -/
structure IsLinked (flow : Flow) (s : State) : Prop where
  walk : ∀ first, (flow.inFlow s).head? = some first →
    ∀ keys, flow.Walk s first keys ↔ keys = flow.inFlow s
  once : (flow.inFlow s).Nodup
  back : ∀ key next, (flow.navigation? key s).bind Navigation.next = some next ↔
    (flow.navigation? next s).bind Navigation.previous = some key
  ends : ∀ key n, flow.navigation? key s = some n →
    (n.isFirst = true ↔ (flow.inFlow s).head? = some key) ∧
      (n.isLast = true ↔ (flow.inFlow s).getLast? = some key)
  placed : ∀ (i : Nat) (key : PageKey), (flow.inFlow s)[i]? = some key →
    ∃ n, flow.navigation? key s = some n ∧ n.position = some i ∧
      n.total = (flow.inFlow s).length

end Flow

/-- The pages in flow are a doubly linked list, whatever the flow and the state. In any list of keys
a page is located at its first place there, and next to the keys around it. -/
theorem pages_in_flow_are_linked (flow : Flow) (s : State) :
    flow.IsLinked s ∧ ∀ key keys, Locates (Navigation.locate key keys) key keys := by
  refine ⟨?_, Navigation.locates_locate⟩
  exact
    { walk := fun first hfirst keys => by
        obtain ⟨after, hsplit⟩ := List.head?_eq_some_iff.mp hfirst
        exact Flow.walk_iff hsplit
      once := flow.inFlow_nodup s
      back := fun key next => Flow.next_eq_some_iff.trans Flow.previous_eq_some_iff.symm
      ends := fun key n hn => ⟨Flow.isFirst_iff hn, Flow.isLast_iff hn⟩
      placed := fun i key => Flow.exists_navigation?_of_getElem? }

end Relocation.Wizard
