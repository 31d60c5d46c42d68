import Mathlib.Data.List.Perm.Subperm
import Mathlib.Data.List.TakeWhile
import Mathlib.Order.Bounds.Basic
import Relocation.Proofs.EquivalentPatterns

/-! Pages that repeat an earlier one, by key or by path. A flow is made of every list of pages in
which none does; otherwise the first page that does is refused. -/

namespace Relocation

theorem Named.length_le_of_nodup {α : Type} [Named α] {l : List α} (h : l.Nodup) :
    l.length ≤ (Named.all : List α).length :=
  (List.subperm_of_subset h fun a _ => Named.mem_all a).length_le

namespace Wizard

/-- What is left of a path when all slashes at its end are taken away. -/
structure IsTrimmed (path base : String) : Prop where
  slashes : ∃ n, path.toList = base.toList ++ List.replicate n '/'
  getLast? : base.toList.getLast? ≠ some '/'

def Page.SharesKey (p q : Page) : Prop := p.key = q.key

/-- The paths are the same but for slashes at the end. -/
def Page.SharesPath (p q : Page) : Prop :=
  ∃ base, IsTrimmed p.path.raw base ∧ IsTrimmed q.path.raw base

open Page

/-- The page at this place is related to an earlier one. -/
def RepeatsAt (same : Page → Page → Prop) (pages : List Page) (i : Nat) : Prop :=
  ∃ page, pages[i]? = some page ∧ ∃ p ∈ pages.take i, same p page

def Repeats (pages : List Page) (i : Nat) : Prop :=
  RepeatsAt SharesKey pages i ∨ RepeatsAt SharesPath pages i

/-- What is wrong with a page that repeats an earlier one. A repeated path only counts where the
key is new. -/
inductive Fault (pages : List Page) (i : Nat) : Violation → Prop
  | key {page : Page} (hpage : pages[i]? = some page) (h : RepeatsAt SharesKey pages i) :
      Fault pages i (.duplicatePage page.key)
  | path {page : Page} (hpage : pages[i]? = some page) (hkey : ¬ RepeatsAt SharesKey pages i)
      (h : RepeatsAt SharesPath pages i) : Fault pages i (.duplicatePath page.path.raw)

/-- No two pages share a key or a path. -/
structure NoneRepeats (pages : List Page) : Prop where
  keys : pages.Pairwise fun p q => ¬ SharesKey p q
  paths : pages.Pairwise fun p q => ¬ SharesPath p q

variable {pages earlier : List Page} {page : Page} {v : Violation} {i : Nat}

/-! ### Paths -/

theorem isTrimmed_trimmedPath (page : Page) : IsTrimmed page.path.raw page.trimmedPath := by
  let cs := page.path.raw.toList.reverse
  have hslashes : cs.takeWhile (· = '/') =
      List.replicate (cs.takeWhile (· = '/')).length '/' := by
    refine List.eq_replicate_of_mem fun c hc => ?_
    simpa using List.mem_takeWhile_imp hc
  have hsplit : page.path.raw.toList =
      (cs.dropWhile (· = '/')).reverse ++ (cs.takeWhile (· = '/')).reverse := by
    rw [← List.reverse_append, List.takeWhile_append_dropWhile, List.reverse_reverse]
  constructor
  · refine ⟨(cs.takeWhile (· = '/')).length, ?_⟩
    rw [hsplit, hslashes, List.reverse_replicate, List.length_replicate, trimmedPath,
      String.toList_ofList]
  · rw [trimmedPath, String.toList_ofList, List.getLast?_reverse]
    intro hhead
    have hnot := List.head?_dropWhile_not (fun c => decide (c = '/')) cs
    rw [hhead] at hnot
    cases hnot

theorem IsTrimmed.eq_trimmedPath {base : String} (h : IsTrimmed page.path.raw base) :
    base = page.trimmedPath := by
  obtain ⟨⟨n, hn⟩, hlast⟩ := h
  have hbase : base.toList.reverse.dropWhile (fun c => decide (c = '/')) = base.toList.reverse := by
    cases hc : base.toList.reverse with
    | nil => rfl
    | cons c cs =>
      refine List.dropWhile_cons_of_neg ?_
      rw [← List.head?_reverse, hc] at hlast
      simpa using hlast
  rw [trimmedPath, hn, List.reverse_append, List.reverse_replicate,
    List.dropWhile_append_of_pos (by simp), hbase, List.reverse_reverse, String.ofList_toList]

theorem Page.sharesPath_iff {p q : Page} : p.SharesPath q ↔ p.trimmedPath = q.trimmedPath := by
  constructor
  · rintro ⟨base, hp, hq⟩
    exact hp.eq_trimmedPath.symm.trans hq.eq_trimmedPath
  · intro h
    exact ⟨p.trimmedPath, isTrimmed_trimmedPath p, h ▸ isTrimmed_trimmedPath q⟩

/-! ### Pages that are accepted -/

theorem noneRepeats_iff : NoneRepeats pages ↔
    (pages.map Page.key).Nodup ∧ (pages.map Page.trimmedPath).Nodup := by
  simp only [List.Nodup, List.pairwise_map]
  constructor
  · rintro ⟨hkeys, hpaths⟩
    exact ⟨hkeys, hpaths.imp fun h he => h (sharesPath_iff.mpr he)⟩
  · rintro ⟨hkeys, hpaths⟩
    exact ⟨hkeys, hpaths.imp fun h he => h (sharesPath_iff.mp he)⟩

theorem NoneRepeats.subperm {others : List Page} (h : NoneRepeats pages)
    (hsub : others.Subperm pages) : NoneRepeats others := by
  obtain ⟨l, hperm, hsublist⟩ := hsub
  rw [noneRepeats_iff] at h ⊢
  exact ⟨(hperm.map Page.key).nodup_iff.mp (h.1.sublist (hsublist.map Page.key)),
    (hperm.map Page.trimmedPath).nodup_iff.mp (h.2.sublist (hsublist.map Page.trimmedPath))⟩

theorem NoneRepeats.length_le (h : NoneRepeats pages) : pages.length ≤ 20 := by
  have hkeys := Named.length_le_of_nodup (noneRepeats_iff.mp h).1
  rwa [List.length_map] at hkeys

theorem Flow.exists_ofPages_iff :
    (∃ flow, Flow.ofPages pages = .ok flow) ↔ NoneRepeats pages := by
  rw [noneRepeats_iff]
  constructor
  · rintro ⟨flow, h⟩
    obtain rfl := Flow.ofPages_eq_ok_iff.mp h
    exact ⟨flow.keys_nodup, flow.paths_nodup⟩
  · rintro ⟨hkeys, hpaths⟩
    exact ⟨⟨pages, hkeys, hpaths⟩, Flow.ofPages_eq_ok_iff.mpr rfl⟩

/-! ### The first page that is refused -/

theorem repeatsAt_length_iff {same : Page → Page → Prop} :
    RepeatsAt same (earlier ++ page :: pages) earlier.length ↔ ∃ p ∈ earlier, same p page := by
  simp [RepeatsAt]

theorem repeatsAt_sharesPath_iff :
    RepeatsAt SharesPath (earlier ++ page :: pages) earlier.length ↔
      page.trimmedPath ∈ earlier.map Page.trimmedPath := by
  simp only [repeatsAt_length_iff, sharesPath_iff, List.mem_map]

theorem repeatsAt_sharesKey_iff :
    RepeatsAt SharesKey (earlier ++ page :: pages) earlier.length ↔
      page.key ∈ earlier.map Page.key := by
  simp only [repeatsAt_length_iff, SharesKey, List.mem_map]

/-- The search goes on from the earlier pages, so it finds the first place behind them. -/
theorem exists_fault_of_duplicate? (h : duplicate? earlier pages = some v) :
    ∃ i, Fault (earlier ++ pages) i v ∧
      ∀ j, earlier.length ≤ j → j < i → ¬ Repeats (earlier ++ pages) j := by
  induction pages generalizing earlier with
  | nil => cases h
  | cons page pages ih =>
    have hpage : (earlier ++ page :: pages)[earlier.length]? = some page := by simp
    have hfirst : ∀ j, earlier.length ≤ j → j < earlier.length →
        ¬ Repeats (earlier ++ page :: pages) j := fun j hle hlt => absurd hlt (Nat.not_lt.mpr hle)
    unfold duplicate? at h
    split at h
    · next hkey =>
      obtain rfl := Option.some.inj h
      exact ⟨_, .key hpage (repeatsAt_sharesKey_iff.mpr hkey), hfirst⟩
    · next hkey =>
      have hkey : ¬ RepeatsAt SharesKey (earlier ++ page :: pages) earlier.length :=
        mt repeatsAt_sharesKey_iff.mp hkey
      split at h
      · next hpath =>
        obtain rfl := Option.some.inj h
        exact ⟨_, .path hpage hkey (repeatsAt_sharesPath_iff.mpr hpath), hfirst⟩
      · next hpath =>
        obtain ⟨i, hfault, hleast⟩ := ih h
        rw [List.append_assoc, List.singleton_append] at hfault hleast
        refine ⟨i, hfault, fun j hle hlt => ?_⟩
        rcases hle.eq_or_lt with rfl | hle
        · exact not_or.mpr ⟨hkey, mt repeatsAt_sharesPath_iff.mp hpath⟩
        · exact hleast j (by simpa using Nat.succ_le_of_lt hle) hlt

theorem Fault.repeats (h : Fault pages i v) : Repeats pages i := by
  cases h with
  | key _ h => exact .inl h
  | path _ _ h => exact .inr h

theorem Fault.unique {v' : Violation} (h : Fault pages i v) (h' : Fault pages i v') : v = v' := by
  cases h with
  | key hpage hkey =>
    cases h' with
    | key hpage' _ => rw [Option.some.inj (hpage.symm.trans hpage')]
    | path _ hno _ => exact absurd hkey hno
  | path hpage hno _ =>
    cases h' with
    | key _ hkey => exact absurd hkey hno
    | path hpage' _ _ => rw [Option.some.inj (hpage.symm.trans hpage')]

theorem NoneRepeats.not_repeats (h : NoneRepeats pages) : ¬ Repeats pages i := by
  have hno : ∀ {same : Page → Page → Prop}, pages.Pairwise (fun p q => ¬ same p q) →
      ¬ RepeatsAt same pages i := by
    rintro same hpairwise ⟨page, hpage, p, hp, hsame⟩
    have hlt := (List.getElem?_eq_some_iff.mp hpage).1
    rw [← List.take_append_drop i pages, List.pairwise_append] at hpairwise
    refine hpairwise.2.2 p hp page ?_ hsame
    rw [List.drop_eq_getElem_cons hlt, (List.getElem?_eq_some_iff.mp hpage).2]
    exact List.mem_cons_self
  exact not_or.mpr ⟨hno h.keys, hno h.paths⟩

theorem Flow.ofPages_eq_error_iff_fault : Flow.ofPages pages = .error v ↔
    ∃ i, IsLeast {i | Repeats pages i} i ∧ Fault pages i v := by
  have hrefused : ∀ {v}, Flow.ofPages pages = .error v →
      ∃ i, IsLeast {i | Repeats pages i} i ∧ Fault pages i v := by
    intro v h
    obtain ⟨i, hfault, hleast⟩ := exists_fault_of_duplicate? (Flow.ofPages_eq_error_iff.mp h)
    refine ⟨i, ⟨hfault.repeats, fun j hj => ?_⟩, hfault⟩
    exact Nat.le_of_not_lt fun hlt => hleast j (Nat.zero_le j) hlt hj
  refine ⟨hrefused, ?_⟩
  rintro ⟨i, hleast, hfault⟩
  -- Pages of which one repeats are not accepted, and what they are refused for is this fault.
  cases h : Flow.ofPages pages with
  | ok flow => exact absurd hfault.repeats (Flow.exists_ofPages_iff.mp ⟨flow, h⟩).not_repeats
  | error v' =>
    obtain ⟨i', hleast', hfault'⟩ := hrefused h
    obtain rfl := hleast.unique hleast'
    rw [hfault.unique hfault']

/-- The fault that goes with the first place that repeats an earlier one. -/
theorem exists_fault_of_repeats (h : Repeats pages i) :
    ∃ page, pages[i]? = some page ∧
      (RepeatsAt SharesKey pages i → Fault pages i (.duplicatePage page.key)) ∧
      (¬ RepeatsAt SharesKey pages i → Fault pages i (.duplicatePath page.path.raw)) := by
  have hpage : ∃ page, pages[i]? = some page := by
    rcases h with ⟨page, hpage, -⟩ | ⟨page, hpage, -⟩ <;> exact ⟨page, hpage⟩
  obtain ⟨page, hpage⟩ := hpage
  exact ⟨page, hpage, fun hkey => .key hpage hkey,
    fun hkey => .path hpage hkey (h.resolve_left hkey)⟩

/-- Pages are accepted as a flow, as they are, exactly if none repeats the key or the path of
another, and refused for the first one that does otherwise. Some of the pages of a flow, in any
order, are accepted too, and no flow has more than twenty. -/
theorem first_repeated_page_is_refused (pages : List Page) :
    ((∃ flow, Flow.ofPages pages = .ok flow) ↔ NoneRepeats pages) ∧
    (∀ flow, Flow.ofPages pages = .ok flow → flow.pages = pages ∧ pages.length ≤ 20) ∧
    (¬ NoneRepeats pages → ∃ i, IsLeast {i | Repeats pages i} i) ∧
    (∀ i, IsLeast {i | Repeats pages i} i → ∃ page, pages[i]? = some page ∧
      (RepeatsAt SharesKey pages i → Flow.ofPages pages = .error (.duplicatePage page.key)) ∧
      (¬ RepeatsAt SharesKey pages i →
        Flow.ofPages pages = .error (.duplicatePath page.path.raw))) ∧
    (NoneRepeats pages → ∀ others : List Page, others.Subperm pages →
      ∃ flow, Flow.ofPages others = .ok flow ∧ flow.pages = others) := by
  refine ⟨Flow.exists_ofPages_iff, fun flow h => ?_, fun h => ?_, fun i hleast => ?_,
    fun h others hsub => ?_⟩
  · exact ⟨Flow.ofPages_eq_ok_iff.mp h, (Flow.exists_ofPages_iff.mp ⟨flow, h⟩).length_le⟩
  · cases hp : Flow.ofPages pages with
    | ok flow => exact absurd (Flow.exists_ofPages_iff.mp ⟨flow, hp⟩) h
    | error v =>
      obtain ⟨i, hleast, -⟩ := Flow.ofPages_eq_error_iff_fault.mp hp
      exact ⟨i, hleast⟩
  · obtain ⟨page, hpage, hkey, hpath⟩ := exists_fault_of_repeats hleast.1
    exact ⟨page, hpage, fun h => Flow.ofPages_eq_error_iff_fault.mpr ⟨i, hleast, hkey h⟩,
      fun h => Flow.ofPages_eq_error_iff_fault.mpr ⟨i, hleast, hpath h⟩⟩
  · obtain ⟨flow, hflow⟩ := Flow.exists_ofPages_iff.mpr (h.subperm hsub)
    exact ⟨flow, hflow, Flow.ofPages_eq_ok_iff.mp hflow⟩

/-- The second page has a new key at a path that is taken, the third one has neither. -/
def takenPages : List Page :=
  [{ key := .orders, path := ⟨"/orders"⟩ }, { key := .uploadOrders, path := ⟨"/orders//"⟩ },
    { key := .orders, path := ⟨"/orders/"⟩ }]

theorem first_repeated_page_is_refused_for_slashes :
    IsLeast {i | Repeats takenPages i} 1 ∧
      Flow.ofPages takenPages = .error (.duplicatePath "/orders//") ∧
      NoneRepeats standardPages ∧ (standardPages.drop 8).Subperm standardPages ∧
      ∃ flow, Flow.ofPages (standardPages.drop 8) = .ok flow := by
  have hpath : RepeatsAt SharesPath takenPages 1 :=
    ⟨_, rfl, _, List.mem_cons_self, sharesPath_iff.mpr (by decide +kernel)⟩
  have hkey : ¬ RepeatsAt SharesKey takenPages 1 := by
    simp [RepeatsAt, SharesKey, takenPages]
  have hleast : IsLeast {i | Repeats takenPages i} 1 := by
    refine ⟨.inr hpath, fun j hj => Nat.pos_of_ne_zero ?_⟩
    rintro rfl
    simp [Repeats, RepeatsAt] at hj
  have hflow : Flow.ofPages standardPages = .ok standardFlow := Flow.ofPages_eq_ok_iff.mpr rfl
  have hstandard : NoneRepeats standardPages :=
    (first_repeated_page_is_refused standardPages).1.mp ⟨standardFlow, hflow⟩
  have hsub : (standardPages.drop 8).Subperm standardPages := (List.drop_sublist 8 _).subperm
  obtain ⟨_, hpage, -, herror⟩ := (first_repeated_page_is_refused takenPages).2.2.2.1 1 hleast
  obtain rfl := Option.some.inj hpage
  obtain ⟨flow, hflow, -⟩ :=
    (first_repeated_page_is_refused standardPages).2.2.2.2 hstandard _ hsub
  exact ⟨hleast, herror hkey, hstandard, hsub, flow, hflow⟩

end Wizard

end Relocation
