import Relocation.Http.Routing

/-! What the search for a route finds: a route whose segments take the parts of the path, whenever
there is one. Which of several such routes it finds does not matter here. -/

namespace Relocation.Http.Routes

open Wizard (Segment)

variable {α : Type}

/-- The segments of a route take the parts of a path one by one; the last list is what the
parameters take. -/
inductive Takes : List Segment → List String → List String → Prop
  | done : Takes [] [] []
  | literal {segments : List Segment} {parts taken : List String} (s : String)
      (h : Takes segments parts taken) : Takes (.literal s :: segments) (s :: parts) taken
  | parameter {segments : List Segment} {parts taken : List String} (name : String)
      {part : String} (hp : part = "" → parts ≠ []) (h : Takes segments parts taken) :
      Takes (.parameter name :: segments) (part :: parts) (part :: taken)

section

variable {segments : List Segment} {part : String} {parts taken : List String}

theorem takes_nil_iff : Takes [] parts taken ↔ parts = [] ∧ taken = [] := by
  constructor
  · rintro ⟨⟩
    exact ⟨rfl, rfl⟩
  · rintro ⟨rfl, rfl⟩
    exact .done

theorem takes_literal_iff {s : String} : Takes (.literal s :: segments) (part :: parts) taken ↔
    s = part ∧ Takes segments parts taken := by
  constructor
  · rintro (_ | ⟨_, h⟩)
    exact ⟨rfl, h⟩
  · rintro ⟨rfl, h⟩
    exact .literal s h

theorem takes_parameter_iff {name : String} :
    Takes (.parameter name :: segments) (part :: parts) taken ↔ (part = "" → parts ≠ []) ∧
      ∃ rest, Takes segments parts rest ∧ taken = part :: rest := by
  constructor
  · rintro (_ | _ | ⟨_, hp, h⟩)
    exact ⟨hp, _, h, rfl⟩
  · rintro ⟨hp, rest, h, rfl⟩
    exact .parameter name hp h

end

theorem mem_afterLiteral {part : String} {routes : Routes α} {segments : List Segment} {a : α} :
    (segments, a) ∈ afterLiteral part routes ↔ (.literal part :: segments, a) ∈ routes := by
  unfold afterLiteral
  rw [List.mem_filterMap]
  constructor
  · rintro ⟨⟨whole, b⟩, hm, he⟩
    match whole, he with
    | .literal s :: rest, he =>
      by_cases hs : s = part
      · simp only [if_pos hs, Option.some.injEq, Prod.mk.injEq] at he
        obtain ⟨rfl, rfl⟩ := he
        exact hs ▸ hm
      · simp only [if_neg hs] at he
        cases he
  · exact fun hm => ⟨_, hm, by simp⟩

theorem mem_afterParameter {routes : Routes α} {segments : List Segment} {a : α} :
    (segments, a) ∈ afterParameter routes ↔
      ∃ name, (.parameter name :: segments, a) ∈ routes := by
  unfold afterParameter
  rw [List.mem_filterMap]
  constructor
  · rintro ⟨⟨whole, b⟩, hm, he⟩
    match whole, he with
    | .parameter name :: rest, he =>
      obtain ⟨rfl, rfl⟩ := Prod.mk.inj (Option.some.inj he)
      exact ⟨name, hm⟩
  · rintro ⟨name, hm⟩
    exact ⟨_, hm, rfl⟩

theorem takes_of_route? {routes : Routes α} {parts taken : List String} {a : α}
    (h : routes.route? parts = some (a, taken)) :
    ∃ segments, (segments, a) ∈ routes ∧ Takes segments parts taken := by
  induction parts generalizing routes taken with
  | nil =>
    obtain ⟨⟨segments, b⟩, hf, he⟩ := Option.map_eq_some_iff.mp h
    obtain ⟨rfl, rfl⟩ := Prod.mk.inj he
    have hnil : segments = [] := by simpa using List.find?_some hf
    exact ⟨[], hnil ▸ List.mem_of_find?_eq_some hf, .done⟩
  | cons part parts ih =>
    unfold route? at h
    split at h
    · cases h
    · split at h
      · next found hl =>
        cases h
        obtain ⟨segments, hm, ht⟩ := ih hl
        exact ⟨_, mem_afterLiteral.mp hm, .literal part ht⟩
      · split at h
        · cases h
        · next hlast =>
          obtain ⟨⟨b, rest⟩, hr, he⟩ := Option.map_eq_some_iff.mp h
          obtain ⟨rfl, rfl⟩ := Prod.mk.inj he
          obtain ⟨segments, hm, ht⟩ := ih hr
          obtain ⟨name, hm⟩ := mem_afterParameter.mp hm
          exact ⟨_, hm, .parameter name (fun hp hps => hlast ⟨hp, hps⟩) ht⟩

theorem isSome_route?_of_takes {routes : Routes α} {segments : List Segment} {a : α}
    {parts taken : List String} (hm : (segments, a) ∈ routes) (h : Takes segments parts taken) :
    (routes.route? parts).isSome = true := by
  -- Whichever branch the search tries first, the routes that are left there still hold one.
  induction h generalizing routes with
  | done =>
    rw [route?, Option.isSome_map, List.find?_isSome]
    exact ⟨_, hm, rfl⟩
  | @literal segments parts taken s _ ih =>
    have hl := ih (mem_afterLiteral.mpr hm)
    obtain ⟨found, hf⟩ := Option.isSome_iff_exists.mp hl
    have hne : routes.isEmpty = false := by cases routes <;> simp_all
    simp [route?, hne, hf]
  | @parameter segments parts taken name part hp _ ih =>
    have hr := ih (mem_afterParameter.mpr ⟨name, hm⟩)
    have hne : routes.isEmpty = false := by cases routes <;> simp_all
    have hlast : ¬ (part = "" ∧ parts = []) := fun e => hp e.1 e.2
    rw [route?, if_neg (by simp [hne])]
    split
    · rfl
    · rw [if_neg hlast, Option.isSome_map]
      exact hr

/-- Where all routes that take the parts of a path lead to one place, the search leads there. -/
theorem route?_eq_some_of_takes {routes : Routes α} {segments : List Segment} {a : α}
    {parts taken : List String} (hm : (segments, a) ∈ routes) (h : Takes segments parts taken)
    (hall : ∀ segments' b taken', (segments', b) ∈ routes → Takes segments' parts taken' → b = a) :
    ∃ taken', routes.route? parts = some (a, taken') := by
  obtain ⟨⟨b, taken'⟩, hr⟩ := Option.isSome_iff_exists.mp (isSome_route?_of_takes hm h)
  obtain ⟨segments', hm', ht'⟩ := takes_of_route? hr
  exact ⟨taken', hall _ _ _ hm' ht' ▸ hr⟩

end Relocation.Http.Routes
