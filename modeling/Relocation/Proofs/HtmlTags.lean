import Mathlib.Data.List.Infix
import Relocation.Html
import Relocation.Proofs.PathParts

/-! Reading a document back. Escaping is undone by putting the characters in for their entities, and
a value never opens a tag, so the tags of a document are those of its markup. -/

namespace Relocation

namespace Text

theorem cut_append (sep : Char) (x y : List Char) :
    ∃ front last first rest, cut sep x = front ++ [last] ∧ cut sep y = first :: rest ∧
      cut sep (x ++ y) = front ++ (last ++ first) :: rest := by
  obtain ⟨first, rest, hy⟩ := List.exists_cons_of_ne_nil (cut_ne_nil sep y)
  suffices h : ∃ front last, cut sep x = front ++ [last] ∧
      cut sep (x ++ y) = front ++ (last ++ first) :: rest by
    obtain ⟨front, last, hx, hxy⟩ := h
    exact ⟨front, last, first, rest, hx, hy, hxy⟩
  induction x with
  | nil => exact ⟨[], [], rfl, hy⟩
  | cons c x ih =>
    obtain ⟨front, last, hx, hxy⟩ := ih
    by_cases hc : c = sep
    · exact ⟨[] :: front, last, by simp [cut, hc, hx], by simp [cut, hc, hxy]⟩
    · cases front with
      | nil => exact ⟨[], c :: last, by simp [cut, hc, hx], by simp [cut, hc, hxy]⟩
      | cons piece front =>
        exact ⟨(c :: piece) :: front, last, by simp [cut, hc, hx], by simp [cut, hc, hxy]⟩

end Text

namespace Html

def unescape : List Char → List Char
  | [] => []
  | '&' :: 'a' :: 'm' :: 'p' :: ';' :: cs => '&' :: unescape cs
  | '&' :: 'l' :: 't' :: ';' :: cs => '<' :: unescape cs
  | '&' :: 'g' :: 't' :: ';' :: cs => '>' :: unescape cs
  | '&' :: 'q' :: 'u' :: 'o' :: 't' :: ';' :: cs => '"' :: unescape cs
  | '&' :: '#' :: 'x' :: '2' :: '7' :: ';' :: cs => '\'' :: unescape cs
  | '&' :: '#' :: 'x' :: '2' :: 'F' :: ';' :: cs => '/' :: unescape cs
  | c :: cs => c :: unescape cs

theorem unescape_cons {c : Char} (h : c ≠ '&') (cs : List Char) :
    unescape (c :: cs) = c :: unescape cs := by
  rw [unescape] <;> simp [h]

theorem unescape_escapeChar (c : Char) (cs : List Char) :
    unescape (escapeChar c ++ cs) = c :: unescape cs := by
  unfold escapeChar
  split
  · next h => simp [h, unescape]
  split
  · next h => simp [h, unescape]
  split
  · next h => simp [h, unescape]
  split
  · next h => simp [h, unescape]
  split
  · next h => simp [h, unescape]
  split
  · next h => simp [h, unescape]
  · next h _ _ _ _ _ => exact unescape_cons h cs

theorem unescape_escape (s : String) : unescape (escape s).toList = s.toList := by
  rw [escape, String.toList_ofList]
  induction s.toList with
  | nil => rfl
  | cons c cs ih => rw [List.flatMap_cons, unescape_escapeChar, ih]

theorem escape_injective : Function.Injective escape := by
  intro s t h
  rw [← String.toList_inj, ← unescape_escape s, h, unescape_escape]

/-- What the special characters are written as. -/
def entities : List String := ["&amp;", "&lt;", "&gt;", "&quot;", "&#x27;", "&#x2F;"]

/-- No bracket and no quote stands for itself, and every ampersand begins an entity. -/
structure IsEscaped (cs : List Char) : Prop where
  plain : ∀ c ∈ cs, c ∉ ['<', '>', '"', '\'']
  entity : ∀ before after, cs = before ++ '&' :: after → ∃ e ∈ entities, e.toList <+: '&' :: after

theorem escapeChar_cases (c : Char) : (∃ e ∈ entities, escapeChar c = e.toList) ∨
    escapeChar c = [c] ∧ c ∉ ['&', '<', '>', '"', '\''] := by
  unfold escapeChar
  split_ifs
  iterate 6 exact .inl ⟨_, by decide, rfl⟩
  exact .inr ⟨rfl, by simp [*]⟩

theorem isEscaped_entity {e : String} (he : e ∈ entities) : IsEscaped e.toList := by
  have hshape : ∀ e ∈ entities, (∀ c ∈ e.toList, c ∉ ['<', '>', '"', '\'']) ∧
      e.toList.head? = some '&' ∧ '&' ∉ e.toList.tail := by simp [entities]
  obtain ⟨hplain, hhead, htail⟩ := hshape e he
  refine ⟨hplain, fun before after h => ?_⟩
  cases before with
  | nil => exact ⟨e, he, h ▸ List.prefix_rfl⟩
  | cons c before =>
    rw [h] at htail
    exact absurd (by simp) htail

theorem isEscaped_singleton {c : Char} (h : c ∉ ['&', '<', '>', '"', '\'']) : IsEscaped [c] := by
  refine ⟨fun c' hm hs => ?_, fun before after he => ?_⟩
  · obtain rfl := List.mem_singleton.mp hm
    exact h (List.mem_cons_of_mem _ hs)
  · have hm : '&' ∈ [c] := by simp [he]
    exact absurd (List.mem_singleton.mp hm ▸ List.mem_cons_self) h

theorem IsEscaped.append {x y : List Char} (hx : IsEscaped x) (hy : IsEscaped y) :
    IsEscaped (x ++ y) := by
  refine ⟨fun c hc => ?_, fun before after h => ?_⟩
  · rcases List.mem_append.mp hc with hc | hc
    · exact hx.plain c hc
    · exact hy.plain c hc
  · rcases List.append_eq_append_iff.mp h with ⟨front, rfl, hy'⟩ | ⟨back, hx', hback⟩
    · exact hy.entity front after hy'
    · cases back with
      | nil => exact hy.entity [] after hback.symm
      | cons c back =>
        obtain ⟨rfl, rfl⟩ := List.cons.inj hback
        obtain ⟨e, he, hprefix⟩ := hx.entity before back hx'
        exact ⟨e, he, hprefix.trans (List.prefix_append ('&' :: back) y)⟩

theorem isEscaped_escape (s : String) : IsEscaped (escape s).toList := by
  rw [escape, String.toList_ofList]
  induction s.toList with
  | nil => exact ⟨nofun, by simp⟩
  | cons c cs ih =>
    rw [List.flatMap_cons]
    refine .append ?_ ih
    rcases escapeChar_cases c with ⟨e, he, h⟩ | ⟨h, hc⟩
    · exact h ▸ isEscaped_entity he
    · exact h ▸ isEscaped_singleton hc

theorem not_lt_mem_escape (s : String) : '<' ∉ (escape s).toList :=
  fun h => (isEscaped_escape s).plain '<' h (by simp)

@[simp] theorem render_append (parts parts' : List Part) :
    render (parts ++ parts') = render parts ++ render parts' := by
  simp [render]

@[simp] theorem render_cons (part : Part) (parts : List Part) :
    render (part :: parts) = part.render ++ render parts := by
  simp [render]

@[simp] theorem render_nil : render [] = "" := rfl

/-- What follows each opening bracket, up to the next one. -/
def tags (html : List Char) : List (List Char) := (Text.cut '<' html).tail

/-- The first tag that begins in this way, with the text behind it. -/
def tag? (start html : String) : Option String :=
  ((tags html.toList).find? fun tag => decide (start.toList <+: tag)).map String.ofList

/-- No tag begins with `start`, nor would one if more text came behind. -/
def LacksTag (start html : List Char) : Prop :=
  ∀ tag ∈ tags html, ¬ start <+: tag ∧ ¬ tag <+: start

instance (start html : List Char) : Decidable (LacksTag start html) :=
  inferInstanceAs (Decidable (∀ tag ∈ tags html, ¬ start <+: tag ∧ ¬ tag <+: start))

theorem tags_append_bracket (x y : List Char) :
    tags (x ++ '<' :: y) = tags x ++ Text.cut '<' y := by
  obtain ⟨front, last, first, rest, hx, hy, hxy⟩ := Text.cut_append '<' x ('<' :: y)
  have hcut : Text.cut '<' ('<' :: y) = [] :: Text.cut '<' y := by simp [Text.cut]
  obtain ⟨rfl, rfl⟩ := List.cons.inj (hy.symm.trans hcut)
  rw [tags, tags, hxy, hx]
  cases front <;> simp

variable {start x y : List Char}

theorem lacksTag_of_not_mem (h : '<' ∉ x) : LacksTag start x := by
  intro tag ht
  simp [tags, Text.cut_of_not_mem h] at ht

theorem LacksTag.append (hx : LacksTag start x) (hy : LacksTag start y) :
    LacksTag start (x ++ y) := by
  obtain ⟨front, last, first, rest, hcx, hcy, hcut⟩ := Text.cut_append '<' x y
  have hrest : ∀ tag ∈ rest, ¬ start <+: tag ∧ ¬ tag <+: start := by
    intro tag ht
    exact hy tag (by simpa [tags, hcy] using ht)
  intro tag ht
  rw [tags, hcut] at ht
  cases front with
  | nil => exact hrest tag ht
  | cons piece front =>
    have hown : ∀ tag ∈ front ++ [last], ¬ start <+: tag ∧ ¬ tag <+: start := by
      intro tag ht
      exact hx tag (by simpa [tags, hcx] using ht)
    simp only [List.cons_append, List.tail_cons, List.mem_append, List.mem_cons] at ht
    rcases ht with ht | rfl | ht
    · exact hown tag (List.mem_append_left _ ht)
    · obtain ⟨hs, hl⟩ := hown last (by simp)
      have hlast : last <+: last ++ first := List.prefix_append last first
      constructor
      · intro h
        exact (List.prefix_or_prefix_of_prefix h hlast).elim hs hl
      · intro h
        exact hl (hlast.trans h)
    · exact hrest tag ht

theorem tag?_eq_none_of_lacksTag {start html : String}
    (h : LacksTag start.toList html.toList) : tag? start html = none := by
  have hf : (tags html.toList).find? (fun tag => decide (start.toList <+: tag)) = none :=
    List.find?_eq_none.mpr fun tag ht => by simpa using (h tag ht).1
  rw [tag?, hf, Option.map_none]

theorem tag?_of_lacksTag {start before tag after : String}
    (hbefore : LacksTag start.toList before.toList) (hs : start.toList <+: tag.toList)
    (htag : '<' ∉ tag.toList) :
    tag? start (before ++ "<" ++ tag ++ "<" ++ after) = some tag := by
  have hl : (before ++ "<" ++ tag ++ "<" ++ after).toList =
      before.toList ++ '<' :: (tag.toList ++ '<' :: after.toList) := by simp
  have hnone : (tags before.toList).find? (fun tag => decide (start.toList <+: tag)) = none :=
    List.find?_eq_none.mpr fun tag ht => by simpa using (hbefore tag ht).1
  rw [tag?, hl, tags_append_bracket, Text.cut_append_sep _ htag, List.find?_append, hnone,
    Option.none_or, List.find?_cons_of_pos (by simpa using hs), Option.map_some,
    String.ofList_toList]

/-- No markup of the parts opens such a tag. -/
inductive Lacks (start : String) : List Part → Prop
  | nil : Lacks start []
  | value {parts : List Part} (s : String) (h : Lacks start parts) :
      Lacks start (.value s :: parts)
  | markup {s : String} {parts : List Part} (hs : LacksTag start.toList s.toList)
      (h : Lacks start parts) : Lacks start (.markup s :: parts)

namespace Lacks

/-- For fixed texts: the kernel reads a literal as its characters, but takes long to find them in
the bytes of the text. -/
theorem literal {start cs : List Char} {parts : List Part} (hs : LacksTag start cs)
    (h : Lacks (String.ofList start) parts) :
    Lacks (String.ofList start) (.markup (String.ofList cs) :: parts) :=
  .markup (by simpa using hs) h

variable {start : String} {parts parts' : List Part}

theorem append (h : Lacks start parts) (h' : Lacks start parts') :
    Lacks start (parts ++ parts') := by
  induction h with
  | nil => exact h'
  | value s _ ih => exact .value s ih
  | markup hs _ ih => exact .markup hs ih

theorem lacksTag_render (h : Lacks start parts) :
    LacksTag start.toList (render parts).toList := by
  induction h with
  | nil => exact lacksTag_of_not_mem (by simp)
  | value s _ ih =>
    rw [render_cons, String.toList_append]
    exact (lacksTag_of_not_mem (not_lt_mem_escape s)).append ih
  | markup hs _ ih =>
    rw [render_cons, String.toList_append]
    exact hs.append ih

end Lacks

end Html

end Relocation
