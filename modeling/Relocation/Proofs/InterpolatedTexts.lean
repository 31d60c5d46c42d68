import Mathlib.Data.List.TakeWhile
import Relocation.Proofs.Outcomes
import Relocation.Settings.Interpolation

/-! How a text with variables in it is read: in exactly one way, as stretches of plain text with
references between them. What is put in for a reference is not read again, so that two texts can be
interpolated one after the other, unless a reference is opened across the border. -/

namespace Relocation

namespace Text

variable {sep : Char} {cs rest : List Char}

theorem cutFirst_append (h : sep ∉ cs) :
    cutFirst sep (cs ++ sep :: rest) = (cs, some rest) := by
  have hp : ∀ c ∈ cs, decide (c ≠ sep) = true :=
    fun c hc => decide_eq_true (ne_of_mem_of_not_mem hc h)
  rw [cutFirst, List.takeWhile_append_of_pos hp, List.dropWhile_append_of_pos hp]
  simp

theorem cutFirst_of_not_mem (h : sep ∉ cs) : cutFirst sep cs = (cs, none) := by
  have hp : ∀ c ∈ cs, decide (c ≠ sep) = true :=
    fun c hc => decide_eq_true (ne_of_mem_of_not_mem hc h)
  rw [cutFirst, List.takeWhile_eq_self_iff.mpr hp, List.dropWhile_eq_nil_iff.mpr hp]
  rfl

theorem eq_append_of_cutFirst {before : List Char} (h : cutFirst sep cs = (before, some rest)) :
    sep ∉ before ∧ cs = before ++ sep :: rest := by
  by_cases hm : sep ∈ cs
  · obtain ⟨front, back, rfl, hfront⟩ := List.eq_append_cons_of_mem hm
    rw [cutFirst_append hfront] at h
    cases h
    exact ⟨hfront, rfl⟩
  · rw [cutFirst_of_not_mem hm] at h
    cases h

theorem not_mem_of_cutFirst {before : List Char} (h : cutFirst sep cs = (before, none)) :
    sep ∉ cs := by
  intro hm
  obtain ⟨front, back, rfl, hfront⟩ := List.eq_append_cons_of_mem hm
  rw [cutFirst_append hfront] at h
  cases h

end Text

namespace Interpolation

/-- No reference is opened. -/
def IsPlain (cs : List Char) : Prop := ¬ ['$', '{'] <:+: cs

instance : DecidablePred IsPlain := fun cs =>
  inferInstanceAs (Decidable (¬ ['$', '{'] <:+: cs))

/-- A text taken apart from the left. The name of a reference that is not closed goes on to the
end. -/
inductive Reading where
  | plain (stretch : List Char)
  | unclosed (stretch name : List Char)
  | reference (stretch name : List Char) (rest : Reading)

namespace Reading

def text : Reading → List Char
  | plain stretch => stretch
  | unclosed stretch name => stretch ++ '$' :: '{' :: name
  | reference stretch name rest => stretch ++ '$' :: '{' :: (name ++ '}' :: rest.text)

/-- Stretches open no reference, and a name runs to the first closing brace. -/
def IsProper : Reading → Prop
  | plain stretch => IsPlain stretch
  | unclosed stretch name => IsPlain stretch ∧ '}' ∉ name
  | reference stretch name rest => IsPlain stretch ∧ '}' ∉ name ∧ rest.IsProper

structure IsReadingOf (r : Reading) (cs : List Char) : Prop where
  isProper : r.IsProper
  text_eq : r.text = cs

/-- The variables of the references that are closed. -/
def names : Reading → List String
  | plain _ => []
  | unclosed _ _ => []
  | reference _ name rest => String.ofList name :: rest.names

def isClosed : Reading → Bool
  | plain _ => true
  | unclosed _ _ => false
  | reference _ _ rest => rest.isClosed

/-- The text with values in the place of its references. -/
def withValues (value : String → String) : Reading → List Char
  | plain stretch => stretch
  | unclosed stretch name => stretch ++ '$' :: '{' :: name
  | reference stretch name rest =>
    stretch ++ ((value (String.ofList name)).toList ++ rest.withValues value)

/-- The first variable that is not set is what is wrong, or else that a reference is not closed. -/
def outcome (env : Environment) (r : Reading) : Except SettingsError (List Char) :=
  match r.names.find? fun name => !env.isSet name with
  | some name => .error (.unsetVariable name)
  | none =>
    if r.isClosed then .ok (r.withValues fun name => (env.value? name).getD "")
    else .error .unclosedVariable

def pieces : Reading → List Piece
  | plain stretch => stretch.map .literal
  | unclosed stretch _ => stretch.map .literal ++ [.unclosed]
  | reference stretch name rest =>
    stretch.map .literal ++ .reference (String.ofList name) :: rest.pieces

/-- The reading with a character put in front. -/
def push (c : Char) : Reading → Reading
  | plain stretch => plain (c :: stretch)
  | unclosed stretch name => unclosed (c :: stretch) name
  | reference stretch name rest => reference (c :: stretch) name rest

end Reading

section

variable {c : Char} {cs cs' name name' stretch stretch' : List Char}

theorem isPlain_cons_iff :
    IsPlain (c :: cs) ↔ ¬ (c = '$' ∧ cs.head? = some '{') ∧ IsPlain cs := by
  rw [IsPlain, List.infix_cons_iff, not_or, IsPlain, and_congr_left_iff]
  intro _
  cases cs <;> simp [eq_comm]

theorem ne_append_opening (hs : IsPlain stretch) : stretch ≠ stretch' ++ '$' :: '{' :: cs := by
  rintro rfl
  exact hs ⟨stretch', cs, by simp⟩

theorem cons_append_ne_opening (h : IsPlain (c :: stretch)) :
    c :: (stretch ++ '$' :: '{' :: cs) ≠ '$' :: '{' :: cs' := by
  intro he
  obtain ⟨hc, he⟩ := List.cons.inj he
  cases stretch with
  | nil => simp at he
  | cons d stretch =>
    obtain ⟨hd, -⟩ := List.cons.inj he
    exact (isPlain_cons_iff.mp h).1 ⟨hc, congrArg some hd⟩

theorem opening_unique (hs : IsPlain stretch) (hs' : IsPlain stretch')
    (h : stretch ++ '$' :: '{' :: cs = stretch' ++ '$' :: '{' :: cs') :
    stretch = stretch' ∧ cs = cs' := by
  induction stretch generalizing stretch' with
  | nil =>
    cases stretch' with
    | nil => simpa using h
    | cons d stretch' => exact absurd h.symm (cons_append_ne_opening hs')
  | cons c stretch ih =>
    cases stretch' with
    | nil => exact absurd h (cons_append_ne_opening hs)
    | cons d stretch' =>
      obtain ⟨rfl, htail⟩ := List.cons.inj h
      obtain ⟨rfl, rfl⟩ := ih (isPlain_cons_iff.mp hs).2 (isPlain_cons_iff.mp hs').2 htail
      exact ⟨rfl, rfl⟩

theorem closing_unique (hn : '}' ∉ name) (hn' : '}' ∉ name')
    (h : name ++ '}' :: cs = name' ++ '}' :: cs') : name = name' ∧ cs = cs' := by
  have hcut := congrArg (Text.cutFirst '}') h
  rw [Text.cutFirst_append hn, Text.cutFirst_append hn'] at hcut
  simpa using hcut

theorem pieces_cons (h : ¬ (c = '$' ∧ cs.head? = some '{')) :
    pieces (c :: cs) = .literal c :: pieces cs := by
  rw [pieces]
  rintro cs' hc rfl
  exact h ⟨hc, rfl⟩

theorem pieces_reference (h : '}' ∉ name) : pieces ('$' :: '{' :: (name ++ '}' :: cs)) =
    .reference (String.ofList name) :: pieces cs := by
  rw [pieces]
  split
  · next heq =>
    rw [Text.cutFirst_append h] at heq
    cases heq
    rfl
  · next heq =>
    rw [Text.cutFirst_append h] at heq
    cases heq

theorem pieces_unclosed (h : '}' ∉ name) : pieces ('$' :: '{' :: name) = [.unclosed] := by
  rw [pieces]
  split
  · next heq =>
    rw [Text.cutFirst_of_not_mem h] at heq
    cases heq
  · rfl

/-- What comes behind a plain stretch is read on its own, unless it completes an opening. -/
theorem pieces_append (hs : IsPlain stretch)
    (h : ¬ (stretch.getLast? = some '$' ∧ cs.head? = some '{')) :
    pieces (stretch ++ cs) = stretch.map .literal ++ pieces cs := by
  induction stretch with
  | nil => rfl
  | cons c stretch ih =>
    obtain ⟨hc, hs⟩ := isPlain_cons_iff.mp hs
    cases stretch with
    | nil => exact pieces_cons (by simpa using h)
    | cons d stretch =>
      rw [List.cons_append, pieces_cons (by simpa using hc), ih hs (by simpa using h)]
      rfl

end

namespace Reading

variable {r r' : Reading} {cs : List Char}

theorem pieces_text (hr : r.IsProper) : Interpolation.pieces r.text = r.pieces := by
  induction r with
  | plain stretch =>
    have h : Interpolation.pieces (stretch ++ []) =
        stretch.map .literal ++ Interpolation.pieces [] :=
      pieces_append hr (by simp)
    rwa [List.append_nil, Interpolation.pieces, List.append_nil] at h
  | unclosed stretch name =>
    rw [text, pieces_append hr.1 (by simp), pieces_unclosed hr.2]
    rfl
  | reference stretch name rest ih =>
    rw [text, pieces_append hr.1 (by simp), pieces_reference hr.2.1, ih hr.2.2]
    rfl

theorem pieces_text_append (hr : r.IsProper) (hclosed : r.isClosed = true)
    (h : ¬ (r.text.getLast? = some '$' ∧ cs.head? = some '{')) :
    Interpolation.pieces (r.text ++ cs) = r.pieces ++ Interpolation.pieces cs := by
  induction r with
  | plain stretch => exact pieces_append hr h
  | unclosed stretch name => cases hclosed
  | reference stretch name rest ih =>
    have hrest : ¬ (rest.text.getLast? = some '$' ∧ cs.head? = some '{') := by
      rintro ⟨hlast, hhead⟩
      refine h ⟨?_, hhead⟩
      simp [text, List.getLast?_append, List.getLast?_cons, hlast]
    simp only [text, List.append_assoc, List.cons_append, pieces]
    rw [pieces_append hr.1 (by simp), pieces_reference hr.2.1, ih hr.2.2 hclosed hrest]

theorem eq_of_text_eq (hr : r.IsProper) (hr' : r'.IsProper) (h : r.text = r'.text) : r = r' := by
  induction r generalizing r' with
  | plain stretch =>
    cases r' with
    | plain stretch' => exact congrArg plain h
    | unclosed => exact absurd h (ne_append_opening hr)
    | reference => exact absurd h (ne_append_opening hr)
  | unclosed stretch name =>
    cases r' with
    | plain stretch' => exact absurd h.symm (ne_append_opening hr')
    | unclosed stretch' name' =>
      obtain ⟨rfl, rfl⟩ := opening_unique hr.1 hr'.1 h
      rfl
    | reference stretch' name' rest' =>
      obtain ⟨-, hname⟩ := opening_unique hr.1 hr'.1 h
      exact absurd (by simp [hname]) hr.2
  | reference stretch name rest ih =>
    cases r' with
    | plain stretch' => exact absurd h.symm (ne_append_opening hr')
    | unclosed stretch' name' =>
      obtain ⟨-, hname⟩ := opening_unique hr.1 hr'.1 h
      exact absurd (by simp [← hname]) hr'.2
    | reference stretch' name' rest' =>
      obtain ⟨rfl, htail⟩ := opening_unique hr.1 hr'.1 h
      obtain ⟨hname, hrest⟩ := closing_unique hr.2.1 hr'.2.1 htail
      rw [hname, ih hr.2.2 hr'.2.2 hrest]

theorem text_push (c : Char) (r : Reading) : (r.push c).text = c :: r.text := by
  cases r <;> rfl

theorem IsProper.push {c : Char} (hr : r.IsProper) (h : ¬ (c = '$' ∧ r.text.head? = some '{')) :
    (r.push c).IsProper := by
  -- A stretch that begins with a brace makes the whole text begin with it.
  have hplain : ∀ stretch tail : List Char, r.text = stretch ++ tail → IsPlain stretch →
      IsPlain (c :: stretch) := by
    intro stretch tail htext hs
    refine isPlain_cons_iff.mpr ⟨fun ⟨hc, hhead⟩ => h ⟨hc, ?_⟩, hs⟩
    rw [htext, List.head?_append, hhead]
    rfl
  cases r with
  | plain stretch => exact hplain stretch [] (List.append_nil _).symm hr
  | unclosed stretch name => exact ⟨hplain stretch _ rfl hr.1, hr.2⟩
  | reference stretch name rest => exact ⟨hplain stretch _ rfl hr.1, hr.2⟩

end Reading

theorem isPlain_nil : IsPlain [] := by simp [IsPlain]

theorem exists_reading (cs : List Char) : ∃ r : Reading, r.IsReadingOf cs := by
  -- The recursion is that of the scanner.
  induction cs using pieces.induct with
  | case1 => exact ⟨.plain [], isPlain_nil, rfl⟩
  | case2 cs name rest hcut ih =>
    obtain ⟨r, hr, htext⟩ := ih
    obtain ⟨hname, rfl⟩ := Text.eq_append_of_cutFirst hcut
    exact ⟨.reference [] name r, ⟨isPlain_nil, hname, hr⟩, by rw [Reading.text, htext]; rfl⟩
  | case3 cs name hcut =>
    exact ⟨.unclosed [] cs, ⟨isPlain_nil, Text.not_mem_of_cutFirst hcut⟩, rfl⟩
  | case4 c cs hc ih =>
    obtain ⟨r, hr, rfl⟩ := ih
    refine ⟨r.push c, hr.push fun ⟨hdollar, hhead⟩ => ?_, r.text_push c⟩
    obtain ⟨tail, htail⟩ := List.head?_eq_some_iff.mp hhead
    exact hc tail hdollar htail

theorem existsUnique_reading (cs : List Char) : ∃! r : Reading, r.IsReadingOf cs := by
  obtain ⟨r, hr⟩ := exists_reading cs
  refine ⟨r, hr, fun r' hr' => ?_⟩
  exact Reading.eq_of_text_eq hr'.isProper hr.isProper (hr'.text_eq.trans hr.text_eq.symm)

/-- The values of the pieces one after another, or the first problem. -/
def joinValues (env : Environment) (ps : List Piece) : Except SettingsError (List Char) :=
  List.flatten <$> ps.mapM (Piece.value env)

section

variable {env : Environment} {ps ps' : List Piece} {cs cs' : List Char}

theorem interpolate_eq (env : Environment) (s : String) :
    interpolate env s = String.ofList <$> joinValues env (pieces s.toList) := by
  rw [interpolate, joinValues, Functor.map_map]
  rfl

theorem joinValues_append (env : Environment) (ps ps' : List Piece) :
    joinValues env (ps ++ ps') = do return (← joinValues env ps) ++ (← joinValues env ps') := by
  simp [joinValues, List.mapM_append]

theorem joinValues_literals (env : Environment) (cs : List Char) :
    joinValues env (cs.map .literal) = .ok cs := by
  induction cs with
  | nil => rfl
  | cons c cs ih =>
    have happend := joinValues_append env [.literal c] (cs.map .literal)
    rw [ih] at happend
    exact happend

theorem joinValues_reference (env : Environment) (name : String) (ps : List Piece) :
    joinValues env (.reference name :: ps) =
      (env.value? name).elim (.error (.unsetVariable name)) fun value =>
        (value.toList ++ ·) <$> joinValues env ps := by
  rw [joinValues, List.mapM_cons, Piece.value]
  cases env.value? name with
  | none => rfl
  | some value => simp [joinValues, except_ok_bind]

end

namespace Reading

variable {env : Environment} {r : Reading}

theorem outcome_reference_of_some {stretch name : List Char} {rest : Reading} {value : String}
    (h : env.value? (String.ofList name) = some value) :
    outcome env (reference stretch name rest) =
      (fun cs => stretch ++ (value.toList ++ cs)) <$> rest.outcome env := by
  have hset : env.isSet (String.ofList name) = true := by rw [Environment.isSet, h]; rfl
  rw [outcome, outcome, names, List.find?_cons_of_neg (by simp [hset])]
  cases rest.names.find? fun name => !env.isSet name with
  | some name' => rfl
  | none =>
    rw [isClosed, withValues, h]
    cases rest.isClosed <;> rfl

theorem outcome_reference_of_none {stretch name : List Char} {rest : Reading}
    (h : env.value? (String.ofList name) = none) :
    outcome env (reference stretch name rest) = .error (.unsetVariable (String.ofList name)) := by
  have hunset : env.isSet (String.ofList name) = false := by rw [Environment.isSet, h]; rfl
  rw [outcome, names, List.find?_cons_of_pos (by simp [hunset])]

theorem joinValues_pieces (env : Environment) (r : Reading) :
    joinValues env r.pieces = r.outcome env := by
  induction r with
  | plain stretch =>
    rw [pieces, joinValues_literals]
    rfl
  | unclosed stretch name =>
    rw [pieces, joinValues_append, joinValues_literals]
    rfl
  | reference stretch name rest ih =>
    rw [pieces, joinValues_append, joinValues_literals, except_ok_bind, joinValues_reference, ih]
    cases hv : env.value? (String.ofList name) with
    | none =>
      rw [outcome_reference_of_none hv]
      rfl
    | some value =>
      rw [outcome_reference_of_some hv]
      cases rest.outcome env <;> rfl

theorem IsReadingOf.interpolate_eq {s : String} (hr : r.IsReadingOf s.toList) :
    interpolate env s = String.ofList <$> r.outcome env := by
  rw [Interpolation.interpolate_eq, ← hr.text_eq, pieces_text hr.isProper, joinValues_pieces]

theorem isClosed_of_outcome {cs : List Char} (h : r.outcome env = .ok cs) : r.isClosed = true := by
  unfold outcome at h
  split at h
  · cases h
  · split at h
    · assumption
    · cases h

end Reading

theorem interpolate_of_isPlain (env : Environment) {s : String} (h : IsPlain s.toList) :
    interpolate env s = .ok s := by
  have hr : (Reading.plain s.toList).IsReadingOf s.toList := ⟨h, rfl⟩
  rw [hr.interpolate_eq]
  exact congrArg Except.ok s.ofList_toList

theorem interpolate_append {env : Environment} {s t u : String} (h : interpolate env s = .ok u)
    (hborder : ¬ (s.toList.getLast? = some '$' ∧ t.toList.head? = some '{')) :
    interpolate env (s ++ t) = (u ++ ·) <$> interpolate env t := by
  obtain ⟨r, hr⟩ := exists_reading s.toList
  rw [hr.interpolate_eq] at h
  obtain ⟨cs, hcs, rfl⟩ := except_map_eq_ok_iff.mp h
  rw [← hr.text_eq] at hborder
  have hpieces := Reading.pieces_text_append hr.isProper (Reading.isClosed_of_outcome hcs) hborder
  rw [interpolate_eq, interpolate_eq, String.toList_append, ← hr.text_eq, hpieces,
    joinValues_append, Reading.joinValues_pieces, hcs, except_ok_bind]
  cases joinValues env (pieces t.toList) with
  | error e => rfl
  | ok cs' => exact congrArg Except.ok String.ofList_append

/-- Each text has one reading, which tells what interpolating it comes to: its stretches as they are
with the values as they are between them, or else the first variable that is not set, or else that
a reference is not closed. -/
theorem interpolation_follows_reading (env : Environment) :
    (∀ s : String, (∃! r : Reading, r.IsReadingOf s.toList) ∧
      ∀ r : Reading, r.IsReadingOf s.toList →
        interpolate env s = String.ofList <$> r.outcome env) ∧
    (∀ s : String, IsPlain s.toList → interpolate env s = .ok s) ∧
    ∀ s t u : String, interpolate env s = .ok u →
      ¬ (s.toList.getLast? = some '$' ∧ t.toList.head? = some '{') →
      interpolate env (s ++ t) = (u ++ ·) <$> interpolate env t := by
  refine ⟨fun s => ⟨existsUnique_reading s.toList, fun r hr => hr.interpolate_eq⟩, ?_, ?_⟩
  · exact fun s hs => interpolate_of_isPlain env hs
  · exact fun s t u hu hborder => interpolate_append hu hborder

/-- A value that looks like a reference is not read again, nor is a dollar sign before it. -/
theorem interpolation_follows_reading_of_value_with_opening :
    let env : Environment := ⟨.ofList [("A", "$\x7bB\x7d")]⟩
    interpolate env "$$\x7bA\x7d" = .ok "$$\x7bB\x7d" := by
  intro env
  have hr : (Reading.reference ['$'] ['A'] (.plain [])).IsReadingOf "$$\x7bA\x7d".toList :=
    ⟨⟨by decide, by decide, isPlain_nil⟩, by decide⟩
  rw [((interpolation_follows_reading env).1 _).2 _ hr]
  decide

end Interpolation

end Relocation
