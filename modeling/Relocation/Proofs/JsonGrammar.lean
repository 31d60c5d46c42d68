import Mathlib.Data.List.Basic
import Relocation.Json.Decoder
import Relocation.Proofs.DecimalDigits
import Relocation.Proofs.Outcomes

/-! The grammar of JSON: which texts spell which documents, in whatever spelling. The reader finds
in every such text the document that it spells, whatever comes behind it. -/

namespace Relocation.Json

/-! ### The grammar -/

/-- Nothing but space, as it may stand around values and names. -/
def IsSpace (cs : List Char) : Prop := ∀ c ∈ cs, isSpace c = true

/-- What stands between the quotes of a string, piece by piece. -/
inductive SpellsPieces : List Char → List Piece → Prop
  | nil : SpellsPieces [] []
  | plain {c : Char} {cs : List Char} {ps : List Piece} (hquote : c ≠ '"') (hslash : c ≠ '\\')
      (hc : 0x20 ≤ c.toNat) (h : SpellsPieces cs ps) : SpellsPieces (c :: cs) (.char c :: ps)
  | short {e c : Char} {cs : List Char} {ps : List Piece} (he : shortEscape? e = some c)
      (h : SpellsPieces cs ps) : SpellsPieces ('\\' :: e :: cs) (.char c :: ps)
  | unit {a b c d : Char} {n : Nat} {cs : List Char} {ps : List Piece}
      (hn : hexUnit? a b c d = some n) (h : SpellsPieces cs ps) :
      SpellsPieces ('\\' :: 'u' :: a :: b :: c :: d :: cs) (.unit n :: ps)

/-- A string in quotes. It stands for no text where it holds half of a surrogate pair. -/
inductive SpellsString : List Char → Option String → Prop
  | intro {cs : List Char} {ps : List Piece} (h : SpellsPieces cs ps) :
      SpellsString ('"' :: (cs ++ ['"'])) ((joinPieces ps).map String.ofList)

def IsDigits (ds : List Char) : Prop := ds ≠ [] ∧ ∀ d ∈ ds, d.isDigit = true

/-- A fraction, with its digits. -/
inductive SpellsFraction : List Char → List Char → Prop
  | none : SpellsFraction [] []
  | some {ds : List Char} (h : IsDigits ds) : SpellsFraction ('.' :: ds) ds

/-- A whole number that may have a sign in front. -/
inductive SpellsSigned : List Char → Int → Prop
  | bare {ds : List Char} (h : IsDigits ds) : SpellsSigned ds (Text.digitsValue 0 ds)
  | plus {ds : List Char} (h : IsDigits ds) : SpellsSigned ('+' :: ds) (Text.digitsValue 0 ds)
  | minus {ds : List Char} (h : IsDigits ds) : SpellsSigned ('-' :: ds) (-Text.digitsValue 0 ds)

inductive SpellsExponent : List Char → Int → Prop
  | none : SpellsExponent [] 0
  | some {mark : Char} {cs : List Char} {e : Int} (hmark : mark = 'e' ∨ mark = 'E')
      (h : SpellsSigned cs e) : SpellsExponent (mark :: cs) e

/-- A number without its minus: digits with no zero too many in front, fraction and exponent. -/
inductive SpellsUnsigned : List Char → Bool → Prop
  | intro {ds fraction fs exponent : List Char} {e : Int} (h : IsDigits ds)
      (hzero : ds.head? = some '0' → ds = ['0']) (hf : SpellsFraction fraction fs)
      (he : SpellsExponent exponent e) :
      SpellsUnsigned (ds ++ (fraction ++ exponent)) (isInRange ds fs e)

inductive SpellsNumber : List Char → Bool → Prop
  | plain {cs : List Char} {inRange : Bool} (h : SpellsUnsigned cs inRange) :
      SpellsNumber cs inRange
  | minus {cs : List Char} {inRange : Bool} (h : SpellsUnsigned cs inRange) :
      SpellsNumber ('-' :: cs) inRange

mutual

/-- The text of a value, from its first character to its last. -/
inductive Spells : List Char → Document → Prop
  | null : Spells "null".toList .null
  | bool (b : Bool) : Spells (if b then "true" else "false").toList (.bool b)
  | number {cs : List Char} {inRange : Bool} (h : SpellsNumber cs inRange) :
      Spells cs (.number inRange)
  | string {cs : List Char} {s? : Option String} (h : SpellsString cs s?) : Spells cs (.string s?)
  | emptyArray {space : List Char} (h : IsSpace space) :
      Spells ('[' :: (space ++ [']'])) (.array [] none)
  | array {cs : List Char} {items : List Document} (h : SpellsItems cs items) :
      Spells ('[' :: (cs ++ [']'])) (.array items none)
  | emptyObject {space : List Char} (h : IsSpace space) :
      Spells ('{' :: (space ++ ['}'])) (.object [] none)
  | object {cs : List Char} {members : List (Name × Document)} (h : SpellsMembers cs members) :
      Spells ('{' :: (cs ++ ['}'])) (.object members none)

/-- A value with space around it. -/
inductive SpellsAmidSpace : List Char → Document → Prop
  | intro {before cs after : List Char} {doc : Document} (hbefore : IsSpace before)
      (h : Spells cs doc) (hafter : IsSpace after) :
      SpellsAmidSpace (before ++ (cs ++ after)) doc

inductive SpellsItems : List Char → List Document → Prop
  | one {cs : List Char} {item : Document} (h : SpellsAmidSpace cs item) : SpellsItems cs [item]
  | more {cs cs' : List Char} {item : Document} {items : List Document}
      (h : SpellsAmidSpace cs item) (hmore : SpellsItems cs' items) :
      SpellsItems (cs ++ ',' :: cs') (item :: items)

/-- A name and its value. Unlike a value, a name has to stand for a text. -/
inductive SpellsMember : List Char → Name × Document → Prop
  | intro {before name after cs : List Char} {k : String} {value : Document}
      (hbefore : IsSpace before) (hname : SpellsString name (some k)) (hafter : IsSpace after)
      (h : SpellsAmidSpace cs value) :
      SpellsMember (before ++ (name ++ (after ++ ':' :: cs))) (.text (some k), value)

inductive SpellsMembers : List Char → List (Name × Document) → Prop
  | one {cs : List Char} {member : Name × Document} (h : SpellsMember cs member) :
      SpellsMembers cs [member]
  | more {cs cs' : List Char} {member : Name × Document} {members : List (Name × Document)}
      (h : SpellsMember cs member) (hmore : SpellsMembers cs' members) :
      SpellsMembers (cs ++ ',' :: cs') (member :: members)

end

/-- The whole text is JSON for this document. -/
def IsText (s : String) (doc : Document) : Prop := SpellsAmidSpace s.toList doc

/-! ### Space -/

variable {cs rest space : List Char}

theorem isSpace_nil : IsSpace [] := nofun

theorem skipSpace_cons {c : Char} (h : isSpace c = false) (cs : List Char) :
    skipSpace (c :: cs) = c :: cs :=
  List.dropWhile_cons_of_neg (by simp [h])

theorem skipSpace_append (h : IsSpace space) (cs : List Char) :
    skipSpace (space ++ cs) = skipSpace cs :=
  List.dropWhile_append_of_pos h

theorem skipSpace_append_cons {c : Char} (h : IsSpace space) (hc : isSpace c = false)
    (cs : List Char) : skipSpace (space ++ c :: cs) = c :: cs := by
  rw [skipSpace_append h, skipSpace_cons hc]

theorem skipSpace_eq_nil (h : IsSpace space) : skipSpace space = [] := by
  rw [← List.append_nil space, skipSpace_append h]
  rfl

/-! ### Strings -/

theorem scanString_of_spells {ps : List Piece} (h : SpellsPieces cs ps) (rest : List Char) :
    scanString (cs ++ '"' :: rest) = (ps, .ok rest) := by
  induction h with
  | nil => rfl
  | plain hquote hslash hc _ ih =>
    rw [List.cons_append, scanString]
    · simp only [Nat.not_lt.mpr hc, if_false, ih]
    · exact hquote
    · exact hslash
  | @short e c cs ps he _ ih =>
    have hu : e ≠ 'u' := by
      rintro rfl
      cases he
    rw [List.cons_append, List.cons_append, scanString]
    · simp only [he, ih]
    · exact hu
  | @unit a b c d n cs ps hn _ ih =>
    -- Every character takes a byte at least, so four of them are never too short.
    have hends : ∀ more, endsWithinFour (a :: b :: c :: d :: more) = false := by
      have hsizes := And.intro a.utf8Size_pos (And.intro b.utf8Size_pos
        (And.intro c.utf8Size_pos d.utf8Size_pos))
      intro more
      simp [endsWithinFour]
      omega
    simp only [List.cons_append]
    rw [scanString]
    simp only [hends, hn, ih, if_neg Bool.false_ne_true]

theorem SpellsString.eq_cons {s? : Option String} (h : SpellsString cs s?) :
    ∃ more, cs = '"' :: more := by
  obtain ⟨-⟩ := h
  exact ⟨_, rfl⟩

theorem readString_of_spells {s? : Option String} (h : SpellsString cs s?) (rest : List Char) :
    ∃ more, cs ++ rest = '"' :: more ∧ readString more = (.string s?, some rest) := by
  obtain ⟨h⟩ := h
  refine ⟨_, List.cons_append, ?_⟩
  rw [List.append_assoc, List.singleton_append, readString, scanString_of_spells h]

/-! ### Numbers -/

/-- Nothing that a number could go on with comes next. -/
def EndsNumber (rest : List Char) : Prop :=
  ∀ c ∈ rest.head?, c.isDigit = false ∧ c ≠ '.' ∧ c ≠ 'e' ∧ c ≠ 'E'

theorem endsNumber_of_isSpace {c : Char} (h : isSpace c = true) : c.isDigit = false ∧ c ≠ '.' ∧
    c ≠ 'e' ∧ c ≠ 'E' := by
  simp only [isSpace, Bool.or_eq_true, decide_eq_true_eq] at h
  rcases h with ((rfl | rfl) | rfl) | rfl <;> decide

theorem EndsNumber.append (h : EndsNumber rest) (hspace : IsSpace space) :
    EndsNumber (space ++ rest) := by
  cases space with
  | nil => exact h
  | cons c space =>
    rintro _ ⟨⟩
    exact endsNumber_of_isSpace (hspace c List.mem_cons_self)

theorem takeDigits_append {ds : List Char} (h : ∀ c ∈ ds, c.isDigit = true)
    (hrest : ∀ c ∈ rest.head?, c.isDigit = false) : takeDigits (ds ++ rest) = (ds, rest) := by
  have hdrop : (ds ++ rest).dropWhile Char.isDigit = rest := by
    rw [List.dropWhile_append_of_pos h]
    cases rest with
    | nil => rfl
    | cons c rest => exact List.dropWhile_cons_of_neg (by simp [hrest c rfl])
  rw [takeDigits, Text.takeWhile_isDigit_append h hrest, hdrop]

section

variable {ds fraction fs exponent : List Char} {e : Int} {inRange : Bool}

theorem IsDigits.head?_ne {c : Char} (h : IsDigits ds) (hc : c.isDigit = false)
    (rest : List Char) : (ds ++ rest).head? ≠ some c := by
  obtain ⟨d, ds, rfl⟩ := List.exists_cons_of_ne_nil h.1
  rintro ⟨⟩
  rw [h.2 c List.mem_cons_self] at hc
  cases hc

theorem readExponent?_of_spells (he : SpellsSigned exponent e)
    (h : ∀ c ∈ rest.head?, c.isDigit = false) :
    readExponent? (exponent ++ rest) = .ok (e, rest) := by
  cases he with
  | bare hds =>
    have hminus := hds.head?_ne (c := '-') rfl rest
    have hplus := hds.head?_ne (c := '+') rfl rest
    have hdigits := takeDigits_append hds.2 h
    rw [readExponent?]
    · simp only [hdigits, hds.1, if_false, Bool.false_eq_true]
    · exact fun _ he => hminus (by rw [he]; rfl)
    · exact fun _ he => hplus (by rw [he]; rfl)
  | plus hds => simp [readExponent?, takeDigits_append hds.2 h, hds.1]
  | minus hds => simp [readExponent?, takeDigits_append hds.2 h, hds.1]

theorem SpellsExponent.head?_append (he : SpellsExponent exponent e) (h : EndsNumber rest) :
    ∀ c ∈ (exponent ++ rest).head?, c.isDigit = false ∧ c ≠ '.' := by
  cases he with
  | none => exact fun c hc => ⟨(h c hc).1, (h c hc).2.1⟩
  | some hmark _ =>
    rintro _ ⟨⟩
    rcases hmark with rfl | rfl <;> decide

theorem SpellsFraction.head?_append (hf : SpellsFraction fraction fs)
    (h : ∀ c ∈ rest.head?, c.isDigit = false) :
    ∀ c ∈ (fraction ++ rest).head?, c.isDigit = false := by
  cases hf with
  | none => exact h
  | some _ =>
    rintro _ ⟨⟩
    rfl

theorem readFraction?_of_spells (ds : List Char) (hf : SpellsFraction fraction fs)
    (he : SpellsExponent exponent e) (h : EndsNumber rest) :
    readFraction? ds (fraction ++ (exponent ++ rest)) = .ok (isInRange ds fs e, rest) := by
  have hhead : ∀ c ∈ (exponent ++ rest).head?, c.isDigit = false :=
    fun c hc => (he.head?_append h c hc).1
  cases he with
  | none =>
    rw [List.nil_append] at hhead ⊢
    cases hf with
    | none =>
      simp only [List.nil_append, readFraction?, pure_bind]
      split
      · exact absurd rfl (h '.' rfl).2.1
      · split
        · exact absurd rfl (h 'e' rfl).2.2.1
        · exact absurd rfl (h 'E' rfl).2.2.2
        · rfl
    | some hfs =>
      have hdigits := takeDigits_append hfs.2 hhead
      simp only [List.cons_append, readFraction?, hdigits, hfs.1, if_false, pure_bind]
      split
      · exact absurd rfl (h 'e' rfl).2.2.1
      · exact absurd rfl (h 'E' rfl).2.2.2
      · rfl
  | some hmark hs =>
    have hexponent := readExponent?_of_spells hs fun c hc => (h c hc).1
    rw [List.cons_append] at hhead ⊢
    cases hf with
    | none =>
      rcases hmark with rfl | rfl <;>
        simp only [List.nil_append, readFraction?, hexponent, pure_bind] <;> rfl
    | some hfs =>
      have hdigits := takeDigits_append hfs.2 hhead
      rcases hmark with rfl | rfl <;>
        simp only [List.cons_append, readFraction?, hdigits, hfs.1, if_false, hexponent,
          pure_bind] <;> rfl

theorem readNumber?_minus (h : cs.head? ≠ some '-') : readNumber? ('-' :: cs) = readNumber? cs := by
  cases cs with
  | nil => rfl
  | cons c cs =>
    have hc : c ≠ '-' := fun he => h (by rw [he, List.head?_cons])
    simp [readNumber?, hc]

theorem readNumber?_of_spells (hu : SpellsUnsigned cs inRange) (h : EndsNumber rest) :
    readNumber? ('-' :: (cs ++ rest)) = .ok (inRange, rest) ∧
      readNumber? (cs ++ rest) = .ok (inRange, rest) := by
  obtain @⟨ds, fraction, fs, exponent, e, hds, hzero, hf, he⟩ := hu
  have hfraction := readFraction?_of_spells ds hf he h
  have hdigits := takeDigits_append hds.2
    (hf.head?_append fun c hc => (he.head?_append h c hc).1)
  have hread : readNumber? ('-' :: (ds ++ (fraction ++ (exponent ++ rest)))) =
      .ok (isInRange ds fs e, rest) := by
    rw [readNumber?, hdigits, ← hfraction]
    split
    · next heq => exact absurd (Prod.mk.inj heq).1 hds.1
    · next heq =>
      obtain ⟨rfl, -⟩ := Prod.mk.inj heq
      cases hzero rfl
    · next heq =>
      obtain ⟨rfl, rfl⟩ := Prod.mk.inj heq
      rfl
  rw [List.append_assoc, List.append_assoc]
  exact ⟨hread, readNumber?_minus (hds.head?_ne rfl _) ▸ hread⟩

theorem readNumber_of_spells (hn : SpellsNumber cs inRange) (h : EndsNumber rest) :
    readNumber (cs ++ rest) = (.number inRange, some rest) := by
  cases hn with
  | plain hu => rw [readNumber, (readNumber?_of_spells hu h).2]
  | minus hu => rw [List.cons_append, readNumber, (readNumber?_of_spells hu h).1]

theorem SpellsNumber.eq_cons (h : SpellsNumber cs inRange) :
    ∃ c more, cs = c :: more ∧ (c = '-' ∨ c.isDigit = true) := by
  cases h with
  | plain hu =>
    obtain ⟨hds, -, -, -⟩ := hu
    obtain ⟨d, ds, rfl⟩ := List.exists_cons_of_ne_nil hds.1
    exact ⟨d, _, rfl, .inr (hds.2 d List.mem_cons_self)⟩
  | minus _ => exact ⟨'-', _, rfl, .inl rfl⟩

theorem isSpace_of_number {c : Char} (h : c = '-' ∨ c.isDigit = true) : isSpace c = false := by
  by_contra hspace
  simp only [isSpace, Bool.not_eq_false, Bool.or_eq_true, decide_eq_true_eq] at hspace
  rcases hspace with ((rfl | rfl) | rfl) | rfl <;> simp at h

end

/-! ### Values -/

variable {doc : Document} {items : List Document} {members : List (Name × Document)}

theorem Spells.eq_cons (h : Spells cs doc) :
    ∃ c more, cs = c :: more ∧ isSpace c = false ∧ c ≠ ']' ∧ c ≠ '}' := by
  cases h with
  | number hn =>
    obtain ⟨c, more, rfl, hc⟩ := hn.eq_cons
    refine ⟨c, more, rfl, isSpace_of_number hc, ?_, ?_⟩ <;> rintro rfl <;> simp at hc
  | string hs =>
    obtain ⟨more, rfl⟩ := hs.eq_cons
    exact ⟨_, more, rfl, rfl, by decide, by decide⟩
  | bool b => cases b <;> exact ⟨_, _, rfl, rfl, by decide, by decide⟩
  | _ => exact ⟨_, _, rfl, rfl, by decide, by decide⟩

theorem Spells.length_pos (h : Spells cs doc) : 0 < cs.length := by
  obtain ⟨c, more, rfl, -⟩ := h.eq_cons
  exact Nat.succ_pos _

/-- What stands in brackets does not look like their end. -/
def StartsInside (stop : Char) (cs : List Char) : Prop :=
  ∀ rest, ∃ c more, skipSpace (cs ++ rest) = c :: more ∧ c ≠ stop

theorem StartsInside.append {stop : Char} (h : StartsInside stop cs) (more : List Char) :
    StartsInside stop (cs ++ more) := by
  intro rest
  rw [List.append_assoc]
  exact h _

theorem SpellsAmidSpace.exists_spells (h : SpellsAmidSpace cs doc) : ∃ cs', Spells cs' doc := by
  obtain ⟨-, h, -⟩ := h
  exact ⟨_, h⟩

theorem SpellsAmidSpace.startsInside (h : SpellsAmidSpace cs doc) : StartsInside ']' cs := by
  obtain ⟨hbefore, hvalue, -⟩ := h
  obtain ⟨c, more, rfl, hspace, hne, -⟩ := hvalue.eq_cons
  intro rest
  rw [List.append_assoc, List.cons_append, List.cons_append]
  exact ⟨c, _, skipSpace_append_cons hbefore hspace _, hne⟩

theorem SpellsItems.startsInside (h : SpellsItems cs items) : StartsInside ']' cs := by
  cases h with
  | one h => exact h.startsInside
  | more h _ => exact h.startsInside.append _

theorem SpellsMember.startsInside {member : Name × Document} (h : SpellsMember cs member) :
    StartsInside '}' cs := by
  obtain ⟨hbefore, hname, -, -⟩ := h
  obtain ⟨name, rfl⟩ := hname.eq_cons
  intro rest
  rw [List.append_assoc, List.cons_append, List.cons_append]
  exact ⟨'"', _, skipSpace_append_cons hbefore rfl _, by decide⟩

theorem SpellsMembers.startsInside (h : SpellsMembers cs members) : StartsInside '}' cs := by
  cases h with
  | one h => exact h.startsInside
  | more h _ => exact h.startsInside.append _

/-- With this fuel all texts that are not longer are read as what they spell, whatever comes behind
them. -/
structure ReadsSpelled (fuel : Nat) : Prop where
  value : ∀ {cs doc rest}, Spells cs doc → cs.length ≤ fuel → EndsNumber rest →
    readValue fuel (cs ++ rest) = (doc, some rest)
  items : ∀ {cs items}, SpellsItems cs items → cs.length < fuel → ∀ rest,
    readItems fuel (cs ++ ']' :: rest) = (items, none, some rest)
  members : ∀ {cs members}, SpellsMembers cs members → cs.length < fuel → ∀ rest,
    readMembers fuel (cs ++ '}' :: rest) = (members, none, some rest)

section

variable {fuel : Nat} {before : List Char}

theorem readValue_skipSpace (fuel : Nat) (h : IsSpace before) (cs : List Char) :
    readValue fuel (before ++ cs) = readValue fuel cs := by
  cases fuel with
  | zero => rfl
  | succ fuel => rw [readValue, readValue, skipSpace_append h]

/-- A value is read with the space around it; what comes next may be more space. -/
theorem ReadsSpelled.amidSpace (h : ReadsSpelled fuel) (hs : SpellsAmidSpace cs doc)
    (hfuel : cs.length ≤ fuel) {rest : List Char} (hrest : EndsNumber rest) :
    ∃ space, IsSpace space ∧ readValue fuel (cs ++ rest) = (doc, some (space ++ rest)) := by
  obtain @⟨before, cs, after, doc, hbefore, hvalue, hafter⟩ := hs
  simp only [List.length_append] at hfuel
  refine ⟨after, hafter, ?_⟩
  rw [List.append_assoc, List.append_assoc, readValue_skipSpace fuel hbefore]
  exact h.value hvalue (by omega) (hrest.append hafter)

theorem readValue_number {c : Char} (hc : c = '-' ∨ c.isDigit = true) (cs : List Char) :
    readValue (fuel + 1) (c :: cs) = readNumber (c :: cs) := by
  rw [readValue, skipSpace_cons (isSpace_of_number hc)]
  split
  case h_8 heq =>
    cases heq
    exact if_pos hc
  all_goals
    next heq =>
      cases heq <;> simp at hc

theorem readValue_array (h : ReadsSpelled fuel) (hs : SpellsItems cs items)
    (hfuel : cs.length < fuel) (rest : List Char) :
    readValue (fuel + 1) ('[' :: (cs ++ ']' :: rest)) = (.array items none, some rest) := by
  obtain ⟨c, more, hc, hne⟩ := hs.startsInside (']' :: rest)
  have hbracket : ∀ cs, skipSpace ('[' :: cs) = '[' :: cs := fun _ => rfl
  simp [readValue, hbracket, hc, hne, h.items hs hfuel]

theorem readValue_object (h : ReadsSpelled fuel) (hs : SpellsMembers cs members)
    (hfuel : cs.length < fuel) (rest : List Char) :
    readValue (fuel + 1) ('{' :: (cs ++ '}' :: rest)) = (.object members none, some rest) := by
  obtain ⟨c, more, hc, hne⟩ := hs.startsInside ('}' :: rest)
  have hbrace : ∀ cs, skipSpace ('{' :: cs) = '{' :: cs := fun _ => rfl
  simp [readValue, hbrace, hc, hne, h.members hs hfuel]

theorem ReadsSpelled.value_succ (h : ReadsSpelled fuel) (hs : Spells cs doc)
    (hfuel : cs.length ≤ fuel + 1) (hrest : EndsNumber rest) :
    readValue (fuel + 1) (cs ++ rest) = (doc, some rest) := by
  cases hs with
  | null => rfl
  | bool b => cases b <;> rfl
  | number hn =>
    obtain ⟨c, more, rfl, hc⟩ := hn.eq_cons
    rw [List.cons_append, readValue_number hc, ← List.cons_append, readNumber_of_spells hn hrest]
  | string hs =>
    obtain ⟨more, hmore, hread⟩ := readString_of_spells hs rest
    rw [hmore]
    exact hread
  | emptyArray hspace =>
    have hbracket : ∀ cs, skipSpace ('[' :: cs) = '[' :: cs := fun _ => rfl
    simp only [List.cons_append, List.append_assoc, List.nil_append, readValue, hbracket,
      skipSpace_append_cons (c := ']') hspace rfl]
  | emptyObject hspace =>
    have hbrace : ∀ cs, skipSpace ('{' :: cs) = '{' :: cs := fun _ => rfl
    simp only [List.cons_append, List.append_assoc, List.nil_append, readValue, hbrace,
      skipSpace_append_cons (c := '}') hspace rfl]
  | array hitems =>
    simp only [List.length_cons, List.length_append, List.length_nil] at hfuel
    rw [List.cons_append, List.append_assoc]
    exact readValue_array h hitems (by omega) rest
  | object hmembers =>
    simp only [List.length_cons, List.length_append, List.length_nil] at hfuel
    rw [List.cons_append, List.append_assoc]
    exact readValue_object h hmembers (by omega) rest

theorem endsNumber_mark {c : Char} (h : c = ',' ∨ c = ']' ∨ c = '}') (rest : List Char) :
    EndsNumber (c :: rest) := by
  rintro _ ⟨⟩
  rcases h with rfl | rfl | rfl <;> decide

theorem ReadsSpelled.items_succ (h : ReadsSpelled fuel) (hs : SpellsItems cs items)
    (hfuel : cs.length < fuel + 1) (rest : List Char) :
    readItems (fuel + 1) (cs ++ ']' :: rest) = (items, none, some rest) := by
  cases hs with
  | one hitem =>
    have hend := endsNumber_mark (c := ']') (by simp) rest
    obtain ⟨space, hspace, hread⟩ := h.amidSpace hitem (Nat.le_of_lt_succ hfuel) hend
    simp only [readItems, hread, skipSpace_append_cons (c := ']') hspace rfl]
  | @more cs cs' _ _ hitem hmore =>
    simp only [List.length_append, List.length_cons] at hfuel
    have hend := endsNumber_mark (c := ',') (by simp) (cs' ++ ']' :: rest)
    obtain ⟨space, hspace, hread⟩ := h.amidSpace hitem (by omega) hend
    have hitems := h.items hmore (by omega) rest
    simp only [List.append_assoc, List.cons_append, readItems, hread,
      skipSpace_append_cons (c := ',') hspace rfl, hitems]

/-- A member is read up to its value; what comes next may be more space. -/
theorem ReadsSpelled.member (h : ReadsSpelled fuel) {member : Name × Document}
    (hs : SpellsMember cs member) (hfuel : cs.length ≤ fuel) {rest : List Char}
    (hrest : EndsNumber rest) : ∃ k name more value space, member.1 = .text (some k) ∧
      IsSpace space ∧ skipSpace (cs ++ rest) = '"' :: name ∧
      readString name = (.string (some k), some more) ∧ skipSpace more = ':' :: value ∧
      readValue fuel value = (member.2, some (space ++ rest)) := by
  obtain @⟨before, name, after, cs, k, value, hbefore, hname, hafter, hvalue⟩ := hs
  simp only [List.length_append, List.length_cons] at hfuel
  obtain ⟨space, hspace, hread⟩ := h.amidSpace hvalue (by omega) hrest
  obtain ⟨more, hmore, hstring⟩ := readString_of_spells hname (after ++ ':' :: (cs ++ rest))
  have hskip : skipSpace (before ++ (name ++ (after ++ ':' :: cs)) ++ rest) = '"' :: more := by
    simp only [List.append_assoc, List.cons_append, hmore]
    exact skipSpace_append_cons hbefore rfl more
  exact ⟨k, more, _, _, space, rfl, hspace, hskip, hstring, skipSpace_append_cons hafter rfl _,
    hread⟩

theorem ReadsSpelled.members_succ (h : ReadsSpelled fuel) (hs : SpellsMembers cs members)
    (hfuel : cs.length < fuel + 1) (rest : List Char) :
    readMembers (fuel + 1) (cs ++ '}' :: rest) = (members, none, some rest) := by
  cases hs with
  | @one _ member hmember =>
    have hend := endsNumber_mark (c := '}') (by simp) rest
    obtain ⟨k, name, more, value, space, hk, hspace, hcs, hname, hmore, hread⟩ :=
      h.member hmember (Nat.le_of_lt_succ hfuel) hend
    simp only [readMembers, hcs, hname, hmore, hread, skipSpace_append_cons (c := '}') hspace rfl,
      ← hk]
  | @more cs cs' member members hmember hmore =>
    simp only [List.length_append, List.length_cons] at hfuel
    have hend := endsNumber_mark (c := ',') (by simp) (cs' ++ '}' :: rest)
    obtain ⟨k, name, more, value, space, hk, hspace, hcs, hname, hmore', hread⟩ :=
      h.member hmember (by omega) hend
    have hmembers := h.members hmore (by omega) rest
    simp only [List.append_assoc, List.cons_append, readMembers, hcs, hname, hmore', hread,
      skipSpace_append_cons (c := ',') hspace rfl, hmembers, ← hk]

theorem readsSpelled (fuel : Nat) : ReadsSpelled fuel := by
  induction fuel with
  | zero =>
    refine ⟨fun hs hfuel _ => ?_, fun _ hfuel => ?_, fun _ hfuel => ?_⟩
    · exact absurd hs.length_pos (Nat.not_lt.mpr hfuel)
    · exact absurd hfuel (Nat.not_lt_zero _)
    · exact absurd hfuel (Nat.not_lt_zero _)
  | succ fuel ih =>
    exact ⟨ih.value_succ, ih.items_succ, ih.members_succ⟩

end

mutual

/-- What is spelled in full can be passed over. -/
theorem Spells.passOver : ∀ {doc : Document} {cs : List Char}, Spells cs doc →
    doc.passOver = .ok ()
  | .array items _, _, h => by
    have hitems : passOverItems items = .ok () := by
      cases h with
      | emptyArray _ => rfl
      | array h => exact h.passOver
    cases h <;> rw [Document.passOver, hitems] <;> rfl
  | .object members _, _, h => by
    have hmembers : passOverMembers members = .ok () := by
      cases h with
      | emptyObject _ => rfl
      | object h => exact h.passOver
    cases h <;> rw [Document.passOver, hmembers] <;> rfl
  | .null, _, _ | .bool _, _, _ | .number _, _, _ | .string _, _, _ => rfl

theorem SpellsItems.passOver : ∀ {items : List Document} {cs : List Char}, SpellsItems cs items →
    passOverItems items = .ok ()
  | [], _, h => nomatch h
  | item :: items, _, h => by
    have hitem : item.passOver = .ok () := by
      rcases h with ⟨⟨-, h, -⟩⟩ | ⟨⟨-, h, -⟩, -⟩ <;> exact h.passOver
    have hitems : passOverItems items = .ok () := by
      cases h with
      | one _ => rfl
      | more _ h => exact h.passOver
    rw [passOverItems, hitem]
    exact hitems

theorem SpellsMembers.passOver : ∀ {members : List (Name × Document)} {cs : List Char},
    SpellsMembers cs members → passOverMembers members = .ok ()
  | [], _, h => nomatch h
  | (name, value) :: members, _, h => by
    have hvalue : value.passOver = .ok () ∧ ∃ k, name = .text (some k) := by
      rcases h with ⟨⟨-, -, -, ⟨-, h, -⟩⟩⟩ | ⟨⟨-, -, -, ⟨-, h, -⟩⟩, -⟩ <;>
        exact ⟨h.passOver, _, rfl⟩
    have hmembers : passOverMembers members = .ok () := by
      cases h with
      | one _ => rfl
      | more _ h => exact h.passOver
    obtain ⟨hvalue, k, rfl⟩ := hvalue
    rw [passOverMembers, hvalue]
    exact hmembers

end

/-- Members that all have a name. -/
def withNames (members : List (String × Document)) : List (Name × Document) :=
  members.map fun member => (.text (some member.1), member.2)

/-- The whole text is a JSON object with these members. -/
def IsObjectText (s : String) (members : List (String × Document)) : Prop :=
  IsText s (.object (withNames members) none)

theorem passOver_of_passOverMembers {members : List (String × Document)}
    (h : passOverMembers (withNames members) = .ok ()) :
    ∀ member ∈ members, member.2.passOver = .ok () := by
  induction members with
  | nil => nofun
  | cons member members ih =>
    obtain ⟨_, hvalue, hmembers⟩ := except_bind_eq_ok_iff.mp h
    exact List.forall_mem_cons.mpr ⟨hvalue, ih hmembers⟩

theorem IsObjectText.passOver {s : String} {members : List (String × Document)}
    (h : IsObjectText s members) : ∀ member ∈ members, member.2.passOver = .ok () := by
  obtain ⟨_, hspells⟩ := h.exists_spells
  obtain ⟨_, hmembers, -⟩ := except_bind_eq_ok_iff.mp hspells.passOver
  exact passOver_of_passOverMembers hmembers

theorem readDocument_of_spells (h : Spells cs doc) : readDocument cs = (doc, some []) := by
  have hend : EndsNumber [] := nofun
  have hread := (readsSpelled (2 * cs.length + 2)).value h (by omega) hend
  rwa [List.append_nil] at hread

theorem readDocument_of_isText {s : String} (h : IsText s doc) :
    ∃ space, IsSpace space ∧ readDocument s.toList = (doc, some space) := by
  have hend : EndsNumber [] := nofun
  obtain ⟨space, hspace, hread⟩ :=
    (readsSpelled (2 * s.toList.length + 2)).amidSpace h (by omega) hend
  rw [List.append_nil, List.append_nil] at hread
  exact ⟨space, hspace, hread⟩

/-- Decoding the text of a document is decoding the document. -/
theorem decode_of_isText {α : Type} (d : Decoder α) {s : String} (h : IsText s doc) :
    decode d s = d doc := by
  obtain ⟨space, hspace, hread⟩ := readDocument_of_isText h
  rw [decode, decodeChars, hread]
  simp only [skipSpace_eq_nil hspace, if_pos]
  cases d doc <;> rfl

end Relocation.Json
