import Relocation.Json.Decoder
import Relocation.Proofs.JsonGrammar

/-! What a JSON value is written as, on one line or indented, is a text of the value's document. -/

namespace Relocation.Json

/-! ### Strings -/

/-- The piece is what is read of this character: the character, or the code unit that a control
character is written as. -/
def Piece.StandsFor (p : Piece) (c : Char) : Prop :=
  p = .char c ∨ (p = .unit c.toNat ∧ c.toNat < 0x20)

theorem joinPieces_cons {p : Piece} {c : Char} (h : p.StandsFor c) (ps : List Piece) :
    joinPieces (p :: ps) = (joinPieces ps).map (c :: ·) := by
  rcases h with rfl | ⟨rfl, hc⟩
  · rfl
  · have hlead : isLead c.toNat = false := by simp [isLead]; omega
    have htrail : isTrail c.toNat = false := by simp [isTrail]; omega
    rw [joinPieces.eq_def]
    simp [hlead, htrail]

theorem hexDigit_control : ∀ n < 0x20,
    hexUnit? '0' '0' (hexDigit (n / 16)) (hexDigit (n % 16)) = some n := by
  decide

theorem spells_writeChar (c : Char) : ∃ p : Piece, p.StandsFor c ∧
    ∀ cs ps, SpellsPieces cs ps → SpellsPieces (writeChar c ++ cs) (p :: ps) := by
  have hshort : ∀ {e : Char}, shortEscape? e = some c → ∃ p : Piece, p.StandsFor c ∧
      ∀ cs ps, SpellsPieces cs ps → SpellsPieces (['\\', e] ++ cs) (p :: ps) :=
    fun he => ⟨.char c, .inl rfl, fun _ _ h => .short he h⟩
  unfold writeChar
  split_ifs with hquote hslash hb hf hn hr ht hcontrol
  · exact hshort (by rw [hquote]; rfl)
  · exact hshort (by rw [hslash]; rfl)
  · exact hshort (by rw [hb]; rfl)
  · exact hshort (by rw [hf]; rfl)
  · exact hshort (by rw [hn]; rfl)
  · exact hshort (by rw [hr]; rfl)
  · exact hshort (by rw [ht]; rfl)
  · exact ⟨.unit c.toNat, .inr ⟨rfl, hcontrol⟩,
      fun _ _ h => .unit (hexDigit_control c.toNat hcontrol) h⟩
  · exact ⟨.char c, .inl rfl, fun _ _ h => .plain hquote hslash (Nat.le_of_not_lt hcontrol) h⟩

theorem exists_pieces (cs : List Char) :
    ∃ ps, SpellsPieces (cs.flatMap writeChar) ps ∧ joinPieces ps = some cs := by
  induction cs with
  | nil => exact ⟨[], .nil, rfl⟩
  | cons c cs ih =>
    obtain ⟨ps, hs, hj⟩ := ih
    obtain ⟨p, hp, hc⟩ := spells_writeChar c
    exact ⟨p :: ps, hc _ _ hs, by rw [joinPieces_cons hp, hj, Option.map_some]⟩

theorem spells_writeString (s : String) : SpellsString (writeString s) (some s) := by
  obtain ⟨ps, hs, hj⟩ := exists_pieces s.toList
  have h := SpellsString.intro hs
  rwa [hj, Option.map_some, String.ofList_toList] at h

/-! ### Numbers -/

/-- Whether a number is within range is told from its digits. -/
def numberDocument (n : Int) : Document := .number (isInRange (Nat.toDigits 10 n.natAbs) [] 0)

theorem isDigits_toDigits (n : Nat) : IsDigits (Nat.toDigits 10 n) :=
  ⟨Nat.toDigits_ne_nil, fun _ => Nat.isDigit_of_mem_toDigits (by decide) (by decide)⟩

theorem spells_toDigits (n : Nat) :
    SpellsUnsigned (Nat.toDigits 10 n) (isInRange (Nat.toDigits 10 n) [] 0) := by
  have hzero : (Nat.toDigits 10 n).head? = some '0' → Nat.toDigits 10 n = ['0'] := by
    rcases Nat.eq_zero_or_pos n with rfl | hn
    · exact fun _ => rfl
    · exact fun h => absurd h (Text.head?_toDigits_ne_zero hn)
  simpa using SpellsUnsigned.intro (isDigits_toDigits n) hzero .none .none

theorem toList_toString_int (n : Int) : (toString n).toList =
    if n < 0 then '-' :: Nat.toDigits 10 n.natAbs else Nat.toDigits 10 n.natAbs := by
  cases n with
  | ofNat m => exact Nat.toList_repr
  | negSucc m =>
    have htext : toString (Int.negSucc m) = "-" ++ toString (m + 1) := rfl
    rw [htext, String.toList_append, if_pos (Int.negSucc_lt_zero m)]
    exact congrArg ('-' :: ·) Nat.toList_repr

theorem spells_toString (n : Int) : Spells (toString n).toList (numberDocument n) := by
  rw [toList_toString_int]
  split
  · exact .number (.minus (spells_toDigits n.natAbs))
  · exact .number (.plain (spells_toDigits n.natAbs))

/-! ### Values -/

mutual

/-- What the text of a value is read as. -/
def document : Json → Document
  | .null => .null
  | .bool b => .bool b
  | .number n => numberDocument n
  | .string s => .string (some s)
  | .array items => .array (itemDocuments items) none
  | .object members => .object (memberDocuments members) none

def itemDocuments : List Json → List Document
  | [] => []
  | item :: items => item.document :: itemDocuments items

def memberDocuments : List (String × Json) → List (Name × Document)
  | [] => []
  | (k, v) :: members => (.text (some k), v.document) :: memberDocuments members

end

theorem itemDocuments_eq_map (items : List Json) : itemDocuments items = items.map document := by
  induction items with
  | nil => rfl
  | cons item items ih => rw [itemDocuments, ih, List.map_cons]

theorem memberDocuments_eq_map (members : List (String × Json)) :
    memberDocuments members = members.map fun m => (.text (some m.1), m.2.document) := by
  induction members with
  | nil => rfl
  | cons member members ih => rw [memberDocuments, ih, List.map_cons]

section

variable {before between cs : List Char} {doc : Document}

theorem Spells.amidSpace (h : Spells cs doc) : SpellsAmidSpace cs doc := by
  simpa using SpellsAmidSpace.intro isSpace_nil h isSpace_nil

/-- A member as it is written: with space in front of the name and behind the colon only. -/
theorem spells_member (hbefore : IsSpace before) (k : String) (hbetween : IsSpace between)
    (h : Spells cs doc) {after : List Char} (hafter : IsSpace after) :
    SpellsMember (before ++ (writeString k ++ ':' :: (between ++ (cs ++ after))))
      (.text (some k), doc) := by
  simpa using SpellsMember.intro hbefore (spells_writeString k) isSpace_nil
    (.intro hbetween h hafter)

mutual

theorem spells_write : ∀ j : Json, Spells j.write j.document
  | .null => .null
  | .bool b => .bool b
  | .number n => spells_toString n
  | .string s => .string (spells_writeString s)
  | .array [] => .emptyArray isSpace_nil
  | .array (item :: items) => by
    obtain ⟨inside, hinside, hitems⟩ := spells_writeItems items (spells_write item)
    rw [write, hinside]
    exact .array hitems
  | .object [] => .emptyObject isSpace_nil
  | .object ((k, v) :: members) => by
    obtain ⟨inside, hinside, hmembers⟩ := spells_writeMembers members k (spells_write v)
    rw [write, hinside]
    exact .object hmembers

/-- The first item is spelled already; the others come behind it. -/
theorem spells_writeItems : ∀ (items : List Json) {cs : List Char} {doc : Document},
    Spells cs doc → ∃ inside, cs ++ writeItems items = inside ++ [']'] ∧
      SpellsItems inside (doc :: itemDocuments items)
  | [], cs, _, h => ⟨cs, rfl, .one h.amidSpace⟩
  | item :: items, cs, _, h => by
    obtain ⟨inside, hinside, hitems⟩ := spells_writeItems items (spells_write item)
    refine ⟨cs ++ ',' :: inside, ?_, .more h.amidSpace hitems⟩
    rw [writeItems, hinside, List.append_assoc, List.cons_append]

theorem spells_writeMembers : ∀ (members : List (String × Json)) (k : String) {cs : List Char}
    {doc : Document}, Spells cs doc →
    ∃ inside, writeString k ++ ':' :: (cs ++ writeMembers members) = inside ++ ['}'] ∧
      SpellsMembers inside ((.text (some k), doc) :: memberDocuments members)
  | [], k, cs, _, h => by
    refine ⟨writeString k ++ ':' :: cs, by simp [writeMembers], .one ?_⟩
    simpa using spells_member isSpace_nil k isSpace_nil h isSpace_nil
  | (k', v) :: members, k, cs, _, h => by
    obtain ⟨inside, hinside, hmembers⟩ := spells_writeMembers members k' (spells_write v)
    refine ⟨writeString k ++ ':' :: cs ++ ',' :: inside, ?_, .more ?_ hmembers⟩
    · rw [writeMembers, hinside]
      simp
    · simpa using spells_member isSpace_nil k isSpace_nil h isSpace_nil

end

theorem isSpace_newLine (depth : Nat) : IsSpace (newLine depth) := by
  intro c hc
  rcases List.mem_cons.mp hc with rfl | hc
  · rfl
  · rw [List.eq_of_mem_replicate hc]
    rfl

theorem isSpace_blank : IsSpace [' '] := by
  simp [IsSpace, isSpace]

mutual

theorem spells_writeIndented (depth : Nat) : ∀ j : Json, Spells (j.writeIndented depth) j.document
  | .null => .null
  | .bool b => .bool b
  | .number n => spells_toString n
  | .string s => .string (spells_writeString s)
  | .array [] => .emptyArray isSpace_nil
  | .array (item :: items) => by
    obtain ⟨inside, hinside, hitems⟩ :=
      spells_writeItemsIndented depth items (spells_writeIndented (depth + 1) item)
    rw [writeIndented, List.append_assoc, hinside]
    exact .array hitems
  | .object [] => .emptyObject isSpace_nil
  | .object ((k, v) :: members) => by
    obtain ⟨inside, hinside, hmembers⟩ :=
      spells_writeMembersIndented depth members k (spells_writeIndented (depth + 1) v)
    rw [writeIndented]
    simp only [List.append_assoc, List.cons_append] at hinside ⊢
    rw [hinside]
    exact .object hmembers

theorem spells_writeItemsIndented (depth : Nat) : ∀ (items : List Json) {cs : List Char}
    {doc : Document}, Spells cs doc →
    ∃ inside, newLine (depth + 1) ++ (cs ++ writeItemsIndented depth items) = inside ++ [']'] ∧
      SpellsItems inside (doc :: itemDocuments items)
  | [], cs, _, h => by
    refine ⟨newLine (depth + 1) ++ (cs ++ newLine depth), by simp [writeItemsIndented], .one ?_⟩
    exact .intro (isSpace_newLine _) h (isSpace_newLine _)
  | item :: items, cs, _, h => by
    obtain ⟨inside, hinside, hitems⟩ :=
      spells_writeItemsIndented depth items (spells_writeIndented (depth + 1) item)
    refine ⟨newLine (depth + 1) ++ (cs ++ []) ++ ',' :: inside, ?_, .more ?_ hitems⟩
    · simp [writeItemsIndented, hinside]
    · exact .intro (isSpace_newLine _) h isSpace_nil

theorem spells_writeMembersIndented (depth : Nat) : ∀ (members : List (String × Json))
    (k : String) {cs : List Char} {doc : Document}, Spells cs doc →
    ∃ inside, newLine (depth + 1) ++ (writeString k ++ ':' :: ' ' :: (cs ++
        writeMembersIndented depth members)) = inside ++ ['}'] ∧
      SpellsMembers inside ((.text (some k), doc) :: memberDocuments members)
  | [], k, cs, _, h => by
    have hmember := spells_member (isSpace_newLine (depth + 1)) k isSpace_blank h
      (isSpace_newLine depth)
    exact ⟨_, by simp [writeMembersIndented], .one hmember⟩
  | (k', v) :: members, k, cs, _, h => by
    obtain ⟨inside, hinside, hmembers⟩ :=
      spells_writeMembersIndented depth members k' (spells_writeIndented (depth + 1) v)
    have hmember := spells_member (isSpace_newLine (depth + 1)) k isSpace_blank h isSpace_nil
    refine ⟨_, ?_, .more hmember hmembers⟩
    simp [writeMembersIndented, ← hinside]

end

end

theorem isText_render (j : Json) : IsText j.render j.document := by
  rw [IsText, render, String.toList_ofList]
  exact (spells_write j).amidSpace

/-- The members of a written object as they are read. -/
def memberValues (members : List (String × Json)) : List (String × Document) :=
  members.map fun member => (member.1, member.2.document)

theorem memberDocuments_eq_withNames (members : List (String × Json)) :
    memberDocuments members = withNames (memberValues members) := by
  rw [memberDocuments_eq_map, withNames, memberValues, List.map_map]
  rfl

theorem isObjectText_render (members : List (String × Json)) :
    IsObjectText (Json.object members).render (memberValues members) := by
  have h := isText_render (.object members)
  rwa [document, memberDocuments_eq_withNames] at h

/-- Decoding the text of a value is decoding the document of the value. -/
theorem decode_render {α : Type} (d : Decoder α) (j : Json) : decode d j.render = d j.document :=
  decode_of_isText d (isText_render j)

theorem readDocument_render (j : Json) : readDocument j.render.toList = (j.document, some []) := by
  rw [render, String.toList_ofList]
  exact readDocument_of_spells (spells_write j)

theorem readDocument_renderIndented (j : Json) :
    readDocument j.renderIndented.toList = (j.document, some []) := by
  rw [renderIndented, String.toList_ofList]
  exact readDocument_of_spells (spells_writeIndented 0 j)

/-! ### One line -/

/-- No control character among these, and so no end of a line. -/
def IsPlain (cs : List Char) : Prop := ∀ c ∈ cs, 0x20 ≤ c.toNat

theorem isPlain_nil : IsPlain [] := nofun

theorem isPlain_cons {c : Char} {cs : List Char} :
    IsPlain (c :: cs) ↔ 0x20 ≤ c.toNat ∧ IsPlain cs :=
  List.forall_mem_cons

theorem isPlain_append {cs cs' : List Char} :
    IsPlain (cs ++ cs') ↔ IsPlain cs ∧ IsPlain cs' :=
  List.forall_mem_append

theorem hexDigit_plain : ∀ n < 0x20,
    0x20 ≤ (hexDigit (n / 16)).toNat ∧ 0x20 ≤ (hexDigit (n % 16)).toNat := by
  decide

theorem isPlain_writeChar (c : Char) : IsPlain (writeChar c) := by
  have hshort : ∀ e : Char, 0x20 ≤ e.toNat → IsPlain ['\\', e] := fun e he => by
    simp [isPlain_cons, isPlain_nil, he]
  unfold writeChar
  split_ifs with hquote hslash hb hf hn hr ht hcontrol
  · exact hshort '"' (by decide)
  · exact hshort '\\' (by decide)
  · exact hshort 'b' (by decide)
  · exact hshort 'f' (by decide)
  · exact hshort 'n' (by decide)
  · exact hshort 'r' (by decide)
  · exact hshort 't' (by decide)
  · obtain ⟨hhigh, hlow⟩ := hexDigit_plain c.toNat hcontrol
    simp [isPlain_cons, isPlain_nil, hhigh, hlow]
  · exact isPlain_cons.mpr ⟨Nat.le_of_not_lt hcontrol, isPlain_nil⟩

theorem isPlain_writeString (s : String) : IsPlain (writeString s) := by
  refine isPlain_cons.mpr ⟨by decide, isPlain_append.mpr ⟨?_, by simp [IsPlain]⟩⟩
  intro c hc
  obtain ⟨d, -, hd⟩ := List.mem_flatMap.mp hc
  exact isPlain_writeChar d c hd

theorem isPlain_toDigits (n : Nat) : IsPlain (Nat.toDigits 10 n) := by
  intro c hc
  have hdigit := (isDigits_toDigits n).2 c hc
  have hrange : 48 ≤ c.toNat ∧ c.toNat ≤ 57 := by
    simpa [Char.isDigit, UInt32.le_iff_toNat_le] using hdigit
  omega

theorem isPlain_toString (n : Int) : IsPlain (toString n).toList := by
  rw [toList_toString_int]
  split
  · exact isPlain_cons.mpr ⟨by decide, isPlain_toDigits _⟩
  · exact isPlain_toDigits _

mutual

theorem isPlain_write : ∀ j : Json, IsPlain j.write
  | .null => by simp [IsPlain, write]
  | .bool b => by cases b <;> simp [IsPlain, write]
  | .number n => isPlain_toString n
  | .string s => isPlain_writeString s
  | .array [] => by simp [IsPlain, write]
  | .array (item :: items) => by
    simp [write, isPlain_cons, isPlain_append, isPlain_write item, isPlain_writeItems items]
  | .object [] => by simp [IsPlain, write]
  | .object ((k, v) :: members) => by
    simp [write, isPlain_cons, isPlain_append, isPlain_writeString, isPlain_write v,
      isPlain_writeMembers members]

theorem isPlain_writeItems : ∀ items : List Json, IsPlain (writeItems items)
  | [] => by simp [IsPlain, writeItems]
  | item :: items => by
    simp [writeItems, isPlain_cons, isPlain_append, isPlain_write item, isPlain_writeItems items]

theorem isPlain_writeMembers : ∀ members : List (String × Json), IsPlain (writeMembers members)
  | [] => by simp [IsPlain, writeMembers]
  | (k, v) :: members => by
    simp [writeMembers, isPlain_cons, isPlain_append, isPlain_writeString, isPlain_write v,
      isPlain_writeMembers members]

end

end Relocation.Json
