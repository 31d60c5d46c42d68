import Relocation.Json.Document
import Relocation.Dictionary
import Relocation.Named

/-! Decoders interpret a document as a wanted value or report the first problem from left to
right. Records are described once, by the list of their fields. -/

namespace Relocation.Json

abbrev Decoder (α : Type) := Document → Except Cause α

def ofCause? : Option Cause → Except Cause Unit
  | none => .ok ()
  | some cause => .error cause

mutual

def Document.passOver : Document → Except Cause Unit
  | .missing cause => .error cause
  | .brokenNull cause => .error cause
  | .brokenScalar _ cause => .error cause
  | .brokenString _ cause => .error cause
  | .array items ends => do passOverItems items; ofCause? ends
  | .object members ends => do passOverMembers members; ofCause? ends
  | _ => .ok ()

def passOverItems : List Document → Except Cause Unit
  | [] => .ok ()
  | item :: items => do item.passOver; passOverItems items

def passOverMembers : List (Name × Document) → Except Cause Unit
  | [] => .ok ()
  | (.broken _ cause, _) :: _ => .error cause
  | (.text _, value) :: members => do value.passOver; passOverMembers members

end

mutual

/-- Takes in a value of any kind: every text and number in it has to stand for something, and at
most `depth` brackets may be open. -/
def Document.takeIn (depth : Nat) : Document → Except Cause Unit
  | .array items ends =>
    match depth with
    | 0 => .error .malformed
    | depth + 1 => do takeInItems depth items; ofCause? ends
  | .object members ends =>
    match depth with
    | 0 => .error .malformed
    | depth + 1 => do takeInMembers depth members; ofCause? ends
  | .string none => .error .malformed
  | .number false => .error .malformed
  | .missing cause => .error cause
  | .brokenNull cause => .error cause
  | .brokenScalar cause _ => .error cause
  | .brokenString cause _ => .error cause
  | _ => .ok ()

def takeInItems (depth : Nat) : List Document → Except Cause Unit
  | [] => .ok ()
  | item :: items => do item.takeIn depth; takeInItems depth items

def takeInMembers (depth : Nat) : List (Name × Document) → Except Cause Unit
  | [] => .ok ()
  | (.broken cause _, _) :: _ => .error cause
  | (.text none, _) :: _ => .error .malformed
  | (.text (some _), value) :: members => do value.takeIn depth; takeInMembers depth members

end

def text : Decoder String
  | .string (some s) => .ok s
  | doc => .error doc.otherKind

def flag : Decoder Bool
  | .bool b => .ok b
  | doc => .error doc.otherKind

/-- A value, or `null` for none. -/
def optional {α : Type} (d : Decoder α) : Decoder (Option α)
  | .null => .ok none
  | .brokenNull cause => .error cause
  | doc => some <$> d doc

def nothing : Decoder Unit
  | .null => .ok ()
  | doc => .error doc.otherKind

/-- A value known by its name: a string, or an object whose only member has that name and the
value `null`. -/
def named {α : Type} (ofName? : String → Option α) : Decoder α
  | .string (some s) => (ofName? s).elim (.error .mismatch) .ok
  | .string none => .error .malformed
  | .brokenString cause _ => .error cause
  | .missing cause => .error cause
  | .brokenNull _ => .error .malformed
  | .object members ends =>
    match members with
    | [] => .error .malformed
    | (.broken cause _, _) :: _ => .error cause
    | (.text none, _) :: _ => .error .malformed
    | (.text (some s), value) :: others =>
      match ofName? s with
      | none => .error .mismatch
      | some a => do
        nothing value
        if others.isEmpty then ofCause? ends else throw .malformed
        return a
  | _ => .error .malformed

def decodeItems {α : Type} (d : Decoder α) : List Document → Except Cause (List α)
  | [] => .ok []
  | item :: items => do
    let a ← d item
    return a :: (← decodeItems d items)

def list {α : Type} (d : Decoder α) : Decoder (List α)
  | .array items ends => do
    let l ← decodeItems d items
    ofCause? ends
    return l
  | doc => .error doc.otherKind

def decodeEntries {α : Type} (d : Decoder α) :
    List (Name × Document) → Except Cause (List (String × α))
  | [] => .ok []
  | (.broken cause _, _) :: _ => .error cause
  | (.text none, _) :: _ => .error .malformed
  | (.text (some s), value) :: members => do
    let a ← d value
    return (s, a) :: (← decodeEntries d members)

/-- An object read as a dictionary; the last member with a name wins. -/
def dictionary {α : Type} (d : Decoder α) : Decoder (Dictionary α)
  | .object members ends => do
    let l ← decodeEntries d members
    ofCause? ends
    return .ofList l
  | doc => .error doc.otherKind

/-! ### Records -/

structure RecordField (σ : Type) where
  name : String
  isSet : σ → Bool
  read : Document → Except Cause (σ → σ)

def RecordField.of {σ β : Type} (name : String) (get : σ → Option β) (set : σ → β → σ)
    (d : Decoder β) : RecordField σ where
  name := name
  isSet s := (get s).isSome
  read doc := do
    let b ← d doc
    return fun s => set s b

/-- The field for a member of a partly filled record; `none` for a name that no field has. -/
def findField {σ : Type} (fields : List (RecordField σ)) (name : String) : Option (RecordField σ) :=
  fields.find? (fun f => f.name = name)

/-- Members by name: unknown ones are passed over, a field may not come twice. -/
def fillMembers {σ : Type} (fields : List (RecordField σ)) :
    σ → List (Name × Document) → Except Cause σ
  | s, [] => .ok s
  | _, (.broken cause _, _) :: _ => .error cause
  | _, (.text none, _) :: _ => .error .malformed
  | s, (.text (some name), value) :: members =>
    match findField fields name with
    | none => do
      value.passOver
      fillMembers fields s members
    | some field => do
      if field.isSet s then throw .mismatch
      let set ← field.read value
      fillMembers fields (set s) members

/-- Items by position, in the order of the fields. An item too many is malformed. -/
def fillItems {σ : Type} : List (RecordField σ) → σ → List Document → Except Cause σ
  | _, s, [] => .ok s
  | [], _, _ :: _ => .error .malformed
  | field :: fields, s, item :: items => do
    let set ← field.read item
    fillItems fields (set s) items

/-- A record from an object or from the array of its fields. `build` is `none` where a field that
has no default is not set. -/
def record {σ α : Type} (fields : List (RecordField σ)) (start : σ) (build : σ → Option α) :
    Decoder α
  | .object members ends => do
    let s ← fillMembers fields start members
    ofCause? ends
    (build s).elim (throw .mismatch) pure
  | .array items ends => do
    let s ← fillItems fields start items
    ofCause? ends
    (build s).elim (throw .mismatch) pure
  | doc => .error doc.otherKind

/-! ### Texts -/

def decodeChars {α : Type} (d : Decoder α) (cs : List Char) : Except Cause α :=
  match readDocument cs with
  | (doc, rest?) => do
    let a ← d doc
    match rest? with
    | some rest => if skipSpace rest = [] then return a else throw .malformed
    | none => throw .malformed

def decode {α : Type} (d : Decoder α) (s : String) : Except Cause α := decodeChars d s.toList

end Relocation.Json

namespace Relocation

def Named.decoder {α : Type} [Named α] : Json.Decoder α := Json.named ofName?

end Relocation
