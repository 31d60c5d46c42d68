import Relocation.Dictionary
import Relocation.Text

/-! Files as the program sees them: what stands at a path, and reading a text from there. -/

namespace Relocation

/-- What stands at a path. A path through something that is not a directory leads nowhere, but
for another reason than a path that does not exist. -/
inductive Entry where
  | missing
  | notDirectory
  | directory
  | text (content : String)
  | binary
deriving DecidableEq, Inhabited

inductive ReadError where
  | missing
  | notDirectory
  | isDirectory
  | notText
deriving DecidableEq, Repr

def ReadError.message : ReadError → String
  | .missing => "No such file or directory (os error 2)"
  | .notDirectory => "Not a directory (os error 20)"
  | .isDirectory => "Is a directory (os error 21)"
  | .notText => "stream did not contain valid UTF-8"

namespace Entry

def exists? : Entry → Bool
  | .missing | .notDirectory => false
  | _ => true

def isFile : Entry → Bool
  | .text _ | .binary => true
  | _ => false

def ofBytes (bytes : ByteArray) : Entry := (String.fromUTF8? bytes).elim .binary .text

def read : Entry → Except ReadError String
  | .missing => .error .missing
  | .notDirectory => .error .notDirectory
  | .directory => .error .isDirectory
  | .text content => .ok content
  | .binary => .error .notText

end Entry

structure Files where
  look : String → Entry

/-- A directory with all below it, as paths from there; the directories on the way to an entry
need not be listed. -/
abbrev Tree := List (List String × Entry)

namespace Tree

def entryAt (tree : Tree) (names : List String) : Entry :=
  match tree.find? (fun e => e.1 = names) with
  | some (_, entry) => entry
  | none => if names = [] ∨ tree.any (fun e => names.isPrefixOf e.1) then .directory else .missing

/-- Follows the parts of a path from a place. Only a directory has parts below it, itself and the
directory above included. -/
def follow (tree : Tree) (place : List String) : List String → Entry
  | [] => tree.entryAt place
  | part :: parts =>
    match tree.entryAt place with
    | .directory =>
      if part = "" ∨ part = "." then follow tree place parts
      else if part = ".." then follow tree place.dropLast parts
      else follow tree (place ++ [part]) parts
    | .missing => .missing
    | _ => .notDirectory

/-- What stands at a path relative to the directory; an absolute path leads out of it. -/
def look (tree : Tree) (path : String) : Entry :=
  match path.toList with
  | [] => .missing
  | '/' :: rest => if rest.all (· = '/') then .directory else .missing
  | cs => tree.follow [] ((Text.cut '/' cs).map String.ofList)

def files (tree : Tree) : Files := ⟨tree.look⟩

end Tree

end Relocation
