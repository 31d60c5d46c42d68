/-! TOML values, and the tables that the statements of a document build up. -/

namespace Relocation

/-- A TOML value. Of floats and dates only the written form is kept. -/
inductive Toml where
  | string (s : String)
  | integer (n : Int)
  | float (written : String)
  | boolean (b : Bool)
  | datetime (written : String)
  | array (items : List Toml)
  | table (entries : List (String × Toml))
deriving Inhabited

namespace Toml

def get? (key : String) : Toml → Option Toml
  | table entries => (entries.find? (fun e => e.1 = key)).map (·.2)
  | _ => none

def getPath? : List String → Toml → Option Toml
  | [], t => some t
  | key :: keys, t => (t.get? key).bind (getPath? keys)

inductive Statement where
  | header (path : List String)
  | arrayHeader (path : List String)
  | assign (path : List String) (value : Toml)

/-- How a table came to be, which decides what may be added to it. -/
inductive Origin where
  | header
  | implied
  | dotted
deriving DecidableEq

/-- A value under construction; `tables` holds the tables of an array of tables. -/
inductive Node where
  | value (t : Toml)
  | table (origin : Origin) (entries : List (String × Node))
  | tables (elements : List (List (String × Node)))

abbrev Entries := List (String × Node)

def lookUp (key : String) (entries : Entries) : Option Node :=
  (entries.find? (fun e => e.1 = key)).map (·.2)

def store (key : String) (node : Node) : Entries → Entries
  | [] => [(key, node)]
  | (k, n) :: entries => if k = key then (k, node) :: entries else (k, n) :: store key node entries

/-- Goes down a path of keys and changes the table there. Missing tables are made on the way with
origin `made`; of an array of tables the last one is meant. A dotted key may not enter a table
that has its own header. `change` is told the origin of the table it gets. -/
def descend (made : Origin) (change : Origin → Entries → Option Entries) :
    List String → Origin → Entries → Option Entries
  | [], origin, entries => change origin entries
  | key :: path, _, entries =>
    match lookUp key entries with
    | none => do
      let below ← descend made change path made []
      return store key (.table made below) entries
    | some (.table origin below) =>
      if made = .dotted ∧ origin = .header then none
      else do
        let below ← descend made change path origin below
        return store key (.table origin below) entries
    | some (.tables elements) => do
      let below ← descend made change path .header (← elements.getLast?)
      return store key (.tables (elements.dropLast ++ [below])) entries
    | some (.value _) => none

/-- Opens the table of a header. A table may have one header only, and none if dotted keys made
it. -/
def openTable (key : String) (entries : Entries) : Option Entries :=
  match lookUp key entries with
  | none => some (store key (.table .header []) entries)
  | some (.table .implied below) => some (store key (.table .header below) entries)
  | _ => none

def openElement (key : String) (entries : Entries) : Option Entries :=
  match lookUp key entries with
  | none => some (store key (.tables [[]]) entries)
  | some (.tables elements) => some (store key (.tables (elements ++ [[]])) entries)
  | _ => none

/-- Adds a value under a new key. The table has to be dotted if and only if the key is. -/
def addValue (key : String) (node : Node) (isDotted : Bool) (origin : Origin)
    (entries : Entries) : Option Entries :=
  if isDotted ≠ (origin = .dotted) then none
  else if (lookUp key entries).isSome then none
  else some (store key node entries)

/-- Assigns a value to a dotted key, below a table. -/
def assignPath (path : List String) (node : Node) (origin : Origin) (entries : Entries) :
    Option Entries :=
  match path.getLast? with
  | none => none
  | some key =>
    let parents := path.dropLast
    descend .dotted (addValue key node (parents ≠ [])) parents origin entries

/-- Applies a statement to the root table; `current` is the path of the last header. -/
def applyStatement (current : List String) (root : Entries) :
    Statement → Option (List String × Entries)
  | .header path => do
    let root ← descend .implied (fun _ => openTable (path.getLastD "")) path.dropLast .header root
    return (path, root)
  | .arrayHeader path => do
    let root ← descend .implied (fun _ => openElement (path.getLastD "")) path.dropLast .header root
    return (path, root)
  | .assign path value => do
    let root ← descend .implied (fun _ => assignPath path (.value value) .header) current
      .header root
    return (current, root)

mutual

def Node.toToml : Node → Toml
  | .value t => t
  | .table _ entries => .table (entriesToToml entries)
  | .tables elements => .array (elementsToToml elements)

def entriesToToml : List (String × Node) → List (String × Toml)
  | [] => []
  | (key, node) :: entries => (key, node.toToml) :: entriesToToml entries

def elementsToToml : List (List (String × Node)) → List Toml
  | [] => []
  | entries :: elements => .table (entriesToToml entries) :: elementsToToml elements

end

def ofStatements (statements : List Statement) : Option Toml := do
  let (_, root) ← statements.foldlM
    (fun (current, root) s => applyStatement current root s) ([], [])
  return .table (entriesToToml root)

def ofPairs (pairs : List (List String × Toml)) : Option Toml := do
  let entries ← pairs.foldlM
    (fun entries (path, t) => assignPath path (.value t) .header entries) []
  return .table (entriesToToml entries)

end Toml

end Relocation
