import Relocation.Environment
import Relocation.Settings.Error

/-! Variables in a settings file: `$` and a name in braces stand for the value of an environment
variable. A value that was put in is not looked at again. -/

namespace Relocation.Interpolation

inductive Piece where
  | literal (c : Char)
  | reference (name : String)
  | unclosed
deriving DecidableEq, Repr

theorem length_of_cutFirst {sep : Char} {cs before rest : List Char}
    (h : Text.cutFirst sep cs = (before, some rest)) : rest.length < cs.length := by
  have hd : (cs.dropWhile (· ≠ sep)).tail? = some rest := congrArg Prod.snd h
  have hle : (cs.dropWhile (· ≠ sep)).length ≤ cs.length := (List.dropWhile_sublist _).length_le
  cases hc : cs.dropWhile (· ≠ sep) with
  | nil => rw [hc] at hd; cases hd
  | cons c tl =>
    rw [hc] at hd hle
    cases hd
    exact hle

/-- The pieces of a text; a name ends at the first closing brace. -/
def pieces : List Char → List Piece
  | [] => []
  | '$' :: '{' :: cs =>
    match _h : Text.cutFirst '}' cs with
    | (name, some rest) => .reference (String.ofList name) :: pieces rest
    | (_, none) => [.unclosed]
  | c :: cs => .literal c :: pieces cs
termination_by cs => cs.length
decreasing_by
  · have := length_of_cutFirst _h
    simp only [List.length_cons]
    omega
  · simp

def names (s : String) : List String :=
  (pieces s.toList).filterMap fun
    | .reference name => some name
    | _ => none

def Piece.value (env : Environment) : Piece → Except SettingsError (List Char)
  | .literal c => .ok [c]
  | .reference name => (env.value? name).elim (.error (.unsetVariable name)) (.ok ·.toList)
  | .unclosed => .error .unclosedVariable

/-- The text with every variable replaced by its value, or the first problem. -/
def interpolate (env : Environment) (s : String) : Except SettingsError String := do
  let values ← (pieces s.toList).mapM (Piece.value env)
  return String.ofList values.flatten

end Relocation.Interpolation
