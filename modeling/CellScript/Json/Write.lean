import CellScript.Json.Quoted
import CellScript.Json.Value
import CellScript.Number.Shortest

set_option autoImplicit false

/-! # Writing JSON

`Value.compact` writes a value without any blank. `Value.write` writes every element and field on a
line of its own, indented by two spaces a level, and what has none just as `Value.compact` does.
Fields are written in the order in which they stand. -/

namespace CellScript.Json

/-- A line end and the indentation of a level. -/
def newLine (level : Nat) : Text := '\n' :: List.replicate (2 * level) ' '

/-- The text of an integer. -/
def intText (n : Int) : Text :=
  (if n < 0 then ['-'] else []) ++ Nat.toDigits 10 n.natAbs

/-- The text of a value that is no list and no object. -/
def Value.scalarText : Value → Text
  | .null => "null".toList
  | .bool true => "true".toList
  | .bool false => "false".toList
  | .int n => intText n
  | .double x => x.text
  | .str t => quote t
  | .arr _ => []
  | .obj _ => []

namespace Value

mutual

/-- The text of a value, on one line. -/
def compact : Value → Text
  | .arr [] => ['[', ']']
  | .arr (v :: vs) => '[' :: compact v ++ compactMore vs ++ [']']
  | .obj [] => ['{', '}']
  | .obj ((k, v) :: fs) => '{' :: quote k ++ ':' :: compact v ++ compactMoreFields fs ++ ['}']
  | v => v.scalarText

/-- The elements after the first of a list, on one line. -/
def compactMore : List Value → Text
  | [] => []
  | v :: vs => ',' :: compact v ++ compactMore vs

/-- The fields after the first of an object, on one line. -/
def compactMoreFields : List (Text × Value) → Text
  | [] => []
  | (k, v) :: fs => ',' :: quote k ++ ':' :: compact v ++ compactMoreFields fs

end

mutual

/-- A value on a level. What has no parts is the same on one line. -/
def writeAt (level : Nat) : Value → Text
  | .arr (v :: vs) =>
    '[' :: newLine (level + 1) ++ writeAt (level + 1) v ++ writeMore (level + 1) vs ++
      newLine level ++ [']']
  | .obj ((k, v) :: fs) =>
    '{' :: newLine (level + 1) ++ quote k ++ [':', ' '] ++ writeAt (level + 1) v ++
      writeMoreFields (level + 1) fs ++ newLine level ++ ['}']
  | v => v.compact

/-- The elements after the first of a list. -/
def writeMore (level : Nat) : List Value → Text
  | [] => []
  | v :: vs => ',' :: newLine level ++ writeAt level v ++ writeMore level vs

/-- The fields after the first of an object. -/
def writeMoreFields (level : Nat) : List (Text × Value) → Text
  | [] => []
  | (k, v) :: fs =>
    ',' :: newLine level ++ quote k ++ [':', ' '] ++ writeAt level v ++ writeMoreFields level fs

end

/-- The text of a value, on many lines. -/
def write (v : Value) : Text := writeAt 0 v

end Value

end CellScript.Json
