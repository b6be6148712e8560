import CellScript.Number.Double
import CellScript.Text.Table

set_option autoImplicit false

/-! # JSON values

A `Value` is a JSON value. Integers of 64 bits are apart from other numbers, which are doubles. The
fields of an object are kept as they were written, in order and with repetitions;
`Value.canonical` puts them in the order of their keys, with the last value of each. -/

namespace CellScript.Json

/-- A JSON value. -/
inductive Value where
  | null
  | bool (b : Bool)
  | int (n : Int)
  | double (x : Double)
  | str (t : Text)
  | arr (vs : List Value)
  | obj (fs : List (Text × Value))
deriving Repr, Inhabited

/-- A field of an object. -/
def field (k : String) (v : Value) : Text × Value := (k.toList, v)

/-- A text as a value. -/
def text (s : String) : Value := .str s.toList

/-- The greatest integer. -/
def maxInt : Nat := Nat.pow 2 64 - 1

/-- The magnitude of the least integer. -/
def minIntMagnitude : Nat := Nat.pow 2 63

namespace Value

mutual

/-- The same value with its objects in canonical order, at every depth. -/
def canonical : Value → Value
  | .arr vs => .arr (canonicalAll vs)
  | .obj fs => .obj (Table.ofList (canonicalFields fs))
  | .null => .null
  | .bool b => .bool b
  | .int n => .int n
  | .double x => .double x
  | .str t => .str t

/-- Every value in canonical order. -/
def canonicalAll : List Value → List Value
  | [] => []
  | v :: vs => canonical v :: canonicalAll vs

/-- The value of every field in canonical order. -/
def canonicalFields : List (Text × Value) → List (Text × Value)
  | [] => []
  | (k, v) :: fs => (k, canonical v) :: canonicalFields fs

end

/-- The text of a value that is one. -/
def text? : Value → Option Text
  | .str t => some t
  | _ => none

/-- The natural number of a value that is one. -/
def nat? : Value → Option Nat
  | .int (.ofNat n) => some n
  | _ => none

/-- The fields of a value that is an object, in canonical order. -/
def fields? : Value → Option (Table Value)
  | .obj fs => some (Table.ofList (canonicalFields fs))
  | _ => none

/-- The texts of a value that is a list of them. -/
def texts? : Value → Option (List Text)
  | .arr vs => vs.mapM text?
  | _ => none

end Value

end CellScript.Json
