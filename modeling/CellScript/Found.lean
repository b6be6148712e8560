import CellScript.Text.Shown

set_option autoImplicit false

/-! # What was found

The kinds of values, as a message names them that says that another kind was looked for. -/

namespace CellScript

/-- A kind of value, where another was looked for. -/
inductive Found where
  | null
  | bool (b : Bool)
  | int (n : Int)
  /-- A number that is no integer, as it is shown. -/
  | float (shown : Text)
  | str (t : Text)
  | list
  | object
deriving DecidableEq, Repr

/-- The words for what was found. -/
def Found.text : Found → String
  | null => "null"
  | bool b => "boolean `" ++ toString b ++ "`"
  | int n => "integer `" ++ toString n ++ "`"
  | float shown => "floating point `" ++ String.ofList shown ++ "`"
  | str t => "string " ++ String.ofList t.shown
  | list => "sequence"
  | object => "map"

end CellScript
