import CellScript.Cell.Basic

set_option autoImplicit false

/-! # Configuration

A configuration sets what the command line may leave open: how scripts are read and written, and how
notebooks are made. -/

namespace CellScript

/-- The name of a line ending in a configuration. -/
def LineEnding.name : LineEnding → String
  | native => "native"
  | lf => "lf"
  | crlf => "crlf"

/-- The line ending with a name. -/
def LineEnding.ofName? (t : Text) : Option LineEnding :=
  [native, lf, crlf].find? fun e => e.name.toList == t

/-- A configuration; what is not set is missing. -/
structure Config where
  /-- The module that guards are called on. -/
  guardModule : Option Text := none
  /-- How far the body of a block is indented. -/
  indent : Option Nat := none
  /-- Whether scripts import the module. -/
  importLine : Option Bool := none
  /-- The path of the template for notebooks. -/
  template : Option Text := none
  /-- What is put between the lines of a source. -/
  lineEnding : Option LineEnding := none
deriving DecidableEq, Repr, Inhabited

namespace Config

/-- The configuration that sets everything as it is by default. -/
def sample : Config :=
  { guardModule := some "herzog".toList
    indent := some 4
    importLine := some true
    lineEnding := some .native }

/-- The name of the file that a configuration is looked for in. -/
def fileName : Text := "_herzog.toml".toList

end Config

end CellScript
