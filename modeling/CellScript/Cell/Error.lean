import CellScript.Cell.Kind

set_option autoImplicit false

/-! # What can be wrong with a cell

A `CellError` is a cause, with the line of the script it concerns, counted from `1`.
`CellError.message` is the only place where a cause is put into words. -/

namespace CellScript

/-- Why a block does not make a cell. -/
inductive Malformation where
  /-- There is nothing below the opener. -/
  | noContent
  /-- The content starts on the line of the opener. -/
  | contentOnOpener
  /-- The guard does not have exactly one argument. -/
  | notOneKind
  /-- A prose block holds something other than one string literal. -/
  | notOneLiteral
deriving DecidableEq, Repr

/-- The words for a malformation. -/
def Malformation.message : Malformation → String
  | noContent => "expected cell content"
  | contentOnOpener => "cell content must start on the line after the block opener"
  | notOneKind => "expected exactly one cell kind argument"
  | notOneLiteral => "markdown cell must contain a single string literal"

/-- Why a statement is refused where it stands. -/
inductive Misplacement where
  | oldPrint
  | oldExec
  | returnOutside
  | yieldOutside
  | breakOutside
  | continueOutside
deriving DecidableEq, Repr

/-- The words for a misplacement. -/
def Misplacement.message : Misplacement → String
  | oldPrint => "Python 2 `print` statement"
  | oldExec => "Python 2 `exec` statement"
  | returnOutside => "`return` outside function"
  | yieldOutside => "`yield` outside function"
  | breakOutside => "`break` outside loop"
  | continueOutside => "`continue` not properly in loop"

/-- What is wrong with the code of a cell; lines of the cell count from `1`. -/
inductive Flaw where
  /-- The block could not be told from what surrounds it. -/
  | inBlock
  /-- A token is missing. -/
  | missing (token : String) (line : Nat)
  /-- Text fits nowhere. -/
  | unexpected (text : Text) (line : Nat)
  /-- Something blank fits nowhere. -/
  | blank (line : Nat)
  /-- Something, at no known place. -/
  | somewhere
  /-- A statement is refused where it stands. -/
  | misplaced (m : Misplacement) (line : Nat)
deriving DecidableEq, Repr

/-- The words for a flaw. -/
def Flaw.message : Flaw → String
  | inBlock => "invalid syntax in cell block"
  | missing token line => "missing `" ++ token ++ "` on cell line " ++ toString line
  | unexpected text line =>
    "unexpected `" ++ String.ofList text ++ "` on cell line " ++ toString line
  | blank line => "invalid syntax on cell line " ++ toString line
  | somewhere => "invalid syntax"
  | misplaced m line => m.message ++ " on cell line " ++ toString line

/-- Why there is no cell. -/
inductive CellError where
  /-- The guard names no kind. -/
  | unknownKind (literal : Text) (line : Nat)
  /-- The block does not have the form of its kind. -/
  | malformed (why : Malformation) (line : Nat)
  /-- A line is indented less than its block. -/
  | indentation (line : Nat)
  /-- The code is not valid. -/
  | invalidCode (flaw : Flaw) (line : Nat)
  /-- The kind of cell is not known on the other side. -/
  | unsupported (kind : Text)
deriving DecidableEq, Repr

namespace CellError

/-- The words for an error. -/
def message : CellError → String
  | unknownKind literal line =>
    "Unknown cell kind \"" ++ String.ofList literal ++ "\" at line " ++ toString line
  | malformed why line => "Malformed cell at line " ++ toString line ++ ": " ++ why.message
  | indentation line => "Inconsistent indentation at line " ++ toString line
  | invalidCode flaw line =>
    "Syntax error in cell at line " ++ toString line ++ ": " ++ flaw.message
  | unsupported kind => "Unsupported cell kind \"" ++ String.ofList kind ++ "\""

/-- The line of the script that an error concerns. -/
def line? : CellError → Option Nat
  | unknownKind _ line => some line
  | malformed _ line => some line
  | indentation line => some line
  | invalidCode _ line => some line
  | unsupported _ => none

end CellError

end CellScript
