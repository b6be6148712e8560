import CellScript.Cell.Error
import CellScript.Text.Line

set_option autoImplicit false

/-! # Cells

A `Cell` is a kind and the lines of its content, without opener, indentation or delimiters. Its
lines are joined with a `LineEnding` where one text is wanted. -/

namespace CellScript

/-- What is put between the lines of a cell. -/
inductive LineEnding where
  /-- What the host uses. -/
  | native
  | lf
  | crlf
deriving DecidableEq, Repr, Inhabited

/-- The line end itself. -/
def LineEnding.text : LineEnding → Text
  | native => ['\n']
  | lf => ['\n']
  | crlf => ['\r', '\n']

/-- A cell. -/
structure Cell where
  kind : CellKind
  content : List Text
deriving DecidableEq, Repr, Inhabited

namespace Cell

/-- The content as one text. -/
def source (c : Cell) (ending : LineEnding) : Text := Text.joinWith ending.text c.content

/-- Whether a notebook can hold the cell. -/
def isRepresentable (c : Cell) : Bool := c.kind.cellType?.isSome

end Cell

end CellScript
