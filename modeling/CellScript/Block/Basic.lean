import CellScript.Cell.Error
import CellScript.Python.Tree

set_option autoImplicit false

/-! # Cell blocks

A cell block is a `with` statement whose guard calls `Cell` or `Sandbox` on the namespace of the
script. `Block` is such a statement with its kind, the rows it covers, and the tree of its body. -/

namespace CellScript

open Python (Tree)

/-- The rows of a block, counted from `0`. -/
structure Span where
  /-- The row of the opener. -/
  header : Nat
  /-- The first row of the body. -/
  start : Nat
  /-- The last row of the body. -/
  stop : Nat
  /-- The indentation of the body, in bytes. -/
  indent : Nat
deriving DecidableEq, Repr, Inhabited

/-- The line of the opener, counted from `1`. -/
def Span.line (s : Span) : Nat := s.header + 1

/-- A cell block. -/
structure Block where
  kind : CellKind
  span : Span
  body : Tree
deriving Inhabited

end CellScript
