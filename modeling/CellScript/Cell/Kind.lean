import CellScript.Text.Blank

set_option autoImplicit false

/-! # Kinds of cells

A cell is executable code, prose, or a scope whose changes are undone. The guard of a cell block
names the kind by a literal, the notebook by a cell type; scopes have no cell type. -/

namespace CellScript

/-- What a cell holds. -/
inductive CellKind where
  /-- Code, which a notebook keeps in a code cell. -/
  | executable
  /-- Formatted text, which a notebook keeps in a markdown cell. -/
  | prose
  /-- A scope that saves and restores state; no notebook has such cells. -/
  | sandbox
deriving DecidableEq, Repr, Inhabited

namespace CellKind

/-- The literal that names a kind in the guard of a block. -/
def literal : CellKind → String
  | executable => "python"
  | prose => "markdown"
  | sandbox => "sandbox"

/-- The kind that a literal names. -/
def ofLiteral? (t : Text) : Option CellKind :=
  [executable, prose, sandbox].find? fun k => k.literal.toList == t

/-- The cell type of a kind in a notebook. -/
def cellType? : CellKind → Option String
  | executable => some "code"
  | prose => some "markdown"
  | sandbox => none

end CellKind

end CellScript
