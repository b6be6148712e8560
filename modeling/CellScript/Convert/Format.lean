import CellScript.Path

set_option autoImplicit false

/-! # Formats

A document is a script or a notebook, which the extension of its path tells, in upper or lower case;
it is converted to the other of the two. -/

namespace CellScript

/-- A format of documents. -/
inductive Format where
  | script
  | notebook
deriving DecidableEq, Repr

namespace Format

/-- The extension of a format. -/
def extension : Format → String
  | script => "py"
  | notebook => "ipynb"

/-- The format that a document is converted to. -/
def target : Format → Format
  | script => notebook
  | notebook => script

/-- The format that has an extension. -/
def ofExtension? (e : Text) : Option Format :=
  [script, notebook].find? fun f => f.extension.toList == e.map Char.toLower

/-- The format of the document at a path. -/
def ofPath? (p : Path) : Option Format := p.extension?.bind ofExtension?

end Format

end CellScript
