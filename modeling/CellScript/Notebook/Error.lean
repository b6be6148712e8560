import CellScript.Notebook.Read

set_option autoImplicit false

/-! # What can be wrong with a document

A document is the text of a notebook or of a template for one; both are JSON. -/

namespace CellScript

open Json

/-- Why a document is refused. -/
inductive DocumentError where
  /-- The text of a notebook is none. -/
  | notebook (f : Located Notebook.Fault)
  /-- The text of a template is not JSON. -/
  | template (f : Located Json.Fault)
  /-- The text of a template is no object. -/
  | templateNotObject

namespace DocumentError

/-- The words for the cause. -/
def cause : DocumentError → String
  | notebook f => f.fault.message ++ " at " ++ f.place.text
  | template f => f.fault.message ++ " at " ++ f.place.text
  | templateNotObject => "notebook template must be a JSON object"

/-- The words for an error. -/
def message (e : DocumentError) : String := "Invalid notebook document: " ++ e.cause

end DocumentError

/-- Read the document of a notebook. -/
def Notebook.ofText (t : Text) : Except DocumentError Notebook :=
  (Notebook.read t).mapError .notebook

end CellScript
