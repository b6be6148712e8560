import CellScript.Convert.Format
import CellScript.Notebook.Template
import CellScript.Script.Read
import CellScript.Script.Write

set_option autoImplicit false

/-! # Conversion

`Script.toNotebook` assembles a notebook from the cells of a script: cells that no notebook has are
left out, the others stand in their order, and the first error of the script is the only result if
there is one. `convert` takes the text of a document to the text of its counterpart. Both note
events on the way, also when they fail. -/

namespace CellScript

open Json

/-- Why a conversion fails. -/
inductive ConvertError where
  | cell (e : CellError)
  | document (e : DocumentError)

namespace ConvertError

/-- The words for an error. -/
def message : ConvertError → String
  | cell e => e.message
  | document e => e.message

end ConvertError

/-- How notebooks are made. -/
structure NotebookOptions where
  read : ReadOptions := {}
  /-- What is put between the lines of a source. -/
  lineEnding : LineEnding := .native
  /-- What the notebook has besides its cells. -/
  template : Table Value := Template.python3

/-- How documents are converted. -/
structure ConvertOptions where
  notebook : NotebookOptions := {}
  write : WriteOptions := {}

/-- The options with one module for the guards of scripts that are read and written. -/
def ConvertOptions.withModule (o : ConvertOptions) (m : Text) : ConvertOptions :=
  { notebook := { o.notebook with read := { o.notebook.read with guardModule := m } }
    write := { o.write with guardModule := m } }

namespace Script

/-- The events of a reading whose cells go into a notebook. -/
def skips (events : List Event) : List Event :=
  events.flatMap fun e =>
    match e with
    | .extracted line kind n =>
      if kind.cellType?.isSome then [.extracted line kind n]
      else [.extracted line kind n, .skipped kind]
    | e => [e]

/-- The notebook cells of what a script holds. -/
def shapes (o : NotebookOptions) (cells : List Cell) : Except CellError (List NotebookCell) :=
  (cells.filter Cell.isRepresentable).mapM fun c => c.toNotebook o.lineEnding

/-- The notebook that a reading comes to. -/
def assemble (o : NotebookOptions) (r : Reading) : Except ConvertError Notebook :=
  match r.error with
  | some e => .error (.cell e)
  | none =>
    match shapes o r.cells with
    | .error e => .error (.cell e)
    | .ok cs => .ok (.ofCells cs o.template)

/-- The notebook of a script. -/
def toNotebook (o : NotebookOptions) (source : Text) : Except ConvertError Notebook :=
  assemble o (read o.read source)

end Script

/-- Convert the text of a document, and note what happens on the way. -/
def convertNoting (o : ConvertOptions) (source : Format) (t : Text) :
    List Event × Except ConvertError Text :=
  match source with
  | .script =>
    let r := Script.read o.notebook.read t
    (Script.skips r.events, (Script.assemble o.notebook r).map Notebook.text)
  | .notebook =>
    match Notebook.ofText t with
    | .ok nb => (nb.scriptEvents, .ok (nb.script o.write))
    | .error e => ([], .error (.document e))

/-- Convert the text of a document. -/
def convert (o : ConvertOptions) (source : Format) (t : Text) : Except ConvertError Text :=
  (convertNoting o source t).2

end CellScript
