import CellScript.Cell.Basic
import CellScript.Json.Value

set_option autoImplicit false

/-! # Notebooks

A `Notebook` is a list of notebook cells and the other fields of its document. Code and markdown
cells have their own form; a cell of any other type keeps its type, its metadata and its source.
Cells of a script become notebook cells by `Cell.toNotebook`, and those become cells again by
`NotebookCell.toCell`. -/

namespace CellScript

open Json

/-- The source of a notebook cell: one text, or pieces of one. -/
inductive CellSource where
  | whole (t : Text)
  | pieces (ts : List Text)
deriving DecidableEq, Repr

/-- The source as one text. -/
def CellSource.text : CellSource → Text
  | whole t => t
  | pieces ts => ts.flatten

/-- A cell of a notebook. -/
inductive NotebookCell where
  | code (metadata : Table Value) (source : CellSource) (executionCount : Option Nat)
      (outputs : List Value)
  | markdown (metadata : Table Value) (source : CellSource)
  | other (cellType : Text) (metadata : Table Value) (source : CellSource)
deriving Repr

namespace NotebookCell

/-- A code cell that has not run. -/
def ofCode (source : CellSource) : NotebookCell := code [] source none []

/-- A markdown cell. -/
def ofMarkdown (source : CellSource) : NotebookCell := markdown [] source

/-- The type of a cell as a document names it. -/
def cellType : NotebookCell → Text
  | code .. => "code".toList
  | markdown .. => "markdown".toList
  | other t .. => t

/-- The source of a cell. -/
def source : NotebookCell → CellSource
  | code _ s _ _ => s
  | markdown _ s => s
  | other _ _ s => s

/-- The kind of cell that a script has for a notebook cell. -/
def kind? : NotebookCell → Option CellKind
  | code .. => some .executable
  | markdown .. => some .prose
  | other .. => none

/-- The cell that a script has for a notebook cell. -/
def toCell (c : NotebookCell) : Except CellError Cell :=
  match c.kind? with
  | some k => .ok ⟨k, Text.lines c.source.text⟩
  | none => .error (.unsupported c.cellType)

end NotebookCell

/-- The notebook cell that holds a cell. -/
def Cell.toNotebook (c : Cell) (ending : LineEnding) : Except CellError NotebookCell :=
  match c.kind with
  | .executable => .ok (.ofCode (.whole (c.source ending)))
  | .prose => .ok (.ofMarkdown (.whole (c.source ending)))
  | .sandbox => .error (.unsupported c.kind.literal.toList)

/-- A notebook: its cells and the other fields of the document. -/
structure Notebook where
  cells : List NotebookCell
  fields : Table Value
deriving Repr

namespace Notebook

/-- The name of the field that holds the cells. -/
def cellsField : Text := "cells".toList

/-- A notebook of some cells and fields, without what the fields say about cells. -/
def ofCells (cells : List NotebookCell) (fields : Table Value) : Notebook :=
  ⟨cells, fields.erase cellsField⟩

end Notebook

end CellScript
