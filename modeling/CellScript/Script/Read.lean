import CellScript.Block.Content
import CellScript.Cell.Check
import CellScript.Event

set_option autoImplicit false

/-! # Reading scripts

`Script.read` takes the blocks of a script in order and makes a cell of each, checked as soon as it
is made; the first error ends the reading. What happened on the way is noted as events. `CellIter`
reads a script as its cells are asked for, one block of the walk after another. -/

namespace CellScript

open Python

/-- How scripts are read. -/
structure ReadOptions where
  /-- The module that guards are called on. -/
  guardModule : Text := "herzog".toList
deriving Repr

/-- What reading a script came to: the cells, the error that ended it, if one did, and the events.
-/
structure Reading where
  cells : List Cell
  error : Option CellError
  events : List Event

/-- The cell of a block, checked. -/
def Block.checkedCell (source : Text) (lines : List Text) (b : Block) : Except CellError Cell := do
  let cell ← b.cell source lines
  cell.check b.span.line
  return cell

/-- Make cells of what a walk met. -/
def readFinds (source : Text) (lines : List Text) : List Find → Reading
  | [] => ⟨[], none, []⟩
  | .discarded line :: fs =>
    let r := readFinds source lines fs
    { r with events := .discarded line :: r.events }
  | .failed e :: _ => ⟨[], some e, []⟩
  | .block b :: fs =>
    let located := Event.located b.span.line b.kind b.span
    match b.checkedCell source lines with
    | .error e => ⟨[], some e, [located]⟩
    | .ok cell =>
      let r := readFinds source lines fs
      { cells := cell :: r.cells
        error := r.error
        events := located :: .extracted b.span.line cell.kind cell.content.length :: r.events }

namespace Script

/-- What a walk over a script meets. -/
def findings (ns source : Text) : List Find := finds ns source (Tree.ofText source)

/-- Read a script. -/
def read (o : ReadOptions) (source : Text) : Reading :=
  readFinds source (Text.physicalLines source) (findings o.guardModule source)

/-- The cells of a script, or the first error. -/
def cells (o : ReadOptions) (source : Text) : Except CellError (List Cell) :=
  let r := read o source
  match r.error with
  | some e => .error e
  | none => .ok r.cells

end Script

/-! ## One cell at a time -/

/-- The cell that an answer of the walk gives, checked. -/
def answerCell (source : Text) (a : Except CellError Block) : Except CellError Cell :=
  a >>= (·.checkedCell source (Text.physicalLines source))

/-- The cells of a script as they are asked for one at a time. -/
structure CellIter where
  /-- The walk over the script. -/
  blocks : BlockIter
  /-- An error was given. -/
  failed : Bool

namespace CellIter

/-- The cells of a whole script. -/
def ofScript (source : Text) : CellIter := ⟨.ofTree (Tree.ofText source), false⟩

/-- Ask for the next cell. The walk is asked first; after an error nothing is made of its answer. -/
def next (ns source : Text) (it : CellIter) : Option (Except CellError Cell) × CellIter :=
  match it.blocks.next ns source with
  | (none, blocks) => (none, ⟨blocks, it.failed⟩)
  | (some a, blocks) =>
    if it.failed then (none, ⟨blocks, true⟩)
    else (some (answerCell source a), ⟨blocks, !(answerCell source a).isOk⟩)

/-- What a call gives after `k` others. -/
def answer (ns source : Text) : CellIter → Nat → Option (Except CellError Cell)
  | it, 0 => (it.next ns source).1
  | it, k + 1 => answer ns source (it.next ns source).2 k

end CellIter

end CellScript
