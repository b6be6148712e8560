import CellScript.Found
import CellScript.Json.Read
import CellScript.Notebook.Shape

set_option autoImplicit false

/-! # Reading notebooks

`Notebook.read` reads the document of a notebook. Fields and cells are judged as they are met, so
that of two things that are wrong the first in the text is reported, with the place that the reader
has come to. -/

namespace CellScript

open Json

/-! ## What can be wrong -/

/-- What a value is. -/
def Found.ofValue : Value → Found
  | .null => .null
  | .bool b => .bool b
  | .int n => .int n
  | .double x => .float x.text
  | .str t => .str t
  | .arr _ => .list
  | .obj _ => .object

namespace Notebook

/-- Why a text is no notebook. -/
inductive Fault where
  /-- It is not JSON. -/
  | json (f : Json.Fault)
  /-- The document is no object. -/
  | notObject (found : Found)
  /-- The cells are no list. -/
  | notList (found : Found)
  /-- There are no cells. -/
  | noCells
  /-- There are cells twice. -/
  | cellsTwice
  /-- An element of the list is no cell. -/
  | notCell
deriving DecidableEq, Repr

/-- The words for a fault. -/
def Fault.message : Fault → String
  | json f => f.message
  | notObject found => "invalid type: " ++ found.text ++ ", expected struct NotebookDocument"
  | notList found => "invalid type: " ++ found.text ++ ", expected a sequence"
  | noCells => "missing field `cells`"
  | cellsTwice => "duplicate field `cells`"
  | notCell => "data did not match any variant of untagged enum NotebookCell"

/-- What reading a part of a notebook comes to. -/
abbrev Outcome (α : Type) := Except (Stop Fault) (α × Text)

/-- Stop at a value that is not of the kind looked for. -/
def wrongKind {α : Type} (fault : Found → Fault) (t : Text) : Outcome α :=
  match skipSpace t with
  | '[' :: t => .error ⟨fault .list, '[' :: t, 0⟩
  | '{' :: t => .error ⟨fault .object, '{' :: t, 0⟩
  | t =>
    match value 1 maxDepth t with
    | .ok (v, t) => .error ⟨fault (.ofValue v), t, 0⟩
    | .error s => .error (s.map .json)

/-! ## The parts -/

/-- What is left where reading a list ends after an element that is refused. -/
def afterRefused (t : Text) : Text :=
  match skipSpace t with
  | ']' :: t => t
  | ',' :: t => skipSpace t
  | t => t

/-- Read cells and the bracket after them. The first number bounds the steps. -/
def cellsFrom : Nat → Nat → Bool → Text → Outcome (List NotebookCell)
  | 0, _, _, t => .error ⟨.json .endInList, t, 0⟩
  | n + 1, depth, first, t =>
    match nextElement first t with
    | .error s => .error (s.map .json)
    | .ok (false, t) => .ok ([], t)
    | .ok (true, t) =>
      match value (steps t) depth t with
      | .error s => .error (s.map .json)
      | .ok (v, t) =>
        match NotebookCell.ofValue? v with
        | none => .error ⟨.notCell, afterRefused t, 0⟩
        | some c => (cellsFrom n depth false t).map fun (cs, t) => (c :: cs, t)

/-- Read the value of the field that holds the cells. -/
def cellList (depth : Nat) (t : Text) : Outcome (List NotebookCell) :=
  match skipSpace t with
  | [] => .error ⟨.json .endInValue, [], 0⟩
  | '[' :: t => cellsFrom (t.length + 1) (depth - 1) true t
  | t => wrongKind .notList t

/-- Read the colon after a key. -/
def colon (t : Text) : Outcome Unit :=
  match skipSpace t with
  | [] => .error ⟨.json .endInObject, [], 0⟩
  | ':' :: t => .ok ((), t)
  | t => .error ⟨.json .noColon, t, 1⟩

/-- What is left where reading an object ends after a key that is refused. -/
def afterRefusedKey (t : Text) : Text :=
  match skipSpace t with
  | '}' :: t => t
  | t => t

/-- Read fields and the bracket after them: the cells, if they were met, and the other fields. The
first number bounds the steps. -/
def fieldsFrom : Nat → Nat → Bool → Bool → Text →
    Outcome (Option (List NotebookCell) × List (Text × Value))
  | 0, _, _, _, t => .error ⟨.json .endInObject, t, 0⟩
  | n + 1, depth, first, met, t =>
    match nextField first t with
    | .error s => .error (s.map .json)
    | .ok (false, t) => .ok ((none, []), t)
    | .ok (true, t) =>
      match string t with
      | .error s => .error (s.map .json)
      | .ok (k, t) =>
        if k = cellsField then
          if met then .error ⟨.cellsTwice, afterRefusedKey t, 0⟩
          else
            match colon t with
            | .error s => .error s
            | .ok ((), t) =>
              match cellList depth t with
              | .error s => .error s
              | .ok (cs, t) =>
                (fieldsFrom n depth false true t).map fun ((_, fs), t) => ((some cs, fs), t)
        else
          match colon t with
          | .error s => .error s
          | .ok ((), t) =>
            match value (steps t) depth t with
            | .error s => .error (s.map .json)
            | .ok (v, t) =>
              (fieldsFrom n depth false met t).map fun ((cs, fs), t) => ((cs, (k, v) :: fs), t)

/-- Read a notebook. -/
def parse (t : Text) : Except (Stop Fault) Notebook :=
  match skipSpace t with
  | [] => .error ⟨.json .endInValue, [], 0⟩
  | '{' :: t =>
    match fieldsFrom (t.length + 1) (maxDepth - 1) true false t with
    | .error s => .error s
    | .ok ((none, _), t) => .error ⟨.noCells, t, 0⟩
    | .ok ((some cs, fs), t) =>
      (finish ⟨cs, Table.ofList (Value.canonicalFields fs)⟩ t).mapError (Stop.map .json)
  | t => (wrongKind .notObject t).map fun (nb, _) => nb

/-- Read the document of a notebook; a fault with its place. -/
def read (t : Text) : Except (Located Fault) Notebook := (parse t).mapError (Stop.locate t)

end Notebook

end CellScript
