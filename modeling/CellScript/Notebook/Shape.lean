import CellScript.Json.Write
import CellScript.Notebook.Basic

set_option autoImplicit false

/-! # The shape of a notebook

How a notebook is a JSON value. A cell is an object with its fields, or a list of them in order; the
first, `cell_type`, may be the number of the type. What is missing has a default, but no field that
is looked for may be repeated. An element that is no code and no markdown cell by these rules is a
cell of another type if it has the fields of one. -/

namespace CellScript

open Json

/-! ## Names of fields -/

/-- The field for the type of a cell. -/
def typeField : Text := "cell_type".toList

/-- The field for metadata. -/
def metadataField : Text := "metadata".toList

/-- The field for the source. -/
def sourceField : Text := "source".toList

/-- The field for the number of the run that made the outputs. -/
def countField : Text := "execution_count".toList

/-- The field for outputs. -/
def outputsField : Text := "outputs".toList

/-- The fields of a code cell. -/
def codeFields : List Text := [typeField, metadataField, sourceField, countField, outputsField]

/-- The fields of a cell of another type. -/
def plainFields : List Text := [typeField, metadataField, sourceField]

/-! ## Writing -/

/-- The value of a source. -/
def CellSource.toValue : CellSource → Value
  | whole t => .str t
  | pieces ts => .arr (ts.map .str)

namespace NotebookCell

/-- The value of a cell. -/
def toValue : NotebookCell → Value
  | code metadata source count outputs =>
    .obj [(typeField, .str "code".toList), (metadataField, .obj metadata),
      (sourceField, source.toValue),
      (countField, match count with | some n => .int n | none => .null),
      (outputsField, .arr outputs)]
  | markdown metadata source =>
    .obj [(typeField, .str "markdown".toList), (metadataField, .obj metadata),
      (sourceField, source.toValue)]
  | other cellType metadata source =>
    .obj [(typeField, .str cellType), (metadataField, .obj metadata), (sourceField, source.toValue)]

end NotebookCell

namespace Notebook

/-- The value of a notebook. -/
def toValue (nb : Notebook) : Value :=
  .obj ((cellsField, .arr (nb.cells.map NotebookCell.toValue)) :: nb.fields)

/-- The document of a notebook. -/
def text (nb : Notebook) : Text := nb.toValue.write ++ ['\n']

end Notebook

/-! ## Reading -/

/-- The source that a value is. -/
def CellSource.ofValue? : Value → Option CellSource
  | .str t => some (whole t)
  | v => v.texts?.map pieces

/-- The named fields of a cell that is an object or a list. -/
def cellFields? (names : List Text) : Value → Option (List (Text × Value))
  | .obj fs =>
    if names.all fun k => (fs.filter fun f => f.1 = k).length ≤ 1 then some fs else none
  | .arr vs => if vs.length ≤ names.length then some (names.zip vs) else none
  | _ => none

/-- What a field holds, or a default if it is missing. -/
def fieldOr {α : Type} (default : α) (read? : Value → Option α) (k : Text)
    (fs : List (Text × Value)) : Option α :=
  match Table.get? k fs with
  | some v => read? v
  | none => some default

/-- The metadata among the fields of a cell. -/
def metadataIn? (fs : List (Text × Value)) : Option (Table Value) :=
  fieldOr [] Value.fields? metadataField fs

/-- The source among the fields of a cell. -/
def sourceIn? (fs : List (Text × Value)) : Option CellSource :=
  fieldOr (.whole []) CellSource.ofValue? sourceField fs

/-- The execution count that a value is. -/
def count? : Value → Option (Option Nat)
  | .null => some none
  | v => v.nat?.map some

/-- The outputs that a value is. -/
def outputs? : Value → Option (List Value)
  | .arr vs => some (Value.canonicalAll vs)
  | _ => none

namespace NotebookCell

/-- The code cell that a value is. -/
def codeOf? (v : Value) : Option NotebookCell := do
  let fs ← cellFields? codeFields v
  match ← Table.get? typeField fs with
  | .str t => guard (t = "code".toList)
  | .int n => guard (n = 0)
  | _ => none
  return code (← metadataIn? fs) (← sourceIn? fs) (← fieldOr none count? countField fs)
    (← fieldOr [] outputs? outputsField fs)

/-- The markdown cell that a value is. -/
def markdownOf? (v : Value) : Option NotebookCell := do
  let fs ← cellFields? plainFields v
  match ← Table.get? typeField fs with
  | .str t => guard (t = "markdown".toList)
  | .int n => guard (n = 1)
  | _ => none
  return markdown (← metadataIn? fs) (← sourceIn? fs)

/-- The cell of another type that a value is. -/
def otherOf? (v : Value) : Option NotebookCell := do
  let fs ← cellFields? plainFields v
  let cellType ← (← Table.get? typeField fs).text?
  return other cellType (← metadataIn? fs) (← sourceIn? fs)

/-- The cell that a value is. -/
def ofValue? (v : Value) : Option NotebookCell := codeOf? v <|> markdownOf? v <|> otherOf? v

end NotebookCell

end CellScript
