import CellScript.Cell.Escape
import CellScript.Event
import CellScript.Notebook.Basic

set_option autoImplicit false

/-! # Writing scripts

`Notebook.script` writes a notebook as a script: an import line, if one is wanted, and a chunk for
each cell, with an empty line between any two. The chunk of a code or markdown cell is a cell block;
that of any other cell says so in comments. `Notebook.scriptPartByPart` is the script as it grows. -/

namespace CellScript

/-- How scripts are written. -/
structure WriteOptions where
  /-- The module that guards are called on. -/
  guardModule : Text := "herzog".toList
  /-- How far the body of a block is indented. -/
  indent : Nat := 4
  /-- Whether the script imports the module. -/
  importLine : Bool := true
deriving DecidableEq, Repr

namespace WriteOptions

/-- The indentation of the body of a block. -/
def margin (o : WriteOptions) : Text := List.replicate o.indent ' '

/-- A line of the body of a block. -/
def bodyLine (o : WriteOptions) (t : Text) : Text :=
  if t.isEmpty then ['\n'] else o.margin ++ t ++ ['\n']

/-- The lines of the body of a block. -/
def body (o : WriteOptions) (ts : List Text) : Text := ts.flatMap o.bodyLine

/-- The opener of a cell block, without its line end. -/
def opener (o : WriteOptions) (kind : Text) : Text :=
  "with ".toList ++ o.guardModule ++ ".Cell(\"".toList ++ kind ++ "\"):".toList

/-- The import line. -/
def importText (o : WriteOptions) : Text := "import ".toList ++ o.guardModule ++ ['\n']

end WriteOptions

/-! ## Bodies -/

/-- Whether a line holds a statement, or the part of one. -/
def isStatement (t : Text) : Bool :=
  match t.trimStart with
  | [] => false
  | c :: _ => c ≠ '#'

/-- The body of a code block: the lines as they stand in a script, and a statement if there is none.
-/
def codeBody (content : List Text) : List Text :=
  let ls := content.map escapeLine
  if ls.any isStatement then ls else ls ++ [placeholder]

/-- Three double quotes. -/
def doubleQuotes : Text := ['"', '"', '"']

/-- Three single quotes. -/
def singleQuotes : Text := ['\'', '\'', '\'']

/-- What marks a literal as decoded. -/
def decodedMark : Text := ['u']

/-- A literal in the form that its content asks for: what stands before its quotes, the quotes, and
the lines between them. -/
def literalForm (content : List Text) : Text × Text × List Text :=
  let holds (q : Text) := content.any fun l => Text.contains q l
  match holds doubleQuotes, holds singleQuotes with
  | true, false => ([], singleQuotes, content)
  | true, true => (decodedMark, doubleQuotes, content.map encodeProse)
  | false, _ => ([], doubleQuotes, content)

/-- The body of a markdown block: one literal. -/
def proseBody (content : List Text) : List Text :=
  let (mark, quotes, ls) := literalForm content
  (mark ++ quotes) :: ls ++ [quotes]

/-! ## Chunks -/

/-- The body of the block of a cell. -/
def Cell.bodyLines (c : Cell) : List Text :=
  match c.kind with
  | .executable => codeBody c.content
  | .prose => proseBody c.content
  | .sandbox => []

/-- The block of a cell. -/
def Cell.chunk (o : WriteOptions) (c : Cell) : Text :=
  o.opener c.kind.literal.toList ++ '\n' :: o.body c.bodyLines

/-- A line of a source as a comment. -/
def commentLine (o : WriteOptions) (t : Text) : Text :=
  if t.isEmpty then ['#', '\n'] else '#' :: ' ' :: o.margin ++ t ++ ['\n']

/-- What a script says about a cell that it has no block for. -/
def commentChunk (o : WriteOptions) (c : NotebookCell) (why : CellError) : Text :=
  "# herzog: ".toList ++ why.message.toList ++ "; cell commented out\n".toList ++
    "# ".toList ++ o.opener c.cellType ++ '\n' ::
    (Text.lines c.source.text).flatMap (commentLine o)

/-- The chunk of a notebook cell. -/
def NotebookCell.chunk (o : WriteOptions) (c : NotebookCell) : Text :=
  match c.toCell with
  | .ok cell => cell.chunk o
  | .error why => commentChunk o c why

/-- Put a part behind what is written, with an empty line between them. -/
def addPart (t part : Text) : Text := if t.isEmpty then part else t ++ '\n' :: part

namespace Notebook

/-- The parts of a script. -/
def scriptParts (o : WriteOptions) (nb : Notebook) : List Text :=
  (if o.importLine then [o.importText] else []) ++ nb.cells.map (NotebookCell.chunk o)

/-- A notebook as a script. -/
def script (o : WriteOptions) (nb : Notebook) : Text := Text.joinWith ['\n'] (nb.scriptParts o)

/-- The same script as it grows: the import line, and the chunks put behind it one by one. -/
def scriptPartByPart (o : WriteOptions) (nb : Notebook) : Text :=
  nb.cells.foldl (fun t c => addPart t (c.chunk o)) (if o.importLine then o.importText else [])

/-- What is worth noting about writing a notebook as a script. -/
def scriptEvents (nb : Notebook) : List Event :=
  nb.cells.filterMap fun c =>
    match c.toCell with
    | .ok _ => none
    | .error why => some (.commentedOut c.cellType why)

end Notebook

end CellScript
