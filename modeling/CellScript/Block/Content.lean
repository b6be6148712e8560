import CellScript.Block.Find
import CellScript.Cell.Basic
import CellScript.Cell.Escape

set_option autoImplicit false

/-! # The content of blocks

`Block.cell` turns a block into a cell. Code loses its indentation, placeholder statements go, and
lines that a notebook runs itself get back their own form. Prose is the text of the one string
literal of the block, without its delimiters and blank ends. A sandbox keeps its lines, indented
less. -/

namespace CellScript

open Python

/-! ## Indentation -/

/-- Whether a character indents. -/
def isIndent (c : Char) : Bool := c == ' ' || c == '\t'

/-- A line without `indent` indenting characters; `line` is its number, for the error if it has
fewer. A blank line becomes empty. -/
def dedent (indent line : Nat) (t : Text) : Except CellError Text :=
  if Text.isBlank t then .ok []
  else
    let cut := t.take indent
    if cut.length = indent ∧ cut.all isIndent then .ok (t.drop indent)
    else .error (.indentation line)

/-- A line without its indenting characters, of which at most `indent` are cut. -/
def dedentUpTo : Nat → Text → Text
  | n + 1, c :: cs => if isIndent c then dedentUpTo n cs else c :: cs
  | _, t => t

/-! ## Content -/

/-- The lines of a script in the rows of a block, each with its row. -/
def Span.rowsOf (s : Span) (lines : List Text) : List (Nat × Text) :=
  (List.range (s.stop + 1 - s.start)).map fun i => (s.start + i, lines.getD (s.start + i) [])

/-- Drop empty lines at the end. -/
def dropEmptyEnd (content : List Text) : List Text :=
  (content.reverse.dropWhile (·.isEmpty)).reverse

/-- Drop blank lines at both ends. -/
def dropBlankEnds (content : List Text) : List Text :=
  ((content.reverse.dropWhile Text.isBlank).reverse).dropWhile Text.isBlank

/-- The lines of code in rows of a script, without indentation and placeholders. -/
def codeLines (indent : Nat) : List (Nat × Text) → Except CellError (List Text)
  | [] => .ok []
  | (row, t) :: rest => do
    let t ← dedent indent (row + 1) t
    let ts ← codeLines indent rest
    .ok (if Text.trimEnd t = placeholder then ts else unescapeLine t :: ts)

/-- The one string literal that a body consists of. -/
def proseLiteral? (body : Tree) : Option Tree :=
  match body.phrases with
  | [statement] =>
    match statement.phrases with
    | [value] =>
      if statement.kind = .expressionStatement ∧ value.kind = .string then some value else none
    | _ => none
  | _ => none

/-- Dedent the lines of a literal after the first, of which the first stands on line `line`. -/
def dedentRest (indent : Nat) : Nat → List Text → Except CellError (List Text)
  | _, [] => .ok []
  | line, t :: ts => do
    let t ← dedent indent line t
    let ts ← dedentRest indent (line + 1) ts
    .ok (t :: ts)

/-- The quotes that a literal may have, the longer ones first. -/
def quotes : List Text :=
  ["\"\"\"".toList, "'''".toList, ['"'], ['\'']]

/-- Whether a letter may stand in the prefix of a prose literal. -/
def isProsePrefix (c : Char) : Bool := c == 'r' || c == 'R' || c == 'u' || c == 'U'

/-- Change the last of some lines. -/
def changeLast (f : Text → Option Text) : List Text → Option (List Text)
  | [] => none
  | [t] => (f t).map ([·])
  | t :: ts => (changeLast f ts).map (t :: ·)

/-- The lines of a literal without prefix and quotes, and whether the prefix asks for decoding. -/
def stripQuotes? : List Text → Option (List Text × Bool)
  | [] => none
  | first :: rest => do
    let letters := first.takeWhile isProsePrefix
    let body := first.dropWhile isProsePrefix
    let quote ← quotes.find? (·.isPrefixOf body)
    let stripped ← changeLast (Text.dropSuffix? quote) (body.drop quote.length :: rest)
    some (stripped, letters == ['u'] || letters == ['U'])

/-- The content of a prose literal whose rows are given, with the first on line `line`. -/
def proseLines (header indent line : Nat) (rows : List Text) : Except CellError (List Text) := do
  let rows ← match rows with
    | [] => .ok []
    | t :: ts => (dedentRest indent (line + 1) ts).map (t :: ·)
  match stripQuotes? rows with
  | none => .error (.malformed .notOneLiteral header)
  | some (content, decode) =>
    .ok (dropBlankEnds (if decode then content.map decodeProse else content))

/-- The content of a prose block. -/
def proseContent (source : Text) (b : Block) : Except CellError (List Text) :=
  match proseLiteral? b.body with
  | none => .error (.malformed .notOneLiteral b.span.line)
  | some literal =>
    proseLines b.span.line b.span.indent (literal.start.row + 1)
      (Text.physicalLines (literal.text source))

/-- The cell of a block, in a script with the given lines. -/
def Block.cell (source : Text) (lines : List Text) (b : Block) : Except CellError Cell :=
  if b.span.stop < b.span.start then .error (.malformed .noContent b.span.line)
  else
    match b.kind with
    | .executable =>
      (codeLines b.span.indent (b.span.rowsOf lines)).map fun c => ⟨.executable, dropEmptyEnd c⟩
    | .prose => (proseContent source b).map (⟨.prose, ·⟩)
    | .sandbox =>
      .ok ⟨.sandbox, (b.span.rowsOf lines).map fun r => dedentUpTo b.span.indent r.2⟩

end CellScript
