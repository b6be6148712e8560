import CellScript.Python.Grammar.Automaton
import CellScript.Python.Position

set_option autoImplicit false

/-! # Tokens that depend on layout

Line ends, indentation and the insides of strings depend on more than the text at hand: on the
indentations that are open and the quotes that are. `Layout` is that memory, and `Layout.scan` reads
a token with it. A tab counts for eight columns; a carriage return and a form feed set the count
back to none; lines with nothing but a comment do not count; a dedent waits for the comments that
stand at least as deep as the block. Tokens for line ends and indentation take no room in the text.
-/

namespace CellScript.Python

/-- An opened string: its quote and what its prefix says. -/
structure Quote where
  mark : Char
  triple : Bool
  raw : Bool
  bytes : Bool
  format : Bool
deriving DecidableEq, Repr, Inhabited

/-- The memory of the layout: the opened strings and the depths of the opened blocks, innermost
first, and whether the string opened last is a format string. -/
structure Layout where
  insideFormat : Bool
  quotes : List Quote
  indents : List Nat
deriving DecidableEq, Repr, Inhabited

namespace Layout

/-- Nothing is open. -/
def none : Layout := ⟨false, [], []⟩

/-- The depth of the innermost block. -/
def depth (l : Layout) : Nat := l.indents.headD 0

end Layout

/-- The tokens of the layout, in the order of the bits of a layout set. -/
inductive LayoutToken where
  | newline
  | indent
  | dedent
  | stringStart
  | stringContent
  | escapedBrace
  | stringEnd
deriving DecidableEq, Repr, Inhabited

namespace LayoutToken

/-- The place of a token in a layout set. -/
def index : LayoutToken → Nat
  | newline => 0
  | indent => 1
  | dedent => 2
  | stringStart => 3
  | stringContent => 4
  | escapedBrace => 5
  | stringEnd => 6

/-- The symbol of a layout token. -/
def symbol (t : LayoutToken) : Nat := Grammar.firstLayout + t.index

end LayoutToken

/-- A set of layout tokens that may stand at a place, with the closing brackets, and `except`, as
far as they may. -/
structure Expected where
  bits : Nat

namespace Expected

/-- Whether a token may stand here. -/
def has (e : Expected) (t : LayoutToken) : Bool := e.bits.testBit t.index

/-- Whether a closing bracket may stand here. -/
def bracket (e : Expected) : Bool := e.bits.testBit 8 || e.bits.testBit 9 || e.bits.testBit 10

/-- Whether `except` may stand here. -/
def handler (e : Expected) : Bool := e.bits.testBit 11

/-- Whether everything may stand here, as it does where text is gathered that fits nowhere. -/
def anything (e : Expected) : Bool := e.has .stringContent && e.has .indent

end Expected

/-- A layout token: where it starts and ends, and the layout after it. -/
structure LayoutScan where
  token : LayoutToken
  start : Cursor
  stop : Cursor
  layout : Layout

namespace Layout

/-- What a look at the inside of a string came to. -/
inductive Inside where
  /-- A token that ends at a cursor. -/
  | token (t : LayoutToken) (stop : Cursor) (layout : Layout)
  /-- No token. -/
  | nothing
  /-- The text ended, at a cursor, before the string did. -/
  | ended (at_ : Cursor)

/-- The content token up to `stop`, if there is content. -/
def Inside.content (l : Layout) (some_ : Bool) (stop : Cursor) : Inside :=
  if some_ then .token .stringContent stop l else .nothing

/-- Step over a backslash in a raw string, with a quote, a backslash or a line end after it. -/
def skipRawEscape (mark : Char) (c : Cursor) : Cursor :=
  let c := c.advance
  let c := if c.sees mark || c.sees '\\' then c.advance else c
  if c.sees '\r' then
    let c := c.advance
    if c.sees '\n' then c.advance else c
  else if c.sees '\n' then c.advance
  else c

/-- Read the inside of the string `q` up to something that ends a piece of content, over at most
`fuel` characters. `content` says whether some content was read before `c`. -/
def inside (l : Layout) (q : Quote) : Nat → Bool → Cursor → Inside
  | 0, _, c => .ended c
  | fuel + 1, content, c =>
    match c.rest with
    | [] => .ended c
    | x :: _ =>
      if x = '\x00' then .ended c
      else if (x = '{' ∨ x = '}') ∧ q.format then .content l content c
      else if x = '\\' then
        if q.raw then inside l q fuel content (skipRawEscape q.mark c)
        else if q.bytes then
          let d := c.advance
          if d.sees 'N' || d.sees 'u' || d.sees 'U' then inside l q fuel true d.advance.advance
          else .content l content c
        else .content l content c
      else if x = q.mark then
        let closed : Layout := { l with quotes := l.quotes.tail, insideFormat := false }
        if q.triple then
          let d := c.advance
          if d.sees q.mark then
            let d := d.advance
            if d.sees q.mark then
              if content then .token .stringContent c l else .token .stringEnd d.advance closed
            else .token .stringContent d l
          else .token .stringContent d l
        else if content then .token .stringContent c l
        else .token .stringEnd c.advance closed
      else if x = '\n' ∧ content ∧ ¬ q.triple then .nothing
      else inside l q fuel true c.advance

/-- What blanks, line ends and comment lines before a token amount to. -/
structure Gap where
  /-- A line ended, or the text did. -/
  lineEnd : Bool
  /-- The columns before the next token on its line. -/
  columns : Nat
  /-- The columns before the first comment line. -/
  comment : Option Nat
  /-- Where the next token starts. -/
  stop : Cursor

/-- Step to the end of a line. -/
def skipComment : List Char → Position → Cursor
  | [], p => ⟨p, []⟩
  | x :: xs, p => if x = '\n' ∨ x = '\x00' then ⟨p, x :: xs⟩ else skipComment xs (p.next x)

/-- Read the gap before a token, over at most `fuel` of its parts; there is no layout token after a
comment on a line with content, nor after a backslash that does not end its line. -/
def gap (comments : Bool) : Nat → Gap → Option Gap
  | 0, g => some g
  | fuel + 1, g =>
    match g.stop.rest with
    | [] => some { g with lineEnd := true, columns := 0 }
    | x :: _ =>
      let on := g.stop.advance
      if x = '\n' then gap comments fuel { g with lineEnd := true, columns := 0, stop := on }
      else if x = ' ' then gap comments fuel { g with columns := g.columns + 1, stop := on }
      else if x = '\r' ∨ x = '\x0c' then gap comments fuel { g with columns := 0, stop := on }
      else if x = '\t' then gap comments fuel { g with columns := g.columns + 8, stop := on }
      else if x = '#' ∧ comments then
        if g.lineEnd then
          gap comments fuel
            { g with
              columns := 0
              comment := g.comment <|> some g.columns
              stop := (skipComment g.stop.rest g.stop.pos).advance }
        else .none
      else if x = '\\' then
        let on := if on.sees '\r' then on.advance else on
        if on.sees '\n' || on.atEnd then gap comments fuel { g with stop := on.advance } else .none
      else some g

/-- Read the prefix of a string. -/
def stringPrefix : List Char → Position → Quote → Bool × Quote × Cursor
  | [], p, q => (false, q, ⟨p, []⟩)
  | x :: xs, p, q =>
    if x = 'f' ∨ x = 'F' then (true, (stringPrefix xs (p.next x) { q with format := true }).2)
    else if x = 'r' ∨ x = 'R' then (true, (stringPrefix xs (p.next x) { q with raw := true }).2)
    else if x = 'b' ∨ x = 'B' then (true, (stringPrefix xs (p.next x) { q with bytes := true }).2)
    else if x = 'u' ∨ x = 'U' then (true, (stringPrefix xs (p.next x) q).2)
    else (false, q, ⟨p, x :: xs⟩)

/-- Read the start of a string. -/
def stringStart (l : Layout) (start : Cursor) : Option LayoutScan :=
  let (_, q, c) := stringPrefix start.rest start.pos ⟨'"', false, false, false, false⟩
  let opened (q : Quote) (stop : Cursor) : Option LayoutScan :=
    some ⟨.stringStart, start, stop, { l with quotes := q :: l.quotes, insideFormat := q.format }⟩
  match c.rest with
  | x :: _ =>
    if x = '`' then opened { q with mark := x } c.advance
    else if x = '\'' ∨ x = '"' then
      let one := c.advance
      let two := one.advance
      if one.sees x && two.sees x then opened { q with mark := x, triple := true } two.advance
      else opened { q with mark := x } one
    else .none
  | [] => .none

/-- Read the tokens of line ends and indentation, and string starts, from `c`. A token that was
looked for inside a string starts at `start`. -/
def scanLine (l : Layout) (e : Expected) (start c : Cursor) : Option LayoutScan := do
  let comments := e.has .indent || e.has .dedent || e.has .newline || e.handler
  let g ← gap comments (c.rest.length + 1) ⟨false, 0, .none, c⟩
  let begun := if g.stop.pos.byte = c.pos.byte then start else g.stop
  let empty (t : LayoutToken) (l : Layout) : Option LayoutScan :=
    some ⟨t, if c.pos.byte < begun.pos.byte then c else begun, c, l⟩
  let quoteNext := g.stop.sees '"' || g.stop.sees '\'' || g.stop.sees '`'
  let mayClose := e.has .dedent ||
    (!e.has .newline && !(e.has .stringStart && quoteNext) && !e.bracket)
  if g.lineEnd && e.has .indent && l.depth < g.columns then
    empty .indent { l with indents := g.columns % 256 :: l.indents }
  else if g.lineEnd && mayClose && g.columns < l.depth && !l.insideFormat &&
      g.comment.all (· < l.depth) then
    empty .dedent { l with indents := l.indents.tail }
  else if g.lineEnd && e.has .newline && !e.anything then
    empty .newline l
  else if g.comment.isNone && e.has .stringStart then
    stringStart l begun
  else .none

/-- Look for a layout token among those expected at a cursor. -/
def scan (l : Layout) (e : Expected) (c : Cursor) : Option LayoutScan :=
  match l.quotes with
  | [] => l.scanLine e c c
  | q :: _ =>
    if e.anything then l.scanLine e c c
    else if e.has .escapedBrace && q.format && (c.sees '{' || c.sees '}') then
      let d := c.advance
      if (c.sees '{' && d.sees '{') || (c.sees '}' && d.sees '}') then
        some ⟨.escapedBrace, c, d.advance, l⟩
      else .none
    else if e.has .stringContent then
      match inside l q (c.rest.length + 1) false c with
      | .token t stop l' => some ⟨t, c, stop, l'⟩
      | .nothing => .none
      | .ended d => l.scanLine e c d
    else l.scanLine e c c

end Layout

end CellScript.Python
