import CellScript.Python.Parse.Stack
import CellScript.Python.Token.Scan

set_option autoImplicit false

/-! # The next token of a reading

`lex` reads the token after a cursor. Layout tokens are looked for first, then the others, each as
far as the state of the grammar expects them. If there is none, every token will do; if there is
still none, text is stepped over until there is, and what was stepped over is a token of its own
that fits nowhere. -/

namespace CellScript.Python

open Grammar

/-- Where reading a token begins: a byte order mark at the start of the text is stepped over. -/
def Cursor.skipMark (c : Cursor) : Cursor :=
  if c.pos.byte = 0 ∧ c.sees '\ufeff' then c.advance else c

/-- What a look at one place came to: a token, or how far the other tokens got. -/
inductive Look where
  | token (l : Lookahead)
  | nothing (start reached : Cursor)

/-- Where a token is wanted: the state of the grammar, the layout so far, and whether something was
read since damage was last met. -/
structure Place where
  state : Nat
  layout : Option Layout
  advanced : Bool

/-- Look for a layout token that `mode` expects. One that takes no room and changes nothing is not
taken where it could be taken for ever. -/
def Place.layoutToken? (p : Place) (mode : Nat) (anyToken : Bool) (c : Cursor) :
    Option Lookahead := do
  let set := layoutSet mode
  if set = 0 then none
  else
    let found ← (p.layout.getD .none).scan ⟨set⟩ c.skipMark
    let changes := p.layout != some found.layout
    let symbol := found.token.symbol
    let idle := anyToken || !p.advanced || next p.state symbol == p.state
    if found.stop.pos.byte ≤ c.pos.byte && !changes && idle then none
    else some ⟨.layoutToken symbol found.start.pos found.stop.pos found.layout changes, found.stop⟩

/-- The symbol of a token that was read: a word is a keyword where the grammar expects the keyword.
-/
def Place.word (p : Place) (symbol : Nat) (start stop : Cursor) : Nat × Bool :=
  if symbol = identifier then
    match keyword? (start.rest.take (stop.pos.offset - start.pos.offset)) with
    | some k => if expects p.state k then (k, true) else (symbol, false)
    | none => (symbol, false)
  else (symbol, false)

/-- Look for a token that `mode` expects. -/
def Place.look (p : Place) (mode : Nat) (anyToken : Bool) (c : Cursor) : Look :=
  match p.layoutToken? mode anyToken c with
  | some l => .token l
  | none =>
    let found := scan (lexState mode) c.skipMark
    match found.found with
    | some (symbol, stop) =>
      let (symbol, keyword) := p.word symbol found.start stop
      .token ⟨.token symbol found.start.pos stop.pos keyword, stop⟩
    | none => .nothing found.start found.reached

/-- Step over text until there is a token. What was stepped over ends at `stop`, and tokens were
looked for up to `reached`. -/
def Place.skipTo (p : Place) : Nat → Cursor → Cursor → Cursor
  | 0, stop, _ => stop
  | fuel + 1, stop, reached =>
    if reached.pos.byte = stop.pos.byte ∧ reached.atEnd then stop
    else
      let reached := if reached.pos.byte = stop.pos.byte then reached.advance else reached
      match p.look errorState true reached with
      | .token _ => reached
      | .nothing _ further => p.skipTo fuel reached further

/-- The next token. -/
def Place.lex (p : Place) (c : Cursor) : Lookahead :=
  match if p.state = errorState then .nothing c c else p.look p.state false c with
  | .token l => l
  | .nothing _ _ =>
    match p.look errorState true c with
    | .token l => l
    | .nothing start reached =>
      let stop := p.skipTo (c.rest.length + 2) start reached
      ⟨.token error start.pos stop.pos false, stop⟩

end CellScript.Python
