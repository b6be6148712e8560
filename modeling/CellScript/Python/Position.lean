set_option autoImplicit false

/-! # Positions in a text

A `Position` counts characters, UTF-8 bytes, rows and the bytes since the start of the row, all from
`0`. A `Cursor` is a position together with the text that follows it, so that reading on is pattern
matching on a list. -/

namespace CellScript.Python

/-- A place between two characters of a text. -/
structure Position where
  /-- Characters before this place. -/
  offset : Nat
  /-- Bytes before this place. -/
  byte : Nat
  /-- Line feeds before this place. -/
  row : Nat
  /-- Bytes since the last line feed. -/
  column : Nat
deriving DecidableEq, Repr, Inhabited

namespace Position

/-- The start of a text. -/
def start : Position := ⟨0, 0, 0, 0⟩

/-- The place after one more character. -/
def next (p : Position) (c : Char) : Position :=
  if c = '\n' then ⟨p.offset + 1, p.byte + 1, p.row + 1, 0⟩
  else ⟨p.offset + 1, p.byte + c.utf8Size, p.row, p.column + c.utf8Size⟩

end Position

/-- A place in a text and what follows it. -/
structure Cursor where
  pos : Position
  rest : List Char
deriving Inhabited

namespace Cursor

/-- The cursor at the start of a text. -/
def ofText (text : List Char) : Cursor := ⟨.start, text⟩

/-- Step over one character; at the end of the text, stay. -/
def advance : Cursor → Cursor
  | ⟨p, c :: cs⟩ => ⟨p.next c, cs⟩
  | ⟨p, []⟩ => ⟨p, []⟩

/-- Whether nothing follows. -/
def atEnd (c : Cursor) : Bool := c.rest.isEmpty

/-- Whether the next character is `x`. -/
def sees (c : Cursor) (x : Char) : Bool :=
  match c.rest with
  | y :: _ => y == x
  | [] => false

end Cursor

end CellScript.Python
