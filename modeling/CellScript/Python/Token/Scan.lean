import CellScript.Python.Grammar.Automaton
import CellScript.Python.Letters
import CellScript.Python.Position

set_option autoImplicit false

/-! # Reading one token

`scan` runs the token automaton from a cursor and keeps the last token it could have stopped at, so
the longest token wins. Blanks before the token are skipped. The automaton sees classes of
characters, not characters; a row holds the token it accepts, the one it accepts where the text
ends, and per class the state that follows with a mark for blanks. -/

namespace CellScript.Python

open Grammar

/-- The class of a character for the token automaton. -/
def charClass (c : Char) : Nat :=
  let n := c.toNat
  if n < 128 then (asciiClasses >>> (8 * n)) % 256
  else if n = 0x200b ∨ n = 0x2060 ∨ n = 0xfeff then 2
  else if inRanges n identifierStarts then 32
  else if inRanges n identifierRests then 74
  else 1

/-- What came of looking for a token: where it starts, the token and its end if there is one, and
how far the text was read. -/
structure Scan where
  start : Cursor
  found : Option (Nat × Cursor)
  reached : Cursor

/-- The row of a state of the token automaton. -/
def tokenRow (state : Nat) : Nat := shelved tokenRows 16 0 state

/-- The last complete token, if the automaton accepts a token at a cursor; `code` is `0` if it
accepts none, else one more than the token. -/
def completed (code : Nat) (best : Option (Nat × Cursor)) (here : Cursor) : Option (Nat × Cursor) :=
  if code = 0 then best else some (code - 1, here)

/-- Run the token automaton from `state` over the rest of a text. `start` is where the token began
and `best` the last token that was complete. -/
def scanFrom (state : Nat) (start : Cursor) (best : Option (Nat × Cursor)) (pos : Position) :
    List Char → Scan
  | [] =>
    let here : Cursor := ⟨pos, []⟩
    ⟨start, completed ((tokenRow state >>> 8) % 256) best here, here⟩
  | c :: cs =>
    let row := tokenRow state
    let here : Cursor := ⟨pos, c :: cs⟩
    let best := completed (row % 256) best here
    let step := (row >>> (24 + 12 * charClass c)) % 4096
    if step = 0 then ⟨start, best, here⟩
    else
      let p := pos.next c
      scanFrom (step / 2 - 1) (if step % 2 = 1 then ⟨p, cs⟩ else start) best p cs

/-- Look for a token at a cursor, with the token automaton in `state`. -/
def scan (state : Nat) (c : Cursor) : Scan := scanFrom state c none c.pos c.rest

/-- The keyword that a word is. -/
def keyword? (word : List Char) : Option Nat :=
  (keywords.find? fun k => k.1.toList == word).map (·.2)

end CellScript.Python
