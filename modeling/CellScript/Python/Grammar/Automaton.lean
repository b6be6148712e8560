import CellScript.Python.Grammar.Names
import CellScript.Python.Grammar.Reductions
import CellScript.Python.Grammar.Rows
import CellScript.Python.Grammar.Sets
import CellScript.Python.Grammar.Lexing

set_option autoImplicit false

/-! # The automaton of the grammar

`moves` and `goto` read the rows of the tables. A row of moves starts with three pairs of digits,
the start state of the token automaton, the number of the set of layout tokens and the number of
groups, and a group is a set of tokens with the move for all of them. A row of gotos starts with the
number of its groups, each a set of phrases with the state that follows. Several states may have
more than one move for a token; every one of them is then followed. -/

namespace CellScript.Python.Grammar

/-! ## Symbols with a part of their own -/

/-- The end of the text. -/
def endOfText : Nat := 0

/-- An identifier, which a keyword is where the grammar does not expect the keyword. -/
def identifier : Nat := 1

/-- The first of the tokens that depend on layout, in the order of the bits of a layout set. -/
def firstLayout : Nat := 101

/-- A phrase of text that fits nowhere. -/
def error : Nat := 65535

/-- A piece of such a phrase while it is being gathered. -/
def errorPiece : Nat := 65534

/-- The state in which text that fits nowhere is gathered. -/
def errorState : Nat := 0

/-- The state before any token. -/
def startState : Nat := 1

/-! ## Reading the tables -/

/-- The entry `i` of a table kept in shelves of `width` entries. -/
def shelved {α : Type} (shelves : List (List α)) (width : Nat) (fallback : α) (i : Nat) : α :=
  ((shelves.getD (i / width) []).getD (i % width) fallback)

/-- The kind of a symbol. -/
def kindOf (symbol : Nat) : Kind :=
  if symbol = error then .error else shelved kinds 16 (.other "") symbol

/-- Whether a tree shows a symbol as a node. -/
def isVisible (symbol : Nat) : Bool := symbol == error || visible.testBit symbol

/-- Whether the node of a symbol is named. -/
def isNamed (symbol : Nat) : Bool := symbol == error || named.testBit symbol

/-- The reduction with a number. -/
def reduction (i : Nat) : Reduction := shelved reductions 16 ⟨0, 0, 0, 0⟩ i

/-- The shape with a number. -/
def shapeAt (i : Nat) : Shape := shelved shapes 16 ⟨[], []⟩ i

/-- What a state may do with a token. -/
inductive Move where
  /-- Take the token and go to a state. -/
  | shift (state : Nat)
  /-- Take the token as one more round of a repetition; the reduction beside it does the same. -/
  | again (state : Nat)
  /-- Join the topmost fragments into a phrase. -/
  | reduce (r : Reduction)
  /-- Take the token without a change of state. -/
  | skip
  /-- Gather the token as text that fits nowhere. -/
  | recover
  /-- The text is complete. -/
  | accept
deriving Inhabited

/-- The moves in the coding of a row entry: the low three bits say which, the others carry the state
or the number of the reduction. -/
def Move.decode (code : Nat) : Move :=
  match code % 8 with
  | 0 => .shift (code / 8)
  | 1 => .reduce (reduction (code / 8))
  | 2 => .accept
  | 3 => .skip
  | 4 => .recover
  | _ => .again (code / 8)

/-- The entry of the first of `n` groups, each `set + entry`, whose set has `symbol`. -/
def findGroup (sets : List (List Nat)) (setBits entryBits symbol : Nat) : Nat → Nat → Option Nat
  | 0, _ => none
  | n + 1, groups =>
    if (shelved sets 16 0 (groups % Nat.pow 2 setBits)).testBit symbol then
      some ((groups >>> setBits) % Nat.pow 2 entryBits)
    else findGroup sets setBits entryBits symbol n (groups >>> (setBits + entryBits))

/-- The row of moves of a state. -/
def moveRow (state : Nat) : Nat := shelved moveRows rowsPerShelf 0 state

/-- The start state of the token automaton where the grammar is in `state`. -/
def lexState (state : Nat) : Nat := moveRow state % 256

/-- The layout tokens that `state` expects, one bit per token. -/
def layoutSet (state : Nat) : Nat := layoutSets.getD ((moveRow state >>> 8) % 256) 0

/-- What `state` may do with a token. -/
def moves (state token : Nat) : List Move :=
  let row := moveRow state
  match findGroup tokenSets 12 16 token ((row >>> 16) % 256) (row >>> 24) with
  | none => []
  | some code =>
    if code % 8 = 5 then (shelved choices 16 [] (code / 8)).map Move.decode else [Move.decode code]

/-- The state after a phrase, if the phrase can stand in `state`. -/
def goto? (state phrase : Nat) : Option Nat :=
  let row := shelved gotoRows rowsPerShelf 0 state
  findGroup phraseSets 8 12 (phrase - firstPhrase) (row % 256) (row >>> 8)

/-- The state after a symbol; the error state if the symbol cannot stand here. -/
def next (state symbol : Nat) : Nat :=
  if symbol = error ∨ symbol = errorPiece then errorState
  else if symbol < firstPhrase then
    match (moves state symbol).getLast? with
    | some (.shift s) | some (.again s) => s
    | some .skip => state
    | _ => errorState
  else (goto? state symbol).getD errorState

/-- Whether a state has a move for a token. -/
def expects (state token : Nat) : Bool :=
  token < firstPhrase && !(moves state token).isEmpty

/-- Whether the first move of a state for a token joins fragments. -/
def reducesOn (state token : Nat) : Bool :=
  match moves state token with
  | .reduce _ :: _ => true
  | _ => false

end CellScript.Python.Grammar
