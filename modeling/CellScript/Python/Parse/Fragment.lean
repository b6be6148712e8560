import CellScript.Python.Grammar.Automaton
import CellScript.Python.Token.Layout

set_option autoImplicit false

/-! # Fragments

A `Fragment` is a piece of text that the parser has understood so far: a token, or a phrase made of
fragments. It carries what the parser weighs readings by: the cost of the damage in it and the
weight that the grammar gives the reading. Damage costs by the number of places, by the bytes and
rows they cover, and by the phrases in them that had already been understood. -/

namespace CellScript.Python

open Grammar

/-! ## The price of damage -/

namespace Cost

/-- A place where reading went on after damage. -/
def recovery : Nat := 500

/-- A token that was supplied. -/
def missingToken : Nat := 110

/-- A phrase in text that fits nowhere. -/
def skippedPhrase : Nat := 100

/-- A row of text that fits nowhere. -/
def skippedRow : Nat := 30

/-- Damage from `start` to `stop`, by its bytes and rows. -/
def ofSpan (start stop : Position) : Nat :=
  (stop.byte - start.byte) + skippedRow * (stop.row - start.row)

end Cost

/-- What a fragment says about itself, without its parts. -/
structure Reading where
  symbol : Nat
  start : Position
  stop : Position
  /-- Stands between the parts of a phrase without being one. -/
  extra : Bool
  /-- A token that is not in the text. -/
  missing : Bool
  /-- A word that is a keyword somewhere. -/
  keyword : Bool
  /-- The layout after a layout token. -/
  layout : Option Layout
  /-- The layout token changed the layout. -/
  changesLayout : Bool
  /-- The shape of the phrase. -/
  shape : Nat
  cost : Nat
  weight : Int
  /-- Parts that a tree shows as children. -/
  shown : Nat
  /-- Fragments below that a tree shows as nodes. -/
  shownBelow : Nat
deriving Inhabited

/-- A token or phrase that has been understood. -/
inductive Fragment where
  | mk (reading : Reading) (parts : List Fragment)
deriving Inhabited

namespace Fragment

/-- What a fragment says about itself. -/
def reading : Fragment → Reading
  | mk r _ => r

/-- The parts of a phrase. -/
def parts : Fragment → List Fragment
  | mk _ ps => ps

/-- The symbol of a fragment. -/
def symbol (f : Fragment) : Nat := f.reading.symbol

/-- Whether a fragment stands between the parts of a phrase. -/
def extra (f : Fragment) : Bool := f.reading.extra

/-- Whether a fragment is text that fits nowhere. -/
def isError (f : Fragment) : Bool := f.symbol == error

/-- Whether a tree shows a fragment as a node, if no phrase gives it another name. -/
def visible (f : Fragment) : Bool := isVisible f.symbol

/-- Fragments of this one that a tree shows, with a piece of error counting too. -/
def size (f : Fragment) : Nat :=
  f.reading.shownBelow + (if f.visible || f.symbol == errorPiece then 1 else 0)

/-- Mark a fragment as standing between parts, or as being one. -/
def setExtra (extra : Bool) : Fragment → Fragment
  | mk r ps => mk { r with extra } ps

/-! ## Tokens -/

/-- A token between two places. -/
def token (symbol : Nat) (start stop : Position) (keyword : Bool) : Fragment :=
  mk ⟨symbol, start, stop, symbol == endOfText, false, keyword, none, false, 0, 0, 0, 0, 0⟩ []

/-- A layout token with the layout after it. -/
def layoutToken (symbol : Nat) (start stop : Position) (layout : Layout) (changes : Bool) :
    Fragment :=
  mk ⟨symbol, start, stop, false, false, false, some layout, changes, 0, 0, 0, 0, 0⟩ []

/-- A token that is supplied at a place. -/
def missingToken (symbol : Nat) (at_ : Position) : Fragment :=
  mk ⟨symbol, at_, at_, false, true, false, none, false, 0, Cost.missingToken + Cost.recovery,
    0, 0, 0⟩ []

/-! ## Phrases -/

/-- What the parts of a phrase add up to. -/
structure Sum where
  cost : Nat
  weight : Int
  shown : Nat
  shownBelow : Nat
  /-- The parts so far that are not extra. -/
  place : Nat

/-- Add a part to the sum. In text that fits nowhere every phrase costs. -/
def Sum.add (inError : Bool) (aliases : List (Nat × Kind × Bool)) (s : Sum) (f : Fragment) : Sum :=
  let r := f.reading
  let leaf := f.parts.isEmpty
  let base := if r.symbol = errorPiece then 0 else r.cost
  let skipped :=
    if inError && !r.extra && !(f.isError && leaf) then
      if f.visible then Cost.skippedPhrase else if leaf then 0 else Cost.skippedPhrase * r.shown
    else 0
  let renamed := !r.extra && r.symbol != endOfText && aliases.any (·.1 == s.place)
  let one := renamed || f.visible
  { cost := s.cost + base + skipped
    weight := s.weight + r.weight
    shown := s.shown + (if one then 1 else r.shown)
    shownBelow := s.shownBelow + r.shownBelow + (if one then 1 else 0)
    place := if r.extra then s.place else s.place + 1 }

/-- A phrase of parts. One without parts stands at `at_`. -/
def phrase (symbol shape : Nat) (weight : Int) (extra : Bool) (at_ : Position)
    (parts : List Fragment) : Fragment :=
  let inError := symbol == error || symbol == errorPiece
  let aliases := (shapeAt shape).aliases
  let sum := parts.foldl (Sum.add inError aliases) ⟨0, 0, 0, 0, 0⟩
  let start := match parts.head? with | some f => f.reading.start | none => at_
  let stop := match parts.getLast? with | some f => f.reading.stop | none => at_
  let damage := if inError then Cost.recovery + Cost.ofSpan start stop else 0
  mk ⟨symbol, start, stop, extra, false, false, none, false, shape, sum.cost + damage,
    sum.weight + weight, sum.shown, sum.shownBelow⟩ parts

/-! ## Choosing between readings -/

mutual

/-- Compare fragments by symbol, then by the number of parts, then part by part. -/
def compare : Fragment → Fragment → Ordering
  | mk r ps, mk s qs =>
    (Ord.compare r.symbol s.symbol).then
      ((Ord.compare ps.length qs.length).then (compareAll ps qs))

/-- Compare lists of fragments part by part. -/
def compareAll : List Fragment → List Fragment → Ordering
  | p :: ps, q :: qs => (compare p q).then (compareAll ps qs)
  | _, _ => .eq

end

/-- Whether `new` is a better reading of the same text than `old`: one of less damage, else of more
weight, else, if both are whole, the one that comes first. -/
def better (old new : Fragment) : Bool :=
  let o := old.reading
  let n := new.reading
  if n.cost < o.cost then true
  else if o.cost < n.cost then false
  else if o.weight < n.weight then true
  else if n.weight < o.weight then false
  else if 0 < o.cost then true
  else compare old new == .gt

/-- Split off the extras at the end of a list. -/
def splitExtras (fs : List Fragment) : List Fragment × List Fragment :=
  let tail := (fs.reverse.takeWhile extra).reverse
  (fs.take (fs.length - tail.length), tail)

end Fragment

end CellScript.Python
