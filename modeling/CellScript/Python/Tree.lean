import CellScript.Python.Kind
import CellScript.Python.Position

set_option autoImplicit false

/-! # Syntax trees

A `Tree` is what remains of a parse: nodes with a kind, a place, the role they fill in the phrase
around them, and their children in the order of the text. Damage is part of the tree. Text that fits
nowhere is under a node of kind `error`, a token that had to be supplied is a node marked `missing`,
and `damaged` marks the nodes that a search for either has to enter. -/

namespace CellScript.Python

/-- What a node says about itself, without its children. -/
structure Label where
  kind : Kind
  /-- Named nodes are phrases and tokens with content; the others are punctuation and keywords. -/
  named : Bool
  role : Option Role
  start : Position
  stop : Position
  /-- The token is not in the text. -/
  missing : Bool
  /-- The node counts among the damaged ones. -/
  damaged : Bool
deriving Inhabited

/-- A syntax tree. -/
inductive Tree where
  | node (label : Label) (children : List Tree)
deriving Inhabited

namespace Tree

/-- What the root of a tree says about itself. -/
def label : Tree → Label
  | node l _ => l

/-- The children of the root, in the order of the text. -/
def children : Tree → List Tree
  | node _ cs => cs

/-- What the root is. -/
def kind (t : Tree) : Kind := t.label.kind

/-- Where the root starts. -/
def start (t : Tree) : Position := t.label.start

/-- Where the root ends. -/
def stop (t : Tree) : Position := t.label.stop

/-- Whether the root holds text that fits nowhere. -/
def isError (t : Tree) : Bool := t.kind == .error

/-- Whether the root is a token that is not in the text. -/
def isMissing (t : Tree) : Bool := t.label.missing

/-- The first child that fills a role. -/
def part? (t : Tree) (role : Role) : Option Tree :=
  t.children.find? fun c => c.label.role == some role

/-- The named children, without comments. -/
def phrases (t : Tree) : List Tree :=
  t.children.filter fun c => c.label.named && c.kind != .comment

/-- The part of `source` that the root spans. -/
def text (t : Tree) (source : List Char) : List Char :=
  (source.drop t.start.offset).take (t.stop.offset - t.start.offset)

/-- The last row with content of the node: one that ends with a line feed ends in column `0` of the
row after it. -/
def lastRow (t : Tree) : Nat :=
  if t.stop.column = 0 ∧ t.start.row < t.stop.row then t.stop.row - 1 else t.stop.row

mutual

/-- The number of nodes of a tree. -/
def size : Tree → Nat
  | .node _ cs => sizeAll cs + 1

/-- The number of nodes of some trees. -/
def sizeAll : List Tree → Nat
  | [] => 0
  | t :: ts => t.size + sizeAll ts

end

theorem size_eq (t : Tree) : t.size = sizeAll t.children + 1 := by
  cases t with
  | node l cs => rfl

theorem sizeAll_append (ts us : List Tree) : sizeAll (ts ++ us) = sizeAll ts + sizeAll us := by
  induction ts with
  | nil => simp [sizeAll]
  | cons t ts ih => simp [sizeAll, ih, Nat.add_assoc]

end Tree

end CellScript.Python
