import CellScript.Block.Guard

set_option autoImplicit false

/-! # Finding blocks

`finds` walks a syntax tree from the front and reports what it meets: blocks, errors, and stretches
of text that fit nowhere and hold no guard, which are left out. Inside a block nothing is looked
for. What is still to be visited is kept on a stack, each tree with the siblings after it. The walk
can be made in one go, or with `BlockIter`, which stops at each block. -/

namespace CellScript

open Python

/-- What a walk meets. -/
inductive Find where
  /-- Text that fits nowhere and holds no guard, from a line on. -/
  | discarded (line : Nat)
  | block (b : Block)
  | failed (e : CellError)
deriving Inhabited

/-- What a find answers a caller who asks for blocks. -/
def Find.answer? : Find → Option (Except CellError Block)
  | discarded _ => none
  | block b => some (.ok b)
  | failed e => some (.error e)

/-- Whether the walk ends with this. -/
def Find.isFailure : Find → Bool
  | failed _ => true
  | _ => false

/-- The last row of a block with the given body, with the comments after the statement that are as
deep as the body. -/
def lastRowWith (body : Tree) (after : List Tree) : Nat :=
  let comments := after.takeWhile fun t => t.kind == .comment && body.start.column ≤ t.start.column
  comments.foldl (fun row t => max row t.lastRow) body.lastRow

/-- The block that a `with` statement opens, if its guard is that of a cell. `after` are the
siblings after the statement. -/
def Block.ofStatement? (ns source : Text) (statement : Tree) (after : List Tree) :
    Except CellError (Option Block) :=
  match Guard.ofStatement? ns source statement with
  | none => .ok none
  | some guard => do
    let header := statement.start.row
    let line := header + 1
    let kind ← match guard with
      | .sandbox => .ok .sandbox
      | .cell call => CellKind.ofCall source line call
    match statement.part? .body with
    | none => .error (.malformed .noContent line)
    | some body =>
      if body.isMissing || body.phrases.isEmpty || statement.children.any Tree.isError then
        .error (.malformed .noContent line)
      else
        let colon := match statement.children.find? (·.kind == .colon) with
          | some t => t.stop.row
          | none => header
        if body.start.row = colon then .error (.malformed .contentOnOpener line)
        else
          let span : Span := ⟨header, colon + 1, lastRowWith body after, body.start.column⟩
          .ok (some ⟨kind, span, body⟩)

mutual

/-- The row of the first guard call in a tree. -/
def guardRow? (ns source : Text) : Tree → Option Nat
  | .node l cs =>
    match Guard.ofCall? ns source (.node l cs) with
    | some _ => some l.start.row
    | none => firstGuardRow? ns source cs

/-- The row of the first guard call in some trees. -/
def firstGuardRow? (ns source : Text) : List Tree → Option Nat
  | [] => none
  | t :: ts => guardRow? ns source t <|> firstGuardRow? ns source ts

end

/-- The row of the first piece of text in a tree that looks like a guard. -/
def guardTextRow? (ns source : Text) (t : Tree) : Option Nat :=
  let text := t.text source
  let opens (name : String) := Text.find? (ns ++ name.toList) text
  let place := match opens ".Cell(", opens ".Sandbox(" with
    | some i, some j => some (min i j)
    | i, j => i <|> j
  place.map fun i => t.start.row + (text.take i).count '\n'

/-- The error of text that fits nowhere, if it holds a guard. -/
def errorOf? (ns source : Text) (t : Tree) : Option CellError :=
  (guardRow? ns source t <|> guardTextRow? ns source t).map fun row =>
    let below := (t.text source).dropWhile (· ≠ '\n')
    if row = t.start.row ∧ Text.isBlank below then .malformed .noContent (row + 1)
    else .invalidCode .inBlock (row + 1)

/-- A tree to be visited, and the siblings after it. -/
structure Visit where
  tree : Tree
  after : List Tree

/-- The visits to siblings, in order. -/
def visits : List Tree → List Visit
  | [] => []
  | t :: ts => ⟨t, ts⟩ :: visits ts

/-- What a visit meets, and what is to be visited below it. -/
def Visit.meet (ns source : Text) (v : Visit) : Option Find × List Visit :=
  if v.tree.isError then
    match errorOf? ns source v.tree with
    | some e => (some (.failed e), [])
    | none => (some (.discarded (v.tree.start.row + 1)), [])
  else if v.tree.kind = .withStatement then
    match Block.ofStatement? ns source v.tree v.after with
    | .ok (some b) => (some (.block b), [])
    | .ok none => (none, visits v.tree.children)
    | .error e => (some (.failed e), [])
  else (none, visits v.tree.children)

/-- Walk the visits on a stack, at most `fuel` of them; the walk ends with the first failure. -/
def walk (ns source : Text) : Nat → List Visit → List Find
  | 0, _ => []
  | _, [] => []
  | fuel + 1, v :: stack =>
    let (found, below) := v.meet ns source
    match found with
    | some f => f :: (if f.isFailure then [] else walk ns source fuel (below ++ stack))
    | none => walk ns source fuel (below ++ stack)

/-- What a walk over the tree of a script meets, up to the first failure. -/
def finds (ns source : Text) (t : Tree) : List Find := walk ns source t.size [⟨t, []⟩]

/-! ## One block at a time -/

/-- A visit sends the walk to the children of its tree, or nowhere. -/
theorem Visit.below_cases (ns source : Text) (v : Visit) :
    (v.meet ns source).2 = [] ∨ (v.meet ns source).2 = visits v.tree.children := by
  unfold meet
  split
  · split
    · exact .inl rfl
    · exact .inl rfl
  · split
    · split
      · exact .inl rfl
      · exact .inr rfl
      · exact .inl rfl
    · exact .inr rfl

/-- The number of nodes still to be visited. -/
def stackSize : List Visit → Nat
  | [] => 0
  | v :: stack => v.tree.size + stackSize stack

theorem stackSize_append (s₁ s₂ : List Visit) :
    stackSize (s₁ ++ s₂) = stackSize s₁ + stackSize s₂ := by
  induction s₁ with
  | nil => simp [stackSize]
  | cons v s₁ ih => simp [stackSize, ih, Nat.add_assoc]

theorem stackSize_visits (ts : List Tree) : stackSize (visits ts) = Python.Tree.sizeAll ts := by
  induction ts with
  | nil => rfl
  | cons t ts ih => rw [visits, stackSize, ih, Python.Tree.sizeAll]

/-- Every visit makes the stack smaller. -/
theorem stackSize_lt_of_meet {ns source : Text} {v : Visit} {found : Option Find}
    {below : List Visit} (stack : List Visit) (h : v.meet ns source = (found, below)) :
    stackSize (below ++ stack) < stackSize (v :: stack) := by
  obtain rfl : (v.meet ns source).2 = below := by rw [h]
  rw [stackSize_append, stackSize, Tree.size_eq]
  rcases v.below_cases ns source with hnil | hvisits
  · rw [hnil, stackSize]
    omega
  · rw [hvisits, stackSize_visits]
    omega

/-- A walk that stops at each block. -/
structure BlockIter where
  /-- What is still to be visited. -/
  stack : List Visit
  /-- An error was met, or nothing is left. -/
  done : Bool

namespace BlockIter

/-- The walk over a whole tree. -/
def ofTree (t : Tree) : BlockIter := ⟨[⟨t, []⟩], false⟩

/-- Visit the trees on a stack up to the first block or error. -/
def nextOf (ns source : Text) : List Visit → Option (Except CellError Block) × BlockIter
  | [] => (none, ⟨[], true⟩)
  | v :: stack =>
    match _h : v.meet ns source with
    | (some (.failed e), _) => (some (.error e), ⟨stack, true⟩)
    | (some (.block b), below) => (some (.ok b), ⟨below ++ stack, false⟩)
    | (some (.discarded _), below) => nextOf ns source (below ++ stack)
    | (none, below) => nextOf ns source (below ++ stack)
termination_by stack => stackSize stack
decreasing_by
  all_goals exact stackSize_lt_of_meet stack ‹_›

/-- Ask for the next block. -/
def next (ns source : Text) (it : BlockIter) : Option (Except CellError Block) × BlockIter :=
  if it.done then (none, it) else nextOf ns source it.stack

/-- The answer to a call after `k` others. -/
def answer (ns source : Text) : BlockIter → Nat → Option (Except CellError Block)
  | it, 0 => (it.next ns source).1
  | it, k + 1 => answer ns source (it.next ns source).2 k

end BlockIter

end CellScript
