import CellScript.Cell.Basic
import CellScript.Cell.Escape
import CellScript.Python.Parse.Run

set_option autoImplicit false

/-! # Checking code

The code of a cell is parsed on its own, with the lines that a notebook runs itself as comments.
Damage in the tree is reported at the first damaged node; after that, statements that parse but may
not stand where they are: `return` and `yield` outside functions, `break` and `continue` outside
loops, and the statements of an older Python. Both searches are written down as recursions and as
loops over what is still to be searched, which find the same. -/

namespace CellScript

open Python

/-! ## Damage -/

mutual

/-- The first node that is damage itself; nodes that do not count as damaged are not searched. -/
def firstDamage? : Tree → Option Tree
  | .node l cs =>
    if l.kind = .error ∨ l.missing then some (.node l cs)
    else if l.damaged then firstDamageOf? cs
    else none

/-- The first damage in some trees. -/
def firstDamageOf? : List Tree → Option Tree
  | [] => none
  | t :: ts => firstDamage? t <|> firstDamageOf? ts

end

/-- The same search as a loop over the trees that are still to be searched: the first of them is
taken, and its children are put in its place if it counts as damaged. -/
def takeDamage? : List Tree → Option Tree
  | [] => none
  | .node l cs :: ts =>
    if l.kind = .error ∨ l.missing then some (.node l cs)
    else if l.damaged then takeDamage? (cs ++ ts)
    else takeDamage? ts
termination_by ts => Tree.sizeAll ts
decreasing_by
  all_goals simp only [Tree.sizeAll, Tree.size, Tree.sizeAll_append]
  all_goals omega

/-- The most characters of damaged text that a message shows. -/
def maxShown : Nat := 40

/-- The flaw that a damaged node is. -/
def flawOf (code : Text) (t : Tree) : Flaw :=
  let line := t.start.row + 1
  if t.isMissing then .missing t.kind.name line
  else
    let shown := Text.trim ((Text.lines (t.text code)).headD [])
    if shown.isEmpty then .blank line else .unexpected (shown.take maxShown) line

/-! ## Misplaced statements -/

/-- What stands around a statement. -/
structure Surroundings where
  inFunction : Bool
  inLoop : Bool
deriving DecidableEq, Repr

namespace Surroundings

/-- At the top of a cell. -/
def top : Surroundings := ⟨false, false⟩

/-- The surroundings inside a node, loops aside. -/
def enter (s : Surroundings) (k : Kind) : Surroundings :=
  match k with
  | .functionDefinition | .lambda => ⟨true, false⟩
  | .classDefinition => ⟨false, false⟩
  | _ => s

/-- Why a node may not stand in its surroundings. -/
def refuses? (s : Surroundings) (k : Kind) : Option Misplacement :=
  match k with
  | .printStatement => some .oldPrint
  | .execStatement => some .oldExec
  | .returnStatement => if s.inFunction then none else some .returnOutside
  | .yield => if s.inFunction then none else some .yieldOutside
  | .breakStatement => if s.inLoop then none else some .breakOutside
  | .continueStatement => if s.inLoop then none else some .continueOutside
  | _ => none

end Surroundings

/-- Whether a node of a kind repeats its body. -/
def isLoop (k : Kind) : Bool := k == .forStatement || k == .whileStatement

mutual

/-- The first misplaced statement, with the reason. -/
def firstMisplaced? (s : Surroundings) : Tree → Option (Misplacement × Tree)
  | .node l cs =>
    match s.refuses? l.kind with
    | some m => some (m, .node l cs)
    | none => firstMisplacedOf? (s.enter l.kind) (isLoop l.kind) cs

/-- The first misplaced statement of some siblings; with `loop`, the first of them that is a body is
the body of a loop. -/
def firstMisplacedOf? (s : Surroundings) (loop : Bool) : List Tree → Option (Misplacement × Tree)
  | [] => none
  | t :: ts =>
    let isBody := loop && t.label.role == some .body
    firstMisplaced? (if isBody then { s with inLoop := true } else s) t <|>
      firstMisplacedOf? s (loop && !isBody) ts

end

/-- The children of a node, each with what stands around it; with `loop`, the first of them that is
a body is the body of a loop. -/
def Surroundings.within (s : Surroundings) (loop : Bool) : List Tree → List (Tree × Surroundings)
  | [] => []
  | t :: ts =>
    let isBody := loop && t.label.role == some .body
    (t, if isBody then { s with inLoop := true } else s) :: within s (loop && !isBody) ts

/-- The number of nodes of trees with their surroundings. -/
def sizeWithin (todo : List (Tree × Surroundings)) : Nat := Tree.sizeAll (todo.map Prod.fst)

theorem Surroundings.map_fst_within (s : Surroundings) (loop : Bool) (ts : List Tree) :
    (s.within loop ts).map Prod.fst = ts := by
  induction ts generalizing loop with
  | nil => rfl
  | cons t ts ih => rw [within, List.map_cons, ih]

/-- The same search as a loop over the nodes that are still to be searched, each with what stands
around it: the first of them is taken, and its children are put in its place if it may stand there.
-/
def takeMisplaced? : List (Tree × Surroundings) → Option (Misplacement × Tree)
  | [] => none
  | (.node l cs, s) :: todo =>
    match s.refuses? l.kind with
    | some m => some (m, .node l cs)
    | none => takeMisplaced? ((s.enter l.kind).within (isLoop l.kind) cs ++ todo)
termination_by todo => sizeWithin todo
decreasing_by
  simp only [sizeWithin, List.map_append, List.map_cons, Surroundings.map_fst_within,
    Tree.sizeAll_append, Tree.sizeAll, Tree.size]
  omega

/-! ## The check -/

/-- The flaw of code with a given tree. -/
def flawIn? (code : Text) (t : Tree) : Option Flaw :=
  if t.label.damaged then
    some (match firstDamage? t with
      | some d => flawOf code d
      | none => .somewhere)
  else (firstMisplaced? .top t).map fun (m, node) => .misplaced m (node.start.row + 1)

/-- The code of a cell as it is checked. -/
def Cell.code (c : Cell) : Text := Text.joinWith ['\n'] (c.content.map escapeLine)

/-- Check a cell whose block opens on line `line`. Only code can be wrong. -/
def Cell.check (c : Cell) (line : Nat) : Except CellError Unit :=
  if c.kind ≠ .executable then .ok ()
  else
    match flawIn? c.code (Tree.ofText c.code) with
    | some flaw => .error (.invalidCode flaw line)
    | none => .ok ()

end CellScript
