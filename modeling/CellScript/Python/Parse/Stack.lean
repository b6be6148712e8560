import CellScript.Python.Parse.Fragment

set_option autoImplicit false

/-! # Stacks that branch and join

Where the grammar allows two readings the parser follows both. Each reading, a `Branch`, is a stack
of fragments with states between them; branches share what lies below the point where they parted,
and readings that arrive in the same state at the same place are joined again, so that a stack node
may have several links downwards. Nodes are kept in a list, newest first, and named by the number of
nodes below them in the list; joining adds links to a node that is already there. -/

namespace CellScript.Python

open Grammar

/-- A way down from a stack node: the node below, and the fragment between; none where gathering of
text that fits nowhere begins. -/
structure Link where
  below : Nat
  fragment : Option Fragment
deriving Inhabited

/-- A stack node: a state, where the text was read up to, and the sums over the cheapest way down.
-/
structure Node where
  state : Nat
  cursor : Cursor
  links : List Link
  cost : Nat
  weight : Int
  size : Nat
deriving Inhabited

/-- A token that was read but not yet taken, and the cursor after it. -/
structure Lookahead where
  token : Fragment
  after : Cursor

/-- What is done with a branch. -/
inductive Standing where
  | active
  /-- Its next token fits nowhere. -/
  | paused (lookahead : Lookahead)
  /-- It is given up. -/
  | halted

namespace Standing

/-- Whether the branch is being read on. -/
def isActive : Standing → Bool
  | active => true
  | _ => false

/-- Whether the branch waits for recovery. -/
def isPaused : Standing → Bool
  | paused _ => true
  | _ => false

/-- Whether the branch is given up. -/
def isHalted : Standing → Bool
  | halted => true
  | _ => false

end Standing

/-- A state further down a stack, for recovery: how many fragments lie above it. -/
structure Haven where
  state : Nat
  depth : Nat
  pos : Position

/-- A reading in progress. -/
structure Branch where
  /-- The topmost node. -/
  top : Nat
  standing : Standing
  /-- The layout after the last layout token, if there was one. -/
  layout : Option Layout
  /-- The size of the stack when damage was last met. -/
  sizeAtError : Nat
  /-- The states to which recovery may return. -/
  havens : Option (List Haven)

/-- All readings in progress, the most promising first, over one list of nodes. -/
structure Stacks where
  nodes : List Node
  count : Nat
  branches : List Branch

/-- A way down that some branch was unwound by: the branch that stands at its lower end, and the
fragments along it, lowest first, each with the cursor after it. -/
structure Unwound where
  branch : Nat
  along : List (Fragment × Cursor)

namespace Stacks

/-- The stack at the start of a text. -/
def ofText (text : List Char) : Stacks :=
  { nodes := [⟨startState, .ofText text, [], 0, 0, 0⟩]
    count := 1
    branches := [⟨0, .active, none, 0, none⟩] }

/-! ## Nodes -/

/-- The node with a name. -/
def node (s : Stacks) (i : Nat) : Node := s.nodes.getD (s.count - 1 - i) default

/-- Change the node with a name. -/
def setNode (s : Stacks) (i : Nat) (n : Node) : Stacks :=
  { s with nodes := s.nodes.set (s.count - 1 - i) n }

/-- The node on top of the stack of a branch. -/
def topNode (s : Stacks) (b : Branch) : Node := s.node b.top

/-! ## Branches -/

/-- Change the branch at a place. -/
def modify (s : Stacks) (i : Nat) (f : Branch → Branch) : Stacks :=
  { s with branches := s.branches.modify i f }

/-- Drop the branch at a place. -/
def remove (s : Stacks) (i : Nat) : Stacks := { s with branches := s.branches.eraseIdx i }

/-- Give up the branch at a place. -/
def halt (s : Stacks) (i : Nat) : Stacks := s.modify i fun b => { b with standing := .halted }

/-- Put the later branch `i` in the place of branch `j`, which keeps its havens if `i` has none. -/
def renumber (s : Stacks) (i j : Nat) : Stacks :=
  match s.branches[i]?, s.branches[j]? with
  | some b, some old =>
    if i = j then s
    else
      let b := { b with havens := b.havens <|> old.havens }
      { s with branches := (s.branches.set j b).eraseIdx i }
  | _, _ => s

/-- Exchange two branches. -/
def swap (s : Stacks) (i j : Nat) : Stacks :=
  match s.branches[i]?, s.branches[j]? with
  | some a, some b => { s with branches := (s.branches.set i b).set j a }
  | _, _ => s

/-- Put a fragment, or the mark of damage, and a state on top of a branch; the text is read up to
`cursor` then. -/
def push (s : Stacks) (i : Nat) (fragment : Option Fragment) (cursor : Cursor) (state : Nat) :
    Stacks :=
  match s.branches[i]? with
  | none => s
  | some b =>
    let old := s.topNode b
    let (cost, weight, size) :=
      match fragment with
      | some f => (f.reading.cost, f.reading.weight, f.size)
      | none => (0, 0, 0)
    let new : Node :=
      ⟨state, cursor, [⟨b.top, fragment⟩], old.cost + cost, old.weight + weight, old.size + size⟩
    let b := { b with
      top := s.count
      sizeAtError := if fragment.isNone then new.size else b.sizeAtError }
    { nodes := new :: s.nodes, count := s.count + 1, branches := s.branches.set i b }

/-! ## Joining -/

/-- The most links that a node keeps. -/
def maxLinks : Nat := 8

/-- Whether two fragments that end at the same place, above two nodes, are readings of the same text
that need not both be kept. -/
def sameReading (s : Stacks) (a b : Link) : Bool :=
  match a.fragment, b.fragment with
  | none, none => true
  | some f, some g =>
    let (r, q) := (f.reading, g.reading)
    let gap (l : Link) (x : Reading) := x.start.byte - (s.node l.below).cursor.pos.byte
    r.symbol == q.symbol &&
      ((0 < r.cost && 0 < q.cost) ||
        (gap a r == gap b q && r.stop.byte - r.start.byte == q.stop.byte - q.start.byte &&
          f.parts.length == g.parts.length && r.extra == q.extra && r.layout == q.layout))
  | _, _ => false

/-- Whether two nodes could be one: the same state, at the same place, after the same damage. -/
def joinable (m n : Node) : Bool :=
  m.state == n.state && m.cursor.pos.byte == n.cursor.pos.byte && m.cost == n.cost

/-- The weight of a fragment, none for the mark of damage. -/
def Link.weight (l : Link) : Int :=
  match l.fragment with
  | some f => f.reading.weight
  | none => 0

/-- Add a way down to the node `i`. A way that reads the same text as one that is there is not
added; of two such ways to the same node the one of more weight is kept, and the nodes below are
joined if they can be. `fuel` bounds the depth of such joins. -/
def addLink : Nat → Stacks → Nat → Link → Stacks
  | 0, s, _, _ => s
  | fuel + 1, s, i, new =>
    let n := s.node i
    if new.below = i then s
    else
      let fits (l : Link) : Bool :=
        s.sameReading l new &&
          (l.below == new.below || joinable (s.node l.below) (s.node new.below))
      match n.links.findIdx? fits with
      | some k =>
        let l := n.links.getD k default
        let weight := (s.node new.below).weight + Link.weight new
        if l.below = new.below then
          if Link.weight l < Link.weight new then
            let links := n.links.set k { l with fragment := new.fragment }
            s.setNode i { n with links, weight }
          else s
        else
          let s := (s.node new.below).links.foldl (fun s x => addLink fuel s l.below x) s
          let n := s.node i
          if n.weight < weight then s.setNode i { n with weight } else s
      | none =>
        if maxLinks ≤ n.links.length then s
        else
          let below := s.node new.below
          let size := below.size + (match new.fragment with | some f => f.size | none => 0)
          let weight := below.weight + Link.weight new
          s.setNode i { n with
            links := n.links ++ [new]
            size := max n.size size
            weight := max n.weight weight }

/-- Whether two branches can be joined. -/
def canMerge (s : Stacks) (i j : Nat) : Bool :=
  match s.branches[i]?, s.branches[j]? with
  | some a, some b =>
    a.standing.isActive && b.standing.isActive && joinable (s.topNode a) (s.topNode b) &&
      a.layout == b.layout
  | _, _ => false

/-- Join branch `j` into branch `i`, if that can be. -/
def merge? (s : Stacks) (i j : Nat) : Option Stacks :=
  if s.canMerge i j then
    match s.branches[i]?, s.branches[j]? with
    | some a, some b =>
      let s := (s.topNode b).links.foldl (fun s l => addLink (s.count + 1) s a.top l) s
      let n := s.topNode a
      let s := if n.state = errorState then s.modify i ({ · with sizeAtError := n.size }) else s
      some (s.remove j)
    | _, _ => none
  else none

/-! ## Unwinding -/

/-- A walk down a stack: the node it has come to, the fragments passed, nearest last, and how many
of them are parts. -/
structure Walk where
  at_ : Nat
  passed : List (Fragment × Cursor)
  depth : Nat

/-- What is done where a walk has come to. -/
inductive Stop where
  /-- Go on down. -/
  | go
  /-- Keep the walk, and go on down. -/
  | keepAndGo
  /-- Keep the walk and end it. -/
  | keep
  /-- End the walk. -/
  | drop

/-- The most walks that are followed at the same time. -/
def maxWalks : Nat := 64

/-- Take a walk over a link. -/
def Walk.over (s : Stacks) (w : Walk) (l : Link) : Walk :=
  match l.fragment with
  | some f =>
    { at_ := l.below
      passed := (f, (s.node w.at_).cursor) :: w.passed
      depth := if f.extra then w.depth else w.depth + 1 }
  | none => { w with at_ := l.below, depth := w.depth + 1 }

/-- Keep a walk: the branch that stands where it has come to is one that an earlier walk led to, or
a new one. -/
def keepWalk (source : Branch) (sofar : Stacks × List Unwound) (w : Walk) : Stacks × List Unwound :=
  let (s, found) := sofar
  let stands (u : Unwound) : Bool :=
    match s.branches[u.branch]? with
    | some b => b.top == w.at_
    | none => false
  match found.reverse.findIdx? stands with
  | some k =>
    let i := found.length - k
    let branch := (found.getD (i - 1) ⟨0, []⟩).branch
    (s, found.take i ++ ⟨branch, w.passed⟩ :: found.drop i)
  | none =>
    let b : Branch := { source with top := w.at_, standing := .active, havens := none }
    ({ s with branches := s.branches ++ [b] }, found ++ [⟨s.branches.length, w.passed⟩])

/-- Follow walks down from a branch, all of them one step at a time. Of a node with several links
the first is followed by the walk itself, the others by new walks. `look` may change its own memory.
-/
def followWalks {σ : Type} (source : Branch) (look : σ → Stacks → Walk → Stop × σ) :
    Nat → List Walk → σ → Stacks × List Unwound → (Stacks × List Unwound) × σ
  | 0, _, m, sofar => (sofar, m)
  | fuel + 1, walks, m, sofar =>
    if walks.isEmpty then (sofar, m)
    else
      let step (acc : (List Walk × List Walk × Nat) × σ × (Stacks × List Unwound)) (w : Walk) :=
        let ((old, new, running), m, sofar) := acc
        let s := sofar.1
        let (stop, m) := look m s w
        let links := (s.node w.at_).links
        let sofar := match stop with
          | .keep | .keepAndGo => keepWalk source sofar w
          | _ => sofar
        match stop, links with
        | .keep, _ | .drop, _ | _, [] => ((old, new, running - 1), m, sofar)
        | _, first :: others =>
          let others := (others.take (maxWalks - running)).map (Walk.over s w)
          ((old ++ [Walk.over s w first], new ++ others, running + others.length), m, sofar)
      let ((old, new, _), m, sofar) := walks.foldl step (([], [], walks.length), m, sofar)
      followWalks source look fuel (old ++ new) m sofar

/-- Unwind branch `i` where `look` says so. -/
def unwind {σ : Type} (s : Stacks) (i : Nat) (look : σ → Stacks → Walk → Stop × σ) (m : σ) :
    (Stacks × List Unwound) × σ :=
  match s.branches[i]? with
  | none => ((s, []), m)
  | some b => followWalks b look (s.count + 1) [⟨b.top, [], 0⟩] m (s, [])

/-- Unwind `n` parts of branch `i`, with the extras above them. -/
def popCount (s : Stacks) (i n : Nat) : Stacks × List Unwound :=
  (s.unwind i (fun _ _ w => (if w.depth = n then .keep else .go, ())) ()).1

/-- Unwind the whole of branch `i`. -/
def popAll (s : Stacks) (i : Nat) : Stacks × List Unwound :=
  (s.unwind i (fun _ s w => (if (s.node w.at_).links.isEmpty then .keepAndGo else .go, ())) ()).1

/-- Take text that fits nowhere off the top of branch `i`, if it is there. -/
def popError (s : Stacks) (i : Nat) : Stacks × List Fragment :=
  match s.branches[i]? with
  | none => (s, [])
  | some b =>
    if (s.topNode b).links.any fun l => l.fragment.any Fragment.isError then
      let look (found : Bool) (_ : Stacks) (w : Walk) : Stop × Bool :=
        match w.passed.getLast? with
        | none => (.go, found)
        | some (f, _) => if !found && f.isError then (.keep, true) else (.drop, found)
      match (s.unwind i look false).1 with
      | (s, u :: _) => (s.renumber u.branch i, u.along.map (·.1))
      | (s, []) => (s, [])
    else (s, [])

/-- The deepest state that recovery may return to. -/
def maxHavenDepth : Nat := 16

/-- Note the states down the stack of branch `i` that recovery may return to. -/
def recordHavens (s : Stacks) (i : Nat) : Stacks :=
  let look (havens : List Haven) (s : Stacks) (w : Walk) : Stop × List Haven :=
    let n := s.node w.at_
    if maxHavenDepth < w.depth then (.drop, havens)
    else if (havens.takeWhile (w.depth ≤ ·.depth)).any
        fun h => h.depth == w.depth && h.state == n.state then (.go, havens)
    else (.go, ⟨n.state, w.depth, n.cursor.pos⟩ :: havens)
  let (_, havens) := s.unwind i look []
  s.modify i ({ · with havens := some havens.reverse })

/-! ## How branches stand -/

/-- The damage of a branch. -/
def branchCost (s : Stacks) (b : Branch) : Nat :=
  let n := s.topNode b
  let fresh := n.state == errorState && (n.links.head?.all (·.fragment.isNone))
  n.cost + (if b.standing.isPaused || fresh then Cost.recovery else 0)

/-- What was read since damage was last met. -/
def sizeSinceError (s : Stacks) (b : Branch) : Nat := (s.topNode b).size - b.sizeAtError

/-- Whether branch `b` has read something since damage was last met. -/
def hasAdvanced (s : Stacks) (b : Branch) : Bool :=
  let rec down (fuel i : Nat) : Bool :=
    match fuel with
    | 0 => false
    | fuel + 1 =>
      let n := s.node i
      match n.links with
      | ⟨below, some f⟩ :: _ =>
        if (s.node below).cursor.pos.byte < n.cursor.pos.byte then true
        else if b.sizeAtError < n.size && f.reading.cost == 0 then down fuel below
        else false
      | _ => false
  (s.topNode b).cost == 0 || down (s.count + 1) b.top

end Stacks

end CellScript.Python
