import CellScript.Python.Parse.Step

set_option autoImplicit false

/-! # Ranking readings

Readings in progress are compared by the damage in them, by what they have read since, and by
weight. `condense` keeps the branches ordered from the most promising to the least, joins those that
have become one, and drops those that are clearly worse than another. -/

namespace CellScript.Python

open Grammar

/-- How a branch stands for a comparison. -/
structure Rank where
  cost : Nat
  size : Nat
  weight : Int
  inError : Bool

/-- The outcome of a comparison: the first, the second or neither is the better reading, and one may
be so much better that the other is dropped. -/
inductive Preference where
  | takeFirst
  | preferFirst
  | neither
  | preferSecond
  | takeSecond
deriving DecidableEq

/-- The difference of damage beyond which a reading is dropped, the sooner the more the better one
has read. -/
def maxCostDifference : Nat := 18 * Cost.skippedPhrase

/-- Compare two branches. -/
def Rank.compare (a b : Rank) : Preference :=
  if !a.inError && b.inError then if a.cost < b.cost then .takeFirst else .preferFirst
  else if a.inError && !b.inError then if b.cost < a.cost then .takeSecond else .preferSecond
  else if a.cost < b.cost then
    if maxCostDifference < (b.cost - a.cost) * (1 + a.size) then .takeFirst else .preferFirst
  else if b.cost < a.cost then
    if maxCostDifference < (a.cost - b.cost) * (1 + b.size) then .takeSecond else .preferSecond
  else if b.weight < a.weight then .preferFirst
  else if a.weight < b.weight then .preferSecond
  else .neither

namespace Stacks

/-- How a branch stands. -/
def rank (s : Stacks) (b : Branch) : Rank :=
  let n := s.topNode b
  let paused := b.standing.isPaused
  { cost := s.branchCost b + (if paused then Cost.skippedPhrase else 0)
    size := s.sizeSinceError b
    weight := n.weight
    inError := paused || n.state == errorState }

/-- Whether something better than branch `i` is there, if the branch came to cost `cost` with no
damage at its top. -/
def hasBetter (s : Stacks) (finished : Option Fragment) (i cost : Nat) : Bool :=
  match s.branches[i]? with
  | none => true
  | some b =>
    let n := s.topNode b
    let mine : Rank := ⟨cost, s.sizeSinceError b, n.weight, false⟩
    finished.any (·.reading.cost ≤ cost) ||
      (List.range s.branches.length).any fun j =>
        match s.branches[j]? with
        | some other =>
          j != i && other.standing.isActive &&
            n.cursor.pos.byte ≤ (s.topNode other).cursor.pos.byte &&
            match mine.compare (s.rank other) with
            | .takeSecond => true
            | .preferSecond => s.canMerge j i
            | _ => false
        | none => false

/-- Compare branch `i`, which stood as `mine` when its turn came, with the branches from `j` on
before it. The place from which the next branch is to be taken. -/
def settle (mine : Rank) : Nat → Stacks → Nat → Nat → Stacks × Nat
  | 0, s, i, _ => (s, i + 1)
  | fuel + 1, s, i, j =>
    if j < i then
      match s.branches[j]? with
      | none => (s, i + 1)
      | some other =>
        match (s.rank other).compare mine with
        | .takeFirst => (s.remove i, i)
        | .preferFirst | .neither =>
          match s.merge? j i with
          | some s => (s, i)
          | none => settle mine fuel s i (j + 1)
        | .preferSecond =>
          match s.merge? j i with
          | some s => (s, i)
          | none => settle mine fuel (s.swap i j) i (j + 1)
        | .takeSecond => settle mine fuel (s.remove j) (i - 1) j
    else (s, i + 1)

/-- Drop the branches that were given up and order the others, from branch `i` on; the least damage
of a branch that is not in the midst of damage. -/
def order : Nat → Stacks → Nat → Option Nat → Stacks × Option Nat
  | 0, s, _, least => (s, least)
  | fuel + 1, s, i, least =>
    match s.branches[i]? with
    | none => (s, least)
    | some b =>
      if b.standing.isHalted then order fuel (s.remove i) i least
      else
        let mine := s.rank b
        let least :=
          if mine.inError then least else some (least.elim mine.cost (min mine.cost))
        let (s, i) := settle mine (2 * s.branches.length + 2) s i 0
        order fuel s i least

end Stacks

end CellScript.Python
