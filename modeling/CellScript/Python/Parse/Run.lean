import CellScript.Python.Parse.Recover
import CellScript.Python.Tree

set_option autoImplicit false

/-! # Parsing

`Progress.round` advances every reading in turn and then ranks them; paused readings go on with
recovery when no better one is left. Parsing ends when a complete reading is better than all in
progress. `Tree.ofText` is the tree of the best reading: fragments that a tree does not show give
way to their parts, and phrases name their parts and give them roles. -/

namespace CellScript.Python

open Grammar

namespace Progress

/-- No text read. -/
def ofText (text : List Char) : Progress := ⟨.ofText text, none, 0⟩

/-- Advance branch `i` until it has gone beyond `last`, as far as any branch went, or is no longer
read on. -/
def advanceBranch (i : Nat) : Nat → Progress → Nat → Progress × Nat
  | 0, p, last => ({ p with forks := p.forks.halt i }, last)
  | fuel + 1, p, last =>
    match p.forks.branches[i]? with
    | none => (p, last)
    | some b =>
      if b.standing.isActive then
        let p := match p.advanceWith i (1000 + 10 * p.forks.count) (p.lookahead b) with
          | .done p => p
          | .gather p l => p.recover i l
        match p.forks.branches[i]? with
        | none => (p, last)
        | some b =>
          let at_ := (p.forks.topNode b).cursor.pos.byte
          if last < at_ ∨ (0 < i ∧ at_ = last) then (p, at_) else advanceBranch i fuel p last
      else (p, last)

/-- Advance every branch from `i` on. -/
def advanceAll (fuel : Nat) : Nat → Progress → Nat → Nat → Progress × Nat
  | 0, p, _, last => (p, last)
  | n + 1, p, i, last =>
    if i < p.forks.branches.length then
      let (p, last) := advanceBranch i fuel p last
      advanceAll fuel n p (i + 1) last
    else (p, last)

/-- Go on with recovery on the first branch from `i` on that is paused, unless another is being read
on; the paused branches after that are dropped. -/
def resume : Nat → Progress → Nat → Bool → Option Nat → Progress × Option Nat
  | 0, p, _, _, least => (p, least)
  | n + 1, p, i, running, least =>
    match p.forks.branches[i]? with
    | none => (p, least)
    | some b =>
      match b.standing with
      | .paused l =>
        if !running && p.finishes < Stacks.maxBranches then
          let least := some (p.forks.branchCost b)
          let s := p.forks.modify i ({ · with standing := .active })
          resume n ({ p with forks := s }.meetDamage i l) (i + 1) true least
        else resume n { p with forks := p.forks.remove i } i running least
      | _ => resume n p (i + 1) true least

/-- Rank the branches and see to recovery; the least damage of a reading in progress, none if there
is no such reading. -/
def condense (p : Progress) : Progress × Option Nat :=
  let n := p.forks.branches.length
  let (s, least) := p.forks.order (2 * n + 2) 0 none
  let s := { s with branches := s.branches.take Stacks.maxBranches }
  resume s.branches.length { p with forks := s } 0 false least

/-- Whether the best reading is complete: no reading in progress is as good. -/
def isComplete (p : Progress) (least : Option Nat) : Bool :=
  match p.finished, least with
  | some f, some c => f.reading.cost < c
  | some _, none => true
  | none, _ => false

/-- Rounds until the best reading is complete or no branch is left, at most `rounds`, with `fuel`
for each branch. -/
def run (fuel : Nat) : Nat → Progress → Nat → Progress
  | 0, p, _ => p
  | rounds + 1, p, last =>
    let (p, last) := advanceAll fuel (2 * Stacks.maxBranches + fuel) p 0 last
    let (p, least) := p.condense
    if p.isComplete least || p.forks.branches.isEmpty then p else run fuel rounds p last

end Progress

/-! ## The tree of a reading -/

/-- How the tree shows a fragment: under a kind of its own or as another, in a role. -/
structure Shown where
  alias_ : Option (Kind × Bool)
  role : Option Role

mutual

/-- The nodes that show a fragment: one, or those of its parts. -/
def Fragment.nodes : Shown → Fragment → List Tree
  | as, .mk r ps =>
    let kids (role : Option Role) := nodesOf (shapeAt r.shape) 0 role ps
    let label (kind : Kind) (named : Bool) : Label :=
      ⟨kind, named, as.role, r.start, r.stop, r.missing, r.cost != 0⟩
    match as.alias_ with
    | some (kind, named) => [.node (label kind named) (kids none)]
    | none =>
      if isVisible r.symbol then [.node (label (kindOf r.symbol) (isNamed r.symbol)) (kids none)]
      else kids as.role

/-- The nodes that show the parts of a phrase, of which the first is at `place`; parts without a
role of their own have the role of the phrase, if a tree does not show it. -/
def nodesOf : Shape → Nat → Option Role → List Fragment → List Tree
  | _, _, _, [] => []
  | shape, place, role, f :: fs =>
    if f.reading.extra then f.nodes ⟨none, none⟩ ++ nodesOf shape place role fs
    else
      let own := shape.roles.lookup place
      f.nodes ⟨shape.aliases.lookup place, own <|> role⟩ ++ nodesOf shape (place + 1) role fs

end

/-- The best reading of a text. -/
def Fragment.ofText (text : List Char) : Option Fragment :=
  let fuel := 100 * (text.length + 10)
  ((Progress.ofText text).run fuel fuel 0).finished

/-- The syntax tree of a text. -/
def Tree.ofText (text : List Char) : Tree :=
  match (Fragment.ofText text).map (Fragment.nodes ⟨none, none⟩) with
  | some (t :: _) => t
  | _ => .node ⟨.error, true, none, .start, .start, false, true⟩ []

end CellScript.Python
