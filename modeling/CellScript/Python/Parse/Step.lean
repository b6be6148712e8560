import CellScript.Python.Parse.Lex

set_option autoImplicit false

/-! # Steps of a reading

`advance` reads one token on a branch and does what the grammar says: joins fragments into phrases,
takes the token, or pauses the branch if the token fits nowhere. Where there is more than one way to
unwind a stack, every way becomes a branch; the better of two readings of the same text is kept. -/

namespace CellScript.Python

open Grammar

/-- How far parsing has come: the readings in progress, the best that is complete, and how many
were. -/
structure Progress where
  forks : Stacks
  finished : Option Fragment
  finishes : Nat

namespace Stacks

/-- The most branches that are kept after a round. -/
def maxBranches : Nat := 6

/-- How many more may stand within a round. -/
def extraBranches : Nat := 4

/-- The parts and the extras after them, of fragments along a way down. -/
def splitAlong (along : List (Fragment × Cursor)) :
    List (Fragment × Cursor) × List (Fragment × Cursor) :=
  let tail := (along.reverse.takeWhile (·.1.extra)).reverse
  (along.take (along.length - tail.length), tail)

/-- Of several ways down to the same node, the one whose fragments make the better phrase. -/
def chooseWay (symbol shape : Nat) (at_ : Position) (best : List (Fragment × Cursor)) :
    List Unwound → List (Fragment × Cursor)
  | [] => best
  | u :: us =>
    let whole (shape : Nat) (along : List (Fragment × Cursor)) :=
      Fragment.phrase symbol shape 0 false at_ ((splitAlong along).1.map (·.1))
    let best := if (whole shape best).better (whole 0 u.along) then u.along else best
    chooseWay symbol shape at_ best us

/-- Push fragments that were unwound, all with the same state above them. -/
def pushAll (s : Stacks) (i state : Nat) (fs : List (Fragment × Cursor)) : Stacks :=
  fs.foldl (fun s f => s.push i (some f.1) f.2 state) s

/-- Join branch `i` into the first of the branches before it that it can be joined into, branch
`except` aside. -/
def mergeInto? (s : Stacks) (except i : Nat) : Option Stacks :=
  (List.range i).findSome? fun j => if j = except then none else s.merge? j i

/-- Put phrases on the ends of the ways down that were unwound from branch `i`. `removed` of the
branches that were made have been dropped again. -/
def pushPhrases (i symbol shape : Nat) (weight : Int) : Nat → Stacks → Nat → List Unwound → Stacks
  | 0, s, _, _ => s
  | _, s, _, [] => s
  | fuel + 1, s, removed, u :: us =>
    let same := us.takeWhile (·.branch == u.branch)
    let others := us.drop same.length
    let b := u.branch - removed
    let halted := (s.branches.filter (·.standing.isHalted)).length
    if maxBranches + extraBranches + halted < b then
      pushPhrases i symbol shape weight fuel (s.remove b) (removed + 1) others
    else
      match s.branches[b]? with
      | none => s
      | some branch =>
        let base := s.topNode branch
        let (parts, extras) := splitAlong (chooseWay symbol shape base.cursor.pos u.along same)
        let whole := Fragment.phrase symbol shape weight false base.cursor.pos (parts.map (·.1))
        let after := match parts.getLast? with | some f => f.2 | none => base.cursor
        let state := next base.state symbol
        let s := (s.push b (some whole) after state).pushAll b state extras
        match s.mergeInto? i b with
        | some s => pushPhrases i symbol shape weight fuel s (removed + 1) others
        | none => pushPhrases i symbol shape weight fuel s removed others

/-- Join the topmost fragments of branch `i` into a phrase, on a new branch for every way down; the
first of the new branches, if one is left. -/
def reduce (s : Stacks) (i : Nat) (r : Reduction) : Stacks × Option Nat :=
  let before := s.branches.length
  let (s, ways) := s.popCount i r.size
  let s := pushPhrases i r.head r.shape r.weight ways.length s 0 ways
  (s, if before < s.branches.length then some before else none)

/-- Take a token on branch `i`. -/
def shift (s : Stacks) (i : Nat) (l : Lookahead) (state : Nat) (extra : Bool) : Stacks :=
  let s := s.push i (some (l.token.setExtra extra)) l.after state
  match l.token.reading.layout with
  | some layout => s.modify i ({ · with layout := some layout })
  | none => s

end Stacks

/-- The whole reading of a text, of the fragments on a stack: the last of them that is no extra,
with the others as its parts too. -/
def wholeOf (fs : List Fragment) : Option Fragment :=
  let after := (fs.reverse.takeWhile Fragment.extra).reverse
  match (fs.take (fs.length - after.length)).reverse with
  | [] => none
  | root :: before =>
    some (.phrase root.symbol root.reading.shape 0 false root.reading.start
      (before.reverse ++ root.parts ++ after))

namespace Progress

/-- Branch `i` is complete with the end of the text. -/
def accept (p : Progress) (i : Nat) (l : Lookahead) : Progress :=
  let (s, ways) := (p.forks.push i (some l.token) l.after startState).popAll i
  let wholes := ways.filterMap fun u => wholeOf (u.along.map (·.1))
  let better (old : Option Fragment) (new : Fragment) : Option Fragment :=
    match old with
    | some f => if f.better new then some new else old
    | none => some new
  let s := match ways with | u :: _ => s.remove u.branch | [] => s
  { forks := s.halt i
    finished := wholes.foldl better p.finished
    finishes := p.finishes + wholes.length }

/-- What the moves for a token came to. -/
inductive Outcome where
  /-- The token was taken, or the text is complete. -/
  | done (p : Progress)
  /-- The token is to be gathered as text that fits nowhere. -/
  | gather (s : Stacks)
  /-- Phrases were made, on new branches from the given one on, if one is left. -/
  | reduced (s : Stacks) (last : Option Nat)
  /-- There was no move. -/
  | stuck

/-- Do the moves for a token on branch `i`, of which the first that takes the token is the last that
is done. -/
def doMoves (p : Progress) (i state : Nat) (l : Lookahead) (did : Bool) (last : Option Nat) :
    List Move → Outcome
  | [] => if did then .reduced p.forks last else .stuck
  | m :: ms =>
    match m with
    | .shift next => .done { p with forks := p.forks.shift i l next false }
    | .again _ => doMoves p i state l did last ms
    | .skip => .done { p with forks := p.forks.shift i l state true }
    | .reduce r =>
      let (s, new) := p.forks.reduce i r
      doMoves { p with forks := s } i state l true (new <|> last) ms
    | .recover => .gather p.forks
    | .accept => .done (p.accept i l)

/-- What came of advancing a branch by a token. -/
inductive Advance where
  | done (p : Progress)
  /-- The branch gathers a token as text that fits nowhere. -/
  | gather (p : Progress) (l : Lookahead)

/-- Advance branch `i` with a token that was read: make phrases until the token is taken. -/
def advanceWith (i : Nat) : Nat → Progress → Lookahead → Advance
  | 0, p, _ => .done { p with forks := p.forks.halt i }
  | fuel + 1, p, l =>
    let state := match p.forks.branches[i]? with | some b => (p.forks.topNode b).state | none => 0
    let symbol := l.token.symbol
    let ms := if symbol = error then [] else moves state symbol
    match p.doMoves i state l false none ms with
    | .done p => .done p
    | .gather s => .gather { p with forks := s } l
    | .reduced s (some new) => advanceWith i fuel { p with forks := s.renumber new i } l
    | .reduced s none => .done { p with forks := s.halt i }
    | .stuck =>
      let r := l.token.reading
      if r.keyword && symbol != identifier && expects state identifier then
        advanceWith i fuel p ⟨.mk { r with symbol := identifier } [], l.after⟩
      else
        .done { p with
          forks := p.forks.modify i fun b =>
            { b with standing := .paused l, sizeAtError := (p.forks.topNode b).size } }

/-- The next token of branch `i`. -/
def lookahead (p : Progress) (b : Branch) : Lookahead :=
  let n := p.forks.topNode b
  Place.lex ⟨n.state, b.layout, p.forks.hasAdvanced b⟩ n.cursor

end Progress

end CellScript.Python
