import CellScript.Python.Parse.Rank

set_option autoImplicit false

/-! # Going on after damage

A token that fits nowhere is met in three ways, and the cheapest reading wins. A missing token is
supplied, if the text then goes on; or the stack is unwound to a state, one of the havens, in which
the token does fit, and what was unwound becomes text that fits nowhere; or the token itself becomes
such text. -/

namespace CellScript.Python

open Grammar

namespace Stacks

/-- The tokens that a state may meet: the one given, or all of them. -/
def metTokens (token : Nat) : List Nat :=
  if token = endOfText then (List.range firstPhrase).tail else [token]

/-- Whether a state takes one of some tokens, other than as an extra. -/
def takes (state : Nat) (tokens : List Nat) : Bool :=
  tokens.any fun t => (moves state t).any fun m =>
    match m with
    | .shift _ | .recover => true
    | _ => false

/-- The reductions that a state does for some tokens, one for each phrase and number of parts. -/
def reductionsOf (state : Nat) (tokens : List Nat) : List Reduction :=
  tokens.foldl (fun rs t =>
    (moves state t).foldl (fun rs m =>
      match m with
      | .reduce r =>
        if r.size = 0 ∨ rs.any (fun q => q.head == r.head && q.size == r.size) then rs
        else rs ++ [r]
      | _ => rs) rs) []

/-- Do every reduction that branch `start`, and the branches that come of it, can do for a token, or
for any. `first` is the number of branches at the outset and `round` counts the rounds. Says whether
one of the branches can take the token; if a token is given, branches that cannot are dropped. -/
def reduceAll (token start first : Nat) : Nat → Stacks → Nat → Nat → Bool → Stacks × Bool
  | 0, s, _, _, took => (s, took)
  | fuel + 1, s, i, round, took =>
    match s.branches[i]? with
    | none => (s, took)
    | some b =>
      let merged := (List.range i).findSome? fun j => if j < first then none else s.merge? j i
      match merged with
      | some s => reduceAll token start first fuel s i (round + 1) took
      | none =>
        let count := s.branches.length
        let state := (s.topNode b).state
        let tokens := metTokens token
        let (s, last) := (reductionsOf state tokens).foldl (fun (s, _) r => s.reduce i r) (s, none)
        let on (s : Stacks) (took : Bool) :=
          reduceAll token start first fuel s (if i = start then count else i + 1) (round + 1) took
        if takes state tokens then on s true
        else
          match last with
          | some new =>
            if round < maxBranches then
              reduceAll token start first fuel (s.renumber new i) i (round + 1) took
            else on (if token = endOfText then s else s.remove i) took
          | none => on (if token = endOfText then s else s.remove i) took

/-- `reduceAll` from a branch on. -/
def reduceFrom (s : Stacks) (i token : Nat) : Stacks × Bool :=
  reduceAll token i s.branches.length (1000 + 10 * s.count) s i 0 false

/-- Unwind `depth` parts of branch `i` to the state `goal`; what was unwound becomes text that fits
nowhere. Says whether a way down led there. -/
def returnTo (s : Stacks) (i depth goal : Nat) : Stacks × Bool :=
  let (s, ways) := s.popCount i depth
  let go (acc : Stacks × Option Nat × Bool) (u : Unwound) : Stacks × Option Nat × Bool :=
    let (s, previous, did) := acc
    if previous = some u.branch then acc
    else
      match s.branches[u.branch]? with
      | none => acc
      | some b =>
        let base := s.topNode b
        if base.state != goal then (s.halt u.branch, previous, did)
        else
          let (s, errors) := s.popError u.branch
          let base := match s.branches[u.branch]? with | some b => s.topNode b | none => base
          let inner := match errors with | f :: _ => f.parts | [] => []
          let (parts, extras) := splitAlong u.along
          -- Without parts of its own the way leaves the extras of the text taken off to the end.
          let all := inner ++ parts.map (·.1)
          let innerExtras := if parts.isEmpty then (Fragment.splitExtras inner).2 else []
          let all := all.take (all.length - innerExtras.length)
          let after := match parts.getLast? with | some f => f.2 | none => base.cursor
          let s :=
            if all.isEmpty then s
            else s.push u.branch (some (.phrase error 0 0 true base.cursor.pos all)) after goal
          (s.pushAll u.branch goal extras, some u.branch, true)
  let (s, _, did) := ways.foldl go (s, none, false)
  (s, did)

/-- The havens of branch `i` in which a token fits, in turn; whether one of them was reached.
`count` is the number of branches at the outset. -/
def returnToHaven (finished : Option Fragment) (i token count : Nat) :
    Stacks → List Haven → Stacks × Bool
  | s, [] => (s, false)
  | s, h :: hs =>
    match s.branches[i]? with
    | none => (s, false)
    | some b =>
      let n := s.topNode b
      let pos := n.cursor.pos
      let there := (s.branches.take count).any fun b =>
        let m := s.topNode b
        m.state == h.state && m.cursor.pos.byte == pos.byte
      if h.state = errorState ∨ h.pos.byte = pos.byte ∨ there then
        returnToHaven finished i token count s hs
      else
        let cost := s.branchCost b + h.depth * Cost.skippedPhrase + Cost.ofSpan h.pos pos
        if s.hasBetter finished i cost then (s, false)
        else if expects h.state token then
          let depth := if 0 < s.sizeSinceError b then h.depth + 1 else h.depth
          match s.returnTo i depth h.state with
          | (s, true) => (s, true)
          | (s, false) => returnToHaven finished i token count s hs
        else returnToHaven finished i token count s hs

/-- Drop the branches from `i` on that are not being read on. -/
def dropIdle (s : Stacks) (i : Nat) : Stacks :=
  { s with branches := s.branches.take i ++ (s.branches.drop i).filter (·.standing.isActive) }

/-- Gather a token on branch `i` as text that fits nowhere, with such text before it. -/
def gather (s : Stacks) (i : Nat) (l : Lookahead) : Stacks :=
  match s.branches[i]? with
  | none => s
  | some b =>
    let isExtra : Bool := match (moves startState l.token.symbol).getLast? with
      | some .skip => true
      | _ => false
    let token := if isExtra then l.token.setExtra true else l.token
    let at_ := token.reading.start
    let piece := Fragment.phrase errorPiece 0 0 false at_ [token]
    let (s, piece) :=
      if 0 < s.sizeSinceError b then
        match s.popCount i 1 with
        | (s, u :: _) =>
          let s := { s with branches := s.branches.take (u.branch + 1) }
          (s.renumber u.branch i,
            Fragment.phrase errorPiece 0 0 false at_ (u.along.map (·.1) ++ [piece]))
        | (s, []) => (s, piece)
      else (s, piece)
    let s := s.push i (some piece) l.after errorState
    match token.reading.layout with
    | some layout => s.modify i ({ · with layout := some layout })
    | none => s

end Stacks

namespace Progress

/-- Meet a token that fits nowhere on branch `i`, which gathers such text. -/
def recover (p : Progress) (i : Nat) (l : Lookahead) : Progress :=
  match p.forks.branches[i]? with
  | none => p
  | some b =>
    let count := p.forks.branches.length
    let (s, returned) :=
      if l.token.isError then (p.forks, false)
      else p.forks.returnToHaven p.finished i l.token.symbol count (b.havens.getD [])
    let s := s.dropIdle count
    let p := { p with forks := s }
    if l.token.symbol = endOfText then
      match s.branches[i]? with
      | none => p
      | some b =>
        let cursor := (s.topNode b).cursor
        let rest := Fragment.phrase error 0 0 false cursor.pos []
        { p with forks := s.push i (some rest) cursor startState }.accept i l
    else if returned && Stacks.maxBranches < s.branches.length then { p with forks := s.halt i }
    else if returned && l.token.reading.changesLayout then { p with forks := s.halt i }
    else
      match s.branches[i]? with
      | none => p
      | some b =>
        let from_ := (s.topNode b).cursor.pos
        let cost := s.branchCost b + Cost.skippedPhrase + Cost.ofSpan from_ l.after.pos
        if s.hasBetter p.finished i cost then { p with forks := s.halt i }
        else { p with forks := s.gather i l }

/-- Supply a token on branch `i`, if a token after which `lookahead` is taken can stand there. -/
def supply (s : Stacks) (i lookahead : Nat) : List Nat → Stacks × Bool
  | [] => (s, false)
  | t :: ts =>
    match s.branches[i]? with
    | none => (s, false)
    | some b =>
      let n := s.topNode b
      let after := next n.state t
      if after = errorState ∨ after = n.state ∨ !reducesOn after lookahead then
        supply s i lookahead ts
      else
        let copy := s.branches.length
        let s := { s with branches := s.branches ++ [{ b with havens := none }] }
        let s := s.push copy (some (.missingToken t n.cursor.pos)) n.cursor after
        match s.reduceFrom copy lookahead with
        | (s, true) => (s, true)
        | (s, false) => supply s i lookahead ts

/-- Mark damage on branch `i`, and on the branches from `j` up to `stop` that came of it. -/
def markDamage (lookahead i first stop : Nat) : Nat → Stacks → Nat → Bool → Stacks
  | 0, s, _, _ => s
  | fuel + 1, s, j, supplied =>
    if j < stop then
      let (s, supplied) :=
        if supplied then (s, true) else supply s j lookahead (List.range firstPhrase).tail
      let s := match s.branches[j]? with
        | some b => s.push j none (s.topNode b).cursor errorState
        | none => s
      markDamage lookahead i first stop fuel s (if j = i then first else j + 1) supplied
    else s

/-- Join the next `n` branches at `j` into branch `i`. -/
def mergeNext (s : Stacks) (i j : Nat) : Nat → Stacks
  | 0 => s
  | n + 1 => mergeNext ((s.merge? i j).getD s) i j n

/-- Branch `i` met a token that fits nowhere. -/
def meetDamage (p : Progress) (i : Nat) (l : Lookahead) : Progress :=
  let first := p.forks.branches.length
  let (s, _) := p.forks.reduceFrom i endOfText
  let stop := s.branches.length
  let s := markDamage l.token.symbol i first stop (stop + 1) s i false
  let s := mergeNext s i first (stop - first)
  { p with forks := s.recordHavens i }.recover i l

end Progress

end CellScript.Python
