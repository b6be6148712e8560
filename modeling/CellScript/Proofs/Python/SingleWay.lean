import CellScript.Python.Parse.Run

set_option autoImplicit false

/-! # Parsing without a choice

Where the grammar leaves no choice and nothing is damaged, there is one reading in progress, and its
stack is a list of entries. `Grammar.plan` says what the states of such a stack do with a token: the
phrases that are made of the topmost entries, and the move that follows. `Progress.Stands` says that
parsing has come to a stack of entries, `Stands.takes` what taking a token makes of it, and
`Stands.accepts` how the last one completes the reading. -/

namespace CellScript.Python

open Grammar

deriving instance DecidableEq for Reduction
deriving instance DecidableEq for Move

/-! ## What the grammar plans -/

namespace Grammar

/-- Whether a move takes a token as one more round of a repetition. -/
def Move.isAgain : Move → Bool
  | .again _ => true
  | _ => false

/-- What a stack of states does with a token where there is no choice: the phrases it makes, each
with the state after it, and the move that takes the token. `fuel` bounds the phrases. -/
def plan (token : Nat) : Nat → List Nat → Option (List (Reduction × Nat) × Move)
  | 0, _ => none
  | _, [] => none
  | fuel + 1, state :: states =>
    match moves state token with
    | [.shift s] => some ([], .shift s)
    | [.accept] => some ([], .accept)
    | .reduce r :: ms =>
      match (state :: states).drop r.size with
      | [] => none
      | base :: below =>
        if ms.all Move.isAgain ∧ r.head < errorPiece then
          (plan token fuel (next base r.head :: base :: below)).map fun x =>
            ((r, next base r.head) :: x.1, x.2)
        else none
    | _ => none

/-- How a plan starts on a stack of states: with the move that takes the token, or with a phrase
that is made of the topmost states. -/
inductive Plans (token fuel : Nat) (states : List Nat) (state : Nat) :
    List (Reduction × Nat) × Move → Prop where
  | shift {s : Nat} (hm : moves state token = [.shift s]) :
      Plans token fuel states state ([], .shift s)
  | accept (hm : moves state token = [.accept]) : Plans token fuel states state ([], .accept)
  | reduce {r : Reduction} {ms : List Move} {base : Nat} {below : List Nat}
      {x : List (Reduction × Nat) × Move} (hm : moves state token = .reduce r :: ms)
      (hdrop : states.drop r.size = base :: below) (hagain : ms.all Move.isAgain = true)
      (hhead : r.head < errorPiece)
      (hrest : plan token fuel (next base r.head :: base :: below) = some x) :
      Plans token fuel states state ((r, next base r.head) :: x.1, x.2)

theorem plan_eq_some_iff {token fuel state : Nat} {states : List Nat}
    {x : List (Reduction × Nat) × Move} :
    plan token (fuel + 1) (state :: states) = some x ↔
      Plans token fuel (state :: states) state x := by
  constructor
  · intro h
    unfold plan at h
    split at h
    · rename_i hm
      obtain rfl := Option.some.inj h
      exact .shift hm
    · rename_i hm
      obtain rfl := Option.some.inj h
      exact .accept hm
    · rename_i hm
      split at h
      · cases h
      · rename_i hdrop
        split at h
        · rename_i hcan
          obtain ⟨y, hy, rfl⟩ := Option.map_eq_some_iff.1 h
          exact .reduce hm hdrop hcan.1 hcan.2 hy
        · cases h
    · cases h
  · intro h
    unfold plan
    cases h with
    | shift hm | accept hm => simp only [hm]
    | reduce hm hdrop hagain hhead hrest =>
        simp only [hm, hdrop, if_pos (And.intro hagain hhead), hrest, Option.map_some]

/-- What is below the states that a plan looks at makes no difference. -/
theorem plan_append {token fuel : Nat} (states : List Nat)
    {x : List (Reduction × Nat) × Move} (h : plan token fuel states = some x) (rest : List Nat) :
    plan token fuel (states ++ rest) = some x := by
  induction fuel generalizing states x with
  | zero => cases h
  | succ fuel ih =>
      cases states with
      | nil => cases h
      | cons state states =>
          refine plan_eq_some_iff.2 ?_
          cases plan_eq_some_iff.1 h with
          | shift hm => exact .shift hm
          | accept hm => exact .accept hm
          | @reduce r _ base below _ hm hdrop hagain hhead hrest =>
              have hlen : r.size ≤ (state :: states).length := by
                refine Nat.le_of_not_lt fun hlt => ?_
                rw [List.drop_eq_nil_of_le (Nat.le_of_lt hlt)] at hdrop
                cases hdrop
              have hdrop' : (state :: (states ++ rest)).drop r.size = base :: (below ++ rest) := by
                rw [← List.cons_append, List.drop_append_of_le_length hlen, hdrop]
                rfl
              exact .reduce hm hdrop' hagain hhead (ih _ hrest)

end Grammar

/-! ## Entries -/

/-- A fragment on a stack, with the state above it and the cursor after it. -/
structure Entry where
  state : Nat
  cursor : Cursor
  fragment : Fragment

/-- A fragment of undamaged text that is a part. -/
structure Fragment.Sound (f : Fragment) : Prop where
  part : f.extra = false
  free : f.reading.cost = 0

namespace Fragment

theorem cost_foldl_add {inError : Bool} {aliases : List (Nat × Kind × Bool)} {fs : List Fragment}
    (hError : inError = false) (h : ∀ f ∈ fs, f.Sound) (sum : Sum) :
    (fs.foldl (Sum.add inError aliases) sum).cost = sum.cost := by
  induction fs generalizing sum with
  | nil => rfl
  | cons f fs ih =>
      have hf := h f List.mem_cons_self
      rw [List.foldl_cons, ih fun g hg => h g (List.mem_cons_of_mem f hg)]
      simp [Sum.add, hError, hf.free]

/-- A phrase of undamaged parts is undamaged. -/
theorem sound_phrase {symbol shape : Nat} {weight : Int} {at_ : Position} {parts : List Fragment}
    (herror : symbol ≠ error) (hpiece : symbol ≠ errorPiece) (h : ∀ f ∈ parts, f.Sound) :
    (phrase symbol shape weight false at_ parts).Sound := by
  have hError : (symbol == error || symbol == errorPiece) = false := by simp [herror, hpiece]
  refine ⟨rfl, ?_⟩
  simp only [phrase, reading, hError]
  exact cost_foldl_add rfl h _

end Fragment

namespace Entry

/-- The states of a stack, topmost first. -/
def states (es : List Entry) : List Nat := es.map state ++ [startState]

@[simp] theorem states_cons (e : Entry) (es : List Entry) :
    states (e :: es) = e.state :: states es := rfl

/-- The cursor at the top of a stack over the start of a text. -/
def top (text : List Char) : List Entry → Cursor
  | [] => .ofText text
  | e :: _ => e.cursor

/-- The cursor after the topmost entries is the one at the top of the stack. -/
theorem top_taken (text : List Char) (es : List Entry) (n : Nat) :
    (((es.take n).map fun e => (e.fragment, e.cursor)).reverse.getLast?.map (·.2)).getD
      (top text (es.drop n)) = top text es := by
  rw [List.getLast?_reverse]
  have hsplit := List.take_append_drop n es
  cases htake : es.take n with
  | nil =>
      rw [htake, List.nil_append] at hsplit
      rw [hsplit]
      rfl
  | cons e above =>
      rw [htake] at hsplit
      rw [← hsplit]
      rfl

/-- Join the topmost entries into a phrase. -/
def join (text : List Char) (es : List Entry) (step : Reduction × Nat) : List Entry :=
  let below := es.drop step.1.size
  ⟨step.2, top text es, .phrase step.1.head step.1.shape step.1.weight false (top text below).pos
    ((es.take step.1.size).map fragment).reverse⟩ :: below

section

variable (text : List Char) (es : List Entry) (e e₁ e₂ e₃ e₄ : Entry) (head shape state : Nat)
  (weight : Int)

@[simp] theorem join_one :
    join text (e :: es) (⟨head, 1, weight, shape⟩, state) =
      ⟨state, e.cursor, .phrase head shape weight false .start [e.fragment]⟩ :: es := rfl

@[simp] theorem join_two :
    join text (e :: e₁ :: es) (⟨head, 2, weight, shape⟩, state) =
      ⟨state, e.cursor, .phrase head shape weight false .start [e₁.fragment, e.fragment]⟩ :: es :=
  rfl

@[simp] theorem join_three :
    join text (e :: e₁ :: e₂ :: es) (⟨head, 3, weight, shape⟩, state) =
      ⟨state, e.cursor,
        .phrase head shape weight false .start [e₂.fragment, e₁.fragment, e.fragment]⟩ :: es := rfl

@[simp] theorem join_five :
    join text (e :: e₁ :: e₂ :: e₃ :: e₄ :: es) (⟨head, 5, weight, shape⟩, state) =
      ⟨state, e.cursor,
        .phrase head shape weight false .start
          [e₄.fragment, e₃.fragment, e₂.fragment, e₁.fragment, e.fragment]⟩ :: es := rfl

end

end Entry

namespace Stacks

variable {s t : Stacks} {text : List Char} {i : Nat} {es : List Entry}

/-- `t` has the nodes of `s` and more. -/
structure Keeps (s t : Stacks) : Prop where
  count : s.count ≤ t.count
  node : ∀ j < s.count, t.node j = s.node j

/-- The way down from a node is single and has the given entries, over the start of a text. -/
inductive Way (s : Stacks) (text : List Char) : Nat → List Entry → Prop where
  | start {i : Nat} (hi : i < s.count) (state : (s.node i).state = startState)
      (cursor : (s.node i).cursor = .ofText text) (links : (s.node i).links = [])
      (cost : (s.node i).cost = 0) : Way s text i []
  | above {i below : Nat} {e : Entry} {es : List Entry} (hbelow : below < i) (hi : i < s.count)
      (state : (s.node i).state = e.state) (cursor : (s.node i).cursor = e.cursor)
      (links : (s.node i).links = [⟨below, some e.fragment⟩]) (cost : (s.node i).cost = 0)
      (sound : e.fragment.Sound) (way : Way s text below es) : Way s text i (e :: es)

namespace Way

theorem lt_count (h : Way s text i es) : i < s.count := by
  cases h <;> assumption

theorem length_le (h : Way s text i es) : es.length ≤ i := by
  induction h with
  | start => exact Nat.zero_le _
  | above hbelow _ _ _ _ _ _ _ ih =>
      rw [List.length_cons]
      omega

theorem state_eq (h : Way s text i es) : (Entry.states es).head? = some (s.node i).state := by
  cases h with
  | start _ hstate => rw [hstate]; rfl
  | above _ _ hstate => rw [hstate]; rfl

theorem cursor_eq (h : Way s text i es) : (s.node i).cursor = Entry.top text es := by
  cases h <;> assumption

theorem cost_eq (h : Way s text i es) : (s.node i).cost = 0 := by
  cases h <;> assumption

theorem sound (h : Way s text i es) : ∀ e ∈ es, e.fragment.Sound := by
  induction h with
  | start => simp
  | above _ _ _ _ _ _ hsound _ ih => exact List.forall_mem_cons.2 ⟨hsound, ih⟩

theorem links_nil (h : Way s text i []) : (s.node i).links = [] := by
  cases h
  assumption

theorem links_cons {e : Entry} (h : Way s text i (e :: es)) : ∃ l, (s.node i).links = [l] := by
  cases h
  exact ⟨_, by assumption⟩

/-- A way stays as it is when nodes are added. -/
theorem mono (h : Way s text i es) (ht : Keeps s t) : Way t text i es := by
  induction h with
  | start hi hstate hcursor hlinks hcost =>
      rw [← ht.node _ hi] at hstate hcursor hlinks hcost
      exact .start (Nat.lt_of_lt_of_le hi ht.count) hstate hcursor hlinks hcost
  | above hbelow hi hstate hcursor hlinks hcost hsound _ ih =>
      rw [← ht.node _ hi] at hstate hcursor hlinks hcost
      exact .above hbelow (Nat.lt_of_lt_of_le hi ht.count) hstate hcursor hlinks hcost hsound ih

end Way

/-! ## Pushing -/

theorem node_cons (s : Stacks) (n : Node) (bs : List Branch) :
    node ⟨n :: s.nodes, s.count + 1, bs⟩ s.count = n ∧
      ∀ j < s.count, node ⟨n :: s.nodes, s.count + 1, bs⟩ j = s.node j := by
  constructor
  · simp [node]
  · intro j hj
    have hplace : s.count + 1 - 1 - j = s.count - 1 - j + 1 := by omega
    simp only [node, hplace, List.getD_cons_succ]

/-- What pushing a fragment on a branch does. -/
theorem push_node {b : Branch} (f : Fragment) (c : Cursor) (state : Nat)
    (hb : s.branches[i]? = some b) :
    ∃ t, s.push i (some f) c state = t ∧ t.branches = s.branches.set i { b with top := s.count } ∧
      t.count = s.count + 1 ∧ Keeps s t ∧ (t.node s.count).state = state ∧
      (t.node s.count).cursor = c ∧ (t.node s.count).links = [⟨b.top, some f⟩] ∧
      (t.node s.count).cost = (s.topNode b).cost + f.reading.cost := by
  let n : Node := ⟨state, c, [⟨b.top, some f⟩], (s.topNode b).cost + f.reading.cost,
    (s.topNode b).weight + f.reading.weight, (s.topNode b).size + f.size⟩
  obtain ⟨hnew, hold⟩ := node_cons s n (s.branches.set i { b with top := s.count })
  refine ⟨⟨n :: s.nodes, s.count + 1, s.branches.set i { b with top := s.count }⟩, ?_, rfl, rfl,
    ⟨Nat.le_succ _, hold⟩, by rw [hnew], by rw [hnew], by rw [hnew], by rw [hnew]⟩
  unfold push
  rw [hb]
  rfl

/-- Pushing an undamaged fragment on a branch with a single way down. -/
theorem push_eq {b : Branch} {f : Fragment} (c : Cursor) (state : Nat)
    (hb : s.branches[i]? = some b) (hway : Way s text b.top es) (hf : f.Sound) :
    ∃ t, s.push i (some f) c state = t ∧ t.branches = s.branches.set i { b with top := s.count } ∧
      Way t text s.count (⟨state, c, f⟩ :: es) := by
  obtain ⟨t, hpush, ht, hcount, hkeeps, hstate, hcursor, hlinks, hcost⟩ := push_node f c state hb
  rw [show (s.topNode b).cost = 0 from hway.cost_eq, hf.free] at hcost
  exact ⟨t, hpush, ht, .above hway.lt_count (by omega) hstate hcursor hlinks hcost hf
    (hway.mono hkeeps)⟩

/-! ## Unwinding -/

section

variable {look : Unit → Stacks → Walk → Stop × Unit} {source : Branch} {fuel : Nat} {w : Walk}

theorem followWalks_go {l : Link} (hlook : look () s w = (.go, ()))
    (hlinks : (s.node w.at_).links = [l]) :
    followWalks source look (fuel + 1) [w] () (s, []) =
      followWalks source look fuel [Walk.over s w l] () (s, []) := by
  rw [followWalks, if_neg (by simp)]
  simp only [List.foldl_cons, List.foldl_nil, hlook, hlinks]
  rfl

/-- A new branch that stands at a node. -/
def withBranch (s : Stacks) (source : Branch) (i : Nat) : Stacks :=
  { s with branches := s.branches ++
      [{ source with top := i, standing := .active, havens := none }] }

theorem followWalks_keep
    (hlook : look () s w = (.keep, ()) ∨
      look () s w = (.keepAndGo, ()) ∧ (s.node w.at_).links = []) :
    followWalks source look (fuel + 2) [w] () (s, []) =
      ((s.withBranch source w.at_, [⟨s.branches.length, w.passed⟩]), ()) := by
  have hend : ∀ (n : Nat) (sofar : Stacks × List Unwound),
      followWalks source look (n + 1) [] () sofar = (sofar, ()) := by
    intro n sofar
    rw [followWalks, if_pos (by simp)]
  rw [followWalks, if_neg (by simp)]
  rcases hlook with hlook | ⟨hlook, hlinks⟩
  · simp only [List.foldl_cons, List.foldl_nil, hlook]
    exact hend _ _
  · simp only [List.foldl_cons, List.foldl_nil, hlook, hlinks]
    exact hend _ _

/-- A walk that goes over some entries and is kept below them. -/
theorem followWalks_way (look : Unit → Stacks → Walk → Stop × Unit) (source : Branch)
    {above : List Entry} {i : Nat} (depth : Nat) (passed : List (Fragment × Cursor))
    (hway : Way s text i (above ++ es)) (hfuel : above.length + 2 ≤ fuel)
    (hgo : ∀ j d p e es', Way s text j (e :: es') → d < depth + above.length →
      look () s ⟨j, p, d⟩ = (.go, ()))
    (hkeep : ∀ j p, Way s text j es → look () s ⟨j, p, depth + above.length⟩ = (.keep, ()) ∨
      look () s ⟨j, p, depth + above.length⟩ = (.keepAndGo, ()) ∧ (s.node j).links = []) :
    ∃ j, Way s text j es ∧
      followWalks source look fuel [⟨i, passed, depth⟩] () (s, []) =
        ((s.withBranch source j, [⟨s.branches.length,
          (above.map fun e => (e.fragment, e.cursor)).reverse ++ passed⟩]), ()) := by
  induction above generalizing i depth passed fuel with
  | nil =>
      obtain ⟨n, rfl⟩ := Nat.exists_eq_add_of_le' hfuel
      exact ⟨i, hway, followWalks_keep (hkeep i passed hway)⟩
  | cons e above ih =>
      have hgo' := hgo i depth passed e _ hway (by simp)
      obtain ⟨n, rfl⟩ : ∃ n, fuel = n + 1 := ⟨fuel - 1, by omega⟩
      rw [List.length_cons] at hfuel hgo hkeep
      cases hway with
      | @above i below e _ hbelow hi hstate hcursor hlinks hcost hsound hway =>
        have hover : Walk.over s ⟨i, passed, depth⟩ ⟨below, some e.fragment⟩ =
            ⟨below, (e.fragment, e.cursor) :: passed, depth + 1⟩ := by
          simp only [Walk.over, hsound.part, hcursor]
          rfl
        have hdepth : depth + 1 + above.length = depth + (above.length + 1) := by omega
        obtain ⟨j, hj, hfollow⟩ := ih (depth + 1)
          ((e.fragment, e.cursor) :: passed) hway (Nat.le_of_succ_le_succ hfuel)
          (fun j d p e' es' hw hd => hgo j d p e' es' hw (by omega))
          (fun j p hw => by rw [hdepth]; exact hkeep j p hw)
        refine ⟨j, hj, ?_⟩
        rw [followWalks_go hgo' hlinks, hover, hfollow]
        simp

end

/-- Unwinding as many parts as there are entries above some others. -/
theorem popCount_eq {above : List Entry} {b : Branch} (hb : s.branches[i]? = some b)
    (hway : Way s text b.top (above ++ es)) :
    ∃ j, Way s text j es ∧ s.popCount i above.length =
      (s.withBranch b j, [⟨s.branches.length,
        (above.map fun e => (e.fragment, e.cursor)).reverse⟩]) := by
  have hlen : above.length + 2 ≤ s.count + 1 := by
    have hle := hway.length_le
    have hlt := hway.lt_count
    rw [List.length_append] at hle
    omega
  obtain ⟨j, hj, h⟩ := followWalks_way
    (fun _ _ w => (if w.depth = above.length then .keep else .go, ())) b 0 [] hway hlen
    (fun j d p e es' _ hd => by
      have hne : d ≠ above.length := by omega
      simp only [if_neg hne])
    (fun j p _ => .inl (by rw [if_pos (by simp)]))
  refine ⟨j, hj, ?_⟩
  rw [popCount, unwind, hb]
  dsimp only
  rw [h, List.append_nil]

/-- Unwinding the whole of a branch that a last fragment was put on. -/
theorem popAll_push {b : Branch} (f : Fragment) (c : Cursor) (state : Nat)
    (hs : s.branches = [b]) (hway : Way s text b.top es) :
    ∃ t b' j, s.push 0 (some f) c state = t ∧ t.branches = [b'] ∧
      t.popAll 0 = (t.withBranch b' j, [⟨1,
        (es.map fun e => (e.fragment, e.cursor)).reverse ++ [(f, c)]⟩]) := by
  have hb : s.branches[0]? = some b := by rw [hs]; rfl
  obtain ⟨t, hpush, ht, hcount, hkeeps, -, hcursor, hlinks, -⟩ := push_node f c state hb
  let b' : Branch := { b with top := s.count }
  have hbranches : t.branches = [b'] := by rw [ht, hs]; rfl
  have hway' : Way t text b.top (es ++ []) := by
    rw [List.append_nil]
    exact hway.mono hkeeps
  have hlen : es.length + 2 ≤ s.count + 1 := by
    have hle := hway.length_le
    have hlt := hway.lt_count
    omega
  let look : Unit → Stacks → Walk → Stop × Unit := fun _ s w =>
    (if (s.node w.at_).links.isEmpty then .keepAndGo else .go, ())
  -- the first step goes over the last fragment, which may be an extra
  let w : Walk := Walk.over t ⟨s.count, [], 0⟩ ⟨b.top, some f⟩
  have hw : w = ⟨b.top, [(f, c)], w.depth⟩ := by
    simp only [w, Walk.over, hcursor]
  obtain ⟨j, -, h⟩ := followWalks_way look b' w.depth [(f, c)] hway' hlen
    (fun j d p e es' hw _ => by
      obtain ⟨l, hl⟩ := hw.links_cons
      simp [look, hl])
    (fun j p hw => by simp [look, hw.links_nil])
  refine ⟨t, b', j, hpush, hbranches, ?_⟩
  have hgo : followWalks b' look (s.count + 1 + 1) [⟨s.count, [], 0⟩] () (t, []) =
      followWalks b' look (s.count + 1) [w] () (t, []) :=
    followWalks_go (by simp [look, hlinks]) hlinks
  rw [popAll, unwind, hbranches, hcount]
  show (followWalks b' look (s.count + 1 + 1) [⟨s.count, [], 0⟩] () (t, [])).1 = _
  rw [hgo, hw, h, hbranches]
  rfl

/-! ## Joining -/

theorem splitAlong_of_parts {along : List (Fragment × Cursor)}
    (h : ∀ x ∈ along, x.1.extra = false) :
    splitAlong along = (along, []) := by
  have htail : (along.reverse.takeWhile (·.1.extra)) = [] := by
    cases hr : along.reverse with
    | nil => rfl
    | cons x xs =>
        have hx : x ∈ along := List.mem_reverse.1 (hr ▸ List.mem_cons_self)
        rw [List.takeWhile_cons, if_neg (by simp [h x hx])]
  simp [splitAlong, htail]

theorem mergeInto?_one (s : Stacks) : s.mergeInto? 0 1 = none := by
  simp [mergeInto?, List.range_succ]

theorem keeps_withBranch (s : Stacks) (b : Branch) (j : Nat) : Keeps s (s.withBranch b j) :=
  ⟨Nat.le_refl _, fun _ _ => rfl⟩

/-- The phrase that is put on a new branch at the lower end of a way down. -/
theorem pushPhrases_eq {b : Branch} {j symbol : Nat} (shape : Nat) (weight : Int)
    {along : List (Fragment × Cursor)} (hs : s.branches = [b]) (hway : Way s text j es)
    (halong : ∀ x ∈ along, x.1.Sound) (herror : symbol ≠ error) (hpiece : symbol ≠ errorPiece) :
    ∃ t b', pushPhrases 0 symbol shape weight 1 (s.withBranch b j) 0 [⟨1, along⟩] = t ∧
      t.branches = [b, b'] ∧ b'.standing = .active ∧ b'.layout = b.layout ∧
      Way t text b'.top (⟨next (s.node j).state symbol,
        (along.getLast?.map (·.2)).getD (Entry.top text es),
        .phrase symbol shape weight false (Entry.top text es).pos (along.map (·.1))⟩ :: es) := by
  let new : Branch := { b with top := j, standing := .active, havens := none }
  have hbranches : (s.withBranch b j).branches = [b, new] := by simp [withBranch, hs, new]
  have hnew : (s.withBranch b j).branches[1]? = some new := by rw [hbranches]; rfl
  have hsplit := splitAlong_of_parts fun x hx => (halong x hx).part
  have hsound : Fragment.Sound (.phrase symbol shape weight false (Entry.top text es).pos
      (along.map (·.1))) :=
    Fragment.sound_phrase herror hpiece fun f hf => by
      obtain ⟨x, hx, rfl⟩ := List.mem_map.1 hf
      exact halong x hx
  obtain ⟨t, hpush, ht, hway'⟩ := push_eq ((along.getLast?.map (·.2)).getD (Entry.top text es))
    (next (s.node j).state symbol) hnew (hway.mono (keeps_withBranch s b j)) hsound
  refine ⟨t, { new with top := (s.withBranch b j).count }, ?_, ?_, rfl, rfl, hway'⟩
  · have hfew : ¬ maxBranches + extraBranches +
        ((s.withBranch b j).branches.filter (·.standing.isHalted)).length < 1 := by
      have : maxBranches = 6 := rfl
      omega
    have hbase : (s.withBranch b j).topNode new = s.node j := rfl
    rw [pushPhrases]
    simp only [List.takeWhile_nil, List.length_nil, List.drop_nil, Nat.sub_zero, if_neg hfew, hnew,
      chooseWay, hsplit, hbase]
    rw [← hway.cursor_eq] at hpush
    cases hlast : along.getLast? with
    | none =>
        rw [hlast] at hpush
        simp only [pushAll, List.foldl_nil, mergeInto?_one]
        exact hpush
    | some x =>
        rw [hlast] at hpush
        simp only [pushAll, List.foldl_nil, mergeInto?_one]
        exact hpush
  · rw [ht, hbranches]
    rfl

/-- The new branch takes the place of the old one. -/
theorem renumber_one {b b' : Branch} (hs : s.branches = [b, b']) (hway : Way s text b'.top es) :
    ∃ b'', (s.renumber 1 0).branches = [b''] ∧ b''.standing = b'.standing ∧
      b''.layout = b'.layout ∧ Way (s.renumber 1 0) text b''.top es := by
  have hrenumber : s.renumber 1 0 =
      { s with branches := [{ b' with havens := b'.havens <|> b.havens }] } := by
    simp [renumber, hs]
  rw [hrenumber]
  exact ⟨_, rfl, rfl, rfl, hway.mono ⟨Nat.le_refl _, fun _ _ => rfl⟩⟩

/-- Joining the topmost entries of the only branch. -/
theorem reduce_eq {b : Branch} {r : Reduction} (hs : s.branches = [b])
    (hway : Way s text b.top es) (hsize : r.size ≤ es.length)
    (herror : r.head ≠ error) (hpiece : r.head ≠ errorPiece) {state : Nat}
    (hstate : (Entry.states (es.drop r.size)).head? = some state) :
    ∃ t b', s.reduce 0 r = (t, some 1) ∧ (t.renumber 1 0).branches = [b'] ∧
      b'.standing = .active ∧ b'.layout = b.layout ∧
      Way (t.renumber 1 0) text b'.top (Entry.join text es (r, next state r.head)) := by
  have hb : s.branches[0]? = some b := by rw [hs]; rfl
  have hone : s.branches.length = 1 := by rw [hs]; rfl
  have hlen : (es.take r.size).length = r.size := by
    rw [List.length_take, Nat.min_eq_left hsize]
  rw [← List.take_append_drop r.size es] at hway
  obtain ⟨j, hj, hpop⟩ := popCount_eq hb hway
  rw [hlen, hone] at hpop
  have halong : ∀ x ∈ ((es.take r.size).map fun e => (e.fragment, e.cursor)).reverse,
      x.1.Sound := by
    intro x hx
    obtain ⟨e, he, rfl⟩ := List.mem_map.1 (List.mem_reverse.1 hx)
    exact hway.sound e (List.mem_append_left _ he)
  have hnode : state = (s.node j).state := by
    rw [hj.state_eq] at hstate
    exact (Option.some.inj hstate).symm
  obtain ⟨t, b', hphrase, ht, hactive, hlayout, hway'⟩ :=
    pushPhrases_eq r.shape r.weight hs hj halong herror hpiece
  obtain ⟨b'', hb'', hactive', hlayout', hway''⟩ := renumber_one ht hway'
  refine ⟨t, b'', ?_, hb'', hactive'.trans hactive, hlayout'.trans hlayout, ?_⟩
  · unfold reduce
    simp only [hpop, hphrase, ht, hone, List.length_cons, List.length_nil]
    rfl
  · have hparts : (((es.take r.size).map fun e => (e.fragment, e.cursor)).reverse.map (·.1)) =
        ((es.take r.size).map (·.fragment)).reverse := by
      rw [List.map_reverse, List.map_map]
      rfl
    rw [Entry.top_taken, hparts, ← hnode] at hway''
    exact hway''

end Stacks

namespace Entry

theorem states_drop {es : List Entry} {n : Nat} (h : n ≤ es.length) :
    (states es).drop n = states (es.drop n) := by
  rw [states, List.drop_append_of_le_length (by simpa using h), states, List.map_drop]

/-- What is left of the states of a stack tells how many entries it has. -/
theorem le_length_of_drop {es : List Entry} {n base : Nat} {below : List Nat}
    (h : (states es).drop n = base :: below) : n ≤ es.length := by
  refine Nat.le_of_not_lt fun hlt => ?_
  rw [List.drop_eq_nil_of_le (by simpa [states] using Nat.succ_le_of_lt hlt)] at h
  cases h

end Entry

/-! ## Taking a token -/

namespace Progress

variable {p q : Progress} {text : List Char} {layout : Option Layout} {es : List Entry}
  {l : Lookahead}

/-- Parsing has come, without a choice and without damage, to a stack of entries, with the layout
after the last layout token. -/
structure Stands (p : Progress) (text : List Char) (layout : Option Layout) (es : List Entry) :
    Prop where
  unfinished : p.finished = none
  branch : ∃ b, p.forks.branches = [b] ∧ b.standing = .active ∧ b.layout = layout ∧
    p.forks.Way text b.top es

theorem stands_ofText (text : List Char) : (ofText text).Stands text none [] :=
  ⟨rfl, ⟨0, .active, none, 0, none⟩, rfl, rfl, rfl, .start Nat.zero_lt_one rfl rfl rfl rfl⟩

theorem doMoves_again {p : Progress} {state : Nat} {last : Option Nat} {ms : List Move}
    (h : ms.all Move.isAgain = true) :
    p.doMoves 0 state l true last ms = .reduced p.forks last := by
  induction ms with
  | nil => rfl
  | cons m ms ih =>
      rw [List.all_cons, Bool.and_eq_true] at h
      cases m with
      | again s => exact ih h.2
      | shift _ | reduce _ | skip | recover | accept => cases h.1

namespace Stands

/-- The phrase that a single reduction makes. -/
theorem joins {r : Reduction} {ms : List Move} {state base : Nat} {below : List Nat}
    (h : p.Stands text layout es) (hdrop : (Entry.states es).drop r.size = base :: below)
    (hms : ms.all Move.isAgain = true) (hhead : r.head < errorPiece) :
    ∃ t, p.doMoves 0 state l false none (.reduce r :: ms) = .reduced t (some 1) ∧
      Stands { p with forks := t.renumber 1 0 } text layout
        (Entry.join text es (r, next base r.head)) := by
  obtain ⟨b, hb, -, hlayout, hway⟩ := h.branch
  have hsize := Entry.le_length_of_drop hdrop
  rw [Entry.states_drop hsize] at hdrop
  have hpiece : r.head ≠ errorPiece := Nat.ne_of_lt hhead
  have herror : r.head ≠ error := Nat.ne_of_lt (Nat.lt_succ_of_lt hhead)
  obtain ⟨t, b', hreduce, hb', hactive, hlayout', hway'⟩ :=
    Stacks.reduce_eq hb hway hsize herror hpiece (by rw [hdrop]; rfl)
  refine ⟨t, ?_, h.unfinished, b', hb', hactive, hlayout'.trans hlayout, hway'⟩
  rw [doMoves, hreduce]
  exact doMoves_again hms

/-- The only branch, and the state on top of its stack. -/
theorem exists_branch (h : p.Stands text layout es) {state : Nat} {below : List Nat}
    (hstates : Entry.states es = state :: below) :
    ∃ b, p.forks.branches[0]? = some b ∧ (p.forks.topNode b).state = state := by
  obtain ⟨b, hb, -, -, hway⟩ := h.branch
  have hstate := hway.state_eq
  rw [hstates] at hstate
  exact ⟨b, by rw [hb]; rfl, (Option.some.inj hstate).symm⟩

/-- Advancing by a token whose moves are planned makes the phrases of the plan and comes to its
last move. -/
theorem advanceWith_eq {n fuel : Nat} {js : List (Reduction × Nat)} {m : Move}
    (h : p.Stands text layout es) (hsymbol : l.token.symbol ≠ error)
    (hplan : plan l.token.symbol n (Entry.states es) = some (js, m)) (hn : n ≤ fuel) :
    ∃ q : Progress, q.Stands text layout (js.foldl (Entry.join text) es) ∧
      (∀ s, m = .shift s →
        advanceWith 0 fuel p l = .done { q with forks := q.forks.shift 0 l s false }) ∧
      (m = .accept → advanceWith 0 fuel p l = .done (q.accept 0 l)) := by
  induction n generalizing p es fuel js m with
  | zero => cases hplan
  | succ n ih =>
      obtain ⟨fuel, rfl⟩ : ∃ k, fuel = k + 1 := ⟨fuel - 1, by omega⟩
      obtain ⟨state, below, hstates⟩ : ∃ state below, Entry.states es = state :: below := by
        cases es <;> exact ⟨_, _, rfl⟩
      rw [hstates] at hplan
      obtain ⟨b, hb, hstate⟩ := h.exists_branch hstates
      rw [advanceWith]
      simp only [hb, hstate, if_neg hsymbol]
      cases plan_eq_some_iff.1 hplan with
      | shift hm =>
          refine ⟨p, h, fun s' hs => ?_, fun hs => by cases hs⟩
          obtain rfl := Move.shift.inj hs
          rw [hm]
          rfl
      | accept hm =>
          refine ⟨p, h, fun s' hs => (by cases hs), fun _ => ?_⟩
          rw [hm]
          rfl
      | @reduce r ms base rest x hm hdrop hagain hhead hrest =>
          rw [← hstates] at hdrop
          obtain ⟨t, hmoves, hjoined⟩ := h.joins (l := l) hdrop hagain hhead
          have hsize := Entry.le_length_of_drop hdrop
          have hstates' : Entry.states (Entry.join text es (r, next base r.head)) =
              next base r.head :: base :: rest := by
            rw [Entry.join, ← hdrop, Entry.states_drop hsize]
            rfl
          rw [← hstates'] at hrest
          obtain ⟨q, hq, hshift, haccept⟩ := ih hjoined hrest (Nat.le_of_succ_le_succ hn)
          rw [hm, hmoves]
          exact ⟨q, hq, hshift, haccept⟩

/-- Taking an undamaged token. -/
theorem shift {s : Nat} (h : p.Stands text layout es) (hf : l.token.Sound) :
    Stands { p with forks := p.forks.shift 0 l s false } text
      (l.token.reading.layout <|> layout) (⟨s, l.after, l.token⟩ :: es) := by
  obtain ⟨b, hb, hactive, hlayout, hway⟩ := h.branch
  have hpart : l.token.setExtra false = l.token := by
    have hextra := hf.part
    cases ht : l.token with
    | mk r ps =>
        rw [ht] at hextra
        cases r
        cases hextra
        rfl
  obtain ⟨t, hpush, ht, hway'⟩ := Stacks.push_eq l.after s
    (show p.forks.branches[0]? = some b by rw [hb]; rfl) hway hf
  rw [hb] at ht
  refine ⟨h.unfinished, ?_⟩
  dsimp only
  rw [Stacks.shift, hpart, hpush]
  cases hl : l.token.reading.layout with
  | none => exact ⟨_, ht, hactive, hlayout, hway'⟩
  | some lay =>
      refine ⟨{ b with top := p.forks.count, layout := some lay }, ?_, hactive, rfl, ?_⟩
      · dsimp only
        rw [Stacks.modify, ht]
        rfl
      · exact hway'.mono ⟨Nat.le_refl _, fun _ _ => rfl⟩

/-- The end of the text completes the reading. -/
theorem accept {whole : Fragment} (h : p.Stands text layout es)
    (hwhole : wholeOf ((es.map (·.fragment)).reverse ++ [l.token]) = some whole) :
    (p.accept 0 l).finished = some whole ∧
      ∃ b, (p.accept 0 l).forks.branches = [b] ∧ b.standing = .halted := by
  obtain ⟨b, hb, -, -, hway⟩ := h.branch
  obtain ⟨t, b', j, hpush, ht, hpop⟩ :=
    Stacks.popAll_push l.token l.after startState hb hway
  have halong : (((es.map fun e => (e.fragment, e.cursor)).reverse ++ [(l.token, l.after)]).map
      (·.1)) = (es.map (·.fragment)).reverse ++ [l.token] := by
    simp [Function.comp_def]
  rw [Progress.accept, hpush, hpop]
  simp only [List.filterMap_cons, halong, hwhole, List.filterMap_nil, List.foldl_cons,
    List.foldl_nil, h.unfinished]
  refine ⟨trivial, { b' with standing := .halted }, ?_, rfl⟩
  simp [Stacks.withBranch, Stacks.remove, Stacks.halt, Stacks.modify, ht]

end Stands

/-! ## Reading a whole text -/

/-- The next token of a stack of entries, after undamaged text. -/
def nextToken (text : List Char) (layout : Option Layout) (es : List Entry) : Lookahead :=
  Place.lex ⟨(Entry.states es).headD 0, layout, true⟩ (Entry.top text es)

/-- The most phrases that are made before a token is taken. -/
def maxJoins : Nat := 32

/-- Tokens are taken one after another, `n` of them, each as the grammar plans it. -/
inductive Reads (text : List Char) :
    Nat → Option Layout → List Entry → Option Layout → List Entry → Prop where
  | done {layout : Option Layout} {es : List Entry} : Reads text 0 layout es layout es
  | token {n s : Nat} {layout layout' : Option Layout} {es es' : List Entry} {l : Lookahead}
      {js : List (Reduction × Nat)} (hlex : nextToken text layout es = l) (sound : l.token.Sound)
      (hsymbol : l.token.symbol ≠ error)
      (hplan : plan l.token.symbol maxJoins (Entry.states es) = some (js, .shift s))
      (rest : Reads text n (l.token.reading.layout <|> layout)
        (⟨s, l.after, l.token⟩ :: js.foldl (Entry.join text) es) layout' es') :
      Reads text (n + 1) layout es layout' es'

/-- The text ends after a stack of entries, and they make up a reading of the whole. -/
structure Completes (text : List Char) (layout : Option Layout) (es : List Entry)
    (whole : Fragment) : Prop where
  symbol : (nextToken text layout es).token.symbol ≠ error
  plans : ∃ js, plan (nextToken text layout es).token.symbol maxJoins (Entry.states es) =
      some (js, .accept) ∧
    wholeOf (((js.foldl (Entry.join text) es).map (·.fragment)).reverse ++
      [(nextToken text layout es).token]) = some whole

/-- The reading of the whole is complete, and no other is in progress. -/
structure Done (p : Progress) (whole : Fragment) : Prop where
  finished : p.finished = some whole
  branch : ∃ b, p.forks.branches = [b] ∧ b.standing = .halted

/-- Taking the next token. -/
theorem Reads.take {l : Lookahead} {s : Nat} {js : List (Reduction × Nat)}
    (hlex : nextToken text layout es = l) (sound : l.token.Sound) (hsymbol : l.token.symbol ≠ error)
    (hplan : plan l.token.symbol maxJoins (Entry.states es) = some (js, .shift s)) :
    Reads text 1 layout es (l.token.reading.layout <|> layout)
      (⟨s, l.after, l.token⟩ :: js.foldl (Entry.join text) es) :=
  .token hlex sound hsymbol hplan .done

theorem Reads.trans {m n : Nat} {layout layout' layout'' : Option Layout}
    {es es' es'' : List Entry} (h : Reads text m layout es layout' es')
    (h' : Reads text n layout' es' layout'' es'') : Reads text (m + n) layout es layout'' es'' := by
  induction h with
  | done => rwa [Nat.zero_add]
  | token hlex sound hsymbol hplan _ ih =>
      rw [Nat.succ_add_eq_add_succ, Nat.add_succ]
      exact .token hlex sound hsymbol hplan (ih h')

section

variable {layout' : Option Layout} {es' : List Entry} {whole : Fragment} {n fuel last : Nat}

theorem Stands.lookahead_eq (h : p.Stands text layout es) {b : Branch}
    (hb : p.forks.branches = [b]) : p.lookahead b = nextToken text layout es := by
  obtain ⟨b', hb', -, hlayout, hway⟩ := h.branch
  obtain rfl : b = b' := by simpa [hb] using hb'
  have hadvanced : p.forks.hasAdvanced b = true := by
    rw [Stacks.hasAdvanced, show (p.forks.topNode b).cost = 0 from hway.cost_eq]
    rfl
  have hstate : (Entry.states es).headD 0 = (p.forks.topNode b).state := by
    rw [List.headD_eq_head?_getD, hway.state_eq]
    rfl
  rw [Progress.lookahead, nextToken, hadvanced, hlayout, hstate, ← hway.cursor_eq]
  rfl

/-- Where parsing stands before `n` more tokens and the end of the text. -/
def Before (p : Progress) (text : List Char) (n : Nat) (whole : Fragment) : Prop :=
  ∃ layout es layout' es', p.Stands text layout es ∧ Reads text n layout es layout' es' ∧
    Completes text layout' es' whole

/-- One token of the only branch. -/
theorem Before.advance {b : Branch} (h : p.Before text n whole) (hb : p.forks.branches = [b])
    (hfuel : maxJoins ≤ fuel) :
    ∃ q, advanceWith 0 fuel p (p.lookahead b) = .done q ∧
      (q.Done whole ∨ ∃ m, n = m + 1 ∧ q.Before text m whole) := by
  obtain ⟨layout, es, layout', es', hp, hreads, hend⟩ := h
  rw [hp.lookahead_eq hb]
  cases hreads with
  | done =>
      obtain ⟨js, hplan, hwhole⟩ := hend.plans
      obtain ⟨q, hq, -, haccept⟩ := hp.advanceWith_eq hend.symbol hplan hfuel
      obtain ⟨hfinished, hhalted⟩ := hq.accept hwhole
      exact ⟨_, haccept rfl, .inl ⟨hfinished, hhalted⟩⟩
  | @token m s _ _ _ _ l js hlex sound hsymbol hplan rest =>
      obtain ⟨q, hq, hshift, -⟩ := hp.advanceWith_eq (hlex ▸ hsymbol) (hlex ▸ hplan) hfuel
      rw [hlex] at hshift ⊢
      exact ⟨_, hshift s rfl, .inr ⟨m, rfl, _, _, _, _, hq.shift sound, rest, hend⟩⟩

theorem Before.branch (h : p.Before text n whole) :
    ∃ b, p.forks.branches = [b] ∧ b.standing = .active := by
  obtain ⟨_, _, _, _, hp, _⟩ := h
  obtain ⟨b, hb, hactive, -⟩ := hp.branch
  exact ⟨b, hb, hactive⟩

/-- A branch that was given up is not advanced. -/
theorem Done.advanceBranch (h : p.Done whole) :
    Progress.advanceBranch 0 (fuel + 1) p last = (p, last) := by
  obtain ⟨b, hb, hhalted⟩ := h.branch
  rw [Progress.advanceBranch]
  simp [hb, hhalted, Standing.isActive]

/-- Advancing the only branch takes at least one token. -/
theorem Before.advanceBranch (last : Nat) (h : p.Before text n whole) (hfuel : n + 2 ≤ fuel) :
    (Progress.advanceBranch 0 fuel p last).1.Done whole ∨
      ∃ m, m < n ∧ (Progress.advanceBranch 0 fuel p last).1.Before text m whole := by
  induction n using Nat.strongRecOn generalizing p fuel with
  | ind n ih =>
      obtain ⟨b, hb, hactive⟩ := h.branch
      obtain ⟨q, hq, hresult⟩ := h.advance hb
        (show maxJoins ≤ 1000 + 10 * p.forks.count by unfold maxJoins; omega)
      obtain ⟨fuel, rfl⟩ : ∃ k, fuel = k + 1 := ⟨fuel - 1, by omega⟩
      obtain ⟨b', hb'⟩ : ∃ b', q.forks.branches = [b'] := by
        rcases hresult with hdone | ⟨m, -, hbefore⟩
        · exact ⟨_, hdone.branch.choose_spec.1⟩
        · exact ⟨_, hbefore.branch.choose_spec.1⟩
      have hstep : Progress.advanceBranch 0 (fuel + 1) p last =
          if last < (q.forks.topNode b').cursor.pos.byte then
            (q, (q.forks.topNode b').cursor.pos.byte)
          else Progress.advanceBranch 0 fuel q last := by
        rw [Progress.advanceBranch]
        simp [hb, hb', hactive, Standing.isActive, hq]
      rw [hstep]
      split
      · rcases hresult with hdone | ⟨m, rfl, hbefore⟩
        · exact .inl hdone
        · exact .inr ⟨m, Nat.lt_succ_self m, hbefore⟩
      · rcases hresult with hdone | ⟨m, rfl, hbefore⟩
        · obtain ⟨fuel, rfl⟩ : ∃ k, fuel = k + 1 := ⟨fuel - 1, by omega⟩
          rw [hdone.advanceBranch]
          exact .inl hdone
        · have hfuel' : m + 2 ≤ fuel := by omega
          rcases ih m (Nat.lt_succ_self m) hbefore hfuel' with hdone | ⟨k, hk, hbefore⟩
          · exact .inl hdone
          · exact .inr ⟨k, by omega, hbefore⟩

theorem advanceAll_one {b : Branch} {k : Nat} {q : Progress} {last' : Nat}
    (hb : p.forks.branches = [b]) (hq : Progress.advanceBranch 0 fuel p last = (q, last'))
    {b' : Branch} (hb' : q.forks.branches = [b']) :
    advanceAll fuel (k + 2) p 0 last = (q, last') := by
  rw [advanceAll, if_pos (by simp [hb]), hq]
  dsimp only
  rw [advanceAll, if_neg (by simp [hb'])]

/-! ### Ranking a single reading -/

theorem condense_active {b : Branch} (hb : p.forks.branches = [b])
    (hactive : b.standing = .active) : ∃ least, p.condense = (p, least) := by
  obtain ⟨⟨nodes, count, branches⟩, finished, finishes⟩ := p
  obtain rfl : branches = [b] := hb
  have hsettle : ∀ (mine : Rank) (n : Nat) (s : Stacks),
      Stacks.settle mine (n + 1) s 0 0 = (s, 1) := by
    intro mine n s
    rw [Stacks.settle, if_neg (Nat.lt_irrefl 0)]
  refine ⟨_, Prod.ext ?_ rfl⟩
  simp [condense, Stacks.order, hsettle, resume, hactive, Standing.isHalted, Stacks.maxBranches]

theorem condense_halted {b : Branch} (hb : p.forks.branches = [b])
    (hhalted : b.standing = .halted) :
    p.condense = ({ p with forks := { p.forks with branches := [] } }, none) := by
  obtain ⟨⟨nodes, count, branches⟩, finished, finishes⟩ := p
  obtain rfl : branches = [b] := hb
  simp [condense, Stacks.order, Stacks.remove, resume, hhalted, Standing.isHalted]

/-- **Parsing without a choice ends with the reading that the tokens make up.** -/
theorem Before.finished_run {rounds : Nat} (h : p.Before text n whole) (hrounds : n + 2 ≤ rounds)
    (hfuel : n + 2 ≤ fuel) : (run fuel rounds p last).finished = some whole := by
  induction n using Nat.strongRecOn generalizing p rounds last with
  | ind n ih =>
      obtain ⟨rounds, rfl⟩ : ∃ k, rounds = k + 1 := ⟨rounds - 1, by omega⟩
      obtain ⟨b, hb, -⟩ := h.branch
      obtain ⟨q, last', hq⟩ : ∃ q last', Progress.advanceBranch 0 fuel p last = (q, last') :=
        ⟨_, _, rfl⟩
      have hresult : q.Done whole ∨ ∃ m, m < n ∧ q.Before text m whole := by
        have hresult := h.advanceBranch last hfuel
        rwa [hq] at hresult
      have hfew : 2 * Stacks.maxBranches + fuel = 10 + fuel + 2 := by
        unfold Stacks.maxBranches
        omega
      rw [run, hfew]
      rcases hresult with hdone | ⟨m, hm, hbefore⟩
      · obtain ⟨b', hb', hhalted⟩ := hdone.branch
        rw [advanceAll_one hb hq hb']
        simp [condense_halted hb' hhalted, isComplete, hdone.finished]
      · obtain ⟨b', hb', hactive⟩ := hbefore.branch
        obtain ⟨least, hleast⟩ := condense_active hb' hactive
        have hopen : q.finished = none := by
          obtain ⟨_, _, _, _, hstands, _⟩ := hbefore
          exact hstands.unfinished
        rw [advanceAll_one hb hq hb']
        simp only [hleast, isComplete, hopen, hb', List.isEmpty_cons, Bool.or_self,
          Bool.false_eq_true, if_false]
        have hrounds' : m + 2 ≤ rounds := by omega
        have hfuel' : m + 2 ≤ fuel := by omega
        exact ih m hm hbefore hrounds' hfuel'

end

end Progress

end CellScript.Python
