import CellScript.Cell.Check
import CellScript.Proofs.Block.Reports
import Mathlib.Tactic.Tauto

set_option autoImplicit false

/-! # Misplaced statements

The search for a misplaced statement carries down what stands around a node. Here the same is said
of the node's place: `Tree.InFunction` and `Tree.InLoop` speak of its ancestors, and `Tree.Offends`
says which nodes are misplaced. `Surroundings.around` gives what the search carries to a place, step
by step, and `inFunction_around_top` and `inLoop_around_top` that this is what the ancestors say.

`first_of_firstMisplaced?` follows the search through a tree, `takeMisplaced?_singleton` says that a
loop over the nodes that are still to be searched does the same, and `firstMisplaced?_exact` what
they find: the first node that offends in the order in which a tree is written down, parents before
their children. -/

namespace CellScript

open Python

/-! ## Places in the order in which a tree is written down -/

namespace Place

/-- A place comes before another one: parents before their children, and these in their order. -/
def Precedes : Place → Place → Prop
  | [], _ :: _ => True
  | i :: p, j :: q => i < j ∨ i = j ∧ Precedes p q
  | _, [] => False

theorem not_precedes_nil (p : Place) : ¬ Precedes p [] := by cases p <;> simp [Precedes]

/-- Two places are the same, or one comes before the other. -/
theorem precedes_trichotomy (p q : Place) : Precedes p q ∨ p = q ∨ Precedes q p := by
  induction p generalizing q with
  | nil => cases q <;> simp [Precedes]
  | cons i p ih =>
      cases q with
      | nil => exact .inr (.inr trivial)
      | cons j q =>
          rcases Nat.lt_trichotomy i j with hij | rfl | hij
          · exact .inl (.inl hij)
          · rcases ih q with h | rfl | h
            · exact .inl (.inr ⟨rfl, h⟩)
            · exact .inr (.inl rfl)
            · exact .inr (.inr (.inr ⟨rfl, h⟩))
          · exact .inr (.inr (.inl hij))

end Place

/-! ## Offences -/

/-- Whether a node of a kind hides what stands around it from the statements inside. -/
def Python.Kind.IsScope (k : Kind) : Prop :=
  k = .functionDefinition ∨ k = .lambda ∨ k = .classDefinition

namespace Python.Tree

/-- The node at a place. -/
def at? (t : Tree) : CellScript.Place → Option Tree
  | [] => some t
  | i :: p =>
    match t.children[i]? with
    | some c => c.at? p
    | none => none

/-- Which child is the body. -/
def bodyIndex? (t : Tree) : Option Nat := t.children.findIdx? (·.label.role == some .body)

/-- No function, lambda or class has the place inside it; the node at the place may be one. -/
def Open (t : Tree) (p : CellScript.Place) : Prop :=
  ∀ q a, q <+: p → q ≠ p → t.at? q = some a → ¬ a.kind.IsScope

/-- Some node above the place stands in a relation to the child of it that leads there, with no
function, lambda or class in between. -/
def Reaches (r : Tree → Nat → Prop) (t : Tree) (p : CellScript.Place) : Prop :=
  ∃ q i rest a c, p = q ++ i :: rest ∧ t.at? q = some a ∧ r a i ∧
    a.children[i]? = some c ∧ c.Open rest

/-- Of the functions, lambdas and classes around the place the nearest is no class, and there is
one. -/
def InFunction : Tree → CellScript.Place → Prop :=
  Reaches fun a _ => a.kind = .functionDefinition ∨ a.kind = .lambda

/-- The place is in the body of a loop, with no function, lambda or class in between. -/
def InLoop : Tree → CellScript.Place → Prop :=
  Reaches fun a i => (a.kind = .forStatement ∨ a.kind = .whileStatement) ∧ a.bodyIndex? = some i

/-- A node may not stand at a place, for a reason. -/
def Offends (t : Tree) (p : CellScript.Place) (n : Tree) : Misplacement → Prop
  | .oldPrint => n.kind = .printStatement
  | .oldExec => n.kind = .execStatement
  | .returnOutside => n.kind = .returnStatement ∧ ¬ t.InFunction p
  | .yieldOutside => n.kind = .yield ∧ ¬ t.InFunction p
  | .breakOutside => n.kind = .breakStatement ∧ ¬ t.InLoop p
  | .continueOutside => n.kind = .continueStatement ∧ ¬ t.InLoop p

end Python.Tree

open Python.Tree

/-! ## What the search carries to a place -/

namespace Surroundings

/-- The surroundings of a child, given those of all siblings. -/
def ofChild (s : Surroundings) (loop : Bool) (ts : List Tree) (i : Nat) : Surroundings :=
  if loop = true ∧ ts.findIdx? (·.label.role == some .body) = some i then { s with inLoop := true }
  else s

/-- The surroundings of a place, given those of the root. -/
def around (s : Surroundings) (t : Tree) : Place → Surroundings
  | [] => s
  | i :: p =>
    match t.children[i]? with
    | some c => ((s.enter t.kind).ofChild (isLoop t.kind) t.children i).around c p
    | none => s

theorem around_cons {s : Surroundings} {t c : Tree} {i : Nat} (h : t.children[i]? = some c)
    (p : Place) :
    s.around t (i :: p) = ((s.enter t.kind).ofChild (isLoop t.kind) t.children i).around c p := by
  rw [around, h]

theorem ofChild_zero (s : Surroundings) (loop : Bool) (t : Tree) (ts : List Tree) :
    s.ofChild loop (t :: ts) 0 =
      if (loop && t.label.role == some .body) = true then { s with inLoop := true } else s := by
  rw [ofChild, List.findIdx?_cons]
  cases t.label.role == some Role.body <;> simp

theorem ofChild_succ (s : Surroundings) (loop : Bool) (t : Tree) (ts : List Tree) (i : Nat) :
    s.ofChild loop (t :: ts) (i + 1) =
      s.ofChild (loop && !(loop && t.label.role == some .body)) ts i := by
  rw [ofChild, ofChild, List.findIdx?_cons]
  cases t.label.role == some Role.body <;> cases loop <;> simp

theorem inFunction_enter (s : Surroundings) (k : Kind) :
    (s.enter k).inFunction = true ↔
      k = .functionDefinition ∨ k = .lambda ∨ s.inFunction = true ∧ ¬ k.IsScope := by
  unfold enter
  split <;> simp_all [Kind.IsScope]

theorem inLoop_enter (s : Surroundings) (k : Kind) :
    (s.enter k).inLoop = true ↔ s.inLoop = true ∧ ¬ k.IsScope := by
  unfold enter
  split <;> simp_all [Kind.IsScope]

theorem inFunction_ofChild (s : Surroundings) (loop : Bool) (ts : List Tree) (i : Nat) :
    (s.ofChild loop ts i).inFunction = s.inFunction := by
  unfold ofChild
  split <;> rfl

theorem inLoop_ofChild (s : Surroundings) (loop : Bool) (ts : List Tree) (i : Nat) :
    (s.ofChild loop ts i).inLoop = true ↔
      loop = true ∧ ts.findIdx? (·.label.role == some .body) = some i ∨ s.inLoop = true := by
  unfold ofChild
  split <;> simp_all

end Surroundings

/-! ## One step towards a place -/

section

variable {t c : Tree} {i : Nat}

theorem Python.Tree.at?_cons (h : t.children[i]? = some c) (p : CellScript.Place) :
    t.at? (i :: p) = c.at? p := by
  rw [at?, h]

theorem Python.Tree.open_nil (t : Tree) : t.Open [] := fun _ _ hq hne =>
  absurd (List.prefix_nil.1 hq) hne

theorem Python.Tree.open_cons (h : t.children[i]? = some c) (p : CellScript.Place) :
    t.Open (i :: p) ↔ ¬ t.kind.IsScope ∧ c.Open p := by
  constructor
  · intro hopen
    refine ⟨hopen [] t List.nil_prefix (List.cons_ne_nil i p).symm rfl, fun q a hq hne ha => ?_⟩
    exact hopen (i :: q) a (List.cons_prefix_cons.2 ⟨rfl, hq⟩) (fun heq => hne (List.cons.inj heq).2)
      ((at?_cons h q).trans ha)
  · rintro ⟨ht, hc⟩ q a hq hne ha
    cases q with
    | nil =>
        obtain rfl := Option.some.inj ha
        exact ht
    | cons j q =>
        obtain ⟨rfl, hbelow⟩ := List.cons_prefix_cons.1 hq
        exact hc q a hbelow (fun heq => hne (by rw [heq])) ((at?_cons h q).symm.trans ha)

theorem Python.Tree.not_reaches_nil (r : Tree → Nat → Prop) : ¬ t.Reaches r [] := by
  rintro ⟨q, i, rest, a, c, hp, -⟩
  exact List.append_ne_nil_of_right_ne_nil q (List.cons_ne_nil i rest) hp.symm

/-- A relation reaches past the root from the root itself or from a node below. -/
theorem Python.Tree.reaches_cons (h : t.children[i]? = some c) (r : Tree → Nat → Prop)
    (p : CellScript.Place) : t.Reaches r (i :: p) ↔ r t i ∧ c.Open p ∨ c.Reaches r p := by
  constructor
  · rintro ⟨q, j, rest, a, d, hp, ha, hr, hd, hrest⟩
    cases q with
    | nil =>
        obtain ⟨rfl, rfl⟩ := List.cons.inj hp
        obtain rfl := Option.some.inj ha
        obtain rfl := Option.some.inj (h.symm.trans hd)
        exact .inl ⟨hr, hrest⟩
    | cons k q =>
        obtain ⟨rfl, rfl⟩ := List.cons.inj hp
        exact .inr ⟨q, j, rest, a, d, rfl, (at?_cons h q).symm.trans ha, hr, hd, hrest⟩
  · rintro (⟨hr, hc⟩ | ⟨q, j, rest, a, d, rfl, ha, hr, hd, hrest⟩)
    · exact ⟨[], i, p, t, c, rfl, rfl, hr, h, hc⟩
    · exact ⟨i :: q, j, rest, a, d, rfl, (at?_cons h q).trans ha, hr, hd, hrest⟩

end

/-! ## The surroundings of a place are what its ancestors say -/

namespace Surroundings

variable {t n : Tree} {p : Place}

/-- The search knows of a function if one is around the place, or if one was around the root and
nothing below hides it. -/
theorem inFunction_around (s : Surroundings) (h : t.at? p = some n) :
    (s.around t p).inFunction = true ↔ t.InFunction p ∨ s.inFunction = true ∧ t.Open p := by
  induction p generalizing s t with
  | nil =>
      have hnot := t.not_reaches_nil fun a _ => a.kind = .functionDefinition ∨ a.kind = .lambda
      simp only [around, InFunction, hnot, t.open_nil, false_or, and_true]
  | cons i p ih =>
      cases hc : t.children[i]? with
      | none => simp [at?, hc] at h
      | some c =>
          rw [around_cons hc, ih _ ((at?_cons hc p).symm.trans h), inFunction_ofChild,
            inFunction_enter, InFunction, reaches_cons hc, open_cons hc]
          tauto

/-- The search knows of a loop if the place is in the body of one, or if the root was and nothing
below hides it. -/
theorem inLoop_around (s : Surroundings) (h : t.at? p = some n) :
    (s.around t p).inLoop = true ↔ t.InLoop p ∨ s.inLoop = true ∧ t.Open p := by
  induction p generalizing s t with
  | nil =>
      have hnot := t.not_reaches_nil fun a i =>
        (a.kind = .forStatement ∨ a.kind = .whileStatement) ∧ a.bodyIndex? = some i
      simp only [around, InLoop, hnot, t.open_nil, false_or, and_true]
  | cons i p ih =>
      cases hc : t.children[i]? with
      | none => simp [at?, hc] at h
      | some c =>
          have hloop : isLoop t.kind = true ↔
              t.kind = .forStatement ∨ t.kind = .whileStatement := by simp [isLoop]
          rw [around_cons hc, ih _ ((at?_cons hc p).symm.trans h), inLoop_ofChild, inLoop_enter,
            hloop, InLoop, reaches_cons hc, open_cons hc, bodyIndex?]
          tauto

theorem inFunction_around_top (h : t.at? p = some n) :
    (top.around t p).inFunction = true ↔ t.InFunction p := by
  rw [inFunction_around top h]
  simp [top]

theorem inLoop_around_top (h : t.at? p = some n) :
    (top.around t p).inLoop = true ↔ t.InLoop p := by
  rw [inLoop_around top h]
  simp [top]

/-- The search refuses a node for a reason exactly if it offends for that reason. -/
theorem refuses?_around_top (h : t.at? p = some n) (m : Misplacement) :
    (top.around t p).refuses? n.kind = some m ↔ t.Offends p n m := by
  have hfunction := inFunction_around_top h
  have hloop := inLoop_around_top h
  unfold refuses?
  cases m <;> simp only [Offends, ← hfunction, ← hloop] <;> split <;> simp_all

end Surroundings

/-! ## The search -/

/-- What a search gives is the first of what there is to find, if there is anything. -/
inductive First (r : Place → Misplacement → Tree → Prop) : Option (Misplacement × Tree) → Prop where
  | nothing (h : ∀ p m n, ¬ r p m n) : First r none
  | found {p : Place} {m : Misplacement} {n : Tree} (h : r p m n)
      (first : ∀ q m' n', Place.Precedes q p → ¬ r q m' n') : First r (some (m, n))

/-- The node at a place is refused in its surroundings, given those of the root. -/
def RefusedAt (s : Surroundings) (t : Tree) (p : Place) (m : Misplacement) (n : Tree) : Prop :=
  t.at? p = some n ∧ (s.around t p).refuses? n.kind = some m

/-- The same below siblings, given what surrounds them. -/
def RefusedIn (s : Surroundings) (loop : Bool) (ts : List Tree) (p : Place) (m : Misplacement)
    (n : Tree) : Prop :=
  ∃ i q c, p = i :: q ∧ ts[i]? = some c ∧ RefusedAt (s.ofChild loop ts i) c q m n

section

variable {s : Surroundings} {loop : Bool} {m : Misplacement} {n : Tree}

theorem not_refusedIn_nil (ts : List Tree) : ¬ RefusedIn s loop ts [] m n := by
  rintro ⟨i, q, c, hp, -⟩
  cases hp

theorem refusedIn_zero (t : Tree) (ts : List Tree) (p : Place) :
    RefusedIn s loop (t :: ts) (0 :: p) m n ↔
      RefusedAt (if (loop && t.label.role == some .body) = true then { s with inLoop := true } else s)
        t p m n := by
  rw [← Surroundings.ofChild_zero s loop t ts]
  constructor
  · rintro ⟨i, q, c, hp, hc, h⟩
    obtain ⟨rfl, rfl⟩ := List.cons.inj hp
    obtain rfl := Option.some.inj hc
    exact h
  · exact fun h => ⟨0, p, t, rfl, rfl, h⟩

theorem refusedIn_succ (t : Tree) (ts : List Tree) (i : Nat) (p : Place) :
    RefusedIn s loop (t :: ts) ((i + 1) :: p) m n ↔
      RefusedIn s (loop && !(loop && t.label.role == some .body)) ts (i :: p) m n := by
  constructor
  · rintro ⟨j, q, c, hp, hc, h⟩
    obtain ⟨rfl, rfl⟩ := List.cons.inj hp
    exact ⟨i, p, c, rfl, hc, Surroundings.ofChild_succ s loop t ts i ▸ h⟩
  · rintro ⟨j, q, c, hp, hc, h⟩
    obtain ⟨rfl, rfl⟩ := List.cons.inj hp
    exact ⟨i + 1, p, c, rfl, hc, (Surroundings.ofChild_succ s loop t ts i).symm ▸ h⟩

theorem refusedAt_cons (l : Label) (cs : List Tree) (i : Nat) (p : Place) :
    RefusedAt s (.node l cs) (i :: p) m n ↔
      RefusedIn (s.enter l.kind) (isLoop l.kind) cs (i :: p) m n := by
  constructor
  · rintro ⟨hn, h⟩
    cases hc : cs[i]? with
    | none => simp [at?, Tree.children, hc] at hn
    | some c =>
        rw [at?_cons (t := .node l cs) hc] at hn
        rw [Surroundings.around_cons (t := .node l cs) hc] at h
        exact ⟨i, p, c, rfl, hc, hn, h⟩
  · rintro ⟨j, q, c, hp, hc, hn, h⟩
    obtain ⟨rfl, rfl⟩ := List.cons.inj hp
    refine ⟨(at?_cons (t := .node l cs) hc p).trans hn, ?_⟩
    rw [Surroundings.around_cons (t := .node l cs) hc]
    exact h

end

mutual

/-- The search through a tree gives the first node that is refused in its surroundings. -/
theorem first_of_firstMisplaced? (s : Surroundings) (t : Tree) :
    First (RefusedAt s t) (firstMisplaced? s t) := by
  cases t with
  | node l cs =>
      rw [firstMisplaced?]
      cases hm : s.refuses? l.kind with
      | some m =>
          exact .found (p := []) ⟨rfl, hm⟩ fun q _ _ hq => absurd hq (Place.not_precedes_nil q)
      | none =>
          -- the node itself is not refused, so it comes down to its children
          have hroot : ∀ m n, ¬ RefusedAt s (.node l cs) [] m n := by
            rintro m n ⟨hn, h⟩
            obtain rfl := Option.some.inj hn
            exact absurd (hm.symm.trans h) (by simp)
          have hbelow := first_of_firstMisplacedOf? (s.enter l.kind) (isLoop l.kind) cs
          have hiff : ∀ p m n, RefusedAt s (.node l cs) p m n ↔
              RefusedIn (s.enter l.kind) (isLoop l.kind) cs p m n := by
            intro p m n
            cases p with
            | nil => exact iff_of_false (hroot m n) (not_refusedIn_nil cs)
            | cons i p => exact refusedAt_cons l cs i p
          rwa [show RefusedAt s (.node l cs) = RefusedIn (s.enter l.kind) (isLoop l.kind) cs from
            funext fun p => funext fun m => funext fun n => propext (hiff p m n)]

/-- The search through siblings gives the first node below them that is refused. -/
theorem first_of_firstMisplacedOf? (s : Surroundings) (loop : Bool) (ts : List Tree) :
    First (RefusedIn s loop ts) (firstMisplacedOf? s loop ts) := by
  cases ts with
  | nil =>
      refine .nothing ?_
      rintro p m n ⟨i, q, c, -, hc, -⟩
      cases hc
  | cons t ts =>
      rw [firstMisplacedOf?]
      have hhead := first_of_firstMisplaced?
        (if (loop && t.label.role == some .body) = true then { s with inLoop := true } else s) t
      have htail := first_of_firstMisplacedOf? s
        (loop && !(loop && t.label.role == some .body)) ts
      generalize firstMisplaced? _ t = x at hhead ⊢
      generalize firstMisplacedOf? s _ ts = y at htail ⊢
      cases hhead with
      | found h first =>
          rename_i p m n
          refine .found (p := 0 :: p) ((refusedIn_zero t ts p).2 h) fun q m' n' hq hr => ?_
          obtain ⟨j, q, c, rfl, -⟩ := id hr
          obtain hlt | ⟨rfl, hq⟩ := hq
          · exact absurd hlt (Nat.not_lt_zero j)
          · exact first q m' n' hq ((refusedIn_zero t ts q).1 hr)
      | nothing hnone =>
          cases htail with
          | nothing hnone' =>
              refine .nothing fun p m n hr => ?_
              obtain ⟨j, q, c, rfl, -⟩ := id hr
              cases j with
              | zero => exact hnone q m n ((refusedIn_zero t ts q).1 hr)
              | succ j => exact hnone' _ m n ((refusedIn_succ t ts j q).1 hr)
          | found h first =>
              rename_i p m n
              obtain ⟨i, p, c, rfl, -⟩ := id h
              refine .found (p := (i + 1) :: p) ((refusedIn_succ t ts i p).2 h)
                fun q m' n' hq hr => ?_
              obtain ⟨j, q, c, rfl, -⟩ := id hr
              cases j with
              | zero => exact hnone q m' n' ((refusedIn_zero t ts q).1 hr)
              | succ j =>
                  refine first (j :: q) m' n' ?_ ((refusedIn_succ t ts j q).1 hr)
                  obtain hlt | ⟨heq, hq⟩ := hq
                  · exact .inl (Nat.lt_of_succ_lt_succ hlt)
                  · exact .inr ⟨Nat.succ.inj heq, hq⟩

end

/-! ## The search as a loop -/

/-- A search through siblings is one through each of them, with what stands around it. -/
theorem firstMisplacedOf?_eq_findSome? (s : Surroundings) (loop : Bool) (ts : List Tree) :
    firstMisplacedOf? s loop ts = (s.within loop ts).findSome? fun x => firstMisplaced? x.2 x.1 := by
  induction ts generalizing loop with
  | nil => rfl
  | cons t ts ih =>
      rw [firstMisplacedOf?, Surroundings.within, List.findSome?_cons, ih]
      dsimp only
      cases firstMisplaced? _ t <;> rfl

/-- Searching the children at once is searching them next. -/
theorem takeMisplaced?_eq_findSome? (todo : List (Tree × Surroundings)) :
    takeMisplaced? todo = todo.findSome? fun x => firstMisplaced? x.2 x.1 := by
  fun_induction takeMisplaced? todo with
  | case1 => rfl
  | case2 l cs s todo m hm => rw [List.findSome?_cons, firstMisplaced?, hm]
  | case3 l cs s todo hm ih =>
      rw [ih, List.findSome?_append, List.findSome?_cons, firstMisplaced?, hm,
        firstMisplacedOf?_eq_findSome?]
      dsimp only
      cases List.findSome? _ ((s.enter l.kind).within (isLoop l.kind) cs) <;> rfl

theorem takeMisplaced?_singleton (s : Surroundings) (t : Tree) :
    takeMisplaced? [(t, s)] = firstMisplaced? s t := by
  rw [takeMisplaced?_eq_findSome?, List.findSome?_singleton]

/-! ## What the search finds -/

/-- Only one node and one reason can be the first. -/
theorem First.eq_some_iff {r : Place → Misplacement → Tree → Prop}
    {x : Option (Misplacement × Tree)} (hx : First r x)
    (hr : ∀ p m n m' n', r p m n → r p m' n' → m = m' ∧ n = n') (m : Misplacement) (n : Tree) :
    x = some (m, n) ↔ ∃ p, r p m n ∧ ∀ q m' n', Place.Precedes q p → ¬ r q m' n' := by
  cases hx with
  | nothing h => simp [h]
  | found h first =>
      rename_i p m₀ n₀
      constructor
      · intro heq
        obtain ⟨rfl, rfl⟩ := Prod.mk.inj (Option.some.inj heq)
        exact ⟨p, h, first⟩
      · rintro ⟨p', h', first'⟩
        rcases Place.precedes_trichotomy p p' with hp | rfl | hp
        · exact absurd h (first' p m₀ n₀ hp)
        · obtain ⟨rfl, rfl⟩ := hr p _ _ _ _ h h'
          rfl
        · exact absurd h' (first p' m n hp)

theorem First.eq_none_iff {r : Place → Misplacement → Tree → Prop}
    {x : Option (Misplacement × Tree)} (hx : First r x) :
    x = none ↔ ∀ p m n, ¬ r p m n := by
  cases hx with
  | nothing h => simpa using h
  | found h first => exact ⟨nofun, fun hnone => absurd h (hnone _ _ _)⟩

/-- **The search for misplaced statements finds the first one, and finds none only if there is
none**, as a recursion and as a loop. A node offends by what it is and by its ancestors alone. -/
theorem firstMisplaced?_exact (t : Tree) :
    takeMisplaced? [(t, .top)] = firstMisplaced? .top t ∧
    (firstMisplaced? .top t = none ↔ ∀ p n m, t.at? p = some n → ¬ t.Offends p n m) ∧
    ∀ m n, firstMisplaced? .top t = some (m, n) ↔
      ∃ p, t.at? p = some n ∧ t.Offends p n m ∧
        ∀ q n' m', Place.Precedes q p → t.at? q = some n' → ¬ t.Offends q n' m' := by
  have hfirst := first_of_firstMisplaced? .top t
  have hiff : ∀ p m n, RefusedAt .top t p m n ↔ t.at? p = some n ∧ t.Offends p n m := fun p m n =>
    and_congr_right fun h => Surroundings.refuses?_around_top h m
  have hunique : ∀ p m n m' n', RefusedAt .top t p m n → RefusedAt .top t p m' n' →
      m = m' ∧ n = n' := by
    rintro p m n m' n' ⟨hn, hm⟩ ⟨hn', hm'⟩
    obtain rfl := Option.some.inj (hn.symm.trans hn')
    exact ⟨Option.some.inj (hm.symm.trans hm'), rfl⟩
  refine ⟨takeMisplaced?_singleton .top t, ?_, ?_⟩
  · rw [hfirst.eq_none_iff]
    simp only [hiff, not_and]
    exact ⟨fun h p n m => h p m n, fun h p m n => h p n m⟩
  · intro m n
    rw [hfirst.eq_some_iff hunique]
    simp only [hiff, not_and, and_assoc]
    exact exists_congr fun p => and_congr_right fun _ => and_congr_right fun _ =>
      ⟨fun h q n' m' => h q m' n', fun h q m' n' => h q n' m'⟩

/-- The `else` of a loop is in no loop of its own, but in the one around it. -/
example :
    (firstMisplaced? .top (Tree.ofText
      "for x in y:\n  while z:\n    pass\n  else:\n    break\nelse:\n  break\n".toList)).map
        (fun (m, n) => (m, n.start.row)) = some (.breakOutside, 6) := by
  decide +kernel

end CellScript
