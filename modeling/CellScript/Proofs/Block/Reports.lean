import CellScript.Block.Find
import Mathlib.Data.List.Pairwise

set_option autoImplicit false

/-! # What there is to find in a tree

`Python.Tree.reports` says by recursion on a syntax tree what a walk has to meet in it, without a
stack: text that fits nowhere gives its error or is left out, a `with` statement gives its block or
its error, and every other node what its children give, in the order of the text. Each report comes
with its `Place`, so that two equal blocks of one script are still told apart.

`Visit.meet_of_mem_reports` and `Visit.covered_of_meet` say which reports there are, and
`Python.Tree.inOrder_reports` that they stand in the order of the text, none inside another. -/

namespace CellScript

open Python

/-- The way from the root of a tree to a node: which child to take at each step. -/
abbrev Place := List Nat

/-- What is found at a place. -/
abbrev Report := Place × Find

/-! ## The reports of a tree -/

mutual

/-- What there is to find in a tree; `after` are the siblings after it. -/
def Python.Tree.reports (ns source : Text) (after : List Tree) : Tree → List Report
  | .node l cs =>
    if l.kind = .error then
      match errorOf? ns source (.node l cs) with
      | some e => [([], .failed e)]
      | none => [([], .discarded (l.start.row + 1))]
    else if l.kind = .withStatement then
      match Block.ofStatement? ns source (.node l cs) after with
      | .ok (some b) => [([], .block b)]
      | .ok none => reportsFrom ns source 0 cs
      | .error e => [([], .failed e)]
    else reportsFrom ns source 0 cs

/-- What there is to find in siblings, the first of which is child `i`. -/
def Python.Tree.reportsFrom (ns source : Text) (i : Nat) : List Tree → List Report
  | [] => []
  | t :: ts =>
    (t.reports ns source ts).map (Prod.map (i :: ·) id) ++ reportsFrom ns source (i + 1) ts

end

open Python.Tree (reportsFrom)

namespace Visit

/-- What there is to find below a visit. -/
def reports (ns source : Text) (v : Visit) : List Report := v.tree.reports ns source v.after

/-- The visit at a place below a visit. -/
def at? (v : Visit) : Place → Option Visit
  | [] => some v
  | i :: p =>
    match (visits v.tree.children)[i]? with
    | some w => w.at? p
    | none => none

@[simp] theorem at?_nil (v : Visit) : v.at? [] = some v := rfl

theorem at?_cons (v : Visit) (i : Nat) (p : Place) :
    v.at? (i :: p) = (visits v.tree.children)[i]?.bind (·.at? p) := by
  rw [at?]
  cases (visits v.tree.children)[i]? <;> rfl

theorem at?_append (v : Visit) (p q : Place) : v.at? (p ++ q) = (v.at? p).bind (·.at? q) := by
  induction p generalizing v with
  | nil => rfl
  | cons i p ih =>
      rw [List.cons_append, at?_cons, at?_cons]
      cases (visits v.tree.children)[i]? with
      | none => rfl
      | some w => exact ih w

/-- How a visit goes, with what it gives to the walk and to the reports. -/
inductive Outcome (ns source : Text) (v : Visit) : Prop where
  | failedText (e : CellError) (isError : v.tree.kind = .error)
      (error : errorOf? ns source v.tree = some e)
      (meet : v.meet ns source = (some (.failed e), []))
      (reports : v.reports ns source = [([], .failed e)])
  | discarded (isError : v.tree.kind = .error) (noError : errorOf? ns source v.tree = none)
      (meet : v.meet ns source = (some (.discarded (v.tree.start.row + 1)), []))
      (reports : v.reports ns source = [([], .discarded (v.tree.start.row + 1))])
  | block (b : Block) (isWith : v.tree.kind = .withStatement)
      (statement : Block.ofStatement? ns source v.tree v.after = .ok (some b))
      (meet : v.meet ns source = (some (.block b), []))
      (reports : v.reports ns source = [([], .block b)])
  | failedBlock (e : CellError) (isWith : v.tree.kind = .withStatement)
      (statement : Block.ofStatement? ns source v.tree v.after = .error e)
      (meet : v.meet ns source = (some (.failed e), []))
      (reports : v.reports ns source = [([], .failed e)])
  | below (noError : v.tree.kind ≠ .error)
      (statement : v.tree.kind = .withStatement →
        Block.ofStatement? ns source v.tree v.after = .ok none)
      (meet : v.meet ns source = (none, visits v.tree.children))
      (reports : v.reports ns source = reportsFrom ns source 0 v.tree.children)

theorem outcome (ns source : Text) (v : Visit) : v.Outcome ns source := by
  obtain ⟨⟨l, cs⟩, after⟩ := v
  by_cases he : l.kind = .error
  · cases herr : errorOf? ns source (.node l cs) with
    | some e =>
        refine .failedText e he herr ?_ ?_ <;>
          simp [meet, reports, Tree.reports, Tree.isError, Tree.kind, Tree.label, he, herr]
    | none =>
        refine .discarded he herr ?_ ?_ <;>
          simp [meet, reports, Tree.reports, Tree.isError, Tree.kind, Tree.label, Tree.start, he,
            herr]
  · by_cases hw : l.kind = .withStatement
    · cases hs : Block.ofStatement? ns source (.node l cs) after with
      | error e =>
          refine .failedBlock e hw hs ?_ ?_ <;>
            simp [meet, reports, Tree.reports, Tree.isError, Tree.kind, Tree.label, hw, hs]
      | ok found =>
          cases found with
          | some b =>
              refine .block b hw hs ?_ ?_ <;>
                simp [meet, reports, Tree.reports, Tree.isError, Tree.kind, Tree.label, hw, hs]
          | none =>
              refine .below he (fun _ => hs) ?_ ?_ <;>
                simp [meet, reports, Tree.reports, Tree.isError, Tree.kind, Tree.label,
                  Tree.children, hw, hs]
    · refine .below he (absurd · hw) ?_ ?_ <;>
        simp [meet, reports, Tree.reports, Tree.isError, Tree.kind, Tree.label, Tree.children, he,
          hw]

/-- What a visit meets is all that there is to report below it. -/
theorem reports_of_meet {ns source : Text} {v : Visit} {f : Find}
    (h : (v.meet ns source).1 = some f) : v.reports ns source = [([], f)] := by
  cases v.outcome ns source with
  | failedText e _ _ hm hr | failedBlock e _ _ hm hr =>
      rw [hm] at h
      rw [hr, Option.some.inj h]
  | discarded _ _ hm hr =>
      rw [hm] at h
      rw [hr, Option.some.inj h]
  | block b _ _ hm hr =>
      rw [hm] at h
      rw [hr, Option.some.inj h]
  | below _ _ hm _ =>
      rw [hm] at h
      cases h

theorem reports_of_meet_eq_none {ns source : Text} {v : Visit}
    (h : (v.meet ns source).1 = none) :
    v.reports ns source = reportsFrom ns source 0 v.tree.children := by
  cases v.outcome ns source with
  | failedText _ _ _ hm _ | failedBlock _ _ _ hm _ | block _ _ _ hm _ | discarded _ _ hm _ =>
      rw [hm] at h
      cases h
  | below _ _ _ hr => exact hr

end Visit

/-! ## Membership -/

theorem mem_reportsFrom {ns source : Text} {i : Nat} {ts : List Tree} {r : Report} :
    r ∈ reportsFrom ns source i ts ↔
      ∃ j w p, (visits ts)[j]? = some w ∧ (p, r.2) ∈ w.reports ns source ∧ r.1 = (i + j) :: p := by
  induction ts generalizing i with
  | nil => simp [Tree.reportsFrom, visits]
  | cons t ts ih =>
      simp only [Tree.reportsFrom, visits, List.mem_append, List.mem_map, ih]
      constructor
      · rintro (⟨⟨p, f⟩, hp, rfl⟩ | ⟨j, w, p, hw, hp, hr⟩)
        · exact ⟨0, ⟨t, ts⟩, p, rfl, hp, rfl⟩
        · exact ⟨j + 1, w, p, hw, hp, by rw [hr]; congr 1; omega⟩
      · rintro ⟨j, w, p, hw, hp, hr⟩
        cases j with
        | zero =>
            cases Option.some.inj hw
            exact .inl ⟨(p, r.2), hp, Prod.ext hr.symm rfl⟩
        | succ j => exact .inr ⟨j, w, p, hw, hp, by rw [hr]; congr 1; omega⟩

namespace Visit

variable {ns source : Text}

/-- Every report is what the visit at its place meets. -/
theorem meet_of_mem_reports {v : Visit} {p : Place} {f : Find}
    (h : (p, f) ∈ v.reports ns source) :
    ∃ w, v.at? p = some w ∧ (w.meet ns source).1 = some f := by
  induction p generalizing v with
  | nil =>
      refine ⟨v, rfl, ?_⟩
      cases hm : (v.meet ns source).1 with
      | some g =>
          rw [reports_of_meet hm, List.mem_singleton] at h
          rw [(Prod.mk.inj h).2]
      | none =>
          rw [reports_of_meet_eq_none hm, mem_reportsFrom] at h
          obtain ⟨_, _, _, _, _, hp⟩ := h
          cases hp
  | cons i p ih =>
      cases hm : (v.meet ns source).1 with
      | some g =>
          rw [reports_of_meet hm, List.mem_singleton] at h
          cases (Prod.mk.inj h).1
      | none =>
          rw [reports_of_meet_eq_none hm, mem_reportsFrom] at h
          obtain ⟨j, w, q, hw, hq, hp⟩ := h
          obtain ⟨rfl, rfl⟩ : i = 0 + j ∧ p = q := List.cons.inj hp
          obtain ⟨u, hu, hf⟩ := ih hq
          refine ⟨u, ?_, hf⟩
          rw [at?_cons, Nat.zero_add, hw]
          exact hu

/-- **Nothing is passed over.** What a visit at a place would meet is reported there, unless
something is reported further up. -/
theorem covered_of_meet {v w : Visit} {p : Place} {f : Find} (hw : v.at? p = some w)
    (hf : (w.meet ns source).1 = some f) :
    (p, f) ∈ v.reports ns source ∨ ∃ q g, q <+: p ∧ q ≠ p ∧ (q, g) ∈ v.reports ns source := by
  induction p generalizing v with
  | nil =>
      cases Option.some.inj hw
      rw [reports_of_meet hf]
      exact .inl (List.mem_singleton_self _)
  | cons i p ih =>
      cases hm : (v.meet ns source).1 with
      | some g =>
          -- the visit itself is reported, and nothing below it
          refine .inr ⟨[], g, List.nil_prefix, (List.cons_ne_nil i p).symm, ?_⟩
          rw [reports_of_meet hm]
          exact List.mem_singleton_self _
      | none =>
          rw [reports_of_meet_eq_none hm]
          rw [at?_cons] at hw
          obtain ⟨u, hu, hw⟩ := Option.bind_eq_some_iff.1 hw
          rcases ih hw with h | ⟨q, g, hq, hne, h⟩
          · exact .inl (mem_reportsFrom.2 ⟨i, u, p, hu, h, by rw [Nat.zero_add]⟩)
          · refine .inr ⟨i :: q, g, (List.cons_prefix_cons).2 ⟨rfl, hq⟩, ?_, ?_⟩
            · exact fun h => hne (List.cons.inj h).2
            · exact mem_reportsFrom.2 ⟨i, u, q, hu, h, by rw [Nat.zero_add]⟩

end Visit

/-! ## Reports are in order -/

namespace Place

/-- A place lies before another, and neither is below the other. -/
def Before : Place → Place → Prop
  | i :: p, j :: q => i < j ∨ i = j ∧ Before p q
  | _, _ => False

theorem Before.cons {p q : Place} (i : Nat) (h : Before p q) : Before (i :: p) (i :: q) :=
  .inr ⟨rfl, h⟩

theorem before_of_lt {i j : Nat} (p q : Place) (h : i < j) : Before (i :: p) (j :: q) := .inl h

/-- Of two places that lie one before the other, neither is at or below the other. -/
theorem Before.apart {p q : Place} (h : Before p q) : ¬ p <+: q ∧ ¬ q <+: p := by
  induction p generalizing q with
  | nil => exact absurd h (by simp [Before])
  | cons i p ih =>
      cases q with
      | nil => exact absurd h (by simp [Before])
      | cons j q =>
          rw [List.cons_prefix_cons, List.cons_prefix_cons]
          rcases h with hlt | ⟨rfl, h⟩
          · exact ⟨fun hp => Nat.ne_of_lt hlt hp.1, fun hq => Nat.ne_of_gt hlt hq.1⟩
          · exact ⟨fun hp => (ih h).1 hp.2, fun hq => (ih h).2 hq.2⟩

theorem Before.asymm {p q : Place} (h : Before p q) : ¬ Before q p := by
  induction p generalizing q with
  | nil => exact absurd h (by simp [Before])
  | cons i p ih =>
      cases q with
      | nil => exact absurd h (by simp [Before])
      | cons j q =>
          rintro (hlt' | ⟨rfl, h'⟩) <;> rcases h with hlt | ⟨heq, h⟩
          · omega
          · omega
          · omega
          · exact ih h h'

end Place

/-- Reports stand in the order of the text, none of them at or below the place of another. -/
def InOrder (rs : List Report) : Prop := rs.Pairwise fun r s => Place.Before r.1 s.1

mutual

theorem Python.Tree.inOrder_reports (ns source : Text) (after : List Tree) (t : Tree) :
    InOrder (t.reports ns source after) := by
  cases t with
  | node l cs =>
      cases hm : (Visit.meet ns source ⟨.node l cs, after⟩).1 with
      | some f =>
          have hr := Visit.reports_of_meet hm
          rw [Visit.reports] at hr
          rw [hr]
          exact List.pairwise_singleton _ _
      | none =>
          have hr := Visit.reports_of_meet_eq_none hm
          rw [Visit.reports] at hr
          rw [hr]
          exact Python.Tree.inOrder_reportsFrom ns source 0 cs

theorem Python.Tree.inOrder_reportsFrom (ns source : Text) (i : Nat) (ts : List Tree) :
    InOrder (reportsFrom ns source i ts) := by
  cases ts with
  | nil => exact List.Pairwise.nil
  | cons t ts =>
      refine List.pairwise_append.2 ⟨?_, ?_, ?_⟩
      · exact List.Pairwise.map _ (fun _ _ h => h.cons i)
          (Python.Tree.inOrder_reports ns source ts t)
      · exact Python.Tree.inOrder_reportsFrom ns source (i + 1) ts
      · -- what is below the first child comes before what is below a later one
        intro r hr s hs
        obtain ⟨r', _, rfl⟩ := List.mem_map.1 hr
        obtain ⟨j, _, p, _, _, hp⟩ := mem_reportsFrom.1 hs
        rw [hp]
        exact Place.before_of_lt _ _ (by omega)

end

theorem InOrder.apart {rs : List Report} (h : InOrder rs) {p q : Place} {f g : Find}
    (hp : (p, f) ∈ rs) (hq : (q, g) ∈ rs) (hpq : p <+: q) : (p, f) = (q, g) := by
  induction rs with
  | nil => cases hp
  | cons r rs ih =>
      obtain ⟨hr, hrs⟩ := List.pairwise_cons.1 h
      rcases List.mem_cons.1 hp with hp | hp <;> rcases List.mem_cons.1 hq with hq | hq
      · rw [hp, hq]
      · exact absurd hpq ((hp ▸ hr _ hq).apart.1)
      · exact absurd hpq ((hq ▸ hr _ hp).apart.2)
      · exact ih hrs hp hq

end CellScript
