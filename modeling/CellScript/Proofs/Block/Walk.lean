import CellScript.Proofs.Block.Guarded

set_option autoImplicit false

/-! # The walk finds what there is

`walk_eq_upTo` ties the walk with its stack to the reports of the trees on it, cut after the first
failure. `BlockIter` gives the same sequence one block at a time, and `BlockIter.answer_eq` says
what each call answers, those after the end included. `finds_complete` puts this together with what
the reports are: no guarded statement is lost and none is found twice. -/

namespace CellScript

open Python

/-! ## Cutting a list -/

/-- A list up to the first element that stops it, which is kept. -/
def upTo {α : Type} (stops : α → Bool) : List α → List α
  | [] => []
  | a :: as => a :: if stops a then [] else upTo stops as

section

variable {α β : Type} {stops : α → Bool}

theorem map_upTo (f : β → α) (bs : List β) :
    (upTo (fun b => stops (f b)) bs).map f = upTo stops (bs.map f) := by
  induction bs with
  | nil => rfl
  | cons b bs ih =>
      rw [upTo, List.map_cons, List.map_cons, upTo, ← ih]
      split <;> rfl

theorem upTo_isPrefix (as : List α) : upTo stops as <+: as := by
  induction as with
  | nil => exact List.prefix_refl []
  | cons a as ih =>
      rw [upTo]
      split
      · exact List.cons_prefix_cons.2 ⟨rfl, List.nil_prefix⟩
      · exact List.cons_prefix_cons.2 ⟨rfl, ih⟩

theorem upTo_eq_self {as : List α} (h : ∀ a ∈ as, stops a = false) : upTo stops as = as := by
  induction as with
  | nil => rfl
  | cons a as ih =>
      obtain ⟨ha, has⟩ := List.forall_mem_cons.1 h
      rw [upTo, ha, ih has]
      rfl

/-- The cut comes right after the first element that stops. -/
theorem upTo_append_cons {before after : List α} {a : α} (h : ∀ b ∈ before, stops b = false)
    (ha : stops a = true) : upTo stops (before ++ a :: after) = before ++ [a] := by
  induction before with
  | nil => rw [List.nil_append, upTo, if_pos ha, List.nil_append]
  | cons b before ih =>
      obtain ⟨hb, hbefore⟩ := List.forall_mem_cons.1 h
      rw [List.cons_append, upTo, hb, ih hbefore]
      rfl

/-- What the cut takes away comes after an element that stops. -/
theorem mem_upTo_or {as : List α} {a : α} (h : a ∈ as) :
    a ∈ upTo stops as ∨ ∃ b ∈ upTo stops as, stops b = true := by
  induction as with
  | nil => cases h
  | cons c as ih =>
      rw [upTo]
      rcases List.mem_cons.1 h with rfl | h
      · exact .inl List.mem_cons_self
      · split
        · rename_i hc
          exact .inr ⟨c, List.mem_cons_self, hc⟩
        · rcases ih h with ha | ⟨b, hb, hs⟩
          · exact .inl (List.mem_cons_of_mem _ ha)
          · exact .inr ⟨b, List.mem_cons_of_mem _ hb, hs⟩

/-- Only the last element of a cut list stops. -/
theorem not_stops_of_lt {as : List α} {a : α} {k j : Nat} (hk : (upTo stops as)[k]? = some a)
    (hs : stops a = true) (hj : k < j) : (upTo stops as)[j]? = none := by
  induction as generalizing k j with
  | nil => cases hk
  | cons c as ih =>
      rw [upTo] at hk ⊢
      cases j with
      | zero => omega
      | succ j =>
          split at hk
          · rename_i hc
            rw [if_pos hc]
            rfl
          · rename_i hc
            rw [if_neg hc]
            cases k with
            | zero => exact absurd (Option.some.inj hk ▸ hs) hc
            | succ k => exact ih hk (by omega)

end

/-! ## The walk and the reports -/

variable {ns source : Text}

namespace Visit

/-- What there is to find below a visit, without the places. -/
def finds (ns source : Text) (v : Visit) : List Find := (v.reports ns source).map Prod.snd

theorem map_snd_reportsFrom (i : Nat) (ts : List Tree) :
    (Python.Tree.reportsFrom ns source i ts).map Prod.snd =
      (visits ts).flatMap (finds ns source) := by
  induction ts generalizing i with
  | nil => rfl
  | cons t ts ih =>
      rw [Python.Tree.reportsFrom, visits, List.map_append, ih, List.flatMap_cons, List.map_map]
      rfl

theorem finds_of_meet {v : Visit} {f : Find} (h : (v.meet ns source).1 = some f) :
    v.finds ns source = [f] := by
  rw [finds, reports_of_meet h]
  rfl

theorem finds_of_meet_eq_none {v : Visit} (h : (v.meet ns source).1 = none) :
    v.finds ns source = (visits v.tree.children).flatMap (finds ns source) := by
  rw [finds, reports_of_meet_eq_none h, map_snd_reportsFrom]

/-- A visit either meets something and sends the walk nowhere, or sends it to the children. -/
theorem meet_cases (ns source : Text) (v : Visit) :
    (∃ f, v.meet ns source = (some f, [])) ∨
      v.meet ns source = (none, visits v.tree.children) := by
  cases v.outcome ns source with
  | failedText _ _ _ hm | discarded _ _ hm | block _ _ _ hm | failedBlock _ _ _ hm =>
      exact .inl ⟨_, hm⟩
  | below _ _ hm => exact .inr hm

theorem below_of_meet {v : Visit} {f : Find} {below : List Visit}
    (h : v.meet ns source = (some f, below)) : below = [] := by
  rcases v.meet_cases ns source with ⟨g, hm⟩ | hm
  · exact (Prod.mk.inj (h.symm.trans hm)).2
  · cases (Prod.mk.inj (h.symm.trans hm)).1

end Visit

/-- What there is to find below the visits on a stack. -/
def stackFinds (ns source : Text) (stack : List Visit) : List Find :=
  stack.flatMap (Visit.finds ns source)

theorem stackFinds_of_meet {v : Visit} {f : Find} {below : List Visit} (stack : List Visit)
    (h : v.meet ns source = (some f, below)) :
    stackFinds ns source (v :: stack) = f :: stackFinds ns source stack := by
  rw [stackFinds, List.flatMap_cons, Visit.finds_of_meet (by rw [h])]
  rfl

theorem stackFinds_of_meet_none {v : Visit} {below : List Visit} (stack : List Visit)
    (h : v.meet ns source = (none, below)) :
    stackFinds ns source (v :: stack) = stackFinds ns source (below ++ stack) := by
  rcases v.meet_cases ns source with ⟨f, hm⟩ | hm
  · rw [hm] at h
    cases h
  · obtain rfl : visits v.tree.children = below := by
      rw [hm] at h
      exact (Prod.mk.inj h).2
    rw [stackFinds, List.flatMap_cons, Visit.finds_of_meet_eq_none (by rw [h]), stackFinds,
      List.flatMap_append]

/-- **The walk meets the reports of its stack, cut after the first failure.** -/
theorem walk_eq_upTo {fuel : Nat} {stack : List Visit} (h : stackSize stack ≤ fuel) :
    walk ns source fuel stack = upTo Find.isFailure (stackFinds ns source stack) := by
  induction fuel generalizing stack with
  | zero =>
      cases stack with
      | nil => rfl
      | cons v stack =>
          -- a visit that is left would need a step
          have hpos : 0 < stackSize (v :: stack) := by
            rw [stackSize, Python.Tree.size_eq]
            omega
          omega
  | succ fuel ih =>
      cases stack with
      | nil => rfl
      | cons v stack =>
          rcases v.meet_cases ns source with ⟨f, hm⟩ | hm
          · have hlt := stackSize_lt_of_meet stack hm
            rw [List.nil_append] at hlt
            rw [stackFinds_of_meet stack hm, upTo, ← ih (by omega)]
            simp only [walk, hm, List.nil_append]
          · have hlt := stackSize_lt_of_meet stack hm
            rw [stackFinds_of_meet_none stack hm, ← ih (by omega)]
            simp only [walk, hm]

/-! ## One block at a time -/

namespace BlockIter

/-- The answers still to come. -/
def left (ns source : Text) (it : BlockIter) : List (Except CellError Block) :=
  if it.done then []
  else (upTo Find.isFailure (stackFinds ns source it.stack)).filterMap Find.answer?

theorem left_of_failed {v : Visit} {e : CellError} {below : List Visit} (stack : List Visit)
    (h : v.meet ns source = (some (.failed e), below)) :
    left ns source ⟨v :: stack, false⟩ = [.error e] := by
  rw [left, stackFinds_of_meet stack h]
  rfl

theorem left_of_block {v : Visit} {b : Block} {below : List Visit} (stack : List Visit)
    (h : v.meet ns source = (some (.block b), below)) :
    left ns source ⟨v :: stack, false⟩ = .ok b :: left ns source ⟨stack, false⟩ := by
  rw [left, stackFinds_of_meet stack h]
  rfl

theorem left_of_discarded {v : Visit} {line : Nat} {below : List Visit} (stack : List Visit)
    (h : v.meet ns source = (some (.discarded line), below)) :
    left ns source ⟨v :: stack, false⟩ = left ns source ⟨stack, false⟩ := by
  rw [left, stackFinds_of_meet stack h]
  rfl

theorem left_of_meet_none {v : Visit} {below : List Visit} (stack : List Visit)
    (h : v.meet ns source = (none, below)) :
    left ns source ⟨v :: stack, false⟩ = left ns source ⟨below ++ stack, false⟩ := by
  rw [left, stackFinds_of_meet_none stack h]
  rfl

/-- A call takes the first of the answers still to come. -/
theorem nextOf_eq (stack : List Visit) :
    (nextOf ns source stack).1 = (left ns source ⟨stack, false⟩).head? ∧
      (nextOf ns source stack).2.left ns source = (left ns source ⟨stack, false⟩).tail := by
  induction stack using nextOf.induct ns source with
  | case1 =>
      rw [nextOf]
      exact ⟨rfl, rfl⟩
  | case2 v stack e below hm =>
      rw [left_of_failed stack hm, nextOf, hm]
      exact ⟨rfl, rfl⟩
  | case3 v stack b below hm =>
      obtain rfl : below = [] := Visit.below_of_meet hm
      rw [left_of_block stack hm, nextOf, hm]
      exact ⟨rfl, rfl⟩
  | case4 v stack line below hm ih =>
      obtain rfl : below = [] := Visit.below_of_meet hm
      rw [left_of_discarded stack hm, nextOf, hm]
      exact ih
  | case5 v stack below hm ih =>
      rw [left_of_meet_none stack hm, nextOf, hm]
      exact ih

theorem next_eq (it : BlockIter) :
    (it.next ns source).1 = (it.left ns source).head? ∧
      (it.next ns source).2.left ns source = (it.left ns source).tail := by
  obtain ⟨stack, done⟩ := it
  cases done with
  | true => exact ⟨rfl, rfl⟩
  | false => exact nextOf_eq stack

/-- **Call by call the walk answers the blocks and the error in their order, then nothing.** -/
theorem answer_eq (it : BlockIter) (k : Nat) : it.answer ns source k = (it.left ns source)[k]? := by
  induction k generalizing it with
  | zero => rw [answer, it.next_eq.1, List.head?_eq_getElem?]
  | succ k ih => rw [answer, ih, it.next_eq.2, List.getElem?_tail]

theorem filterMap_answer?_upTo (fs : List Find) :
    (upTo Find.isFailure fs).filterMap Find.answer? =
      upTo (fun a => !a.isOk) (fs.filterMap Find.answer?) := by
  induction fs with
  | nil => rfl
  | cons f fs ih =>
      cases f with
      | discarded line => exact ih
      | block b => exact congrArg (Except.ok b :: ·) ih
      | failed e => rfl

/-- After an error every further call answers that there is nothing. -/
theorem answer_eq_none_of_error {it : BlockIter} {e : CellError} {k j : Nat}
    (h : it.answer ns source k = some (.error e)) (hj : k < j) : it.answer ns source j = none := by
  rw [answer_eq] at h ⊢
  unfold left at h ⊢
  split at h
  · cases h
  · -- the answers still to come are cut after their first error
    rename_i hdone
    rw [if_neg hdone, filterMap_answer?_upTo]
    rw [filterMap_answer?_upTo] at h
    exact not_stops_of_lt h rfl hj

end BlockIter

/-! ## Every guarded statement is accounted for -/

/-- A report is the only one at its place. -/
theorem filter_place_of_inOrder {rs : List Report} {p : Place} {f : Find} (h : InOrder rs)
    (hp : (p, f) ∈ rs) : rs.filter (·.1 = p) = [(p, f)] := by
  induction rs with
  | nil => cases hp
  | cons r rs ih =>
      obtain ⟨hr, hrs⟩ := List.pairwise_cons.1 h
      rcases List.mem_cons.1 hp with rfl | hp
      · have hnone : rs.filter (·.1 = p) = [] := by
          rw [List.filter_eq_nil_iff]
          intro s hs heq
          have happ := (hr s hs).apart.1
          rw [of_decide_eq_true heq] at happ
          exact happ (List.prefix_refl p)
        rw [List.filter_cons_of_pos (by simp), hnone]
      · have hne : ¬ r.1 = p := fun heq => (hr _ hp).apart.1 (heq ▸ List.prefix_refl r.1)
        rw [List.filter_cons_of_neg (by simpa using hne)]
        exact ih hrs hp

/-- The reports that a walk gets to. -/
def reportsMet (ns source : Text) (t : Tree) : List Report :=
  upTo (fun r => r.2.isFailure) (t.reports ns source [])

/-- What the reports of a walk over a tree say about the statements in it. -/
structure Accounted (ns source : Text) (t : Tree) (rs : List Report) : Prop where
  /-- Every block is that of a guarded `with` statement of the tree. -/
  block : ∀ p b, (p, .block b) ∈ rs → ∃ v, Visit.at? ⟨t, []⟩ p = some v ∧
    v.tree.kind = .withStatement ∧ Block.ofStatement? ns source v.tree v.after = .ok (some b)
  /-- The reports stand in the order of the text. -/
  inOrder : InOrder rs
  /-- Nothing is reported at or below the place of something else. -/
  apart : ∀ p q f g, (p, f) ∈ rs → (q, g) ∈ rs → p <+: q → (p, f) = (q, g)
  /-- A guarded statement is found once, or lies inside a block, or the walk fails. -/
  guarded : ∀ p v, Visit.at? ⟨t, []⟩ p = some v → v.tree.kind = .withStatement →
    (Guard.ofStatement? ns source v.tree).isSome →
    (∃ b, Block.ofStatement? ns source v.tree v.after = .ok (some b) ∧
      rs.filter (·.1 = p) = [(p, .block b)]) ∨
    (∃ q b, q <+: p ∧ q ≠ p ∧ (q, .block b) ∈ rs) ∨
    ∃ q e, (q, .failed e) ∈ rs
  /-- Text that fits nowhere and holds a guard call makes the walk fail where it gets to it. -/
  damaged : ∀ p v, Visit.at? ⟨t, []⟩ p = some v → v.tree.kind = .error →
    v.HoldsCall ns source →
    (∀ f, (p, f) ∈ rs → ∃ e, f = .failed e) ∧
    ((∃ q b, q <+: p ∧ q ≠ p ∧ (q, .block b) ∈ rs) ∨ ∃ q e, (q, .failed e) ∈ rs)

theorem mem_reports_of_met {t : Tree} {r : Report} (h : r ∈ reportsMet ns source t) :
    r ∈ Visit.reports ns source ⟨t, []⟩ :=
  (upTo_isPrefix _).subset h

/-- What a visit would meet is met there, or a report further up stands for it, or the walk fails
before. -/
theorem met_of_meet {t : Tree} {p : Place} {v : Visit} {f : Find}
    (hv : Visit.at? ⟨t, []⟩ p = some v) (hf : (v.meet ns source).1 = some f) :
    (p, f) ∈ reportsMet ns source t ∨
    (∃ q g, q <+: p ∧ q ≠ p ∧ (q, g) ∈ reportsMet ns source t) ∨
    ∃ q e, (q, .failed e) ∈ reportsMet ns source t := by
  have hfail : (∃ r ∈ reportsMet ns source t, r.2.isFailure = true) →
      ∃ q e, (q, .failed e) ∈ reportsMet ns source t := by
    rintro ⟨⟨q, g⟩, hr, hg⟩
    cases g with
    | failed e => exact ⟨q, e, hr⟩
    | discarded _ | block _ => cases hg
  rcases Visit.covered_of_meet hv hf with h | ⟨q, g, hq, hne, h⟩
  · rcases mem_upTo_or h with hm | hm
    · exact .inl hm
    · exact .inr (.inr (hfail hm))
  · rcases mem_upTo_or h with hm | hm
    · exact .inr (.inl ⟨q, g, hq, hne, hm⟩)
    · exact .inr (.inr (hfail hm))

/-- A report above a guard call is a block or an error, since text that is left out holds none. -/
theorem block_or_failed_above {t : Tree} {p q : Place} {v : Visit} {g : Find}
    (hv : Visit.at? ⟨t, []⟩ p = some v) (hc : v.HoldsCall ns source) (hq : q <+: p)
    (hg : (q, g) ∈ reportsMet ns source t) : (∃ b, g = .block b) ∨ ∃ e, g = .failed e := by
  cases g with
  | block b => exact .inl ⟨b, rfl⟩
  | failed e => exact .inr ⟨e, rfl⟩
  | discarded line =>
      -- then the text that is left out would hold the call
      obtain ⟨w, hw, hm⟩ := Visit.meet_of_mem_reports (mem_reports_of_met hg)
      obtain ⟨s, rfl⟩ := hq
      rw [Visit.at?_append, hw] at hv
      exact absurd (Visit.holdsCall_of_at? hv hc) (Visit.not_holdsCall_of_discarded hm)

/-- An error at a node with a guard call makes the walk fail, unless the node lies inside a
block. -/
theorem below_or_failed_of_failed {t : Tree} {p : Place} {v : Visit} {e : CellError}
    (hv : Visit.at? ⟨t, []⟩ p = some v) (hc : v.HoldsCall ns source)
    (hm : (v.meet ns source).1 = some (.failed e)) :
    (∃ q b, q <+: p ∧ q ≠ p ∧ (q, .block b) ∈ reportsMet ns source t) ∨
    ∃ q e, (q, .failed e) ∈ reportsMet ns source t := by
  rcases met_of_meet hv hm with h | ⟨q, g, hq, hne, h⟩ | h
  · exact .inr ⟨p, e, h⟩
  · rcases block_or_failed_above hv hc hq h with ⟨b, rfl⟩ | ⟨e', rfl⟩
    · exact .inl ⟨q, b, hq, hne, h⟩
    · exact .inr ⟨q, e', h⟩
  · exact .inr h

/-- A guarded statement that the walk should come to has its block, lies below one, or the walk
fails. -/
theorem met_of_guard {t : Tree} {p : Place} {v : Visit} (hv : Visit.at? ⟨t, []⟩ p = some v)
    (hk : v.tree.kind = .withStatement) (hguard : (Guard.ofStatement? ns source v.tree).isSome) :
    (∃ b, Block.ofStatement? ns source v.tree v.after = .ok (some b) ∧
      (p, .block b) ∈ reportsMet ns source t) ∨
    (∃ q b, q <+: p ∧ q ≠ p ∧ (q, .block b) ∈ reportsMet ns source t) ∨
    ∃ q e, (q, .failed e) ∈ reportsMet ns source t := by
  have hc : v.HoldsCall ns source := Guard.holdsCall_of_ofStatement? v.after hguard
  rcases Visit.meet_of_guard hk hguard with ⟨b, hs, hm⟩ | ⟨e, hm⟩
  · rcases met_of_meet hv hm with h | ⟨q, g, hq, hne, h⟩ | h
    · exact .inl ⟨b, hs, h⟩
    · rcases block_or_failed_above hv hc hq h with ⟨b, rfl⟩ | ⟨e, rfl⟩
      · exact .inr (.inl ⟨q, b, hq, hne, h⟩)
      · exact .inr (.inr ⟨q, e, h⟩)
    · exact .inr (.inr h)
  · exact .inr (below_or_failed_of_failed hv hc hm)

theorem accounted_reportsMet (ns source : Text) (t : Tree) :
    Accounted ns source t (reportsMet ns source t) := by
  have inOrder : InOrder (reportsMet ns source t) :=
    List.Pairwise.sublist (upTo_isPrefix _).sublist (t.inOrder_reports ns source [])
  refine ⟨?_, inOrder, fun p q f g => inOrder.apart, ?_, ?_⟩
  · intro p b h
    obtain ⟨v, hv, hm⟩ := Visit.meet_of_mem_reports (mem_reports_of_met h)
    exact ⟨v, hv, Visit.statement_of_block hm⟩
  · intro p v hv hk hguard
    rcases met_of_guard hv hk hguard with ⟨b, hs, h⟩ | h
    · exact .inl ⟨b, hs, filter_place_of_inOrder inOrder h⟩
    · exact .inr h
  · intro p v hv hk hc
    obtain ⟨e, hm⟩ := Visit.meet_of_error hk hc
    refine ⟨fun f hf => ?_, below_or_failed_of_failed hv hc hm⟩
    obtain ⟨w, hw, hwf⟩ := Visit.meet_of_mem_reports (mem_reports_of_met hf)
    cases Option.some.inj (hv.symm.trans hw)
    exact ⟨e, Option.some.inj (hwf.symm.trans hm)⟩

/-! ## The walk over a tree -/

theorem walk_eq_map_reportsMet (ns source : Text) (t : Tree) {fuel : Nat} (h : t.size ≤ fuel) :
    walk ns source fuel [⟨t, []⟩] = (reportsMet ns source t).map Prod.snd := by
  rw [walk_eq_upTo (by simpa [stackSize] using h), reportsMet, map_upTo]
  simp [stackFinds, Visit.finds, Visit.reports]

theorem finds_eq_map_reportsMet (ns source : Text) (t : Tree) :
    finds ns source t = (reportsMet ns source t).map Prod.snd :=
  walk_eq_map_reportsMet ns source t (Nat.le_refl _)

theorem BlockIter.left_ofTree (ns source : Text) (t : Tree) :
    (BlockIter.ofTree t).left ns source = (finds ns source t).filterMap Find.answer? := by
  rw [finds, walk_eq_upTo (by simp [stackSize])]
  rfl

theorem answer_ofTree (ns source : Text) (t : Tree) (k : Nat) :
    (BlockIter.ofTree t).answer ns source k = ((finds ns source t).filterMap Find.answer?)[k]? := by
  rw [BlockIter.answer_eq, BlockIter.left_ofTree]

/-- **The walk over a tree meets what the reports of the tree say, up to the first failure, however
it is asked; no guarded statement is lost, and none is found twice.** -/
theorem finds_complete (ns source : Text) (t : Tree) :
    let met := upTo (fun r => r.2.isFailure) (t.reports ns source [])
    finds ns source t = met.map Prod.snd ∧
    (∀ fuel, t.size ≤ fuel → walk ns source fuel [⟨t, []⟩] = finds ns source t) ∧
    (∀ k, (BlockIter.ofTree t).answer ns source k =
      (met.filterMap fun r => r.2.answer?)[k]?) ∧
    (∀ k j e, (BlockIter.ofTree t).answer ns source k = some (.error e) → k < j →
      (BlockIter.ofTree t).answer ns source j = none) ∧
    Accounted ns source t met := by
  have hfinds : finds ns source t = (reportsMet ns source t).map Prod.snd :=
    finds_eq_map_reportsMet ns source t
  refine ⟨hfinds, ?_, ?_, ?_, accounted_reportsMet ns source t⟩
  · intro fuel hfuel
    rw [walk_eq_map_reportsMet ns source t hfuel, hfinds]
  · intro k
    rw [answer_ofTree, hfinds, List.filterMap_map]
    rfl
  · intro k j e h hj
    exact BlockIter.answer_eq_none_of_error h hj

end CellScript
