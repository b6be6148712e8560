import CellScript.Proofs.Block.Reports
import CellScript.Proofs.Except

set_option autoImplicit false

/-! # Guarded statements are reported

The guard of a `with` statement is a call below it, `Guard.holdsCall_of_ofStatement?`, and a call of
`Cell` or `Sandbox` below text that fits nowhere is always found there,
`guardRow?_isSome_of_holdsCall`. So no such text is left out with a guarded statement in it, and a
guarded statement that is visited gives its block or an error. `Visit.mem_reports_iff` says where
the reports are: at the outermost such places of a tree. -/

namespace CellScript

open Python

variable {ns source : Text}

/-! ## Children and their places -/

theorem exists_visits_of_mem {t : Tree} {ts : List Tree} (h : t ∈ ts) :
    ∃ (i : Nat) (after : List Tree), (visits ts)[i]? = some ⟨t, after⟩ := by
  induction ts with
  | nil => cases h
  | cons u us ih =>
      rcases List.mem_cons.1 h with rfl | h
      · exact ⟨0, us, rfl⟩
      · obtain ⟨i, after, hi⟩ := ih h
        exact ⟨i + 1, after, hi⟩

theorem mem_of_visits {ts : List Tree} {i : Nat} {w : Visit} (h : (visits ts)[i]? = some w) :
    w.tree ∈ ts := by
  induction ts generalizing i with
  | nil => cases h
  | cons u us ih =>
      cases i with
      | zero =>
          cases Option.some.inj h
          exact List.mem_cons_self
      | succ i => exact List.mem_cons_of_mem _ (ih h)

namespace Visit

/-- Some node at or below a visit is a guard call. -/
def HoldsCall (ns source : Text) (v : Visit) : Prop :=
  ∃ p w, v.at? p = some w ∧ (Guard.ofCall? ns source w.tree).isSome

theorem holdsCall_of_child {t u : Tree} {after : List Tree} (hu : u ∈ t.children)
    (h : ∀ after, HoldsCall ns source ⟨u, after⟩) : HoldsCall ns source ⟨t, after⟩ := by
  obtain ⟨i, after', hi⟩ := exists_visits_of_mem hu
  obtain ⟨p, w, hw, hc⟩ := h after'
  refine ⟨i :: p, w, ?_, hc⟩
  rw [at?_cons]
  exact Option.bind_eq_some_iff.2 ⟨_, hi, hw⟩

theorem holdsCall_of_at? {v w : Visit} {p : Place} (hw : v.at? p = some w)
    (h : w.HoldsCall ns source) : v.HoldsCall ns source := by
  obtain ⟨q, u, hu, hc⟩ := h
  refine ⟨p ++ q, u, ?_, hc⟩
  rw [at?_append, hw]
  exact hu

end Visit

/-! ## Looking for a guard call -/

theorem firstGuardRow?_isSome {ts : List Tree} :
    (firstGuardRow? ns source ts).isSome ↔ ∃ t ∈ ts, (guardRow? ns source t).isSome := by
  induction ts with
  | nil => simp [firstGuardRow?]
  | cons t ts ih => simp [firstGuardRow?, ih]

theorem guardRow?_isSome {t : Tree} :
    (guardRow? ns source t).isSome ↔
      (Guard.ofCall? ns source t).isSome ∨ ∃ u ∈ t.children, (guardRow? ns source u).isSome := by
  cases t with
  | node l cs =>
      rw [guardRow?]
      cases Guard.ofCall? ns source (.node l cs) with
      | some g => simp
      | none => simpa [Tree.children] using firstGuardRow?_isSome

/-- A guard call anywhere in a tree is found. -/
theorem guardRow?_isSome_of_holdsCall {v : Visit} (h : v.HoldsCall ns source) :
    (guardRow? ns source v.tree).isSome := by
  obtain ⟨p, w, hw, hc⟩ := h
  induction p generalizing v with
  | nil =>
      cases Option.some.inj hw
      exact guardRow?_isSome.2 (.inl hc)
  | cons i p ih =>
      rw [Visit.at?_cons] at hw
      obtain ⟨u, hu, hw⟩ := Option.bind_eq_some_iff.1 hw
      exact guardRow?_isSome.2 (.inr ⟨u.tree, mem_of_visits hu, ih hw⟩)

/-- Text with a guard call in it is never left out. -/
theorem errorOf?_isSome_of_holdsCall {v : Visit} (h : v.HoldsCall ns source) :
    (errorOf? ns source v.tree).isSome := by
  have hrow := guardRow?_isSome_of_holdsCall h
  simp [errorOf?, hrow]

/-! ## The guard of a statement -/

mutual

theorem Guard.holdsCall_of_inner (t u : Tree) (after : List Tree) (h : Guard.inner t = some u)
    (hc : (Guard.ofCall? ns source u).isSome) : Visit.HoldsCall ns source ⟨t, after⟩ := by
  cases t with
  | node l cs =>
      rw [Guard.inner] at h
      split at h
      · obtain ⟨c, hcs, hcall⟩ := Guard.holdsCall_of_innerFirst cs u h hc
        exact Visit.holdsCall_of_child hcs hcall
      · cases Option.some.inj h
        exact ⟨[], _, rfl, hc⟩

theorem Guard.holdsCall_of_innerFirst (ts : List Tree) (u : Tree)
    (h : Guard.innerFirst ts = some u) (hc : (Guard.ofCall? ns source u).isSome) :
    ∃ t ∈ ts, ∀ after, Visit.HoldsCall ns source ⟨t, after⟩ := by
  cases ts with
  | nil => cases h
  | cons t ts =>
      rw [Guard.innerFirst] at h
      split at h
      · exact ⟨t, List.mem_cons_self, fun after => Guard.holdsCall_of_inner t u after h hc⟩
      · obtain ⟨c, hcs, hcall⟩ := Guard.holdsCall_of_innerFirst ts u h hc
        exact ⟨c, List.mem_cons_of_mem _ hcs, hcall⟩

end

/-- The guard of a statement is a call below it. -/
theorem Guard.holdsCall_of_ofStatement? {t : Tree} (after : List Tree)
    (h : (Guard.ofStatement? ns source t).isSome) : Visit.HoldsCall ns source ⟨t, after⟩ := by
  rw [Guard.ofStatement?] at h
  obtain ⟨g, hg⟩ := Option.isSome_iff_exists.1 h
  obtain ⟨clause, hclause, hg⟩ := Option.bind_eq_some_iff.1 hg
  split at hg
  · rename_i item hitems
    obtain ⟨value, hvalue, hg⟩ := Option.bind_eq_some_iff.1 hg
    obtain ⟨call, hcall, hg⟩ := Option.bind_eq_some_iff.1 hg
    have hitem : item ∈ clause.children := by
      have hmem : item ∈ clause.phrases.filter (·.kind == .withItem) := by
        rw [hitems]
        exact List.mem_singleton_self item
      exact (List.mem_filter.1 (List.mem_filter.1 hmem).1).1
    refine Visit.holdsCall_of_child (List.mem_of_find?_eq_some hclause) fun _ => ?_
    refine Visit.holdsCall_of_child hitem fun _ => ?_
    refine Visit.holdsCall_of_child (List.mem_of_find?_eq_some hvalue) fun after => ?_
    exact Guard.holdsCall_of_inner value call after hcall (by rw [hg]; rfl)
  · cases hg

/-- The kind that a guard asks for; `line` is the line of its block. -/
def Guard.kind (source : Text) (line : Nat) : Guard → Except CellError CellKind
  | .sandbox => .ok .sandbox
  | .cell call => CellKind.ofCall source line call

/-- The row in which the opener of a statement ends. -/
def Python.Tree.colonRow (t : Tree) : Nat :=
  match t.children.find? (·.kind == .colon) with
  | some c => c.stop.row
  | none => t.start.row

theorem Block.ofStatement?_of_guard {t : Tree} {after : List Tree} {g : Guard}
    (h : Guard.ofStatement? ns source t = some g) :
    Block.ofStatement? ns source t after =
      (g.kind source (t.start.row + 1) >>= fun kind =>
        match t.part? .body with
        | none => .error (.malformed .noContent (t.start.row + 1))
        | some body =>
          if body.isMissing || body.phrases.isEmpty || t.children.any Tree.isError then
            .error (.malformed .noContent (t.start.row + 1))
          else if body.start.row = t.colonRow then
            .error (.malformed .contentOnOpener (t.start.row + 1))
          else
            .ok (some ⟨kind, ⟨t.start.row, t.colonRow + 1, lastRowWith body after,
              body.start.column⟩, body⟩)) := by
  rw [Block.ofStatement?, h]
  cases g <;> rfl

/-- A statement is a block exactly if it has a guard and an undamaged body that starts in a row of
its own. -/
theorem Block.ofStatement?_eq_ok_some_iff {t : Tree} {after : List Tree} {b : Block} :
    Block.ofStatement? ns source t after = .ok (some b) ↔
      (∃ g, Guard.ofStatement? ns source t = some g ∧
        g.kind source (t.start.row + 1) = .ok b.kind) ∧
      t.part? .body = some b.body ∧
      (b.body.isMissing || b.body.phrases.isEmpty || t.children.any Tree.isError) = false ∧
      b.body.start.row ≠ t.colonRow ∧
      b.span = ⟨t.start.row, t.colonRow + 1, lastRowWith b.body after, b.body.start.column⟩ := by
  cases hg : Guard.ofStatement? ns source t with
  | none => simp [Block.ofStatement?, hg]
  | some g =>
      rw [Block.ofStatement?_of_guard hg, bind_eq_ok]
      constructor
      · rintro ⟨kind, hkind, h⟩
        split at h
        · cases h
        · rename_i body hbody
          split at h
          · cases h
          · rename_i hwhole
            split at h
            · cases h
            · rename_i hrow
              obtain rfl := Option.some.inj (Except.ok.inj h)
              exact ⟨⟨g, rfl, hkind⟩, hbody, by simpa using hwhole, hrow, rfl⟩
      · rintro ⟨⟨g', hg', hkind⟩, hbody, hwhole, hrow, hspan⟩
        obtain rfl := Option.some.inj hg'
        refine ⟨b.kind, hkind, ?_⟩
        rw [hbody]
        dsimp only
        rw [if_neg (by simp [hwhole]), if_neg hrow, ← hspan]

/-- Only a statement without a guard is neither a block nor an error. -/
theorem Block.ofStatement?_eq_none_iff {t : Tree} {after : List Tree} :
    Block.ofStatement? ns source t after = .ok none ↔ Guard.ofStatement? ns source t = none := by
  constructor
  · intro hnone
    cases hg : Guard.ofStatement? ns source t with
    | none => rfl
    | some g =>
        rw [Block.ofStatement?_of_guard hg] at hnone
        obtain ⟨kind, -, hnone⟩ := bind_eq_ok.1 hnone
        split at hnone
        · cases hnone
        · split at hnone
          · cases hnone
          · split at hnone <;> cases hnone
  · intro hg
    rw [Block.ofStatement?, hg]

namespace Visit

/-- A guarded statement gives its block or an error when it is visited. -/
theorem meet_of_guard {v : Visit} (hk : v.tree.kind = .withStatement)
    (hg : (Guard.ofStatement? ns source v.tree).isSome) :
    (∃ b, Block.ofStatement? ns source v.tree v.after = .ok (some b) ∧
      (v.meet ns source).1 = some (.block b)) ∨
    ∃ e, (v.meet ns source).1 = some (.failed e) := by
  cases v.outcome ns source with
  | failedText e he | discarded he =>
      rw [hk] at he
      cases he
  | block b _ hs hm => exact .inl ⟨b, hs, by rw [hm]⟩
  | failedBlock e _ _ hm => exact .inr ⟨e, by rw [hm]⟩
  | below _ hs =>
      rw [Block.ofStatement?_eq_none_iff.1 (hs hk)] at hg
      cases hg

/-- Where text is left out, there is no guard call. -/
theorem not_holdsCall_of_discarded {v : Visit} {line : Nat}
    (h : (v.meet ns source).1 = some (.discarded line)) : ¬ v.HoldsCall ns source := by
  intro hc
  have he := errorOf?_isSome_of_holdsCall hc
  cases v.outcome ns source with
  | discarded _ hnone =>
      rw [hnone] at he
      cases he
  | failedText _ _ _ hm | block _ _ _ hm | failedBlock _ _ _ hm | below _ _ hm =>
      rw [hm] at h
      cases h

/-- Text that fits nowhere and holds a guard call gives an error when it is visited. -/
theorem meet_of_error {v : Visit} (hk : v.tree.kind = .error) (hc : v.HoldsCall ns source) :
    ∃ e, (v.meet ns source).1 = some (.failed e) := by
  cases v.outcome ns source with
  | failedText e _ _ hm => exact ⟨e, by rw [hm]⟩
  | discarded _ _ hm => exact absurd hc (not_holdsCall_of_discarded (by rw [hm]))
  | block _ hw | failedBlock _ hw => cases hk.symm.trans hw
  | below hne => exact absurd hk hne

/-- A block is that of a `with` statement. -/
theorem statement_of_block {v : Visit} {b : Block} (h : (v.meet ns source).1 = some (.block b)) :
    v.tree.kind = .withStatement ∧
      Block.ofStatement? ns source v.tree v.after = .ok (some b) := by
  cases v.outcome ns source with
  | block b' hk hs hm =>
      rw [hm] at h
      cases h
      exact ⟨hk, hs⟩
  | failedText _ _ _ hm | discarded _ _ hm | failedBlock _ _ _ hm | below _ _ hm =>
      rw [hm] at h
      cases h

/-- The walk does not go on below text that fits nowhere, nor below a guarded statement. -/
def Closes (ns source : Text) (v : Visit) : Prop :=
  v.tree.kind = .error ∨
    v.tree.kind = .withStatement ∧ (Guard.ofStatement? ns source v.tree).isSome

theorem closes_iff {v : Visit} : v.Closes ns source ↔ ∃ f, (v.meet ns source).1 = some f := by
  cases v.outcome ns source with
  | failedText e he _ hm | discarded he _ hm => exact ⟨fun _ => ⟨_, by rw [hm]⟩, fun _ => .inl he⟩
  | block _ hk hs hm | failedBlock _ hk hs hm =>
      refine ⟨fun _ => ⟨_, by rw [hm]⟩, fun _ => .inr ⟨hk, ?_⟩⟩
      rw [Option.isSome_iff_ne_none]
      intro hnone
      rw [Block.ofStatement?_eq_none_iff.2 hnone] at hs
      cases hs
  | below hne hs hm =>
      refine ⟨?_, fun ⟨f, hf⟩ => ?_⟩
      · rintro (he | ⟨hk, hg⟩)
        · exact absurd he hne
        · rw [Block.ofStatement?_eq_none_iff.1 (hs hk)] at hg
          cases hg
      · rw [hm] at hf
        cases hf

/-- The walk comes to a place: it does not end further up. -/
def Outermost (ns source : Text) (v : Visit) (p : Place) : Prop :=
  ∀ q w, q <+: p → q ≠ p → v.at? q = some w → ¬ w.Closes ns source

/-- What is reported is what is met at the outermost places. -/
theorem mem_reports_iff {v : Visit} {p : Place} {f : Find} :
    (p, f) ∈ v.reports ns source ↔
      ∃ w, v.at? p = some w ∧ (w.meet ns source).1 = some f ∧ v.Outermost ns source p := by
  constructor
  · intro h
    obtain ⟨w, hw, hf⟩ := meet_of_mem_reports h
    refine ⟨w, hw, hf, fun q u hq hne hu hcloses => hne ?_⟩
    obtain ⟨g, hg⟩ := closes_iff.1 hcloses
    -- what closes the walk at `q` is reported at or above `q`, hence above `p`
    have inOrder : InOrder (v.reports ns source) := v.tree.inOrder_reports ns source v.after
    rcases covered_of_meet hu hg with hmem | ⟨r, k, hr, hrne, hmem⟩
    · exact congrArg Prod.fst (inOrder.apart hmem h hq)
    · obtain rfl : r = p := congrArg Prod.fst (inOrder.apart hmem h (hr.trans hq))
      exact hq.eq_of_length_le hr.length_le
  · rintro ⟨w, hw, hf, hout⟩
    rcases covered_of_meet hw hf with hmem | ⟨q, g, hq, hne, hmem⟩
    · exact hmem
    · obtain ⟨u, hu, hg⟩ := meet_of_mem_reports hmem
      exact absurd (closes_iff.2 ⟨g, hg⟩) (hout q u hq hne hu)

end Visit

end CellScript
