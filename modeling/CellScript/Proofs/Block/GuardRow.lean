import CellScript.Proofs.Block.Guarded
import CellScript.Proofs.Python.Placed

set_option autoImplicit false

/-! # Rows of guards and blocks

In a tree that stands in its text a guard has text of its own, so the row where it starts is a row
of every node around it: of a statement that it guards, `holdsRow_of_guard`, and of text that fits
nowhere, `holdsRow_of_errorRow`. `Visit.covers_of_block` says that the body of a block is in the
rows that the block covers. -/

namespace CellScript

open Python

variable {ns source : Text} {t : Tree}

theorem Visit.inside_of_at? {v w : Visit} {p : Place} (h : v.tree.Placed source)
    (hw : v.at? p = some w) : v.tree.Inside source w.tree := by
  induction p generalizing v with
  | nil =>
      obtain rfl := Option.some.inj hw
      exact .refl h
  | cons i p ih =>
      rw [at?_cons] at hw
      obtain ⟨u, hu, hw⟩ := Option.bind_eq_some_iff.1 hw
      have hchild : v.tree.Inside source u.tree := (Tree.Inside.refl h).child (mem_of_visits hu)
      exact hchild.trans (ih hchild.placed hw)

/-! ## Guard calls -/

/-- A guard call names what it calls. -/
theorem Guard.exists_name_of_ofCall? {call : Tree} (h : (Guard.ofCall? ns source call).isSome) :
    ∃ function name, call.part? .function = some function ∧
      function.part? .attribute = some name ∧
      (name.text source = "Cell".toList ∨ name.text source = "Sandbox".toList) := by
  obtain ⟨g, hg⟩ := Option.isSome_iff_exists.1 h
  rw [Guard.ofCall?] at hg
  split at hg
  · cases hg
  · obtain ⟨function, hfunction, hg⟩ := Option.bind_eq_some_iff.1 hg
    split at hg
    · cases hg
    · obtain ⟨object, -, hg⟩ := Option.bind_eq_some_iff.1 hg
      split at hg
      · cases hg
      · obtain ⟨name, hname, hg⟩ := Option.bind_eq_some_iff.1 hg
        refine ⟨function, name, hfunction, hname, ?_⟩
        dsimp only at hg
        split at hg
        · rename_i hcell
          exact .inl hcell
        · split at hg
          · rename_i hsandbox
            exact .inr hsandbox
          · cases hg

/-- A guard call starts in a row of every node around it. -/
theorem holdsRow_of_ofCall? (ht : t.Placed source) {call : Tree} (hcall : t.Inside source call)
    (h : (Guard.ofCall? ns source call).isSome) : t.HoldsRow source call.start.row := by
  obtain ⟨function, name, hfunction, hname, htext⟩ := Guard.exists_name_of_ofCall? h
  have hinside : call.Inside source name :=
    ((Tree.Inside.refl hcall.placed).part hfunction).part hname
  -- the first letter of the name stands in the row of the call or below it
  obtain ⟨c, hc, hne⟩ : ∃ c, (name.text source)[0]? = some c ∧ c ≠ '\n' := by
    rcases htext with htext | htext
    · exact ⟨'C', by rw [htext]; rfl, by decide⟩
    · exact ⟨'S', by rw [htext]; rfl, by decide⟩
  have hrow := (hcall.trans hinside).holdsRow ht hc hne
  exact hrow.of_le (ht.start_isIn.row_mono hcall.placed.start_isIn hcall.start_le)
    (hcall.placed.start_isIn.row_mono hinside.placed.start_isIn hinside.start_le)

mutual

theorem exists_call_of_guardRow? (u : Tree) (hu : t.Inside source u) {row : Nat}
    (h : guardRow? ns source u = some row) :
    ∃ call, t.Inside source call ∧ (Guard.ofCall? ns source call).isSome ∧
      call.start.row = row := by
  cases u with
  | node l cs =>
      rw [guardRow?] at h
      split at h
      · rename_i g hg
        exact ⟨_, hu, by rw [hg]; rfl, Option.some.inj h⟩
      · exact exists_call_of_firstGuardRow? cs (fun _ hc => hu.child hc) h

theorem exists_call_of_firstGuardRow? (us : List Tree) (hus : ∀ u ∈ us, t.Inside source u)
    {row : Nat} (h : firstGuardRow? ns source us = some row) :
    ∃ call, t.Inside source call ∧ (Guard.ofCall? ns source call).isSome ∧
      call.start.row = row := by
  cases us with
  | nil => cases h
  | cons u us =>
      obtain ⟨hu, hus⟩ := List.forall_mem_cons.1 hus
      rw [firstGuardRow?, Option.orElse_eq_orElse, Option.orElse_eq_or, Option.or_eq_some_iff] at h
      rcases h with h | ⟨-, h⟩
      · exact exists_call_of_guardRow? u hu h
      · exact exists_call_of_firstGuardRow? us hus h

end

/-- The guard of a statement stands in a row of the statement. -/
theorem holdsRow_of_guard (ht : t.Placed source) (h : (Guard.ofStatement? ns source t).isSome) :
    t.HoldsRow source t.start.row := by
  obtain ⟨p, w, hw, hcall⟩ := Guard.holdsCall_of_ofStatement? [] h
  have hrow := holdsRow_of_ofCall? ht (Visit.inside_of_at? (v := ⟨t, []⟩) ht hw) hcall
  exact hrow.of_le (Nat.le_refl _) hrow.start_le

/-! ## Text that fits nowhere -/

theorem Text.isPrefix_of_find? {part t : Text} {i : Nat} (h : Text.find? part t = some i) :
    part <+: t.drop i := by
  induction t generalizing i with
  | nil =>
      rw [Text.find?] at h
      split at h
      · rename_i hempty
        rw [List.isEmpty_iff.1 hempty]
        exact List.nil_prefix
      · cases h
  | cons c t ih =>
      rw [Text.find?] at h
      split at h
      · rename_i hprefix
        obtain rfl := Option.some.inj h
        exact List.isPrefixOf_iff_prefix.1 hprefix
      · obtain ⟨j, hj, rfl⟩ := Option.map_eq_some_iff.1 h
        exact ih hj

/-- What looks like a guard in the text of a node stands in a row of the node. -/
theorem holdsRow_of_guardTextRow? (ht : t.Placed source) {row : Nat}
    (h : guardTextRow? ns source t = some row) : t.HoldsRow source row := by
  rw [guardTextRow?] at h
  obtain ⟨i, hi, rfl⟩ := Option.map_eq_some_iff.1 h
  obtain ⟨name, hfind⟩ : ∃ name, Text.find? (ns ++ '.' :: name) (t.text source) = some i := by
    split at hi
    · rename_i j k hj hk
      obtain rfl := Option.some.inj hi
      rcases Nat.le_total j k with hle | hle
      · exact ⟨"Cell(".toList, by rw [Nat.min_eq_left hle]; exact hj⟩
      · exact ⟨"Sandbox(".toList, by rw [Nat.min_eq_right hle]; exact hk⟩
    · rw [Option.orElse_eq_orElse, Option.orElse_eq_or, Option.or_eq_some_iff] at hi
      rcases hi with hi | ⟨-, hi⟩
      · exact ⟨"Cell(".toList, hi⟩
      · exact ⟨"Sandbox(".toList, hi⟩
  -- the dot after the namespace is in the text, in this row or below it
  have hdot : (t.text source)[i + ns.length]? = some '.' := by
    obtain ⟨rest, hrest⟩ := Text.isPrefix_of_find? hfind
    rw [← List.getElem?_drop, ← hrest, List.append_assoc,
      List.getElem?_append_right (Nat.le_refl _), Nat.sub_self]
    rfl
  have hrow := (Tree.Inside.refl ht).holdsRow ht hdot (by decide)
  refine hrow.of_le (Nat.le_add_right _ _) (Nat.add_le_add_left ?_ _)
  exact Text.rowAt_mono _ (Nat.le_add_right _ _)

/-- The error of text that fits nowhere is about a row of it. -/
theorem holdsRow_of_errorRow (ht : t.Placed source) {row : Nat}
    (h : (guardRow? ns source t <|> guardTextRow? ns source t) = some row) :
    t.HoldsRow source row := by
  rw [Option.orElse_eq_orElse, Option.orElse_eq_or, Option.or_eq_some_iff] at h
  rcases h with h | ⟨-, h⟩
  · obtain ⟨call, hinside, hcall, rfl⟩ := exists_call_of_guardRow? t (.refl ht) h
    exact holdsRow_of_ofCall? ht hinside hcall
  · exact holdsRow_of_guardTextRow? ht h

/-! ## Blocks -/

theorem Python.Tree.Placed.start_row_le (h : t.Placed source) : t.start.row ≤ t.lastRow := by
  have hrow := h.start_isIn.row_mono h.stop_isIn h.offset_le
  rw [Tree.lastRow]
  split
  · omega
  · exact hrow

theorem le_foldl_max_lastRow (row : Nat) (ts : List Tree) :
    row ≤ ts.foldl (fun row t => max row t.lastRow) row := by
  induction ts generalizing row with
  | nil => exact Nat.le_refl row
  | cons t ts ih => exact (Nat.le_max_left row t.lastRow).trans (ih _)

theorem le_lastRowWith (body : Tree) (after : List Tree) : body.lastRow ≤ lastRowWith body after :=
  le_foldl_max_lastRow _ _

/-- The body of a statement starts below the row in which the opener ends, unless in that row. -/
theorem colonRow_le (ht : t.Placed source) (hk : t.kind = .withStatement) {body : Tree}
    (hbody : t.part? .body = some body) : t.colonRow ≤ body.start.row := by
  have hinside : t.Inside source body := (Tree.Inside.refl ht).part hbody
  rw [Tree.colonRow]
  split
  · rename_i colon hcolon
    have hplaced : colon.Placed source :=
      ((Tree.Inside.refl ht).child (List.mem_of_find?_eq_some hcolon)).placed
    exact hplaced.stop_isIn.row_mono hinside.placed.start_isIn
      (ht.bodyAfterColon hk colon hcolon body hbody)
  · exact ht.start_isIn.row_mono hinside.placed.start_isIn hinside.start_le

/-- A block covers the rows of its body, all below its opener. -/
structure Block.Covers (source : Text) (b : Block) : Prop where
  placed : b.body.Placed source
  header_lt : b.span.header < (Text.lines source).length
  start_le : b.span.start ≤ b.body.start.row
  le_stop : b.body.lastRow ≤ b.span.stop

theorem Block.Covers.start_le_stop {b : Block} (h : b.Covers source) :
    b.span.start ≤ b.span.stop :=
  h.start_le.trans (h.placed.start_row_le.trans h.le_stop)

theorem Visit.covers_of_block {v : Visit} {b : Block} (hv : v.tree.Placed source)
    (h : (v.meet ns source).1 = some (.block b)) : b.Covers source := by
  obtain ⟨hk, hs⟩ := statement_of_block h
  obtain ⟨⟨g, hg, -⟩, hbody, -, hrow, hspan⟩ := Block.ofStatement?_eq_ok_some_iff.1 hs
  have hinside : v.tree.Inside source b.body := (Tree.Inside.refl hv).part hbody
  have hheader := holdsRow_of_guard hv (by rw [hg]; rfl)
  have hcolon := colonRow_le hv hk hbody
  refine ⟨hinside.placed, ?_, ?_, ?_⟩
  · rw [hspan]
    exact hheader.lt_lines
  · rw [hspan]
    exact Nat.lt_of_le_of_ne hcolon (Ne.symm hrow)
  · rw [hspan]
    exact le_lastRowWith b.body v.after

end CellScript
