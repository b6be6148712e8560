import CellScript.Proofs.Python.OfText
import CellScript.Proofs.Script.ErrorPlace

set_option autoImplicit false

/-! # The rows of blocks

In a tree that stands in its text a block has its opener, its colon, its body and its last row in
that order, all of them rows of the script: `Visit.inRows_of_block`. Comments after a statement may
be rows of its block too, but only those before anything else: `Visit.lastRowWith_le_of_before`. So
of two blocks the first ends where the second opens or before, and no row has text of two cells.
That is `SpansSound.of_placed`, the main result, for any tree that stands in its text and whose
comments are tokens; the tree that a script is parsed into is a case of it, `spans_sound`. -/

namespace CellScript

open Python

variable {ns source : Text}

/-! ## Places in a tree -/

theorem exists_append_of_visits {ts : List Tree} {i : Nat} {u : Visit}
    (h : (visits ts)[i]? = some u) : ∃ before, ts = before ++ u.tree :: u.after := by
  induction ts generalizing i with
  | nil => cases h
  | cons t ts ih =>
      cases i with
      | zero =>
          obtain rfl := Option.some.inj h
          exact ⟨[], rfl⟩
      | succ i =>
          obtain ⟨before, hts⟩ := ih h
          exact ⟨t :: before, congrArg (t :: ·) hts⟩

/-- Of two siblings the later one is among those after the other. -/
theorem exists_between_of_visits {ts : List Tree} {i j : Nat} {u w : Visit}
    (hu : (visits ts)[i]? = some u) (hw : (visits ts)[j]? = some w) (hij : i < j) :
    ∃ between, u.after = between ++ w.tree :: w.after := by
  induction ts generalizing i j with
  | nil => cases hu
  | cons t ts ih =>
      obtain ⟨j, rfl⟩ : ∃ k, j = k + 1 := ⟨j - 1, by omega⟩
      cases i with
      | zero =>
          obtain rfl := Option.some.inj hu
          exact exists_append_of_visits hw
      | succ i => exact ih hu hw (Nat.lt_of_succ_lt_succ hij)

namespace Visit

/-- What comes after a node with its parent in a tree is inside the tree as well. -/
theorem inside_of_mem_after {r v : Visit} {i : Nat} {p : Place} (hr : r.tree.Placed source)
    (hv : r.at? (i :: p) = some v) {u : Tree} (hu : u ∈ v.after) : r.tree.Inside source u := by
  induction p generalizing r i with
  | nil =>
      rw [at?_cons] at hv
      obtain ⟨x, hx, hv⟩ := Option.bind_eq_some_iff.1 hv
      obtain rfl := Option.some.inj hv
      obtain ⟨before, hcs⟩ := exists_append_of_visits hx
      refine (Tree.Inside.refl hr).child ?_
      rw [hcs]
      exact List.mem_append_right _ (List.mem_cons_of_mem _ hu)
  | cons j p ih =>
      rw [at?_cons] at hv
      obtain ⟨x, hx, hv⟩ := Option.bind_eq_some_iff.1 hv
      have hchild := (Tree.Inside.refl hr).child (mem_of_visits hx)
      exact hchild.trans (ih hchild.placed hv)

end Visit

/-! ## The last row of a block -/

theorem Python.Tree.lastRow_le (t : Tree) : t.lastRow ≤ t.stop.row := by
  rw [Tree.lastRow]
  split
  · exact Nat.sub_le _ _
  · exact Nat.le_refl _

theorem lastRowWith_le {body : Tree} {after : List Tree} {n : Nat} (hbody : body.stop.row ≤ n)
    (hafter : ∀ t ∈ after.takeWhile fun t =>
      t.kind == .comment && body.start.column ≤ t.start.column, t.stop.row ≤ n) :
    lastRowWith body after ≤ n := by
  rw [lastRowWith]
  generalize after.takeWhile _ = comments at hafter
  have hrow : body.lastRow ≤ n := body.lastRow_le.trans hbody
  generalize body.lastRow = row at hrow
  induction comments generalizing row with
  | nil => exact hrow
  | cons t ts ih =>
      obtain ⟨ht, hts⟩ := List.forall_mem_cons.1 hafter
      exact ih hts _ (Nat.max_le.2 ⟨hrow, t.lastRow_le.trans ht⟩)

theorem mem_of_mem_takeWhile_append {α : Type} {f : α → Bool} {before after : List α} {a b : α}
    (hb : f b = false) (ha : a ∈ (before ++ b :: after).takeWhile f) : a ∈ before := by
  induction before with
  | nil =>
      rw [List.nil_append, List.takeWhile_cons_of_neg (by simp [hb])] at ha
      cases ha
  | cons c before ih =>
      rw [List.cons_append] at ha
      cases hc : f c with
      | false =>
          rw [List.takeWhile_cons_of_neg (by simp [hc])] at ha
          cases ha
      | true =>
          rw [List.takeWhile_cons_of_pos hc] at ha
          rcases List.mem_cons.1 ha with rfl | ha
          · exact List.mem_cons_self
          · exact List.mem_cons_of_mem _ (ih ha)

namespace Visit

/-- A block ends where something later starts or before that, with the comments after it, since the
later node cannot be below one of them. -/
theorem lastRowWith_le_of_before {r v w : Visit} {p q : Place} {body : Tree}
    (hr : r.tree.Placed source) (hbare : r.tree.CommentsBare) (hv : r.at? p = some v)
    (hw : r.at? q = some w) (hpq : Place.Before p q) (hk : w.tree.kind ≠ .comment)
    (hbody : v.tree.Inside source body) : lastRowWith body v.after ≤ w.tree.start.row := by
  induction p generalizing r q with
  | nil => exact absurd hpq (by simp [Place.Before])
  | cons i p ih =>
      cases q with
      | nil => exact absurd hpq (by simp [Place.Before])
      | cons j q =>
          rw [at?_cons] at hv hw
          obtain ⟨x, hx, hv⟩ := Option.bind_eq_some_iff.1 hv
          obtain ⟨y, hy, hw⟩ := Option.bind_eq_some_iff.1 hw
          have hxin := (Tree.Inside.refl hr).child (mem_of_visits hx)
          have hyin := (Tree.Inside.refl hr).child (mem_of_visits hy)
          obtain hij | ⟨rfl, hpq⟩ := hpq
          · -- the two part here: `v` is at or below `x`, and `w` at or below the later sibling `y`
            obtain ⟨before, hcs⟩ := exists_append_of_visits hx
            obtain ⟨between, hafter⟩ := exists_between_of_visits hx hy hij
            have hwin : y.tree.Inside source w.tree := inside_of_at? hyin.placed hw
            have hrows : ∀ u : Tree, u.Placed source → u.stop.offset ≤ y.tree.start.offset →
                u.stop.row ≤ w.tree.start.row := fun u hu hle =>
              hu.stop_isIn.row_mono hwin.placed.start_isIn (hle.trans hwin.start_le)
            have hordered := hr.pairwise_children
            rw [hcs, hafter] at hordered
            obtain ⟨hx', hordered⟩ :=
              List.pairwise_cons.1 (List.pairwise_append.1 hordered).2.1
            have hvin : x.tree.Inside source v.tree := inside_of_at? hxin.placed hv
            have hxy : x.tree.stop.offset ≤ y.tree.start.offset := hx' _ (by simp)
            have hbelow : ∀ u, x.tree.Inside source u → u.stop.row ≤ w.tree.start.row :=
              fun u hu => hrows u hu.placed (hu.stop_le.trans hxy)
            refine lastRowWith_le (hbelow _ (hvin.trans hbody)) fun u hu => ?_
            cases p with
            | nil =>
                obtain rfl := Option.some.inj hv
                have hy' : y.tree.kind ≠ .comment := by
                  intro hcomment
                  have hnone := (hbare _ (mem_of_visits hy)).self hcomment
                  cases q with
                  | nil =>
                      obtain rfl := Option.some.inj hw
                      exact hk hcomment
                  | cons l q =>
                      rw [at?_cons, hnone] at hw
                      cases hw
                rw [hafter] at hu
                have hmem := mem_of_mem_takeWhile_append (by simp [hy']) hu
                have hu' : u ∈ r.tree.children := by
                  rw [hcs, hafter]
                  simp [hmem]
                exact hrows u ((Tree.Inside.refl hr).child hu').placed
                  ((List.pairwise_append.1 hordered).2.2 u hmem _ List.mem_cons_self)
            | cons l p =>
                exact hbelow u
                  (inside_of_mem_after hxin.placed hv ((List.takeWhile_sublist _).subset hu))
          · obtain rfl := Option.some.inj (hx.symm.trans hy)
            exact ih hxin.placed (hbare.child (mem_of_visits hx)) hv hw hpq

end Visit

/-! ## The rows of a block -/

/-- The rows of the block of a statement are in order, and rows of the script. -/
structure Block.InRows (source : Text) (statement : Tree) (b : Block) : Prop where
  header_eq : b.span.header = statement.start.row
  header_le : b.span.header ≤ statement.colonRow
  colon_lt : statement.colonRow < b.span.start
  start_le : b.span.start ≤ b.body.start.row
  body_le : b.body.start.row ≤ b.span.stop
  stop_lt : b.span.stop < (Text.physicalLines source).length

theorem start_row_le_colonRow {t : Tree} (h : t.Placed source) : t.start.row ≤ t.colonRow := by
  rw [Tree.colonRow]
  split
  · rename_i colon hcolon
    have hinside := (Tree.Inside.refl h).child (List.mem_of_find?_eq_some hcolon)
    exact h.start_isIn.row_mono hinside.placed.stop_isIn
      (hinside.start_le.trans hinside.placed.offset_le)
  · exact Nat.le_refl _

theorem Visit.inRows_of_block {t : Tree} (ht : t.Placed source) {p : Place} {v : Visit}
    (hv : Visit.at? ⟨t, []⟩ p = some v) {b : Block}
    (hb : Block.ofStatement? ns source v.tree v.after = .ok (some b))
    (hk : v.tree.kind = .withStatement) : b.InRows source v.tree := by
  have hplaced : v.tree.Placed source := (Visit.inside_of_at? ht hv).placed
  obtain ⟨-, hbody, -, hrow, hspan⟩ := Block.ofStatement?_eq_ok_some_iff.1 hb
  have hinside : v.tree.Inside source b.body := (Tree.Inside.refl hplaced).part hbody
  have hafter : ∀ u ∈ v.after, u.Placed source := by
    intro u hu
    cases p with
    | nil =>
        obtain rfl := Option.some.inj hv
        cases hu
    | cons i p => exact (Visit.inside_of_mem_after ht hv hu).placed
  have hlast : lastRowWith b.body v.after < (Text.physicalLines source).length := by
    refine Nat.lt_of_le_pred (Nat.zero_lt_of_lt hinside.placed.stop_isIn.row_lt) ?_
    refine lastRowWith_le (Nat.le_pred_of_lt hinside.placed.stop_isIn.row_lt) fun u hu => ?_
    exact Nat.le_pred_of_lt (hafter u ((List.takeWhile_sublist _).subset hu)).stop_isIn.row_lt
  refine ⟨?_, ?_, ?_, ?_, ?_, ?_⟩ <;> rw [hspan]
  · exact start_row_le_colonRow hplaced
  · exact Nat.lt_succ_self _
  · exact Nat.lt_of_le_of_ne (colonRow_le hplaced hk hbody) (Ne.symm hrow)
  · exact hinside.placed.start_row_le.trans (le_lastRowWith b.body v.after)
  · exact hlast

theorem Block.InRows.start_le_stop {statement : Tree} {b : Block} (h : b.InRows source statement) :
    b.span.start ≤ b.span.stop :=
  h.start_le.trans h.body_le

/-- The lines that a block is given are lines of the script. -/
theorem Block.InRows.getElem?_of_mem {statement : Tree} {b : Block}
    (h : b.InRows source statement) {row : Nat × Text}
    (hrow : row ∈ b.span.rowsOf (Text.physicalLines source)) :
    (Text.physicalLines source)[row.1]? = some row.2 := by
  rw [Span.rowsOf_eq] at hrow
  obtain ⟨i, hi, rfl⟩ := List.mem_map.1 hrow
  have hlt : i < (Text.physicalLines source).length := by
    have hstop := h.stop_lt
    have hrange := List.mem_range'_1.1 hi
    omega
  rw [List.getD_eq_getElem?_getD, List.getElem?_eq_getElem hlt]
  rfl

/-- The cell of a block has text from a row of the script: code and a sandbox from each row that the
block covers, prose from the rows of its literal. -/
inductive Block.TakesFrom (source : Text) (b : Block) : Nat → Prop where
  | line {row : Nat} {line : Text} (hk : b.kind ≠ .prose)
      (h : (row, line) ∈ b.span.rowsOf (Text.physicalLines source)) : TakesFrom source b row
  | literal {literal : Tree} {i : Nat} {line : Text} (hk : b.kind = .prose)
      (hl : proseLiteral? b.body = some literal)
      (h : (Text.rows (literal.text source))[i]? = some line) (hne : line ≠ []) :
      TakesFrom source b (literal.start.row + i)

/-- Rows of a cell are rows that its block covers. -/
theorem Block.Covers.of_takesFrom {b : Block} (hb : b.Covers source) {row : Nat}
    (h : b.TakesFrom source row) : b.span.start ≤ row ∧ row ≤ b.span.stop := by
  cases h with
  | line _ h =>
      rw [Span.rowsOf_eq] at h
      obtain ⟨i, hi, heq⟩ := List.mem_map.1 h
      obtain rfl := (Prod.mk.inj heq).1
      have hrange := List.mem_range'_1.1 hi
      omega
  | literal _ hl h hne =>
      -- a character of the row is a character of the body
      obtain ⟨c, hc⟩ := List.exists_mem_of_ne_nil _ hne
      have hcfeed : c ≠ '\n' := by
        rintro rfl
        exact Text.not_mem_of_mem_rows (List.mem_of_getElem? h) hc
      obtain ⟨k, hk, rfl⟩ := (Text.mem_row_iff hcfeed).1 ⟨_, h, hc⟩
      have hrow := (hb.placed.inside_literal hl).holdsRow hb.placed hk hcfeed
      exact ⟨hb.start_le.trans hrow.start_le, hrow.le_lastRow.trans hb.le_stop⟩

/-! ## All blocks of a tree -/

/-- What the answers of a walk say about the rows of a script. -/
structure SpansSound (ns source : Text) (t : Tree) : Prop where
  /-- Every block is that of a `with` statement, with its rows in order. -/
  inRows : ∀ k b, (BlockIter.ofTree t).answer ns source k = some (.ok b) →
    ∃ p v, Visit.at? ⟨t, []⟩ p = some v ∧ v.tree.kind = .withStatement ∧
      Block.ofStatement? ns source v.tree v.after = .ok (some b) ∧ b.InRows source v.tree
  /-- A block ends where a later one opens or before that. -/
  disjoint : ∀ j k b c, j < k → (BlockIter.ofTree t).answer ns source j = some (.ok b) →
    (BlockIter.ofTree t).answer ns source k = some (.ok c) → b.span.stop ≤ c.span.header
  /-- No block is without rows. -/
  notEmpty : ∀ k b, (BlockIter.ofTree t).answer ns source k = some (.ok b) →
    b.cell source (Text.physicalLines source) ≠ .error (.malformed .noContent b.span.line)
  /-- No block is given a line that the script does not have. -/
  inLines : ∀ k b, (BlockIter.ofTree t).answer ns source k = some (.ok b) →
    ∀ row ∈ b.span.rowsOf (Text.physicalLines source),
      (Text.physicalLines source)[row.1]? = some row.2
  /-- No row has text of two cells. -/
  oneCell : ∀ j k b c row, (BlockIter.ofTree t).answer ns source j = some (.ok b) →
    (BlockIter.ofTree t).answer ns source k = some (.ok c) →
    b.TakesFrom source row → c.TakesFrom source row → j = k

theorem mem_finds_of_answer {t : Tree} {k : Nat} {b : Block}
    (h : (BlockIter.ofTree t).answer ns source k = some (.ok b)) : .block b ∈ finds ns source t := by
  rw [answer_ofTree] at h
  obtain ⟨f, hf, hfa⟩ := List.mem_filterMap.1 (List.mem_of_getElem? h)
  cases f with
  | discarded line => cases hfa
  | failed e => cases hfa
  | block b' =>
      obtain rfl := Except.ok.inj (Option.some.inj hfa)
      exact hf

/-- The answers of a walk are in order: a block ends where a later one opens or before that. -/
theorem pairwise_answers {t : Tree} (ht : t.Placed source) (hbare : t.CommentsBare) :
    ((finds ns source t).filterMap Find.answer?).Pairwise fun a a' =>
      ∀ b c, a = .ok b → a' = .ok c → b.span.stop ≤ c.span.header := by
  rw [finds_eq_map_reportsMet, List.filterMap_map, List.pairwise_filterMap]
  refine (accounted_reportsMet ns source t).inOrder.imp_of_mem ?_
  rintro ⟨p, f⟩ ⟨q, g⟩ hp hq hpq a hf a' hg b c rfl rfl
  obtain rfl : f = .block b := by
    cases f with
    | discarded line => cases hf
    | failed e => cases hf
    | block b' => rw [Except.ok.inj (Option.some.inj hf)]
  obtain rfl : g = .block c := by
    cases g with
    | discarded line => cases hg
    | failed e => cases hg
    | block b' => rw [Except.ok.inj (Option.some.inj hg)]
  obtain ⟨v, hv, -, hb⟩ := (accounted_reportsMet ns source t).block p b hp
  obtain ⟨w, hw, hk, hc⟩ := (accounted_reportsMet ns source t).block q c hq
  obtain ⟨-, hbody, -, -, hspan⟩ := Block.ofStatement?_eq_ok_some_iff.1 hb
  obtain ⟨-, -, -, -, hspan'⟩ := Block.ofStatement?_eq_ok_some_iff.1 hc
  have hplaced : v.tree.Placed source := (Visit.inside_of_at? ht hv).placed
  rw [hspan, hspan']
  exact Visit.lastRowWith_le_of_before (r := ⟨t, []⟩) ht hbare hv hw hpq (by simp [hk])
    ((Tree.Inside.refl hplaced).part hbody)

/-- **The rows of blocks are in order and apart.** In a tree that stands in its text and whose
comments are tokens, every block that the walk answers has its opener, the colon that ends it, its
first row, the start of its body and its last row in that order, all of them rows of the script, and
ends where the next block opens or before. So no block is refused for want of rows or reads past the
end of the script, and no row is given to two cells. -/
theorem SpansSound.of_placed {t : Tree} (ht : t.Placed source) (hbare : t.CommentsBare) :
    SpansSound ns source t := by
  have inRows : ∀ k b, (BlockIter.ofTree t).answer ns source k = some (.ok b) →
      ∃ p v, Visit.at? ⟨t, []⟩ p = some v ∧ v.tree.kind = .withStatement ∧
        Block.ofStatement? ns source v.tree v.after = .ok (some b) ∧ b.InRows source v.tree := by
    intro k b h
    obtain ⟨p, v, hv, hm⟩ := exists_visit_of_mem_finds (mem_finds_of_answer h)
    obtain ⟨hk, hs⟩ := Visit.statement_of_block hm
    exact ⟨p, v, hv, hk, hs, Visit.inRows_of_block ht hv hs hk⟩
  have disjoint : ∀ j k b c, j < k → (BlockIter.ofTree t).answer ns source j = some (.ok b) →
      (BlockIter.ofTree t).answer ns source k = some (.ok c) → b.span.stop ≤ c.span.header := by
    intro j k b c hjk hb hc
    rw [answer_ofTree] at hb hc
    obtain ⟨hj, hb⟩ := List.getElem?_eq_some_iff.1 hb
    obtain ⟨hk, hc⟩ := List.getElem?_eq_some_iff.1 hc
    exact List.pairwise_iff_getElem.1 (pairwise_answers ht hbare) j k hj hk hjk b c hb hc
  -- a row of the later cell lies below the opener of its block, where the earlier one has ended
  have apart : ∀ j k b c row, j < k → (BlockIter.ofTree t).answer ns source j = some (.ok b) →
      (BlockIter.ofTree t).answer ns source k = some (.ok c) →
      b.TakesFrom source row → ¬ c.TakesFrom source row := by
    intro j k b c row hjk hb hc hrow hrow'
    obtain ⟨-, v, -, -, -, hin⟩ := inRows k c hc
    have hstop := ((covers_of_mem_finds ht (mem_finds_of_answer hb)).of_takesFrom hrow).2
    have hstart := ((covers_of_mem_finds ht (mem_finds_of_answer hc)).of_takesFrom hrow').1
    have hle := disjoint j k b c hjk hb hc
    have hheader := hin.header_le
    have hcolon := hin.colon_lt
    omega
  refine ⟨inRows, disjoint, fun k b h herr => ?_, fun k b h row hrow => ?_, ?_⟩
  · obtain ⟨-, v, -, -, -, hin⟩ := inRows k b h
    cases Block.cell_eq_error_iff.1 herr with
    | noRows hspan => exact absurd hin.start_le_stop (Nat.not_le.2 hspan)
  · obtain ⟨-, v, -, -, -, hin⟩ := inRows k b h
    exact hin.getElem?_of_mem hrow
  · intro j k b c row hb hc hrow hrow'
    rcases Nat.lt_trichotomy j k with hjk | rfl | hjk
    · exact absurd hrow' (apart j k b c row hjk hb hc hrow)
    · rfl
    · exact absurd hrow (apart k j c b row hjk hc hb hrow')

/-- The blocks of a script are in order and apart if the tree that it is parsed into stands in it:
comments are tokens there. -/
theorem spans_sound (ns source : Text) (ht : (Tree.ofText source).Placed source) :
    SpansSound ns source (Tree.ofText source) :=
  .of_placed ht (Tree.commentsBare_ofText source)

/-- A script in which comments after a statement are rows of its block: a form feed hides their
depth from the layout. -/
def trailingComments : Text :=
  "with herzog.Cell(\"python\"):\n    x\n    \x0c# a\n    # b\n".toList ++
    "with herzog.Sandbox():\n    y\n".toList

/-- The first block goes on for two rows after its body, up to the opener of the second. -/
theorem spans_sound_trailingComments :
    (Tree.ofText trailingComments).Placed trailingComments ∧
      ∃ b c, (BlockIter.ofTree (Tree.ofText trailingComments)).answer "herzog".toList
          trailingComments 0 = some (.ok b) ∧
        (BlockIter.ofTree (Tree.ofText trailingComments)).answer "herzog".toList
          trailingComments 1 = some (.ok c) ∧
        b.span = ⟨0, 1, 3, 4⟩ ∧ b.body.lastRow = 1 ∧ c.span.header = 4 ∧
        b.span.stop ≤ c.span.header := by
  have placed : (Tree.ofText trailingComments).Placed trailingComments := by decide +kernel
  have hanswers : ((finds "herzog".toList trailingComments (Tree.ofText trailingComments)).filterMap
      Find.answer?).map (fun a => a.toOption.map fun b => (b.span, b.body.lastRow)) =
        [some (⟨0, 1, 3, 4⟩, 1), some (⟨4, 5, 5, 4⟩, 5)] := by decide +kernel
  obtain ⟨a, answers, hanswers', ha, htail⟩ := List.map_eq_cons_iff.1 hanswers
  obtain ⟨a', rest, rfl, ha', -⟩ := List.map_eq_cons_iff.1 htail
  have hok : ∀ {a : Except CellError Block} {x : Span × Nat},
      a.toOption.map (fun b => (b.span, b.body.lastRow)) = some x →
        ∃ b, a = .ok b ∧ b.span = x.1 ∧ b.body.lastRow = x.2 := by
    intro a x h
    cases a with
    | error e => cases h
    | ok b =>
        obtain rfl := Option.some.inj h
        exact ⟨b, rfl, rfl, rfl⟩
  obtain ⟨b, rfl, hspan, hlast⟩ := hok ha
  obtain ⟨c, rfl, hspan', -⟩ := hok ha'
  have hb : (BlockIter.ofTree (Tree.ofText trailingComments)).answer "herzog".toList
      trailingComments 0 = some (.ok b) := by
    rw [answer_ofTree, hanswers']
    rfl
  have hc : (BlockIter.ofTree (Tree.ofText trailingComments)).answer "herzog".toList
      trailingComments 1 = some (.ok c) := by
    rw [answer_ofTree, hanswers']
    rfl
  exact ⟨placed, b, c, hb, hc, hspan, hlast, congrArg Span.header hspan',
    (spans_sound "herzog".toList trailingComments placed).disjoint 0 1 b c Nat.zero_lt_one hb hc⟩

end CellScript
