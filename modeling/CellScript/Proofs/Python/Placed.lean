import CellScript.Proofs.Text.Places
import CellScript.Python.Tree

set_option autoImplicit false

/-! # Trees that stand in a text

`Tree.Placed` says what a parser has to promise about places for them to mean anything: every node
starts and ends at a place of the text, siblings follow each other inside their parent, and the body
of a `with` statement comes after its colon. The text of a node is then a stretch of the text of the
tree, and `Tree.Inside.holdsRow` says that a row counted in it is a row of the script: one of the
rows of every node around it, and one of the lines.

What is said of every node of a tree is `Tree.Each`; of comments `Tree.CommentsBare` says that they
are tokens, and of the names of objects `Tree.NamesInRow` that they do not go on in another row. -/

namespace CellScript.Python

/-! ## Places -/

namespace Position

/-- The place after some more text. -/
def after (p : Position) (t : List Char) : Position := t.foldl next p

/-- A place of a text: the one after as many of its characters as it counts. -/
structure IsIn (source : List Char) (p : Position) : Prop where
  offset_le : p.offset ≤ source.length
  eq_after : p = start.after (source.take p.offset)

instance (source : List Char) (p : Position) : Decidable (p.IsIn source) :=
  decidable_of_iff (p.offset ≤ source.length ∧ p = start.after (source.take p.offset))
    ⟨fun h => ⟨h.1, h.2⟩, fun h => ⟨h.1, h.2⟩⟩

theorem after_append (p : Position) (s t : List Char) : p.after (s ++ t) = (p.after s).after t :=
  List.foldl_append

theorem row_after (p : Position) (t : List Char) : (p.after t).row = p.row + t.count '\n' := by
  induction t generalizing p with
  | nil => rfl
  | cons c t ih =>
      have hstep : p.after (c :: t) = (p.next c).after t := rfl
      rw [hstep, ih]
      by_cases hc : c = '\n'
      · rw [next, if_pos hc, hc, List.count_cons_self]
        exact Nat.add_right_comm p.row 1 _
      · rw [next, if_neg hc, List.count_cons_of_ne hc]

theorem offset_next (p : Position) (c : Char) : (p.next c).offset = p.offset + 1 := by
  rw [next]
  split <;> rfl

theorem offset_after (p : Position) (t : List Char) : (p.after t).offset = p.offset + t.length := by
  induction t generalizing p with
  | nil => rfl
  | cons c t ih =>
      have hstep : p.after (c :: t) = (p.next c).after t := rfl
      rw [hstep, ih, offset_next, List.length_cons]
      omega

/-- Only a line feed leads to the start of a row. -/
theorem eq_newline_of_column {p : Position} {c : Char} (h : (p.next c).column = 0) : c = '\n' := by
  by_contra hc
  rw [next, if_neg hc] at h
  have hsize := c.utf8Size_pos
  dsimp only at h
  omega

namespace IsIn

variable {source : List Char} {p q : Position}

theorem row_eq (h : p.IsIn source) : p.row = Text.rowAt source p.offset := by
  have hrow := congrArg Position.row h.eq_after
  rw [row_after] at hrow
  rw [hrow, Text.rowAt]
  exact Nat.zero_add _

theorem row_mono (hp : p.IsIn source) (hq : q.IsIn source) (h : p.offset ≤ q.offset) :
    p.row ≤ q.row := by
  rw [hp.row_eq, hq.row_eq]
  exact Text.rowAt_mono source h

/-- The row of a place is one of the rows of the text. -/
theorem row_lt_rows (h : p.IsIn source) : p.row < (Text.rows source).length := by
  rw [h.row_eq, Text.length_rows]
  exact Nat.lt_succ_of_le ((List.take_sublist _ _).count_le _)

theorem row_lt (h : p.IsIn source) : p.row < (Text.physicalLines source).length := by
  rw [Text.physicalLines, List.length_map]
  exact h.row_lt_rows

/-- A place at the start of a row comes after a line feed, unless the text starts there. -/
theorem newline_before (h : p.IsIn source) (hcolumn : p.column = 0) {k : Nat}
    (hk : p.offset = k + 1) : source[k]? = some '\n' := by
  have hlt : k < source.length := by
    have := h.offset_le
    omega
  have hafter := h.eq_after
  rw [hk, List.take_add_one, List.getElem?_eq_getElem hlt, Option.toList_some, after_append]
    at hafter
  have hnext : p = (start.after (source.take k)).next source[k] := hafter
  rw [hnext] at hcolumn
  rw [List.getElem?_eq_getElem hlt, eq_newline_of_column hcolumn]

end IsIn

end Position

/-! ## Placed trees -/

namespace Tree

/-- If a node has a colon and a body, the body comes after the colon. -/
def BodyAfterColon (t : Tree) : Prop :=
  ∀ colon ∈ t.children.find? (·.kind == .colon), ∀ body ∈ t.part? .body,
    colon.stop.offset ≤ body.start.offset

instance (t : Tree) : Decidable t.BodyAfterColon := inferInstanceAs (Decidable (∀ _ ∈ _, ∀ _ ∈ _, _))

mutual

/-- A tree stands in a text: all its nodes are at places of the text, children are in order inside
their parent, and the bodies of `with` statements come after their colons. -/
def Placed (source : List Char) : Tree → Prop
  | .node l cs =>
    l.start.IsIn source ∧ l.stop.IsIn source ∧
      (l.kind = .withStatement → BodyAfterColon (.node l cs)) ∧
      PlacedBetween source l.start.offset l.stop.offset cs

/-- Siblings stand in order between two offsets. -/
def PlacedBetween (source : List Char) (low high : Nat) : List Tree → Prop
  | [] => low ≤ high
  | t :: ts => low ≤ t.start.offset ∧ t.Placed source ∧ PlacedBetween source t.stop.offset high ts

end

mutual

instance decidablePlaced (source : List Char) : (t : Tree) → Decidable (t.Placed source)
  | .node l cs =>
    have := decidablePlacedBetween source l.start.offset l.stop.offset cs
    inferInstanceAs (Decidable (_ ∧ _ ∧ (_ → _) ∧ _))

instance decidablePlacedBetween (source : List Char) (low high : Nat) :
    (ts : List Tree) → Decidable (PlacedBetween source low high ts)
  | [] => inferInstanceAs (Decidable (low ≤ high))
  | t :: ts =>
    have := decidablePlaced source t
    have := decidablePlacedBetween source t.stop.offset high ts
    inferInstanceAs (Decidable (_ ∧ _ ∧ _))

end

variable {source : List Char} {t u v : Tree}

mutual

theorem Placed.offset_le {t : Tree} (h : t.Placed source) : t.start.offset ≤ t.stop.offset := by
  cases t with
  | node l cs => exact PlacedBetween.le h.2.2.2

theorem PlacedBetween.le {low high : Nat} {ts : List Tree}
    (h : PlacedBetween source low high ts) : low ≤ high := by
  cases ts with
  | nil => exact h
  | cons t ts =>
      obtain ⟨hlow, ht, hts⟩ := h
      exact hlow.trans (ht.offset_le.trans hts.le)

end

namespace Placed

theorem start_isIn (h : t.Placed source) : t.start.IsIn source := by
  cases t with
  | node l cs => exact h.1

theorem stop_isIn (h : t.Placed source) : t.stop.IsIn source := by
  cases t with
  | node l cs => exact h.2.1

theorem bodyAfterColon (h : t.Placed source) (hk : t.kind = .withStatement) : t.BodyAfterColon := by
  cases t with
  | node l cs => exact h.2.2.1 hk

end Placed

/-- `u` stands in the stretch of `t`. -/
structure Inside (source : List Char) (t u : Tree) : Prop where
  placed : u.Placed source
  start_le : t.start.offset ≤ u.start.offset
  stop_le : u.stop.offset ≤ t.stop.offset

theorem inside_of_mem {low high : Nat} {ts : List Tree} (h : PlacedBetween source low high ts)
    (hu : u ∈ ts) : u.Placed source ∧ low ≤ u.start.offset ∧ u.stop.offset ≤ high := by
  induction ts generalizing low with
  | nil => cases hu
  | cons t ts ih =>
      obtain ⟨hlow, ht, hts⟩ := h
      rcases List.mem_cons.1 hu with rfl | hu
      · exact ⟨ht, hlow, hts.le⟩
      · obtain ⟨hplaced, hstart, hstop⟩ := ih hts hu
        exact ⟨hplaced, hlow.trans (ht.offset_le.trans hstart), hstop⟩

/-- Each of some siblings ends before those after it start. -/
theorem PlacedBetween.pairwise {low high : Nat} {ts : List Tree}
    (h : PlacedBetween source low high ts) :
    ts.Pairwise fun u v => u.stop.offset ≤ v.start.offset := by
  induction ts generalizing low with
  | nil => exact List.Pairwise.nil
  | cons t ts ih =>
      obtain ⟨-, -, hts⟩ := h
      exact List.Pairwise.cons (fun u hu => (inside_of_mem hts hu).2.1) (ih hts)

theorem Placed.pairwise_children (h : t.Placed source) :
    t.children.Pairwise fun u v => u.stop.offset ≤ v.start.offset := by
  cases t with
  | node l cs => exact h.2.2.2.pairwise

namespace Inside

theorem refl (h : t.Placed source) : Inside source t t := ⟨h, Nat.le_refl _, Nat.le_refl _⟩

theorem child (h : Inside source t u) (hv : v ∈ u.children) : Inside source t v := by
  cases u with
  | node l cs =>
      obtain ⟨hplaced, hstart, hstop⟩ := inside_of_mem h.placed.2.2.2 hv
      exact ⟨hplaced, h.start_le.trans hstart, hstop.trans h.stop_le⟩

theorem part (h : Inside source t u) {role : Role} (hv : u.part? role = some v) :
    Inside source t v :=
  h.child (List.mem_of_find?_eq_some hv)

theorem phrase (h : Inside source t u) (hv : v ∈ u.phrases) : Inside source t v :=
  h.child (List.mem_filter.1 hv).1

theorem trans (h : Inside source t u) (hv : Inside source u v) : Inside source t v :=
  ⟨hv.placed, h.start_le.trans hv.start_le, hv.stop_le.trans h.stop_le⟩

end Inside

-- From here on `Placed` is opened through these lemmas only, whatever tree it is about.
attribute [irreducible] Placed PlacedBetween

/-! ## Every node of a tree -/

/-- All nodes of a tree have a property, which is one of what a node says about itself and of its
children. -/
inductive Each (P : Label → List Tree → Prop) : Tree → Prop where
  | node {l : Label} {cs : List Tree} (h : P l cs) (hs : ∀ c ∈ cs, Each P c) : Each P (.node l cs)

namespace Each

variable {P : Label → List Tree → Prop}

theorem self (h : t.Each P) : P t.label t.children := by
  cases h with
  | node h _ => exact h

theorem child (h : t.Each P) (hu : u ∈ t.children) : u.Each P := by
  cases h with
  | node _ hs => exact hs u hu

theorem imp {Q : Label → List Tree → Prop} (h : t.Each P) (himp : ∀ l cs, P l cs → Q l cs) :
    t.Each Q := by
  induction h with
  | node h _ ih => exact .node (himp _ _ h) ih

end Each

/-- Below the root comments have no children. -/
def CommentsBare (t : Tree) : Prop :=
  ∀ c ∈ t.children, c.Each fun l cs => l.kind = .comment → cs = []

theorem CommentsBare.child (h : t.CommentsBare) (hu : u ∈ t.children) : u.CommentsBare :=
  fun _ hc => (h u hu).child hc

/-- An identifier whose part something is taken of is in a single row. -/
def NamesInRow (t : Tree) : Prop :=
  t.Each fun l _ => l.kind = .identifier → l.role = some .object → l.start.row = l.stop.row

/-! ## Rows of a node -/

/-- A row of the script that holds some of a node: one of its lines, from the row where the node
starts to the last with content. -/
structure HoldsRow (source : List Char) (t : Tree) (row : Nat) : Prop where
  start_le : t.start.row ≤ row
  le_lastRow : row ≤ t.lastRow
  lt_lines : row < (Text.lines source).length

theorem HoldsRow.of_le {row row' : Nat} (h : t.HoldsRow source row) (hstart : t.start.row ≤ row')
    (hle : row' ≤ row) : t.HoldsRow source row' :=
  ⟨hstart, hle.trans h.le_lastRow, Nat.lt_of_le_of_lt hle h.lt_lines⟩

/-- A character between the ends of a node that is no line feed stands in a row of the node. -/
theorem Placed.holdsRow (h : t.Placed source) {k : Nat} {c : Char} (hstart : t.start.offset ≤ k)
    (hstop : k < t.stop.offset) (hk : source[k]? = some c) (hc : c ≠ '\n') :
    t.HoldsRow source (Text.rowAt source k) := by
  refine ⟨?_, ?_, Text.rowAt_lt_length_lines hk hc⟩
  · rw [h.start_isIn.row_eq]
    exact Text.rowAt_mono source hstart
  · have hrow : Text.rowAt source k ≤ t.stop.row := by
      rw [h.stop_isIn.row_eq]
      exact Text.rowAt_mono source (Nat.le_of_lt hstop)
    rw [lastRow]
    split
    · -- the node ends with a line feed, and the character comes before that
      rename_i hcolumn
      obtain ⟨m, hm⟩ : ∃ m, t.stop.offset = m + 1 := ⟨t.stop.offset - 1, by omega⟩
      have hfeed := h.stop_isIn.newline_before hcolumn.1 hm
      have hne : k ≠ m := by
        rintro rfl
        rw [hk] at hfeed
        exact hc (Option.some.inj hfeed)
      have hbefore : Text.rowAt source k ≤ Text.rowAt source m := Text.rowAt_mono source (by omega)
      have hstopRow : t.stop.row = Text.rowAt source m + 1 := by
        rw [h.stop_isIn.row_eq, hm, Text.rowAt_succ hfeed]
      omega
    · exact hrow

/-- A character of the text of a node that is no line feed, and the row counted from the start of
that node. -/
theorem Inside.holdsRow (ht : t.Placed source) (h : Inside source t u) {j : Nat} {c : Char}
    (hj : (u.text source)[j]? = some c) (hc : c ≠ '\n') :
    t.HoldsRow source (u.start.row + Text.rowAt (u.text source) j) := by
  rw [text, List.getElem?_take, List.getElem?_drop] at hj
  split at hj
  · rename_i hlt
    have hrow : Text.rowAt source (u.start.offset + j) =
        u.start.row + Text.rowAt (u.text source) j := by
      rw [h.placed.start_isIn.row_eq, Text.rowAt_add, text, Text.rowAt_take (Nat.le_of_lt hlt)]
    rw [← hrow]
    have hstart := h.start_le
    have hstop := h.stop_le
    exact ht.holdsRow (by omega) (by omega) hj hc
  · cases hj

end Tree

end CellScript.Python
