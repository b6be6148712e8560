import CellScript.Proofs.Python.Placed
import CellScript.Proofs.Text.Crlf
import Mathlib.Data.List.Forall2

set_option autoImplicit false

/-! # Trees of the same shape

Two trees have the same shape if their nodes go together, kind by kind, and stand in the same rows
and columns: `Tree.SameShape`. The places in a text with short line ends and in the same text with
long ones are tied by their rows and columns, `Position.IsIn.offset_crlf`; so if one tree stands in
each text, `Tree.Twins`, nodes that go together have the same text but for the line ends,
`Tree.Twins.text_eq`. -/

namespace CellScript

/-! ## In step -/

section

variable {α β γ δ : Type} {r : α → β → Prop} {p : α → Bool} {q : β → Bool}

theorem rel_find?_true {xs : List α} {ys : List β} (h : List.Forall₂ r xs ys)
    (hpq : ∀ x y, r x y → p x = q y) :
    Option.Rel (fun x y => r x y ∧ p x = true) (xs.find? p) (ys.find? q) := by
  induction h with
  | nil => exact .none
  | cons hxy _ ih =>
      rw [List.find?_cons, List.find?_cons, ← hpq _ _ hxy]
      split
      · exact .some ⟨hxy, ‹_›⟩
      · exact ih

theorem rel_find? {xs : List α} {ys : List β} (h : List.Forall₂ r xs ys)
    (hpq : ∀ x y, r x y → p x = q y) : Option.Rel r (xs.find? p) (ys.find? q) := by
  have hfind := rel_find?_true h hpq
  generalize xs.find? p = x, ys.find? q = y at hfind
  cases hfind with
  | none => exact .none
  | some hxy => exact .some hxy.1

theorem rel_takeWhile {xs : List α} {ys : List β} (h : List.Forall₂ r xs ys)
    (hpq : ∀ x y, r x y → p x = q y) : List.Forall₂ r (xs.takeWhile p) (ys.takeWhile q) := by
  induction h with
  | nil => exact .nil
  | cons hxy _ ih =>
      rw [List.takeWhile_cons, List.takeWhile_cons, hpq _ _ hxy]
      split
      · exact .cons hxy ih
      · exact .nil

theorem rel_filter {xs : List α} {ys : List β} (h : List.Forall₂ r xs ys)
    (hpq : ∀ x y, r x y → p x = q y) : List.Forall₂ r (xs.filter p) (ys.filter q) :=
  List.rel_filter (fun x y hxy => iff_of_eq (congrArg (· = true) (hpq x y hxy))) h

theorem any_eq_of_forall₂ {xs : List α} {ys : List β} (h : List.Forall₂ r xs ys)
    (hpq : ∀ x y, r x y → p x = q y) : xs.any p = ys.any q := by
  induction h with
  | nil => rfl
  | cons hxy _ ih => rw [List.any_cons, List.any_cons, hpq _ _ hxy, ih]

theorem rel_bind {s : γ → δ → Prop} {x : Option α} {y : Option β} {f : α → Option γ}
    {g : β → Option δ} (h : Option.Rel r x y) (hfg : ∀ a b, r a b → Option.Rel s (f a) (g b)) :
    Option.Rel s (x.bind f) (y.bind g) := by
  cases h with
  | none => exact .none
  | some hab => exact hfg _ _ hab

theorem exists_of_rel_some {x : Option α} {y : Option β} {a : α}
    (h : Option.Rel r x y) (hx : x = some a) : ∃ b, y = some b ∧ r a b := by
  subst hx
  cases h with
  | some hab => exact ⟨_, rfl, hab⟩

theorem exists_of_forall₂_single {xs : List α} {ys : List β}
    {x : α} (h : List.Forall₂ r xs ys) (hx : xs = [x]) : ∃ y, ys = [y] ∧ r x y := by
  subst hx
  obtain ⟨y, rest, hxy, hrest, rfl⟩ := List.forall₂_cons_left_iff.1 h
  exact ⟨y, by rw [List.forall₂_nil_left_iff.1 hrest], hxy⟩

end

namespace Python

/-! ## Places -/

/-- Two positions are in the same row and column. -/
structure Position.Agrees (p q : Position) : Prop where
  row : p.row = q.row
  column : p.column = q.column

instance (p q : Position) : Decidable (p.Agrees q) :=
  decidable_of_iff (p.row = q.row ∧ p.column = q.column) ⟨fun h => ⟨h.1, h.2⟩, fun h => ⟨h.1, h.2⟩⟩

namespace Position

variable {s : List Char} {p q p' q' : Position}

/-- A position is in a row above that of another, or further left in the same row. -/
def Before (p q : Position) : Prop := p.row < q.row ∨ p.row = q.row ∧ p.column < q.column

theorem before_next (p : Position) (c : Char) : p.Before (p.next c) := by
  rw [next]
  split
  · exact .inl (Nat.lt_succ_self _)
  · exact .inr ⟨rfl, Nat.lt_add_of_pos_right c.utf8Size_pos⟩

theorem Before.trans {u : Position} (h : p.Before q) (hu : q.Before u) : p.Before u := by
  unfold Before at *
  omega

theorem before_after_cons (p : Position) (c : Char) (t : List Char) :
    p.Before (p.after (c :: t)) := by
  induction t generalizing p c with
  | nil => exact p.before_next c
  | cons d t ih => exact (p.before_next c).trans (ih (p.next c) d)

theorem Agrees.not_before (h : p.Agrees q) : ¬ p.Before q := by
  have hrow := h.row
  have hcolumn := h.column
  unfold Before
  omega

namespace IsIn

theorem offset_le_of_agrees (hp : p.IsIn s) (hq : q.IsIn s) (h : p.Agrees q) :
    q.offset ≤ p.offset := by
  by_contra hlt
  obtain ⟨k, hk⟩ : ∃ k, q.offset = p.offset + k := ⟨q.offset - p.offset, by omega⟩
  have hafter : q = p.after ((s.drop p.offset).take k) := by
    rw [hq.eq_after, hk, List.take_add, after_append, ← hp.eq_after]
  cases hmore : (s.drop p.offset).take k with
  | nil =>
      have hoffset := congrArg offset hafter
      rw [hmore] at hoffset
      exact hlt (Nat.le_of_eq hoffset)
  | cons c t =>
      rw [hafter, hmore] at h
      exact h.not_before (p.before_after_cons c t)

/-- A place of a text is known by its row and column. -/
theorem offset_eq_of_agrees (hp : p.IsIn s) (hq : q.IsIn s) (h : p.Agrees q) :
    p.offset = q.offset :=
  Nat.le_antisymm (hq.offset_le_of_agrees hp ⟨h.row.symm, h.column.symm⟩)
    (hp.offset_le_of_agrees hq h)

end IsIn

/-- Long line ends are as good as short ones for rows and for columns. -/
theorem Agrees.after_crlf (h : p.Agrees q) (t : Text) :
    (p.after t).Agrees (q.after (Text.crlf t)) := by
  induction t generalizing p q with
  | nil => exact h
  | cons c t ih =>
      by_cases hc : c = '\n'
      · subst hc
        exact ih ⟨congrArg (· + 1) h.row, rfl⟩
      · rw [Text.crlf_cons_of_ne hc]
        refine ih ?_
        rw [next, if_neg hc, next, if_neg hc]
        exact ⟨h.row, congrArg (· + c.utf8Size) h.column⟩

/-- The place with the same row and column in the text with long line ends. -/
theorem IsIn.offset_crlf (hp : p.IsIn s) (hq : q.IsIn (Text.crlf s)) (h : p.Agrees q) :
    q.offset = (Text.crlf (s.take p.offset)).length := by
  have hoffset : (start.after (Text.crlf (s.take p.offset))).offset =
      (Text.crlf (s.take p.offset)).length := by
    rw [offset_after]
    exact Nat.zero_add _
  have hle : (Text.crlf (s.take p.offset)).length ≤ (Text.crlf s).length := by
    rw [← Text.take_crlf]
    exact List.length_take_le' _ _
  have hplace : (start.after (Text.crlf (s.take p.offset))).IsIn (Text.crlf s) := by
    refine ⟨hoffset.trans_le hle, ?_⟩
    rw [hoffset, Text.take_crlf]
  have hagrees : p.Agrees (start.after (Text.crlf (s.take p.offset))) := by
    have hstart : start.Agrees start := ⟨rfl, rfl⟩
    have hafter := hstart.after_crlf (s.take p.offset)
    rwa [← hp.eq_after] at hafter
  rw [← hoffset]
  exact hq.offset_eq_of_agrees hplace
    ⟨h.row.symm.trans hagrees.row, h.column.symm.trans hagrees.column⟩

end Position

/-! ## Shapes -/

/-- Two nodes are of the same kind, play the same role and stand in the same rows and columns. -/
structure Label.Agrees (l m : Label) : Prop where
  kind : l.kind = m.kind
  named : l.named = m.named
  role : l.role = m.role
  start : l.start.Agrees m.start
  stop : l.stop.Agrees m.stop
  missing : l.missing = m.missing

instance (l m : Label) : Decidable (l.Agrees m) :=
  decidable_of_iff (l.kind = m.kind ∧ l.named = m.named ∧ l.role = m.role ∧
      l.start.Agrees m.start ∧ l.stop.Agrees m.stop ∧ l.missing = m.missing)
    ⟨fun h => ⟨h.1, h.2.1, h.2.2.1, h.2.2.2.1, h.2.2.2.2.1, h.2.2.2.2.2⟩,
      fun h => ⟨h.1, h.2, h.3, h.4, h.5, h.6⟩⟩

namespace Tree

mutual

/-- Two trees have the same shape, and their nodes the same rows and columns. -/
def SameShape : Tree → Tree → Prop
  | .node l cs, .node m ds => l.Agrees m ∧ SameShapes cs ds

/-- Trees have the same shapes, one by one. -/
def SameShapes : List Tree → List Tree → Prop
  | [], [] => True
  | t :: ts, u :: us => t.SameShape u ∧ SameShapes ts us
  | _, _ => False

end

mutual

instance decidableSameShape : (t u : Tree) → Decidable (t.SameShape u)
  | .node _ cs, .node _ ds =>
    have := decidableSameShapes cs ds
    inferInstanceAs (Decidable (_ ∧ _))

instance decidableSameShapes : (ts us : List Tree) → Decidable (SameShapes ts us)
  | [], [] => inferInstanceAs (Decidable True)
  | t :: ts, u :: us =>
    have := decidableSameShape t u
    have := decidableSameShapes ts us
    inferInstanceAs (Decidable (_ ∧ _))
  | [], _ :: _ => inferInstanceAs (Decidable False)
  | _ :: _, [] => inferInstanceAs (Decidable False)

end

/-! ## Twins -/

/-- A tree that stands in a text, and one of the same shape that stands in the text with long line
ends. -/
structure Twins (s : Text) (t u : Tree) : Prop where
  shape : t.SameShape u
  short : t.Each fun l _ => l.start.IsIn s ∧ l.stop.IsIn s
  long : u.Each fun l _ => l.start.IsIn (Text.crlf s) ∧ l.stop.IsIn (Text.crlf s)
  names : t.NamesInRow

variable {s : Text} {t u : Tree}

theorem forall₂_twins {ts us : List Tree} (h : SameShapes ts us)
    (hshort : ∀ t ∈ ts, t.Each fun l _ => l.start.IsIn s ∧ l.stop.IsIn s)
    (hlong : ∀ u ∈ us, u.Each fun l _ =>
      l.start.IsIn (Text.crlf s) ∧ l.stop.IsIn (Text.crlf s))
    (hnames : ∀ t ∈ ts, t.NamesInRow) : List.Forall₂ (Twins s) ts us := by
  induction ts generalizing us with
  | nil =>
      cases us with
      | nil => exact .nil
      | cons u us => exact h.elim
  | cons t ts ih =>
      cases us with
      | nil => exact h.elim
      | cons u us =>
          obtain ⟨ht, hts⟩ := List.forall_mem_cons.1 hshort
          obtain ⟨hu, hus⟩ := List.forall_mem_cons.1 hlong
          obtain ⟨hn, hns⟩ := List.forall_mem_cons.1 hnames
          exact .cons ⟨h.1, ht, hu, hn⟩ (ih h.2 hts hus hns)

namespace Twins

theorem label (h : t.Twins s u) : t.label.Agrees u.label := by
  cases t with
  | node l cs =>
      cases u with
      | node m ds => exact h.shape.1

theorem kind_eq (h : t.Twins s u) : t.kind = u.kind := h.label.kind

theorem children (h : t.Twins s u) :
    List.Forall₂ (Tree.Twins s) t.children u.children := by
  refine forall₂_twins ?_ (fun _ hc => h.short.child hc) (fun _ hd => h.long.child hd)
    fun _ hc => h.names.child hc
  cases t with
  | node l cs =>
      cases u with
      | node m ds => exact h.shape.2

-- From here on shapes are opened through these lemmas only, whatever trees they are about.
attribute [irreducible] SameShape SameShapes

theorem part? (h : t.Twins s u) (role : Role) :
    Option.Rel (Tree.Twins s) (t.part? role) (u.part? role) :=
  rel_find? h.children fun _ _ hc => by rw [hc.label.role]

theorem phrases (h : t.Twins s u) : List.Forall₂ (Tree.Twins s) t.phrases u.phrases :=
  rel_filter h.children fun _ _ hc => by rw [hc.label.named, hc.kind_eq]

theorem lastRow_eq (h : t.Twins s u) : t.lastRow = u.lastRow := by
  have hstart := h.label.start
  have hstop := h.label.stop
  unfold lastRow start stop
  rw [hstart.row, hstop.row, hstop.column]

theorem start_offset (h : t.Twins s u) :
    u.start.offset = (Text.crlf (s.take t.start.offset)).length :=
  h.short.self.1.offset_crlf h.long.self.1 h.label.start

theorem stop_offset (h : t.Twins s u) :
    u.stop.offset = (Text.crlf (s.take t.stop.offset)).length :=
  h.short.self.2.offset_crlf h.long.self.2 h.label.stop

/-- **Nodes that go together have the same text, but for the line ends.** -/
theorem text_eq (h : t.Twins s u) : u.text (Text.crlf s) = Text.crlf (t.text s) := by
  rw [text, h.start_offset, h.stop_offset, Text.slice_crlf]
  rfl

end Twins

theorem not_mem_text {c : Char} (h : c ∉ s) (t : Tree) : c ∉ t.text s :=
  Text.not_mem_slice h _ _

/-- The text of a node in a single row has no line feed. -/
theorem not_mem_text_of_row_eq (hstart : t.start.IsIn s) (hstop : t.stop.IsIn s)
    (h : t.start.row = t.stop.row) : '\n' ∉ t.text s := by
  rcases Nat.le_total t.start.offset t.stop.offset with hle | hle
  · obtain ⟨k, hk⟩ : ∃ k, t.stop.offset = t.start.offset + k :=
      ⟨t.stop.offset - t.start.offset, by omega⟩
    rw [hstart.row_eq, hstop.row_eq, hk, Text.rowAt_add] at h
    have hcount : ((s.drop t.start.offset).take k).count '\n' = 0 := Nat.left_eq_add.1 h
    rw [text, hk, Nat.add_sub_cancel_left]
    exact List.count_eq_zero.1 hcount
  · rw [text, Nat.sub_eq_zero_of_le hle]
    exact List.not_mem_nil

namespace Twins

/-- A word without a line feed is the text of one node if it is that of the other. -/
theorem text_eq_iff (h : t.Twins s u) (hs : '\r' ∉ s) (word : Text) (hw : '\n' ∉ word) :
    u.text (Text.crlf s) = word ↔ t.text s = word := by
  rw [h.text_eq]
  refine Text.crlf_eq_iff (not_mem_text hs t) (fun hlong => hw ?_) fun hn => absurd hn hw
  exact hlong.subset (by decide)

/-- The name of an object is the given one in both trees or in none. -/
theorem text_eq_name_iff (h : t.Twins s u) (hs : '\r' ∉ s) {name : Text}
    (hname : ¬ Text.longEnd <:+: name) (hk : t.kind = .identifier)
    (hrole : t.label.role = some .object) : u.text (Text.crlf s) = name ↔ t.text s = name := by
  rw [h.text_eq]
  refine Text.crlf_eq_iff (not_mem_text hs t) hname fun _ => ?_
  obtain ⟨hstart, hstop⟩ := h.short.self
  exact not_mem_text_of_row_eq hstart hstop (h.names.self hk hrole)

end Twins

end Tree

end Python

end CellScript
