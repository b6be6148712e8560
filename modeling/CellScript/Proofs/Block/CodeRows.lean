import CellScript.Proofs.Block.Content
import CellScript.Proofs.Block.Walk
import CellScript.Script.Read

set_option autoImplicit false

/-! # What the rows of a code block give

The content of a code block is put together from what each of its rows gives, `RowGives`, and a row
is judged by its own text. So a row inside a string literal can go as a placeholder, or lose a `#`,
like any other: `Block.keepsStrings_iff` says which rows have to be absent for the strings of a
block to stay as they are. -/

namespace CellScript

open Python

/-! ## Single rows -/

/-- A line begins as the comment form of one that the notebook runs itself. -/
def IsMarked (t : Text) : Prop := ['#', '!'] <+: t ∨ ['#', '%'] <+: t

/-- A line is the placeholder, whatever blanks follow it. -/
def IsPlaceholder (t : Text) : Prop := Text.trimEnd t = placeholder

instance (t : Text) : Decidable (IsMarked t) := inferInstanceAs (Decidable (_ ∨ _))

instance (t : Text) : Decidable (IsPlaceholder t) := inferInstanceAs (Decidable (_ = _))

/-- The lines of content that a row of a code block gives. -/
inductive RowGives (indent : Nat) : Text → List Text → Prop where
  /-- A blank row gives an empty line. -/
  | blank {t : Text} (h : Text.isBlank t = true) : RowGives indent t [[]]
  /-- A placeholder gives nothing. -/
  | placeholder {t u : Text} (ht : Text.isBlank t = false) (hu : Dedents indent t u)
      (hp : IsPlaceholder u) : RowGives indent t []
  /-- A marked row gives its line without the `#`. -/
  | marked {t u : Text} (ht : Text.isBlank t = false) (hu : Dedents indent t u)
      (hp : ¬ IsPlaceholder u) (hm : IsMarked u) : RowGives indent t [u.tail]
  /-- Any other row gives its line. -/
  | line {t u : Text} (ht : Text.isBlank t = false) (hu : Dedents indent t u)
      (hp : ¬ IsPlaceholder u) (hm : ¬ IsMarked u) : RowGives indent t [u]

theorem unescapeLine_of_isMarked {t : Text} (h : IsMarked t) : unescapeLine t = t.tail := by
  rcases h with ⟨u, rfl⟩ | ⟨u, rfl⟩ <;> rfl

theorem tail_ne_of_isMarked {t : Text} (h : IsMarked t) : t.tail ≠ t := by
  rcases h with ⟨u, rfl⟩ | ⟨u, rfl⟩ <;> simp

theorem unescapeLine_of_not_isMarked {t : Text} (h : ¬ IsMarked t) : unescapeLine t = t := by
  unfold unescapeLine
  split
  · rename_i u
    exact absurd (.inl ⟨u, rfl⟩) h
  · rename_i u
    exact absurd (.inr ⟨u, rfl⟩) h
  · rfl

theorem keptLine?_of_isPlaceholder {t : Text} (h : IsPlaceholder t) : keptLine? t = none :=
  if_pos h

theorem keptLine?_of_not_isPlaceholder {t : Text} (h : ¬ IsPlaceholder t) :
    keptLine? t = some (unescapeLine t) :=
  if_neg h

/-- What a row gives is what becomes of its dedented line. -/
theorem rowGives_iff {indent : Nat} {t : Text} {piece : List Text} :
    RowGives indent t piece ↔ ∃ u, Dedents indent t u ∧ piece = (keptLine? u).toList := by
  constructor
  · intro h
    cases h with
    | blank h => exact ⟨[], dedents_of_isBlank h, by decide⟩
    | placeholder ht hu hp => exact ⟨_, hu, by rw [keptLine?_of_isPlaceholder hp]; rfl⟩
    | marked ht hu hp hm =>
        refine ⟨_, hu, ?_⟩
        rw [keptLine?_of_not_isPlaceholder hp, unescapeLine_of_isMarked hm]
        rfl
    | line ht hu hp hm =>
        refine ⟨_, hu, ?_⟩
        rw [keptLine?_of_not_isPlaceholder hp, unescapeLine_of_not_isMarked hm]
        rfl
  · rintro ⟨u, hu, rfl⟩
    by_cases ht : Text.isBlank t = true
    · -- the empty line that is left is no placeholder
      rw [Dedents, if_pos ht] at hu
      rw [hu]
      exact .blank ht
    · rw [Bool.not_eq_true] at ht
      by_cases hp : IsPlaceholder u
      · rw [keptLine?_of_isPlaceholder hp]
        exact .placeholder ht hu hp
      · rw [keptLine?_of_not_isPlaceholder hp]
        by_cases hm : IsMarked u
        · rw [unescapeLine_of_isMarked hm]
          exact .marked ht hu hp hm
        · rw [unescapeLine_of_not_isMarked hm]
          exact .line ht hu hp hm

/-- A row gives its line without the indentation exactly if that line is neither a placeholder nor
marked. -/
theorem RowGives.eq_drop_iff {indent : Nat} {t : Text} {piece : List Text}
    (h : RowGives indent t piece) (ht : Text.isBlank t = false) :
    piece = [t.drop indent] ↔
      ¬ IsPlaceholder (t.drop indent) ∧ ¬ IsMarked (t.drop indent) := by
  cases h with
  | blank hb =>
      rw [ht] at hb
      cases hb
  | placeholder _ hu hp =>
      rw [← hu.eq_drop ht]
      simp [hp]
  | marked _ hu hp hm =>
      rw [← hu.eq_drop ht]
      simp [hm, tail_ne_of_isMarked hm]
  | line _ hu hp hm =>
      rw [← hu.eq_drop ht]
      simp [hp, hm]

/-! ## All rows of a block -/

/-- What the rows of a stretch of a script give, row by row. -/
def RowsGive (indent : Nat) (rows : List (Nat × Text)) (pieces : List (List Text)) : Prop :=
  List.Forall₂ (fun r piece => RowGives indent r.2 piece) rows pieces

/-- What rows give is what becomes of their dedented lines. -/
theorem rowsGive_iff {indent : Nat} {rows : List (Nat × Text)} {pieces : List (List Text)} :
    RowsGive indent rows pieces ↔
      ∃ ts, List.Forall₂ (Dedents indent) (rows.map Prod.snd) ts ∧
        pieces = ts.map fun u => (keptLine? u).toList := by
  constructor
  · intro h
    induction h with
    | nil => exact ⟨[], List.Forall₂.nil, rfl⟩
    | cons hr _ ih =>
        obtain ⟨u, hu, rfl⟩ := rowGives_iff.1 hr
        obtain ⟨ts, hts, rfl⟩ := ih
        exact ⟨u :: ts, List.Forall₂.cons hu hts, rfl⟩
  · rintro ⟨ts, hts, rfl⟩
    rw [List.forall₂_map_left_iff] at hts
    rw [RowsGive, List.forall₂_map_right_iff]
    exact hts.imp fun _ u hu => rowGives_iff.2 ⟨u, hu, rfl⟩

/-- Code is put together from what its rows give. -/
theorem codeLines_eq_ok_iff_rowsGive {indent : Nat} {rows : List (Nat × Text)}
    {content : List Text} :
    codeLines indent rows = .ok content ↔
      ∃ pieces, RowsGive indent rows pieces ∧ content = pieces.flatten := by
  have hflatten : ∀ ts : List Text,
      (ts.map fun u => (keptLine? u).toList).flatten = ts.filterMap keptLine? := by
    intro ts
    rw [List.filterMap_eq_flatMap_toList]
    rfl
  rw [codeLines_eq_ok_iff]
  constructor
  · rintro ⟨ts, hts, rfl⟩
    exact ⟨_, rowsGive_iff.2 ⟨ts, hts, rfl⟩, (hflatten ts).symm⟩
  · rintro ⟨pieces, hpieces, rfl⟩
    obtain ⟨ts, hts, rfl⟩ := rowsGive_iff.1 hpieces
    exact ⟨ts, hts, hflatten ts⟩

theorem cell_executable_iff {source : Text} {lines : List Text} {b : Block} {content : List Text} :
    b.cell source lines = .ok ⟨.executable, content⟩ ↔
      b.kind = .executable ∧ b.span.start ≤ b.span.stop ∧
        ∃ pieces, RowsGive b.span.indent (b.span.rowsOf lines) pieces ∧
          content = dropEmptyEnd pieces.flatten := by
  have hcode : (codeLines b.span.indent (b.span.rowsOf lines)).map
      (fun c => (⟨.executable, dropEmptyEnd c⟩ : Cell)) = .ok ⟨.executable, content⟩ ↔
        ∃ pieces, RowsGive b.span.indent (b.span.rowsOf lines) pieces ∧
          content = dropEmptyEnd pieces.flatten := by
    rw [map_eq_ok]
    constructor
    · rintro ⟨c, hc, h⟩
      obtain ⟨pieces, hpieces, rfl⟩ := codeLines_eq_ok_iff_rowsGive.1 hc
      exact ⟨pieces, hpieces, (Cell.mk.inj h).2.symm⟩
    · rintro ⟨pieces, hpieces, rfl⟩
      exact ⟨_, codeLines_eq_ok_iff_rowsGive.2 ⟨pieces, hpieces, rfl⟩, rfl⟩
  by_cases hspan : b.span.start ≤ b.span.stop
  · rw [Block.cell, if_neg (by omega)]
    cases hk : b.kind with
    | executable => simpa [hspan] using hcode
    | prose =>
        refine ⟨fun h => ?_, fun h => absurd h.1 (by decide)⟩
        obtain ⟨c, -, hc⟩ := map_eq_ok.1 h
        exact absurd (Cell.mk.inj hc).1 (by decide)
    | sandbox =>
        refine ⟨fun h => ?_, fun h => absurd h.1 (by decide)⟩
        exact absurd (Cell.mk.inj (Except.ok.inj h)).1 (by decide)
  · rw [Block.cell, if_pos (by omega)]
    refine ⟨fun h => ?_, fun h => absurd h.2.1 hspan⟩
    cases h

/-! ## Strings -/

mutual

/-- Whether a row begins inside a string literal of a tree. -/
def Python.Tree.rowInString (row : Nat) : Tree → Bool
  | .node l cs =>
    (l.kind == .string && l.start.row < row &&
      (row < l.stop.row || row == l.stop.row && 0 < l.stop.column)) || rowInStringOf row cs

/-- Whether a row begins inside a string literal of some trees. -/
def Python.Tree.rowInStringOf (row : Nat) : List Tree → Bool
  | [] => false
  | t :: ts => t.rowInString row || rowInStringOf row ts

end

/-- A row that begins inside a string literal and is not blank gives its line without the
indentation. -/
def KeepsStrings (indent : Nat) (t : Tree) (rows : List (Nat × Text)) (pieces : List (List Text)) :
    Prop :=
  List.Forall₂ (fun r piece => t.rowInString r.1 = true → Text.isBlank r.2 = false →
    piece = [r.2.drop indent]) rows pieces

theorem keepsStrings_iff_of_rowsGive {indent : Nat} {t : Tree} {rows : List (Nat × Text)}
    {pieces : List (List Text)} (h : RowsGive indent rows pieces) :
    KeepsStrings indent t rows pieces ↔
      ∀ r ∈ rows, t.rowInString r.1 = true → Text.isBlank r.2 = false →
        ¬ IsPlaceholder (r.2.drop indent) ∧ ¬ IsMarked (r.2.drop indent) := by
  rw [KeepsStrings]
  induction h with
  | nil => simp
  | cons hr _ ih =>
      rw [List.forall₂_cons, List.forall_mem_cons, ih]
      refine and_congr_left fun _ => forall_congr' fun _ => forall_congr' fun hb => ?_
      exact hr.eq_drop_iff hb

/-- **The content of a code block is what its rows give, and the rows inside string literals stay as
they are exactly if none of them is a placeholder or marked.** -/
theorem Block.keepsStrings_iff (source : Text) (lines : List Text) (b : Block) (t : Tree) :
    (∀ content, b.cell source lines = .ok ⟨.executable, content⟩ ↔
      b.kind = .executable ∧ b.span.start ≤ b.span.stop ∧
        ∃ pieces, RowsGive b.span.indent (b.span.rowsOf lines) pieces ∧
          content = dropEmptyEnd pieces.flatten) ∧
    ∀ pieces, RowsGive b.span.indent (b.span.rowsOf lines) pieces →
      (KeepsStrings b.span.indent t (b.span.rowsOf lines) pieces ↔
        ∀ r ∈ b.span.rowsOf lines, t.rowInString r.1 = true → Text.isBlank r.2 = false →
          ¬ IsPlaceholder (r.2.drop b.span.indent) ∧ ¬ IsMarked (r.2.drop b.span.indent)) := by
  exact ⟨fun _ => cell_executable_iff, fun _ => keepsStrings_iff_of_rowsGive⟩

/-- A block with a string literal over several rows. -/
def stringScript : Text :=
  "with herzog.Cell(\"python\"):\n    s = \"\"\"\n    pass\n    #!sh\n    \"\"\"\n".toList

/-- Of the rows of the literal one is gone and one has lost its `#`. -/
theorem string_rows_edited :
    ((Script.findings "herzog".toList stringScript).filterMap Find.answer?).map
        (fun a => a.toOption.map (·.span)) = [some ⟨0, 1, 4, 4⟩] ∧
      (Text.physicalLines stringScript)[2]? = some "    pass".toList ∧
      (Text.physicalLines stringScript)[3]? = some "    #!sh".toList ∧
      (Tree.ofText stringScript).rowInString 2 = true ∧
      (Tree.ofText stringScript).rowInString 3 = true ∧
      (Script.read {} stringScript).error = none ∧
      (Script.read {} stringScript).cells =
        [⟨.executable, ["s = \"\"\"".toList, "!sh".toList, "\"\"\"".toList]⟩] ∧
      ∀ c ∈ (Script.read {} stringScript).cells,
        "pass".toList ∉ c.content ∧ "#!sh".toList ∉ c.content := by
  decide +kernel

end CellScript
