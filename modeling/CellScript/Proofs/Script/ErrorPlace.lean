import CellScript.Proofs.Block.ErrorLine
import CellScript.Proofs.Block.GuardRow
import CellScript.Proofs.Script.Reading

set_option autoImplicit false

/-! # Errors point to where they come from

`error_place`: the error that ends the reading of a script names one of its lines. For text that
fits nowhere that line is in the text; for a block it is the line of the opener, and for indentation
that of the first shallow row, among those of the block. All this is said of trees that stand in
their text; `read_eq_readTree` is the case of the tree that the script has. -/

namespace CellScript

open Python

variable {ns source : Text} {t : Tree} {e : CellError}

/-! ## The error of a reading -/

/-- Read a script with the given tree. -/
def readTree (ns source : Text) (t : Tree) : Reading :=
  readFinds source (Text.physicalLines source) (finds ns source t)

theorem read_eq_readTree (o : ReadOptions) (source : Text) :
    Script.read o source = readTree o.guardModule source (Tree.ofText source) := rfl

/-- The error with which a find ends the reading, if it does. -/
def Find.failure? (source : Text) (lines : List Text) : Find → Option CellError
  | .discarded _ => none
  | .failed e => some e
  | .block b =>
    match b.checkedCell source lines with
    | .error e => some e
    | .ok _ => none

theorem Find.failure?_block {lines : List Text} {b : Block} :
    (Find.block b).failure? source lines = some e ↔ b.checkedCell source lines = .error e := by
  rw [Find.failure?]
  cases b.checkedCell source lines <;> simp

/-- The error of a reading is the first with which a find ends it. -/
theorem error_readFinds (lines : List Text) (fs : List Find) :
    (readFinds source lines fs).error = fs.findSome? (Find.failure? source lines) := by
  induction fs with
  | nil => rfl
  | cons f fs ih =>
      rw [List.findSome?_cons]
      cases f with
      | discarded line => exact ih
      | failed e => rfl
      | block b =>
          rw [readFinds, Find.failure?]
          cases b.checkedCell source lines with
          | error e => rfl
          | ok c => exact ih

/-- Reading comes to a block: nothing found before it ends the reading. -/
def Reaches (source : Text) (fs : List Find) (b : Block) : Prop :=
  ∃ before after, fs = before ++ .block b :: after ∧
    (readFinds source (Text.physicalLines source) before).error = none

theorem Reaches.mem {fs : List Find} {b : Block} (h : Reaches source fs b) : .block b ∈ fs := by
  obtain ⟨before, after, rfl, -⟩ := h
  simp

/-- What goes wrong with a block that reading comes to ends it. -/
theorem Reaches.error_eq {fs : List Find} {b : Block} (h : Reaches source fs b)
    (he : b.checkedCell source (Text.physicalLines source) = .error e) :
    (readFinds source (Text.physicalLines source) fs).error = some e := by
  obtain ⟨before, after, rfl, hbefore⟩ := h
  rw [error_readFinds] at hbefore ⊢
  rw [List.findSome?_append, hbefore, Option.none_or, List.findSome?_cons,
    Find.failure?_block.2 he]

/-- Reading ends with the failure of the walk or with an error of a block that it comes to. -/
theorem failed_or_reaches {fs : List Find}
    (h : (readFinds source (Text.physicalLines source) fs).error = some e) :
    .failed e ∈ fs ∨
      ∃ b, Reaches source fs b ∧ b.checkedCell source (Text.physicalLines source) = .error e := by
  rw [error_readFinds] at h
  obtain ⟨before, f, after, rfl, hf, hbefore⟩ := List.findSome?_eq_some_iff.1 h
  cases f with
  | discarded line => cases hf
  | failed e' =>
      obtain rfl := Option.some.inj hf
      exact .inl (by simp)
  | block b =>
      refine .inr ⟨b, ⟨before, after, rfl, ?_⟩, Find.failure?_block.1 hf⟩
      rw [error_readFinds]
      exact List.findSome?_eq_none_iff.2 hbefore

/-! ## Errors of blocks -/

theorem Python.Tree.Placed.inside_literal {body literal : Tree} (h : body.Placed source)
    (hl : proseLiteral? body = some literal) : body.Inside source literal := by
  obtain ⟨statement, hstatement, -, hliteral, -⟩ := proseLiteral?_eq_some_iff.1 hl
  have houter : body.Inside source statement :=
    (Tree.Inside.refl h).phrase (by rw [hstatement]; exact List.mem_singleton_self _)
  exact houter.phrase (by rw [hliteral]; exact List.mem_singleton_self _)

/-- A block that makes no cell is refused on the line of its opener, or for the indentation of one
of its rows. -/
theorem Block.Covers.line_of_checkedCell {b : Block} (hb : b.Covers source)
    (h : b.checkedCell source (Text.physicalLines source) = .error e) :
    (∃ row, e = .indentation (row + 1) ∧ b.span.start ≤ row ∧ row ≤ b.span.stop ∧
      row < (Text.lines source).length) ∨
    (∀ line, e ≠ .indentation line) ∧ e.line? = some (b.span.header + 1) := by
  rcases checkedCell_eq_error_iff.1 h with h | ⟨c, -, h⟩
  · cases Block.cell_eq_error_iff.1 h with
    | noRows | notLiteral | quotes => exact .inr ⟨fun _ => nofun, rfl⟩
    | @codeRow row _ _ hrow hle =>
        obtain ⟨k, c, hk, hc, rfl⟩ := Text.exists_char_of_isBlank_eq_false hrow.isShallow.1
        exact .inl ⟨_, rfl, hrow.first_le, hle, Text.rowAt_lt_length_lines hk hc⟩
    | @literalRow literal row _ _ hsome hrow =>
        -- what is not blank in the row is text of the literal, and so of the body
        obtain ⟨k, c, hk, hc, rfl⟩ := Text.exists_char_of_isBlank_eq_false hrow.isShallow.1
        have hholds := (hb.placed.inside_literal hsome).holdsRow hb.placed hk hc
        refine .inl ⟨_, ?_, hb.start_le.trans hholds.start_le, hholds.le_lastRow.trans hb.le_stop,
          hholds.lt_lines⟩
        rw [Nat.add_right_comm]
  · obtain ⟨flaw, rfl⟩ := Cell.eq_of_check h
    exact .inr ⟨fun _ => nofun, rfl⟩

/-- The check has nothing to say about indentation. -/
theorem checkedCell_eq_indentation_iff {lines : List Text} {b : Block} {line : Nat} :
    b.checkedCell source lines = .error (.indentation line) ↔
      b.Fails source lines (.indentation line) := by
  rw [checkedCell_eq_error_iff, Block.cell_eq_error_iff, or_iff_left_iff_imp]
  rintro ⟨c, -, h⟩
  obtain ⟨flaw, hflaw⟩ := Cell.eq_of_check h
  cases hflaw

/-- Code is refused for its indentation exactly if one of its rows is shallow. -/
theorem Block.Covers.indentation_code_iff {lines : List Text} {b : Block} (hb : b.Covers source)
    (hk : b.kind = .executable) {line : Nat} :
    b.checkedCell source lines = .error (.indentation line) ↔
      ∃ row, IsFirstShallow b.span.indent lines b.span.start row ∧ row ≤ b.span.stop ∧
        line = row + 1 := by
  rw [checkedCell_eq_indentation_iff]
  constructor
  · intro h
    cases h with
    | codeRow _ _ hrow hle => exact ⟨_, hrow, hle, rfl⟩
    | literalRow _ hk' => cases hk.symm.trans hk'
  · rintro ⟨row, hrow, hle, rfl⟩
    exact .codeRow hb.start_le_stop hk hrow hle

/-- A literal is refused for its indentation exactly if one of its rows after the first is shallow.
-/
theorem Block.Covers.indentation_prose_iff {lines : List Text} {b : Block} (hb : b.Covers source)
    (hk : b.kind = .prose) {literal : Tree} (hl : proseLiteral? b.body = some literal)
    {line : Nat} :
    b.checkedCell source lines = .error (.indentation line) ↔
      ∃ row, IsFirstShallow b.span.indent (Text.physicalLines (literal.text source)) 1 row ∧
        line = literal.start.row + 1 + row := by
  rw [checkedCell_eq_indentation_iff]
  constructor
  · intro h
    cases h with
    | codeRow _ hk' => cases hk.symm.trans hk'
    | literalRow _ _ hl' hrow =>
        obtain rfl := Option.some.inj (hl.symm.trans hl')
        exact ⟨_, hrow, rfl⟩
  · rintro ⟨row, hrow, rfl⟩
    exact .literalRow hb.start_le_stop hk hl hrow

/-! ## Where an error comes from -/

/-- What an error comes from in a tree, and where its line is there. -/
inductive ErrorAt (ns source : Text) (t : Tree) (e : CellError) (line : Nat) : Prop where
  /-- From text that fits nowhere: the line is in that text. -/
  | region {p : Place} {v : Visit} (place : Visit.at? ⟨t, []⟩ p = some v)
      (isError : v.tree.kind = .error) (error : errorOf? ns source v.tree = some e)
      (what : e = .malformed .noContent line ∨ e = .invalidCode .inBlock line)
      (start_le : v.tree.start.row + 1 ≤ line) (le_last : line ≤ v.tree.lastRow + 1)
  /-- From a statement that is refused as a block: the line is that of its opener. -/
  | statement {p : Place} {v : Visit} (place : Visit.at? ⟨t, []⟩ p = some v)
      (isWith : v.tree.kind = .withStatement)
      (error : Block.ofStatement? ns source v.tree v.after = .error e)
      (what : e.IsRefusal line) (line_eq : line = v.tree.start.row + 1)
  /-- From a block that makes no cell: the line is that of its opener, or one of its rows is
  indented wrongly. -/
  | block {b : Block} (reached : Reaches source (finds ns source t) b)
      (error : b.checkedCell source (Text.physicalLines source) = .error e)
      (opener : (∀ l, e ≠ .indentation l) → line = b.span.header + 1)
      (row : ∀ l, e = .indentation l → b.span.start + 1 ≤ line ∧ line ≤ b.span.stop + 1)

theorem exists_errorAt_of_failed (ht : t.Placed source) (h : .failed e ∈ finds ns source t) :
    ∃ row, e.line? = some (row + 1) ∧ row < (Text.lines source).length ∧
      ErrorAt ns source t e (row + 1) := by
  obtain ⟨p, v, hv, hm⟩ := exists_visit_of_mem_finds h
  have hplaced : v.tree.Placed source := (Visit.inside_of_at? ht hv).placed
  cases v.outcome ns source with
  | failedText e' hk herr hm' =>
      rw [hm'] at hm
      cases hm
      obtain ⟨row, hrow, hwhat⟩ := exists_row_of_errorOf? herr
      have hholds := holdsRow_of_errorRow hplaced hrow
      refine ⟨row, ?_, hholds.lt_lines, .region hv hk herr hwhat (Nat.succ_le_succ hholds.start_le)
        (Nat.succ_le_succ hholds.le_lastRow)⟩
      rcases hwhat with rfl | rfl <;> rfl
  | failedBlock e' hk hs hm' =>
      rw [hm'] at hm
      cases hm
      have hwhat := Block.isRefusal_of_ofStatement? hs
      have hguard : (Guard.ofStatement? ns source v.tree).isSome := by
        rw [Option.isSome_iff_ne_none]
        intro hnone
        rw [Block.ofStatement?_eq_none_iff.2 hnone] at hs
        cases hs
      exact ⟨_, hwhat.line?_eq, (holdsRow_of_guard hplaced hguard).lt_lines,
        .statement hv hk hs hwhat rfl⟩
  | discarded _ _ hm' | block _ _ _ hm' | below _ _ hm' =>
      rw [hm'] at hm
      cases hm

theorem covers_of_mem_finds (ht : t.Placed source) {b : Block}
    (h : .block b ∈ finds ns source t) : b.Covers source := by
  obtain ⟨p, v, hv, hm⟩ := exists_visit_of_mem_finds h
  exact Visit.covers_of_block (Visit.inside_of_at? ht hv).placed hm

theorem exists_errorAt_of_reaches (ht : t.Placed source) {b : Block}
    (h : Reaches source (finds ns source t) b)
    (herr : b.checkedCell source (Text.physicalLines source) = .error e) :
    ∃ row, e.line? = some (row + 1) ∧ row < (Text.lines source).length ∧
      ErrorAt ns source t e (row + 1) := by
  have hb := covers_of_mem_finds ht h.mem
  rcases hb.line_of_checkedCell herr with ⟨row, rfl, hstart, hstop, hlt⟩ | ⟨hne, hline⟩
  · refine ⟨row, rfl, hlt, .block h herr (fun hne => absurd rfl (hne _)) fun _ _ => ?_⟩
    exact ⟨Nat.succ_le_succ hstart, Nat.succ_le_succ hstop⟩
  · exact ⟨b.span.header, hline, hb.header_lt,
      .block h herr (fun _ => rfl) fun l hl => absurd hl (hne l)⟩

/-- **Errors point into what they come from.** An error names a line of the script: a line of the
text that fits nowhere, the line of an opener, or a row of a block that is indented wrongly. Reading
ends with the error of the first block that gives one, and that is about indentation exactly if a
row of the code, or a row of the one literal after its first, is shallow; it names the first. -/
theorem error_place (ns source : Text) (t : Tree) (ht : t.Placed source) :
    let lines := Text.physicalLines source
    (∀ e, (readTree ns source t).error = some e →
      ∃ line, e.line? = some line ∧ 1 ≤ line ∧ line ≤ (Text.lines source).length ∧
        ErrorAt ns source t e line) ∧
    (∀ b, Reaches source (finds ns source t) b →
      ∀ e, b.checkedCell source lines = .error e → (readTree ns source t).error = some e) ∧
    ∀ b, .block b ∈ finds ns source t →
      (b.kind = .executable → ∀ line,
        b.checkedCell source lines = .error (.indentation line) ↔
          ∃ row, IsFirstShallow b.span.indent lines b.span.start row ∧ row ≤ b.span.stop ∧
            line = row + 1) ∧
      ∀ literal, b.kind = .prose → proseLiteral? b.body = some literal → ∀ line,
        b.checkedCell source lines = .error (.indentation line) ↔
          ∃ row, IsFirstShallow b.span.indent (Text.physicalLines (literal.text source)) 1 row ∧
            line = literal.start.row + 1 + row := by
  intro lines
  refine ⟨fun e he => ?_, fun b hb e he => hb.error_eq he, fun b hb => ?_⟩
  · obtain ⟨row, hline, hlt, hat⟩ : ∃ row, e.line? = some (row + 1) ∧
        row < (Text.lines source).length ∧ ErrorAt ns source t e (row + 1) := by
      rcases failed_or_reaches he with hfailed | ⟨b, hb, hbe⟩
      · exact exists_errorAt_of_failed ht hfailed
      · exact exists_errorAt_of_reaches ht hb hbe
    exact ⟨row + 1, hline, Nat.le_add_left 1 row, hlt, hat⟩
  · have hcovers := covers_of_mem_finds ht hb
    exact ⟨fun hk _ => hcovers.indentation_code_iff hk,
      fun _ hk hl _ => hcovers.indentation_prose_iff hk hl⟩

/-- A block with a string literal that runs out of its indentation. -/
def shallowScript : Text :=
  "import herzog\nwith herzog.Cell(\"python\"):\n    s = \"\"\"\n  low\n    \"\"\"\n".toList

/-- The block of a script in which nothing else is found. -/
def onlyBlock? : List Find → Option Block
  | [.block b] => some b
  | _ => none

theorem eq_of_onlyBlock? {fs : List Find} {b : Block} (h : onlyBlock? fs = some b) :
    fs = [.block b] := by
  unfold onlyBlock? at h
  split at h
  · rw [Option.some.inj h]
  · cases h

/-- The tree of the script stands in it, and reading it ends in the fourth line, which is row `3`
and the second row of the block. -/
theorem error_place_low_row :
    (Tree.ofText shallowScript).Placed shallowScript ∧
      (Script.read {} shallowScript).error = some (.indentation 4) ∧
      ErrorAt "herzog".toList shallowScript (Tree.ofText shallowScript) (.indentation 4) 4 ∧
      ∃ b, finds "herzog".toList shallowScript (Tree.ofText shallowScript) = [.block b] ∧
        b.kind = .executable ∧ b.span = ⟨1, 2, 4, 4⟩ ∧
        b.checkedCell shallowScript (Text.physicalLines shallowScript) =
          .error (.indentation 4) := by
  have placed : (Tree.ofText shallowScript).Placed shallowScript := by decide +kernel
  have hread : (Script.read {} shallowScript).error = some (.indentation 4) := by decide +kernel
  have herror : (readTree "herzog".toList shallowScript (Tree.ofText shallowScript)).error =
      some (.indentation 4) := by
    rw [read_eq_readTree] at hread
    exact hread
  obtain ⟨hplace, -, hrows⟩ :=
    error_place "herzog".toList shallowScript (Tree.ofText shallowScript) placed
  obtain ⟨line, hline, -, -, hat⟩ := hplace _ herror
  obtain rfl : 4 = line := Option.some.inj hline
  refine ⟨placed, hread, hat, ?_⟩
  have hblock : (onlyBlock? (finds "herzog".toList shallowScript (Tree.ofText shallowScript))).map
      (fun b => (b.kind, b.span)) = some (.executable, ⟨1, 2, 4, 4⟩) := by decide +kernel
  obtain ⟨b, hb, hkind⟩ := Option.map_eq_some_iff.1 hblock
  obtain ⟨hk, hspan⟩ := Prod.mk.inj hkind
  have hfinds := eq_of_onlyBlock? hb
  refine ⟨b, hfinds, hk, hspan, ?_⟩
  have hmem : .block b ∈ finds "herzog".toList shallowScript (Tree.ofText shallowScript) := by
    rw [hfinds]
    exact List.mem_singleton_self _
  rw [(hrows b hmem).1 hk, hspan]
  refine ⟨3, ⟨by decide, by decide +kernel, ?_⟩, by decide, rfl⟩
  intro r hr hlt
  obtain rfl : r = 2 := Nat.le_antisymm (Nat.le_of_lt_succ hlt) hr
  decide +kernel

end CellScript
