import CellScript.Proofs.Block.ErrorLine
import CellScript.Proofs.Script.Reading

set_option autoImplicit false

/-! # All of a script or nothing

A script becomes a notebook if every block that the walk finds makes a cell, and then the notebook
has exactly those cells that a notebook can hold; if some answer of the walk makes none, the first
such answer decides the error, and nothing after it is looked at. `Script.toNotebook_exact` says
this of the notebook and of `CellIter`, which gives the cells one at a time. -/

namespace CellScript

open Python

/-! ## What an answer of the walk gives -/

/-- A block makes a cell: the walk found it, its content can be taken from the script, and the cell
passes the check. -/
def MakesCell (source : Text) (a : Except CellError Block) (c : Cell) : Prop :=
  ∃ b, a = .ok b ∧ b.cell source (Text.physicalLines source) = .ok c ∧
    c.check b.span.line = .ok () ∧ c.kind = b.kind

/-- An answer of the walk makes no cell, for one of three reasons. -/
inductive FailsWith (source : Text) : Except CellError Block → CellError → Prop where
  /-- The walk failed. -/
  | locating (e : CellError) : FailsWith source (.error e) e
  /-- The content cannot be taken from the script. -/
  | extracting {b : Block} {e : CellError}
      (h : b.cell source (Text.physicalLines source) = .error e) : FailsWith source (.ok b) e
  /-- The cell does not pass the check. -/
  | checking {b : Block} {c : Cell} {e : CellError}
      (hc : b.cell source (Text.physicalLines source) = .ok c)
      (h : c.check b.span.line = .error e) : FailsWith source (.ok b) e

variable {source : Text} {a : Except CellError Block} {c : Cell} {e : CellError}

theorem kind_of_cell {lines : List Text} {b : Block} (h : b.cell source lines = .ok c) :
    c.kind = b.kind := by
  rw [Block.cell] at h
  split at h
  · cases h
  · split at h
    · rename_i hk
      obtain ⟨content, -, rfl⟩ := map_eq_ok.1 h
      exact hk.symm
    · rename_i hk
      obtain ⟨content, -, rfl⟩ := map_eq_ok.1 h
      exact hk.symm
    · rename_i hk
      obtain rfl := Except.ok.inj h
      exact hk.symm

theorem answerCell_eq_ok_iff : answerCell source a = .ok c ↔ MakesCell source a c := by
  rw [answerCell, bind_eq_ok]
  constructor
  · rintro ⟨b, rfl, h⟩
    obtain ⟨hcell, hcheck⟩ := checkedCell_eq_ok_iff.1 h
    exact ⟨b, rfl, hcell, hcheck, kind_of_cell hcell⟩
  · rintro ⟨b, rfl, hcell, hcheck, -⟩
    exact ⟨b, rfl, checkedCell_eq_ok_iff.2 ⟨hcell, hcheck⟩⟩

theorem answerCell_eq_error_iff : answerCell source a = .error e ↔ FailsWith source a e := by
  rw [answerCell, bind_eq_error]
  constructor
  · rintro (rfl | ⟨b, rfl, h⟩)
    · exact .locating e
    · rcases checkedCell_eq_error_iff.1 h with h | ⟨c, hc, h⟩
      · exact .extracting h
      · exact .checking hc h
  · rintro (_ | h | ⟨hc, h⟩)
    · exact .inl rfl
    · exact .inr ⟨_, rfl, checkedCell_eq_error_iff.2 (.inl h)⟩
    · exact .inr ⟨_, rfl, checkedCell_eq_error_iff.2 (.inr ⟨_, hc, h⟩)⟩

/-- Every answer makes a cell. -/
def AllMake (source : Text) (answers : List (Except CellError Block)) (cs : List Cell) : Prop :=
  List.Forall₂ (MakesCell source) answers cs

/-- The first answer that makes no cell fails with an error; those before it make the given cells.
-/
def StopsAt (source : Text) (answers : List (Except CellError Block)) (cs : List Cell)
    (e : CellError) : Prop :=
  ∃ before a after, answers = before ++ a :: after ∧ AllMake source before cs ∧
    FailsWith source a e

theorem allMake_iff {answers : List (Except CellError Block)} {cs : List Cell} :
    AllMake source answers cs ↔ answers.map (answerCell source) = cs.map .ok := by
  rw [AllMake, ← List.forall₂_eq_eq_eq, List.forall₂_map_left_iff, List.forall₂_map_right_iff]
  exact ⟨fun h => h.imp fun _ _ => answerCell_eq_ok_iff.2,
    fun h => h.imp fun _ _ => answerCell_eq_ok_iff.1⟩

theorem stopsAt_iff {answers : List (Except CellError Block)} {cs : List Cell} :
    StopsAt source answers cs e ↔
      ∃ after, answers.map (answerCell source) = cs.map .ok ++ .error e :: after := by
  constructor
  · rintro ⟨before, a, after, rfl, hbefore, ha⟩
    refine ⟨after.map (answerCell source), ?_⟩
    rw [List.map_append, List.map_cons, allMake_iff.1 hbefore, answerCell_eq_error_iff.2 ha]
  · rintro ⟨after, h⟩
    obtain ⟨before, rest, rfl, hbefore, hrest⟩ := List.map_eq_append_iff.1 h
    obtain ⟨a, after', rfl, ha, -⟩ := List.map_eq_cons_iff.1 hrest
    exact ⟨before, a, after', rfl, allMake_iff.2 hbefore, answerCell_eq_error_iff.1 ha⟩

/-! ## How reading ends -/

theorem answers_read (o : ReadOptions) (s : Text) :
    (Script.read o s).answers =
      upTo (fun a => !a.isOk) ((Script.answers o.guardModule s).map (answerCell s)) :=
  answers_readFinds _

/-- Reading ends well exactly if every answer of the walk makes a cell. -/
theorem read_ok_iff {o : ReadOptions} {s : Text} {cs : List Cell} :
    (Script.read o s).error = none ∧ (Script.read o s).cells = cs ↔
      AllMake s (Script.answers o.guardModule s) cs := by
  unfold Script.read
  refine readFinds_eq_iff.trans ⟨fun h => ?_, fun h => ?_⟩
  · exact h.imp fun _ _ => answerCell_eq_ok_iff.1
  · exact h.imp fun _ _ => answerCell_eq_ok_iff.2

/-- Reading ends with an error exactly if that is the first error among the answers. -/
theorem read_error_iff {o : ReadOptions} {s : Text} {cs : List Cell} :
    (Script.read o s).error = some e ∧ (Script.read o s).cells = cs ↔
      StopsAt s (Script.answers o.guardModule s) cs e := by
  rw [← Reading.answers_eq_append_error_iff, answers_read, stopsAt_iff]
  rcases ok_or_first_error ((Script.answers o.guardModule s).map (answerCell s)) with
    ⟨cs', h⟩ | ⟨cs', e', after, h⟩
  · rw [h, upTo_map_ok]
    refine ⟨fun hc => absurd hc map_ok_ne_append_error, ?_⟩
    rintro ⟨after, hc⟩
    exact absurd hc map_ok_ne_append_error
  · rw [h, upTo_first_error]
    constructor
    · intro hc
      obtain ⟨hcs, he⟩ := List.append_inj' hc rfl
      exact ⟨after, by rw [hcs, (List.cons.inj he).1]⟩
    · rintro ⟨after', hc⟩
      -- the cut is the same whatever comes after the error
      have hcut := congrArg (upTo fun a : Except CellError Cell => !a.isOk) hc
      rwa [upTo_first_error, upTo_first_error] at hcut

/-- What was found after a failure makes no difference. -/
theorem readFinds_append_of_fails {f : Find} (hf : f.answer? = some a) (ha : FailsWith source a e)
    (fs gs : List Find) :
    readFinds source (Text.physicalLines source) (fs ++ f :: gs) =
      readFinds source (Text.physicalLines source) (fs ++ [f]) := by
  induction fs with
  | nil =>
      cases f with
      | discarded line => cases hf
      | failed e => rfl
      | block b =>
          obtain rfl := Option.some.inj hf
          have hb : b.checkedCell source (Text.physicalLines source) = .error e :=
            answerCell_eq_error_iff.2 ha
          simp only [List.nil_append, readFinds, hb]
  | cons g fs ih =>
      cases g with
      | discarded line => simp only [List.cons_append, readFinds, ih]
      | failed e => rfl
      | block b => simp only [List.cons_append, readFinds, ih]

/-- The error that ends a reading is about a line of the script. -/
theorem line?_of_stopsAt {m s : Text} {cs : List Cell}
    (h : StopsAt s (Script.answers m s) cs e) : e.line?.isSome := by
  obtain ⟨before, a, after, hanswers, -, ha⟩ := h
  cases ha with
  | locating =>
      have hmem : .error e ∈ Script.answers m s := by
        rw [hanswers]
        simp
      obtain ⟨f, hf, hfe⟩ := List.mem_filterMap.1 hmem
      cases f with
      | discarded line => cases hfe
      | block b => cases hfe
      | failed e' =>
          obtain rfl := Except.error.inj (Option.some.inj hfe)
          exact line?_of_mem_finds hf
  | extracting h => exact Block.line?_of_cell h
  | checking _ h =>
      obtain ⟨flaw, rfl⟩ := Cell.eq_of_check h
      rfl

/-! ## Cell by cell -/

namespace CellIter

/-- What is still to be given. -/
def left (ns source : Text) (it : CellIter) : List (Except CellError Cell) :=
  if it.failed then []
  else upTo (fun a => !a.isOk) ((it.blocks.left ns source).map (answerCell source))

variable {ns : Text}

/-- A call gives the first of what is still to be given. -/
theorem next_eq (it : CellIter) :
    (it.next ns source).1 = (it.left ns source).head? ∧
      (it.next ns source).2.left ns source = (it.left ns source).tail := by
  obtain ⟨blocks, failed⟩ := it
  obtain ⟨hhead, htail⟩ := @BlockIter.next_eq ns source blocks
  rw [next, left]
  rcases hn : blocks.next ns source with ⟨x, rest⟩
  rw [hn] at hhead htail
  dsimp only at hhead htail ⊢
  cases hl : blocks.left ns source with
  | nil =>
      rw [hl] at hhead htail
      subst hhead
      cases failed <;> simp [left, upTo, htail]
  | cons a as =>
      rw [hl] at hhead htail
      subst hhead
      cases failed with
      -- after an error nothing is left, whatever the walk still answers
      | true => simp [left]
      | false =>
          cases ha : answerCell source a <;> simp [left, upTo, htail, ha, Except.isOk, Except.toBool]

/-- **Call by call the cells come in their order, then the error if there is one, then nothing.** -/
theorem answer_eq (it : CellIter) (k : Nat) : it.answer ns source k = (it.left ns source)[k]? := by
  induction k generalizing it with
  | zero => rw [answer, it.next_eq.1, List.head?_eq_getElem?]
  | succ k ih => rw [answer, ih, it.next_eq.2, List.getElem?_tail]

/-- What is given one at a time is what reading the whole script comes to. -/
theorem answer_ofScript (o : ReadOptions) (s : Text) (k : Nat) :
    (ofScript s).answer o.guardModule s k = (Script.read o s).answers[k]? := by
  rw [answer_eq, answers_read, ofScript, left, if_neg Bool.false_ne_true, BlockIter.left_ofTree]
  rfl

end CellIter

/-! ## The notebook -/

/-- The notebook cell that a cell becomes, if a notebook can hold it. -/
def Cell.inNotebook? (ending : LineEnding) (c : Cell) : Option NotebookCell :=
  match c.kind with
  | .executable => some (.code [] (.whole (Text.joinWith ending.text c.content)) none [])
  | .prose => some (.markdown [] (.whole (Text.joinWith ending.text c.content)))
  | .sandbox => none

theorem shapes_eq (o : NotebookOptions) (cs : List Cell) :
    Script.shapes o cs = .ok (cs.filterMap (Cell.inNotebook? o.lineEnding)) := by
  rw [Script.shapes, mapM_eq_ok]
  induction cs with
  | nil => exact List.Forall₂.nil
  | cons c cs ih =>
      obtain ⟨k, content⟩ := c
      cases k with
      | executable | prose => exact List.Forall₂.cons rfl ih
      | sandbox => exact ih

/-- Assembling a notebook fails only if the reading did. -/
theorem assemble_eq_ok_iff {o : NotebookOptions} {r : Reading} {d : Notebook} :
    Script.assemble o r = .ok d ↔
      r.error = none ∧ d.cells = r.cells.filterMap (Cell.inNotebook? o.lineEnding) ∧
        d.fields = o.template.filter fun f => f.1 ≠ Notebook.cellsField := by
  obtain ⟨cs, error, events⟩ := r
  obtain ⟨ncs, fields⟩ := d
  cases error with
  | some e => simp [Script.assemble]
  | none =>
      rw [Script.assemble]
      dsimp only
      rw [shapes_eq]
      simp only [Except.ok.injEq, Notebook.ofCells, Notebook.mk.injEq, true_and]
      exact and_congr eq_comm eq_comm

theorem assemble_eq_error_iff {o : NotebookOptions} {r : Reading} {e : ConvertError} :
    Script.assemble o r = .error e ↔ ∃ ce, r.error = some ce ∧ e = .cell ce := by
  obtain ⟨cs, error, events⟩ := r
  cases error with
  | some ce => simp [Script.assemble, eq_comm]
  | none =>
      rw [Script.assemble]
      dsimp only
      rw [shapes_eq]
      simp

/-- A notebook comes of a script exactly if every answer of the walk makes a cell. -/
theorem toNotebook_ok_iff {o : NotebookOptions} {s : Text} {d : Notebook} :
    Script.toNotebook o s = .ok d ↔
      ∃ cs, AllMake s (Script.answers o.read.guardModule s) cs ∧
        d.cells = cs.filterMap (Cell.inNotebook? o.lineEnding) ∧
        d.fields = o.template.filter fun f => f.1 ≠ Notebook.cellsField := by
  rw [Script.toNotebook, assemble_eq_ok_iff]
  constructor
  · rintro ⟨herr, hcells⟩
    exact ⟨_, read_ok_iff.1 ⟨herr, rfl⟩, hcells⟩
  · rintro ⟨cs, hcs, hcells⟩
    obtain ⟨herr, rfl⟩ := read_ok_iff.2 hcs
    exact ⟨herr, hcells⟩

/-- What goes wrong with a script is the first thing that goes wrong with one of its blocks. -/
theorem toNotebook_error_iff {o : NotebookOptions} {s : Text} {e : ConvertError} :
    Script.toNotebook o s = .error e ↔
      ∃ cs ce, StopsAt s (Script.answers o.read.guardModule s) cs ce ∧ e = .cell ce := by
  rw [Script.toNotebook, assemble_eq_error_iff]
  constructor
  · rintro ⟨ce, herr, rfl⟩
    exact ⟨_, ce, read_error_iff.1 ⟨herr, rfl⟩, rfl⟩
  · rintro ⟨cs, ce, hstop, rfl⟩
    exact ⟨ce, (read_error_iff.2 hstop).1, rfl⟩

/-! ## All cells at once and cell by cell -/

theorem cells_eq_ok_iff {o : ReadOptions} {s : Text} {cs : List Cell} :
    Script.cells o s = .ok cs ↔ (Script.read o s).error = none ∧ (Script.read o s).cells = cs := by
  unfold Script.cells
  generalize Script.read o s = r
  obtain ⟨cells, error, events⟩ := r
  cases error with
  | some e => simp
  | none => simp

theorem cells_eq_error_iff {o : ReadOptions} {s : Text} :
    Script.cells o s = .error e ↔ (Script.read o s).error = some e := by
  unfold Script.cells
  generalize Script.read o s = r
  obtain ⟨cells, error, events⟩ := r
  cases error with
  | some e => simp
  | none => simp

/-- The cells come all at once exactly if they come one by one, and then nothing. -/
theorem cells_ok_iff_answer {o : ReadOptions} {s : Text} {cs : List Cell} :
    Script.cells o s = .ok cs ↔
      ∀ k, (CellIter.ofScript s).answer o.guardModule s k = (cs.map Except.ok)[k]? := by
  rw [cells_eq_ok_iff, ← Reading.answers_eq_map_ok_iff]
  simp only [CellIter.answer_ofScript]
  exact ⟨fun h k => by rw [h], List.ext_getElem?⟩

/-- An error that is given after some cells is the last that is given. -/
theorem stopsAt_of_answer_error {o : ReadOptions} {s : Text} {k : Nat}
    (h : (CellIter.ofScript s).answer o.guardModule s k = some (.error e)) :
    ∃ cs : List Cell, cs.length = k ∧ StopsAt s (Script.answers o.guardModule s) cs e ∧
      Script.cells o s = .error e ∧
      ∀ j, (CellIter.ofScript s).answer o.guardModule s j =
        (cs.map Except.ok ++ [.error e])[j]? := by
  rw [CellIter.answer_ofScript] at h
  simp only [CellIter.answer_ofScript]
  cases herr : (Script.read o s).error with
  | none =>
      rw [Reading.answers_eq_map_ok_iff.2 ⟨herr, rfl⟩, List.getElem?_map] at h
      obtain ⟨c, -, hc⟩ := Option.map_eq_some_iff.1 h
      cases hc
  | some e' =>
      have hanswers := Reading.answers_eq_append_error_iff.2 ⟨herr, rfl⟩
      rw [hanswers] at h
      rcases Nat.lt_or_ge k (Script.read o s).cells.length with hk | hk
      · rw [List.getElem?_append_left (by simpa using hk), List.getElem?_map] at h
        obtain ⟨c, -, hc⟩ := Option.map_eq_some_iff.1 h
        cases hc
      · -- past the cells there is only the error
        rw [List.getElem?_append_right (by simpa using hk), List.getElem?_singleton,
          List.length_map] at h
        split at h
        · rename_i hk'
          obtain rfl := Except.error.inj (Option.some.inj h)
          refine ⟨_, by omega, read_error_iff.1 ⟨herr, rfl⟩, cells_eq_error_iff.2 herr, ?_⟩
          intro j
          rw [hanswers]
        · cases h

/-- Either the cells come all at once or there is an error among those that come one by one. -/
theorem exists_cells_iff {o : ReadOptions} {s : Text} :
    (∃ cs, Script.cells o s = .ok cs) ↔
      ∀ k e, (CellIter.ofScript s).answer o.guardModule s k ≠ some (.error e) := by
  constructor
  · rintro ⟨cs, hcs⟩ k e he
    obtain ⟨-, -, -, herr, -⟩ := stopsAt_of_answer_error he
    rw [hcs] at herr
    cases herr
  · intro hnone
    cases herr : (Script.read o s).error with
    | none => exact ⟨_, cells_eq_ok_iff.2 ⟨herr, rfl⟩⟩
    | some e =>
        refine absurd ?_ (hnone (Script.read o s).cells.length e)
        rw [CellIter.answer_ofScript, Reading.answers_eq_append_error_iff.2 ⟨herr, rfl⟩,
          List.getElem?_append_right (by simp)]
        simp

/-- **A notebook has what all blocks of its script give, or there is none, for the reason of the
first block that gives nothing.** -/
theorem Script.toNotebook_exact (o : NotebookOptions) (s : Text) :
    let answers := Script.answers o.read.guardModule s
    let given := (CellIter.ofScript s).answer o.read.guardModule s
    (∀ d, toNotebook o s = .ok d ↔
      ∃ cs, AllMake s answers cs ∧ d.cells = cs.filterMap (Cell.inNotebook? o.lineEnding) ∧
        d.fields = o.template.filter fun f => f.1 ≠ Notebook.cellsField) ∧
    (∀ e, toNotebook o s = .error e ↔ ∃ cs ce, StopsAt s answers cs ce ∧ e = .cell ce) ∧
    -- what the walk comes to after the failure can be anything
    (∀ fs f a e gs, Script.findings o.read.guardModule s = fs ++ f :: gs →
      f.answer? = some a → FailsWith s a e →
        ∀ gs', readFinds s (Text.physicalLines s) (fs ++ f :: gs') = Script.read o.read s) ∧
    (∀ kind, toNotebook o s ≠ .error (.cell (.unsupported kind))) ∧
    (∀ cs, Script.cells o.read s = .ok cs ↔ ∀ k, given k = (cs.map Except.ok)[k]?) ∧
    ((∃ cs, Script.cells o.read s = .ok cs) ↔ ∀ k e, given k ≠ some (.error e)) ∧
    (∀ k e, given k = some (.error e) →
      ∃ cs : List Cell, cs.length = k ∧ StopsAt s answers cs e ∧
        Script.cells o.read s = .error e ∧
        ∀ j, given j = (cs.map Except.ok ++ [.error e])[j]?) := by
  refine ⟨fun _ => toNotebook_ok_iff, fun _ => toNotebook_error_iff, ?_, ?_,
    fun _ => cells_ok_iff_answer, exists_cells_iff, fun _ _ => stopsAt_of_answer_error⟩
  · intro fs f a e gs hfindings hf ha gs'
    rw [Script.read, hfindings, readFinds_append_of_fails hf ha fs gs,
      readFinds_append_of_fails hf ha fs gs']
  · intro kind h
    obtain ⟨cs, ce, hstop, hce⟩ := toNotebook_error_iff.1 h
    obtain rfl := ConvertError.cell.inj hce
    cases line?_of_stopsAt hstop

end CellScript
