import CellScript.Proofs.Script.Assembly
import CellScript.Proofs.Script.Place
import CellScript.Proofs.Script.Stable

set_option autoImplicit false

/-! # Line ends within a notebook

A notebook holds the lines of a cell as one text, and the options say which line end stands between
them there. Cells that are read from a script are settled, so the text is cut into the same lines
again whichever it is: `holds_of_allMake`. Types and script of a notebook depend on nothing but the
cells that it holds, `Notebook.Holds.cellTypes_eq` and `Notebook.Holds.script_eq`, so the line end
makes no difference to what a notebook means, `lineEnding_irrelevant`. -/

namespace CellScript

/-- The cells of a notebook hold, in their order, those of some cells that a notebook has a type
for: taking them back gives each with its kind and its lines. -/
def Notebook.Holds (d : Notebook) (cs : List Cell) : Prop :=
  List.Forall₂ (fun nc c => nc.toCell = .ok c) d.cells (cs.filter Cell.isRepresentable)

/-! ## What a notebook holds -/

section

variable {ending : LineEnding} {c : Cell} {nc : NotebookCell}

theorem Cell.inNotebook?_of_isRepresentable (ending : LineEnding)
    (h : c.isRepresentable = true) :
    ∃ nc, c.inNotebook? ending = some nc ∧ c.toNotebook ending = .ok nc := by
  obtain ⟨k, content⟩ := c
  cases k with
  | executable | prose => exact ⟨_, rfl, rfl⟩
  | sandbox => cases h

theorem Cell.inNotebook?_of_not_isRepresentable (h : c.isRepresentable = false) :
    c.inNotebook? ending = none := by
  obtain ⟨k, content⟩ := c
  cases k with
  | executable | prose => cases h
  | sandbox => rfl

/-- Settled cells come back from a notebook, whatever their lines are joined with. -/
theorem holds_of_settled {cs : List Cell}
    (h : ∀ c ∈ cs, c.isRepresentable = true → c.Settled) :
    List.Forall₂ (fun nc c => nc.toCell = .ok c) (cs.filterMap (Cell.inNotebook? ending))
      (cs.filter Cell.isRepresentable) := by
  induction cs with
  | nil => exact List.Forall₂.nil
  | cons c cs ih =>
      obtain ⟨hc, hcs⟩ := List.forall_mem_cons.1 h
      cases hrep : c.isRepresentable with
      | true =>
          obtain ⟨nc, hnc, hshape⟩ := Cell.inNotebook?_of_isRepresentable ending hrep
          rw [List.filterMap_cons_some hnc, List.filter_cons_of_pos hrep]
          exact List.Forall₂.cons (toCell_of_toNotebook (hc hrep) hshape) (ih hcs)
      | false =>
          rw [List.filterMap_cons_none (Cell.inNotebook?_of_not_isRepresentable hrep),
            List.filter_cons_of_neg (by simp [hrep])]
          exact ih hcs

/-- The cells of a script whose carriage returns all belong to line ends are settled, so its
notebook holds them. -/
theorem holds_of_allMake {source : Text} {answers : List (Except CellError Block)} {cs : List Cell}
    (hs : Text.returnsClosed source = true) (hcs : AllMake source answers cs) {d : Notebook}
    (hd : d.cells = cs.filterMap (Cell.inNotebook? ending)) : d.Holds cs := by
  rw [Notebook.Holds, hd]
  refine holds_of_settled fun c hc hrep => ?_
  obtain ⟨a, -, b, -, hcell, -⟩ := exists_of_forall₂ hcs hc
  exact settled_of_cell hs hcell (isRepresentable_iff.1 hrep)

/-- The type of a notebook cell is that of the kind of the cell it holds. -/
theorem NotebookCell.cellType_of_toCell (h : nc.toCell = .ok c) :
    c.kind.cellType?.map String.toList = some nc.cellType := by
  cases nc with
  | code | markdown =>
      obtain rfl := Except.ok.inj h
      rfl
  | other => cases h

namespace Notebook.Holds

variable {d : Notebook} {cs : List Cell}

theorem cellTypes_eq (h : d.Holds cs) :
    d.cells.map NotebookCell.cellType = (cs.filter Cell.isRepresentable).filterMap fun c =>
      c.kind.cellType?.map String.toList := by
  rw [Notebook.Holds] at h
  generalize d.cells = ncs, cs.filter Cell.isRepresentable = kept at h ⊢
  induction h with
  | nil => rfl
  | cons hc _ ih =>
      simp only [List.map_cons, List.filterMap_cons, NotebookCell.cellType_of_toCell hc, ih]

theorem script_eq (h : d.Holds cs) (w : WriteOptions) :
    d.script w = Text.joinWith ['\n'] ((if w.importLine then [w.importText] else []) ++
      (cs.filter Cell.isRepresentable).map (Cell.chunk w)) := by
  have hchunks : d.cells.map (NotebookCell.chunk w) =
      (cs.filter Cell.isRepresentable).map (Cell.chunk w) := by
    rw [Notebook.Holds] at h
    generalize d.cells = ncs, cs.filter Cell.isRepresentable = kept at h ⊢
    induction h with
    | nil => rfl
    | cons hc _ ih => rw [List.map_cons, List.map_cons, NotebookCell.chunk_of_toCell hc, ih]
  rw [Notebook.script, Notebook.scriptParts, hchunks]

end Notebook.Holds

end

/-! ## Two line ends -/

/-- **The line end within a notebook never changes what the notebook means.** Of a script whose
carriage returns all belong to line ends and that gives a notebook, every other line end gives a
notebook as well: with the same types in the same order and the same other fields, one that holds
the cells that were read, each with its kind and its lines, and one that is written as the same
script with any options. -/
theorem lineEnding_irrelevant (o : NotebookOptions) (ending : LineEnding) (source : Text)
    (d : Notebook) (hs : Text.returnsClosed source = true)
    (hd : Script.toNotebook o source = .ok d) :
    ∃ cs d', Script.cells o.read source = .ok cs ∧
      Script.toNotebook { o with lineEnding := ending } source = .ok d' ∧
      d'.cells.map NotebookCell.cellType = d.cells.map NotebookCell.cellType ∧
      d'.fields = d.fields ∧ d.Holds cs ∧ d'.Holds cs ∧
      ∀ w, d'.script w = d.script w := by
  obtain ⟨cs, hcs, hcells, hfields⟩ := toNotebook_ok_iff.1 hd
  have hread := cells_eq_ok_iff.2 (read_ok_iff.2 hcs)
  let d' : Notebook := ⟨cs.filterMap (Cell.inNotebook? ending), d.fields⟩
  have hd' : Script.toNotebook { o with lineEnding := ending } source = .ok d' :=
    toNotebook_ok_iff.2 ⟨cs, hcs, rfl, hfields⟩
  have hold : d.Holds cs := holds_of_allMake hs hcs hcells
  have hold' : d'.Holds cs := holds_of_allMake hs hcs rfl
  refine ⟨cs, d', hread, hd', ?_, rfl, hold, hold', fun w => ?_⟩
  · rw [hold.cellTypes_eq, hold'.cellTypes_eq]
  · rw [hold.script_eq, hold'.script_eq]

/-- The notebook of `handWritten` with short line ends has the same cells, written as the same
script. -/
theorem lineEnding_irrelevant_handWritten :
    ∃ d', Script.toNotebook { longEnds with lineEnding := .lf } handWritten = .ok d' ∧
      d'.cells.map NotebookCell.cellType = ["code".toList, "markdown".toList] ∧
      d'.Holds [⟨.executable, ["!ls".toList]⟩, ⟨.sandbox, [['y']]⟩,
        ⟨.prose, ["a \"\"\" b".toList]⟩] ∧
      d'.script narrow = handWrittenNotebook.script narrow := by
  obtain ⟨cs, d', hcs, hd', htypes, -, -, hold, hscript⟩ :=
    lineEnding_irrelevant longEnds .lf handWritten handWrittenNotebook (by decide +kernel)
      toNotebook_handWritten
  have hcs' : Script.cells longEnds.read handWritten =
      .ok [⟨.executable, ["!ls".toList]⟩, ⟨.sandbox, [['y']]⟩,
        ⟨.prose, ["a \"\"\" b".toList]⟩] := by
    decide +kernel
  obtain rfl := Except.ok.inj (hcs.symm.trans hcs')
  exact ⟨d', hd', htypes, hold, hscript narrow⟩

end CellScript
