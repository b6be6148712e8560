import CellScript.Proofs.Cell.Settled
import CellScript.Proofs.Script.ReadBack
import CellScript.Proofs.Script.Reading

set_option autoImplicit false

/-! # Conversion is stable

What was read from a script is settled, so a notebook that comes from a script is written and read
without a change: `conversion_stable`. All that is asked of the written script is that the walk
finds the blocks that were written. -/

namespace CellScript

/-! ## Cells that are read -/

theorem check_line {c : Cell} {line : Nat} (h : c.check line = .ok ()) (line' : Nat) :
    c.check line' = .ok () := by
  unfold Cell.check at h ⊢
  split
  · rfl
  · rename_i hk
    rw [if_neg hk] at h
    split at h
    · cases h
    · rfl

theorem isRepresentable_iff {c : Cell} : c.isRepresentable = true ↔ c.kind ≠ .sandbox := by
  obtain ⟨k, content⟩ := c
  cases k <;> simp [Cell.isRepresentable, CellKind.cellType?]

/-- A notebook gives back a settled cell as it was, whatever its lines are joined with. -/
theorem toCell_of_toNotebook {c : Cell} {ending : LineEnding} {nc : NotebookCell}
    (hc : c.Settled) (h : c.toNotebook ending = .ok nc) : nc.toCell = .ok c := by
  obtain ⟨ret, hret, htext⟩ : ∃ ret, (ret = [] ∨ ret = ['\r']) ∧ ending.text = ret ++ ['\n'] := by
    cases ending with
    | native | lf => exact ⟨[], .inl rfl, rfl⟩
    | crlf => exact ⟨['\r'], .inr rfl, rfl⟩
  have hlines : Text.lines (c.source ending) = c.content := by
    rw [Cell.source, htext]
    exact Text.lines_joinWith hret hc.lines hc.last
  obtain ⟨k, content⟩ := c
  cases k with
  | executable | prose =>
      obtain rfl := Except.ok.inj h
      exact congrArg (fun ts => Except.ok (Cell.mk _ ts)) hlines
  | sandbox => cases h

/-! ## Written scripts -/

/-- What some passes through a notebook make of a script. -/
def Script.passes (o : NotebookOptions) (w : WriteOptions) : Nat → Text → Except ConvertError Text
  | 0, s => .ok s
  | n + 1, s => (Script.toNotebook o s).map (·.script w) >>= Script.passes o w n

/-- A notebook cell holds a cell in normal form that passes the check. -/
structure KeepsCell (nc : NotebookCell) (c : Cell) : Prop where
  toCell : nc.toCell = .ok c
  normal : c.normal = c
  check : ∀ line, c.check line = .ok ()

/-- The blocks of a written script give the cells it was written for. -/
theorem answerCell_of_written {w : WriteOptions} {d : Notebook} {cs : List Cell}
    {answers : List (Except CellError Block)} (hcs : List.Forall₂ KeepsCell d.cells cs)
    (hw : BlockByBlock (WrittenAt w) d answers) :
    List.Forall₂ (fun a c => answerCell (d.script w) a = .ok c) answers cs := by
  rw [← d.map_snd_placed, List.forall₂_map_left_iff] at hcs
  refine forall₂_of_common hw hcs fun x hx a c _ ha hc => ?_
  obtain ⟨after, hcells⟩ := exists_of_mem_inits_zip hx
  obtain ⟨c', b, hc', rfl, hb⟩ := answersFor_iff.1 ha
  obtain rfl := Except.ok.inj (hc.toCell.symm.trans hc')
  have hread := cell_of_written hcells hc.toCell hb
  rw [hc.normal] at hread
  exact bind_eq_ok.2 ⟨b, rfl, checkedCell_eq_ok_iff.2 ⟨hread, hc.check _⟩⟩

/-- The cells of a notebook that comes from a script are settled and pass the check again. -/
theorem toCell_of_fromScript {o : NotebookOptions} {s : Text} {cs : List Cell}
    {ncs : List NotebookCell} (hs : Text.returnsClosed s = true)
    (hcs : List.Forall₂ (fun a c => answerCell s a = .ok c)
      (Script.answers o.read.guardModule s) cs)
    (hncs : List.Forall₂ (fun c nc => c.toNotebook o.lineEnding = .ok nc)
      (cs.filter Cell.isRepresentable) ncs) :
    List.Forall₂ KeepsCell ncs (cs.filter Cell.isRepresentable) := by
  have hread : ∀ c ∈ cs.filter Cell.isRepresentable,
      c.Settled ∧ ∀ line, c.check line = .ok () := by
    intro c hc
    obtain ⟨hmem, hrep⟩ := List.mem_filter.1 hc
    obtain ⟨a, -, ha⟩ := exists_of_forall₂ hcs hmem
    obtain ⟨b, -, hb⟩ := bind_eq_ok.1 ha
    obtain ⟨hcell, hcheck⟩ := checkedCell_eq_ok_iff.1 hb
    exact ⟨settled_of_cell hs hcell (isRepresentable_iff.1 hrep), check_line hcheck⟩
  refine List.Forall₂.flip (((List.forall₂_and_left _ _).2 ⟨hread, hncs⟩).imp ?_)
  rintro c nc ⟨⟨hsettled, hcheck⟩, hnc⟩
  exact ⟨toCell_of_toNotebook hsettled hnc, hsettled.normal, hcheck⟩

/-- **A converted script stays as it is.** What a script gave as a notebook is written as a script
that gives the same notebook again and the same script, as often as it is converted, if the walk
finds in it the blocks that were written. -/
theorem conversion_stable (o : NotebookOptions) (w : WriteOptions) (s : Text) (d : Notebook)
    (hs : Text.returnsClosed s = true) (hd : Script.toNotebook o s = .ok d)
    (hw : BlockByBlock (WrittenAt w) d (Script.answers o.read.guardModule (d.script w))) :
    Script.toNotebook o (d.script w) = .ok d ∧
      ∀ n, Script.passes o w (n + 1) s = .ok (d.script w) ∧
        Script.passes o w n (d.script w) >>= Script.toNotebook o = .ok d := by
  have hagain : Script.toNotebook o (d.script w) = .ok d := by
    obtain ⟨cs, ncs, hcs, hncs, hd⟩ := toNotebook_eq_ok_iff.1 hd
    have hcells : d.cells = ncs := by
      rw [hd]
      rfl
    refine toNotebook_eq_ok_iff.2 ⟨cs.filter Cell.isRepresentable, ncs, ?_, ?_, hd⟩
    · -- the answers for the written script give the cells that were read the first time
      exact answerCell_of_written (hcells ▸ toCell_of_fromScript hs hcs hncs) hw
    · rwa [List.filter_eq_self.2 fun c hc => (List.mem_filter.1 hc).2]
  have hpasses : ∀ n, Script.passes o w n (d.script w) = .ok (d.script w) := by
    intro n
    induction n with
    | zero => rfl
    | succ n ih =>
        rw [Script.passes, hagain]
        exact ih
  refine ⟨hagain, fun n => ⟨?_, bind_eq_ok.2 ⟨_, hpasses n, hagain⟩⟩⟩
  rw [Script.passes, hd]
  exact hpasses n

/-- A script with long line ends, an escaped line, a sandbox, and prose that its author had
decoded. -/
def handWritten : Text :=
  "with h.Cell('python'):\r\n  #!ls\r\n  pass\r\nwith h.Sandbox():\r\n  y\r\n".toList ++
    "with h.Cell(\"markdown\"):\r\n   u'''\r\n   a \"\"\" b\r\n   '''\r\n".toList

/-- The notebook of `handWritten`. -/
def handWrittenNotebook : Notebook :=
  ⟨[.ofCode (.whole "!ls".toList), .ofMarkdown (.whole "a \"\"\" b".toList)], []⟩

/-- How `handWritten` is converted. -/
def longEnds : NotebookOptions := ⟨⟨['h']⟩, .crlf, []⟩

theorem toNotebook_handWritten :
    Script.toNotebook longEnds handWritten = .ok handWrittenNotebook := by
  have hread : (Script.read longEnds.read handWritten).error = none ∧
      (Script.read longEnds.read handWritten).cells =
        [⟨.executable, ["!ls".toList]⟩, ⟨.sandbox, [['y']]⟩, ⟨.prose, ["a \"\"\" b".toList]⟩] := by
    decide +kernel
  rw [Script.toNotebook, Script.assemble, hread.1, hread.2]
  rfl

theorem written_handWritten :
    BlockByBlock (WrittenAt narrow) handWrittenNotebook
      (Script.answers longEnds.read.guardModule (handWrittenNotebook.script narrow)) := by
  decide +kernel

theorem conversion_stable_handWritten :
    Script.toNotebook longEnds (handWrittenNotebook.script narrow) = .ok handWrittenNotebook :=
  (conversion_stable longEnds narrow handWritten handWrittenNotebook (by decide +kernel)
    toNotebook_handWritten written_handWritten).1

end CellScript
