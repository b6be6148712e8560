import CellScript.Command.Convert
import CellScript.Proofs.Script.Assembly
import CellScript.Proofs.Script.ProseText
import CellScript.Proofs.Script.Stable

set_option autoImplicit false

/-! # Prose there and back

A notebook of markdown cells goes through a script without a loss but for what a script cannot hold,
`prose_returns`. The module that guards are called on stands in the script as it was given, so it
has to be a name there too; the check of names lets a few others pass. -/

namespace CellScript

open Python

/-- The markdown cell with the lines of another cell's source in normal form. -/
def NotebookCell.normalProse (ending : LineEnding) (nc : NotebookCell) : NotebookCell :=
  .ofMarkdown (.whole (Text.joinWith ending.text
    (CellScript.normalProse (Text.lines nc.source.text))))

/-- A notebook comes back from its script with the same cells in normal form. -/
def Notebook.Returns (o : ConvertOptions) (nb : Notebook) : Prop :=
  ∃ d, Script.toNotebook o.notebook (nb.script o.write) = .ok d ∧
    d.cells = nb.cells.map (NotebookCell.normalProse o.notebook.lineEnding)

theorem makesCell_of_written {w : WriteOptions} {nb : Notebook} {before after : List NotebookCell}
    {nc : NotebookCell} {a : Except CellError Block} (hcells : nb.cells = before ++ nc :: after)
    (hk : nc.kind? = some .prose) (ha : AnswersFor (WrittenAt w) (before, nc) a) :
    MakesCell (nb.script w) a ⟨.prose, normalProse (Text.lines nc.source.text)⟩ := by
  obtain ⟨c, b, hc, rfl, hb⟩ := answersFor_iff.1 ha
  have hcell : nc.toCell = .ok ⟨.prose, Text.lines nc.source.text⟩ := by
    rw [NotebookCell.toCell, hk]
  obtain rfl := Except.ok.inj (hcell.symm.trans hc)
  exact ⟨b, rfl, cell_of_written hcells hcell hb, rfl, hb.kind.symm⟩

/-- The blocks of written prose give the prose in normal form. -/
theorem returns_of_written {o : ConvertOptions} {nb : Notebook} (hprose : nb.IsProse)
    (hw : BlockByBlock (WrittenAt o.write) nb
      (Script.answers o.notebook.read.guardModule (nb.script o.write))) : nb.Returns o := by
  let cellOf (nc : NotebookCell) : Cell := ⟨.prose, normalProse (Text.lines nc.source.text)⟩
  have hmake : AllMake (nb.script o.write)
      (Script.answers o.notebook.read.guardModule (nb.script o.write)) (nb.cells.map cellOf) := by
    rw [← nb.map_snd_placed, List.map_map]
    refine List.forall₂_map_right_iff.2 (List.Forall₂.flip ?_)
    have hall : ∀ x ∈ nb.placed, x ∈ nb.placed := fun _ => id
    refine ((List.forall₂_and_left _ _).2 ⟨hall, hw⟩).imp ?_
    rintro ⟨before, nc⟩ a ⟨hx, ha⟩
    obtain ⟨after, hcells⟩ := exists_of_mem_inits_zip hx
    exact makesCell_of_written hcells (hprose nc (by simp [hcells])) ha
  obtain ⟨d, hd⟩ : ∃ d : Notebook, d.cells =
        (nb.cells.map cellOf).filterMap (Cell.inNotebook? o.notebook.lineEnding) ∧
      d.fields = o.notebook.template.filter fun f => f.1 ≠ Notebook.cellsField :=
    ⟨⟨_, _⟩, rfl, rfl⟩
  refine ⟨d, toNotebook_ok_iff.2 ⟨_, hmake, hd⟩, ?_⟩
  rw [hd.1, List.filterMap_map]
  exact congrFun List.filterMap_eq_map' nb.cells

theorem chosenOptions_module {r : Command.ConvertRequest} {c : Config} {o : ConvertOptions}
    (h : Command.chosenOptions r c = .ok o) :
    o.notebook.read.guardModule = o.write.guardModule := by
  rw [Command.chosenOptions] at h
  obtain ⟨m, -, h⟩ := bind_eq_ok.1 h
  obtain ⟨n, -, h⟩ := bind_eq_ok.1 h
  obtain rfl := Except.ok.inj h
  rfl

/-- The grammar takes the module for a name where a statement opens a block, and the margin for one:
the widths of margins are kept in bytes, so that one of 256 spaces is no margin. -/
structure WriteOptions.IsReadable (w : WriteOptions) : Prop where
  word : spellsWord w.guardModule = true
  name : w.guardModule ∉ refusedNames
  depth : w.indent % 256 ≠ 0

theorem WriteOptions.IsReadable.plain {w : WriteOptions} (h : w.IsReadable) :
    w.proseStyle.Plain where
  word := h.word
  name := h.name
  bare := by
    intro c hc
    have hplain : CellKind.prose.literal.toList.all (· ∉ ['"', '\\', '\n', '\x00']) = true := by
      decide
    simpa [not_or] using List.all_eq_true.1 hplain c hc
  kind := by
    show CellKind.prose.literal.toList ≠ []
    decide
  spaces := fun _ hc => List.eq_of_mem_replicate hc
  depth := by
    rw [WriteOptions.proseStyle, WriteOptions.margin, List.length_replicate]
    exact h.depth

/-- **A notebook of markdown cells comes back** with the same cells in their order, each in normal
form, under every module that a request may name and the grammar takes for a name. -/
theorem prose_returns (r : Command.ConvertRequest) (c : Config) (o : ConvertOptions)
    (ho : Command.chosenOptions r c = .ok o) (hw : o.write.IsReadable) (nb : Notebook)
    (hprose : nb.IsProse) (hlegible : nb.IsLegible) : nb.Returns o := by
  refine returns_of_written hprose ?_
  rw [chosenOptions_module ho]
  exact blockByBlock_of_isLegible hw.plain hprose hlegible

/-- Two cells: the first has quotes of both kinds and leaves a name open, the second has a brace. -/
def quotedProse : Notebook :=
  ⟨[.ofMarkdown (.whole "'''\\N\x7bDASH\n\n\"\"\" ".toList),
    .ofMarkdown (.whole "\x7d".toList)], []⟩

theorem prose_returns_class :
    quotedProse.Returns (ConvertOptions.withModule {} "class".toList) :=
  prose_returns { input := ['-'], guardModule := some "class".toList } {}
    (ConvertOptions.withModule {} "class".toList) rfl
    ⟨by decide +kernel, by decide +kernel, by decide⟩ quotedProse (by decide) (by decide +kernel)

/-- Without the quotes the open name takes in the end of its literal. -/
example : (Script.read {} (Notebook.script {}
    ⟨[.ofMarkdown (.whole "\\N\x7bDASH".toList), .ofMarkdown (.whole "\x7d".toList)], []⟩)).error =
      some (.indentation 8) := by
  decide +kernel

/-- A notebook of one cell. -/
def hello : Notebook := ⟨[.ofMarkdown (.whole "Hello".toList)], []⟩

/-- A module named by a constant gets past the check of names, and the script that names it holds
no block. -/
theorem constant_loses_prose :
    Command.chosenOptions { input := ['-'], guardModule := some "None".toList } {} =
        .ok (ConvertOptions.withModule {} "None".toList) ∧
      hello.IsProse ∧ ¬ hello.Returns (ConvertOptions.withModule {} "None".toList) := by
  have hread : (Script.read ⟨"None".toList⟩
      (hello.script (ConvertOptions.withModule {} "None".toList).write)).cells.length = 0 := by
    decide +kernel
  refine ⟨rfl, by decide, ?_⟩
  rintro ⟨d, hd, hcells⟩
  obtain ⟨-, h, -⟩ := assemble_eq_ok_iff.1 hd
  rw [h] at hcells
  have hlen := congrArg List.length hcells
  have hnone : (Script.read (ConvertOptions.withModule {} "None".toList).notebook.read
      (hello.script (ConvertOptions.withModule {} "None".toList).write)).cells = [] :=
    List.length_eq_zero_iff.1 hread
  rw [hnone] at hlen
  cases hlen

end CellScript
