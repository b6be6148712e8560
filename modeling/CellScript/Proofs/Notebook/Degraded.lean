import CellScript.Convert.Assemble
import CellScript.Proofs.Notebook.Read
import CellScript.Proofs.Notebook.Shape

set_option autoImplicit false

/-! # Cells that are commented out

`commented_out_iff`: of the cells of a notebook exactly those are commented out in its script whose
element in the document is foreign or misread. A foreign one names a type that is neither code nor
markdown. A misread one names itself a code cell, but the number of its run or its outputs cannot be
read; what is left of it has the fields of a cell of another type and is taken for one of the type
`code` (`code_commented_out`). -/

namespace CellScript

open Json

/-! ## Elements of a document -/

/-- An element that has the fields of a cell, and names a type that is neither code nor markdown. -/
def IsForeign (v : Value) : Prop :=
  ∃ fs t, cellFields? plainFields v = some fs ∧ Table.get? typeField fs = some (.str t) ∧
    t ≠ "code".toList ∧ t ≠ "markdown".toList

/-- Fields that do not tell the run of a code cell: its number is neither null nor a natural number,
its outputs are no list, or one of the two is repeated. -/
def RunUnread (fs : List (Text × Value)) : Prop :=
  (∃ v, Table.get? countField fs = some v ∧ v ≠ .null ∧ ∀ n : Nat, v ≠ .int n) ∨
    (∃ v, Table.get? outputsField fs = some v ∧ ∀ vs, v ≠ .arr vs) ∨
    1 < (fs.filter fun f => f.1 = countField).length ∨
    1 < (fs.filter fun f => f.1 = outputsField).length

/-- An object that names itself a code cell, of which the run is not told. -/
def IsMisread (v : Value) : Prop :=
  ∃ fs, v = .obj fs ∧ Table.get? typeField fs = some (.str "code".toList) ∧ RunUnread fs

variable {v : Value} {fs : List (Text × Value)} {c : NotebookCell}

theorem count?_eq_none : count? v = none ↔ v ≠ .null ∧ ∀ n : Nat, v ≠ .int n := by
  cases v with
  | int n =>
      cases n with
      | ofNat n => simp [count?, Value.nat?]
      | negSucc n => simp [count?, Value.nat?]
  | _ => simp [count?, Value.nat?]

theorem outputs?_eq_none : outputs? v = none ↔ ∀ vs, v ≠ .arr vs := by
  cases v <;> simp [outputs?]

theorem fieldOr_eq_none {α : Type} {default : α} {read? : Value → Option α} {k : Text} :
    fieldOr default read? k fs = none ↔ ∃ v, Table.get? k fs = some v ∧ read? v = none := by
  rw [fieldOr]
  cases Table.get? k fs with
  | none => simp
  | some v => simp

theorem not_noneRepeated_iff {k l : Text} :
    ¬ NoneRepeated [k, l] fs ↔ 1 < (fs.filter fun f => f.1 = k).length ∨
      1 < (fs.filter fun f => f.1 = l).length := by
  simp only [NoneRepeated, List.forall_mem_cons, not_and_or, Nat.not_le]
  simp

theorem runUnread_iff :
    RunUnread fs ↔ fieldOr none count? countField fs = none ∨
      fieldOr [] outputs? outputsField fs = none ∨ ¬ NoneRepeated [countField, outputsField] fs := by
  rw [RunUnread, not_noneRepeated_iff]
  simp only [fieldOr_eq_none, count?_eq_none, outputs?_eq_none]

/-- A list that is no longer than the fields of a cell of any type tells nothing of a run, so that
defaults are taken. -/
theorem not_runUnread_zip (vs : List Value) : ¬ RunUnread (plainFields.zip vs) := by
  have hcount : countField ∉ plainFields := by decide
  have houtputs : outputsField ∉ plainFields := by decide
  have hfilter : ∀ k ∉ plainFields, (plainFields.zip vs).filter (fun f => f.1 = k) = [] := by
    intro k hk
    rw [List.filter_eq_nil_iff]
    rintro ⟨k', v⟩ hmem
    simp only [decide_eq_true_eq]
    rintro rfl
    exact hk (List.of_mem_zip hmem).1
  simp [RunUnread, get?_zip_of_not_mem hcount, get?_zip_of_not_mem houtputs, hfilter _ hcount,
    hfilter _ houtputs]

/-! ## What an element is read as -/

namespace NotebookCell

theorem codeOf?_of_isMisread (h : IsMisread v) : codeOf? v = none := by
  obtain ⟨fs, rfl, -, hrun⟩ := h
  rw [Option.eq_none_iff_forall_ne_some]
  intro c hc
  obtain ⟨gs, hgs, tag, -, -, _, -, _, -, n, hn, o, ho, -⟩ := codeOf?_eq_some.1 hc
  rcases cellFields?_eq_some.1 hgs with ⟨heq, hrepeated⟩ | ⟨vs, heq, -⟩
  · obtain rfl := Value.obj.inj heq
    rw [codeFields_eq] at hrepeated
    rcases runUnread_iff.1 hrun with h | h | h
    · exact nomatch hn.symm.trans h
    · exact nomatch ho.symm.trans h
    · exact h (List.forall_mem_append.1 hrepeated).2
  · cases heq

/-- An element that names itself a code cell, with the metadata and source of one, is a code cell
unless it is misread. -/
theorem isMisread_of_codeOf?_eq_none {m : Table Value} {s : CellSource}
    (hfs : cellFields? plainFields v = some fs)
    (htype : Table.get? typeField fs = some (.str "code".toList))
    (hm : metadataIn? fs = some m) (hs : sourceIn? fs = some s) (hnone : codeOf? v = none) :
    IsMisread v := by
  have hrun : RunUnread fs := by
    by_contra hrun
    rw [runUnread_iff, not_or, not_or, not_not] at hrun
    obtain ⟨n, hn⟩ := Option.ne_none_iff_exists'.1 hrun.1
    obtain ⟨o, ho⟩ := Option.ne_none_iff_exists'.1 hrun.2.1
    rcases cellFields?_code hfs with hcode | ⟨-, -, hrepeated⟩
    · have hsome : codeOf? v = some (.code m s n o) :=
        codeOf?_eq_some.2 ⟨fs, hcode, _, htype, rfl, m, hm, s, hs, n, hn, o, ho, rfl⟩
      rw [hsome] at hnone
      cases hnone
    · exact hrepeated hrun.2.2
  rcases cellFields?_eq_some.1 hfs with ⟨hv, -⟩ | ⟨vs, -, -, rfl⟩
  · exact ⟨fs, hv, htype, hrun⟩
  · exact absurd hrun (not_runUnread_zip vs)

/-- A misread element is a cell of another type, and the type is `code`. -/
theorem exists_of_isMisread (h : ofValue? v = some c) (hv : IsMisread v) :
    ∃ m s, c = .other "code".toList m s := by
  have hcode := codeOf?_of_isMisread hv
  obtain ⟨fs, rfl, htype, -⟩ := hv
  have hmarkdown : markdownOf? (.obj fs) = none := by
    rw [Option.eq_none_iff_forall_ne_some]
    intro c hc
    obtain ⟨gs, hgs, -⟩ := markdownOf?_eq_some.1 hc
    rcases cellFields?_eq_some.1 hgs with ⟨heq, -⟩ | ⟨vs, heq, -⟩
    · obtain rfl := Value.obj.inj heq
      cases (markdownOf?_eq_none hgs htype (by decide)).symm.trans hc
    · cases heq
  obtain ⟨gs, t, m, s, hgs, hgtype, -, -, rfl⟩ := other_of_eq_none h hcode hmarkdown
  rcases cellFields?_eq_some.1 hgs with ⟨heq, -⟩ | ⟨vs, heq, -⟩
  · obtain rfl := Value.obj.inj heq
    obtain rfl := Value.str.inj (Option.some.inj (htype.symm.trans hgtype))
    exact ⟨m, s, rfl⟩
  · cases heq

/-- An element is read as a cell of another type exactly if it is foreign or misread. -/
theorem other_iff (h : ofValue? v = some c) :
    (∃ t m s, c = .other t m s) ↔ IsForeign v ∨ IsMisread v := by
  constructor
  · rintro ⟨t, m, s, rfl⟩
    have hcode : codeOf? v = none := by
      rw [Option.eq_none_iff_forall_ne_some]
      intro c hc
      have hc' := ofValue?_eq_some.2 (.inl hc)
      obtain rfl := Option.some.inj (h.symm.trans hc')
      obtain ⟨_, _, _, _, _, _, _, _, _, _, _, _, _, hc⟩ := codeOf?_eq_some.1 hc
      cases hc
    have hmarkdown : markdownOf? v = none := by
      rw [Option.eq_none_iff_forall_ne_some]
      intro c hc
      have hc' := ofValue?_eq_some.2 (.inr ⟨hcode, .inl hc⟩)
      obtain rfl := Option.some.inj (h.symm.trans hc')
      obtain ⟨_, _, _, _, _, _, _, _, _, hc⟩ := markdownOf?_eq_some.1 hc
      cases hc
    obtain ⟨fs, t', m', s', hfs, htype, hm, hs, heq⟩ := other_of_eq_none h hcode hmarkdown
    by_cases ht : t' = "code".toList
    · exact .inr (isMisread_of_codeOf?_eq_none hfs (ht ▸ htype) hm hs hcode)
    · refine .inl ⟨fs, t', hfs, htype, ht, ?_⟩
      rintro rfl
      have hsome : markdownOf? v = some (.markdown m' s') :=
        markdownOf?_eq_some.2 ⟨fs, hfs, _, htype, rfl, m', hm, s', hs, rfl⟩
      cases hmarkdown.symm.trans hsome
  · rintro (hv | hv)
    · obtain ⟨fs, t, hfs, htype, hcode, hmarkdown⟩ := hv
      obtain ⟨_, t, m, s, -, -, -, -, rfl⟩ := other_of_eq_none h (codeOf?_eq_none hfs htype hcode)
        (markdownOf?_eq_none hfs htype hmarkdown)
      exact ⟨t, m, s, rfl⟩
    · obtain ⟨m, s, rfl⟩ := exists_of_isMisread h hv
      exact ⟨_, m, s, rfl⟩

/-- The script has a comment for a cell in the place of a block exactly if the cell is of another
type. -/
theorem chunk_eq_commentChunk_iff (o : WriteOptions) :
    c.chunk o = commentChunk o c (.unsupported c.cellType) ↔ ∃ t m s, c = .other t m s := by
  constructor
  · intro h
    cases c with
    | code m s n out => exact nomatch congrArg List.head? h
    | markdown m s => exact nomatch congrArg List.head? h
    | other t m s => exact ⟨t, m, s, rfl⟩
  · rintro ⟨t, m, s, rfl⟩
    rfl

end NotebookCell

/-! ## Documents -/

/-- Exactly the foreign and the misread elements of a document are cells of another type and stand in
its script as comments; those that are misread as cells of the type `code`. -/
theorem commented_out_iff {t : Text} {nb : Notebook} (h : Notebook.ofText t = .ok nb)
    (o : WriteOptions) :
    ∃ fs vs, Value.read t = .ok (.obj fs) ∧
      fs.filter (fun f => f.1 = Notebook.cellsField) = [(Notebook.cellsField, .arr vs)] ∧
      List.Forall₂ (fun v c =>
        ((∃ t m s, c = NotebookCell.other t m s) ↔ IsForeign v ∨ IsMisread v) ∧
        (c.chunk o = commentChunk o c (.unsupported c.cellType) ↔ IsForeign v ∨ IsMisread v) ∧
        (IsMisread v → c.cellType = "code".toList)) vs nb.cells := by
  obtain ⟨fs, hfs, ⟨vs, hcells, hare⟩, -⟩ := Notebook.parse_eq_ok.1 (Notebook.ofText_eq_ok.1 h)
  refine ⟨fs, vs, mapError_eq_ok.2 hfs, hcells, hare.imp fun v c hc => ⟨?_, ?_, ?_⟩⟩
  · exact NotebookCell.other_iff hc
  · rw [NotebookCell.chunk_eq_commentChunk_iff, NotebookCell.other_iff hc]
  · intro hv
    obtain ⟨m, s, rfl⟩ := NotebookCell.exists_of_isMisread hc hv
    rfl

/-- A document of a raw cell, a code cell and a code cell whose outputs are null. -/
def mixedDocument : Value :=
  .obj [field "cells" (.arr [.obj [field "cell_type" (text "raw")],
    .obj [field "cell_type" (text "code")],
    .obj [field "cell_type" (text "code"), field "outputs" .null]])]

theorem commented_out_mixed :
    ∃ nb, Notebook.ofText mixedDocument.write = .ok nb ∧
      nb.cells.map NotebookCell.kind? = [none, some .executable, none] ∧
      ∃ fs vs, Value.read mixedDocument.write = .ok (.obj fs) ∧
        fs.filter (fun f => f.1 = Notebook.cellsField) = [(Notebook.cellsField, .arr vs)] ∧
        List.Forall₂ (fun v c =>
          ((∃ t m s, c = NotebookCell.other t m s) ↔ IsForeign v ∨ IsMisread v) ∧
          (c.chunk {} = commentChunk {} c (.unsupported c.cellType) ↔ IsForeign v ∨ IsMisread v) ∧
          (IsMisread v → c.cellType = "code".toList)) vs nb.cells := by
  obtain ⟨nb, h, hkinds⟩ : ∃ nb, Notebook.ofText mixedDocument.write = .ok nb ∧
      nb.cells.map NotebookCell.kind? = [none, some .executable, none] := by
    decide +kernel
  exact ⟨nb, h, hkinds, commented_out_iff h {}⟩

/-- A document of one code cell, whose outputs are null. -/
def misreadDocument : Value :=
  .obj [field "cells" (.arr [.obj [field "cell_type" (text "code"), field "metadata" (.obj []),
    field "source" (text "x"), field "execution_count" .null, field "outputs" .null]])]

/-- The document is read, but its code cell is a cell of another type, and what the script has of it
is a comment. -/
theorem code_commented_out :
    (∃ nb, Notebook.ofText misreadDocument.write = .ok nb ∧
      nb.cells.map NotebookCell.cellType = ["code".toList] ∧
      nb.cells.map NotebookCell.kind? = [none]) ∧
    ∃ s, convert {} .notebook misreadDocument.write = .ok s ∧
      Text.rows s = ["import herzog".toList, [],
        "# herzog: Unsupported cell kind \"code\"; cell commented out".toList,
        "# with herzog.Cell(\"code\"):".toList, "#     x".toList, []] := by
  decide +kernel

end CellScript
