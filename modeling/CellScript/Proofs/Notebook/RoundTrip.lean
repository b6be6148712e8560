import Mathlib.Data.List.Nodup
import CellScript.Notebook.Template
import CellScript.Proofs.Json.Written
import CellScript.Proofs.Notebook.Read
import CellScript.Proofs.Notebook.Shape

set_option autoImplicit false

/-! # Reading a notebook that was written

`reads_back_document`: the document of a notebook is read as that notebook, if the notebook was read
or was made of code and markdown cells and a template, has no doubles, and none of its cells of other
types claims to be code or markdown. Reading leaves everything in canonical order and within the
levels that the reader admits (`isSettled_of_ofText`), and nothing else is needed of a notebook
(`Notebook.IsSettled.ofText_text`). -/

namespace CellScript

open Json

variable {v : Value} {fs : List (Text × Value)} {c : NotebookCell} {d : Nat}

/-! ## Cells -/

namespace NotebookCell

/-- The metadata of a cell. -/
def metadata : NotebookCell → Table Value
  | code m _ _ _ => m
  | markdown m _ => m
  | other _ m _ => m

/-- The outputs of a cell. -/
def outputs : NotebookCell → List Value
  | code _ _ _ o => o
  | _ => []

/-- A cell whose metadata and outputs are in canonical order. -/
def IsCanonical (c : NotebookCell) : Prop :=
  (Value.obj c.metadata).canonical = .obj c.metadata ∧ ∀ v ∈ c.outputs, v.canonical = v

/-- A cell of another type than code and markdown does not claim to be of one of these. -/
def OwnType (c : NotebookCell) : Prop :=
  c.kind? = none → c.cellType ≠ "code".toList ∧ c.cellType ≠ "markdown".toList

instance : DecidablePred OwnType := fun c =>
  inferInstanceAs (Decidable (c.kind? = none → c.cellType ≠ _ ∧ c.cellType ≠ _))

end NotebookCell

theorem noneRepeated_of_nodup (names : List Text) (h : (fs.map Prod.fst).Nodup) :
    NoneRepeated names fs := by
  intro k _
  have hcount := List.nodup_iff_count_le_one.1 h k
  rw [List.count, List.countP_map, List.countP_eq_length_filter] at hcount
  rw [List.filter_congr (q := (fun x => x == k) ∘ Prod.fst)]
  · exact hcount
  · exact fun f _ => (beq_eq_decide f.1 k).symm

theorem Json.Value.texts?_map_str (ts : List Text) : (Value.arr (ts.map .str)).texts? = some ts := by
  rw [Value.texts?]
  induction ts with
  | nil => rfl
  | cons t ts ih =>
      rw [List.map_cons, List.mapM_cons, ih]
      rfl

theorem CellSource.ofValue?_toValue (s : CellSource) : CellSource.ofValue? s.toValue = some s := by
  cases s with
  | whole t => rfl
  | pieces ts => exact congrArg (Option.map pieces) (Value.texts?_map_str ts)

namespace NotebookCell

/-- The value of an execution count. -/
def countValue : Option Nat → Value
  | some n => .int n
  | none => .null

theorem count?_countValue (n : Option Nat) : count? (countValue n) = some n := by
  cases n <;> rfl

/-- The fields of the object that a cell is written as. -/
def writtenFields : NotebookCell → List (Text × Value)
  | code m s n o =>
    [(typeField, .str "code".toList), (metadataField, .obj m), (sourceField, s.toValue),
      (countField, countValue n), (outputsField, .arr o)]
  | markdown m s =>
    [(typeField, .str "markdown".toList), (metadataField, .obj m), (sourceField, s.toValue)]
  | other t m s => [(typeField, .str t), (metadataField, .obj m), (sourceField, s.toValue)]

theorem toValue_eq (c : NotebookCell) : c.toValue = .obj c.writtenFields := by
  cases c <;> rfl

theorem nodup_writtenFields (c : NotebookCell) : (c.writtenFields.map Prod.fst).Nodup := by
  have hcode : codeFields.Nodup := by decide
  have hplain : plainFields.Nodup := by decide
  cases c with
  | code m s n o => exact hcode
  | markdown m s => exact hplain
  | other t m s => exact hplain

theorem cellFields?_toValue (names : List Text) (c : NotebookCell) :
    cellFields? names c.toValue = some c.writtenFields :=
  cellFields?_eq_some.2
    (.inl ⟨c.toValue_eq, noneRepeated_of_nodup names c.nodup_writtenFields⟩)

theorem get?_typeField (c : NotebookCell) :
    Table.get? typeField c.writtenFields = some (.str c.cellType) := by
  refine Table.get?_of_mem c.nodup_writtenFields ?_
  cases c <;> exact List.mem_cons_self

theorem metadataIn?_writtenFields (hc : c.IsCanonical) :
    metadataIn? c.writtenFields = some c.metadata := by
  refine fieldOr_eq_some.2 (.inr ⟨.obj c.metadata, ?_, ?_⟩)
  · refine Table.get?_of_mem c.nodup_writtenFields ?_
    cases c <;> exact List.mem_cons_of_mem _ List.mem_cons_self
  · rw [Value.fields?, Value.obj.inj hc.1]

theorem sourceIn?_writtenFields (c : NotebookCell) : sourceIn? c.writtenFields = some c.source := by
  refine fieldOr_eq_some.2 (.inr ⟨c.source.toValue, ?_, c.source.ofValue?_toValue⟩)
  refine Table.get?_of_mem c.nodup_writtenFields ?_
  cases c <;> exact List.mem_cons_of_mem _ (List.mem_cons_of_mem _ List.mem_cons_self)

/-- What a cell is read as from the value that it is written as. -/
theorem ofValue?_toValue (hc : c.IsCanonical) (htype : c.OwnType) :
    ofValue? c.toValue = some c := by
  have hplain := c.cellFields?_toValue plainFields
  have hm := metadataIn?_writtenFields hc
  have hs := c.sourceIn?_writtenFields
  have hkeys := c.nodup_writtenFields
  cases c with
  | code m s n o =>
      refine ofValue?_eq_some.2 (.inl (codeOf?_eq_some.2 ⟨_, cellFields?_toValue codeFields _,
        _, get?_typeField _, rfl, m, hm, s, hs, n, ?_, o, ?_, rfl⟩))
      · exact fieldOr_eq_some.2 (.inr ⟨countValue n,
          Table.get?_of_mem hkeys (by simp [writtenFields]), count?_countValue n⟩)
      · have houtputs : outputs? (.arr o) = some o :=
          congrArg some (Value.canonicalAll_eq_self hc.2)
        exact fieldOr_eq_some.2 (.inr ⟨.arr o,
          Table.get?_of_mem hkeys (by simp [writtenFields]), houtputs⟩)
  | markdown m s =>
      have hne : "markdown".toList ≠ "code".toList := by decide
      have hcode := codeOf?_eq_none hplain (get?_typeField _) hne
      exact ofValue?_eq_some.2 (.inr ⟨hcode, .inl (markdownOf?_eq_some.2
        ⟨_, hplain, _, get?_typeField _, rfl, m, hm, s, hs, rfl⟩)⟩)
  | other t m s =>
      obtain ⟨hne, hne'⟩ := htype rfl
      have hcode := codeOf?_eq_none hplain (get?_typeField _) hne
      have hmarkdown := markdownOf?_eq_none hplain (get?_typeField _) hne'
      exact ofValue?_eq_some.2 (.inr ⟨hcode, .inr ⟨hmarkdown, otherOf?_eq_some.2
        ⟨_, hplain, t, get?_typeField _, m, hm, s, hs, rfl⟩⟩⟩)

end NotebookCell

/-! ## What reading leaves in a cell -/

theorem fits_of_cellFields? {names : List Text} (hfs : cellFields? names v = some fs)
    (hv : v.Fits (d + 1)) : ∀ f ∈ fs, f.2.Fits d := by
  rcases cellFields?_eq_some.1 hfs with ⟨rfl, -⟩ | ⟨vs, rfl, -, rfl⟩
  · cases hv with
    | obj h _ => exact h
  · cases hv with
    | arr h _ => exact fun f hf => h f.2 (List.of_mem_zip hf).2

/-- What a field holds is a default, or is read from a value that fits. -/
theorem exists_fits_of_fieldOr {α : Type} {default a : α} {read? : Value → Option α} {k : Text}
    (hfs : ∀ f ∈ fs, f.2.Fits d) (h : fieldOr default read? k fs = some a) :
    default = a ∨ ∃ v, v.Fits d ∧ read? v = some a := by
  rcases fieldOr_eq_some.1 h with ⟨-, rfl⟩ | ⟨v, hv, ha⟩
  · exact .inl rfl
  · exact .inr ⟨v, hfs _ (Table.mem_of_get? hv), ha⟩

theorem of_metadataIn? {m : Table Value} (hd : 1 < d) (hfs : ∀ f ∈ fs, f.2.Fits d)
    (h : metadataIn? fs = some m) :
    (Value.obj m).Fits d ∧ (Value.obj m).canonical = .obj m := by
  rcases exists_fits_of_fieldOr hfs h with rfl | ⟨v, hv, hm⟩
  · obtain ⟨d, rfl⟩ : ∃ e, d = e + 1 := ⟨d - 1, by omega⟩
    exact ⟨.obj (fun f hf => absurd hf List.not_mem_nil) (by omega), rfl⟩
  · cases v with
    | obj gs =>
        obtain rfl := Option.some.inj hm
        exact ⟨hv.canonical, (Value.obj gs).canonical_canonical⟩
    | _ => cases hm

theorem CellSource.fits_toValue (hd : 1 < d) (s : CellSource) : s.toValue.Fits d := by
  cases s with
  | whole t => exact .str t
  | pieces ts =>
      obtain ⟨d, rfl⟩ : ∃ e, d = e + 1 := ⟨d - 1, by omega⟩
      refine .arr (fun v hv => ?_) (by omega)
      obtain ⟨t, -, rfl⟩ := List.mem_map.1 hv
      exact .str t

theorem countValue_of_count? {n : Option Nat} (h : count? v = some n) :
    NotebookCell.countValue n = v := by
  cases v with
  | null => obtain rfl := Option.some.inj h; rfl
  | int i =>
      cases i with
      | ofNat k => obtain rfl := Option.some.inj h; rfl
      | negSucc k => cases h
  | _ => cases h

theorem fits_countIn? {n : Option Nat} (hfs : ∀ f ∈ fs, f.2.Fits d)
    (h : fieldOr none count? countField fs = some n) : (NotebookCell.countValue n).Fits d := by
  rcases exists_fits_of_fieldOr hfs h with rfl | ⟨v, hv, hn⟩
  · exact .null
  · rw [countValue_of_count? hn]
    exact hv

theorem of_outputsIn? {o : List Value} (hd : 1 < d) (hfs : ∀ f ∈ fs, f.2.Fits d)
    (h : fieldOr [] outputs? outputsField fs = some o) :
    (Value.arr o).Fits d ∧ ∀ v ∈ o, v.canonical = v := by
  rcases exists_fits_of_fieldOr hfs h with rfl | ⟨v, hv, ho⟩
  · obtain ⟨d, rfl⟩ : ∃ e, d = e + 1 := ⟨d - 1, by omega⟩
    exact ⟨.arr (fun v hv => absurd hv List.not_mem_nil) (by omega),
      fun v hv => absurd hv List.not_mem_nil⟩
  · cases v with
    | arr vs =>
        obtain rfl := Option.some.inj ho
        refine ⟨hv.canonical, fun w hw => ?_⟩
        rw [Value.canonicalAll_eq_map] at hw
        obtain ⟨w, -, rfl⟩ := List.mem_map.1 hw
        exact w.canonical_canonical
    | _ => cases ho

namespace NotebookCell

/-- A cell that is read fits where its value did, and is in canonical order. -/
theorem of_ofValue? (hd : 1 < d) (hv : v.Fits (d + 1)) (h : ofValue? v = some c) :
    c.toValue.Fits (d + 1) ∧ c.IsCanonical := by
  have hpos : 0 < d := by omega
  rcases ofValue?_eq_some.1 h with h | ⟨-, h | ⟨-, h⟩⟩
  · obtain ⟨fs, hfs, _, -, -, m, hm, s, -, n, hn, o, ho, rfl⟩ := codeOf?_eq_some.1 h
    have hfits := fits_of_cellFields? hfs hv
    have hmetadata := of_metadataIn? hd hfits hm
    have houtputs := of_outputsIn? hd hfits ho
    rw [toValue_eq]
    refine ⟨.obj ?_ hpos, hmetadata.2, houtputs.2⟩
    simp only [writtenFields, List.forall_mem_cons]
    exact ⟨.str _, hmetadata.1, s.fits_toValue hd, fits_countIn? hfits hn, houtputs.1,
      fun f hf => absurd hf List.not_mem_nil⟩
  · obtain ⟨fs, hfs, _, -, -, m, hm, s, -, rfl⟩ := markdownOf?_eq_some.1 h
    have hmetadata := of_metadataIn? hd (fits_of_cellFields? hfs hv) hm
    rw [toValue_eq]
    refine ⟨.obj ?_ hpos, hmetadata.2, fun v hv => absurd hv List.not_mem_nil⟩
    simp only [writtenFields, List.forall_mem_cons]
    exact ⟨.str _, hmetadata.1, s.fits_toValue hd, fun f hf => absurd hf List.not_mem_nil⟩
  · obtain ⟨fs, hfs, t, -, m, hm, s, -, rfl⟩ := otherOf?_eq_some.1 h
    have hmetadata := of_metadataIn? hd (fits_of_cellFields? hfs hv) hm
    rw [toValue_eq]
    refine ⟨.obj ?_ hpos, hmetadata.2, fun v hv => absurd hv List.not_mem_nil⟩
    simp only [writtenFields, List.forall_mem_cons]
    exact ⟨.str _, hmetadata.1, s.fits_toValue hd, fun f hf => absurd hf List.not_mem_nil⟩

end NotebookCell

/-! ## Documents -/

namespace Notebook

/-- A notebook as reading leaves it: it fits below the depth of the reader, it is in canonical order
throughout, and none of its fields is that of the cells. -/
structure IsSettled (nb : Notebook) : Prop where
  fits : nb.toValue.Fits maxDepth
  cells : ∀ c ∈ nb.cells, c.IsCanonical
  fields : (Value.obj nb.fields).canonical = .obj nb.fields
  others : ∀ f ∈ nb.fields, f.1 ≠ cellsField

/-- A notebook fits if its cells and its fields do. -/
theorem fits_toValue {nb : Notebook} (hcells : ∀ c ∈ nb.cells, c.toValue.Fits (maxDepth - 2))
    (hfields : ∀ f ∈ nb.fields, f.2.Fits (maxDepth - 1)) : nb.toValue.Fits maxDepth := by
  refine .obj (d := maxDepth - 1) (List.forall_mem_cons.2 ⟨?_, hfields⟩) (by decide)
  refine .arr (d := maxDepth - 2) (fun v hv => ?_) (by decide)
  obtain ⟨c, hc, rfl⟩ := List.mem_map.1 hv
  exact hcells c hc

theorem isSettled_of_ofText {t : Text} {nb : Notebook} (h : ofText t = .ok nb) :
    nb.IsSettled := by
  obtain ⟨fs, hfs, ⟨vs, hvs, hare⟩, hfields⟩ := parse_eq_ok.1 (ofText_eq_ok.1 h)
  obtain ⟨u, hread, -⟩ := Value.parse_eq_ok.1 hfs
  have hfits : ∀ f ∈ fs, f.2.Fits (maxDepth - 1) := by
    cases hread.fits with
    | obj h _ => exact h
  have hcells : (cellsField, Value.arr vs) ∈ fs :=
    List.mem_of_mem_filter (hvs ▸ List.mem_cons_self)
  have helements : ∀ v ∈ vs, v.Fits (maxDepth - 2) := by
    cases hfits _ hcells with
    | arr h _ => exact h
  have hread : ∀ c ∈ nb.cells, c.toValue.Fits (maxDepth - 2) ∧ c.IsCanonical := by
    intro c hc
    obtain ⟨v, hv, hvc⟩ := exists_of_forall₂ hare hc
    exact NotebookCell.of_ofValue? (d := maxDepth - 3) (by decide) (helements v hv) hvc
  have hmember : ∀ f ∈ nb.fields, ∃ g ∈ fs, g.1 ≠ cellsField ∧ f = (g.1, g.2.canonical) := by
    intro f hf
    rw [hfields, Value.canonicalFields_eq_mapValues] at hf
    obtain ⟨g, hg, rfl⟩ := Value.exists_of_mem_canonical hf
    obtain ⟨hg, hne⟩ := List.mem_filter.1 hg
    exact ⟨g, hg, by simpa using hne, rfl⟩
  refine ⟨fits_toValue (fun c hc => (hread c hc).1) fun f hf => ?_, fun c hc => (hread c hc).2, ?_,
    fun f hf => ?_⟩
  · obtain ⟨g, hg, -, rfl⟩ := hmember f hf
    exact (hfits g hg).canonical
  · rw [hfields]
    exact (Value.obj (Table.erase cellsField fs)).canonical_canonical
  · obtain ⟨g, -, hne, rfl⟩ := hmember f hf
    exact hne

/-- A template is an object without its field for the cells. -/
theorem of_template {t : Text} {template : Table Value} (h : Template.ofText t = .ok template) :
    (∀ f ∈ template, f.2.Fits (maxDepth - 1)) ∧
      (Value.obj template).canonical = .obj template := by
  rw [Template.ofText] at h
  split at h
  · cases h
  · rename_i v hv
    obtain ⟨u, hread, -⟩ := Value.parse_eq_ok.1 (mapError_eq_ok.1 hv)
    cases v with
    | obj fs =>
        obtain rfl := Except.ok.inj h
        have hfits : ∀ f ∈ Table.ofList (Value.canonicalFields fs), f.2.Fits (maxDepth - 1) := by
          cases hread.fits.canonical with
          | obj h _ => exact h
        have hcanonical := Value.canonical_obj_eq_self_iff.1 (Value.obj fs).canonical_canonical
        refine ⟨fun f hf => hfits f (List.mem_of_mem_filter hf),
          Value.canonical_obj_eq_self_iff.2 ⟨Table.ordered_erase hcanonical.1, fun f hf => ?_⟩⟩
        exact hcanonical.2 f (List.mem_of_mem_filter hf)
    | _ => cases h

theorem isSettled_ofCells {cells : List NotebookCell} {t : Text} {template : Table Value}
    (ht : Template.ofText t = .ok template)
    (hcells : ∀ c ∈ cells, c.IsCanonical ∧ c.toValue.Fits (maxDepth - 2)) :
    (ofCells cells template).IsSettled := by
  obtain ⟨hfits, hcanonical⟩ := of_template ht
  obtain ⟨hordered, hvalues⟩ := Value.canonical_obj_eq_self_iff.1 hcanonical
  refine ⟨fits_toValue (fun c hc => (hcells c hc).2) fun f hf => ?_, fun c hc => (hcells c hc).1,
    Value.canonical_obj_eq_self_iff.2 ⟨Table.ordered_erase hordered, fun f hf => ?_⟩,
    fun f hf => ?_⟩
  · exact hfits f (List.mem_of_mem_filter hf)
  · exact hvalues f (List.mem_of_mem_filter hf)
  · simpa using (List.mem_filter.1 hf).2

/-- The document of a settled notebook is read as the value of the notebook. -/
theorem IsSettled.parse_text {nb : Notebook} (h : nb.IsSettled) (hexact : nb.toValue.isExact) :
    Value.parse nb.text = .ok nb.toValue :=
  Value.parse_write hexact h.fits (fun _ hc => .inr (Option.some.inj hc).symm) rfl

/-- The fields of the value of a settled notebook name the cells once. -/
theorem IsSettled.filter_cells {nb : Notebook} (h : nb.IsSettled) :
    ((cellsField, Value.arr (nb.cells.map NotebookCell.toValue)) :: nb.fields).filter
        (fun f => f.1 = cellsField) =
      [(cellsField, .arr (nb.cells.map NotebookCell.toValue))] := by
  have hnone : nb.fields.filter (fun f => f.1 = cellsField) = [] :=
    List.filter_eq_nil_iff.2 fun f hf => by simpa using h.others f hf
  rw [List.filter_cons_of_pos (by simp), hnone]

/-- The document of a settled notebook is read as the notebook. -/
theorem IsSettled.reads_back {nb : Notebook} (h : nb.IsSettled) (hexact : nb.toValue.isExact)
    (htypes : ∀ c ∈ nb.cells, c.OwnType) : ofText nb.text = .ok nb := by
  have hcells : AreCells (nb.cells.map NotebookCell.toValue) nb.cells := by
    refine List.forall₂_map_left_iff.2 (List.forall₂_same.2 fun c hc => ?_)
    exact NotebookCell.ofValue?_toValue (h.cells c hc) (htypes c hc)
  have hfields : nb.fields = Table.ofList (Value.canonicalFields (Table.erase cellsField
      ((cellsField, .arr (nb.cells.map NotebookCell.toValue)) :: nb.fields))) := by
    rw [Table.erase_cons_self, Table.erase_eq_self h.others]
    exact (Value.obj.inj h.fields).symm
  exact ofText_eq_ok.2 (parse_eq_ok.2
    ⟨_, h.parse_text hexact, ⟨_, h.filter_cells, hcells⟩, hfields⟩)

/-- A notebook that was read, or made of cells and a template, is read back from its document, which
has one field for the cells. -/
theorem ofText_text (nb : Notebook)
    (horigin : (∃ t, ofText t = .ok nb) ∨
      ∃ cells t template, Template.ofText t = .ok template ∧ nb = ofCells cells template ∧
        ∀ c ∈ cells, c.IsCanonical ∧ c.toValue.Fits (maxDepth - 2))
    (hexact : nb.toValue.isExact) (htypes : ∀ c ∈ nb.cells, c.OwnType) :
    ofText nb.text = .ok nb ∧
      (∃ fs, Value.read nb.text = .ok (.obj fs) ∧
        (fs.filter fun f => f.1 = cellsField).length = 1) ∧
      (ofText nb.text).map text = .ok nb.text := by
  have hsettled : nb.IsSettled := by
    rcases horigin with ⟨t, ht⟩ | ⟨cells, t, template, ht, rfl, hcells⟩
    · exact isSettled_of_ofText ht
    · exact isSettled_ofCells ht hcells
  have hback := hsettled.reads_back hexact htypes
  refine ⟨hback, ⟨_, mapError_eq_ok.2 (hsettled.parse_text hexact), ?_⟩, ?_⟩
  · rw [hsettled.filter_cells]
    rfl
  · rw [hback]
    rfl

/-- A document with fields out of order, a code cell with the greatest execution count, a list in the
place of a markdown cell, and a raw cell. -/
def unorderedDocument : Value :=
  .obj [field "nbformat" (.int 4), field "metadata" (.obj [field "b" .null, field "a" (.int (-1))]),
    field "cells" (.arr
      [.obj [field "execution_count" (.int 18446744073709551615),
          field "source" (.arr [Json.text "a\n", Json.text "\t\"b\""]),
          field "outputs" (.arr [.obj [field "y" (.arr []), field "x" (.bool true)]]),
          field "cell_type" (Json.text "code"), field "id" (Json.text "1")],
        .arr [.int 1, .obj [], Json.text "c"],
        .obj [field "cell_type" (Json.text "raw")]])]

theorem ofText_text_unordered :
    ∃ nb, ofText unorderedDocument.write = .ok nb ∧ nb.toValue.isExact ∧
      (∀ c ∈ nb.cells, c.OwnType) ∧
      nb.cells.map NotebookCell.cellType = ["code".toList, "markdown".toList, "raw".toList] ∧
      ofText nb.text = .ok nb ∧
      (∃ fs, Value.read nb.text = .ok (.obj fs) ∧
        (fs.filter fun f => f.1 = cellsField).length = 1) ∧
      (ofText nb.text).map text = .ok nb.text := by
  obtain ⟨nb, h, hexact, htypes, hcells⟩ : ∃ nb, ofText unorderedDocument.write = .ok nb ∧
      nb.toValue.isExact ∧ (∀ c ∈ nb.cells, c.OwnType) ∧
      nb.cells.map NotebookCell.cellType = ["code".toList, "markdown".toList, "raw".toList] := by
    decide +kernel
  exact ⟨nb, h, hexact, htypes, hcells, ofText_text nb (.inl ⟨_, h⟩) hexact htypes⟩

end Notebook

end CellScript
