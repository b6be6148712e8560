import CellScript.Convert.Assemble
import CellScript.Proofs.Except
import CellScript.Proofs.Script.Place
import Mathlib.Algebra.Order.BigOperators.Group.List
import Mathlib.Algebra.Order.Group.Nat

set_option autoImplicit false

/-! # What a notebook puts into a script

The rows of a script come from the openers of its blocks, from bodies, which are indented, and from
comments. `Notebook.confined_iff` says when that holds of every row of a script, so that nothing a
notebook says is code outside the block of its cell: cells that have no block must not have a line
feed in their type, or what follows it must begin like a body or a comment. -/

namespace CellScript

namespace WriteOptions

variable (o : WriteOptions)

/-- The opener of a code or a markdown block. -/
def IsOpener (row : Text) : Prop :=
  row = o.opener CellKind.executable.literal.toList ∨ row = o.opener CellKind.prose.literal.toList

/-- A row that opens no block and is no code at the margin: it is empty, indented like a body, or a
comment. -/
def IsCovered (row : Text) : Prop := row = [] ∨ o.margin <+: row ∨ row.head? = some '#'

instance (row : Text) : Decidable (o.IsOpener row) := inferInstanceAs (Decidable (_ ∨ _))

instance (row : Text) : Decidable (o.IsCovered row) := inferInstanceAs (Decidable (_ ∨ _ ∨ _))

/-- The type of a cell, put into comments, leaves only covered rows: those after its first, the last
of which goes on. -/
def Harmless (cellType : Text) : Prop :=
  (∀ row ∈ (Text.rows cellType).tail.dropLast, o.IsCovered row) ∧
    ∀ row ∈ (Text.rows cellType).tail.getLast?, row ≠ [] ∧ o.IsCovered row

instance (cellType : Text) : Decidable (o.Harmless cellType) := inferInstanceAs (Decidable (_ ∧ _))

/-- The import line, without its end. -/
def importRow : Text := "import ".toList ++ o.guardModule

end WriteOptions

/-- Every row of a script is the import line at the top, the opener of a block that is written for a
code or markdown cell, or covered. -/
structure Confined (o : WriteOptions) (nb : Notebook) : Prop where
  top : o.importLine = true → (Text.rows (nb.script o)).head? = some o.importRow
  rows : ∀ row ∈ (Text.rows (nb.script o)).drop (if o.importLine then 1 else 0),
    o.IsOpener row ∨ o.IsCovered row
  openers : (Text.rows (nb.script o)).filter (o.IsOpener ·) =
    (nb.cells.filterMap NotebookCell.kind?).map fun k => o.opener k.literal.toList

instance (o : WriteOptions) (nb : Notebook) : Decidable (Confined o nb) :=
  decidable_of_iff
    ((o.importLine = true → (Text.rows (nb.script o)).head? = some o.importRow) ∧
      (∀ row ∈ (Text.rows (nb.script o)).drop (if o.importLine then 1 else 0),
        o.IsOpener row ∨ o.IsCovered row) ∧
      (Text.rows (nb.script o)).filter (o.IsOpener ·) =
        (nb.cells.filterMap NotebookCell.kind?).map fun k => o.opener k.literal.toList)
    ⟨fun ⟨top, rows, openers⟩ => ⟨top, rows, openers⟩, fun h => ⟨h.top, h.rows, h.openers⟩⟩

variable {o : WriteOptions}

theorem forall_mem_iff_dropLast {α : Type} {P : α → Prop} (l : List α) :
    (∀ a ∈ l, P a) ↔ (∀ a ∈ l.dropLast, P a) ∧ ∀ a ∈ l.getLast?, P a := by
  rcases List.eq_nil_or_concat' l with rfl | ⟨as, a, rfl⟩
  · simp
  · simp [or_imp, forall_and]

/-! ## Single rows -/

theorem isCovered_rowOf (t : Text) : o.IsCovered (o.rowOf t) := by
  unfold WriteOptions.rowOf
  split
  · exact .inl rfl
  · exact .inr (.inl (List.prefix_append _ _))

theorem not_isOpener_of_isCovered {row : Text} (hindent : 0 < o.indent) (h : o.IsCovered row) :
    ¬ o.IsOpener row := by
  have hopener : ∀ kind, ¬ o.IsCovered (o.opener kind) := by
    rintro kind (h | h | h)
    · cases h
    · obtain ⟨n, hn⟩ := Nat.exists_eq_add_of_lt hindent
      rw [WriteOptions.margin, hn, List.replicate_succ] at h
      exact absurd (List.cons_prefix_cons.1 h).1 (by decide)
    · exact absurd (Option.some.inj h) (by decide)
  rintro (rfl | rfl)
  · exact hopener _ h
  · exact hopener _ h

theorem margin_prefix_append_quote {row s : Text} :
    o.margin <+: row ++ '"' :: s ↔ o.margin <+: row := by
  refine ⟨fun h => ?_, fun h => h.trans (List.prefix_append row _)⟩
  unfold WriteOptions.margin at h ⊢
  generalize o.indent = n at h ⊢
  induction n generalizing row with
  | zero => exact List.nil_prefix
  | succ n ih =>
      rw [List.replicate_succ] at h ⊢
      cases row with
      | nil => exact absurd (List.cons_prefix_cons.1 h).1 (by decide)
      | cons c cs =>
          obtain ⟨rfl, htail⟩ := List.cons_prefix_cons.1 h
          exact List.cons_prefix_cons.2 ⟨rfl, ih htail⟩

/-- A row that goes on with a quote is covered by what stands before the quote. -/
theorem isCovered_append_quote {row s : Text} (hindent : 0 < o.indent) :
    o.IsCovered (row ++ '"' :: s) ↔ row ≠ [] ∧ o.IsCovered row := by
  have hmargin : o.margin ≠ [] := by
    rw [WriteOptions.margin, Ne, List.replicate_eq_nil_iff]
    omega
  unfold WriteOptions.IsCovered
  rw [margin_prefix_append_quote]
  cases row with
  | nil => simp [List.prefix_nil, hmargin]
  | cons c cs => simp

/-! ## The rows of a chunk -/

/-- The rows of the chunk of a cell that has a block. -/
theorem rows_cellChunk {nc : NotebookCell} {c : Cell} (hm : '\n' ∉ o.guardModule)
    (h : nc.toCell = .ok c) :
    Text.rows (nc.chunk o) =
      o.opener c.kind.literal.toList :: (c.bodyLines.map o.rowOf ++ [[]]) := by
  have hopener : '\n' ∉ o.opener c.kind.literal.toList :=
    not_mem_opener hm c.kind.not_mem_literal
  have hlines : ∀ t ∈ c.bodyLines, '\n' ∉ t := by
    refine not_mem_bodyLines fun t ht => ?_
    rw [(NotebookCell.content_of_toCell h).1] at ht
    exact Text.not_mem_of_mem_lines ht
  have hbody := rows_body (o := o) hlines []
  rw [List.append_nil] at hbody
  rw [NotebookCell.chunk_of_toCell h, Cell.chunk, Text.rows_line hopener, hbody]
  rfl

/-- A line of a source as a comment, without its end. -/
def WriteOptions.commentRow (o : WriteOptions) (t : Text) : Text :=
  if t.isEmpty then ['#'] else '#' :: ' ' :: o.margin ++ t

theorem commentLine_eq (t : Text) : commentLine o t = o.commentRow t ++ ['\n'] := by
  unfold commentLine WriteOptions.commentRow
  split <;> simp

theorem rows_commentLines {ts : List Text} (h : ∀ t ∈ ts, '\n' ∉ t) :
    Text.rows (ts.flatMap (commentLine o)) = ts.map o.commentRow ++ [[]] := by
  induction ts with
  | nil => rfl
  | cons t rest ih =>
      have hrow : '\n' ∉ o.commentRow t := by
        unfold WriteOptions.commentRow
        split
        · decide
        · simp [not_mem_margin, h t List.mem_cons_self]
      rw [List.flatMap_cons, commentLine_eq, List.append_assoc, List.singleton_append,
        Text.rows_line hrow, ih fun l hl => h l (List.mem_cons_of_mem t hl)]
      rfl

/-- What stands before the type of a cell in the first comment about it. -/
def noticeStart : Text := "# herzog: ".toList ++ "Unsupported cell kind \"".toList

/-- What stands after it. -/
def noticeStop : Text := '"' :: "; cell commented out".toList

/-- What stands before the type of a cell in the second comment about it. -/
def WriteOptions.mutedStart (o : WriteOptions) : Text :=
  "# ".toList ++ ("with ".toList ++ o.guardModule ++ ".Cell(\"".toList)

/-- What stands after it. -/
def mutedStop : Text := "\"):".toList

/-- The chunk of a cell that has no block: its type stands in two comments, its source in others. -/
theorem commentChunk_eq {nc : NotebookCell} (hkind : nc.kind? = none) :
    nc.chunk o = (noticeStart ++ (nc.cellType ++ noticeStop)) ++ '\n' ::
      ((o.mutedStart ++ (nc.cellType ++ mutedStop)) ++ '\n' ::
        (Text.lines nc.source.text).flatMap (commentLine o)) := by
  have hcell : nc.toCell = .error (.unsupported nc.cellType) := by
    rw [NotebookCell.toCell, hkind]
  have hmessage : (CellError.unsupported nc.cellType).message.toList =
      "Unsupported cell kind \"".toList ++ nc.cellType ++ ['"'] := by
    have htype : (String.ofList nc.cellType).toList = nc.cellType := String.toList_ofList
    unfold CellError.message
    rw [String.toList_append, String.toList_append, htype]
    rfl
  have hstop : "; cell commented out\n".toList = "; cell commented out".toList ++ ['\n'] := rfl
  have hassoc : ∀ a b t c d e m f g u : Text,
      a ++ (b ++ t ++ ['"']) ++ (c ++ ['\n']) ++ d ++ (e ++ m ++ f ++ t ++ g) ++ '\n' :: u =
        ((a ++ b) ++ (t ++ '"' :: c)) ++ '\n' ::
          ((d ++ (e ++ m ++ f)) ++ (t ++ g) ++ '\n' :: u) := by
    intros
    simp
  have hchunk : nc.chunk o = commentChunk o nc (.unsupported nc.cellType) := by
    unfold NotebookCell.chunk
    rw [hcell]
  unfold commentChunk at hchunk
  rw [hchunk, hmessage, hstop]
  exact hassoc _ _ _ _ _ _ _ _ _ _

theorem rows_commentChunk {nc : NotebookCell} (hkind : nc.kind? = none) :
    Text.rows (nc.chunk o) =
      Text.rows (noticeStart ++ (nc.cellType ++ noticeStop)) ++
        (Text.rows (o.mutedStart ++ (nc.cellType ++ mutedStop)) ++
          (Text.lines nc.source.text).map o.commentRow) ++ [[]] := by
  have hlines : ∀ t ∈ Text.lines nc.source.text, '\n' ∉ t := fun t => Text.not_mem_of_mem_lines
  rw [commentChunk_eq hkind, Text.rows_append, Text.rows_append, rows_commentLines hlines]
  simp only [List.append_assoc]

/-- A property that comments have holds of the rows of the chunk of a cell without a block if it
holds of what the type of the cell makes of rows. -/
theorem forall_rows_commentChunk_iff {nc : NotebookCell} {P : Text → Prop}
    (hm : '\n' ∉ o.guardModule) (hkind : nc.kind? = none) (hP : ∀ t, P ('#' :: t)) :
    (∀ row ∈ (Text.rows (nc.chunk o)).dropLast, P row) ↔
      (∀ row ∈ (Text.rows nc.cellType).tail.dropLast, P row) ∧
        ∀ row ∈ (Text.rows nc.cellType).tail.getLast?,
          P (row ++ noticeStop) ∧ P (row ++ mutedStop) := by
  have hmuted : '\n' ∉ o.mutedStart := by
    unfold WriteOptions.mutedStart
    rw [List.mem_append, List.mem_append, List.mem_append]
    rintro (h | (h | h) | h)
    · exact absurd h (by decide)
    · exact absurd h (by decide)
    · exact hm h
    · exact absurd h (by decide)
  have hcomment : ∀ t, P (o.commentRow t) := by
    intro t
    unfold WriteOptions.commentRow
    split
    · exact hP []
    · exact hP _
  have hnotice := Text.forall_rows_between_iff (P := P) (p := noticeStart) (t := nc.cellType)
    (s := noticeStop) (by decide +kernel) (by decide +kernel) fun u => hP _
  have hopener := Text.forall_rows_between_iff (P := P) (t := nc.cellType) (s := mutedStop)
    hmuted (by decide +kernel) fun u => hP _
  rw [rows_commentChunk hkind, List.dropLast_concat]
  -- the type stands in two comments, and its rows are asked for once
  simp only [List.forall_mem_append, hnotice, hopener, List.forall_mem_map, hcomment,
    implies_true, and_true]
  constructor
  · rintro ⟨⟨hmiddle, hlast⟩, -, hlast'⟩
    exact ⟨hmiddle, fun row hrow => ⟨hlast row hrow, hlast' row hrow⟩⟩
  · rintro ⟨hmiddle, hlast⟩
    exact ⟨⟨hmiddle, fun row hrow => (hlast row hrow).1⟩, hmiddle,
      fun row hrow => (hlast row hrow).2⟩

/-- The rows of the chunk of a cell without a block are covered exactly if its type is harmless. -/
theorem forall_isCovered_iff {nc : NotebookCell} (hindent : 0 < o.indent)
    (hm : '\n' ∉ o.guardModule) (hkind : nc.kind? = none) :
    (∀ row ∈ Text.rows (nc.chunk o), o.IsCovered row) ↔ o.Harmless nc.cellType := by
  have hcomment : ∀ t, o.IsCovered ('#' :: t) := fun t => .inr (.inr rfl)
  -- the row after the last line end is empty, and so covered
  have hlast : (∀ row ∈ Text.rows (nc.chunk o), o.IsCovered row) ↔
      ∀ row ∈ (Text.rows (nc.chunk o)).dropLast, o.IsCovered row := by
    rw [rows_commentChunk hkind, List.dropLast_concat, List.forall_mem_append]
    simp [WriteOptions.IsCovered]
  rw [hlast, forall_rows_commentChunk_iff hm hkind hcomment, WriteOptions.Harmless]
  refine and_congr_right fun _ => forall_congr' fun row => forall_congr' fun _ => ?_
  have hnotice : o.IsCovered (row ++ noticeStop) ↔ row ≠ [] ∧ o.IsCovered row :=
    isCovered_append_quote hindent
  have hmuted : o.IsCovered (row ++ mutedStop) ↔ row ≠ [] ∧ o.IsCovered row :=
    isCovered_append_quote hindent
  rw [hnotice, hmuted, and_self]

/-! ## The rows of a script -/

/-- The rows of a script are the import line and those of the chunks, with empty ones between. -/
theorem exists_rows_chunks (nb : Notebook) (hm : '\n' ∉ o.guardModule) :
    ∃ blanks : List Text, (∀ row ∈ blanks, row = []) ∧
      Text.rows (nb.script o) = (if o.importLine then [o.importRow] else []) ++
        (blanks ++ nb.cells.flatMap fun nc => Text.rows (nc.chunk o)) := by
  have hnil : ∀ row ∈ [([] : Text)], row = [] := fun row => List.mem_singleton.1
  by_cases hparts : nb.scriptParts o = []
  · -- the script is empty, and its one row is blank
    obtain ⟨himport, hcells⟩ := List.append_eq_nil_iff.1 hparts
    refine ⟨[[]], hnil, ?_⟩
    rw [Notebook.script, hparts, List.map_eq_nil_iff.1 hcells]
    cases hi : o.importLine with
    | false => rfl
    | true => simp [hi] at himport
  · have himport : Text.rows o.importText = [o.importRow, []] := by
      have hrow : '\n' ∉ o.importRow := by
        unfold WriteOptions.importRow
        rw [List.mem_append]
        rintro (h | h)
        · exact absurd h (by decide)
        · exact hm h
      have htext : o.importText = o.importRow ++ '\n' :: [] := rfl
      rw [htext, Text.rows_line hrow, Text.rows]
    rw [Notebook.script, Text.rows_joinWith hparts, Notebook.scriptParts, List.flatMap_append,
      List.flatMap_map]
    cases o.importLine with
    | false => exact ⟨[], by simp, rfl⟩
    | true =>
        refine ⟨[[]], hnil, ?_⟩
        simp only [if_true, List.flatMap_cons, List.flatMap_nil, himport]
        rfl

/-- The opener that is written for a cell, if one is. -/
def WriteOptions.openers (o : WriteOptions) (nc : NotebookCell) : List Text :=
  nc.kind?.toList.map fun k => o.opener k.literal.toList

theorem NotebookCell.toCell_of_kind? {nc : NotebookCell} {k : CellKind} (h : nc.kind? = some k) :
    nc.toCell = .ok ⟨k, Text.lines nc.source.text⟩ := by
  rw [NotebookCell.toCell, h]

theorem filter_isOpener_eq_nil {rows : List Text} (hindent : 0 < o.indent)
    (h : ∀ row ∈ rows, o.IsCovered row) : rows.filter (o.IsOpener ·) = [] := by
  rw [List.filter_eq_nil_iff]
  intro row hrow
  simpa using not_isOpener_of_isCovered hindent (h row hrow)

/-- The rows after the opener of a written block are covered. -/
theorem isCovered_of_mem_body {ts : List Text} :
    ∀ row ∈ ts.map o.rowOf ++ [[]], o.IsCovered row := by
  intro row hrow
  rcases List.mem_append.1 hrow with hrow | hrow
  · obtain ⟨t, -, rfl⟩ := List.mem_map.1 hrow
    exact isCovered_rowOf t
  · exact .inl (List.mem_singleton.1 hrow)

theorem isOpener_of_toCell {nc : NotebookCell} {c : Cell} (h : nc.toCell = .ok c) :
    o.IsOpener (o.opener c.kind.literal.toList) := by
  obtain ⟨-, hkind⟩ := NotebookCell.content_of_toCell h
  cases hk : c.kind with
  | executable => exact .inl rfl
  | prose => exact .inr rfl
  | sandbox => exact absurd hk hkind

/-- A cell with a block has its opener in its chunk, and no other. -/
theorem openers_of_kind? {nc : NotebookCell} {k : CellKind} (hindent : 0 < o.indent)
    (hm : '\n' ∉ o.guardModule) (h : nc.kind? = some k) :
    (Text.rows (nc.chunk o)).filter (o.IsOpener ·) = o.openers nc := by
  have hcell := NotebookCell.toCell_of_kind? h
  rw [rows_cellChunk hm hcell,
    List.filter_cons_of_pos (by simpa using isOpener_of_toCell hcell),
    filter_isOpener_eq_nil hindent isCovered_of_mem_body, WriteOptions.openers, h]
  rfl

/-- The openers among the rows of a script are those among the rows of its chunks. -/
theorem filter_isOpener_script (nb : Notebook) (hindent : 0 < o.indent)
    (hm : '\n' ∉ o.guardModule) :
    (Text.rows (nb.script o)).filter (o.IsOpener ·) =
      nb.cells.flatMap fun nc => (Text.rows (nc.chunk o)).filter (o.IsOpener ·) := by
  obtain ⟨blanks, hblanks, hrows⟩ := exists_rows_chunks nb hm
  have himport : ¬ o.IsOpener o.importRow := by
    rintro (h | h) <;> exact absurd (List.cons.inj h).1 (by decide)
  have hfront : (if o.importLine then [o.importRow] else []).filter (o.IsOpener ·) = [] := by
    split <;> simp [himport]
  rw [hrows, List.filter_append, hfront, List.filter_append,
    filter_isOpener_eq_nil hindent fun row h => .inl (hblanks row h), List.filter_flatMap]
  rfl

theorem openers_eq_flatMap (o : WriteOptions) (nb : Notebook) :
    (nb.cells.filterMap NotebookCell.kind?).map (fun k => o.opener k.literal.toList) =
      nb.cells.flatMap o.openers := by
  rw [List.filterMap_eq_flatMap_toList, List.map_flatMap]
  rfl

/-- If a script has an opener for each cell with a block and no other, then no other chunk has
one. -/
theorem openers_of_confined {nb : Notebook} (hindent : 0 < o.indent) (hm : '\n' ∉ o.guardModule)
    (h : Confined o nb) {nc : NotebookCell} (hnc : nc ∈ nb.cells) (hkind : nc.kind? = none) :
    (Text.rows (nc.chunk o)).filter (o.IsOpener ·) = [] := by
  have hcount := congrArg List.length h.openers
  rw [filter_isOpener_script nb hindent hm, openers_eq_flatMap, List.length_flatMap,
    List.length_flatMap] at hcount
  by_contra hne
  -- every chunk has at least the opener of its cell, and this one has more
  refine absurd hcount (ne_of_gt (List.sum_lt_sum _ _ (fun nc' _ => ?_) ⟨nc, hnc, ?_⟩))
  · cases hk : nc'.kind? with
    | some k => rw [openers_of_kind? hindent hm hk]
    | none => simp [WriteOptions.openers, hk]
  · rw [WriteOptions.openers, hkind]
    exact List.length_pos_iff.2 hne

/-- A script is confined exactly if the chunk of every cell without a block is covered. -/
theorem confined_iff_isCovered {nb : Notebook} (hindent : 0 < o.indent)
    (hm : '\n' ∉ o.guardModule) :
    Confined o nb ↔ ∀ nc ∈ nb.cells, nc.kind? = none →
      ∀ row ∈ Text.rows (nc.chunk o), o.IsCovered row := by
  obtain ⟨blanks, hblanks, hrows⟩ := exists_rows_chunks nb hm
  have hdrop : (Text.rows (nb.script o)).drop (if o.importLine then 1 else 0) =
      blanks ++ nb.cells.flatMap fun nc => Text.rows (nc.chunk o) := by
    rw [hrows]
    split <;> rfl
  constructor
  · intro h nc hnc hkind row hrow
    have hmem : row ∈ (Text.rows (nb.script o)).drop (if o.importLine then 1 else 0) := by
      rw [hdrop]
      exact List.mem_append_right _ (List.mem_flatMap.2 ⟨nc, hnc, hrow⟩)
    refine (h.rows row hmem).resolve_left fun hopener => ?_
    have hfilter : row ∈ (Text.rows (nc.chunk o)).filter (o.IsOpener ·) :=
      List.mem_filter.2 ⟨hrow, by simpa using hopener⟩
    rw [openers_of_confined hindent hm h hnc hkind] at hfilter
    cases hfilter
  · intro h
    refine ⟨fun himport => ?_, fun row hrow => ?_, ?_⟩
    · rw [hrows, if_pos himport]
      rfl
    · rw [hdrop] at hrow
      rcases List.mem_append.1 hrow with hrow | hrow
      · exact .inr (.inl (hblanks row hrow))
      · obtain ⟨nc, hnc, hrow⟩ := List.mem_flatMap.1 hrow
        cases hk : nc.kind? with
        | none => exact .inr (h nc hnc hk row hrow)
        | some k =>
            have hcell := NotebookCell.toCell_of_kind? hk
            rw [rows_cellChunk hm hcell] at hrow
            rcases List.mem_cons.1 hrow with rfl | hrow
            · exact .inl (isOpener_of_toCell hcell)
            · exact .inr (isCovered_of_mem_body row hrow)
    · rw [filter_isOpener_script nb hindent hm, openers_eq_flatMap]
      refine List.flatMap_congr fun nc hnc => ?_
      cases hk : nc.kind? with
      | some k => exact openers_of_kind? hindent hm hk
      | none =>
          rw [filter_isOpener_eq_nil hindent (h nc hnc hk), WriteOptions.openers, hk]
          rfl

/-- **The rows of a script are the import line, the openers of its cells, one for each code or
markdown cell, and covered rows, exactly if the types of its other cells are harmless.** The chunk of
such a cell consists of comments exactly if all rows of its type after the first are comments. -/
theorem Notebook.confined_iff (o : WriteOptions) (nb : Notebook) (hindent : 0 < o.indent)
    (hm : '\n' ∉ o.guardModule) :
    (Confined o nb ↔ ∀ nc ∈ nb.cells, nc.kind? = none → o.Harmless nc.cellType) ∧
      ∀ nc : NotebookCell, nc.kind? = none →
        ((∀ row ∈ (Text.rows (nc.chunk o)).dropLast, row.head? = some '#') ↔
          ∀ row ∈ (Text.rows nc.cellType).tail, row.head? = some '#') := by
  constructor
  · rw [confined_iff_isCovered hindent hm]
    exact forall_congr' fun nc => forall_congr' fun _ => forall_congr' fun hkind =>
      forall_isCovered_iff hindent hm hkind
  · intro nc hkind
    have hquote : ∀ row s : Text, (row ++ '"' :: s).head? = some '#' ↔ row.head? = some '#' := by
      intro row s
      cases row <;> simp
    rw [forall_rows_commentChunk_iff hm hkind fun t => rfl,
      forall_mem_iff_dropLast (Text.rows nc.cellType).tail]
    refine and_congr_right fun _ => forall_congr' fun row => forall_congr' fun _ => ?_
    exact (and_congr (hquote row _) (hquote row _)).trans and_self_iff

/-- A raw cell and a code cell. -/
def rawAndCode : Notebook :=
  ⟨[.other "raw".toList [] (.whole "import os".toList), .ofCode (.whole "x = 1".toList)], []⟩

theorem confined_rawAndCode :
    0 < ({} : WriteOptions).indent ∧ '\n' ∉ ({} : WriteOptions).guardModule ∧
      Confined {} rawAndCode :=
  ⟨by decide, by decide,
    (Notebook.confined_iff {} rawAndCode (by decide) (by decide)).1.2 (by decide +kernel)⟩

/-- A cell whose type has rows of its own, among them the opener of a block and code. -/
def escapingType : Notebook :=
  ⟨[.other "x\nwith herzog.Cell(\"python\"):\n    import os\n#".toList []
    (.whole "text".toList)], []⟩

/-- A document of such a cell is read as a notebook; the script of that has two blocks, and each is
read back as a code cell, though no cell of the notebook has a block. -/
theorem type_escapes :
    ∃ nb, Notebook.ofText escapingType.text = .ok nb ∧ (∀ nc ∈ nb.cells, nc.kind? = none) ∧
      ¬ Confined {} nb ∧
      (Text.rows (nb.script {})).countP (({} : WriteOptions).IsOpener ·) = 2 ∧
      (Script.read {} (nb.script {})).error = none ∧
      (Script.read {} (nb.script {})).cells =
        [⟨.executable, ["import os".toList]⟩, ⟨.executable, ["import os".toList]⟩] := by
  decide +kernel

end CellScript
