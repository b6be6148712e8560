import CellScript.Proofs.Script.Confined

set_option autoImplicit false

/-! # A script is put together from chunks

A writer that appends to one text has to look at what it has written to know whether an empty line
is due. `Notebook.script_eq_partByPart` says that this is what a script is: `addPart` puts in an empty
line unless nothing stands before it, and since no chunk is empty there is one between any two
parts. So no chunk depends on the cells around it, and `Notebook.script_composed` says where each of
them stands. -/

namespace CellScript

/-! ## A growing text -/

theorem addPart_of_ne_nil {t : Text} (h : t ≠ []) (part : Text) :
    addPart t part = t ++ '\n' :: part := by
  rw [addPart, if_neg (by simpa using h)]

theorem addPart_ne_nil {part : Text} (h : part ≠ []) (t : Text) : addPart t part ≠ [] := by
  unfold addPart
  split
  · exact h
  · simp

/-- Once something is written, every part comes after an empty line. -/
theorem foldl_addPart {t : Text} (h : t ≠ []) (parts : List Text) :
    parts.foldl addPart t = t ++ parts.flatMap ('\n' :: ·) := by
  induction parts generalizing t with
  | nil => simp
  | cons part parts ih =>
      rw [List.foldl_cons, addPart_of_ne_nil h, ih (by simp), List.flatMap_cons, List.append_assoc]

/-- Parts that are not empty are joined. -/
theorem foldl_addPart_nil {parts : List Text} (h : ∀ part ∈ parts, part ≠ []) :
    parts.foldl addPart [] = Text.joinWith ['\n'] parts := by
  cases parts with
  | nil => rfl
  | cons part parts =>
      have hpart : part ≠ [] := h part List.mem_cons_self
      have hjoin := Text.joinWith_append_cons ['\n'] [] part parts
      rw [List.nil_append, List.flatMap_nil, List.nil_append] at hjoin
      rw [hjoin]
      exact foldl_addPart hpart parts

/-! ## The ends of chunks -/

variable {o : WriteOptions}

theorem getLast?_newline_flatMap {f : Text → Text} (hf : ∀ t, (f t).getLast? = some '\n')
    (front : Text) (ts : List Text) :
    (front ++ '\n' :: ts.flatMap f).getLast? = some '\n' := by
  rw [List.getLast?_append_of_ne_nil _ (List.cons_ne_nil _ _), List.getLast?_cons]
  rcases Text.closed_flatMap hf ts with hnil | hlast
  · rw [hnil]
    rfl
  · rw [hlast]
    rfl

/-- The last line of a chunk is ended. -/
theorem getLast?_chunk (nc : NotebookCell) : (nc.chunk o).getLast? = some '\n' := by
  have hbody : ∀ t, (o.bodyLine t).getLast? = some '\n' := by
    intro t
    rw [WriteOptions.bodyLine_eq, List.getLast?_concat]
  have hcomment : ∀ t, (commentLine o t).getLast? = some '\n' := by
    intro t
    rw [commentLine_eq, List.getLast?_concat]
  unfold NotebookCell.chunk
  split
  · rw [Cell.chunk, WriteOptions.body]
    exact getLast?_newline_flatMap hbody _ _
  · unfold commentChunk
    exact getLast?_newline_flatMap hcomment _ _

theorem chunk_ne_nil (nc : NotebookCell) : nc.chunk o ≠ [] :=
  List.ne_nil_of_mem (List.mem_of_getLast? (getLast?_chunk nc))

/-- A chunk says only of what type its cell is and what its source is. -/
theorem chunk_congr {c d : NotebookCell} (hkind : c.kind? = d.kind?)
    (htype : c.cellType = d.cellType) (hsource : c.source.text = d.source.text) :
    c.chunk o = d.chunk o := by
  have hcell : c.toCell = d.toCell := by
    rw [NotebookCell.toCell, NotebookCell.toCell, hkind, htype, hsource]
  have hcomment : commentChunk o c = commentChunk o d := by
    funext why
    unfold commentChunk
    rw [htype, hsource]
  rw [NotebookCell.chunk, NotebookCell.chunk, hcell, hcomment]

/-! ## The script -/

/-- A script is what grows when its parts are written one by one. -/
theorem Notebook.script_eq_partByPart (o : WriteOptions) (nb : Notebook) :
    nb.script o = nb.scriptPartByPart o := by
  have hparts : ∀ part ∈ nb.scriptParts o, part ≠ [] := by
    intro part hpart
    rcases List.mem_append.1 hpart with hpart | hpart
    · split at hpart
      · rw [List.mem_singleton.1 hpart]
        exact List.cons_ne_nil _ _
      · cases hpart
    · obtain ⟨c, -, rfl⟩ := List.mem_map.1 hpart
      exact chunk_ne_nil c
  have hfirst : (if o.importLine then [o.importText] else []).foldl addPart [] =
      if o.importLine then o.importText else [] := by
    split <;> rfl
  rw [Notebook.script, ← foldl_addPart_nil hparts, Notebook.scriptParts, List.foldl_append, hfirst,
    List.foldl_map, Notebook.scriptPartByPart]

/-- A script goes on behind that of the cells before a cell. -/
theorem script_eq_addPart (o : WriteOptions) (before after : List NotebookCell) (c : NotebookCell)
    (fields fields' : Table Json.Value) :
    Notebook.script o ⟨before ++ c :: after, fields⟩ =
      addPart (Notebook.script o ⟨before, fields'⟩) (c.chunk o) ++
        after.flatMap fun d => '\n' :: d.chunk o := by
  rw [Notebook.script_eq_partByPart, Notebook.script_eq_partByPart, Notebook.scriptPartByPart,
    Notebook.scriptPartByPart, List.foldl_append, List.foldl_cons,
    ← List.foldl_map (f := fun d => NotebookCell.chunk o d) (g := addPart),
    foldl_addPart (addPart_ne_nil (chunk_ne_nil c) _), List.flatMap_map]

/-- The row where the chunk after those of some cells starts. The import line and the rows of the
chunks stand before it, and an empty row after each of these parts. -/
def WriteOptions.chunkRow (o : WriteOptions) (before : List NotebookCell) : Nat :=
  (if o.importLine then 1 else 0) + (before.flatMap fun c => c.chunk o).count '\n' +
    (before.length + if o.importLine then 1 else 0)

theorem headerRow_eq_chunkRow (hm : '\n' ∉ o.guardModule) (before : List NotebookCell) :
    o.headerRow before = o.chunkRow before := by
  have himport : o.importText.count '\n' = 1 := by
    unfold WriteOptions.importText
    rw [List.count_append, List.count_append, List.count_eq_zero.2 hm]
    decide
  have hchunks : ((before.map (NotebookCell.chunk o)).flatMap (· ++ ['\n'])).count '\n' =
      (before.flatMap fun c => c.chunk o).count '\n' + before.length := by
    induction before with
    | nil => rfl
    | cons c before ih =>
        simp only [List.map_cons, List.flatMap_cons, List.count_append, ih, List.length_cons,
          List.count_singleton_self]
        omega
  unfold WriteOptions.headerRow WriteOptions.textBefore WriteOptions.chunkRow
  rw [List.flatMap_append, List.count_append, hchunks]
  split
  · simp only [List.flatMap_singleton, List.count_append, himport, List.count_singleton_self]
    omega
  · simp

/-- The rows of a chunk are rows of the script, from `chunkRow` on. -/
theorem rows_at_chunkRow (hm : '\n' ∉ o.guardModule) (before after : List NotebookCell)
    (c : NotebookCell) (fields : Table Json.Value) :
    ((Text.rows (Notebook.script o ⟨before ++ c :: after, fields⟩)).drop (o.chunkRow before)).take
      ((c.chunk o).count '\n') = (Text.rows (c.chunk o)).dropLast := by
  have hlength : (Text.rows (o.textBefore before)).dropLast.length = o.chunkRow before := by
    rw [Text.length_dropLast_rows, ← headerRow_eq_chunkRow hm]
    rfl
  have hsplit : Notebook.script o ⟨before ++ c :: after, fields⟩ =
      o.textBefore before ++ (c.chunk o ++ after.flatMap (['\n'] ++ ·.chunk o)) :=
    script_eq_append rfl
  rw [hsplit, Text.rows_append_eq_of_closed (o.textBefore_closed before),
    Text.rows_append_eq_of_closed (.inr (getLast?_chunk c)), List.drop_left' hlength,
    List.take_left' (Text.length_dropLast_rows _)]

/-- **A script is composed of the import line and a chunk for each cell, with one empty line between
any two and none else**, also if it is written part after part. A chunk is not empty, ends its last
line, and depends on nothing but the type of its cell, which is a kind or the lack of one and a name,
and on its source. So whatever cell stands between others, their chunks are the same, and the rows
of each are found by counting. -/
theorem Notebook.script_composed (o : WriteOptions) (hm : '\n' ∉ o.guardModule) :
    (∀ nb : Notebook,
      nb.script o = Text.joinWith ['\n']
        ((if o.importLine then [o.importText] else []) ++ nb.cells.map fun c => c.chunk o) ∧
      nb.script o = nb.cells.foldl (fun t c => addPart t (c.chunk o))
        (if o.importLine then o.importText else [])) ∧
    (∀ c : NotebookCell, c.chunk o ≠ [] ∧ (c.chunk o).getLast? = some '\n') ∧
    (∀ c d : NotebookCell, c.kind? = d.kind? → c.cellType = d.cellType →
      c.source.text = d.source.text → c.chunk o = d.chunk o) ∧
    ∀ (before after : List NotebookCell) (c : NotebookCell) (fields fields' : Table Json.Value),
      Notebook.script o ⟨before ++ c :: after, fields⟩ =
        addPart (Notebook.script o ⟨before, fields'⟩) (c.chunk o) ++
          (after.flatMap fun d => '\n' :: d.chunk o) ∧
      ((Text.rows (Notebook.script o ⟨before ++ c :: after, fields⟩)).drop
        (o.chunkRow before)).take ((c.chunk o).count '\n') = (Text.rows (c.chunk o)).dropLast := by
  refine ⟨fun nb => ⟨rfl, nb.script_eq_partByPart o⟩, fun c => ⟨chunk_ne_nil c, getLast?_chunk c⟩,
    fun c d => chunk_congr, fun before after c fields fields' => ⟨?_, ?_⟩⟩
  · exact script_eq_addPart o before after c fields fields'
  · exact rows_at_chunkRow hm before after c fields

/-- The chunk of a code cell starts behind the import line and the three comments about the cell
before it, each of these followed by an empty row. -/
theorem script_composed_rawAndCode :
    '\n' ∉ ({} : WriteOptions).guardModule ∧
      ((Text.rows (rawAndCode.script {})).drop 6).take 2 =
        ["with herzog.Cell(\"python\"):".toList, "    x = 1".toList] := by
  have hm : '\n' ∉ ({} : WriteOptions).guardModule := by decide
  obtain ⟨-, -, -, hcells⟩ := Notebook.script_composed {} hm
  obtain ⟨-, hrows⟩ := hcells [.other "raw".toList [] (.whole "import os".toList)] []
    (.ofCode (.whole "x = 1".toList)) [] []
  exact ⟨hm, hrows⟩

end CellScript
