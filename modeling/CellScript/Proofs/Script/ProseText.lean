import CellScript.Proofs.Block.BlockText
import CellScript.Proofs.Script.OpenName
import CellScript.Proofs.Script.Reading

set_option autoImplicit false

/-! # Scripts of prose

The script of a notebook of markdown cells is a text of blocks, `script_eq_blockText`, and its
literals may stand where they do, if the cells are legible. So the walk over it finds a block for
each cell, which has the rows and the literal that were written: `blockByBlock_of_isLegible`. -/

namespace CellScript

open Python

/-- All cells of a notebook are markdown. -/
def Notebook.IsProse (nb : Notebook) : Prop := ∀ nc ∈ nb.cells, nc.kind? = some .prose

instance (nb : Notebook) : Decidable nb.IsProse :=
  inferInstanceAs (Decidable (∀ nc ∈ nb.cells, nc.kind? = some .prose))

variable {o : WriteOptions} {nc : NotebookCell} {cells before : List NotebookCell}

/-! ## Texts -/

/-- What the blocks of a script of prose have in common. -/
def WriteOptions.proseStyle (o : WriteOptions) : BlockStyle :=
  ⟨o.guardModule, CellKind.prose.literal.toList, o.margin⟩

/-- The literal that is written for the content of a cell. -/
def WriteOptions.proseLiteral (o : WriteOptions) (content : List Text) : ProseLiteral :=
  ⟨(literalForm content).1, (literalForm content).2.1.headD '"',
    o.body (literalForm content).2.2 ++ o.margin⟩

/-- The literals that are written for some cells. -/
def WriteOptions.proseLiterals (o : WriteOptions) (cells : List NotebookCell) : List ProseLiteral :=
  cells.map fun nc => o.proseLiteral (Text.lines nc.source.text)

theorem proseLiteral_of_closesLast {content ls : List Text} {mark quotes : Text} {q : Char}
    (hform : literalForm content = (mark, quotes, ls)) (h : ClosesLast mark quotes ls q) :
    o.proseLiteral content = ⟨mark, q, o.body ls ++ o.margin⟩ := by
  rw [WriteOptions.proseLiteral, hform, h.quotes]
  rfl

theorem opener_eq_openerOn (o : WriteOptions) (kind rest : Text) :
    o.opener kind ++ '\n' :: rest = openerOn o.guardModule kind rest := by
  have hwith : "with ".toList = "with".toList ++ [' '] := by decide
  have hcell : ".Cell(\"".toList = '.' :: ("Cell".toList ++ ['(', '"']) := by decide
  have hend : "\"):".toList = ['"', ')', ':'] := by decide
  unfold WriteOptions.opener openerOn afterWith
  rw [hwith, hcell, hend]
  simp only [List.append_assoc, List.cons_append, List.nil_append]

/-- The block of a markdown cell is a block of prose. -/
theorem chunk_append_eq_blockOn (o : WriteOptions) (content : List Text) (rest : Text) :
    (Cell.mk .prose content).chunk o ++ rest =
      blockOn o.proseStyle (o.proseLiteral content) ('\n' :: rest) := by
  obtain ⟨mark, quotes, ls, q, hform, hliteral, hcloses⟩ := exists_closesLast content
  have hbody : proseBody content = (mark ++ quotes) :: (ls ++ [quotes]) := by
    rw [proseBody, hform]
    rfl
  have hchunk : (Cell.mk .prose content).chunk o = o.opener CellKind.prose.literal.toList ++
      '\n' :: o.body (proseBody content) := rfl
  rw [hchunk, hbody, hliteral.body_eq, hcloses.literalText_eq,
    proseLiteral_of_closesLast hform hcloses, hcloses.quotes, List.append_assoc, List.cons_append,
    opener_eq_openerOn]
  simp only [blockOn, WriteOptions.proseStyle, ProseLiteral.inside, Layout.closing,
    List.append_assoc, List.cons_append, List.nil_append]

theorem chunk_of_isProse (h : nc.kind? = some .prose) :
    nc.chunk o = (Cell.mk .prose (Text.lines nc.source.text)).chunk o :=
  NotebookCell.chunk_of_toCell (by rw [NotebookCell.toCell, h])

/-- The chunks of markdown cells, each with an empty line before it, are blocks of prose. -/
theorem chunks_eq_blocksOn (h : ∀ nc ∈ cells, nc.kind? = some .prose) :
    '\n' :: cells.flatMap (['\n'] ++ ·.chunk o) =
      blocksOn o.proseStyle (o.proseLiterals cells) := by
  induction cells with
  | nil => rfl
  | cons nc cells ih =>
      obtain ⟨hnc, hcells⟩ := List.forall_mem_cons.1 h
      rw [List.flatMap_cons, chunk_of_isProse hnc, List.append_assoc, chunk_append_eq_blockOn,
        ih hcells]
      rfl

theorem importText_eq (o : WriteOptions) : o.importText = importText o.guardModule ++ ['\n'] := by
  have himport : "import ".toList = importKeyword ++ [' '] := by decide
  unfold WriteOptions.importText importText
  rw [himport]

/-- **The script of a notebook of markdown cells is a text of blocks.** -/
theorem script_eq_blockText {nb : Notebook} (h : nb.IsProse) :
    nb.script o = blockText o.proseStyle o.importLine (o.proseLiterals nb.cells) := by
  have hcells := chunks_eq_blocksOn (o := o) h
  rw [Notebook.script, Notebook.scriptParts]
  cases o.importLine with
  | true =>
      have hjoin := Text.joinWith_append_cons ['\n'] [] o.importText
        (nb.cells.map (NotebookCell.chunk o))
      rw [List.nil_append, List.flatMap_nil, List.nil_append, List.flatMap_map] at hjoin
      rw [if_pos rfl, List.singleton_append, hjoin, importText_eq, List.append_assoc,
        List.singleton_append, hcells]
      rfl
  | false =>
      rw [if_neg Bool.false_ne_true, List.nil_append]
      cases hnb : nb.cells with
      | nil => rfl
      | cons nc cells =>
          rw [Notebook.IsProse, hnb] at h
          obtain ⟨hnc, hmore⟩ := List.forall_mem_cons.1 h
          have hjoin := Text.joinWith_append_cons ['\n'] [] (nc.chunk o)
            (cells.map (NotebookCell.chunk o))
          rw [List.nil_append, List.flatMap_nil, List.nil_append, List.flatMap_map] at hjoin
          rw [List.map_cons, hjoin, chunk_of_isProse hnc, chunk_append_eq_blockOn,
            chunks_eq_blocksOn hmore]
          rfl

/-! ## Places -/

theorem textBefore_nil (o : WriteOptions) :
    o.textBefore [] = toFirst o.proseStyle o.importLine := by
  rw [WriteOptions.textBefore, List.map_nil, List.append_nil]
  cases o.importLine with
  | true =>
      rw [if_pos rfl, List.flatMap_singleton, importText_eq, List.append_assoc]
      rfl
  | false => rfl

theorem textBefore_concat (o : WriteOptions) (before : List NotebookCell) (nc : NotebookCell) :
    o.textBefore (before ++ [nc]) = o.textBefore before ++ nc.chunk o ++ ['\n'] := by
  simp only [WriteOptions.textBefore, List.map_append, List.map_singleton, List.flatMap_append,
    List.flatMap_singleton, List.append_assoc]

theorem toOpenerEnd_append (o : WriteOptions) (p : Text) :
    toOpenerEnd p o.proseStyle ++ ['\n'] =
      p ++ (o.opener CellKind.prose.literal.toList ++ ['\n']) := by
  rw [opener_eq_openerOn]
  simp only [toOpenerEnd, toGuard, toKind, toMethod, toModule, WriteOptions.proseStyle, openerOn,
    afterWith, List.append_assoc, List.cons_append, List.nil_append]

/-- The text to the end of the block of a markdown cell, with its line end. -/
theorem toBlockEnd_append_newline (o : WriteOptions) (p : Text) (content : List Text) :
    toBlockEnd p o.proseStyle (o.proseLiteral content) ++ ['\n'] =
      p ++ (Cell.mk .prose content).chunk o := by
  rw [toBlockEnd_append, ← chunk_append_eq_blockOn, List.append_nil]

theorem textBefore_concat_of_isProse (h : nc.kind? = some .prose) :
    o.textBefore (before ++ [nc]) =
      toBlockEnd (o.textBefore before) o.proseStyle (o.proseLiteral (Text.lines nc.source.text)) ++
        ['\n', '\n'] := by
  rw [textBefore_concat, chunk_of_isProse h, ← toBlockEnd_append_newline, List.append_assoc]
  rfl

/-- A block that goes on to the last row of a chunk has the rows that were written. -/
theorem spannedAt_of_span {c : Cell} {b : Block} {stop : Nat} (hlines : ∀ t ∈ c.content, '\n' ∉ t)
    (hkind : b.kind = c.kind)
    (hspan : b.span = ⟨o.headerRow before, o.bodyRow before c, stop, o.indent⟩)
    (hstop : o.nextRow before c = stop + 2) : SpannedAt o before c b := by
  have hrows : o.nextRow before c = o.bodyRow before c + c.bodyLines.length + 1 := nextRow_eq hlines
  have hfilled : filledLength c.bodyLines ≤ c.bodyLines.length :=
    (List.rdropWhile_prefix _ _).length_le
  refine ⟨hkind, by rw [hspan], by rw [hspan], by rw [hspan], ?_, ?_⟩
  all_goals
    rw [hspan]
    dsimp only
    omega

/-- The block that the walk finds for a markdown cell is the one that was written. -/
theorem writtenAt_blockAt (hs : o.proseStyle.Plain) {content : List Text}
    (hlines : ∀ t ∈ content, '\n' ∉ t) (before : List NotebookCell) (pieces : List Tree) :
    WrittenAt o before ⟨.prose, content⟩
      (blockAt .prose (o.textBefore before) o.proseStyle (o.proseLiteral content) pieces) := by
  have htoBody : o.textToBody before ⟨.prose, content⟩ =
      toOpenerEnd (o.textBefore before) o.proseStyle ++ ['\n'] := (toOpenerEnd_append o _).symm
  have hbody : o.bodyRow before ⟨.prose, content⟩ = (o.textBefore before).count '\n' + 1 := by
    rw [WriteOptions.bodyRow, htoBody, List.count_append, count_toOpenerEnd hs,
      List.count_singleton_self]
  have hend := toBlockEnd_append_newline o (o.textBefore before) content
  have hnext : o.nextRow before ⟨.prose, content⟩ =
      (toBlockEnd (o.textBefore before) o.proseStyle (o.proseLiteral content)).count '\n' + 2 := by
    rw [WriteOptions.nextRow, ← hend, List.count_append, List.count_append,
      List.count_singleton_self, Nat.add_assoc]
  have hmargin : o.proseStyle.margin.length = o.indent := List.length_replicate
  have hspanned := spannedAt_of_span (c := ⟨.prose, content⟩)
    (b := blockAt .prose (o.textBefore before) o.proseStyle (o.proseLiteral content) pieces) hlines
    rfl (by rw [span_blockAt, hbody, hmargin, WriteOptions.headerRow]) hnext
  refine ⟨hspanned, fun _ => ?_⟩
  have hliteral : proseLiteral? (blockAt .prose (o.textBefore before) o.proseStyle
      (o.proseLiteral content) pieces).body =
      some (branch .string none
        (toLiteral (toOpenerEnd (o.textBefore before) o.proseStyle) o.margin)
        (toBlockEnd (o.textBefore before) o.proseStyle (o.proseLiteral content)) pieces) := rfl
  have hto : o.textToBody before ⟨.prose, content⟩ ++ o.margin =
      toLiteral (toOpenerEnd (o.textBefore before) o.proseStyle) o.margin := by
    rw [htoBody, toLiteral, List.append_assoc]
    rfl
  rw [hliteral, Option.map_some, start_branch, stop_branch, Position.offset_start_after,
    Position.offset_start_after, hto, ← hend, List.length_append, List.length_singleton,
    Nat.add_sub_cancel]

/-- The blocks found in the script of markdown cells are those that were written, one by one. -/
theorem forall₂_writtenAt (hs : o.proseStyle.Plain) (hprose : ∀ nc ∈ cells, nc.kind? = some .prose)
    {fs : List Block}
    (h : AreFound .prose o.proseStyle (o.textBefore before) (o.proseLiterals cells) fs) :
    List.Forall₂ (AnswersFor (WrittenAt o)) ((cells.inits.map (before ++ ·)).zip cells)
      (fs.map .ok) := by
  induction cells generalizing before fs with
  | nil =>
      obtain rfl : fs = [] := h
      exact .nil
  | cons nc cells ih =>
      obtain ⟨hnc, hcells⟩ := List.forall_mem_cons.1 hprose
      obtain ⟨pieces, gs, rfl, hgs⟩ := h
      rw [← textBefore_concat_of_isProse hnc] at hgs
      have hrest := ih hcells hgs
      rw [List.inits_cons, List.map_cons, List.zip_cons_cons, List.map_map, List.append_nil]
      refine .cons (answersFor_iff.2 ⟨_, _, by rw [NotebookCell.toCell, hnc], rfl,
        writtenAt_blockAt hs (fun t => Text.not_mem_of_mem_lines) before pieces⟩) ?_
      simpa only [List.append_assoc, List.singleton_append, Function.comp_def] using hrest

/-! ## Legible cells -/

/-- The literal that is written for a cell leaves the name of a character open. A decoded literal
never does. -/
def NotebookCell.leavesNameOpen (nc : NotebookCell) : Bool :=
  decide ((literalForm (Text.lines nc.source.text)).1 ≠ decodedMark) &&
    CellScript.leavesNameOpen false nc.source.text

/-- The grammar can tell where the literals that are written for the cells end: there is no NUL in
them, and no cell closes a name that another one before it leaves open. -/
structure Notebook.IsLegible (nb : Notebook) : Prop where
  noNull : ∀ nc ∈ nb.cells, '\x00' ∉ nc.source.text
  names : nb.cells.Pairwise fun nc d => nc.leavesNameOpen = true → '}' ∉ d.source.text

instance (nb : Notebook) : Decidable nb.IsLegible :=
  decidable_of_iff
    ((∀ nc ∈ nb.cells, '\x00' ∉ nc.source.text) ∧
      nb.cells.Pairwise fun nc d => nc.leavesNameOpen = true → '}' ∉ d.source.text)
    ⟨fun ⟨noNull, names⟩ => ⟨noNull, names⟩, fun h => ⟨h.noNull, h.names⟩⟩

/-- What stands in the lines of a literal stands in those of the content. -/
theorem LiteralForm.exists_mem_iff {content ls : List Text} {mark quotes : Text} {d : Char}
    (h : LiteralForm content mark quotes ls) (hd : d ≠ '\\') :
    (∃ t ∈ ls, d ∈ t) ↔ ∃ t ∈ content, d ∈ t := by
  cases h with
  | double | single => exact Iff.rfl
  | decoded => simp [mem_encodeProse hd]

/-- A brace in the chunk of a cell stands in its content. -/
theorem exists_mem_of_mem_chunk (hm : '}' ∉ o.guardModule) {content : List Text}
    (h : '}' ∈ (Cell.mk .prose content).chunk o) : ∃ t ∈ content, '}' ∈ t := by
  obtain ⟨mark, quotes, ls, hform, hbody⟩ := exists_literalForm content
  have hquotes : '}' ∉ mark ++ quotes ∧ '}' ∉ quotes := by
    cases hform <;> decide
  have hopener : '}' ∉ o.opener CellKind.prose.literal.toList ++ ['\n'] := by
    unfold WriteOptions.opener
    rw [List.mem_append, List.mem_append, List.mem_append, List.mem_append, List.mem_append]
    rintro (((((h | h) | h) | h) | h) | h)
    · exact absurd h (by decide)
    · exact hm h
    · exact absurd h (by decide)
    · exact absurd h (by decide)
    · exact absurd h (by decide)
    · exact absurd h (by decide)
  have hlines : '}' ∈ o.body ((mark ++ quotes) :: (ls ++ [quotes])) := by
    rw [chunk_eq] at h
    exact hbody ▸ (List.mem_append.1 h).resolve_left hopener
  obtain ⟨t, ht, hbrace⟩ := (mem_body (by decide)).1 hlines
  refine (hform.exists_mem_iff (by decide)).1 ⟨t, ?_, hbrace⟩
  rw [List.mem_cons, List.mem_append, List.mem_singleton] at ht
  rcases ht with rfl | ht | rfl
  · exact absurd hbrace hquotes.1
  · exact ht
  · exact absurd hbrace hquotes.2

/-- A brace after a cell stands in a later cell. -/
theorem exists_mem_of_mem_blocksOn (hm : '}' ∉ o.guardModule)
    (hprose : ∀ nc ∈ cells, nc.kind? = some .prose)
    (h : '}' ∈ blocksOn o.proseStyle (o.proseLiterals cells)) :
    ∃ nc ∈ cells, '}' ∈ nc.source.text := by
  rw [← chunks_eq_blocksOn hprose, List.mem_cons, List.mem_flatMap] at h
  obtain ⟨nc, hnc, hbrace⟩ := h.resolve_left (by decide)
  have hchunk : '}' ∈ nc.chunk o := (List.mem_append.1 hbrace).resolve_left (by decide)
  rw [chunk_of_isProse (hprose nc hnc)] at hchunk
  exact ⟨nc, hnc, (exists_mem_lines (by decide) _).1 (exists_mem_of_mem_chunk hm hchunk)⟩

/-- The literal of a cell may stand before what closes none of its names. -/
theorem mayStand_proseLiteral {more : Text} (hnull : '\x00' ∉ nc.source.text)
    (hnames : nc.leavesNameOpen = true → '}' ∉ more) :
    (o.proseLiteral (Text.lines nc.source.text)).MayStand more := by
  obtain ⟨mark, quotes, ls, q, hform, hliteral, hcloses⟩ :=
    exists_closesLast (Text.lines nc.source.text)
  have hq : q ≠ '\\' := by rcases hcloses.kind with rfl | rfl <;> decide
  have hline : ∀ t : Text, leavesNameOpen false ('\n' :: t) = leavesNameOpen false t :=
    leavesNameOpen_cons (by decide)
  rw [proseLiteral_of_closesLast hform hcloses]
  refine ⟨⟨hcloses.mark, hcloses.kind⟩,
    .of_endsAfter hcloses.kind (hcloses.passesOver.endsAfter hq) ?_ fun hmore => ?_⟩
  · rw [ProseLiteral.inside, List.mem_cons, mem_body_append_margin (by decide),
      hliteral.exists_mem_iff (by decide), exists_mem_lines (by decide)]
    exact not_or.2 ⟨by decide, hnull⟩
  · rw [ProseLiteral.inside, hline, leavesNameOpen_body]
    cases hliteral with
    | decoded => exact linesLeaveNameOpen_map_encodeProse _
    | double | single =>
        rw [linesLeaveNameOpen_lines, ← Bool.not_eq_true]
        intro hopen
        refine hnames ?_ hmore
        rw [NotebookCell.leavesNameOpen, hform, hopen]
        rfl

/-- The literals of legible cells may stand where they do. -/
theorem allMayStand_proseLiterals (hm : '}' ∉ o.guardModule)
    (hprose : ∀ nc ∈ cells, nc.kind? = some .prose) (hnull : ∀ nc ∈ cells, '\x00' ∉ nc.source.text)
    (hnames : cells.Pairwise fun nc d => nc.leavesNameOpen = true → '}' ∉ d.source.text) :
    AllMayStand o.proseStyle (o.proseLiterals cells) := by
  induction cells with
  | nil => trivial
  | cons nc cells ih =>
      obtain ⟨-, hprose⟩ := List.forall_mem_cons.1 hprose
      obtain ⟨hnc, hnull⟩ := List.forall_mem_cons.1 hnull
      obtain ⟨hopen, hnames⟩ := List.pairwise_cons.1 hnames
      refine ⟨mayStand_proseLiteral hnc fun h hbrace => ?_, ih hprose hnull hnames⟩
      obtain ⟨d, hd, hbrace⟩ := exists_mem_of_mem_blocksOn hm hprose hbrace
      exact hopen d hd h hbrace

/-- **The walk finds the blocks that were written for legible cells, one by one.** -/
theorem blockByBlock_of_isLegible {nb : Notebook} (hs : o.proseStyle.Plain) (hprose : nb.IsProse)
    (hlegible : nb.IsLegible) :
    BlockByBlock (WrittenAt o) nb (Script.answers o.guardModule (nb.script o)) := by
  have hm : '}' ∉ o.guardModule := fun h =>
    ne_of_continuesWord (continuesWord_of_spellsWord hs.word _ h)
      (show continuesWord '}' = false by decide) rfl
  have hkind : CellKind.ofLiteral? o.proseStyle.kind = some .prose := by
    show CellKind.ofLiteral? CellKind.prose.literal.toList = _
    decide
  obtain ⟨fs, hfs, hfinds⟩ := exists_finds_blockText hs hkind
    (allMayStand_proseLiterals hm hprose hlegible.noNull hlegible.names) o.importLine
  rw [← script_eq_blockText hprose] at hfinds
  rw [← textBefore_nil] at hfs
  have hanswers : Script.answers o.guardModule (nb.script o) = fs.map .ok := by
    have hmap : (fs.map Find.block).filterMap Find.answer? = fs.map .ok := by
      rw [List.filterMap_map]
      exact congrFun List.filterMap_eq_map' fs
    rw [← hmap, ← hfinds]
    rfl
  rw [BlockByBlock, hanswers, Notebook.placed]
  have hall := forall₂_writtenAt hs hprose hfs
  simpa only [List.nil_append, List.map_id'] using hall

end CellScript
