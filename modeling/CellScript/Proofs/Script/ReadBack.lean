import CellScript.Proofs.Script.Place
import CellScript.Script.Read

set_option autoImplicit false

/-! # Reading back what was written

A block that a script has for a cell, whatever stands around it, is read back as the cell in normal
form: `cell_of_written`. Code goes by the rows of the block (`codeLines_written`), prose by the
text of its literal (`proseContent_written`). -/

namespace CellScript

variable {o : WriteOptions}

/-! ## Rows of a written block -/

/-- A row of a body without its indentation is the tidy line that it was written for. -/
theorem dedents_rowOf (t : Text) : Dedents o.indent (Text.dropReturn (o.rowOf t)) (tidyLine t) := by
  unfold WriteOptions.rowOf
  cases h : Text.isBlank t with
  | true =>
      have hrow : Text.isBlank (if t.isEmpty then [] else o.margin ++ t) = true := by
        split
        · rfl
        · simp [WriteOptions.margin, Text.isBlank_spaces, h]
      rw [tidyLine_of_isBlank h]
      exact dedents_of_isBlank (by rwa [Text.isBlank_dropReturn])
  | false =>
      have hne : t ≠ [] := Text.ne_nil_of_isBlank_eq_false h
      rw [if_neg (by simpa using hne), Text.dropReturn_append hne, tidyLine_of_not_isBlank h]
      refine dedents_append (by rwa [Text.isBlank_dropReturn]) (by simp [WriteOptions.margin]) ?_
      simp [WriteOptions.margin, isIndent]

theorem forall₂_dedents_rowOf (ts : List Text) :
    List.Forall₂ (Dedents o.indent) ((ts.map o.rowOf).map Text.dropReturn) (ts.map tidyLine) := by
  rw [List.map_map, List.forall₂_map_left_iff, List.forall₂_map_right_iff, List.forall₂_same]
  exact fun t _ => dedents_rowOf t

/-! ## Code -/

/-- Rows after the last one with content add nothing to code. -/
theorem dropEmptyEnd_take {ts : List Text} {n : Nat} (hn : filledLength ts ≤ n) :
    dropEmptyEnd ((((ts ++ [[]]).take n).map tidyLine).filterMap keptLine?) =
      dropEmptyEnd ((ts.map tidyLine).filterMap keptLine?) := by
  obtain ⟨rest, hts, hrest⟩ := exists_rdropWhile_append Text.isBlank ts
  have hblank : ∀ us : List Text, (∀ u ∈ us, Text.isBlank u = true) →
      ∀ v ∈ (us.map tidyLine).filterMap keptLine?, v = [] := by
    intro us hus v hv
    obtain ⟨w, hw, hkept⟩ := List.mem_filterMap.mp hv
    obtain ⟨u, hu, rfl⟩ := List.mem_map.mp hw
    rw [tidyLine_of_isBlank (hus u hu), keptLine?_nil, Option.some.injEq] at hkept
    exact hkept.symm
  -- the cut comes after the last line that is not blank
  have hcut : (ts ++ [[]]).take n =
      ts.rdropWhile Text.isBlank ++ (rest ++ [[]]).take (n - filledLength ts) := by
    conv_lhs => rw [hts, List.append_assoc, List.take_append]
    rw [List.take_of_length_le hn]
    rfl
  have htail : ∀ u ∈ (rest ++ [[]]).take (n - filledLength ts), Text.isBlank u = true := by
    intro u hu
    rcases List.mem_append.mp (List.mem_of_mem_take hu) with hu | hu
    · exact hrest u hu
    · rw [List.mem_singleton.mp hu, Text.isBlank_nil]
  rw [hcut, List.map_append, List.filterMap_append, dropEmptyEnd_append (hblank _ htail)]
  conv_rhs => rw [hts, List.map_append, List.filterMap_append, dropEmptyEnd_append (hblank _ hrest)]

/-- Neither the escapes nor the placeholder of a body are read back. -/
theorem normalCode_codeBody (content : List Text) :
    normalCode (codeBody content) = normalCode content := by
  unfold normalCode codeBody
  dsimp only
  split
  · rw [filterMap_keptLine?_escapeLine]
  · have hp : tidyLine placeholder = placeholder := by decide
    rw [List.map_append, List.filterMap_append, filterMap_keptLine?_escapeLine, List.map_singleton,
      hp, List.filterMap_cons_none keptLine?_placeholder, List.filterMap_nil, List.append_nil]

/-- The rows of a written block are lines of the script. -/
theorem map_snd_rowsOf_written {nb : Notebook} {before after : List NotebookCell}
    {nc : NotebookCell} {c : Cell} {b : Block} (hcells : nb.cells = before ++ nc :: after)
    (hc : nc.toCell = .ok c) (hlines : ∀ t ∈ c.content, '\n' ∉ t) (hb : WrittenAt o before c b) :
    (b.span.rowsOf (Text.physicalLines (nb.script o))).map Prod.snd =
      (((c.bodyLines ++ [[]]).take (b.span.stop + 1 - b.span.start)).map o.rowOf).map
        Text.dropReturn := by
  obtain ⟨front, back, hrows, hfront⟩ := exists_rows_script (o := o) hcells hc hlines
  have hstop : b.span.stop + 1 - b.span.start ≤ (c.bodyLines ++ [[]]).length := by
    have hends := hb.ends
    rw [nextRow_eq hlines, ← hb.start] at hends
    simp only [List.length_append, List.length_singleton]
    omega
  -- the block may take in the empty row after the body
  have hwhole : c.bodyLines.map o.rowOf ++ [] :: back =
      (c.bodyLines ++ [[]]).map o.rowOf ++ back := by
    rw [List.map_append, List.append_assoc]
    rfl
  have hcut : (c.bodyLines ++ [[]]).map o.rowOf =
      ((c.bodyLines ++ [[]]).take (b.span.stop + 1 - b.span.start)).map o.rowOf ++
        ((c.bodyLines ++ [[]]).drop (b.span.stop + 1 - b.span.start)).map o.rowOf := by
    rw [← List.map_append, List.take_append_drop]
  rw [Text.physicalLines, hrows, hwhole, hcut, List.append_assoc, List.map_append, List.map_append]
  refine Span.map_snd_rowsOf ?_ ?_
  · rw [List.length_map, hfront, hb.start]
  · rw [List.length_map, List.length_map, List.length_take, Nat.min_eq_left hstop]

/-- The code of a written block is read back in normal form. -/
theorem codeLines_written {nb : Notebook} {before after : List NotebookCell}
    {nc : NotebookCell} {c : Cell} {b : Block} (hcells : nb.cells = before ++ nc :: after)
    (hc : nc.toCell = .ok c) (hlines : ∀ t ∈ c.content, '\n' ∉ t) (hb : WrittenAt o before c b)
    (hkind : c.kind = .executable) :
    (codeLines b.span.indent (b.span.rowsOf (Text.physicalLines (nb.script o)))).map dropEmptyEnd =
      .ok (normalCode c.content) := by
  have hread : codeLines b.span.indent (b.span.rowsOf (Text.physicalLines (nb.script o))) =
      .ok ((((c.bodyLines ++ [[]]).take (b.span.stop + 1 - b.span.start)).map tidyLine).filterMap
        keptLine?) := by
    rw [codeLines_eq_ok_iff, map_snd_rowsOf_written hcells hc hlines hb, hb.indent]
    exact ⟨_, forall₂_dedents_rowOf _, rfl⟩
  have hbody : c.bodyLines = codeBody c.content := by
    rw [Cell.bodyLines, hkind]
  have hfilled : filledLength c.bodyLines ≤ b.span.stop + 1 - b.span.start := by
    have hcovers := hb.covers
    omega
  rw [hread, Except.map, dropEmptyEnd_take hfilled, hbody, ← normalCode_codeBody c.content]
  rfl

/-! ## Prose -/

/-- Between its quotes a written literal has an empty line, the lines of the prose and another empty
line. -/
theorem LiteralForm.stripQuotes?_eq {content ls : List Text} {mark quotes : Text}
    (h : LiteralForm content mark quotes ls) (ts : List Text) :
    stripQuotes? ((mark ++ quotes) :: (ts ++ [quotes])) =
      some ([] :: (ts ++ [[]]), decide (mark = decodedMark)) := by
  have hopens : Opens (mark ++ quotes) mark quotes [] := by
    cases h <;> exact ⟨rfl, by simp [isProsePrefix, decodedMark], by decide, by decide⟩
  refine stripQuotes?_eq_some_iff.2 ⟨mark, quotes, [], [] :: ts, [], hopens, rfl, rfl, ?_⟩
  cases h <;> rfl

/-- What is left of written prose between its quotes is the prose in normal form. -/
theorem LiteralForm.normalProse_eq {content ls : List Text} {mark quotes : Text}
    (h : LiteralForm content mark quotes ls) :
    dropBlankEnds (if decide (mark = decodedMark) then
        ([] :: (ls.map tidyLine ++ [[]])).map decodeProse else [] :: (ls.map tidyLine ++ [[]])) =
      normalProse content := by
  have hends : ∀ us : List Text, dropBlankEnds ([] :: (us ++ [[]])) = dropBlankEnds us :=
    @dropBlankEnds_append [[]] [[]] (by simp) (by simp)
  cases h with
  | double | single => exact hends _
  | decoded =>
      have hdecode : ([] :: ((content.map encodeProse).map tidyLine ++ [[]])).map decodeProse =
          [] :: (content.map tidyLine ++ [[]]) := by
        simp only [List.map_cons, List.map_append, List.map_nil, List.map_map, Function.comp_def,
          decodeProse_tidyLine_encodeProse]
        rfl
      rw [if_pos (by decide), hdecode, hends]
      rfl

/-- The text of a literal in a script that follows the indentation of a body. -/
def literalText (o : WriteOptions) (mark quotes : Text) (ls : List Text) : Text :=
  (mark ++ quotes) ++ '\n' :: o.body ls ++ o.rowOf quotes

theorem LiteralForm.body_eq {content ls : List Text} {mark quotes : Text}
    (h : LiteralForm content mark quotes ls) :
    o.body ((mark ++ quotes) :: (ls ++ [quotes])) =
      o.margin ++ (literalText o mark quotes ls ++ ['\n']) := by
  have hne : quotes ≠ [] := Text.ne_nil_of_isBlank_eq_false h.not_isBlank
  have hfirst : o.rowOf (mark ++ quotes) = o.margin ++ (mark ++ quotes) := by
    rw [WriteOptions.rowOf, if_neg (by simp [hne])]
  simp only [WriteOptions.body, List.flatMap_cons, List.flatMap_append, List.flatMap_nil,
    WriteOptions.bodyLine_eq, hfirst, literalText]
  simp only [List.append_assoc, List.cons_append, List.nil_append, List.append_nil]

theorem LiteralForm.physicalLines_literalText {content ls : List Text} {mark quotes : Text}
    (h : LiteralForm content mark quotes ls) (hlines : ∀ t ∈ content, '\n' ∉ t) :
    Text.physicalLines (literalText o mark quotes ls) =
      (mark ++ quotes) :: ((ls ++ [quotes]).map o.rowOf).map Text.dropReturn := by
  obtain ⟨hfirst, hquotes, hls⟩ := h.not_mem hlines
  have hdrop : Text.dropReturn (mark ++ quotes) = mark ++ quotes := by
    cases h <;> decide
  rw [Text.physicalLines, literalText, List.append_assoc, List.cons_append, Text.rows_line hfirst,
    rows_body hls, Text.rows_of_not_mem (not_mem_rowOf hquotes), List.map_cons, hdrop]
  simp only [List.map_append, List.map_singleton]

/-- The rows of a written literal are read back as the prose in normal form. -/
theorem LiteralForm.proseLines_eq {content ls : List Text} {mark quotes : Text}
    (h : LiteralForm content mark quotes ls) (hlines : ∀ t ∈ content, '\n' ∉ t)
    (header line : Nat) :
    proseLines header o.indent line (Text.physicalLines (literalText o mark quotes ls)) =
      .ok (normalProse content) := by
  have htidy : (ls ++ [quotes]).map tidyLine = ls.map tidyLine ++ [quotes] := by
    have hq : tidyLine quotes = quotes := by cases h <;> decide
    rw [List.map_append, List.map_singleton, hq]
  rw [h.physicalLines_literalText hlines, proseLines_eq_ok_iff]
  exact ⟨_, _, _, htidy ▸ forall₂_dedents_rowOf _, h.stripQuotes?_eq (ls.map tidyLine),
    h.normalProse_eq.symm⟩

/-- The prose of a written block is read back in normal form. -/
theorem proseContent_written {nb : Notebook} {before after : List NotebookCell}
    {nc : NotebookCell} {c : Cell} {b : Block} (hcells : nb.cells = before ++ nc :: after)
    (hc : nc.toCell = .ok c) (hlines : ∀ t ∈ c.content, '\n' ∉ t) (hb : WrittenAt o before c b)
    (hkind : c.kind = .prose) :
    proseContent (nb.script o) b = .ok (normalProse c.content) := by
  obtain ⟨mark, quotes, ls, hform, hbody⟩ := exists_literalForm c.content
  obtain ⟨lit, hlit, hplace⟩ := Option.map_eq_some_iff.mp (hb.literal hkind)
  obtain ⟨hstart, hstop⟩ := Prod.mk.injEq .. ▸ hplace
  -- the literal ends where the chunk does, but for the line end
  have hchunk : o.textBefore before ++ c.chunk o =
      (o.textToBody before c ++ o.margin) ++ (literalText o mark quotes ls ++ ['\n']) := by
    rw [chunk_eq, Cell.bodyLines, hkind]
    dsimp only
    rw [hbody, hform.body_eq, WriteOptions.textToBody, hkind]
    simp only [List.append_assoc]
  have htext : lit.text (nb.script o) = literalText o mark quotes ls := by
    have hlength : lit.stop.offset - lit.start.offset = (literalText o mark quotes ls).length := by
      rw [hstart, hstop, hchunk]
      simp only [List.length_append, List.length_singleton]
      omega
    rw [Python.Tree.text, hlength, hstart, script_split hcells hc, ← List.append_assoc, hchunk,
      List.append_assoc, List.drop_left, List.append_assoc, List.take_left]
  rw [proseContent, hlit]
  dsimp only
  rw [htext, hb.indent]
  exact hform.proseLines_eq hlines _ _

/-! ## Both -/

/-- A written block is read back as its cell in normal form. -/
theorem cell_of_written {nb : Notebook} {before after : List NotebookCell}
    {nc : NotebookCell} {c : Cell} {b : Block} (hcells : nb.cells = before ++ nc :: after)
    (hc : nc.toCell = .ok c) (hb : WrittenAt o before c b) :
    b.cell (nb.script o) (Text.physicalLines (nb.script o)) = .ok c.normal := by
  obtain ⟨hcontent, hkind⟩ := NotebookCell.content_of_toCell hc
  have hlines : ∀ t ∈ c.content, '\n' ∉ t := by
    intro t ht
    rw [hcontent] at ht
    exact Text.not_mem_of_mem_lines ht
  have hfilled := filledLength_pos hkind
  have hcovers := hb.covers
  -- the body has a line, so the span of the block is not empty
  rw [Block.cell, if_neg (by omega), hb.kind]
  cases hk : c.kind with
  | executable =>
      obtain ⟨ts, hts, hcode⟩ := map_eq_ok.1 (codeLines_written hcells hc hlines hb hk)
      rw [Cell.normal, hk]
      exact map_eq_ok.2 ⟨ts, hts, by rw [hcode]⟩
  | prose =>
      dsimp only
      rw [proseContent_written hcells hc hlines hb hk, Cell.normal, hk]
      rfl
  | sandbox => exact absurd hk hkind

/-- The opener of a block stands in the row of its header. -/
theorem opener_of_written {nb : Notebook} {before after : List NotebookCell}
    {nc : NotebookCell} {c : Cell} {b : Block} (hcells : nb.cells = before ++ nc :: after)
    (hc : nc.toCell = .ok c) (hb : WrittenAt o before c b) (ho : '\n' ∉ o.guardModule) :
    b.span.start = b.span.header + 1 ∧
      (Text.rows (nb.script o))[b.span.header]? = some (o.opener c.kind.literal.toList) := by
  have hopener : '\n' ∉ o.opener c.kind.literal.toList :=
    not_mem_opener ho c.kind.not_mem_literal
  constructor
  · rw [hb.start, hb.header, WriteOptions.bodyRow, WriteOptions.textToBody, List.count_append,
      List.count_append, List.count_eq_zero_of_not_mem hopener]
    rfl
  · obtain ⟨front, hfront, hlen⟩ := Text.rows_append_of_closed (o.textBefore_closed before)
      (c.chunk o ++ after.flatMap (['\n'] ++ ·.chunk o))
    have hchunk : c.chunk o ++ after.flatMap (['\n'] ++ ·.chunk o) =
        o.opener c.kind.literal.toList ++
          '\n' :: (o.body c.bodyLines ++ after.flatMap (['\n'] ++ ·.chunk o)) := by
      rw [chunk_eq]
      simp only [List.append_assoc, List.cons_append, List.nil_append]
    have hheader : front.length = b.span.header := by rw [hlen, hb.header, WriteOptions.headerRow]
    rw [script_split hcells hc, hfront, hchunk, Text.rows_line hopener, ← hheader]
    simp

/-- **Reading back a written cell.** For a code or markdown cell of any notebook, the block that a
script has for it gives the lines of the cell's source in normal form. With a namespace of one line
the body starts in the row after the opener. -/
theorem read_back_normal (o : WriteOptions) (nb : Notebook) (before after : List NotebookCell)
    (nc : NotebookCell) (k : CellKind) (b : Block) (hcells : nb.cells = before ++ nc :: after)
    (hk : nc.kind? = some k) (hb : WrittenAt o before ⟨k, Text.lines nc.source.text⟩ b) :
    b.cell (nb.script o) (Text.physicalLines (nb.script o)) =
        .ok (Cell.normal ⟨k, Text.lines nc.source.text⟩) ∧
      ('\n' ∉ o.guardModule →
        b.span.start = b.span.header + 1 ∧
          (Text.rows (nb.script o))[b.span.header]? = some (o.opener k.literal.toList)) := by
  have hc : nc.toCell = .ok ⟨k, Text.lines nc.source.text⟩ := by
    rw [NotebookCell.toCell, hk]
  have hopener := opener_of_written hcells hc hb
  exact ⟨cell_of_written hcells hc hb, hopener⟩

/-- Code with a line that the notebook runs itself, and prose in two pieces with quotes of both
kinds. -/
def mixedNotebook : Notebook :=
  ⟨[.ofCode (.whole "x\r\npass\n%a\n".toList),
    .ofMarkdown (.pieces ["Both \"\"\" ".toList, "and '''\\\r\n  \nb\n".toList])], []⟩

/-- How `mixedNotebook` is written. -/
def narrow : WriteOptions := ⟨['h'], 2, false⟩

/-- The second block that the walk finds in the script of `mixedNotebook`. -/
def mixedBlock : Block :=
  match (Script.findings narrow.guardModule (mixedNotebook.script narrow)).drop 1 with
  | .block b :: _ => b
  | _ => default

theorem read_back_normal_mixed :
    let prose : Cell := ⟨.prose, ["Both \"\"\" and '''\\".toList, [' ', ' '], ['b']]⟩
    WrittenAt narrow (mixedNotebook.cells.take 1) prose mixedBlock ∧
      mixedBlock.cell (mixedNotebook.script narrow)
          (Text.physicalLines (mixedNotebook.script narrow)) =
        .ok ⟨.prose, ["Both \"\"\" and '''\\".toList, [], ['b']]⟩ := by
  intro prose
  have hb : WrittenAt narrow (mixedNotebook.cells.take 1) prose mixedBlock := by decide +kernel
  have hread := read_back_normal narrow mixedNotebook (mixedNotebook.cells.take 1) []
    (.ofMarkdown (.pieces ["Both \"\"\" ".toList, "and '''\\\r\n  \nb\n".toList])) .prose
    mixedBlock rfl rfl hb
  exact ⟨hb, hread.1⟩

end CellScript
