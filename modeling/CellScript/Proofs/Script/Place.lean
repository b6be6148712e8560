import CellScript.Block.Content
import CellScript.Proofs.Cell.Normal
import CellScript.Script.Write
import Mathlib.Data.List.Infix

set_option autoImplicit false

/-! # Where a script holds a cell

Places in a written script are counted from the text that stands before them. `WrittenAt` says that
a block is the one that was written for a cell after some others: its rows, its indentation and, for
prose, its literal are those of the text. `script_split` cuts a script at a cell, and
`exists_rows_script` does the same for its rows. -/

namespace CellScript

namespace WriteOptions

variable (o : WriteOptions) (before : List NotebookCell) (c : Cell)

/-- The text of a script before the chunk that follows those of some cells. -/
def textBefore : Text :=
  ((if o.importLine then [o.importText] else []) ++ before.map (NotebookCell.chunk o)).flatMap
    (· ++ ['\n'])

/-- The text of a script before the body of a cell that follows some cells. -/
def textToBody : Text := o.textBefore before ++ (o.opener c.kind.literal.toList ++ ['\n'])

/-- The row of the opener of a cell that follows some cells. -/
def headerRow : Nat := (o.textBefore before).count '\n'

/-- The row after that opener. -/
def bodyRow : Nat := (o.textToBody before c).count '\n'

/-- The row where the chunk after that of a cell starts. -/
def nextRow : Nat := (o.textBefore before ++ c.chunk o ++ ['\n']).count '\n'

/-- A line of the body of a block, as a row of the script. -/
def rowOf (t : Text) : Text := if t.isEmpty then [] else o.margin ++ t

end WriteOptions

/-- How many lines there are up to the last that is not blank. -/
def filledLength (ts : List Text) : Nat := (ts.rdropWhile Text.isBlank).length

/-- A block has the rows and the indentation that a script has for a cell after some others. It may
go on to blank rows before the next chunk. -/
structure SpannedAt (o : WriteOptions) (before : List NotebookCell) (c : Cell) (b : Block) :
    Prop where
  kind : b.kind = c.kind
  header : b.span.header = o.headerRow before
  start : b.span.start = o.bodyRow before c
  indent : b.span.indent = o.indent
  covers : b.span.start + filledLength c.bodyLines ≤ b.span.stop + 1
  ends : b.span.stop < o.nextRow before c

/-- A block is the one that a script has for a cell after some others: for prose, its literal is the
one that was written. -/
structure WrittenAt (o : WriteOptions) (before : List NotebookCell) (c : Cell) (b : Block) :
    Prop extends SpannedAt o before c b where
  literal : c.kind = .prose →
    (proseLiteral? b.body).map (fun t => (t.start.offset, t.stop.offset)) =
      some ((o.textToBody before c ++ o.margin).length,
        (o.textBefore before ++ c.chunk o).length - 1)

instance (o : WriteOptions) (before : List NotebookCell) (c : Cell) (b : Block) :
    Decidable (SpannedAt o before c b) :=
  decidable_of_iff
    (b.kind = c.kind ∧ b.span.header = o.headerRow before ∧ b.span.start = o.bodyRow before c ∧
      b.span.indent = o.indent ∧ b.span.start + filledLength c.bodyLines ≤ b.span.stop + 1 ∧
      b.span.stop < o.nextRow before c)
    ⟨fun ⟨kind, header, start, indent, covers, ends⟩ => ⟨kind, header, start, indent, covers, ends⟩,
      fun h => ⟨h.kind, h.header, h.start, h.indent, h.covers, h.ends⟩⟩

instance (o : WriteOptions) (before : List NotebookCell) (c : Cell) (b : Block) :
    Decidable (WrittenAt o before c b) :=
  decidable_of_iff
    (SpannedAt o before c b ∧
      (c.kind = .prose →
        (proseLiteral? b.body).map (fun t => (t.start.offset, t.stop.offset)) =
          some ((o.textToBody before c ++ o.margin).length,
            (o.textBefore before ++ c.chunk o).length - 1)))
    ⟨fun ⟨spanned, literal⟩ => ⟨spanned, literal⟩, fun h => ⟨h.toSpannedAt, h.literal⟩⟩

/-! ## All cells of a script -/

/-- The cells of a notebook, each with the cells before it. -/
def Notebook.placed (nb : Notebook) : List (List NotebookCell × NotebookCell) :=
  nb.cells.inits.zip nb.cells

/-- An answer of a walk is a block that stands in the given relation to a cell. -/
def AnswersFor (r : List NotebookCell → Cell → Block → Prop) (x : List NotebookCell × NotebookCell)
    (a : Except CellError Block) : Prop :=
  match x.2.toCell, a with
  | .ok c, .ok b => r x.1 c b
  | _, _ => False

/-- The answers of a walk are blocks, one for each cell in their order. -/
def BlockByBlock (r : List NotebookCell → Cell → Block → Prop) (nb : Notebook)
    (answers : List (Except CellError Block)) : Prop :=
  List.Forall₂ (AnswersFor r) nb.placed answers

instance (r : List NotebookCell → Cell → Block → Prop) [∀ before c b, Decidable (r before c b)]
    (x : List NotebookCell × NotebookCell) (a : Except CellError Block) :
    Decidable (AnswersFor r x a) :=
  match hc : x.2.toCell, a with
  | .ok c, .ok b => decidable_of_iff (r x.1 c b) (by simp only [AnswersFor, hc])
  | .ok _, .error _ => .isFalse (by simp [AnswersFor, hc])
  | .error _, _ => .isFalse (by simp [AnswersFor, hc])

instance (r : List NotebookCell → Cell → Block → Prop) [∀ before c b, Decidable (r before c b)]
    (nb : Notebook) (answers : List (Except CellError Block)) :
    Decidable (BlockByBlock r nb answers) :=
  inferInstanceAs (Decidable (List.Forall₂ (AnswersFor r) nb.placed answers))

theorem answersFor_iff {r : List NotebookCell → Cell → Block → Prop}
    {x : List NotebookCell × NotebookCell} {a : Except CellError Block} :
    AnswersFor r x a ↔ ∃ c b, x.2.toCell = .ok c ∧ a = .ok b ∧ r x.1 c b := by
  constructor
  · intro h
    unfold AnswersFor at h
    split at h
    · rename_i c b hc
      exact ⟨c, b, hc, rfl, h⟩
    · cases h
  · rintro ⟨c, b, hc, rfl, h⟩
    simpa only [AnswersFor, hc] using h

theorem exists_of_mem_inits_zip {α : Type} {l before : List α} {x : α}
    (h : (before, x) ∈ l.inits.zip l) : ∃ after, l = before ++ x :: after := by
  induction l generalizing before with
  | nil => cases h
  | cons y l ih =>
      rw [List.inits_cons, List.zip_cons_cons, List.zip_map_left] at h
      rcases List.mem_cons.1 h with h | h
      · obtain ⟨rfl, rfl⟩ := Prod.mk.inj h
        exact ⟨l, rfl⟩
      · obtain ⟨⟨front, z⟩, hz, heq⟩ := List.mem_map.1 h
        obtain ⟨rfl, rfl⟩ := Prod.mk.inj heq
        obtain ⟨after, hl⟩ := ih hz
        exact ⟨after, by rw [hl]; rfl⟩

theorem Notebook.map_snd_placed (nb : Notebook) : nb.placed.map Prod.snd = nb.cells := by
  rw [Notebook.placed, List.map_snd_zip]
  rw [List.length_inits]
  exact Nat.le_succ _

/-! ## Texts -/

theorem WriteOptions.bodyLine_eq (o : WriteOptions) (t : Text) :
    o.bodyLine t = o.rowOf t ++ ['\n'] := by
  unfold WriteOptions.bodyLine WriteOptions.rowOf
  split <;> rfl

theorem WriteOptions.textBefore_closed (o : WriteOptions) (before : List NotebookCell) :
    o.textBefore before = [] ∨ (o.textBefore before).getLast? = some '\n' :=
  Text.closed_flatMap (fun _ => List.getLast?_concat) _

theorem WriteOptions.textToBody_closed (o : WriteOptions) (before : List NotebookCell) (c : Cell) :
    (o.textToBody before c).getLast? = some '\n' := by
  simp [WriteOptions.textToBody]

/-- Only code and markdown cells are written, by the lines of their source. -/
theorem NotebookCell.content_of_toCell {nc : NotebookCell} {c : Cell} (h : nc.toCell = .ok c) :
    c.content = Text.lines nc.source.text ∧ c.kind ≠ .sandbox := by
  cases nc with
  | code | markdown =>
      obtain rfl := Except.ok.inj h
      exact ⟨rfl, fun hk => by cases hk⟩
  | other => cases h

theorem NotebookCell.chunk_of_toCell {o : WriteOptions} {nc : NotebookCell} {c : Cell}
    (h : nc.toCell = .ok c) : nc.chunk o = c.chunk o := by
  rw [NotebookCell.chunk, h]

/-- A script is the text before a cell, the chunk of the cell, and the chunks after it, each with an
empty line before it. -/
theorem script_eq_append {o : WriteOptions} {nb : Notebook} {before after : List NotebookCell}
    {nc : NotebookCell} (hcells : nb.cells = before ++ nc :: after) :
    nb.script o = o.textBefore before ++ (nc.chunk o ++ after.flatMap (['\n'] ++ ·.chunk o)) := by
  have hparts : nb.scriptParts o =
      ((if o.importLine then [o.importText] else []) ++ before.map (NotebookCell.chunk o)) ++
        nc.chunk o :: after.map (NotebookCell.chunk o) := by
    rw [Notebook.scriptParts, hcells, List.map_append, List.map_cons, List.append_assoc]
  rw [Notebook.script, hparts, Text.joinWith_append_cons, WriteOptions.textBefore,
    List.flatMap_map]

theorem script_split {o : WriteOptions} {nb : Notebook} {before after : List NotebookCell}
    {nc : NotebookCell} {c : Cell} (hcells : nb.cells = before ++ nc :: after)
    (hc : nc.toCell = .ok c) :
    nb.script o = o.textBefore before ++ (c.chunk o ++ after.flatMap (['\n'] ++ ·.chunk o)) := by
  rw [script_eq_append hcells, NotebookCell.chunk_of_toCell hc]

theorem chunk_eq (o : WriteOptions) (c : Cell) :
    c.chunk o = (o.opener c.kind.literal.toList ++ ['\n']) ++ o.body c.bodyLines := by
  simp [Cell.chunk]

/-! ## Lines of a body -/

theorem not_mem_codeBody {content : List Text} (h : ∀ t ∈ content, '\n' ∉ t) :
    ∀ t ∈ codeBody content, '\n' ∉ t := by
  have hesc : ∀ t ∈ content.map escapeLine, '\n' ∉ t := by
    intro t ht
    obtain ⟨u, hu, rfl⟩ := List.mem_map.mp ht
    rw [mem_escapeLine (by decide)]
    exact h u hu
  intro t ht
  unfold codeBody at ht
  dsimp only at ht
  split at ht
  · exact hesc t ht
  · rcases List.mem_append.mp ht with ht | ht
    · exact hesc t ht
    · rw [List.mem_singleton.mp ht]
      decide

/-- The forms in which prose may be written: what stands before the quotes, the quotes, and the
lines between them. -/
inductive LiteralForm (content : List Text) : Text → Text → List Text → Prop where
  | double : LiteralForm content [] doubleQuotes content
  | single : LiteralForm content [] singleQuotes content
  | decoded : LiteralForm content decodedMark doubleQuotes (content.map encodeProse)

theorem exists_literalForm (content : List Text) :
    ∃ mark quotes ls, LiteralForm content mark quotes ls ∧
      proseBody content = (mark ++ quotes) :: (ls ++ [quotes]) := by
  unfold proseBody literalForm
  dsimp only
  split
  · exact ⟨_, _, _, LiteralForm.single, rfl⟩
  · exact ⟨_, _, _, LiteralForm.decoded, rfl⟩
  · exact ⟨_, _, _, LiteralForm.double, rfl⟩

theorem LiteralForm.not_isBlank {content ls : List Text} {mark quotes : Text}
    (h : LiteralForm content mark quotes ls) : Text.isBlank quotes = false := by
  cases h <;> decide

theorem LiteralForm.not_mem {content ls : List Text} {mark quotes : Text}
    (h : LiteralForm content mark quotes ls) (hlines : ∀ t ∈ content, '\n' ∉ t) :
    '\n' ∉ mark ++ quotes ∧ '\n' ∉ quotes ∧ ∀ t ∈ ls, '\n' ∉ t := by
  cases h with
  | double | single => exact ⟨by decide, by decide, hlines⟩
  | decoded =>
      refine ⟨by decide, by decide, ?_⟩
      intro t ht
      obtain ⟨u, hu, rfl⟩ := List.mem_map.mp ht
      rw [mem_encodeProse (by decide)]
      exact hlines u hu

theorem not_mem_proseBody {content : List Text} (h : ∀ t ∈ content, '\n' ∉ t) :
    ∀ t ∈ proseBody content, '\n' ∉ t := by
  obtain ⟨mark, quotes, ls, hform, hbody⟩ := exists_literalForm content
  obtain ⟨hfirst, hquotes, hls⟩ := hform.not_mem h
  intro t ht
  rw [hbody, List.mem_cons, List.mem_append, List.mem_singleton] at ht
  rcases ht with rfl | ht | rfl
  · exact hfirst
  · exact hls t ht
  · exact hquotes

theorem not_mem_bodyLines {c : Cell} (h : ∀ t ∈ c.content, '\n' ∉ t) :
    ∀ t ∈ c.bodyLines, '\n' ∉ t := by
  unfold Cell.bodyLines
  split
  · exact not_mem_codeBody h
  · exact not_mem_proseBody h
  · simp

theorem not_isBlank_of_isStatement {t : Text} (h : isStatement t = true) :
    Text.isBlank t = false := by
  unfold isStatement at h
  split at h
  · simp at h
  · next hs =>
      rw [← Bool.not_eq_true, ← Text.trimStart_eq_nil_iff, hs]
      exact List.cons_ne_nil _ _

/-- Something is written for every cell. -/
theorem filledLength_pos {c : Cell} (h : c.kind ≠ .sandbox) : 0 < filledLength c.bodyLines := by
  have hfilled : ∀ {ts : List Text} {t : Text}, t ∈ ts → Text.isBlank t = false →
      0 < filledLength ts := by
    intro ts t ht hb
    rw [filledLength, List.length_pos_iff, Ne, List.rdropWhile_eq_nil_iff]
    intro hall
    rw [hall t ht] at hb
    exact Bool.noConfusion hb
  unfold Cell.bodyLines
  split
  · unfold codeBody
    dsimp only
    split
    · next hany =>
        obtain ⟨t, ht, hs⟩ := List.any_eq_true.mp hany
        exact hfilled ht (not_isBlank_of_isStatement hs)
    · exact hfilled (t := placeholder) (by simp) (by decide)
  · obtain ⟨mark, quotes, ls, hform, hbody⟩ := exists_literalForm c.content
    rw [hbody]
    exact hfilled (t := quotes) (by simp) hform.not_isBlank
  · next hk => exact absurd hk h

/-! ## Rows -/

variable {o : WriteOptions}

theorem not_mem_margin : '\n' ∉ o.margin := by
  intro h
  have := List.eq_of_mem_replicate h
  exact absurd this (by decide)

theorem not_mem_rowOf {t : Text} (h : '\n' ∉ t) : '\n' ∉ o.rowOf t := by
  unfold WriteOptions.rowOf
  split
  · simp
  · simp [not_mem_margin, h]

theorem not_mem_opener (ho : '\n' ∉ o.guardModule) {kind : Text} (hk : '\n' ∉ kind) :
    '\n' ∉ o.opener kind := by
  unfold WriteOptions.opener
  rw [List.mem_append, List.mem_append, List.mem_append, List.mem_append]
  rintro ((((h | h) | h) | h) | h)
  · exact absurd h (by decide)
  · exact ho h
  · exact absurd h (by decide)
  · exact hk h
  · exact absurd h (by decide)

theorem CellKind.not_mem_literal (k : CellKind) : '\n' ∉ k.literal.toList := by
  cases k <;> decide

/-- The lines of a body are rows of their own. -/
theorem rows_body {ts : List Text} (h : ∀ t ∈ ts, '\n' ∉ t) (u : Text) :
    Text.rows (o.body ts ++ u) = ts.map o.rowOf ++ Text.rows u := by
  induction ts with
  | nil => rfl
  | cons t rest ih =>
      have ht : '\n' ∉ o.rowOf t := not_mem_rowOf (h t List.mem_cons_self)
      have hcons : o.body (t :: rest) ++ u = o.rowOf t ++ '\n' :: (o.body rest ++ u) := by
        simp [WriteOptions.body, WriteOptions.bodyLine_eq]
      rw [hcons, Text.rows_line ht, ih fun l hl => h l (List.mem_cons_of_mem t hl)]
      rfl

theorem count_body {ts : List Text} (h : ∀ t ∈ ts, '\n' ∉ t) :
    (o.body ts).count '\n' = ts.length := by
  have hrows := congrArg List.length (rows_body (o := o) h [])
  rw [List.append_nil, Text.length_rows] at hrows
  simpa [Text.rows] using hrows

theorem nextRow_eq {before : List NotebookCell} {c : Cell} (h : ∀ t ∈ c.content, '\n' ∉ t) :
    o.nextRow before c = o.bodyRow before c + c.bodyLines.length + 1 := by
  have hbody : (o.body c.bodyLines).count '\n' = c.bodyLines.length :=
    count_body (not_mem_bodyLines h)
  simp only [WriteOptions.nextRow, WriteOptions.bodyRow, WriteOptions.textToBody, chunk_eq,
    List.count_append, hbody, List.count_singleton_self]
  omega

/-- The rows of a script around the body of a cell: those before it, its own, an empty one, and
others. -/
theorem exists_rows_script {nb : Notebook} {before after : List NotebookCell} {nc : NotebookCell}
    {c : Cell} (hcells : nb.cells = before ++ nc :: after) (hc : nc.toCell = .ok c)
    (hlines : ∀ t ∈ c.content, '\n' ∉ t) :
    ∃ front back, Text.rows (nb.script o) =
        front ++ (c.bodyLines.map o.rowOf ++ [] :: back) ∧
      front.length = o.bodyRow before c := by
  obtain ⟨front, hfront, hlen⟩ := Text.rows_append_of_closed
    (Or.inr (o.textToBody_closed before c))
    (o.body c.bodyLines ++ after.flatMap (['\n'] ++ ·.chunk o))
  have hscript : nb.script o =
      o.textToBody before c ++ (o.body c.bodyLines ++ after.flatMap (['\n'] ++ ·.chunk o)) := by
    rw [script_split hcells hc, chunk_eq, WriteOptions.textToBody]
    simp only [List.append_assoc]
  have htail : ∃ back, Text.rows (after.flatMap (['\n'] ++ ·.chunk o)) = [] :: back := by
    cases after with
    | nil => exact ⟨[], rfl⟩
    | cons a as => exact ⟨_, rfl⟩
  obtain ⟨back, hback⟩ := htail
  refine ⟨front, back, ?_, hlen⟩
  rw [hscript, hfront, rows_body (not_mem_bodyLines hlines), hback]

end CellScript
