import CellScript.Proofs.Script.Assembly
import CellScript.Proofs.Script.ErrorPlace

set_option autoImplicit false

/-! # What stands outside the blocks of a script

Content is cut out of a script by rows and by offsets, which change with everything that stands
before a block. `Block.Alike` says what two blocks of two scripts have to share to make the same
cell: their kind, their indentation, the lines in their rows, and for prose the text of the literal.
Errors name a line of their script, so they are compared without it, `CellError.unplaced`: every
step from a block to its cell comes to the same but for that line, and so does the whole,
`Block.Alike.sameButLine_checkedCell`. By `outside_irrelevant` the same holds of whole readings,
whatever else the two scripts hold. -/

namespace CellScript

open Python Text

/-! ## Errors without lines -/

/-- An error with line `0`, which no script has, in place of its own. -/
def CellError.unplaced : CellError → CellError
  | unknownKind literal _ => .unknownKind literal 0
  | malformed why _ => .malformed why 0
  | indentation _ => .indentation 0
  | invalidCode flaw _ => .invalidCode flaw 0
  | unsupported kind => .unsupported kind

variable {α : Type}

/-- Two results are the same but for the line of their error. -/
def SameButLine (x y : Except CellError α) : Prop :=
  x.mapError CellError.unplaced = y.mapError CellError.unplaced

theorem SameButLine.of_error {e e' : CellError} (h : e.unplaced = e'.unplaced) :
    SameButLine (.error e : Except CellError α) (.error e') :=
  congrArg Except.error h

/-! ## Content -/

theorem sameButLine_dedent (indent line line' : Nat) (t : Text) :
    SameButLine (dedent indent line t) (dedent indent line' t) := by
  unfold dedent
  by_cases hblank : isBlank t = true
  · rw [if_pos hblank, if_pos hblank]
    rfl
  · rw [if_neg hblank, if_neg hblank]
    dsimp only
    split
    · rfl
    · rfl

/-- Code is made of the lines alone. -/
theorem sameButLine_codeLines (indent : Nat) {rows rows' : List (Nat × Text)}
    (h : rows.map Prod.snd = rows'.map Prod.snd) :
    SameButLine (codeLines indent rows) (codeLines indent rows') := by
  induction rows generalizing rows' with
  | nil =>
      rw [List.map_eq_nil_iff.1 h.symm]
      rfl
  | cons r rows ih =>
      cases rows' with
      | nil => cases h
      | cons r' rows' =>
          obtain ⟨row, t⟩ := r
          obtain ⟨row', t'⟩ := r'
          obtain ⟨ht, hrest⟩ := List.cons.inj h
          obtain rfl : t = t' := ht
          rw [codeLines, codeLines]
          exact mapError_bind_congr (sameButLine_dedent indent _ _ t) fun u =>
            mapError_bind_congr (ih hrest) fun us => rfl

theorem sameButLine_dedentRest (indent line line' : Nat) (ts : List Text) :
    SameButLine (dedentRest indent line ts) (dedentRest indent line' ts) := by
  induction ts generalizing line line' with
  | nil => rfl
  | cons t ts ih =>
      rw [dedentRest, dedentRest]
      exact mapError_bind_congr (sameButLine_dedent indent _ _ t) fun u =>
        mapError_bind_congr (ih _ _) fun us => rfl

theorem sameButLine_proseLines (indent header header' line line' : Nat) (rows : List Text) :
    SameButLine (proseLines header indent line rows) (proseLines header' indent line' rows) := by
  cases rows with
  | nil => rfl
  | cons t ts =>
      unfold proseLines
      dsimp only
      refine mapError_bind_congr (mapError_map_congr (sameButLine_dedentRest indent _ _ ts) _) ?_
      intro rows
      cases stripQuotes? rows with
      | none => rfl
      | some stripped => rfl

/-- The check of a cell is told the line of its block only to name it. -/
theorem sameButLine_check (c : Cell) (line line' : Nat) :
    SameButLine (c.check line) (c.check line') := by
  unfold Cell.check
  generalize flawIn? c.code (Tree.ofText c.code) = flaw
  by_cases hk : c.kind ≠ .executable
  · rw [if_pos hk, if_pos hk]
    rfl
  · rw [if_neg hk, if_neg hk]
    cases flaw with
    | none => rfl
    | some flaw => exact .of_error rfl

/-! ## Blocks -/

/-- The lines of a script in the rows of a block. -/
def Block.lines (s : Text) (b : Block) : List Text := (b.span.rowsOf (physicalLines s)).map Prod.snd

/-- Two blocks of two scripts hold the same, wherever it stands there. -/
structure Block.Alike (s s' : Text) (b b' : Block) : Prop where
  kind : b.kind = b'.kind
  indent : b.span.indent = b'.span.indent
  lines : b.lines s = b'.lines s'
  literal : b.kind = .prose →
    (proseLiteral? b.body).map (·.text s) = (proseLiteral? b'.body).map (·.text s')

instance (s s' : Text) : DecidableRel (Block.Alike s s') := fun b b' =>
  decidable_of_iff
    (b.kind = b'.kind ∧ b.span.indent = b'.span.indent ∧ b.lines s = b'.lines s' ∧
      (b.kind = .prose →
        (proseLiteral? b.body).map (·.text s) = (proseLiteral? b'.body).map (·.text s')))
    ⟨fun ⟨kind, indent, lines, literal⟩ => ⟨kind, indent, lines, literal⟩,
      fun h => ⟨h.kind, h.indent, h.lines, h.literal⟩⟩

theorem Block.length_lines (s : Text) (b : Block) :
    (b.lines s).length = b.span.stop + 1 - b.span.start := by
  simp [Block.lines, Span.rowsOf]

namespace Block.Alike

variable {s s' : Text} {b b' : Block}

/-- One of two blocks that are alike has no rows exactly if the other has none. -/
theorem stop_lt_iff (h : Alike s s' b b') :
    b.span.stop < b.span.start ↔ b'.span.stop < b'.span.start := by
  have hlength := congrArg List.length h.lines
  rw [Block.length_lines, Block.length_lines] at hlength
  omega

theorem sameButLine_proseContent (h : Alike s s' b b') (hk : b.kind = .prose) :
    SameButLine (proseContent s b) (proseContent s' b') := by
  have hliteral := h.literal hk
  unfold proseContent
  cases hl : proseLiteral? b.body with
  | none =>
      rw [hl] at hliteral
      rw [Option.map_eq_none_iff.1 hliteral.symm]
      exact .of_error rfl
  | some literal =>
      rw [hl] at hliteral
      obtain ⟨literal', hl', htext⟩ := Option.map_eq_some_iff.1 hliteral.symm
      rw [hl']
      dsimp only
      rw [htext, h.indent]
      exact sameButLine_proseLines _ _ _ _ _ _

theorem sameButLine_cell (h : Alike s s' b b') :
    SameButLine (b.cell s (physicalLines s)) (b'.cell s' (physicalLines s')) := by
  unfold Block.cell
  by_cases hempty : b.span.stop < b.span.start
  · rw [if_pos hempty, if_pos (h.stop_lt_iff.1 hempty)]
    exact .of_error rfl
  · rw [if_neg hempty, if_neg (mt h.stop_lt_iff.2 hempty), ← h.kind, ← h.indent]
    cases hk : b.kind with
    | executable => exact mapError_map_congr (sameButLine_codeLines _ h.lines) _
    | prose => exact mapError_map_congr (h.sameButLine_proseContent hk) _
    | sandbox =>
        have hlines := congrArg (List.map (dedentUpTo b.span.indent)) h.lines
        rw [Block.lines, Block.lines, List.map_map, List.map_map] at hlines
        exact congrArg (fun ls => Except.ok (Cell.mk .sandbox ls)) hlines

/-- **Blocks that are alike make the same cell, or fail alike.** -/
theorem sameButLine_checkedCell (h : Alike s s' b b') :
    SameButLine (b.checkedCell s (physicalLines s)) (b'.checkedCell s' (physicalLines s')) := by
  unfold Block.checkedCell
  exact mapError_bind_congr h.sameButLine_cell fun c =>
    mapError_bind_congr (sameButLine_check c _ _) fun _ => rfl

end Block.Alike

/-! ## Readings -/

/-- The block of a find, if it is one. -/
def Find.block? : Find → Option Block
  | block b => some b
  | _ => none

variable {ns ns' s s' : Text} {t t' : Tree}

/-- The blocks that a walk over a script finds. -/
def blocksIn (ns s : Text) (t : Tree) : List Block := (finds ns s t).filterMap Find.block?

/-- A walk over a script ends without an error. -/
def WalkEnds (ns s : Text) (t : Tree) : Prop := ∀ f ∈ finds ns s t, f.isFailure = false

instance (ns s : Text) (t : Tree) : Decidable (WalkEnds ns s t) :=
  inferInstanceAs (Decidable (∀ _ ∈ _, _))

theorem WalkEnds.answers_eq (h : WalkEnds ns s t) :
    (finds ns s t).filterMap Find.answer? = (blocksIn ns s t).map .ok := by
  rw [blocksIn, List.map_filterMap]
  refine List.filterMap_congr fun f hf => ?_
  cases f with
  | failed e => exact absurd (h _ hf) (by simp [Find.isFailure])
  | discarded _ | block _ => rfl

/-- Reading takes the blocks up to the first that makes no cell. -/
theorem WalkEnds.answers_readTree (h : WalkEnds ns s t) :
    (readTree ns s t).answers =
      upTo (fun a => !a.isOk)
        ((blocksIn ns s t).map fun b => b.checkedCell s (physicalLines s)) := by
  rw [readTree, answers_readFinds, h.answers_eq, List.map_map]
  rfl

namespace Reading

/-- The cells, or the error that ended the reading. -/
def result (r : Reading) : Except CellError (List Cell) := r.error.elim (.ok r.cells) .error

theorem result_eq_ok_iff {r : Reading} {cs : List Cell} :
    r.result = .ok cs ↔ r.error = none ∧ r.cells = cs := by
  unfold result
  cases r.error <;> simp

theorem result_eq_error_iff {r : Reading} {e : CellError} :
    r.result = .error e ↔ r.error = some e := by
  unfold result
  cases r.error <;> simp

/-- The answers of a reading tell its cells and its error. -/
theorem eq_of_answers_eq {r r' : Reading} (h : r.answers = r'.answers) :
    r.cells = r'.cells ∧ r.error = r'.error := by
  cases he : r'.error with
  | none =>
      obtain ⟨herror, hcells⟩ :=
        answers_eq_map_ok_iff.1 (h.trans (answers_eq_map_ok_iff.2 ⟨he, rfl⟩))
      exact ⟨hcells, herror⟩
  | some e =>
      obtain ⟨herror, hcells⟩ :=
        answers_eq_append_error_iff.1 (h.trans (answers_eq_append_error_iff.2 ⟨he, rfl⟩))
      exact ⟨hcells, herror⟩

/-- A reading without the line of its error. -/
def unplaced (r : Reading) : Reading := { r with error := r.error.map CellError.unplaced }

theorem answers_unplaced (r : Reading) :
    r.unplaced.answers = r.answers.map (·.mapError CellError.unplaced) := by
  unfold unplaced Reading.answers
  cases r.error <;> simp [Except.mapError, Function.comp_def]

end Reading

/-- The cells of a script are what reading it with its own tree comes to. -/
theorem cells_eq_result (o : ReadOptions) (s : Text) :
    Script.cells o s = (readTree o.guardModule s (Tree.ofText s)).result := by
  rw [← read_eq_readTree]
  cases h : (Script.read o s).result with
  | ok cs => exact cells_eq_ok_iff.2 (Reading.result_eq_ok_iff.1 h)
  | error e => exact cells_eq_error_iff.2 (Reading.result_eq_error_iff.1 h)

/-- The error of a reading is that of the block after those that made its cells. -/
theorem WalkEnds.block_of_error (h : WalkEnds ns s t) {e : CellError}
    (he : (readTree ns s t).error = some e) :
    ∃ b, (blocksIn ns s t)[(readTree ns s t).cells.length]? = some b ∧
      b.checkedCell s (physicalLines s) = .error e := by
  have hanswers := h.answers_readTree
  rw [Reading.answers_eq_append_error_iff.2 ⟨he, rfl⟩] at hanswers
  obtain ⟨rest, hrest⟩ : (readTree ns s t).cells.map .ok ++ [.error e] <+:
      (blocksIn ns s t).map fun b => b.checkedCell s (physicalLines s) := by
    rw [hanswers]
    exact upTo_isPrefix _
  have hat := congrArg (fun l => l[(readTree ns s t).cells.length]?) hrest
  simp only [List.append_assoc, List.getElem?_map] at hat
  rw [List.getElem?_append_right (by simp)] at hat
  simpa using hat.symm

/-- Readings of blocks that are alike make the same cells, and their errors are the same but for
the line. -/
theorem readTree_alike (h : WalkEnds ns s t) (h' : WalkEnds ns' s' t')
    (halike : List.Forall₂ (Block.Alike s s') (blocksIn ns s t) (blocksIn ns' s' t')) :
    (readTree ns s t).cells = (readTree ns' s' t').cells ∧
      (readTree ns s t).error.map CellError.unplaced =
        (readTree ns' s' t').error.map CellError.unplaced := by
  have hcut : ∀ as : List (Except CellError Cell),
      (upTo (fun a => !a.isOk) as).map (·.mapError CellError.unplaced) =
        upTo (fun a => !a.isOk) (as.map (·.mapError CellError.unplaced)) := by
    intro as
    rw [← map_upTo]
    simp only [isOk_mapError]
  have hblocks : ((blocksIn ns s t).map fun b => b.checkedCell s (physicalLines s)).map
        (·.mapError CellError.unplaced) =
      ((blocksIn ns' s' t').map fun b => b.checkedCell s' (physicalLines s')).map
        (·.mapError CellError.unplaced) := by
    rw [List.map_map, List.map_map, ← List.forall₂_eq_eq_eq, List.forall₂_map_left_iff,
      List.forall₂_map_right_iff]
    exact halike.imp fun b b' hb => hb.sameButLine_checkedCell
  have hanswers : (readTree ns s t).unplaced.answers = (readTree ns' s' t').unplaced.answers := by
    rw [Reading.answers_unplaced, Reading.answers_unplaced, h.answers_readTree,
      h'.answers_readTree, hcut, hcut, hblocks]
  exact Reading.eq_of_answers_eq hanswers

/-- **Nothing outside the blocks of a script decides its cells.** If the walks over two scripts find
blocks that are alike one by one, whatever names their guards are called on and whatever else they
hold, then both give the same cells, or both fail at the same block, after the same cells, with
errors that differ in nothing but the line. So they become the same notebook, or none. -/
theorem outside_irrelevant (h : WalkEnds ns s t) (h' : WalkEnds ns' s' t')
    (halike : List.Forall₂ (Block.Alike s s') (blocksIn ns s t) (blocksIn ns' s' t')) :
    let r := readTree ns s t
    let r' := readTree ns' s' t'
    (∀ cs, r.result = .ok cs ↔ r'.result = .ok cs) ∧
    ((∃ e, r.result = .error e) ↔ ∃ e', r'.result = .error e') ∧
    (∀ e e', r.result = .error e → r'.result = .error e' →
      e.unplaced = e'.unplaced ∧ r.cells = r'.cells ∧
        ∃ b b', (blocksIn ns s t)[r.cells.length]? = some b ∧
          (blocksIn ns' s' t')[r.cells.length]? = some b' ∧
          b.checkedCell s (physicalLines s) = .error e ∧
          b'.checkedCell s' (physicalLines s') = .error e') ∧
    (∀ o d, Script.assemble o r = .ok d ↔ Script.assemble o r' = .ok d) ∧
    ∀ o script, Script.cells o script =
      (readTree o.guardModule script (Tree.ofText script)).result := by
  intro r r'
  obtain ⟨hcells, herror⟩ : r.cells = r'.cells ∧
      r.error.map CellError.unplaced = r'.error.map CellError.unplaced := readTree_alike h h' halike
  have hnone : r.error = none ↔ r'.error = none := by
    rw [← Option.map_eq_none_iff (f := CellError.unplaced), herror, Option.map_eq_none_iff]
  refine ⟨fun cs => ?_, ?_, fun e e' he he' => ?_, fun o d => ?_, cells_eq_result⟩
  · rw [Reading.result_eq_ok_iff, Reading.result_eq_ok_iff, hnone, hcells]
  · simp only [Reading.result_eq_error_iff, ← Option.isSome_iff_exists, Option.isSome_iff_ne_none]
    exact not_congr hnone
  · rw [Reading.result_eq_error_iff] at he he'
    obtain ⟨b, hb, hbe⟩ := h.block_of_error he
    obtain ⟨b', hb', hbe'⟩ := h'.block_of_error he'
    rw [he, he'] at herror
    refine ⟨Option.some.inj herror, hcells, b, b', hb, ?_, hbe, hbe'⟩
    rw [hcells]
    exact hb'
  · rw [assemble_eq_ok_iff, assemble_eq_ok_iff, hnone, hcells]

/-- A script of a code and a markdown cell. -/
def plainScript : Text :=
  "with herzog.Cell(\"python\"):\n    x = 1\n".toList ++
    "with herzog.Cell(\"markdown\"):\n    \"\"\"\n    Note\n    \"\"\"\n".toList

/-- The same cells with another name for the module, other code around them, and a guard over two
rows. -/
def editedScript : Text :=
  "import h\nwith h.Cell(\"python\"):\n    x = 1\n# done\ny = 2\n".toList ++
    "with h.Cell(\n  \"markdown\"):\n    \"\"\"\n    Note\n    \"\"\"\nprint(y)\n".toList

theorem outside_irrelevant_edited :
    (WalkEnds "herzog".toList plainScript (Tree.ofText plainScript) ∧
      WalkEnds ['h'] editedScript (Tree.ofText editedScript) ∧
      List.Forall₂ (Block.Alike plainScript editedScript)
        (blocksIn "herzog".toList plainScript (Tree.ofText plainScript))
        (blocksIn ['h'] editedScript (Tree.ofText editedScript))) ∧
      Script.cells ⟨['h']⟩ editedScript =
        .ok [⟨.executable, ["x = 1".toList]⟩, ⟨.prose, ["Note".toList]⟩] := by
  have h : WalkEnds "herzog".toList plainScript (Tree.ofText plainScript) ∧
      WalkEnds ['h'] editedScript (Tree.ofText editedScript) ∧
      List.Forall₂ (Block.Alike plainScript editedScript)
        (blocksIn "herzog".toList plainScript (Tree.ofText plainScript))
        (blocksIn ['h'] editedScript (Tree.ofText editedScript)) := by decide +kernel
  have hplain : Script.cells {} plainScript =
      .ok [⟨.executable, ["x = 1".toList]⟩, ⟨.prose, ["Note".toList]⟩] := by decide +kernel
  obtain ⟨hends, hends', halike⟩ := h
  obtain ⟨hok, -, -, -, hcells⟩ := outside_irrelevant hends hends' halike
  refine ⟨⟨hends, hends', halike⟩, ?_⟩
  -- the cells of the edited script are those of the plain one
  rw [hcells] at hplain ⊢
  exact (hok _).1 hplain

end CellScript
