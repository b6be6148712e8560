import CellScript.Proofs.Block.Twins
import CellScript.Proofs.Python.OfText
import CellScript.Proofs.Script.Assembly
import CellScript.Proofs.Script.ErrorPlace

set_option autoImplicit false

/-! # Scripts with long line ends

A script gives the same cells whether its lines end in line feeds or in carriage returns and line
feeds, as long as the parser sees the same shape: `Script.cells_crlf`. Blocks that go together make
the same cell, whether from the lines of the script or from the text of a literal,
`Block.Twins.cell_eq`. A name that holds a long line end itself is another matter: it can stand in
the one script and not in the other, `Script.cells_crlf_fails`. -/

namespace CellScript

open Python Text

variable {ns s : Text}

/-! ## The cells of twins -/

theorem rel_proseLiteral? {body body' : Tree} (h : body.Twins s body') :
    Option.Rel (Tree.Twins s) (proseLiteral? body) (proseLiteral? body') := by
  unfold proseLiteral?
  have hphrases := h.phrases
  generalize body.phrases = statements, body'.phrases = statements' at hphrases
  cases hphrases with
  | nil => exact .none
  | @cons statement statement' _ _ hstatement hrest =>
      cases hrest with
      | cons _ _ => exact .none
      | nil =>
          have hvalues := hstatement.phrases
          dsimp only
          rw [hstatement.kind_eq]
          generalize statement.phrases = values, statement'.phrases = values' at hvalues
          cases hvalues with
          | nil => exact .none
          | cons hvalue hrest =>
              cases hrest with
              | cons _ _ => exact .none
              | nil =>
                  dsimp only
                  rw [hvalue.kind_eq]
                  split
                  · exact .some hvalue
                  · exact .none

namespace Block.Twins

variable {b b' : Block}

/-- A literal has the same lines with either line ends. -/
theorem proseContent_eq (hs : '\r' ∉ s) (h : b.Twins s b') :
    proseContent (crlf s) b' = proseContent s b := by
  have hliteral := rel_proseLiteral? h.body
  rw [proseContent, proseContent, ← h.span]
  generalize proseLiteral? b.body = literal, proseLiteral? b'.body = literal' at hliteral
  cases hliteral with
  | none => rfl
  | @some literal literal' hliteral =>
      have hrow : literal.start.row = literal'.start.row := hliteral.label.start.row
      dsimp only
      rw [hliteral.text_eq, physicalLines_crlf (Tree.not_mem_text hs literal), hrow]

/-- **Blocks that go together make the same cell.** -/
theorem cell_eq (hs : '\r' ∉ s) (h : b.Twins s b') :
    b'.cell (crlf s) (physicalLines (crlf s)) = b.cell s (physicalLines s) := by
  rw [Block.cell, Block.cell, ← h.kind, ← h.span, h.proseContent_eq hs, physicalLines_crlf hs]

theorem checkedCell_eq (hs : '\r' ∉ s) (h : b.Twins s b') :
    b'.checkedCell (crlf s) (physicalLines (crlf s)) = b.checkedCell s (physicalLines s) := by
  rw [Block.checkedCell, Block.checkedCell, h.cell_eq hs, h.span]

end Block.Twins

/-! ## Reading -/

theorem readFinds_eq (hs : '\r' ∉ s) {fs fs' : List Find}
    (h : List.Forall₂ (Find.Twins s) fs fs') :
    readFinds (crlf s) (physicalLines (crlf s)) fs' = readFinds s (physicalLines s) fs := by
  induction h with
  | nil => rfl
  | cons hf _ ih =>
      cases hf with
      | discarded line => rw [readFinds, readFinds, ih]
      | block hb => rw [readFinds, readFinds, hb.checkedCell_eq hs, hb.kind, hb.span, ih]

/-- A script that reads well reads the same with long line ends. -/
theorem readTree_eq {t u : Tree} (hs : '\r' ∉ s) (hns : ¬ longEnd <:+: ns)
    (h : t.Twins s u) (herror : (readTree ns s t).error = none) :
    readTree ns (crlf s) u = readTree ns s t := by
  refine readFinds_eq hs (rel_finds hs hns h fun f hf => ?_)
  -- a failure would have ended the reading
  rw [readTree, error_readFinds] at herror
  have hfailure := List.findSome?_eq_none_iff.1 herror f hf
  cases f with
  | failed e => cases hfailure
  | discarded _ | block _ => rfl

/-- **The line ends of a script do not matter.** If the parser sees the same shape in a script and
in the script with long line ends, a script that reads well gives the same cells with them: code,
prose and sandboxes, whether their lines are cut from the script or from the text of a literal. Only
the name that guards are called on must not hold a long line end itself. -/
theorem Script.cells_crlf (o : ReadOptions) (s : Text) (cells : List Cell) (hs : '\r' ∉ s)
    (hns : ¬ longEnd <:+: o.guardModule)
    (hshape : (Tree.ofText s).SameShape (Tree.ofText (crlf s)))
    (h : Script.cells o s = .ok cells) : Script.cells o (crlf s) = .ok cells := by
  have htwins := Tree.Twins.mk hshape (Tree.ends_ofText s) (Tree.ends_ofText (crlf s))
    (Tree.namesInRow_ofText s)
  rw [cells_eq_ok_iff, read_eq_readTree] at h ⊢
  rw [readTree_eq hs hns htwins h.1]
  exact h

/-- A script with a cell of each kind, of which the prose is a literal over several rows. -/
def mixedScript : Text :=
  "import herzog\nwith herzog.Cell(\"python\"):\n    if x:\n\n        y\n".toList ++
    "with herzog.Cell(cell_type=\"markdown\"):\n    \"\"\"\n    One\n\n".toList ++
    "      two\n    \"\"\"\n".toList ++
    "with herzog.Sandbox():\n    z\n".toList

theorem Script.cells_crlf_mixedScript :
    Script.cells {} (crlf mixedScript) =
      .ok [⟨.executable, ["if x:".toList, [], "    y".toList]⟩,
        ⟨.prose, ["One".toList, [], "  two".toList]⟩, ⟨.sandbox, [['z']]⟩] :=
  Script.cells_crlf {} mixedScript _ (by decide +kernel) (by decide +kernel)
    (by decide +kernel) (by decide +kernel)

/-- A name with a long line end. -/
def brokenName : ReadOptions := ⟨"a\r\nb".toList⟩

/-- A script that looks like a guard of that name once its line ends are long. -/
def brokenGuard : Text := "(a\nb.Cell(\n".toList

/-- With a long line end in the name a script without cells is refused once its line ends are
long. -/
theorem Script.cells_crlf_fails :
    '\r' ∉ brokenGuard ∧ (Tree.ofText brokenGuard).SameShape (Tree.ofText (crlf brokenGuard)) ∧
      Script.cells brokenName brokenGuard = .ok [] ∧
      Script.cells brokenName (crlf brokenGuard) = .error (.invalidCode .inBlock 1) := by
  decide +kernel

end CellScript
