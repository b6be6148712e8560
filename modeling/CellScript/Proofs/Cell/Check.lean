import CellScript.Cell.Check
import CellScript.Proofs.Cell.Escape
import CellScript.Proofs.Text.Rows
import CellScript.Script.Write

set_option autoImplicit false

/-! # What the check of code looks at

The check parses a text of its own: that of the cell, with every line that begins like one the
notebook runs itself put into a comment. `Cell.check_code` says what that text is and when it is
accepted. The lines of a written block are the same. A line is judged by its first character, also
where it continues an expression, so valid code can be refused: `continued_line_refused`. -/

namespace CellScript

open Python

/-! ## Valid code -/

/-- Code is valid: its tree is not damaged, and no statement is refused where it stands. -/
structure IsValid (code : Text) : Prop where
  undamaged : (Tree.ofText code).label.damaged = false
  placed : firstMisplaced? .top (Tree.ofText code) = none

instance (code : Text) : Decidable (IsValid code) :=
  decidable_of_iff
    ((Tree.ofText code).label.damaged = false ∧ firstMisplaced? .top (Tree.ofText code) = none)
    ⟨fun ⟨undamaged, placed⟩ => ⟨undamaged, placed⟩, fun h => ⟨h.undamaged, h.placed⟩⟩

theorem flawIn?_eq_none_iff {code : Text} :
    flawIn? code (Tree.ofText code) = none ↔ IsValid code := by
  unfold flawIn?
  cases hd : (Tree.ofText code).label.damaged with
  | true =>
      refine ⟨fun h => by simp at h, fun h => ?_⟩
      rw [h.undamaged] at hd
      cases hd
  | false =>
      simp only [Bool.false_eq_true, if_false, Option.map_eq_none_iff]
      exact ⟨fun h => ⟨hd, h⟩, fun h => h.placed⟩

theorem check_of_executable {c : Cell} (h : c.kind = .executable) (line : Nat) :
    (c.check line = .ok () ↔ IsValid c.code) ∧
      (¬ IsValid c.code → ∃ flaw, c.check line = .error (.invalidCode flaw line)) := by
  rw [← flawIn?_eq_none_iff, Cell.check, if_neg (by simp [h])]
  generalize flawIn? c.code (Tree.ofText c.code) = flaw?
  cases flaw? with
  | none => simp
  | some flaw => simp

/-! ## The lines of the checked text -/

/-- A line begins like one that the notebook runs itself. -/
def IsMagic (t : Text) : Prop := t.head? = some '!' ∨ t.head? = some '%'

instance (t : Text) : Decidable (IsMagic t) := inferInstanceAs (Decidable (_ ∨ _))

theorem escapeLine_of_isMagic {t : Text} (h : IsMagic t) : escapeLine t = '#' :: t := by
  cases t with
  | nil => rcases h with h | h <;> cases h
  | cons c u => rcases h with h | h <;> (obtain rfl := Option.some.inj h; rfl)

theorem escapeLine_of_not_isMagic {t : Text} (h : ¬ IsMagic t) : escapeLine t = t := by
  rcases escapeLine_cases t with ht | ⟨c, u, rfl, rfl | rfl, -⟩
  · exact ht
  · exact absurd (.inl rfl) h
  · exact absurd (.inr rfl) h

theorem length_joinWith_map_escapeLine (content : List Text) :
    (Text.joinWith ['\n'] (content.map escapeLine)).length =
      (Text.joinWith ['\n'] content).length + content.countP (IsMagic ·) := by
  induction content with
  | nil => rfl
  | cons t rest ih =>
      have hline : (escapeLine t).length = t.length + if IsMagic t then 1 else 0 := by
        split
        · rw [escapeLine_of_isMagic ‹_›]
          rfl
        · rw [escapeLine_of_not_isMagic ‹_›]
          rfl
      rw [List.countP_cons]
      cases rest with
      | nil => simpa [Text.joinWith] using hline
      | cons u us =>
          simp only [List.map_cons, Text.joinWith, List.length_append] at ih ⊢
          rw [hline]
          simp only [decide_eq_true_eq]
          omega

/-- The checked text is that of the cell exactly if no line is put into a comment. -/
theorem joinWith_map_escapeLine_eq_iff {content : List Text} :
    Text.joinWith ['\n'] (content.map escapeLine) = Text.joinWith ['\n'] content ↔
      ∀ t ∈ content, ¬ IsMagic t := by
  constructor
  · -- a line that is put into a comment makes the text longer
    intro h t ht hmagic
    have hlength := congrArg List.length h
    rw [length_joinWith_map_escapeLine] at hlength
    have hcount : content.countP (IsMagic ·) = 0 := by omega
    exact List.countP_eq_zero.1 hcount t ht (by simpa using hmagic)
  · intro h
    rw [List.map_congr_left fun t ht => escapeLine_of_not_isMagic (h t ht), List.map_id']

theorem bodyLines_of_executable (content : List Text) :
    ∃ added, Cell.bodyLines ⟨.executable, content⟩ = content.map escapeLine ++ added ∧
      (added = [] ∨ added = [placeholder]) := by
  unfold Cell.bodyLines codeBody
  dsimp only
  split
  · exact ⟨[], (List.append_nil _).symm, .inl rfl⟩
  · exact ⟨[placeholder], rfl, .inr rfl⟩

/-- **Code is accepted exactly if it is valid with its lines that begin like those a notebook runs
itself put into comments, and is refused with a flaw if it is not.** Of the code that is valid as it
stands only such with a line of that kind can be refused. A block is written with the same lines. -/
theorem Cell.check_code (content : List Text) (line : Nat) (h : ∀ t ∈ content, '\n' ∉ t) :
    let c : Cell := ⟨.executable, content⟩
    (c.check line = .ok () ↔ IsValid c.code) ∧
    (¬ IsValid c.code → ∃ flaw, c.check line = .error (.invalidCode flaw line)) ∧
    (content ≠ [] → Text.rows c.code = content.map fun t => if IsMagic t then '#' :: t else t) ∧
    (c.code = Text.joinWith ['\n'] content ↔ ∀ t ∈ content, ¬ IsMagic t) ∧
    (IsValid (Text.joinWith ['\n'] content) → c.check line ≠ .ok () →
      ∃ t ∈ content, IsMagic t) ∧
    ∃ added, c.bodyLines = (content.map fun t => if IsMagic t then '#' :: t else t) ++ added ∧
      (added = [] ∨ added = [placeholder]) := by
  intro c
  have hescape : (fun t => if IsMagic t then '#' :: t else t) = escapeLine := by
    funext t
    split
    · exact (escapeLine_of_isMagic ‹_›).symm
    · exact (escapeLine_of_not_isMagic ‹_›).symm
  rw [hescape]
  obtain ⟨hok, herror⟩ := check_of_executable (c := c) rfl line
  refine ⟨hok, herror, fun hne => ?_, joinWith_map_escapeLine_eq_iff, fun hvalid hcheck => ?_,
    bodyLines_of_executable content⟩
  · refine Text.rows_joinWith_of_not_mem (by simpa using hne) fun t ht => ?_
    obtain ⟨u, hu, rfl⟩ := List.mem_map.1 ht
    rw [mem_escapeLine (by decide)]
    exact h u hu
  · by_contra hnone
    have hplain : c.code = Text.joinWith ['\n'] content :=
      joinWith_map_escapeLine_eq_iff.2 fun t ht hmagic => hnone ⟨t, ht, hmagic⟩
    exact hcheck (hok.2 (hplain ▸ hvalid))

mutual

/-- Whether no node of a tree is text that fits nowhere or a token that is not in the text. -/
def Python.Tree.intact : Tree → Bool
  | .node l cs => l.kind != .error && !l.missing && intactAll cs

/-- Whether all of some trees are intact. -/
def Python.Tree.intactAll : List Tree → Bool
  | [] => true
  | t :: ts => t.intact && intactAll ts

end

/-- An expression over two lines, the second of which begins with an operator. -/
def continued : List Text := ["x = (10".toList, "% 3)".toList]

theorem check_code_continued :
    (∀ t ∈ continued, '\n' ∉ t) ∧
      Text.rows (Cell.code ⟨.executable, continued⟩) = ["x = (10".toList, "#% 3)".toList] :=
  ⟨by decide +kernel,
    ((Cell.check_code continued 1 (by decide +kernel)).2.2.1 (by decide +kernel)).trans
      (by decide +kernel)⟩

/-- The expression is valid, but it is refused, and a block that is written for it is damaged. -/
theorem continued_line_refused :
    (∀ t ∈ continued, '\n' ∉ t) ∧
      IsValid (Text.joinWith ['\n'] continued) ∧
      (Tree.ofText (Text.joinWith ['\n'] continued)).intact = true ∧
      (∀ line, (⟨.executable, continued⟩ : Cell).check line ≠ .ok ()) ∧
      (Tree.ofText (Cell.chunk {} ⟨.executable, continued⟩)).intact = false := by
  refine ⟨by decide +kernel, by decide +kernel, by decide +kernel, fun line h => ?_,
    by decide +kernel⟩
  have hvalid : ¬ IsValid (Cell.code ⟨.executable, continued⟩) := by decide +kernel
  exact hvalid ((check_of_executable rfl line).1.1 h)

end CellScript
