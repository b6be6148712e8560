import CellScript.Cell.Check
import CellScript.Proofs.Block.Shallow
import CellScript.Proofs.Block.Walk

set_option autoImplicit false

/-! # Errors name a line

Whatever goes wrong between the syntax tree of a script and its cells is said of a line: a block
that cannot be located (`Block.isRefusal_of_ofStatement?`, `exists_row_of_errorOf?`), content that
cannot be taken from it (`Block.line?_of_cell`), code that is refused (`Cell.eq_of_check`). The one
error without a line, of a kind that is not known on the other side, is none of these. -/

namespace CellScript

open Python

variable {ns source : Text} {e : CellError}

/-! ## Locating -/

/-- An error that a statement is refused with as a block: its kind, or its form. -/
inductive CellError.IsRefusal (line : Nat) : CellError → Prop where
  | unknownKind (literal : Text) : IsRefusal line (.unknownKind literal line)
  | malformed (why : Malformation) : IsRefusal line (.malformed why line)

theorem CellError.IsRefusal.line?_eq {line : Nat} (h : e.IsRefusal line) : e.line? = some line := by
  cases h <;> rfl

theorem CellKind.isRefusal_of_ofCall {line : Nat} {call : Tree}
    (h : CellKind.ofCall source line call = .error e) : e.IsRefusal line := by
  unfold CellKind.ofCall at h
  split at h
  · split at h
    · split at h
      · split at h
        · dsimp only [bind, Except.bind] at h
          split at h
          · cases h
          · cases h
            exact .unknownKind _
        · cases h
          exact .unknownKind _
      · cases h
        exact .unknownKind _
    · dsimp only [bind, Except.bind] at h
      split at h
      · cases h
      · cases h
        exact .unknownKind _
  · cases h
    exact .malformed _

theorem Guard.isRefusal_of_kind {line : Nat} {g : Guard} (h : g.kind source line = .error e) :
    e.IsRefusal line := by
  cases g with
  | sandbox => cases h
  | cell call => exact CellKind.isRefusal_of_ofCall h

/-- A statement is refused as a block on the line of its opener. -/
theorem Block.isRefusal_of_ofStatement? {t : Tree} {after : List Tree}
    (h : Block.ofStatement? ns source t after = .error e) : e.IsRefusal (t.start.row + 1) := by
  cases hg : Guard.ofStatement? ns source t with
  | none =>
      rw [Block.ofStatement?_eq_none_iff.2 hg] at h
      cases h
  | some g =>
      rw [Block.ofStatement?_of_guard hg] at h
      rcases bind_eq_error.1 h with h | ⟨kind, -, h⟩
      · exact Guard.isRefusal_of_kind h
      · split at h
        · cases h
          exact .malformed _
        · split at h
          · cases h
            exact .malformed _
          · split at h
            · cases h
              exact .malformed _
            · cases h

/-- Text that fits nowhere is refused on the line of the first guard in it. -/
theorem exists_row_of_errorOf? {t : Tree} (h : errorOf? ns source t = some e) :
    ∃ row, (guardRow? ns source t <|> guardTextRow? ns source t) = some row ∧
      (e = .malformed .noContent (row + 1) ∨ e = .invalidCode .inBlock (row + 1)) := by
  obtain ⟨row, hrow, rfl⟩ := Option.map_eq_some_iff.1 h
  refine ⟨row, hrow, ?_⟩
  dsimp only
  split
  · exact .inl rfl
  · exact .inr rfl

/-- The failure of a visit names a line. -/
theorem Visit.line?_of_meet {v : Visit} (h : (v.meet ns source).1 = some (.failed e)) :
    e.line?.isSome := by
  cases v.outcome ns source with
  | failedText e' _ herr hm =>
      rw [hm] at h
      cases h
      obtain ⟨row, -, rfl | rfl⟩ := exists_row_of_errorOf? herr <;> rfl
  | failedBlock e' _ hs hm =>
      rw [hm] at h
      cases h
      rw [(Block.isRefusal_of_ofStatement? hs).line?_eq]
      rfl
  | discarded _ _ hm | block _ _ _ hm | below _ _ hm =>
      rw [hm] at h
      cases h

/-- What a walk finds is what it meets somewhere in the tree. -/
theorem exists_visit_of_mem_finds {t : Tree} {f : Find} (h : f ∈ finds ns source t) :
    ∃ p v, Visit.at? ⟨t, []⟩ p = some v ∧ (v.meet ns source).1 = some f := by
  rw [finds_eq_map_reportsMet, List.mem_map] at h
  obtain ⟨⟨p, f⟩, hr, rfl⟩ := h
  have hr : (p, f) ∈ Visit.reports ns source ⟨t, []⟩ := mem_reports_of_met hr
  exact ⟨p, Visit.meet_of_mem_reports hr⟩

/-- The failure of a walk names a line. -/
theorem line?_of_mem_finds {t : Tree} (h : .failed e ∈ finds ns source t) : e.line?.isSome := by
  obtain ⟨p, v, -, hm⟩ := exists_visit_of_mem_finds h
  exact Visit.line?_of_meet hm

/-! ## Extracting -/

theorem Block.line?_of_cell {lines : List Text} {b : Block}
    (h : b.cell source lines = .error e) : e.line?.isSome := by
  cases Block.cell_eq_error_iff.1 h <;> rfl

/-! ## Checking -/

/-- Code is refused on the line of its block. -/
theorem Cell.eq_of_check {c : Cell} {line : Nat} (h : c.check line = .error e) :
    ∃ flaw, e = .invalidCode flaw line := by
  unfold Cell.check at h
  split at h
  · cases h
  · split at h
    · rename_i flaw _
      cases h
      exact ⟨flaw, rfl⟩
    · cases h

end CellScript
