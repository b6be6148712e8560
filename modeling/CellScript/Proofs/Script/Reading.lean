import CellScript.Convert.Assemble
import CellScript.Proofs.Block.Walk

set_option autoImplicit false

/-! # What reading a script comes to

Reading goes by the answers of the walk: each gives a cell or an error, and reading goes up to the
first error, `answers_readFinds`. A failure of the walk is an answer like the blocks, so an error
anywhere leaves no notebook, `toNotebook_eq_ok_iff`. -/

namespace CellScript

/-- What a walk answers for a script. -/
def Script.answers (m source : Text) : List (Except CellError Block) :=
  (Script.findings m source).filterMap Find.answer?

theorem checkedCell_eq_ok_iff {source : Text} {lines : List Text} {b : Block} {c : Cell} :
    b.checkedCell source lines = .ok c ↔
      b.cell source lines = .ok c ∧ c.check b.span.line = .ok () := by
  rw [Block.checkedCell, bind_eq_ok]
  constructor
  · rintro ⟨c', hc, h⟩
    obtain ⟨u, hcheck, h⟩ := bind_eq_ok.1 h
    obtain rfl := Except.ok.inj h
    exact ⟨hc, hcheck⟩
  · rintro ⟨hc, hcheck⟩
    exact ⟨c, hc, bind_eq_ok.2 ⟨(), hcheck, rfl⟩⟩

theorem checkedCell_eq_error_iff {source : Text} {lines : List Text} {b : Block} {e : CellError} :
    b.checkedCell source lines = .error e ↔
      b.cell source lines = .error e ∨
        ∃ c, b.cell source lines = .ok c ∧ c.check b.span.line = .error e := by
  rw [Block.checkedCell, bind_eq_error]
  refine or_congr_right (exists_congr fun c => and_congr_right fun _ => ?_)
  rw [bind_eq_error]
  constructor
  · rintro (h | ⟨u, -, h⟩)
    · exact h
    · cases h
  · exact .inl

/-! ## The answers of a reading -/

/-- What a reading gives one after another: its cells, then the error that ended it. -/
def Reading.answers (r : Reading) : List (Except CellError Cell) :=
  r.cells.map .ok ++ r.error.toList.map .error

/-- Reading goes through the answers of the walk up to the first that gives no cell. -/
theorem answers_readFinds {source : Text} (fs : List Find) :
    (readFinds source (Text.physicalLines source) fs).answers =
      upTo (fun a => !a.isOk) ((fs.filterMap Find.answer?).map (answerCell source)) := by
  induction fs with
  | nil => rfl
  | cons f fs ih =>
      cases f with
      | discarded line => exact ih
      | failed e => rfl
      | block b =>
          have hanswer : answerCell source (.ok b) =
              b.checkedCell source (Text.physicalLines source) := rfl
          rw [List.filterMap_cons_some (by rfl : Find.answer? (.block b) = some (.ok b)),
            List.map_cons, upTo, hanswer, ← ih, readFinds]
          cases b.checkedCell source (Text.physicalLines source) with
          | error e => rfl
          | ok c => rfl

theorem upTo_map_ok {ε α : Type} (cs : List α) :
    upTo (fun a : Except ε α => !a.isOk) (cs.map .ok) = cs.map .ok := by
  refine upTo_eq_self fun a ha => ?_
  obtain ⟨c, -, rfl⟩ := List.mem_map.1 ha
  rfl

theorem upTo_first_error {ε α : Type} (cs : List α) (e : ε) (after : List (Except ε α)) :
    upTo (fun a : Except ε α => !a.isOk) (cs.map .ok ++ .error e :: after) =
      cs.map .ok ++ [.error e] := by
  refine upTo_append_cons (fun a ha => ?_) rfl
  obtain ⟨c, -, rfl⟩ := List.mem_map.1 ha
  rfl

namespace Reading

variable {r : Reading} {cs : List Cell} {e : CellError}

theorem answers_eq_map_ok_iff : r.answers = cs.map .ok ↔ r.error = none ∧ r.cells = cs := by
  obtain ⟨cells, error, events⟩ := r
  cases error with
  | none =>
      have hanswers : (Reading.mk cells none events).answers = cells.map .ok := List.append_nil _
      rw [hanswers, map_ok_injective.eq_iff]
      simp
  | some e =>
      refine ⟨fun h => absurd h.symm map_ok_ne_append_error, fun h => ?_⟩
      cases h.1

theorem answers_eq_append_error_iff :
    r.answers = cs.map .ok ++ [.error e] ↔ r.error = some e ∧ r.cells = cs := by
  obtain ⟨cells, error, events⟩ := r
  cases error with
  | none =>
      have hanswers : (Reading.mk cells none events).answers = cells.map .ok := List.append_nil _
      rw [hanswers]
      refine ⟨fun h => absurd h map_ok_ne_append_error, fun h => ?_⟩
      cases h.1
  | some e' =>
      constructor
      · intro h
        obtain ⟨hcells, herror⟩ := List.append_inj' h rfl
        obtain rfl := Except.error.inj (List.cons.inj herror).1
        exact ⟨rfl, map_ok_injective hcells⟩
      · rintro ⟨herror, rfl⟩
        cases herror
        rfl

end Reading

theorem readFinds_eq_iff {source : Text} {fs : List Find} {cs : List Cell} :
    (readFinds source (Text.physicalLines source) fs).error = none ∧
        (readFinds source (Text.physicalLines source) fs).cells = cs ↔
      List.Forall₂ (fun a c => answerCell source a = .ok c) (fs.filterMap Find.answer?) cs := by
  have hforall : List.Forall₂ (fun a c => answerCell source a = .ok c)
      (fs.filterMap Find.answer?) cs ↔
        (fs.filterMap Find.answer?).map (answerCell source) = cs.map .ok := by
    rw [← List.forall₂_eq_eq_eq, List.forall₂_map_left_iff, List.forall₂_map_right_iff]
  rw [hforall, ← Reading.answers_eq_map_ok_iff, answers_readFinds]
  rcases ok_or_first_error ((fs.filterMap Find.answer?).map (answerCell source)) with
    ⟨cs', h⟩ | ⟨cs', e, after, h⟩
  · rw [h, upTo_map_ok]
  · rw [h, upTo_first_error]
    exact ⟨fun hc => absurd hc.symm map_ok_ne_append_error,
      fun hc => absurd hc.symm map_ok_ne_append_error⟩

/-- A script becomes a notebook if every answer gives a cell; the notebook has those that a notebook
can hold. -/
theorem toNotebook_eq_ok_iff {o : NotebookOptions} {s : Text} {d : Notebook} :
    Script.toNotebook o s = .ok d ↔
      ∃ cs ncs,
        List.Forall₂ (fun a c => answerCell s a = .ok c)
          (Script.answers o.read.guardModule s) cs ∧
        List.Forall₂ (fun c nc => c.toNotebook o.lineEnding = .ok nc)
          (cs.filter Cell.isRepresentable) ncs ∧
        d = .ofCells ncs o.template := by
  have hread : ∀ cs, (Script.read o.read s).error = none ∧ (Script.read o.read s).cells = cs ↔
      List.Forall₂ (fun a c => answerCell s a = .ok c)
        (Script.answers o.read.guardModule s) cs := fun cs => readFinds_eq_iff
  rw [Script.toNotebook, Script.assemble]
  constructor
  · intro h
    split at h
    · cases h
    · rename_i herr
      split at h
      · cases h
      · rename_i ncs hshapes
        exact ⟨_, ncs, (hread _).1 ⟨herr, rfl⟩, mapM_eq_ok.1 hshapes, (Except.ok.inj h).symm⟩
  · rintro ⟨cs, ncs, hcs, hncs, rfl⟩
    obtain ⟨herr, rfl⟩ := (hread cs).2 hcs
    have hshapes : Script.shapes o (Script.read o.read s).cells = .ok ncs := mapM_eq_ok.2 hncs
    rw [herr]
    dsimp only
    rw [hshapes]

end CellScript
