import Mathlib.Data.Option.Basic
import CellScript.Notebook.Shape
import CellScript.Proofs.Json.Value

set_option autoImplicit false

/-! # Cells as values

What a value has to be to be a code cell, a markdown cell or a cell of another type
(`codeOf?_eq_some`, `markdownOf?_eq_some`, `otherOf?_eq_some`), in terms of its fields: those of an
object, or the elements of a list under the names of the fields. -/

namespace CellScript

open Json

variable {v : Value} {fs : List (Text × Value)}

/-! ## Fields -/

/-- Whether a value names a type, by its name or its number. -/
def NamesType (name : Text) (number : Int) : Value → Prop
  | .str t => t = name
  | .int n => n = number
  | _ => False

theorem fieldOr_eq_some {α : Type} {default a : α} {read? : Value → Option α} {k : Text} :
    fieldOr default read? k fs = some a ↔
      (Table.get? k fs = none ∧ default = a) ∨ ∃ v, Table.get? k fs = some v ∧ read? v = some a := by
  rw [fieldOr]
  cases Table.get? k fs with
  | none => simp
  | some v => simp

/-- Whether no field with one of some names is repeated. -/
def NoneRepeated (names : List Text) (fs : List (Text × Value)) : Prop :=
  ∀ k ∈ names, (fs.filter fun f => f.1 = k).length ≤ 1

/-- The fields of a cell are those of an object, none of the names repeated, or the elements of a
list that is no longer than the names. -/
theorem cellFields?_eq_some {names : List Text} :
    cellFields? names v = some fs ↔ (v = .obj fs ∧ NoneRepeated names fs) ∨
      ∃ vs, v = .arr vs ∧ vs.length ≤ names.length ∧ fs = names.zip vs := by
  cases v with
  | obj gs =>
      rw [cellFields?]
      constructor
      · intro h
        split at h
        · rename_i hall
          obtain rfl := Option.some.inj h
          exact .inl ⟨rfl, by simpa [NoneRepeated] using hall⟩
        · cases h
      · rintro (⟨h, hall⟩ | ⟨vs, h, -⟩)
        · obtain rfl := Value.obj.inj h
          rw [if_pos (by simpa [NoneRepeated] using hall)]
        · cases h
  | arr vs =>
      rw [cellFields?]
      constructor
      · intro h
        split at h
        · exact .inr ⟨vs, rfl, ‹_›, (Option.some.inj h).symm⟩
        · cases h
      · rintro (⟨h, -⟩ | ⟨vs', h, hle, rfl⟩)
        · cases h
        · obtain rfl := Value.arr.inj h
          rw [if_pos hle]
  | _ => simp [cellFields?]

/-! ## Lists in the place of objects -/

theorem zip_append_of_length_le {α β : Type} {as : List α} {cs : List β} (bs : List α)
    (h : cs.length ≤ as.length) : (as ++ bs).zip cs = as.zip cs := by
  induction as generalizing cs with
  | nil =>
      obtain rfl := List.length_eq_zero_iff.1 (Nat.le_zero.1 h)
      rw [List.zip_nil_right, List.zip_nil_right]
  | cons a as ih =>
      cases cs with
      | nil => rfl
      | cons c cs =>
          rw [List.cons_append, List.zip_cons_cons, List.zip_cons_cons,
            ih (Nat.le_of_succ_le_succ h)]

theorem codeFields_eq : codeFields = plainFields ++ [countField, outputsField] := rfl

theorem get?_zip_of_not_mem {k : Text} {names : List Text} (h : k ∉ names) (vs : List Value) :
    Table.get? k (names.zip vs) = none := by
  induction names generalizing vs with
  | nil => rfl
  | cons name names ih =>
      rw [List.mem_cons, not_or] at h
      cases vs with
      | nil => rfl
      | cons v vs => rw [List.zip_cons_cons, Table.get?, if_neg h.1, ih h.2]

/-- An element with the fields of a cell of any type has them as a code cell too, unless one of those
that only code cells have is repeated. -/
theorem cellFields?_code (h : cellFields? plainFields v = some fs) :
    cellFields? codeFields v = some fs ∨ v = .obj fs ∧ cellFields? codeFields v = none ∧
      ¬ NoneRepeated [countField, outputsField] fs := by
  rcases cellFields?_eq_some.1 h with ⟨rfl, hplain⟩ | ⟨vs, rfl, hlength, rfl⟩
  · by_cases hrun : NoneRepeated [countField, outputsField] fs
    · refine .inl (cellFields?_eq_some.2 (.inl ⟨rfl, ?_⟩))
      rw [codeFields_eq]
      exact List.forall_mem_append.2 ⟨hplain, hrun⟩
    · refine .inr ⟨rfl, ?_, hrun⟩
      rw [Option.eq_none_iff_forall_ne_some]
      intro gs hgs
      rcases cellFields?_eq_some.1 hgs with ⟨heq, hall⟩ | ⟨vs, heq, -⟩
      · obtain rfl := Value.obj.inj heq
        rw [codeFields_eq] at hall
        exact hrun (List.forall_mem_append.1 hall).2
      · cases heq
  · refine .inl (cellFields?_eq_some.2 (.inr ⟨vs, rfl, hlength.trans (by decide), ?_⟩))
    rw [codeFields_eq, zip_append_of_length_le _ hlength]

/-! ## Cells -/

theorem exists_guard_and {p q : Prop} [Decidable p] :
    (∃ u, (guard p : Option Unit) = some u ∧ q) ↔ p ∧ q := by
  by_cases hp : p
  · rw [guard, if_pos hp]
    exact ⟨fun ⟨_, _, hq⟩ => ⟨hp, hq⟩, fun ⟨_, hq⟩ => ⟨(), rfl, hq⟩⟩
  · rw [guard, if_neg hp]
    exact ⟨fun ⟨_, h, _⟩ => (nomatch h), fun h => absurd h.1 hp⟩

theorem pure_eq_some {α : Type} {a b : α} : (pure a : Option α) = some b ↔ a = b :=
  Option.some_inj

namespace NotebookCell

variable {c : NotebookCell}

theorem codeOf?_eq_some :
    codeOf? v = some c ↔ ∃ fs, cellFields? codeFields v = some fs ∧
      ∃ tag, Table.get? typeField fs = some tag ∧ NamesType "code".toList 0 tag ∧
      ∃ m, metadataIn? fs = some m ∧ ∃ s, sourceIn? fs = some s ∧
      ∃ n, fieldOr none count? countField fs = some n ∧
      ∃ o, fieldOr [] outputs? outputsField fs = some o ∧ code m s n o = c := by
  simp only [codeOf?, Option.bind_eq_bind, Option.bind_eq_some_iff]
  refine exists_congr fun fs => and_congr_right fun _ => exists_congr fun tag =>
    and_congr_right fun _ => ?_
  cases tag with
  | str t => simp only [NamesType, Option.bind_eq_some_iff, pure_eq_some, exists_guard_and]
  | int n => simp only [NamesType, Option.bind_eq_some_iff, pure_eq_some, exists_guard_and]
  | _ => simp [NamesType]

theorem markdownOf?_eq_some :
    markdownOf? v = some c ↔ ∃ fs, cellFields? plainFields v = some fs ∧
      ∃ tag, Table.get? typeField fs = some tag ∧ NamesType "markdown".toList 1 tag ∧
      ∃ m, metadataIn? fs = some m ∧ ∃ s, sourceIn? fs = some s ∧ markdown m s = c := by
  simp only [markdownOf?, Option.bind_eq_bind, Option.bind_eq_some_iff]
  refine exists_congr fun fs => and_congr_right fun _ => exists_congr fun tag =>
    and_congr_right fun _ => ?_
  cases tag with
  | str t => simp only [NamesType, Option.bind_eq_some_iff, pure_eq_some, exists_guard_and]
  | int n => simp only [NamesType, Option.bind_eq_some_iff, pure_eq_some, exists_guard_and]
  | _ => simp [NamesType]

theorem otherOf?_eq_some :
    otherOf? v = some c ↔ ∃ fs, cellFields? plainFields v = some fs ∧
      ∃ t, Table.get? typeField fs = some (.str t) ∧
      ∃ m, metadataIn? fs = some m ∧ ∃ s, sourceIn? fs = some s ∧ other t m s = c := by
  simp only [otherOf?, Option.bind_eq_bind, Option.bind_eq_some_iff]
  refine exists_congr fun fs => and_congr_right fun _ => ?_
  constructor
  · rintro ⟨tag, htag, t, ht, h⟩
    cases tag with
    | str t' =>
        obtain rfl := Option.some.inj ht
        exact ⟨t', htag, by simpa using h⟩
    | _ => cases ht
  · rintro ⟨t, htag, h⟩
    exact ⟨.str t, htag, t, rfl, by simpa using h⟩

/-- A value is a code cell, or else a markdown cell, or else a cell of another type. -/
theorem ofValue?_eq_some :
    ofValue? v = some c ↔ codeOf? v = some c ∨ codeOf? v = none ∧
      (markdownOf? v = some c ∨ markdownOf? v = none ∧ otherOf? v = some c) := by
  rw [ofValue?]
  cases codeOf? v with
  | some c' => simp
  | none =>
      cases markdownOf? v with
      | some c' => simp
      | none => simp

theorem codeOf?_eq_none {t : Text} (hfs : cellFields? plainFields v = some fs)
    (htype : Table.get? typeField fs = some (.str t)) (ht : t ≠ "code".toList) :
    codeOf? v = none := by
  rw [Option.eq_none_iff_forall_ne_some]
  intro c hc
  obtain ⟨gs, hgs, tag, htag, hname, -⟩ := codeOf?_eq_some.1 hc
  rcases cellFields?_code hfs with h | ⟨-, h, -⟩
  · obtain rfl := Option.some.inj (h.symm.trans hgs)
    obtain rfl := Option.some.inj (htype.symm.trans htag)
    exact ht hname
  · cases h.symm.trans hgs

theorem markdownOf?_eq_none {t : Text} (hfs : cellFields? plainFields v = some fs)
    (htype : Table.get? typeField fs = some (.str t)) (ht : t ≠ "markdown".toList) :
    markdownOf? v = none := by
  rw [Option.eq_none_iff_forall_ne_some]
  intro c hc
  obtain ⟨gs, hgs, tag, htag, hname, -⟩ := markdownOf?_eq_some.1 hc
  obtain rfl := Option.some.inj (hfs.symm.trans hgs)
  obtain rfl := Option.some.inj (htype.symm.trans htag)
  exact ht hname

/-- An element that is neither a code cell nor a markdown cell is a cell of the type that it names.
-/
theorem other_of_eq_none (h : ofValue? v = some c) (hcode : codeOf? v = none)
    (hmarkdown : markdownOf? v = none) :
    ∃ fs t m s, cellFields? plainFields v = some fs ∧ Table.get? typeField fs = some (.str t) ∧
      metadataIn? fs = some m ∧ sourceIn? fs = some s ∧ c = .other t m s := by
  rcases ofValue?_eq_some.1 h with h | ⟨-, h | ⟨-, h⟩⟩
  · cases hcode.symm.trans h
  · cases hmarkdown.symm.trans h
  · obtain ⟨fs, hfs, t, htype, m, hm, s, hs, hc⟩ := otherOf?_eq_some.1 h
    exact ⟨fs, t, m, s, hfs, htype, hm, hs, hc.symm⟩

end NotebookCell

end CellScript
