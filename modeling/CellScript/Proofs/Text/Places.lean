import CellScript.Proofs.Text.Blank

set_option autoImplicit false

/-! # The rows of characters

A character stands in the row that the line feeds before it count, `mem_row_iff`, and unless it is a
line feed that row is one of the lines of the text, `rowAt_lt_length_lines`. A row that is not blank
holds such a character, `exists_char_of_isBlank_eq_false`. -/

namespace CellScript.Text

/-- The row of the place after `k` characters. -/
def rowAt (t : Text) (k : Nat) : Nat := (t.take k).count '\n'

theorem rowAt_mono (t : Text) {j k : Nat} (h : j ≤ k) : rowAt t j ≤ rowAt t k :=
  (List.take_sublist_take_left h).count_le _

theorem rowAt_add (t : Text) (j k : Nat) : rowAt t (j + k) = rowAt t j + rowAt (t.drop j) k := by
  rw [rowAt, List.take_add, List.count_append]
  rfl

theorem rowAt_take {t : Text} {j n : Nat} (h : j ≤ n) : rowAt (t.take n) j = rowAt t j := by
  rw [rowAt, List.take_take, Nat.min_eq_left h]
  rfl

/-- After a line feed a row begins. -/
theorem rowAt_succ {t : Text} {k : Nat} (h : t[k]? = some '\n') :
    rowAt t (k + 1) = rowAt t k + 1 := by
  rw [rowAt, List.take_add_one, h, List.count_append]
  rfl

/-- The places of a character in a text and in the text after its first character. -/
theorem exists_place_cons {t : Text} {c d : Char} {i : Nat} :
    (∃ k, (d :: t)[k]? = some c ∧ rowAt (d :: t) k = i) ↔
      d = c ∧ i = 0 ∨ ∃ k, t[k]? = some c ∧ rowAt t k + (if d = '\n' then 1 else 0) = i := by
  have hrow : ∀ k, rowAt (d :: t) (k + 1) = rowAt t k + if d = '\n' then 1 else 0 := by
    intro k
    rw [rowAt, List.take_succ_cons, List.count_cons]
    simp only [beq_iff_eq, rowAt]
  constructor
  · rintro ⟨k, hk, hi⟩
    cases k with
    | zero => exact .inl ⟨Option.some.inj hk, hi.symm⟩
    | succ k => exact .inr ⟨k, hk, (hrow k).symm.trans hi⟩
  · rintro (⟨rfl, rfl⟩ | ⟨k, hk, hi⟩)
    · exact ⟨0, rfl, rfl⟩
    · exact ⟨k + 1, hk, (hrow k).trans hi⟩

/-- The characters of a row are those with as many line feeds before them. -/
theorem mem_row_iff {t : Text} {i : Nat} {c : Char} (hc : c ≠ '\n') :
    (∃ r, (rows t)[i]? = some r ∧ c ∈ r) ↔ ∃ k, t[k]? = some c ∧ rowAt t k = i := by
  induction t generalizing i with
  | nil => cases i <;> simp [rows]
  | cons d t ih =>
      rw [exists_place_cons]
      by_cases hd : d = '\n'
      · subst hd
        rw [rows, if_pos rfl]
        cases i with
        | zero => simp [hc.symm]
        | succ i => simp [ih]
      · obtain ⟨r₀, rs, hrows, hcons⟩ := rows_cons_of_ne hd t
        rw [hrows] at ih
        rw [hcons, if_neg hd]
        simp only [Nat.add_zero, ← ih]
        cases i with
        | zero => simp [eq_comm]
        | succ i => simp

/-- A row that is not empty is one of the lines. -/
theorem lt_length_lines {t r : Text} {i : Nat} (h : (rows t)[i]? = some r) (hr : r ≠ []) :
    i < (lines t).length := by
  rcases List.eq_nil_or_concat' (rows t) with hnil | ⟨closed, last, hrows⟩
  · exact absurd hnil (rows_ne_nil t)
  · have hi : i < closed.length + 1 := by
      obtain ⟨hlt, -⟩ := List.getElem?_eq_some_iff.1 h
      simpa [hrows] using hlt
    have hlast : i = closed.length → last ≠ [] := by
      rintro rfl
      rw [hrows, List.getElem?_append_right (Nat.le_refl _), Nat.sub_self] at h
      obtain rfl := Option.some.inj h
      exact hr
    have hreverse : (rows t).reverse = last :: closed.reverse := by simp [hrows]
    rw [lines, hreverse]
    dsimp only
    split
    · rename_i hempty
      have hne : i ≠ closed.length := fun he => hlast he (List.isEmpty_iff.1 hempty)
      rw [List.length_map, List.length_reverse, List.length_reverse]
      omega
    · rw [List.length_append, List.length_map, List.length_reverse, List.length_reverse]
      exact hi

theorem rowAt_lt_length_lines {t : Text} {k : Nat} {c : Char} (h : t[k]? = some c) (hc : c ≠ '\n') :
    rowAt t k < (lines t).length := by
  obtain ⟨r, hr, hmem⟩ := (mem_row_iff hc).2 ⟨k, h, rfl⟩
  exact lt_length_lines hr (List.ne_nil_of_mem hmem)

/-- A row that is not blank holds a character that is none of its line ends. -/
theorem exists_char_of_isBlank_eq_false {t : Text} {i : Nat}
    (h : isBlank ((physicalLines t).getD i []) = false) :
    ∃ k c, t[k]? = some c ∧ c ≠ '\n' ∧ rowAt t k = i := by
  rw [List.getD_eq_getElem?_getD, physicalLines, List.getElem?_map] at h
  cases hr : (rows t)[i]? with
  | none =>
      rw [hr] at h
      cases h
  | some r =>
      rw [hr] at h
      have hblank : isBlank r = false := by simpa using h
      obtain ⟨c, hmem, hc⟩ := List.all_eq_false.1 hblank
      have hne : c ≠ '\n' := by
        rintro rfl
        exact hc (by decide)
      obtain ⟨k, hk, hrow⟩ := (mem_row_iff hne).1 ⟨r, hr, hmem⟩
      exact ⟨k, c, hk, hne, hrow⟩

end CellScript.Text
