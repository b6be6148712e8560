import Mathlib.Data.List.Basic
import CellScript.Json.Read
import CellScript.Proofs.Except

set_option autoImplicit false

/-! # Strings

`string_flatMap_escapeChar` reads a written string back, whatever its characters are. A string that
is read ends before the text does, `length_of_string`. -/

namespace CellScript.Json

/-! ## Strings that were written -/

theorem hexValue?_hexDigit : ∀ n < 16, hexValue? (hexDigit n) = some n := by decide

/-- A character that a letter names is the one that the letter stands for. -/
theorem letterChar?_of_letterEscape? {c e : Char} (h : letterEscape? c = some e) :
    letterChar? e = some c ∧ e ≠ 'u' := by
  have eight (h : c.toNat = 8) : c = Char.ofNat 8 := h ▸ (Char.ofNat_toNat c).symm
  have twelve (h : c.toNat = 12) : c = Char.ofNat 12 := h ▸ (Char.ofNat_toNat c).symm
  rw [letterEscape?] at h
  split_ifs at h <;> obtain rfl := Option.some.inj h
  · subst c; decide
  · subst c; decide
  · rw [eight ‹_›]; decide
  · rw [twelve ‹_›]; decide
  · subst c; decide
  · subst c; decide
  · subst c; decide

theorem hexEscape_of_lt {n : Nat} (hn : n < 0x20) (t : Text) :
    hexEscape ('0' :: '0' :: hexDigit (n / 16) :: hexDigit (n % 16) :: t) = .ok (n, t) := by
  have zero : hexValue? '0' = some 0 := by decide
  have high := hexValue?_hexDigit (n / 16) (by omega)
  have low := hexValue?_hexDigit (n % 16) (by omega)
  simp only [hexEscape, zero, high, low]
  rw [show ((0 * 16 + 0) * 16 + n / 16) * 16 + n % 16 = n by omega]

theorem unicodeEscape_of_lt {c : Char} (hc : c.toNat < 0x20) (t : Text) :
    unicodeEscape ('0' :: '0' :: hexDigit (c.toNat / 16) :: hexDigit (c.toNat % 16) :: t) =
      .ok (c, t) := by
  have hlow : isLowSurrogate c.toNat = false := by
    simp only [isLowSurrogate, Bool.and_eq_false_iff, decide_eq_false_iff_not]
    omega
  have hhigh : isHighSurrogate c.toNat = false := by
    simp only [isHighSurrogate, Bool.and_eq_false_iff, decide_eq_false_iff_not]
    omega
  simp [unicodeEscape, hexEscape_of_lt hc, hlow, hhigh, Char.ofNat_toNat]

theorem stringTail_letter (n : Nat) {c e : Char} (h : letterChar? e = some c) (hu : e ≠ 'u')
    (t : Text) :
    stringTail (n + 1) ('\\' :: e :: t) = (stringTail n t).map fun (s, t) => (c :: s, t) := by
  rw [stringTail, h]
  exact hu

theorem stringTail_plain (n : Nat) {c : Char} (hquote : c ≠ '"') (hslash : c ≠ '\\')
    (hc : ¬ c.toNat < 0x20) (t : Text) :
    stringTail (n + 1) (c :: t) = (stringTail n t).map fun (s, t) => (c :: s, t) := by
  rw [stringTail, if_neg hc]
  · exact hquote
  · exact fun h _ => hslash h
  · exact fun _ h _ => hslash h
  · exact fun _ _ h _ => hslash h

/-- Reading a written character gives it back. -/
theorem stringTail_escapeChar (n : Nat) (c : Char) (t : Text) :
    stringTail (n + 1) (escapeChar c ++ t) =
      (stringTail n t).map fun (s, t) => (c :: s, t) := by
  cases h : letterEscape? c with
  | some e =>
      obtain ⟨hletter, hu⟩ := letterChar?_of_letterEscape? h
      rw [escapeChar, h]
      exact stringTail_letter n hletter hu t
  | none =>
      rw [escapeChar, h]
      by_cases hc : c.toNat < 0x20
      · simp only [hc, if_true, List.cons_append, List.nil_append, stringTail,
          unicodeEscape_of_lt hc]
      · -- what has no escape is no quote and no backslash
        have hquote : c ≠ '"' := by
          rintro rfl
          simp [letterEscape?] at h
        have hslash : c ≠ '\\' := by
          rintro rfl
          simp [letterEscape?] at h
        simp only [hc, if_false]
        exact stringTail_plain n hquote hslash hc t

theorem length_escapeChar_pos (c : Char) : 0 < (escapeChar c).length := by
  rw [escapeChar]
  split
  · exact Nat.succ_pos _
  · split <;> exact Nat.succ_pos _

theorem stringTail_flatMap_escapeChar (s rest : Text) {n : Nat} (hn : s.length < n) :
    stringTail n (s.flatMap escapeChar ++ '"' :: rest) = .ok (s, rest) := by
  induction s generalizing n with
  | nil =>
      obtain ⟨n, rfl⟩ := Nat.exists_eq_add_of_lt hn
      rfl
  | cons c s ih =>
      obtain ⟨n, rfl⟩ : ∃ m, n = m + 1 := ⟨n - 1, by omega⟩
      rw [List.flatMap_cons, List.append_assoc, stringTail_escapeChar,
        ih (by simpa using hn)]
      rfl

/-- Reading a written string gives it back. -/
theorem string_flatMap_escapeChar (s rest : Text) :
    string (s.flatMap escapeChar ++ '"' :: rest) = .ok (s, rest) := by
  have hlength : s.length ≤ (s.flatMap escapeChar).length := by
    induction s with
    | nil => exact Nat.le_refl _
    | cons c s ih =>
        rw [List.flatMap_cons, List.length_append, List.length_cons]
        have := length_escapeChar_pos c
        omega
  refine stringTail_flatMap_escapeChar s rest ?_
  rw [List.length_append, List.length_cons]
  omega

/-! ## What is left after a string -/

theorem length_of_hexEscape {t u : Text} {n : Nat} (h : hexEscape t = .ok (n, u)) :
    u.length < t.length := by
  rw [hexEscape.eq_def] at h
  split at h
  · split at h
    · obtain rfl := (Prod.mk.inj (Except.ok.inj h)).2
      simp only [List.length_cons]
      omega
    · cases h
  · dsimp only at h
    split at h <;> cases h

theorem length_of_unicodeEscape {t u : Text} {c : Char} (h : unicodeEscape t = .ok (c, u)) :
    u.length < t.length := by
  rw [unicodeEscape] at h
  split at h
  · cases h
  · rename_i n v hv
    have hvt := length_of_hexEscape hv
    split_ifs at h
    · cases h
    · obtain rfl := (Prod.mk.inj (Except.ok.inj h)).2
      exact hvt
    · -- the second half of a pair is read after the first
      split at h
      · cases h
      · cases h
      · split at h
        · cases h
        · rename_i m w hw
          have hwv := length_of_hexEscape hw
          split_ifs at h
          · obtain rfl := (Prod.mk.inj (Except.ok.inj h)).2
            simp only [List.length_cons] at hvt
            omega
          · cases h
      · cases h
      · cases h

theorem length_of_stringTail {n : Nat} {t s u : Text} (h : stringTail n t = .ok (s, u)) :
    u.length < t.length := by
  induction n, t using stringTail.induct generalizing s with
  | case1 t => cases h
  | case2 n => cases h
  | case3 n t =>
      obtain rfl := (Prod.mk.inj (Except.ok.inj h)).2
      exact Nat.lt_succ_self _
  | case4 n => cases h
  | case5 n t e he =>
      rw [stringTail, he] at h
      cases h
  | case6 n t c v hv ih =>
      rw [stringTail, hv] at h
      obtain ⟨s, hs, -⟩ := map_left_eq_ok.1 h
      have := length_of_unicodeEscape hv
      have := ih hs
      simp only [List.length_cons]
      omega
  | case7 n e t hu he =>
      rw [stringTail, he] at h
      · cases h
      · exact hu
  | case8 n e t hu c hc ih =>
      rw [stringTail_letter n hc hu] at h
      obtain ⟨s, hs, -⟩ := map_left_eq_ok.1 h
      have := ih hs
      simp only [List.length_cons]
      omega
  | case9 n c t hquote hnil hu hletter hc =>
      rw [stringTail, if_pos hc] at h
      · cases h
      all_goals assumption
  | case10 n c t hquote hnil hu hletter hc ih =>
      rw [stringTail, if_neg hc] at h
      · obtain ⟨s, hs, -⟩ := map_left_eq_ok.1 h
        have := ih hs
        simp only [List.length_cons]
        omega
      all_goals assumption

/-- A string that is read ends before the text does. -/
theorem length_of_string {t s u : Text} (h : string t = .ok (s, u)) : u.length < t.length :=
  length_of_stringTail h

end CellScript.Json
