import CellScript.Json.Numeral
import CellScript.Proofs.Json.Value

set_option autoImplicit false

/-! # Numbers

Whatever number is read, it fits below every depth and leaves no more text than there was
(`isNumber_of_number`). The digits of an integer of 64 bits are read back as that integer
(`number_toDigits`) before a text that does not go on with the number. -/

namespace CellScript.Json

/-! ## Digits -/

theorem takeDigits_le {limit n : Nat} (k : Nat) (t : Text) (hn : n ≤ limit) :
    (takeDigits limit n k t).1 ≤ limit := by
  induction t generalizing n k with
  | nil => exact hn
  | cons c t ih =>
      rw [takeDigits]
      dsimp only
      split
      · split
        · exact ih (k + 1) ‹_›
        · exact hn
      · exact hn

theorem length_takeDigits_le (limit n k : Nat) (t : Text) :
    (takeDigits limit n k t).2.2.length ≤ t.length := by
  induction t generalizing n k with
  | nil => exact Nat.le_refl _
  | cons c t ih =>
      rw [takeDigits]
      dsimp only
      split
      · split
        · exact Nat.le_succ_of_le (ih _ (k + 1))
        · exact Nat.le_refl _
      · exact Nat.le_refl _

theorem length_dropDigits_le (k : Nat) (t : Text) : (dropDigits k t).2.length ≤ t.length := by
  induction t generalizing k with
  | nil => exact Nat.le_refl _
  | cons c t ih =>
      rw [dropDigits]
      split
      · exact Nat.le_succ_of_le (ih (k + 1))
      · exact Nat.le_refl _

theorem digitValue_le_maxInt {c : Char} (h : c.isDigit) : digitValue c ≤ maxInt := by
  simp only [Char.isDigit, Bool.and_eq_true, decide_eq_true_eq] at h
  have hnine : c.toNat ≤ 0x39 := UInt32.le_iff_toNat_le.1 h.2
  have : 9 ≤ maxInt := by decide
  rw [digitValue]
  omega

/-! ## Whatever is read -/

/-- A number and the text after it, as they are read from a text: the number fits, and there is no
more text than before. -/
structure IsNumber (t : Text) (v : Value) (u : Text) : Prop where
  fits : ∀ d, v.Fits d
  length_le : u.length ≤ t.length

variable {negative : Bool} {n k : Nat} {t u : Text} {v : Value}

theorem IsNumber.mono {t' : Text} (h : IsNumber t v u) (hlength : t.length ≤ t'.length) :
    IsNumber t' v u :=
  ⟨h.fits, h.length_le.trans hlength⟩

theorem isNumber_of_scaled {k : Int} (h : scaled negative n k t = .ok (v, u)) :
    IsNumber t v u := by
  rw [scaled] at h
  split at h
  · obtain ⟨rfl, rfl⟩ := Prod.mk.inj (Except.ok.inj h)
    exact ⟨fun _ => .double _, Nat.le_refl _⟩
  · cases h

theorem length_exponentSign_le (t : Text) : (exponentSign t).2.length ≤ t.length := by
  rw [exponentSign.eq_def]
  split
  · exact Nat.le_succ _
  · exact Nat.le_succ _
  · exact Nat.le_refl _

theorem isNumber_of_exponentPart {k : Int} (h : exponentPart negative n k t = .ok (v, u)) :
    IsNumber t v u := by
  have hsign := length_exponentSign_le t
  rw [exponentPart] at h
  generalize exponentSign t = s at h hsign
  obtain ⟨down, s⟩ := s
  cases s with
  | nil => cases h
  | cons c s =>
      have hdigits := length_takeDigits_le maxExponent (digitValue c) 0 s
      generalize htaken : takeDigits maxExponent (digitValue c) 0 s = r at hdigits
      obtain ⟨e, i, r⟩ := r
      simp only [htaken, List.length_cons] at h hsign hdigits
      split at h
      · split at h
        · split at h
          · cases h
          · -- digits that did not fit are dropped
            obtain ⟨rfl, rfl⟩ := Prod.mk.inj (Except.ok.inj h)
            have := length_dropDigits_le 0 r
            exact ⟨fun _ => .double _, by omega⟩
        · exact (isNumber_of_scaled h).mono (by omega)
      · cases h

theorem isNumber_of_exponentOr {k : Int} (h : exponentOr negative n k t = .ok (v, u)) :
    IsNumber t v u := by
  rw [exponentOr.eq_def] at h
  split at h
  · exact (isNumber_of_exponentPart h).mono (Nat.le_succ _)
  · exact (isNumber_of_exponentPart h).mono (Nat.le_succ _)
  · exact isNumber_of_scaled h

theorem isNumber_of_fraction (h : fraction negative n k t = .ok (v, u)) : IsNumber t v u := by
  have hdigits := length_takeDigits_le maxInt n 0 t
  rw [fraction] at h
  generalize takeDigits maxInt n 0 t = r at h hdigits
  obtain ⟨m, i, r⟩ := r
  dsimp only at h hdigits
  split_ifs at h
  · exact (isNumber_of_exponentOr h).mono ((length_dropDigits_le 0 r).trans hdigits)
  · split at h <;> cases h
  · exact (isNumber_of_exponentOr h).mono hdigits

theorem isNumber_of_integer (hn : n ≤ maxInt) (h : integer negative n t = .ok (v, u)) :
    IsNumber t v u := by
  have hmin : (minIntMagnitude : Int) = 9223372036854775808 := by decide
  have hmax : (maxInt : Int) = 18446744073709551615 := by decide
  rw [integer] at h
  split_ifs at h with hsign hroom
  · obtain ⟨rfl, rfl⟩ := Prod.mk.inj (Except.ok.inj h)
    exact ⟨fun _ => .int (by omega) (by omega), Nat.le_refl _⟩
  · exact isNumber_of_scaled h
  · obtain ⟨rfl, rfl⟩ := Prod.mk.inj (Except.ok.inj h)
    exact ⟨fun _ => .int (by omega) (by omega), Nat.le_refl _⟩

theorem isNumber_of_tail (hn : n ≤ maxInt) (h : tail negative n t = .ok (v, u)) :
    IsNumber t v u := by
  rw [tail.eq_def] at h
  split at h
  · exact (isNumber_of_fraction h).mono (Nat.le_succ _)
  · exact (isNumber_of_exponentPart h).mono (Nat.le_succ _)
  · exact (isNumber_of_exponentPart h).mono (Nat.le_succ _)
  · exact isNumber_of_integer hn h

theorem isNumber_of_longTail (h : longTail negative n k t = .ok (v, u)) : IsNumber t v u := by
  rw [longTail.eq_def] at h
  split at h
  · exact (isNumber_of_fraction h).mono (Nat.le_succ _)
  · exact isNumber_of_exponentOr h

/-- A number that is read fits, and at least one character is gone. -/
theorem isNumber_of_number (h : number negative t = .ok (v, u)) :
    ∃ c t', t = c :: t' ∧ IsNumber t' v u := by
  cases t with
  | nil => cases h
  | cons c t =>
      refine ⟨c, t, rfl, ?_⟩
      rw [number.eq_def] at h
      split at h
      · cases h
      · obtain ⟨-, rfl⟩ := List.cons.inj ‹_›
        split at h
        · cases h
        · exact isNumber_of_tail (Nat.zero_le _) h
      · obtain ⟨rfl, rfl⟩ := List.cons.inj ‹_›
        split at h
        · rename_i hdigit
          have hle := takeDigits_le 0 t (digitValue_le_maxInt hdigit)
          have hlength := length_takeDigits_le maxInt (digitValue c) 0 t
          generalize takeDigits maxInt (digitValue c) 0 t = r at h hle hlength
          obtain ⟨m, i, r⟩ := r
          dsimp only at h hle hlength
          split at h
          · exact (isNumber_of_longTail h).mono ((length_dropDigits_le 0 r).trans hlength)
          · exact (isNumber_of_tail hle h).mono hlength
        · cases h

/-! ## Integers that were written -/

/-- Whether a text may come after a value that was written: it starts with a comma or a line end, if
it starts at all. -/
def Delimited (t : Text) : Prop := ∀ c ∈ t.head?, c = ',' ∨ c = '\n'

theorem Delimited.startsWithDigit_eq_false (h : Delimited t) : startsWithDigit t = false := by
  cases t with
  | nil => rfl
  | cons c t =>
      rcases h c rfl with rfl | rfl
      · rfl
      · rfl

theorem Delimited.tail_eq (h : Delimited t) : tail negative n t = integer negative n t := by
  cases t with
  | nil => rfl
  | cons c t =>
      rcases h c rfl with rfl | rfl
      · rfl
      · rfl

theorem le_ofDigitChars (ds : Text) (n : Nat) : n ≤ Nat.ofDigitChars 10 ds n := by
  rw [Nat.ofDigitChars_eq_ofDigitChars_zero]
  exact Nat.le_add_right_of_le (Nat.le_mul_of_pos_left n (Nat.pow_pos (by decide)))

/-- Digits that fit are all taken. -/
theorem takeDigits_append {limit : Nat} {ds rest : Text} (hds : ∀ c ∈ ds, c.isDigit)
    (hrest : startsWithDigit rest = false) (hlimit : Nat.ofDigitChars 10 ds n ≤ limit) :
    takeDigits limit n k (ds ++ rest) = (Nat.ofDigitChars 10 ds n, k + ds.length, rest) := by
  induction ds generalizing n k with
  | nil =>
      cases rest with
      | nil => rfl
      | cons c rest =>
          have hc : c.isDigit = false := hrest
          simp [takeDigits, hc]
  | cons c ds ih =>
      have hnext : Nat.ofDigitChars 10 (c :: ds) n =
          Nat.ofDigitChars 10 ds (n * 10 + digitValue c) := by
        rw [Nat.ofDigitChars_cons, Nat.mul_comm]
        rfl
      rw [hnext] at hlimit ⊢
      have hfits : n * 10 + digitValue c ≤ limit := (le_ofDigitChars ds _).trans hlimit
      rw [List.cons_append, takeDigits]
      simp only [hds c List.mem_cons_self, hfits, if_true]
      rw [ih (fun c hc => hds c (List.mem_cons_of_mem _ hc)) hlimit, List.length_cons,
        Nat.add_right_comm, Nat.add_assoc]

theorem head?_toDigits_ne_zero (hn : 0 < n) : (Nat.toDigits 10 n).head? ≠ some '0' := by
  induction n using Nat.strong_induction_on with
  | _ n ih =>
      by_cases hten : n < 10
      · rw [Nat.toDigits_of_lt_base hten, List.head?_cons]
        intro h
        exact hn.ne' (Nat.digitChar_eq_zero.1 (Option.some.inj h))
      · rw [Nat.toDigits_of_base_le (by decide) (Nat.le_of_not_lt hten),
          List.head?_append_of_ne_nil _ Nat.toDigits_ne_nil]
        exact ih (n / 10) (by omega) (by omega)

/-- The digits of a number are read back. -/
theorem number_toDigits {rest : Text} (hn : n ≤ maxInt) (hrest : Delimited rest) :
    number negative (Nat.toDigits 10 n ++ rest) = integer negative n rest := by
  rcases Nat.eq_zero_or_pos n with rfl | hpos
  · rw [Nat.toDigits_zero, List.singleton_append, number, hrest.startsWithDigit_eq_false,
      hrest.tail_eq]
    rfl
  · have hdigits : ∀ c ∈ Nat.toDigits 10 n, c.isDigit := fun c hc =>
      Nat.isDigit_of_mem_toDigits (by decide) (by decide) hc
    have hhead := head?_toDigits_ne_zero hpos
    have hvalue : Nat.ofDigitChars 10 (Nat.toDigits 10 n) 0 = n := Nat.ofDigitChars_ten_toDigits
    cases hds : Nat.toDigits 10 n with
    | nil => exact absurd hds Nat.toDigits_ne_nil
    | cons c ds =>
        rw [hds] at hdigits hhead hvalue
        -- the first digit is the start of what is taken
        have hvalue : Nat.ofDigitChars 10 ds (digitValue c) = n := by
          rw [Nat.ofDigitChars_cons, Nat.mul_zero, Nat.zero_add] at hvalue
          exact hvalue
        have hlimit : Nat.ofDigitChars 10 ds (digitValue c) ≤ maxInt := hvalue ▸ hn
        have htaken := takeDigits_append (k := 0)
          (fun c hc => hdigits c (List.mem_cons_of_mem _ hc)) hrest.startsWithDigit_eq_false hlimit
        rw [List.cons_append, number, if_pos (hdigits c List.mem_cons_self), htaken, hvalue]
        · simp only [hrest.startsWithDigit_eq_false, Bool.false_eq_true, if_false, hrest.tail_eq]
        · rintro rfl
          exact hhead rfl

end CellScript.Json
