import CellScript.Json.Write
import CellScript.Proofs.Json.Reads

set_option autoImplicit false

/-! # Reading what was written

`Reads.writeAt`: an exact value that fits is what the reader takes off its own text, on whatever
level it was written. So `Value.parse_write`: the text of a value, with no more than a line end after
it, is the text of that value. -/

namespace CellScript.Json

variable {d : Nat} {t u rest : Text}

/-! ## Space -/

theorem skipSpace_cons {c : Char} (h : isSpace c = false) (t : Text) :
    skipSpace (c :: t) = c :: t := by
  rw [skipSpace, List.dropWhile_cons_of_neg (by rw [h]; decide)]

theorem skipSpace_newLine (level : Nat) (t : Text) :
    skipSpace (newLine level ++ t) = skipSpace t := by
  rw [skipSpace, List.dropWhile_append_of_pos, skipSpace]
  intro c hc
  rcases List.mem_cons.1 hc with rfl | hc
  · rfl
  · rw [List.eq_of_mem_replicate hc]
    rfl

/-- Space before a value does not matter. -/
theorem Reads.of_skipSpace_eq {v : Value} (h : Reads d (.value v) t rest)
    (hspace : skipSpace t = skipSpace u) : Reads d (.value v) u rest := by
  cases h with
  | scalar h => exact .scalar (hspace ▸ h)
  | list h hd hr => exact .list (hspace ▸ h) hd hr
  | object h hd hr => exact .object (hspace ▸ h) hd hr

/-! ## Scalars -/

theorem isDigit_ne {c e : Char} (h : c.isDigit) (he : e.isDigit = false) : c ≠ e := by
  rintro rfl
  rw [h] at he
  cases he

theorem scalar_of_isDigit {c : Char} (h : c.isDigit) (t : Text) :
    scalar (c :: t) = number false (c :: t) := by
  rw [scalar, if_pos (show startsWithDigit (c :: t) = true from h)]
  · exact List.cons_ne_nil c t
  · exact fun _ h' => isDigit_ne h (by rfl) (List.cons.inj h').1
  · exact fun _ h' => isDigit_ne h (by rfl) (List.cons.inj h').1
  · exact fun _ h' => isDigit_ne h (by rfl) (List.cons.inj h').1
  · exact fun _ h' => isDigit_ne h (by rfl) (List.cons.inj h').1
  · exact fun _ h' => isDigit_ne h (by rfl) (List.cons.inj h').1

theorem exists_toDigits_cons (n : Nat) : ∃ c t, Nat.toDigits 10 n = c :: t ∧ c.isDigit := by
  cases h : Nat.toDigits 10 n with
  | nil => exact absurd h Nat.toDigits_ne_nil
  | cons c t =>
      refine ⟨c, t, rfl, ?_⟩
      exact Nat.isDigit_of_mem_toDigits (b := 10) (n := n) (by decide) (by decide) (by simp [h])

theorem scalar_intText {n : Int} (low : -(minIntMagnitude : Int) ≤ n) (high : n ≤ maxInt)
    (hrest : Delimited rest) : scalar (intText n ++ rest) = .ok (.int n, rest) := by
  have hmagnitude : minIntMagnitude ≤ maxInt := by decide
  by_cases hn : n < 0
  · rw [intText, if_pos hn]
    show number true (Nat.toDigits 10 n.natAbs ++ rest) = _
    rw [number_toDigits (by omega) hrest, integer, if_neg (by decide), if_neg (by omega)]
    rw [show -(n.natAbs : Int) = n by omega]
  · obtain ⟨c, t, hdigits, hc⟩ := exists_toDigits_cons n.natAbs
    rw [intText, if_neg hn, List.nil_append, hdigits, List.cons_append, scalar_of_isDigit hc,
      ← List.cons_append, ← hdigits, number_toDigits (by omega) hrest, integer,
      if_pos (by decide)]
    rw [show (n.natAbs : Int) = n by omega]

theorem scalar_quote (s t : Text) : scalar (quote s ++ t) = .ok (.str s, t) := by
  have hstring := string_flatMap_escapeChar s t
  have hquote : ∀ u, scalar ('"' :: u) = (string u).map (Prod.map Value.str id) := fun _ => rfl
  rw [quote, List.append_assoc, List.singleton_append, List.cons_append, hquote, hstring]
  rfl

/-- A value that was written starts with neither space nor a closing bracket. -/
theorem exists_writeAt_cons {v : Value} (hv : v.isExact) (level : Nat) :
    ∃ c t, v.writeAt level = c :: t ∧ isSpace c = false ∧ c ≠ ']' := by
  cases v with
  | null => exact ⟨_, _, rfl, rfl, by decide⟩
  | bool b => cases b <;> exact ⟨_, _, rfl, rfl, by decide⟩
  | int n =>
      rw [Value.writeAt.eq_def]
      show ∃ c t, intText n = c :: t ∧ _
      rw [intText]
      by_cases hn : n < 0
      · rw [if_pos hn]
        exact ⟨_, _, rfl, rfl, by decide⟩
      · obtain ⟨c, t, hdigits, hc⟩ := exists_toDigits_cons n.natAbs
        rw [if_neg hn, List.nil_append]
        refine ⟨c, t, hdigits, ?_, isDigit_ne hc rfl⟩
        simp [isSpace, isDigit_ne hc (e := ' ') rfl, isDigit_ne hc (e := '\n') rfl,
          isDigit_ne hc (e := '\t') rfl, isDigit_ne hc (e := '\r') rfl]
  | double x => cases hv
  | str s => exact ⟨_, _, rfl, rfl, by decide⟩
  | arr vs => cases vs <;> exact ⟨_, _, rfl, rfl, by decide⟩
  | obj fs => cases fs <;> exact ⟨_, _, rfl, rfl, by decide⟩

/-! ## Lists -/

theorem nextElement_close {first : Bool} (h : skipSpace t = ']' :: u) :
    nextElement first t = .ok (false, u) := by
  rw [nextElement, h]
  rfl

theorem nextElement_first {c : Char} (h : skipSpace t = c :: u) (hc : c ≠ ']') :
    nextElement true t = .ok (true, c :: u) := by
  rw [nextElement, h]
  split <;> simp_all

theorem nextElement_comma {c : Char} (h : skipSpace t = c :: u) (hc : c ≠ ']') :
    nextElement false (',' :: t) = .ok (true, c :: u) := by
  rw [nextElement, skipSpace_cons rfl]
  simp only [h]
  split <;> simp_all

theorem delimited_writeMore (level level' : Nat) (vs : List Value) (t : Text) :
    Delimited (Value.writeMore level vs ++ (newLine level' ++ t)) := by
  intro c hc
  cases vs with
  | nil => exact .inr (Option.some.inj hc).symm
  | cons v vs => exact .inl (Option.some.inj hc).symm

/-- The elements after the first are read as they were written. -/
theorem Reads.writeMore {level : Nat} (level' : Nat) {vs : List Value}
    (hexact : ∀ v ∈ vs, v.isExact)
    (hread : ∀ v ∈ vs, ∀ rest, Delimited rest →
      Reads d (.value v) (v.writeAt level ++ rest) rest) (rest : Text) :
    Reads d (.elements false vs)
      (Value.writeMore level vs ++ (newLine level' ++ ']' :: rest)) rest := by
  induction vs with
  | nil =>
      refine .noElement (nextElement_close ?_)
      rw [Value.writeMore, List.nil_append, skipSpace_newLine]
      rfl
  | cons v vs ih =>
      rw [List.forall_mem_cons] at hexact hread
      obtain ⟨c, t, hc, hspace, hbracket⟩ := exists_writeAt_cons hexact.1 level
      have hnext : nextElement false (Value.writeMore level (v :: vs) ++
          (newLine level' ++ ']' :: rest)) = .ok (true, v.writeAt level ++
            (Value.writeMore level vs ++ (newLine level' ++ ']' :: rest))) := by
        rw [Value.writeMore]
        simp only [List.cons_append, List.append_assoc]
        rw [hc, List.cons_append, nextElement_comma _ hbracket]
        rw [skipSpace_newLine, skipSpace_cons hspace]
      exact .element hnext (hread.1 _ (delimited_writeMore _ _ _ _)) (ih hexact.2 hread.2)

/-- A list with elements is read as it was written. -/
theorem Reads.writeElements {level : Nat} (hd : 0 < d) {v : Value} {vs : List Value}
    (hexact : ∀ w ∈ v :: vs, w.isExact)
    (hread : ∀ w ∈ v :: vs, ∀ rest, Delimited rest →
      Reads d (.value w) (w.writeAt (level + 1) ++ rest) rest) (rest : Text) :
    Reads (d + 1) (.value (.arr (v :: vs))) ((Value.arr (v :: vs)).writeAt level ++ rest) rest := by
  rw [List.forall_mem_cons] at hexact hread
  obtain ⟨c, t, hc, hspace, hbracket⟩ := exists_writeAt_cons hexact.1 (level + 1)
  have hfirst : nextElement true (newLine (level + 1) ++ (v.writeAt (level + 1) ++
      (Value.writeMore (level + 1) vs ++ (newLine level ++ ']' :: rest)))) =
        .ok (true, v.writeAt (level + 1) ++
          (Value.writeMore (level + 1) vs ++ (newLine level ++ ']' :: rest))) := by
    rw [hc, List.cons_append]
    refine nextElement_first ?_ hbracket
    rw [skipSpace_newLine, skipSpace_cons hspace]
  have hvalue := hread.1 _ (delimited_writeMore (level + 1) level vs (']' :: rest))
  have hmore := Reads.writeMore level hexact.2 hread.2 rest
  rw [Value.writeAt]
  simp only [List.cons_append, List.append_assoc, List.nil_append]
  exact .list rfl hd (.element hfirst hvalue hmore)

/-! ## Objects -/

theorem key_quoted (k t : Text) :
    key (k.flatMap escapeChar ++ '"' :: ':' :: ' ' :: t) = .ok (k, ' ' :: t) := by
  rw [key, string_flatMap_escapeChar]
  rfl

theorem nextField_close {first : Bool} (h : skipSpace t = '}' :: u) :
    nextField first t = .ok (false, u) := by
  rw [nextField, h]
  rfl

theorem nextField_first (h : skipSpace t = '"' :: u) : nextField true t = .ok (true, u) := by
  rw [nextField, h]
  rfl

theorem nextField_comma (h : skipSpace t = '"' :: u) :
    nextField false (',' :: t) = .ok (true, u) := by
  rw [nextField, skipSpace_cons rfl]
  simp only [h, Bool.false_eq_true, if_false]

theorem delimited_writeMoreFields (level level' : Nat) (fs : List (Text × Value)) (t : Text) :
    Delimited (Value.writeMoreFields level fs ++ (newLine level' ++ t)) := by
  intro c hc
  cases fs with
  | nil => exact .inr (Option.some.inj hc).symm
  | cons f fs => exact .inl (Option.some.inj hc).symm

/-- A key, a colon and a blank, with a text after them. -/
theorem quote_append (k t : Text) :
    quote k ++ ':' :: ' ' :: t = '"' :: (k.flatMap escapeChar ++ '"' :: ':' :: ' ' :: t) := by
  rw [quote]
  simp only [List.cons_append, List.append_assoc, List.nil_append]

/-- The fields after the first are read as they were written. -/
theorem Reads.writeMoreFields {level : Nat} (level' : Nat) {fs : List (Text × Value)}
    (hread : ∀ f ∈ fs, ∀ rest, Delimited rest →
      Reads d (.value f.2) (f.2.writeAt level ++ rest) rest) (rest : Text) :
    Reads d (.fields false fs)
      (Value.writeMoreFields level fs ++ (newLine level' ++ '}' :: rest)) rest := by
  induction fs with
  | nil =>
      refine .noField (nextField_close ?_)
      rw [Value.writeMoreFields, List.nil_append, skipSpace_newLine]
      rfl
  | cons f fs ih =>
      obtain ⟨k, v⟩ := f
      rw [List.forall_mem_cons] at hread
      have hnext : nextField false (Value.writeMoreFields level ((k, v) :: fs) ++
          (newLine level' ++ '}' :: rest)) =
            .ok (true, k.flatMap escapeChar ++ '"' :: ':' :: ' ' :: (v.writeAt level ++
              (Value.writeMoreFields level fs ++ (newLine level' ++ '}' :: rest)))) := by
        rw [Value.writeMoreFields]
        simp only [List.cons_append, List.append_assoc, List.nil_append]
        refine nextField_comma ?_
        rw [skipSpace_newLine, quote_append, skipSpace_cons rfl]
      have hvalue := hread.1 _ (delimited_writeMoreFields level level' fs ('}' :: rest))
      exact .field hnext (key_quoted k _) (hvalue.of_skipSpace_eq rfl) (ih hread.2)

/-- An object with fields is read as it was written. -/
theorem Reads.writeFields {level : Nat} (hd : 0 < d) {f : Text × Value}
    {fs : List (Text × Value)}
    (hread : ∀ g ∈ f :: fs, ∀ rest, Delimited rest →
      Reads d (.value g.2) (g.2.writeAt (level + 1) ++ rest) rest) (rest : Text) :
    Reads (d + 1) (.value (.obj (f :: fs))) ((Value.obj (f :: fs)).writeAt level ++ rest) rest := by
  obtain ⟨k, v⟩ := f
  rw [List.forall_mem_cons] at hread
  have hfirst : nextField true (newLine (level + 1) ++ (quote k ++ ':' :: ' ' ::
      (v.writeAt (level + 1) ++ (Value.writeMoreFields (level + 1) fs ++
        (newLine level ++ '}' :: rest))))) =
        .ok (true, k.flatMap escapeChar ++ '"' :: ':' :: ' ' ::
          (v.writeAt (level + 1) ++ (Value.writeMoreFields (level + 1) fs ++
            (newLine level ++ '}' :: rest)))) := by
    refine nextField_first ?_
    rw [skipSpace_newLine, quote_append, skipSpace_cons rfl]
  have hvalue := hread.1 _ (delimited_writeMoreFields (level + 1) level fs ('}' :: rest))
  have hmore := Reads.writeMoreFields level hread.2 rest
  rw [Value.writeAt]
  simp only [List.cons_append, List.append_assoc, List.nil_append]
  exact .object rfl hd (.field hfirst (key_quoted k _) (hvalue.of_skipSpace_eq rfl) hmore)

/-! ## Values -/

/-- A value is read as it was written. -/
theorem Reads.writeAt {v : Value} (hexact : v.isExact) (hfits : v.Fits d) (level : Nat)
    (hrest : Delimited rest) : Reads d (.value v) (v.writeAt level ++ rest) rest := by
  induction v using Value.induct generalizing d level rest with
  | null => exact .scalar rfl
  | bool b =>
      cases b with
      | true => exact .scalar rfl
      | false => exact .scalar rfl
  | int n =>
      cases hfits with
      | int low high =>
          obtain ⟨c, t, hc, hspace, -⟩ := exists_writeAt_cons (v := .int n) rfl level
          refine .scalar ?_
          rw [hc, List.cons_append, skipSpace_cons hspace, ← List.cons_append, ← hc]
          exact scalar_intText low high hrest
  | double x => cases hexact
  | str s => exact .scalar (scalar_quote s rest)
  | arr vs ih =>
      rw [Value.isExact_arr] at hexact
      cases hfits with
      | arr hfits hd =>
          cases vs with
          | nil => exact .list rfl hd (.noElement rfl)
          | cons v vs =>
              exact .writeElements hd hexact
                (fun w hw rest => ih w hw (hexact w hw) (hfits w hw) (level + 1)) rest
  | obj fs ih =>
      rw [Value.isExact_obj] at hexact
      cases hfits with
      | obj hfits hd =>
          cases fs with
          | nil => exact .object rfl hd (.noField rfl)
          | cons f fs =>
              exact .writeFields hd
                (fun g hg rest => ih g hg (hexact g hg) (hfits g hg) (level + 1)) rest

/-- The text of a value is read as that value. -/
theorem Value.parse_write {v : Value} (hexact : v.isExact) (hfits : v.Fits maxDepth)
    (hrest : Delimited rest) (hspace : skipSpace rest = []) :
    Value.parse (v.write ++ rest) = .ok v :=
  Value.parse_eq_ok.2 ⟨rest, .writeAt hexact hfits 0 hrest, hspace⟩

end CellScript.Json
