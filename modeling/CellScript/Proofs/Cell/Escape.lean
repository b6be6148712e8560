import CellScript.Cell.Escape
import CellScript.Proofs.Text.Blank

set_option autoImplicit false

/-! # Escapes and their inverses

`decodeProse_encodeProse` reads an encoded prose line back as it was. The encoding is followed along
`encodeProse_triple`, `encodeProse_backslash` and `encodeProse_plain`, one equation for each thing
that a line can begin with; line ends and blanks are among what it leaves alone. Decoding goes
through a text wherever no escape is cut in two, `decodeProse_append`; `encodeProse_lossless` puts
both together. -/

namespace CellScript

/-! ## Lines that the notebook runs itself -/

/-- A line is either left as it is, or it becomes a comment that stands for it. -/
theorem escapeLine_cases (t : Text) :
    escapeLine t = t ∨ ∃ c u, t = c :: u ∧ (c = '!' ∨ c = '%') ∧ escapeLine t = '#' :: t := by
  unfold escapeLine
  split
  · exact Or.inr ⟨_, _, rfl, Or.inl rfl, rfl⟩
  · exact Or.inr ⟨_, _, rfl, Or.inr rfl, rfl⟩
  · exact Or.inl rfl

theorem mem_escapeLine {d : Char} (hd : d ≠ '#') {t : Text} : d ∈ escapeLine t ↔ d ∈ t := by
  rcases escapeLine_cases t with h | ⟨c, u, rfl, -, h⟩
  · rw [h]
  · rw [h, List.mem_cons, or_iff_right hd]

@[simp] theorem isBlank_escapeLine (t : Text) : Text.isBlank (escapeLine t) = Text.isBlank t := by
  rcases escapeLine_cases t with h | ⟨c, u, rfl, hc, h⟩
  · rw [h]
  · have hc' : Text.isBlankChar c = false := by rcases hc with rfl | rfl <;> decide
    have hash : Text.isBlankChar '#' = false := by decide
    rw [h]
    simp [Text.isBlank, hc', hash]

theorem dropReturn_escapeLine (t : Text) :
    Text.dropReturn (escapeLine t) = escapeLine (Text.dropReturn t) := by
  cases t with
  | nil => rfl
  | cons c u =>
      by_cases hc : c = '!' ∨ c = '%'
      · have hu : ∀ v : Text, escapeLine (c :: v) = '#' :: c :: v := by
          rcases hc with rfl | rfl <;> exact fun v => rfl
        -- the mark is no carriage return, so the end of the line is that of its rest
        have hdrop : Text.dropReturn (c :: u) = c :: Text.dropReturn u := by
          cases u with
          | nil => rcases hc with rfl | rfl <;> rfl
          | cons d v => exact Text.dropReturn_append (List.cons_ne_nil d v) [c]
        rw [hu, hdrop, hu, ← hdrop]
        exact Text.dropReturn_append (List.cons_ne_nil c u) ['#']
      · -- neither the line nor what is left of it begins with a mark
        have hself : ∀ t : Text, t.head? = some c ∨ t = [] → escapeLine t = t := by
          intro t ht
          rcases escapeLine_cases t with h | ⟨d, v, rfl, hd, -⟩
          · exact h
          · simp only [List.head?_cons, Option.some.injEq, reduceCtorEq, or_false] at ht
            exact absurd (ht ▸ hd) hc
        rw [hself (c :: u) (Or.inl rfl), hself]
        rcases Text.dropReturn_cases (c :: u) with h | h
        · exact Or.inl (by rw [h]; rfl)
        · cases hd : Text.dropReturn (c :: u) with
          | nil => exact Or.inr rfl
          | cons d v =>
              rw [hd] at h
              exact Or.inl (by simp [(List.cons.inj h).1])

/-! ## Encoded prose -/

/-- Whether a text begins with three double quotes. -/
def startsTriple (t : Text) : Bool := ['"', '"', '"'].isPrefixOf t

theorem breakTripleQuotes_cons {c : Char} {t : Text} (h : startsTriple (c :: t) = false) :
    breakTripleQuotes (c :: t) = c :: breakTripleQuotes t := by
  rw [breakTripleQuotes]
  rintro u rfl rfl
  simp [startsTriple] at h

theorem doubleBackslashes_cons (c : Char) (t : Text) :
    doubleBackslashes (c :: t) = (if c = '\\' then ['\\', '\\'] else [c]) ++ doubleBackslashes t :=
  List.flatMap_cons

theorem encodeProse_triple (t : Text) :
    encodeProse ('"' :: '"' :: '"' :: t) =
      '\\' :: '"' :: '\\' :: '"' :: '\\' :: '"' :: encodeProse t := rfl

theorem encodeProse_backslash (t : Text) :
    encodeProse ('\\' :: t) = '\\' :: '\\' :: encodeProse t := by
  have hfirst : ∀ u : Text, startsTriple ('\\' :: u) = false := fun u => rfl
  rw [encodeProse, doubleBackslashes_cons, if_pos rfl, List.cons_append, List.singleton_append,
    breakTripleQuotes_cons (hfirst _), breakTripleQuotes_cons (hfirst _), ← encodeProse]

/-- Doubling backslashes neither makes nor hides three quotes at the start. -/
theorem startsTriple_doubleBackslashes (t : Text) :
    startsTriple (doubleBackslashes t) = startsTriple t := by
  have hhead : ∀ (q : Text) (c : Char) (u : Text), c ≠ '"' →
      ('"' :: q).isPrefixOf (doubleBackslashes (c :: u)) = ('"' :: q).isPrefixOf (c :: u) := by
    intro q c u hc
    have hq : ('"' == c) = false := by simpa using hc.symm
    rw [doubleBackslashes_cons]
    by_cases hb : c = '\\'
    · simp [hb, List.isPrefixOf]
    · simp [hb, List.isPrefixOf, hq]
  have hquote : ∀ (q u : Text), ('"' :: q).isPrefixOf (doubleBackslashes ('"' :: u)) =
      q.isPrefixOf (doubleBackslashes u) := by
    intro q u
    simp [doubleBackslashes_cons]
  have hstep : ∀ q t : Text, (∀ u : Text, q.isPrefixOf (doubleBackslashes u) = q.isPrefixOf u) →
      ('"' :: q).isPrefixOf (doubleBackslashes t) = ('"' :: q).isPrefixOf t := by
    intro q t ih
    cases t with
    | nil => rfl
    | cons c u =>
        by_cases hc : c = '"'
        · subst hc
          rw [hquote, ih]
          simp [List.isPrefixOf]
        · exact hhead q c u hc
  -- one step for each of the three quotes
  exact hstep _ t fun u => hstep _ u fun v => hstep _ v fun w => by cases w <;> rfl

theorem encodeProse_plain {c : Char} {t : Text} (hc : c ≠ '\\')
    (h : startsTriple (c :: t) = false) : encodeProse (c :: t) = c :: encodeProse t := by
  have hd : doubleBackslashes (c :: t) = c :: doubleBackslashes t := by
    simp [doubleBackslashes_cons, hc]
  have hs : startsTriple (c :: doubleBackslashes t) = false := by
    rw [← hd, startsTriple_doubleBackslashes, h]
  rw [encodeProse, hd, breakTripleQuotes_cons hs, ← encodeProse]

/-- Induction along what a prose line begins with, as its encoding sees it. -/
theorem prose_induction {motive : Text → Prop} (nil : motive [])
    (triple : ∀ t, motive t → motive ('"' :: '"' :: '"' :: t))
    (backslash : ∀ t, motive t → motive ('\\' :: t))
    (plain : ∀ c t, c ≠ '\\' → startsTriple (c :: t) = false → motive t → motive (c :: t)) :
    ∀ t, motive t := by
  intro t
  induction hn : t.length using Nat.strong_induction_on generalizing t with
  | _ n ih =>
      cases t with
      | nil => exact nil
      | cons c u =>
          by_cases hc : c = '\\'
          · subst hc
            exact backslash u (ih u.length (by simp [← hn]) u rfl)
          · cases hs : startsTriple (c :: u) with
            | false => exact plain c u hc hs (ih u.length (by simp [← hn]) u rfl)
            | true =>
                obtain ⟨v, hv⟩ := List.isPrefixOf_iff_prefix.mp hs
                obtain ⟨rfl, rfl⟩ : '"' = c ∧ '"' :: '"' :: v = u := by simpa using hv
                exact triple v (ih v.length (by simp [← hn]; omega) v rfl)

theorem decodeProse_cons {c : Char} (hc : c ≠ '\\') (t : Text) :
    decodeProse (c :: t) = c :: decodeProse t := by
  rw [decodeProse] <;> intros <;> exact absurd ‹_› hc

/-- **Decoding undoes encoding.** -/
theorem decodeProse_encodeProse (t : Text) : decodeProse (encodeProse t) = t := by
  induction t using prose_induction with
  | nil => rfl
  | triple t ih =>
      rw [encodeProse_triple]
      simp only [decodeProse, ih]
  | backslash t ih =>
      rw [encodeProse_backslash]
      simp only [decodeProse, ih]
  | plain c t hc hs ih => rw [encodeProse_plain hc hs, decodeProse_cons hc, ih]

theorem startsTriple_append_return (t : Text) : startsTriple (t ++ ['\r']) = startsTriple t := by
  match t with
  | [] | [_] | [_, _] => simp [startsTriple, List.isPrefixOf]
  | _ :: _ :: _ :: _ => rfl

theorem encodeProse_append_return (t : Text) :
    encodeProse (t ++ ['\r']) = encodeProse t ++ ['\r'] := by
  induction t using prose_induction with
  | nil => rfl
  | triple t ih => simp only [List.cons_append, encodeProse_triple, ih]
  | backslash t ih => simp only [List.cons_append, encodeProse_backslash, ih]
  | plain c t hc hs ih =>
      have hs' : startsTriple (c :: (t ++ ['\r'])) = false := by
        rw [← List.cons_append, startsTriple_append_return, hs]
      rw [List.cons_append, encodeProse_plain hc hs', ih, encodeProse_plain hc hs,
        List.cons_append]

theorem getLast?_encodeProse (t : Text) : (encodeProse t).getLast? = t.getLast? := by
  induction t using prose_induction with
  | nil => rfl
  | triple t ih => simp [encodeProse_triple, List.getLast?_cons, ih]
  | backslash t ih => simp [encodeProse_backslash, List.getLast?_cons, ih]
  | plain c t hc hs ih => simp [encodeProse_plain hc hs, List.getLast?_cons, ih]

theorem dropReturn_encodeProse (t : Text) :
    Text.dropReturn (encodeProse t) = encodeProse (Text.dropReturn t) := by
  by_cases h : t.getLast? = some '\r'
  · obtain ⟨u, rfl⟩ := List.getLast?_eq_some_iff.mp h
    rw [encodeProse_append_return, Text.dropReturn_append_return, Text.dropReturn_append_return]
  · rw [Text.dropReturn_of_getLast?_ne h,
      Text.dropReturn_of_getLast?_ne (by rwa [getLast?_encodeProse])]

theorem mem_encodeProse {d : Char} (hd : d ≠ '\\') (t : Text) : d ∈ encodeProse t ↔ d ∈ t := by
  induction t using prose_induction with
  | nil => rfl
  | triple t ih => simp [encodeProse_triple, ih, hd]
  | backslash t ih => simp [encodeProse_backslash, ih, hd]
  | plain c t hc hs ih => simp [encodeProse_plain hc hs, ih]

@[simp] theorem isBlank_encodeProse (t : Text) :
    Text.isBlank (encodeProse t) = Text.isBlank t := by
  have hslash : Text.isBlankChar '\\' = false := by decide
  have hquote : Text.isBlankChar '"' = false := by decide
  induction t using prose_induction with
  | nil => rfl
  | triple t ih => simp [encodeProse_triple, Text.isBlank, hslash, hquote]
  | backslash t ih => simp [encodeProse_backslash, Text.isBlank, hslash]
  | plain c t hc hs ih =>
      rw [encodeProse_plain hc hs, Text.isBlank_cons, Text.isBlank_cons, ih]

/-! ## Decoded prose -/

@[simp] theorem isBlank_decodeProse (t : Text) :
    Text.isBlank (decodeProse t) = Text.isBlank t := by
  have hslash : Text.isBlankChar '\\' = false := by decide
  have hquote : Text.isBlankChar '"' = false := by decide
  fun_induction decodeProse t with
  | case1 t ih => simp [Text.isBlank, hslash]
  | case2 t ih => simp [Text.isBlank, hslash, hquote]
  | case3 c t _ _ ih => simp [Text.isBlank, hslash]
  | case4 c t _ _ _ ih => rw [Text.isBlank_cons, Text.isBlank_cons, ih]
  | case5 => rfl

theorem mem_of_mem_decodeProse {d : Char} {t : Text} (h : d ∈ decodeProse t) : d ∈ t := by
  fun_induction decodeProse t with
  | case1 t ih | case2 t ih =>
      rcases List.mem_cons.mp h with rfl | h
      · simp
      · exact List.mem_cons_of_mem _ (List.mem_cons_of_mem _ (ih h))
  | case3 c t _ _ ih =>
      rcases List.mem_cons.mp h with rfl | h
      · exact List.mem_cons_self
      · rcases List.mem_cons.mp h with rfl | h
        · simp
        · exact List.mem_cons_of_mem _ (List.mem_cons_of_mem _ (ih h))
  | case4 c t _ _ _ ih =>
      rcases List.mem_cons.mp h with rfl | h
      · exact List.mem_cons_self
      · exact List.mem_cons_of_mem _ (ih h)
  | case5 => exact h

/-- How many backslashes a text ends in. If they are odd in number, the last one begins an escape
that is not complete. -/
def endingBackslashes (t : Text) : Nat := (t.reverse.takeWhile (· == '\\')).length

/-- Only what comes after a character that is no backslash counts. -/
theorem endingBackslashes_append_cons {c : Char} (hc : c ≠ '\\') (s t : Text) :
    endingBackslashes (s ++ c :: t) = endingBackslashes t := by
  have hstop : (c :: s.reverse).takeWhile (· == '\\') = [] := by simp [hc]
  have hfront : (s ++ c :: t).reverse = t.reverse ++ c :: s.reverse := by simp
  rw [endingBackslashes, hfront, List.takeWhile_append, hstop, List.append_nil]
  split
  · rename_i hall
    rw [endingBackslashes, hall]
  · rfl

/-- Two more backslashes at the front are two more at the end, or none. -/
theorem endingBackslashes_pair (t : Text) :
    endingBackslashes ('\\' :: '\\' :: t) % 2 = endingBackslashes t % 2 := by
  have hfront : ('\\' :: '\\' :: t).reverse = t.reverse ++ ['\\', '\\'] := by simp
  rw [endingBackslashes, hfront, List.takeWhile_append]
  split
  · rename_i hall
    have hpair : (['\\', '\\'] : Text).takeWhile (· == '\\') = ['\\', '\\'] := by decide
    rw [hpair, List.length_append, endingBackslashes, hall]
    exact Nat.add_mod_right _ 2
  · rfl

/-- Where no escape is cut in two, both sides are decoded on their own. -/
theorem decodeProse_append {s : Text} (h : endingBackslashes s % 2 = 0) (t : Text) :
    decodeProse (s ++ t) = decodeProse s ++ decodeProse t := by
  fun_induction decodeProse s with
  | case1 s ih =>
      rw [endingBackslashes_pair] at h
      simp only [List.cons_append, decodeProse, ih h]
  | case2 s ih =>
      have hs := endingBackslashes_append_cons (c := '"') (by decide) ['\\'] s
      simp only [List.cons_append, decodeProse, ih (hs ▸ h)]
  | case3 c s hc hq ih =>
      have hs := endingBackslashes_append_cons (c := c) hc ['\\'] s
      rw [List.cons_append, List.cons_append, decodeProse, ih (hs ▸ h)]
      · rfl
      · exact hc
      · exact hq
  | case4 c s h1 h2 h3 ih =>
      have hc : c ≠ '\\' := by
        rintro rfl
        -- a lone backslash is one at the end
        cases s with
        | nil => exact absurd h (by decide)
        | cons d s => exact h3 d s rfl rfl
      have hs := endingBackslashes_append_cons hc [] s
      rw [List.cons_append, decodeProse_cons hc, ih (hs ▸ h), List.cons_append]
  | case5 => rfl

/-- **Decoding gives back every line that was encoded**, so no two lines are encoded alike. Decoding
takes a backslash off a backslash and off a quote; a backslash that begins an escape of any other
character, or stands at the end with nothing to escape, is kept. -/
theorem encodeProse_lossless :
    (∀ t : Text, decodeProse (encodeProse t) = t) ∧ Function.Injective encodeProse ∧
      ∀ s : Text, endingBackslashes s % 2 = 0 →
        (∀ c t, c = '\\' ∨ c = '"' →
          decodeProse (s ++ '\\' :: c :: t) = decodeProse s ++ c :: decodeProse t) ∧
        (∀ c t, c ≠ '\\' → c ≠ '"' →
          decodeProse (s ++ '\\' :: c :: t) = decodeProse s ++ '\\' :: c :: decodeProse t) ∧
        decodeProse (s ++ ['\\']) = decodeProse s ++ ['\\'] := by
  refine ⟨decodeProse_encodeProse, Function.LeftInverse.injective decodeProse_encodeProse,
    fun s hs => ⟨fun c t hc => ?_, fun c t hc hq => ?_, ?_⟩⟩
  · rw [decodeProse_append hs]
    rcases hc with rfl | rfl
    · rw [decodeProse]
    · rw [decodeProse]
  · rw [decodeProse_append hs, decodeProse]
    · exact hc
    · exact hq
  · exact decodeProse_append hs ['\\']

/-- After a complete escape, a backslash before a letter and one at the end are kept. -/
theorem encodeProse_lossless_letter :
    endingBackslashes "\\\\".toList % 2 = 0 ∧
      decodeProse (encodeProse "\\\"\"\"\"".toList) = "\\\"\"\"\"".toList ∧
      decodeProse ("\\\\".toList ++ "\\alpha".toList) = "\\\\alpha".toList ∧
      decodeProse ("\\\\".toList ++ ['\\']) = "\\\\".toList := by
  have hs : endingBackslashes "\\\\".toList % 2 = 0 := by decide
  obtain ⟨hdecode, -, hkept⟩ := encodeProse_lossless
  obtain ⟨-, hletter, hend⟩ := hkept _ hs
  exact ⟨hs, hdecode _, hletter 'a' "lpha".toList (by decide) (by decide), hend⟩

end CellScript
