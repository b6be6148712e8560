import CellScript.Cell.Basic
import CellScript.Proofs.Block.Content

set_option autoImplicit false

/-! # Normal forms of cells

A script cannot hold everything that a notebook cell can: `Cell.normal` says what is left of a cell
that went through one. Its lines are tidied; of code, placeholders go, comments that stand for lines
the notebook runs itself become such lines, and empty lines at the end go; of prose, blank lines go
at both ends. -/

namespace CellScript

/-- A line without a carriage return at its end; nothing if it is blank. -/
def tidyLine (t : Text) : Text := if Text.isBlank t then [] else Text.dropReturn t

/-- Code in normal form. -/
def normalCode (content : List Text) : List Text :=
  dropEmptyEnd ((content.map tidyLine).filterMap keptLine?)

/-- Prose in normal form. -/
def normalProse (content : List Text) : List Text := dropBlankEnds (content.map tidyLine)

/-- A cell in normal form. -/
def Cell.normal (c : Cell) : Cell :=
  match c.kind with
  | .executable => ⟨.executable, normalCode c.content⟩
  | .prose => ⟨.prose, normalProse c.content⟩
  | .sandbox => c

/-! ## Tidy lines -/

theorem tidyLine_of_isBlank {t : Text} (h : Text.isBlank t = true) : tidyLine t = [] := if_pos h

theorem tidyLine_of_not_isBlank {t : Text} (h : Text.isBlank t = false) :
    tidyLine t = Text.dropReturn t := by
  rw [tidyLine, if_neg (by simp [h])]

theorem tidyLine_eq_self {t : Text} (hblank : t = [] ∨ Text.isBlank t = false) (hr : '\r' ∉ t) :
    tidyLine t = t := by
  rcases hblank with rfl | h
  · rfl
  · rw [tidyLine_of_not_isBlank h, Text.dropReturn_of_not_mem hr]

theorem tidyLine_escapeLine (t : Text) : tidyLine (escapeLine t) = escapeLine (tidyLine t) := by
  cases h : Text.isBlank t with
  | true =>
      rw [tidyLine_of_isBlank (by rwa [isBlank_escapeLine]), tidyLine_of_isBlank h]
      rfl
  | false =>
      rw [tidyLine_of_not_isBlank (by rwa [isBlank_escapeLine]), tidyLine_of_not_isBlank h,
        dropReturn_escapeLine]

theorem decodeProse_tidyLine_encodeProse (t : Text) :
    decodeProse (tidyLine (encodeProse t)) = tidyLine t := by
  cases h : Text.isBlank t with
  | true =>
      rw [tidyLine_of_isBlank (by rwa [isBlank_encodeProse]), tidyLine_of_isBlank h]
      rfl
  | false =>
      rw [tidyLine_of_not_isBlank (by rwa [isBlank_encodeProse]), tidyLine_of_not_isBlank h,
        dropReturn_encodeProse, decodeProse_encodeProse]

/-! ## Kept lines -/

theorem keptLine?_nil : keptLine? [] = some [] := by decide

theorem keptLine?_placeholder : keptLine? placeholder = none := by decide

/-- A line that begins like no placeholder is kept. -/
theorem keptLine?_of_head {c : Char} (hp : c ≠ 'p') (hb : Text.isBlankChar c = false) (t : Text) :
    keptLine? (c :: t) = some (unescapeLine (c :: t)) := by
  unfold keptLine?
  rw [if_neg]
  intro h
  -- trimming cuts at the end only, so it keeps the first character
  have hhead : (Text.trimEnd (c :: t)).head? = some c := by
    show ((c :: t).rdropWhile Text.isBlankChar).head? = some c
    obtain ⟨u, hu⟩ : (c :: t).rdropWhile Text.isBlankChar <+: c :: t := List.rdropWhile_prefix _ _
    cases hr : (c :: t).rdropWhile Text.isBlankChar with
    | nil =>
        have hblank := List.rdropWhile_eq_nil_iff.mp hr c List.mem_cons_self
        rw [hb] at hblank
        cases hblank
    | cons d v =>
        rw [hr] at hu
        rw [List.head?_cons, (List.cons.inj hu).1]
  rw [h] at hhead
  exact hp (Option.some.inj hhead).symm

/-- Reading forgets whether a line was escaped. -/
theorem keptLine?_escapeLine (t : Text) : keptLine? (escapeLine t) = keptLine? t := by
  rcases escapeLine_cases t with h | ⟨c, u, rfl, hc, h⟩
  · rw [h]
  · have hp : c ≠ 'p' := by rcases hc with rfl | rfl <;> decide
    have hb : Text.isBlankChar c = false := by rcases hc with rfl | rfl <;> decide
    rw [h, keptLine?_of_head (by decide) (by decide), keptLine?_of_head hp hb]
    rcases hc with rfl | rfl <;> rfl

theorem filterMap_keptLine?_escapeLine (content : List Text) :
    ((content.map escapeLine).map tidyLine).filterMap keptLine? =
      (content.map tidyLine).filterMap keptLine? := by
  have hline : ∀ t : Text, keptLine? (tidyLine (escapeLine t)) = keptLine? (tidyLine t) := by
    intro t
    rw [tidyLine_escapeLine, keptLine?_escapeLine]
  induction content with
  | nil => rfl
  | cons t ts ih =>
      simp only [List.map_cons, List.filterMap_cons, hline, ih]

/-! ## Ends -/

theorem dropBlankEnds_eq (ts : List Text) :
    dropBlankEnds ts = (ts.rdropWhile Text.isBlank).dropWhile Text.isBlank := rfl

/-- A list is what `rdropWhile` leaves of it and a rest that it drops. -/
theorem exists_rdropWhile_append {α : Type} (p : α → Bool) (l : List α) :
    ∃ rest, l = l.rdropWhile p ++ rest ∧ ∀ x ∈ rest, p x = true := by
  refine ⟨(l.reverse.takeWhile p).reverse, ?_, ?_⟩
  · rw [List.rdropWhile, ← List.reverse_append, List.takeWhile_append_dropWhile,
      List.reverse_reverse]
  · intro x hx
    exact List.mem_takeWhile_imp (List.mem_reverse.mp hx)

theorem rdropWhile_append_of_all {α : Type} {p : α → Bool} {rest : List α}
    (h : ∀ x ∈ rest, p x = true) (l : List α) :
    (l ++ rest).rdropWhile p = l.rdropWhile p := by
  have hall : ∀ x ∈ rest.reverse, p x = true := fun x hx => h x (List.mem_reverse.mp hx)
  rw [List.rdropWhile, List.reverse_append, List.dropWhile_append_of_pos hall, List.rdropWhile]

theorem dropEmptyEnd_append {rest : List Text} (h : ∀ t ∈ rest, t = []) (ts : List Text) :
    dropEmptyEnd (ts ++ rest) = dropEmptyEnd ts :=
  rdropWhile_append_of_all (fun t ht => by rw [h t ht]; rfl) ts

/-- Blank lines around prose go with its blank ends. -/
theorem dropBlankEnds_append {before after : List Text}
    (hbefore : ∀ t ∈ before, Text.isBlank t = true) (hafter : ∀ t ∈ after, Text.isBlank t = true)
    (ts : List Text) : dropBlankEnds (before ++ ts ++ after) = dropBlankEnds ts := by
  rw [dropBlankEnds_eq, dropBlankEnds_eq, rdropWhile_append_of_all hafter]
  by_cases hall : ∀ t ∈ ts, Text.isBlank t = true
  · -- nothing stands between the ends, so what is before goes with the end as well
    have hts : ts.rdropWhile Text.isBlank = [] := List.rdropWhile_eq_nil_iff.mpr hall
    have hboth : (before ++ ts).rdropWhile Text.isBlank = [] := by
      rw [rdropWhile_append_of_all hall, List.rdropWhile_eq_nil_iff]
      exact hbefore
    rw [hts, hboth]
  · -- the cut at the end does not get to what is before
    have hkeep : (before ++ ts).rdropWhile Text.isBlank =
        before ++ ts.rdropWhile Text.isBlank := by
      have hne : ts.reverse.dropWhile Text.isBlank ≠ [] := by
        rw [Ne, List.dropWhile_eq_nil_iff]
        simpa using hall
      rw [List.rdropWhile, List.reverse_append, List.dropWhile_append,
        if_neg (by simpa using hne), List.reverse_append, List.reverse_reverse, List.rdropWhile]
    rw [hkeep, List.dropWhile_append_of_pos hbefore]

end CellScript
