import Mathlib.Data.List.DropRight
import Mathlib.Data.List.TakeWhile
import CellScript.Text.Line

set_option autoImplicit false

/-! # Rows and lines of a text

`Text.rows` takes a text apart at its line feeds and nothing is lost: `rows_append` says where the
pieces come from and `length_rows` counts them. `lines_joinWith` is the reason why a cell survives
being joined: lines that hold no line end, the last of them not empty, are the lines of their join,
whichever line end stands between them. -/

namespace CellScript.Text

/-! ## Rows -/

theorem rows_ne_nil (t : Text) : rows t ≠ [] := by
  cases t with
  | nil => simp [rows]
  | cons c cs =>
      simp only [rows]
      split
      · simp
      · split <;> simp

theorem rows_cons_of_ne {c : Char} (h : c ≠ '\n') (t : Text) :
    ∃ r rs, rows t = r :: rs ∧ rows (c :: t) = (c :: r) :: rs := by
  obtain ⟨r, rs, hr⟩ := List.exists_cons_of_ne_nil (rows_ne_nil t)
  exact ⟨r, rs, hr, by simp only [rows, if_neg h, hr]⟩

/-- A line feed ends a row; what stands after it is cut on its own. -/
theorem rows_append (s t : Text) : rows (s ++ '\n' :: t) = rows s ++ rows t := by
  induction s with
  | nil => simp [rows]
  | cons c cs ih =>
      by_cases hc : c = '\n'
      · simp only [List.cons_append, rows, if_pos hc, ih]
      · obtain ⟨r, rs, hr, hcr⟩ := rows_cons_of_ne hc cs
        rw [List.cons_append, hcr]
        simp only [rows, if_neg hc, ih, hr, List.cons_append]

theorem rows_of_not_mem {t : Text} (h : '\n' ∉ t) : rows t = [t] := by
  induction t with
  | nil => rfl
  | cons c cs ih =>
      have hc : c ≠ '\n' := (List.ne_of_not_mem_cons h).symm
      simp only [rows, if_neg hc, ih (List.not_mem_of_not_mem_cons h)]

/-- A row and its line feed stand before the rows of the rest. -/
theorem rows_line {t : Text} (h : '\n' ∉ t) (u : Text) : rows (t ++ '\n' :: u) = t :: rows u := by
  rw [rows_append, rows_of_not_mem h]
  rfl

/-- A text without a line feed only lengthens the first row of what follows it. -/
theorem rows_prepend {p t r : Text} {rs : List Text} (hp : '\n' ∉ p) (h : rows t = r :: rs) :
    rows (p ++ t) = (p ++ r) :: rs := by
  induction p with
  | nil => exact h
  | cons c cs ih =>
      have hc : c ≠ '\n' := (List.ne_of_not_mem_cons hp).symm
      rw [List.cons_append, rows, if_neg hc, ih (List.not_mem_of_not_mem_cons hp)]
      rfl

/-- A text without a line feed only lengthens the last row of what stands before it. -/
theorem rows_append_last {t s r : Text} {rs : List Text} (hs : '\n' ∉ s)
    (h : rows t = rs ++ [r]) : rows (t ++ s) = rs ++ [r ++ s] := by
  induction t generalizing rs r with
  | nil =>
      obtain ⟨hrs, hr⟩ := List.append_inj' (show [] ++ [[]] = rs ++ [r] from h) rfl
      rw [← hrs, ← List.singleton_inj.1 hr]
      exact rows_of_not_mem hs
  | cons c cs ih =>
      by_cases hc : c = '\n'
      · rw [rows, if_pos hc] at h
        cases rs with
        | nil => exact absurd (List.cons.inj h).2 (rows_ne_nil cs)
        | cons r' rs =>
            obtain ⟨rfl, hcs⟩ := List.cons.inj h
            rw [List.cons_append, rows, if_pos hc, ih hcs]
            rfl
      · obtain ⟨r₀, rs₀, hrows, hcons⟩ := rows_cons_of_ne hc cs
        rw [hcons] at h
        cases rs with
        | nil =>
            obtain ⟨rfl, rfl⟩ := List.cons.inj h
            have hcut : rows (cs ++ s) = [r₀ ++ s] := @ih r₀ [] hrows
            rw [List.cons_append, rows, if_neg hc, hcut]
            rfl
        | cons r' rs =>
            obtain ⟨rfl, rfl⟩ := List.cons.inj h
            have hcut : rows (cs ++ s) = r₀ :: (rs ++ [r ++ s]) := @ih r (r₀ :: rs) hrows
            rw [List.cons_append, rows, if_neg hc, hcut]
            rfl

/-- The rows of a text between two others that hold no line feed. Only the first and the last of
them change. -/
theorem forall_rows_between_iff {P : Text → Prop} {p t s : Text} (hp : '\n' ∉ p) (hs : '\n' ∉ s)
    (hP : ∀ u, P (p ++ u)) :
    (∀ r ∈ rows (p ++ (t ++ s)), P r) ↔
      (∀ r ∈ (rows t).tail.dropLast, P r) ∧ ∀ r ∈ (rows t).tail.getLast?, P (r ++ s) := by
  obtain ⟨first, rest, hrows⟩ := List.exists_cons_of_ne_nil (rows_ne_nil t)
  rw [hrows, List.tail_cons]
  rcases List.eq_nil_or_concat' rest with rfl | ⟨middle, last, rfl⟩
  · have hcut : rows (t ++ s) = [] ++ [first ++ s] := rows_append_last hs hrows
    rw [rows_prepend hp hcut]
    simpa using hP (first ++ s)
  · have hcut : rows (t ++ s) = first :: middle ++ [last ++ s] := rows_append_last hs hrows
    rw [rows_prepend hp hcut]
    simp [hP, or_imp, forall_and]

theorem length_rows (t : Text) : (rows t).length = t.count '\n' + 1 := by
  induction t with
  | nil => rfl
  | cons c cs ih =>
      by_cases hc : c = '\n'
      · simp only [rows, if_pos hc, List.length_cons, ih]
        rw [hc, List.count_cons_self]
      · obtain ⟨r, rs, hr, hcr⟩ := rows_cons_of_ne hc cs
        rw [hcr, List.count_cons_of_ne hc, ← ih, hr]
        rfl

theorem not_mem_of_mem_rows {t r : Text} (h : r ∈ rows t) : '\n' ∉ r := by
  induction t generalizing r with
  | nil => simp_all [rows]
  | cons c cs ih =>
      by_cases hc : c = '\n'
      · simp only [rows, if_pos hc, List.mem_cons] at h
        rcases h with rfl | h
        · simp
        · exact ih h
      · obtain ⟨s, rs, hs, hcr⟩ := rows_cons_of_ne hc cs
        rw [hcr, List.mem_cons] at h
        rcases h with rfl | h
        · exact List.not_mem_cons_of_ne_of_not_mem (Ne.symm hc) (ih (by rw [hs]; simp))
        · exact ih (by rw [hs]; exact List.mem_cons_of_mem s h)

/-- A text whose last character is a line feed only adds rows of its own before what follows. -/
theorem rows_append_eq_of_closed {s : Text} (h : s = [] ∨ s.getLast? = some '\n') (t : Text) :
    rows (s ++ t) = (rows s).dropLast ++ rows t := by
  rcases h with rfl | h
  · rfl
  · obtain ⟨u, rfl⟩ := List.getLast?_eq_some_iff.mp h
    have hrows : rows (u ++ ['\n']) = rows u ++ [[]] := rows_append u []
    rw [List.append_assoc, List.singleton_append, rows_append, hrows, List.dropLast_concat]

theorem length_dropLast_rows (t : Text) : (rows t).dropLast.length = t.count '\n' := by
  rw [List.length_dropLast, length_rows, Nat.add_sub_cancel]

theorem rows_append_of_closed {s : Text} (h : s = [] ∨ s.getLast? = some '\n') (t : Text) :
    ∃ rs, rows (s ++ t) = rs ++ rows t ∧ rs.length = s.count '\n' :=
  ⟨(rows s).dropLast, rows_append_eq_of_closed h t, length_dropLast_rows s⟩

/-- Pieces that each end in a line feed make a text that does, unless there are none. -/
theorem closed_flatMap {α : Type} {f : α → Text} (hf : ∀ a, (f a).getLast? = some '\n')
    (as : List α) : as.flatMap f = [] ∨ (as.flatMap f).getLast? = some '\n' := by
  induction as with
  | nil => exact .inl rfl
  | cons a as ih =>
      refine .inr ?_
      rw [List.flatMap_cons]
      rcases ih with hnil | hlast
      · rw [hnil, List.append_nil, hf a]
      · rw [List.getLast?_append_of_ne_nil _ (List.ne_nil_of_mem (List.mem_of_getLast? hlast)),
          hlast]

/-! ## Ends of lines -/

theorem dropSuffix?_eq_some_iff {tail t u : Text} :
    dropSuffix? tail t = some u ↔ t = u ++ tail := by
  unfold dropSuffix?
  constructor
  · intro h
    split at h
    · next hp =>
        obtain ⟨s, hs⟩ := List.isPrefixOf_iff_prefix.mp hp
        have ht : t = s.reverse ++ tail := by
          have := congrArg List.reverse hs
          simpa using this.symm
        rw [ht] at h
        have hu : s.reverse = u := by simpa [ht] using h
        rw [ht, hu]
    · simp at h
  · rintro rfl
    rw [if_pos (by simp)]
    simp

theorem dropReturn_append_return (t : Text) : dropReturn (t ++ ['\r']) = t := by
  have h : dropSuffix? ['\r'] (t ++ ['\r']) = some t := dropSuffix?_eq_some_iff.mpr rfl
  simp [dropReturn, h]

theorem dropReturn_of_getLast?_ne {t : Text} (h : t.getLast? ≠ some '\r') : dropReturn t = t := by
  unfold dropReturn
  cases hd : dropSuffix? ['\r'] t with
  | none => rfl
  | some u =>
      rw [dropSuffix?_eq_some_iff] at hd
      exact absurd (by simp [hd]) h

/-- Either a text does not end in a carriage return, or it loses exactly that one. -/
theorem dropReturn_cases (t : Text) : dropReturn t = t ∨ t = dropReturn t ++ ['\r'] := by
  by_cases h : t.getLast? = some '\r'
  · obtain ⟨u, rfl⟩ := List.getLast?_eq_some_iff.mp h
    exact Or.inr (by rw [dropReturn_append_return])
  · exact Or.inl (dropReturn_of_getLast?_ne h)

theorem dropReturn_of_not_mem {t : Text} (h : '\r' ∉ t) : dropReturn t = t :=
  dropReturn_of_getLast?_ne fun hl => h (List.mem_of_getLast? hl)

theorem dropReturn_append {t : Text} (h : t ≠ []) (s : Text) :
    dropReturn (s ++ t) = s ++ dropReturn t := by
  rcases dropReturn_cases t with ht | ht
  · have hlast : t.getLast? ≠ some '\r' := by
      intro hl
      obtain ⟨u, rfl⟩ := List.getLast?_eq_some_iff.mp hl
      rw [dropReturn_append_return] at ht
      simpa using congrArg List.length ht
    rw [ht, dropReturn_of_getLast?_ne]
    rwa [List.getLast?_append_of_ne_nil _ h]
  · rw [ht, ← List.append_assoc, dropReturn_append_return, dropReturn_append_return]

theorem dropReturn_append_of_not_mem {p : Text} (hp : '\r' ∉ p) (t : Text) :
    dropReturn (p ++ t) = p ++ dropReturn t := by
  cases t with
  | nil =>
      rw [List.append_nil, dropReturn_of_not_mem hp]
      exact (List.append_nil p).symm
  | cons c cs => exact dropReturn_append (List.cons_ne_nil c cs) p

/-- What a text begins with is not at its end, as far as it holds no carriage return. -/
theorem prefix_dropReturn_iff {p t : Text} (hr : '\r' ∉ p) : p <+: dropReturn t ↔ p <+: t := by
  constructor
  · intro hp
    rcases dropReturn_cases t with ht | ht
    · rwa [ht] at hp
    · exact hp.trans ⟨_, ht.symm⟩
  · rintro ⟨u, rfl⟩
    rw [dropReturn_append_of_not_mem hr]
    exact List.prefix_append p _

theorem exists_of_dropReturn_eq_append {p t u : Text} (hr : '\r' ∉ p) (h : dropReturn t = p ++ u) :
    ∃ v, t = p ++ v ∧ dropReturn v = u := by
  obtain ⟨v, rfl⟩ : p <+: t := (prefix_dropReturn_iff hr).1 ⟨u, h.symm⟩
  rw [dropReturn_append_of_not_mem hr] at h
  exact ⟨v, rfl, List.append_cancel_left h⟩

theorem mem_of_mem_dropReturn {t : Text} {c : Char} (h : c ∈ dropReturn t) : c ∈ t := by
  rcases dropReturn_cases t with ht | ht
  · rwa [ht] at h
  · rw [ht]
    exact List.mem_append_left _ h

/-! ## Carriage returns -/

/-- Whether every carriage return of a text belongs to a line end. -/
def returnsClosed : Text → Bool
  | [] => true
  | c :: cs => (c != '\r' || cs.head? == some '\n') && returnsClosed cs

theorem returnsClosed_cons {c : Char} {cs : Text} :
    returnsClosed (c :: cs) = true ↔
      (c = '\r' → cs.head? = some '\n') ∧ returnsClosed cs = true := by
  by_cases hc : c = '\r' <;> simp [returnsClosed, hc]

theorem returnsClosed_drop {t : Text} (h : returnsClosed t = true) (n : Nat) :
    returnsClosed (t.drop n) = true := by
  induction n generalizing t with
  | zero => exact h
  | succ n ih =>
      cases t with
      | nil => rfl
      | cons c cs => exact ih (returnsClosed_cons.1 h).2

/-- A cut through a line end leaves the carriage return at the end of the text. -/
theorem returnsClosed_take {t : Text} (h : returnsClosed t = true) (n : Nat) :
    returnsClosed (t.take n ++ ['\n']) = true := by
  induction t generalizing n with
  | nil => cases n <;> rfl
  | cons c cs ih =>
      obtain ⟨hc, hcs⟩ := returnsClosed_cons.1 h
      cases n with
      | zero => rfl
      | succ n =>
          refine returnsClosed_cons.2 ⟨fun hr => ?_, ih hcs n⟩
          obtain ⟨ds, rfl⟩ := List.head?_eq_some_iff.1 (hc hr)
          cases n <;> rfl

/-- A row that goes on does not start with a carriage return. -/
theorem ne_return_of_rows_cons {c : Char} {cs r : Text} {rs : List Text}
    (hc : c = '\r' → cs.head? = some '\n') (hrows : rows cs = r :: rs) (hr : r ≠ []) :
    c ≠ '\r' := by
  intro hret
  obtain ⟨ds, rfl⟩ := List.head?_eq_some_iff.1 (hc hret)
  rw [rows, if_pos rfl] at hrows
  exact hr (List.cons.inj hrows).1.symm

theorem not_mem_dropReturn_of_mem_rows {t r : Text} (h : returnsClosed (t ++ ['\n']) = true)
    (hr : r ∈ rows t) : '\r' ∉ dropReturn r := by
  induction t generalizing r with
  | nil =>
      rw [List.mem_singleton.1 hr]
      decide
  | cons c cs ih =>
      obtain ⟨hc, hcs⟩ := returnsClosed_cons.1 h
      by_cases hn : c = '\n'
      · rw [rows, if_pos hn] at hr
        rcases List.mem_cons.1 hr with rfl | hr
        · decide
        · exact ih hcs hr
      · obtain ⟨r₀, rs, hrows, hcons⟩ := rows_cons_of_ne hn cs
        rw [hcons] at hr
        rcases List.mem_cons.1 hr with rfl | hr
        · by_cases hne : r₀ = []
          · -- `c` is the whole row, and is dropped if it is a carriage return
            subst hne
            by_cases hret : c = '\r'
            · rw [hret]
              decide
            · rw [dropReturn_of_not_mem (by simpa using Ne.symm hret)]
              simpa using Ne.symm hret
          · have hret : c ≠ '\r' := by
              cases cs with
              | nil => exact absurd (List.cons.inj hrows).1.symm hne
              | cons d ds =>
                  have hhead : c = '\r' → (d :: ds).head? = some '\n' := hc
                  exact ne_return_of_rows_cons hhead hrows hne
            have hr₀ : '\r' ∉ dropReturn r₀ := ih hcs (hrows ▸ List.mem_cons_self)
            rw [← List.singleton_append, dropReturn_append hne, List.singleton_append]
            exact List.not_mem_cons_of_ne_of_not_mem (Ne.symm hret) hr₀
        · exact ih hcs (hrows ▸ List.mem_cons_of_mem _ hr)

theorem not_mem_of_mem_physicalLines {t l : Text} (h : returnsClosed (t ++ ['\n']) = true)
    (hl : l ∈ physicalLines t) : '\n' ∉ l ∧ '\r' ∉ l := by
  obtain ⟨r, hr, rfl⟩ := List.mem_map.1 hl
  exact ⟨fun hn => not_mem_of_mem_rows hr (mem_of_mem_dropReturn hn),
    not_mem_dropReturn_of_mem_rows h hr⟩

/-! ## Lines -/

/-- Lines are the closed rows without their carriage returns, and the rest if there is one. -/
theorem lines_line {t : Text} (h : '\n' ∉ t) (u : Text) :
    lines (t ++ '\n' :: u) = dropReturn t :: lines u := by
  unfold lines
  rw [rows_line h, List.reverse_cons]
  cases hr : (rows u).reverse with
  | nil => exact absurd (List.reverse_eq_nil_iff.mp hr) (rows_ne_nil u)
  | cons last closed =>
      simp only [List.cons_append, List.reverse_append, List.reverse_cons, List.reverse_nil,
        List.nil_append, List.map_cons]
      split <;> rfl

theorem lines_of_not_mem {t : Text} (h : '\n' ∉ t) (hne : t ≠ []) : lines t = [t] := by
  simp [lines, rows_of_not_mem h, hne]

theorem not_mem_of_mem_lines {t l : Text} (h : l ∈ lines t) : '\n' ∉ l := by
  unfold lines at h
  split at h
  · simp at h
  · next last closed hr =>
      have hmem : ∀ r ∈ last :: closed, '\n' ∉ r := fun r hr' =>
        not_mem_of_mem_rows (by rw [← List.mem_reverse, hr]; exact hr')
      have hclosed : ∀ r ∈ closed.reverse.map dropReturn, '\n' ∉ r := by
        intro r hr' hn
        obtain ⟨s, hs, rfl⟩ := List.mem_map.mp hr'
        exact hmem s (List.mem_cons_of_mem _ (List.mem_reverse.mp hs)) (mem_of_mem_dropReturn hn)
      dsimp only at h
      split at h
      · exact hclosed l h
      · rcases List.mem_append.mp h with h | h
        · exact hclosed l h
        · rw [List.mem_singleton.mp h]
          exact hmem last List.mem_cons_self

/-- Lines without line ends, the last of them not empty, are the lines of their join with line
feeds, each with or without a carriage return before it. -/
theorem lines_joinWith {ts : List Text} {ret : Text} (hret : ret = [] ∨ ret = ['\r'])
    (hline : ∀ t ∈ ts, '\n' ∉ t ∧ '\r' ∉ t) (hlast : ts.getLast? ≠ some []) :
    lines (joinWith (ret ++ ['\n']) ts) = ts := by
  induction ts with
  | nil => rfl
  | cons t rest ih =>
      obtain ⟨hn, hr⟩ := hline t List.mem_cons_self
      cases rest with
      | nil =>
          have hne : t ≠ [] := by
            rintro rfl
            exact hlast rfl
          exact lines_of_not_mem hn hne
      | cons u us =>
          have htail : lines (joinWith (ret ++ ['\n']) (u :: us)) = u :: us :=
            ih (fun l hl => hline l (List.mem_cons_of_mem t hl)) (by simpa using hlast)
          have hcut : dropReturn (t ++ ret) = t := by
            rcases hret with rfl | rfl
            · rw [List.append_nil, dropReturn_of_not_mem hr]
            · exact dropReturn_append_return t
          have hfeed : '\n' ∉ t ++ ret := by
            rcases hret with rfl | rfl <;> simp [hn]
          have hjoin : joinWith (ret ++ ['\n']) (t :: u :: us) =
              (t ++ ret) ++ '\n' :: joinWith (ret ++ ['\n']) (u :: us) := by
            simp [joinWith]
          rw [hjoin, lines_line hfeed, hcut, htail]

/-! ## Joins -/

/-- A join with one of its texts set apart: every text before it is followed by a separator, every
text after it preceded by one. -/
theorem joinWith_append_cons (sep : Text) (before : List Text) (t : Text) (after : List Text) :
    joinWith sep (before ++ t :: after) =
      before.flatMap (· ++ sep) ++ (t ++ after.flatMap (sep ++ ·)) := by
  have htail : ∀ (t : Text) (after : List Text),
      joinWith sep (t :: after) = t ++ after.flatMap (sep ++ ·) := by
    intro t after
    induction after generalizing t with
    | nil => simp [joinWith]
    | cons u us ih => simp [joinWith, ih u]
  induction before with
  | nil => exact htail t after
  | cons b bs ih =>
      have hne : bs ++ t :: after ≠ [] := by simp
      have hcons : joinWith sep (b :: (bs ++ t :: after)) =
          b ++ sep ++ joinWith sep (bs ++ t :: after) := by
        obtain ⟨x, xs, hx⟩ := List.exists_cons_of_ne_nil hne
        rw [hx, joinWith]
        exact List.cons_ne_nil x xs
      rw [List.cons_append, hcons, ih]
      simp

/-- The rows of texts joined by line feeds are the rows of each. -/
theorem rows_joinWith {ts : List Text} (h : ts ≠ []) :
    rows (joinWith ['\n'] ts) = ts.flatMap rows := by
  induction ts with
  | nil => exact absurd rfl h
  | cons t rest ih =>
      cases rest with
      | nil => simp [joinWith]
      | cons u us =>
          have hjoin : joinWith ['\n'] (t :: u :: us) =
              t ++ '\n' :: joinWith ['\n'] (u :: us) := by
            simp [joinWith]
          rw [hjoin, rows_append, ih (List.cons_ne_nil u us)]
          rfl

/-- Texts without line feeds are the rows of their join. -/
theorem rows_joinWith_of_not_mem {ts : List Text} (hne : ts ≠ []) (h : ∀ t ∈ ts, '\n' ∉ t) :
    rows (joinWith ['\n'] ts) = ts := by
  rw [rows_joinWith hne, List.flatMap_congr fun t ht => rows_of_not_mem (h t ht)]
  exact List.flatMap_singleton' ts

/-! ## Beginnings and ends -/

theorem joinWith_rows (t : Text) : joinWith ['\n'] (rows t) = t := by
  induction t with
  | nil => rfl
  | cons c cs ih =>
      obtain ⟨r, rs, hrows⟩ := List.exists_cons_of_ne_nil (rows_ne_nil cs)
      rw [hrows] at ih
      by_cases hc : c = '\n'
      · rw [rows, if_pos hc, hrows, joinWith, ih, hc]
        · rfl
        · exact List.cons_ne_nil r rs
      · have hcons : rows (c :: cs) = (c :: r) :: rs := by
          rw [rows, if_neg hc, hrows]
        have hfirst := joinWith_append_cons ['\n'] [] r rs
        have hlonger := joinWith_append_cons ['\n'] [] (c :: r) rs
        rw [List.nil_append, List.flatMap_nil, List.nil_append] at hfirst hlonger
        rw [hcons, hlonger, List.cons_append, ← hfirst, ih]

/-- A text begins with its first row. -/
theorem prefix_of_rows {t r : Text} {rs : List Text} (h : rows t = r :: rs) : r <+: t := by
  have ht := joinWith_append_cons ['\n'] [] r rs
  rw [List.nil_append, ← h, joinWith_rows, List.flatMap_nil, List.nil_append] at ht
  exact ⟨_, ht.symm⟩

/-- A text ends with its last row. -/
theorem suffix_of_rows {t r : Text} {rs : List Text} (h : rows t = rs ++ [r]) : r <:+ t := by
  have ht := joinWith_append_cons ['\n'] rs r []
  rw [← h, joinWith_rows, List.flatMap_nil, List.append_nil] at ht
  exact ⟨_, ht.symm⟩

theorem physicalLines_ne_nil (t : Text) : physicalLines t ≠ [] := by
  simp [physicalLines, rows_ne_nil]

/-- A text without line ends only lengthens the first line of what follows it. -/
theorem physicalLines_prepend {p t l : Text} {ls : List Text} (hn : '\n' ∉ p) (hr : '\r' ∉ p)
    (h : physicalLines t = l :: ls) : physicalLines (p ++ t) = (p ++ l) :: ls := by
  obtain ⟨r, rs, hrows, rfl, rfl⟩ := List.map_eq_cons_iff.1 h
  rw [physicalLines, rows_prepend hn hrows, List.map_cons, dropReturn_append_of_not_mem hr]

/-- What a text begins with is at the front of its first line, as far as it holds no line end. -/
theorem prefix_iff_of_physicalLines {p t l : Text} {ls : List Text} (hn : '\n' ∉ p) (hr : '\r' ∉ p)
    (h : physicalLines t = l :: ls) : p <+: l ↔ p <+: t := by
  constructor
  · intro hp
    obtain ⟨r, rs, hrows, rfl, rfl⟩ := List.map_eq_cons_iff.1 h
    exact ((prefix_dropReturn_iff hr).1 hp).trans (prefix_of_rows hrows)
  · rintro ⟨u, rfl⟩
    obtain ⟨l', ls', hu⟩ := List.exists_cons_of_ne_nil (physicalLines_ne_nil u)
    rw [physicalLines_prepend hn hr hu] at h
    exact ⟨l', (List.cons.inj h).1⟩

/-- The lines of a text that stands within another: a carriage return at its very end is followed by
no line feed and stays. -/
def linesWithin (t : Text) : List Text :=
  (rows t).dropLast.map dropReturn ++ (rows t).getLast?.toList

/-- What follows a text on its last line only lengthens that line. -/
theorem physicalLines_of_dropReturn {t u s : Text} (hn : '\n' ∉ s) (hr : '\r' ∉ s) (hs : s ≠ [])
    (h : dropReturn t = u ++ s) :
    ∃ ls l, linesWithin u = ls ++ [l] ∧ physicalLines t = ls ++ [l ++ s] := by
  obtain ⟨rs, r, hrows⟩ := (List.eq_nil_or_concat' (rows u)).resolve_left (rows_ne_nil u)
  refine ⟨rs.map dropReturn, r, by simp [linesWithin, hrows], ?_⟩
  have hline : ∀ ret, t = u ++ (s ++ ret) → '\n' ∉ ret → dropReturn (r ++ (s ++ ret)) = r ++ s →
      physicalLines t = rs.map dropReturn ++ [r ++ s] := by
    intro ret ht hret hd
    have hfeed : '\n' ∉ s ++ ret := fun hc => (List.mem_append.1 hc).elim hn hret
    rw [ht, physicalLines, rows_append_last hfeed hrows, List.map_append, List.map_singleton, hd]
  rcases dropReturn_cases t with ht | ht
  · refine hline [] (by rw [List.append_nil, ← h, ht]) (by simp) ?_
    rw [List.append_nil, dropReturn_append hs, dropReturn_of_not_mem hr]
  · refine hline ['\r'] (by rw [← List.append_assoc, ← h, ← ht]) (by decide) ?_
    rw [← List.append_assoc, dropReturn_append_return]

/-- A text ends as its last line does, a carriage return apart. -/
theorem exists_of_physicalLines {t l s : Text} {ls : List Text} (hs : s ≠ [])
    (h : physicalLines t = ls ++ [l ++ s]) : ∃ u, dropReturn t = u ++ s := by
  obtain ⟨rs, last, hrows, -, hlast⟩ := List.map_eq_append_iff.1 h
  obtain ⟨r, rfl, hr⟩ := List.map_eq_singleton_iff.1 hlast
  obtain ⟨u, rfl⟩ := suffix_of_rows hrows
  have hne : r ≠ [] := by
    rintro rfl
    exact hs (List.append_eq_nil_iff.1 hr.symm).2
  rw [dropReturn_append hne, hr]
  exact ⟨u ++ l, (List.append_assoc u l s).symm⟩

end CellScript.Text
