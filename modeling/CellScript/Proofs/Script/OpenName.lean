import CellScript.Proofs.Python.Literal
import CellScript.Proofs.Script.LiteralEnd

set_option autoImplicit false

/-! # Names left open

A literal may name a character, as `\N{DASH}`, and the grammar looks for the brace that closes the
name beyond the end of the literal. So a cell in which a name is left open loses its end when there
is such a brace in a later cell. What a scan of a literal passes over may stand in it, if there is
no NUL in it and no such name: `inner_of_passesOver`. The margin of a block opens and closes no
name, nor does a line end: `leavesNameOpen_body` and `linesLeaveNameOpen_lines`. -/

namespace CellScript

/-- Whether a text leaves the name of a character open: no brace closes it, neither in the text nor,
as `closed` says, after it. A backslash takes in the character after it. -/
def leavesNameOpen (closed : Bool) : Text → Bool
  | '\\' :: c :: t =>
    (c == 'N' && t.head? == some '{' && !(decide ('}' ∈ t) || closed)) || leavesNameOpen closed t
  | _ :: t => leavesNameOpen closed t
  | [] => false

/-- The same of the lines of a text. -/
def linesLeaveNameOpen : List Text → Bool
  | [] => false
  | t :: ts => leavesNameOpen (ts.any fun u => decide ('}' ∈ u)) t || linesLeaveNameOpen ts

section

variable {closed : Bool} {c x q : Char} {r t u : Text} {ls : List Text} {o : WriteOptions}

theorem leavesNameOpen_cons (hc : c ≠ '\\') (t : Text) :
    leavesNameOpen closed (c :: t) = leavesNameOpen closed t := by
  rw [leavesNameOpen]
  intro d u h
  exact absurd h hc

/-! ## Lines -/

/-- A character that is no part of what opens or closes a name parts a text. -/
theorem leavesNameOpen_append (hx : x ≠ '\\' ∧ x ≠ 'N' ∧ x ≠ '{' ∧ x ≠ '}') (t r : Text) :
    leavesNameOpen closed (t ++ x :: r) =
      (leavesNameOpen (decide ('}' ∈ r) || closed) t || leavesNameOpen closed r) := by
  induction t using leavesNameOpen.induct with
  | case1 c t ih =>
      have hhead : ((t ++ x :: r).head? == some '{') = (t.head? == some '{') := by
        cases t with
        | nil => simp [hx]
        | cons d t => rfl
      have hmem : (decide ('}' ∈ t ++ x :: r) || closed) =
          (decide ('}' ∈ t) || (decide ('}' ∈ r) || closed)) := by
        simp [hx.2.2.2.symm, Bool.or_assoc]
      rw [List.cons_append, List.cons_append, leavesNameOpen, ih, hhead, hmem, leavesNameOpen,
        Bool.or_assoc]
  | case2 c t hlone ih =>
      by_cases hc : c = '\\'
      · -- a backslash at the end takes in the character that parts
        obtain rfl : t = [] := by
          cases t with
          | nil => rfl
          | cons d t => exact absurd rfl (hlone d t hc)
        have hname : (x == 'N') = false := by simp [hx]
        rw [hc, List.singleton_append, leavesNameOpen, hname]
        rfl
      · rw [List.cons_append, leavesNameOpen_cons hc, ih, leavesNameOpen_cons hc]
  | case3 => rw [List.nil_append, leavesNameOpen_cons hx.1, leavesNameOpen, Bool.false_or]

theorem leavesNameOpen_margin (closed : Bool) (o : WriteOptions) (t : Text) :
    leavesNameOpen closed (o.margin ++ t) = leavesNameOpen closed t := by
  unfold WriteOptions.margin
  induction o.indent with
  | zero => rfl
  | succ n ih => rwa [List.replicate_succ, List.cons_append, leavesNameOpen_cons (by decide)]

theorem leavesNameOpen_rowOf (o : WriteOptions) (t : Text) :
    leavesNameOpen closed (o.rowOf t) = leavesNameOpen closed t := by
  rw [WriteOptions.rowOf]
  split
  · rename_i h
    rw [List.isEmpty_iff.1 h]
  · exact leavesNameOpen_margin closed o t

theorem mem_body {d : Char} (hd : d ≠ ' ' ∧ d ≠ '\n') : d ∈ o.body ls ↔ ∃ t ∈ ls, d ∈ t := by
  have hmargin : d ∉ o.margin := fun h => hd.1 (List.eq_of_mem_replicate h)
  have hrow : ∀ t, d ∈ o.bodyLine t ↔ d ∈ t := by
    intro t
    rw [WriteOptions.bodyLine]
    split
    · rename_i h
      simp [List.isEmpty_iff.1 h, hd.2]
    · simp [hmargin, hd.2]
  simp [WriteOptions.body, hrow]

theorem mem_body_append_margin {d : Char} (hd : d ≠ ' ' ∧ d ≠ '\n') :
    d ∈ o.body ls ++ o.margin ↔ ∃ t ∈ ls, d ∈ t := by
  rw [List.mem_append, mem_body hd]
  exact or_iff_left fun h => hd.1 (List.eq_of_mem_replicate h)

/-- The body of a block leaves a name open if its lines do. -/
theorem leavesNameOpen_body (o : WriteOptions) (ls : List Text) :
    leavesNameOpen false (o.body ls ++ o.margin) = linesLeaveNameOpen ls := by
  induction ls with
  | nil =>
      have hmargin := leavesNameOpen_margin false o []
      rwa [List.append_nil] at hmargin
  | cons t ls ih =>
      have hbody : o.body (t :: ls) ++ o.margin = o.rowOf t ++ '\n' :: (o.body ls ++ o.margin) := by
        simp [WriteOptions.body, WriteOptions.bodyLine_eq]
      have hmem : (decide ('}' ∈ o.body ls ++ o.margin) || false) =
          ls.any fun u => decide ('}' ∈ u) := by
        rw [Bool.or_false, Bool.eq_iff_iff, decide_eq_true_iff, mem_body_append_margin (by decide)]
        simp
      rw [hbody, leavesNameOpen_append (by decide), hmem, leavesNameOpen_rowOf, ih,
        linesLeaveNameOpen]

theorem leavesNameOpen_dropReturn (t : Text) :
    leavesNameOpen closed (Text.dropReturn t) = leavesNameOpen closed t := by
  rcases Text.dropReturn_cases t with h | h
  · rw [h]
  · conv_rhs => rw [h, leavesNameOpen_append (by decide)]
    simp [leavesNameOpen]

theorem mem_dropReturn {d : Char} (hd : d ≠ '\r') (t : Text) : d ∈ Text.dropReturn t ↔ d ∈ t := by
  rcases Text.dropReturn_cases t with h | h
  · rw [h]
  · conv_rhs => rw [h]
    simp [hd]

/-- Induction along the lines of a text. -/
theorem line_induction {motive : Text → Prop} (nil : motive [])
    (last : ∀ t, '\n' ∉ t → t ≠ [] → motive t)
    (line : ∀ u r, '\n' ∉ u → motive r → motive (u ++ '\n' :: r)) : ∀ t, motive t := by
  intro t
  induction hn : t.length using Nat.strong_induction_on generalizing t with
  | _ n ih =>
      by_cases ht : '\n' ∈ t
      · obtain ⟨u, r, rfl, hu⟩ := List.eq_append_cons_of_mem ht
        rw [List.length_append, List.length_cons] at hn
        exact line u r hu (ih r.length (by omega) r rfl)
      · cases t with
        | nil => exact nil
        | cons c t => exact last _ ht (List.cons_ne_nil c t)

/-- A character other than those of line ends stands in a text if it stands in one of its lines. -/
theorem exists_mem_lines {d : Char} (hd : d ≠ '\n' ∧ d ≠ '\r') (t : Text) :
    (∃ l ∈ Text.lines t, d ∈ l) ↔ d ∈ t := by
  induction t using line_induction with
  | nil => simp [Text.lines, Text.rows]
  | last t ht hne => simp [Text.lines_of_not_mem ht hne]
  | line u r hu ih =>
      rw [Text.lines_line hu]
      simp only [List.mem_cons, exists_eq_or_imp, mem_dropReturn hd.2, List.mem_append, hd.1,
        false_or, ih]

/-- A text leaves a name open if its lines do. -/
theorem linesLeaveNameOpen_lines (t : Text) :
    linesLeaveNameOpen (Text.lines t) = leavesNameOpen false t := by
  induction t using line_induction with
  | nil => rfl
  | last t ht hne =>
      rw [Text.lines_of_not_mem ht hne, linesLeaveNameOpen, linesLeaveNameOpen, Bool.or_false]
      rfl
  | line u r hu ih =>
      have hmem : ((Text.lines r).any fun l => decide ('}' ∈ l)) =
          (decide ('}' ∈ r) || false) := by
        rw [Bool.or_false, Bool.eq_iff_iff, decide_eq_true_iff, ← exists_mem_lines (by decide)]
        simp
      rw [Text.lines_line hu, linesLeaveNameOpen, hmem, leavesNameOpen_dropReturn, ih,
        leavesNameOpen_append (by decide)]

/-- Encoded lines leave no name open. -/
theorem leavesNameOpen_encodeProse (t : Text) : leavesNameOpen closed (encodeProse t) = false := by
  induction t using prose_induction with
  | nil => rfl
  | triple t ih =>
      rw [encodeProse_triple]
      simpa [leavesNameOpen] using ih
  | backslash t ih =>
      rw [encodeProse_backslash]
      simpa [leavesNameOpen] using ih
  | plain c t hc hs ih => rwa [encodeProse_plain hc hs, leavesNameOpen_cons hc]

theorem linesLeaveNameOpen_map_encodeProse (ls : List Text) :
    linesLeaveNameOpen (ls.map encodeProse) = false := by
  induction ls with
  | nil => rfl
  | cons t ls ih => rw [List.map_cons, linesLeaveNameOpen, leavesNameOpen_encodeProse, ih]; rfl

/-! ## What may stand in a literal -/

/-- A scan from the start of a text ends with the three quotes after it. -/
def EndsAfter (q : Char) (t : Text) : Prop := untilClosing? q (t ++ [q, q, q]) = some (t, [])

theorem EndsAfter.of_pair (h : EndsAfter q ('\\' :: c :: t)) : EndsAfter q t := by
  rw [EndsAfter, List.cons_append, List.cons_append, untilClosing?] at h
  obtain ⟨⟨inside, rest⟩, hscan, heq⟩ := Option.map_eq_some_iff.1 h
  obtain ⟨hinside, rfl⟩ := Prod.mk.inj heq
  rw [EndsAfter, hscan, (List.cons.inj (List.cons.inj hinside).2).2]

theorem EndsAfter.of_cons (hc : c ≠ '\\') (h : EndsAfter q (c :: t)) :
    [q, q, q].isPrefixOf (c :: (t ++ [q, q, q])) = false ∧ EndsAfter q t := by
  rw [EndsAfter, List.cons_append, untilClosing?_cons hc] at h
  split at h
  · cases h
  · rename_i hstart
    obtain ⟨⟨inside, rest⟩, hscan, heq⟩ := Option.map_eq_some_iff.1 h
    obtain ⟨hinside, rfl⟩ := Prod.mk.inj heq
    exact ⟨Bool.eq_false_iff.2 hstart, by rw [EndsAfter, hscan, (List.cons.inj hinside).2]⟩

theorem PassesOver.endsAfter (hq : q ≠ '\\') (h : PassesOver q t) : EndsAfter q t := by
  rw [EndsAfter, h, untilClosing?_closing hq, Option.map_some]
  dsimp only
  rw [List.append_nil]

open Python in
/-- What a scan ends after may stand in a literal, if there is no NUL in it and no name that
something after the literal closes. -/
theorem Python.Inner.of_endsAfter {more : Text} (hq : q = '"' ∨ q = '\'') (h : EndsAfter q t)
    (hnull : '\x00' ∉ t) (hnames : '}' ∈ more → leavesNameOpen false t = false) :
    Inner q more t := by
  have hback : q ≠ '\\' := by rcases hq with rfl | rfl <;> decide
  induction t using leavesNameOpen.induct with
  | case1 c t ih =>
      obtain ⟨hnc, hnt⟩ : '\x00' ≠ c ∧ '\x00' ∉ t := by
        simpa using hnull
      have hopen : '}' ∈ more → (c == 'N' && t.head? == some '{' && !(decide ('}' ∈ t) || false)) =
          false ∧ leavesNameOpen false t = false := fun hmore => by
        simpa [leavesNameOpen] using hnames hmore
      have hrest := ih h.of_pair hnt fun hmore => (hopen hmore).2
      by_cases hc : c = '\\' ∨ c = '"' ∨ c = '\''
      · exact .pair hc hrest
      · simp only [not_or] at hc
        refine .escape hc (fun s hs hmore => ?_)
          (.plain ⟨fun h => ?_, hc.1, fun h => hnc h.symm⟩ hrest)
        · obtain ⟨rfl, rfl⟩ := List.cons.inj hs
          simpa using (hopen hmore).1
        · rcases hq with rfl | rfl
          · exact hc.2.1 h
          · exact hc.2.2 h
  | case2 c t hlone ih =>
      by_cases hc : c = '\\'
      · -- a backslash at the end would take in a quote
        obtain rfl : t = [] := by
          cases t with
          | nil => rfl
          | cons d t => exact absurd rfl (hlone d t hc)
        rcases hq with rfl | rfl <;> (rw [hc] at h; cases h)
      · obtain ⟨hstart, hend⟩ := h.of_cons hc
        obtain ⟨hnc, hnt⟩ : '\x00' ≠ c ∧ '\x00' ∉ t := by
          simpa using hnull
        have hrest := ih hend hnt fun hmore => by
          rw [← leavesNameOpen_cons hc]
          exact hnames hmore
        by_cases hcq : c = q
        · subst hcq
          -- after one quote or two there is another character
          match t, hstart, hrest with
          | y :: r, hstart, hrest =>
              by_cases hy : y = c
              · subst hy
                cases hrest with
                | plain hx _ => exact absurd rfl hx.1
                | quote hz hinner => exact .quotes hz hinner
                | quotes hz hinner => simp [List.isPrefixOf] at hstart
                | pair | escape => exact absurd rfl hback
              · exact .quote hy hrest
          | [], hstart, hrest => simp [List.isPrefixOf] at hstart
        · exact .plain ⟨hcq, hc, fun h => hnc h.symm⟩ hrest
  | case3 => exact .nil

end

end CellScript
