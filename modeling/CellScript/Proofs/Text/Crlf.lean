import CellScript.Proofs.Text.Rows

set_option autoImplicit false

/-! # Long line ends

`crlf` puts a carriage return before every line feed of a text that has none. The lines stay as they
were, `physicalLines_crlf`, and so does a stretch that holds no line end; what is looked for in the
text is found before and after alike if it holds no carriage return, `infix_of_infix_crlf`, and not
at all if it holds one without a line feed after it, `not_mem_of_append_eq_crlf`. -/

namespace CellScript.Text

/-- A text with a carriage return before every line feed. -/
def crlf (t : Text) : Text := t.flatMap fun c => if c = '\n' then ['\r', '\n'] else [c]

/-- A long line end. -/
def longEnd : Text := ['\r', '\n']

variable {t x y : Text}

theorem crlf_append (s t : Text) : crlf (s ++ t) = crlf s ++ crlf t := List.flatMap_append

theorem crlf_newline (t : Text) : crlf ('\n' :: t) = '\r' :: '\n' :: crlf t := rfl

theorem crlf_cons_of_ne {c : Char} (h : c ≠ '\n') (t : Text) : crlf (c :: t) = c :: crlf t := by
  rw [crlf, List.flatMap_cons, if_neg h]
  rfl

theorem crlf_of_not_mem (h : '\n' ∉ t) : crlf t = t := by
  induction t with
  | nil => rfl
  | cons c t ih =>
      rw [crlf_cons_of_ne (List.ne_of_not_mem_cons h).symm, ih (List.not_mem_of_not_mem_cons h)]

/-- Without its carriage returns the text is as it was. -/
theorem filter_crlf (h : '\r' ∉ t) : (crlf t).filter (· ≠ '\r') = t := by
  induction t with
  | nil => rfl
  | cons c t ih =>
      have hc : c ≠ '\r' := (List.ne_of_not_mem_cons h).symm
      have ih := ih (List.not_mem_of_not_mem_cons h)
      by_cases hn : c = '\n'
      · rw [hn, crlf_newline, List.filter_cons_of_neg (by decide),
          List.filter_cons_of_pos (by decide), ih]
      · rw [crlf_cons_of_ne hn, List.filter_cons_of_pos (by simpa using hc), ih]

/-- Every carriage return belongs to a line end. -/
theorem returnsClosed_crlf (h : '\r' ∉ t) : returnsClosed (crlf t) = true := by
  induction t with
  | nil => rfl
  | cons c t ih =>
      have hc : c ≠ '\r' := (List.ne_of_not_mem_cons h).symm
      have ih := ih (List.not_mem_of_not_mem_cons h)
      by_cases hn : c = '\n'
      · rw [hn, crlf_newline, returnsClosed_cons, returnsClosed_cons]
        exact ⟨fun _ => rfl, fun hr => absurd hr (by decide), ih⟩
      · rw [crlf_cons_of_ne hn, returnsClosed_cons]
        exact ⟨fun hr => absurd hr hc, ih⟩

/-- **The lines are those of the text with short line ends.** -/
theorem physicalLines_crlf (h : '\r' ∉ t) : physicalLines (crlf t) = physicalLines t := by
  induction t with
  | nil => rfl
  | cons c t ih =>
      have hc : '\r' ∉ [c] := by simpa using List.ne_of_not_mem_cons h
      have ih := ih (List.not_mem_of_not_mem_cons h)
      by_cases hn : c = '\n'
      · subst hn
        have hlong : rows (crlf ('\n' :: t)) = ['\r'] :: rows (crlf t) :=
          rows_append ['\r'] (crlf t)
        have hshort : rows ('\n' :: t) = [] :: rows t := rows_append [] t
        rw [physicalLines, hlong, physicalLines, hshort, List.map_cons, List.map_cons]
        exact congrArg ([] :: ·) ih
      · have hfeed : '\n' ∉ [c] := by simpa using Ne.symm hn
        obtain ⟨l, ls, hl⟩ := List.exists_cons_of_ne_nil (physicalLines_ne_nil t)
        have hlong := physicalLines_prepend hfeed hc (ih.trans hl)
        have hshort := physicalLines_prepend hfeed hc hl
        rw [crlf_cons_of_ne hn]
        exact hlong.trans hshort.symm

/-! ## Stretches -/

theorem not_mem_slice {c : Char} (h : c ∉ t) (m k : Nat) : c ∉ (t.drop m).take k :=
  fun hc => h (List.mem_of_mem_drop (List.mem_of_mem_take hc))

theorem take_crlf (t : Text) (n : Nat) :
    (crlf t).take (crlf (t.take n)).length = crlf (t.take n) := by
  have hsplit : crlf t = crlf (t.take n) ++ crlf (t.drop n) := by
    rw [← crlf_append, List.take_append_drop]
  rw [hsplit, List.take_left]

theorem drop_crlf (t : Text) (n : Nat) :
    (crlf t).drop (crlf (t.take n)).length = crlf (t.drop n) := by
  have hsplit : crlf t = crlf (t.take n) ++ crlf (t.drop n) := by
    rw [← crlf_append, List.take_append_drop]
  rw [hsplit, List.drop_left]

theorem length_le_length_crlf (t : Text) : t.length ≤ (crlf t).length := by
  induction t with
  | nil => exact Nat.le_refl 0
  | cons c t ih =>
      by_cases hn : c = '\n'
      · rw [hn, crlf_newline]
        simp only [List.length_cons]
        omega
      · rw [crlf_cons_of_ne hn]
        exact Nat.succ_le_succ ih

theorem length_crlf_take_add (t : Text) (m k : Nat) :
    (crlf (t.take (m + k))).length =
      (crlf (t.take m)).length + (crlf ((t.drop m).take k)).length := by
  rw [List.take_add, crlf_append, List.length_append]

/-- Places keep their order. -/
theorem length_crlf_take_le_iff {m n : Nat} (hm : m ≤ t.length) :
    (crlf (t.take m)).length ≤ (crlf (t.take n)).length ↔ m ≤ n := by
  constructor
  · intro h
    by_contra hlt
    obtain ⟨k, rfl⟩ : ∃ k, m = n + k := ⟨m - n, by omega⟩
    have hadd := length_crlf_take_add t n k
    have hlong := length_le_length_crlf ((t.drop n).take k)
    rw [List.length_take, List.length_drop] at hlong
    omega
  · intro h
    obtain ⟨k, rfl⟩ : ∃ k, n = m + k := ⟨n - m, by omega⟩
    rw [length_crlf_take_add]
    exact Nat.le_add_right _ _

/-- A stretch of the text, between the places that go with its ends. -/
theorem slice_crlf (t : Text) (m n : Nat) :
    ((crlf t).drop (crlf (t.take m)).length).take
        ((crlf (t.take n)).length - (crlf (t.take m)).length) =
      crlf ((t.drop m).take (n - m)) := by
  rw [drop_crlf]
  rcases Nat.le_total m n with h | h
  · obtain ⟨k, rfl⟩ : ∃ k, n = m + k := ⟨n - m, by omega⟩
    rw [length_crlf_take_add, Nat.add_sub_cancel_left, Nat.add_sub_cancel_left, take_crlf]
  · obtain ⟨k, rfl⟩ : ∃ k, m = n + k := ⟨m - n, by omega⟩
    have hle : (crlf (t.take n)).length ≤ (crlf (t.take (n + k))).length := by
      rw [length_crlf_take_add]
      exact Nat.le_add_right _ _
    rw [Nat.sub_eq_zero_of_le hle, Nat.sub_eq_zero_of_le h]
    rfl

/-! ## Looking for a text -/

theorem find?_isSome_iff {p : Text} : (find? p t).isSome ↔ p <:+: t := by
  induction t with
  | nil => cases p <;> simp [find?]
  | cons c t ih =>
      rw [find?, List.infix_cons_iff, ← ih, ← List.isPrefixOf_iff_prefix]
      split
      · simp [*]
      · simp [*]

theorem filter_of_not_mem (h : '\r' ∉ t) : t.filter (· ≠ '\r') = t :=
  List.filter_eq_self.2 fun c hc => by simpa using fun hr : c = '\r' => h (hr ▸ hc)

/-- What holds no carriage return was there before. -/
theorem infix_of_infix_crlf {p : Text} (hx : '\r' ∉ x) (hp : '\r' ∉ p) (h : p <:+: crlf x) :
    p <:+: x := by
  have hfilter := h.filter (· ≠ '\r')
  rwa [filter_crlf hx, filter_of_not_mem hp] at hfilter

/-- A carriage return that no line feed follows is not found. -/
theorem not_mem_of_append_eq_crlf {p u v : Text} (hx : '\r' ∉ x) (hp : ¬ longEnd <:+: p)
    (hv : v.head? ≠ some '\n') (h : u ++ (p ++ v) = crlf x) : '\r' ∉ p := by
  intro hr
  obtain ⟨a, b, rfl⟩ := List.append_of_mem hr
  have hdrop : (crlf x).drop (u ++ a).length = '\r' :: (b ++ v) := by
    rw [← h, List.append_assoc a, ← List.append_assoc u]
    exact List.drop_left
  have hclosed := returnsClosed_drop (returnsClosed_crlf hx) (u ++ a).length
  rw [hdrop] at hclosed
  have hhead := (returnsClosed_cons.1 hclosed).1 rfl
  cases b with
  | nil => exact hv hhead
  | cons c b =>
      obtain rfl := Option.some.inj hhead
      exact hp ⟨a, b, by simp [longEnd]⟩

/-- What holds no long line end is found only where it was before, as far as more follows it. -/
theorem infix_of_append_cons_infix_crlf {p v : Text} {c : Char} (hx : '\r' ∉ x)
    (hp : ¬ longEnd <:+: p) (hc : c ≠ '\n') (hv : '\r' ∉ c :: v) (h : p ++ c :: v <:+: crlf x) :
    p ++ c :: v <:+: x := by
  refine infix_of_infix_crlf hx (fun hr => ?_) h
  obtain ⟨u, w, huw⟩ := h
  rw [List.append_assoc, List.append_assoc] at huw
  have hhead : (c :: v ++ w).head? ≠ some '\n' := fun h => hc (Option.some.inj h)
  exact (List.mem_append.1 hr).elim (not_mem_of_append_eq_crlf hx hp hhead huw) hv

/-- A text without long line ends is there exactly if it was before. -/
theorem crlf_eq_iff (hx : '\r' ∉ x) (hy : ¬ longEnd <:+: y) (hn : '\n' ∈ y → '\n' ∉ x) :
    crlf x = y ↔ x = y := by
  constructor
  · intro h
    have hwhole : [] ++ (y ++ []) = crlf x := by rw [List.append_nil, List.nil_append, h]
    have hr : '\r' ∉ y := not_mem_of_append_eq_crlf hx hy (by simp) hwhole
    rw [← filter_crlf hx, h, filter_of_not_mem hr]
  · rintro rfl
    by_cases h : '\n' ∈ x
    · exact absurd h (hn h)
    · exact crlf_of_not_mem h

end CellScript.Text
