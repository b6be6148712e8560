import CellScript.Proofs.Script.ReadBack

set_option autoImplicit false

/-! # Where a written literal ends

A scan of a literal goes on to the first three quotes in a row that no backslash takes in,
`untilClosing?`. `PassesOver` says of a text that such a scan goes over it and begins anew after it,
so a literal may be taken apart into its lines: one without three quotes in it is passed over, and
so is every encoded one. What is left are the closing quotes, `ClosesLast.splitLiteral?_append`. -/

namespace CellScript

/-! ## Scanning -/

/-- What stands before the end of a literal in three quotes `q`, and what follows the end. The text
begins after the opening quotes; a backslash takes in the character after it. -/
def untilClosing? (q : Char) : Text → Option (Text × Text)
  | [] => none
  | '\\' :: c :: t =>
    (untilClosing? q t).map fun (inside, rest) => ('\\' :: c :: inside, rest)
  | c :: t =>
    if [q, q, q].isPrefixOf (c :: t) then some ([], t.drop 2)
    else (untilClosing? q t).map fun (inside, rest) => (c :: inside, rest)

/-- The literal in three quotes that a text begins with, and what follows it. -/
def splitQuoted? : Text → Option (Text × Text)
  | q :: q' :: q'' :: t =>
    if (q = '"' ∨ q = '\'') ∧ q' = q ∧ q'' = q then
      (untilClosing? q t).map fun (inside, rest) => ([q, q, q] ++ inside ++ [q, q, q], rest)
    else none
  | _ => none

/-- The same of a literal that may have a `u` before its quotes. -/
def splitLiteral? : Text → Option (Text × Text)
  | 'u' :: t => (splitQuoted? t).map fun (literal, rest) => ('u' :: literal, rest)
  | t => splitQuoted? t

/-! ## Passing over a text -/

/-- A scan goes over a text without an end in it, whatever comes after. -/
def PassesOver (q : Char) (t : Text) : Prop :=
  ∀ more, untilClosing? q (t ++ more) =
    (untilClosing? q more).map fun (inside, rest) => (t ++ inside, rest)

section

variable {q : Char} {s t : Text}

theorem passesOver_nil : PassesOver q [] := by
  intro more
  cases h : untilClosing? q more <;> simp [h]

theorem PassesOver.append (hs : PassesOver q s) (ht : PassesOver q t) : PassesOver q (s ++ t) := by
  intro more
  rw [List.append_assoc, hs, ht, Option.map_map]
  simp only [Function.comp_def, List.append_assoc]

theorem untilClosing?_cons {c : Char} (hc : c ≠ '\\') (t : Text) :
    untilClosing? q (c :: t) =
      if [q, q, q].isPrefixOf (c :: t) then some ([], t.drop 2)
      else (untilClosing? q t).map fun (inside, rest) => (c :: inside, rest) := by
  rw [untilClosing?]
  intro d u h
  exact absurd h hc

/-- A character that is neither a quote nor a backslash is passed over. -/
theorem passesOver_plain {c : Char} (hq : c ≠ q) (hc : c ≠ '\\') : PassesOver q [c] := by
  intro more
  have hend : ¬ [q, q, q].isPrefixOf (c :: more) = true := by
    simp [List.isPrefixOf, hq.symm]
  rw [List.singleton_append, untilClosing?_cons hc, if_neg hend]
  rfl

/-- A backslash and the character after it are passed over. -/
theorem passesOver_pair (c : Char) : PassesOver q ['\\', c] := by
  intro more
  rfl

theorem passesOver_flatMap {α : Type} {f : α → Text} {as : List α}
    (h : ∀ a ∈ as, PassesOver q (f a)) : PassesOver q (as.flatMap f) := by
  induction as with
  | nil => exact passesOver_nil
  | cons a as ih =>
      obtain ⟨ha, has⟩ := List.forall_mem_cons.1 h
      exact ha.append (ih has)

theorem passesOver_replicate {c : Char} (hq : c ≠ q) (hc : c ≠ '\\') (n : Nat) :
    PassesOver q (List.replicate n c) := by
  induction n with
  | zero => exact passesOver_nil
  | succ n ih => exact (passesOver_plain hq hc).append ih

/-- The first three quotes are the end. -/
theorem untilClosing?_closing (hq : q ≠ '\\') (more : Text) :
    untilClosing? q (q :: q :: q :: more) = some ([], more) := by
  have hend : [q, q, q].isPrefixOf (q :: q :: q :: more) = true := by simp
  rw [untilClosing?_cons hq, if_pos hend]
  rfl

/-! ## Lines -/

/-- Three quotes do not go beyond a line. -/
theorem isPrefixOf_line (hq : q ≠ '\n') (t more : Text) :
    [q, q, q].isPrefixOf (t ++ '\n' :: more) = [q, q, q].isPrefixOf t := by
  match t with
  | [] | [_] | [_, _] => simp [List.isPrefixOf, hq]
  | _ :: _ :: _ :: _ => rfl

/-- A line in which no three quotes begin at its first character, itself no backslash, is passed over
if the rest of it is. -/
theorem PassesOver.cons_line {c : Char} (hc : c ≠ '\\') (hq : q ≠ '\n')
    (hend : [q, q, q].isPrefixOf (c :: t) = false) (ht : PassesOver q (t ++ ['\n'])) :
    PassesOver q (c :: t ++ ['\n']) := by
  intro more
  have hline : c :: t ++ ['\n'] ++ more = c :: (t ++ ['\n'] ++ more) := rfl
  have hstart : ¬ [q, q, q].isPrefixOf (c :: (t ++ ['\n'] ++ more)) = true := by
    rw [← hline, List.append_assoc, List.singleton_append, isPrefixOf_line hq, hend]
    exact Bool.false_ne_true
  rw [hline, untilClosing?_cons hc, if_neg hstart, ht, Option.map_map]
  rfl

theorem Text.contains_cons {part : Text} {c : Char} {t : Text}
    (h : Text.contains part (c :: t) = false) :
    part.isPrefixOf (c :: t) = false ∧ Text.contains part t = false := by
  unfold Text.contains Text.find? at h
  split at h
  · cases h
  · rename_i hprefix
    rw [Option.isSome_map] at h
    exact ⟨Bool.eq_false_iff.2 hprefix, h⟩

/-- A line without three quotes in it is passed over together with its end, which a backslash at
its end may take in. -/
theorem passesOver_line (hq : q ≠ '\\' ∧ q ≠ '\n') (h : Text.contains [q, q, q] t = false) :
    PassesOver q (t ++ ['\n']) := by
  induction t using untilClosing?.induct q with
  | case1 => exact passesOver_plain hq.2.symm (by decide)
  | case2 c t ih =>
      exact (passesOver_pair c).append (ih (Text.contains_cons (Text.contains_cons h).2).2)
  | case3 c t _ hend =>
      rw [(Text.contains_cons h).1] at hend
      cases hend
  | case4 c t hlone hend ih =>
      by_cases hc : c = '\\'
      · -- a backslash at the end of the line
        obtain rfl : t = [] := by
          cases t with
          | nil => rfl
          | cons d u => exact absurd rfl (hlone d u hc)
        rw [hc]
        exact passesOver_pair '\n'
      · exact PassesOver.cons_line hc hq.2 (Text.contains_cons h).1 (ih (Text.contains_cons h).2)

/-! ## Encoded lines -/

/-- An encoded line begins with a quote only if the line does. -/
theorem encodeProse_eq_quote_cons {t u : Text} (h : encodeProse t = '"' :: u) :
    ∃ v, t = '"' :: v ∧ encodeProse v = u := by
  induction t using prose_induction with
  | nil => cases h
  | triple t =>
      rw [encodeProse_triple] at h
      cases h
  | backslash t =>
      rw [encodeProse_backslash] at h
      cases h
  | plain c t hc hs =>
      rw [encodeProse_plain hc hs] at h
      obtain ⟨rfl, hu⟩ := List.cons.inj h
      exact ⟨t, rfl, hu⟩

/-- No encoded line begins with three quotes. -/
theorem startsTriple_encodeProse (t : Text) : startsTriple (encodeProse t) = false := by
  rw [← Bool.not_eq_true]
  intro h
  obtain ⟨u, hu⟩ := List.isPrefixOf_iff_prefix.1 h
  obtain ⟨v₁, rfl, h₁⟩ := encodeProse_eq_quote_cons hu.symm
  obtain ⟨v₂, rfl, h₂⟩ := encodeProse_eq_quote_cons h₁
  obtain ⟨v₃, rfl, -⟩ := encodeProse_eq_quote_cons h₂
  rw [encodeProse_triple] at hu
  cases hu

/-- An encoded line is passed over together with its end: three quotes have become three escapes,
and of the quotes after them no three are left in a row. -/
theorem passesOver_encodeProse (t : Text) : PassesOver '"' (encodeProse t ++ ['\n']) := by
  induction t using prose_induction with
  | nil => exact passesOver_plain (by decide) (by decide)
  | triple t ih =>
      rw [encodeProse_triple]
      exact (passesOver_pair '"').append ((passesOver_pair '"').append
        ((passesOver_pair '"').append ih))
  | backslash t ih =>
      rw [encodeProse_backslash]
      exact (passesOver_pair '\\').append ih
  | plain c t hc hs ih =>
      have hstart := startsTriple_encodeProse (c :: t)
      rw [encodeProse_plain hc hs] at hstart ⊢
      exact PassesOver.cons_line hc (by decide) hstart ih

end

/-! ## Written literals -/

/-- The quotes of a literal are three of a kind, and its lines are passed over. -/
structure ClosesLast (mark quotes : Text) (ls : List Text) (q : Char) : Prop where
  mark : mark = [] ∨ mark = ['u']
  quotes : quotes = [q, q, q]
  kind : q = '"' ∨ q = '\''
  lines : ∀ t ∈ ls, PassesOver q (t ++ ['\n'])

/-- The form that a content asks for has no three quotes of its own kind in its lines, unless they
are encoded. -/
theorem exists_closesLast (content : List Text) :
    ∃ mark quotes ls q, literalForm content = (mark, quotes, ls) ∧
      LiteralForm content mark quotes ls ∧ ClosesLast mark quotes ls q := by
  have hplain : ∀ q : Char, q ≠ '\\' ∧ q ≠ '\n' →
      (content.any fun l => Text.contains [q, q, q] l) = false →
      ∀ t ∈ content, PassesOver q (t ++ ['\n']) := by
    intro q hq hany t ht
    exact passesOver_line hq (by simpa using List.any_eq_false.1 hany t ht)
  unfold literalForm
  dsimp only
  split
  · rename_i hsingle
    exact ⟨_, _, _, '\'', rfl, .single, .inl rfl, rfl, .inr rfl,
      hplain '\'' (by decide) hsingle⟩
  · refine ⟨_, _, _, '"', rfl, .decoded, .inr rfl, rfl, .inl rfl, fun t ht => ?_⟩
    obtain ⟨u, -, rfl⟩ := List.mem_map.1 ht
    exact passesOver_encodeProse u
  · rename_i hdouble
    exact ⟨_, _, _, '"', rfl, .double, .inl rfl, rfl, .inl rfl, hplain '"' (by decide) hdouble⟩

theorem passesOver_body {o : WriteOptions} {q : Char} {ls : List Text} (hq : q = '"' ∨ q = '\'')
    (h : ∀ t ∈ ls, PassesOver q (t ++ ['\n'])) : PassesOver q (o.body ls) := by
  have hmargin : PassesOver q o.margin := by
    refine passesOver_replicate ?_ (by decide) o.indent
    rcases hq with rfl | rfl <;> decide
  refine passesOver_flatMap fun t ht => ?_
  have hline := h t ht
  unfold WriteOptions.bodyLine
  split
  · rename_i hempty
    rwa [List.isEmpty_iff.1 hempty] at hline
  · rw [List.append_assoc]
    exact hmargin.append hline

namespace ClosesLast

variable {o : WriteOptions} {mark quotes : Text} {ls : List Text} {q : Char}

theorem literalText_eq (h : ClosesLast mark quotes ls q) :
    literalText o mark quotes ls =
      mark ++ (quotes ++ ('\n' :: o.body ls ++ o.margin) ++ quotes) := by
  have hlast : o.rowOf quotes = o.margin ++ quotes := by
    rw [h.quotes, WriteOptions.rowOf]
    rfl
  rw [literalText, hlast]
  simp only [List.append_assoc, List.cons_append]

/-- A scan goes over everything between the quotes of a written literal. -/
theorem passesOver (h : ClosesLast mark quotes ls q) :
    PassesOver q ('\n' :: o.body ls ++ o.margin) := by
  have hne : '\n' ≠ q ∧ ' ' ≠ q := by rcases h.kind with rfl | rfl <;> decide
  have hmargin : PassesOver q o.margin := passesOver_replicate hne.2 (by decide) o.indent
  exact ((passesOver_plain hne.1 (by decide)).append (passesOver_body h.kind h.lines)).append
    hmargin

/-- The literal without its mark is read from its first quotes to its last. -/
theorem splitQuoted?_append (h : ClosesLast mark quotes ls q) (more : Text) :
    splitQuoted? (quotes ++ ('\n' :: o.body ls ++ o.margin) ++ quotes ++ more) =
      some (quotes ++ ('\n' :: o.body ls ++ o.margin) ++ quotes, more) := by
  have hq : q ≠ '\\' := by rcases h.kind with rfl | rfl <;> decide
  have hscan : untilClosing? q (('\n' :: o.body ls ++ o.margin) ++ q :: q :: q :: more) =
      some ('\n' :: o.body ls ++ o.margin, more) := by
    rw [h.passesOver, untilClosing?_closing hq, Option.map_some]
    simp only [List.append_nil]
  have htext : quotes ++ ('\n' :: o.body ls ++ o.margin) ++ quotes ++ more =
      q :: q :: q :: (('\n' :: o.body ls ++ o.margin) ++ q :: q :: q :: more) := by
    rw [h.quotes]
    simp only [List.append_assoc, List.cons_append, List.nil_append]
  rw [htext, splitQuoted?, if_pos ⟨h.kind, rfl, rfl⟩, hscan, h.quotes]
  rfl

theorem splitLiteral?_append (h : ClosesLast mark quotes ls q) (more : Text) :
    splitLiteral? (mark ++ (quotes ++ ('\n' :: o.body ls ++ o.margin) ++ quotes) ++ more) =
      some (mark ++ (quotes ++ ('\n' :: o.body ls ++ o.margin) ++ quotes), more) := by
  have hquoted := h.splitQuoted?_append (o := o) more
  rcases h.mark with rfl | rfl
  · rw [List.nil_append, splitLiteral?, hquoted]
    intro t ht
    rw [h.quotes] at ht
    rcases h.kind with rfl | rfl <;> cases ht
  · rw [List.append_assoc, List.singleton_append, splitLiteral?, hquoted]
    rfl

end ClosesLast

/-- **A written literal ends where its last line does.** Whatever the lines of the content, what is
written for them is one literal, in the indentation of the body and with a line feed after it: a
scan from its start goes on to the quotes that the last line consists of and ends there, whatever
follows. -/
theorem written_literal_ends (o : WriteOptions) (content : List Text) (more : Text) :
    ∃ mark quotes ls literal, literalForm content = (mark, quotes, ls) ∧
      literal = mark ++ (quotes ++ ('\n' :: o.body ls ++ o.margin) ++ quotes) ∧
      o.body (proseBody content) = o.margin ++ (literal ++ ['\n']) ∧
      splitLiteral? (literal ++ '\n' :: more) = some (literal, '\n' :: more) := by
  obtain ⟨mark, quotes, ls, q, hform, hliteral, hcloses⟩ := exists_closesLast content
  refine ⟨mark, quotes, ls, _, hform, rfl, ?_, hcloses.splitLiteral?_append _⟩
  have hbody : proseBody content = (mark ++ quotes) :: (ls ++ [quotes]) := by
    rw [proseBody, hform]
    rfl
  rw [hbody, hliteral.body_eq, hcloses.literalText_eq]

end CellScript
