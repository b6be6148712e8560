import Mathlib.Data.List.Forall2
import CellScript.Block.Content
import CellScript.Proofs.Cell.Escape
import CellScript.Proofs.Except
import CellScript.Proofs.Text.Rows

set_option autoImplicit false

/-! # What reading the content of a block comes to

`Dedents` says what a line is without the indentation of its block. `codeLines_eq_ok_iff` and
`proseLines_eq_ok_iff` read the content of a block off it: reading succeeds exactly if every line
can be dedented, and the dedented lines decide the result. Of prose, the quotes have to come off as
well: `stripQuotes?_eq_some_iff` says when they do, in terms of a line that `Opens` a literal. -/

namespace CellScript

open Python

/-! ## Dedented lines -/

/-- `u` is the line `t` without `indent` indenting characters; a blank line has none to give. -/
def Dedents (indent : Nat) (t u : Text) : Prop :=
  if Text.isBlank t then u = []
  else ∃ margin, t = margin ++ u ∧ margin.length = indent ∧ margin.all isIndent = true

theorem dedent_eq_ok_iff {indent line : Nat} {t u : Text} :
    dedent indent line t = .ok u ↔ Dedents indent t u := by
  unfold dedent Dedents
  by_cases hb : Text.isBlank t = true
  · rw [if_pos hb, if_pos hb, Except.ok.injEq]
    exact eq_comm
  · rw [if_neg hb, if_neg hb]
    constructor
    · intro h
      dsimp only at h
      split at h
      · next hcut =>
          rw [Except.ok.injEq] at h
          exact ⟨t.take indent, by rw [← h, List.take_append_drop], hcut.1, hcut.2⟩
      · simp at h
    · rintro ⟨margin, rfl, hlen, hall⟩
      have htake : (margin ++ u).take indent = margin := by rw [← hlen, List.take_left]
      have hdrop : (margin ++ u).drop indent = u := by rw [← hlen, List.drop_left]
      simp only [htake, hdrop, hlen, hall, and_self, if_true]

theorem dedents_of_isBlank {indent : Nat} {t : Text} (h : Text.isBlank t = true) :
    Dedents indent t [] := by
  rw [Dedents, if_pos h]

theorem dedents_append {t : Text} (h : Text.isBlank t = false) {indent : Nat} {margin : Text}
    (hlen : margin.length = indent) (hall : margin.all isIndent = true) :
    Dedents indent (margin ++ t) t := by
  rw [Dedents, if_neg (by simp [h])]
  exact ⟨margin, rfl, hlen, hall⟩

/-- What is left of a line is empty or not blank. -/
theorem Dedents.eq_nil_or {indent : Nat} {t u : Text} (h : Dedents indent t u) :
    u = [] ∨ Text.isBlank u = false := by
  unfold Dedents at h
  split at h
  · exact Or.inl h
  · next hb =>
      obtain ⟨margin, rfl, -, hall⟩ := h
      have hm : Text.isBlank margin = true := by
        rw [Text.isBlank, List.all_eq_true]
        intro c hc
        have := List.all_eq_true.mp hall c hc
        simp only [isIndent, Bool.or_eq_true, beq_iff_eq] at this
        rcases this with rfl | rfl <;> decide
      rw [Text.isBlank_append, hm, Bool.true_and, Bool.not_eq_true] at hb
      exact Or.inr hb

theorem Dedents.mem {indent : Nat} {t u : Text} (h : Dedents indent t u) {c : Char} (hc : c ∈ u) :
    c ∈ t := by
  unfold Dedents at h
  split at h
  · simp [h] at hc
  · obtain ⟨margin, rfl, -, -⟩ := h
    exact List.mem_append_right margin hc

theorem Dedents.eq_drop {indent : Nat} {t u : Text} (h : Dedents indent t u)
    (ht : Text.isBlank t = false) : u = t.drop indent := by
  rw [Dedents, if_neg (by simp [ht])] at h
  obtain ⟨margin, rfl, hlen, -⟩ := h
  rw [← hlen, List.drop_left]

/-! ## Code -/

/-- What becomes of a dedented line of code: a placeholder goes, a line that stands for one the
notebook runs itself gets back its own form. -/
def keptLine? (t : Text) : Option Text :=
  if Text.trimEnd t = placeholder then none else some (unescapeLine t)

theorem filterMap_keptLine?_cons (t : Text) (ts : List Text) :
    (t :: ts).filterMap keptLine? =
      if Text.trimEnd t = placeholder then ts.filterMap keptLine?
      else unescapeLine t :: ts.filterMap keptLine? := by
  by_cases h : Text.trimEnd t = placeholder
  · rw [if_pos h, List.filterMap_cons_none (by rw [keptLine?, if_pos h])]
  · rw [if_neg h, List.filterMap_cons_some (by rw [keptLine?, if_neg h])]

/-- Code is read line by line. -/
theorem codeLines_cons {indent : Nat} {r : Nat × Text} {rs : List (Nat × Text)} :
    codeLines indent (r :: rs) = (dedent indent (r.1 + 1) r.2 >>= fun t =>
      codeLines indent rs >>= fun ts =>
        .ok (if Text.trimEnd t = placeholder then ts else unescapeLine t :: ts)) := rfl

theorem codeLines_eq_ok_iff {indent : Nat} {rs : List (Nat × Text)} {content : List Text} :
    codeLines indent rs = .ok content ↔
      ∃ ts, List.Forall₂ (Dedents indent) (rs.map Prod.snd) ts ∧
        content = ts.filterMap keptLine? := by
  induction rs generalizing content with
  | nil =>
      constructor
      · intro h
        rw [codeLines, Except.ok.injEq] at h
        exact ⟨[], List.Forall₂.nil, h.symm⟩
      · rintro ⟨ts, hts, rfl⟩
        rw [List.forall₂_nil_left_iff.mp hts]
        rfl
  | cons r rest ih =>
      rw [codeLines_cons, bind_eq_ok]
      constructor
      · rintro ⟨t, ht, h⟩
        obtain ⟨ts, hts, h⟩ := bind_eq_ok.1 h
        obtain ⟨us, hus, rfl⟩ := ih.mp hts
        rw [Except.ok.injEq, ← filterMap_keptLine?_cons] at h
        exact ⟨t :: us, List.Forall₂.cons (dedent_eq_ok_iff.mp ht) hus, h.symm⟩
      · rintro ⟨ts, hts, rfl⟩
        obtain ⟨t, us, ht, hus, rfl⟩ := List.forall₂_cons_left_iff.mp hts
        refine ⟨t, dedent_eq_ok_iff.mpr ht, bind_eq_ok.2 ⟨_, ih.mpr ⟨us, hus, rfl⟩, ?_⟩⟩
        rw [filterMap_keptLine?_cons]

/-- The rows of a block inside a script are a stretch of its lines. -/
theorem Span.map_snd_rowsOf {s : Span} {before rows after : List Text}
    (hstart : before.length = s.start) (hstop : rows.length = s.stop + 1 - s.start) :
    (s.rowsOf (before ++ (rows ++ after))).map Prod.snd = rows := by
  unfold Span.rowsOf
  rw [List.map_map, ← hstop]
  apply List.ext_getElem (by simp)
  intro i _ hi
  have hplace : s.start + i - before.length = i := by omega
  simp [List.getD, List.getElem?_append_right (show before.length ≤ s.start + i by omega), hplace,
    List.getElem?_append_left hi, List.getElem?_eq_getElem hi]

/-- What holds of all lines of a script, and of the empty line, holds of the rows of a block. -/
theorem Span.forall_rowsOf {P : Text → Prop} {lines : List Text} (hnil : P [])
    (h : ∀ l ∈ lines, P l) (s : Span) : ∀ r ∈ (s.rowsOf lines).map Prod.snd, P r := by
  intro r hr
  simp only [Span.rowsOf, List.map_map, List.mem_map, Function.comp_apply] at hr
  obtain ⟨i, -, rfl⟩ := hr
  rw [List.getD_eq_getElem?_getD]
  cases hl : lines[s.start + i]? with
  | none => exact hnil
  | some l => exact h l (List.mem_of_getElem? hl)

/-! ## Prose -/

theorem dedentRest_cons {indent line : Nat} {t : Text} {ts : List Text} :
    dedentRest indent line (t :: ts) = (dedent indent line t >>= fun u =>
      dedentRest indent (line + 1) ts >>= fun us => .ok (u :: us)) := rfl

theorem dedentRest_eq_ok_iff {indent line : Nat} {ts us : List Text} :
    dedentRest indent line ts = .ok us ↔ List.Forall₂ (Dedents indent) ts us := by
  induction ts generalizing line us with
  | nil =>
      rw [dedentRest, Except.ok.injEq, List.forall₂_nil_left_iff]
      exact eq_comm
  | cons t rest ih =>
      rw [dedentRest_cons, bind_eq_ok]
      constructor
      · rintro ⟨u, hu, h⟩
        obtain ⟨vs, hvs, h⟩ := bind_eq_ok.1 h
        obtain rfl := Except.ok.inj h
        exact List.Forall₂.cons (dedent_eq_ok_iff.mp hu) (ih.mp hvs)
      · intro h
        obtain ⟨u, vs, hu, hvs, rfl⟩ := List.forall₂_cons_left_iff.mp h
        exact ⟨u, dedent_eq_ok_iff.mpr hu, bind_eq_ok.2 ⟨vs, ih.mpr hvs, rfl⟩⟩

/-- Prose is read from the rows of a literal if those after the first can be dedented and the quotes
come off. -/
theorem proseLines_eq_ok_iff {header indent line : Nat} {first : Text} {rest content : List Text} :
    proseLines header indent line (first :: rest) = .ok content ↔
      ∃ us ts decode, List.Forall₂ (Dedents indent) rest us ∧
        stripQuotes? (first :: us) = some (ts, decode) ∧
        content = dropBlankEnds (if decode then ts.map decodeProse else ts) := by
  rw [proseLines, bind_eq_ok]
  constructor
  · rintro ⟨rows, hrows, h⟩
    obtain ⟨us, hus, rfl⟩ := map_eq_ok.1 hrows
    dsimp only at h
    split at h
    · cases h
    · rename_i ts decode hstrip
      exact ⟨us, ts, decode, dedentRest_eq_ok_iff.1 hus, hstrip, (Except.ok.inj h).symm⟩
  · rintro ⟨us, ts, decode, hus, hstrip, rfl⟩
    refine ⟨first :: us, map_eq_ok.2 ⟨us, dedentRest_eq_ok_iff.2 hus, rfl⟩, ?_⟩
    dsimp only
    rw [hstrip]

theorem changeLast_append (f : Text → Option Text) (ts : List Text) (t : Text) :
    changeLast f (ts ++ [t]) = (f t).map (ts ++ [·]) := by
  induction ts with
  | nil => rfl
  | cons u us ih =>
      have hstep : changeLast f (u :: (us ++ [t])) = (changeLast f (us ++ [t])).map (u :: ·) := by
        obtain ⟨v, vs, hv⟩ := List.exists_cons_of_ne_nil (List.concat_ne_nil t us)
        rw [hv, changeLast]
        exact List.cons_ne_nil v vs
      rw [List.cons_append, hstep, ih, Option.map_map]
      rfl

theorem changeLast_eq_some {f : Text → Option Text} {ts us : List Text}
    (h : changeLast f ts = some us) :
    ∃ front t u, ts = front ++ [t] ∧ f t = some u ∧ us = front ++ [u] := by
  rcases List.eq_nil_or_concat ts with rfl | ⟨front, t, rfl⟩
  · cases h
  · rw [List.concat_eq_append, changeLast_append] at h
    obtain ⟨u, hu, rfl⟩ := Option.map_eq_some_iff.1 h
    exact ⟨front, t, u, List.concat_eq_append, hu, rfl⟩

/-! ## Quotes -/

theorem mem_quotes_iff {quote : Text} :
    quote ∈ quotes ↔ ∃ c, (c = '"' ∨ c = '\'') ∧ (quote = [c, c, c] ∨ quote = [c]) := by
  have hquotes : quotes = [['"', '"', '"'], ['\'', '\'', '\''], ['"'], ['\'']] := rfl
  rw [hquotes]
  constructor
  · intro h
    simp only [List.mem_cons, List.not_mem_nil, or_false] at h
    rcases h with rfl | rfl | rfl | rfl <;> simp
  · rintro ⟨c, rfl | rfl, rfl | rfl⟩ <;> decide

/-- A quote that a text begins with is the one that is found, unless three of it are. -/
theorem find?_quotes_of_prefix {t quote : Text} (hq : quote ∈ quotes) (hp : quote <+: t)
    (hthree : quote.length = 1 → ¬ quote ++ quote ++ quote <+: t) :
    quotes.find? (·.isPrefixOf t) = some quote := by
  obtain ⟨c, hc, rfl | rfl⟩ := mem_quotes_iff.1 hq
  · obtain ⟨t, rfl⟩ := hp
    rcases hc with rfl | rfl <;> rfl
  · obtain ⟨t, rfl⟩ := hp
    have hnone : [c, c, c].isPrefixOf ([c] ++ t) = false := by
      rw [Bool.eq_false_iff, Ne, List.isPrefixOf_iff_prefix]
      exact hthree rfl
    rcases hc with rfl | rfl
    · refine List.find?_eq_some_iff_append.2
        ⟨rfl, [['"', '"', '"'], ['\'', '\'', '\'']], [['\'']], rfl, ?_⟩
      simpa [List.isPrefixOf] using hnone
    · refine List.find?_eq_some_iff_append.2
        ⟨rfl, [['"', '"', '"'], ['\'', '\'', '\''], ['"']], [], rfl, ?_⟩
      simpa [List.isPrefixOf] using hnone

theorem find?_quotes_eq_some_iff {t quote : Text} :
    quotes.find? (·.isPrefixOf t) = some quote ↔
      quote ∈ quotes ∧ quote <+: t ∧ (quote.length = 1 → ¬ quote ++ quote ++ quote <+: t) := by
  constructor
  · intro h
    have hq : quote ∈ quotes := List.mem_of_find?_eq_some h
    have hp : quote.isPrefixOf t = true := by simpa using List.find?_some h
    refine ⟨hq, List.isPrefixOf_iff_prefix.1 hp, fun hone hthree => ?_⟩
    obtain ⟨c, hc, rfl | rfl⟩ := mem_quotes_iff.1 hq
    · cases hone
    · -- the three would have been found before the one
      have hfirst := find?_quotes_of_prefix (mem_quotes_iff.2 ⟨c, hc, .inl rfl⟩) hthree nofun
      rw [h] at hfirst
      cases hfirst
  · rintro ⟨hq, hp, hthree⟩
    exact find?_quotes_of_prefix hq hp hthree

theorem ne_nil_of_quote {quote : Text} (h : quote ∈ quotes) : quote ≠ [] := by
  obtain ⟨c, -, rfl | rfl⟩ := mem_quotes_iff.1 h <;> simp

theorem not_mem_of_quote {quote : Text} (h : quote ∈ quotes) : '\n' ∉ quote ∧ '\r' ∉ quote := by
  obtain ⟨c, rfl | rfl, rfl | rfl⟩ := mem_quotes_iff.1 h <;> decide

theorem isBlank_of_quote {quote : Text} (h : quote ∈ quotes) : Text.isBlank quote = false := by
  obtain ⟨c, rfl | rfl, rfl | rfl⟩ := mem_quotes_iff.1 h <;> decide

theorem not_isIndent_of_quote {quote : Text} (h : quote ∈ quotes) :
    ∀ c ∈ quote, isIndent c = false := by
  obtain ⟨c, hc, hquote⟩ := mem_quotes_iff.1 h
  intro d hd
  have hdc : d = c := by
    rcases hquote with rfl | rfl <;> simpa using hd
  rcases hc with rfl | rfl <;> rw [hdc] <;> rfl

/-- A text opens as a string literal of prose: the letters of a prefix, a quote, and what follows
them. A single character is no quote where three of it stand. -/
structure Opens (t pre quote rest : Text) : Prop where
  text : t = pre ++ (quote ++ rest)
  letters : ∀ c ∈ pre, isProsePrefix c = true
  mem_quotes : quote ∈ quotes
  single : quote.length = 1 → ¬ quote ++ quote ++ quote <+: quote ++ rest

theorem isProsePrefix_of_quote {c : Char} (h : c = '"' ∨ c = '\'') : isProsePrefix c = false := by
  rcases h with rfl | rfl <;> decide

/-- The letters of a prefix end where the quote begins. -/
theorem Opens.span_eq {t pre quote rest : Text} (h : Opens t pre quote rest) :
    t.takeWhile isProsePrefix = pre ∧ t.dropWhile isProsePrefix = quote ++ rest := by
  obtain ⟨c, hc, hquote⟩ := mem_quotes_iff.1 h.mem_quotes
  have hhead : ∃ q, quote = c :: q := by
    rcases hquote with rfl | rfl
    · exact ⟨[c, c], rfl⟩
    · exact ⟨[], rfl⟩
  obtain ⟨q, rfl⟩ := hhead
  have hstop : isProsePrefix c = false := isProsePrefix_of_quote hc
  rw [h.text, List.takeWhile_append_of_pos h.letters, List.dropWhile_append_of_pos h.letters]
  simp [hstop]

/-- The quotes come off exactly if the first line opens a literal and the last line, which may be
what follows the quote on the first, ends in the same quote. -/
theorem stripQuotes?_eq_some_iff {first : Text} {rest ts : List Text} {decode : Bool} :
    stripQuotes? (first :: rest) = some (ts, decode) ↔
      ∃ pre quote x front u, Opens first pre quote x ∧ x :: rest = front ++ [u ++ quote] ∧
        ts = front ++ [u] ∧ decode = (pre == ['u'] || pre == ['U']) := by
  rw [stripQuotes?]
  constructor
  · intro h
    obtain ⟨quote, hquote, h⟩ := Option.bind_eq_some_iff.1 h
    obtain ⟨us, hus, h⟩ := Option.bind_eq_some_iff.1 h
    obtain ⟨rfl, rfl⟩ := Prod.mk.inj (Option.some.inj h)
    obtain ⟨hmem, ⟨x, hx⟩, hsingle⟩ := find?_quotes_eq_some_iff.1 hquote
    obtain ⟨front, t, u, hrows, hu, rfl⟩ := changeLast_eq_some hus
    rw [Text.dropSuffix?_eq_some_iff] at hu
    rw [← hx, List.drop_left] at hrows
    refine ⟨first.takeWhile isProsePrefix, quote, x, front, u, ⟨?_, ?_, hmem, ?_⟩, ?_, rfl, rfl⟩
    · rw [hx, List.takeWhile_append_dropWhile]
    · exact fun c hc => List.mem_takeWhile_imp hc
    · rwa [hx]
    · rw [hrows, hu]
  · rintro ⟨pre, quote, x, front, u, hopens, hrows, rfl, rfl⟩
    obtain ⟨hpre, hbody⟩ := hopens.span_eq
    have hquote : quotes.find? (·.isPrefixOf (quote ++ x)) = some quote :=
      find?_quotes_eq_some_iff.2 ⟨hopens.mem_quotes, List.prefix_append quote x, hopens.single⟩
    have hlast : changeLast (Text.dropSuffix? quote) (front ++ [u ++ quote]) =
        some (front ++ [u]) := by
      rw [changeLast_append, Text.dropSuffix?_eq_some_iff.2 rfl]
      rfl
    rw [hpre, hbody, hquote, Option.bind_eq_bind, Option.bind_some, List.drop_left, hrows, hlast]
    rfl


/-! ## Literals -/

/-- A body is one expression statement that is a string literal. -/
def IsOnlyLiteral (body literal : Tree) : Prop :=
  ∃ statement, body.phrases = [statement] ∧ statement.kind = .expressionStatement ∧
    statement.phrases = [literal] ∧ literal.kind = .string

theorem proseLiteral?_eq_some_iff {body literal : Tree} :
    proseLiteral? body = some literal ↔ IsOnlyLiteral body literal := by
  rw [proseLiteral?]
  constructor
  · intro h
    split at h
    · rename_i statement hstatement
      split at h
      · rename_i value hvalue
        split at h
        · rename_i hkinds
          obtain rfl := Option.some.inj h
          exact ⟨statement, hstatement, hkinds.1, hvalue, hkinds.2⟩
        · cases h
      · cases h
    · cases h
  · rintro ⟨statement, hstatement, hkind, hliteral, hstring⟩
    rw [hstatement]
    dsimp only
    rw [hliteral]
    exact if_pos ⟨hkind, hstring⟩

end CellScript
