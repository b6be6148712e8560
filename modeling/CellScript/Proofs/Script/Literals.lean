import CellScript.Proofs.Block.Shallow
import CellScript.Proofs.Cell.Normal
import CellScript.Proofs.Script.ErrorPlace

set_option autoImplicit false

/-! # Literals of prose

What the content of a prose block is, said of the text of its literal. A text that `Opens` a literal
and ends in the same quote has something inside, and `literalContent` is the lines of that. The
lines are dedented before the quotes are looked for, so a shallow row comes before a wrong prefix:
`ProseReading` lists what can come out, and `proseContent_literal` says that it is all. -/

namespace CellScript

open Python

/-! ## Content of a literal -/

/-- What stands between the quotes of a literal, line by line, in a block with the given
indentation: the lines after the first are indented less, and blank lines go at both ends. -/
def insideLines (indent : Nat) (inside : Text) : List Text :=
  match Text.linesWithin inside with
  | [] => []
  | first :: rest => dropBlankEnds (first :: rest.map (dedented indent))

/-- The content of a literal with the given prefix. -/
def literalContent (indent : Nat) (pre inside : Text) : List Text :=
  if pre == ['u'] || pre == ['U'] then (insideLines indent inside).map decodeProse
  else insideLines indent inside

theorem dropBlankEnds_map_decodeProse (ts : List Text) :
    dropBlankEnds (ts.map decodeProse) = (dropBlankEnds ts).map decodeProse := by
  have hblank : Text.isBlank ∘ decodeProse = Text.isBlank := funext isBlank_decodeProse
  rw [dropBlankEnds, ← List.map_reverse, List.dropWhile_map, hblank, ← List.map_reverse,
    List.dropWhile_map, hblank, dropBlankEnds]

/-- A last line that is blank goes, whatever it is. -/
theorem dropBlankEnds_concat_dedented (indent : Nat) (ts : List Text) (t : Text) :
    dropBlankEnds (ts ++ [dedented indent t]) = dropBlankEnds (ts ++ [t.drop indent]) := by
  cases ht : Text.isBlank t with
  | false => rw [dedented, if_neg (by simp [ht])]
  | true =>
      have hdrop : Text.isBlank (t.drop indent) = true := by
        rw [Text.isBlank, List.all_eq_true] at ht ⊢
        exact fun c hc => ht c (List.mem_of_mem_drop hc)
      have hends : ∀ u, Text.isBlank u = true → dropBlankEnds (ts ++ [u]) = dropBlankEnds ts := by
        intro u hu
        simpa using @dropBlankEnds_append [] [u] (by simp) (by simpa using hu) ts
      rw [dedented, if_pos ht, hends _ rfl, hends _ hdrop]

/-! ## Lines of a literal -/

section

variable {t pre quote first x z : Text} {rest : List Text}

theorem Opens.not_mem (h : Opens t pre quote z) : '\n' ∉ pre ++ quote ∧ '\r' ∉ pre ++ quote := by
  have hquote := not_mem_of_quote h.mem_quotes
  have hpre : ∀ c, isProsePrefix c = false → c ∉ pre := by
    intro c hc hmem
    rw [h.letters c hmem] at hc
    cases hc
  simp only [List.mem_append, not_or]
  exact ⟨⟨hpre _ rfl, hquote.1⟩, hpre _ rfl, hquote.2⟩

/-- Whether three quote characters stand in a literal is seen on its first line. -/
theorem three_prefix_iff {y : Text} (h : Opens t pre quote z)
    (hy : Text.physicalLines y = x :: rest) :
    quote ++ quote ++ quote <+: quote ++ x ↔
      quote ++ quote ++ quote <+: quote ++ Text.dropReturn y := by
  obtain ⟨hn, hr⟩ := h.not_mem
  simp only [List.mem_append, not_or] at hn hr
  have hn' : '\n' ∉ quote ++ quote ++ quote := by simp [hn.2]
  have hr' : '\r' ∉ quote ++ quote ++ quote := by simp [hr.2]
  rw [Text.prefix_iff_of_physicalLines hn' hr' (Text.physicalLines_prepend hn.2 hr.2 hy),
    ← Text.dropReturn_append_of_not_mem hr.2, Text.prefix_dropReturn_iff hr']

/-- If a text opens as a literal, so does its first line. -/
theorem Opens.firstLine (h : Opens (Text.dropReturn t) pre quote z)
    (ht : Text.physicalLines t = first :: rest) :
    ∃ x y, Opens first pre quote x ∧ Text.physicalLines y = x :: rest ∧ Text.dropReturn y = z := by
  obtain ⟨hn, hr⟩ := h.not_mem
  obtain ⟨y, rfl, rfl⟩ := Text.exists_of_dropReturn_eq_append hr
    (h.text.trans (List.append_assoc pre quote z).symm)
  obtain ⟨x, ls, hy⟩ := List.exists_cons_of_ne_nil (Text.physicalLines_ne_nil y)
  rw [Text.physicalLines_prepend hn hr hy] at ht
  obtain ⟨rfl, rfl⟩ := List.cons.inj ht
  have hsingle : quote.length = 1 → ¬ quote ++ quote ++ quote <+: quote ++ x :=
    fun hone hthree => h.single hone ((three_prefix_iff h hy).1 hthree)
  exact ⟨x, y, ⟨List.append_assoc pre quote x, h.letters, h.mem_quotes, hsingle⟩, hy, rfl⟩

/-- If the first line of a text opens as a literal, so does the text. -/
theorem Opens.wholeText (h : Opens first pre quote x) (ht : Text.physicalLines t = first :: rest) :
    ∃ y, Text.physicalLines y = x :: rest ∧
      Opens (Text.dropReturn t) pre quote (Text.dropReturn y) := by
  obtain ⟨hn, hr⟩ := h.not_mem
  have hfirst : first = pre ++ quote ++ x := h.text.trans (List.append_assoc pre quote x).symm
  obtain ⟨y, rfl⟩ := (Text.prefix_iff_of_physicalLines hn hr ht).1 ⟨x, hfirst.symm⟩
  obtain ⟨l, ls, hy⟩ := List.exists_cons_of_ne_nil (Text.physicalLines_ne_nil y)
  rw [Text.physicalLines_prepend hn hr hy, hfirst] at ht
  obtain ⟨hl, rfl⟩ := List.cons.inj ht
  obtain rfl := List.append_cancel_left hl
  refine ⟨y, hy, ?_, h.letters, h.mem_quotes, fun hone hthree => ?_⟩
  · rw [Text.dropReturn_append_of_not_mem hr, List.append_assoc]
  · exact h.single hone ((three_prefix_iff h hy).2 hthree)

end

/-! ## Reading a literal -/

section

variable {header indent line : Nat} {t : Text}

/-- A quote is no indentation, so a row that ends in one keeps it. -/
theorem Dedents.append_quote {indent : Nat} {t quote u : Text} (hquote : quote ∈ quotes)
    (h : Dedents indent (t ++ quote) u) : u = t.drop indent ++ quote := by
  have hblank : Text.isBlank (t ++ quote) = false := by
    rw [Text.isBlank_append, isBlank_of_quote hquote, Bool.and_false]
  have hu := h.eq_drop hblank
  rw [Dedents, if_neg (by simp [hblank])] at h
  obtain ⟨margin, hmargin, hlen, hall⟩ := h
  -- the margin ends before the quote, since no character of a quote indents
  have hle : indent ≤ t.length := by
    rcases List.append_eq_append_iff.1 hmargin with ⟨more, hm, hq⟩ | ⟨more, ht, -⟩
    · cases more with
      | nil => simp [← hlen, hm]
      | cons c more =>
          have hindent := List.all_eq_true.1 hall c (by simp [hm])
          rw [not_isIndent_of_quote hquote c (by simp [hq])] at hindent
          cases hindent
    · simp [← hlen, ht]
  rw [hu, List.drop_append_of_le_length hle]

/-- What stands between the quotes is what is left of the dedented lines when the quotes are off. -/
theorem exists_stripped_eq_insideLines {inside quote x l : Text} {rest ls : List Text}
    (hquote : quote ∈ quotes) (hinside : Text.linesWithin inside = ls ++ [l])
    (hlines : x :: rest = ls ++ [l ++ quote]) (hrest : ∀ r ∈ rest, ¬ IsShallow indent r) :
    ∃ front u, x :: rest.map (dedented indent) = front ++ [u ++ quote] ∧
      dropBlankEnds (front ++ [u]) = insideLines indent inside := by
  cases ls with
  | nil =>
      obtain ⟨rfl, rfl⟩ := List.cons.inj hlines
      exact ⟨[], l, rfl, by rw [insideLines, hinside]; rfl⟩
  | cons y middle =>
      rw [List.cons_append] at hlines
      obtain ⟨rfl, rfl⟩ := List.cons.inj hlines
      have hlast : dedented indent (l ++ quote) = l.drop indent ++ quote :=
        (dedents_iff.2 ⟨hrest _ (by simp), rfl⟩).append_quote hquote
      refine ⟨x :: middle.map (dedented indent), l.drop indent, ?_, ?_⟩
      · rw [List.map_append, List.map_singleton, hlast]
        rfl
      · rw [insideLines, hinside, ← dropBlankEnds_concat_dedented]
        simp

/-- A literal whose lines can be dedented has the content that stands between its quotes. -/
theorem proseLines_of_opens {pre quote inside : Text}
    (h : Opens (Text.dropReturn t) pre quote (inside ++ quote))
    (hrows : ∀ r ∈ (Text.physicalLines t).tail, ¬ IsShallow indent r) :
    proseLines header indent line (Text.physicalLines t) =
      .ok (literalContent indent pre inside) := by
  obtain ⟨first, rest, ht⟩ := List.exists_cons_of_ne_nil (Text.physicalLines_ne_nil t)
  -- `y` is what follows the first quote, and `x` its first line
  obtain ⟨x, y, hfirst, hy, hinside⟩ := h.firstLine ht
  obtain ⟨hn, hr⟩ := not_mem_of_quote h.mem_quotes
  obtain ⟨ls, l, hls, hlines⟩ :=
    Text.physicalLines_of_dropReturn hn hr (ne_nil_of_quote h.mem_quotes) hinside
  rw [ht, List.tail_cons] at hrows
  rw [hy] at hlines
  obtain ⟨front, u, hfront, hcontent⟩ :=
    exists_stripped_eq_insideLines h.mem_quotes hls hlines hrows
  rw [ht, proseLines_eq_ok_iff]
  refine ⟨_, front ++ [u], _, forall₂_dedents_iff.2 ⟨hrows, rfl⟩,
    stripQuotes?_eq_some_iff.2 ⟨pre, quote, x, front, u, hfirst, hfront, rfl, rfl⟩, ?_⟩
  rw [literalContent]
  split
  · rw [dropBlankEnds_map_decodeProse, hcontent]
  · exact hcontent.symm

/-- A literal from which the quotes come off has the form of one. -/
theorem exists_opens_of_stripQuotes? {first : Text} {rest ts : List Text} {decode : Bool}
    (ht : Text.physicalLines t = first :: rest)
    (h : stripQuotes? (first :: rest.map (dedented indent)) = some (ts, decode)) :
    ∃ pre quote inside, Opens (Text.dropReturn t) pre quote (inside ++ quote) := by
  obtain ⟨pre, quote, x, front, u, hfirst, hfront, -, -⟩ := stripQuotes?_eq_some_iff.1 h
  obtain ⟨y, hy, hopens⟩ := hfirst.wholeText ht
  have hquote : quote ≠ [] := ne_nil_of_quote hfirst.mem_quotes
  -- dedenting cuts at the front, so the last line ends in the quote before as well
  have hlast : ∃ ls l, x :: rest = ls ++ [l ++ quote] := by
    cases front with
    | nil =>
        obtain ⟨rfl, hrest⟩ := List.cons.inj hfront
        exact ⟨[], u, by rw [List.map_eq_nil_iff.1 hrest]; rfl⟩
    | cons z front =>
        obtain ⟨rfl, hrest⟩ := List.cons.inj hfront
        obtain ⟨middle, last, rfl, -, hlast⟩ := List.map_eq_append_iff.1 hrest
        obtain ⟨r, rfl, hr⟩ := List.map_eq_singleton_iff.1 hlast
        refine ⟨x :: middle, r.take indent ++ u, ?_⟩
        rw [dedented] at hr
        split at hr
        · exact absurd (List.append_eq_nil_iff.1 hr.symm).2 hquote
        · rw [List.append_assoc, ← hr, List.take_append_drop]
          rfl
  obtain ⟨ls, l, hlast⟩ := hlast
  obtain ⟨inside, hinside⟩ := Text.exists_of_physicalLines hquote (hy.trans hlast)
  exact ⟨pre, quote, inside, hinside ▸ hopens⟩

end

/-! ## Outcomes -/

/-- What reading the content of a prose block comes to. -/
inductive ProseReading (source : Text) (b : Block) : Except CellError (List Text) → Prop where
  /-- The body is not one string literal. -/
  | noLiteral (hnone : ∀ literal, ¬ IsOnlyLiteral b.body literal) :
      ProseReading source b (.error (.malformed .notOneLiteral b.span.line))
  /-- The body is a string literal, whatever its prefix and quotes, with a shallow row. -/
  | shallow {literal : Tree} {row : Nat} (hliteral : IsOnlyLiteral b.body literal)
      (hrow : IsFirstShallow b.span.indent (Text.physicalLines (literal.text source)) 1 row) :
      ProseReading source b (.error (.indentation (literal.start.row + 1 + row)))
  /-- The body is a string literal of another form. -/
  | otherForm {literal : Tree} (hliteral : IsOnlyLiteral b.body literal)
      (hrows : ∀ r ∈ (Text.physicalLines (literal.text source)).tail, ¬ IsShallow b.span.indent r)
      (hnone : ∀ pre quote inside,
        ¬ Opens (Text.dropReturn (literal.text source)) pre quote (inside ++ quote)) :
      ProseReading source b (.error (.malformed .notOneLiteral b.span.line))
  /-- The body is a string literal with a prefix and quotes of prose. -/
  | content {literal : Tree} {pre quote inside : Text} (hliteral : IsOnlyLiteral b.body literal)
      (hrows : ∀ r ∈ (Text.physicalLines (literal.text source)).tail, ¬ IsShallow b.span.indent r)
      (hopens : Opens (Text.dropReturn (literal.text source)) pre quote (inside ++ quote)) :
      ProseReading source b (.ok (literalContent b.span.indent pre inside))

section

variable {source : Text} {b : Block} {r : Except CellError (List Text)}

theorem proseContent_of_opens {literal : Tree} {pre quote inside : Text}
    (hliteral : IsOnlyLiteral b.body literal)
    (hopens : Opens (Text.dropReturn (literal.text source)) pre quote (inside ++ quote))
    (hrows : ∀ r ∈ (Text.physicalLines (literal.text source)).tail,
      ¬ IsShallow b.span.indent r) :
    proseContent source b = .ok (literalContent b.span.indent pre inside) := by
  rw [proseContent, proseLiteral?_eq_some_iff.2 hliteral]
  exact proseLines_of_opens hopens hrows

theorem proseReading_of_literal {literal : Tree} (hliteral : IsOnlyLiteral b.body literal) :
    ProseReading source b (proseContent source b) := by
  obtain ⟨first, rest, hlines, hcontent⟩ :=
    proseContent_eq source (proseLiteral?_eq_some_iff.2 hliteral)
  cases hr : proseContent source b with
  | error e =>
      have herror := hr
      rw [hcontent, proseLines_eq_error_iff] at herror
      rcases herror with ⟨row, hrow, rfl⟩ | ⟨us, hus, -, rfl⟩
      · exact .shallow hliteral (by rwa [hlines])
      · have hrows := (forall₂_dedents_iff.1 hus).1
        refine .otherForm hliteral (by rwa [hlines]) fun pre quote inside hopens => ?_
        rw [proseContent_of_opens hliteral hopens (by rwa [hlines])] at hr
        cases hr
  | ok content =>
      have hok := hr
      rw [hcontent, proseLines_eq_ok_iff] at hok
      obtain ⟨us, ts, decode, hus, hstrip, -⟩ := hok
      obtain ⟨hrows, rfl⟩ := forall₂_dedents_iff.1 hus
      obtain ⟨pre, quote, inside, hopens⟩ := exists_opens_of_stripQuotes? hlines hstrip
      have hrows' : ∀ r ∈ (Text.physicalLines (literal.text source)).tail,
          ¬ IsShallow b.span.indent r := by rwa [hlines]
      rw [← hr, proseContent_of_opens hliteral hopens hrows']
      exact .content hliteral hrows' hopens

theorem proseReading_proseContent (source : Text) (b : Block) :
    ProseReading source b (proseContent source b) := by
  cases hl : proseLiteral? b.body with
  | some literal => exact proseReading_of_literal (proseLiteral?_eq_some_iff.1 hl)
  | none =>
      rw [proseContent, hl]
      refine .noLiteral fun literal hliteral => ?_
      rw [proseLiteral?_eq_some_iff.2 hliteral] at hl
      cases hl

theorem ProseReading.eq (h : ProseReading source b r) : proseContent source b = r := by
  cases h with
  | noLiteral hnone =>
      cases hl : proseLiteral? b.body with
      | none => rw [proseContent, hl]
      | some literal => exact absurd (proseLiteral?_eq_some_iff.1 hl) (hnone literal)
  | shallow hliteral hrow =>
      obtain ⟨first, rest, hlines, hcontent⟩ :=
        proseContent_eq source (proseLiteral?_eq_some_iff.2 hliteral)
      rw [hlines] at hrow
      rw [hcontent, proseLines_eq_error_iff]
      exact .inl ⟨_, hrow, rfl⟩
  | otherForm hliteral hrows hnone =>
      obtain ⟨first, rest, hlines, hcontent⟩ :=
        proseContent_eq source (proseLiteral?_eq_some_iff.2 hliteral)
      rw [hlines, List.tail_cons] at hrows
      rw [hcontent, proseLines_eq_error_iff]
      refine .inr ⟨_, forall₂_dedents_iff.2 ⟨hrows, rfl⟩, ?_, rfl⟩
      cases hstrip : stripQuotes? (first :: rest.map (dedented b.span.indent)) with
      | none => rfl
      | some stripped =>
          obtain ⟨pre, quote, inside, hopens⟩ := exists_opens_of_stripQuotes? hlines hstrip
          exact absurd hopens (hnone pre quote inside)
  | content hliteral hrows hopens => exact proseContent_of_opens hliteral hopens hrows

end

/-- A quote character that what follows it does not begin with is not the first of three. -/
theorem not_three_prefix {quote inside : Text} (hquote : quote ∈ quotes)
    (h : quote.length = 1 → ¬ quote <+: inside) (hone : quote.length = 1) :
    ¬ quote ++ quote ++ quote <+: quote ++ (inside ++ quote) := by
  obtain ⟨c, -, rfl | rfl⟩ := mem_quotes_iff.1 hquote
  · cases hone
  · intro hthree
    rw [List.append_assoc, List.prefix_append_right_inj] at hthree
    cases inside with
    | nil => simp at hthree
    | cons d inside =>
        obtain ⟨rfl, -⟩ := List.cons_prefix_cons.1 hthree
        exact h rfl (by simp)

/-- **Prose is what stands between the quotes of its literal.** Of a literal with any prefix of `r`,
`R`, `u` and `U` and any of the quotes whose rows can be dedented, the content is the lines within,
decoded exactly if the prefix is a single `u` or `U`; and of any block, the content is what
`ProseReading` says and nothing else. -/
theorem proseContent_literal (source : Text) (b : Block) :
    (∀ literal pre quote inside, IsOnlyLiteral b.body literal →
      literal.text source = pre ++ (quote ++ (inside ++ quote)) →
      (∀ c ∈ pre, isProsePrefix c = true) → quote ∈ quotes →
      (quote.length = 1 → ¬ quote <+: inside) →
      (∀ r ∈ (Text.physicalLines (literal.text source)).tail, ¬ IsShallow b.span.indent r) →
      proseContent source b = .ok (literalContent b.span.indent pre inside)) ∧
    ∀ r, proseContent source b = r ↔ ProseReading source b r := by
  refine ⟨fun literal pre quote inside hliteral htext hpre hquote hsingle hrows => ?_, fun r => ?_⟩
  · have hlast : Text.dropReturn (literal.text source) = literal.text source := by
      rw [htext, ← List.append_assoc, ← List.append_assoc,
        Text.dropReturn_append (ne_nil_of_quote hquote),
        Text.dropReturn_of_not_mem (not_mem_of_quote hquote).2]
    exact proseContent_of_opens hliteral
      ⟨hlast.trans htext, hpre, hquote, not_three_prefix hquote hsingle⟩ hrows
  · constructor
    · rintro rfl
      exact proseReading_proseContent source b
    · exact ProseReading.eq

/-- Prose that begins and ends with quotes, in a literal that is decoded, with the other line ends
and a row that is blank. -/
def quotedScript : Text :=
  ("with herzog.Cell(\"markdown\"):\r\n    u'''\"a\\\\b\r\n  \r\n" ++
    "    \\\"c ''\r\n    '''\r\n").toList

theorem proseContent_literal_quoted :
    ∃ b, finds "herzog".toList quotedScript (Tree.ofText quotedScript) = [.block b] ∧
      proseContent quotedScript b = .ok ["\"a\\b".toList, [], "\"c ''".toList] := by
  let inside : Text := "\"a\\\\b\r\n  \r\n    \\\"c ''\r\n    ".toList
  have hblock : (onlyBlock? (finds "herzog".toList quotedScript (Tree.ofText quotedScript))).bind
      (fun b => (proseLiteral? b.body).map fun l => (b.span.indent, l.text quotedScript)) =
        some (4, ['u'] ++ ("'''".toList ++ (inside ++ "'''".toList))) := by decide +kernel
  obtain ⟨b, hb, hliteral⟩ := Option.bind_eq_some_iff.1 hblock
  obtain ⟨literal, hliteral, h⟩ := Option.map_eq_some_iff.1 hliteral
  obtain ⟨hindent, htext⟩ := Prod.mk.inj h
  have hcontent : literalContent 4 ['u'] inside = ["\"a\\b".toList, [], "\"c ''".toList] := by
    decide +kernel
  have hrows : ∀ r ∈ (Text.physicalLines (literal.text quotedScript)).tail,
      ¬ IsShallow b.span.indent r := by
    rw [htext, hindent]
    decide +kernel
  refine ⟨b, eq_of_onlyBlock? hb, ?_⟩
  rw [← hcontent, ← hindent]
  exact (proseContent_literal quotedScript b).1 literal ['u'] "'''".toList inside
    (proseLiteral?_eq_some_iff.1 hliteral) htext (by simp [isProsePrefix]) (by decide) (by decide)
    hrows

/-- A literal with a prefix that prose does not have, and a row that is indented less than the
block. -/
def bytesScript : Text :=
  "with herzog.Cell(\"markdown\"):\n    b\"\"\"\n  low\n    \"\"\"\n".toList

/-- The literal is refused for its row and not for its prefix. -/
theorem bytes_refused_for_row :
    ∃ b literal, finds "herzog".toList bytesScript (Tree.ofText bytesScript) = [.block b] ∧
      b.kind = .prose ∧ IsOnlyLiteral b.body literal ∧
      (∀ pre quote rest, ¬ Opens (literal.text bytesScript) pre quote rest) ∧
      proseContent bytesScript b = .error (.indentation 3) ∧
      (Script.read {} bytesScript).error = some (.indentation 3) ∧
      ∀ flaw line, proseContent bytesScript b ≠ .error (.malformed flaw line) := by
  have hblock : (onlyBlock? (finds "herzog".toList bytesScript (Tree.ofText bytesScript))).bind
      (fun b => (proseLiteral? b.body).map fun l =>
        (b.kind, l.text bytesScript, proseContent bytesScript b)) =
        some (.prose, "b\"\"\"\n  low\n    \"\"\"".toList, .error (.indentation 3)) := by
    decide +kernel
  obtain ⟨b, hb, hliteral⟩ := Option.bind_eq_some_iff.1 hblock
  obtain ⟨literal, hliteral, h⟩ := Option.map_eq_some_iff.1 hliteral
  simp only [Prod.mk.injEq] at h
  obtain ⟨hkind, htext, hcontent⟩ := h
  refine ⟨b, literal, eq_of_onlyBlock? hb, hkind, proseLiteral?_eq_some_iff.1 hliteral, ?_,
    hcontent, by decide +kernel, fun flaw line => by rw [hcontent]; nofun⟩
  intro pre quote rest hopens
  rw [htext] at hopens
  -- the text begins with no letter of prose, so the quote would have to begin with `b`
  have hbody := hopens.span_eq.2
  obtain ⟨c, rfl | rfl, rfl | rfl⟩ := mem_quotes_iff.1 hopens.mem_quotes <;> cases hbody

end CellScript
