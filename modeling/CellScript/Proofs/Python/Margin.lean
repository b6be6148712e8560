import CellScript.Proofs.Python.Word

set_option autoImplicit false

/-! # Tokens of line ends and margins

Outside of strings the layout goes by the gap before the next token: blanks and line feeds.
`Layout.gap_eq` measures it, and the lemmas after it say which layout token a gap makes: none within
a line, and at a line end a newline, an indent or a dedent, as far as they are expected. -/

namespace CellScript.Python

open Grammar Cursor

namespace Layout

variable {before rest blanks tail : List Char} {l : Layout} {e : Expected}

/-! ## Gaps -/

/-- The columns after a gap, if there were `n` before it. -/
def columnsAfter : Nat → List Char → Nat
  | n, [] => n
  | n, c :: t => if c = '\n' then columnsAfter 0 t else columnsAfter (n + 1) t

theorem columnsAfter_replicate (n k : Nat) : columnsAfter n (List.replicate k ' ') = n + k := by
  induction k generalizing n with
  | zero => rfl
  | succ k ih =>
      rw [List.replicate_succ, columnsAfter, if_neg (by decide), ih]
      omega

/-- Whether a text starts with a token that is no part of a gap. -/
def startsToken : List Char → Bool
  | [] => false
  | c :: _ => !(['\n', ' ', '\r', '\x0c', '\t', '#', '\\'].contains c)

theorem gap_append {comments lineEnd : Bool} {fuel columns : Nat}
    (hblanks : blanks.all isGap = true) :
    gap comments (fuel + blanks.length)
        ⟨lineEnd, columns, Option.none, between before (blanks ++ rest)⟩ =
      gap comments fuel ⟨lineEnd || blanks.contains '\n', columnsAfter columns blanks, Option.none,
        between (before ++ blanks) rest⟩ := by
  induction blanks generalizing before lineEnd columns with
  | nil => simp [columnsAfter]
  | cons c blanks ih =>
      rw [List.all_cons, Bool.and_eq_true] at hblanks
      have hc : c = ' ' ∨ c = '\n' := by simpa [isGap] using hblanks.1
      have happend : before ++ c :: blanks = (before ++ [c]) ++ blanks := by simp
      have hrest : (between before (c :: blanks ++ rest)).rest = c :: (blanks ++ rest) := rfl
      have hon : (between before (c :: blanks ++ rest)).advance =
          between (before ++ [c]) (blanks ++ rest) := advance_between
      rw [List.length_cons, ← Nat.add_assoc, gap, happend]
      simp only [hrest, hon]
      rcases hc with rfl | rfl
      · rw [if_neg (by decide), if_pos rfl, ih hblanks.2]
        simp [columnsAfter]
      · rw [if_pos rfl, ih hblanks.2]
        simp [columnsAfter]

theorem gap_token {comments : Bool} {fuel : Nat} {g : Gap} {c : Char}
    (hg : g.stop = between before (c :: rest)) (hc : startsToken (c :: rest) = true) :
    gap comments (fuel + 1) g = some g := by
  have hrest : g.stop.rest = c :: rest := by rw [hg]; rfl
  have hne : c ≠ '\n' ∧ c ≠ ' ' ∧ c ≠ '\r' ∧ c ≠ '\x0c' ∧ c ≠ '\t' ∧ c ≠ '#' ∧ c ≠ '\\' := by
    simpa [startsToken] using hc
  obtain ⟨h1, h2, h3, h4, h5, h6, h7⟩ := hne
  rw [gap]
  simp only [hrest]
  rw [if_neg h1, if_neg h2, if_neg (by simp [h3, h4]), if_neg h5, if_neg (by simp [h6]), if_neg h7]

theorem gap_end {comments : Bool} {fuel : Nat} {g : Gap} (hg : g.stop = between before []) :
    gap comments (fuel + 1) g = some { g with lineEnd := true, columns := 0 } := by
  have hrest : g.stop.rest = [] := by rw [hg]; rfl
  rw [gap]
  simp only [hrest]

/-- What a gap amounts to, before a token or at the end of the text. -/
theorem gap_eq (comments : Bool) (before : List Char) (hblanks : blanks.all isGap = true)
    (htail : startsToken tail = true ∨
      tail = [] ∧ '\n' ∈ blanks ∧ columnsAfter 0 blanks = 0) :
    gap comments ((blanks ++ tail).length + 1)
        ⟨false, 0, Option.none, between before (blanks ++ tail)⟩ =
      some ⟨blanks.contains '\n', columnsAfter 0 blanks, Option.none,
        between (before ++ blanks) tail⟩ := by
  have hfuel : (blanks ++ tail).length + 1 = tail.length + 1 + blanks.length := by
    rw [List.length_append]
    omega
  rw [hfuel, gap_append hblanks, Bool.false_or]
  rcases htail with htail | ⟨rfl, hline, hcolumns⟩
  · cases tail with
    | nil => cases htail
    | cons c tail => exact gap_token rfl htail
  · rw [gap_end rfl, List.contains_iff_mem.2 hline, hcolumns]

/-! ## Tokens at a gap -/

/-- What may stand at the end of a gap. -/
def GapEnds (blanks tail : List Char) : Prop :=
  blanks.all isGap = true ∧
    (startsToken tail = true ∨ tail = [] ∧ '\n' ∈ blanks ∧ columnsAfter 0 blanks = 0)

/-- Outside of strings a scan goes by the gap. -/
theorem scan_eq (hquotes : l.quotes = []) (h : GapEnds blanks tail) :
    l.scan e (between before (blanks ++ tail)) =
      (let c := between before (blanks ++ tail)
      let stop := between (before ++ blanks) tail
      let line := blanks.contains '\n'
      let columns := columnsAfter 0 blanks
      let empty (t : LayoutToken) (l : Layout) : Option LayoutScan :=
        some ⟨t, if c.pos.byte < stop.pos.byte then c else stop, c, l⟩
      let quoteNext := stop.sees '"' || stop.sees '\'' || stop.sees '`'
      let mayClose := e.has .dedent ||
        (!e.has .newline && !(e.has .stringStart && quoteNext) && !e.bracket)
      if line && e.has .indent && l.depth < columns then
        empty .indent { l with indents := columns % 256 :: l.indents }
      else if line && mayClose && columns < l.depth && !l.insideFormat then
        empty .dedent { l with indents := l.indents.tail }
      else if line && e.has .newline && !e.anything then
        empty .newline l
      else if e.has .stringStart then
        stringStart l stop
      else .none) := by
  have hbegun : (if (between (before ++ blanks) tail).pos.byte =
        (between before (blanks ++ tail)).pos.byte then between before (blanks ++ tail)
      else between (before ++ blanks) tail) = between (before ++ blanks) tail := by
    cases hb : blanks with
    | nil => simp
    | cons c b =>
        have hlt := byte_between_lt before tail (List.cons_ne_nil c b)
        rw [if_neg (Nat.ne_of_gt hlt)]
  rw [scan]
  split
  · rw [scanLine]
    have hg := gap_eq (e.has .indent || e.has .dedent || e.has .newline || e.handler) before h.1 h.2
    have hrest : (between before (blanks ++ tail)).rest = blanks ++ tail := rfl
    simp only [hrest, hg, Option.bind_eq_bind, Option.bind_some, hbegun]
    simp
  · rename_i q qs hq
    rw [hquotes] at hq
    cases hq

/-- A line that goes on where it may. -/
theorem scan_below (hquotes : l.quotes = []) (h : GapEnds blanks tail)
    (hdepth : l.depth ≤ columnsAfter 0 blanks)
    (hindent : e.has .indent = false) (hnewline : e.has .newline = false) :
    l.scan e (between before (blanks ++ tail)) =
      if e.has .stringStart then stringStart l (between (before ++ blanks) tail) else .none := by
  rw [scan_eq hquotes h]
  simp [hindent, hnewline, Nat.not_lt.2 hdepth]

/-- A newline token at a line end. -/
theorem scan_newline (hquotes : l.quotes = []) (h : GapEnds blanks tail)
    (hline : '\n' ∈ blanks) (hindent : e.has .indent = false)
    (hdedent : e.has .dedent = false) (hnewline : e.has .newline = true) :
    l.scan e (between before (blanks ++ tail)) =
      some ⟨.newline, between before (blanks ++ tail), between before (blanks ++ tail), l⟩ := by
  rw [scan_eq hquotes h]
  have hlt := byte_between_lt before tail (List.ne_nil_of_mem hline)
  simp [hline, hindent, hdedent, hnewline, hlt, Expected.anything]

/-- An indent token where a line is deeper than the block. -/
theorem scan_indent (before : List Char) (hquotes : l.quotes = [])
    (h : GapEnds blanks tail) (hline : '\n' ∈ blanks) (hindent : e.has .indent = true)
    (hdepth : l.depth < columnsAfter 0 blanks) :
    l.scan e (between before (blanks ++ tail)) =
      some ⟨.indent, between before (blanks ++ tail), between before (blanks ++ tail),
        { l with indents := columnsAfter 0 blanks % 256 :: l.indents }⟩ := by
  rw [scan_eq hquotes h]
  have hlt := byte_between_lt before tail (List.ne_nil_of_mem hline)
  simp [hline, hindent, hdepth, hlt]

/-- A dedent token where a line is less deep than the block. -/
theorem scan_dedent (hquotes : l.quotes = []) (h : GapEnds blanks tail)
    (hline : '\n' ∈ blanks) (hindent : e.has .indent = false)
    (hdedent : e.has .dedent = true) (hdepth : columnsAfter 0 blanks < l.depth)
    (hformat : l.insideFormat = false) :
    l.scan e (between before (blanks ++ tail)) =
      some ⟨.dedent, between before (blanks ++ tail), between before (blanks ++ tail),
        { l with indents := l.indents.tail }⟩ := by
  rw [scan_eq hquotes h]
  have hlt := byte_between_lt before tail (List.ne_nil_of_mem hline)
  simp [hline, hindent, hdedent, hdepth, hlt, hformat]

/-! ## The start of a string -/

/-- Whether a character opens a string. -/
def isQuote (c : Char) : Bool := c == '`' || c == '\'' || c == '"'

/-- Whether a character may stand in the prefix of a string. -/
def isPrefixLetter (c : Char) : Bool :=
  ['f', 'F', 'r', 'R', 'b', 'B', 'u', 'U'].contains c

theorem rest_stringPrefix {x : Char} (t rest : List Char) (p : Position) (q : Quote)
    (hx : isPrefixLetter x = false) :
    ∃ y r, (stringPrefix (t ++ x :: rest) p q).2.2.rest = y :: r ∧ y ∈ t ++ [x] := by
  induction t generalizing p q with
  | nil =>
      refine ⟨x, rest, ?_, by simp⟩
      have hne : ¬ (x = 'f' ∨ x = 'F') ∧ ¬ (x = 'r' ∨ x = 'R') ∧ ¬ (x = 'b' ∨ x = 'B') ∧
          ¬ (x = 'u' ∨ x = 'U') := by
        simp [isPrefixLetter] at hx
        tauto
      obtain ⟨h1, h2, h3, h4⟩ := hne
      rw [List.nil_append, stringPrefix, if_neg h1, if_neg h2, if_neg h3, if_neg h4]
  | cons c t ih =>
      have hgo : ∀ (p : Position) (q : Quote), ∃ y r,
          (stringPrefix (t ++ x :: rest) p q).2.2.rest = y :: r ∧ y ∈ c :: t ++ [x] := by
        intro p q
        obtain ⟨y, r, h, hy⟩ := ih p q
        exact ⟨y, r, h, List.mem_cons_of_mem c hy⟩
      rw [List.cons_append, stringPrefix]
      split
      · exact hgo _ _
      · split
        · exact hgo _ _
        · split
          · exact hgo _ _
          · split
            · exact hgo _ _
            · exact ⟨c, _, rfl, by simp⟩

/-- No string starts with a text. -/
def NoString (tail : List Char) : Prop :=
  ∀ (l : Layout) (before : List Char), stringStart l (between before tail) = .none

theorem noString_nil : NoString [] := fun _ _ => rfl

/-- No string starts where no quote follows the letters of a prefix. -/
theorem noString_append {t : List Char} {x : Char} (hx : isPrefixLetter x = false)
    (h : ∀ c ∈ t ++ [x], isQuote c = false) : NoString (t ++ x :: rest) := by
  intro l before
  obtain ⟨y, r, hrest, hy⟩ := rest_stringPrefix t rest
    (between before (t ++ x :: rest)).pos ⟨'"', false, false, false, false⟩ hx
  have hquote := h y hy
  simp only [isQuote, Bool.or_eq_false_iff, beq_eq_false_iff_ne] at hquote
  obtain ⟨⟨h1, h2⟩, h3⟩ := hquote
  have hself : (between before (t ++ x :: rest)).rest = t ++ x :: rest := rfl
  simp [stringStart, hself, hrest, h1, h2, h3]

/-- A string in plain quotes: the quotes, and what their prefix says. -/
def quoted (mark : Char) (triple : Bool) : Quote := ⟨mark, triple, false, false, false⟩

/-- A string that opens with one double quote. -/
theorem stringStart_one {x : Char} (hx : x ≠ '"') :
    stringStart l (between before ('"' :: x :: rest)) =
      some ⟨.stringStart, between before ('"' :: x :: rest), between (before ++ ['"']) (x :: rest),
        { l with quotes := quoted '"' false :: l.quotes, insideFormat := false }⟩ := by
  have hon : (between before ('"' :: x :: rest)).advance =
      between (before ++ ['"']) (x :: rest) := advance_between
  have hsees : (between (before ++ ['"']) (x :: rest)).sees '"' = false := by
    simpa [between, sees] using hx
  have hrest : (between before ('"' :: x :: rest)).rest = '"' :: x :: rest := rfl
  have hprefix : ∀ (p : Position) (q : Quote),
      stringPrefix ('"' :: x :: rest) p q = (false, q, ⟨p, '"' :: x :: rest⟩) := by
    intro p q
    rw [stringPrefix]
    simp
  have hself : (⟨(between before ('"' :: x :: rest)).pos, '"' :: x :: rest⟩ : Cursor) =
      between before ('"' :: x :: rest) := rfl
  simp [stringStart, hprefix, hself, hrest, hon, hsees, quoted]

/-- A string that opens with three quotes. -/
theorem stringStart_three {mark : List Char} {m : Char} (hmark : mark = [] ∨ mark = ['u'])
    (hm : m = '"' ∨ m = '\'') :
    stringStart l (between before (mark ++ m :: m :: m :: rest)) =
      some ⟨.stringStart, between before (mark ++ m :: m :: m :: rest),
        between (before ++ mark ++ [m, m, m]) rest,
        { l with quotes := quoted m true :: l.quotes, insideFormat := false }⟩ := by
  have hprefix : ∀ (q : Quote),
      (stringPrefix (mark ++ m :: m :: m :: rest)
        (between before (mark ++ m :: m :: m :: rest)).pos q).2 =
        (q, between (before ++ mark) (m :: m :: m :: rest)) := by
    intro q
    have hplain : ∀ p,
        (stringPrefix (m :: m :: m :: rest) p q).2 = (q, ⟨p, m :: m :: m :: rest⟩) := by
      intro p
      rcases hm with rfl | rfl <;> rw [stringPrefix] <;> simp
    rcases hmark with rfl | rfl
    · rw [List.nil_append, hplain, List.append_nil]
      rfl
    · rw [List.singleton_append, stringPrefix]
      simp [hplain, between, Position.after]
  have hrest : (between before (mark ++ m :: m :: m :: rest)).rest =
      mark ++ m :: m :: m :: rest := rfl
  have hon : ∀ (b t : List Char), (between b (m :: t)).advance = between (b ++ [m]) t :=
    fun _ _ => advance_between
  have hsees : ∀ (b t : List Char), (between b (m :: t)).sees m = true := by
    simp [between, sees]
  have hquotes : m ≠ '`' := by rcases hm with rfl | rfl <;> decide
  have hopens : m = '\'' ∨ m = '"' := hm.symm
  have hnext : (between (before ++ mark) (m :: m :: m :: rest)).rest = m :: m :: m :: rest := rfl
  simp [stringStart, hprefix, hrest, hnext, hon, hsees, hquotes, hopens, quoted]

end Layout

open Layout (GapEnds NoString scan_below)

/-- Whether a state of the grammar expects neither an indent nor a newline. -/
def Quiet (state : Nat) : Prop :=
  state ≠ errorState ∧ (⟨layoutSet state⟩ : Expected).has .indent = false ∧
    (⟨layoutSet state⟩ : Expected).has .newline = false

instance (state : Nat) : Decidable (Quiet state) := inferInstanceAs (Decidable (_ ∧ _ ∧ _))

/-- Between blocks there is no layout token before a token that starts no string. -/
theorem Quiet.layoutToken?_eq_none {state : Nat} {layout : Option Layout}
    {before gap tail : List Char} (h : Quiet state) (hlayout : layout.getD .none = .none)
    (hmark : before ≠ [] ∨ (gap ++ tail).head? ≠ some '\ufeff') (hends : GapEnds gap tail)
    (hstring : NoString tail) :
    Place.layoutToken? ⟨state, layout, true⟩ state false (between before (gap ++ tail)) = none := by
  obtain ⟨-, hindent, hnewline⟩ := h
  refine Place.layoutToken?_eq_none (p := ⟨state, layout, true⟩) ?_
  dsimp only
  rw [skipMark_between hmark, hlayout, scan_below rfl hends (Nat.zero_le _) hindent hnewline,
    hstring]
  exact ite_self _

/-- A string start is the next token where it is expected and no block ends. -/
theorem Quiet.lex_stringStart {state : Nat} {l l' : Layout} {layout : Option Layout}
    {before gap tail upTo rest : List Char} (h : Quiet state)
    (hexpects : (⟨layoutSet state⟩ : Expected).has .stringStart = true)
    (hlayout : layout.getD .none = l) (hquotes : l.quotes = [])
    (hdepth : l.depth ≤ Layout.columnsAfter 0 gap) (hbefore : before ≠ [])
    (hends : GapEnds gap tail)
    (hstart : Layout.stringStart l (between (before ++ gap) tail) =
      some ⟨.stringStart, between (before ++ gap) tail, between upTo rest, l'⟩)
    (hroom : (between before (gap ++ tail)).pos.byte < (between upTo rest).pos.byte) :
    Place.lex ⟨state, layout, true⟩ (between before (gap ++ tail)) =
      ⟨.layoutToken LayoutToken.stringStart.symbol (Position.start.after (before ++ gap))
        (Position.start.after upTo) l' (layout != some l'), between upTo rest⟩ := by
  obtain ⟨hstate, hindent, hnewline⟩ := h
  have hset : layoutSet state ≠ 0 := by
    intro hset
    rw [hset] at hexpects
    exact absurd hexpects (by decide)
  have hscan : (layout.getD .none).scan ⟨layoutSet state⟩ (between before (gap ++ tail)).skipMark =
      some ⟨.stringStart, between (before ++ gap) tail, between upTo rest, l'⟩ := by
    rw [skipMark_between (.inl hbefore), hlayout,
      scan_below hquotes hends hdepth hindent hnewline, if_pos hexpects, hstart]
  exact Place.lex_scanned (p := ⟨state, layout, true⟩) hstate rfl hset hscan (.inl hroom)

end CellScript.Python
