import CellScript.Proofs.Python.Literal
import CellScript.Proofs.Python.SingleWay

set_option autoImplicit false

/-! # Reading literals

The pieces of a literal are gathered in one fragment on the stack, whatever they are: `Gathers` is
that stack, and each piece leaves such a stack. `reads_pieces` goes on to the closing quotes. -/

namespace CellScript.Python

open Grammar Cursor

/-! ## Single tokens -/

namespace Fragment

theorem sound_token {symbol : Nat} {start stop : Position} {keyword : Bool}
    (h : symbol ≠ endOfText) : (token symbol start stop keyword).Sound :=
  ⟨by simpa [token, extra, reading] using h, rfl⟩

theorem sound_layoutToken {symbol : Nat} {start stop : Position} {l : Layout} {changes : Bool} :
    (layoutToken symbol start stop l changes).Sound :=
  ⟨rfl, rfl⟩

end Fragment

/-- The symbol of a piece of content. -/
def pieceOfContent : Nat := LayoutToken.stringContent.symbol

/-- The symbol of the end of a string. -/
def stringEnd : Nat := LayoutToken.stringEnd.symbol

/-- The symbol of the content of a string. -/
def stringContent : Nat := 233

namespace Progress

variable {text : List Char} {layout₀ layout : Option Layout} {es₀ es : List Entry}
  {s symbol n m : Nat} {js : List (Reduction × Nat)} {start stop : Position} {c : Cursor}
  {states : List Nat}

theorem Reads.here (text : List Char) (layout : Option Layout) (es : List Entry) :
    Reads text 0 layout es layout es := .done

/-- Then a token is taken that is no layout token. -/
theorem Reads.thenToken {keyword : Bool} (h : Reads text n layout₀ es₀ layout es)
    (hnext : nextToken text layout es = ⟨.token symbol start stop keyword, c⟩)
    (hsymbol : symbol ≠ endOfText ∧ symbol ≠ error)
    (hplan : plan symbol maxJoins (Entry.states es) = some (js, .shift s)) :
    Reads text (n + 1) layout₀ es₀ layout
      (⟨s, c, .token symbol start stop keyword⟩ :: js.foldl (Entry.join text) es) :=
  h.trans (.take hnext (Fragment.sound_token hsymbol.1) hsymbol.2 hplan)

/-- Then a layout token is taken. -/
theorem Reads.thenLayout {t : LayoutToken} {l : Layout} {changes : Bool}
    (h : Reads text n layout₀ es₀ layout es)
    (hnext : nextToken text layout es = ⟨.layoutToken t.symbol start stop l changes, c⟩)
    (hplan : plan t.symbol maxJoins (Entry.states es) = some (js, .shift s)) :
    Reads text (n + 1) layout₀ es₀ (some l)
      (⟨s, c, .layoutToken t.symbol start stop l changes⟩ :: js.foldl (Entry.join text) es) := by
  have herror : t.symbol ≠ error := by cases t <;> decide
  exact h.trans (.take hnext Fragment.sound_layoutToken herror hplan)

/-- A plan goes by the topmost states. -/
theorem plan_states (below : List Nat) {x : List (Reduction × Nat) × Move}
    (h : plan symbol n states = some x) (hes : Entry.states es = states ++ below) :
    plan symbol n (Entry.states es) = some x := by
  rw [hes]
  exact plan_append _ h below

end Progress

/-! ## Pieces of a literal -/

section

variable {m x : Char} {more r before : List Char} {l : Layout} {qs : List Quote} {state : Nat}

/-- Whether a state of the grammar stands inside of a string. -/
def InString (state : Nat) : Prop :=
  state ≠ errorState ∧ layoutSet state = Layout.insideSet.bits ∧ lexState state = beforeEscape

instance (state : Nat) : Decidable (InString state) := inferInstanceAs (Decidable (_ ∧ _ ∧ _))

/-- A layout token that takes room inside of a string is the next token. -/
theorem InString.lex_token (h : InString state) {c stop : Cursor} {t : LayoutToken} {l' : Layout}
    {q : Quote} (hquotes : l.quotes = q :: qs) (hformat : q.format = false)
    (hskip : c.skipMark = c) (hroom : c.pos.byte < stop.pos.byte)
    (hinside : l.inside q (c.rest.length + 1) false c = .token t stop l') :
    Place.lex ⟨state, some l, true⟩ c =
      ⟨.layoutToken t.symbol c.pos stop.pos l' (some l != some l'), stop⟩ := by
  obtain ⟨hstate, hset, -⟩ := h
  have hsome : layoutSet state ≠ 0 := by
    rw [hset]
    decide
  have hscan : l.scan ⟨layoutSet state⟩ c.skipMark = some ⟨t, c, stop, l'⟩ := by
    rw [hset, hskip]
    exact Layout.scan_inside hquotes hformat hinside
  exact Place.lex_scanned (p := ⟨state, some l, true⟩) hstate rfl hsome hscan (.inl hroom)

/-- A backslash inside of a literal starts an escape. -/
theorem InString.lex_escape (h : InString state) (hm : m = '"' ∨ m = '\'')
    (hquotes : l.quotes = Layout.quoted m true :: qs) (hbefore : before ≠ [])
    (hr : Inner m more ('\\' :: r)) :
    ∃ symbol p s, '\\' :: r = p ++ s ∧ p ≠ [] ∧ Inner m more s ∧
      (symbol = escapeSequence ∨ symbol = loneBackslash) ∧
      Place.lex ⟨state, some l, true⟩ (between before ('\\' :: r ++ Layout.closing m more)) =
        ⟨.token symbol (Position.start.after before) (Position.start.after (before ++ p)) false,
          between (before ++ p) (s ++ Layout.closing m more)⟩ := by
  obtain ⟨hstate, hset, hlex⟩ := h
  have hskip : (between before ('\\' :: r ++ Layout.closing m more)).skipMark = _ :=
    skipMark_between (.inl hbefore)
  obtain ⟨hstart, symbol, p, s, hsplit, hp, hs, hsymbol, hfound⟩ :=
    scan_escape before hm hr
  refine ⟨symbol, p, s, hsplit, hp, hs, hsymbol, ?_⟩
  have hnothing : l.scan ⟨layoutSet state⟩
      (between before ('\\' :: r ++ Layout.closing m more)).skipMark = none := by
    rw [hset, hskip]
    exact Layout.scan_inside_nothing hquotes rfl Layout.inside_backslash
  have hword : symbol ≠ identifier := by rcases hsymbol with rfl | rfl <;> decide
  cases hscan : scan beforeEscape (between before ('\\' :: r ++ Layout.closing m more)) with
  | mk start found reached =>
      rw [hscan] at hstart hfound
      obtain rfl : start = _ := hstart
      obtain rfl : found = _ := hfound
      rw [← hlex, ← hskip] at hscan
      rw [Place.lex_scan (p := ⟨state, some l, true⟩) hstate (Place.layoutToken?_eq_none hnothing)
        hscan, Place.word, if_neg hword, hskip]
      rfl

end

/-! ## The run over a literal -/

namespace Progress

variable {text : List Char} {base es : List Entry} {below : List Nat}

/-- The state of the grammar after the opening quotes of a literal in the body of a block. -/
def literalState : Nat := 1650

/-- A stack that has some pieces of content of a literal: as one fragment, maybe with one piece
more. -/
inductive Gathers (base : List Entry) : List Entry → Prop where
  | first {c : Cursor} {f : Fragment} (sound : f.Sound) : Gathers base (⟨1764, c, f⟩ :: base)
  | further {c d : Cursor} {f g : Fragment} (sound : f.Sound) (last : g.Sound) :
      Gathers base (⟨1770, d, g⟩ :: ⟨1764, c, f⟩ :: base)

namespace Gathers

theorem exists_state (h : Gathers base es) :
    ∃ s, (Entry.states es).headD 0 = s ∧ InString s := by
  cases h with
  | first => exact ⟨1764, rfl, by decide⟩
  | further => exact ⟨1770, rfl, by decide⟩

/-- One more piece is gathered with the others. -/
theorem more (text : List Char) (h : Gathers base es)
    (hbase : Entry.states base = literalState :: below) {symbol : Nat}
    (hsymbol : symbol ∈ [pieceOfContent, escapeSequence, loneBackslash]) :
    ∃ js, plan symbol maxJoins (Entry.states es) = some (js, .shift 1770) ∧
      ∀ d g, g.Sound → Gathers base (⟨1770, d, g⟩ :: js.foldl (Entry.join text) es) := by
  cases h with
  | @first c f sound =>
      refine ⟨[], ?_, fun d g hg => .further sound hg⟩
      rw [Entry.states, List.map_cons, List.cons_append, ← Entry.states, hbase]
      refine plan_append [1764, literalState] ?_ below
      revert symbol
      decide
  | @further c d f g sound last =>
      refine ⟨[(⟨271, 2, 0, 0⟩, 1764)], ?_, fun d' g' hg => .further ?_ hg⟩
      · rw [Entry.states, List.map_cons, List.map_cons, List.cons_append, List.cons_append,
          ← Entry.states, hbase]
        refine plan_append [1770, 1764, literalState] ?_ below
        revert symbol
        decide
      · refine Fragment.sound_phrase (by decide) (by decide) ?_
        simp [sound, last]

/-- At the closing quotes there is the content of a string. -/
theorem ends (text : List Char) (h : Gathers base es)
    (hbase : Entry.states base = literalState :: below) :
    ∃ js c f, plan stringEnd maxJoins (Entry.states es) = some (js, .shift 983) ∧
      js.foldl (Entry.join text) es = ⟨1651, c, f⟩ :: base ∧ f.Sound := by
  cases h with
  | @first c f sound =>
      refine ⟨[(⟨233, 1, 0, 0⟩, 1651)], _, _, ?_, rfl, Fragment.sound_phrase (by decide) (by decide)
        (by simp [sound])⟩
      rw [Entry.states, List.map_cons, List.cons_append, ← Entry.states, hbase]
      refine plan_append [1764, literalState] ?_ below
      decide
  | @further c d f g sound last =>
      refine ⟨[(⟨271, 2, 0, 0⟩, 1764), (⟨233, 1, 0, 0⟩, 1651)], _, _, ?_, rfl,
        Fragment.sound_phrase (by decide) (by decide) ?_⟩
      · rw [Entry.states, List.map_cons, List.map_cons, List.cons_append, List.cons_append,
          ← Entry.states, hbase]
        refine plan_append [1770, 1764, literalState] ?_ below
        decide
      · have hsound : (Fragment.phrase 271 0 0 false (Entry.top text base).pos [f, g]).Sound :=
          Fragment.sound_phrase (by decide) (by decide) (by simp [sound, last])
        simpa [Entry.join] using hsound

end Gathers

variable {m x : Char} {more r before : List Char} {l : Layout} {qs : List Quote}

/-- From a stack that gathers the content of a literal, over what is left of the literal, the
closing quotes are read. -/
def Closes (text : List Char) (base : List Entry) (l : Layout) (m : Char) (more : List Char)
    (es : List Entry) (before r : List Char) : Prop :=
  ∃ n c f, n ≤ r.length + 1 ∧ f.Sound ∧
    Reads text n (some l) es (some l.closed)
      (⟨983, between (before ++ r ++ [m, m, m]) more,
        .layoutToken stringEnd (Position.start.after (before ++ r))
          (Position.start.after (before ++ r ++ [m, m, m])) l.closed (some l != some l.closed)⟩ ::
        ⟨1651, c, f⟩ :: base)

theorem Closes.of_piece {symbol : Nat} {p t : List Char} {g : Fragment} (hgathers : Gathers base es)
    (hbase : Entry.states base = literalState :: below) (hp : p ≠ [])
    (hsymbol : symbol ∈ [pieceOfContent, escapeSequence, loneBackslash]) (hgs : g.symbol = symbol)
    (hg : g.Sound) (hlayout : (g.reading.layout <|> some l) = some l)
    (hlex : nextToken text (some l) es =
      ⟨g, between (before ++ p) (t ++ Layout.closing m more)⟩)
    (ht : ∀ es', Gathers base es' →
      Entry.top text es' = between (before ++ p) (t ++ Layout.closing m more) →
      Closes text base l m more es' (before ++ p) t) :
    Closes text base l m more es before (p ++ t) := by
  obtain ⟨js, hplan, hmore⟩ := hgathers.more text hbase hsymbol
  obtain ⟨n, c, f, hn, hf, hreads⟩ := ht _ (hmore _ g hg) rfl
  have hpos := List.length_pos_iff.2 hp
  have herror : g.symbol ≠ error := by
    rw [hgs]
    rintro rfl
    revert hsymbol
    decide
  refine ⟨n + 1, c, f, by rw [List.length_append]; omega, hf, ?_⟩
  refine .token hlex hg herror (hgs ▸ hplan) ?_
  rw [← List.append_assoc, hlayout]
  exact hreads

/-- **The pieces of a literal are read up to its closing quotes.** -/
theorem closes_literal (text : List Char) (base : List Entry) (hm : m = '"' ∨ m = '\'')
    (hquotes : l.quotes = Layout.quoted m true :: qs)
    (hbefore : before ≠ []) (hbase : Entry.states base = literalState :: below)
    (hr : Inner m more r) (hgathers : Gathers base es)
    (htop : Entry.top text es = between before (r ++ Layout.closing m more)) :
    Closes text base l m more es before r := by
  induction hlen : r.length using Nat.strongRecOn generalizing r before es with
  | ind k ih =>
      subst hlen
      obtain ⟨s, hs, hstring⟩ := hgathers.exists_state
      have hskip : (between before (r ++ Layout.closing m more)).skipMark = _ :=
        skipMark_between (.inl hbefore)
      have hnext : nextToken text (some l) es =
          Place.lex ⟨s, some l, true⟩ (between before (r ++ Layout.closing m more)) := by
        rw [nextToken, hs, htop]
      -- what is left after a piece is shorter
      have hrest : ∀ {p t : List Char}, r = p ++ t → p ≠ [] → Inner m more t →
          ∀ es', Gathers base es' →
          Entry.top text es' = between (before ++ p) (t ++ Layout.closing m more) →
          Closes text base l m more es' (before ++ p) t := by
        intro p t hsplit hp ht es' hes' htop'
        have hpos := List.length_pos_iff.2 hp
        refine ih t.length ?_ (by simp [hp]) ht hes' htop' rfl
        rw [hsplit, List.length_append]
        omega
      cases r with
      | nil =>
          obtain ⟨js, c, f, hplan, hjoin, hf⟩ := hgathers.ends text hbase
          have hroom : (between before (Layout.closing m more)).pos.byte <
              (between (before ++ [m, m, m]) more).pos.byte := byte_between_lt _ _ (by simp)
          have hlex := hstring.lex_token hquotes rfl hskip hroom (Layout.inside_closing hm)
          refine ⟨1, c, f, by simp, hf, ?_⟩
          rw [← hjoin, List.append_nil]
          exact Reads.take (hnext.trans hlex) Fragment.sound_layoutToken
            (show stringEnd ≠ error by decide) hplan
      | cons x t =>
          by_cases hx : x = '\\'
          · subst hx
            obtain ⟨symbol, p, t', hsplit, hp, ht', hsymbol, hlex⟩ :=
              hstring.lex_escape hm hquotes hbefore hr
            have hpiece : symbol ∈ [pieceOfContent, escapeSequence, loneBackslash] ∧
                symbol ≠ endOfText := by
              rcases hsymbol with rfl | rfl <;> decide
            rw [hsplit]
            exact .of_piece hgathers hbase hp hpiece.1 rfl (Fragment.sound_token hpiece.2) rfl
              (hnext.trans hlex) (hrest hsplit hp ht')
          · obtain ⟨p, t', hsplit, hp, ht', hinside⟩ := Layout.inside_piece l before hm hr hx
              (show (x :: t).length < (x :: t ++ Layout.closing m more).length + 1 by
                simp only [List.length_append]
                omega)
            have hroom : (between before (x :: t ++ Layout.closing m more)).pos.byte <
                (between (before ++ p) (t' ++ Layout.closing m more)).pos.byte := by
              rw [hsplit, List.append_assoc]
              exact byte_between_lt _ _ hp
            have hlex := hnext.trans (hstring.lex_token hquotes rfl hskip hroom hinside)
            rw [hsplit]
            have hpiece : pieceOfContent ∈ [pieceOfContent, escapeSequence, loneBackslash] := by
              decide
            exact .of_piece hgathers hbase hp hpiece rfl Fragment.sound_layoutToken rfl hlex
              (hrest hsplit hp ht')

end Progress

end CellScript.Python
