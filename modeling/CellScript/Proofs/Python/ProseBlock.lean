import CellScript.Proofs.Python.Opener

set_option autoImplicit false

/-! # Reading a block of prose

The body of a block of prose is one literal in triple quotes. After the opener there is an indent,
then the pieces of the literal, then a newline and a dedent; `reads_body` goes all that way and says
what a tree shows of the body. -/

namespace CellScript.Python

open Grammar Cursor Progress
open Layout (GapEnds NoString)

/-! ## Tokens of no room -/

/-- A layout token that takes no room is the next token where the grammar goes on with it. -/
theorem Place.lex_noRoom {state : Nat} {layout : Option Layout} {l l' : Layout}
    {before rest : List Char} {t : LayoutToken} (hstate : state ≠ errorState)
    (hset : layoutSet state ≠ 0) (hnext : next state t.symbol ≠ state)
    (hlayout : layout.getD .none = l) (hbefore : before ≠ [])
    (hscan : l.scan ⟨layoutSet state⟩ (between before rest) =
      some ⟨t, between before rest, between before rest, l'⟩) :
    Place.lex ⟨state, layout, true⟩ (between before rest) =
      ⟨.layoutToken t.symbol (Position.start.after before) (Position.start.after before) l'
        (layout != some l'), between before rest⟩ := by
  have hscan' : (layout.getD .none).scan ⟨layoutSet state⟩ (between before rest).skipMark =
      some ⟨t, between before rest, between before rest, l'⟩ := by
    rw [hlayout, skipMark_between (.inl hbefore), hscan]
  exact Place.lex_scanned (p := ⟨state, layout, true⟩) hstate rfl hset hscan' (.inr hnext)

section

variable {text before p margin mark r gap tail : List Char} {m : Char} {es : List Entry}
  {layout : Option Layout}

/-- The layout in the body of a block of some depth. -/
def bodyLayout (depth : Nat) : Layout := ⟨false, [], [depth % 256]⟩

/-- The layout in a literal in the body of a block. -/
def literalLayout (depth : Nat) (m : Char) : Layout :=
  ⟨false, [Layout.quoted m true], [depth % 256]⟩

/-- The text after the colon of a block of prose: a literal, and what follows it. -/
def literalOn (margin mark : List Char) (m : Char) (r rest : List Char) : List Char :=
  '\n' :: margin ++ (mark ++ m :: m :: m :: (r ++ Layout.closing m rest))

/-- What may stand before the quotes of a literal, and the quotes. -/
def IsOpening (mark : List Char) (m : Char) : Prop :=
  (mark = [] ∨ mark = ['u']) ∧ (m = '"' ∨ m = '\'')

theorem IsOpening.startsToken (h : IsOpening mark m) (t : List Char) :
    Layout.startsToken (mark ++ m :: t) = true := by
  obtain ⟨rfl | rfl, rfl | rfl⟩ := h <;> rfl

theorem gapEnds_margin (hmargin : ∀ c ∈ margin, c = ' ') (htail : Layout.startsToken tail = true) :
    GapEnds ('\n' :: margin) tail ∧ Layout.columnsAfter 0 ('\n' :: margin) = margin.length := by
  have hspaces : margin = List.replicate margin.length ' ' :=
    List.eq_replicate_of_mem hmargin
  constructor
  · refine ⟨?_, .inl htail⟩
    rw [List.all_cons, List.all_eq_true.2]
    · rfl
    · intro c hc
      rw [hmargin c hc]
      rfl
  · rw [Layout.columnsAfter, if_pos rfl]
    conv_lhs => rw [hspaces]
    rw [Layout.columnsAfter_replicate, Nat.zero_add]

/-- The indent of a body is read. -/
theorem lex_indent (hmargin : ∀ c ∈ margin, c = ' ') (hdepth : margin.length % 256 ≠ 0)
    (hopening : IsOpening mark m) (hp : p ≠ []) :
    Place.lex ⟨90, some .none, true⟩ (between p (literalOn margin mark m r tail)) =
      ⟨.layoutToken LayoutToken.indent.symbol (Position.start.after p) (Position.start.after p)
        (bodyLayout margin.length) (some Layout.none != some (bodyLayout margin.length)),
        between p (literalOn margin mark m r tail)⟩ := by
  obtain ⟨hends, hcolumns⟩ := gapEnds_margin hmargin
    (hopening.startsToken (m :: m :: (r ++ Layout.closing m tail)))
  refine Place.lex_noRoom (by decide) (by decide) (by decide) rfl hp ?_
  have hpositive : Layout.none.depth < Layout.columnsAfter 0 ('\n' :: margin) := by
    rw [hcolumns]
    exact Nat.pos_of_ne_zero fun h => hdepth (by rw [h])
  have hscan := Layout.scan_indent p (e := ⟨layoutSet 90⟩) rfl hends
    List.mem_cons_self (by decide) hpositive
  rw [hcolumns] at hscan
  exact hscan

/-- The opening quotes of a literal are read. -/
theorem lex_opening (hmargin : ∀ c ∈ margin, c = ' ') (hopening : IsOpening mark m) (hp : p ≠ []) :
    Place.lex ⟨5, some (bodyLayout margin.length), true⟩
        (between p (literalOn margin mark m r tail)) =
      ⟨.layoutToken LayoutToken.stringStart.symbol (Position.start.after (p ++ '\n' :: margin))
        (Position.start.after (p ++ '\n' :: margin ++ mark ++ [m, m, m]))
        (literalLayout margin.length m)
        (some (bodyLayout margin.length) != some (literalLayout margin.length m)),
        between (p ++ '\n' :: margin ++ mark ++ [m, m, m]) (r ++ Layout.closing m tail)⟩ := by
  obtain ⟨hends, hcolumns⟩ := gapEnds_margin hmargin
    (hopening.startsToken (m :: m :: (r ++ Layout.closing m tail)))
  have hquiet : Quiet 5 ∧ (⟨layoutSet 5⟩ : Expected).has .stringStart = true := by decide
  have hdepth : (bodyLayout margin.length).depth ≤ Layout.columnsAfter 0 ('\n' :: margin) := by
    rw [hcolumns]
    exact Nat.mod_le _ _
  have hstart : Layout.stringStart (bodyLayout margin.length) (between (p ++ '\n' :: margin)
      (mark ++ m :: m :: m :: (r ++ Layout.closing m tail))) = _ :=
    Layout.stringStart_three hopening.1 hopening.2
  refine hquiet.1.lex_stringStart hquiet.2 rfl rfl hdepth hp hends hstart ?_
  have htext : '\n' :: margin ++ (mark ++ m :: m :: m :: (r ++ Layout.closing m tail)) =
      ('\n' :: margin ++ (mark ++ [m, m, m])) ++ (r ++ Layout.closing m tail) := by simp
  rw [htext, List.append_assoc (p ++ '\n' :: margin), List.append_assoc p]
  exact byte_between_lt _ _ (List.cons_ne_nil _ _)

/-- The newline after a literal is read. -/
theorem lex_newline (hends : GapEnds gap tail) (hline : '\n' ∈ gap) (hp : p ≠ []) (depth : Nat) :
    Place.lex ⟨983, some (bodyLayout depth), true⟩ (between p (gap ++ tail)) =
      ⟨.layoutToken LayoutToken.newline.symbol (Position.start.after p) (Position.start.after p)
        (bodyLayout depth) (some (bodyLayout depth) != some (bodyLayout depth)),
        between p (gap ++ tail)⟩ :=
  Place.lex_noRoom (by decide) (by decide) (by decide) rfl hp
    (Layout.scan_newline rfl hends hline (by decide) (by decide)
      (by decide))

/-- The dedent after a body is read. -/
theorem lex_dedent (hends : GapEnds gap tail) (hline : '\n' ∈ gap)
    (hcolumns : Layout.columnsAfter 0 gap = 0) (hp : p ≠ []) {depth : Nat}
    (hdepth : depth % 256 ≠ 0) :
    Place.lex ⟨663, some (bodyLayout depth), true⟩ (between p (gap ++ tail)) =
      ⟨.layoutToken LayoutToken.dedent.symbol (Position.start.after p) (Position.start.after p)
        .none (some (bodyLayout depth) != some Layout.none),
        between p (gap ++ tail)⟩ := by
  refine Place.lex_noRoom (by decide) (by decide) (by decide) rfl hp ?_
  refine Layout.scan_dedent rfl hends hline (by decide) (by decide) ?_ rfl
  rw [hcolumns]
  exact Nat.pos_of_ne_zero hdepth

/-- The statement that a body of prose is, between two texts. -/
def literalStatement (q z : List Char) (pieces : List Tree) (role : Option Role) : Tree :=
  branch .expressionStatement role q z [branch .string none q z pieces]

theorem shownBy_statement {q o c z : List Char} {f : Fragment} {l₁ l₂ l₃ : Layout}
    {b₁ b₂ b₃ : Bool} (hf : f.Sound) :
    ∃ pieces, (Fragment.phrase 110 0 0 false .start [.phrase 122 0 0 false .start
      [.phrase 188 0 0 false .start [.phrase 189 0 0 false .start [.phrase 232 0 0 false .start
        [.layoutToken LayoutToken.stringStart.symbol (Position.start.after q)
            (Position.start.after o) l₁ b₁,
          f,
          .layoutToken stringEnd (Position.start.after c) (Position.start.after z) l₂ b₂]]]],
      .layoutToken LayoutToken.newline.symbol (Position.start.after z) (Position.start.after z)
        l₃ b₃]).ShownBy
      (Position.start.after q) (Position.start.after z)
      fun role => [literalStatement q z pieces role] := by
  obtain ⟨ts, hts⟩ : ∃ ts : Nodes, ∀ role, f.nodes ⟨none, role⟩ = ts role := ⟨_, fun _ => rfl⟩
  have hopen := @Fragment.shownBy_layoutToken LayoutToken.stringStart.symbol
    (Position.start.after q) (Position.start.after o) b₁ l₁ (by decide)
  have hclose := @Fragment.shownBy_layoutToken stringEnd (Position.start.after c)
    (Position.start.after z) b₂ l₂ (by decide)
  have hnewline := @Fragment.shownBy_hiddenToken LayoutToken.newline.symbol
    (Position.start.after z) (Position.start.after z) b₃ l₃ (by decide)
  have hcontent : f.ShownBy f.reading.start f.reading.stop ts := ⟨hf, rfl, rfl, hts⟩
  have hstring := @Fragment.shownBy_node _ _ 232 0 0 _ _ .start _ (by decide) (by decide)
    rfl (.cons hopen (.cons hcontent (.cons hclose .nil))) rfl rfl
  have hvalue := @Fragment.shownBy_alone _ 188 0 0 _ _ .start _ (by decide) (by decide)
    (by decide) (@Fragment.shownBy_alone _ 189 0 0 _ _ .start _ (by decide)
      (by decide) (by decide) hstring)
  have hstatement := @Fragment.shownBy_node _ [] 122 0 0 _ _ .start _ (by decide)
    (by decide) rfl (.cons hvalue .nil) hvalue.start hvalue.stop
  exact ⟨_, @Fragment.shownBy_hidden _ _ 110 0 0 _ _ .start _ (by decide) (by decide) rfl
    (.cons hstatement (.cons hnewline .nil)) hstatement.start rfl⟩

/-- The text up to the literal of a body. -/
def toLiteral (p margin : List Char) : List Char := p ++ '\n' :: margin

/-- The text up to the inside of the literal of a body. -/
def toInside (p margin mark : List Char) (m : Char) : List Char :=
  toLiteral p margin ++ mark ++ [m, m, m]

/-- The text up to the end of the literal of a body. -/
def toBodyEnd (p margin mark : List Char) (m : Char) (r : List Char) : List Char :=
  toInside p margin mark m ++ r ++ [m, m, m]

/-- The stack after the indent of a body. -/
def indentStack (p : List Char) (depth : Nat) (b : Bool) (c : Cursor) (es : List Entry) :
    List Entry :=
  ⟨5, c, .layoutToken LayoutToken.indent.symbol (Position.start.after p) (Position.start.after p)
    (bodyLayout depth) b⟩ :: es

/-- The stack after the opening quotes of the literal of a body. -/
def insideStack (p margin mark : List Char) (m : Char) (c : Cursor) (b : Bool) (es : List Entry) :
    List Entry :=
  ⟨literalState, c, .layoutToken LayoutToken.stringStart.symbol
    (Position.start.after (toLiteral p margin)) (Position.start.after (toInside p margin mark m))
    (literalLayout margin.length m) b⟩ :: es

/-- The start of a body is read: the indent, the opening quotes and a first piece. -/
theorem reads_begin (text : List Char) (es : List Entry) (hmargin : ∀ c ∈ margin, c = ' ')
    (hdepth : margin.length % 256 ≠ 0) (hopening : IsOpening mark m) (hp : p ≠ [])
    (hr : Inner m tail ('\n' :: r)) (f : Fragment) :
    ∃ b₁ b₂ c d g t s, '\n' :: r = t ++ s ∧ t ≠ [] ∧ Inner m tail s ∧ g.Sound ∧
      Reads text 3 (some .none)
        (⟨90, between p (literalOn margin mark m ('\n' :: r) tail), f⟩ :: es)
        (some (literalLayout margin.length m))
        (⟨1764, between (toInside p margin mark m ++ t) (s ++ Layout.closing m tail), g⟩ ::
          insideStack p margin mark m c b₂ (indentStack p margin.length b₁ d
            (⟨90, between p (literalOn margin mark m ('\n' :: r) tail), f⟩ :: es))) := by
  have hindents : plan LayoutToken.indent.symbol maxJoins [90] = some ([], .shift 5) := by
    decide
  have hopens : plan LayoutToken.stringStart.symbol maxJoins [5] =
      some ([], .shift literalState) := by decide
  have hholds : plan LayoutToken.stringContent.symbol maxJoins [literalState] =
      some ([], .shift 1764) := by decide
  have hinside : InString literalState := by decide
  -- the first piece is content, for the literal starts with a line feed
  obtain ⟨t, s, hsplit, ht, hs, hpiece⟩ := Layout.inside_piece (literalLayout margin.length m)
    (toInside p margin mark m) hopening.2 hr (by decide)
    (show ('\n' :: r).length < ('\n' :: r ++ Layout.closing m tail).length + 1 by
      simp only [List.length_append]
      omega)
  have hroom : (between (toInside p margin mark m)
      ('\n' :: r ++ Layout.closing m tail)).pos.byte <
      (between (toInside p margin mark m ++ t) (s ++ Layout.closing m tail)).pos.byte := by
    rw [hsplit, List.append_assoc]
    exact byte_between_lt _ _ ht
  have hfirst := hinside.lex_token (l := literalLayout margin.length m) rfl rfl
    (skipMark_between (.inl (by simp [toInside]))) hroom hpiece
  have hindent := (Reads.here text (some .none)
    (⟨90, between p (literalOn margin mark m ('\n' :: r) tail), f⟩ :: es)).thenLayout
      (lex_indent hmargin hdepth hopening hp) (plan_states _ hindents rfl)
  have hopened := hindent.thenLayout (lex_opening hmargin hopening hp) (plan_states _ hopens rfl)
  have hbegun := hopened.thenLayout hfirst (plan_states _ hholds rfl)
  exact ⟨_, _, _, _, _, t, s, hsplit, ht, hs, Fragment.sound_layoutToken, hbegun⟩

/-- The stack after the body of a block that follows some text. -/
def bodyStack (p z rest : List Char) (depth : Nat) (b₁ b₂ : Bool) (c d : Cursor) (f : Fragment)
    (es : List Entry) : List Entry :=
  ⟨652, between z rest,
    .layoutToken LayoutToken.dedent.symbol (Position.start.after z) (Position.start.after z)
      .none b₂⟩ ::
  ⟨66, c, f⟩ :: indentStack p depth b₁ d es

/-- **The body of a block of prose is read.** -/
theorem reads_body (text : List Char) (es : List Entry) (hmargin : ∀ c ∈ margin, c = ' ')
    (hdepth : margin.length % 256 ≠ 0) (hopening : IsOpening mark m) (hp : p ≠ [])
    (hends : GapEnds gap tail) (hline : '\n' ∈ gap) (hcolumns : Layout.columnsAfter 0 gap = 0)
    (hr : Inner m (gap ++ tail) ('\n' :: r)) (f : Fragment) :
    ∃ n b₁ b₂ c d g pieces, n ≤ r.length + 7 ∧
      g.ShownBy (Position.start.after (toLiteral p margin))
        (Position.start.after (toBodyEnd p margin mark m ('\n' :: r)))
        (fun role => [literalStatement (toLiteral p margin)
          (toBodyEnd p margin mark m ('\n' :: r)) pieces role]) ∧
      Reads text n (some .none)
        (⟨90, between p (literalOn margin mark m ('\n' :: r) (gap ++ tail)), f⟩ :: es) (some .none)
        (bodyStack p (toBodyEnd p margin mark m ('\n' :: r)) (gap ++ tail) margin.length b₁ b₂ c d g
          (⟨90, between p (literalOn margin mark m ('\n' :: r) (gap ++ tail)), f⟩ :: es)) := by
  have hends' : plan LayoutToken.newline.symbol maxJoins [983, 1651, literalState, 5] =
      some ([(⟨232, 3, 0, 0⟩, 953), (⟨189, 1, 0, 0⟩, 952), (⟨188, 1, 0, 0⟩, 1762),
        (⟨122, 1, 0, 0⟩, 2370)], .shift 663) := by decide
  have hcloses : plan LayoutToken.dedent.symbol maxJoins [663, 2370, 5] =
      some ([(⟨110, 2, 0, 0⟩, 66)], .shift 652) := by decide
  obtain ⟨b₁, b₂, c, d, g, t, s, hsplit, ht, hs, hg, hbegun⟩ := reads_begin text es
    hmargin hdepth hopening hp hr f
  -- the other pieces, and the closing quotes
  obtain ⟨n, c', g', hn, hg', hclosed⟩ := closes_literal text
    (insideStack p margin mark m c b₂ (indentStack p margin.length b₁ d
      (⟨90, between p (literalOn margin mark m ('\n' :: r) (gap ++ tail)), f⟩ :: es)))
    (l := literalLayout margin.length m) hopening.2 rfl (by simp [toInside]) rfl hs
    (Gathers.first (c := between (toInside p margin mark m ++ t)
      (s ++ Layout.closing m (gap ++ tail))) hg) rfl
  have hliteral := hbegun.trans hclosed
  rw [List.append_assoc (toInside p margin mark m) t s, ← hsplit] at hliteral
  have hnewline := hliteral.thenLayout
    (lex_newline hends hline (by simp) margin.length) (plan_states _ hends' rfl)
  have hdedent := hnewline.thenLayout
    (lex_dedent hends hline hcolumns (by simp) hdepth) (plan_states _ hcloses rfl)
  simp only [insideStack, List.foldl_cons, List.foldl_nil, Entry.join_one, Entry.join_two,
    Entry.join_three] at hdedent
  obtain ⟨pieces, hshown⟩ := shownBy_statement (q := toLiteral p margin)
    (o := toInside p margin mark m) (c := toInside p margin mark m ++ '\n' :: r)
    (z := toBodyEnd p margin mark m ('\n' :: r)) hg'
  have hlength : n ≤ r.length + 2 := by
    have hlen := congrArg List.length hsplit
    have hpos := List.length_pos_iff.2 ht
    simp only [List.length_cons, List.length_append] at hlen
    omega
  exact ⟨_, _, _, _, _, _, pieces, by omega, hshown, hdedent⟩

end

end CellScript.Python
