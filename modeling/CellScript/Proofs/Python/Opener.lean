import CellScript.Proofs.Python.Shows

set_option autoImplicit false

/-! # Reading the opener of a block

The opener of a block is read token by token from a stack of whole statements, and leaves the `with`
keyword, a clause and a colon on it. The module may be any word that the grammar takes for a name
there: some keywords are names everywhere but in the statements they are for. -/

namespace CellScript.Python

open Grammar Cursor Progress
open Layout (GapEnds NoString)

/-! ## Words and marks between blocks -/

theorem ne_of_continuesWord {c d : Char} (hc : continuesWord c = true)
    (hd : continuesWord d = false) : c ≠ d := by
  rintro rfl
  rw [hc] at hd
  cases hd

theorem continuesWord_of_spellsWord {w : List Char} (hw : spellsWord w = true) :
    ∀ c ∈ w, continuesWord c = true := by
  cases w with
  | nil => cases hw
  | cons c w =>
      rw [spellsWord, Bool.and_eq_true, List.all_eq_true] at hw
      refine List.forall_mem_cons.2 ⟨?_, hw.2⟩
      simp [continuesWord, hw.1]

theorem isQuote_of_continuesWord {c : Char} (hc : continuesWord c = true) :
    Layout.isQuote c = false := by
  simp [Layout.isQuote, ne_of_continuesWord hc (show continuesWord '`' = false by decide),
    ne_of_continuesWord hc (show continuesWord '\'' = false by decide),
    ne_of_continuesWord hc (show continuesWord '"' = false by decide)]

/-- Whether a character after a word ends it and leaves no doubt that it is one. -/
def endsWord (c : Char) : Bool :=
  tokenStep insideWord (charClass c) == 0 && !Layout.isPrefixLetter c && !Layout.isQuote c

section

variable {before gap w rest : List Char} {x : Char} {state : Nat} {layout : Option Layout}

theorem noString_word (hw : spellsWord w = true) (hx : endsWord x = true) :
    NoString (w ++ x :: rest) := by
  simp only [endsWord, Bool.and_eq_true, Bool.not_eq_true'] at hx
  refine Layout.noString_append hx.1.2 fun c hc => ?_
  rcases List.mem_append.1 hc with hc | hc
  · exact isQuote_of_continuesWord (continuesWord_of_spellsWord hw c hc)
  · rw [List.mem_singleton.1 hc]
    exact hx.2

theorem gapEnds_word (hgap : gap.all isGap = true) (hw : spellsWord w = true) :
    GapEnds gap (w ++ rest) := by
  refine ⟨hgap, .inl ?_⟩
  cases w with
  | nil => cases hw
  | cons c w =>
      have hc := continuesWord_of_spellsWord hw c List.mem_cons_self
      have hgaps : ['\n', ' ', '\r', '\x0c', '\t', '#', '\\'].all (!continuesWord ·) = true := by
        decide
      have hne : ∀ d ∈ ['\n', ' ', '\r', '\x0c', '\t', '#', '\\'], c ≠ d := fun d hd =>
        ne_of_continuesWord hc (by simpa using List.all_eq_true.1 hgaps d hd)
      simp only [List.mem_cons, List.not_mem_nil, or_false, forall_eq_or_imp, forall_eq] at hne
      simp [Layout.startsToken, hne]

/-- A word between blocks is the next token. -/
theorem Quiet.lex_word (h : Quiet state) (hlex : lexState state = beforeWord)
    (hlayout : layout.getD .none = .none) (before gap rest : List Char)
    (hmark : before ≠ [] ∨ (gap ++ (w ++ x :: rest)).head? ≠ some '\ufeff')
    (hgap : gap.all isGap = true) (hw : spellsWord w = true) (hx : endsWord x = true) :
    Place.lex ⟨state, layout, true⟩ (between before (gap ++ (w ++ x :: rest))) =
      ⟨.token (Place.symbolOf ⟨state, layout, true⟩ w).1 (Position.start.after (before ++ gap))
        (Position.start.after (before ++ gap ++ w)) (Place.symbolOf ⟨state, layout, true⟩ w).2,
        between (before ++ gap ++ w) (x :: rest)⟩ := by
  have hnone := h.layoutToken?_eq_none hlayout hmark (gapEnds_word hgap hw) (noString_word hw hx)
  have hstop : StopsBefore insideWord (x :: rest) := by
    rintro c hc
    obtain rfl := Option.some.inj hc
    simp only [endsWord, Bool.and_eq_true, beq_iff_eq] at hx
    exact hx.1.1
  exact Place.lex_word (p := ⟨state, layout, true⟩) h.1 hlex hmark hnone hgap hw hstop

/-- In a state of the grammar a character is a token of its own if a certain other one follows;
`next` is the state of the token automaton after it. -/
def ReadsMark (state next symbol : Nat) (x y : Char) : Prop :=
  Quiet state ∧ tokenStep (lexState state) (charClass x) = 2 * (next + 1) ∧
    tokenRow next % 256 = symbol + 1 ∧ (tokenRow next >>> 8) % 256 = symbol + 1 ∧
    tokenStep next (charClass y) = 0 ∧ symbol ≠ identifier ∧
    Layout.startsToken [x] = true ∧ endsWord x = true

instance (state next symbol : Nat) (x y : Char) : Decidable (ReadsMark state next symbol x y) :=
  inferInstanceAs (Decidable (_ ∧ _ ∧ _ ∧ _ ∧ _ ∧ _ ∧ _ ∧ _))

/-- A mark between blocks is the next token. -/
theorem ReadsMark.lex {next symbol : Nat} {y : Char} (h : ReadsMark state next symbol x y)
    (hlayout : layout.getD .none = .none) (before : List Char) (hbefore : before ≠ [])
    (rest : List Char) :
    Place.lex ⟨state, layout, true⟩ (between before (x :: y :: rest)) =
      ⟨.token symbol (Position.start.after before) (Position.start.after (before ++ [x])) false,
        between (before ++ [x]) (y :: rest)⟩ := by
  obtain ⟨hquiet, hstep, hrow, hend, hstop, hsymbol, hstart, hx⟩ := h
  have hstring : NoString (x :: y :: rest) := by
    simp only [endsWord, Bool.and_eq_true, Bool.not_eq_true'] at hx
    refine Layout.noString_append (t := []) hx.1.2 fun c hc => ?_
    rw [List.mem_singleton.1 hc]
    exact hx.2
  have hends : GapEnds [] (x :: y :: rest) := ⟨rfl, .inl hstart⟩
  have hnone := hquiet.layoutToken?_eq_none hlayout (.inl hbefore) hends hstring
  have hstops : StopsBefore next (y :: rest) := by
    intro c hc
    obtain rfl := Option.some.inj hc
    exact hstop
  exact Place.lex_mark (p := ⟨state, layout, true⟩) hquiet.1 hbefore hnone hstep hrow hend hstops
    hsymbol

end

/-! ## Names -/

/-- The words that the grammar does not take for a name where an expression starts. -/
def refusedNames : List (List Char) :=
  ["None", "True", "False", "not", "lambda"].map String.toList

/-- The tokens that the grammar takes for a name where an expression starts. -/
def nameTokens : List Nat := [identifier, 12, 26, 28, 42, 43, 95]

/-- The state of the grammar after the `with` of a statement. -/
def withState : Nat := 400

theorem symbolOf_mem_nameTokens (layout : Option Layout) {w : List Char} (hw : w ∉ refusedNames) :
    (Place.symbolOf ⟨withState, layout, true⟩ w).1 ∈ nameTokens := by
  have hkeywords : ∀ e ∈ keywords, expects withState e.2 = true →
      e.2 ∈ nameTokens ∨ e.1.toList ∈ refusedNames := by
    decide
  rw [Place.symbolOf]
  split
  · rename_i k hk
    obtain ⟨e, he, rfl⟩ := Option.map_eq_some_iff.1 hk
    split
    · rename_i hexpects
      have hword : e.1.toList = w := by simpa using List.find?_some he
      refine (hkeywords e (List.mem_of_find?_eq_some he) hexpects).resolve_right ?_
      rwa [hword]
    · decide
  · decide

/-- A state of the grammar after a name, and what a dot does there: the name becomes an expression,
by its shape under the kind of an identifier if it is the token of a keyword. -/
def TakesName (token state next shape : Nat) : Prop :=
  plan token maxJoins [withState] = some ([], .shift state) ∧ ReadsMark state next 4 '.' 'C' ∧
    plan 4 maxJoins [state, withState] = some ([(⟨189, 1, 0, shape⟩, 957)], .shift 2678) ∧
    (token = identifier ∧ shape = 0 ∨ token ≠ identifier ∧ shape = 1)

instance (token state next shape : Nat) : Decidable (TakesName token state next shape) :=
  inferInstanceAs (Decidable (_ ∧ _ ∧ _ ∧ _))

theorem takesName : ∀ token ∈ nameTokens, ∃ state ∈ [1144, 1142, 1143, 164], ∃ next ∈ [167, 4],
    ∃ shape ∈ [0, 1], TakesName token state next shape := by
  decide

/-- The expression that a name becomes is shown as an identifier. -/
theorem shownBy_name {token shape : Nat} {start stop at_ : Position} {keyword : Bool}
    (htoken : token ∈ nameTokens)
    (hshape : token = identifier ∧ shape = 0 ∨ token ≠ identifier ∧ shape = 1) :
    (Fragment.phrase 189 shape 0 false at_ [.token token start stop keyword]).ShownBy start stop
      (.one .identifier true start stop []) := by
  have hend : token ≠ endOfText := by
    rintro rfl
    revert htoken
    decide
  rcases hshape with ⟨rfl, rfl⟩ | ⟨-, rfl⟩
  · exact Fragment.shownBy_alone (by decide) (by decide) (by decide)
      (Fragment.shownBy_token (by decide) hend)
  · exact Fragment.shownBy_renamed (by decide) (by decide) rfl rfl hend

/-! ## The guard -/

/-- A token in a tree, after some text. -/
def leaf (kind : Kind) (named : Bool) (role : Option Role) (before token : List Char) : Tree :=
  .node ⟨kind, named, role, Position.start.after before, Position.start.after (before ++ token),
    false, false⟩ []

/-- A phrase in a tree, between what comes before it and what comes before its end. -/
def branch (kind : Kind) (role : Option Role) (before upTo : List Char) (children : List Tree) :
    Tree :=
  .node ⟨kind, true, role, Position.start.after before, Position.start.after upTo, false, false⟩
    children

section

variable (kind : Kind) (named : Bool) (role : Option Role) (p q t : List Char) (cs : List Tree)

@[simp] theorem start_leaf : (leaf kind named role p t).start = Position.start.after p := rfl

@[simp] theorem stop_leaf : (leaf kind named role p t).stop = Position.start.after (p ++ t) := rfl

@[simp] theorem start_branch : (branch kind role p q cs).start = Position.start.after p := rfl

@[simp] theorem stop_branch : (branch kind role p q cs).stop = Position.start.after q := rfl

end

/-- The string that names a kind of cell. -/
def kindString (p k : List Char) (role : Option Role) : Tree :=
  branch .string role p (p ++ ['"'] ++ k ++ ['"'])
    [leaf .stringStart true none p ['"'],
      branch (.other "string_content") none (p ++ ['"']) (p ++ ['"'] ++ k) [],
      leaf .stringEnd true none (p ++ ['"'] ++ k) ['"']]

/-- A text up to the method of the guard after it. -/
def toMethod (p w : List Char) : List Char := p ++ w ++ ['.'] ++ "Cell".toList

/-- The method of a module that makes a guard. -/
def guardMethod (p w : List Char) (role : Option Role) : Tree :=
  branch .attribute role p (toMethod p w)
    [leaf .identifier true (some .object) p w, leaf (.other ".") false none (p ++ w) ['.'],
      leaf .identifier true (some .attribute) (p ++ w ++ ['.']) "Cell".toList]

/-- A text up to the kind in the arguments after it. -/
def toKind (p k : List Char) : List Char := p ++ ['('] ++ ['"'] ++ k ++ ['"']

/-- The arguments of a guard. -/
def guardArguments (p k : List Char) (role : Option Role) : Tree :=
  branch (.other "argument_list") role p (toKind p k ++ [')'])
    [leaf (.other "(") false none p ['('], kindString (p ++ ['(']) k none,
      leaf (.other ")") false none (toKind p k) [')']]

/-- A text up to the end of the guard after it. -/
def toGuard (p w k : List Char) : List Char := toKind (toMethod p w) k ++ [')']

/-- The call that a guard is. -/
def guardCall (p w k : List Char) (role : Option Role) : Tree :=
  branch .call role p (toGuard p w k)
    [guardMethod p w (some .function), guardArguments (toMethod p w) k (some .arguments)]

/-- The clause of an opener. -/
def guardClause (p w k : List Char) (role : Option Role) : Tree :=
  branch .withClause role p (toGuard p w k)
    [branch .withItem none p (toGuard p w k) [guardCall p w k (some .value)]]

/-! ## Stacks -/

/-- A stack with a token of one character on top of it, before some text. -/
def markStack (state symbol : Nat) (p : List Char) (x : Char) (rest : List Char)
    (es : List Entry) : List Entry :=
  ⟨state, between (p ++ [x]) rest,
    .token symbol (Position.start.after p) (Position.start.after (p ++ [x])) false⟩ :: es

theorem Place.symbolOf_keyword {p : Place} {w : List Char} {k : Nat} (hw : keyword? w = some k)
    (hk : expects p.state k = true) : p.symbolOf w = (k, true) := by
  rw [symbolOf, hw]
  exact if_pos hk

theorem Place.symbolOf_plain {p : Place} {w : List Char}
    (h : ∀ e ∈ keywords, expects p.state e.2 = false) : p.symbolOf w = (identifier, false) := by
  rw [symbolOf]
  split
  · rename_i k hk
    obtain ⟨e, he, rfl⟩ := Option.map_eq_some_iff.1 hk
    rw [if_neg (by simp [h e (List.mem_of_find?_eq_some he)])]
  · rfl

/-- The keyword of the statement that a block is. -/
def withToken : Nat := 36

/-- Whether a `with` statement may start in a state of the grammar. -/
def OpensWith (state : Nat) : Prop :=
  Quiet state ∧ lexState state = beforeWord ∧ expects state withToken = true

instance (state : Nat) : Decidable (OpensWith state) := inferInstanceAs (Decidable (_ ∧ _ ∧ _))

section

variable {text before gap w k rest more p : List Char} {below : List Nat} {layout : Option Layout}
  {es : List Entry} {js : List (Reduction × Nat)} {state : Nat} {x : Char}

/-- A name is read after a `with`, and the dot after it. -/
theorem reads_name (text : List Char) (es : List Entry) (hlayout : layout.getD .none = .none)
    (hstates : Entry.states es = withState :: below)
    (htop : Entry.top text es = between p (' ' :: (w ++ '.' :: 'C' :: rest))) (hp : p ≠ [])
    (hw : spellsWord w = true) (hname : w ∉ refusedNames) :
    ∃ c f, f.ShownBy (Position.start.after (p ++ [' '])) (Position.start.after (p ++ [' '] ++ w))
        (.one .identifier true (Position.start.after (p ++ [' ']))
          (Position.start.after (p ++ [' '] ++ w)) []) ∧
      Reads text 2 layout es layout
        (markStack 2678 4 (p ++ [' '] ++ w) '.' ('C' :: rest) (⟨957, c, f⟩ :: es)) := by
  have htoken := symbolOf_mem_nameTokens layout hname
  obtain ⟨state, -, next, -, shape, -, htakes, hdot, hjoins, hshape⟩ := takesName _ htoken
  have hwith : Quiet withState ∧ lexState withState = beforeWord := by decide
  have hend : ∀ t ∈ nameTokens, t ≠ endOfText ∧ t ≠ error := by decide
  have hlex := hwith.1.lex_word hwith.2 hlayout p [' '] ('C' :: rest) (.inl hp) rfl hw
    (show endsWord '.' = true by decide)
  have hdotLex := hdot.lex hlayout (p ++ [' '] ++ w) (by simp) rest
  have hword := (Reads.here text layout es).thenToken
    (by rw [nextToken, hstates, htop]; exact hlex) (hend _ htoken)
    (plan_states below htakes hstates)
  have hmark := hword.thenToken hdotLex (by decide)
    (plan_states below hjoins (by rw [List.foldl_nil, Entry.states_cons, hstates]; rfl))
  exact ⟨_, _, shownBy_name htoken hshape, hmark⟩

theorem shownBy_method {f : Fragment}
    (hf : f.ShownBy (Position.start.after p) (Position.start.after (p ++ w))
      fun role => [leaf .identifier true role p w]) :
    (Fragment.phrase 189 0 0 false .start [.phrase 204 23 0 false .start
      [f, .token 4 (Position.start.after (p ++ w)) (Position.start.after (p ++ w ++ ['.'])) false,
        .token identifier (Position.start.after (p ++ w ++ ['.']))
          (Position.start.after (toMethod p w)) false]]).ShownBy
      (Position.start.after p) (Position.start.after (toMethod p w))
      fun role => [guardMethod p w role] := by
  have hdot := @Fragment.shownBy_token 4 (Position.start.after (p ++ w))
    (Position.start.after (p ++ w ++ ['.'])) false (by decide) (by decide)
  have hname := @Fragment.shownBy_token identifier (Position.start.after (p ++ w ++ ['.']))
    (Position.start.after (toMethod p w)) false (by decide) (by decide)
  exact Fragment.shownBy_alone (by decide) (by decide) (by decide)
    (Fragment.shownBy_node (by decide) (by decide) rfl
      (.cons hf (.cons hdot (.cons hname .nil))) hf.start rfl)

/-- The method of a guard is read, and the parenthesis after it. -/
theorem reads_method (text rest : List Char) {c : Cursor} {f : Fragment}
    (hlayout : layout.getD .none = .none)
    (hes : Entry.states es = withState :: below)
    (hf : f.ShownBy (Position.start.after p) (Position.start.after (p ++ w))
      fun role => [leaf .identifier true role p w]) :
    ∃ d g, g.ShownBy (Position.start.after p) (Position.start.after (toMethod p w))
        (fun role => [guardMethod p w role]) ∧
      Reads text 2 layout
        (markStack 2678 4 (p ++ w) '.' ("Cell".toList ++ '(' :: '"' :: rest) (⟨957, c, f⟩ :: es))
        layout (markStack 260 7 (toMethod p w) '(' ('"' :: rest) (⟨957, d, g⟩ :: es)) := by
  have hquiet : Quiet 2678 ∧ lexState 2678 = beforeWord := by decide
  have hplain : ∀ e ∈ keywords, expects 2678 e.2 = false := by decide
  have hmark : ReadsMark 1347 5 7 '(' '"' := by decide
  have hshift : plan identifier maxJoins [2678] = some ([], .shift 1347) := by decide
  have hjoins : plan 7 maxJoins [1347, 2678, 957, withState] =
      some ([(⟨204, 3, 0, 23⟩, 1315), (⟨189, 1, 0, 0⟩, 957)], .shift 260) := by decide
  have hword := hquiet.1.lex_word hquiet.2 hlayout (p ++ w ++ ['.']) []
    ('"' :: rest) (.inl (by simp)) rfl (show spellsWord "Cell".toList = true by decide)
    (show endsWord '(' = true by decide)
  rw [Place.symbolOf_plain (p := ⟨2678, layout, true⟩) hplain, List.append_nil] at hword
  have hopen := hmark.lex hlayout (toMethod p w) (by simp [toMethod]) rest
  have hname := (Reads.here text layout (markStack 2678 4 (p ++ w) '.'
    ("Cell".toList ++ '(' :: '"' :: rest) (⟨957, c, f⟩ :: es))).thenToken hword (by decide)
    (plan_states _ hshift rfl)
  have hparenthesis := hname.thenToken hopen (by decide)
    (plan_states below hjoins (by simp [markStack, hes]))
  exact ⟨_, _, shownBy_method hf, hparenthesis⟩

/-- The layout inside of the string that names a kind. -/
def kindLayout : Layout := ⟨false, [Layout.quoted '"' false], []⟩

theorem shownBy_kind {l₁ l₂ l₃ : Layout} {b₁ b₂ b₃ : Bool} :
    (Fragment.phrase 188 0 0 false .start [.phrase 189 0 0 false .start
      [.phrase 232 0 0 false .start
        [.layoutToken LayoutToken.stringStart.symbol (Position.start.after p)
            (Position.start.after (p ++ ['"'])) l₁ b₁,
          .phrase stringContent 0 0 false .start
            [.layoutToken pieceOfContent (Position.start.after (p ++ ['"']))
              (Position.start.after (p ++ ['"'] ++ k)) l₂ b₂],
          .layoutToken stringEnd (Position.start.after (p ++ ['"'] ++ k))
            (Position.start.after (p ++ ['"'] ++ k ++ ['"'])) l₃ b₃]]]).ShownBy
      (Position.start.after p) (Position.start.after (p ++ ['"'] ++ k ++ ['"']))
      fun role => [kindString p k role] := by
  have hopen := @Fragment.shownBy_layoutToken LayoutToken.stringStart.symbol
    (Position.start.after p) (Position.start.after (p ++ ['"'])) b₁ l₁ (by decide)
  have hclose := @Fragment.shownBy_layoutToken stringEnd (Position.start.after (p ++ ['"'] ++ k))
    (Position.start.after (p ++ ['"'] ++ k ++ ['"'])) b₃ l₃ (by decide)
  have hpiece := @Fragment.shownBy_hiddenToken pieceOfContent (Position.start.after (p ++ ['"']))
    (Position.start.after (p ++ ['"'] ++ k)) b₂ l₂ (by decide)
  have hcontent := @Fragment.shownBy_node _ [] stringContent 0 0 _ _ .start _ (by decide)
    (by decide) rfl (.cons hpiece .nil) rfl rfl
  exact Fragment.shownBy_alone (by decide) (by decide) (by decide)
    (Fragment.shownBy_alone (by decide) (by decide) (by decide)
      (Fragment.shownBy_node (by decide) (by decide) rfl
        (.cons hopen (.cons hcontent (.cons hclose .nil))) rfl rfl))

/-- The stack after the string that names a kind. -/
def kindStack (p k more : List Char) (b₁ b₂ b₃ : Bool) (c : Cursor) (es : List Entry) :
    List Entry :=
  ⟨1145, between (p ++ ['"'] ++ k ++ ['"']) more,
    .layoutToken stringEnd (Position.start.after (p ++ ['"'] ++ k))
      (Position.start.after (p ++ ['"'] ++ k ++ ['"'])) .none b₃⟩ ::
  ⟨1668, c, .phrase stringContent 0 0 false .start
    [.layoutToken pieceOfContent (Position.start.after (p ++ ['"']))
      (Position.start.after (p ++ ['"'] ++ k)) kindLayout b₂]⟩ ::
  ⟨1667, between (p ++ ['"']) (k ++ '"' :: more),
    .layoutToken LayoutToken.stringStart.symbol (Position.start.after p)
      (Position.start.after (p ++ ['"'])) kindLayout b₁⟩ :: es

/-- The string that names a kind is read. -/
theorem reads_string (text more : List Char) (es : List Entry)
    (hlayout : layout.getD .none = .none) (hk : Layout.IsBare k) (hne : k ≠ []) (hp : p ≠ [])
    (f : Fragment) :
    ∃ b₁ b₂ b₃ c, Reads text 3 layout (⟨260, between p ('"' :: (k ++ '"' :: more)), f⟩ :: es)
      (some .none)
      (kindStack p k more b₁ b₂ b₃ c (⟨260, between p ('"' :: (k ++ '"' :: more)), f⟩ :: es)) := by
  have hquiet : Quiet 260 ∧ (⟨layoutSet 260⟩ : Expected).has .stringStart = true := by
    decide
  have hinside : InString 1667 ∧ InString 1764 := by decide
  have hopens : plan LayoutToken.stringStart.symbol maxJoins [260] = some ([], .shift 1667) := by
    decide
  have hholds : plan LayoutToken.stringContent.symbol maxJoins [1667, 260] =
      some ([], .shift 1764) := by decide
  have hcloses : plan LayoutToken.stringEnd.symbol maxJoins [1764, 1667, 260] =
      some ([(⟨stringContent, 1, 0, 0⟩, 1668)], .shift 1145) := by decide
  -- where the string starts
  have hstart : Layout.stringStart .none (between p ('"' :: (k ++ '"' :: more))) =
      some ⟨.stringStart, between p ('"' :: (k ++ '"' :: more)),
        between (p ++ ['"']) (k ++ '"' :: more), kindLayout⟩ := by
    obtain ⟨x, t, rfl⟩ := List.exists_cons_of_ne_nil hne
    exact Layout.stringStart_one (hk x List.mem_cons_self).1
  have hlexStart : Place.lex ⟨260, layout, true⟩ (between p ([] ++ '"' :: (k ++ '"' :: more))) =
      ⟨.layoutToken LayoutToken.stringStart.symbol (Position.start.after (p ++ []))
        (Position.start.after (p ++ ['"'])) kindLayout (layout != some kindLayout),
        between (p ++ ['"']) (k ++ '"' :: more)⟩ := by
    have hends : GapEnds [] ('"' :: (k ++ '"' :: more)) := ⟨rfl, .inl rfl⟩
    refine hquiet.1.lex_stringStart hquiet.2 hlayout rfl (Nat.zero_le _) hp hends ?_ ?_
    · rwa [List.append_nil]
    · exact byte_between_lt _ _ (List.cons_ne_nil '"' [])
  -- its content
  have hlexContent : Place.lex ⟨1667, some kindLayout, true⟩
        (between (p ++ ['"']) (k ++ '"' :: more)) =
      ⟨.layoutToken LayoutToken.stringContent.symbol (Position.start.after (p ++ ['"']))
        (Position.start.after (p ++ ['"'] ++ k)) kindLayout (some kindLayout != some kindLayout),
        between (p ++ ['"'] ++ k) ('"' :: more)⟩ :=
    hinside.1.lex_token rfl rfl (skipMark_between (.inl (by simp))) (byte_between_lt _ _ hne)
      (Layout.inside_bare _ hk (.inr hne) (Nat.lt_succ_of_le (by simp [between])))
  -- where it ends
  have hlexEnd : Place.lex ⟨1764, some kindLayout, true⟩ (between (p ++ ['"'] ++ k) ('"' :: more)) =
      ⟨.layoutToken LayoutToken.stringEnd.symbol (Position.start.after (p ++ ['"'] ++ k))
        (Position.start.after (p ++ ['"'] ++ k ++ ['"'])) .none
        (some kindLayout != some Layout.none),
        between (p ++ ['"'] ++ k ++ ['"']) more⟩ :=
    hinside.2.lex_token rfl rfl (skipMark_between (.inl (by simp)))
      (byte_between_lt _ _ (List.cons_ne_nil '"' [])) Layout.inside_end
  rw [List.append_nil] at hlexStart
  have hopened := (Reads.here text layout
    (⟨260, between p ('"' :: (k ++ '"' :: more)), f⟩ :: es)).thenLayout hlexStart
      (plan_states _ hopens rfl)
  have hheld := hopened.thenLayout hlexContent (plan_states _ hholds rfl)
  have hclosed := hheld.thenLayout hlexEnd (plan_states _ hcloses rfl)
  exact ⟨_, _, _, _, hclosed⟩

/-- The argument of a guard is read, and the parenthesis after it. -/
theorem reads_kind (text p rest : List Char) (es : List Entry)
    (hlayout : layout.getD .none = .none) (hk : Layout.IsBare k) (hne : k ≠ []) :
    ∃ c f, f.ShownBy (Position.start.after (p ++ ['('])) (Position.start.after (toKind p k))
        (fun role => [kindString (p ++ ['(']) k role]) ∧
      Reads text 4 layout
        (markStack 260 7 p '(' ('"' :: (k ++ '"' :: ')' :: ':' :: rest)) es) (some .none)
        (markStack 1332 8 (toKind p k) ')' (':' :: rest) (⟨1674, c, f⟩ ::
          markStack 260 7 p '(' ('"' :: (k ++ '"' :: ')' :: ':' :: rest)) es)) := by
  have hmark : ReadsMark 1145 6 8 ')' ':' := by decide
  have hjoins : plan 8 maxJoins [1145, 1668, 1667, 260] =
      some ([(⟨232, 3, 0, 0⟩, 984), (⟨189, 1, 0, 0⟩, 956), (⟨188, 1, 0, 0⟩, 1674)],
        .shift 1332) := by decide
  obtain ⟨b₁, b₂, b₃, c, hstring⟩ := reads_string text (')' :: ':' :: rest) es hlayout hk hne
    (show p ++ ['('] ≠ [] by simp)
    (.token 7 (Position.start.after p) (Position.start.after (p ++ ['('])) false)
  have hlex := hmark.lex Option.getD_some (toKind p k) (by simp [toKind]) rest
  have hclosed := hstring.thenToken hlex (by decide) (plan_states _ hjoins rfl)
  exact ⟨_, _, shownBy_kind, hclosed⟩

theorem shownBy_clause {f g : Fragment}
    (hf : f.ShownBy (Position.start.after p) (Position.start.after (toMethod p w))
      fun role => [guardMethod p w role])
    (hg : g.ShownBy (Position.start.after (toMethod p w ++ ['(']))
      (Position.start.after (toKind (toMethod p w) k))
      fun role => [kindString (toMethod p w ++ ['(']) k role]) :
    (Fragment.phrase 144 0 0 false .start [.phrase 145 7 1 false .start
      [.phrase 188 0 0 false .start [.phrase 189 0 0 false .start [.phrase 207 10 0 false .start
        [f, .phrase 158 0 0 false .start
          [.token 7 (Position.start.after (toMethod p w))
              (Position.start.after (toMethod p w ++ ['('])) false,
            g,
            .token 8 (Position.start.after (toKind (toMethod p w) k))
              (Position.start.after (toGuard p w k)) false]]]]]]).ShownBy
      (Position.start.after p) (Position.start.after (toGuard p w k))
      fun role => [guardClause p w k role] := by
  have hopen := @Fragment.shownBy_token 7 (Position.start.after (toMethod p w))
    (Position.start.after (toMethod p w ++ ['('])) false (by decide) (by decide)
  have hclose := @Fragment.shownBy_token 8 (Position.start.after (toKind (toMethod p w) k))
    (Position.start.after (toGuard p w k)) false (by decide) (by decide)
  have harguments := @Fragment.shownBy_node _ _ 158 0 0 _ _ .start _ (by decide)
    (by decide) rfl (.cons hopen (.cons hg (.cons hclose .nil))) rfl rfl
  have hcall := @Fragment.shownBy_node _ _ 207 10 0 _ _ .start _ (by decide) (by decide)
    rfl (.cons hf (.cons harguments .nil)) hf.start rfl
  have hvalue := @Fragment.shownBy_alone _ 188 0 0 _ _ .start _ (by decide) (by decide)
    (by decide) (@Fragment.shownBy_alone _ 189 0 0 _ _ .start _ (by decide)
      (by decide) (by decide) hcall)
  have hitem := @Fragment.shownBy_node _ [] 145 7 1 _ _ .start _ (by decide) (by decide)
    rfl (.cons hvalue .nil) hvalue.start hvalue.stop
  exact @Fragment.shownBy_node _ [] 144 0 0 _ _ .start _ (by decide) (by decide) rfl
    (.cons hitem .nil) hitem.start hitem.stop

/-- The text before the module of an opener that follows some text. -/
def toModule (p : List Char) : List Char := p ++ "with".toList ++ [' ']

/-- The text of an opener after its keyword, and of what follows it. -/
def afterWith (w k rest : List Char) : List Char :=
  ' ' :: (w ++ '.' :: ("Cell".toList ++ '(' :: '"' :: (k ++ '"' :: ')' :: ':' :: '\n' :: rest)))

/-- The text of an opener and of what follows it. -/
def openerOn (w k rest : List Char) : List Char := "with".toList ++ afterWith w k rest

/-- The stack after the keyword of an opener that follows some text. -/
def keywordStack (p w k rest : List Char) (es : List Entry) : List Entry :=
  ⟨withState, between (p ++ "with".toList) (afterWith w k rest),
    .token withToken (Position.start.after p) (Position.start.after (p ++ "with".toList)) true⟩ ::
  es

/-- The stack after an opener that follows some text. -/
def openerStack (p w k rest : List Char) (c : Cursor) (clause : Fragment) (es : List Entry) :
    List Entry :=
  markStack 90 23 (toGuard (toModule p) w k) ':' ('\n' :: rest)
    (⟨2581, c, clause⟩ :: keywordStack p w k rest es)

/-- The keyword of an opener is read. -/
theorem reads_keyword (hstate : (Entry.states es).headD 0 = state) (hopens : OpensWith state)
    (hplan : plan withToken maxJoins (Entry.states es) = some (js, .shift withState))
    (hlayout : layout.getD .none = .none)
    (htop : Entry.top text es = between before (gap ++ openerOn w k rest))
    (hmark : before ≠ [] ∨ (gap ++ openerOn w k rest).head? ≠ some '\ufeff')
    (hgap : gap.all isGap = true) :
    Reads text 1 layout es layout
      (keywordStack (before ++ gap) w k rest (js.foldl (Entry.join text) es)) := by
  obtain ⟨hquiet, hlex, hexpects⟩ := hopens
  have hkeyword := Place.symbolOf_keyword (p := ⟨state, layout, true⟩)
    (show keyword? "with".toList = some withToken by decide) hexpects
  have hword := hquiet.lex_word hlex hlayout before gap
    (w ++ '.' :: ("Cell".toList ++ '(' :: '"' :: (k ++ '"' :: ')' :: ':' :: '\n' :: rest)))
    hmark hgap (show spellsWord "with".toList = true by decide)
    (show endsWord ' ' = true by decide)
  rw [hkeyword] at hword
  exact (Reads.here text layout es).thenToken (by rw [nextToken, hstate, htop]; exact hword)
    (by decide) hplan

/-- **The opener of a block is read**, if its module is a word that the grammar takes for a name. -/
theorem reads_opener (hstate : (Entry.states es).headD 0 = state) (hopens : OpensWith state)
    (hplan : plan withToken maxJoins (Entry.states es) = some (js, .shift withState))
    (hlayout : layout.getD .none = .none)
    (htop : Entry.top text es = between before (gap ++ openerOn w k rest))
    (hmark : before ≠ [] ∨ (gap ++ openerOn w k rest).head? ≠ some '\ufeff')
    (hgap : gap.all isGap = true) (hw : spellsWord w = true) (hname : w ∉ refusedNames)
    (hk : Layout.IsBare k) (hne : k ≠ []) :
    ∃ c f, f.ShownBy (Position.start.after (toModule (before ++ gap)))
        (Position.start.after (toGuard (toModule (before ++ gap)) w k))
        (fun role => [guardClause (toModule (before ++ gap)) w k role]) ∧
      Reads text 10 layout es (some .none)
        (openerStack (before ++ gap) w k rest c f (js.foldl (Entry.join text) es)) := by
  have hcolon : ReadsMark 1332 126 23 ':' '\n' := by decide
  have hjoins : plan 23 maxJoins [1332, 1674, 260, 957, withState] =
      some ([(⟨158, 3, 0, 0⟩, 1320), (⟨207, 2, 0, 10⟩, 1315), (⟨189, 1, 0, 0⟩, 957),
        (⟨188, 1, 0, 0⟩, 1864), (⟨145, 1, 1, 7⟩, 2225), (⟨144, 1, 0, 0⟩, 2581)],
        .shift 90) := by decide
  have hkeyword := reads_keyword hstate hopens hplan hlayout htop hmark hgap
  obtain ⟨c₁, f₁, hf₁, hmodule⟩ := reads_name text (keywordStack (before ++ gap) w k rest
    (js.foldl (Entry.join text) es)) hlayout rfl rfl (by simp) hw hname
  obtain ⟨c₂, f₂, hf₂, hmethod⟩ := reads_method text
    (k ++ '"' :: ')' :: ':' :: '\n' :: rest) (c := c₁) hlayout (show Entry.states
      (keywordStack (before ++ gap) w k rest (js.foldl (Entry.join text) es)) = _ from rfl) hf₁
  obtain ⟨c₃, f₃, hf₃, hkind⟩ := reads_kind text
    (toMethod (toModule (before ++ gap)) w) ('\n' :: rest)
    (⟨957, c₂, f₂⟩ :: keywordStack (before ++ gap) w k rest (js.foldl (Entry.join text) es))
    hlayout hk hne
  have hlex := hcolon.lex Option.getD_some (toGuard (toModule (before ++ gap)) w k)
    (by simp [toGuard]) rest
  have hall := (((hkeyword.trans hmodule).trans hmethod).trans hkind).thenToken hlex (by decide)
    (plan_states (Entry.states (js.foldl (Entry.join text) es)) hjoins rfl)
  simp only [markStack, List.foldl_cons, List.foldl_nil, Entry.join_one, Entry.join_two,
    Entry.join_three] at hall
  exact ⟨_, _, shownBy_clause hf₂ hf₃, hall⟩

end

end CellScript.Python
