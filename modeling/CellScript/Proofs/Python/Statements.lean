import CellScript.Proofs.Python.ProseBlock

set_option autoImplicit false

/-! # Reading statements

Between two statements the stack holds what the last one is made of, and the next token, be it the
keyword of the next block or the end of the text, makes one fragment of all statements so far:
`AtStatement`. `Holds` says which trees that fragment is shown by. `reads_import` and `reads_block`
read one statement, and `tree_of_reads` gives the tree where the text ends. -/

namespace CellScript.Python

open Grammar Cursor Progress
open Layout (GapEnds NoString)

/-- The symbol of a whole text. -/
def wholeSymbol : Nat := 108

/-- The state of the grammar after one statement or more. -/
def statementsState : Nat := 62

/-- The last state of the grammar. -/
def wholeState : Nat := 2573

/-- A stack where a statement may start or the text end; either way `done` is what is made of the
statements before. -/
structure AtStatement (text : List Char) (es done : List Entry) : Prop where
  opens : OpensWith ((Entry.states es).headD 0)
  joins : ∃ js, js.foldl (Entry.join text) es = done ∧
    plan withToken maxJoins (Entry.states es) = some (js, .shift withState) ∧
    plan endOfText maxJoins (Entry.states es) =
      some (js ++ [(⟨wholeSymbol, done.length, 0, 0⟩, wholeState)], .accept)

/-- What is made of some statements is shown by some trees. -/
inductive Holds : List Entry → List Tree → Prop where
  | none : Holds [] []
  | some {c : Cursor} {f : Fragment} {a z : Position} {ts : Nodes} (h : f.ShownBy a z ts) :
      Holds [⟨statementsState, c, f⟩] (ts Option.none)

section

variable {text before p w k margin mark r gap tail : List Char} {m : Char} {es done : List Entry}
  {layout : Option Layout} {ts pieces : List Tree}

theorem atStatement_start (text : List Char) : AtStatement text [] [] :=
  ⟨by decide, [], rfl, by decide, by decide⟩

/-! ## The import -/

/-- The keyword of an import. -/
def importKeyword : List Char := ['i', 'm', 'p', 'o', 'r', 't']

/-- The text of an import. -/
def importText (w : List Char) : List Char := importKeyword ++ [' '] ++ w

theorem importText_ne_nil (w : List Char) : importText w ≠ [] :=
  List.append_ne_nil_of_left_ne_nil (List.append_ne_nil_of_left_ne_nil (by decide) _) _

/-- The statement that an import is. -/
def importStatement (w : List Char) (role : Option Role) : Tree :=
  branch (.other "import_statement") role [] (importText w)
    [leaf (.other "import") false none [] importKeyword,
      branch (.other "dotted_name") (some .name) (importKeyword ++ [' ']) (importText w)
        [leaf .identifier true none (importKeyword ++ [' ']) w]]

/-- The stack after an import. -/
def importStack (w rest : List Char) (b : Bool) (c : Cursor) (f : Fragment) : List Entry :=
  [⟨638, between (importText w) rest,
    .layoutToken LayoutToken.newline.symbol (Position.start.after (importText w))
      (Position.start.after (importText w)) .none b⟩, ⟨2218, c, f⟩]

theorem shownBy_import :
    (Fragment.phrase 111 3 0 false .start
      [.token 3 (Position.start.after []) (Position.start.after importKeyword) true,
        .phrase 116 4 0 false .start [.phrase 163 0 0 false .start
          [.token identifier (Position.start.after (importKeyword ++ [' ']))
            (Position.start.after (importText w)) false]]]).ShownBy
      (Position.start.after []) (Position.start.after (importText w))
      fun role => [importStatement w role] := by
  have hkeyword := @Fragment.shownBy_token 3 (Position.start.after [])
    (Position.start.after importKeyword) true (by decide) (by decide)
  have hname := @Fragment.shownBy_token identifier
    (Position.start.after (importKeyword ++ [' '])) (Position.start.after (importText w)) false
    (by decide) (by decide)
  have hdotted := @Fragment.shownBy_node _ [] 163 0 0 _ _ .start _ (by decide) (by decide)
    rfl (.cons hname .nil) rfl rfl
  have hnames := @Fragment.shownBy_hidden _ [] 116 4 0 _ _ .start _ (by decide) (by decide)
    rfl (.cons hdotted .nil) hdotted.start hdotted.stop
  exact @Fragment.shownBy_node _ _ 111 3 0 _ _ .start _ (by decide) (by decide) rfl
    (.cons hkeyword (.cons hnames .nil)) rfl hnames.stop

/-- **An import is read**, whatever word the module is. -/
theorem reads_import (htext : text = importText w ++ ('\n' :: gap ++ tail))
    (hw : spellsWord w = true) (hends : GapEnds ('\n' :: gap) tail) :
    ∃ b c f, f.ShownBy (Position.start.after []) (Position.start.after (importText w))
        (fun role => [importStatement w role]) ∧
      Reads text 3 none [] (some .none) (importStack w ('\n' :: gap ++ tail) b c f) := by
  have hstart : Quiet 1 ∧ lexState 1 = beforeWord ∧ expects 1 3 = true := by decide
  have hname : Quiet 2091 ∧ lexState 2091 = beforeWord := by decide
  have hplain : ∀ e ∈ keywords, expects 2091 e.2 = false := by decide
  have hkeyword : plan 3 maxJoins [1] = some ([], .shift 2091) := by decide
  have hword : plan identifier maxJoins [2091] = some ([], .shift 1863) := by decide
  have hnewline : plan LayoutToken.newline.symbol maxJoins [1863, 2091, 1] =
      some ([(⟨163, 1, 0, 0⟩, 1972), (⟨116, 1, 0, 4⟩, 2471), (⟨111, 2, 0, 3⟩, 2218)],
        .shift 638) := by decide
  have hlayout : (none : Option Layout).getD .none = .none := rfl
  have hlexKeyword := hstart.1.lex_word (w := importKeyword) (x := ' ')
    hstart.2.1 hlayout [] []
    (w ++ ('\n' :: gap ++ tail)) (.inr (show some 'i' ≠ some '\ufeff' by decide)) rfl
    (show spellsWord importKeyword = true by decide) (show endsWord ' ' = true by decide)
  rw [Place.symbolOf_keyword (p := ⟨1, none, true⟩)
    (show keyword? importKeyword = some 3 by decide) hstart.2.2] at hlexKeyword
  have hlexName := hname.1.lex_word hname.2 hlayout importKeyword [' ']
    (gap ++ tail) (.inl (by decide)) rfl hw (show endsWord '\n' = true by decide)
  rw [Place.symbolOf_plain (p := ⟨2091, none, true⟩) hplain] at hlexName
  have hlexNewline : Place.lex ⟨1863, none, true⟩
      (between (importText w) ('\n' :: gap ++ tail)) = _ :=
    Place.lex_noRoom (by decide) (by decide) (by decide) rfl (importText_ne_nil w)
      (Layout.scan_newline rfl hends List.mem_cons_self (by decide) (by decide)
        (by decide))
  have hsplit : ∀ a t : List Char, a ++ [' '] ++ w ++ t = a ++ ' ' :: (w ++ t) := by simp
  have hbegun := (Reads.here text none []).thenToken
    (show Place.lex ⟨1, none, true⟩ (ofText text) = ⟨.token 3 (Position.start.after [])
      (Position.start.after importKeyword) true, between importKeyword
        (' ' :: (w ++ ('\n' :: gap ++ tail)))⟩ by
      rw [htext.trans (hsplit _ _)]
      exact hlexKeyword)
    (by decide) hkeyword
  have hnamed := hbegun.thenToken hlexName (by decide) (plan_states [1] hword rfl)
  have hended := hnamed.thenLayout hlexNewline hnewline
  simp only [List.foldl_cons, List.foldl_nil, Entry.join_one, Entry.join_two] at hended
  exact ⟨_, _, _, shownBy_import, hended⟩

/-- After an import there is one statement. -/
theorem atStatement_import (text rest : List Char) {b : Bool} {c : Cursor} {f : Fragment}
    (h : f.ShownBy (Position.start.after []) (Position.start.after (importText w))
      fun role => [importStatement w role]) :
    ∃ done, AtStatement text (importStack w rest b c f) done ∧
      Holds done [importStatement w none] := by
  have hopens : OpensWith 638 := by decide
  have hwith : plan withToken maxJoins [638, 2218, 1] =
      some ([(⟨110, 2, 0, 0⟩, statementsState)], .shift withState) := by decide
  have hend : plan endOfText maxJoins [638, 2218, 1] =
      some ([(⟨110, 2, 0, 0⟩, statementsState), (⟨wholeSymbol, 1, 0, 0⟩, wholeState)],
        .accept) := by
    decide
  have hnewline := @Fragment.shownBy_hiddenToken LayoutToken.newline.symbol
    (Position.start.after (importText w)) (Position.start.after (importText w)) b .none
    (by decide)
  have hstatement := @Fragment.shownBy_hidden _ _ 110 0 0 _ _ .start _ (by decide)
    (by decide) rfl (.cons h (.cons hnewline .nil)) h.start rfl
  exact ⟨_, ⟨hopens, [(⟨110, 2, 0, 0⟩, statementsState)], rfl, hwith, hend⟩, .some hstatement⟩

/-! ## Blocks -/

/-- What the blocks of a script have in common: the module and the kind that their guards name, and
their margin. -/
structure BlockStyle where
  guardModule : List Char
  kind : List Char
  margin : List Char

/-- The module is read as a name, the kind may stand in quotes as it is, and the margin is made of
spaces, as many as the layout can tell from none. -/
structure BlockStyle.Plain (s : BlockStyle) : Prop where
  word : spellsWord s.guardModule = true
  name : s.guardModule ∉ refusedNames
  bare : Layout.IsBare s.kind
  kind : s.kind ≠ []
  spaces : ∀ c ∈ s.margin, c = ' '
  depth : s.margin.length % 256 ≠ 0

/-- The literal that a block of prose has for a body, with a line feed after its opening quotes. -/
structure ProseLiteral where
  mark : List Char
  quote : Char
  lines : List Char

namespace ProseLiteral

/-- What stands between the quotes. -/
def inside (b : ProseLiteral) : List Char := '\n' :: b.lines

/-- A literal may stand in a block before some text: it ends with its closing quotes. -/
structure MayStand (b : ProseLiteral) (more : List Char) : Prop where
  opening : IsOpening b.mark b.quote
  inside : Inner b.quote more b.inside

end ProseLiteral

variable {s : BlockStyle} {b : ProseLiteral} {bs : List ProseLiteral}

/-- The text of a block of prose, and what follows it. -/
def blockOn (s : BlockStyle) (b : ProseLiteral) (rest : List Char) : List Char :=
  openerOn s.guardModule s.kind (s.margin ++ (b.mark ++ b.quote :: b.quote :: b.quote ::
    (b.inside ++ Layout.closing b.quote rest)))

/-- A text up to the end of the opener after it. -/
def toOpenerEnd (p : List Char) (s : BlockStyle) : List Char :=
  toGuard (toModule p) s.guardModule s.kind ++ [':']

/-- A text up to the end of the block of prose after it. -/
def toBlockEnd (p : List Char) (s : BlockStyle) (b : ProseLiteral) : List Char :=
  toBodyEnd (toOpenerEnd p s) s.margin b.mark b.quote b.inside

/-- The body of a block of prose. -/
def proseBody (p : List Char) (s : BlockStyle) (b : ProseLiteral) (pieces : List Tree) : Tree :=
  branch .block (some .body) (toLiteral (toOpenerEnd p s) s.margin) (toBlockEnd p s b)
    [literalStatement (toLiteral (toOpenerEnd p s) s.margin) (toBlockEnd p s b) pieces none]

/-- The statement that a block of prose is. -/
def proseStatement (p : List Char) (s : BlockStyle) (b : ProseLiteral) (pieces : List Tree)
    (role : Option Role) : Tree :=
  branch .withStatement role p (toBlockEnd p s b)
    [leaf (.other "with") false none p "with".toList,
      guardClause (toModule p) s.guardModule s.kind none,
      leaf .colon false none (toGuard (toModule p) s.guardModule s.kind) [':'],
      proseBody p s b pieces]

/-- What a block of prose after some text is understood as, with the clause of its opener and the
statement that its body is. -/
def blockFragment (p : List Char) (s : BlockStyle) (z : List Char) (l : Layout) (b₁ b₂ : Bool)
    (clause statement : Fragment) : Fragment :=
  .phrase 143 63 0 false .start
    [.token withToken (Position.start.after p) (Position.start.after (p ++ "with".toList)) true,
      clause,
      .token 23 (Position.start.after (toGuard (toModule p) s.guardModule s.kind))
        (Position.start.after (toOpenerEnd p s)) false,
      .layoutToken LayoutToken.indent.symbol (Position.start.after (toOpenerEnd p s))
        (Position.start.after (toOpenerEnd p s)) l b₁,
      .phrase 161 0 0 false .start
        [statement, .layoutToken LayoutToken.dedent.symbol (Position.start.after z)
          (Position.start.after z) .none b₂]]

section

variable {f g : Fragment} {c c' d : Cursor} {b₁ b₂ : Bool}

theorem shownBy_block (l : Layout) (b₁ b₂ : Bool)
    (hf : f.ShownBy (Position.start.after (toModule p))
      (Position.start.after (toGuard (toModule p) s.guardModule s.kind))
      fun role => [guardClause (toModule p) s.guardModule s.kind role])
    (hg : g.ShownBy (Position.start.after (toLiteral (toOpenerEnd p s) s.margin))
      (Position.start.after (toBlockEnd p s b))
      fun role => [literalStatement (toLiteral (toOpenerEnd p s) s.margin) (toBlockEnd p s b) pieces
        role]) :
    (blockFragment p s (toBlockEnd p s b) l b₁ b₂ f g).ShownBy (Position.start.after p)
      (Position.start.after (toBlockEnd p s b)) fun role => [proseStatement p s b pieces role] := by
  have hkeyword := @Fragment.shownBy_token withToken (Position.start.after p)
    (Position.start.after (p ++ "with".toList)) true (by decide) (by decide)
  have hcolon := @Fragment.shownBy_token 23
    (Position.start.after (toGuard (toModule p) s.guardModule s.kind))
    (Position.start.after (toOpenerEnd p s)) false (by decide) (by decide)
  have hindent := @Fragment.shownBy_hiddenToken LayoutToken.indent.symbol
    (Position.start.after (toOpenerEnd p s)) (Position.start.after (toOpenerEnd p s)) b₁ l
    (by decide)
  have hdedent := @Fragment.shownBy_hiddenToken LayoutToken.dedent.symbol
    (Position.start.after (toBlockEnd p s b)) (Position.start.after (toBlockEnd p s b)) b₂ .none
    (by decide)
  have hbody := @Fragment.shownBy_node _ _ 161 0 0 _ _ .start _ (by decide) (by decide) rfl
    (.cons hg (.cons hdedent .nil)) hg.start hdedent.stop
  have hshape : (shapeAt 63).roles = [(3, .body), (4, .body)] ∧ (shapeAt 63).aliases = [] := by
    decide
  have hstatement := @Fragment.shownBy_node _ _ 143 63 0 _ _ .start _ (by decide)
    (by decide) hshape.2
    (.cons hkeyword (.cons hf (.cons hcolon (.cons hindent (.cons hbody .nil))))) hkeyword.start
    hbody.stop
  rw [hshape.1] at hstatement
  exact hstatement

/-- The entries of a block become one. -/
theorem join_block (p z rest tail : List Char) (s : BlockStyle) (state depth : Nat) (b₁ b₂ : Bool)
    (c c' d : Cursor) (f g : Fragment) (es : List Entry) :
    [((⟨161, 2, 0, 0⟩ : Reduction), 737), (⟨143, 5, 0, 63⟩, state)].foldl (Entry.join text)
        (bodyStack (toOpenerEnd p s) z tail depth b₁ b₂ c d g
          (openerStack p s.guardModule s.kind rest c' f es)) =
      ⟨state, between z tail, blockFragment p s z (bodyLayout depth) b₁ b₂ f g⟩ :: es := by
  simp only [bodyStack, indentStack, openerStack, keywordStack, markStack, List.foldl_cons,
    List.foldl_nil, Entry.join_two, Entry.join_five, blockFragment, toOpenerEnd]

/-- After a block there is one statement more. -/
theorem atStatement_block (text : List Char) {rest : List Char} {depth : Nat}
    (hdone : Holds done ts)
    (hf : f.ShownBy (Position.start.after (toModule p))
      (Position.start.after (toGuard (toModule p) s.guardModule s.kind))
      fun role => [guardClause (toModule p) s.guardModule s.kind role])
    (hg : g.ShownBy (Position.start.after (toLiteral (toOpenerEnd p s) s.margin))
      (Position.start.after (toBlockEnd p s b))
      fun role => [literalStatement (toLiteral (toOpenerEnd p s) s.margin) (toBlockEnd p s b) pieces
        role]) :
    ∃ done', AtStatement text
        (bodyStack (toOpenerEnd p s) (toBlockEnd p s b) tail depth b₁ b₂ c d g
          (openerStack p s.guardModule s.kind rest c' f done)) done' ∧
      Holds done' (ts ++ [proseStatement p s b pieces none]) := by
  have hopens : OpensWith 652 := by decide
  have hshown := shownBy_block (bodyLayout depth) b₁ b₂ hf hg
  cases hdone with
  | none =>
      have hwith : plan withToken maxJoins [652, 66, 5, 90, 2581, 400, 1] =
          some ([(⟨161, 2, 0, 0⟩, 737), (⟨143, 5, 0, 63⟩, statementsState)], .shift withState) := by
        decide
      have hend : plan endOfText maxJoins [652, 66, 5, 90, 2581, 400, 1] =
          some ([(⟨161, 2, 0, 0⟩, 737), (⟨143, 5, 0, 63⟩, statementsState),
            (⟨wholeSymbol, 1, 0, 0⟩, wholeState)], .accept) := by
        decide
      exact ⟨_, ⟨hopens, _, join_block _ _ _ _ _ _ _ _ _ _ _ _ _ _ [] , hwith, hend⟩, .some hshown⟩
  | @some e h a z us hh =>
      have hwith : plan withToken maxJoins [652, 66, 5, 90, 2581, 400, statementsState, 1] =
          some ([(⟨161, 2, 0, 0⟩, 737), (⟨143, 5, 0, 63⟩, 63)] ++
            [(⟨241, 2, 0, 0⟩, statementsState)], .shift withState) := by
        decide
      have hend : plan endOfText maxJoins [652, 66, 5, 90, 2581, 400, statementsState, 1] =
          some ([(⟨161, 2, 0, 0⟩, 737), (⟨143, 5, 0, 63⟩, 63)] ++
            [(⟨241, 2, 0, 0⟩, statementsState)] ++
              [(⟨wholeSymbol, 1, 0, 0⟩, wholeState)], .accept) := by
        decide
      have hall := @Fragment.shownBy_hidden _ _ 241 0 0 _ _ .start _ (by decide)
        (by decide) rfl (.cons hh (.cons hshown .nil)) hh.start rfl
      refine ⟨[⟨statementsState, between (toBlockEnd p s b) tail, _⟩],
        ⟨hopens, _, ?_, hwith, hend⟩, .some hall⟩
      rw [List.foldl_append, join_block]
      rfl

end

/-- **A block of prose is read** where a statement may start. -/
theorem reads_block (q rest : List Char) (hs : s.Plain) (hat : AtStatement text es done)
    (hdone : Holds done ts) (hlayout : layout.getD .none = .none)
    (htop : Entry.top text es = between q (rest ++ blockOn s b (gap ++ tail)))
    (hq : q ≠ [] ∨ rest = []) (hrest : rest.all isGap = true) (hends : GapEnds gap tail)
    (hline : '\n' ∈ gap) (hcolumns : Layout.columnsAfter 0 gap = 0)
    (hb : b.MayStand (gap ++ tail)) :
    ∃ n es' done' pieces, n ≤ b.lines.length + 17 ∧ AtStatement text es' done' ∧
      Holds done' (ts ++ [proseStatement (q ++ rest) s b pieces none]) ∧
      Entry.top text es' = between (toBlockEnd (q ++ rest) s b) (gap ++ tail) ∧
      Reads text n layout es (some .none) es' := by
  obtain ⟨js, hjoin, hwith, -⟩ := hat.joins
  have hmark : q ≠ [] ∨ (rest ++ blockOn s b (gap ++ tail)).head? ≠ some '\ufeff' := by
    refine hq.imp_right ?_
    rintro rfl
    exact (by decide : some 'w' ≠ some '\ufeff')
  obtain ⟨c, f, hf, hopener⟩ := reads_opener rfl hat.opens hwith hlayout htop hmark hrest hs.word
    hs.name hs.bare hs.kind
  rw [hjoin] at hopener
  obtain ⟨n, b₁, b₂, c', d, g, pieces, hn, hg, hbody⟩ := reads_body text
    (⟨2581, c, f⟩ :: keywordStack (q ++ rest) s.guardModule s.kind _ done)
    (p := toOpenerEnd (q ++ rest) s)
    hs.spaces hs.depth hb.opening (by simp [toOpenerEnd]) hends hline hcolumns hb.inside _
  obtain ⟨done', hat', hdone'⟩ := atStatement_block text hdone hf hg
  exact ⟨_, _, done', pieces, by omega, hat', hdone', rfl, hopener.trans hbody⟩

/-! ## The end of the text -/

/-- The tree of a whole text with some statements. -/
def wholeTree (a z : Position) (ts : List Tree) : Tree :=
  .node ⟨.module, true, none, a, z, false, false⟩ ts

/-- The end of the text is no part of the whole. -/
theorem nodesOf_endOfText {fs : List Fragment} {tss : List Nodes} (hs : Fragment.ShownAll fs tss)
    (place : Nat) (a z : Position) :
    nodesOf (shapeAt 0) place none (fs ++ [.token endOfText a z false]) =
      Nodes.ofParts [] none place tss := by
  have hshape : (shapeAt 0).roles = [] ∧ (shapeAt 0).aliases = [] := by decide
  have hhidden : isVisible endOfText = false := by decide
  induction hs generalizing place with
  | nil => simp [nodesOf, Fragment.token, Fragment.reading, Fragment.nodes, hhidden, Nodes.ofParts]
  | @cons f us fs tss hf _ ih =>
      obtain ⟨hsound, hnodes⟩ := hf
      have hextra : f.reading.extra = false := hsound.part
      rw [List.cons_append, nodesOf, hextra, if_neg Bool.false_ne_true, hshape.1, hshape.2,
        Nodes.ofParts, ih]
      simp [hnodes]

/-- The parts of a whole text and the end of the text make up the whole. -/
theorem nodes_whole {fs : List Fragment} {tss : List Nodes} (hs : Fragment.ShownAll fs tss)
    (at_ a z : Position) :
    ∃ b whole, wholeOf [.phrase wholeSymbol 0 0 false at_ fs, .token endOfText a z false] =
        some whole ∧ whole.nodes ⟨none, none⟩ = [wholeTree b z (Nodes.ofParts [] none 0 tss)] := by
  have hwhole : wholeOf [.phrase wholeSymbol 0 0 false at_ fs, .token endOfText a z false] =
      some (.phrase wholeSymbol 0 0 false
        (Fragment.phrase wholeSymbol 0 0 false at_ fs).reading.start
        (fs ++ [.token endOfText a z false])) := rfl
  obtain ⟨r, hr, hsymbol, hshape, hmissing, hstop, hcost⟩ : ∃ r,
      Fragment.phrase wholeSymbol 0 0 false
        (Fragment.phrase wholeSymbol 0 0 false at_ fs).reading.start
        (fs ++ [.token endOfText a z false]) = .mk r (fs ++ [.token endOfText a z false]) ∧
          r.symbol = wholeSymbol ∧ r.shape = 0 ∧ r.missing = false ∧ r.stop = z ∧ r.cost = 0 := by
    have hparts : ∀ sum : Fragment.Sum,
        (fs.foldl (Fragment.Sum.add false (shapeAt 0).aliases) sum).cost = sum.cost :=
      Fragment.cost_foldl_add rfl hs.sound
    refine ⟨_, rfl, rfl, rfl, rfl, ?_, ?_⟩
    · simp [Fragment.token, Fragment.reading]
    · simp [List.foldl_append, Fragment.Sum.add, Fragment.token, Fragment.reading, wholeSymbol,
        endOfText, error, errorPiece, hparts]
  have hvisible : isVisible wholeSymbol = true ∧ kindOf wholeSymbol = .module ∧
      isNamed wholeSymbol = true := by decide
  refine ⟨r.start, _, hwhole, ?_⟩
  rw [hr, Fragment.nodes]
  simp [hsymbol, hshape, hmissing, hstop, hvisible, hcost, nodesOf_endOfText hs, wholeTree]

/-- Where a statement may start the text may end, after an empty line or none at all. -/
theorem completes_of_atStatement (hat : AtStatement text es done) (hdone : Holds done ts)
    (hlex : ∃ a z c, nextToken text layout es = ⟨.token endOfText a z false, c⟩) :
    ∃ a z whole, Completes text layout es whole ∧
      whole.nodes ⟨none, none⟩ = [wholeTree a z ts] := by
  obtain ⟨js, hjoin, -, hend⟩ := hat.joins
  obtain ⟨a, z, c, hlex⟩ := hlex
  have hparts : ∃ tss, Fragment.ShownAll (done.map (·.fragment)).reverse tss ∧
      Nodes.ofParts [] none 0 tss = ts := by
    cases hdone with
    | none => exact ⟨[], .nil, rfl⟩
    | some h => exact ⟨[_], .cons h .nil, List.append_nil _⟩
  obtain ⟨tss, hshown, rfl⟩ := hparts
  obtain ⟨b, whole, hwhole, hnodes⟩ := nodes_whole hshown (Cursor.ofText text).pos a z
  have hjoined : [(⟨wholeSymbol, done.length, 0, 0⟩, wholeState)].foldl (Entry.join text) done =
      [⟨wholeState, Entry.top text done, .phrase wholeSymbol 0 0 false (Cursor.ofText text).pos
        (done.map (·.fragment)).reverse⟩] := by
    simp [Entry.join, Entry.top]
  refine ⟨b, z, whole, ⟨?_, _, by rw [hlex]; exact hend, ?_⟩, hnodes⟩
  · rw [hlex]
    exact (by decide : endOfText ≠ error)
  · rw [hlex, List.foldl_append, hjoin, hjoined]
    exact hwhole

end

end CellScript.Python
