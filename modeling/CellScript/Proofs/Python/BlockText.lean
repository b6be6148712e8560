import CellScript.Proofs.Python.Statements

set_option autoImplicit false

/-! # Texts of blocks

A text that is an import and blocks of prose, with empty lines between them, is read to its end
without a choice and without damage, and so its tree is known: `exists_tree_ofText`. -/

namespace CellScript.Python

open Grammar Cursor Progress
open Layout (GapEnds)

variable {text p q gap tail : List Char} {es done : List Entry} {layout : Option Layout}
  {ts : List Tree} {s : BlockStyle} {b : ProseLiteral} {bs : List ProseLiteral}

/-! ## Texts -/

/-- What follows the first statement of a text: blocks with an empty line before each, and a line
end. -/
def blocksOn (s : BlockStyle) : List ProseLiteral → List Char
  | [] => ['\n']
  | b :: bs => '\n' :: '\n' :: blockOn s b (blocksOn s bs)

/-- A text of blocks, after an import or not. -/
def blockText (s : BlockStyle) : Bool → List ProseLiteral → List Char
  | true, bs => importText s.guardModule ++ blocksOn s bs
  | false, [] => []
  | false, b :: bs => blockOn s b (blocksOn s bs)

/-- Every literal of some blocks may stand where it does. -/
def AllMayStand (s : BlockStyle) : List ProseLiteral → Prop
  | [] => True
  | b :: bs => b.MayStand (blocksOn s bs) ∧ AllMayStand s bs

theorem AllMayStand.opening (h : AllMayStand s bs) : ∀ b ∈ bs, IsOpening b.mark b.quote := by
  induction bs with
  | nil => exact nofun
  | cons b bs ih => exact List.forall_mem_cons.2 ⟨h.1.opening, ih h.2⟩

/-- The statements of some blocks, the first of which follows some text. -/
def AreBlocks (s : BlockStyle) : List Char → List ProseLiteral → List Tree → Prop
  | _, [], ts => ts = []
  | p, b :: bs, ts => ∃ pieces us, ts = proseStatement p s b pieces none :: us ∧
      AreBlocks s (toBlockEnd p s b ++ ['\n', '\n']) bs us

theorem gapEnds_blockOn (s : BlockStyle) (b : ProseLiteral) (rest : List Char) :
    GapEnds ['\n', '\n'] (blockOn s b rest) :=
  gapEnds_word (w := "with".toList) rfl (by decide)

/-- After a statement there is a line end, and the gap goes on to the next block. -/
theorem exists_gap (s : BlockStyle) (bs : List ProseLiteral) :
    ∃ gap tail, blocksOn s bs = '\n' :: gap ++ tail ∧ GapEnds ('\n' :: gap) tail ∧
      Layout.columnsAfter 0 ('\n' :: gap) = 0 := by
  cases bs with
  | nil => exact ⟨[], [], rfl, ⟨rfl, .inr ⟨rfl, List.mem_cons_self, rfl⟩⟩, rfl⟩
  | cons b bs => exact ⟨['\n'], _, rfl, gapEnds_blockOn s b _, rfl⟩

theorem length_importText (w : List Char) : 3 ≤ (importText w).length := by
  have hlen : importKeyword.length = 6 := rfl
  simp only [importText, List.length_append, hlen]
  omega

theorem toBlockEnd_ne_nil (p : List Char) (s : BlockStyle) (b : ProseLiteral) :
    toBlockEnd p s b ≠ [] :=
  List.append_ne_nil_of_right_ne_nil _ (List.cons_ne_nil _ _)

theorem length_blockOn (s : BlockStyle) (b : ProseLiteral) (rest : List Char) :
    b.lines.length + 17 + rest.length ≤ (blockOn s b rest).length := by
  have hwith : "with".toList.length = 4 := by decide
  have hcell : "Cell".toList.length = 4 := by decide
  simp only [blockOn, openerOn, afterWith, Layout.closing, ProseLiteral.inside, List.length_append,
    List.length_cons, hwith, hcell]
  omega

/-! ## The run over a text -/

/-- A text ends after the statements that a stack is made of. -/
theorem lex_end_of_atStatement (hat : AtStatement text es done)
    (hlayout : layout.getD .none = .none) (hq : q ≠ [])
    (htop : Entry.top text es = between q ['\n']) :
    ∃ a z c, nextToken text layout es = ⟨.token endOfText a z false, c⟩ := by
  obtain ⟨hquiet, hlex, -⟩ := hat.opens
  have hends : GapEnds ['\n'] [] := ⟨rfl, .inr ⟨rfl, List.mem_cons_self, rfl⟩⟩
  have hnone := hquiet.layoutToken?_eq_none hlayout (.inl hq) hends Layout.noString_nil
  have hend := Place.lex_end (p := ⟨(Entry.states es).headD 0, layout, true⟩) hquiet.1 hlex
    (.inl hq) hnone rfl
  exact ⟨_, _, _, by rw [nextToken, htop]; exact hend⟩

/-- Parsing that has come to a stack ends with a tree of some statements, within a number of tokens.
-/
def EndsWith (text : List Char) (layout : Option Layout) (es : List Entry) (most : Nat)
    (ts : List Tree) : Prop :=
  ∃ n layout' es' a z whole, n ≤ most ∧ Reads text n layout es layout' es' ∧
    Completes text layout' es' whole ∧ whole.nodes ⟨none, none⟩ = [wholeTree a z ts]

theorem EndsWith.after_reads {n most : Nat} {layout' : Option Layout} {es' : List Entry}
    (hreads : Reads text n layout es layout' es') (h : EndsWith text layout' es' most ts)
    {more : Nat} (hmore : n + most ≤ more) : EndsWith text layout es more ts := by
  obtain ⟨k, layout'', es'', a, z, whole, hk, hrest, hend⟩ := h
  exact ⟨n + k, _, _, a, z, whole, by omega, hreads.trans hrest, hend⟩

/-- **From where a statement may start, blocks are read to the end of the text.** -/
theorem endsWith_blocks (hs : s.Plain) (hbs : AllMayStand s bs) (hat : AtStatement text es done)
    (hdone : Holds done ts) (hlayout : layout.getD .none = .none) (hq : q ≠ [])
    (htop : Entry.top text es = between q (blocksOn s bs)) :
    ∃ us, AreBlocks s (q ++ ['\n', '\n']) bs us ∧
      EndsWith text layout es (blocksOn s bs).length (ts ++ us) := by
  induction bs generalizing q es done ts layout with
  | nil =>
      obtain ⟨a, z, whole, hcompletes, hnodes⟩ :=
        completes_of_atStatement hat hdone (lex_end_of_atStatement hat hlayout hq htop)
      refine ⟨[], rfl, 0, layout, es, a, z, whole, Nat.zero_le _, .here _ _ _, hcompletes, ?_⟩
      rw [hnodes, List.append_nil]
  | cons b bs ih =>
      obtain ⟨hb, hbs⟩ := hbs
      obtain ⟨gap, tail, hgap, hends, hcolumns⟩ := exists_gap s bs
      rw [hgap] at hb
      obtain ⟨n, es', done', pieces, hn, hat', hdone', htop', hreads⟩ :=
        reads_block q ['\n', '\n'] hs hat hdone hlayout (by rw [htop, blocksOn, hgap]; rfl)
          (.inl hq) rfl hends List.mem_cons_self hcolumns hb
      rw [← hgap] at htop'
      obtain ⟨us, hus, hrest⟩ := ih hbs hat' hdone'
        Option.getD_some (toBlockEnd_ne_nil _ s b) htop'
      refine ⟨_, ⟨pieces, us, rfl, hus⟩, ?_⟩
      rw [List.append_assoc] at hrest
      have hlen := length_blockOn s b (blocksOn s bs)
      exact .after_reads hreads hrest (by simp only [blocksOn, List.length_cons]; omega)

/-- The text before the first block. -/
def toFirst (s : BlockStyle) : Bool → List Char
  | true => importText s.guardModule ++ ['\n', '\n']
  | false => []

/-- What comes before the blocks. -/
def beforeBlocks (s : BlockStyle) : Bool → List Tree
  | true => [importStatement s.guardModule none]
  | false => []

/-- A text of blocks is read from its start to its end. -/
theorem endsWith_blockText (hs : s.Plain) (hbs : AllMayStand s bs) (imports : Bool)
    (htext : text = blockText s imports bs) :
    ∃ us, AreBlocks s (toFirst s imports) bs us ∧
      EndsWith text none [] text.length (beforeBlocks s imports ++ us) := by
  cases imports with
  | true =>
      obtain ⟨gap, tail, hgap, hends, -⟩ := exists_gap s bs
      obtain ⟨b, c, f, hf, hreads⟩ := reads_import
        (show text = importText s.guardModule ++ ('\n' :: gap ++ tail) by
          rw [htext, blockText, hgap]) hs.word hends
      obtain ⟨done, hat, hdone⟩ := atStatement_import text ('\n' :: gap ++ tail)
        (b := b) (c := c) hf
      obtain ⟨us, hus, hrest⟩ := endsWith_blocks hs hbs hat hdone
        Option.getD_some (importText_ne_nil s.guardModule) (by rw [hgap]; rfl)
      have hlen := length_importText s.guardModule
      refine ⟨us, hus, .after_reads hreads hrest ?_⟩
      rw [htext, blockText, List.length_append]
      omega
  | false =>
      cases bs with
      | nil =>
          subst htext
          have hlex : nextToken [] none [] =
              ⟨.token endOfText .start .start false, .ofText []⟩ := by rfl
          obtain ⟨a, z, whole, hcompletes, hnodes⟩ :=
            completes_of_atStatement (atStatement_start []) .none ⟨_, _, _, hlex⟩
          exact ⟨[], rfl, 0, none, [], a, z, whole, Nat.le_refl _, .here _ _ _, hcompletes, hnodes⟩
      | cons b bs =>
          obtain ⟨hb, hbs⟩ := hbs
          obtain ⟨gap, tail, hgap, hends, hcolumns⟩ := exists_gap s bs
          rw [hgap] at hb
          obtain ⟨n, es', done', pieces, hn, hat, hdone, htop, hreads⟩ :=
            reads_block [] [] hs (atStatement_start text) .none
              Option.getD_none (by rw [← hgap]; exact congrArg _ htext) (.inr rfl) rfl hends
              List.mem_cons_self hcolumns hb
          rw [← hgap] at htop
          obtain ⟨us, hus, hrest⟩ := endsWith_blocks hs hbs hat hdone
            Option.getD_some (toBlockEnd_ne_nil _ s b) htop
          have hlen := length_blockOn s b (blocksOn s bs)
          refine ⟨_, ⟨pieces, us, rfl, hus⟩, .after_reads hreads hrest ?_⟩
          rw [htext, blockText]
          omega

/-- **The tree of a text of blocks** has the import, if there is one, and the statement of each
block, and nothing else. -/
theorem exists_tree_ofText (hs : s.Plain) (hbs : AllMayStand s bs) (imports : Bool) :
    ∃ a z us, AreBlocks s (toFirst s imports) bs us ∧
      Tree.ofText (blockText s imports bs) = wholeTree a z (beforeBlocks s imports ++ us) := by
  obtain ⟨us, hus, n, layout, es, a, z, whole, hn, hreads, hcompletes, hnodes⟩ :=
    endsWith_blockText hs hbs imports rfl
  refine ⟨a, z, us, hus, ?_⟩
  have hbefore : (Progress.ofText (blockText s imports bs)).Before (blockText s imports bs) n
      whole := ⟨none, [], layout, es, stands_ofText _, hreads, hcompletes⟩
  have hfragment : Fragment.ofText (blockText s imports bs) = some whole := by
    unfold Fragment.ofText
    exact hbefore.finished_run (by omega) (by omega)
  unfold Tree.ofText
  simp only [hfragment, Option.map_some, hnodes]

end CellScript.Python
