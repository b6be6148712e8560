import CellScript.Proofs.Block.Twins
import CellScript.Proofs.Python.BlockText

set_option autoImplicit false

/-! # Finding the blocks of a text

A walk over the tree of a text of blocks finds the blocks of the text and nothing else:
`exists_finds_blockText`. Each starts in the row of its opener and ends in that of its closing
quotes, and has its literal for a body, as `blockAt` says. -/

namespace CellScript

open Python

namespace Python

/-! ## Places -/

theorem Position.offset_start_after (t : List Char) : (start.after t).offset = t.length := by
  rw [offset_after]
  exact Nat.zero_add _

theorem Position.row_start_after (t : List Char) : (start.after t).row = t.count '\n' := by
  rw [row_after]
  exact Nat.zero_add _

/-- After a margin of spaces the column is the width of the margin. -/
theorem Position.column_after_margin {margin : List Char} (h : ∀ c ∈ margin, c = ' ')
    (t : List Char) : (start.after (t ++ '\n' :: margin)).column = margin.length := by
  have hspaces : ∀ (u : List Char) (p : Position), (∀ c ∈ u, c = ' ') →
      (p.after u).column = p.column + u.length := by
    intro u
    induction u with
    | nil => exact fun _ _ => rfl
    | cons c u ih =>
        intro p hu
        obtain ⟨rfl, hmore⟩ := List.forall_mem_cons.1 hu
        have hstep : (p.next ' ').column = p.column + 1 := rfl
        show ((p.next ' ').after u).column = _
        rw [ih _ hmore, hstep, List.length_cons]
        omega
  rw [after_append]
  show (((start.after t).next '\n').after margin).column = _
  rw [hspaces margin _ h]
  exact Nat.zero_add _

variable {source p w k t : List Char} {kind : Kind} {named : Bool} {role : Option Role}
  {cs : List Tree}

theorem text_leaf (h : p ++ t <+: source) : (leaf kind named role p t).text source = t := by
  obtain ⟨rest, rfl⟩ := h
  simp [Tree.text, Position.offset_start_after]

end Python

/-! ## The guard of a block -/

section

variable {source p w k : List Char} {role : Option Role} {line : Nat} {kind : CellKind}

/-- The call of an opener is a guard. -/
theorem Guard.ofCall?_guardCall (role : Option Role) (h : toGuard p w k <+: source) :
    Guard.ofCall? w source (guardCall p w k role) = some (.cell (guardCall p w k role)) := by
  have hmethod : toMethod p w <+: source := by
    refine List.IsPrefix.trans ?_ h
    simp [toGuard, toKind]
  have hw : (leaf .identifier true (some .object) p w).text source = w :=
    text_leaf (.trans (by simp [toMethod]) hmethod)
  have hcell : (leaf .identifier true (some .attribute) (p ++ w ++ ['.']) "Cell".toList).text
      source = "Cell".toList := text_leaf hmethod
  have hfunction : (guardCall p w k role).part? .function =
      some (guardMethod p w (some .function)) := rfl
  have hobject : (guardMethod p w (some .function)).part? .object =
      some (leaf .identifier true (some .object) p w) := rfl
  have hattribute : (guardMethod p w (some .function)).part? .attribute =
      some (leaf .identifier true (some .attribute) (p ++ w ++ ['.']) "Cell".toList) := rfl
  have hkinds : (guardCall p w k role).kind = .call ∧
      (guardMethod p w (some .function)).kind = .attribute ∧
      (leaf .identifier true (some .object) p w).kind = .identifier := ⟨rfl, rfl, rfl⟩
  simp only [Guard.ofCall?, hkinds, hfunction, hobject, hattribute, hw, hcell, bne_self_eq_false,
    Option.bind_eq_bind, Option.bind_some, Bool.or_self, Bool.false_eq_true, if_false, if_true]

/-- The literal of a call is the kind that it names. -/
theorem stringLiteral?_kindString (h : p ++ ['"'] ++ k <+: source) :
    stringLiteral? source (kindString p k role) = some k := by
  obtain ⟨rest, rfl⟩ := h
  have hkind : (kindString p k role).kind = .string := rfl
  have hplain : (kindString p k role).children.any (·.kind == .interpolation) = false := rfl
  have hfirst : (kindString p k role).children.find? (·.kind == .stringStart) =
      some (leaf .stringStart true none p ['"']) := rfl
  have hlast : (kindString p k role).children.reverse.find? (·.kind == .stringEnd) =
      some (leaf .stringEnd true none (p ++ ['"'] ++ k) ['"']) := rfl
  have hstop : (leaf .stringStart true none p ['"']).stop.offset = (p ++ ['"']).length :=
    Position.offset_start_after _
  have hstart : (leaf .stringEnd true none (p ++ ['"'] ++ k) ['"']).start.offset =
      (p ++ ['"'] ++ k).length := Position.offset_start_after _
  rw [stringLiteral?, hkind, hplain, hfirst, hlast]
  simp only [Option.bind_eq_bind, Option.bind_some, hstop, hstart]
  have hlength : (p ++ ['"'] ++ k).length - (p ++ ['"']).length = k.length := by
    rw [List.length_append, Nat.add_sub_cancel_left]
  rw [if_neg (by decide), if_pos (by simp), List.append_assoc (p ++ ['"']), List.drop_left,
    hlength, List.take_left]

theorem CellKind.ofCall_guardCall (line : Nat) (role : Option Role) (h : toGuard p w k <+: source)
    (hk : CellKind.ofLiteral? k = some kind) :
    CellKind.ofCall source line (guardCall p w k role) = .ok kind := by
  have hliteral : stringLiteral? source (kindString (toMethod p w ++ ['(']) k none) = some k := by
    refine stringLiteral?_kindString (.trans ?_ h)
    simp [toGuard, toKind]
  refine CellKind.ofCall_eq_ok_iff.2 ⟨guardArguments (toMethod p w) k (some .arguments),
    kindString (toMethod p w ++ ['(']) k none, _, rfl, rfl, .plain (fun h => by cases h), ?_⟩
  rw [valueText, hliteral]
  exact hk

end

/-! ## The blocks -/

variable {source p : List Char} {s : BlockStyle} {b : ProseLiteral} {bs : List ProseLiteral}
  {pieces ts after : List Tree} {kind : CellKind}

/-- The block that a text has after some text. -/
def blockAt (kind : CellKind) (p : List Char) (s : BlockStyle) (b : ProseLiteral)
    (pieces : List Tree) : Block :=
  ⟨kind, ⟨p.count '\n', p.count '\n' + 1, (toBlockEnd p s b).count '\n', s.margin.length⟩,
    proseBody p s b pieces⟩

theorem span_blockAt : (blockAt kind p s b pieces).span =
    ⟨p.count '\n', p.count '\n' + 1, (toBlockEnd p s b).count '\n', s.margin.length⟩ := rfl

theorem not_mem_of_spellsWord {w : List Char} (hw : spellsWord w = true) : '\n' ∉ w := fun h =>
  ne_of_continuesWord (continuesWord_of_spellsWord hw _ h)
    (show continuesWord '\n' = false by decide) rfl

/-- An opener is a row of its own. -/
theorem count_toOpenerEnd (hs : s.Plain) (p : List Char) :
    (toOpenerEnd p s).count '\n' = p.count '\n' := by
  have hw : s.guardModule.count '\n' = 0 :=
    List.count_eq_zero_of_not_mem (not_mem_of_spellsWord hs.word)
  have hk : s.kind.count '\n' = 0 :=
    List.count_eq_zero_of_not_mem fun h => (hs.bare _ h).2.2.1 rfl
  have hfixed : "with".toList.count '\n' = 0 ∧ "Cell".toList.count '\n' = 0 ∧
      ['.'].count '\n' = 0 ∧ ['('].count '\n' = 0 ∧ [')'].count '\n' = 0 ∧
      [':'].count '\n' = 0 ∧ ['"'].count '\n' = 0 ∧ [' '].count '\n' = 0 := by decide
  simp only [toOpenerEnd, toGuard, toKind, toMethod, toModule, List.count_append, hw, hk, hfixed,
    Nat.add_zero]

theorem count_toLiteral (hs : s.Plain) (p : List Char) :
    (toLiteral (toOpenerEnd p s) s.margin).count '\n' = p.count '\n' + 1 := by
  have hmargin : s.margin.count '\n' = 0 :=
    List.count_eq_zero_of_not_mem fun h => absurd (hs.spaces _ h) (by decide)
  rw [toLiteral, List.count_append, count_toOpenerEnd hs, List.count_cons_self, hmargin]

/-- A body ends in the row of its closing quotes. -/
theorem lastRow_proseBody (hopening : IsOpening b.mark b.quote) :
    (proseBody p s b pieces).lastRow = (toBlockEnd p s b).count '\n' := by
  have hstop : (proseBody p s b pieces).stop = Position.start.after (toBlockEnd p s b) :=
    stop_branch ..
  have hcolumn : (proseBody p s b pieces).stop.column ≠ 0 := by
    have hsplit : toBlockEnd p s b = toInside (toOpenerEnd p s) s.margin b.mark b.quote ++
        b.inside ++ [b.quote, b.quote] ++ [b.quote] := by simp [toBlockEnd, toBodyEnd]
    intro h
    rw [hstop, hsplit, Position.after_append] at h
    have hquote := Position.eq_newline_of_column h
    rcases hopening.2 with hq | hq <;> rw [hq] at hquote <;> cases hquote
  rw [Tree.lastRow, if_neg fun h => hcolumn h.1, hstop, Position.row_start_after]

/-- A body without comments after it ends in its own last row. -/
theorem lastRowWith_of_head? (body : Tree) (h : ∀ t ∈ after.head?, t.kind ≠ .comment) :
    lastRowWith body after = body.lastRow := by
  cases after with
  | nil => rfl
  | cons t after => simp [lastRowWith, h t rfl]

/-- The guard of the statement of a block is the call in its opener. -/
theorem Guard.ofStatement?_proseStatement (pieces : List Tree)
    (hsource : toBlockEnd p s b <+: source) :
    Guard.ofStatement? s.guardModule source (proseStatement p s b pieces none) =
      some (.cell (guardCall (toModule p) s.guardModule s.kind (some .value))) := by
  have hprefix : toGuard (toModule p) s.guardModule s.kind <+: source := by
    refine List.IsPrefix.trans ?_ hsource
    simp [toBlockEnd, toBodyEnd, toInside, toLiteral, toOpenerEnd]
  obtain ⟨call, hcall⟩ : ∃ call, call = guardCall (toModule p) s.guardModule s.kind (some .value) :=
    ⟨_, rfl⟩
  have hclause : (proseStatement p s b pieces none).children.find? (·.kind == .withClause) =
      some (guardClause (toModule p) s.guardModule s.kind none) := rfl
  have hitems : (guardClause (toModule p) s.guardModule s.kind none).phrases.filter
      (·.kind == .withItem) = [branch .withItem none (toModule p)
        (toGuard (toModule p) s.guardModule s.kind) [call]] := by
    rw [hcall]
    rfl
  have hvalue : (branch .withItem none (toModule p)
      (toGuard (toModule p) s.guardModule s.kind) [call]).part? .value = some call := by
    rw [hcall]
    rfl
  have hinner : Guard.inner call = some call := by
    rw [hcall]
    rfl
  have hguard := Guard.ofCall?_guardCall (some .value) hprefix
  rw [← hcall] at hguard ⊢
  rw [Guard.ofStatement?, hclause]
  simp only [Option.bind_eq_bind, Option.bind_some, hitems, hvalue, hinner, hguard]

/-- **The statement of a block is found as a block**, in the rows from its opener to its closing
quotes. -/
theorem ofStatement?_proseStatement (pieces : List Tree) (hs : s.Plain)
    (hopening : IsOpening b.mark b.quote)
    (hk : CellKind.ofLiteral? s.kind = some kind) (hsource : toBlockEnd p s b <+: source)
    (hafter : ∀ t ∈ after.head?, t.kind ≠ .comment) :
    Block.ofStatement? s.guardModule source (proseStatement p s b pieces none) after =
      .ok (some (blockAt kind p s b pieces)) := by
  have hprefix : toGuard (toModule p) s.guardModule s.kind <+: source := by
    refine List.IsPrefix.trans ?_ hsource
    simp [toBlockEnd, toBodyEnd, toInside, toLiteral, toOpenerEnd]
  have hcolon : (proseStatement p s b pieces none).colonRow = p.count '\n' :=
    (Position.row_start_after (toOpenerEnd p s)).trans (count_toOpenerEnd hs p)
  have hheader : (proseStatement p s b pieces none).start.row = p.count '\n' :=
    Position.row_start_after p
  have hbody : (proseBody p s b pieces).start.row = p.count '\n' + 1 :=
    (Position.row_start_after _).trans (count_toLiteral hs p)
  have hindent : (proseBody p s b pieces).start.column = s.margin.length :=
    Position.column_after_margin hs.spaces _
  have hlast : lastRowWith (proseBody p s b pieces) after = (toBlockEnd p s b).count '\n' := by
    rw [lastRowWith_of_head? _ hafter, lastRow_proseBody hopening]
  have hpart : (proseStatement p s b pieces none).part? .body = some (proseBody p s b pieces) := rfl
  have hwhole : ((proseBody p s b pieces).isMissing || (proseBody p s b pieces).phrases.isEmpty ||
      (proseStatement p s b pieces none).children.any Tree.isError) = false := rfl
  have hrow : (proseBody p s b pieces).start.row ≠ (proseStatement p s b pieces none).colonRow := by
    rw [hbody, hcolon]
    exact Nat.succ_ne_self _
  have hguard := Guard.ofStatement?_proseStatement pieces hsource
  have hkind := CellKind.ofCall_guardCall ((proseStatement p s b pieces none).start.row + 1)
    (some .value) hprefix hk
  refine Block.ofStatement?_eq_ok_some_iff.2 ⟨⟨_, hguard, hkind⟩, hpart, hwhole, hrow, ?_⟩
  rw [hheader, hcolon, blockAt]
  dsimp only
  rw [hlast, hindent]

/-! ## The walk -/

/-- The blocks that a text has, the first of which follows some text. -/
def AreFound (kind : CellKind) (s : BlockStyle) : List Char → List ProseLiteral → List Block → Prop
  | _, [], fs => fs = []
  | p, b :: bs, fs => ∃ pieces gs, fs = blockAt kind p s b pieces :: gs ∧
      AreFound kind s (toBlockEnd p s b ++ ['\n', '\n']) bs gs

theorem toBlockEnd_append (p : List Char) (s : BlockStyle) (b : ProseLiteral) (rest : List Char) :
    toBlockEnd p s b ++ rest = p ++ blockOn s b rest := by
  simp only [toBlockEnd, toBodyEnd, toInside, toLiteral, toOpenerEnd, toGuard, toKind, toMethod,
    toModule, blockOn, openerOn, afterWith, Layout.closing, List.append_assoc, List.cons_append,
    List.nil_append]

/-- A block is met as it is. -/
theorem finds_proseStatement (hs : s.Plain) (hopening : IsOpening b.mark b.quote)
    (hk : CellKind.ofLiteral? s.kind = some kind) (hsource : toBlockEnd p s b <+: source)
    (hafter : ∀ t ∈ after.head?, t.kind ≠ .comment) :
    Visit.finds s.guardModule source ⟨proseStatement p s b pieces none, after⟩ =
      [.block (blockAt kind p s b pieces)] := by
  have hwhole : (proseStatement p s b pieces none).isError = false := rfl
  have hkind : (proseStatement p s b pieces none).kind = .withStatement := rfl
  have hblock := ofStatement?_proseStatement pieces hs hopening hk hsource hafter
  refine Visit.finds_of_meet ?_
  simp only [Visit.meet, hwhole, hkind, hblock, Bool.false_eq_true, if_false, if_true]

/-- There is nothing to find in an import. -/
theorem finds_importStatement (m source w : Text) (after : List Tree) :
    Visit.finds m source ⟨importStatement w none, after⟩ = [] := by
  rw [Visit.finds_of_meet_eq_none rfl]
  rfl

/-- The statements of some blocks are met as the blocks that they are. -/
theorem exists_flatMap_finds (hs : s.Plain) (hk : CellKind.ofLiteral? s.kind = some kind)
    (hopenings : ∀ b ∈ bs, IsOpening b.mark b.quote) (hblocks : AreBlocks s p bs ts)
    (hsource : ∀ b more, bs = b :: more → source = p ++ blockOn s b (blocksOn s more)) :
    ∃ fs, AreFound kind s p bs fs ∧
      (visits ts).flatMap (Visit.finds s.guardModule source) = fs.map .block := by
  induction bs generalizing p ts with
  | nil =>
      obtain rfl : ts = [] := hblocks
      exact ⟨[], rfl, rfl⟩
  | cons b bs ih =>
      obtain ⟨hb, hbs⟩ := List.forall_mem_cons.1 hopenings
      obtain ⟨pieces, us, rfl, hus⟩ := hblocks
      have hend : source = toBlockEnd p s b ++ blocksOn s bs :=
        (hsource b bs rfl).trans (toBlockEnd_append p s b _).symm
      obtain ⟨fs, hfs, hfinds⟩ := ih hbs hus fun b' more hmore => by
        rw [hend, hmore, blocksOn, List.append_assoc]
        rfl
      have hafter : ∀ t ∈ us.head?, t.kind ≠ .comment := by
        cases bs with
        | nil =>
            obtain rfl : us = [] := hus
            intro t ht
            cases ht
        | cons b' bs =>
            obtain ⟨pieces', vs, rfl, -⟩ := hus
            rintro t ⟨⟩
            exact (by decide : Kind.withStatement ≠ Kind.comment)
      refine ⟨_, ⟨pieces, fs, rfl, hfs⟩, ?_⟩
      rw [visits, List.flatMap_cons, hfinds,
        finds_proseStatement hs hb hk ⟨_, hend.symm⟩ hafter]
      rfl

/-- **The walk over a text of blocks finds them all, and nothing else.** -/
theorem exists_finds_blockText (hs : s.Plain) (hk : CellKind.ofLiteral? s.kind = some kind)
    (hbs : AllMayStand s bs) (imports : Bool) :
    ∃ fs, AreFound kind s (toFirst s imports) bs fs ∧
      finds s.guardModule (blockText s imports bs) (Tree.ofText (blockText s imports bs)) =
        fs.map .block := by
  obtain ⟨a, z, us, hus, htree⟩ := exists_tree_ofText hs hbs imports
  have hsource : ∀ b more, bs = b :: more →
      blockText s imports bs = toFirst s imports ++ blockOn s b (blocksOn s more) := by
    rintro b more rfl
    cases imports with
    | true => rw [blockText, toFirst, List.append_assoc]; rfl
    | false => rfl
  obtain ⟨fs, hfs, hfinds⟩ := exists_flatMap_finds hs hk hbs.opening hus hsource
  refine ⟨fs, hfs, ?_⟩
  have hbefore : (visits (beforeBlocks s imports ++ us)).flatMap
      (Visit.finds s.guardModule (blockText s imports bs)) = fs.map .block := by
    cases imports with
    | true =>
        rw [beforeBlocks, List.singleton_append, visits, List.flatMap_cons, finds_importStatement,
          List.nil_append, hfinds]
    | false => exact hfinds
  have hstack : stackFinds s.guardModule (blockText s imports bs)
      [⟨wholeTree a z (beforeBlocks s imports ++ us), []⟩] = fs.map .block := by
    rw [stackFinds, List.flatMap_singleton, Visit.finds_of_meet_eq_none rfl]
    exact hbefore
  rw [finds, htree, walk_eq_upTo (by simp [stackSize]), hstack]
  refine upTo_eq_self fun f hf => ?_
  obtain ⟨b, -, rfl⟩ := List.mem_map.1 hf
  rfl

end CellScript
