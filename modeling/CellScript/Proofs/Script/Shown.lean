import Mathlib.Data.List.Sort
import CellScript.Cell.Check
import CellScript.Proofs.Script.Place
import CellScript.Proofs.Script.Reading

set_option autoImplicit false

/-! # When a script is read back block by block

Whether the blocks of a written script are found again is up to its syntax tree. `ShowsCell` says
what a statement has to look like for one cell, `Shows` what the whole tree has to look like, and
`reads_back_iff` that the walk finds one block for each cell exactly if the tree looks like that.
It need not: `paged_code_lost` has code that passes the check on its own and is cut short in the
script, where its lines are indented without a look at what they start with. -/

namespace CellScript

open Python

/-! ## What a tree has to show -/

/-- A statement has what the block of a cell has that a script holds after some others. -/
structure ShowsCell (source : Text) (w : WriteOptions) (before : List NotebookCell) (c : Cell)
    (v : Visit) : Prop where
  guard : ∃ call, Guard.ofStatement? w.guardModule source v.tree = some (.cell call) ∧
    CellKind.ofCall source (v.tree.start.row + 1) call = .ok c.kind
  undamaged : ∀ u ∈ v.tree.children, u.isError = false
  header : v.tree.start.row = w.headerRow before
  start : v.tree.colonRow + 1 = w.bodyRow before c
  body : ∃ body, v.tree.part? .body = some body ∧ body.isMissing = false ∧ body.phrases ≠ [] ∧
    body.start.row ≠ v.tree.colonRow ∧ body.start.column = w.indent ∧
    w.bodyRow before c + filledLength c.bodyLines ≤ lastRowWith body v.after + 1 ∧
    lastRowWith body v.after < w.nextRow before c

/-- The outermost guarded statements of a tree are those of a notebook's cells, and the text that
fits nowhere holds no guard. -/
structure Shows (source : Text) (w : WriteOptions) (nb : Notebook) (t : Tree) : Prop where
  undamaged : ∀ p v, Visit.at? ⟨t, []⟩ p = some v →
    Visit.Outermost w.guardModule source ⟨t, []⟩ p → v.tree.kind = .error →
    errorOf? w.guardModule source v.tree = none
  statements : ∃ vs : List (Place × Visit), vs.Pairwise (fun x y => Place.Before x.1 y.1) ∧
    (∀ p v, (p, v) ∈ vs ↔
      Visit.at? ⟨t, []⟩ p = some v ∧ Visit.Outermost w.guardModule source ⟨t, []⟩ p ∧
        v.tree.kind = .withStatement ∧
        (Guard.ofStatement? w.guardModule source v.tree).isSome) ∧
    List.Forall₂ (fun x y => ∃ c, x.2.toCell = .ok c ∧ ShowsCell source w x.1 c y.2) nb.placed vs

theorem showsCell_iff {source : Text} {w : WriteOptions} {before : List NotebookCell} {c : Cell}
    {v : Visit} (hc : c.kind ≠ .sandbox) :
    ShowsCell source w before c v ↔
      ∃ b, Block.ofStatement? w.guardModule source v.tree v.after = .ok (some b) ∧
        SpannedAt w before c b := by
  constructor
  · intro h
    obtain ⟨call, hguard, hkind⟩ := h.guard
    obtain ⟨body, hbody, hmissing, hphrases, hrow, hindent, hcovers, hends⟩ := h.body
    refine ⟨⟨c.kind, ⟨v.tree.start.row, v.tree.colonRow + 1, lastRowWith body v.after,
      body.start.column⟩, body⟩, ?_, ?_⟩
    · refine Block.ofStatement?_eq_ok_some_iff.2 ⟨⟨_, hguard, hkind⟩, hbody, ?_, hrow, rfl⟩
      have hwhole : v.tree.children.any Tree.isError = false := by
        rw [List.any_eq_false]
        exact fun u hu => by simp [h.undamaged u hu]
      simp [hmissing, hphrases, hwhole]
    · exact ⟨rfl, h.header, h.start, hindent, by rw [h.start]; exact hcovers, hends⟩
  · rintro ⟨b, hb, hs⟩
    obtain ⟨⟨g, hguard, hkind⟩, hbody, hwhole, hrow, hspan⟩ :=
      Block.ofStatement?_eq_ok_some_iff.1 hb
    simp only [Bool.or_eq_false_iff, List.isEmpty_eq_false_iff] at hwhole
    obtain ⟨⟨hmissing, hphrases⟩, hany⟩ := hwhole
    have hstart := hs.start
    have hcovers := hs.covers
    have hends := hs.ends
    have hheader := hs.header
    have hindent := hs.indent
    rw [hspan] at hstart hcovers hends hheader hindent
    rw [hs.kind] at hkind
    refine ⟨?_, ?_, hheader, hstart, b.body, hbody, hmissing, hphrases, hrow, hindent, ?_, hends⟩
    · cases g with
      | cell call => exact ⟨call, hguard, hkind⟩
      | sandbox => exact absurd (Except.ok.inj hkind).symm hc
    · exact fun u hu => by simpa using List.any_eq_false.1 hany u hu
    · rw [← hstart]
      exact hcovers

/-! ## Walks without a failure -/

/-- The blocks among reports, with their places. -/
def blocksAt (rs : List Report) : List (Place × Block) :=
  rs.filterMap fun r =>
    match r.2 with
    | .block b => some (r.1, b)
    | _ => none

theorem mem_blocksAt {rs : List Report} {p : Place} {b : Block} :
    (p, b) ∈ blocksAt rs ↔ (p, .block b) ∈ rs := by
  rw [blocksAt, List.mem_filterMap]
  constructor
  · rintro ⟨⟨q, f⟩, hr, h⟩
    cases f with
    | block b' =>
        obtain ⟨rfl, rfl⟩ := Prod.mk.inj (Option.some.inj h)
        exact hr
    | discarded _ | failed _ => cases h
  · exact fun h => ⟨_, h, rfl⟩

theorem before_blocksAt {rs : List Report} (h : InOrder rs) :
    (blocksAt rs).Pairwise fun x y => Place.Before x.1 y.1 := by
  refine List.Pairwise.filterMap _ ?_ h
  rintro ⟨p, f⟩ ⟨q, g⟩ hpq x hx y hy
  cases f <;> cases g <;> simp at hx hy
  subst hx hy
  exact hpq

theorem filterMap_answer?_of_no_failure {rs : List Report}
    (h : ∀ r ∈ rs, r.2.isFailure = false) :
    rs.filterMap (fun r => r.2.answer?) = (blocksAt rs).map fun x => .ok x.2 := by
  rw [blocksAt, List.map_filterMap]
  refine List.filterMap_congr fun r hr => ?_
  have hr := h r hr
  obtain ⟨p, f⟩ := r
  cases f with
  | failed e => cases hr
  | discarded _ | block _ => rfl

section

variable {ns source : Text} {t : Tree}

/-- A walk that answers blocks only passes no failure, and meets all that there is. -/
theorem no_failure_of_answers
    (h : ∀ a ∈ (finds ns source t).filterMap Find.answer?, ∃ b, a = .ok b) :
    ∀ r ∈ t.reports ns source [], r.2.isFailure = false := by
  intro r hr
  rw [finds_eq_map_reportsMet, List.filterMap_map] at h
  have hmet : ∀ r ∈ reportsMet ns source t, r.2.isFailure = false := by
    rintro ⟨p, f⟩ hr
    cases f with
    | discarded _ | block _ => rfl
    | failed e =>
        obtain ⟨b, hb⟩ := h (.error e) (List.mem_filterMap.2 ⟨_, hr, rfl⟩)
        cases hb
  rcases mem_upTo_or hr with hr | ⟨q, hq, hf⟩
  · exact hmet r hr
  · rw [hmet q hq] at hf
    cases hf

theorem answers_of_no_failure (h : ∀ r ∈ t.reports ns source [], r.2.isFailure = false) :
    (finds ns source t).filterMap Find.answer? =
      (blocksAt (t.reports ns source [])).map fun x => .ok x.2 := by
  rw [finds_eq_map_reportsMet, List.filterMap_map, reportsMet, upTo_eq_self h]
  exact filterMap_answer?_of_no_failure h

end

/-! ## The condition -/

instance : Std.Irrefl fun x y : Place => Place.Before x y := ⟨fun _ h => h.asymm h⟩

instance : Std.Antisymm fun x y : Place => Place.Before x y :=
  ⟨fun _ _ h h' => absurd h' h.asymm⟩

section

variable {source : Text} {w : WriteOptions} {nb : Notebook} {t : Tree}

/-- A tree that shows the cells lets the walk pass. -/
theorem Shows.no_failure (h : Shows source w nb t) :
    ∀ r ∈ t.reports w.guardModule source [], r.2.isFailure = false := by
  rintro ⟨p, f⟩ (hr : (p, f) ∈ Visit.reports w.guardModule source ⟨t, []⟩)
  obtain ⟨v, hv, hm, hout⟩ := Visit.mem_reports_iff.1 hr
  obtain ⟨vs, -, hmem, hshows⟩ := h.statements
  cases v.outcome w.guardModule source with
  | failedText e he herr _ =>
      rw [h.undamaged p v hv hout he] at herr
      cases herr
  | failedBlock e hk hs _ =>
      rcases Visit.closes_iff.2 ⟨f, hm⟩ with he | ⟨-, hguard⟩
      · rw [hk] at he
        cases he
      · have hvs : (p, v) ∈ vs := (hmem p v).2 ⟨hv, hout, hk, hguard⟩
        obtain ⟨x, -, c, hc, hshown⟩ := exists_of_forall₂ hshows hvs
        obtain ⟨b, hb, -⟩ := (showsCell_iff (NotebookCell.content_of_toCell hc).2).1 hshown
        cases hs.symm.trans hb
  | discarded _ _ hmeet | block _ _ _ hmeet =>
      rw [hmeet] at hm
      cases hm
      rfl
  | below _ _ hmeet =>
      rw [hmeet] at hm
      cases hm

/-- In a walk that passes, the blocks are at the outermost guarded statements. -/
theorem mem_map_fst_blocksAt {ns : Text}
    (h : ∀ r ∈ t.reports ns source [], r.2.isFailure = false) {p : Place} :
    p ∈ (blocksAt (t.reports ns source [])).map Prod.fst ↔
      ∃ v, Visit.at? ⟨t, []⟩ p = some v ∧ Visit.Outermost ns source ⟨t, []⟩ p ∧
        v.tree.kind = .withStatement ∧ (Guard.ofStatement? ns source v.tree).isSome := by
  rw [List.mem_map]
  constructor
  · rintro ⟨⟨p, b⟩, hb, rfl⟩
    have hr : (p, .block b) ∈ Visit.reports ns source ⟨t, []⟩ := mem_blocksAt.1 hb
    obtain ⟨v, hv, hm, hout⟩ := Visit.mem_reports_iff.1 hr
    rcases Visit.closes_iff.2 ⟨_, hm⟩ with he | hguard
    · rw [(Visit.statement_of_block hm).1] at he
      cases he
    · exact ⟨v, hv, hout, hguard⟩
  · rintro ⟨v, hv, hout, hk, hguard⟩
    rcases Visit.meet_of_guard hk hguard with ⟨b, -, hm⟩ | ⟨e, hm⟩
    · exact ⟨(p, b), mem_blocksAt.2 (Visit.mem_reports_iff.2 ⟨v, hv, hm, hout⟩), rfl⟩
    · cases h _ (Visit.mem_reports_iff.2 ⟨v, hv, hm, hout⟩)

/-- The statement of a block among the reports. -/
theorem statement_of_mem_blocksAt {ns : Text} {p : Place} {b : Block} {v : Visit}
    (hb : (p, b) ∈ blocksAt (t.reports ns source [])) (hv : Visit.at? ⟨t, []⟩ p = some v) :
    Block.ofStatement? ns source v.tree v.after = .ok (some b) := by
  have hr : (p, .block b) ∈ Visit.reports ns source ⟨t, []⟩ := mem_blocksAt.1 hb
  obtain ⟨v', hv', hm⟩ := Visit.meet_of_mem_reports hr
  obtain rfl := Option.some.inj (hv.symm.trans hv')
  exact (Visit.statement_of_block hm).2

theorem blocks_of_shows (h : Shows source w nb t) :
    BlockByBlock (SpannedAt w) nb ((finds w.guardModule source t).filterMap Find.answer?) := by
  have hno := h.no_failure
  obtain ⟨vs, horder, hmem, hshows⟩ := h.statements
  have hinOrder := t.inOrder_reports w.guardModule source []
  -- both lists are in order and have the same places in them
  have hplaces : vs.map Prod.fst =
      (blocksAt (t.reports w.guardModule source [])).map Prod.fst := by
    refine List.Pairwise.eq_of_mem_iff (List.Pairwise.map _ (fun _ _ => id) horder)
      (List.Pairwise.map _ (fun _ _ => id) (before_blocksAt hinOrder)) fun p => ?_
    rw [mem_map_fst_blocksAt hno, List.mem_map]
    constructor
    · rintro ⟨⟨p, v⟩, hv, rfl⟩
      exact ⟨v, (hmem p v).1 hv⟩
    · rintro ⟨v, hv⟩
      exact ⟨(p, v), (hmem p v).2 hv, rfl⟩
  have hsame : List.Forall₂ (fun x y => x.1 = y.1) vs
      (blocksAt (t.reports w.guardModule source [])) := by
    rw [← List.forall₂_eq_eq_eq, List.forall₂_map_left_iff, List.forall₂_map_right_iff] at hplaces
    exact hplaces
  rw [BlockByBlock, answers_of_no_failure hno, List.forall₂_map_right_iff]
  refine forall₂_of_common (List.Forall₂.flip hshows) hsame ?_
  rintro ⟨p, v⟩ hv x ⟨q, b⟩ hb ⟨c, hc, hshown⟩ (rfl : p = q)
  have hstatement := statement_of_mem_blocksAt hb ((hmem p v).1 hv).1
  obtain ⟨b', hb', hspanned⟩ := (showsCell_iff (NotebookCell.content_of_toCell hc).2).1 hshown
  obtain rfl : b = b' := Option.some.inj (Except.ok.inj (hstatement.symm.trans hb'))
  exact answersFor_iff.2 ⟨c, b, hc, rfl, hspanned⟩

/-- The visit at a place below a visit, or the visit itself if there is no such place. -/
def Visit.under (v : Visit) (p : Place) : Visit := (v.at? p).getD v

theorem Visit.under_eq {v u : Visit} {p : Place} (h : v.at? p = some u) : v.under p = u := by
  rw [Visit.under, h, Option.getD_some]

theorem shows_of_blocks
    (h : BlockByBlock (SpannedAt w) nb ((finds w.guardModule source t).filterMap Find.answer?)) :
    Shows source w nb t := by
  have hok : ∀ a ∈ (finds w.guardModule source t).filterMap Find.answer?, ∃ b, a = .ok b := by
    intro a ha
    obtain ⟨x, -, hx⟩ := exists_of_forall₂ h ha
    obtain ⟨_, b, -, hb, -⟩ := answersFor_iff.1 hx
    exact ⟨b, hb⟩
  have hno := no_failure_of_answers hok
  have hinOrder := t.inOrder_reports w.guardModule source []
  rw [BlockByBlock, answers_of_no_failure hno, List.forall₂_map_right_iff] at h
  -- the statements are those of the blocks, looked up at their places
  refine ⟨?_, (blocksAt (t.reports w.guardModule source [])).map fun x =>
    (x.1, Visit.under ⟨t, []⟩ x.1), List.Pairwise.map _ (fun _ _ => id) (before_blocksAt hinOrder), ?_, ?_⟩
  · intro p v hv hout he
    cases v.outcome w.guardModule source with
    | discarded _ hnone _ => exact hnone
    | failedText e _ _ hm =>
        cases hno (p, .failed e) (Visit.mem_reports_iff.2 ⟨v, hv, by rw [hm], hout⟩)
    | block _ hk | failedBlock _ hk => cases he.symm.trans hk
    | below hne => exact absurd he hne
  · intro p v
    rw [List.mem_map]
    constructor
    · rintro ⟨⟨q, b⟩, hb, heq⟩
      obtain ⟨rfl, rfl⟩ := Prod.mk.inj heq
      obtain ⟨v, hv⟩ := (mem_map_fst_blocksAt hno).1 (List.mem_map_of_mem hb)
      rwa [Visit.under_eq hv.1]
    · intro hv
      obtain ⟨⟨q, b⟩, hb, rfl⟩ := List.mem_map.1 ((mem_map_fst_blocksAt hno).2 ⟨v, hv⟩)
      exact ⟨(q, b), hb, by rw [Visit.under_eq hv.1]⟩
  · rw [List.forall₂_map_right_iff]
    refine forall₂_of_common (List.Forall₂.flip h) (List.forall₂_same.2 fun _ _ => rfl) ?_
    rintro ⟨p, b⟩ hb x _ - hx rfl
    obtain ⟨c, b', hc, hb', hspanned⟩ := answersFor_iff.1 hx
    cases hb'
    obtain ⟨v, hv, -⟩ := (mem_map_fst_blocksAt hno).1 (List.mem_map_of_mem hb)
    refine ⟨c, hc, (showsCell_iff (NotebookCell.content_of_toCell hc).2).2 ⟨b, ?_, hspanned⟩⟩
    rw [Visit.under_eq hv]
    exact statement_of_mem_blocksAt hb hv

/-- **A script is read back block by block exactly if its tree shows its cells.** -/
theorem reads_back_iff (w : WriteOptions) (nb : Notebook) :
    BlockByBlock (SpannedAt w) nb (Script.answers w.guardModule (nb.script w)) ↔
      Shows (nb.script w) w nb (Tree.ofText (nb.script w)) :=
  ⟨shows_of_blocks, blocks_of_shows⟩

/-- Code with a form feed before its second statement, as it separates the pages of a source. -/
def pagedCode : Notebook :=
  ⟨[.ofCode (.whole "x = 1\n\x0cy = 2".toList), .ofCode (.whole "zz = 1".toList)], []⟩

theorem flawIn?_pagedCode :
    flawIn? "x = 1\n\x0cy = 2".toList (Tree.ofText "x = 1\n\x0cy = 2".toList) = none := by
  decide +kernel

theorem flawIn?_nextCode : flawIn? "zz = 1".toList (Tree.ofText "zz = 1".toList) = none := by
  decide +kernel

/-- The check accepts the cells of `pagedCode`, but its script does not show them: a form feed
undoes the indentation before it, so the first block ends after its first line, and reading leaves
out the second without an error. -/
theorem paged_code_lost :
    (∀ nc ∈ pagedCode.cells, ∃ c, nc.toCell = .ok c ∧ ∀ line, c.check line = .ok ()) ∧
      ¬ BlockByBlock (SpannedAt {}) pagedCode
        (Script.answers "herzog".toList (pagedCode.script {})) ∧
      (Script.read {} (pagedCode.script {})).error = none ∧
      (Script.read {} (pagedCode.script {})).cells =
        [⟨.executable, ["x = 1".toList]⟩, ⟨.executable, ["zz = 1".toList]⟩] := by
  refine ⟨?_, by decide +kernel, by decide +kernel, by decide +kernel⟩
  intro nc hnc
  rw [pagedCode, List.mem_pair] at hnc
  rcases hnc with rfl | rfl
  · refine ⟨⟨.executable, ["x = 1".toList, "\x0cy = 2".toList]⟩, rfl, fun line => ?_⟩
    have hcode : Cell.code ⟨.executable, ["x = 1".toList, "\x0cy = 2".toList]⟩ =
        "x = 1\n\x0cy = 2".toList := by
      decide
    rw [Cell.check, if_neg (by decide), hcode, flawIn?_pagedCode]
  · refine ⟨⟨.executable, ["zz = 1".toList]⟩, rfl, fun line => ?_⟩
    have hcode : Cell.code ⟨.executable, ["zz = 1".toList]⟩ = "zz = 1".toList := by
      decide
    rw [Cell.check, if_neg (by decide), hcode, flawIn?_nextCode]

end

end CellScript
