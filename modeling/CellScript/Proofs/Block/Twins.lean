import CellScript.Proofs.Block.Walk
import CellScript.Proofs.Python.Twins

set_option autoImplicit false

/-! # Blocks of twins

Trees of the same shape that stand in a text with short line ends and in the same text with long
ones have the same guards, `Guard.rel_ofStatement?`, the same kinds and the same blocks,
`Block.exists_twin_of_ofStatement?`. Text that fits nowhere and is left out of the one is left out
of the other, `errorOf?_eq_none`. So what is reported of the one tree without a failure is reported
of the other, `Python.Tree.Twins.reports`. -/

namespace CellScript

open Python Text

variable {ns s : Text} {t u : Tree}

/-! ## Guards -/

/-- Guards that name the same kind in the two texts. -/
inductive Guard.Twins (s : Text) : Guard → Guard → Prop where
  | cell {call call' : Tree} (h : call.Twins s call') : Twins s (.cell call) (.cell call')
  | sandbox : Twins s .sandbox .sandbox

namespace Guard

theorem rel_ofCall? (hs : '\r' ∉ s) (hns : ¬ longEnd <:+: ns) (h : t.Twins s u) :
    Option.Rel (Guard.Twins s) (ofCall? ns s t) (ofCall? ns (crlf s) u) := by
  unfold ofCall?
  rw [h.kind_eq]
  split
  · exact .none
  · refine rel_bind (h.part? .function) fun function function' hfunction => ?_
    rw [hfunction.kind_eq]
    split
    · exact .none
    · refine rel_bind (rel_find?_true hfunction.children fun _ _ hc => by rw [hc.label.role])
        fun object object' ⟨hobject, hfound⟩ => ?_
      have hrole : object.label.role = some .object := beq_iff_eq.1 hfound
      have hname : (object.kind != .identifier || object.text s != ns) =
          (object'.kind != .identifier || object'.text (crlf s) != ns) := by
        rw [← hobject.kind_eq, Bool.eq_iff_iff]
        by_cases hk : object.kind = .identifier
        · simp [hk, hobject.text_eq_name_iff hs hns hk hrole]
        · simp [hk]
      rw [hname]
      split
      · exact .none
      · refine rel_bind (hfunction.part? .attribute) fun name name' hword => ?_
        have hcell := hword.text_eq_iff hs "Cell".toList (by decide)
        have hsandbox := hword.text_eq_iff hs "Sandbox".toList (by decide)
        simp only [hcell, hsandbox]
        split
        · exact .some (.cell h)
        · split
          · exact .some .sandbox
          · exact .none

mutual

theorem rel_inner (t u : Tree) (h : t.Twins s u) :
    Option.Rel (Tree.Twins s) (inner t) (inner u) := by
  cases t with
  | node l cs =>
      cases u with
      | node m ds =>
          have hkind : l.kind = m.kind := h.kind_eq
          rw [inner, inner, hkind]
          split
          · exact rel_innerFirst cs ds h.children
          · exact .some h

theorem rel_innerFirst (ts us : List Tree) (h : List.Forall₂ (Tree.Twins s) ts us) :
    Option.Rel (Tree.Twins s) (innerFirst ts) (innerFirst us) := by
  cases ts with
  | nil =>
      cases h
      exact .none
  | cons t ts =>
      obtain ⟨u, us, ht, hts, rfl⟩ := List.forall₂_cons_left_iff.1 h
      rw [innerFirst, innerFirst, ht.label.named, ht.kind_eq]
      split
      · exact rel_inner t u ht
      · exact rel_innerFirst ts us hts

end

/-- Statements have guards in both trees, and the same ones. -/
theorem rel_ofStatement? (hs : '\r' ∉ s) (hns : ¬ longEnd <:+: ns) (h : t.Twins s u) :
    Option.Rel (Guard.Twins s) (ofStatement? ns s t) (ofStatement? ns (crlf s) u) := by
  unfold ofStatement?
  refine rel_bind (rel_find? h.children fun _ _ hc => by rw [hc.kind_eq])
    fun clause clause' hc => ?_
  have hitems : List.Forall₂ (Tree.Twins s) (clause.phrases.filter (·.kind == .withItem))
      (clause'.phrases.filter (·.kind == .withItem)) :=
    rel_filter hc.phrases fun _ _ hi => by rw [hi.kind_eq]
  generalize clause.phrases.filter _ = items, clause'.phrases.filter _ = items' at hitems
  cases hitems with
  | nil => exact .none
  | cons hitem hitems =>
      cases hitems with
      | nil =>
          refine rel_bind (hitem.part? .value) fun value value' hvalue => ?_
          exact rel_bind (rel_inner value value' hvalue) fun _ _ hcall => rel_ofCall? hs hns hcall
      | cons _ _ => exact .none

end Guard

/-! ## Kinds -/

/-- What names the kind, of the one argument of a call: the argument, or its value if it is given by
name. -/
inductive KindValue (source : Text) (arg : Tree) : Tree → Prop where
  | plain (hk : arg.kind ≠ .keywordArgument) : KindValue source arg arg
  | named {name value : Tree} (hk : arg.kind = .keywordArgument)
      (hname : arg.part? .name = some name) (htext : name.text source = "cell_type".toList)
      (hvalue : arg.part? .value = some value) : KindValue source arg value

/-- The text of a value that is a plain literal, or else the value as written. -/
def valueText (source : Text) (value : Tree) : Text :=
  (stringLiteral? source value).getD (value.text source)

/-- A call names a kind if it has one argument and that is the literal of the kind. -/
theorem CellKind.ofCall_eq_ok_iff {source : Text} {line : Nat} {call : Tree} {k : CellKind} :
    CellKind.ofCall source line call = .ok k ↔
      ∃ args arg value, call.part? .arguments = some args ∧ args.phrases = [arg] ∧
        KindValue source arg value ∧ CellKind.ofLiteral? (valueText source value) = some k := by
  constructor
  · intro h
    unfold CellKind.ofCall at h
    split at h
    · rename_i arg hone
      obtain ⟨args, hargs, hone⟩ : ∃ args, call.part? .arguments = some args ∧
          args.phrases = [arg] := by
        cases hargs : call.part? .arguments with
        | none =>
            rw [hargs] at hone
            cases hone
        | some args =>
            rw [hargs] at hone
            exact ⟨args, rfl, hone⟩
      refine ⟨args, arg, ?_⟩
      split at h
      · rename_i hk
        split at h
        · rename_i name value hname hvalue
          obtain ⟨name, hpart, rfl⟩ := Option.map_eq_some_iff.1 hname
          split at h
          · rename_i htext
            refine ⟨value, hargs, hone, .named hk hpart htext hvalue, ?_⟩
            dsimp only [bind, Except.bind] at h
            split at h
            · rename_i hliteral
              rwa [Except.ok.inj h] at hliteral
            · cases h
          · cases h
        · cases h
      · rename_i hk
        refine ⟨arg, hargs, hone, .plain hk, ?_⟩
        dsimp only [bind, Except.bind] at h
        split at h
        · rename_i hliteral
          rwa [Except.ok.inj h] at hliteral
        · cases h
    · cases h
  · rintro ⟨args, arg, value, hargs, hone, hvalue, h⟩
    have hphrases : ((call.part? .arguments).map Tree.phrases).getD [] = [arg] := by
      rw [hargs]
      exact hone
    unfold valueText at h
    unfold CellKind.ofCall
    rw [hphrases]
    cases hvalue with
    | plain hk =>
        dsimp only
        rw [if_neg hk]
        dsimp only [bind, Except.bind]
        rw [h]
    | named hk hname htext hvalue =>
        dsimp only
        rw [if_pos hk, hname, hvalue, Option.map_some]
        dsimp only
        rw [if_pos htext]
        dsimp only [bind, Except.bind]
        rw [h]

theorem KindValue.exists_twin (hs : '\r' ∉ s) (h : t.Twins s u) {value : Tree}
    (hv : KindValue s t value) :
    ∃ value', KindValue (crlf s) u value' ∧ value.Twins s value' := by
  cases hv with
  | plain hk => exact ⟨u, .plain (h.kind_eq ▸ hk), h⟩
  | named hk hname htext hvalue =>
      obtain ⟨name', hname', hnames⟩ := exists_of_rel_some (h.part? .name) hname
      obtain ⟨value', hvalue', hvalues⟩ := exists_of_rel_some (h.part? .value) hvalue
      have htext' := (hnames.text_eq_iff hs "cell_type".toList (by decide)).2 htext
      exact ⟨value', .named (h.kind_eq ▸ hk) hname' htext' hvalue', hvalues⟩

theorem stringLiteral?_eq (h : t.Twins s u) :
    stringLiteral? (crlf s) u = (stringLiteral? s t).map crlf := by
  have hplain : (u.kind != .string || u.children.any (·.kind == .interpolation)) =
      (t.kind != .string || t.children.any (·.kind == .interpolation)) := by
    rw [h.kind_eq, any_eq_of_forall₂ h.children fun _ _ hc => by rw [hc.kind_eq]]
  unfold stringLiteral?
  rw [hplain]
  split
  · rfl
  · have hfirst : Option.Rel (Tree.Twins s) (t.children.find? (·.kind == .stringStart))
        (u.children.find? (·.kind == .stringStart)) :=
      rel_find? h.children fun _ _ hc => by rw [hc.kind_eq]
    have hlast : Option.Rel (Tree.Twins s) (t.children.reverse.find? (·.kind == .stringEnd))
        (u.children.reverse.find? (·.kind == .stringEnd)) :=
      rel_find? (List.forall₂_reverse_iff.2 h.children) fun _ _ hc => by rw [hc.kind_eq]
    generalize t.children.find? _ = first, u.children.find? _ = first' at hfirst
    generalize t.children.reverse.find? _ = last, u.children.reverse.find? _ = last' at hlast
    cases hfirst with
    | none => rfl
    | @some first first' hfirst =>
        cases hlast with
        | none => rfl
        | @some last last' hlast =>
            have hle : first'.stop.offset ≤ last'.start.offset ↔
                first.stop.offset ≤ last.start.offset := by
              rw [hfirst.stop_offset, hlast.start_offset]
              exact length_crlf_take_le_iff hfirst.short.self.2.offset_le
            dsimp only [bind, Option.bind]
            by_cases hsome : first.stop.offset ≤ last.start.offset
            · rw [if_pos hsome, if_pos (hle.2 hsome), Option.map_some, hfirst.stop_offset,
                hlast.start_offset, slice_crlf]
            · rw [if_neg hsome, if_neg (mt hle.1 hsome), Option.map_none]

/-- The text of a literal, but for the line ends. -/
theorem valueText_eq (h : t.Twins s u) : valueText (crlf s) u = crlf (valueText s t) := by
  rw [valueText, valueText, stringLiteral?_eq h, h.text_eq]
  cases stringLiteral? s t <;> rfl

theorem not_mem_valueText (hs : '\r' ∉ s) (t : Tree) : '\r' ∉ valueText s t := by
  unfold valueText
  cases hliteral : stringLiteral? s t with
  | none => exact Tree.not_mem_text hs t
  | some literal =>
      unfold stringLiteral? at hliteral
      split at hliteral
      · cases hliteral
      · obtain ⟨first, -, hliteral⟩ := Option.bind_eq_some_iff.1 hliteral
        obtain ⟨last, -, hliteral⟩ := Option.bind_eq_some_iff.1 hliteral
        split at hliteral
        · obtain rfl := Option.some.inj hliteral
          exact not_mem_slice hs _ _
        · cases hliteral

/-- A literal names the same kind with either line ends: those of kinds have none. -/
theorem CellKind.ofLiteral?_crlf {x : Text} (hx : '\r' ∉ x) :
    ofLiteral? (crlf x) = ofLiteral? x := by
  have hword : ∀ k : CellKind, (k.literal.toList == crlf x) = (k.literal.toList == x) := by
    intro k
    have hfeed : '\n' ∉ k.literal.toList := by cases k <;> decide
    have hlong : ¬ longEnd <:+: k.literal.toList := fun h => hfeed (h.subset (by decide))
    have hiff := crlf_eq_iff hx hlong fun h => absurd h hfeed
    rw [Bool.eq_iff_iff, beq_iff_eq, beq_iff_eq, eq_comm, hiff, eq_comm]
  unfold ofLiteral?
  simp only [hword]

theorem Guard.Twins.kind (hs : '\r' ∉ s) {g g' : Guard} (h : g.Twins s g') {line : Nat}
    {k : CellKind} (hk : g.kind s line = .ok k) : g'.kind (crlf s) line = .ok k := by
  cases h with
  | sandbox => exact hk
  | cell hcall =>
      obtain ⟨args, arg, value, hargs, hone, hvalue, hliteral⟩ := CellKind.ofCall_eq_ok_iff.1 hk
      obtain ⟨args', hargs', htwins⟩ := exists_of_rel_some (hcall.part? .arguments) hargs
      obtain ⟨arg', hone', harg⟩ := exists_of_forall₂_single htwins.phrases hone
      obtain ⟨value', hvalue', hvalues⟩ := hvalue.exists_twin hs harg
      refine CellKind.ofCall_eq_ok_iff.2 ⟨args', arg', value', hargs', hone', hvalue', ?_⟩
      rw [valueText_eq hvalues, CellKind.ofLiteral?_crlf (not_mem_valueText hs value), hliteral]

/-! ## Blocks -/

/-- Blocks of the same kind and in the same rows, with bodies that go together. -/
structure Block.Twins (s : Text) (b b' : Block) : Prop where
  kind : b.kind = b'.kind
  span : b.span = b'.span
  body : b.body.Twins s b'.body

theorem colonRow_eq (h : t.Twins s u) : t.colonRow = u.colonRow := by
  have hcolon : Option.Rel (Tree.Twins s) (t.children.find? (·.kind == .colon))
      (u.children.find? (·.kind == .colon)) :=
    rel_find? h.children fun _ _ hc => by rw [hc.kind_eq]
  unfold Tree.colonRow
  generalize t.children.find? _ = colon, u.children.find? _ = colon' at hcolon
  cases hcolon with
  | none => exact h.label.start.row
  | some hcolon => exact hcolon.label.stop.row

theorem lastRowWith_eq {body body' : Tree} {after after' : List Tree} (h : body.Twins s body')
    (hafter : List.Forall₂ (Tree.Twins s) after after') :
    lastRowWith body after = lastRowWith body' after' := by
  have hcomments : List.Forall₂ (Tree.Twins s)
      (after.takeWhile fun t => t.kind == .comment && body.start.column ≤ t.start.column)
      (after'.takeWhile fun t => t.kind == .comment && body'.start.column ≤ t.start.column) := by
    refine rel_takeWhile hafter fun x y hxy => ?_
    have hx : x.start.column = y.start.column := hxy.label.start.column
    have hbody : body.start.column = body'.start.column := h.label.start.column
    rw [hxy.kind_eq, hx, hbody]
  rw [lastRowWith, lastRowWith, h.lastRow_eq]
  refine List.rel_foldl (P := Eq) ?_ rfl hcomments
  rintro row _ rfl x y hxy
  exact congrArg (max row) hxy.lastRow_eq

/-- A block of the one tree is one of the other. -/
theorem Block.exists_twin_of_ofStatement? (hs : '\r' ∉ s) (hns : ¬ longEnd <:+: ns)
    (h : t.Twins s u) {after after' : List Tree}
    (hafter : List.Forall₂ (Tree.Twins s) after after') {b : Block}
    (hb : Block.ofStatement? ns s t after = .ok (some b)) :
    ∃ b', Block.ofStatement? ns (crlf s) u after' = .ok (some b') ∧ b.Twins s b' := by
  obtain ⟨⟨g, hg, hkind⟩, hbody, hwhole, hrow, hspan⟩ := Block.ofStatement?_eq_ok_some_iff.1 hb
  obtain ⟨g', hg', hguards⟩ := exists_of_rel_some (Guard.rel_ofStatement? hs hns h) hg
  obtain ⟨body', hbody', hbodies⟩ := exists_of_rel_some (h.part? .body) hbody
  have hstart : t.start.row = u.start.row := h.label.start.row
  have hmissing : b.body.isMissing = body'.isMissing := hbodies.label.missing
  have hempty : b.body.phrases.isEmpty = body'.phrases.isEmpty := by
    rw [Bool.eq_iff_iff, List.isEmpty_iff_length_eq_zero, List.isEmpty_iff_length_eq_zero,
      hbodies.phrases.length_eq]
  have herror : t.children.any Tree.isError = u.children.any Tree.isError :=
    any_eq_of_forall₂ h.children fun _ _ hc => by rw [Tree.isError, Tree.isError, hc.kind_eq]
  have hbodyRow : b.body.start.row = body'.start.row := hbodies.label.start.row
  have hcolumn : b.body.start.column = body'.start.column := hbodies.label.start.column
  refine ⟨⟨b.kind, b.span, body'⟩, Block.ofStatement?_eq_ok_some_iff.2 ?_, rfl, rfl, hbodies⟩
  refine ⟨⟨g', hg', ?_⟩, hbody', ?_, ?_, ?_⟩
  · rw [← hstart]
    exact hguards.kind hs hkind
  · rw [← hmissing, ← hempty, ← herror]
    exact hwhole
  · rw [← hbodyRow, ← colonRow_eq h]
    exact hrow
  · rw [← hstart, ← colonRow_eq h, ← hcolumn, ← lastRowWith_eq hbodies hafter]
    exact hspan

/-- A statement without a guard has none in the other tree. -/
theorem Block.ofStatement?_eq_none_of_twins (hs : '\r' ∉ s) (hns : ¬ longEnd <:+: ns)
    (h : t.Twins s u) {after after' : List Tree}
    (hnone : Block.ofStatement? ns s t after = .ok none) :
    Block.ofStatement? ns (crlf s) u after' = .ok none := by
  have hrel := Guard.rel_ofStatement? hs hns h
  rw [Block.ofStatement?_eq_none_iff.1 hnone] at hrel
  refine Block.ofStatement?_eq_none_iff.2 ?_
  generalize Guard.ofStatement? ns (crlf s) u = g at hrel
  cases hrel
  rfl

/-! ## Text that fits nowhere -/

mutual

/-- The first guard call stands in the same row. -/
theorem guardRow?_eq (hs : '\r' ∉ s) (hns : ¬ longEnd <:+: ns) (t u : Tree)
    (h : t.Twins s u) : guardRow? ns (crlf s) u = guardRow? ns s t := by
  cases t with
  | node l cs =>
      cases u with
      | node m ds =>
          have hcall := Guard.rel_ofCall? hs hns h
          rw [guardRow?, guardRow?]
          generalize Guard.ofCall? ns s (.node l cs) = g,
            Guard.ofCall? ns (crlf s) (.node m ds) = g' at hcall
          cases hcall with
          | none => exact firstGuardRow?_eq hs hns cs ds h.children
          | some _ => exact congrArg some h.label.start.row.symm

theorem firstGuardRow?_eq (hs : '\r' ∉ s) (hns : ¬ longEnd <:+: ns) (ts us : List Tree)
    (h : List.Forall₂ (Tree.Twins s) ts us) :
    firstGuardRow? ns (crlf s) us = firstGuardRow? ns s ts := by
  cases ts with
  | nil =>
      cases h
      rfl
  | cons t ts =>
      obtain ⟨u, us, ht, hts, rfl⟩ := List.forall₂_cons_left_iff.1 h
      rw [firstGuardRow?, firstGuardRow?, guardRow?_eq hs hns t u ht,
        firstGuardRow?_eq hs hns ts us hts]

end

/-- Text looks like a guard if an opening of one stands in it. -/
theorem guardTextRow?_eq_none_iff {source : Text} :
    guardTextRow? ns source t = none ↔
      ¬ ns ++ ".Cell(".toList <:+: t.text source ∧
        ¬ ns ++ ".Sandbox(".toList <:+: t.text source := by
  rw [← find?_isSome_iff, ← find?_isSome_iff, guardTextRow?]
  dsimp only
  cases Text.find? (ns ++ ".Cell(".toList) (t.text source) <;>
    cases Text.find? (ns ++ ".Sandbox(".toList) (t.text source) <;> simp

theorem errorOf?_eq_none_iff {source : Text} :
    errorOf? ns source t = none ↔
      guardRow? ns source t = none ∧ guardTextRow? ns source t = none := by
  rw [errorOf?, Option.map_eq_none_iff, Option.orElse_eq_orElse, Option.orElse_eq_or,
    Option.or_eq_none_iff]

/-- Text that is left out of the one script is left out of the other. -/
theorem errorOf?_eq_none (hs : '\r' ∉ s) (hns : ¬ longEnd <:+: ns) (h : t.Twins s u)
    (hnone : errorOf? ns s t = none) : errorOf? ns (crlf s) u = none := by
  obtain ⟨hcall, htext⟩ := errorOf?_eq_none_iff.1 hnone
  obtain ⟨hcell, hsandbox⟩ := guardTextRow?_eq_none_iff.1 htext
  refine errorOf?_eq_none_iff.2 ⟨(guardRow?_eq hs hns t u h).trans hcall, ?_⟩
  have hword : ∀ word : Text, '\r' ∉ '.' :: word → ¬ ns ++ '.' :: word <:+: t.text s →
      ¬ ns ++ '.' :: word <:+: u.text (crlf s) := by
    intro word hr hnot hinfix
    rw [h.text_eq] at hinfix
    exact hnot (infix_of_append_cons_infix_crlf (Tree.not_mem_text hs t) hns (by decide) hr hinfix)
  exact guardTextRow?_eq_none_iff.2
    ⟨hword "Cell(".toList (by decide) hcell, hword "Sandbox(".toList (by decide) hsandbox⟩

/-! ## Reports -/

/-- What is found in both trees, other than failures. -/
inductive Find.Twins (s : Text) : Find → Find → Prop where
  | discarded (line : Nat) : Twins s (.discarded line) (.discarded line)
  | block {b b' : Block} (h : b.Twins s b') : Twins s (.block b) (.block b')

theorem Find.Twins.isFailure_eq {f f' : Find} (h : f.Twins s f') : f'.isFailure = false := by
  cases h <;> rfl

/-- Reports of the same place. -/
structure Report.Twins (s : Text) (r r' : Report) : Prop where
  place : r.1 = r'.1
  find : r.2.Twins s r'.2

namespace Visit

variable {source : Text} {after : List Tree}

theorem reports_of_discarded (hk : t.kind = .error) (h : errorOf? ns source t = none) :
    t.reports ns source after = [([], .discarded (t.start.row + 1))] := by
  have hmeet : ((⟨t, after⟩ : Visit).meet ns source).1 = some (.discarded (t.start.row + 1)) := by
    simp [meet, Tree.isError, hk, h]
  exact reports_of_meet hmeet

theorem reports_of_block (hk : t.kind = .withStatement) {b : Block}
    (h : Block.ofStatement? ns source t after = .ok (some b)) :
    t.reports ns source after = [([], .block b)] := by
  have hmeet : ((⟨t, after⟩ : Visit).meet ns source).1 = some (.block b) := by
    simp [meet, Tree.isError, hk, h]
  exact reports_of_meet hmeet

theorem reports_of_below (hk : t.kind ≠ .error)
    (h : t.kind = .withStatement → Block.ofStatement? ns source t after = .ok none) :
    t.reports ns source after = Tree.reportsFrom ns source 0 t.children := by
  have hmeet : ((⟨t, after⟩ : Visit).meet ns source).1 = none := by
    by_cases hw : t.kind = .withStatement
    · simp [meet, Tree.isError, hw, h hw]
    · simp [meet, Tree.isError, hk, hw]
  exact reports_of_meet_eq_none hmeet

end Visit

mutual

/-- **What is found in the one tree without a failure is found in the other.** -/
theorem Python.Tree.Twins.reports (hs : '\r' ∉ s) (hns : ¬ longEnd <:+: ns) (t u : Tree)
    (h : t.Twins s u) (after after' : List Tree)
    (hafter : List.Forall₂ (Tree.Twins s) after after')
    (hok : ∀ r ∈ t.reports ns s after, r.2.isFailure = false) :
    List.Forall₂ (Report.Twins s) (t.reports ns s after) (u.reports ns (crlf s) after') := by
  cases t with
  | node l cs =>
      cases (⟨.node l cs, after⟩ : Visit).outcome ns s with
      | failedText e _ _ _ hr | failedBlock e _ _ _ hr =>
          rw [Visit.reports] at hr
          rw [hr] at hok
          cases hok _ (List.mem_singleton_self _)
      | discarded hk herr _ hr =>
          rw [Visit.reports] at hr
          rw [hr, Visit.reports_of_discarded (h.kind_eq ▸ hk) (errorOf?_eq_none hs hns h herr)]
          have hrow : (Tree.node l cs).start.row = u.start.row := h.label.start.row
          rw [← hrow]
          exact .cons ⟨rfl, .discarded _⟩ .nil
      | block b hk hb _ hr =>
          rw [Visit.reports] at hr
          obtain ⟨b', hb', hblocks⟩ := Block.exists_twin_of_ofStatement? hs hns h hafter hb
          rw [hr, Visit.reports_of_block (h.kind_eq ▸ hk) hb']
          exact .cons ⟨rfl, .block hblocks⟩ .nil
      | below hk hnone _ hr =>
          rw [Visit.reports] at hr
          rw [hr] at hok
          have hbelow := Python.Tree.Twins.reportsFrom hs hns 0 cs u.children h.children hok
          rw [hr, Visit.reports_of_below (h.kind_eq ▸ hk) fun hw =>
            Block.ofStatement?_eq_none_of_twins hs hns h (hnone (h.kind_eq.trans hw))]
          exact hbelow

theorem Python.Tree.Twins.reportsFrom (hs : '\r' ∉ s) (hns : ¬ longEnd <:+: ns) (i : Nat)
    (ts us : List Tree) (h : List.Forall₂ (Tree.Twins s) ts us)
    (hok : ∀ r ∈ Tree.reportsFrom ns s i ts, r.2.isFailure = false) :
    List.Forall₂ (Report.Twins s) (Tree.reportsFrom ns s i ts)
      (Tree.reportsFrom ns (crlf s) i us) := by
  cases ts with
  | nil =>
      cases h
      exact .nil
  | cons t ts =>
      obtain ⟨u, us, ht, hts, rfl⟩ := List.forall₂_cons_left_iff.1 h
      rw [Tree.reportsFrom] at hok
      obtain ⟨hfirst, hrest⟩ := List.forall_mem_append.1 hok
      have hreports := Python.Tree.Twins.reports hs hns t u ht ts us hts
        (List.forall_mem_map.1 hfirst)
      have hbelow := Python.Tree.Twins.reportsFrom hs hns (i + 1) ts us hts hrest
      rw [Tree.reportsFrom, Tree.reportsFrom]
      refine List.rel_append ?_ hbelow
      rw [List.forall₂_map_left_iff, List.forall₂_map_right_iff]
      exact hreports.imp fun _ _ hr => ⟨congrArg (i :: ·) hr.place, hr.find⟩

end

/-- Without a failure the walks over both trees meet the same. -/
theorem rel_finds (hs : '\r' ∉ s) (hns : ¬ longEnd <:+: ns) (h : t.Twins s u)
    (hok : ∀ f ∈ finds ns s t, f.isFailure = false) :
    List.Forall₂ (Find.Twins s) (finds ns s t) (finds ns (crlf s) u) := by
  rw [finds_eq_map_reportsMet] at hok
  have hmet : ∀ r ∈ reportsMet ns s t, r.2.isFailure = false := List.forall_mem_map.1 hok
  have hreports : ∀ r ∈ t.reports ns s [], r.2.isFailure = false := by
    intro r hr
    have hcut : r ∈ reportsMet ns s t ∨ ∃ r' ∈ reportsMet ns s t, r'.2.isFailure = true :=
      mem_upTo_or hr
    rcases hcut with hr | ⟨r', hr', hfail⟩
    · exact hmet r hr
    · rw [hmet r' hr'] at hfail
      cases hfail
  have htwins := Python.Tree.Twins.reports hs hns t u h [] [] .nil hreports
  have hreports' : ∀ r ∈ u.reports ns (crlf s) [], r.2.isFailure = false := by
    intro r hr
    obtain ⟨r', -, hr'⟩ := exists_of_forall₂ htwins hr
    exact hr'.find.isFailure_eq
  rw [finds_eq_map_reportsMet, finds_eq_map_reportsMet, reportsMet, reportsMet,
    upTo_eq_self hreports, upTo_eq_self hreports', List.forall₂_map_left_iff,
    List.forall₂_map_right_iff]
  exact htwins.imp fun _ _ hr => hr.find

end CellScript
