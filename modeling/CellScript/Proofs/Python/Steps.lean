import CellScript.Proofs.Python.Stacks
import CellScript.Python.Parse.Run

set_option autoImplicit false

/-! # A parse stands in its text

Every step of a parse keeps its stacks in the text: ranking, `Stacks.IsIn.order`, the moves of the
grammar, `Progress.IsIn.advanceWith`, and what is done after damage, `Progress.IsIn.meetDamage`. A
phrase is made in the state that has the reduction, so one that renames is made of a word. In the
end the best reading of a text stands in it with all its parts, `Fragment.wholeIn_of_ofText`. -/

namespace CellScript.Python

open Grammar

variable {source : List Char}

/-! ## Ranking -/

namespace Stacks.IsIn

variable {s : Stacks}

theorem settle {mine : Rank} {fuel i j : Nat} (h : s.IsIn source) :
    (settle mine fuel s i j).1.IsIn source := by
  induction fuel generalizing s i j with
  | zero => exact h
  | succ fuel ih =>
      unfold Stacks.settle
      split
      · split
        · exact h
        · split
          · exact h.remove i
          · split
            · exact h.merge? ‹_›
            · exact ih h
          · split
            · exact h.merge? ‹_›
            · exact ih h
          · split
            · exact h.merge? ‹_›
            · exact ih (h.swap i j)
          · exact ih (h.remove j)
      · exact h

theorem order {fuel i : Nat} {least : Option Nat} (h : s.IsIn source) :
    (order fuel s i least).1.IsIn source := by
  induction fuel generalizing s i least with
  | zero => exact h
  | succ fuel ih =>
      unfold Stacks.order
      split
      · exact h
      · split
        · exact ih (h.remove i)
        · dsimp only
          exact ih h.settle

/-! ## Phrases -/

theorem splitAlong {along : List (Fragment × Cursor)} (h : AlongIn source along) :
    AlongIn source (splitAlong along).1 ∧ AlongIn source (splitAlong along).2 := by
  refine ⟨h.of_sublist (List.take_sublist _ _), fun x hx => ?_⟩
  have hmem := (List.takeWhile_sublist _).subset (List.mem_reverse.1 hx)
  exact h x (List.mem_reverse.1 hmem)

theorem extra_of_mem_splitAlong {along : List (Fragment × Cursor)} :
    ∀ x ∈ (Stacks.splitAlong along).2, x.1.extra = true := by
  intro x hx
  exact List.mem_takeWhile_imp (p := fun x : Fragment × Cursor => x.1.extra) (List.mem_reverse.1 hx)

/-- The way that is chosen is one of those there are. -/
theorem chooseWay (Q : List (Fragment × Cursor) → Prop) (symbol shape : Nat) (at_ : Position)
    {best : List (Fragment × Cursor)} {us : List Unwound} (hbest : Q best)
    (hus : ∀ u ∈ us, Q u.along) : Q (chooseWay symbol shape at_ best us) := by
  induction us generalizing best with
  | nil => exact hbest
  | cons u us ih =>
      obtain ⟨hu, hus⟩ := List.forall_mem_cons.1 hus
      unfold Stacks.chooseWay
      dsimp only
      split
      · exact ih hu hus
      · exact ih hbest hus

/-- Extras may stand again where they stood. -/
theorem pushAll (h : s.IsIn source) {i state : Nat} (hs : s.Reaches i state)
    {fs : List (Fragment × Cursor)} (hfs : AlongIn source fs)
    (hextra : ∀ x ∈ fs, x.1.extra = true) : (s.pushAll i state fs).IsIn source := by
  refine (List.foldlRecOn (motive := fun s : Stacks => s.IsIn source ∧ s.Reaches i state) _ _
    ⟨h, hs⟩ fun s' hs' x hx => ?_).1
  refine ⟨hs'.1.push i (fun f hf => Option.some.inj hf ▸ (hfs x hx).1) (hfs x hx).2 ?_,
    (standsIn_push _ _ _ _ _).reaches⟩
  exact fun b hb => fits_of_extra (hextra x hx) fun hstate => hs'.2 hstate b hb

theorem mergeInto? {except i : Nat} {s' : Stacks} (h : s.IsIn source)
    (hs : s.mergeInto? except i = some s') : s'.IsIn source := by
  obtain ⟨j, -, hj⟩ := List.exists_of_findSome?_eq_some hs
  split at hj
  · cases hj
  · exact h.merge? hj

/-- The fragments along a way down make a phrase: if it renames, they are words, but for extras. -/
def Makes (source : List Char) (symbol shape : Nat) (along : List (Fragment × Cursor)) : Prop :=
  AlongIn source along ∧ (renames symbol shape = true → ∀ x ∈ along, x.1.extra = false →
    isWord x.1.symbol = true)

theorem pushPhrases {i symbol shape fuel removed : Nat} {weight : Int} {us : List Unwound}
    (h : s.IsIn source) (hsymbol : firstPhrase ≤ symbol)
    (hus : ∀ u ∈ us, Makes source symbol shape u.along) :
    (pushPhrases i symbol shape weight fuel s removed us).IsIn source := by
  induction fuel generalizing s removed us with
  | zero => exact h
  | succ fuel ih =>
      cases us with
      | nil => exact h
      | cons u us =>
          obtain ⟨hu, hus⟩ := List.forall_mem_cons.1 hus
          unfold Stacks.pushPhrases
          dsimp only
          have hothers : ∀ u' ∈ us.drop (us.takeWhile (·.branch == u.branch)).length,
              Makes source symbol shape u'.along := fun u' hu' => hus u' (List.mem_of_mem_drop hu')
          split
          · exact ih (h.remove _) hothers
          · split
            · exact h
            · rename_i branch _
              have hbase := h.topNode branch
              have hway := chooseWay (Makes source symbol shape) symbol shape
                (s.topNode branch).cursor.pos hu
                fun u' hu' => hus u' ((List.takeWhile_sublist (·.branch == u.branch)).subset hu')
              obtain ⟨hparts, hextras⟩ := splitAlong hway.1
              have hwhole := Fragment.isIn_phrase weight false hsymbol
                (fun hrenames p hp => by
                  obtain ⟨x, hx, rfl⟩ := List.mem_map.1 hp
                  exact hway.2 hrenames x (List.mem_of_mem_take hx))
                hbase.cursor.pos hparts.fragments
              have hpushed := fun {after : Cursor} (hafter : after.IsIn source) =>
                (h.push (u.branch - removed) (fun f hf => Option.some.inj hf ▸ hwhole) hafter
                  fun b _ => fits_of_not (not_afterWord_next (s.topNode branch).state hsymbol)).pushAll
                  (standsIn_push _ _ _ _ _).reaches hextras extra_of_mem_splitAlong
              split
              on_goal 1 => refine ih ((hpushed ?_).mergeInto? ‹_›) hothers
              on_goal 2 => refine ih (hpushed ?_) hothers
              all_goals
                split
                · exact (hparts _ (List.mem_of_getLast? ‹_›)).2
                · exact hbase.cursor

/-- A reduction of a state is done on a branch that stands in it. -/
theorem reduce (h : s.IsIn source) {i state token : Nat} {r : Reduction}
    (hr : .reduce r ∈ moves state token) (hs : s.StandsIn i state) :
    (s.reduce i r).1.IsIn source := by
  obtain ⟨hjoins, hstate⟩ := joins_of_mem_moves hr
  have hpop := h.popCount i r.size
  refine pushPhrases hpop.forks hjoins.phrase fun u hu => ⟨hpop.ways u hu, fun hrenames => ?_⟩
  rw [hjoins.single hrenames] at hu
  exact h.isWord_of_popCount hs (hstate hrenames) u hu

/-- A token is taken to a state in which it may stand. -/
theorem shift (h : s.IsIn source) (i : Nat) {l : Lookahead} (hl : l.IsIn source) {state : Nat}
    {extra : Bool} (hfits : ∀ b, s.branches[i]? = some b →
      Fits (s.topNode b).state state (some (l.token.setExtra extra))) :
    (s.shift i l state extra).IsIn source := by
  have hpush : (s.push i (some (l.token.setExtra extra)) l.after state).IsIn source :=
    h.push i (fun f hf => Option.some.inj hf ▸ hl.token.setExtra extra) hl.after hfits
  unfold Stacks.shift
  dsimp only
  split
  · exact hpush.modify i fun _ hb => ⟨hb.top, hb.standing⟩
  · exact hpush

end Stacks.IsIn

/-! ## Complete readings -/

/-- A reading of a whole text stands in it with its parts. -/
structure Fragment.WholeIn (source : List Char) (f : Fragment) : Prop where
  start : f.reading.start.IsIn source
  stop : f.reading.stop.IsIn source
  parts : ∀ p ∈ f.parts, p.IsIn source

theorem wholeIn_of_wholeOf {fs : List Fragment} (hfs : ∀ f ∈ fs, f.IsIn source) {f : Fragment}
    (h : wholeOf fs = some f) : f.WholeIn source := by
  unfold wholeOf at h
  dsimp only at h
  split at h
  · cases h
  · rename_i root before heq
    obtain rfl := Option.some.inj h
    have hrest : ∀ p ∈ root :: before, p.IsIn source := by
      intro p hp
      rw [← heq] at hp
      exact hfs p (List.mem_of_mem_take (List.mem_reverse.1 hp))
    obtain ⟨hroot, hbefore⟩ := List.forall_mem_cons.1 hrest
    have hparts : ∀ p ∈ before.reverse ++ root.parts ++
        (fs.reverse.takeWhile Fragment.extra).reverse, p.IsIn source := by
      intro p hp
      rcases List.mem_append.1 hp with hp | hp
      · rcases List.mem_append.1 hp with hp | hp
        · exact hbefore p (List.mem_reverse.1 hp)
        · exact hroot.parts p hp
      · have hp' := (List.takeWhile_sublist _).subset (List.mem_reverse.1 hp)
        exact hfs p (List.mem_reverse.1 hp')
    exact ⟨Fragment.start_phrase hroot.start hparts, Fragment.stop_phrase hroot.start hparts, hparts⟩

/-- The readings in progress stand in a text, and so does the best that is complete. -/
structure Progress.IsIn (source : List Char) (p : Progress) : Prop where
  forks : p.forks.IsIn source
  finished : ∀ f ∈ p.finished, f.WholeIn source

namespace Progress

/-- What the moves for a token came to stands in a text. -/
def Outcome.IsIn (source : List Char) : Outcome → Prop
  | .done p => p.IsIn source
  | .gather s | .reduced s _ => s.IsIn source
  | .stuck => True

/-- What came of advancing a branch stands in a text. -/
def Advance.IsIn (source : List Char) : Advance → Prop
  | .done p => p.IsIn source
  | .gather p l => p.IsIn source ∧ l.IsIn source

namespace IsIn

variable {p : Progress}

theorem withForks (h : p.IsIn source) {s : Stacks} (hs : s.IsIn source) :
    IsIn source { p with forks := s } :=
  ⟨hs, h.finished⟩

theorem accept (h : p.IsIn source) (i : Nat) {l : Lookahead} (hl : l.IsIn source) :
    (p.accept i l).IsIn source := by
  have hpush : (p.forks.push i (some l.token) l.after startState).IsIn source :=
    h.forks.push i (fun f hf => Option.some.inj hf ▸ hl.token) hl.after
      fun _ _ => fits_of_not not_afterWord_startState
  have hpop := hpush.popAll i
  unfold Progress.accept
  dsimp only
  refine ⟨Stacks.IsIn.halt ?_ i, ?_⟩
  · split
    · exact hpop.forks.remove _
    · exact hpop.forks
  · refine List.foldlRecOn (motive := fun o : Option Fragment => ∀ f ∈ o, f.WholeIn source) _ _
      h.finished fun best hbest whole hwhole => ?_
    obtain ⟨u, hu, hof⟩ := List.mem_filterMap.1 hwhole
    have hnew := wholeIn_of_wholeOf (hpop.ways u hu).fragments hof
    have hsome : ∀ f ∈ some whole, f.WholeIn source := fun f hf => Option.some.inj hf ▸ hnew
    split
    · split
      · exact hsome
      · exact hbest
    · exact hsome

theorem doMoves (h : p.IsIn source) {i state : Nat} {l : Lookahead} (hl : l.IsIn source)
    (did : Bool) (last : Option Nat) {ms : List Move}
    (hms : ∀ m ∈ ms, m ∈ moves state l.token.symbol) (hs : p.forks.StandsIn i state) :
    (p.doMoves i state l did last ms).IsIn source := by
  induction ms generalizing p did last with
  | nil =>
      unfold Progress.doMoves
      split
      · exact h.forks
      · trivial
  | cons m ms ih =>
      obtain ⟨hm, hrest⟩ := List.forall_mem_cons.1 hms
      cases m with
      | shift state' =>
          refine h.withForks (h.forks.shift i hl fun b _ => fits_of_word ?_ fun hstate => ?_)
          · exact Fragment.extra_setExtra false l.token
          · rw [Fragment.symbol_setExtra]
            exact isWord_of_mem_moves hm (.inl rfl) hstate
      | again _ => exact ih h did last hrest hs
      | skip =>
          refine h.withForks (h.forks.shift i hl fun b hb => fits_of_extra ?_ fun hstate => ?_)
          · exact Fragment.extra_setExtra true l.token
          · exact hs.reaches hstate b hb
      | reduce r =>
          obtain ⟨hextends, hbranch⟩ := p.forks.reduce_extends i r
          exact ih (h.withForks (h.forks.reduce hm hs)) true _ hrest
            (h.forks.standsIn hs hextends hbranch)
      | recover => exact h.forks
      | accept => exact h.accept i hl

theorem advanceWith (i fuel : Nat) {l : Lookahead} (h : p.IsIn source) (hl : l.IsIn source) :
    (advanceWith i fuel p l).IsIn source := by
  induction fuel generalizing p l with
  | zero => exact h.withForks (h.forks.halt i)
  | succ fuel ih =>
      unfold Progress.advanceWith
      extract_lets state symbol ms
      have hs : p.forks.StandsIn i state := by
        intro b hb
        dsimp only [state]
        rw [hb]
      have hms : ∀ m ∈ ms, m ∈ moves state l.token.symbol := by
        intro m hm
        dsimp only [ms] at hm
        split at hm
        · cases hm
        · exact hm
      have hout := h.doMoves hl false none hms hs
      clear_value ms
      generalize p.doMoves i state l false none ms = outcome at hout ⊢
      cases outcome with
      | done p' => exact hout
      | gather s => exact ⟨h.withForks hout, hl⟩
      | reduced s last =>
          cases last with
          | some new => exact ih (h.withForks (Stacks.IsIn.renumber hout new i)) hl
          | none => exact h.withForks (Stacks.IsIn.halt hout i)
      | stuck =>
          dsimp only
          split
          · -- the keyword is read once more, as a name
            rename_i hkeyword
            rw [Bool.and_eq_true_iff, Bool.and_eq_true_iff] at hkeyword
            refine ih h ⟨Fragment.isIn_leaf hl.token.start hl.token.stop fun _ => ?_, hl.after⟩
            exact hl.token.word (.inr hkeyword.1.1)
          · refine h.withForks (h.forks.modify i ?_)
            exact fun _ hb => ⟨hb.top, hl⟩

theorem lookahead (h : p.IsIn source) (b : Branch) : (p.lookahead b).IsIn source :=
  Place.isIn_lex (h.forks.topNode b).cursor

end IsIn

end Progress

/-! ## Going on after damage -/

/-- The reductions that are tried after damage are reductions of the state. -/
theorem Stacks.exists_of_mem_reductionsOf {state : Nat} {tokens : List Nat} {r : Reduction}
    (h : r ∈ reductionsOf state tokens) : ∃ token, .reduce r ∈ moves state token := by
  have hall : ∀ r ∈ reductionsOf state tokens, ∃ token, .reduce r ∈ moves state token := by
    refine List.foldlRecOn (motive := fun rs : List Reduction => ∀ r ∈ rs,
      ∃ token, .reduce r ∈ moves state token) tokens _ (fun _ hr => absurd hr List.not_mem_nil)
      fun rs hrs t _ => ?_
    refine List.foldlRecOn (motive := fun rs : List Reduction => ∀ r ∈ rs,
      ∃ token, .reduce r ∈ moves state token) (moves state t) _ hrs fun rs hrs m hm r hr => ?_
    split at hr
    · split at hr
      · exact hrs r hr
      · rcases List.mem_append.1 hr with hr | hr
        · exact hrs r hr
        · rw [List.mem_singleton.1 hr]
          exact ⟨t, hm⟩
    · exact hrs r hr
  exact hall r h

namespace Stacks.IsIn

variable {s : Stacks}

theorem reduceAll (token start first fuel i round : Nat) (took : Bool) (h : s.IsIn source) :
    (reduceAll token start first fuel s i round took).1.IsIn source := by
  induction fuel generalizing s i round took with
  | zero => exact h
  | succ fuel ih =>
      unfold Stacks.reduceAll
      split
      · exact h
      · rename_i b hb
        dsimp only
        split
        · rename_i s' hmerged
          obtain ⟨j, -, hj⟩ := List.exists_of_findSome?_eq_some hmerged
          split at hj
          · cases hj
          · exact ih _ _ _ (h.merge? hj)
        · -- every reduction of the state is done on the branch
          generalize hfold : List.foldl _ (s, none) _ = x
          have hx : x.1.IsIn source := by
            rw [← hfold]
            refine (List.foldlRecOn (motive := fun x : Stacks × Option Nat => x.1.IsIn source ∧
              x.1.StandsIn i (s.topNode b).state) _ _ ⟨h, fun b' hb' => ?_⟩ fun x hx r hr => ?_).1
            · rw [Option.some.inj (hb.symm.trans hb')]
            · obtain ⟨t, ht⟩ := exists_of_mem_reductionsOf hr
              obtain ⟨hextends, hbranch⟩ := x.1.reduce_extends i r
              exact ⟨hx.1.reduce ht hx.2, hx.1.standsIn hx.2 hextends hbranch⟩
          obtain ⟨s', last⟩ := x
          dsimp only at hx ⊢
          have hdropped : ∀ q : Prop, [Decidable q] →
              IsIn source (if q then s' else s'.remove i) := by
            intro q _
            split
            · exact hx
            · exact hx.remove i
          split
          · exact ih _ _ _ hx
          · split
            · split
              · exact ih _ _ _ (hx.renumber _ i)
              · exact ih _ _ _ (hdropped _)
            · exact ih _ _ _ (hdropped _)

theorem reduceFrom (h : s.IsIn source) (i token : Nat) : (s.reduceFrom i token).1.IsIn source :=
  h.reduceAll _ _ _ _ _ _ _

theorem returnTo (h : s.IsIn source) (i depth goal : Nat) :
    (s.returnTo i depth goal).1.IsIn source := by
  have hpop := h.popCount i depth
  unfold Stacks.returnTo
  dsimp only
  refine List.foldlRecOn (motive := fun x : Stacks × Option Nat × Bool => x.1.IsIn source) _ _
    hpop.forks ?_
  rintro ⟨s, previous, did⟩ hs u hu
  dsimp only at hs ⊢
  split
  · exact hs
  · split
    · exact hs
    · rename_i b hb
      split
      · exact hs.halt u.branch
      · rename_i hgoal
        have hstands : s.StandsIn u.branch goal := by
          intro b' hb'
          rw [← Option.some.inj (hb.symm.trans hb')]
          simpa using hgoal
        obtain ⟨herrors, hgathered, hreach⟩ := hs.popError hstands.reaches
        obtain ⟨hparts, hextras⟩ := splitAlong (hpop.ways u hu)
        generalize s.popError u.branch = x at herrors hgathered hreach ⊢
        obtain ⟨s', errors⟩ := x
        dsimp only at herrors hgathered hreach ⊢
        -- the parts of the text taken off come before those that were unwound
        have hpush : ∀ (at_ : Position) (all : List Fragment) (after : Cursor), at_.IsIn source →
            (∀ f ∈ all, f.IsIn source) → after.IsIn source → IsIn source
              (Stacks.pushAll (if all.isEmpty then s' else
                s'.push u.branch (some (.phrase error 0 0 true at_ all)) after goal)
                u.branch goal (Stacks.splitAlong u.along).2) := by
          intro at_ all after hat hall hafter
          split
          · exact herrors.pushAll hreach hextras extra_of_mem_splitAlong
          · refine pushAll ?_ (standsIn_push _ _ _ _ _).reaches hextras extra_of_mem_splitAlong
            refine herrors.push u.branch (fun f hf => ?_) hafter fun b hb => ?_
            · obtain rfl := Option.some.inj hf
              exact Fragment.isIn_phrase_of_error true (.inl rfl) hat hall
            · exact fits_of_extra rfl fun hgoal => hreach hgoal b hb
        refine hpush _ _ _ (Cursor.IsIn.pos ?_) (fun f hf => ?_) ?_
        · split
          · exact (herrors.topNode _).cursor
          · exact (hs.topNode b).cursor
        · rcases List.mem_append.1 (List.mem_of_mem_take hf) with hf | hf
          · split at hf
            · exact (hgathered _ List.mem_cons_self).parts f hf
            · cases hf
          · exact hparts.fragments f hf
        · split
          · exact (hparts _ (List.mem_of_getLast? ‹_›)).2
          · split
            · exact (herrors.topNode _).cursor
            · exact (hs.topNode b).cursor

theorem returnToHaven (finished : Option Fragment) (i token count : Nat) (h : s.IsIn source)
    (hs : List Haven) : (returnToHaven finished i token count s hs).1.IsIn source := by
  induction hs generalizing s with
  | nil => exact h
  | cons x hs ih =>
      unfold Stacks.returnToHaven
      split
      · exact h
      · dsimp only
        split
        · exact ih h
        · split
          · exact h
          · split
            · generalize hy : s.returnTo i _ x.state = y
              have hreturn : y.1.IsIn source := hy ▸ h.returnTo i _ x.state
              obtain ⟨s', did⟩ := y
              cases did with
              | true => exact hreturn
              | false => exact ih hreturn
            · exact ih h

theorem dropIdle (h : s.IsIn source) (i : Nat) : (s.dropIdle i).IsIn source := by
  refine h.withBranches fun b hb => .inl ?_
  rcases List.mem_append.1 hb with hb | hb
  · exact List.mem_of_mem_take hb
  · exact List.mem_of_mem_drop (List.mem_filter.1 hb).1

theorem gather (h : s.IsIn source) (i : Nat) {l : Lookahead} (hl : l.IsIn source) :
    (s.gather i l).IsIn source := by
  unfold Stacks.gather
  split
  · exact h
  · extract_lets isExtra token at_ piece
    have hin : token.IsIn source := by
      dsimp only [token]
      split
      · exact hl.token.setExtra true
      · exact hl.token
    have hpiece : piece.IsIn source :=
      Fragment.isIn_phrase_of_error false (.inr rfl) hin.start
        fun f hf => List.mem_singleton.1 hf ▸ hin
    generalize hx : (if 0 < s.sizeSinceError _ then _ else (s, piece)) = x
    have hgathered : x.1.IsIn source ∧ x.2.IsIn source := by
      rw [← hx]
      split
      · have hpop := h.popCount i 1
        split
        · -- the text gathered before becomes part of the new piece
          rename_i s' u us heq
          rw [heq] at hpop
          refine ⟨renumber (hpop.forks.withBranches fun b hb => .inl (List.mem_of_mem_take hb)) _ _,
            Fragment.isIn_phrase_of_error false (.inr rfl) hin.start fun f hf => ?_⟩
          rcases List.mem_append.1 hf with hf | hf
          · exact (hpop.ways u List.mem_cons_self).fragments f hf
          · exact List.mem_singleton.1 hf ▸ hpiece
        · rename_i s' heq
          rw [heq] at hpop
          exact ⟨hpop.forks, hpiece⟩
      · exact ⟨h, hpiece⟩
    have hpush := hgathered.1.push i (fun f hf => Option.some.inj hf ▸ hgathered.2) hl.after
      fun b _ => fits_of_not not_afterWord_errorState
    dsimp only
    split
    · exact hpush.modify i fun _ hb => ⟨hb.top, hb.standing⟩
    · exact hpush

theorem supply (i token : Nat) (ts : List Nat) (h : s.IsIn source) :
    (Progress.supply s i token ts).1.IsIn source := by
  induction ts generalizing s with
  | nil => exact h
  | cons t ts ih =>
      unfold Progress.supply
      split
      · exact h
      · rename_i b hb
        dsimp only
        split
        · exact ih h
        · rename_i hplain
          rw [not_or, not_or] at hplain
          generalize hy : Stacks.reduceFrom _ _ token = y
          have hreduce : y.1.IsIn source := by
            rw [← hy]
            refine reduceFrom (push ?_ _ (fun f hf => ?_) (h.topNode b).cursor fun b' hb' => ?_) _ _
            · refine h.withBranches fun b' hb' => ?_
              rcases List.mem_append.1 hb' with hb' | hb'
              · exact .inl hb'
              · rw [List.mem_singleton.1 hb']
                exact .inr ⟨(h.branch hb).top, (h.branch hb).standing⟩
            · obtain rfl := Option.some.inj hf
              exact Fragment.isIn_missingToken (h.topNode b).cursor t
            · -- a token after which the state is another one leads there from the copied branch
              exact fits_of_word rfl fun hstate => isWord_of_next hstate hplain.2.1
          obtain ⟨s', took⟩ := y
          cases took with
          | true => exact hreduce
          | false => exact ih hreduce

theorem markDamage (token i first stop fuel j : Nat) (supplied : Bool) (h : s.IsIn source) :
    (Progress.markDamage token i first stop fuel s j supplied).IsIn source := by
  induction fuel generalizing s j supplied with
  | zero => exact h
  | succ fuel ih =>
      unfold Progress.markDamage
      split
      · generalize hy : (if supplied = true then (s, true) else _) = y
        have hsupply : y.1.IsIn source := by
          rw [← hy]
          split
          · exact h
          · exact supply _ _ _ h
        obtain ⟨s', supplied'⟩ := y
        dsimp only at hsupply ⊢
        refine ih _ _ ?_
        split
        · exact hsupply.push _ (fun f hf => by cases hf) (hsupply.topNode _).cursor
            fun _ _ => fits_of_not not_afterWord_errorState
        · exact hsupply
      · exact h

theorem mergeNext (i j n : Nat) (h : s.IsIn source) : (Progress.mergeNext s i j n).IsIn source := by
  induction n generalizing s with
  | zero => exact h
  | succ n ih =>
      refine ih ?_
      cases hs : s.merge? i j with
      | none => exact h
      | some s' => exact h.merge? hs

end Stacks.IsIn

namespace Progress.IsIn

variable {p : Progress}

theorem recover (h : p.IsIn source) (i : Nat) {l : Lookahead} (hl : l.IsIn source) :
    (p.recover i l).IsIn source := by
  unfold Progress.recover
  split
  · exact h
  · rename_i b hb
    dsimp only
    generalize hy : (if l.token.isError = true then (p.forks, false) else _) = y
    have hreturn : y.1.IsIn source := by
      rw [← hy]
      split
      · exact h.forks
      · exact h.forks.returnToHaven _ _ _ _ _
    have hidle := hreturn.dropIdle p.forks.branches.length
    split
    · split
      · exact h.withForks hidle
      · rename_i b' hb'
        have hcursor := (hidle.topNode b').cursor
        refine accept (h.withForks (hidle.push i (fun f hf => ?_) hcursor
          fun _ _ => fits_of_not not_afterWord_startState)) i hl
        obtain rfl := Option.some.inj hf
        exact Fragment.isIn_phrase_of_error false (.inl rfl) hcursor.pos nofun
    · split
      · exact h.withForks (hidle.halt i)
      · split
        · exact h.withForks (hidle.halt i)
        · split
          · exact h.withForks hidle
          · split
            · exact h.withForks (hidle.halt i)
            · exact h.withForks (hidle.gather i hl)

theorem meetDamage (h : p.IsIn source) (i : Nat) {l : Lookahead} (hl : l.IsIn source) :
    (p.meetDamage i l).IsIn source := by
  have hreduce := h.forks.reduceFrom i endOfText
  unfold Progress.meetDamage
  dsimp only
  refine recover (h.withForks (Stacks.IsIn.recordHavens ?_ i)) i hl
  exact (hreduce.markDamage _ _ _ _ _ _ _).mergeNext _ _ _

/-! ## Rounds -/

theorem advanceBranch (i fuel last : Nat) (h : p.IsIn source) :
    (advanceBranch i fuel p last).1.IsIn source := by
  induction fuel generalizing p last with
  | zero => exact h.withForks (h.forks.halt i)
  | succ fuel ih =>
      unfold Progress.advanceBranch
      split
      · exact h
      · rename_i b hb
        split
        · have hadvance := h.advanceWith i (1000 + 10 * p.forks.count) (h.lookahead b)
          generalize p.advanceWith i _ _ = x at hadvance ⊢
          extract_lets p'
          have hp' : p'.IsIn source := by
            cases x with
            | done p => exact hadvance
            | gather p l => exact hadvance.1.recover i hadvance.2
          clear_value p'
          split
          · exact hp'
          · dsimp only
            split
            · exact hp'
            · exact ih _ hp'
        · exact h

theorem advanceAll (fuel n i last : Nat) (h : p.IsIn source) :
    (advanceAll fuel n p i last).1.IsIn source := by
  induction n generalizing p i last with
  | zero => exact h
  | succ n ih =>
      unfold Progress.advanceAll
      split
      · exact ih _ _ (h.advanceBranch i fuel last)
      · exact h

theorem resume (n i : Nat) (running : Bool) (least : Option Nat) (h : p.IsIn source) :
    (resume n p i running least).1.IsIn source := by
  induction n generalizing p i running least with
  | zero => exact h
  | succ n ih =>
      unfold Progress.resume
      split
      · exact h
      · rename_i b hb
        split
        · rename_i l hstanding
          have hl : l.IsIn source := by
            have hbranch := (h.forks.branch hb).standing
            rwa [hstanding] at hbranch
          split
          · refine ih _ _ _ (meetDamage (h.withForks (h.forks.modify i ?_)) i hl)
            exact fun _ hb => ⟨hb.top, trivial⟩
          · exact ih _ _ _ (h.withForks (h.forks.remove i))
        · exact ih _ _ _ h

theorem condense (h : p.IsIn source) : p.condense.1.IsIn source := by
  unfold Progress.condense
  dsimp only
  refine resume _ _ _ _ (h.withForks ?_)
  exact Stacks.IsIn.withBranches h.forks.order fun b hb => .inl (List.mem_of_mem_take hb)

theorem run (fuel rounds last : Nat) (h : p.IsIn source) :
    (run fuel rounds p last).IsIn source := by
  induction rounds generalizing p last with
  | zero => exact h
  | succ rounds ih =>
      have hround := (h.advanceAll fuel (2 * Stacks.maxBranches + fuel) 0 last).condense
      unfold Progress.run
      dsimp only
      split
      · exact hround
      · exact ih _ hround

end Progress.IsIn

/-- **The best reading of a text stands in the text.** -/
theorem Fragment.wholeIn_of_ofText {f : Fragment} (h : Fragment.ofText source = some f) :
    f.WholeIn source := by
  have hstart : (Progress.ofText source).IsIn source := ⟨.ofText source, nofun⟩
  exact (hstart.run _ _ 0).finished f h

end CellScript.Python
