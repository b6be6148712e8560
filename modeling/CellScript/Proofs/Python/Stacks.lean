import CellScript.Proofs.Python.Growth
import CellScript.Proofs.Python.Tokens

set_option autoImplicit false

/-! # Stacks that stand in a text

`Stacks.IsIn` says of all that a parse holds on its stacks that it stands in the text: the cursors
and fragments of every node, and the tokens that paused branches wait with. Above a state after a
word there is a word, but for extras, `Fits`. Whatever is done with nodes and branches keeps this,
and what is unwound from a branch stands in the text too. -/

namespace CellScript.Python

open Grammar

variable {source : List Char}

/-! ## What stacks hold -/

/-- A fragment between two states: one that leads to a state after a word is a word, or an extra
above such a state. -/
def Fits (below state : Nat) (fragment : Option Fragment) : Prop :=
  AfterWord state → ∃ f, fragment = some f ∧
    (f.extra = true ∧ AfterWord below ∨ f.extra = false ∧ isWord f.symbol = true)

theorem fits_of_not {below state : Nat} {fragment : Option Fragment} (h : ¬ AfterWord state) :
    Fits below state fragment :=
  fun hstate => absurd hstate h

theorem fits_of_extra {below state : Nat} {f : Fragment} (hf : f.extra = true)
    (h : AfterWord state → AfterWord below) : Fits below state (some f) :=
  fun hstate => ⟨f, rfl, .inl ⟨hf, h hstate⟩⟩

theorem fits_of_word {below state : Nat} {f : Fragment} (hf : f.extra = false)
    (h : AfterWord state → isWord f.symbol = true) : Fits below state (some f) :=
  fun hstate => ⟨f, rfl, .inr ⟨hf, h hstate⟩⟩

/-- A way down from a node in `state` leads to a node, over a fragment that stands in the text. -/
structure Link.IsIn (source : List Char) (s : Stacks) (state : Nat) (l : Link) : Prop where
  below : l.below < s.count
  fragment : ∀ f ∈ l.fragment, f.IsIn source
  fits : Fits (s.node l.below).state state l.fragment

/-- A stack node stands in a text with the fragments on the ways down from it. -/
structure Node.IsIn (source : List Char) (s : Stacks) (n : Node) : Prop where
  cursor : n.cursor.IsIn source
  links : ∀ l ∈ n.links, l.IsIn source s n.state

/-- The token that a branch waits with stands in a text, if there is one. -/
def Standing.IsIn (source : List Char) : Standing → Prop
  | .paused l => l.IsIn source
  | _ => True

/-- A branch has a node on top, and the token that it waits with stands in a text. -/
structure Branch.IsIn (source : List Char) (s : Stacks) (b : Branch) : Prop where
  top : b.top < s.count
  standing : b.standing.IsIn source

/-- All that is on some stacks stands in a text. -/
structure Stacks.IsIn (source : List Char) (s : Stacks) : Prop where
  nodes : ∀ n ∈ s.nodes, n.IsIn source s
  branches : ∀ b ∈ s.branches, b.IsIn source s

section

variable {s s' : Stacks}

theorem Link.IsIn.mono {state : Nat} {l : Link} (h : l.IsIn source s state) (hs : s.Extends s') :
    l.IsIn source s' state := by
  refine ⟨h.below.trans_le hs.count, h.fragment, ?_⟩
  rw [hs.state _ h.below]
  exact h.fits

theorem Node.IsIn.mono {n : Node} (h : n.IsIn source s) (hs : s.Extends s') : n.IsIn source s' :=
  ⟨h.cursor, fun l hl => (h.links l hl).mono hs⟩

theorem Branch.IsIn.mono {b : Branch} (h : b.IsIn source s) (hs : s.Extends s') :
    b.IsIn source s' :=
  ⟨h.top.trans_le hs.count, h.standing⟩

end

/-- Fragments that were passed, and the cursors after them, stand in a text. -/
def AlongIn (source : List Char) (along : List (Fragment × Cursor)) : Prop :=
  ∀ x ∈ along, x.1.IsIn source ∧ x.2.IsIn source

/-- Stacks stand in a text with the ways down that were unwound from them. -/
structure WaysIn (source : List Char) (x : Stacks × List Unwound) : Prop where
  forks : x.1.IsIn source
  ways : ∀ u ∈ x.2, AlongIn source u.along

theorem AlongIn.cons {x : Fragment × Cursor} {along : List (Fragment × Cursor)}
    (hx : x.1.IsIn source ∧ x.2.IsIn source) (h : AlongIn source along) :
    AlongIn source (x :: along) :=
  List.forall_mem_cons.2 ⟨hx, h⟩

theorem AlongIn.of_sublist {along along' : List (Fragment × Cursor)} (h : AlongIn source along)
    (hsub : along'.Sublist along) : AlongIn source along' :=
  fun x hx => h x (hsub.subset hx)

theorem AlongIn.fragments {along : List (Fragment × Cursor)} (h : AlongIn source along) :
    ∀ f ∈ along.map (·.1), f.IsIn source := by
  intro f hf
  obtain ⟨x, hx, rfl⟩ := List.mem_map.1 hf
  exact (h x hx).1

/-- An extra that leads to a state after a word may stand on a branch: it stands in such a state. -/
def Stacks.Reaches (s : Stacks) (i state : Nat) : Prop :=
  AfterWord state → ∀ b, s.branches[i]? = some b → AfterWord (s.topNode b).state

theorem Stacks.StandsIn.reaches {s : Stacks} {i state : Nat} (h : s.StandsIn i state) :
    s.Reaches i state := by
  intro hstate b hb
  rwa [h b hb]

namespace Stacks.IsIn

variable {s s' : Stacks}

/-! ## Nodes and branches -/

theorem ofText (source : List Char) : (Stacks.ofText source).IsIn source := by
  refine ⟨fun n hn => ?_, fun b hb => ?_⟩
  · rw [List.mem_singleton.1 hn]
    exact ⟨Cursor.isIn_ofText source, nofun⟩
  · rw [List.mem_singleton.1 hb]
    exact ⟨Nat.zero_lt_one, trivial⟩

theorem node (h : s.IsIn source) (i : Nat) : (s.node i).IsIn source s := by
  rw [Stacks.node, List.getD_eq_getElem?_getD]
  cases hn : s.nodes[s.count - 1 - i]? with
  | none => exact ⟨Cursor.isIn_default source, fun _ hl => absurd hl List.not_mem_nil⟩
  | some n => exact h.nodes n (List.mem_of_getElem? hn)

theorem topNode (h : s.IsIn source) (b : Branch) : (s.topNode b).IsIn source s := h.node b.top

theorem branch (h : s.IsIn source) {i : Nat} {b : Branch} (hb : s.branches[i]? = some b) :
    b.IsIn source s :=
  h.branches b (List.mem_of_getElem? hb)

/-- A branch that is left alone stands in the state it stood in. -/
theorem standsIn (h : s.IsIn source) {i state : Nat} (hs : s.StandsIn i state)
    (hextends : s.Extends s') (hbranch : s'.branches[i]? = s.branches[i]?) :
    s'.StandsIn i state := by
  intro b hb
  rw [hbranch] at hb
  exact (hextends.state _ (h.branch hb).top).trans (hs b hb)

/-- Branches may be dropped and put in another order, and given up. -/
theorem withBranches (h : s.IsIn source) {bs : List Branch}
    (hbs : ∀ b ∈ bs, b ∈ s.branches ∨ b.IsIn source s) :
    IsIn source { s with branches := bs } := by
  have hsame : s.Extends { s with branches := bs } := .of_eq rfl rfl
  exact ⟨fun n hn => (h.nodes n hn).mono hsame,
    fun b hb => ((hbs b hb).elim (h.branches b) id).mono hsame⟩

theorem setNode (h : s.IsIn source) (i : Nat) {n : Node} (hn : n.IsIn source s)
    (hstate : n.state = (s.node i).state) : (s.setNode i n).IsIn source := by
  have hsame := extends_setNode hstate
  refine ⟨fun m hm => ?_, fun b hb => (h.branches b hb).mono hsame⟩
  rcases List.mem_or_eq_of_mem_set hm with hm | rfl
  · exact (h.nodes m hm).mono hsame
  · exact hn.mono hsame

theorem modify (h : s.IsIn source) (i : Nat) {f : Branch → Branch}
    (hf : ∀ b, b.IsIn source s → (f b).IsIn source s) : (s.modify i f).IsIn source := by
  refine h.withBranches fun b hb => .inr ?_
  obtain ⟨k, hk⟩ := List.getElem?_of_mem hb
  rw [List.getElem?_modify] at hk
  obtain ⟨b', hb', rfl⟩ := Option.map_eq_some_iff.1 hk
  split
  · exact hf b' (h.branch hb')
  · exact h.branch hb'

theorem remove (h : s.IsIn source) (i : Nat) : (s.remove i).IsIn source :=
  h.withBranches fun _ hb => .inl ((List.eraseIdx_sublist _ i).subset hb)

theorem halt (h : s.IsIn source) (i : Nat) : (s.halt i).IsIn source :=
  h.modify i fun _ hb => ⟨hb.top, trivial⟩

theorem renumber (h : s.IsIn source) (i j : Nat) : (s.renumber i j).IsIn source := by
  unfold Stacks.renumber
  split
  · rename_i b old hb hold
    split
    · exact h
    · refine h.withBranches fun b' hb' => ?_
      rcases List.mem_or_eq_of_mem_set ((List.eraseIdx_sublist _ i).subset hb') with hb' | rfl
      · exact .inl hb'
      · exact .inr ⟨(h.branch hb).top, (h.branch hb).standing⟩
  · exact h

theorem swap (h : s.IsIn source) (i j : Nat) : (s.swap i j).IsIn source := by
  unfold Stacks.swap
  split
  · rename_i a b ha hb
    refine h.withBranches fun b' hb' => ?_
    rcases List.mem_or_eq_of_mem_set hb' with hb' | rfl
    · rcases List.mem_or_eq_of_mem_set hb' with hb' | rfl
      · exact .inl hb'
      · exact .inr (h.branch hb)
    · exact .inr (h.branch ha)
  · exact h

theorem push (h : s.IsIn source) (i : Nat) {fragment : Option Fragment} {cursor : Cursor}
    (hf : ∀ f ∈ fragment, f.IsIn source) (hc : cursor.IsIn source) {state : Nat}
    (hfits : ∀ b, s.branches[i]? = some b → Fits (s.topNode b).state state fragment) :
    (s.push i fragment cursor state).IsIn source := by
  have hextends := s.extends_push i fragment cursor state
  revert hextends
  unfold Stacks.push
  split
  · exact fun _ => h
  · rename_i b hb
    intro hextends
    dsimp only at hextends ⊢
    have htop := (h.branch hb).top
    refine ⟨?_, fun b' hb' => ?_⟩
    · refine List.forall_mem_cons.2 ⟨⟨hc, fun l hl => ?_⟩, fun n hn => (h.nodes n hn).mono hextends⟩
      rw [List.mem_singleton.1 hl]
      refine Link.IsIn.mono ⟨htop, hf, ?_⟩ hextends
      exact hfits b hb
    · rcases List.mem_or_eq_of_mem_set hb' with hb' | rfl
      · exact (h.branches b' hb').mono hextends
      · exact ⟨Nat.lt_succ_self _, (h.branch hb).standing⟩

/-! ## Joining -/

theorem state_eq_of_joinable {m n : Node} (h : joinable m n = true) : m.state = n.state := by
  unfold joinable at h
  rw [Bool.and_eq_true_iff, Bool.and_eq_true_iff] at h
  exact beq_iff_eq.1 h.1.1

theorem addLink {fuel : Nat} (h : s.IsIn source) (i : Nat) {new : Link}
    (hnew : new.IsIn source s (s.node i).state) : (addLink fuel s i new).IsIn source := by
  induction fuel generalizing s i new with
  | zero => exact h
  | succ fuel ih =>
      have hn := h.node i
      unfold Stacks.addLink
      dsimp only
      split
      · exact h
      · split
        · rename_i k hk
          obtain ⟨hlt, hfits, -⟩ := List.findIdx?_eq_some_iff_getElem.1 hk
          have hget : (s.node i).links.getD k default = (s.node i).links[k] := by
            rw [List.getD_eq_getElem?_getD, List.getElem?_eq_getElem hlt, Option.getD_some]
          have hold := hn.links _ (List.getElem_mem hlt)
          rw [hget]
          generalize (s.node i).links[k] = old at hfits hold ⊢
          split
          · rename_i hbelow
            split
            · -- the fragment of the new way takes the place of the old one
              refine h.setNode i ⟨hn.cursor, fun l hl => ?_⟩ rfl
              rcases List.mem_or_eq_of_mem_set hl with hl | rfl
              · exact hn.links l hl
              · exact ⟨hold.below, hnew.fragment, hbelow ▸ hnew.fits⟩
            · exact h
          · -- the nodes below become one
            rename_i hbelow
            rw [Bool.and_eq_true_iff, Bool.or_eq_true_iff, beq_iff_eq] at hfits
            have hjoin := state_eq_of_joinable (hfits.2.resolve_left hbelow)
            have hfold := List.foldlRecOn (s.node new.below).links
              (fun s' x => Stacks.addLink fuel s' old.below x)
              (motive := fun s' => IsIn source s' ∧ s.Extends s') ⟨h, .refl s⟩
              fun s' hs' x hx => by
                refine ⟨ih hs'.1 _ ?_, hs'.2.trans (s'.addLink_extends fuel old.below x).1⟩
                rw [hs'.2.state _ hold.below, hjoin]
                exact ((h.node new.below).links x hx).mono hs'.2
            split
            · exact hfold.1.setNode i ⟨(hfold.1.node i).cursor, (hfold.1.node i).links⟩ rfl
            · exact hfold.1
        · split
          · exact h
          · refine h.setNode i ⟨hn.cursor, fun l hl => ?_⟩ rfl
            rcases List.mem_append.1 hl with hl | hl
            · exact hn.links l hl
            · rw [List.mem_singleton.1 hl]
              exact hnew

theorem merge? (h : s.IsIn source) {i j : Nat} (hs : s.merge? i j = some s') :
    s'.IsIn source := by
  unfold Stacks.merge? at hs
  split at hs
  · rename_i hcan
    split at hs
    · rename_i a b ha hb
      dsimp only at hs
      obtain rfl := Option.some.inj hs
      have hjoin : (s.topNode a).state = (s.topNode b).state := by
        unfold canMerge at hcan
        rw [ha, hb] at hcan
        dsimp only at hcan
        rw [Bool.and_eq_true_iff, Bool.and_eq_true_iff] at hcan
        exact state_eq_of_joinable hcan.1.2
      have hfold := List.foldlRecOn (s.topNode b).links
        (fun s l => Stacks.addLink (s.count + 1) s a.top l)
        (motive := fun s' => IsIn source s' ∧ s.Extends s') ⟨h, .refl s⟩
        fun s' hs' x hx => by
          refine ⟨hs'.1.addLink _ ?_, hs'.2.trans (s'.addLink_extends _ a.top x).1⟩
          rw [hs'.2.state _ (h.branch ha).top]
          exact (hjoin ▸ (h.topNode b).links x hx).mono hs'.2
      refine remove ?_ j
      split
      · exact hfold.1.modify i fun _ hb => ⟨hb.top, hb.standing⟩
      · exact hfold.1
    · cases hs
  · cases hs

/-! ## Unwinding -/

theorem passed_over (h : s.IsIn source) {w : Walk} {l : Link} (hw : AlongIn source w.passed)
    (hl : ∀ f ∈ l.fragment, f.IsIn source) : AlongIn source (w.over s l).passed := by
  unfold Walk.over
  split
  · rename_i f hf
    exact hw.cons ⟨hl f hf, (h.node w.at_).cursor⟩
  · exact hw

theorem at_over {w : Walk} {l : Link} : (w.over s l).at_ = l.below := by
  unfold Walk.over
  split <;> rfl

/-- A way down leads to a node, and what is along it stands in the text. -/
def WayIn (source : List Char) (s : Stacks) (at_ : Nat) (along : List (Fragment × Cursor)) : Prop :=
  at_ < s.count ∧ AlongIn source along

theorem wayIn_over {w : Walk} {l : Link} (h : s.IsIn source) (hw : WayIn source s w.at_ w.passed)
    (hl : l ∈ (s.node w.at_).links) :
    WayIn source s (w.over s l).at_ (w.over s l).passed := by
  have hlink := (h.node w.at_).links l hl
  exact ⟨at_over ▸ hlink.below, h.passed_over hw.2 hlink.fragment⟩

theorem wayIn_start {b : Branch} {i : Nat} (h : s.IsIn source) (hb : s.branches[i]? = some b) :
    WayIn source s b.top [] :=
  ⟨(h.branch hb).top, nofun⟩

/-- Stacks that were unwound stand in the text with the ways down. -/
theorem of_unwinds (h : s.IsIn source) {P : Nat → List (Fragment × Cursor) → Prop}
    {x : Stacks × List Unwound} (hx : s.Unwinds P x)
    (hP : ∀ at_ along, P at_ along → WayIn source s at_ along) : WaysIn source x := by
  obtain ⟨made, hmade, hmade'⟩ := hx.branches
  refine ⟨⟨fun n hn => ?_, fun b hb => ?_⟩, fun u hu => ?_⟩
  · rw [hx.nodes] at hn
    exact (h.nodes n hn).mono hx.extended
  · rw [hmade] at hb
    rcases List.mem_append.1 hb with hb | hb
    · exact (h.branches b hb).mono hx.extended
    · obtain ⟨hactive, along, halong⟩ := hmade' b hb
      refine Branch.IsIn.mono ⟨(hP _ _ halong).1, ?_⟩ hx.extended
      rw [hactive]
      trivial
  · obtain ⟨-, b, -, hb⟩ := hx.ways u hu
    exact (hP _ _ hb).2

theorem unwinds {σ : Type} (h : s.IsIn source) (i : Nat) (look : σ → Stacks → Walk → Stop × σ)
    (m : σ) : s.Unwinds (WayIn source s) (s.unwind i look m).1 :=
  s.unwinds (W := fun w => WayIn source s w.at_ w.passed) i m (fun _ hb => h.wayIn_start hb)
    (fun _ _ _ _ hw _ hl => h.wayIn_over hw hl) fun _ _ _ hw _ => hw

theorem unwind {σ : Type} (h : s.IsIn source) (i : Nat) (look : σ → Stacks → Walk → Stop × σ)
    (m : σ) : WaysIn source (s.unwind i look m).1 :=
  h.of_unwinds (h.unwinds i look m) fun _ _ hP => hP

theorem popCount (h : s.IsIn source) (i n : Nat) : WaysIn source (s.popCount i n) := h.unwind i _ _

theorem popAll (h : s.IsIn source) (i : Nat) : WaysIn source (s.popAll i) := h.unwind i _ _

/-- What is taken off a state after a word is a word, with extras. -/
theorem isWord_of_popCount (h : s.IsIn source) {i state : Nat} (hs : s.StandsIn i state)
    (hstate : AfterWord state) : ∀ u ∈ (s.popCount i 1).2, ∀ x ∈ u.along, x.1.extra = false →
      isWord x.1.symbol = true := by
  -- as long as only extras were passed, the walk is at a state after a word
  have hunwinds : s.Unwinds (fun _ along => ∀ x ∈ along, x.1.extra = false →
      isWord x.1.symbol = true) (s.popCount i 1) := by
    refine s.unwinds i () (W := fun w =>
      (w.depth = 0 → (∀ x ∈ w.passed, x.1.extra = true) ∧ AfterWord (s.node w.at_).state) ∧
      (w.depth = 1 → ∀ x ∈ w.passed, x.1.extra = false → isWord x.1.symbol = true))
      (fun b hb => ?_) (fun _ _ w l hw _ hl => ?_) (fun _ _ w hw hkeep => ?_)
    · refine ⟨fun _ => ⟨nofun, ?_⟩, nofun⟩
      exact (hs b hb).symm ▸ hstate
    · obtain ⟨below, fragment⟩ := l
      have hfits := ((h.node w.at_).links _ hl).fits
      cases fragment with
      | none =>
          refine ⟨fun hdepth => absurd hdepth (Nat.succ_ne_zero _), fun hdepth => ?_⟩
          obtain ⟨f, hf, -⟩ := hfits (hw.1 (Nat.succ.inj hdepth)).2
          cases hf
      | some f =>
          unfold Walk.over
          dsimp only
          cases hextra : f.extra with
          | true =>
              refine ⟨fun hdepth => ?_, fun hdepth => ?_⟩
              · obtain ⟨hpassed, hat⟩ := hw.1 hdepth
                obtain ⟨f', hf', hcase⟩ := hfits hat
                obtain rfl := Option.some.inj hf'
                rw [hextra] at hcase
                exact ⟨List.forall_mem_cons.2 ⟨hextra, hpassed⟩, hcase.elim And.right nofun⟩
              · exact List.forall_mem_cons.2 ⟨fun hplain => by simp [hextra] at hplain, hw.2 hdepth⟩
          | false =>
              refine ⟨fun hdepth => absurd hdepth (Nat.succ_ne_zero _), fun hdepth => ?_⟩
              obtain ⟨hpassed, hat⟩ := hw.1 (Nat.succ.inj hdepth)
              obtain ⟨f', hf', hcase⟩ := hfits hat
              obtain rfl := Option.some.inj hf'
              rw [hextra] at hcase
              refine List.forall_mem_cons.2
                ⟨fun _ => hcase.elim nofun And.right, fun x hx hplain => ?_⟩
              rw [hpassed x hx] at hplain
              cases hplain
    · refine hw.2 ?_
      dsimp only at hkeep
      split at hkeep
      · assumption
      · rcases hkeep with hkeep | hkeep <;> cases hkeep
  intro u hu
  obtain ⟨-, b, -, hb⟩ := hunwinds.ways u hu
  exact hb

/-- Without the text that fits nowhere a branch stands in the state that was below it. -/
theorem popError (h : s.IsIn source) {i goal : Nat} (hs : s.Reaches i goal) :
    (s.popError i).1.IsIn source ∧ (∀ f ∈ (s.popError i).2, f.IsIn source) ∧
      (s.popError i).1.Reaches i goal := by
  unfold Stacks.popError
  split
  · exact ⟨h, nofun, hs⟩
  · rename_i b hb
    split
    · dsimp only
      generalize hlook : Stacks.unwind s i _ false = x
      have hx : s.Unwinds (fun at_ along => WayIn source s at_ along ∧
          (AfterWord goal → AfterWord (s.node at_).state)) x.1 := by
        rw [← hlook]
        refine s.unwinds i false (W := fun w => WayIn source s w.at_ w.passed ∧ (AfterWord goal →
          w.passed = [] ∧ AfterWord (s.node w.at_).state ∨
          ∃ y, w.passed = [y] ∧ (y.1.isError = true → AfterWord (s.node w.at_).state)))
          (fun b' hb' => ?_) (fun found _ w l hw hgo hl => ?_) (fun found _ w hw hkeep => ?_)
        · exact ⟨h.wayIn_start hb', fun hgoal => .inl ⟨rfl, hs hgoal b' hb'⟩⟩
        · -- a walk goes over the first link only
          have hpassed : w.passed = [] := by
            split at hgo
            · exact List.getLast?_eq_none_iff.1 ‹_›
            · split at hgo <;> rcases hgo with hgo | hgo <;> cases hgo
          refine ⟨h.wayIn_over hw.1 hl, fun hgoal => .inr ?_⟩
          have hat : AfterWord (s.node w.at_).state := by
            rcases hw.2 hgoal with ⟨-, hat⟩ | ⟨y, hy, -⟩
            · exact hat
            · rw [hpassed] at hy
              cases hy
          obtain ⟨f, hf, hcase⟩ := ((h.node w.at_).links l hl).fits hat
          unfold Walk.over
          rw [hf, hpassed]
          refine ⟨_, rfl, fun herror => ?_⟩
          rcases hcase with ⟨-, hbelow⟩ | ⟨-, hword⟩
          · exact hbelow
          · rw [beq_iff_eq.1 herror] at hword
            exact absurd hword (by decide)
        · refine ⟨hw.1, fun hgoal => ?_⟩
          split at hkeep
          · rcases hkeep with hkeep | hkeep <;> cases hkeep
          · rename_i f c hlast
            split at hkeep
            · rename_i herror
              rcases hw.2 hgoal with ⟨-, hat⟩ | ⟨y, hy, hat⟩
              · exact hat
              · rw [hy] at hlast
                obtain rfl := Option.some.inj hlast
                exact hat (Bool.and_eq_true_iff.1 herror).2
            · rcases hkeep with hkeep | hkeep <;> cases hkeep
      have hin := h.of_unwinds hx fun _ _ hP => hP.1
      split
      · rename_i s' u us heq
        rw [heq] at hx hin
        refine ⟨hin.forks.renumber u.branch i, (hin.ways u List.mem_cons_self).fragments,
          fun hgoal b' hb' => ?_⟩
        obtain ⟨hlen, made, hmade, -, hat⟩ := hx.ways u List.mem_cons_self
        have hi := (List.getElem?_eq_some_iff.1 hb).1
        have htop := top_renumber (hi.trans_le hlen) hmade ((hx.branch hi).trans hb) hb'
        rw [Stacks.topNode, node_renumber, htop, hx.node]
        exact hat hgoal
      · rename_i s' heq
        rw [heq] at hx hin
        refine ⟨hin.forks, nofun, fun hgoal b' hb' => ?_⟩
        rw [hx.branch (List.getElem?_eq_some_iff.1 hb).1] at hb'
        rw [Stacks.topNode, hx.node]
        exact hs hgoal b' hb'
    · exact ⟨h, nofun, hs⟩

theorem recordHavens (h : s.IsIn source) (i : Nat) : (s.recordHavens i).IsIn source := by
  unfold Stacks.recordHavens
  exact h.modify i fun _ hb => ⟨hb.top, hb.standing⟩

end Stacks.IsIn

end CellScript.Python
