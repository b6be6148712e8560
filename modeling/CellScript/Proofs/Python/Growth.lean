import CellScript.Python.Parse.Step
import Mathlib.Data.List.TakeWhile

set_option autoImplicit false

/-! # Stacks grow

A parse drops branches but no nodes, and a node keeps its state: `Stacks.Extends`. What is done on
one branch does not move the branches before it; so a phrase is made on new branches and the branch
that it was read on stays where it is, `Stacks.reduce_extends`. -/

namespace CellScript.Python.Stacks

open Grammar

variable {s s' s'' : Stacks}

/-! ## Nodes keep their states -/

/-- The nodes of some stacks are nodes of others, in the same states. -/
structure Extends (s s' : Stacks) : Prop where
  count : s.count ≤ s'.count
  state : ∀ i < s.count, (s'.node i).state = (s.node i).state

/-- If a branch is at a place, it stands in a state. -/
def StandsIn (s : Stacks) (i state : Nat) : Prop :=
  ∀ b, s.branches[i]? = some b → (s.topNode b).state = state

namespace Extends

theorem refl (s : Stacks) : s.Extends s := ⟨Nat.le_refl _, fun _ _ => rfl⟩

theorem trans (h : s.Extends s') (h' : s'.Extends s'') : s.Extends s'' :=
  ⟨h.count.trans h'.count, fun i hi =>
    (h'.state i (hi.trans_le h.count)).trans (h.state i hi)⟩

theorem of_eq (hnodes : s'.nodes = s.nodes) (hcount : s'.count = s.count) : s.Extends s' := by
  refine ⟨hcount.ge, fun i _ => ?_⟩
  rw [Stacks.node, Stacks.node, hnodes, hcount]

end Extends

theorem extends_setNode {i : Nat} {n : Node} (h : n.state = (s.node i).state) :
    s.Extends (s.setNode i n) := by
  refine ⟨Nat.le_refl _, fun j _ => ?_⟩
  unfold Stacks.node Stacks.setNode at *
  dsimp only
  rw [List.getD_eq_getElem?_getD, List.getD_eq_getElem?_getD, List.getElem?_set]
  split
  · rename_i hij
    split
    · rw [Option.getD_some, h, hij, List.getD_eq_getElem?_getD]
    · rename_i hlt
      rw [hij] at hlt
      rw [List.getElem?_eq_none (Nat.le_of_not_lt hlt)]
  · rfl

theorem extends_push (s : Stacks) (i : Nat) (fragment : Option Fragment) (cursor : Cursor)
    (state : Nat) : s.Extends (s.push i fragment cursor state) := by
  unfold Stacks.push
  split
  · exact .refl s
  · dsimp only
    refine ⟨Nat.le_succ _, fun j hj => ?_⟩
    have hindex : s.count + 1 - 1 - j = (s.count - 1 - j) + 1 := by omega
    unfold Stacks.node
    dsimp only
    rw [hindex, List.getD_cons_succ]

/-- A branch that was pushed on stands in the new state. -/
theorem standsIn_push (s : Stacks) (i : Nat) (fragment : Option Fragment) (cursor : Cursor)
    (state : Nat) : (s.push i fragment cursor state).StandsIn i state := by
  intro b hb
  unfold Stacks.push at hb ⊢
  split at hb
  · rename_i hnone
    rw [hnone] at hb
    cases hb
  · rename_i b' hb'
    dsimp only at hb ⊢
    rw [List.getElem?_set_self (List.getElem?_eq_some_iff.1 hb').1] at hb
    obtain rfl := Option.some.inj hb
    unfold Stacks.topNode Stacks.node
    dsimp only
    rw [Nat.add_sub_cancel, Nat.sub_self]
    rfl

theorem branches_push {i k : Nat} (hk : k ≠ i) (fragment : Option Fragment) (cursor : Cursor)
    (state : Nat) : (s.push i fragment cursor state).branches[k]? = s.branches[k]? := by
  unfold Stacks.push
  split
  · rfl
  · exact List.getElem?_set_ne hk.symm

/-! ## Joining -/

theorem addLink_extends (s : Stacks) (fuel i : Nat) (new : Link) :
    s.Extends (addLink fuel s i new) ∧ (addLink fuel s i new).branches = s.branches := by
  induction fuel generalizing s i new with
  | zero => exact ⟨.refl s, rfl⟩
  | succ fuel ih =>
      unfold Stacks.addLink
      dsimp only
      split
      · exact ⟨.refl s, rfl⟩
      · split
        · rename_i k _
          split
          · split
            · exact ⟨extends_setNode rfl, rfl⟩
            · exact ⟨.refl s, rfl⟩
          · have hfold := List.foldlRecOn (s.node new.below).links
              (fun s' x => Stacks.addLink fuel s' ((s.node i).links.getD k default).below x)
              (motive := fun s' => s.Extends s' ∧ s'.branches = s.branches) ⟨.refl s, rfl⟩
              fun s' hs' x _ => ⟨hs'.1.trans (ih s' _ x).1, (ih s' _ x).2.trans hs'.2⟩
            split
            · exact ⟨hfold.1.trans (extends_setNode rfl), hfold.2⟩
            · exact hfold
        · split
          · exact ⟨.refl s, rfl⟩
          · exact ⟨extends_setNode rfl, rfl⟩

theorem addLinks_extends (s : Stacks) (fuel : Stacks → Nat) (i : Nat) (links : List Link) :
    s.Extends (links.foldl (fun s l => addLink (fuel s) s i l) s) ∧
      (links.foldl (fun s l => addLink (fuel s) s i l) s).branches = s.branches :=
  List.foldlRecOn (motive := fun s' => s.Extends s' ∧ s'.branches = s.branches) _ _
    ⟨.refl s, rfl⟩ fun s' hs' x _ =>
      ⟨hs'.1.trans (s'.addLink_extends _ i x).1, (s'.addLink_extends _ i x).2.trans hs'.2⟩

/-- Joining a branch into an earlier one leaves the other branches before it. -/
theorem merge?_extends {i j : Nat} (h : s.merge? i j = some s') :
    s.Extends s' ∧ ∀ k, k ≠ i → k < j → s'.branches[k]? = s.branches[k]? := by
  unfold Stacks.merge? at h
  split at h
  · split at h
    · rename_i a b ha hb
      dsimp only at h
      obtain rfl := Option.some.inj h
      obtain ⟨hextends, hbranches⟩ := s.addLinks_extends (fun s => s.count + 1) a.top
        (s.topNode b).links
      refine ⟨hextends.trans ?_, fun k hki hkj => ?_⟩
      · split <;> exact .of_eq rfl rfl
      · refine (List.getElem?_eraseIdx_of_lt hkj).trans ?_
        split
        · rw [← hbranches]
          exact List.getElem?_modify_ne _ _ hki.symm
        · rw [hbranches]
    · cases h
  · cases h

/-- The branch that is put in an earlier place comes with its stack. -/
theorem top_renumber {i j : Nat} (hij : j < i) {b old b' : Branch} (hb : s.branches[i]? = some b)
    (hold : s.branches[j]? = some old) (hb' : (s.renumber i j).branches[j]? = some b') :
    b'.top = b.top := by
  unfold Stacks.renumber at hb'
  rw [hb, hold] at hb'
  dsimp only at hb'
  rw [if_neg hij.ne', List.getElem?_eraseIdx_of_lt hij,
    List.getElem?_set_self (List.getElem?_eq_some_iff.1 hold).1] at hb'
  rw [← Option.some.inj hb']

theorem node_renumber (s : Stacks) (i j k : Nat) : (s.renumber i j).node k = s.node k := by
  unfold Stacks.renumber
  split
  · split <;> rfl
  · rfl

/-! ## Unwinding -/

/-- What comes of unwinding stacks: branches after those that were there, each at the lower end of a
way down of which `P` holds, in the order of the ways. -/
structure Unwinds (s : Stacks) (P : Nat → List (Fragment × Cursor) → Prop)
    (x : Stacks × List Unwound) : Prop where
  nodes : x.1.nodes = s.nodes
  count : x.1.count = s.count
  branches : ∃ made, x.1.branches = s.branches ++ made ∧
    ∀ b ∈ made, b.standing = .active ∧ ∃ along, P b.top along
  ways : ∀ u ∈ x.2, s.branches.length ≤ u.branch ∧
    ∃ b, x.1.branches[u.branch]? = some b ∧ P b.top u.along
  sorted : x.2.Pairwise fun u v => u.branch ≤ v.branch

variable {P : Nat → List (Fragment × Cursor) → Prop} {x : Stacks × List Unwound}

theorem Unwinds.node (h : s.Unwinds P x) (i : Nat) : x.1.node i = s.node i := by
  rw [Stacks.node, Stacks.node, h.nodes, h.count]

theorem Unwinds.extended (h : s.Unwinds P x) : s.Extends x.1 := .of_eq h.nodes h.count

/-- The branches that were there are still there. -/
theorem Unwinds.branch (h : s.Unwinds P x) {i : Nat} (hi : i < s.branches.length) :
    x.1.branches[i]? = s.branches[i]? := by
  obtain ⟨made, hmade, -⟩ := h.branches
  rw [hmade, List.getElem?_append_left hi]

theorem unwinds_nil (s : Stacks) : s.Unwinds P (s, []) :=
  ⟨rfl, rfl, ⟨[], (List.append_nil _).symm, nofun⟩, nofun, .nil⟩

theorem exists_of_findIdx?_reverse {α : Type} {f : α → Bool} {l : List α} {k : Nat}
    (h : l.reverse.findIdx? f = some k) :
    ∃ front a back, l = front ++ a :: back ∧ back.length = k ∧ f a = true := by
  obtain ⟨hk, hf, -⟩ := List.findIdx?_eq_some_iff_getElem.1 h
  rw [List.length_reverse] at hk
  rw [List.getElem_reverse] at hf
  refine ⟨l.take (l.length - 1 - k), _, l.drop (l.length - 1 - k + 1), ?_, ?_, hf⟩
  · rw [List.getElem_cons_drop, List.take_append_drop]
  · rw [List.length_drop]
    omega

theorem Unwinds.keepWalk (source : Branch) {w : Walk} (h : s.Unwinds P x)
    (hw : P w.at_ w.passed) : s.Unwinds P (keepWalk source x w) := by
  obtain ⟨s', found⟩ := x
  obtain ⟨hnodes, hcount, ⟨made, hmade, hmade'⟩, hways, hsorted⟩ := h
  dsimp only at hnodes hcount hmade hways hsorted
  unfold Stacks.keepWalk
  dsimp only
  split
  · -- the walk goes after one that led to the same branch
    rename_i k hfound
    obtain ⟨front, u, back, rfl, hback, hstands⟩ := exists_of_findIdx?_reverse hfound
    have hindex : (front ++ u :: back).length - k = front.length + 1 := by
      rw [List.length_append, List.length_cons]
      omega
    have htake : (front ++ u :: back).take (front.length + 1) = front ++ [u] := by
      rw [List.append_cons]
      exact List.take_left' (List.length_append ..)
    have hdrop : (front ++ u :: back).drop (front.length + 1) = back := by
      rw [List.append_cons]
      exact List.drop_left' (List.length_append ..)
    have hget : (front ++ u :: back).getD front.length ⟨0, []⟩ = u := by
      rw [List.getD_eq_getElem?_getD, List.getElem?_append_right (Nat.le_refl _), Nat.sub_self]
      rfl
    rw [hindex, htake, hdrop, Nat.add_sub_cancel, hget, List.append_assoc, List.singleton_append]
    obtain ⟨hfront, hrest⟩ := List.forall_mem_append.1 hways
    obtain ⟨⟨hlen, b, hb, hu⟩, hback⟩ := List.forall_mem_cons.1 hrest
    rw [hb] at hstands
    have htop : b.top = w.at_ := beq_iff_eq.1 hstands
    refine ⟨hnodes, hcount, ⟨made, hmade, hmade'⟩, ?_, ?_⟩
    · exact List.forall_mem_append.2 ⟨hfront, List.forall_mem_cons.2 ⟨⟨hlen, b, hb, hu⟩,
        List.forall_mem_cons.2 ⟨⟨hlen, b, hb, htop ▸ hw⟩, hback⟩⟩⟩
    · obtain ⟨hsfront, hsrest, hacross⟩ := List.pairwise_append.1 hsorted
      obtain ⟨hsu, hsback⟩ := List.pairwise_cons.1 hsrest
      refine List.pairwise_append.2 ⟨hsfront, List.pairwise_cons.2 ⟨?_, .cons hsu hsback⟩, ?_⟩
      · exact List.forall_mem_cons.2 ⟨Nat.le_refl _, hsu⟩
      · intro v hv
        obtain ⟨hvu, hvback⟩ := List.forall_mem_cons.1 (hacross v hv)
        exact List.forall_mem_cons.2 ⟨hvu, List.forall_mem_cons.2 ⟨hvu, hvback⟩⟩
  · -- or it makes a branch of its own
    generalize hb : ({ source with top := w.at_, standing := .active, havens := none } : Branch) = b
    have hlast : (s'.branches ++ [b])[s'.branches.length]? = some b := by simp
    have hle : s.branches.length ≤ s'.branches.length := by
      rw [hmade, List.length_append]
      exact Nat.le_add_right _ _
    refine ⟨hnodes, hcount, ⟨made ++ [b], ?_, ?_⟩, ?_, ?_⟩
    · rw [hmade, List.append_assoc]
    · refine List.forall_mem_append.2 ⟨hmade', List.forall_mem_singleton.2 ?_⟩
      exact hb ▸ ⟨rfl, w.passed, hw⟩
    · refine List.forall_mem_append.2 ⟨fun u hu => ?_,
        List.forall_mem_singleton.2 ⟨hle, b, hlast, ?_⟩⟩
      · obtain ⟨hlen, b', hb', hu'⟩ := hways u hu
        exact ⟨hlen, b', List.getElem?_append_left (List.getElem?_eq_some_iff.1 hb').1 ▸ hb', hu'⟩
      · exact hb ▸ hw
    · refine List.pairwise_append.2 ⟨hsorted, List.pairwise_singleton _ _, fun u hu v hv => ?_⟩
      obtain ⟨-, b', hb', -⟩ := hways u hu
      rw [List.mem_singleton.1 hv]
      exact (List.getElem?_eq_some_iff.1 hb').1.le

/-- Walks of which `W` holds are followed to ways down of which `P` holds, if `W` holds on after
each step that is taken, and `P` of the walks that are kept. -/
theorem Unwinds.followWalks {σ : Type} {source : Branch} {look : σ → Stacks → Walk → Stop × σ}
    {fuel : Nat} {walks : List Walk} {m : σ} {W : Walk → Prop}
    (hgo : ∀ m s' w l, W w → (look m s' w).1 = .go ∨ (look m s' w).1 = .keepAndGo →
      l ∈ (s.node w.at_).links → W (w.over s l))
    (hkeep : ∀ m s' w, W w → (look m s' w).1 = .keep ∨ (look m s' w).1 = .keepAndGo →
      P w.at_ w.passed)
    (h : s.Unwinds P x) (hwalks : ∀ w ∈ walks, W w) :
    s.Unwinds P (followWalks source look fuel walks m x).1 := by
  induction fuel generalizing walks m x with
  | zero => exact h
  | succ fuel ih =>
      unfold Stacks.followWalks
      split
      · exact h
      · dsimp only
        generalize hfold : walks.foldl _ (([], [], walks.length), m, x) = acc
        have hacc : (∀ w ∈ acc.1.1, W w) ∧ (∀ w ∈ acc.1.2.1, W w) ∧ s.Unwinds P acc.2.2 := by
          rw [← hfold]
          refine List.foldlRecOn (motive := fun acc : (List Walk × List Walk × Nat) × σ ×
            Stacks × List Unwound => (∀ w ∈ acc.1.1, W w) ∧ (∀ w ∈ acc.1.2.1, W w) ∧
              s.Unwinds P acc.2.2) _ _ ⟨nofun, nofun, h⟩ ?_
          rintro ⟨⟨old, new, running⟩, m, sofar⟩ ⟨hold, hnew, hsofar⟩ w hw
          have hW := hwalks w hw
          have hover : w.over sofar.1 = w.over s := by
            unfold Walk.over
            rw [hsofar.node]
          have hgo' := fun m' l => hgo m' sofar.1 w l hW
          have hkeep' := fun m' hlook => hsofar.keepWalk source (hkeep m' sofar.1 w hW hlook)
          dsimp only
          rw [hsofar.node, hover]
          generalize (s.node w.at_).links = links at hgo' ⊢
          -- a walk that goes on does so over the first link, and new ones start over the others
          have hfirst : ∀ first others, links = first :: others →
              (look m sofar.1 w).1 = .go ∨ (look m sofar.1 w).1 = .keepAndGo →
              ∀ w' ∈ old ++ [w.over s first], W w' := by
            rintro first others rfl hlook
            exact List.forall_mem_append.2 ⟨hold, List.forall_mem_singleton.2
              (hgo' m first hlook List.mem_cons_self)⟩
          have hothers : ∀ first others n, links = first :: others →
              (look m sofar.1 w).1 = .go ∨ (look m sofar.1 w).1 = .keepAndGo →
              ∀ w' ∈ new ++ (others.take n).map (w.over s), W w' := by
            rintro first others n rfl hlook
            refine List.forall_mem_append.2 ⟨hnew, List.forall_mem_map.2 fun l hl => ?_⟩
            exact hgo' m l hlook (List.mem_cons_of_mem _ (List.mem_of_mem_take hl))
          have hkept := hkeep' m
          generalize look m sofar.1 w = looked at hfirst hothers hkept ⊢
          obtain ⟨stop, m'⟩ := looked
          cases stop with
          | keep => exact ⟨hold, hnew, hkept (.inl rfl)⟩
          | drop => exact ⟨hold, hnew, hsofar⟩
          | go =>
              cases links with
              | nil => exact ⟨hold, hnew, hsofar⟩
              | cons first others =>
                  exact ⟨hfirst _ _ rfl (.inl rfl), hothers _ _ _ rfl (.inl rfl), hsofar⟩
          | keepAndGo =>
              cases links with
              | nil => exact ⟨hold, hnew, hkept (.inr rfl)⟩
              | cons first others =>
                  exact ⟨hfirst _ _ rfl (.inr rfl), hothers _ _ _ rfl (.inr rfl),
                    hkept (.inr rfl)⟩
        obtain ⟨hold, hnew, hsofar⟩ := hacc
        exact ih hsofar (List.forall_mem_append.2 ⟨hold, hnew⟩)

/-- Unwinding a branch follows the one walk that starts at its top. -/
theorem unwinds {σ : Type} (s : Stacks) (i : Nat) {look : σ → Stacks → Walk → Stop × σ} (m : σ)
    {W : Walk → Prop} (hstart : ∀ b, s.branches[i]? = some b → W ⟨b.top, [], 0⟩)
    (hgo : ∀ m s' w l, W w → (look m s' w).1 = .go ∨ (look m s' w).1 = .keepAndGo →
      l ∈ (s.node w.at_).links → W (w.over s l))
    (hkeep : ∀ m s' w, W w → (look m s' w).1 = .keep ∨ (look m s' w).1 = .keepAndGo →
      P w.at_ w.passed) :
    s.Unwinds P (s.unwind i look m).1 := by
  unfold Stacks.unwind
  split
  · exact unwinds_nil s
  · rename_i b hb
    exact (unwinds_nil s).followWalks hgo hkeep (List.forall_mem_singleton.2 (hstart b hb))

/-! ## Phrases -/

theorem pushAll_extends (s : Stacks) (i state : Nat) (fs : List (Fragment × Cursor)) :
    s.Extends (s.pushAll i state fs) ∧
      ∀ k, k ≠ i → (s.pushAll i state fs).branches[k]? = s.branches[k]? :=
  List.foldlRecOn (motive := fun s' => s.Extends s' ∧ ∀ k, k ≠ i → s'.branches[k]? = s.branches[k]?)
    _ _ ⟨.refl s, fun _ _ => rfl⟩ fun _ hs' _ _ =>
      ⟨hs'.1.trans (extends_push _ _ _ _ _), fun k hk =>
        (branches_push hk _ _ _).trans (hs'.2 k hk)⟩

theorem mergeInto?_extends {except i : Nat} (h : s.mergeInto? except i = some s') :
    s.Extends s' ∧ (except < i → s'.branches[except]? = s.branches[except]?) := by
  obtain ⟨j, -, hj⟩ := List.exists_of_findSome?_eq_some h
  split at hj
  · cases hj
  · rename_i hne
    obtain ⟨hextends, hbranches⟩ := merge?_extends hj
    exact ⟨hextends, hbranches except (Ne.symm hne)⟩

theorem extends_remove (s : Stacks) (i : Nat) : s.Extends (s.remove i) := .of_eq rfl rfl

theorem branches_remove {i k : Nat} (hk : k < i) : (s.remove i).branches[k]? = s.branches[k]? :=
  List.getElem?_eraseIdx_of_lt hk

/-- Of ways down in the order of their branches, those past the first group are of later
branches. -/
theorem lt_of_mem_drop {us : List Unwound} {n : Nat} (hle : ∀ u ∈ us, n ≤ u.branch)
    (hsorted : us.Pairwise fun u v => u.branch ≤ v.branch) :
    ∀ u ∈ us.drop (us.takeWhile (·.branch == n)).length, n < u.branch := by
  induction us with
  | nil => exact nofun
  | cons u us ih =>
      obtain ⟨hu, hle⟩ := List.forall_mem_cons.1 hle
      obtain ⟨hfirst, hsorted⟩ := List.pairwise_cons.1 hsorted
      rw [List.takeWhile_cons]
      split
      · exact ih hle hsorted
      · rename_i hne
        have hlt : n < u.branch := Nat.lt_of_le_of_ne hu fun h => hne (beq_iff_eq.2 h.symm)
        exact List.forall_mem_cons.2 ⟨hlt, fun v hv => hlt.trans_le (hfirst v hv)⟩

/-- Phrases on later branches leave the branch `i`. -/
theorem pushPhrases_extends {i symbol shape fuel removed : Nat} {weight : Int} {us : List Unwound}
    (hus : ∀ u ∈ us, i + removed < u.branch)
    (hsorted : us.Pairwise fun u v => u.branch ≤ v.branch) :
    s.Extends (pushPhrases i symbol shape weight fuel s removed us) ∧
      (pushPhrases i symbol shape weight fuel s removed us).branches[i]? = s.branches[i]? := by
  induction fuel generalizing s removed us with
  | zero => exact ⟨.refl s, rfl⟩
  | succ fuel ih =>
      cases us with
      | nil => exact ⟨.refl s, rfl⟩
      | cons u us =>
          have hu := hus u List.mem_cons_self
          obtain ⟨hle, hsorted⟩ := List.pairwise_cons.1 hsorted
          have hlater := lt_of_mem_drop hle hsorted
          unfold Stacks.pushPhrases
          dsimp only
          have hsorted' := hsorted.sublist
            (List.drop_sublist (us.takeWhile (·.branch == u.branch)).length us)
          generalize us.drop (us.takeWhile (·.branch == u.branch)).length = others
            at hlater hsorted' ⊢
          have hothers : ∀ v ∈ others, i + removed < v.branch := fun v hv => hu.trans (hlater v hv)
          have hnext : ∀ v ∈ others, i + (removed + 1) < v.branch := by
            intro v hv
            have hlt := hlater v hv
            omega
          have hi : i < u.branch - removed := by omega
          split
          · obtain ⟨hextends, hbranch⟩ := ih (s := s.remove (u.branch - removed)) hnext hsorted'
            exact ⟨(extends_remove s _).trans hextends, hbranch.trans (branches_remove hi)⟩
          · split
            · exact ⟨.refl s, rfl⟩
            · have hpushed : ∀ (whole : Option Fragment) (after : Cursor) (state : Nat)
                  (extras : List (Fragment × Cursor)), s.Extends
                    ((s.push (u.branch - removed) whole after state).pushAll (u.branch - removed)
                      state extras) ∧
                  ((s.push (u.branch - removed) whole after state).pushAll (u.branch - removed)
                      state extras).branches[i]? = s.branches[i]? := by
                intro whole after state extras
                obtain ⟨hextends, hbranches⟩ :=
                  (s.push (u.branch - removed) whole after state).pushAll_extends
                    (u.branch - removed) state extras
                exact ⟨(extends_push _ _ _ _ _).trans hextends,
                  (hbranches i hi.ne).trans (branches_push hi.ne _ _ _)⟩
              split
              · rename_i s' hs'
                obtain ⟨hmerged, hkept⟩ := mergeInto?_extends hs'
                obtain ⟨hextends, hbranch⟩ := ih (s := s') hnext hsorted'
                obtain ⟨hpush, hpush'⟩ := hpushed _ _ _ _
                exact ⟨(hpush.trans hmerged).trans hextends,
                  hbranch.trans ((hkept hi).trans hpush')⟩
              · obtain ⟨hpush, hpush'⟩ := hpushed _ _ _ _
                obtain ⟨hextends, hbranch⟩ := ih hothers hsorted'
                exact ⟨hpush.trans hextends, hbranch.trans hpush'⟩

/-- Phrases are made on new branches. -/
theorem reduce_extends (s : Stacks) (i : Nat) (r : Reduction) :
    s.Extends (s.reduce i r).1 ∧ (s.reduce i r).1.branches[i]? = s.branches[i]? := by
  have hunwinds : s.Unwinds (fun _ _ => True) (s.popCount i r.size) :=
    s.unwinds (W := fun _ => True) i () (fun _ _ => trivial) (fun _ _ _ _ _ _ _ => trivial)
      fun _ _ _ _ _ => trivial
  unfold Stacks.reduce
  dsimp only
  cases hb : s.branches[i]? with
  | none =>
      have hpop : s.popCount i r.size = (s, []) := by
        unfold Stacks.popCount Stacks.unwind
        rw [hb]
      rw [hpop]
      exact ⟨.refl s, hb⟩
  | some b =>
      have hi : i < s.branches.length := (List.getElem?_eq_some_iff.1 hb).1
      have hlater : ∀ u ∈ (s.popCount i r.size).2, i + 0 < u.branch := fun u hu =>
        hi.trans_le (hunwinds.ways u hu).1
      exact ⟨hunwinds.extended.trans (pushPhrases_extends hlater hunwinds.sorted).1,
        (pushPhrases_extends hlater hunwinds.sorted).2.trans ((hunwinds.branch hi).trans hb)⟩

end CellScript.Python.Stacks
