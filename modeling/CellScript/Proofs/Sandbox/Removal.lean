import Mathlib.Data.List.Infix
import CellScript.Proofs.Sandbox.Numbers

set_option autoImplicit false

/-! # A scope leaves no trace

What is done inside a scope can be left out of a run: from where the scope is left on, the run goes
as if it had not been entered, with other numbers for the modules that are made later
(`rest_of_scope`). `scopes_leave_no_trace` puts this together with what the entries of a run say
about its scopes. -/

namespace CellScript.Sandbox

/-- The operations keep a scope open that is entered before them. -/
def StaysOpen (s : Session) (inside : List Operation) : Prop :=
  ∀ p, p <+: inside → s.depth < (s.steps (.enter :: p)).1.depth

instance (s : Session) (inside : List Operation) : Decidable (StaysOpen s inside) :=
  decidable_of_iff (∀ p ∈ inside.inits, s.depth < (s.steps (.enter :: p)).1.depth)
    (by simp only [StaysOpen, List.mem_inits])

/-- The part of an operation that leaves scopes of `s`, after it has left `k` scopes above them. -/
def Operation.beyond (k : Nat) (s : Session) (o : Operation) : List Operation :=
  List.replicate (min (o.levels - k) s.depth) (.unwind 1)

namespace Session

/-- The entries from a session on: those of some operations and those of the end. -/
def rest (s : Session) (os : List Operation) : List Entry :=
  (s.steps os).2 ++ (s.steps os).1.finish

theorem rest_append (s : Session) (os os' : List Operation) :
    s.rest (os ++ os') = (s.steps os).2 ++ (s.steps os).1.rest os' := by
  simp only [rest, steps_append, List.append_assoc]

theorem rest_skip {base d : Nat} {s : Session} (h : base ≤ s.modules) (os : List Operation) :
    (s.skip base d).rest os = (s.rest os).map (Entry.renumber (Sandbox.skip base d)) := by
  simp only [rest, steps_skip h, finish_skip, List.map_append]

/-! ## What is saved while a scope is open -/

theorem steps_concat (s : Session) (os : List Operation) (o : Operation) :
    s.steps (os ++ [o]) =
      (((s.steps os).1.step o).1, (s.steps os).2 ++ ((s.steps os).1.step o).2) := by
  rw [steps_append]
  simp only [steps, List.append_nil]

/-- An operation keeps what is saved at the bottom, unless it leaves fewer scopes open. -/
theorem suffix_step {s : Session} {below : List Namespace} (h : below <:+ s.saved) (o : Operation)
    (hdepth : below.length ≤ (s.step o).1.depth) : below <:+ (s.step o).1.saved := by
  cases s.outcome o with
  | plain t a step saved =>
      rw [step]
      exact saved ▸ h
  | enter step =>
      rw [step]
      exact h.trans (List.suffix_cons _ _)
  | leave a step =>
      rw [step, depth, saved_leaveMany] at hdepth
      rw [step, saved_leaveMany]
      exact List.suffix_of_suffix_length_le h (List.drop_suffix _ _) hdepth

/-- While a scope is open, the namespace it was entered with is saved, above those saved before. -/
theorem suffix_of_staysOpen {s : Session} {inside : List Operation} (h : StaysOpen s inside) :
    s.current :: s.saved <:+ (s.steps (.enter :: inside)).1.saved := by
  induction inside using List.reverseRecOn with
  | nil => exact List.suffix_rfl
  | append_singleton os o ih =>
      have hos := ih fun p hp => h p (hp.trans (List.prefix_append os [o]))
      have hdepth := h (os ++ [o]) (List.prefix_refl _)
      rw [← List.cons_append, steps_concat] at hdepth ⊢
      exact suffix_step hos o hdepth

/-! ## Leaving -/

theorem leaveMany_add (a : Answer) (m n : Nat) (s : Session) :
    leaveMany a (m + n) s =
      ((leaveMany a n (leaveMany a m s).1).1,
        (leaveMany a m s).2 ++ (leaveMany a n (leaveMany a m s).1).2) := by
  induction m generalizing s with
  | zero => rw [Nat.zero_add]; rfl
  | succ m ih =>
      cases hs : s.saved with
      | nil => simp only [leaveMany_of_nil a _ hs, List.append_nil]
      | cons ns below =>
          rw [Nat.add_right_comm, leaveMany_of_cons a (m + n) hs, leaveMany_of_cons a m hs, ih]
          rfl

/-- Leaving the scopes above a saved namespace and the one that saved it puts it back. -/
theorem leaveMany_of_append (a : Answer) {s : Session} {ns : Namespace}
    {above below : List Namespace} (h : s.saved = above ++ ns :: below) :
    (leaveMany a (above.length + 1) s).1 = { s with current := ns, saved := below } ∧
      (leaveMany a (above.length + 1) s).2.length = above.length + 1 := by
  induction above generalizing s with
  | nil =>
      rw [leaveMany_of_cons a _ h]
      exact ⟨rfl, rfl⟩
  | cons ns' above ih =>
      rw [leaveMany_of_cons a _ (show s.saved = ns' :: (above ++ ns :: below) from h)]
      obtain ⟨hs, hlength⟩ := @ih { s with current := ns', saved := above ++ ns :: below } rfl
      exact ⟨hs, congrArg (· + 1) hlength⟩

theorem leaveMany_min (a : Answer) (n : Nat) (s : Session) :
    leaveMany a (min n s.depth) s = leaveMany a n s := by
  rcases Nat.le_total n s.depth with h | h
  · rw [Nat.min_eq_left h]
  · -- once every scope is left, nothing more happens
    obtain ⟨m, rfl⟩ := Nat.exists_eq_add_of_le h
    have hnil : (leaveMany a s.depth s).1.saved = [] := by
      rw [saved_leaveMany, depth, List.drop_length]
    rw [Nat.min_eq_right h, leaveMany_add, leaveMany_of_nil a m hnil, List.append_nil]

/-- To be thrown out of scopes is to be thrown out of one after the other. -/
theorem steps_unwind {n : Nat} {s : Session} (h : n ≤ s.depth) :
    s.steps (List.replicate n (.unwind 1)) = leaveMany .unwound n s := by
  induction n generalizing s with
  | zero => rfl
  | succ n ih =>
      cases hs : s.saved with
      | nil =>
          rw [depth, hs] at h
          exact absurd h (Nat.not_succ_le_zero n)
      | cons ns below =>
          have hstep : s.step (.unwind 1) = leaveMany .unwound 1 s := by
            simp only [step, hs]
            rfl
          have hdepth : n ≤ below.length := by
            rw [depth, hs] at h
            exact Nat.le_of_succ_le_succ h
          rw [List.replicate_succ, steps, hstep, leaveMany_of_cons _ n hs, leaveMany_of_cons _ 0 hs]
          simp only [leaveMany, @ih { s with current := ns, saved := below } hdepth]
          rfl

end Session

/-! ## Leaving a scope out -/

namespace Session

/-- What leaving scopes does beyond the scope that was entered last is what it does without it. -/
theorem steps_beyond {o : Operation} {a : Answer} (h : a = .unwound ∨ o.levels = 1) {k r : Nat}
    (hlevels : o.levels = k + 1 + r) (s : Session) :
    s.steps (o.beyond (k + 1) s) = leaveMany a r s := by
  rw [Operation.beyond, steps_unwind (Nat.min_le_right _ _), leaveMany_min, hlevels,
    Nat.add_sub_cancel_left]
  rcases h with rfl | h
  · rfl
  · obtain rfl : r = 0 := by omega
    rfl

/-- Where the scope is left that was entered in a session, the session is as it was, but for the
number of modules. -/
theorem leaveMany_eq_skip {s t : Session} (hs : s.Numbered) {above : List Namespace}
    (ht : t.saved = above ++ s.current :: s.saved) (hmodules : s.modules ≤ t.modules) (a : Answer) :
    (leaveMany a (above.length + 1) t).1 = s.skip s.modules (t.modules - s.modules) := by
  have hcurrent := Namespace.renumber_skip_of_below hs.current (t.modules - s.modules)
  have hsaved : s.saved.map (Namespace.renumber (Sandbox.skip s.modules (t.modules - s.modules))) =
      s.saved := by
    rw [List.map_congr_left (g := id), List.map_id]
    exact fun ns hns => Namespace.renumber_skip_of_below (hs.saved hns) _
  rw [(leaveMany_of_append a ht).1, skip, hcurrent, hsaved, Nat.add_sub_cancel' hmodules]

theorem le_modules_steps (s : Session) (os : List Operation) : s.modules ≤ (s.steps os).1.modules := by
  induction os generalizing s with
  | nil => exact Nat.le_refl _
  | cons o os ih => exact Nat.le_trans (s.le_modules_step o) (ih _)

/-- From where a scope is left on, a run goes as if it had not been entered; of an operation that
leaves more scopes, that part is carried out. -/
theorem rest_of_scope {s : Session} (hs : s.Numbered) {inside : List Operation} {o : Operation}
    (hinside : StaysOpen s inside)
    (hleaves : ((s.steps (.enter :: inside)).1.step o).1.depth ≤ s.depth) (after : List Operation) :
    let t := (s.steps (.enter :: inside)).1
    let k := t.depth - s.depth
    s.rest (.enter :: (inside ++ o :: after)) =
      (s.steps (.enter :: inside)).2 ++ ((t.step o).2.take k ++
        (s.rest (o.beyond k s ++ after)).map
          (Entry.renumber (Sandbox.skip s.modules (t.modules - s.modules)))) := by
  intro t k
  obtain ⟨above, hsaved⟩ := suffix_of_staysOpen hinside
  have ht : t.saved = above ++ s.current :: s.saved := hsaved.symm
  have hk : k = above.length + 1 := by
    simp only [k, depth, ht, List.length_append, List.length_cons]
    omega
  have hdeeper : s.depth < t.depth := hinside inside (List.prefix_refl _)
  have hmodules : s.modules ≤ t.modules := s.le_modules_steps _
  have hleft : (t.step o).1.depth ≤ s.depth := hleaves
  cases t.outcome o with
  | plain u a step saved =>
      have hdepth : (t.step o).1.depth = t.depth := by
        rw [step]
        exact congrArg List.length saved
      omega
  | enter step =>
      have hdepth : (t.step o).1.depth = t.depth + 1 := by
        rw [step]
        rfl
      omega
  | leave a step leaves unwinds =>
      rw [step, depth, saved_leaveMany, List.length_drop] at hleft
      have hlevels : k ≤ o.levels := by
        simp only [k, depth] at hleft ⊢
        omega
      obtain ⟨r, hr⟩ := Nat.exists_eq_add_of_le hlevels
      rw [hk] at hr ⊢
      obtain ⟨-, hlength⟩ := leaveMany_of_append a ht
      have hsplit : s.rest (.enter :: (inside ++ o :: after)) =
          (s.steps (.enter :: inside)).2 ++ ((t.step o).2 ++ (t.step o).1.rest after) := by
        rw [show Operation.enter :: (inside ++ o :: after) = (.enter :: inside) ++ ([o] ++ after) by
          rfl, rest_append, rest_append]
        simp only [steps, List.append_nil, t]
      rw [hsplit, rest_append, steps_beyond unwinds hr, step, hr, leaveMany_add,
        leaveMany_eq_skip hs ht hmodules, leaveMany_skip leaves, List.take_left' hlength,
        rest_skip (by rw [modules_leaveMany]), List.map_append, List.append_assoc]

/-- How many modules were made makes no difference to leaving scopes. -/
theorem leaveMany_modules (a : Answer) (n m : Nat) (s : Session) :
    leaveMany a n { s with modules := m } =
      ({ (leaveMany a n s).1 with modules := m }, (leaveMany a n s).2) := by
  induction n generalizing s with
  | zero => rfl
  | succ n ih =>
      obtain ⟨current, saved, modules⟩ := s
      cases saved with
      | nil => rfl
      | cons ns below =>
          have hrest := ih ⟨ns, below, modules⟩
          rw [leaveMany_of_cons a n rfl, leaveMany_of_cons a n rfl, hrest]

/-- A scope that is still open at the end of a run is left there, and then the run ends as if it had
not been entered. -/
theorem rest_of_openScope {s : Session} {inside : List Operation} (hinside : StaysOpen s inside) :
    let t := (s.steps (.enter :: inside)).1
    s.rest (.enter :: inside) = (s.steps (.enter :: inside)).2 ++
      ((leaveMany .left (t.depth - s.depth) t).2 ++ s.rest []) := by
  intro t
  obtain ⟨above, hsaved⟩ := suffix_of_staysOpen hinside
  have ht : t.saved = above ++ s.current :: s.saved := hsaved.symm
  have hk : t.depth - s.depth = above.length + 1 := by
    simp only [depth, ht, List.length_append, List.length_cons]
    omega
  have hlength : t.saved.length = (above.length + 1) + s.saved.length := by
    simp only [ht, List.length_append, List.length_cons]
    omega
  have hfinish : t.finish = (leaveMany .left (above.length + 1) t).2 ++ s.finish := by
    have hback := (leaveMany_of_append .left ht).1
    have hrest := leaveMany_modules .left s.saved.length t.modules s
    have hall := leaveMany_add .left (above.length + 1) s.saved.length t
    rw [← hlength, hback, hrest] at hall
    rw [finish, hall]
    exact List.append_assoc _ _ _
  rw [hk, rest]
  exact congrArg (_ ++ ·) hfinish

end Session

/-- **Scopes leave no trace.** In the entries of a run every scope that is entered is left, every
scope that is left was entered, and where it is left the namespace is the one it was entered with.
Without what is done inside a scope, from its entering to its leaving, a run has the same entries
before it and, with other numbers for the modules made after it, the same entries from then on. -/
theorem scopes_leave_no_trace :
    (∀ os, (∀ sc : Scope (run os), sc.closed.bindings = sc.opened.bindings) ∧
      (∀ before e rest, run os = before ++ e :: rest → e.answer = .entered →
        ∃ sc : Scope (run os), sc.before = before ∧ sc.opened = e) ∧
      ∀ front e rest, run os = front ++ e :: rest → e.answer.Leaves →
        ∃ sc : Scope (run os), sc.closed = e ∧ sc.after = rest) ∧
    ∀ before inside,
      let s := (Session.steps {} before).1
      let first := (Session.steps {} before).2
      let t := (s.steps (.enter :: inside)).1
      let there := (s.steps (.enter :: inside)).2
      StaysOpen s inside →
        -- the scope is left by an operation, which may leave more scopes than this one
        (∀ o after, (t.step o).1.depth ≤ s.depth →
          let later := s.rest (o.beyond (t.depth - s.depth) s ++ after)
          run (before ++ (o.beyond (t.depth - s.depth) s ++ after)) = first ++ later ∧
          run (before ++ .enter :: (inside ++ o :: after)) =
            first ++ (there ++ ((t.step o).2.take (t.depth - s.depth) ++
              later.map (Entry.renumber (skip s.modules (t.modules - s.modules)))))) ∧
        -- the scope is left at the end of the run
        ∃ leaving, run before = first ++ s.finish ∧
          run (before ++ .enter :: inside) = first ++ (there ++ (leaving ++ s.finish)) := by
  refine ⟨fun os => ⟨fun sc => sc.bindings_eq (follows_run os), ?_, ?_⟩, ?_⟩
  · intro before e rest hes he
    exact exists_scope_of_entered (follows_run os) hes he
  · intro front e rest hes he
    exact exists_scope_of_leaves (follows_run os) hes he
  · intro before inside s first t there hinside
    have hs : s.Numbered := Session.numbered_empty.steps before
    refine ⟨fun o after hleaves => ⟨Session.rest_append {} before _, ?_⟩,
      (Session.leaveMany .left (t.depth - s.depth) t).2, rfl, ?_⟩
    · rw [← Session.rest_of_scope hs hinside hleaves after]
      exact Session.rest_append {} before _
    · exact (Session.rest_append {} before _).trans
        (congrArg (first ++ ·) (Session.rest_of_openScope hinside))

/-- A value, a module, and a scope over both. -/
def outerScope : List Operation :=
  [.set ['x'] (.int 1), .bindModule ['o', 's'] ['o', 's'], .enter]

/-- In a scope: a name goes, and in a scope inside it a module replaces another. -/
def innerScopes : List Operation :=
  [.remove ['x'], .enter, .bindModule ['o', 's'] ['i', 'o']]

/-- Being thrown out of all three scopes at once is being thrown out of the outer one. -/
theorem scopes_leave_no_trace_unwound :
    let s := (Session.steps {} outerScope).1
    let t := (s.steps (.enter :: innerScopes)).1
    let after : List Operation := [.bindModule ['i', 'o'] ['i', 'o'], .get ['o', 's']]
    StaysOpen s innerScopes ∧ ((t.step (.unwind 3)).1.depth ≤ s.depth) ∧
      Operation.beyond (t.depth - s.depth) s (.unwind 3) = [.unwind 1] ∧
      run (outerScope ++ .enter :: (innerScopes ++ .unwind 3 :: after)) =
        (Session.steps {} outerScope).2 ++ ((s.steps (.enter :: innerScopes)).2 ++
          ((t.step (.unwind 3)).2.take 2 ++
            (s.rest (.unwind 1 :: after)).map (Entry.renumber (skip 1 1)))) := by
  intro s t after
  have hopen : StaysOpen s innerScopes := by decide
  have hleaves : (t.step (.unwind 3)).1.depth ≤ s.depth := by decide
  exact ⟨hopen, hleaves, rfl, ((scopes_leave_no_trace.2 _ _ hopen).1 _ after hleaves).2⟩

end CellScript.Sandbox
