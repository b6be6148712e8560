import CellScript.Proofs.Sandbox.Scopes
import CellScript.Proofs.Text.Table

set_option autoImplicit false

/-! # The numbers of modules

A module is known by its number, and a new one gets a number that no binding has, `Numbered`. So the
numbers can be changed all over a session without anything else changing: `Session.skip` makes room
for modules that were made in between, and operations do the same before and after, `steps_skip`. -/

namespace CellScript.Sandbox

/-! ## Numbers are those of modules that were made -/

/-- Every module of a namespace has a number below a bound. -/
def Namespace.Below (bound : Nat) (ns : Namespace) : Prop :=
  ∀ name moduleName number, (name, Binding.module moduleName number) ∈ ns → number < bound

theorem Namespace.Below.mono {bound bound' : Nat} {ns : Namespace} (h : ns.Below bound)
    (hb : bound ≤ bound') : ns.Below bound' :=
  fun name moduleName number hm => Nat.lt_of_lt_of_le (h name moduleName number hm) hb

theorem Namespace.Below.insert {bound : Nat} {ns : Namespace} (h : ns.Below bound) (name : Text)
    {b : Binding} (hb : ∀ moduleName number, b = .module moduleName number → number < bound) :
    Namespace.Below bound (Table.insert name b ns) := by
  intro name' moduleName number hm
  rcases Table.mem_insert hm with heq | hm
  · exact hb _ _ (Prod.mk.inj heq).2.symm
  · exact h _ _ _ hm

namespace Session

/-- The modules that names are bound to, in the session and in its open scopes, have been made. -/
def Numbered (s : Session) : Prop := ∀ ns ∈ s.current :: s.saved, ns.Below s.modules

theorem numbered_empty : Numbered {} := by
  simp [Numbered, Namespace.Below]

variable {s : Session}

theorem Numbered.current (h : s.Numbered) : s.current.Below s.modules := h _ List.mem_cons_self

theorem Numbered.saved (h : s.Numbered) {ns : Namespace} (hns : ns ∈ s.saved) :
    ns.Below s.modules :=
  h _ (List.mem_cons_of_mem _ hns)

/-- A session stays numbered if its namespace changes to a numbered one. -/
theorem Numbered.change (h : s.Numbered) {ns : Namespace} {m : Nat} (hm : s.modules ≤ m)
    (hns : ns.Below m) : Numbered { s with current := ns, modules := m } := by
  intro ns' hns'
  rcases List.mem_cons.1 hns' with rfl | hns'
  · exact hns
  · exact (h.saved hns').mono hm

theorem Numbered.bind (h : s.Numbered) (name : Text) {b : Binding}
    (hb : ∀ moduleName number, b = .module moduleName number → number < s.modules) :
    (s.bind name b).Numbered :=
  h.change (Nat.le_refl _) (h.current.insert name hb)

theorem Numbered.leave (h : s.Numbered) {ns : Namespace} {below : List Namespace}
    (hs : s.saved = ns :: below) : Numbered { s with current := ns, saved := below } := by
  intro ns' hns'
  refine h.saved ?_
  rw [hs]
  exact hns'

theorem Numbered.leaveMany (h : s.Numbered) (a : Answer) (n : Nat) :
    (leaveMany a n s).1.Numbered := by
  induction n generalizing s with
  | zero => exact h
  | succ n ih =>
      cases hs : s.saved with
      | nil =>
          rw [leaveMany_of_nil a _ hs]
          exact h
      | cons ns below =>
          rw [leaveMany_of_cons a n hs]
          exact ih (h.leave hs)

/-- Every operation keeps a session numbered. -/
theorem Numbered.step (h : s.Numbered) (o : Operation) : (s.step o).1.Numbered := by
  match o with
  | .set name v => exact h.bind name (by simp)
  | .bindModule name moduleName =>
      refine h.change (Nat.le_succ _) ?_
      refine (h.current.mono (Nat.le_succ _)).insert name fun _ number heq => ?_
      cases heq
      exact Nat.lt_succ_self _
  | .alias name source =>
      rw [Session.step]
      cases hb : s.current.get? source with
      | none => exact h
      | some b =>
          refine h.bind name fun moduleName number heq => ?_
          rw [heq] at hb
          exact h.current _ _ _ (Table.mem_of_get? hb)
  | .remove name =>
      exact h.change (Nat.le_refl _) fun _ _ _ hm => h.current _ _ _ (List.mem_filter.1 hm).1
  | .get _ | .contains _ => exact h
  | .push name v =>
      rw [Session.step]
      split
      · exact h
      · exact h.bind name (by simp)
  | .put name key v =>
      rw [Session.step]
      split
      · exact h
      · exact h.bind name (by simp)
  | .enter =>
      intro ns hns
      rcases List.mem_cons.1 hns with rfl | hns
      · exact h.current
      · exact h _ hns
  | .leave =>
      cases hs : s.saved with
      | nil =>
          rw [Session.step, leave?, hs]
          exact h
      | cons ns below =>
          rw [Session.step, leave?_of_cons hs]
          exact h.leave hs
  | .unwind levels =>
      rw [Session.step]
      split
      · exact h
      · exact h.leaveMany _ _

theorem Numbered.steps (h : s.Numbered) (os : List Operation) : (s.steps os).1.Numbered := by
  induction os generalizing s with
  | nil => exact h
  | cons o os ih => exact ih (h.step o)

end Session

/-! ## Changing the numbers -/

/-- Room for `d` numbers from `base` on: the numbers below it stay, the others move up. -/
def skip (base d n : Nat) : Nat := if n < base then n else n + d

/-- A binding with the numbers of modules changed. -/
def Binding.renumber (f : Nat → Nat) : Binding → Binding
  | value v => value v
  | module name number => module name (f number)

/-- A namespace with the numbers of modules changed. -/
def Namespace.renumber (f : Nat → Nat) (ns : Namespace) : Namespace :=
  Table.mapValues (Binding.renumber f) ns

/-- An answer with the numbers of modules changed. -/
def Answer.renumber (f : Nat → Nat) : Answer → Answer
  | binding b => binding (b.map (Binding.renumber f))
  | a => a

/-- An entry with the numbers of modules changed. -/
def Entry.renumber (f : Nat → Nat) (e : Entry) : Entry :=
  ⟨e.answer.renumber f, e.depth, Namespace.renumber f e.bindings⟩

namespace Namespace

variable {f : Nat → Nat} (ns : Namespace) (name : Text)

theorem get?_renumber :
    Table.get? name (renumber f ns) = (Table.get? name ns).map (Binding.renumber f) :=
  Table.get?_mapValues _ name ns

theorem elements?_renumber : elements? name (renumber f ns) = elements? name ns := by
  rw [elements?, get?_renumber, elements?]
  rcases Table.get? name ns with _ | ⟨v⟩ | _ <;> rfl

theorem fields?_renumber : fields? name (renumber f ns) = fields? name ns := by
  rw [fields?, get?_renumber, fields?]
  rcases Table.get? name ns with _ | ⟨v⟩ | _ <;> rfl

theorem renumber_skip_of_below {ns : Namespace} {base : Nat} (h : ns.Below base) (d : Nat) :
    renumber (Sandbox.skip base d) ns = ns := by
  refine Table.mapValues_eq_self fun f hf => ?_
  obtain ⟨name, b⟩ := f
  cases b with
  | value v => rfl
  | module moduleName number =>
      rw [Binding.renumber, Sandbox.skip, if_pos (h _ _ _ hf)]

end Namespace

namespace Session

/-- A session in which `d` modules were made in between, when `base` had been made. -/
def skip (base d : Nat) (s : Session) : Session :=
  ⟨Namespace.renumber (Sandbox.skip base d) s.current,
    s.saved.map (Namespace.renumber (Sandbox.skip base d)), s.modules + d⟩

variable {base d : Nat} {s : Session}

theorem entry_skip (t : Session) (a : Answer) :
    (t.skip base d).entry (a.renumber (Sandbox.skip base d)) =
      (t.entry a).renumber (Sandbox.skip base d) := by
  simp [entry, skip, Entry.renumber]

theorem bind_skip (name : Text) (b : Binding) :
    (s.skip base d).bind name (b.renumber (Sandbox.skip base d)) = (s.bind name b).skip base d := by
  simp only [bind, skip, Namespace.renumber, Table.insert_mapValues]

theorem leaveMany_skip {a : Answer} (ha : a.Leaves) (n : Nat) :
    leaveMany a n (s.skip base d) =
      ((leaveMany a n s).1.skip base d,
        (leaveMany a n s).2.map (Entry.renumber (Sandbox.skip base d))) := by
  induction n generalizing s with
  | zero => rfl
  | succ n ih =>
      cases hs : s.saved with
      | nil =>
          rw [leaveMany_of_nil a _ hs, leaveMany_of_nil a _ (by rw [skip, hs]; rfl)]
          rfl
      | cons ns below =>
          have hskip : (s.skip base d).saved =
              Namespace.renumber (Sandbox.skip base d) ns ::
                below.map (Namespace.renumber (Sandbox.skip base d)) := by rw [skip, hs]; rfl
          have hanswer : a.renumber (Sandbox.skip base d) = a := by
            cases a <;> first | rfl | cases ha
          have hrest : leaveMany a n ⟨Namespace.renumber (Sandbox.skip base d) ns,
              below.map (Namespace.renumber (Sandbox.skip base d)), s.modules + d⟩ = _ :=
            @ih { s with current := ns, saved := below }
          rw [leaveMany_of_cons a n hs, leaveMany_of_cons a n hskip]
          simp only [skip, hrest, List.map_cons, Entry.renumber, hanswer, List.length_map]

/-- What is shown after a change is what is shown after the same change with the numbers changed.
-/
theorem answering_skip_of_eq {t t' : Session} (ht : t' = t.skip base d) (a : Answer) :
    t'.answering (a.renumber (Sandbox.skip base d)) =
      ((t.answering a).1.skip base d,
        (t.answering a).2.map (Entry.renumber (Sandbox.skip base d))) := by
  rw [ht, answering, entry_skip]
  rfl

/-- An operation does the same with the numbers changed. -/
theorem step_skip (h : base ≤ s.modules) (o : Operation) :
    (s.skip base d).step o =
      ((s.step o).1.skip base d, (s.step o).2.map (Entry.renumber (Sandbox.skip base d))) := by
  have hget : ∀ name, Table.get? name (s.skip base d).current =
      (Table.get? name s.current).map (Binding.renumber (Sandbox.skip base d)) :=
    fun name => Namespace.get?_renumber s.current name
  match o with
  | .set name v =>
      rw [step, hget]
      exact answering_skip_of_eq (bind_skip name (.value _)) (.binding _)
  | .bindModule name moduleName =>
      -- the number of the new module moves up like those made in between
      have hnumber : (s.skip base d).modules = Sandbox.skip base d s.modules := by
        rw [Sandbox.skip, if_neg (Nat.not_lt.2 h)]
        rfl
      rw [step, hget, hnumber]
      refine answering_skip_of_eq ?_ (.binding _)
      have hbind : (s.skip base d).bind name (.module moduleName (Sandbox.skip base d s.modules)) =
          (s.bind name (.module moduleName s.modules)).skip base d := bind_skip name (.module _ _)
      rw [hbind]
      simp only [skip, Sandbox.skip, if_neg (Nat.not_lt.2 h), Nat.add_right_comm]
  | .alias name source =>
      rw [step, step, hget, hget]
      cases Table.get? source s.current with
      | none => exact answering_skip_of_eq rfl .unbound
      | some b => exact answering_skip_of_eq (bind_skip name b) (.binding _)
  | .remove name =>
      rw [step, hget]
      refine answering_skip_of_eq ?_ (.binding _)
      simp only [skip, Namespace.renumber, Table.erase_mapValues]
  | .get name =>
      rw [step, hget]
      exact answering_skip_of_eq rfl (.binding _)
  | .contains name =>
      have hcontains : Table.contains name (s.skip base d).current = s.current.contains name :=
        Table.contains_mapValues _ name s.current
      rw [step, hcontains]
      exact answering_skip_of_eq rfl (.truth _)
  | .push name v =>
      have helements : (s.skip base d).current.elements? name = s.current.elements? name :=
        s.current.elements?_renumber name
      rw [step, step, helements]
      cases s.current.elements? name with
      | none => exact answering_skip_of_eq rfl .notList
      | some vs => exact answering_skip_of_eq (bind_skip name (.value _)) (.length _)
  | .put name key v =>
      have hfields : (s.skip base d).current.fields? name = s.current.fields? name :=
        s.current.fields?_renumber name
      rw [step, step, hfields]
      cases s.current.fields? name with
      | none => exact answering_skip_of_eq rfl .notObject
      | some fs => exact answering_skip_of_eq (bind_skip name (.value _)) (.previous _)
  | .enter => exact answering_skip_of_eq (t := s.enter) rfl .entered
  | .leave =>
      rw [step, step]
      cases hs : s.saved with
      | nil =>
          have hskip : (s.skip base d).saved = [] := by rw [skip, hs]; rfl
          rw [leave?, leave?, hs, hskip]
          exact answering_skip_of_eq rfl .noScope
      | cons ns below =>
          have hskip : (s.skip base d).saved =
              Namespace.renumber (Sandbox.skip base d) ns ::
                below.map (Namespace.renumber (Sandbox.skip base d)) := by rw [skip, hs]; rfl
          rw [leave?_of_cons hs, leave?_of_cons hskip]
          exact answering_skip_of_eq (t := ⟨ns, below, s.modules⟩) rfl .left
  | .unwind n =>
      have hopen : (s.skip base d).saved.isEmpty = s.saved.isEmpty := List.isEmpty_map
      rw [step, step, hopen]
      split
      · exact answering_skip_of_eq rfl .noScope
      · exact leaveMany_skip (show Answer.Leaves .unwound from trivial) n

/-- So do operations one after another. -/
theorem steps_skip (h : base ≤ s.modules) (os : List Operation) :
    (s.skip base d).steps os =
      ((s.steps os).1.skip base d, (s.steps os).2.map (Entry.renumber (Sandbox.skip base d))) := by
  induction os generalizing s with
  | nil => rfl
  | cons o os ih =>
      simp only [steps, step_skip h, ih (Nat.le_trans h (s.le_modules_step o)), List.map_append]

theorem finish_skip : (s.skip base d).finish =
    s.finish.map (Entry.renumber (Sandbox.skip base d)) := by
  have hdepth : (s.skip base d).saved.length = s.saved.length := List.length_map _
  simp only [finish, hdepth, leaveMany_skip (show Answer.Leaves .left from trivial), List.map_append,
    List.map_singleton]
  exact congrArg (_ ++ [·]) (entry_skip _ .ended)

end Session

end CellScript.Sandbox
