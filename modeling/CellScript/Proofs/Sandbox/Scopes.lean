import Mathlib.Data.List.Induction
import CellScript.Sandbox.Session

set_option autoImplicit false

/-! # Scopes put back what they found

The entries of a run say when scopes are entered and left. `Follows` reads the scopes that are open
off the entries alone, and every run is read that way, `follows_run`; so the namespace shown where a
scope is left is the one shown where it was entered, `Scope.bindings_eq`, and no scope is left that
was not entered or the other way round, `exists_scope_of_entered` and `exists_scope_of_leaves`. -/

namespace CellScript.Sandbox

/-! ## What a step does -/

/-- An answer says that a scope was left. -/
def Answer.Leaves : Answer → Prop
  | left | unwound => True
  | _ => False

/-- An answer says nothing about scopes. -/
def Answer.Plain : Answer → Prop
  | entered | left | unwound => False
  | _ => True

theorem Answer.Plain.not_leaves {a : Answer} (h : a.Plain) : ¬ a.Leaves := by
  cases a <;> simp_all [Plain, Leaves]

/-- How many scopes an operation leaves at most. -/
def Operation.levels : Operation → Nat
  | leave => 1
  | unwind n => n
  | _ => 0

namespace Session

/-- How many scopes are open. -/
def depth (s : Session) : Nat := s.saved.length

/-- How an operation goes: it changes the namespace and makes modules at most, it opens a scope, or
it leaves scopes. -/
inductive Outcome (s : Session) (o : Operation) : Prop where
  | plain (t : Session) (a : Answer) (step : s.step o = t.answering a) (saved : t.saved = s.saved)
      (modules : s.modules ≤ t.modules) (isPlain : a.Plain)
  | enter (step : s.step o = s.enter.answering .entered)
  | leave (a : Answer) (step : s.step o = leaveMany a o.levels s) (leaves : a.Leaves)
      (unwinds : a = .unwound ∨ o.levels = 1)

theorem outcome (s : Session) (o : Operation) : s.Outcome o := by
  match o with
  | .set .. | .remove .. | .get .. | .contains .. =>
      exact .plain _ _ rfl rfl (Nat.le_refl _) trivial
  | .bindModule .. => exact .plain _ _ rfl rfl (Nat.le_succ _) trivial
  | .alias name source =>
      cases hb : s.current.get? source with
      | none => exact .plain s .unbound (by simp only [step, hb]) rfl (Nat.le_refl _) trivial
      | some b =>
          exact .plain (s.bind name b) (.binding (s.current.get? name))
            (by simp only [step, hb]) rfl (Nat.le_refl _) trivial
  | .push name v =>
      cases hvs : s.current.elements? name with
      | none => exact .plain s .notList (by simp only [step, hvs]) rfl (Nat.le_refl _) trivial
      | some vs =>
          exact .plain (s.bind name _) (.length (vs.length + 1)) (by simp only [step, hvs]; rfl) rfl
            (Nat.le_refl _) trivial
  | .put name key v =>
      cases hfs : s.current.fields? name with
      | none => exact .plain s .notObject (by simp only [step, hfs]) rfl (Nat.le_refl _) trivial
      | some fs =>
          exact .plain (s.bind name _) (.previous (Table.get? key fs))
            (by simp only [step, hfs]; rfl) rfl (Nat.le_refl _) trivial
  | .enter => exact .enter rfl
  | .leave =>
      cases hs : s.leave? with
      | none => exact .plain s .noScope (by simp only [step, hs]) rfl (Nat.le_refl _) trivial
      | some t =>
          exact .leave .left (by simp only [step, Operation.levels, leaveMany, hs]; rfl) trivial
            (.inr rfl)
  | .unwind levels =>
      by_cases hs : s.saved.isEmpty = true
      · exact .plain s .noScope (by simp only [step, if_pos hs]) rfl (Nat.le_refl _) trivial
      · exact .leave .unwound (by simp only [step, if_neg hs]; rfl) trivial (.inl rfl)

theorem leave?_of_cons {s : Session} {ns : Namespace} {below : List Namespace}
    (h : s.saved = ns :: below) :
    s.leave? = some { s with current := ns, saved := below } := by
  rw [leave?, h]

theorem leaveMany_of_nil (a : Answer) (n : Nat) {s : Session} (h : s.saved = []) :
    leaveMany a n s = (s, []) := by
  cases n with
  | zero => rfl
  | succ n => simp only [leaveMany, leave?, h]

theorem leaveMany_of_cons (a : Answer) (n : Nat) {s : Session} {ns : Namespace}
    {below : List Namespace} (h : s.saved = ns :: below) :
    leaveMany a (n + 1) s =
      ((leaveMany a n { s with current := ns, saved := below }).1,
        ⟨a, below.length, ns⟩ :: (leaveMany a n { s with current := ns, saved := below }).2) := by
  rw [leaveMany, leave?_of_cons h]
  rfl

theorem modules_leaveMany (a : Answer) (n : Nat) (s : Session) :
    (leaveMany a n s).1.modules = s.modules := by
  induction n generalizing s with
  | zero => rfl
  | succ n ih =>
      cases hs : s.saved with
      | nil => rw [leaveMany_of_nil a _ hs]
      | cons ns below => rw [leaveMany_of_cons a n hs, ih]

theorem le_modules_step (s : Session) (o : Operation) : s.modules ≤ (s.step o).1.modules := by
  cases s.outcome o with
  | plain t a step _ modules => rwa [step]
  | enter step => exact Nat.le_of_eq (congrArg (fun r => r.1.modules) step).symm
  | leave a step => exact Nat.le_of_eq (by rw [step, modules_leaveMany])

theorem steps_append (s : Session) (os os' : List Operation) :
    s.steps (os ++ os') =
      (((s.steps os).1.steps os').1, (s.steps os).2 ++ ((s.steps os).1.steps os').2) := by
  induction os generalizing s with
  | nil => rfl
  | cons o os ih => simp only [List.cons_append, steps, ih, List.append_assoc]

end Session

/-! ## Open scopes as the entries tell them -/

namespace Entry

/-- The namespaces of the scopes that are open after an entry, innermost first. -/
def openAfter (opened : List Namespace) (e : Entry) : List Namespace :=
  match e.answer with
  | .entered => e.bindings :: opened
  | .left | .unwound => opened.tail
  | _ => opened

/-- An entry agrees with the namespaces of the scopes that were open before it. -/
structure Agrees (opened : List Namespace) (e : Entry) : Prop where
  depth : e.depth = (e.openAfter opened).length
  /-- Where a scope is left, the namespace is the one it was entered with. -/
  restores : e.answer.Leaves → opened = e.bindings :: opened.tail

theorem openAfter_of_entered {e : Entry} (opened : List Namespace) (h : e.answer = .entered) :
    e.openAfter opened = e.bindings :: opened := by
  rw [openAfter, h]

theorem openAfter_of_leaves {e : Entry} (opened : List Namespace) (h : e.answer.Leaves) :
    e.openAfter opened = opened.tail := by
  obtain ⟨a, d, ns⟩ := e
  cases a <;> first | rfl | cases h

theorem openAfter_of_plain {e : Entry} (opened : List Namespace) (h : e.answer.Plain) :
    e.openAfter opened = opened := by
  obtain ⟨a, d, ns⟩ := e
  cases a <;> first | rfl | cases h

theorem answer_cases (e : Entry) : e.answer = .entered ∨ e.answer.Leaves ∨ e.answer.Plain := by
  obtain ⟨a, d, ns⟩ := e
  cases a <;> simp [Answer.Leaves, Answer.Plain]

/-- Where a scope is left, it was the innermost one. -/
theorem Agrees.eq_cons {opened : List Namespace} {e : Entry} (h : e.Agrees opened)
    (hl : e.answer.Leaves) : opened = e.bindings :: e.openAfter opened := by
  rw [openAfter_of_leaves opened hl]
  exact h.restores hl

end Entry

/-- Entries agree with the scopes that were open before them, and leave the given ones open. -/
def Follows : List Namespace → List Entry → List Namespace → Prop
  | opened, [], after => opened = after
  | opened, e :: es, after => e.Agrees opened ∧ Follows (e.openAfter opened) es after

theorem follows_append {opened after : List Namespace} {es fs : List Entry} :
    Follows opened (es ++ fs) after ↔
      ∃ between, Follows opened es between ∧ Follows between fs after := by
  induction es generalizing opened with
  | nil => simp [Follows]
  | cons e es ih => simp [Follows, ih, and_assoc]

theorem follows_singleton {opened after : List Namespace} {e : Entry} :
    Follows opened [e] after ↔ e.Agrees opened ∧ e.openAfter opened = after := Iff.rfl

/-! ## Every run is read that way -/

namespace Session

theorem follows_leaveMany {a : Answer} (ha : a.Leaves) (n : Nat) (s : Session) :
    Follows s.saved (leaveMany a n s).2 (leaveMany a n s).1.saved := by
  induction n generalizing s with
  | zero => exact rfl
  | succ n ih =>
      cases hs : s.saved with
      | nil =>
          rw [leaveMany_of_nil a _ hs]
          exact hs.symm
      | cons ns below =>
          rw [leaveMany_of_cons a n hs]
          have hopen : Entry.openAfter (ns :: below) ⟨a, below.length, ns⟩ = below :=
            Entry.openAfter_of_leaves _ ha
          refine ⟨⟨by rw [hopen], fun _ => rfl⟩, ?_⟩
          rw [hopen]
          exact ih { s with current := ns, saved := below }

/-- One operation is read off its entries. -/
theorem follows_step (s : Session) (o : Operation) :
    Follows s.saved (s.step o).2 (s.step o).1.saved := by
  cases s.outcome o with
  | plain t a step saved _ isPlain =>
      have hopen : (t.entry a).openAfter s.saved = s.saved := Entry.openAfter_of_plain _ isPlain
      rw [step]
      refine follows_singleton.2
        ⟨⟨?_, fun hl => absurd hl isPlain.not_leaves⟩, by rw [hopen, ← saved]; rfl⟩
      rw [hopen, ← saved]
      rfl
  | enter step =>
      rw [step]
      exact follows_singleton.2 ⟨⟨rfl, fun hl => hl.elim⟩, rfl⟩
  | leave a step leaves =>
      rw [step]
      exact follows_leaveMany leaves _ s

/-- So are operations one after another. -/
theorem follows_steps (s : Session) (os : List Operation) :
    Follows s.saved (s.steps os).2 (s.steps os).1.saved := by
  induction os generalizing s with
  | nil => exact rfl
  | cons o os ih => exact follows_append.2 ⟨_, s.follows_step o, ih _⟩

theorem saved_leaveMany (a : Answer) (n : Nat) (s : Session) :
    (leaveMany a n s).1.saved = s.saved.drop n := by
  induction n generalizing s with
  | zero => rfl
  | succ n ih =>
      cases hs : s.saved with
      | nil => rw [leaveMany_of_nil a _ hs, hs, List.drop_nil]
      | cons ns below => rw [leaveMany_of_cons a n hs, ih, List.drop_succ_cons]

theorem follows_finish (s : Session) : Follows s.saved s.finish [] := by
  have hnil : (leaveMany .left s.saved.length s).1.saved = [] := by
    rw [saved_leaveMany, List.drop_length]
  refine follows_append.2 ⟨[], ?_, ?_⟩
  · rw [← hnil]
    exact follows_leaveMany (show Answer.Leaves .left from trivial) _ s
  · refine follows_singleton.2 ⟨⟨?_, fun hl => hl.elim⟩, rfl⟩
    rw [Session.entry, hnil]
    rfl

end Session

/-- A run starts and ends without open scopes. -/
theorem follows_run (os : List Operation) : Follows [] (run os) [] :=
  follows_append.2 ⟨_, Session.follows_steps {} os, Session.follows_finish _⟩

/-! ## Scopes among entries -/

/-- One of the entries opens a scope and another leaves it; those between are inside. -/
structure Scope (es : List Entry) where
  before : List Entry
  opened : Entry
  inside : List Entry
  closed : Entry
  after : List Entry
  entries : es = before ++ opened :: (inside ++ closed :: after)
  entered : opened.answer = .entered
  leaves : closed.answer.Leaves
  depth : closed.depth + 1 = opened.depth
  deep : ∀ e ∈ inside, opened.depth ≤ e.depth

/-- While all entries are inside a scope, it stays open. -/
theorem Follows.suffix_of_deep {opened after below : List Namespace} {es : List Entry}
    (h : Follows opened es after) (hbelow : below <:+ opened)
    (hdeep : ∀ e ∈ es, below.length ≤ e.depth) : below <:+ after := by
  induction es generalizing opened with
  | nil => exact h ▸ hbelow
  | cons e es ih =>
      obtain ⟨he, hes⟩ := h
      obtain ⟨hd, hdeep⟩ := List.forall_mem_cons.1 hdeep
      refine ih hes ?_ hdeep
      rw [he.depth] at hd
      rcases e.answer_cases with ha | ha | ha
      · rw [Entry.openAfter_of_entered opened ha]
        exact hbelow.trans (List.suffix_cons _ _)
      · -- the scope that is left is not one of those below
        have hopened := he.eq_cons ha
        rw [hopened] at hbelow
        rcases List.suffix_cons_iff.1 hbelow with heq | hsuffix
        · rw [heq, List.length_cons] at hd
          omega
        · exact hsuffix
      · rwa [Entry.openAfter_of_plain opened ha]

/-- **A scope puts back the namespace it found.** -/
theorem Scope.bindings_eq {es : List Entry} {opened after : List Namespace}
    (h : Follows opened es after) (sc : Scope es) : sc.closed.bindings = sc.opened.bindings := by
  rw [sc.entries] at h
  obtain ⟨found, -, hopened, h⟩ := follows_append.1 h
  obtain ⟨between, hinside, hclosed, -⟩ := follows_append.1 h
  have hdepth := hopened.depth
  rw [Entry.openAfter_of_entered found sc.entered] at hinside hdepth
  have hsuffix : sc.opened.bindings :: found <:+ between :=
    hinside.suffix_of_deep List.suffix_rfl fun e he => hdepth ▸ sc.deep e he
  have hbetween := hclosed.eq_cons sc.leaves
  have hlength : (sc.opened.bindings :: found).length = between.length := by
    rw [← hdepth, ← sc.depth, hclosed.depth]
    conv_rhs => rw [hbetween]
    rfl
  have heq := hsuffix.eq_of_length hlength
  rw [hbetween] at heq
  exact (List.cons.inj heq).1.symm

/-- A scope that is open before some entries and not after them is left in one of them. -/
theorem Follows.exists_closed {opened after below : List Namespace} {ns : Namespace}
    {es : List Entry} (h : Follows opened es after) (hbelow : ns :: below <:+ opened)
    (hafter : after.length ≤ below.length) :
    ∃ inside closed rest, es = inside ++ closed :: rest ∧ closed.answer.Leaves ∧
      closed.depth = below.length ∧ ∀ e ∈ inside, below.length + 1 ≤ e.depth := by
  induction es generalizing opened with
  | nil =>
      have hlength := hbelow.length_le
      rw [show opened = after from h, List.length_cons] at hlength
      omega
  | cons e es ih =>
      obtain ⟨he, hes⟩ := h
      by_cases hstill : ns :: below <:+ e.openAfter opened
      · obtain ⟨inside, closed, rest, rfl, hleaves, hdepth, hdeep⟩ := ih hes hstill
        refine ⟨e :: inside, closed, rest, rfl, hleaves, hdepth,
          List.forall_mem_cons.2 ⟨?_, hdeep⟩⟩
        rw [he.depth]
        exact hstill.length_le
      · rcases e.answer_cases with ha | ha | ha
        · rw [Entry.openAfter_of_entered opened ha] at hstill
          exact absurd (hbelow.trans (List.suffix_cons _ _)) hstill
        · refine ⟨[], e, es, rfl, ha, ?_, by simp⟩
          have hopened := he.eq_cons ha
          rw [hopened] at hbelow
          rcases List.suffix_cons_iff.1 hbelow with heq | hsuffix
          · rw [he.depth, ← (List.cons.inj heq).2]
          · exact absurd hsuffix hstill
        · rw [Entry.openAfter_of_plain opened ha] at hstill
          exact absurd hbelow hstill

/-- A scope that is open after some entries and not before them was entered in one of them. -/
theorem Follows.exists_opened {opened after below : List Namespace} {ns : Namespace}
    {es : List Entry} (h : Follows opened es after) (hbelow : ns :: below <:+ after)
    (hopened : opened.length ≤ below.length) :
    ∃ before opener inside, es = before ++ opener :: inside ∧ opener.answer = .entered ∧
      opener.depth = below.length + 1 ∧ ∀ e ∈ inside, below.length + 1 ≤ e.depth := by
  induction es using List.reverseRecOn generalizing after with
  | nil =>
      have hlength := hbelow.length_le
      rw [← show opened = after from h, List.length_cons] at hlength
      omega
  | append_singleton es e ih =>
      obtain ⟨between, hes, he, rfl⟩ := follows_append.1 h
      have hdepth : below.length + 1 ≤ e.depth := he.depth ▸ hbelow.length_le
      by_cases hstill : ns :: below <:+ between
      · obtain ⟨before, opener, inside, rfl, hentered, hopener, hdeep⟩ := ih hes hstill
        refine ⟨before, opener, inside ++ [e], by simp, hentered, hopener, ?_⟩
        intro x hx
        rcases List.mem_append.1 hx with hx | hx
        · exact hdeep x hx
        · rwa [List.mem_singleton.1 hx]
      · rcases e.answer_cases with ha | ha | ha
        · refine ⟨es, e, [], rfl, ha, ?_, by simp⟩
          rw [Entry.openAfter_of_entered between ha] at hbelow
          rcases List.suffix_cons_iff.1 hbelow with heq | hsuffix
          · rw [he.depth, Entry.openAfter_of_entered between ha, ← (List.cons.inj heq).2,
              List.length_cons]
          · exact absurd hsuffix hstill
        · have hbetween := he.eq_cons ha
          refine absurd (hbelow.trans ?_) hstill
          conv_rhs => rw [hbetween]
          exact List.suffix_cons _ _
        · rw [Entry.openAfter_of_plain between ha] at hbelow
          exact absurd hbelow hstill

/-- Every scope that is entered is left again. -/
theorem exists_scope_of_entered {es : List Entry} {opened : List Namespace}
    (h : Follows opened es []) {before rest : List Entry} {e : Entry}
    (hes : es = before ++ e :: rest) (he : e.answer = .entered) :
    ∃ sc : Scope es, sc.before = before ∧ sc.opened = e := by
  have hfollows := h
  rw [hes] at hfollows
  obtain ⟨found, -, hopened, hrest⟩ := follows_append.1 hfollows
  have hdepth := hopened.depth
  rw [Entry.openAfter_of_entered found he] at hrest hdepth
  obtain ⟨inside, closed, after, rfl, hleaves, hclosed, hdeep⟩ :=
    hrest.exists_closed List.suffix_rfl (Nat.zero_le _)
  exact ⟨⟨before, e, inside, closed, after, hes, he, hleaves, by rw [hclosed, hdepth]; rfl,
    fun x hx => by rw [hdepth]; exact hdeep x hx⟩, rfl, rfl⟩

/-- Every scope that is left was entered before. -/
theorem exists_scope_of_leaves {es : List Entry} {after : List Namespace}
    (h : Follows [] es after) {front rest : List Entry} {e : Entry}
    (hes : es = front ++ e :: rest) (he : e.answer.Leaves) :
    ∃ sc : Scope es, sc.closed = e ∧ sc.after = rest := by
  have hfollows := h
  rw [hes] at hfollows
  obtain ⟨between, hfront, hclosed, -⟩ := follows_append.1 hfollows
  have hbetween := hclosed.eq_cons he
  rw [hbetween] at hfront
  obtain ⟨before, opener, inside, rfl, hentered, hopener, hdeep⟩ :=
    hfront.exists_opened List.suffix_rfl (Nat.zero_le _)
  exact ⟨⟨before, opener, inside, e, rest, by rw [hes]; simp, hentered, he,
    by rw [hclosed.depth, hopener], fun x hx => by rw [hopener]; exact hdeep x hx⟩, rfl, rfl⟩

end CellScript.Sandbox
