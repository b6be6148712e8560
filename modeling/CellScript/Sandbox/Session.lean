import CellScript.Sandbox.Namespace

set_option autoImplicit false

/-! # Sessions

A session is a namespace with scopes opened over it. Opening a scope saves the namespace, and
leaving it, in whatever way, puts the saved one back; so a scope leaves no trace. `Session.step`
carries out one operation, `run` a list of them, after which the scopes that are still open are
left. -/

namespace CellScript.Sandbox

open Json

/-- An operation on a namespace or on its scopes. -/
inductive Operation where
  /-- Bind a name to a value. -/
  | set (name : Text) (v : Value)
  /-- Bind a name to a new module. -/
  | bindModule (name moduleName : Text)
  /-- Bind a name to what another is bound to. -/
  | alias (name source : Text)
  /-- Unbind a name. -/
  | remove (name : Text)
  /-- Ask what a name is bound to. -/
  | get (name : Text)
  /-- Ask whether a name is bound. -/
  | contains (name : Text)
  /-- Append to a list in place. -/
  | push (name : Text) (v : Value)
  /-- Set a field of an object in place. -/
  | put (name key : Text) (v : Value)
  /-- Open a scope. -/
  | enter
  /-- Leave a scope. -/
  | leave
  /-- Be thrown out of scopes. -/
  | unwind (levels : Nat)
deriving Repr

/-- What an operation answers. -/
inductive Answer where
  | binding (b : Option Binding)
  | unbound
  | truth (b : Bool)
  | length (n : Nat)
  | notList
  | previous (v : Option Value)
  | notObject
  | entered
  | left
  | unwound
  | noScope
  | ended
deriving Repr

/-- A namespace, those saved by the scopes open over it, innermost first, and how many modules were
made. -/
structure Session where
  current : Namespace := []
  saved : List Namespace := []
  modules : Nat := 0
deriving Repr

/-- An answer with the scopes and the namespace after it. -/
structure Entry where
  answer : Answer
  depth : Nat
  bindings : Namespace
deriving Repr

namespace Session

/-- The entry for an answer. -/
def entry (s : Session) (a : Answer) : Entry := ⟨a, s.saved.length, s.current⟩

/-- Bind a name. -/
def bind (s : Session) (name : Text) (b : Binding) : Session :=
  { s with current := s.current.insert name b }

/-- Open a scope. -/
def enter (s : Session) : Session := { s with saved := s.current :: s.saved }

/-- Leave the innermost scope, if there is one. -/
def leave? (s : Session) : Option Session :=
  match s.saved with
  | [] => none
  | ns :: rest => some { s with current := ns, saved := rest }

/-- Leave scopes, at most `n`, with the same answer for each. -/
def leaveMany (a : Answer) : Nat → Session → Session × List Entry
  | 0, s => (s, [])
  | n + 1, s =>
    match s.leave? with
    | none => (s, [])
    | some s =>
      let (s', es) := leaveMany a n s
      (s', s.entry a :: es)

/-- A session and its entry for an answer. -/
def answering (s : Session) (a : Answer) : Session × List Entry := (s, [s.entry a])

/-- Carry out an operation. -/
def step (s : Session) : Operation → Session × List Entry
  | .set name v =>
    (s.bind name (.value v.canonical)).answering (.binding (s.current.get? name))
  | .bindModule name moduleName =>
    let s' := s.bind name (.module moduleName s.modules)
    { s' with modules := s.modules + 1 }.answering (.binding (s.current.get? name))
  | .alias name source =>
    match s.current.get? source with
    | none => s.answering .unbound
    | some b => (s.bind name b).answering (.binding (s.current.get? name))
  | .remove name =>
    { s with current := s.current.erase name }.answering (.binding (s.current.get? name))
  | .get name => s.answering (.binding (s.current.get? name))
  | .contains name => s.answering (.truth (s.current.contains name))
  | .push name v =>
    match s.current.elements? name with
    | none => s.answering .notList
    | some vs =>
      (s.bind name (.value (.arr (vs ++ [v.canonical])))).answering (.length (vs.length + 1))
  | .put name key v =>
    match s.current.fields? name with
    | none => s.answering .notObject
    | some fs =>
      (s.bind name (.value (.obj (Table.insert key v.canonical fs)))).answering
        (.previous (Table.get? key fs))
  | .enter => s.enter.answering .entered
  | .leave =>
    match s.leave? with
    | none => s.answering .noScope
    | some s => s.answering .left
  | .unwind levels =>
    if s.saved.isEmpty then s.answering .noScope else leaveMany .unwound levels s

/-- Carry out operations. -/
def steps (s : Session) : List Operation → Session × List Entry
  | [] => (s, [])
  | o :: os =>
    let (s, es) := s.step o
    let (s, more) := steps s os
    (s, es ++ more)

/-- Leave every scope. -/
def finish (s : Session) : List Entry :=
  let (s, es) := leaveMany .left s.saved.length s
  es ++ [s.entry .ended]

end Session

/-- The entries for operations on an empty namespace. -/
def run (os : List Operation) : List Entry :=
  let (s, es) := Session.steps {} os
  es ++ s.finish

end CellScript.Sandbox
