import CellScript.Json.Value

set_option autoImplicit false

/-! # Namespaces

A `Namespace` binds names to values and modules. A value is a copy of its own; a module is one of
those that were made, known by its number, so that two names may be bound to the same one. -/

namespace CellScript.Sandbox

open Json

/-- What a name is bound to. -/
inductive Binding where
  | value (v : Value)
  | module (name : Text) (number : Nat)
deriving Repr

/-- Names with what they are bound to. -/
abbrev Namespace := Table Binding

namespace Namespace

/-- The elements of a list that a name is bound to. -/
def elements? (name : Text) (ns : Namespace) : Option (List Value) :=
  match ns.get? name with
  | some (.value (.arr vs)) => some vs
  | _ => none

/-- The fields of an object that a name is bound to. -/
def fields? (name : Text) (ns : Namespace) : Option (Table Value) :=
  match ns.get? name with
  | some (.value (.obj fs)) => some fs
  | _ => none

end Namespace

end CellScript.Sandbox
