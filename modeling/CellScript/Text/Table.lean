import CellScript.Text.Blank

set_option autoImplicit false

/-! # Tables

Texts are ordered by their characters from the left, as their code points are. A `Table` is a list
of keys with their values; `insert`, `erase` and `ofList` keep the keys in order and each of them
once. -/

namespace CellScript

/-- Whether a text comes before another. -/
def Text.precedes : Text → Text → Bool
  | _, [] => false
  | [], _ :: _ => true
  | a :: s, b :: t => a.toNat < b.toNat || (a == b && precedes s t)

/-- Keys with their values. -/
abbrev Table (α : Type) := List (Text × α)

namespace Table

variable {α : Type}

/-- The value of a key. -/
def get? (k : Text) : Table α → Option α
  | [] => none
  | (k', v) :: fs => if k = k' then some v else get? k fs

/-- Whether a key has a value. -/
def contains (k : Text) (t : Table α) : Bool := (get? k t).isSome

/-- Give a key a value. -/
def insert (k : Text) (v : α) : Table α → Table α
  | [] => [(k, v)]
  | (k', v') :: fs =>
    if k = k' then (k, v) :: fs
    else if k.precedes k' then (k, v) :: (k', v') :: fs
    else (k', v') :: insert k v fs

/-- Take a key's value away. -/
def erase (k : Text) (t : Table α) : Table α := t.filter fun f => f.1 ≠ k

/-- The table of a list, in which the last value of a key counts. -/
def ofList (fs : List (Text × α)) : Table α := fs.foldl (fun t f => insert f.1 f.2 t) []

/-- Whether the keys are in order, each of them once. -/
def Ordered : Table α → Prop
  | [] => True
  | (k, _) :: fs => (∀ f ∈ fs, k.precedes f.1) ∧ Ordered fs

end Table

end CellScript
