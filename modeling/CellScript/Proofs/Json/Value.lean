import CellScript.Json.Value
import CellScript.Proofs.Text.Table

set_option autoImplicit false

/-! # Values

`Value.induct` is induction over a value, its elements and its fields. Two properties of values
decide what survives being written and read: a value fits below a depth (`Value.Fits`) if it has
fewer levels than that and integers of 64 bits, and it is exact (`Value.isExact`) if it has no
doubles. Putting a value into canonical order keeps both, and doing so twice is doing so once. -/

namespace CellScript.Json.Value

/-- Induction over a value, its elements and its fields. -/
@[elab_as_elim]
theorem induct {P : Value → Prop} (null : P .null) (bool : ∀ b, P (.bool b)) (int : ∀ n, P (.int n))
    (double : ∀ x, P (.double x)) (str : ∀ t, P (.str t))
    (arr : ∀ vs, (∀ v ∈ vs, P v) → P (.arr vs))
    (obj : ∀ fs, (∀ f ∈ fs, P f.2) → P (.obj fs)) (v : Value) : P v :=
  match v with
  | .null => null
  | .bool b => bool b
  | .int n => int n
  | .double x => double x
  | .str t => str t
  | .arr vs => arr vs fun v _ => induct null bool int double str arr obj v
  | .obj fs => obj fs fun f _ => induct null bool int double str arr obj f.2
termination_by sizeOf v
decreasing_by
  · rename_i hv
    have := List.sizeOf_lt_of_mem hv
    simp only [Value.arr.sizeOf_spec]
    omega
  · rename_i hf
    have := List.sizeOf_lt_of_mem hf
    obtain ⟨k, v⟩ := f
    simp only [Value.obj.sizeOf_spec, Prod.mk.sizeOf_spec] at this ⊢
    omega

/-! ## Canonical order -/

theorem canonicalAll_eq_map (vs : List Value) : canonicalAll vs = vs.map canonical := by
  induction vs with
  | nil => rfl
  | cons v vs ih => rw [canonicalAll, ih, List.map_cons]

theorem canonicalFields_eq_mapValues (fs : List (Text × Value)) :
    canonicalFields fs = Table.mapValues canonical fs := by
  induction fs with
  | nil => rfl
  | cons f fs ih => rw [canonicalFields, ih, Table.mapValues_cons]

theorem canonical_arr (vs : List Value) : (arr vs).canonical = .arr (vs.map canonical) := by
  rw [canonical, canonicalAll_eq_map]

theorem canonical_obj (fs : List (Text × Value)) :
    (obj fs).canonical = .obj (Table.ofList (Table.mapValues canonical fs)) := by
  rw [canonical, canonicalFields_eq_mapValues]

/-- A field of an object in canonical order is a field of the object, its value in canonical order.
-/
theorem exists_of_mem_canonical {fs : List (Text × Value)} {f : Text × Value}
    (h : f ∈ Table.ofList (Table.mapValues canonical fs)) :
    ∃ g ∈ fs, f = (g.1, g.2.canonical) := by
  obtain ⟨g, hg, rfl⟩ := List.mem_map.1 (Table.mem_of_mem_ofList h)
  exact ⟨g, hg, rfl⟩

@[simp] theorem canonical_canonical (v : Value) : v.canonical.canonical = v.canonical := by
  induction v using induct with
  | arr vs ih =>
      rw [canonical_arr, canonical_arr, List.map_map]
      exact congrArg arr (List.map_congr_left ih)
  | obj fs ih =>
      rw [canonical_obj, canonical_obj, Table.mapValues_eq_self]
      · rw [Table.ofList_eq_self (Table.ordered_ofList _)]
      · intro f hf
        obtain ⟨g, hg, rfl⟩ := exists_of_mem_canonical hf
        exact ih g hg
  | _ => rfl

/-- An object is in canonical order if its keys are in order, each of them once, and its values are
in canonical order. -/
theorem canonical_obj_eq_self_iff {t : Table Value} :
    (obj t).canonical = .obj t ↔ t.Ordered ∧ ∀ f ∈ t, f.2.canonical = f.2 := by
  rw [canonical_obj]
  constructor
  · intro h
    have ht : Table.ofList (Table.mapValues canonical t) = t := obj.inj h
    refine ⟨ht ▸ Table.ordered_ofList _, fun f hf => ?_⟩
    rw [← ht] at hf
    obtain ⟨g, -, rfl⟩ := exists_of_mem_canonical hf
    exact canonical_canonical g.2
  · rintro ⟨ht, hv⟩
    rw [Table.mapValues_eq_self hv, Table.ofList_eq_self ht]

theorem canonicalAll_eq_self {vs : List Value} (h : ∀ v ∈ vs, v.canonical = v) :
    canonicalAll vs = vs := by
  rw [canonicalAll_eq_map, List.map_congr_left (g := id), List.map_id]
  exact h

/-! ## What can be written and read -/

/-- A value fits below a depth if it has fewer levels than that, and integers of 64 bits. -/
inductive Fits : Nat → Value → Prop where
  | null {d : Nat} : Fits d .null
  | bool {d : Nat} (b : Bool) : Fits d (.bool b)
  | int {d : Nat} {n : Int} (low : -(minIntMagnitude : Int) ≤ n) (high : n ≤ maxInt) :
      Fits d (.int n)
  | double {d : Nat} (x : Double) : Fits d (.double x)
  | str {d : Nat} (t : Text) : Fits d (.str t)
  | arr {d : Nat} {vs : List Value} (h : ∀ v ∈ vs, Fits d v) : 0 < d → Fits (d + 1) (.arr vs)
  | obj {d : Nat} {fs : List (Text × Value)} (h : ∀ f ∈ fs, Fits d f.2) : 0 < d →
      Fits (d + 1) (.obj fs)

theorem Fits.canonical {d : Nat} {v : Value} (h : v.Fits d) : v.canonical.Fits d := by
  induction h with
  | null => exact .null
  | bool b => exact .bool b
  | int low high => exact .int low high
  | double x => exact .double x
  | str t => exact .str t
  | arr _ hd ih =>
      rw [canonical_arr]
      refine .arr (fun v hv => ?_) hd
      obtain ⟨w, hw, rfl⟩ := List.mem_map.1 hv
      exact ih w hw
  | obj _ hd ih =>
      rw [canonical_obj]
      refine .obj (fun f hf => ?_) hd
      obtain ⟨g, hg, rfl⟩ := exists_of_mem_canonical hf
      exact ih g hg

mutual

/-- Whether a value has no doubles in it. -/
def isExact : Value → Bool
  | .null => true
  | .bool _ => true
  | .int _ => true
  | .double _ => false
  | .str _ => true
  | .arr vs => allExact vs
  | .obj fs => fieldsExact fs

/-- Whether no value of a list has doubles in it. -/
def allExact : List Value → Bool
  | [] => true
  | v :: vs => isExact v && allExact vs

/-- Whether no field has doubles in it. -/
def fieldsExact : List (Text × Value) → Bool
  | [] => true
  | (_, v) :: fs => isExact v && fieldsExact fs

end

theorem isExact_arr {vs : List Value} : (arr vs).isExact ↔ ∀ v ∈ vs, v.isExact := by
  rw [isExact]
  induction vs with
  | nil => simp [allExact]
  | cons v vs ih => rw [allExact, Bool.and_eq_true, ih, List.forall_mem_cons]

theorem isExact_obj {fs : List (Text × Value)} : (obj fs).isExact ↔ ∀ f ∈ fs, f.2.isExact := by
  rw [isExact]
  induction fs with
  | nil => simp [fieldsExact]
  | cons f fs ih => rw [fieldsExact, Bool.and_eq_true, ih, List.forall_mem_cons]

end CellScript.Json.Value
