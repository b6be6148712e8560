import Mathlib.Data.List.Forall2

set_option autoImplicit false

/-! # Computations that can fail

Steps in a row succeed exactly if each of them does; for steps over a list that is `List.Forall₂`,
and results of two such lists of steps are compared by `forall₂_of_common`. A list of results holds
values up to its first error, `ok_or_first_error`. -/

namespace CellScript

variable {ε α β γ : Type}

theorem bind_eq_ok {x : Except ε α} {f : α → Except ε β} {b : β} :
    x >>= f = .ok b ↔ ∃ a, x = .ok a ∧ f a = .ok b := by
  cases x with
  | error e => simp [bind, Except.bind]
  | ok a => simp [bind, Except.bind]

theorem bind_eq_error {x : Except ε α} {f : α → Except ε β} {e : ε} :
    x >>= f = .error e ↔ x = .error e ∨ ∃ a, x = .ok a ∧ f a = .error e := by
  cases x with
  | error e' => simp [bind, Except.bind]
  | ok a => simp [bind, Except.bind]

theorem map_eq_ok {x : Except ε α} {f : α → β} {b : β} :
    x.map f = .ok b ↔ ∃ a, x = .ok a ∧ f a = b := by
  cases x with
  | error e => simp [Except.map]
  | ok a => simp [Except.map]

theorem map_eq_error {x : Except ε α} {f : α → β} {e : ε} :
    x.map f = .error e ↔ x = .error e := by
  cases x <;> simp [Except.map]

theorem mapError_eq_ok {δ : Type} {x : Except ε α} {f : ε → δ} {a : α} :
    x.mapError f = .ok a ↔ x = .ok a := by
  cases x <;> simp [Except.mapError]

theorem isOk_mapError {δ : Type} (x : Except ε α) (f : ε → δ) : (x.mapError f).isOk = x.isOk := by
  cases x <;> rfl

/-- Results that agree up to what `g` forgets of their errors still do once their values are
mapped. -/
theorem mapError_map_congr {δ : Type} {g : ε → δ} {x y : Except ε α}
    (h : x.mapError g = y.mapError g) (f : α → β) :
    (x.map f).mapError g = (y.map f).mapError g := by
  cases x <;> cases y <;> simp_all [Except.mapError, Except.map]

/-- The same of steps in a row. -/
theorem mapError_bind_congr {δ : Type} {g : ε → δ} {x y : Except ε α} {f f' : α → Except ε β}
    (h : x.mapError g = y.mapError g) (hf : ∀ a, (f a).mapError g = (f' a).mapError g) :
    (x >>= f).mapError g = (y >>= f').mapError g := by
  cases x <;> cases y <;> simp_all [Except.mapError, bind, Except.bind]

/-- Changing a result leaves what comes with it. -/
theorem map_left_eq_ok {x : Except ε (α × γ)} {f : α → β} {b : β} {c : γ} :
    x.map (fun (a, c) => (f a, c)) = .ok (b, c) ↔ ∃ a, x = .ok (a, c) ∧ f a = b := by
  rw [map_eq_ok]
  constructor
  · rintro ⟨⟨a, c'⟩, hx, h⟩
    obtain ⟨ha, rfl⟩ := Prod.mk.inj h
    exact ⟨a, hx, ha⟩
  · rintro ⟨a, hx, rfl⟩
    exact ⟨(a, c), hx, rfl⟩

theorem mapM_eq_ok {f : α → Except ε β} {xs : List α} {ys : List β} :
    xs.mapM f = .ok ys ↔ List.Forall₂ (fun x y => f x = .ok y) xs ys := by
  induction xs generalizing ys with
  | nil =>
      rw [List.forall₂_nil_left_iff]
      exact ⟨fun h => (Except.ok.inj h).symm, fun h => h ▸ rfl⟩
  | cons x xs ih =>
      rw [List.mapM_cons, List.forall₂_cons_left_iff, bind_eq_ok]
      constructor
      · rintro ⟨y, hy, h⟩
        obtain ⟨ys', hys, h⟩ := bind_eq_ok.1 h
        exact ⟨y, ys', hy, ih.1 hys, (Except.ok.inj h).symm⟩
      · rintro ⟨y, ys', hy, hys, rfl⟩
        exact ⟨y, hy, bind_eq_ok.2 ⟨ys', ih.2 hys, rfl⟩⟩

theorem exists_of_forall₂ {r : α → β → Prop} {xs : List α} {ys : List β}
    (h : List.Forall₂ r xs ys) {y : β} (hy : y ∈ ys) : ∃ x ∈ xs, r x y := by
  induction h with
  | nil => cases hy
  | cons hr _ ih =>
      rcases List.mem_cons.1 hy with rfl | hy
      · exact ⟨_, List.mem_cons_self, hr⟩
      · obtain ⟨x, hx, hr⟩ := ih hy
        exact ⟨x, List.mem_cons_of_mem _ hx, hr⟩

/-- Two lists that go with the same list go with each other. -/
theorem forall₂_of_common {r : α → β → Prop} {q : α → γ → Prop} {p : β → γ → Prop} {xs : List α}
    {ys : List β} {zs : List γ} (hr : List.Forall₂ r xs ys) (hq : List.Forall₂ q xs zs)
    (h : ∀ x ∈ xs, ∀ y, ∀ z ∈ zs, r x y → q x z → p y z) : List.Forall₂ p ys zs := by
  induction hr generalizing zs with
  | nil =>
      rw [List.forall₂_nil_left_iff.1 hq]
      exact List.Forall₂.nil
  | cons hxy _ ih =>
      obtain ⟨z, zs, hxz, hrest, rfl⟩ := List.forall₂_cons_left_iff.1 hq
      refine List.Forall₂.cons (h _ List.mem_cons_self _ _ List.mem_cons_self hxy hxz)
        (ih hrest fun x hx y z hz => ?_)
      exact h x (List.mem_cons_of_mem _ hx) y z (List.mem_cons_of_mem _ hz)

instance decidableExistsOk (x : Except ε α) (p : α → Prop) [DecidablePred p] :
    Decidable (∃ a, x = .ok a ∧ p a) :=
  match x with
  | .ok a => decidable_of_iff (p a) (by simp)
  | .error _ => .isFalse (by simp)

/-! ## Lists of results -/

/-- A list of results holds values only, or there is a first error in it. -/
theorem ok_or_first_error (as : List (Except ε α)) :
    (∃ cs : List α, as = cs.map .ok) ∨
      ∃ (cs : List α) (e : ε) (after : List (Except ε α)), as = cs.map .ok ++ .error e :: after := by
  induction as with
  | nil => exact .inl ⟨[], rfl⟩
  | cons a as ih =>
      cases a with
      | error e => exact .inr ⟨[], e, as, rfl⟩
      | ok c =>
          rcases ih with ⟨cs, rfl⟩ | ⟨cs, e, after, rfl⟩
          · exact .inl ⟨c :: cs, rfl⟩
          · exact .inr ⟨c :: cs, e, after, rfl⟩

theorem map_ok_injective : Function.Injective (List.map (Except.ok : α → Except ε α)) :=
  List.map_injective_iff.2 fun _ _ => Except.ok.inj

theorem map_ok_ne_append_error {cs cs' : List α} {e : ε} {after : List (Except ε α)} :
    cs.map Except.ok ≠ cs'.map .ok ++ .error e :: after := by
  intro h
  have he : Except.error e ∈ (cs.map .ok : List (Except ε α)) := by
    rw [h]
    simp
  obtain ⟨c, -, hc⟩ := List.mem_map.1 he
  cases hc

end CellScript
