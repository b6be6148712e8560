import Mathlib.Data.Char
import Mathlib.Data.List.Induction
import Mathlib.Data.List.Lex
import CellScript.Text.Table

set_option autoImplicit false

/-! # Tables

What is found in a table comes from what was put in, and changing every value of a table goes
together with looking up, putting in and taking away. The order of texts is the lexicographic one,
`precedes_iff_lt`; the table of any list is ordered, and an ordered table is the table of itself. -/

namespace CellScript

/-- The order of texts is the order of lists of characters. -/
theorem Text.precedes_iff_lt (s t : Text) : s.precedes t = true ↔ s < t := by
  induction s generalizing t with
  | nil =>
      cases t with
      | nil => simp [Text.precedes]
      | cons b t => simp [Text.precedes]
  | cons a s ih =>
      cases t with
      | nil => simp [Text.precedes]
      | cons b t =>
          rw [Text.precedes, List.cons_lt_cons_iff, Bool.or_eq_true, Bool.and_eq_true, ih,
            decide_eq_true_iff, beq_iff_eq]
          exact Iff.rfl

end CellScript

namespace CellScript.Table

variable {α β : Type}

/-! ## Members -/

theorem mem_of_get? {k : Text} {v : α} {t : Table α} (h : get? k t = some v) : (k, v) ∈ t := by
  induction t with
  | nil => cases h
  | cons f fs ih =>
      rw [get?] at h
      split at h
      · rename_i hk
        rw [hk, ← Option.some.inj h]
        exact List.mem_cons_self
      · exact List.mem_cons_of_mem _ (ih h)

theorem get?_of_mem {k : Text} {v : α} {t : Table α} (hkeys : (t.map Prod.fst).Nodup)
    (h : (k, v) ∈ t) : get? k t = some v := by
  induction t with
  | nil => cases h
  | cons f fs ih =>
      obtain ⟨k', v'⟩ := f
      rw [List.map_cons, List.nodup_cons] at hkeys
      rcases List.mem_cons.1 h with heq | hmem
      · obtain ⟨rfl, rfl⟩ := Prod.mk.inj heq
        rw [get?, if_pos rfl]
      · have hk : k ∈ fs.map Prod.fst := List.mem_map_of_mem hmem
        have hne : k ≠ k' := fun heq => hkeys.1 (heq ▸ hk)
        rw [get?, if_neg hne, ih hkeys.2 hmem]

theorem mem_insert {k : Text} {v : α} {t : Table α} {f : Text × α} (h : f ∈ insert k v t) :
    f = (k, v) ∨ f ∈ t := by
  induction t with
  | nil => exact .inl (List.mem_singleton.1 h)
  | cons g gs ih =>
      rw [insert] at h
      split at h
      · exact (List.mem_cons.1 h).imp id (List.mem_cons_of_mem _)
      · split at h
        · exact List.mem_cons.1 h
        · rcases List.mem_cons.1 h with rfl | h
          · exact .inr List.mem_cons_self
          · exact (ih h).imp id (List.mem_cons_of_mem _)

theorem erase_cons_self (k : Text) (v : α) (t : Table α) : erase k ((k, v) :: t) = erase k t :=
  List.filter_cons_of_neg (by simp)

theorem erase_cons_of_ne {k : Text} {f : Text × α} (h : f.1 ≠ k) (t : Table α) :
    erase k (f :: t) = f :: erase k t :=
  List.filter_cons_of_pos (by simpa using h)

theorem erase_eq_self {k : Text} {t : Table α} (h : ∀ f ∈ t, f.1 ≠ k) : erase k t = t :=
  List.filter_eq_self.2 fun f hf => by simpa using h f hf

/-! ## Changing every value -/

/-- A table with every value changed. -/
def mapValues (f : α → β) (t : Table α) : Table β := t.map (Prod.map id f)

variable (f : α → β)

theorem mapValues_cons (k : Text) (v : α) (t : Table α) :
    mapValues f ((k, v) :: t) = (k, f v) :: mapValues f t := rfl

theorem get?_mapValues (k : Text) (t : Table α) : get? k (mapValues f t) = (get? k t).map f := by
  induction t with
  | nil => rfl
  | cons g gs ih =>
      rw [mapValues_cons, get?, get?, ih]
      split <;> rfl

theorem contains_mapValues (k : Text) (t : Table α) :
    contains k (mapValues f t) = contains k t := by
  rw [contains, get?_mapValues, Option.isSome_map, contains]

theorem insert_mapValues (k : Text) (v : α) (t : Table α) :
    insert k (f v) (mapValues f t) = mapValues f (insert k v t) := by
  induction t with
  | nil => rfl
  | cons g gs ih =>
      obtain ⟨k', v'⟩ := g
      rw [mapValues_cons, insert, insert, ih]
      split
      · rfl
      · split <;> rfl

theorem erase_mapValues (k : Text) (t : Table α) :
    erase k (mapValues f t) = mapValues f (erase k t) := by
  rw [mapValues, erase, List.filter_map]
  rfl

theorem mapValues_eq_self {g : α → α} {t : Table α} (h : ∀ f ∈ t, g f.2 = f.2) :
    mapValues g t = t := by
  rw [mapValues, List.map_congr_left (g := id), List.map_id]
  intro f hf
  exact Prod.ext rfl (h f hf)

/-! ## Order -/

theorem ordered_iff_pairwise {t : Table α} : t.Ordered ↔ t.Pairwise fun f g => f.1 < g.1 := by
  induction t with
  | nil => simp [Ordered]
  | cons f fs ih =>
      rw [Ordered, List.pairwise_cons, ih]
      simp only [Text.precedes_iff_lt]

theorem ordered_erase {k : Text} {t : Table α} (h : t.Ordered) : (erase k t).Ordered :=
  ordered_iff_pairwise.2 ((ordered_iff_pairwise.1 h).filter _)

theorem ordered_insert {k : Text} {v : α} {t : Table α} (h : t.Ordered) :
    (insert k v t).Ordered := by
  induction t with
  | nil => exact ⟨fun f hf => absurd hf List.not_mem_nil, trivial⟩
  | cons g gs ih =>
      obtain ⟨k', v'⟩ := g
      obtain ⟨hk', hgs⟩ := h
      rw [insert]
      split
      · rename_i hk
        exact ⟨hk ▸ hk', hgs⟩
      · split
        · rename_i hlt
          refine ⟨fun f hf => ?_, hk', hgs⟩
          rcases List.mem_cons.1 hf with rfl | hf
          · exact hlt
          · have hf := (Text.precedes_iff_lt _ _).1 (hk' f hf)
            exact (Text.precedes_iff_lt _ _).2 (((Text.precedes_iff_lt _ _).1 hlt).trans hf)
        · rename_i hne hlt
          refine ⟨fun f hf => ?_, ih hgs⟩
          rcases mem_insert hf with rfl | hf
          · -- of two different keys one comes first, and it is not the new one
            rw [Text.precedes_iff_lt] at hlt ⊢
            exact lt_of_le_of_ne (not_lt.1 hlt) (Ne.symm hne)
          · exact hk' f hf

theorem ofList_concat (fs : List (Text × α)) (k : Text) (v : α) :
    ofList (fs ++ [(k, v)]) = insert k v (ofList fs) := by
  rw [ofList, List.foldl_append]
  rfl

theorem ordered_ofList (fs : List (Text × α)) : (ofList fs).Ordered := by
  induction fs using List.reverseRecOn with
  | nil => exact trivial
  | append_singleton fs f ih =>
      rw [ofList_concat]
      exact ordered_insert ih

theorem mem_of_mem_ofList {fs : List (Text × α)} {f : Text × α} (h : f ∈ ofList fs) : f ∈ fs := by
  induction fs using List.reverseRecOn with
  | nil => exact h
  | append_singleton fs g ih =>
      rw [ofList_concat] at h
      rcases mem_insert h with rfl | h
      · exact List.mem_append_right _ List.mem_cons_self
      · exact List.mem_append_left _ (ih h)

/-- A key after all others is put at the end. -/
theorem insert_of_forall_lt {k : Text} {v : α} {t : Table α} (h : ∀ f ∈ t, f.1 < k) :
    insert k v t = t ++ [(k, v)] := by
  induction t with
  | nil => rfl
  | cons g gs ih =>
      have hg : g.1 < k := h g List.mem_cons_self
      have hlt : ¬ k.precedes g.1 = true := by
        rw [Text.precedes_iff_lt]
        exact lt_asymm hg
      rw [insert, if_neg hg.ne', if_neg hlt, ih fun f hf => h f (List.mem_cons_of_mem _ hf)]
      rfl

/-- An ordered table is the table of its own fields. -/
theorem ofList_eq_self {t : Table α} (h : t.Ordered) : ofList t = t := by
  rw [ordered_iff_pairwise] at h
  induction t using List.reverseRecOn with
  | nil => rfl
  | append_singleton t f ih =>
      obtain ⟨ht, -, hf⟩ := List.pairwise_append.1 h
      rw [ofList_concat, ih ht]
      exact insert_of_forall_lt fun g hg => hf g hg f List.mem_cons_self

end CellScript.Table
