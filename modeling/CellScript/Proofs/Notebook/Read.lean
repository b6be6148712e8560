import Mathlib.Data.List.Forall2
import CellScript.Notebook.Error
import CellScript.Proofs.Json.Reads

set_option autoImplicit false

/-! # Which documents are notebooks

`Notebook.parse_eq_ok`: a document is the notebook `nb` if it is one object with one field for the
cells, that field is a list of values that are the cells of `nb` one by one, and the other fields are
the fields of `nb`. What is judged while the text is read, and with its own reader for the cells, can
so be judged on the value of the text. -/

namespace CellScript.Notebook

open Json

variable {d n : Nat} {t u : Text}

/-- The cells that values are, one by one. -/
def AreCells (vs : List Value) (cs : List NotebookCell) : Prop :=
  List.Forall₂ (fun v c => NotebookCell.ofValue? v = some c) vs cs

/-- What the fields of a document say about cells: nothing, or once that these are the cells. -/
def SayCells (fs : List (Text × Value)) : Option (List NotebookCell) → Prop
  | none => fs.filter (fun f => f.1 = cellsField) = []
  | some cs => ∃ vs, fs.filter (fun f => f.1 = cellsField) = [(cellsField, .arr vs)] ∧ AreCells vs cs

theorem sayCells_cons_of_ne {f : Text × Value} (hf : f.1 ≠ cellsField) {fs : List (Text × Value)}
    {cs : Option (List NotebookCell)} : SayCells (f :: fs) cs ↔ SayCells fs cs := by
  have hfilter : (f :: fs).filter (fun f => f.1 = cellsField) =
      fs.filter (fun f => f.1 = cellsField) :=
    List.filter_cons_of_neg (by simpa using hf)
  cases cs with
  | none => rw [SayCells, SayCells, hfilter]
  | some cs => rw [SayCells, SayCells, hfilter]

theorem sayCells_cons_cells {v : Value} {fs : List (Text × Value)}
    {cs : Option (List NotebookCell)} :
    SayCells ((cellsField, v) :: fs) cs ↔
      ∃ vs cs', v = .arr vs ∧ AreCells vs cs' ∧ cs = some cs' ∧ SayCells fs none := by
  have hfilter : ((cellsField, v) :: fs).filter (fun f => f.1 = cellsField) =
      (cellsField, v) :: fs.filter (fun f => f.1 = cellsField) :=
    List.filter_cons_of_pos (by simp)
  cases cs with
  | none => simp [SayCells]
  | some cs =>
      rw [SayCells, SayCells, hfilter]
      constructor
      · rintro ⟨vs, hvs, hcells⟩
        obtain ⟨hv, hfs⟩ := List.cons.inj hvs
        exact ⟨vs, cs, (Prod.mk.inj hv).2, hcells, rfl, hfs⟩
      · rintro ⟨vs, cs', rfl, hcells, hcs, hfs⟩
        obtain rfl := Option.some.inj hcs
        exact ⟨vs, by rw [show _ = [] from hfs], hcells⟩

/-! ## Cells -/

/-- Cells that are read are the elements of a list. -/
theorem reads_of_cellsFrom (n : Nat) {first : Bool} {cs : List NotebookCell}
    (h : cellsFrom n d first t = .ok (cs, u)) :
    ∃ vs, Reads d (.elements first vs) t u ∧ AreCells vs cs := by
  induction n generalizing first t cs with
  | zero => cases h
  | succ n ih =>
      rw [cellsFrom] at h
      split at h
      · cases h
      · rename_i hnext
        obtain ⟨rfl, rfl⟩ := Prod.mk.inj (Except.ok.inj h)
        exact ⟨[], .noElement hnext, .nil⟩
      · rename_i hnext
        split at h
        · cases h
        · rename_i hv
          split at h
          · cases h
          · rename_i hc
            obtain ⟨cs, hcs, rfl⟩ := map_left_eq_ok.1 h
            obtain ⟨vs, hvs, hcells⟩ := ih hcs
            exact ⟨_ :: vs, .element hnext (value_eq_ok.1 hv) hvs, .cons hc hcells⟩

/-- The elements of a list are read as the cells that they are. -/
theorem cellsFrom_of_reads {first : Bool} {vs : List Value} {cs : List NotebookCell}
    (h : Reads d (.elements first vs) t u) (hcells : AreCells vs cs) (hn : t.length < n) :
    cellsFrom n d first t = .ok (cs, u) := by
  induction hcells generalizing first t n with
  | nil =>
      obtain ⟨n, rfl⟩ : ∃ m, n = m + 1 := ⟨n - 1, by omega⟩
      cases h with
      | noElement hnext => rw [cellsFrom, hnext]
  | cons hc _ ih =>
      obtain ⟨n, rfl⟩ : ∃ m, n = m + 1 := ⟨n - 1, by omega⟩
      cases h with
      | element hnext hv hvs =>
          have hlength := hv.length_le
          have := length_of_nextElement hnext
          simp only [Part.least] at hlength
          have hrest := ih (n := n) hvs (by omega)
          rw [cellsFrom, hnext]
          simp only [value_eq_ok.2 hv, hc, hrest]
          rfl

theorem wrongKind_ne_ok {α : Type} {fault : Found → Fault} {r : α × Text} :
    wrongKind fault t ≠ .ok r := by
  intro h
  rw [wrongKind] at h
  split at h
  · cases h
  · cases h
  · split at h <;> cases h

/-- A list of values is read as the cells that they are. -/
theorem cellList_eq_ok (hd : 1 < d) {cs : List NotebookCell} :
    cellList d t = .ok (cs, u) ↔ ∃ vs, Reads d (.value (.arr vs)) t u ∧ AreCells vs cs := by
  obtain ⟨d, rfl⟩ : ∃ e, d = e + 1 := ⟨d - 1, by omega⟩
  rw [cellList]
  constructor
  · intro h
    split at h
    · cases h
    · obtain ⟨vs, hvs, hcells⟩ := reads_of_cellsFrom _ h
      exact ⟨vs, .list ‹_› (by omega) hvs, hcells⟩
    · exact absurd h wrongKind_ne_ok
  · rintro ⟨vs, hvs, hcells⟩
    obtain ⟨w, hw, hvs⟩ := hvs.of_list
    rw [hw]
    exact cellsFrom_of_reads hvs hcells (Nat.lt_succ_self _)

/-! ## Fields -/

theorem colon_eq_ok : colon t = .ok ((), u) ↔ skipSpace t = ':' :: u := by
  rw [colon]
  split
  · rename_i h
    simp [h]
  · rename_i h
    simp [h]
  · rename_i h
    simp only [reduceCtorEq, false_iff]
    exact h u

/-- A key is read as a string and the colon after it. -/
theorem key_eq_ok {k : Text} :
    key t = .ok (k, u) ↔ ∃ w, string t = .ok (k, w) ∧ colon w = .ok ((), u) := by
  simp only [colon_eq_ok]
  rw [key]
  constructor
  · intro h
    split at h
    · cases h
    · rename_i hs
      split at h
      · cases h
      · rename_i hc
        obtain ⟨rfl, rfl⟩ := Prod.mk.inj (Except.ok.inj h)
        exact ⟨_, hs, hc⟩
      · cases h
  · rintro ⟨w, hs, hc⟩
    rw [hs]
    simp only [hc]

/-- What one step of reading the fields comes to: the object ends, the field for the cells is read,
or another field is. -/
theorem fieldsFrom_succ_eq_ok (hd : 1 < d) {first met : Bool} {cs : Option (List NotebookCell)}
    {gs : List (Text × Value)} :
    fieldsFrom (n + 1) d first met t = .ok ((cs, gs), u) ↔
      nextField first t = .ok (false, u) ∧ cs = none ∧ gs = [] ∨
      ∃ w k x v y, nextField first t = .ok (true, w) ∧ key w = .ok (k, x) ∧
        Reads d (.value v) x y ∧
        (k = cellsField ∧ met = false ∧
            (∃ vs cs' other, v = .arr vs ∧ AreCells vs cs' ∧ cs = some cs' ∧
              fieldsFrom n d false true y = .ok ((other, gs), u)) ∨
          k ≠ cellsField ∧
            ∃ hs, fieldsFrom n d false met y = .ok ((cs, hs), u) ∧ gs = (k, v) :: hs) := by
  rw [fieldsFrom]
  constructor
  · intro h
    split at h
    · cases h
    · rename_i hnext
      obtain ⟨hnone, rfl⟩ := Prod.mk.inj (Except.ok.inj h)
      obtain ⟨rfl, rfl⟩ := Prod.mk.inj hnone
      exact .inl ⟨hnext, rfl, rfl⟩
    · rename_i w hnext
      refine .inr ?_
      split at h
      · cases h
      · rename_i k x hk
        split at h
        · rename_i hkey
          split at h
          · cases h
          · rename_i hmet
            split at h
            · cases h
            · rename_i hcolon
              split at h
              · cases h
              · rename_i cs' y hcells
                obtain ⟨⟨⟨other, hs⟩, u'⟩, hrest, heq⟩ := map_eq_ok.1 h
                simp only [Prod.mk.injEq] at heq
                obtain ⟨⟨rfl, rfl⟩, rfl⟩ := heq
                obtain ⟨vs, hvs, hare⟩ := (cellList_eq_ok hd).1 hcells
                exact ⟨w, k, _, _, _, hnext, key_eq_ok.2 ⟨x, hk, hcolon⟩, hvs, .inl
                  ⟨hkey, by simpa using hmet, vs, cs', other, rfl, hare, rfl, hrest⟩⟩
        · rename_i hkey
          split at h
          · cases h
          · rename_i hcolon
            split at h
            · cases h
            · rename_i v y hv
              obtain ⟨⟨⟨other, hs⟩, u'⟩, hrest, heq⟩ := map_eq_ok.1 h
              simp only [Prod.mk.injEq] at heq
              obtain ⟨⟨rfl, rfl⟩, rfl⟩ := heq
              exact ⟨w, k, _, v, y, hnext, key_eq_ok.2 ⟨x, hk, hcolon⟩, value_eq_ok.1 hv,
                .inr ⟨hkey, hs, hrest, rfl⟩⟩
  · rintro (⟨hnext, rfl, rfl⟩ | ⟨w, k, x, v, y, hnext, hk, hv, hfield⟩)
    · rw [hnext]
    · obtain ⟨x', hstring, hcolon⟩ := key_eq_ok.1 hk
      rcases hfield with ⟨rfl, rfl, vs, cs', other, rfl, hare, rfl, hrest⟩ | ⟨hne, hs, hrest, rfl⟩
      · have hlist := (cellList_eq_ok hd).2 ⟨vs, hv, hare⟩
        simp only [hnext, hstring, if_true, Bool.false_eq_true, if_false, hcolon, hlist, hrest]
        rfl
      · simp only [hnext, hstring, if_neg hne, hcolon, value_eq_ok.2 hv, hrest]
        rfl

/-- Fields that are read are the fields of an object: what they say about cells, and the others. -/
theorem reads_of_fieldsFrom (n : Nat) (hd : 1 < d) {first met : Bool}
    {cs : Option (List NotebookCell)} {gs : List (Text × Value)}
    (h : fieldsFrom n d first met t = .ok ((cs, gs), u)) :
    ∃ fs, Reads d (.fields first fs) t u ∧ SayCells fs cs ∧ (met = true → cs = none) ∧
      gs = Table.erase cellsField fs := by
  induction n generalizing first met t cs gs with
  | zero => cases h
  | succ n ih =>
      rcases (fieldsFrom_succ_eq_ok hd).1 h with ⟨hnext, rfl, rfl⟩ |
        ⟨w, k, x, v, y, hnext, hk, hv, ⟨rfl, rfl, vs, cs', other, rfl, hare, rfl, hrest⟩ |
          ⟨hne, hs, hrest, rfl⟩⟩
      · exact ⟨[], .noField hnext, rfl, fun _ => rfl, rfl⟩
      · -- the field for the cells, which no other may follow
        obtain ⟨fs, hfs, hsay, hnone, rfl⟩ := ih hrest
        obtain rfl := hnone rfl
        refine ⟨(cellsField, .arr vs) :: fs, .field hnext hk hv hfs, ?_,
          fun h => absurd h Bool.false_ne_true, ?_⟩
        · exact sayCells_cons_cells.2 ⟨vs, cs', rfl, hare, rfl, hsay⟩
        · exact (Table.erase_cons_self _ _ _).symm
      · obtain ⟨fs, hfs, hsay, hnone, rfl⟩ := ih hrest
        refine ⟨(k, v) :: fs, .field hnext hk hv hfs, (sayCells_cons_of_ne hne).2 hsay, hnone, ?_⟩
        exact (Table.erase_cons_of_ne hne fs).symm

/-- The fields of an object are read as what they say about cells, and the others. -/
theorem fieldsFrom_of_reads (hd : 1 < d) {first met : Bool} {fs : List (Text × Value)}
    {cs : Option (List NotebookCell)} (h : Reads d (.fields first fs) t u) (hsay : SayCells fs cs)
    (hmet : met = true → cs = none) (hn : t.length < n) :
    fieldsFrom n d first met t = .ok ((cs, Table.erase cellsField fs), u) := by
  induction fs generalizing first met t cs n with
  | nil =>
      obtain ⟨n, rfl⟩ : ∃ m, n = m + 1 := ⟨n - 1, by omega⟩
      cases h with
      | noField hnext =>
          refine (fieldsFrom_succ_eq_ok hd).2 (.inl ⟨hnext, ?_, rfl⟩)
          cases cs with
          | none => rfl
          | some cs =>
              obtain ⟨vs, hvs, -⟩ := hsay
              cases hvs
  | cons f fs ih =>
      obtain ⟨n, rfl⟩ : ∃ m, n = m + 1 := ⟨n - 1, by omega⟩
      cases h with
      | @field _ _ _ w x y _ k v _ hnext hk hv hfs =>
          have hlength := hv.length_le
          have hnextLength := length_of_nextField hnext
          have hkeyLength := length_of_key hk
          simp only [Part.least] at hlength
          refine (fieldsFrom_succ_eq_ok hd).2 (.inr ⟨w, k, x, v, y, hnext, hk, hv, ?_⟩)
          by_cases hcells : k = cellsField
          · subst hcells
            obtain ⟨vs, cs, rfl, hare, rfl, hnone⟩ := sayCells_cons_cells.1 hsay
            have hfirst : met = false := by
              rw [← Bool.not_eq_true]
              intro h
              cases hmet h
            rw [Table.erase_cons_self]
            exact .inl ⟨rfl, hfirst, vs, cs, none, rfl, hare, rfl,
              ih hfs hnone (fun _ => rfl) (by omega)⟩
          · rw [Table.erase_cons_of_ne hcells]
            exact .inr ⟨hcells, _,
              ih hfs ((sayCells_cons_of_ne hcells).1 hsay) hmet (by omega), rfl⟩

/-! ## Documents -/

/-- Which documents are notebooks, and of what cells and fields. -/
theorem parse_eq_ok {nb : Notebook} :
    parse t = .ok nb ↔ ∃ fs, Value.parse t = .ok (.obj fs) ∧ SayCells fs (some nb.cells) ∧
      nb.fields = Table.ofList (Value.canonicalFields (Table.erase cellsField fs)) := by
  have hdepth : 1 < maxDepth - 1 := by decide
  rw [parse]
  constructor
  · intro h
    split at h
    · cases h
    · rename_i w hw
      split at h
      · cases h
      · cases h
      · rename_i cs gs u hfields
        obtain ⟨rfl, hspace⟩ := finish_eq_ok.1 (mapError_eq_ok.1 h)
        obtain ⟨fs, hfs, hsay, -, rfl⟩ := reads_of_fieldsFrom _ hdepth hfields
        exact ⟨fs, Value.parse_eq_ok.2 ⟨u, .object hw (by decide) hfs, hspace⟩, hsay, rfl⟩
    · obtain ⟨r, hr, -⟩ := map_eq_ok.1 h
      exact absurd hr wrongKind_ne_ok
  · rintro ⟨fs, hparse, hsay, hfields⟩
    obtain ⟨u, hread, hspace⟩ := Value.parse_eq_ok.1 hparse
    obtain ⟨w, hw, hfs⟩ := Reads.of_object (d := 127) hread
    have hall : fieldsFrom (w.length + 1) (maxDepth - 1) true false w =
        .ok ((some nb.cells, Table.erase cellsField fs), u) :=
      fieldsFrom_of_reads hdepth hfs hsay (fun h => nomatch h) (Nat.lt_succ_self _)
    rw [hw]
    simp only [hall, ← hfields]
    exact mapError_eq_ok.2 (finish_eq_ok.2 ⟨rfl, hspace⟩)

/-- A document that is read is one that is accepted. -/
theorem ofText_eq_ok {nb : Notebook} : ofText t = .ok nb ↔ parse t = .ok nb := by
  rw [ofText, read, mapError_eq_ok, mapError_eq_ok]

end CellScript.Notebook
