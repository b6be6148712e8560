import CellScript.Proofs.Json.Numeral
import CellScript.Proofs.Json.Quoted

set_option autoImplicit false

/-! # What the reader reads

`Reads d p t u` says that the part `p` of a document is what the reader takes off the text `t`, and
`u` what it leaves: a value, or elements or fields with the bracket after them. It is the reader
without its bound on the steps. That bound is never reached (`Reads.runsTo`), so that reading a
whole text is reading a value and nothing but space after it (`Value.parse_eq_ok`). -/

namespace CellScript.Json

/-! ## Parts of a document -/

/-- A part of a document: a value, the elements of a list or the fields of an object from some point
on, and whether that is before the first of them. -/
inductive Part where
  | value (v : Value)
  | elements (first : Bool) (vs : List Value)
  | fields (first : Bool) (fs : List (Text × Value))

namespace Part

/-- Whether the reader comes to a part in some steps. -/
def RunsTo (n d : Nat) : Part → Text → Text → Prop
  | value v, t, u => Json.value n d t = .ok (v, u)
  | elements first vs, t, u => Json.elements n d first t = .ok (vs, u)
  | fields first fs, t, u => Json.fields n d first t = .ok (fs, u)

/-- The characters that a part has at least. -/
def least : Part → Nat
  | value _ => 1
  | elements _ _ => 0
  | fields _ _ => 0

/-- Whether every value of a part fits below a depth. -/
def Fits (d : Nat) : Part → Prop
  | value v => v.Fits d
  | elements _ vs => ∀ v ∈ vs, v.Fits d
  | fields _ fs => ∀ f ∈ fs, f.2.Fits d

end Part

/-- Read a value that is no list and no object, and has no space before it. -/
def scalar : Text → Result Value
  | [] => stopAt .endInValue []
  | 'n' :: t => word .null "ull".toList t
  | 't' :: t => word (.bool true) "rue".toList t
  | 'f' :: t => word (.bool false) "alse".toList t
  | '"' :: t => (string t).map fun (s, t) => (.str s, t)
  | '-' :: t => number true t
  | t => if startsWithDigit t then number false t else stopPast .noValue t

/-- Reading a value is reading a list, an object or a scalar. -/
theorem value_succ (n d : Nat) (t : Text) :
    value (n + 1) d t =
      match skipSpace t with
      | '[' :: u =>
        if d ≤ 1 then stopPast .tooDeep ('[' :: u)
        else (elements n (d - 1) true u).map fun (vs, t) => (.arr vs, t)
      | '{' :: u =>
        if d ≤ 1 then stopPast .tooDeep ('{' :: u)
        else (fields n (d - 1) true u).map fun (fs, t) => (.obj fs, t)
      | u => scalar u := by
  rw [value]
  split <;> simp_all [scalar]

/-- The reader takes a part off a text and leaves the rest; values have less than `d` levels. -/
inductive Reads : Nat → Part → Text → Text → Prop where
  | scalar {d : Nat} {t u : Text} {v : Value} (h : scalar (skipSpace t) = .ok (v, u)) :
      Reads d (.value v) t u
  | list {d : Nat} {t u w : Text} {vs : List Value} (h : skipSpace t = '[' :: u) (hd : 0 < d)
      (hr : Reads d (.elements true vs) u w) : Reads (d + 1) (.value (.arr vs)) t w
  | object {d : Nat} {t u w : Text} {fs : List (Text × Value)} (h : skipSpace t = '{' :: u)
      (hd : 0 < d) (hr : Reads d (.fields true fs) u w) : Reads (d + 1) (.value (.obj fs)) t w
  | noElement {d : Nat} {first : Bool} {t u : Text} (h : nextElement first t = .ok (false, u)) :
      Reads d (.elements first []) t u
  | element {d : Nat} {first : Bool} {t u w x : Text} {v : Value} {vs : List Value}
      (h : nextElement first t = .ok (true, u)) (hv : Reads d (.value v) u w)
      (hvs : Reads d (.elements false vs) w x) : Reads d (.elements first (v :: vs)) t x
  | noField {d : Nat} {first : Bool} {t u : Text} (h : nextField first t = .ok (false, u)) :
      Reads d (.fields first []) t u
  | field {d : Nat} {first : Bool} {t u w x y k : Text} {v : Value} {fs : List (Text × Value)}
      (h : nextField first t = .ok (true, u)) (hk : key u = .ok (k, w))
      (hv : Reads d (.value v) w x) (hfs : Reads d (.fields false fs) x y) :
      Reads d (.fields first ((k, v) :: fs)) t y

/-! ## What is left is shorter -/

theorem length_skipSpace_le (t : Text) : (skipSpace t).length ≤ t.length :=
  (List.dropWhile_sublist _).length_le

theorem of_word {v w : Value} {es t u : Text} (h : word v es t = .ok (w, u)) :
    w = v ∧ t = es ++ u := by
  induction es generalizing t with
  | nil =>
      obtain ⟨rfl, rfl⟩ := Prod.mk.inj (Except.ok.inj h)
      exact ⟨rfl, rfl⟩
  | cons e es ih =>
      cases t with
      | nil => cases h
      | cons c t =>
          rw [word] at h
          split at h
          · obtain ⟨rfl, rfl⟩ := ih h
            subst c
            exact ⟨rfl, rfl⟩
          · cases h

theorem length_of_nextElement {first b : Bool} {t u : Text} (h : nextElement first t = .ok (b, u)) :
    u.length ≤ t.length := by
  have hskip := length_skipSpace_le t
  rw [nextElement] at h
  split at h
  all_goals rename_i hs
  · cases h
  · obtain ⟨-, rfl⟩ := Prod.mk.inj (Except.ok.inj h)
    rw [hs, List.length_cons] at hskip
    omega
  · rename_i v
    have hskip' := length_skipSpace_le v
    rw [hs, List.length_cons] at hskip
    split at h
    · obtain ⟨-, rfl⟩ := Prod.mk.inj (Except.ok.inj h)
      exact hskip
    · split at h
      · cases h
      · cases h
      · obtain ⟨-, rfl⟩ := Prod.mk.inj (Except.ok.inj h)
        omega
  · split at h
    · obtain ⟨-, rfl⟩ := Prod.mk.inj (Except.ok.inj h)
      exact hskip
    · cases h

theorem length_of_nextField {first b : Bool} {t u : Text} (h : nextField first t = .ok (b, u)) :
    u.length ≤ t.length := by
  have hskip := length_skipSpace_le t
  rw [nextField] at h
  split at h
  all_goals rename_i hs
  · cases h
  · obtain ⟨-, rfl⟩ := Prod.mk.inj (Except.ok.inj h)
    rw [hs, List.length_cons] at hskip
    omega
  · rw [hs, List.length_cons] at hskip
    split at h
    · obtain ⟨-, rfl⟩ := Prod.mk.inj (Except.ok.inj h)
      omega
    · cases h
  · rename_i v
    have hskip' := length_skipSpace_le v
    rw [hs, List.length_cons] at hskip
    split at h
    · cases h
    · split at h
      · cases h
      · obtain ⟨-, rfl⟩ := Prod.mk.inj (Except.ok.inj h)
        rename_i hs'
        rw [hs', List.length_cons] at hskip'
        omega
      · cases h
      · cases h
  · cases h

theorem length_of_key {t u k : Text} (h : key t = .ok (k, u)) : u.length < t.length := by
  rw [key] at h
  split at h
  · cases h
  · rename_i v hv
    have hlength := length_of_string hv
    have hskip := length_skipSpace_le v
    split at h
    · cases h
    · rename_i hs
      obtain ⟨-, rfl⟩ := Prod.mk.inj (Except.ok.inj h)
      rw [hs, List.length_cons] at hskip
      omega
    · cases h

theorem of_scalar {t u : Text} {v : Value} (h : scalar t = .ok (v, u)) :
    (∀ d, v.Fits d) ∧ u.length < t.length := by
  rw [scalar.eq_def] at h
  split at h
  · cases h
  · obtain ⟨rfl, rfl⟩ := of_word h
    exact ⟨fun _ => .null, by simp; omega⟩
  · obtain ⟨rfl, rfl⟩ := of_word h
    exact ⟨fun _ => .bool _, by simp; omega⟩
  · obtain ⟨rfl, rfl⟩ := of_word h
    exact ⟨fun _ => .bool _, by simp; omega⟩
  · obtain ⟨s, hs, rfl⟩ := map_left_eq_ok.1 h
    exact ⟨fun _ => .str s, Nat.lt_succ_of_lt (length_of_string hs)⟩
  · obtain ⟨c, t', rfl, hn⟩ := isNumber_of_number h
    have := hn.length_le
    exact ⟨hn.fits, by simp only [List.length_cons]; omega⟩
  · split at h
    · obtain ⟨c, t', rfl, hn⟩ := isNumber_of_number h
      exact ⟨hn.fits, Nat.lt_succ_of_le hn.length_le⟩
    · cases h

theorem Reads.length_le {d : Nat} {p : Part} {t u : Text} (h : Reads d p t u) :
    u.length + p.least ≤ t.length := by
  induction h with
  | scalar h => exact Nat.le_trans (of_scalar h).2 (length_skipSpace_le _)
  | @list _ t _ _ _ h _ _ ih =>
      have hskip := length_skipSpace_le t
      rw [h, List.length_cons] at hskip
      simp only [Part.least] at ih ⊢
      omega
  | @object _ t _ _ _ h _ _ ih =>
      have hskip := length_skipSpace_le t
      rw [h, List.length_cons] at hskip
      simp only [Part.least] at ih ⊢
      omega
  | noElement h => exact length_of_nextElement h
  | element h _ _ ihv ihvs =>
      have := length_of_nextElement h
      simp only [Part.least] at ihv ihvs ⊢
      omega
  | noField h => exact length_of_nextField h
  | field h hk _ _ ihv ihfs =>
      have := length_of_nextField h
      have := length_of_key hk
      simp only [Part.least] at ihv ihfs ⊢
      omega

/-- What is read fits below the depth that the reader is given. -/
theorem Reads.fits {d : Nat} {p : Part} {t u : Text} (h : Reads d p t u) : p.Fits d := by
  induction h with
  | scalar h => exact (of_scalar h).1 _
  | list _ hd _ ih => exact .arr ih hd
  | object _ hd _ ih => exact .obj ih hd
  | noElement _ => exact fun v hv => absurd hv List.not_mem_nil
  | element _ _ _ ihv ihvs => exact List.forall_mem_cons.2 ⟨ihv, ihvs⟩
  | noField _ => exact fun f hf => absurd hf List.not_mem_nil
  | field _ _ _ _ ihv ihfs => exact List.forall_mem_cons.2 ⟨ihv, ihfs⟩

/-- Only a list is read as one. -/
theorem Reads.of_list {d : Nat} {t u : Text} {vs : List Value}
    (h : Reads (d + 1) (.value (.arr vs)) t u) :
    ∃ w, skipSpace t = '[' :: w ∧ Reads d (.elements true vs) w u := by
  cases h with
  | scalar h => cases (of_scalar h).1 0
  | list h _ hr => exact ⟨_, h, hr⟩

/-- Only an object is read as one. -/
theorem Reads.of_object {d : Nat} {t u : Text} {fs : List (Text × Value)}
    (h : Reads (d + 1) (.value (.obj fs)) t u) :
    ∃ w, skipSpace t = '{' :: w ∧ Reads d (.fields true fs) w u := by
  cases h with
  | scalar h => cases (of_scalar h).1 0
  | object h _ hr => exact ⟨_, h, hr⟩

/-! ## Steps -/

/-- What the reader comes to in some steps is what it reads. -/
theorem reads_of_runsTo (n : Nat) {d : Nat} {p : Part} {t u : Text} (h : p.RunsTo n d t u) :
    Reads d p t u := by
  induction n generalizing d p t u with
  | zero =>
      cases p with
      | value v => cases h
      | elements first vs => cases h
      | fields first fs => cases h
  | succ n ih =>
      cases p with
      | value v =>
          rw [Part.RunsTo, value_succ] at h
          split at h
          · split at h
            · cases h
            · obtain ⟨vs, hvs, rfl⟩ := map_left_eq_ok.1 h
              obtain ⟨d, rfl⟩ : ∃ e, d = e + 1 := ⟨d - 1, by omega⟩
              exact .list ‹_› (by omega) (ih hvs)
          · split at h
            · cases h
            · obtain ⟨fs, hfs, rfl⟩ := map_left_eq_ok.1 h
              obtain ⟨d, rfl⟩ : ∃ e, d = e + 1 := ⟨d - 1, by omega⟩
              exact .object ‹_› (by omega) (ih hfs)
          · exact .scalar h
      | elements first vs =>
          rw [Part.RunsTo, elements] at h
          split at h
          · cases h
          · obtain ⟨rfl, rfl⟩ := Prod.mk.inj (Except.ok.inj h)
            exact .noElement ‹_›
          · split at h
            · cases h
            · rename_i hnext _ v w hv
              obtain ⟨vs, hvs, rfl⟩ := map_left_eq_ok.1 h
              exact .element hnext (ih (p := .value v) hv) (ih hvs)
      | fields first fs =>
          rw [Part.RunsTo, fields] at h
          split at h
          · cases h
          · obtain ⟨rfl, rfl⟩ := Prod.mk.inj (Except.ok.inj h)
            exact .noField ‹_›
          · split at h
            · cases h
            · split at h
              · cases h
              · rename_i hnext _ k w hk _ v x hv
                obtain ⟨fs, hfs, rfl⟩ := map_left_eq_ok.1 h
                exact .field hnext hk (ih (p := .value v) hv) (ih hfs)

theorem value_of_scalar {n d : Nat} {t u : Text} {v : Value}
    (h : scalar (skipSpace t) = .ok (v, u)) : value (n + 1) d t = .ok (v, u) := by
  rw [value_succ]
  split
  · rename_i hs
    rw [hs] at h
    cases h
  · rename_i hs
    rw [hs] at h
    cases h
  · exact h

/-- The reader comes to what it reads in twice as many steps as there are characters. -/
theorem Reads.runsTo {d n : Nat} {p : Part} {t u : Text} (h : Reads d p t u)
    (hn : 2 * t.length + 1 ≤ n + p.least) : p.RunsTo n d t u := by
  have hleast : p.least ≤ 1 := by cases p <;> simp [Part.least]
  have hlength := h.length_le
  obtain ⟨n, rfl⟩ : ∃ m, n = m + 1 := ⟨n - 1, by omega⟩
  clear hleast hlength
  induction h generalizing n with
  | scalar h => exact value_of_scalar h
  | @list d t u w vs h hd hr ih =>
      have hskip := length_skipSpace_le t
      rw [h, List.length_cons] at hskip
      simp only [Part.least] at hn ih
      obtain ⟨n, rfl⟩ : ∃ m, n = m + 1 := ⟨n - 1, by omega⟩
      have helements : elements (n + 1) d true u = .ok (vs, w) := ih n (by omega)
      simp only [Part.RunsTo, value_succ, h, Nat.add_sub_cancel, helements]
      rw [if_neg (by omega)]
      rfl
  | @object d t u w fs h hd hr ih =>
      have hskip := length_skipSpace_le t
      rw [h, List.length_cons] at hskip
      simp only [Part.least] at hn ih
      obtain ⟨n, rfl⟩ : ∃ m, n = m + 1 := ⟨n - 1, by omega⟩
      have hfields : fields (n + 1) d true u = .ok (fs, w) := ih n (by omega)
      simp only [Part.RunsTo, value_succ, h, Nat.add_sub_cancel, hfields]
      rw [if_neg (by omega)]
      rfl
  | noElement h => simp only [Part.RunsTo, elements, h]
  | @element d first t u w x v vs h hv hvs ihv ihvs =>
      have hnext := length_of_nextElement h
      have hlength := hv.length_le
      simp only [Part.least] at hn hlength ihv ihvs
      obtain ⟨n, rfl⟩ : ∃ m, n = m + 1 := ⟨n - 1, by omega⟩
      have hvalue : value (n + 1) d u = .ok (v, w) := ihv n (by omega)
      have hrest : elements (n + 1) d false w = .ok (vs, x) := ihvs n (by omega)
      rw [Part.RunsTo, elements]
      simp only [h, hvalue, hrest]
      rfl
  | noField h => simp only [Part.RunsTo, fields, h]
  | @field d first t u w x y k v fs h hk hv hfs ihv ihfs =>
      have hnext := length_of_nextField h
      have hkey := length_of_key hk
      have hlength := hv.length_le
      simp only [Part.least] at hn hlength ihv ihfs
      obtain ⟨n, rfl⟩ : ∃ m, n = m + 1 := ⟨n - 1, by omega⟩
      have hvalue : value (n + 1) d w = .ok (v, x) := ihv n (by omega)
      have hrest : fields (n + 1) d false x = .ok (fs, y) := ihfs n (by omega)
      rw [Part.RunsTo, fields]
      simp only [h, hk, hvalue, hrest]
      rfl

/-- A value is read in the steps that there are for the text. -/
theorem value_eq_ok {d : Nat} {t u : Text} {v : Value} :
    value (steps t) d t = .ok (v, u) ↔ Reads d (.value v) t u := by
  constructor
  · exact fun h => reads_of_runsTo (p := .value v) (steps t) h
  · intro h
    exact h.runsTo (by rw [steps, Part.least]; omega)

theorem finish_eq_ok {α : Type} {a b : α} {t : Text} :
    finish a t = .ok b ↔ a = b ∧ skipSpace t = [] := by
  rw [finish]
  split
  · rename_i h
    simp [h]
  · rename_i h
    simp only [reduceCtorEq, false_iff, not_and]
    exact fun _ => h

/-- Reading a whole text is reading a value and nothing but space after it. -/
theorem Value.parse_eq_ok {t : Text} {v : Value} :
    Value.parse t = .ok v ↔ ∃ u, Reads maxDepth (.value v) t u ∧ skipSpace u = [] := by
  rw [Value.parse]
  constructor
  · intro h
    split at h
    · cases h
    · rename_i w u hw
      obtain ⟨rfl, hu⟩ := finish_eq_ok.1 h
      exact ⟨u, value_eq_ok.1 hw, hu⟩
  · rintro ⟨u, hv, hu⟩
    rw [value_eq_ok.2 hv]
    exact finish_eq_ok.2 ⟨rfl, hu⟩

end CellScript.Json
