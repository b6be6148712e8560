import Mathlib.Data.List.Induction
import Mathlib.Data.List.TakeWhile
import CellScript.Command.Convert
import CellScript.Proofs.Files.Entries
import CellScript.Proofs.Text.Rows

set_option autoImplicit false

/-! # Names in paths

A file name is a name that says where to go: not empty, not a dot or two, and without a slash. A path
that ends in one has it for its name (`name?_append`); with another extension only
the end of that name changes (`withExtension_append`). What stands before such a name is empty or
ends in a slash, which is what joining paths gives (`exists_front_join`), and names that are joined
to a path lead on from where it leads (`FileSystem.resolve_join`). -/

namespace CellScript.Path

/-! ## Pieces -/

theorem pieces_ne_nil (p : Text) : pieces p ≠ [] := by
  unfold pieces
  split
  · exact List.cons_ne_nil _ _
  · split
    · exact List.cons_ne_nil _ _
    · split <;> exact List.cons_ne_nil _ _

theorem pieces_slash (p : Text) : pieces ('/' :: p) = [] :: pieces p := by
  rw [pieces, if_pos rfl]

theorem exists_pieces_cons {c : Char} (hc : c ≠ '/') (p : Text) :
    ∃ q qs, pieces p = q :: qs ∧ pieces (c :: p) = (c :: q) :: qs := by
  obtain ⟨q, qs, hq⟩ := List.exists_cons_of_ne_nil (pieces_ne_nil p)
  exact ⟨q, qs, hq, by rw [pieces, if_neg hc, hq]⟩

theorem pieces_of_not_mem {n : Text} (h : '/' ∉ n) : pieces n = [n] := by
  induction n with
  | nil => rfl
  | cons c n ih =>
      obtain ⟨q, qs, hq, hcons⟩ := exists_pieces_cons (List.ne_of_not_mem_cons h).symm n
      rw [ih (List.not_mem_of_not_mem_cons h)] at hq
      obtain ⟨rfl, rfl⟩ := List.cons.inj hq
      exact hcons

theorem pieces_append_slash (p q : Text) : pieces (p ++ '/' :: q) = pieces p ++ pieces q := by
  induction p with
  | nil => exact pieces_slash q
  | cons c p ih =>
      by_cases hc : c = '/'
      · subst hc
        rw [List.cons_append, pieces_slash, pieces_slash, ih, List.cons_append]
      · obtain ⟨r, rs, hr, hcons⟩ := exists_pieces_cons hc p
        obtain ⟨r', rs', hr', hcons'⟩ := exists_pieces_cons hc (p ++ '/' :: q)
        rw [ih, hr, List.cons_append] at hr'
        obtain ⟨rfl, rfl⟩ := List.cons.inj hr'
        rw [List.cons_append, hcons', hcons, List.cons_append]

/-! ## File names -/

/-- A name that a file or a directory can have. -/
structure IsFileName (n : Text) : Prop where
  ne_nil : n ≠ []
  ne_dot : n ≠ ['.']
  ne_dots : n ≠ ['.', '.']
  not_mem : '/' ∉ n

instance (n : Text) : Decidable (IsFileName n) :=
  decidable_of_iff (n ≠ [] ∧ n ≠ ['.'] ∧ n ≠ ['.', '.'] ∧ '/' ∉ n)
    ⟨fun ⟨h₁, h₂, h₃, h₄⟩ => ⟨h₁, h₂, h₃, h₄⟩, fun h => ⟨h.1, h.2, h.3, h.4⟩⟩

theorem IsFileName.partOf?_eq {n : Text} (h : IsFileName n) : partOf? n = some (.name n) := by
  rw [partOf?, if_neg (by simp [h.ne_nil, h.ne_dot]), if_neg h.ne_dots]

/-- What may stand before the last name of a path. -/
def IsFront (front : Path) : Prop := front = [] ∨ front.getLast? = some '/'

theorem IsFront.append {front front' : Path} (hf : IsFront front) (hf' : IsFront front') :
    IsFront (front ++ front') := by
  rcases hf' with rfl | hf'
  · rwa [List.append_nil]
  · exact .inr (by rw [List.getLast?_append, hf', Option.some_or])

/-- The pieces before a name are the same for every path that ends in it. -/
theorem IsFront.exists_pieces {front : Path} (hf : IsFront front) :
    ∃ ps, ∀ q, pieces (front ++ q) = ps ++ pieces q := by
  rcases hf with rfl | hf
  · exact ⟨[], fun q => rfl⟩
  · obtain ⟨p, rfl⟩ := List.getLast?_eq_some_iff.1 hf
    refine ⟨pieces p, fun q => ?_⟩
    rw [List.append_assoc, List.singleton_append, pieces_append_slash]

theorem name?_append {front n : Text} (hf : IsFront front) (h : IsFileName n) :
    name? (front ++ n) = some n := by
  obtain ⟨ps, hps⟩ := hf.exists_pieces
  rw [name?, parts, hps, pieces_of_not_mem h.not_mem, List.filterMap_append,
    List.filterMap_cons_some h.partOf?_eq,
    List.filterMap_nil, ← List.append_assoc, List.getLast?_concat]

theorem dropIdle_eq_self {t : Text} (hslash : t.head? ≠ some '/') (hdot : ¬ ['.', '/'] <+: t) :
    dropIdle t = t := by
  unfold dropIdle
  split
  · exact absurd rfl hslash
  · exact absurd rfl hslash
  · exact absurd List.prefix_rfl hdot
  · exact absurd ⟨_, rfl⟩ hdot
  · rfl

/-- A path that ends in a name has nothing idle at its end. -/
theorem trimmed_append {n : Text} (h : IsFileName n) (front : Path) :
    trimmed (front ++ n) = front ++ n := by
  obtain ⟨c, rest, hrev⟩ : ∃ c rest, n.reverse = c :: rest :=
    List.exists_cons_of_ne_nil (by simpa using h.ne_nil)
  have hmem : ∀ d ∈ c :: rest, d ≠ '/' := by
    intro d hd hslash
    rw [← hrev, List.mem_reverse] at hd
    exact h.not_mem (hslash ▸ hd)
  rw [trimmed, List.reverse_append, hrev, List.cons_append, dropIdle_eq_self, ← List.cons_append,
    ← hrev, ← List.reverse_append, List.reverse_reverse]
  · exact fun hc => hmem c List.mem_cons_self (Option.some.inj hc)
  · intro hdot
    obtain ⟨rfl, hrest⟩ := List.cons_prefix_cons.1 hdot
    cases rest with
    | nil => exact h.ne_dot (by rw [← List.reverse_reverse n, hrev]; rfl)
    | cons d rest =>
        obtain ⟨rfl, -⟩ := List.cons_prefix_cons.1 hrest
        exact hmem _ (by simp) rfl

theorem withExtension_append {front n : Text} (hf : IsFront front) (h : IsFileName n) (e : Text) :
    withExtension (front ++ n) e = front ++ ((splitName n).1 ++ '.' :: e) := by
  have htake : (front ++ n).take ((front ++ n).length - n.length) = front := by
    rw [List.length_append, Nat.add_sub_cancel, List.take_left]
  rw [withExtension, name?_append hf h]
  dsimp only
  rw [trimmed_append h, htake, List.append_assoc]

theorem extension?_append {front n : Text} (hf : IsFront front) (h : IsFileName n) :
    extension? (front ++ n) = (splitName n).2 := by
  rw [extension?, name?_append hf h]
  rfl

/-! ## Names with extensions -/

theorem splitName_append {stem e : Text} (he : '.' ∉ e) :
    splitName (stem ++ '.' :: e) =
      if stem = [] then (stem ++ '.' :: e, none) else (stem, some e) := by
  have hrev : (stem ++ '.' :: e).reverse = e.reverse ++ '.' :: stem.reverse := by simp
  have htake : (e.reverse ++ '.' :: stem.reverse).takeWhile (· ≠ '.') = e.reverse := by
    rw [List.takeWhile_append_of_pos fun c hc => ?_]
    · simp
    · simpa using fun heq : c = '.' => he (heq ▸ List.mem_reverse.1 hc)
  rw [splitName, hrev, htake, List.drop_left]
  by_cases hstem : stem = []
  · subst hstem
    rfl
  · rw [if_neg hstem]
    split
    · next h => cases h
    · next h =>
        rw [List.cons.injEq, List.reverse_eq_nil_iff] at h
        exact absurd h.2 hstem
    · next h =>
        obtain ⟨-, rfl⟩ := List.cons.inj h
        rw [List.reverse_reverse, List.reverse_reverse]

theorem splitName_of_not_mem {n : Text} (h : '.' ∉ n) : splitName n = (n, none) := by
  have htake : n.reverse.takeWhile (· ≠ '.') = n.reverse := by
    rw [List.takeWhile_eq_self_iff]
    intro c hc
    simpa using fun heq : c = '.' => h (heq ▸ List.mem_reverse.1 hc)
  rw [splitName, htake, List.drop_length]

/-- The extension of a name stands after its last dot, and something stands before that. -/
theorem splitName_eq_some_iff {n stem e : Text} :
    splitName n = (stem, some e) ↔ n = stem ++ '.' :: e ∧ '.' ∉ e ∧ stem ≠ [] := by
  constructor
  · intro h
    by_cases hdot : '.' ∈ n
    · obtain ⟨back, front, hrev, hback⟩ :=
        List.eq_append_cons_of_mem (List.mem_reverse.2 hdot)
      obtain rfl : n = front.reverse ++ '.' :: back.reverse := by
        rw [← List.reverse_reverse n, hrev]
        simp
      have he : '.' ∉ back.reverse := fun hmem => hback (List.mem_reverse.1 hmem)
      rw [splitName_append he] at h
      split at h
      · cases h
      · next hne =>
          obtain ⟨rfl, he'⟩ := Prod.mk.inj h
          obtain rfl := Option.some.inj he'
          exact ⟨rfl, he, hne⟩
    · rw [splitName_of_not_mem hdot] at h
      cases h
  · rintro ⟨rfl, he, hstem⟩
    rw [splitName_append he, if_neg hstem]

/-! ## Lists of names -/

/-- What stands before the last of some names in their path. -/
def frontOf (names : List Text) : Path := names.flatMap (· ++ ['/'])

theorem isFront_frontOf (names : List Text) : IsFront (frontOf names) := by
  induction names using List.reverseRecOn with
  | nil => exact .inl rfl
  | append_singleton names n _ =>
      refine .inr ?_
      rw [frontOf, List.flatMap_append, List.flatMap_singleton, ← List.append_assoc]
      exact List.getLast?_concat

theorem ofNames_concat (names : List Text) (n : Text) :
    ofNames (names ++ [n]) = frontOf names ++ n := by
  rw [ofNames, Text.joinWith_append_cons, List.flatMap_nil, List.append_nil, frontOf]

theorem pieces_ofNames {names : List Text} (hne : names ≠ []) (h : ∀ n ∈ names, '/' ∉ n) :
    pieces (ofNames names) = names := by
  induction names with
  | nil => exact absurd rfl hne
  | cons n rest ih =>
      have hn := pieces_of_not_mem (h n List.mem_cons_self)
      cases rest with
      | nil => exact hn
      | cons m ms =>
          have hjoin : ofNames (n :: m :: ms) = n ++ '/' :: ofNames (m :: ms) := by
            simp [ofNames, Text.joinWith]
          rw [hjoin, pieces_append_slash, hn,
            ih (List.cons_ne_nil m ms) fun x hx => h x (List.mem_cons_of_mem n hx)]
          rfl

/-- What a path becomes when others are put after it. -/
def base (p : Path) : Path := if p = [] ∨ p.getLast? = some '/' then p else p ++ ['/']

theorem isFront_base (p : Path) : IsFront (base p) := by
  unfold base
  split
  · next h => exact h
  · exact .inr List.getLast?_concat

theorem isAbsolute_ofNames {names : List Text} (h : ∀ n ∈ names, IsFileName n) :
    (ofNames names).isAbsolute = false := by
  cases names with
  | nil => rfl
  | cons n rest =>
      have hn := h n List.mem_cons_self
      obtain ⟨c, cs, rfl⟩ := List.exists_cons_of_ne_nil hn.ne_nil
      have hc : c ≠ '/' := (List.ne_of_not_mem_cons hn.not_mem).symm
      obtain ⟨t, ht⟩ : ∃ t, ofNames ((c :: cs) :: rest) = c :: t := by
        cases rest with
        | nil => exact ⟨cs, rfl⟩
        | cons m ms => exact ⟨cs ++ '/' :: ofNames (m :: ms), by simp [ofNames, Text.joinWith]⟩
      rw [ht, isAbsolute]
      exact fun t' heq => hc (List.cons.inj heq).1

theorem join_ofNames (p : Path) {names : List Text} (h : ∀ n ∈ names, IsFileName n) :
    join p (ofNames names) = base p ++ ofNames names := by
  rw [join, isAbsolute_ofNames h, base]
  split
  · next h => cases h
  · split <;> simp

theorem isAbsolute_append {p : Path} (q : Text) (h : p ≠ []) :
    (p ++ q).isAbsolute = p.isAbsolute := by
  obtain ⟨c, cs, rfl⟩ := List.exists_cons_of_ne_nil h
  by_cases hc : c = '/'
  · subst hc
    rfl
  · rw [List.cons_append, isAbsolute, isAbsolute]
    · exact fun _ heq => hc (List.cons.inj heq).1
    · exact fun _ heq => hc (List.cons.inj heq).1

/-- A file below a directory, by a path: a name after what may stand before one. -/
theorem exists_front_join (p : Path) {names : List Text} {n : Text}
    (h : ∀ x ∈ names ++ [n], IsFileName x) :
    join p (ofNames (names ++ [n])) = (base p ++ frontOf names) ++ n ∧
      IsFront (base p ++ frontOf names) := by
  rw [join_ofNames p h, ofNames_concat, List.append_assoc]
  exact ⟨rfl, (isFront_base p).append (isFront_frontOf names)⟩

end CellScript.Path

namespace CellScript

open CellScript.Path

/-! ## Where paths lead -/

namespace FileSystem

variable {fs : FileSystem} {here ns names : List Text}

/-- A walk over names goes down. -/
theorem eq_append_of_walk (h : ∀ n ∈ names, IsFileName n) (hw : fs.walk here names = .ok ns) :
    ns = here ++ names := by
  induction names generalizing here with
  | nil => rw [← Except.ok.inj hw, List.append_nil]
  | cons n rest ih =>
      have hn := h n List.mem_cons_self
      rw [walk_cons_of_directory n rest (get?_of_walk_cons hw),
        if_neg (by simp [hn.ne_nil, hn.ne_dot]), if_neg hn.ne_dots] at hw
      rw [ih (fun x hx => h x (List.mem_cons_of_mem n hx)) hw, List.append_assoc]
      rfl

/-- Names are walked over where everything before the last of them is a directory. -/
theorem walk_names (h : ∀ n ∈ names, IsFileName n)
    (hdirs : ∀ front, front <+: names → front ≠ names → fs.get? (here ++ front) = some .directory) :
    fs.walk here names = .ok (here ++ names) := by
  induction names generalizing here with
  | nil => rw [walk, List.append_nil]
  | cons n rest ih =>
      have hn := h n List.mem_cons_self
      have hhere := hdirs [] List.nil_prefix (List.cons_ne_nil n rest).symm
      rw [List.append_nil] at hhere
      rw [walk_cons_of_directory n rest hhere, if_neg (by simp [hn.ne_nil, hn.ne_dot]),
        if_neg hn.ne_dots, ih (fun x hx => h x (List.mem_cons_of_mem n hx)), List.append_assoc]
      · rfl
      · intro front hfront hne
        rw [List.append_assoc, List.singleton_append]
        refine hdirs (n :: front) (List.cons_prefix_cons.2 ⟨rfl, hfront⟩) fun heq => ?_
        exact hne (List.cons.inj heq).2

/-- Paths below a path start with the same walk. -/
theorem exists_walk_join (cwd : List Text) (p : Path) :
    ∃ start ps, ∀ (fs : FileSystem) (names : List Text), names ≠ [] →
      (∀ n ∈ names, IsFileName n) →
        fs.resolve cwd (join p (ofNames names)) = fs.walk start (ps ++ names) := by
  obtain ⟨ps, hps⟩ := (isFront_base p).exists_pieces
  refine ⟨if (base p).isAbsolute then [] else cwd, ps, fun fs names hne h => ?_⟩
  have hnames := pieces_ofNames hne fun n hn => (h n hn).not_mem
  have habs : (base p ++ ofNames names).isAbsolute = (base p).isAbsolute := by
    by_cases hb : base p = []
    · rw [hb, List.nil_append, isAbsolute_ofNames h]
      rfl
    · exact isAbsolute_append _ hb
  have hpath : base p ++ ofNames names ≠ [] := by
    intro heq
    obtain ⟨n, rest, rfl⟩ := List.exists_cons_of_ne_nil hne
    rw [(List.append_eq_nil_iff.1 heq).2] at hnames
    exact (h n List.mem_cons_self).ne_nil (List.cons.inj hnames).1.symm
  rw [join_ofNames p h, resolve, if_neg hpath, habs, hps, hnames]

/-- A walk over a path goes on with what is put after the path. -/
theorem walk_base_append {p : Path} (hw : fs.walk here (pieces p) = .ok ns) (q : Text) :
    fs.walk here (pieces (base p ++ q)) = fs.walk ns (pieces q) := by
  by_cases hp : p = []
  · subst hp
    rw [pieces, walk_cons_of_directory _ _ (get?_of_walk_cons hw), if_pos (.inl rfl), walk] at hw
    obtain rfl := Except.ok.inj hw
    rfl
  · by_cases hlast : p.getLast? = some '/'
    · obtain ⟨o, rfl⟩ := List.getLast?_eq_some_iff.1 hlast
      have hbase : base (o ++ ['/']) = o ++ ['/'] := if_pos (.inr hlast)
      -- the last piece of the path is empty and leads nowhere
      rw [pieces_append_slash, walk_append] at hw
      obtain ⟨mid, hmid, hidle⟩ := bind_eq_ok.1 hw
      rw [pieces, walk_cons_of_directory _ _ (get?_of_walk_cons hidle), if_pos (.inl rfl),
        walk] at hidle
      obtain rfl := Except.ok.inj hidle
      rw [hbase, List.append_assoc, List.singleton_append, pieces_append_slash, walk_append, hmid]
      rfl
    · have hbase : base p = p ++ ['/'] := if_neg (by simp [hp, hlast])
      rw [hbase, List.append_assoc, List.singleton_append, pieces_append_slash, walk_append, hw]
      rfl

/-- Below a path the names go on from where it leads. -/
theorem resolve_join {cwd dir : List Text} {p : Path} (hp : fs.resolve cwd p = .ok dir)
    (hne : names ≠ []) (h : ∀ n ∈ names, IsFileName n) :
    fs.resolve cwd (join p (ofNames names)) = fs.walk dir names := by
  unfold resolve at hp
  split at hp
  · cases hp
  · next hpath =>
      have hbase : (base p).isAbsolute = p.isAbsolute := by
        unfold base
        split
        · rfl
        · exact isAbsolute_append _ hpath
      have hnil : base p ≠ [] := by
        unfold base
        split
        · exact hpath
        · simp
      have hpieces := walk_base_append hp (ofNames names)
      rw [pieces_ofNames hne fun n hn => (h n hn).not_mem] at hpieces
      rw [join_ofNames p h, resolve, if_neg (by simp [hnil]), isAbsolute_append _ hnil, hbase,
        hpieces]

end FileSystem

end CellScript
