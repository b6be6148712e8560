import Mathlib.Data.List.MinMax
import Mathlib.Data.List.Nodup
import Mathlib.Data.List.Pairwise
import CellScript.Proofs.Files.Names
import CellScript.Proofs.Text.Table

set_option autoImplicit false

/-! # Files below a directory

In a file system that is in order (`WellFormed`) a directory has what is at one name more
(`mem_children`), and the files below it are those at the names that go on from it
(`mem_filesBelow`), each of them once. The files of a format among them are selected by the end of
the last name (`mem_selected`), in the order of their names (`selected_sorted`). Their outputs have
the same names up to that end (`outputPath_eq`), and outputs that lead to one file are those
of files with the same names up to there (`stemNames_eq_of_resolve`). -/

namespace CellScript

open CellScript.Path

/-! ## Formats of names -/

/-- The last of the names ends in the extension of a format, in upper or lower case, after a dot
that is not at its start. -/
def HasFormat (names : List Text) (f : Format) : Prop :=
  ∃ front stem e, names = front ++ [stem ++ '.' :: e] ∧ stem ≠ [] ∧ '.' ∉ e ∧
    e.map Char.toLower = f.extension.toList

/-- The format of a document, by the last of the names that lead to it. -/
def formatOf? (names : List Text) : Option Format :=
  names.getLast?.bind fun n => (splitName n).2.bind Format.ofExtension?

theorem ofExtension?_eq_some_iff {e : Text} {f : Format} :
    Format.ofExtension? e = some f ↔ e.map Char.toLower = f.extension.toList := by
  constructor
  · intro h
    unfold Format.ofExtension? at h
    have hf := List.find?_some h
    exact (eq_of_beq hf).symm
  · intro h
    unfold Format.ofExtension?
    rw [h]
    cases f <;> rfl

theorem formatOf?_eq_some_iff {names : List Text} {f : Format} :
    formatOf? names = some f ↔ HasFormat names f := by
  constructor
  · intro h
    obtain ⟨n, hn, hf⟩ := Option.bind_eq_some_iff.1 h
    obtain ⟨e, he, hf⟩ := Option.bind_eq_some_iff.1 hf
    obtain ⟨front, rfl⟩ := List.getLast?_eq_some_iff.1 hn
    obtain ⟨hsplit, hdot, hstem⟩ := splitName_eq_some_iff.1 (Prod.ext rfl he)
    exact ⟨front, _, e, by rw [← hsplit], hstem, hdot, ofExtension?_eq_some_iff.1 hf⟩
  · rintro ⟨front, stem, e, rfl, hstem, hdot, he⟩
    rw [formatOf?, List.getLast?_concat, Option.bind_some,
      splitName_eq_some_iff.2 ⟨rfl, hdot, hstem⟩]
    exact ofExtension?_eq_some_iff.2 he

theorem HasFormat.unique {names : List Text} {f f' : Format} (h : HasFormat names f)
    (h' : HasFormat names f') : f = f' :=
  Option.some.inj ((formatOf?_eq_some_iff.2 h).symm.trans (formatOf?_eq_some_iff.2 h'))

theorem HasFormat.append {names : List Text} {f : Format} (h : HasFormat names f)
    (dir : List Text) : HasFormat (dir ++ names) f := by
  obtain ⟨front, stem, e, rfl, hstem⟩ := h
  exact ⟨dir ++ front, stem, e, by rw [List.append_assoc], hstem⟩

theorem HasFormat.of_append {dir names : List Text} {f : Format} (h : HasFormat (dir ++ names) f)
    (hne : names ≠ []) : HasFormat names f := by
  rw [← formatOf?_eq_some_iff, formatOf?] at h ⊢
  rwa [List.getLast?_append_of_ne_nil dir hne] at h

/-- Wherever a path leads, the format stays that of the path. -/
theorem hasFormat_of_resolve {fs : FileSystem} {cwd ns : List Text} {p : Path} {f : Format}
    (hr : fs.resolve cwd p = .ok ns) (hf : Format.ofPath? p = some f) : HasFormat ns f := by
  obtain ⟨e, he, hf⟩ := Option.bind_eq_some_iff.1 hf
  obtain ⟨n, hn, he⟩ := Option.bind_eq_some_iff.1 he
  rw [← formatOf?_eq_some_iff, formatOf?, FileSystem.getLast?_of_resolve hr hn, Option.bind_some, he]
  exact hf

theorem join_nil (p : Path) : join [] p = p := by
  unfold join
  split <;> rfl

/-- The format of a path that is made of names. -/
theorem ofPath?_join {names : List Text} {f : Format} (p : Path)
    (h : ∀ n ∈ names, IsFileName n) (hne : names ≠ []) :
    Format.ofPath? (join p (ofNames names)) = some f ↔ HasFormat names f := by
  obtain ⟨front, n, rfl⟩ := (List.eq_nil_or_concat' names).resolve_left hne
  obtain ⟨hjoin, hfront⟩ := exists_front_join p h
  rw [← formatOf?_eq_some_iff, formatOf?, List.getLast?_concat, Format.ofPath?, hjoin,
    extension?_append hfront (h n (by simp))]
  rfl

/-! ## Trees -/

namespace FileSystem

/-- A file system that is in order: nothing is there twice, all names are file names, and what is
above an entry is a directory. -/
structure WellFormed (fs : FileSystem) : Prop where
  nodup : (fs.map Prod.fst).Nodup
  names : ∀ f ∈ fs, f.1 ≠ [] ∧ ∀ n ∈ f.1, IsFileName n
  above : ∀ f ∈ fs, fs.get? f.1.dropLast = some .directory

instance (fs : FileSystem) : Decidable fs.WellFormed :=
  decidable_of_iff ((fs.map Prod.fst).Nodup ∧ (∀ f ∈ fs, f.1 ≠ [] ∧ ∀ n ∈ f.1, IsFileName n) ∧
      ∀ f ∈ fs, fs.get? f.1.dropLast = some .directory)
    ⟨fun ⟨h₁, h₂, h₃⟩ => ⟨h₁, h₂, h₃⟩, fun h => ⟨h.1, h.2, h.3⟩⟩

variable {fs : FileSystem} {ns names dir : List Text}

theorem mem_iff_lookup (h : (fs.map Prod.fst).Nodup) {e : Entry} :
    (names, e) ∈ fs ↔ fs.lookup names = some e := by
  rw [List.lookup_eq_some_iff]
  constructor
  · intro hmem
    obtain ⟨before, after, rfl⟩ := List.append_of_mem hmem
    refine ⟨before, after, rfl, fun f hf => ?_⟩
    rw [List.map_append, List.map_cons, List.nodup_middle, List.nodup_cons] at h
    have hne : names ≠ f.1 := fun heq =>
      h.1 (List.mem_append_left _ (List.mem_map.2 ⟨f, hf, heq.symm⟩))
    simpa using hne
  · rintro ⟨before, after, rfl, -⟩
    simp

theorem WellFormed.mem_iff_get? (h : fs.WellFormed) {e : Entry} (hne : names ≠ []) :
    (names, e) ∈ fs ↔ fs.get? names = some e := by
  rw [mem_iff_lookup h.nodup, get?, if_neg hne]

/-- The names of an entry are file names. -/
theorem WellFormed.isFileName (h : fs.WellFormed) {e : Entry}
    (he : fs.get? (dir ++ names) = some e) : ∀ n ∈ names, IsFileName n := by
  intro n hn
  have hne : dir ++ names ≠ [] := fun heq => by
    rw [(List.append_eq_nil_iff.1 heq).2] at hn
    cases hn
  exact (h.names _ ((h.mem_iff_get? hne).2 he)).2 n (List.mem_append_right dir hn)

/-- Everything above an entry is a directory. -/
theorem WellFormed.directory (h : fs.WellFormed) {e : Entry} (he : fs.get? ns = some e)
    {front : List Text} (hfront : front <+: ns) (hne : front ≠ ns) :
    fs.get? front = some .directory := by
  induction ns using List.reverseRecOn generalizing e with
  | nil => exact absurd (List.prefix_nil.1 hfront) hne
  | append_singleton ns n ih =>
      have habove := h.above _ ((h.mem_iff_get? (by simp)).2 he)
      rw [List.dropLast_concat] at habove
      rcases List.prefix_concat_iff.1 hfront with heq | hfront
      · exact absurd heq hne
      · by_cases heq : front = ns
        · exact heq ▸ habove
        · exact ih habove hfront heq

/-- The first of the names to an entry below a directory leads to the entry itself, or to a
directory. -/
theorem WellFormed.get?_first (h : fs.WellFormed) {e : Entry} {n : Text} {rest : List Text}
    (he : fs.get? (dir ++ n :: rest) = some e) :
    rest = [] ∧ fs.get? (dir ++ [n]) = some e ∨
      rest ≠ [] ∧ fs.get? (dir ++ [n]) = some .directory := by
  by_cases hrest : rest = []
  · subst hrest
    exact .inl ⟨rfl, he⟩
  · refine .inr ⟨hrest, h.directory he ⟨rest, by simp⟩ fun heq => hrest ?_⟩
    rw [List.append_right_inj, List.cons.injEq] at heq
    exact heq.2.symm

/-- The names that lead to an entry are no more than the depth. -/
theorem WellFormed.length_le_depth (h : fs.WellFormed) {e : Entry} (he : fs.get? names = some e) :
    names.length ≤ fs.depth := by
  by_cases hne : names = []
  · subst hne
    exact Nat.zero_le _
  · refine List.le_max_of_le' 0 (List.mem_map.2 ⟨_, (h.mem_iff_get? hne).2 he, rfl⟩) (le_refl _)

/-- Below a directory a file has a name. -/
theorem ne_nil_of_file (hdir : fs.get? dir = some .directory) {c : Content}
    (hc : fs.get? (dir ++ names) = some (.file c)) : names ≠ [] := by
  rintro rfl
  rw [List.append_nil, hdir] at hc
  cases hc

theorem childName_eq_some_iff {f : List Text × Entry} {n : Text} :
    (if f.1.dropLast = dir then f.1.getLast? else none) = some n ↔ f.1 = dir ++ [n] := by
  constructor
  · intro h
    split at h
    · next hdir =>
        obtain ⟨front, hfront⟩ := List.getLast?_eq_some_iff.1 h
        rw [hfront, List.dropLast_concat] at hdir
        rw [hfront, hdir]
    · cases h
  · intro h
    rw [h, if_pos List.dropLast_concat, List.getLast?_concat]

/-- What is in a directory is there at one more name. -/
theorem WellFormed.mem_children (h : fs.WellFormed) {n : Text} :
    n ∈ fs.children dir ↔ ∃ e, fs.get? (dir ++ [n]) = some e := by
  rw [children, List.mem_filterMap]
  constructor
  · rintro ⟨⟨ns, e⟩, hmem, hlast⟩
    obtain rfl : ns = dir ++ [n] := childName_eq_some_iff.1 hlast
    exact ⟨e, (h.mem_iff_get? (by simp)).1 hmem⟩
  · rintro ⟨e, he⟩
    exact ⟨_, (h.mem_iff_get? (by simp)).2 he, childName_eq_some_iff.2 rfl⟩

theorem nodup_children (h : (fs.map Prod.fst).Nodup) (dir : List Text) : (fs.children dir).Nodup := by
  rw [children, List.Nodup, List.pairwise_filterMap]
  refine (List.pairwise_map.1 h).imp fun hne n hn n' hn' heq => hne ?_
  rw [childName_eq_some_iff.1 hn, childName_eq_some_iff.1 hn', heq]

/-! ## The files below a directory -/

/-- What an entry gives below a directory. -/
def below (recursive : Bool) (dir : List Text) (f : List Text × Entry) : Option (List Text) :=
  match f.2 with
  | .directory => none
  | .file _ =>
    if dir.isPrefixOf f.1 then
      if recursive ∨ (f.1.drop dir.length).length = 1 then some (f.1.drop dir.length) else none
    else none

/-- The files in a directory, by the names that lead to them from there; with `recursive` also those
in the directories below it. -/
def filesBelow (fs : FileSystem) (recursive : Bool) (dir : List Text) : List (List Text) :=
  fs.filterMap (below recursive dir)

theorem below_eq_some_iff {recursive : Bool} {f : List Text × Entry} :
    below recursive dir f = some names ↔
      f.1 = dir ++ names ∧ (∃ c, f.2 = .file c) ∧ (recursive ∨ names.length = 1) := by
  obtain ⟨ns, e⟩ := f
  unfold below
  cases e with
  | directory => simp
  | file c =>
      dsimp only
      constructor
      · intro h
        split at h
        · next hprefix =>
            obtain ⟨rest, rfl⟩ := List.isPrefixOf_iff_prefix.1 hprefix
            rw [List.drop_left] at h
            split at h
            · next hdeep =>
                obtain rfl := Option.some.inj h
                exact ⟨rfl, ⟨c, rfl⟩, hdeep⟩
            · cases h
        · cases h
      · rintro ⟨rfl, -, hdeep⟩
        rw [if_pos (List.isPrefixOf_iff_prefix.2 (List.prefix_append dir names)), List.drop_left,
          if_pos hdeep]

theorem mem_filesBelow (h : fs.WellFormed) {recursive : Bool} :
    names ∈ fs.filesBelow recursive dir ↔
      (∃ c, fs.get? (dir ++ names) = some (.file c)) ∧ (recursive ∨ names.length = 1) := by
  rw [filesBelow, List.mem_filterMap]
  constructor
  · rintro ⟨⟨ns, e⟩, hmem, hbelow⟩
    obtain ⟨rfl, ⟨c, rfl⟩, hdeep⟩ := below_eq_some_iff.1 hbelow
    exact ⟨⟨c, (h.mem_iff_get? (h.names _ hmem).1).1 hmem⟩, hdeep⟩
  · rintro ⟨⟨c, hc⟩, hdeep⟩
    have hne : dir ++ names ≠ [] := by
      intro heq
      rw [heq] at hc
      cases hc
    exact ⟨_, (h.mem_iff_get? hne).2 hc, below_eq_some_iff.2 ⟨rfl, ⟨c, rfl⟩, hdeep⟩⟩

theorem nodup_filesBelow (h : (fs.map Prod.fst).Nodup) (recursive : Bool) (dir : List Text) :
    (fs.filesBelow recursive dir).Nodup := by
  rw [filesBelow, List.Nodup, List.pairwise_filterMap]
  refine (List.pairwise_map.1 h).imp fun hne b hb b' hb' heq => hne ?_
  rw [(below_eq_some_iff.1 hb).1, (below_eq_some_iff.1 hb').1, heq]

end FileSystem

/-! ## The files of a format -/

namespace Path

/-- The order of names is the order of lists of texts. -/
theorem namesPrecede_iff_lt (a b : List Text) : namesPrecede a b = true ↔ a < b := by
  induction a generalizing b with
  | nil =>
      cases b with
      | nil => simp [namesPrecede]
      | cons t b => simp [namesPrecede]
  | cons s a ih =>
      cases b with
      | nil => simp [namesPrecede]
      | cons t b =>
          rw [namesPrecede, List.cons_lt_cons_iff, Bool.or_eq_true, Bool.and_eq_true, ih,
            Text.precedes_iff_lt, beq_iff_eq]

end Path

namespace Command

variable {ns : List (List Text)} {n m : List Text}

theorem mem_insertNames : m ∈ insertNames n ns ↔ m = n ∨ m ∈ ns := by
  induction ns with
  | nil => simp [insertNames]
  | cons n' ns ih =>
      rw [insertNames]
      split
      · rw [List.mem_cons, ih, List.mem_cons]
        exact or_left_comm
      · rw [List.mem_cons]

theorem mem_sortedNames : m ∈ sortedNames ns ↔ m ∈ ns := by
  induction ns with
  | nil => rfl
  | cons n ns ih =>
      rw [sortedNames, List.foldr_cons, mem_insertNames, ← sortedNames, ih, List.mem_cons]

theorem insertNames_sorted (hns : ns.Pairwise (· < ·)) (hn : n ∉ ns) :
    (insertNames n ns).Pairwise (· < ·) := by
  induction ns with
  | nil => exact List.pairwise_singleton _ _
  | cons n' ns ih =>
      obtain ⟨hfirst, hrest⟩ := List.pairwise_cons.1 hns
      rw [insertNames]
      split
      · next hlt =>
          rw [namesPrecede_iff_lt] at hlt
          refine List.pairwise_cons.2 ⟨fun m hm => ?_, ih hrest fun h => hn (.tail n' h)⟩
          rcases mem_insertNames.1 hm with rfl | hm
          · exact hlt
          · exact hfirst m hm
      · next hle =>
          rw [namesPrecede_iff_lt] at hle
          have hlt : n < n' := lt_of_le_of_ne (not_lt.1 hle) fun heq => hn (heq ▸ .head ns)
          refine List.pairwise_cons.2 ⟨fun m hm => ?_, hns⟩
          rcases List.mem_cons.1 hm with rfl | hm
          · exact hlt
          · exact hlt.trans (hfirst m hm)

theorem sortedNames_sorted (h : ns.Nodup) : (sortedNames ns).Pairwise (· < ·) := by
  induction ns with
  | nil => exact List.Pairwise.nil
  | cons n ns ih =>
      obtain ⟨hn, hns⟩ := List.nodup_cons.1 h
      exact insertNames_sorted (ih hns) fun hmem => hn (mem_sortedNames.1 hmem)

/-- The files of a format, in the order of their paths. -/
def selected (source : Format) (files : List (List Text)) : List (List Text) :=
  sortedNames (files.filter fun ns => Format.ofPath? (ofNames ns) = some source)

theorem mem_selected {source : Format} {files : List (List Text)}
    (h : ∀ n ∈ m, IsFileName n) (hne : m ≠ []) :
    m ∈ selected source files ↔ m ∈ files ∧ HasFormat m source := by
  rw [selected, mem_sortedNames, List.mem_filter, decide_eq_true_iff, ← join_nil (ofNames m),
    ofPath?_join [] h hne]

/-- The files of a format come in order, and each of them once. -/
theorem selected_sorted (source : Format) {files : List (List Text)} (h : files.Nodup) :
    (selected source files).Pairwise (· < ·) := sortedNames_sorted (h.filter _)

/-! ## Outputs -/

/-- The path of a file below a directory. -/
def fileBelow (p : Path) (names : List Text) : Path := join p (ofNames names)

/-- Whatever is there, the paths of files below a directory lead on from one place. -/
theorem exists_place (cwd : List Text) (p : Path) :
    ∃ place : FileSystem → Except FileError (List Text), ∀ (fs : FileSystem) (names ns : List Text),
      names ≠ [] → (∀ n ∈ names, IsFileName n) → fs.resolve cwd (fileBelow p names) = .ok ns →
        ∃ here, place fs = .ok here ∧ ns = here ++ names := by
  obtain ⟨start, ps, hjoin⟩ := FileSystem.exists_walk_join cwd p
  refine ⟨fun fs => fs.walk start ps, fun fs names ns hne h hr => ?_⟩
  rw [fileBelow, hjoin fs names hne h, FileSystem.walk_append] at hr
  obtain ⟨here, hhere, hr⟩ := bind_eq_ok.1 hr
  exact ⟨here, hhere, FileSystem.eq_append_of_walk h hr⟩

/-- Names without the extension of the last of them. -/
def stemNames (names : List Text) : List Text :=
  names.dropLast ++ [(splitName (names.getLast?.getD [])).1]

/-- The names of an output. -/
def outputNames (target : Format) (names : List Text) : List Text :=
  names.dropLast ++ [(splitName (names.getLast?.getD [])).1 ++ '.' :: target.extension.toList]

section

variable {front names : List Text} {stem e : Text} {f : Format} (target : Format)

theorem outputNames_append (front : List Text) (hstem : stem ≠ []) (hdot : '.' ∉ e) :
    outputNames target (front ++ [stem ++ '.' :: e]) =
      front ++ [stem ++ '.' :: target.extension.toList] := by
  rw [outputNames, List.dropLast_concat, List.getLast?_concat, Option.getD_some,
    splitName_append hdot, if_neg hstem]

theorem outputNames_ne_nil (names : List Text) : outputNames target names ≠ [] := by
  simp [outputNames]

/-- Files have the same output if they have the same names up to their extensions. -/
theorem outputNames_eq_iff {names names' : List Text} :
    outputNames target names = outputNames target names' ↔ stemNames names = stemNames names' := by
  unfold outputNames stemNames
  rw [List.append_singleton_inj, List.append_singleton_inj, List.append_left_inj]

/-- A name stays one with another extension. -/
theorem isFileName_withExtension (h : IsFileName (stem ++ '.' :: e)) (hstem : stem ≠ []) :
    IsFileName (stem ++ '.' :: target.extension.toList) := by
  have hlength : 2 < (stem ++ '.' :: target.extension.toList).length := by
    have hpos := List.length_pos_iff.2 hstem
    have hext : 1 < target.extension.toList.length := by cases target <;> decide
    rw [List.length_append, List.length_cons]
    omega
  refine ⟨?_, ?_, ?_, fun hmem => ?_⟩
  · exact List.ne_nil_of_length_pos (by omega)
  · exact fun heq => absurd (congrArg List.length heq) (Nat.ne_of_gt (Nat.lt_of_succ_lt hlength))
  · exact fun heq => absurd (congrArg List.length heq) (Nat.ne_of_gt hlength)
  · rcases List.mem_append.1 hmem with hmem | hmem
    · exact h.not_mem (List.mem_append_left _ hmem)
    · revert hmem
      cases target <;> decide

theorem isFileName_outputNames (h : ∀ n ∈ names, IsFileName n) (hf : HasFormat names f) :
    ∀ n ∈ outputNames target names, IsFileName n := by
  obtain ⟨front, stem, e, rfl, hstem, hdot, -⟩ := hf
  rw [outputNames_append target front hstem hdot]
  intro n hn
  rcases List.mem_append.1 hn with hn | hn
  · exact h n (List.mem_append_left _ hn)
  · rw [List.mem_singleton.1 hn]
    exact isFileName_withExtension target (h _ List.mem_concat_self) hstem

theorem outputPath_eq (p : Path) (h : ∀ n ∈ names, IsFileName n) (hf : HasFormat names f) :
    outputPath p target names = fileBelow p (outputNames target names) := by
  have hout := isFileName_outputNames target h hf
  obtain ⟨front, stem, e, rfl, hstem, hdot, -⟩ := hf
  rw [outputNames_append target front hstem hdot] at hout ⊢
  obtain ⟨hjoin, hfront⟩ := exists_front_join p h
  rw [outputPath, hjoin, withExtension_append hfront (h _ (by simp)), splitName_append hdot,
    if_neg hstem, fileBelow, (exists_front_join p hout).1]

/-- An output has the format that it is converted to. -/
theorem ofPath?_outputPath (p : Path) (h : ∀ n ∈ names, IsFileName n) (hf : HasFormat names f) :
    Format.ofPath? (outputPath p target names) = some target := by
  rw [outputPath_eq target p h hf, fileBelow, ofPath?_join p (isFileName_outputNames target h hf)
    (outputNames_ne_nil target names)]
  obtain ⟨front, stem, e, rfl, hstem, hdot, -⟩ := hf
  rw [outputNames_append target front hstem hdot]
  exact ⟨front, stem, _, rfl, hstem, by cases target <;> decide, by cases target <;> rfl⟩

end

/-! ## Outputs that coincide -/

section

variable {fs : FileSystem} {cwd ns a b : List Text} {p : Path} {f target : Format}

theorem outputPath_eq_of_stemNames (ha : ∀ n ∈ a, IsFileName n) (hfa : HasFormat a f)
    (hb : ∀ n ∈ b, IsFileName n) (hfb : HasFormat b f) (h : stemNames a = stemNames b) :
    outputPath p target a = outputPath p target b := by
  rw [outputPath_eq target p ha hfa, outputPath_eq target p hb hfb, (outputNames_eq_iff target).2 h]

/-- Outputs that lead to the same file are those of files with the same names up to their
extensions. -/
theorem stemNames_eq_of_resolve (ha : ∀ n ∈ a, IsFileName n) (hfa : HasFormat a f)
    (hb : ∀ n ∈ b, IsFileName n) (hfb : HasFormat b f)
    (hra : fs.resolve cwd (outputPath p target a) = .ok ns)
    (hrb : fs.resolve cwd (outputPath p target b) = .ok ns) : stemNames a = stemNames b := by
  obtain ⟨place, hplace⟩ := exists_place cwd p
  rw [outputPath_eq target p ha hfa] at hra
  rw [outputPath_eq target p hb hfb] at hrb
  obtain ⟨here, hhere, rfl⟩ := hplace fs _ ns (outputNames_ne_nil target a)
    (isFileName_outputNames target ha hfa) hra
  obtain ⟨here', hhere', heq⟩ := hplace fs _ _ (outputNames_ne_nil target b)
    (isFileName_outputNames target hb hfb) hrb
  obtain rfl := Except.ok.inj (hhere.symm.trans hhere')
  exact (outputNames_eq_iff target).1 (List.append_cancel_left heq)

end

end Command

end CellScript
