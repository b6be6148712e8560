import Mathlib.Data.List.Induction
import Mathlib.Logic.Relation
import CellScript.Files.Basic
import CellScript.Proofs.Except

set_option autoImplicit false

/-! # What changes in a file system

A path leads to names, and only directories are passed on the way. So it keeps leading there as long
as the directories are kept (`KeepsDirectories.resolve`), and the last of the names is the name of
the path (`getLast?_of_resolve`). Making directories puts directories where nothing was, on the way
to a path (`makeDirectories_adds`); writing a file changes what is at the names of its path and
nothing else (`write_eq_ok_iff`). Both together are `Delivers`. -/

namespace CellScript.FileSystem

variable {fs fs' fs'' : FileSystem} {cwd here ns names : List Text} {p : Path}

/-! ## Entries -/

@[simp] theorem get?_root (fs : FileSystem) : fs.get? [] = some .directory := rfl

theorem lookup_cons_eq_ite (ns key : List Text) (e : Entry) (fs : FileSystem) :
    List.lookup ns ((key, e) :: fs) = if ns = key then some e else List.lookup ns fs := by
  rw [List.lookup_cons]
  by_cases heq : ns = key
  · simp [heq]
  · have hbeq : (ns == key) = false := by simpa using heq
    rw [hbeq, if_neg heq]

theorem lookup_set (fs : FileSystem) (e : Entry) (names ns : List Text) :
    List.lookup ns (fs.set names e) = if ns = names then some e else List.lookup ns fs := by
  induction fs with
  | nil => exact lookup_cons_eq_ite ns names e []
  | cons entry rest ih =>
      obtain ⟨key, e'⟩ := entry
      by_cases hkey : key = names
      · subst hkey
        rw [set, if_pos rfl, lookup_cons_eq_ite, lookup_cons_eq_ite]
        split <;> rfl
      · rw [set, if_neg hkey, lookup_cons_eq_ite, lookup_cons_eq_ite, ih]
        by_cases heq : ns = key
        · rw [if_pos heq, if_pos heq, if_neg fun h => hkey (heq ▸ h)]
        · rw [if_neg heq, if_neg heq]

theorem get?_set (fs : FileSystem) {e : Entry} (h : names ≠ []) (ns : List Text) :
    (fs.set names e).get? ns = if ns = names then some e else fs.get? ns := by
  by_cases hns : ns = []
  · subst hns
    rw [if_neg (Ne.symm h), get?_root, get?_root]
  · simp only [get?, if_neg hns, lookup_set]

theorem get?_set_self (fs : FileSystem) {e : Entry} (h : names ≠ []) :
    (fs.set names e).get? names = some e := by
  rw [get?_set fs h, if_pos rfl]

theorem get?_set_of_ne (fs : FileSystem) {e : Entry} (h : names ≠ []) (hne : ns ≠ names) :
    (fs.set names e).get? ns = fs.get? ns := by
  rw [get?_set fs h, if_neg hne]

/-! ## Walks -/

theorem walk_append (fs : FileSystem) (here ps qs : List Text) :
    fs.walk here (ps ++ qs) = fs.walk here ps >>= fun ns => fs.walk ns qs := by
  induction ps generalizing here with
  | nil => rfl
  | cons p ps ih =>
      rw [List.cons_append, walk, walk]
      cases fs.get? here with
      | none => rfl
      | some e =>
          cases e with
          | file c => rfl
          | directory =>
              dsimp only
              split
              · exact ih here
              · split
                · exact ih here.dropLast
                · exact ih (here ++ [p])

/-- A step of a walk starts at a directory. -/
theorem get?_of_walk_cons {q : Text} {qs : List Text} (h : fs.walk here (q :: qs) = .ok ns) :
    fs.get? here = some .directory := by
  rw [walk] at h
  split at h
  · cases h
  · cases h
  · next hdir => exact hdir

theorem walk_cons_of_directory (q : Text) (qs : List Text) (h : fs.get? here = some .directory) :
    fs.walk here (q :: qs) =
      if q = [] ∨ q = ['.'] then fs.walk here qs
      else if q = ['.', '.'] then fs.walk here.dropLast qs
      else fs.walk (here ++ [q]) qs := by
  rw [walk, h]

/-- Whatever is a directory in one file system is one in the other. -/
def KeepsDirectories (fs fs' : FileSystem) : Prop :=
  ∀ ns, fs.get? ns = some .directory → fs'.get? ns = some .directory

namespace KeepsDirectories

theorem refl (fs : FileSystem) : KeepsDirectories fs fs := fun _ h => h

theorem trans (h : KeepsDirectories fs fs') (h' : KeepsDirectories fs' fs'') :
    KeepsDirectories fs fs'' := fun ns hns => h' ns (h ns hns)

theorem walk (h : KeepsDirectories fs fs') {ps : List Text} (hw : fs.walk here ps = .ok ns) :
    fs'.walk here ps = .ok ns := by
  induction ps generalizing here with
  | nil => exact hw
  | cons q qs ih =>
      have hdir := get?_of_walk_cons hw
      rw [walk_cons_of_directory q qs hdir] at hw
      rw [walk_cons_of_directory q qs (h here hdir)]
      split at hw
      · next hidle => rw [if_pos hidle, ih hw]
      · next hidle =>
          rw [if_neg hidle]
          split at hw
          · next hup => rw [if_pos hup, ih hw]
          · next hup => rw [if_neg hup, ih hw]

theorem resolve (h : KeepsDirectories fs fs') (hr : fs.resolve cwd p = .ok ns) :
    fs'.resolve cwd p = .ok ns := by
  unfold FileSystem.resolve at hr ⊢
  split at hr
  · cases hr
  · next hp =>
      rw [if_neg hp]
      exact h.walk hr

end KeepsDirectories

/-- A walk whose last step with a meaning is to a name ends at that name. -/
theorem getLast?_of_walk {ps : List Text} {n : Text} (h : fs.walk here ps = .ok ns)
    (hn : (ps.filterMap Path.partOf?).getLast? = some (.name n)) : ns.getLast? = some n := by
  induction ps using List.reverseRecOn generalizing ns with
  | nil => cases hn
  | append_singleton ps q ih =>
      rw [walk_append] at h
      obtain ⟨mid, hmid, hlast⟩ := bind_eq_ok.1 h
      rw [walk_cons_of_directory q [] (get?_of_walk_cons hlast)] at hlast
      rw [List.filterMap_append] at hn
      by_cases hidle : q = [] ∨ q = ['.']
      · -- the step says nothing, and so the walk before it already ended at the name
        have hq : Path.partOf? q = none := if_pos hidle
        rw [List.filterMap_cons_none hq, List.filterMap_nil, List.append_nil] at hn
        rw [if_pos hidle] at hlast
        obtain rfl := Except.ok.inj hlast
        exact ih hmid hn
      · rw [if_neg hidle] at hlast
        by_cases hup : q = ['.', '.']
        · have hq : Path.partOf? q = some .up := by rw [Path.partOf?, if_neg hidle, if_pos hup]
          rw [List.filterMap_cons_some hq, List.filterMap_nil, List.getLast?_concat] at hn
          cases hn
        · have hq : Path.partOf? q = some (.name q) := by
            rw [Path.partOf?, if_neg hidle, if_neg hup]
          rw [List.filterMap_cons_some hq, List.filterMap_nil, List.getLast?_concat] at hn
          obtain rfl : q = n := by injection hn with hn; injection hn
          rw [if_neg hup] at hlast
          obtain rfl := Except.ok.inj hlast
          exact List.getLast?_concat

/-- A path with a name leads to names of which that is the last. -/
theorem getLast?_of_resolve {n : Text} (h : fs.resolve cwd p = .ok ns) (hn : p.name? = some n) :
    ns.getLast? = some n := by
  unfold resolve at h
  split at h
  · cases h
  · refine getLast?_of_walk h ?_
    have hlast : p.parts.getLast? = some (.name n) := by
      unfold Path.name? at hn
      split at hn
      · next t ht =>
          obtain rfl := Option.some.inj hn
          exact ht
      · cases hn
    unfold Path.parts at hlast
    dsimp only at hlast
    rw [List.getLast?_append] at hlast
    cases hparts : ((Path.pieces p).filterMap Path.partOf?).getLast? with
    | some part => rwa [hparts, Option.some_or] at hlast
    | none =>
        -- what stands before the parts of the pieces is no name
        rw [hparts, Option.none_or] at hlast
        split at hlast
        · cases hlast
        · split at hlast <;> cases hlast

theorem entry?_eq_some_iff {e : Entry} :
    fs.entry? cwd p = some e ↔ ∃ names, fs.resolve cwd p = .ok names ∧ fs.get? names = some e := by
  unfold entry?
  cases fs.resolve cwd p <;> simp

/-! ## Making directories -/

/-- The parent of a path, the parent of that, and so on, from the path itself on. -/
def IsAbove (q p : Path) : Prop := Relation.ReflTransGen (fun p q => p.parent? = some q) p q

/-- A path or one above it leads to these names. -/
def OnTheWay (fs : FileSystem) (cwd : List Text) (p : Path) (ns : List Text) : Prop :=
  ∃ q, IsAbove q p ∧ fs.resolve cwd q = .ok ns

theorem KeepsDirectories.onTheWay (h : KeepsDirectories fs fs') (hns : fs.OnTheWay cwd p ns) :
    fs'.OnTheWay cwd p ns := by
  obtain ⟨q, hq, hr⟩ := hns
  exact ⟨q, hq, h.resolve hr⟩

theorem OnTheWay.of_isAbove {q : Path} (h : fs.OnTheWay cwd q ns) (hq : IsAbove q p) :
    fs.OnTheWay cwd p ns := by
  obtain ⟨q', hq', hr⟩ := h
  exact ⟨q', Relation.ReflTransGen.trans hq hq', hr⟩

/-- One file system is the other with directories where nothing was, on the way to a path. -/
def AddsDirectories (cwd : List Text) (p : Path) (fs fs' : FileSystem) : Prop :=
  ∀ ns, fs'.get? ns = fs.get? ns ∨
    fs.get? ns = none ∧ fs'.get? ns = some .directory ∧ fs'.OnTheWay cwd p ns

namespace AddsDirectories

theorem refl (cwd : List Text) (p : Path) (fs : FileSystem) : AddsDirectories cwd p fs fs :=
  fun _ => .inl rfl

/-- What was there stays as it was. -/
theorem get?_eq (h : AddsDirectories cwd p fs fs') {e : Entry} (he : fs.get? ns = some e) :
    fs'.get? ns = some e := by
  rcases h ns with hns | ⟨hnone, -⟩
  · rw [hns, he]
  · rw [hnone] at he
    cases he

theorem keepsDirectories (h : AddsDirectories cwd p fs fs') : KeepsDirectories fs fs' :=
  fun _ hns => h.get?_eq hns

theorem trans {q : Path} (h : AddsDirectories cwd q fs fs') (hq : IsAbove q p)
    (h' : AddsDirectories cwd p fs' fs'') : AddsDirectories cwd p fs fs'' := by
  intro ns
  rcases h' ns with hns | ⟨hnone, hdir, hway⟩
  · rw [hns]
    exact (h ns).imp id fun ⟨hnone, hdir, hway⟩ =>
      ⟨hnone, hdir, h'.keepsDirectories.onTheWay (hway.of_isAbove hq)⟩
  · rcases h ns with hns | ⟨-, hdir', -⟩
    · exact .inr ⟨by rw [← hns, hnone], hdir, hway⟩
    · rw [hnone] at hdir'
      cases hdir'

end AddsDirectories

theorem makeDirectory_adds (h : fs.makeDirectory cwd p = .ok fs') :
    AddsDirectories cwd p fs fs' := by
  unfold makeDirectory at h
  split at h
  · cases h
  · next names hr =>
      split at h
      · cases h
      · next hnone =>
          obtain rfl := Except.ok.inj h
          have hne : names ≠ [] := by
            rintro rfl
            cases hnone
          have hkeeps : KeepsDirectories fs (fs.set names .directory) := by
            intro ns hns
            rw [get?_set fs hne]
            split
            · rfl
            · exact hns
          intro ns
          by_cases heq : ns = names
          · subst heq
            exact .inr ⟨hnone, get?_set_self fs hne, p, .refl, hkeeps.resolve hr⟩
          · exact .inl (get?_set_of_ne fs hne heq)

/-- Making the directories of a path puts directories where nothing was, on the way to it, also if
it comes to nothing in the end. -/
theorem makeDirectories_adds (cwd : List Text) (n : Nat) (fs : FileSystem) (p : Path) :
    AddsDirectories cwd p fs (makeDirectories cwd n fs p).1 := by
  induction n generalizing fs p with
  | zero => exact AddsDirectories.refl cwd p fs
  | succ n ih =>
      -- what making the directory itself comes to, once the one above it is there
      have hsettle : ∀ (fs : FileSystem) (made : FileSystem × Except FileError Unit),
          (∀ fs', fs.makeDirectory cwd p = .ok fs' → made.1 = fs') →
          (∀ e, fs.makeDirectory cwd p = .error e → made.1 = fs) →
            AddsDirectories cwd p fs made.1 := by
        intro fs made hok herror
        cases h : fs.makeDirectory cwd p with
        | ok fs' => exact hok fs' h ▸ makeDirectory_adds h
        | error e => exact (herror e h).symm ▸ AddsDirectories.refl cwd p fs
      rw [makeDirectories]
      dsimp only
      split
      · exact AddsDirectories.refl cwd p fs
      · split
        · split
          · exact AddsDirectories.refl cwd p fs
          · next q hq =>
              have hbelow := ih fs q
              split
              · next fs' e h =>
                  rw [h] at hbelow
                  exact hbelow.trans (.single hq) (AddsDirectories.refl cwd p fs')
              · next fs' h =>
                  rw [h] at hbelow
                  exact hbelow.trans (.single hq)
                    (hsettle fs' _ (fun _ h => by rw [h]) fun _ h => by rw [h])
        · exact hsettle fs _ (fun _ h => by rw [h]) fun _ h => by rw [h]

/-- Where there is a directory, none is made. -/
theorem makeDirectories_of_directory (n : Nat) (h : p = [] ∨ fs.entry? cwd p = some .directory) :
    makeDirectories cwd (n + 1) fs p = (fs, .ok ()) := by
  rw [makeDirectories]
  dsimp only
  split
  · rfl
  · next hp =>
      have hdir := h.resolve_left hp
      obtain ⟨names, hr, hget⟩ := entry?_eq_some_iff.1 hdir
      have hmake : fs.makeDirectory cwd p = .error .present := by
        unfold makeDirectory
        rw [hr]
        dsimp only
        rw [hget]
      rw [hmake]
      dsimp only
      rw [if_pos hdir]

/-! ## Writing files -/

theorem write_eq_ok_iff {t : Text} :
    fs.write cwd p t = .ok fs' ↔
      ∃ names, fs.resolve cwd p = .ok names ∧ fs.get? names ≠ some .directory ∧
        fs' = fs.set names (.file (.text t)) := by
  unfold write
  cases fs.resolve cwd p with
  | error e =>
      dsimp only
      split <;> simp
  | ok names =>
      dsimp only
      split
      · next hdir => simp [hdir]
      · next hdir =>
          simp only [Except.ok.injEq, exists_eq_left', ne_eq, hdir, not_false_eq_true, true_and]
          exact eq_comm

/-- A file can be written to a path as things are: its parent is a directory, and it is none. -/
structure Takes (fs : FileSystem) (cwd : List Text) (p : Path) : Prop where
  parent : ∀ dir, p.parent? = some dir → dir = [] ∨ fs.entry? cwd dir = some .directory
  leads : ∃ names, fs.resolve cwd p = .ok names ∧ fs.get? names ≠ some .directory

/-- One file system is the other with a text in the file at a path, and with directories where
nothing was, on the way to the path. -/
structure Delivers (cwd : List Text) (p : Path) (t : Text) (fs fs' : FileSystem) : Prop where
  there : fs'.read cwd p = .ok t
  kept : KeepsDirectories fs fs'
  elsewhere : ∀ ns, fs'.resolve cwd p ≠ .ok ns → fs'.get? ns = fs.get? ns ∨
    fs.get? ns = none ∧ fs'.get? ns = some .directory ∧ fs'.OnTheWay cwd p ns

theorem read_eq_ok_iff {t : Text} :
    fs.read cwd p = .ok t ↔
      ∃ names, fs.resolve cwd p = .ok names ∧ fs.get? names = some (.file (.text t)) := by
  unfold read
  cases fs.resolve cwd p with
  | error e => simp
  | ok names =>
      simp only [Except.ok.injEq, exists_eq_left']
      cases fs.get? names with
      | none => simp
      | some e =>
          cases e with
          | directory => simp
          | file c => cases c <;> simp [Content.read]

theorem delivers_of_write {t : Text} (hadds : AddsDirectories cwd p fs fs')
    (hw : fs'.write cwd p t = .ok fs'') : Delivers cwd p t fs fs'' := by
  obtain ⟨names, hr, hdir, rfl⟩ := write_eq_ok_iff.1 hw
  have hne : names ≠ [] := by
    rintro rfl
    exact hdir rfl
  have hkept : KeepsDirectories fs' (fs'.set names (.file (.text t))) := by
    intro ns hns
    rw [get?_set_of_ne fs' hne fun heq => hdir (heq ▸ hns), hns]
  have hr' := hkept.resolve hr
  refine ⟨read_eq_ok_iff.2 ⟨names, hr', get?_set_self fs' hne⟩, hadds.keepsDirectories.trans hkept,
    fun ns hns => ?_⟩
  have hns : ns ≠ names := fun heq => hns (heq ▸ hr')
  rw [get?_set_of_ne fs' hne hns]
  exact (hadds ns).imp id fun ⟨hnone, hnew, hway⟩ => ⟨hnone, hnew, hkept.onTheWay hway⟩

/-- A file stays as it is if the path that is written to leads elsewhere. -/
theorem Delivers.get?_eq {t : Text} (h : Delivers cwd p t fs fs') {e : Entry}
    (he : fs.get? ns = some e) (hns : fs'.resolve cwd p ≠ .ok ns) : fs'.get? ns = some e := by
  rcases h.elsewhere ns hns with heq | ⟨hnone, -⟩
  · rw [heq, he]
  · rw [hnone] at he
    cases he

end CellScript.FileSystem
