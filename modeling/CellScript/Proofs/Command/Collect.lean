import Mathlib.Data.List.Sort
import CellScript.Proofs.Command.World
import CellScript.Proofs.Files.Tree

set_option autoImplicit false

/-! # Collecting the files of a directory

The files that a directory conversion attempts are said here at once, as a selection of all files
below the directory (`attempted`, `mem_attempted`). The program collects them directory by directory.
What it finds for one name in a directory is `foundAt`, and these put in order are what is attempted
(`attempted_eq`). By induction on the directories below one another the program comes to just that:
`comes_collectFiles`. -/

namespace CellScript

open CellScript.Path FileSystem Command

/-- The path of a file below a directory leads there. -/
theorem FileSystem.WellFormed.resolve_fileBelow {fs : FileSystem} {cwd dir names : List Text}
    {p : Path} {e : Entry} (h : fs.WellFormed) (hp : fs.resolve cwd p = .ok dir)
    (hne : names ≠ []) (he : fs.get? (dir ++ names) = some e) :
    fs.resolve cwd (fileBelow p names) = .ok (dir ++ names) := by
  have hnames := h.isFileName he
  rw [fileBelow, resolve_join hp hne hnames]
  refine walk_names hnames fun front hfront hne => ?_
  exact h.directory he ((List.prefix_append_right_inj dir).2 hfront) fun heq =>
    hne (List.append_cancel_left heq)

namespace Command

/-! ## The files that are attempted -/

/-- The files that are attempted, by the names that lead to them from the directory. -/
def attempted (fs : FileSystem) (recursive : Bool) (source : Format) (dir : List Text) :
    List (List Text) :=
  selected source (fs.filesBelow recursive dir)

section

variable {fs : FileSystem} {dir names : List Text} {recursive : Bool} {source : Format}

theorem mem_attempted (h : fs.WellFormed) (hdir : fs.get? dir = some .directory) :
    names ∈ attempted fs recursive source dir ↔
      (∃ c, fs.get? (dir ++ names) = some (.file c)) ∧ (recursive ∨ names.length = 1) ∧
        HasFormat names source := by
  by_cases hfile : ∃ c, fs.get? (dir ++ names) = some (.file c)
  · obtain ⟨c, hc⟩ := hfile
    rw [attempted, mem_selected (h.isFileName hc) (ne_nil_of_file hdir hc), mem_filesBelow h]
    exact and_assoc
  · -- a name in the selection is that of a file, as the files below are
    refine ⟨fun hmem => ?_, fun hmem => absurd hmem.1 hfile⟩
    rw [attempted, selected, mem_sortedNames, List.mem_filter, mem_filesBelow h] at hmem
    exact absurd hmem.1.1 hfile

theorem of_mem_attempted (h : fs.WellFormed) (hdir : fs.get? dir = some .directory)
    (hmem : names ∈ attempted fs recursive source dir) :
    (∀ n ∈ names, IsFileName n) ∧ HasFormat names source := by
  obtain ⟨⟨c, hc⟩, -, hformat⟩ := (mem_attempted h hdir).1 hmem
  exact ⟨h.isFileName hc, hformat⟩

theorem attempted_sorted (h : fs.WellFormed) :
    (attempted fs recursive source dir).Pairwise (· < ·) :=
  selected_sorted source (nodup_filesBelow h.nodup recursive dir)

end

/-! ## Directory by directory -/

/-- The files that are found for one name in a directory. -/
def foundAt (fs : FileSystem) (recursive : Bool) (source : Format) (dir : List Text) (name : Text) :
    List (List Text) :=
  match fs.get? (dir ++ [name]) with
  | some (.file _) => if formatOf? [name] = some source then [[name]] else []
  | some .directory =>
    if recursive then (attempted fs recursive source (dir ++ [name])).map (name :: ·) else []
  | none => []

section

variable {fs : FileSystem} {dir names : List Text} {recursive : Bool} {source : Format}
  {name : Text}

/-- What is found at a name are the files to attempt that have this name for their first. -/
theorem mem_foundAt (h : fs.WellFormed) (hdir : fs.get? dir = some .directory) :
    names ∈ foundAt fs recursive source dir name ↔
      ∃ rest, names = name :: rest ∧ names ∈ attempted fs recursive source dir := by
  constructor
  · intro hmem
    unfold foundAt at hmem
    split at hmem
    · next c hfile =>
        split at hmem
        · next hformat =>
            obtain rfl := List.mem_singleton.1 hmem
            exact ⟨[], rfl, (mem_attempted h hdir).2
              ⟨⟨c, hfile⟩, .inr rfl, formatOf?_eq_some_iff.1 hformat⟩⟩
        · cases hmem
    · next hdir' =>
        split at hmem
        · next hrecursive =>
            obtain ⟨rest, hrest, rfl⟩ := List.mem_map.1 hmem
            obtain ⟨⟨c, hc⟩, -, hformat⟩ := (mem_attempted h hdir').1 hrest
            rw [List.append_assoc] at hc
            exact ⟨rest, rfl, (mem_attempted h hdir).2
              ⟨⟨c, hc⟩, .inl hrecursive, hformat.append [name]⟩⟩
        · cases hmem
    · cases hmem
  · rintro ⟨rest, rfl, hmem⟩
    obtain ⟨⟨c, hc⟩, hdeep, hformat⟩ := (mem_attempted h hdir).1 hmem
    unfold foundAt
    rcases h.get?_first hc with ⟨rfl, hfile⟩ | ⟨hne, hdir'⟩
    · rw [hfile]
      dsimp only
      rw [if_pos (formatOf?_eq_some_iff.2 hformat)]
      exact List.mem_singleton.2 rfl
    · -- a name that more names follow is that of a directory, where these are collected
      have hrecursive : recursive = true := hdeep.resolve_right (by simpa using hne)
      rw [hdir']
      dsimp only
      rw [if_pos hrecursive]
      rw [← List.singleton_append, ← List.append_assoc] at hc
      rw [← List.singleton_append] at hformat
      exact List.mem_map.2 ⟨rest, (mem_attempted h hdir').2
        ⟨⟨c, hc⟩, .inl hrecursive, hformat.of_append hne⟩, rfl⟩

theorem nodup_foundAt (h : fs.WellFormed) : (foundAt fs recursive source dir name).Nodup := by
  unfold foundAt
  split
  · split
    · exact List.nodup_singleton _
    · exact List.nodup_nil
  · split
    · exact (attempted_sorted h).nodup.map fun _ _ heq => (List.cons.inj heq).2
    · exact List.nodup_nil
  · exact List.nodup_nil

/-- The files to attempt are those found at the names in a directory, in order. -/
theorem attempted_eq (h : fs.WellFormed) (hdir : fs.get? dir = some .directory) :
    attempted fs recursive source dir =
      sortedNames ((fs.children dir).map (foundAt fs recursive source dir)).flatten := by
  rw [← List.flatMap_def]
  have hnodup : ((fs.children dir).flatMap (foundAt fs recursive source dir)).Nodup := by
    refine List.nodup_flatMap.2 ⟨fun name _ => nodup_foundAt h, ?_⟩
    refine (nodup_children h.nodup dir).imp fun hne names hmem hmem' => hne ?_
    obtain ⟨rest, rfl, -⟩ := (mem_foundAt h hdir).1 hmem
    obtain ⟨rest', heq, -⟩ := (mem_foundAt h hdir).1 hmem'
    exact (List.cons.inj heq).1
  refine (attempted_sorted h).eq_of_mem_iff (sortedNames_sorted hnodup) fun names => ?_
  rw [mem_sortedNames, List.mem_flatMap]
  constructor
  · intro hmem
    obtain ⟨⟨c, hc⟩, -, -⟩ := (mem_attempted h hdir).1 hmem
    obtain ⟨name, rest, rfl⟩ := List.exists_cons_of_ne_nil (ne_nil_of_file hdir hc)
    refine ⟨name, h.mem_children.2 ?_, (mem_foundAt h hdir).2 ⟨rest, rfl, hmem⟩⟩
    rcases h.get?_first hc with ⟨-, hfile⟩ | ⟨-, hdir'⟩
    · exact ⟨_, hfile⟩
    · exact ⟨_, hdir'⟩
  · rintro ⟨name, -, hmem⟩
    obtain ⟨rest, rfl, hmem⟩ := (mem_foundAt h hdir).1 hmem
    exact hmem

end

theorem run_list {w : World} {dir : List Text} {p : Path}
    (hdir : w.files.resolve w.cwd p = .ok dir) (hentry : w.files.get? dir = some .directory) :
    (World.host.list p).run w = (.ok (w.files.children dir), w) := by
  change (w.files.list w.cwd p, w) = _
  rw [FileSystem.list, hdir]
  dsimp only
  rw [hentry]

/-- In a directory the program finds the files to attempt, if it may go down far enough. -/
theorem comes_collectFiles {w : World} {dir : List Text} {p : Path} {n : Nat} {recursive : Bool}
    {source : Format} (hwf : w.files.WellFormed) (hdir : w.files.resolve w.cwd p = .ok dir)
    (hentry : w.files.get? dir = some .directory) (hn : w.files.depth < n + dir.length) :
    Comes (collectFiles World.host source recursive n p) w
      (.ok (attempted w.files recursive source dir)) w := by
  induction n generalizing p dir with
  | zero =>
      -- a directory is at no more names than the depth
      have hlength := hwf.length_le_depth hentry
      omega
  | succ n ih =>
      rw [collectFiles, attempted_eq hwf hentry]
      refine (comes_orFail _ (run_list hdir hentry)).bind
        (Comes.bind (comes_mapM fun name hname => ?_) (comes_pure _ w))
      obtain ⟨e, he⟩ := hwf.mem_children.1 hname
      have hresolve := hwf.resolve_fileBelow hdir (List.cons_ne_nil name []) he
      have hthere : w.entry? (fileBelow p [name]) = some e :=
        entry?_eq_some_iff.2 ⟨_, hresolve, he⟩
      have hfile := run_isFile w (fileBelow p [name])
      have hisdir := run_isDirectory w (fileBelow p [name])
      rw [hthere] at hfile hisdir
      refine (comes_lift hfile).bind ?_
      unfold foundAt
      rw [he]
      cases e with
      | file c =>
          have hformat : Format.ofPath? (fileBelow p [name]) = some source ↔
              formatOf? [name] = some source :=
            (ofPath?_join p (hwf.isFileName he) (List.cons_ne_nil name [])).trans
              formatOf?_eq_some_iff.symm
          change Comes (pure (if Format.ofPath? (fileBelow p [name]) = some source then _ else _)) w
            (.ok (if formatOf? [name] = some source then _ else _)) w
          rw [if_congr hformat rfl rfl]
          exact comes_pure _ w
      | directory =>
          refine (comes_lift hisdir).bind ?_
          change Comes (if recursive then _ else _) w (.ok (if recursive then _ else _)) w
          cases recursive with
          | false => exact comes_pure [] w
          | true =>
              -- one more name leads there, so one directory less may be below it
              refine Comes.bind (ih hresolve he ?_) (comes_pure _ w)
              rw [List.length_append, List.length_singleton]
              omega

end Command

end CellScript
