import CellScript.Proofs.Command.World
import CellScript.Proofs.Files.Tree

set_option autoImplicit false

/-! # Converting files one after another

A file that is read and converted comes to a text, which is written; a file that is refused changes
nothing (`Converts`). Outputs have another format than the files that are converted, so these stay
as they are (`Converts.keepsOthers`), and what each of them comes to is settled before the first is
written: with that, `run_convertEach` says what a list of files comes to, `ConvertsEach` step by
step. Every change on the way is on account of one of the files (`ConvertsEach.change`), and what an
output holds in the end is what the last file that has it is converted to
(`ConvertsEach.last_output`). -/

namespace CellScript

namespace World

/-- What is said and done in two steps adds up. -/
theorem changes_changes (w : World) (es es' : List Event) (fs fs' : FileSystem) (t t' : Text) :
    (((((w.logged es).withFiles fs).printed t).logged es').withFiles fs').printed t' =
      ((w.logged (es ++ es')).withFiles fs').printed (t ++ t') := by
  simp [logged, withFiles, printed]

end World

namespace FileSystem

variable {fs fs' fs'' : FileSystem} {cwd ns : List Text} {p : Path} {target : Format}

/-- Everything but documents of a format stays as it is. -/
structure KeepsOthers (target : Format) (fs fs' : FileSystem) : Prop where
  directories : KeepsDirectories fs fs'
  others : ∀ ns e, fs.get? ns = some e → ¬ HasFormat ns target → fs'.get? ns = some e

theorem KeepsOthers.refl (target : Format) (fs : FileSystem) : KeepsOthers target fs fs :=
  ⟨KeepsDirectories.refl fs, fun _ _ he _ => he⟩

theorem KeepsOthers.trans (h : KeepsOthers target fs fs') (h' : KeepsOthers target fs' fs'') :
    KeepsOthers target fs fs'' :=
  ⟨h.directories.trans h'.directories, fun ns e he hn => h'.others ns e (h.others ns e he hn) hn⟩

/-- What a file holds is read again. -/
theorem KeepsOthers.read_eq (h : KeepsOthers target fs fs') {e : Entry}
    (hr : fs.resolve cwd p = .ok ns) (he : fs.get? ns = some e) (hn : ¬ HasFormat ns target) :
    fs'.read cwd p = fs.read cwd p := by
  unfold read
  rw [hr, h.directories.resolve hr]
  dsimp only
  rw [he, h.others ns e he hn]

end FileSystem

namespace Command

open CellScript.Path FileSystem

/-! ## One file -/

/-- What comes of a file: it is refused and nothing changes, or it comes to a text, and this is
written. -/
inductive Converts (cwd : List Text) (out : Path) (fs : FileSystem) :
    Except Failure Text → Except Failure Unit → FileSystem → Prop where
  | refused (e : Failure) : Converts cwd out fs (.error e) (.error e) fs
  | written (t : Text) (r : Except Failure Unit) (fs' : FileSystem)
    (h : Writes cwd out t fs r fs') : Converts cwd out fs (.ok t) r fs'

theorem comes_convertTo (w : World) (rep : Report) (o : ConvertOptions) (source : Format)
    (input out : Path) :
    ∃ r fs es, Comes (convertTo World.host rep o source input out) w r
        ((w.logged es).withFiles fs) ∧
      Converts w.cwd out w.files (w.fileConversion o source input) r fs := by
  obtain ⟨es, hread⟩ := observes_convertInput w rep o source input
  cases ht : w.fileConversion o source input with
  | error e =>
      rw [ht] at hread
      exact ⟨_, w.files, es, hread.bind_error, .refused e⟩
  | ok t =>
      rw [ht] at hread
      obtain ⟨r, fs, hwrite, hwrites⟩ := comes_writeFile (w.logged es) out t
      exact ⟨r, fs, es, hread.bind hwrite, .written t r fs hwrites⟩

section

variable {fs fs' fs'' : FileSystem} {cwd : List Text} {out : Path} {target : Format}
  {text : Except Failure Text} {r : Except Failure Unit}

theorem Converts.keepsDirectories (h : Converts cwd out fs text r fs') : KeepsDirectories fs fs' := by
  cases h with
  | refused e => exact KeepsDirectories.refl fs
  | written t r fs' h =>
      cases h with
      | done _ hd => exact hd.kept
      | failed e _ he hn ha => exact ha.keepsDirectories

theorem Converts.keepsOthers (h : Converts cwd out fs text r fs')
    (hout : Format.ofPath? out = some target) : KeepsOthers target fs fs' := by
  refine ⟨h.keepsDirectories, fun ns e he hn => ?_⟩
  cases h with
  | refused e => exact he
  | written t r fs' h =>
      cases h with
      | done _ hd => exact hd.get?_eq he fun hr => hn (hasFormat_of_resolve hr hout)
      | failed e _ _ _ ha => exact ha.get?_eq he

/-- What a file may change that comes to a text: its output holds the text, if it was written, and
directories are new on the way there. -/
def Changes (cwd : List Text) (out : Path) (text : Except Failure Text) (r : Except Failure Unit)
    (fs fs' : FileSystem) (ns : List Text) : Prop :=
  ∃ t, text = .ok t ∧
    (r = .ok () ∧ fs'.resolve cwd out = .ok ns ∧ fs'.get? ns = some (.file (.text t)) ∨
      fs.get? ns = none ∧ fs'.get? ns = some .directory ∧ fs'.OnTheWay cwd out ns)

theorem Converts.change (h : Converts cwd out fs text r fs') (ns : List Text) :
    fs'.get? ns = fs.get? ns ∨ Changes cwd out text r fs fs' ns := by
  cases h with
  | refused e => exact .inl rfl
  | written t r fs' h =>
      cases h with
      | done _ hd =>
          by_cases hns : fs'.resolve cwd out = .ok ns
          · obtain ⟨ns', hr, hget⟩ := read_eq_ok_iff.1 hd.there
            obtain rfl := Except.ok.inj (hr.symm.trans hns)
            exact .inr ⟨t, rfl, .inl ⟨rfl, hr, hget⟩⟩
          · exact (hd.elsewhere ns hns).imp id fun hnew => ⟨t, rfl, .inr hnew⟩
      | failed e _ _ _ ha => exact (ha ns).imp id fun hnew => ⟨t, rfl, .inr hnew⟩

end

/-! ## Results -/

section

variable (results : List (List Text × Except Failure Unit))

/-- How many files were converted. -/
def converted : Nat := results.countP fun x => x.2.isOk

/-- The files that were not converted, and why. -/
def failures (file : List Text → Path) : List (Path × Failure) :=
  results.filterMap fun x =>
    match x.2 with
    | .ok () => none
    | .error e => some (file x.1, e)

/-- The lines of the files that were written. -/
def resultLines (quiet : Bool) (out : List Text → Path) : Text :=
  results.flatMap fun x =>
    match x.2 with
    | .ok () => resultLine quiet (out x.1)
    | .error _ => []

theorem failures_eq_nil_iff (file : List Text → Path) :
    failures results file = [] ↔ ∀ x ∈ results, x.2.isOk := by
  unfold failures
  rw [List.filterMap_eq_nil_iff]
  refine forall₂_congr fun x _ => ?_
  cases x.2 <;> simp [Except.isOk, Except.toBool]

theorem converted_cons_ok (names : List Text) :
    converted ((names, .ok ()) :: results) = converted results + 1 := List.countP_cons_of_pos rfl

/-- Every file is counted once. -/
theorem converted_add_failures (file : List Text → Path) :
    converted results + (failures results file).length = results.length := by
  induction results with
  | nil => rfl
  | cons x results ih =>
      obtain ⟨names, r⟩ := x
      unfold converted failures at *
      cases r with
      | ok u =>
          rw [List.countP_cons_of_pos rfl, List.filterMap_cons_none rfl, List.length_cons, ← ih]
          omega
      | error e =>
          rw [List.countP_cons_of_neg (by simp [Except.isOk, Except.toBool]), List.filterMap_cons]
          dsimp only
          rw [List.length_cons, List.length_cons, ← ih]
          omega

end

/-! ## One after another -/

/-- What comes of files one after another, each with the text that it comes to and its output. -/
inductive ConvertsEach (cwd : List Text) (text : List Text → Except Failure Text)
    (out : List Text → Path) :
    FileSystem → List (List Text × Except Failure Unit) → FileSystem → Prop where
  | nil (fs : FileSystem) : ConvertsEach cwd text out fs [] fs
  | cons {fs fs' fs'' : FileSystem} {names : List Text} {r : Except Failure Unit}
    {results : List (List Text × Except Failure Unit)}
    (h : Converts cwd (out names) fs (text names) r fs')
    (hrest : ConvertsEach cwd text out fs' results fs'') :
    ConvertsEach cwd text out fs ((names, r) :: results) fs''

/-- Files that are there and come to these texts, and do not have the format of their outputs. -/
def Sources (o : ConvertOptions) (source : Format) (file : List Text → Path)
    (text : List Text → Except Failure Text) (todo : List (List Text)) (w : World) : Prop :=
  ∀ names ∈ todo, w.fileConversion o source (file names) = text names ∧
    ∃ ns e, w.files.resolve w.cwd (file names) = .ok ns ∧ w.files.get? ns = some e ∧
      ¬ HasFormat ns source.target

variable {o : ConvertOptions} {source : Format} {file : List Text → Path}
  {text : List Text → Except Failure Text} {todo : List (List Text)} {w : World}

theorem Sources.withFiles {fs : FileSystem} (h : Sources o source file text todo w)
    (hkeeps : KeepsOthers source.target w.files fs) :
    Sources o source file text todo (w.withFiles fs) := by
  intro names hnames
  obtain ⟨htext, ns, e, hr, he, hn⟩ := h names hnames
  refine ⟨?_, ns, e, hkeeps.directories.resolve hr, hkeeps.others ns e he hn, hn⟩
  rw [← htext]
  unfold World.fileConversion
  rw [← hkeeps.read_eq hr he hn]
  rfl

theorem run_convertEach (rep : Report) (input output : Path)
    (hsource : Sources o source (fileBelow input) text todo w)
    (hout : ∀ names ∈ todo,
      Format.ofPath? (outputPath output source.target names) = some source.target) :
    ∃ results fs es,
      (convertEach World.host rep o source input output todo).run w =
        ((converted results, failures results (fileBelow input)),
          ((w.logged es).withFiles fs).printed
            (resultLines results rep.quiet (outputPath output source.target))) ∧
      ConvertsEach w.cwd text (outputPath output source.target) w.files results fs ∧
      results.map Prod.fst = todo := by
  induction todo generalizing w with
  | nil =>
      refine ⟨[], w.files, [], ?_, .nil w.files, rfl⟩
      rw [w.logged_nil, World.printed, resultLines, List.flatMap_nil, List.append_nil]
      rfl
  | cons names rest ih =>
      obtain ⟨r, fs, es, hcomes, hconverts⟩ := comes_convertTo w rep o source
        (fileBelow input names) (outputPath output source.target names)
      rw [(hsource names List.mem_cons_self).1] at hconverts
      have hkeeps := hconverts.keepsOthers (hout names List.mem_cons_self)
      -- the rest goes on in a world that differs in its files and in what was said so far
      have hrest := fun l => ih (w := ((w.logged es).withFiles fs).printed l)
        (fun n hn => (hsource.withFiles hkeeps) n (List.mem_cons_of_mem names hn))
        fun n hn => hout n (List.mem_cons_of_mem names hn)
      have hrun : (convertTo World.host rep o source (Path.join input (Path.ofNames names))
        (outputPath output source.target names)).run.run w = (r, (w.logged es).withFiles fs) := hcomes
      rw [convertEach]
      dsimp only
      rw [StateT.run_bind, hrun]
      cases r with
      | error e =>
          obtain ⟨results, fs', es', hr, heach, hnames⟩ := hrest []
          refine ⟨(names, .error e) :: results, fs', es ++ es', ?_, .cons hconverts heach,
            congrArg (names :: ·) hnames⟩
          have hchanges := World.changes_changes w es es' fs fs' []
          simp only [World.printed_nil, List.nil_append] at hr hchanges
          change StateT.run (convertEach World.host rep o source input output rest >>= _)
            ((w.logged es).withFiles fs) = _
          rw [StateT.run_bind, hr, hchanges]
          rfl
      | ok u =>
          obtain ⟨results, fs', es', hr, heach, hnames⟩ := hrest
            (resultLine rep.quiet (outputPath output source.target names))
          refine ⟨(names, .ok ()) :: results, fs', es ++ es', ?_, .cons hconverts heach,
            congrArg (names :: ·) hnames⟩
          change StateT.run (printLine World.host rep _ >>= fun _ =>
            convertEach World.host rep o source input output rest >>= _)
            ((w.logged es).withFiles fs) = _
          rw [StateT.run_bind, run_printLine]
          change StateT.run (convertEach World.host rep o source input output rest >>= _) _ = _
          rw [StateT.run_bind, hr, World.changes_changes, converted_cons_ok]
          rfl

/-! ## What a run over files comes to -/

section

variable {fs fs' : FileSystem} {cwd : List Text} {out : List Text → Path} {target : Format}
  {results : List (List Text × Except Failure Unit)}

theorem ConvertsEach.keepsDirectories (h : ConvertsEach cwd text out fs results fs') :
    KeepsDirectories fs fs' := by
  induction h with
  | nil fs => exact KeepsDirectories.refl fs
  | cons h _ ih => exact h.keepsDirectories.trans ih

theorem ConvertsEach.keepsOthers (h : ConvertsEach cwd text out fs results fs')
    (hout : ∀ names ∈ results.map Prod.fst, Format.ofPath? (out names) = some target) :
    KeepsOthers target fs fs' := by
  induction h with
  | nil fs => exact KeepsOthers.refl target fs
  | cons h _ ih =>
      obtain ⟨hfirst, hrest⟩ := List.forall_mem_cons.1 hout
      exact (h.keepsOthers hfirst).trans (ih hrest)

/-- A file that is refused counts as failed; one that comes to a text is written, unless it cannot
be. -/
theorem ConvertsEach.outcome (h : ConvertsEach cwd text out fs results fs') :
    ∀ x ∈ results, (∀ e, text x.1 = .error e → x.2 = .error e) ∧
      ∀ t, text x.1 = .ok t → x.2 = .ok () ∨ ∃ e, x.2 = .error e ∧ Unwritten (out x.1) e := by
  induction h with
  | nil fs => exact fun x hx => nomatch hx
  | @cons fs fs' fs'' names r results h _ ih =>
      refine List.forall_mem_cons.2 ⟨?_, ih⟩
      dsimp only
      generalize text names = t at h
      cases h with
      | refused e => exact ⟨fun e' he => congrArg _ (Except.error.inj he), fun t ht => nomatch ht⟩
      | written t r fs' h =>
          refine ⟨fun e he => (nomatch he), fun t' _ => ?_⟩
          cases h with
          | done _ _ => exact .inl rfl
          | failed e _ he _ _ => exact .inr ⟨e, rfl, he⟩

/-- Whatever changes is on account of one of the files. -/
theorem ConvertsEach.change (h : ConvertsEach cwd text out fs results fs') (ns : List Text) :
    fs'.get? ns = fs.get? ns ∨
      ∃ x ∈ results, Changes cwd (out x.1) (text x.1) x.2 fs fs' ns := by
  induction h with
  | nil fs => exact .inl rfl
  | @cons fs fs' fs'' names r results h hrest ih =>
      rcases ih with hsame | ⟨x, hx, t, ht, hfile | ⟨hnone, hdir, hway⟩⟩
      · rw [hsame]
        refine (h.change ns).imp id fun ⟨t, ht, hnew⟩ =>
          ⟨(names, r), List.mem_cons_self, t, ht, ?_⟩
        rw [← hsame] at hnew
        exact hnew.imp
          (fun ⟨hr, hresolve, hget⟩ => ⟨hr, hrest.keepsDirectories.resolve hresolve, hget⟩)
          fun ⟨hnone, hdir, hway⟩ => ⟨hnone, hdir, hrest.keepsDirectories.onTheWay hway⟩
      · exact .inr ⟨x, List.mem_cons_of_mem _ hx, t, ht, .inl hfile⟩
      · -- what is new for the rest was not there before the first either
        have hnone' : fs.get? ns = none := by
          rcases h.change ns with hsame | ⟨t', -, ⟨-, -, hget⟩ | ⟨hnone', -, -⟩⟩
          · rw [← hsame, hnone]
          · rw [hnone] at hget
            cases hget
          · exact hnone'
        exact .inr ⟨x, List.mem_cons_of_mem _ hx, t, ht, .inr ⟨hnone', hdir, hway⟩⟩

/-- An output holds the text of the last file that was written there. -/
theorem ConvertsEach.read_out (h : ConvertsEach cwd text out fs results fs')
    {before after : List (List Text × Except Failure Unit)} {names : List Text}
    (hsplit : results = before ++ (names, .ok ()) :: after)
    (hlast : ∀ x ∈ after, x.2 = .ok () → ∀ ns, fs'.resolve cwd (out names) = .ok ns →
      fs'.resolve cwd (out x.1) ≠ .ok ns) :
    ∃ t, text names = .ok t ∧ fs'.read cwd (out names) = .ok t := by
  induction h generalizing before with
  | nil fs => simp at hsplit
  | @cons fs fs' fs'' first r results h hrest ih =>
      cases before with
      | cons x before => exact ih (List.cons.inj hsplit).2 hlast
      | nil =>
          obtain ⟨hfirst, rfl⟩ := List.cons.inj hsplit
          obtain ⟨rfl, rfl⟩ := Prod.mk.inj hfirst
          generalize text first = t at h
          cases h with
          | written t r fs' h =>
              cases h with
              | done _ hd =>
                  obtain ⟨ns, hr, hget⟩ := read_eq_ok_iff.1 hd.there
                  have hr' := hrest.keepsDirectories.resolve hr
                  refine ⟨t, rfl, read_eq_ok_iff.2 ⟨ns, hr', ?_⟩⟩
                  rcases hrest.change ns with
                    hsame | ⟨x, hx, t', -, ⟨hok, hx', -⟩ | ⟨hnone, -, -⟩⟩
                  · rw [hsame, hget]
                  · exact absurd hx' (hlast x hx hok ns hr')
                  · rw [hget] at hnone
                    cases hnone

end

/-! ## What outputs hold -/

/-- There is a last element with a property, if there is one. -/
theorem exists_last {α : Type} {p : α → Prop} {xs : List α} (h : ∃ x ∈ xs, p x) :
    ∃ before x after, xs = before ++ x :: after ∧ p x ∧ ∀ y ∈ after, ¬ p y := by
  classical
  obtain ⟨x, hx⟩ : ∃ x, xs.reverse.find? (fun x => decide (p x)) = some x :=
    Option.isSome_iff_exists.1 (by simpa using h)
  obtain ⟨hp, after, before, hsplit, hafter⟩ := List.find?_eq_some_iff_append.1 hx
  refine ⟨before.reverse, x, after.reverse, ?_, of_decide_eq_true hp, fun y hy => ?_⟩
  · rw [← List.reverse_reverse xs, hsplit]
    simp
  · simpa using hafter y (List.mem_reverse.1 hy)

/-- The output of a file that was converted holds in the end what the last such file that has it is
converted to, by the names of the files up to their extensions. -/
theorem ConvertsEach.last_output {fs fs' : FileSystem} {cwd a : List Text} {p : Path}
    {f target : Format} {results : List (List Text × Except Failure Unit)}
    (heach : ConvertsEach cwd text (outputPath p target) fs results fs')
    (hfile : ∀ names ∈ results.map Prod.fst, (∀ n ∈ names, IsFileName n) ∧ HasFormat names f)
    (hsorted : (results.map Prod.fst).Pairwise (· < ·)) (ha : (a, .ok ()) ∈ results) :
    ∃ b, (b, .ok ()) ∈ results ∧ stemNames b = stemNames a ∧
      (∀ c, (c, .ok ()) ∈ results → stemNames c = stemNames a → c ≤ b) ∧
      ∃ t, text b = .ok t ∧ fs'.read cwd (outputPath p target a) = .ok t := by
  have hnames : ∀ {c r}, (c, r) ∈ results → (∀ n ∈ c, IsFileName n) ∧ HasFormat c f :=
    fun hc => hfile _ (List.mem_map_of_mem hc)
  obtain ⟨before, ⟨b, r⟩, after, hsplit, ⟨rfl, hstem⟩, hafter⟩ :=
    exists_last (p := fun y => y.2 = .ok () ∧ stemNames y.1 = stemNames a) ⟨_, ha, rfl, rfl⟩
  dsimp only at hstem
  have hb : (b, .ok ()) ∈ results := hsplit ▸ List.mem_append_right before List.mem_cons_self
  refine ⟨b, hb, hstem, fun c hc hca => ?_, ?_⟩
  · rw [hsplit] at hc hsorted
    rw [List.map_append, List.map_cons] at hsorted
    obtain ⟨-, -, hlt⟩ := List.pairwise_append.1 hsorted
    rcases List.mem_append.1 hc with hc | hc
    · exact (hlt c (List.mem_map_of_mem hc) b List.mem_cons_self).le
    · rcases List.mem_cons.1 hc with heq | hc
      · exact (Prod.mk.inj heq).1.le
      · exact absurd ⟨rfl, hca⟩ (hafter _ hc)
  · obtain ⟨hbnames, hbformat⟩ := hnames hb
    obtain ⟨hanames, haformat⟩ := hnames ha
    rw [← outputPath_eq_of_stemNames hbnames hbformat hanames haformat hstem]
    refine heach.read_out hsplit fun z hz hok ns hns hns' => hafter z hz ⟨hok, ?_⟩
    obtain ⟨hznames, hzformat⟩ := hnames (r := z.2)
      (hsplit ▸ List.mem_append_right before (List.mem_cons_of_mem _ hz))
    rw [← hstem]
    exact stemNames_eq_of_resolve hznames hzformat hbnames hbformat hns' hns

end Command

end CellScript
