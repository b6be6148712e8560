import CellScript.Proofs.Command.Collect
import CellScript.Proofs.Command.Each

set_option autoImplicit false

/-! # Converting a directory

The files of the one format below a directory are collected and converted one after another, and
what came of them is reported at the end: `comes_convertDirectory`. Put together,
`directory_conversion` says which files are attempted, what becomes of each and of its output, what
may change in the file system, and what is said about it. -/

namespace CellScript

open CellScript.Path FileSystem Command

@[simp] theorem Format.target_target (f : Format) : f.target.target = f := by cases f <;> rfl

theorem Format.target_ne (f : Format) : f.target ≠ f := by cases f <;> decide

namespace Command

/-! ## The report -/

/-- The failure that files failed, if some did. -/
def verdict (failed : Nat) : Except Failure Unit :=
  if failed = 0 then .ok () else .error (.someNotConverted failed)

/-- What is said at the end about the files that were attempted. -/
def report (quiet : Bool) (source : Format) (input : Path)
    (results : List (List Text × Except Failure Unit)) : Text :=
  if results = [] then
    if quiet then []
    else "No .".toList ++ source.extension.toList ++ " files found in ".toList ++ input ++ ['\n']
  else
    ((failures results (fileBelow input)).flatMap fun (p, e) => failureLine p e) ++
      if quiet then []
      else summary (converted results) (failures results (fileBelow input)).length

variable {w : World} {q : ConvertRequest} {F : Format} {o : ConvertOptions} {dir : List Text}

theorem sources_attempted (hwf : w.files.WellFormed) (hdir : w.files.resolve w.cwd q.input = .ok dir)
    (hentry : w.files.get? dir = some .directory) :
    Sources o F.target (fileBelow q.input)
      (fun names => w.fileConversion o F.target (fileBelow q.input names))
      (attempted w.files q.recursive F.target dir) w := by
  intro names hnames
  obtain ⟨⟨c, hc⟩, -, hformat⟩ := (mem_attempted hwf hentry).1 hnames
  refine ⟨rfl, dir ++ names, .file c,
    hwf.resolve_fileBelow hdir (ne_nil_of_file hentry hc) hc, hc, fun hother => ?_⟩
  rw [Format.target_target] at hother
  exact F.target_ne ((hformat.append dir).unique hother)

theorem comes_printError (w : World) (t : Text) :
    Comes (ExceptT.lift (World.host.printError t)) w (.ok ()) (w.reported t) := comes_lift rfl

theorem comes_reportEach (w : World) (rep : Report) (done : Nat) (failed : List (Path × Failure)) :
    Comes (reportEach World.host rep done failed) w (verdict failed.length)
      (w.reported ((failed.flatMap fun (p, e) => failureLine p e) ++
        if rep.quiet then [] else summary done failed.length)) := by
  have hverdict : ∀ w : World, Comes
      (if !failed.isEmpty then throw (.someNotConverted failed.length) else pure ()) w
        (verdict failed.length) w := by
    intro w
    cases failed with
    | nil => exact comes_pure () w
    | cons f fs => rfl
  refine (comes_printError w _).bind ?_
  cases rep.quiet with
  | true =>
      rw [if_pos rfl, List.append_nil]
      exact hverdict _
  | false =>
      rw [if_neg Bool.false_ne_true, ← World.reported_reported]
      exact (comes_printError _ _).bind (hverdict _)

/-- A line, unless nothing is to be said. -/
theorem comes_printError_unless (w : World) (quiet : Bool) (t : Text) :
    Comes (if !quiet then ExceptT.lift (World.host.printError t) else pure ()) w (.ok ())
      (w.reported (if quiet then [] else t)) := by
  cases quiet with
  | true =>
      rw [if_pos rfl, w.reported_nil]
      exact comes_pure () w
  | false => exact comes_printError w t

/-- What a directory comes to: the files that are attempted, one after another, and the report. -/
theorem comes_convertDirectory (rep : Report) (hwf : w.files.WellFormed) (htarget : q.target = some F)
    (hdir : w.files.resolve w.cwd q.input = .ok dir)
    (hentry : w.files.get? dir = some .directory) :
    ∃ results fs es,
      Comes (convertDirectory World.host rep o q) w
        (verdict (failures results (fileBelow q.input)).length)
        ((((w.logged es).withFiles fs).printed
          (resultLines results rep.quiet (outputPath (q.output.getD q.input) F))).reported
            (report rep.quiet F.target q.input results)) ∧
      ConvertsEach w.cwd (fun names => w.fileConversion o F.target (fileBelow q.input names))
        (outputPath (q.output.getD q.input) F) w.files results fs ∧
      results.map Prod.fst = attempted w.files q.recursive F.target dir := by
  have hdepth : Comes (ExceptT.lift World.host.depth) w (.ok (w.files.depth + 1)) w := comes_lift rfl
  have hcollect : Comes (collectFiles World.host F.target q.recursive (w.files.depth + 1) q.input) w
      (.ok (attempted w.files q.recursive F.target dir)) w :=
    comes_collectFiles hwf hdir hentry (by omega)
  unfold convertDirectory
  rw [htarget]
  dsimp only
  by_cases hnone : attempted w.files q.recursive F.target dir = []
  · refine ⟨[], w.files, [], hdepth.bind (hcollect.bind ?_), .nil w.files, hnone.symm⟩
    rw [hnone, w.logged_nil, resultLines, List.flatMap_nil, World.printed_nil, report,
      if_pos rfl]
    exact comes_printError_unless w rep.quiet _
  · have hsource := sources_attempted (q := q) (F := F) (o := o) hwf hdir hentry
    have hout : ∀ names ∈ attempted w.files q.recursive F.target dir,
        Format.ofPath? (outputPath (q.output.getD q.input) F names) = some F := by
      intro names hnames
      obtain ⟨hfile, hformat⟩ := of_mem_attempted hwf hentry hnames
      exact ofPath?_outputPath F _ hfile hformat
    obtain ⟨es, hlog⟩ : ∃ es, Comes (ExceptT.lift (log World.host rep
        [.found (attempted w.files q.recursive F.target dir).length F.target.extension])) w
        (.ok ()) (w.logged es) := ⟨_, comes_log w rep _⟩
    have heach := run_convertEach (w := w.logged es) rep q.input (q.output.getD q.input) hsource
    rw [Format.target_target] at heach
    obtain ⟨results, fs, es', hrun, heach, hnames⟩ := heach hout
    refine ⟨results, fs, es ++ es', hdepth.bind (hcollect.bind ?_), heach, hnames⟩
    rw [if_neg (by simpa using hnone)]
    refine hlog.bind ((comes_lift hrun).bind ?_)
    have hresults : results ≠ [] := by
      rintro rfl
      exact hnone hnames.symm
    rw [World.logged_logged, report, if_neg hresults]
    exact comes_reportEach _ rep _ _

/-! ## The whole run -/

section

variable {args : List Text} {a : Arguments}

theorem run_directory (hargs : Arguments.parse args = .ok a) (hreq : a.request = .convert q)
    (hin : q.input ≠ ['-']) (htarget : q.target = some F) (ho : w.options q = .ok o)
    (hwf : w.files.WellFormed) (hdir : w.files.resolve w.cwd q.input = .ok dir)
    (hentry : w.files.get? dir = some .directory) :
    ∃ results fs es,
      (run World.host args).run w =
        (exitStatus (verdict (failures results (fileBelow q.input)).length),
          (((w.logged es).withFiles fs).printed
            (resultLines results a.quiet (outputPath (q.output.getD q.input) F))).reported
              (report a.quiet F.target q.input results ++
                lastWords (verdict (failures results (fileBelow q.input)).length))) ∧
      ConvertsEach w.cwd (fun names => w.fileConversion o F.target (fileBelow q.input names))
        (outputPath (q.output.getD q.input) F) w.files results fs ∧
      results.map Prod.fst = attempted w.files q.recursive F.target dir := by
  obtain ⟨es, hrun⟩ := run_of_settled hargs hreq ho
  obtain ⟨results, fs, es', hcomes, heach, hnames⟩ := comes_convertDirectory (w := w.logged es)
    (o := o) a.report hwf htarget hdir hentry
  have hdirectory : World.entry? (w.logged es) q.input = some .directory :=
    entry?_eq_some_iff.2 ⟨dir, hdir, hentry⟩
  have hfile := run_isFile (w.logged es) q.input
  have hisdir := run_isDirectory (w.logged es) q.input
  rw [hdirectory] at hfile hisdir
  refine ⟨results, fs, es ++ es', ?_, heach, hnames⟩
  rw [← World.reported_reported, ← World.logged_logged]
  refine hrun _ _ ?_
  rw [convertWith, if_neg hin]
  exact (comes_lift hfile).bind ((comes_lift hisdir).bind hcomes)

end

/-- What converting a directory did, with a result for every file that was attempted. -/
structure DirectoryOutcome (w : World) (q : ConvertRequest) (quiet : Bool) (o : ConvertOptions)
    (F : Format) (dir : List Text) (results : List (List Text × Except Failure Unit))
    (code : Nat) (w' : World) : Prop where
  /-- The files that are attempted are those of the other format, in the directory itself or
  anywhere below it. -/
  attempted : ∀ names, names ∈ results.map Prod.fst ↔
    (∃ c, w.files.get? (dir ++ names) = some (.file c)) ∧ (q.recursive ∨ names.length = 1) ∧
      HasFormat names F.target
  /-- They come in the order of their names, and so each of them once. -/
  ordered : (results.map Prod.fst).Pairwise (· < ·)
  /-- Step by step, in the files as they are when its turn comes: a file that cannot be read or
  converted fails for that reason and changes nothing; for any other the output is written, or the
  path of the output takes no file and at most directories are new. -/
  steps : ConvertsEach w.cwd (fun names => w.fileConversion o F.target (fileBelow q.input names))
    (outputPath (q.output.getD q.input) F) w.files results w'.files
  /-- A file that cannot be read or converted fails for that reason, and any other is converted,
  unless its output cannot be written. -/
  outcome : ∀ x ∈ results,
    (∀ e, w.fileConversion o F.target (fileBelow q.input x.1) = .error e → x.2 = .error e) ∧
      ∀ t, w.fileConversion o F.target (fileBelow q.input x.1) = .ok t → x.2 = .ok () ∨
        ∃ e, x.2 = .error e ∧ Unwritten (outputPath (q.output.getD q.input) F x.1) e
  /-- In the end the output of a file that was converted holds what the last such file that has it
  is converted to. -/
  holds : ∀ a, (a, .ok ()) ∈ results → ∃ b, (b, .ok ()) ∈ results ∧ stemNames b = stemNames a ∧
    (∀ c, (c, .ok ()) ∈ results → stemNames c = stemNames a → c ≤ b) ∧
    ∃ t, w.fileConversion o F.target (fileBelow q.input b) = .ok t ∧
      w'.files.read w.cwd (outputPath (q.output.getD q.input) F a) = .ok t
  /-- Every change is on account of a file that was read and converted: its output, or a directory
  on the way there. -/
  change : ∀ ns, w'.files.get? ns = w.files.get? ns ∨ ∃ x ∈ results,
    Changes w.cwd (outputPath (q.output.getD q.input) F x.1)
      (w.fileConversion o F.target (fileBelow q.input x.1)) x.2 w.files w'.files ns
  /-- A file that is new or different has the extension of the format that was asked for. -/
  extension : ∀ ns c, w'.files.get? ns = some (.file c) → w.files.get? ns = some (.file c) ∨
    ∃ front stem, ns = front ++ [stem ++ '.' :: F.extension.toList] ∧ stem ≠ []
  /-- Everything of another extension stays as it is. -/
  kept : ∀ ns e, w.files.get? ns = some e → ¬ HasFormat ns F → w'.files.get? ns = some e
  /-- Every file is counted as converted or as failed. -/
  counted : converted results + (failures results (fileBelow q.input)).length = results.length
  /-- What is put out are the paths of the outputs, for the files that were converted. -/
  output : w'.output =
    w.output ++ resultLines results quiet (outputPath (q.output.getD q.input) F)
  /-- Every failure is reported once, and the counts are. -/
  errors : ∃ es : List Event, w'.errors = w.errors ++ es.flatMap Event.line ++
    (report quiet F.target q.input results ++
      lastWords (verdict (failures results (fileBelow q.input)).length))
  /-- The exit status says whether a file failed. -/
  status : code = if ∀ x ∈ results, x.2.isOk then 0 else 1

theorem exitStatus_verdict (results : List (List Text × Except Failure Unit))
    (file : List Text → Path) :
    exitStatus (verdict (failures results file).length) =
      if ∀ x ∈ results, x.2.isOk then 0 else 1 := by
  have hiff : (failures results file).length = 0 ↔ ∀ x ∈ results, x.2.isOk := by
    rw [List.length_eq_zero_iff, failures_eq_nil_iff]
  unfold verdict
  by_cases hall : ∀ x ∈ results, x.2.isOk
  · rw [if_pos (hiff.2 hall), if_pos hall]
    rfl
  · rw [if_neg fun h => hall (hiff.1 h), if_neg hall]
    rfl

/-- The names at the end of an output. -/
theorem exists_of_resolve_output {fs : FileSystem} {cwd ns names : List Text} {p : Path}
    {f : Format} (h : ∀ n ∈ names, IsFileName n) (hf : HasFormat names f)
    (hr : fs.resolve cwd (outputPath p F names) = .ok ns) :
    ∃ front stem, ns = front ++ [stem ++ '.' :: F.extension.toList] ∧ stem ≠ [] := by
  obtain ⟨place, hplace⟩ := exists_place cwd p
  rw [outputPath_eq F p h hf] at hr
  obtain ⟨here, -, rfl⟩ := hplace fs _ ns (outputNames_ne_nil F names)
    (isFileName_outputNames F h hf) hr
  obtain ⟨front, stem, e, rfl, hstem, hdot, -⟩ := hf
  exact ⟨here ++ front, stem, by rw [outputNames_append F front hstem hdot, List.append_assoc], hstem⟩

/-- Converting a directory attempts the files of the other format that are there, writes their
outputs and changes nothing else, and reports on each of them. -/
theorem directory_conversion {args : List Text} {a : Arguments} {code : Nat} {w' : World}
    (hargs : Arguments.parse args = .ok a) (hreq : a.request = .convert q) (hin : q.input ≠ ['-'])
    (htarget : q.target = some F) (ho : w.options q = .ok o) (hwf : w.files.WellFormed)
    (hdir : w.files.resolve w.cwd q.input = .ok dir) (hentry : w.files.get? dir = some .directory)
    (hrun : (run World.host args).run w = (code, w')) :
    ∃ results, DirectoryOutcome w q a.quiet o F dir results code w' := by
  obtain ⟨results, fs, es, hrun', heach, hnames⟩ :=
    run_directory hargs hreq hin htarget ho hwf hdir hentry
  rw [hrun', Prod.mk.injEq] at hrun
  obtain ⟨rfl, rfl⟩ := hrun
  have hfile : ∀ names ∈ results.map Prod.fst,
      (∀ n ∈ names, IsFileName n) ∧ HasFormat names F.target := fun names hmem =>
    of_mem_attempted hwf hentry (hnames ▸ hmem)
  have hkeeps : KeepsOthers F w.files fs := heach.keepsOthers fun names hmem =>
    ofPath?_outputPath F _ (hfile names hmem).1 (hfile names hmem).2
  have hsorted : (results.map Prod.fst).Pairwise (· < ·) := hnames ▸ attempted_sorted hwf
  refine ⟨results,
    { attempted := fun names => by rw [hnames, mem_attempted hwf hentry]
      ordered := hsorted
      steps := heach
      outcome := heach.outcome
      holds := fun _ ha => heach.last_output hfile hsorted ha
      change := heach.change
      extension := fun ns c hc => ?_
      kept := hkeeps.others
      counted := converted_add_failures results _
      output := rfl
      errors := ⟨es, rfl⟩
      status := exitStatus_verdict results _ }⟩
  rcases heach.change ns with hsame | ⟨x, hx, t, -, ⟨-, hr, -⟩ | ⟨-, hdirectory, -⟩⟩
  · exact .inl (hsame ▸ hc)
  · obtain ⟨hnames, hformat⟩ := hfile x.1 (List.mem_map_of_mem hx)
    exact .inr (exists_of_resolve_output hnames hformat hr)
  · cases hc.symm.trans hdirectory

/-- A notebook without cells. -/
def blankNotebook : Text :=
  "\x7b\"cells\":[],\"metadata\":\x7b\x7d,\"nbformat\":4,\"nbformat_minor\":5\x7d".toList

/-- A directory with a notebook, a file that is none, one that is left alone, and a directory with
another notebook. -/
def tray : World where
  files := [(["tray".toList], .directory),
    (["tray".toList, "b.ipynb".toList], .file (.text "[]".toList)),
    (["tray".toList, "a.ipynb".toList], .file (.text blankNotebook)),
    (["tray".toList, "notes.txt".toList], .file (.text [])),
    (["tray".toList, "old".toList], .directory),
    (["tray".toList, "old".toList, "c.ipynb".toList], .file (.text blankNotebook))]

/-- The request to convert the notebooks in that directory and below it. -/
def trayRequest : ConvertRequest :=
  { input := "tray".toList, target := some .script, recursive := true }

/-- The arguments for that request. -/
def trayArgs : List Text :=
  ["convert".toList, "tray".toList, "--to".toList, "py".toList, "-r".toList]

/-- The notebook in the directory below is attempted too. -/
theorem directory_conversion_tray :
    ∃ o results, tray.options trayRequest = .ok o ∧
      DirectoryOutcome tray trayRequest false o .script ["tray".toList] results
        ((run World.host trayArgs).run tray).1 ((run World.host trayArgs).run tray).2 ∧
      ["old".toList, "c.ipynb".toList] ∈ results.map Prod.fst := by
  have hargs : Arguments.parse trayArgs = .ok ⟨.convert trayRequest, false, false⟩ := rfl
  obtain ⟨o, ho⟩ : ∃ o, tray.options trayRequest = .ok o := ⟨_, rfl⟩
  have hformat : HasFormat ["old".toList, "c.ipynb".toList] .notebook :=
    ⟨["old".toList], "c".toList, "ipynb".toList, rfl, by decide, by decide, by decide⟩
  cases hrun : (run World.host trayArgs).run tray with | mk code w' =>
  obtain ⟨results, h⟩ := directory_conversion hargs rfl (by decide) rfl ho (by decide) rfl rfl hrun
  exact ⟨o, results, ho, h, (h.attempted _).2 ⟨⟨_, rfl⟩, .inl rfl, hformat⟩⟩

end Command

end CellScript
