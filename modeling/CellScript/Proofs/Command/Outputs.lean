import CellScript.Proofs.Command.Directory

set_option autoImplicit false

/-! # Outputs of a directory

Files are selected by their extensions in upper or lower case, and their outputs are named without
them. So two files have the same output exactly if their names only differ in the case of their
extensions (`outputPath_eq_of_stemNames`, `stemNames_eq_of_resolve`), and then the later of them is
what the output holds in the end: `outputs_hold`. Without such files every file has an output of its
own. -/

namespace CellScript.Command

open CellScript.Path FileSystem

variable {w w' : World} {q : ConvertRequest} {F : Format} {o : ConvertOptions}

/-! ## What outputs hold -/

/-- Every one of the files has an output of its own, which holds what the file is converted to. -/
def OwnOutputs (w w' : World) (q : ConvertRequest) (o : ConvertOptions) (F : Format)
    (names : List (List Text)) : Prop :=
  ∀ a ∈ names, ∃ ns t, w.fileConversion o F.target (fileBelow q.input a) = .ok t ∧
    w'.files.resolve w.cwd (outputPath (q.output.getD q.input) F a) = .ok ns ∧
    w'.files.get? ns = some (.file (.text t)) ∧
    ∀ b ∈ names, w'.files.resolve w.cwd (outputPath (q.output.getD q.input) F b) = .ok ns → b = a

/-- When no file fails, every output holds what the last file that has it is converted to, by the
names of the files up to their extensions. So the outputs are the files' own if and only if no two
of the files have the same names up to there. -/
theorem outputs_hold {args : List Text} {a : Arguments} {dir : List Text}
    (hargs : Arguments.parse args = .ok a) (hreq : a.request = .convert q) (hin : q.input ≠ ['-'])
    (htarget : q.target = some F) (ho : w.options q = .ok o) (hwf : w.files.WellFormed)
    (hdir : w.files.resolve w.cwd q.input = .ok dir) (hentry : w.files.get? dir = some .directory)
    (hrun : (run World.host args).run w = (0, w')) {names : List (List Text)}
    (hnames : names = attempted w.files q.recursive F.target dir) :
    (∀ a ∈ names, ∃ b ∈ names, stemNames b = stemNames a ∧
      (∀ c ∈ names, stemNames c = stemNames a → c ≤ b) ∧
      ∃ t, w.fileConversion o F.target (fileBelow q.input b) = .ok t ∧
        w'.files.read w.cwd (outputPath (q.output.getD q.input) F a) = .ok t) ∧
    (OwnOutputs w w' q o F names ↔
      ∀ a ∈ names, ∀ b ∈ names, stemNames a = stemNames b → a = b) := by
  obtain ⟨results, fs, es, hrun', heach, hresults⟩ :=
    run_directory hargs hreq hin htarget ho hwf hdir hentry
  rw [hrun', Prod.mk.injEq, exitStatus_verdict] at hrun
  obtain ⟨hcode, rfl⟩ := hrun
  have hok : ∀ x ∈ results, x.2.isOk := by
    by_contra hall
    rw [if_neg hall] at hcode
    cases hcode
  obtain rfl : names = results.map Prod.fst := hnames.trans hresults.symm
  have hfile : ∀ names ∈ results.map Prod.fst,
      (∀ n ∈ names, IsFileName n) ∧ HasFormat names F.target := fun names hmem =>
    of_mem_attempted hwf hentry (hresults ▸ hmem)
  have hsorted : (results.map Prod.fst).Pairwise (· < ·) := hresults ▸ attempted_sorted hwf
  have hmem : ∀ {a}, a ∈ results.map Prod.fst ↔ (a, .ok ()) ∈ results := by
    refine fun {a} => ⟨fun ha => ?_, fun ha => List.mem_map_of_mem ha⟩
    obtain ⟨⟨a, r⟩, hx, rfl⟩ := List.mem_map.1 ha
    cases r with
    | ok u => exact hx
    | error e => cases hok _ hx
  have hlast : ∀ a ∈ results.map Prod.fst, ∃ b ∈ results.map Prod.fst, stemNames b = stemNames a ∧
      (∀ c ∈ results.map Prod.fst, stemNames c = stemNames a → c ≤ b) ∧
      ∃ t, w.fileConversion o F.target (fileBelow q.input b) = .ok t ∧
        fs.read w.cwd (outputPath (q.output.getD q.input) F a) = .ok t := by
    intro a ha
    simp only [hmem]
    exact heach.last_output hfile hsorted (hmem.1 ha)
  refine ⟨hlast, fun hown a ha b hb hstem => ?_, fun hclash a ha => ?_⟩
  · obtain ⟨ns, t, -, hr, -, honly⟩ := hown a ha
    have hout : outputPath (q.output.getD q.input) F a = outputPath (q.output.getD q.input) F b :=
      outputPath_eq_of_stemNames (hfile a ha).1 (hfile a ha).2 (hfile b hb).1 (hfile b hb).2 hstem
    exact (honly b hb (hout ▸ hr)).symm
  · obtain ⟨b, hb, hstem, -, t, ht, hread⟩ := hlast a ha
    obtain rfl := hclash b hb a ha hstem
    obtain ⟨ns, hr, hget⟩ := read_eq_ok_iff.1 hread
    refine ⟨ns, t, ht, hr, hget, fun c hc hrc => hclash c hc b hb ?_⟩
    exact stemNames_eq_of_resolve (hfile c hc).1 (hfile c hc).2 (hfile b hb).1 (hfile b hb).2 hrc hr

/-- A script of one cell. -/
def saying (word : String) : Text :=
  ("import herzog\n\nwith herzog.Cell(\"markdown\"):\n    \"\"\"\n    " ++ word ++
    "\n    \"\"\"\n").toList

/-- A directory with two scripts whose names only differ in the case of their extensions. -/
def twins : World where
  files := [(["d".toList], .directory),
    (["d".toList, "a.PY".toList], .file (.text (saying "One"))),
    (["d".toList, "a.py".toList], .file (.text (saying "Two")))]

/-- The request to convert the scripts in that directory. -/
def twinRequest : ConvertRequest := { input := "d".toList, target := some .notebook }

/-- The arguments for that request. -/
def twinArgs : List Text := ["convert".toList, "d".toList, "--to".toList, "ipynb".toList]

/-- The names of the two scripts. -/
def twinNames : List (List Text) := [["a.PY".toList], ["a.py".toList]]

theorem twins_run : ∃ w', (run World.host twinArgs).run twins = (0, w') ∧
    w'.errors = "Converted 2 files, 0 failed\n".toList := by
  have h : ((run World.host twinArgs).run twins).1 = 0 ∧
      ((run World.host twinArgs).run twins).2.errors =
        "Converted 2 files, 0 failed\n".toList := by
    decide +kernel
  cases hrun : (run World.host twinArgs).run twins with | mk code w' =>
  rw [hrun] at h
  obtain ⟨rfl, herrors⟩ := h
  exact ⟨w', rfl, herrors⟩

theorem outputs_hold_twins :
    ∃ o w', (run World.host twinArgs).run twins = (0, w') ∧
      ∃ t, twins.fileConversion o .script "d/a.py".toList = .ok t ∧
        w'.files.read [] "d/a.ipynb".toList = .ok t := by
  obtain ⟨w', hrun, -⟩ := twins_run
  obtain ⟨o, ho⟩ : ∃ o, twins.options twinRequest = .ok o := ⟨_, rfl⟩
  have hargs : Arguments.parse twinArgs = .ok ⟨.convert twinRequest, false, false⟩ := rfl
  have hnames : twinNames = attempted twins.files false .script ["d".toList] := by decide
  obtain ⟨hlast, -⟩ := outputs_hold hargs rfl (by decide) rfl ho (by decide) rfl rfl hrun hnames
  obtain ⟨b, hb, -, hmax, t, ht, hread⟩ := hlast ["a.PY".toList] (by decide)
  have hle := hmax ["a.py".toList] (by decide) (by decide)
  obtain rfl : b = ["a.py".toList] := by
    rcases List.mem_cons.1 hb with rfl | hb
    · exact absurd hle (by decide)
    · exact List.mem_singleton.1 hb
  exact ⟨o, w', hrun, t, ht, hread⟩

theorem twin_overwritten :
    ∃ o w', twins.options twinRequest = .ok o ∧
      (run World.host twinArgs).run twins = (0, w') ∧
      w'.errors = "Converted 2 files, 0 failed\n".toList ∧
      attempted twins.files twinRequest.recursive .script ["d".toList] = twinNames ∧
      ¬ OwnOutputs twins w' twinRequest o .notebook twinNames := by
  obtain ⟨w', hrun, herrors⟩ := twins_run
  obtain ⟨o, ho⟩ : ∃ o, twins.options twinRequest = .ok o := ⟨_, rfl⟩
  refine ⟨o, w', ho, hrun, herrors, by decide, fun hown => ?_⟩
  obtain ⟨ns, t, -, hr, -, honly⟩ := hown ["a.PY".toList] (by decide)
  -- the two scripts have one output
  have hsame : ["a.py".toList] = ["a.PY".toList] := honly ["a.py".toList] (by decide) hr
  exact absurd hsame (by decide)

end CellScript.Command
