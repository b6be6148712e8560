import CellScript.Command.Run
import CellScript.Proofs.Except
import CellScript.Proofs.Files.Entries

set_option autoImplicit false

/-! # Commands in a world

On a host that is a value, a command takes a world to a result and another world: `Comes`. Up to the
first file that is written that result only depends on what is there, and is said here without any
effect: `World.config`, `World.options` and, for one document, `World.conversion`. The commands come
to these results and leave the world as it is, except for what they log: `Observes`. -/

namespace CellScript

open Json

/-! ## What a request comes to -/

namespace World

open Command

/-- The configuration at a path. -/
def readConfig (w : World) (p : Path) : Except Failure Config := do
  let t ← (w.files.read w.cwd p).mapError (.configUnread p)
  (Config.ofText t).mapError (.badConfig p t)

/-- The configuration that was asked for, or that of the working directory, with its directory. -/
def config (w : World) : Option Path → Except Failure (Config × Path)
  | some p => (w.readConfig p).map fun c => (c, p.parent?.getD [])
  | none =>
    let p := Path.join w.workingDirectory Config.fileName
    if (w.entry? p).isSome then (w.readConfig p).map fun c => (c, w.workingDirectory)
    else .ok ({}, w.workingDirectory)

/-- The template at a path. -/
def readTemplate (w : World) (p : Path) : Except Failure (Table Value) := do
  let t ← (w.files.read w.cwd p).mapError (.templateUnread p)
  (Template.ofText t).mapError (.badTemplate p)

/-- The options that a request and a configuration in a directory make. -/
def optionsIn (w : World) (q : ConvertRequest) (c : Config) (dir : Path) :
    Except Failure ConvertOptions := do
  let o ← chosenOptions q c
  match q.template <|> c.template.map (Path.join dir) with
  | none => .ok o
  | some p =>
    (w.readTemplate p).map fun t => { o with notebook := { o.notebook with template := t } }

/-- The options for the conversions that a request asks for. -/
def options (w : World) (q : ConvertRequest) : Except Failure ConvertOptions := do
  let (c, dir) ← w.config q.config
  w.optionsIn q c dir

/-- The text that a file is converted to. -/
def fileConversion (w : World) (o : ConvertOptions) (source : Format) (input : Path) :
    Except Failure Text := do
  let t ← (w.files.read w.cwd input).mapError (.inputUnread input)
  (convert o source t).mapError (.notConverted input)

/-- The text that a request to convert one document comes to with options: the format is settled
first, then the document is read, and then it is converted. -/
def conversionWith (w : World) (q : ConvertRequest) (o : ConvertOptions) : Except Failure Text := do
  if q.input = ['-'] then
    let source ← sourceFormat none q.output q.target
    let t ← w.input.read.mapError .standardInputUnread
    (convert o source t).mapError .standardInputNotConverted
  else
    let source ← sourceFormat (some q.input) q.output q.target
    w.fileConversion o source q.input

/-- The text that a request to convert one document comes to. -/
def conversion (w : World) (q : ConvertRequest) : Except Failure Text :=
  w.options q >>= w.conversionWith q

/-! ## Changes -/

/-- The world with events in its log. -/
def logged (w : World) (es : List Event) : World :=
  { w with errors := w.errors ++ es.flatMap Event.line }

/-- The world with a text at the end of its output. -/
def printed (w : World) (t : Text) : World := { w with output := w.output ++ t }

/-- The world with a text at the end of its diagnostics. -/
def reported (w : World) (t : Text) : World := { w with errors := w.errors ++ t }

/-- The world with other files. -/
def withFiles (w : World) (fs : FileSystem) : World := { w with files := fs }

theorem logged_nil (w : World) : w.logged [] = w := by
  simp [logged]

theorem printed_nil (w : World) : w.printed [] = w := by
  simp [printed]

theorem reported_nil (w : World) : w.reported [] = w := by
  simp [reported]

theorem reported_reported (w : World) (t t' : Text) :
    (w.reported t).reported t' = w.reported (t ++ t') := by
  simp [reported]

theorem logged_logged (w : World) (es es' : List Event) :
    (w.logged es).logged es' = w.logged (es ++ es') := by
  simp [logged]

end World

namespace Command

/-! ## Running -/

section

variable {α β : Type} {w w₁ w₂ : World} {x : ExceptT Failure (StateM World) α}
  {f : α → ExceptT Failure (StateM World) β}

/-- A program comes to a result in a world and leaves another. -/
def Comes (x : ExceptT Failure (StateM World) α) (w : World) (r : Except Failure α) (w' : World) :
    Prop :=
  x.run.run w = (r, w')

theorem comes_pure (a : α) (w : World) : Comes (pure a) w (.ok a) w := rfl

theorem Comes.bind {a : α} {r : Except Failure β} (hx : Comes x w (.ok a) w₁)
    (hf : Comes (f a) w₁ r w₂) : Comes (x >>= f) w r w₂ := by
  unfold Comes at *
  rw [ExceptT.run_bind, StateT.run_bind, hx]
  exact hf

theorem Comes.bind_error {e : Failure} (hx : Comes x w (.error e) w₁) :
    Comes (x >>= f) w (.error e) w₁ := by
  unfold Comes at *
  rw [ExceptT.run_bind, StateT.run_bind, hx]
  rfl

theorem comes_lift {y : StateM World α} {a : α} (h : y.run w = (a, w₁)) :
    Comes (ExceptT.lift y) w (.ok a) w₁ := by
  unfold Comes
  rw [ExceptT.run_lift, StateT.run_map, h]
  rfl

theorem comes_orFail {y : StateM World (Except FileError α)} {r : Except FileError α}
    (g : FileError → Failure) (h : y.run w = (r, w₁)) : Comes (orFail g y) w (r.mapError g) w₁ := by
  unfold Comes orFail
  rw [ExceptT.run_mk, StateT.run_map, h]
  rfl

/-- A program that leaves the world as it is, for every element of a list. -/
theorem comes_mapM {xs : List β} {f : β → ExceptT Failure (StateM World) α} {g : β → α}
    (h : ∀ x ∈ xs, Comes (f x) w (.ok (g x)) w) : Comes (xs.mapM f) w (.ok (xs.map g)) w := by
  induction xs with
  | nil => exact comes_pure [] w
  | cons x xs ih =>
      obtain ⟨hx, hxs⟩ := List.forall_mem_cons.1 h
      rw [List.mapM_cons]
      exact hx.bind ((ih hxs).bind (comes_pure _ w))

theorem comes_settle (r : Except Failure α) (w : World) : Comes (settle r) w r w := rfl

/-- A program comes to a result in a world and leaves the world as it is, except for its log. -/
def Observes (x : ExceptT Failure (StateM World) α) (w : World) (r : Except Failure α) : Prop :=
  ∃ es, Comes x w r (w.logged es)

theorem Comes.observes {r : Except Failure α} (h : Comes x w r w) : Observes x w r :=
  ⟨[], w.logged_nil.symm ▸ h⟩

theorem Observes.bind {r : Except Failure α} {g : α → Except Failure β} (hx : Observes x w r)
    (hf : ∀ a es, r = .ok a → Observes (f a) (w.logged es) (g a)) :
    Observes (x >>= f) w (r >>= g) := by
  obtain ⟨es, hx⟩ := hx
  cases r with
  | error e => exact ⟨es, hx.bind_error⟩
  | ok a =>
      obtain ⟨es', hf⟩ := hf a es rfl
      exact ⟨es ++ es', by rw [← World.logged_logged]; exact hx.bind hf⟩

theorem Observes.map {r : Except Failure α} (hx : Observes x w r) (g : α → β) :
    Observes (x >>= fun a => pure (g a)) w (r.map g) := by
  obtain ⟨es, hx⟩ := hx
  cases r with
  | error e => exact ⟨es, hx.bind_error⟩
  | ok a => exact ⟨es, hx.bind (comes_pure _ _)⟩

theorem observes_settle (r : Except Failure α) (w : World) : Observes (settle r) w r :=
  (comes_settle r w).observes

theorem observes_orFail {y : StateM World (Except FileError α)} {r : Except FileError α}
    (g : FileError → Failure) (h : y.run w = (r, w)) : Observes (orFail g y) w (r.mapError g) :=
  (comes_orFail g h).observes

end

/-! ## Settling what to do -/

section

variable (w : World)

theorem observes_readConfig (p : Path) :
    Observes (readConfig World.host p) w (w.readConfig p) :=
  (observes_orFail _ rfl).bind fun _ _ _ => observes_settle _ _

theorem run_isFile (p : Path) :
    (World.host.isFile p).run w = (match w.entry? p with | some (.file _) => true | _ => false, w) :=
  rfl

theorem run_isDirectory (p : Path) :
    (World.host.isDirectory p).run w = (w.entry? p == some .directory, w) := rfl

theorem isFile_or_isDirectory (e : Option Entry) :
    ((match e with | some (.file _) => true | _ => false) || e == some .directory) = e.isSome := by
  cases e with
  | none => rfl
  | some e => cases e <;> rfl

theorem observes_loadConfig (asked : Option Path) :
    Observes (loadConfig World.host asked) w (w.config asked) := by
  cases asked with
  | some p => exact (observes_readConfig w p).map _
  | none =>
      let p := Path.join w.workingDirectory Config.fileName
      have hgo : Observes (if (w.entry? p).isSome then
          (do return (← readConfig World.host p, w.workingDirectory) :
            ExceptT Failure (StateM World) (Config × Path))
          else pure ({}, w.workingDirectory)) w (w.config none) := by
        rw [World.config]
        split
        · exact (observes_readConfig w p).map _
        · exact (comes_pure _ w).observes
      rw [← isFile_or_isDirectory] at hgo
      obtain ⟨es, hgo⟩ := hgo
      exact ⟨es, Comes.bind (comes_lift rfl) (Comes.bind (comes_lift (run_isFile w p))
        (Comes.bind (comes_lift (run_isDirectory w p)) hgo))⟩

theorem observes_readTemplate (p : Path) :
    Observes (readTemplate World.host p) w (w.readTemplate p) :=
  (observes_orFail _ rfl).bind fun _ _ _ => observes_settle _ _

theorem observes_optionsIn (q : ConvertRequest) (c : Config) (dir : Path) :
    Observes (options World.host q c dir) w (w.optionsIn q c dir) := by
  refine (observes_settle _ w).bind fun o es _ => ?_
  cases q.template <|> c.template.map (Path.join dir) with
  | none => exact (comes_pure o _).observes
  | some p => exact (observes_readTemplate (w.logged es) p).map _

theorem observes_options (q : ConvertRequest) :
    Observes (do
        let (c, dir) ← loadConfig World.host q.config
        options World.host q c dir) w (w.options q) :=
  (observes_loadConfig w q.config).bind fun (c, dir) es _ =>
    observes_optionsIn (w.logged es) q c dir

/-! ## Reading and converting -/

/-- The events at the level that is reported. -/
def heard (r : Report) (es : List Event) : List Event :=
  es.filter fun e => r.level.rank ≤ e.level.rank

theorem comes_log (r : Report) (es : List Event) :
    Comes (ExceptT.lift (log World.host r es)) w (.ok ()) (w.logged (heard r es)) := comes_lift rfl

theorem observes_convertText (r : Report) (o : ConvertOptions) (source : Format)
    (g : ConvertError → Failure) (t : Text) :
    Observes (convertText World.host r o source g t) w ((convert o source t).mapError g) :=
  ⟨_, Comes.bind (comes_log w r _) (comes_settle _ _)⟩

theorem observes_convertInput (r : Report) (o : ConvertOptions) (source : Format) (input : Path) :
    Observes (convertInput World.host r o source input) w (w.fileConversion o source input) :=
  (observes_orFail _ rfl).bind fun t es _ => observes_convertText (w.logged es) r o source _ t

/-! ## Writing -/

/-- A file was not written. -/
inductive Unwritten (p : Path) : Failure → Prop where
  | noDirectory (dir : Path) (e : FileError) (h : p.parent? = some dir) :
    Unwritten p (.directoryNotMade dir e)
  | noFile (e : FileError) : Unwritten p (.outputUnwritten p e)

/-- What writing a text to a path comes to: the text is there, or, where a file cannot be written, at
most directories are new. -/
inductive Writes (cwd : List Text) (p : Path) (t : Text) (fs : FileSystem) :
    Except Failure Unit → FileSystem → Prop where
  | done (fs' : FileSystem) (h : fs.Delivers cwd p t fs') : Writes cwd p t fs (.ok ()) fs'
  | failed (e : Failure) (fs' : FileSystem) (he : Unwritten p e) (hn : ¬ fs.Takes cwd p)
    (h : FileSystem.AddsDirectories cwd p fs fs') : Writes cwd p t fs (.error e) fs'

theorem comes_write {fs : FileSystem} {p : Path} (t : Text)
    (h : FileSystem.AddsDirectories w.cwd p w.files fs)
    (hsame : w.files.Takes w.cwd p → fs = w.files) :
    ∃ r fs', Comes (orFail (.outputUnwritten p) (World.host.write p t)) (w.withFiles fs) r
        (w.withFiles fs') ∧ Writes w.cwd p t w.files r fs' := by
  have hrun : (World.host.write p t).run (w.withFiles fs) = World.write p t (w.withFiles fs) := rfl
  rw [World.write] at hrun
  cases hw : fs.write w.cwd p t with
  | ok fs' =>
      simp only [World.withFiles, hw] at hrun
      exact ⟨_, fs', comes_orFail _ hrun, .done fs' (FileSystem.delivers_of_write h hw)⟩
  | error e =>
      simp only [World.withFiles, hw] at hrun
      refine ⟨_, fs, comes_orFail _ hrun, .failed _ fs (.noFile e) (fun htakes => ?_) h⟩
      obtain ⟨names, hr, hdir⟩ := htakes.leads
      rw [hsame htakes, FileSystem.write_eq_ok_iff.2 ⟨names, hr, hdir, rfl⟩] at hw
      cases hw

theorem comes_writeFile (p : Path) (t : Text) :
    ∃ r fs, Comes (writeFile World.host p t) w r (w.withFiles fs) ∧
      Writes w.cwd p t w.files r fs := by
  unfold writeFile
  cases hdir : p.parent? with
  | none => exact comes_write w t (FileSystem.AddsDirectories.refl w.cwd p w.files) fun _ => rfl
  | some dir =>
      dsimp only
      have hadds := FileSystem.makeDirectories_adds w.cwd (dir.length + 1) w.files dir
      have hrun : (World.host.makeDirectories dir).run w = World.makeDirectories dir w := rfl
      rw [World.makeDirectories] at hrun
      cases hmade : FileSystem.makeDirectories w.cwd (dir.length + 1) w.files dir with
      | mk fs made =>
          have hsame : w.files.Takes w.cwd p → fs = w.files ∧ made = .ok () := by
            intro htakes
            rw [FileSystem.makeDirectories_of_directory _ (htakes.parent dir hdir)] at hmade
            exact ⟨(Prod.mk.inj hmade).1.symm, (Prod.mk.inj hmade).2.symm⟩
          rw [hmade] at hadds hrun
          have hall : FileSystem.AddsDirectories w.cwd p w.files fs :=
            hadds.trans (.single hdir) (.refl w.cwd p fs)
          have hcomes := comes_orFail (.directoryNotMade dir) hrun
          cases made with
          | error e =>
              exact ⟨_, fs, hcomes.bind_error, .failed _ fs (.noDirectory dir e hdir)
                (fun htakes => nomatch (hsame htakes).2) hall⟩
          | ok u =>
              obtain ⟨r, fs', hwrite, hwrites⟩ := comes_write w t hall fun h => (hsame h).1
              exact ⟨r, fs', hcomes.bind hwrite, hwrites⟩

/-- The line of a result, unless nothing is to be said. -/
def resultLine (quiet : Bool) (p : Path) : Text := if quiet then [] else p ++ ['\n']

theorem run_printLine (r : Report) (p : Path) :
    (printLine World.host r p).run w = ((), w.printed (resultLine r.quiet p)) := by
  unfold printLine resultLine
  split
  · rw [World.printed, List.append_nil]
    rfl
  · rfl

/-! ## The whole command -/

theorem runConvert_eq (r : Report) (q : ConvertRequest) :
    runConvert World.host r q = (do
        let (c, dir) ← loadConfig World.host q.config
        options World.host q c dir) >>= convertWith World.host r q := by
  simp only [bind_assoc]
  rfl

/-- The exit status of a request that came to a result. -/
def exitStatus : Except Failure Unit → Nat
  | .ok () => 0
  | .error _ => 1

/-- What is said at the end about a result. -/
def lastWords : Except Failure Unit → Text
  | .ok () => []
  | .error e => "Error: ".toList ++ e.message ++ ['\n']

variable {w} {args : List Text} {a : Arguments} {q : ConvertRequest}

theorem run_printError (t : Text) (n : Nat) (w' : World) :
    (do World.host.printError t; pure n : StateM World Nat).run w' = (n, w'.reported t) := rfl

theorem run_finish (r : Except Failure Unit) (w' : World) :
    (finish World.host r).run w' = (exitStatus r, w'.reported (lastWords r)) := by
  cases r with
  | error e => exact run_printError _ 1 w'
  | ok u =>
      unfold lastWords
      simp only [World.reported_nil]
      rfl

theorem run_of_comes {r : Except Failure Unit} {w' : World} (hargs : Arguments.parse args = .ok a)
    (hreq : a.request = .convert q) (hc : Comes (runConvert World.host a.report q) w r w') :
    (run World.host args).run w = (exitStatus r, w'.reported (lastWords r)) := by
  have hrun : run World.host args =
      (runConvert World.host a.report q).run >>= finish World.host := by
    simp only [run, hargs, hreq, carryOut]
  unfold Comes at hc
  rw [hrun, StateT.run_bind, hc]
  exact run_finish r w'

/-- A request whose options are refused. -/
theorem run_of_refused {e : Failure} (hargs : Arguments.parse args = .ok a)
    (hreq : a.request = .convert q) (ho : w.options q = .error e) :
    ∃ es, (run World.host args).run w = (1, (w.logged es).reported (lastWords (.error e))) := by
  obtain ⟨es, hes⟩ := observes_options w q
  rw [ho] at hes
  exact ⟨es, run_of_comes hargs hreq (runConvert_eq a.report q ▸ hes.bind_error)⟩

/-- A request whose options are settled. -/
theorem run_of_settled {o : ConvertOptions} (hargs : Arguments.parse args = .ok a)
    (hreq : a.request = .convert q) (ho : w.options q = .ok o) :
    ∃ es, ∀ r w', Comes (convertWith World.host a.report q o) (w.logged es) r w' →
      (run World.host args).run w = (exitStatus r, w'.reported (lastWords r)) := by
  obtain ⟨es, hes⟩ := observes_options w q
  rw [ho] at hes
  exact ⟨es, fun r w' hc => run_of_comes hargs hreq (runConvert_eq a.report q ▸ hes.bind hc)⟩

end

end Command

end CellScript
