import CellScript.Command.Arguments
import CellScript.Command.Failure
import CellScript.Text.Alphabet

set_option autoImplicit false

/-! # The command `convert`

A file, standard input or the files of a directory are converted. For one document nothing is
written before all of it is converted. In a directory the files of the one format are converted one
after another in the order of their paths, and those that fail are reported at the end. -/

namespace CellScript.Command

open Json

variable {m : Type → Type} [Monad m]

/-- How much to say. -/
structure Report where
  /-- The least level of events that are logged. -/
  level : Level
  /-- Whether to keep quiet about results. -/
  quiet : Bool
deriving DecidableEq, Repr

/-- What to say, by the arguments. -/
def Arguments.report (a : Arguments) : Report :=
  ⟨if a.verbose then .debug else if a.quiet then .error else .warn, a.quiet⟩

/-- Log events. -/
def log (h : Host m) (r : Report) (es : List Event) : m Unit :=
  h.printError ((es.filter fun e => r.level.rank ≤ e.level.rank).flatMap Event.line)

/-- Write the line of a result. -/
def printLine (h : Host m) (r : Report) (t : Text) : m Unit :=
  if r.quiet then pure () else h.print (t ++ ['\n'])

/-- Do something that may fail for a reason of files. -/
def orFail {α : Type} (f : FileError → Failure) (x : m (Except FileError α)) :
    ExceptT Failure m α :=
  ExceptT.mk (Except.mapError f <$> x)

/-- Do something that depends on nothing outside. -/
def settle {α : Type} (r : Except Failure α) : ExceptT Failure m α := ExceptT.mk (pure r)

/-! ## Options -/

/-- Read a configuration. -/
def readConfig (h : Host m) (p : Path) : ExceptT Failure m Config := do
  let t ← orFail (.configUnread p) (h.read p)
  settle ((Config.ofText t).mapError (.badConfig p t))

/-- The configuration that was asked for, or that of the working directory, with its directory. -/
def loadConfig (h : Host m) (asked : Option Path) : ExceptT Failure m (Config × Path) := do
  match asked with
  | some p => return (← readConfig h p, p.parent?.getD [])
  | none =>
    let dir ← h.workingDirectory
    let p := Path.join dir Config.fileName
    if (← h.isFile p) || (← h.isDirectory p) then return (← readConfig h p, dir)
    else return ({}, dir)

/-- The module that guards are called on, if it may be. -/
def chosenModule (r : ConvertRequest) (c : Config) : Except Failure Text :=
  let t := ((r.guardModule <|> c.guardModule)).getD "herzog".toList
  if t.isName then .ok t else .error (.badModule t)

/-- How far to indent, if it is far enough. -/
def chosenIndent (r : ConvertRequest) (c : Config) : Except Failure Nat :=
  match r.indent <|> c.indent with
  | some 0 => .error .noIndent
  | some n => .ok n
  | none => .ok 4

/-- The options for conversions apart from the template: what is asked for goes before what is
configured. -/
def chosenOptions (r : ConvertRequest) (c : Config) : Except Failure ConvertOptions := do
  let guardModule ← chosenModule r c
  let indent ← chosenIndent r c
  return {
    notebook :=
      { read := ⟨guardModule⟩, lineEnding := (r.lineEnding <|> c.lineEnding).getD .native }
    write := ⟨guardModule, indent, !r.noImport && c.importLine.getD true⟩ }

/-- The template at a path. -/
def readTemplate (h : Host m) (p : Path) : ExceptT Failure m (Table Value) := do
  let t ← orFail (.templateUnread p) (h.read p)
  settle ((Template.ofText t).mapError (.badTemplate p))

/-- The options for conversions. -/
def options (h : Host m) (r : ConvertRequest) (c : Config) (dir : Path) :
    ExceptT Failure m ConvertOptions := do
  let o ← settle (chosenOptions r c)
  match r.template <|> c.template.map (Path.join dir) with
  | none => return o
  | some p =>
    let t ← readTemplate h p
    return { o with notebook := { o.notebook with template := t } }

/-! ## Formats -/

/-- The format of an output, if there is one. -/
def outputFormat (output : Option Path) : Except Failure (Option Format) :=
  match output with
  | none => .ok none
  | some p =>
    match Format.ofPath? p with
    | some f => .ok (some f)
    | none => .error (.badOutputExtension p)

/-- The format to convert to, if it is asked for or follows from the output. -/
def targetFormat (output : Option Path) (asked : Option Format) :
    Except Failure (Option Format) := do
  let out ← outputFormat output
  match asked, out with
  | some t, some o => if t = o then return some t else throw (.targetsDiffer t o)
  | some t, none => return some t
  | none, o => return o

/-- The format to convert from. -/
def sourceFormat (input output : Option Path) (asked : Option Format) : Except Failure Format := do
  let target ← targetFormat output asked
  let source ← match input with
    | some p =>
      match Format.ofPath? p with
      | some f => pure f
      | none => throw (.badInputExtension p)
    | none =>
      match target with
      | some f => pure f.target
      | none => throw .noTargetForInput
  match target with
  | some t => if t = source then throw (.sameFormat source t) else return source
  | none => return source

/-! ## Conversions -/

/-- Write a file, with the directories on the way to it. -/
def writeFile (h : Host m) (p : Path) (t : Text) : ExceptT Failure m Unit := do
  match p.parent? with
  | some dir => orFail (.directoryNotMade dir) (h.makeDirectories dir)
  | none => pure ()
  orFail (.outputUnwritten p) (h.write p t)

/-- Convert a text and log what happens on the way. -/
def convertText (h : Host m) (r : Report) (o : ConvertOptions) (source : Format)
    (fail : ConvertError → Failure) (t : Text) : ExceptT Failure m Text := do
  let (es, result) := convertNoting o source t
  ExceptT.lift (log h r es)
  settle (result.mapError fail)

/-- Read and convert a file. -/
def convertInput (h : Host m) (r : Report) (o : ConvertOptions) (source : Format) (input : Path) :
    ExceptT Failure m Text := do
  let t ← orFail (.inputUnread input) (h.read input)
  convertText h r o source (.notConverted input) t

/-- Convert a file to another. -/
def convertTo (h : Host m) (r : Report) (o : ConvertOptions) (source : Format)
    (input output : Path) : ExceptT Failure m Unit := do
  let t ← convertInput h r o source input
  writeFile h output t

/-- Convert one file. -/
def convertFile (h : Host m) (r : Report) (o : ConvertOptions) (q : ConvertRequest) :
    ExceptT Failure m Unit := do
  let source ← settle (sourceFormat (some q.input) q.output q.target)
  match q.output with
  | some output =>
    ExceptT.lift (log h r [.converting q.input output])
    convertTo h r o source q.input output
    ExceptT.lift (printLine h r output)
  | none => h.print (← convertInput h r o source q.input)

/-- Convert standard input. -/
def convertStandardInput (h : Host m) (r : Report) (o : ConvertOptions) (q : ConvertRequest) :
    ExceptT Failure m Unit := do
  let source ← settle (sourceFormat none q.output q.target)
  let t ← orFail .standardInputUnread h.readInput
  let t ← convertText h r o source .standardInputNotConverted t
  match q.output with
  | some output => do
    writeFile h output t
    ExceptT.lift (printLine h r output)
  | none => h.print t

/-! ## Directories -/

/-- Put an element into a list in order. -/
def insertNames (n : List Text) : List (List Text) → List (List Text)
  | [] => [n]
  | n' :: ns => if Path.namesPrecede n' n then n' :: insertNames n ns else n :: n' :: ns

/-- The names of files in the order of their paths. -/
def sortedNames (ns : List (List Text)) : List (List Text) := ns.foldr insertNames []

/-- The files of a format in a directory and, with `recursive`, in the directories below it, by the
names that lead to them and in the order of their paths. `depth` bounds how many directories are
below one another. -/
def collectFiles (h : Host m) (source : Format) (recursive : Bool) :
    Nat → Path → ExceptT Failure m (List (List Text))
  | 0, dir => throw (.directoryUnread dir .tooLong)
  | depth + 1, dir => do
    let names ← orFail (.directoryUnread dir) (h.list dir)
    let found ← names.mapM fun name => do
      let path := Path.join dir name
      if ← h.isFile path then
        return if Format.ofPath? path = some source then [[name]] else []
      else if (← h.isDirectory path) && recursive then
        return (← collectFiles h source recursive depth path).map (name :: ·)
      else return []
    return sortedNames found.flatten

/-- The path of the output for a file below a directory. -/
def outputPath (output : Path) (target : Format) (names : List Text) : Path :=
  (Path.join output (Path.ofNames names)).withExtension target.extension.toList

/-- Convert files one after another: how many were converted, and those that were not. -/
def convertEach (h : Host m) (r : Report) (o : ConvertOptions) (source : Format)
    (input output : Path) : List (List Text) → m (Nat × List (Path × Failure))
  | [] => pure (0, [])
  | names :: rest => do
    let file := Path.join input (Path.ofNames names)
    let out := outputPath output source.target names
    match ← (convertTo h r o source file out).run with
    | .ok () => do
      printLine h r out
      let (n, failed) ← convertEach h r o source input output rest
      return (n + 1, failed)
    | .error e => do
      let (n, failed) ← convertEach h r o source input output rest
      return (n, (file, e) :: failed)

/-- The line of a report on a file that was not converted. -/
def failureLine (file : Path) (e : Failure) : Text :=
  "Error converting ".toList ++ file ++ ": ".toList ++ e.message ++ ['\n']

/-- The line that sums up. -/
def summary (done failed : Nat) : Text :=
  "Converted ".toList ++ Nat.toDigits 10 done ++ " files, ".toList ++ Nat.toDigits 10 failed ++
    " failed\n".toList

/-- Report on files that were attempted: how many were converted, and those that were not. -/
def reportEach (h : Host m) (r : Report) (done : Nat) (failed : List (Path × Failure)) :
    ExceptT Failure m Unit := do
  h.printError (failed.flatMap fun (p, e) => failureLine p e)
  if !r.quiet then h.printError (summary done failed.length)
  if !failed.isEmpty then throw (.someNotConverted failed.length)

/-- Convert the files of a directory. -/
def convertDirectory (h : Host m) (r : Report) (o : ConvertOptions) (q : ConvertRequest) :
    ExceptT Failure m Unit := do
  match q.target with
  | none => throw .noTargetForDirectory
  | some target => do
    let source := target.target
    let files ← collectFiles h source q.recursive (← h.depth) q.input
    if files.isEmpty then
      if !r.quiet then
        h.printError ("No .".toList ++ source.extension.toList ++ " files found in ".toList ++
          q.input ++ ['\n'])
    else
      ExceptT.lift (log h r [.found files.length source.extension])
      let (done, failed) ←
        ExceptT.lift (convertEach h r o source q.input (q.output.getD q.input) files)
      reportEach h r done failed

/-! ## The whole command -/

/-- Convert what is asked for, once the options are settled. -/
def convertWith (h : Host m) (r : Report) (q : ConvertRequest) (o : ConvertOptions) :
    ExceptT Failure m Unit := do
  if q.input = ['-'] then convertStandardInput h r o q
  else if ← h.isFile q.input then convertFile h r o q
  else if ← h.isDirectory q.input then convertDirectory h r o q
  else throw (.noSuchInput q.input)

/-- Carry out `convert`. -/
def runConvert (h : Host m) (r : Report) (q : ConvertRequest) : ExceptT Failure m Unit := do
  let (c, dir) ← loadConfig h q.config
  let o ← options h q c dir
  convertWith h r q o

end CellScript.Command
