import CellScript.Files.Basic

set_option autoImplicit false

/-! # Hosts

A `Host` is what the program asks for and does outside itself, in any monad. The program is written
against it; `World.host` answers from a value, without any effect. -/

namespace CellScript

/-- What the program runs on. -/
structure Host (m : Type → Type) where
  /-- The absolute path of the working directory. -/
  workingDirectory : m Path
  /-- Whether a path leads to a file. -/
  isFile : Path → m Bool
  /-- Whether a path leads to a directory. -/
  isDirectory : Path → m Bool
  /-- Read a file. -/
  read : Path → m (Except FileError Text)
  /-- Write a file. -/
  write : Path → Text → m (Except FileError Unit)
  /-- Make a directory and those on the way to it. -/
  makeDirectories : Path → m (Except FileError Unit)
  /-- The names of what is in a directory, in any order. -/
  list : Path → m (Except FileError (List Text))
  /-- More than the directories that a path can lead through. -/
  depth : m Nat
  /-- Read all input. -/
  readInput : m (Except FileError Text)
  /-- Write output. -/
  print : Text → m Unit
  /-- Write diagnostics. -/
  printError : Text → m Unit

/-- All that a run of the program can see and change. -/
structure World where
  files : FileSystem
  /-- The names that lead to the working directory. -/
  cwd : List Text := []
  input : Content := .text []
  output : Text := []
  errors : Text := []

namespace World

/-- The absolute path of the working directory. -/
def workingDirectory (w : World) : Path := '/' :: Path.ofNames w.cwd

/-- What a path leads to. -/
def entry? (w : World) (p : Path) : Option Entry := w.files.entry? w.cwd p

/-- Write a file. -/
def write (p : Path) (t : Text) (w : World) : Except FileError Unit × World :=
  match w.files.write w.cwd p t with
  | .ok fs => (.ok (), { w with files := fs })
  | .error e => (.error e, w)

/-- Make a directory and those on the way to it. -/
def makeDirectories (p : Path) (w : World) : Except FileError Unit × World :=
  let (fs, r) := FileSystem.makeDirectories w.cwd (p.length + 1) w.files p
  (r, { w with files := fs })

/-- A host that is a value. -/
def host : Host (StateM World) where
  workingDirectory := fun w => (w.workingDirectory, w)
  isFile := fun p w => (match w.entry? p with | some (.file _) => true | _ => false, w)
  isDirectory := fun p w => (w.entry? p == some .directory, w)
  read := fun p w => (w.files.read w.cwd p, w)
  write := write
  makeDirectories := makeDirectories
  list := fun p w => (w.files.list w.cwd p, w)
  depth := fun w => (w.files.depth + 1, w)
  readInput := fun w => (w.input.read, w)
  print := fun t w => ((), { w with output := w.output ++ t })
  printError := fun t w => ((), { w with errors := w.errors ++ t })

end World

end CellScript
