import CellScript.Command.Run

set_option autoImplicit false

/-! # The executable

The host that is the computer the program runs on, and `main`. Everything that is decided is decided
elsewhere. -/

namespace CellScript

/-- The reason that an operation gives for its failure. -/
def FileError.ofError : IO.Error → FileError
  | .noFileOrDirectory .. => .missing
  | .alreadyExists .. => .present
  | .inappropriateType _ code details =>
    if code = 20 then .noDirectory else if code = 21 then .aDirectory else .other details
  | e => .other (toString e)

/-- The content that bytes are. -/
def Content.ofBytes (bytes : ByteArray) : Content :=
  match String.fromUTF8? bytes with
  | some s => .text s.toList
  | none => .bytes bytes.toList

namespace Computer

/-- Do something that may fail. -/
def attempt {α : Type} (x : IO α) : IO (Except FileError α) := do
  match ← x.toBaseIO with
  | .ok a => return .ok a
  | .error e => return .error (.ofError e)

/-- Read a file. -/
def read (p : Path) : IO (Except FileError Text) := do
  match ← attempt (IO.FS.readBinFile (String.ofList p)) with
  | .ok bytes => return (Content.ofBytes bytes).read
  | .error e => return .error e

/-- Whether a path leads to a directory. -/
def isDirectory (p : Path) : IO Bool := do
  ((← IO.currentDir) / String.ofList p).isDir

/-- Whether a path leads to a file. -/
def isFile (p : Path) : IO Bool := do
  let there ← ((← IO.currentDir) / String.ofList p).pathExists
  return there && !(← isDirectory p)

/-- Read what is left of a stream. -/
partial def readAll (s : IO.FS.Stream) (sofar : ByteArray) : IO ByteArray := do
  let more ← s.read 65536
  if more.isEmpty then return sofar else readAll s (sofar ++ more)

/-- The names of what is in a directory. -/
def list (p : Path) : IO (Except FileError (List Text)) := do
  let found ← attempt ((← IO.currentDir) / String.ofList p).readDir
  return found.map fun entries => entries.toList.map fun e => e.fileName.toList

/-- Write a text to a stream at once. -/
def put (s : IO.FS.Stream) (t : Text) : IO Unit := do
  s.putStr (String.ofList t)
  s.flush

/-- The computer as a host. -/
def host : Host IO where
  workingDirectory := do return (← IO.currentDir).toString.toList
  isFile := isFile
  isDirectory := isDirectory
  read := read
  write := fun p t => attempt (IO.FS.writeFile (String.ofList p) (String.ofList t))
  makeDirectories := fun p =>
    if p.isEmpty then return .ok () else attempt (IO.FS.createDirAll (String.ofList p))
  list := list
  -- a path of more bytes leads nowhere
  depth := return 4096
  readInput := do
    match ← attempt (do readAll (← IO.getStdin) .empty) with
    | .ok bytes => return (Content.ofBytes bytes).read
    | .error e => return .error e
  print := fun t => do put (← IO.getStdout) t
  printError := fun t => do put (← IO.getStderr) t

end Computer

end CellScript

/-- Run the program with its arguments. -/
def main (args : List String) : IO UInt32 := do
  let code ← CellScript.Command.run CellScript.Computer.host (args.map String.toList)
  return code.toUInt32
