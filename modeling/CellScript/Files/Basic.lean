import CellScript.Path

set_option autoImplicit false

/-! # Files

A file holds text, or bytes that are none. A `FileSystem` says for lists of names, which lead from
the root down, whether a file or a directory is there. Names are looked up one by one, so that
everything on the way has to be a directory. -/

namespace CellScript

/-- What a file holds. -/
inductive Content where
  | text (t : Text)
  | bytes (bs : List UInt8)
deriving DecidableEq, Repr

/-- What a path leads to. -/
inductive Entry where
  | file (c : Content)
  | directory
deriving DecidableEq, Repr

/-- Why an operation on files fails. -/
inductive FileError where
  | missing
  | present
  | noDirectory
  | aDirectory
  | noText
  | tooLong
  /-- For another reason, in words. -/
  | other (why : String)
deriving DecidableEq, Repr

/-- The words for a reason. -/
def FileError.message : FileError → String
  | missing => "No such file or directory (os error 2)"
  | present => "File exists (os error 17)"
  | noDirectory => "Not a directory (os error 20)"
  | aDirectory => "Is a directory (os error 21)"
  | noText => "stream did not contain valid UTF-8"
  | tooLong => "File name too long (os error 36)"
  | other why => why

/-- The text of a content. -/
def Content.read : Content → Except FileError Text
  | text t => .ok t
  | bytes _ => .error .noText

/-- The entries below the root, each under the names that lead to it. -/
abbrev FileSystem := List (List Text × Entry)

namespace FileSystem

/-- What is at the end of a list of names. -/
def get? (fs : FileSystem) (names : List Text) : Option Entry :=
  if names = [] then some .directory else fs.lookup names

/-- Put an entry at the end of a list of names. -/
def set (names : List Text) (e : Entry) : FileSystem → FileSystem
  | [] => [(names, e)]
  | (ns, e') :: fs => if ns = names then (ns, e) :: fs else (ns, e') :: set names e fs

/-- Follow the pieces of a path from a directory. The last of them need not be there. -/
def walk (fs : FileSystem) : List Text → List Text → Except FileError (List Text)
  | here, [] => .ok here
  | here, p :: ps =>
    match fs.get? here with
    | none => .error .missing
    | some (.file _) => .error .noDirectory
    | some .directory =>
      if p = [] ∨ p = ['.'] then walk fs here ps
      else if p = ['.', '.'] then walk fs here.dropLast ps
      else walk fs (here ++ [p]) ps

/-- The names that a path leads to from a working directory. -/
def resolve (fs : FileSystem) (cwd : List Text) (p : Path) : Except FileError (List Text) :=
  if p = [] then .error .missing
  else fs.walk (if p.isAbsolute then [] else cwd) (Path.pieces p)

/-- What a path leads to. -/
def entry? (fs : FileSystem) (cwd : List Text) (p : Path) : Option Entry :=
  match fs.resolve cwd p with
  | .ok names => fs.get? names
  | .error _ => none

/-- The text of the file that a path leads to. -/
def read (fs : FileSystem) (cwd : List Text) (p : Path) : Except FileError Text :=
  match fs.resolve cwd p with
  | .error e => .error e
  | .ok names =>
    match fs.get? names with
    | none => .error .missing
    | some .directory => .error .aDirectory
    | some (.file c) => c.read

/-- Write a file, which may be there already. -/
def write (fs : FileSystem) (cwd : List Text) (p : Path) (t : Text) :
    Except FileError FileSystem :=
  match fs.resolve cwd p with
  | .error e =>
    let asFile := (p.reverse.dropWhile (· = '/')).reverse
    match fs.resolve cwd asFile with
    | .ok names => .error (if asFile ≠ p ∧ fs.get? names = none then .aDirectory else e)
    | .error _ => .error e
  | .ok names =>
    if fs.get? names = some .directory then .error .aDirectory
    else .ok (fs.set names (.file (.text t)))

/-- Make a directory in one that is there. -/
def makeDirectory (fs : FileSystem) (cwd : List Text) (p : Path) : Except FileError FileSystem :=
  match fs.resolve cwd p with
  | .error e => .error e
  | .ok names =>
    match fs.get? names with
    | some _ => .error .present
    | none => .ok (fs.set names .directory)

/-- Make a directory, and those on the way to it that are missing, at most `n`; what came of it. -/
def makeDirectories (cwd : List Text) : Nat → FileSystem → Path →
    FileSystem × Except FileError Unit
  | 0, fs, _ => (fs, .error .missing)
  | n + 1, fs, p =>
    let settle (fs : FileSystem) : FileSystem × Except FileError Unit :=
      match fs.makeDirectory cwd p with
      | .ok fs => (fs, .ok ())
      | .error e => (fs, if fs.entry? cwd p = some .directory then .ok () else .error e)
    if p = [] then (fs, .ok ())
    else
      match fs.makeDirectory cwd p with
      | .error .missing =>
        match p.parent? with
        | none => (fs, .error .missing)
        | some q =>
          match makeDirectories cwd n fs q with
          | (fs, .error e) => (fs, .error e)
          | (fs, .ok ()) => settle fs
      | _ => settle fs

/-- The names of what is in a directory. -/
def children (fs : FileSystem) (dir : List Text) : List Text :=
  fs.filterMap fun f => if f.1.dropLast = dir then f.1.getLast? else none

/-- The names of what is in the directory that a path leads to. -/
def list (fs : FileSystem) (cwd : List Text) (p : Path) : Except FileError (List Text) :=
  match fs.resolve cwd p with
  | .error e => .error e
  | .ok names =>
    match fs.get? names with
    | none => .error .missing
    | some (.file _) => .error .noDirectory
    | some .directory => .ok (fs.children names)

/-- The most names that lead to an entry. -/
def depth (fs : FileSystem) : Nat := (fs.map fun f => f.1.length).foldr max 0

end FileSystem

end CellScript
