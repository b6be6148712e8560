import CellScript.Text.Line
import CellScript.Text.Table

set_option autoImplicit false

/-! # Paths

A path is a text whose parts stand between slashes. Empty parts and parts that are a single dot say
nothing, except for a dot at the start. `Path.name?` is the last part unless it is a dot or two,
`Path.extension?` what follows the last dot of the name, if anything stands before it. -/

namespace CellScript

/-- A path. -/
abbrev Path := Text

namespace Path

/-- A part of a path. -/
inductive Part where
  /-- The root. -/
  | root
  /-- A dot at the start. -/
  | here
  /-- Two dots. -/
  | up
  /-- A name. -/
  | name (t : Text)
deriving DecidableEq, Repr

/-- The texts between the slashes of a path. -/
def pieces : Text → List Text
  | [] => [[]]
  | c :: t =>
    if c = '/' then [] :: pieces t
    else
      match pieces t with
      | [] => [[c]]
      | p :: ps => (c :: p) :: ps

/-- The part that a piece is, if it says anything. -/
def partOf? (p : Text) : Option Part :=
  if p = [] ∨ p = ['.'] then none
  else if p = ['.', '.'] then some .up
  else some (.name p)

/-- Whether a path starts at the root. -/
def isAbsolute : Path → Bool
  | '/' :: _ => true
  | _ => false

/-- The parts of a path. -/
def parts (p : Path) : List Part :=
  let ps := pieces p
  let start := if p.isAbsolute then [Part.root] else if ps.head? = some ['.'] then [.here] else []
  start ++ ps.filterMap partOf?

/-- The last part, if it is a name. -/
def name? (p : Path) : Option Text :=
  match p.parts.getLast? with
  | some (.name t) => some t
  | _ => none

/-- A name as what stands before its last dot and what follows it; a dot at the start does not
count. -/
def splitName (n : Text) : Text × Option Text :=
  let back := n.reverse
  let after := back.takeWhile (· ≠ '.')
  match back.drop after.length with
  | [] => (n, none)
  | ['.'] => (n, none)
  | _ :: before => (before.reverse, some after.reverse)

/-- The extension of a path. -/
def extension? (p : Path) : Option Text := p.name?.bind fun n => (splitName n).2

/-- Drop slashes and parts that say nothing from the end of a path turned round. -/
def dropIdle : Text → Text
  | ['/'] => ['/']
  | '/' :: t => dropIdle t
  | ['.', '/'] => ['/']
  | '.' :: '/' :: t => dropIdle t
  | t => t

/-- A path without what says nothing at its end. -/
def trimmed (p : Path) : Path := (dropIdle p.reverse).reverse

/-- The path without its last part, unless it has none or is the root. -/
def parent? (p : Path) : Option Path :=
  match p.parts.getLast? with
  | none => none
  | some .root => none
  | some _ => some (dropIdle ((p.trimmed.reverse).dropWhile (· ≠ '/'))).reverse

/-- A path after another. -/
def join (p q : Path) : Path :=
  if q.isAbsolute then q
  else if p = [] ∨ p.getLast? = some '/' then p ++ q
  else p ++ '/' :: q

/-- The path with another extension. -/
def withExtension (p : Path) (e : Text) : Path :=
  match p.name? with
  | none => p
  | some n =>
    let t := p.trimmed
    t.take (t.length - n.length) ++ (splitName n).1 ++ '.' :: e

/-- Whether a list of names comes before another, name by name. -/
def namesPrecede : List Text → List Text → Bool
  | _, [] => false
  | [], _ :: _ => true
  | a :: s, b :: t => a.precedes b || (a == b && namesPrecede s t)

/-- The relative path that some names make. -/
def ofNames (ns : List Text) : Path := Text.joinWith ['/'] ns

end Path

end CellScript
