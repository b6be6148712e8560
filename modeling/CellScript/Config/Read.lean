import CellScript.Config.Basic
import CellScript.Found
import CellScript.Number.Width
import CellScript.Toml.Document

set_option autoImplicit false

/-! # Reading configurations

`Config.ofText` reads a configuration from a TOML document. Keys that are not known are passed over.
A section may also be a list of its values in order. -/

namespace CellScript.Config

open Toml

/-- Why a text is no configuration. -/
inductive Fault where
  /-- It is not TOML. -/
  | toml (f : Toml.Fault)
  /-- A value is of another kind. -/
  | wrongKind (found : Found) (expected : String)
  /-- An integer is of another kind by its size. -/
  | wrongSize (n : Int) (word : String) (expected : String)
  /-- An integer is too small. -/
  | wrongInteger (n : Int) (expected : String)
  /-- A name is not that of a line ending. -/
  | unknownEnding (t : Text)
  /-- A choice is neither a name nor a table. -/
  | noChoice
  /-- A choice is a table without entries. -/
  | emptyChoice
  /-- A choice is a table of several entries. -/
  | manyChoices
  /-- A choice holds something. -/
  | fullChoice (kind : String)
  /-- A choice holds something that is no table. -/
  | oddChoice (kind : String)
deriving DecidableEq, Repr

/-- The words for a fault. -/
def Fault.message : Fault → String
  | toml f => f.message
  | wrongKind found expected => "invalid type: " ++ found.text ++ ", expected " ++ expected
  | wrongSize n word expected =>
    "invalid type: integer `" ++ toString n ++ "` as " ++ word ++ ", expected " ++ expected
  | wrongInteger n expected =>
    "invalid value: integer `" ++ toString n ++ "`, expected " ++ expected
  | unknownEnding t =>
    "unknown variant `" ++ String.ofList t ++ "`, expected one of `native`, `lf`, `crlf`"
  | noChoice => "wanted string or table"
  | emptyChoice => "wanted exactly 1 element, found 0 elements"
  | manyChoices => "wanted exactly 1 element, more than 1 element"
  | fullChoice kind => "expected empty " ++ kind
  | oddChoice kind => "expected table, found " ++ kind

/-- A fault and the stretch of text that it is about. -/
structure Error where
  fault : Fault
  span : Stretch

/-- Refuse a value that is not of the kind looked for. -/
def refuse {α : Type} (v : Value) (expected : String) : Except Error α :=
  let stop (f : Fault) : Except Error α := .error ⟨f, v.span⟩
  match v with
  | .scalar (.str t) _ => stop (.wrongKind (.str t) expected)
  | .scalar (.int n) _ =>
    if fitsInt 64 n ∨ (0 ≤ n ∧ fitsInt 65 n) then stop (.wrongKind (.int n) expected)
    else stop (.wrongSize n (if fitsInt 128 n then "i128" else "u128") expected)
  | .scalar (.float t) _ => stop (.wrongKind (.float t) expected)
  | .scalar (.bool b) _ => stop (.wrongKind (.bool b) expected)
  | .scalar .date _ => stop (.wrongKind .object expected)
  | .list .. => stop (.wrongKind .list expected)
  | .table .. => stop (.wrongKind .object expected)

/-- The text that a value is. -/
def textOf (expected : String) : Value → Except Error Text
  | .scalar (.str t) _ => .ok t
  | v => refuse v expected

/-- The truth value that a value is. -/
def boolOf : Value → Except Error Bool
  | .scalar (.bool b) _ => .ok b
  | v => refuse v "a boolean"

/-- The natural number that a value is. -/
def natOf (v : Value) : Except Error Nat :=
  let expected := "usize"
  match v with
  | .scalar (.int n) span =>
    if 0 ≤ n ∧ fitsInt 65 n then .ok n.toNat
    else if n < 0 ∧ fitsInt 64 n then .error ⟨.wrongInteger n expected, span⟩
    else refuse v expected
  | v => refuse v expected

/-- The line ending that a value chooses: by its name, or as a table with its name for a key. -/
def lineEndingOf (v : Value) : Except Error LineEnding :=
  let stop {α : Type} (f : Fault) : Except Error α := .error ⟨f, v.span⟩
  let named (t : Text) : Except Error LineEnding :=
    match LineEnding.ofName? t with
    | some e => .ok e
    | none => stop (.unknownEnding t)
  match v with
  | .scalar (.str t) _ => named t
  | .table [] .. => stop .emptyChoice
  | .table [(k, w)] .. => do
    let e ← named k
    match w with
    | .list [] .. => return e
    | .list .. => stop (.fullChoice "array")
    | .table [] .. => return e
    | .table .. => stop (.fullChoice "table")
    | .scalar .. => stop (.oddChoice w.kind)
  | .table .. => stop .manyChoices
  | _ => stop .noChoice

/-- Set a key of the section on scripts. -/
def setScript (c : Config) (k : Text) (v : Value) : Except Error Config := do
  if k = "namespace".toList then return { c with guardModule := some (← textOf "a string" v) }
  else if k = "indent".toList then return { c with indent := some (← natOf v) }
  else if k = "import".toList then return { c with importLine := some (← boolOf v) }
  else return c

/-- Set a key of the section on notebooks. -/
def setNotebook (c : Config) (k : Text) (v : Value) : Except Error Config := do
  if k = "template".toList then return { c with template := some (← textOf "path string" v) }
  else if k = "line_ending".toList then return { c with lineEnding := some (← lineEndingOf v) }
  else return c

/-- Set keys one after another. -/
def setAll (set : Config → Text → Value → Except Error Config) :
    Config → List (Text × Value) → Except Error Config
  | c, [] => .ok c
  | c, (k, v) :: fs => do
    let c ← set c k v
    setAll set c fs

/-- The keys of a section with their values. -/
def sectionOf (names : List String) (expected : String) (v : Value) :
    Except Error (List (Text × Value)) :=
  match v with
  | .table fs _ _ => .ok fs
  | .list vs _ _ => .ok ((names.map String.toList).zip vs)
  | v => refuse v expected

/-- Set a section. -/
def setSection (c : Config) (k : Text) (v : Value) : Except Error Config := do
  if k = "script".toList then
    setAll setScript c (← sectionOf ["namespace", "indent", "import"] "struct ScriptConfig" v)
  else if k = "notebook".toList then
    setAll setNotebook c (← sectionOf ["template", "line_ending"] "struct NotebookConfig" v)
  else return c

/-- Read a configuration. -/
def ofText (t : Text) : Except Error Config := do
  let v ← (Value.ofText t).mapError fun e => ⟨.toml e.fault, e.span⟩
  setAll setSection {} (← sectionOf [] "struct Config" v)

end CellScript.Config
