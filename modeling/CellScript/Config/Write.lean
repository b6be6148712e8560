import CellScript.Config.Basic
import CellScript.Toml.Fault

set_option autoImplicit false

/-! # Writing configurations

`Config.text` writes a configuration as a TOML document: a directive with the address of the schema,
and a section for scripts and one for notebooks, each if something is set there. A text is written
as a string of the simplest form that can hold it. -/

namespace CellScript

namespace Toml

/-- The greatest number of equal characters in a row. -/
def longestRun (c : Char) (t : Text) : Nat :=
  (t.foldl (fun (now, best) d => if d = c then (now + 1, max best (now + 1)) else (0, best))
    ((0 : Nat), (0 : Nat))).2

/-- Whether a character can only be written by an escape. -/
def needsEscape (c : Char) : Bool :=
  c ≠ '\t' && c ≠ '\n' && (c.toNat ≤ 0x1f || c.toNat = 0x7f)

/-- The way to write a text. -/
def quoteFor (t : Text) : Quote :=
  let escapes := t.any needsEscape
  let newline := t.any (· = '\n')
  let backslash := t.any (· = '\\')
  let doubles := longestRun '"' t
  let singles := longestRun '\'' t
  if !escapes && !backslash && doubles = 0 && !newline then .basic
  else if !escapes && singles = 0 && !newline then .literal
  else if !escapes && !backslash && doubles ≤ 2 then .longBasic
  else if !escapes && singles ≤ 2 then .longLiteral
  else if newline then .longBasic
  else .basic

/-- A number as four hexadecimal digits in upper case. -/
def hexFour (n : Nat) : Text :=
  let ds := (Nat.toDigits 16 n).map Char.toUpper
  List.replicate (4 - ds.length) '0' ++ ds

/-- A character as it stands in a string with escapes, quotes aside. -/
def escapedChar (isLong : Bool) (c : Char) : Text :=
  if c.toNat = 8 then ['\\', 'b']
  else if c = '\t' then ['\\', 't']
  else if c = '\n' then if isLong then ['\n'] else ['\\', 'n']
  else if c.toNat = 12 then ['\\', 'f']
  else if c = '\r' then ['\\', 'r']
  else if c = '\\' then ['\\', '\\']
  else if needsEscape c then '\\' :: 'u' :: hexFour c.toNat
  else [c]

/-- A text as it stands in a string with escapes, after `run` quotes. -/
def escapedText (isLong : Bool) : Nat → Text → Text
  | _, [] => []
  | run, c :: t =>
    if c = '"' then
      if run < (if isLong then 2 else 0) then '"' :: escapedText isLong (run + 1) t
      else '\\' :: '"' :: escapedText isLong 0 t
    else escapedChar isLong c ++ escapedText isLong 0 t

/-- A text as a string. -/
def stringText (t : Text) : Text :=
  let q := quoteFor t
  q.mark ++ (if q.isLong && t.any (· = '\n') then ['\n'] else []) ++
    (if q.isEscaped then escapedText q.isLong 0 t else t) ++ q.mark

end Toml

namespace Config

/-- The address of the schema of configurations. -/
def schemaAddress : Text :=
  ("https://raw.githubusercontent.com/xbrianh/herzog/main/crates/herzog-cli/schema/" ++
    "herzog.schema.json").toList

/-- A line that sets a key, if there is something to set. -/
def entryLine {α : Type} (k : String) (f : α → Text) : Option α → Text
  | some a => k.toList ++ " = ".toList ++ f a ++ ['\n']
  | none => []

/-- A truth value. -/
def boolText (b : Bool) : Text := (if b then "true" else "false").toList

/-- The entries on scripts. -/
def scriptEntries (c : Config) : Text :=
  entryLine "namespace" Toml.stringText c.guardModule ++
    entryLine "indent" (Nat.toDigits 10) c.indent ++ entryLine "import" boolText c.importLine

/-- The entries on notebooks. -/
def notebookEntries (c : Config) : Text :=
  entryLine "template" Toml.stringText c.template ++
    entryLine "line_ending" (fun e => Toml.stringText e.name.toList) c.lineEnding

/-- A section, if it has entries. -/
def sectionText (name : String) (entries : Text) : List Text :=
  if entries.isEmpty then [] else ['[' :: name.toList ++ ']' :: '\n' :: entries]

/-- The document of a configuration. -/
def text (c : Config) : Text :=
  "#:schema ".toList ++ schemaAddress ++ '\n' :: '\n' ::
    Text.joinWith ['\n']
      (sectionText "script" c.scriptEntries ++ sectionText "notebook" c.notebookEntries)

end Config

end CellScript
