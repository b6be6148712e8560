import CellScript.Block.Basic
import CellScript.Cell.Error
import CellScript.Text.Shown

set_option autoImplicit false

/-! # Events

What the library does on the way to a result is noted as a list of events, each with a level. A log
shows those at or above the level it was asked for. -/

namespace CellScript

/-- How much an event matters. -/
inductive Level where
  | debug
  | info
  | warn
  | error
deriving DecidableEq, Repr

namespace Level

/-- The rank of a level. -/
def rank : Level → Nat
  | debug => 0
  | info => 1
  | warn => 2
  | error => 3

/-- The name of a level in a log. -/
def name : Level → String
  | debug => "DEBUG"
  | info => "INFO"
  | warn => "WARN"
  | error => "ERROR"

end Level

/-- Something worth a line in a log. -/
inductive Event where
  /-- Text of a script that fits nowhere was left out. -/
  | discarded (line : Nat)
  /-- A block was found. -/
  | located (line : Nat) (kind : CellKind) (span : Span)
  /-- A cell was made of a block. -/
  | extracted (line : Nat) (kind : CellKind) (lines : Nat)
  /-- A cell has no place in a notebook. -/
  | skipped (kind : CellKind)
  /-- A cell of a notebook has no place in a script. -/
  | commentedOut (cellType : Text) (why : CellError)
  /-- A file is being converted. -/
  | converting (source target : Text)
  /-- Files were found in a directory. -/
  | found (count : Nat) (extension : String)

namespace Event

/-- The level of an event. -/
def level : Event → Level
  | discarded .. => .warn
  | located .. => .debug
  | extracted .. => .debug
  | skipped .. => .debug
  | commentedOut .. => .warn
  | converting .. => .info
  | found .. => .info

/-- The character that a log shows for one that could steer a terminal. -/
def tameChar (c : Char) : Text :=
  if c.toNat = 0x1b then "\\x1b".toList
  else if c.toNat = 7 then "\\x07".toList
  else if c.toNat = 8 then "\\x08".toList
  else if c.toNat = 12 then "\\x0c".toList
  else if c.toNat = 0x7f then "\\x7f".toList
  else if 0x80 ≤ c.toNat ∧ c.toNat ≤ 0x9f then
    ['\\', 'u', '{'] ++ Nat.toDigits 16 c.toNat ++ ['}']
  else [c]

/-- A text as a log shows it. -/
def tame (t : Text) : Text := t.flatMap tameChar

/-- A number in a log. -/
def digits (n : Nat) : Text := Nat.toDigits 10 n

/-- A span in a log. -/
def spanText (s : Span) : Text :=
  "SourceSpan \x7b header: ".toList ++ digits s.header ++ ", start: ".toList ++ digits s.start ++
    ", end: ".toList ++ digits s.stop ++ ", indent: ".toList ++ digits s.indent ++ " \x7d".toList

/-- What a log says about an event. -/
def text : Event → Text
  | discarded line => "Discarding unparsable content outside of cells line=".toList ++ digits line
  | located line kind span =>
    "Located cell block line=".toList ++ digits line ++ " kind=".toList ++ kind.literal.toList ++
      " span=".toList ++ spanText span
  | extracted line kind lines =>
    "Extracted cell line=".toList ++ digits line ++ " kind=".toList ++ kind.literal.toList ++
      " lines=".toList ++ digits lines
  | skipped kind =>
    "Skipping cell without notebook representation kind=".toList ++ kind.literal.toList
  | commentedOut cellType why =>
    tame (why.message.toList ++ "; cell commented out".toList) ++ " cell_type=".toList ++
      cellType.shown
  | converting source target =>
    tame ("Converting: ".toList ++ source ++ " -> ".toList ++ target)
  | found count ext =>
    "Found ".toList ++ digits count ++ " .".toList ++ ext.toList ++ " files".toList

/-- The line of a log for an event. -/
def line (e : Event) : Text := e.level.name.toList ++ ' ' :: e.text ++ ['\n']

end Event

end CellScript
