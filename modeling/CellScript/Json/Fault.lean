import CellScript.Text.Blank

set_option autoImplicit false

/-! # What can be wrong with JSON text

A reader that stops says why and where: a `Stop` holds the fault and the text that was left. The
place is worked out at the end, by `Stop.locate`, from the whole text: its line counts from `1`, its
column counts the bytes of the line before it. -/

namespace CellScript.Json

/-- Why a text is no JSON. -/
inductive Fault where
  | endInValue
  | endInList
  | endInObject
  | endInString
  | noColon
  | noCommaInList
  | noCommaInObject
  | badWord
  | noValue
  | badEscape
  | badNumber
  | hugeNumber
  | loneSurrogate
  | brokenPair
  | controlCharacter
  | badKey
  | trailingComma
  | trailingText
  | tooDeep
deriving DecidableEq, Repr

/-- The words for a fault. -/
def Fault.message : Fault → String
  | endInValue => "EOF while parsing a value"
  | endInList => "EOF while parsing a list"
  | endInObject => "EOF while parsing an object"
  | endInString => "EOF while parsing a string"
  | noColon => "expected `:`"
  | noCommaInList => "expected `,` or `]`"
  | noCommaInObject => "expected `,` or `\x7d`"
  | badWord => "expected ident"
  | noValue => "expected value"
  | badEscape => "invalid escape"
  | badNumber => "invalid number"
  | hugeNumber => "number out of range"
  | loneSurrogate => "lone leading surrogate in hex escape"
  | brokenPair => "unexpected end of hex escape"
  | controlCharacter => "control character (\\u0000-\\u001F) found while parsing a string"
  | badKey => "key must be a string"
  | trailingComma => "trailing comma"
  | trailingText => "trailing characters"
  | tooDeep => "recursion limit exceeded"

/-- A place in a text: the line, from `1`, and the bytes of the line before it. -/
structure Place where
  line : Nat
  column : Nat
deriving DecidableEq, Repr

namespace Place

/-- The place where a text starts. -/
def start : Place := ⟨1, 0⟩

/-- The place some bytes further on in a text. -/
def forward (p : Place) : Nat → Text → Place
  | _, [] => p
  | n, c :: t =>
    if n = 0 then p
    else if c = '\n' then forward ⟨p.line + 1, 0⟩ (n - 1) t
    else forward ⟨p.line, p.column + min n c.utf8Size⟩ (n - c.utf8Size) t

/-- The words for a place. -/
def text (p : Place) : String :=
  "line " ++ toString p.line ++ " column " ++ toString p.column

end Place

/-- Something that is wrong at a place. -/
structure Located (ε : Type) where
  fault : ε
  place : Place

/-- Why and where a reader stopped: the fault, the text that was left and how many bytes of it were
looked at. -/
structure Stop (ε : Type) where
  fault : ε
  rest : Text
  seen : Nat

namespace Stop

variable {ε δ : Type}

/-- Find the place of a stop in the whole text. -/
def locate (whole : Text) (s : Stop ε) : Located ε :=
  let before := whole.take (whole.length - s.rest.length)
  let here := Place.start.forward (before.foldl (fun n c => n + c.utf8Size) 0) before
  ⟨s.fault, here.forward s.seen s.rest⟩

/-- Change the fault of a stop. -/
def map (f : ε → δ) (s : Stop ε) : Stop δ := ⟨f s.fault, s.rest, s.seen⟩

end Stop

/-- What a reader comes to: a value and the text after it, or a stop. -/
abbrev Result (α : Type) := Except (Stop Fault) (α × Text)

/-- Stop before a text. -/
def stopAt {α : Type} (f : Fault) (rest : Text) : Result α := .error ⟨f, rest, 0⟩

/-- Stop with the next byte of a text looked at. -/
def stopPast {α : Type} (f : Fault) (rest : Text) : Result α := .error ⟨f, rest, 1⟩

end CellScript.Json
