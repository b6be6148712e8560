import CellScript.Text.Line

set_option autoImplicit false

/-! # What can be wrong with TOML text

A `Fault` is a cause, `Fault.message` its words. `report` shows a message with the line of the text
that it is about, and with marks below the stretch in question. -/

namespace CellScript.Toml

/-- A stretch of a text, from one character up to another. -/
structure Stretch where
  start : Nat
  stop : Nat
deriving DecidableEq, Repr, Inhabited

/-- The ways of writing a string. -/
inductive Quote where
  | literal
  | basic
  | longLiteral
  | longBasic
deriving DecidableEq, Repr

namespace Quote

/-- What a string is called that is written in some way. -/
def name : Quote → String
  | literal => "literal string"
  | basic => "basic string"
  | longLiteral => "multi-line literal string"
  | longBasic => "multi-line basic string"

/-- The quotes at both ends of a string. -/
def mark : Quote → Text
  | literal => ['\'']
  | basic => ['"']
  | longLiteral => ['\'', '\'', '\'']
  | longBasic => ['"', '"', '"']

/-- The character that quotes are made of. -/
def char : Quote → Char
  | literal | longLiteral => '\''
  | basic | longBasic => '"'

/-- Whether a string may have several lines. -/
def isLong : Quote → Bool
  | literal | basic => false
  | longLiteral | longBasic => true

/-- Whether a backslash starts an escape. -/
def isEscaped : Quote → Bool
  | literal | longLiteral => false
  | basic | longBasic => true

/-- What may stand in a string. -/
def admitted : Quote → String
  | literal | longLiteral => "non-single-quote visible characters"
  | basic | longBasic => "non-double-quote visible characters, `\\`"

end Quote

/-- Why a text is no TOML. -/
inductive Fault where
  | loneReturn
  | badComment
  | unclosedTable
  | unclosedTableList
  | halfClosedTableList
  | noTableOpening
  | noKey
  | keyWithoutValue
  | afterValue
  | extraEquals
  | noListOpening
  | noInlineOpening
  | unclosedList
  | extraCommaInList
  | equalsInList
  | noCommaInList
  | unclosedInline
  | extraCommaInInline
  | noEqualsInInline
  | noCommaInInline
  | emptyKey
  | badKey
  | longKey (q : Quote)
  | unclosedString (q : Quote)
  | badCharacter (q : Quote)
  | badEscape
  | shortEscape
  | noSuchCharacter
  | unquoted
  | badSymbol (kind symbol : String)
  | noDigits (part : String)
  | badDigit (kind : String)
  | afterFloat
  | leadingZero
  | badUnderscore
  | twoSigns
  | signedRadix
  | upperRadix (symbol : String)
  | decimalRadix
  | hugeInteger
  | hugeFloat
  | duplicateKey
  | notExtensible (kind : String)
deriving DecidableEq, Repr

/-- The words for a fault. -/
def Fault.message : Fault → String
  | loneReturn => "carriage return must be followed by newline, expected newline"
  | badComment => "invalid comment character, expected printable characters"
  | unclosedTable => "unclosed table, expected `]`"
  | unclosedTableList => "unclosed array table, expected `]]`"
  | halfClosedTableList => "unclosed array table, expected `]`"
  | noTableOpening => "missing table open, expected `[`"
  | noKey => "missing key, expected key"
  | keyWithoutValue => "key with no value, expected `=`"
  | afterValue => "unexpected key or value, expected newline, `#`"
  | extraEquals => "extra `=`, expected nothing"
  | noListOpening => "missing array opening, expected `[`"
  | noInlineOpening => "missing inline table opening, expected `\x7b`"
  | unclosedList => "unclosed array, expected `]`"
  | extraCommaInList => "extra comma in array, expected value"
  | equalsInList => "unexpected `=` in array, expected value, `]`"
  | noCommaInList => "missing comma between array elements, expected `,`"
  | unclosedInline => "unclosed inline table, expected `\x7d`"
  | extraCommaInInline => "extra comma in inline table, expected key"
  | noEqualsInInline => "missing assignment between key-value pairs, expected `=`"
  | noCommaInInline => "missing comma between key-value pairs, expected `,`"
  | emptyKey => "unquoted keys cannot be empty, expected letters, numbers, `-`, `_`"
  | badKey => "invalid unquoted key, expected letters, numbers, `-`, `_`"
  | longKey q => "keys cannot be " ++ q.name ++ "s, expected basic string, literal string"
  | unclosedString q => "invalid " ++ q.name ++ ", expected `" ++ toString q.char ++ "`"
  | badCharacter q => "invalid " ++ q.name ++ ", expected " ++ q.admitted
  | badEscape =>
    "missing escaped value, expected `b`, `e`, `f`, `n`, `r`, `\\`, `\"`, `x`, `u`, `U`"
  | shortEscape => "too few unicode value digits, expected unicode hexadecimal value"
  | noSuchCharacter => "invalid value, expected unicode hexadecimal value"
  | unquoted => "string values must be quoted, expected literal string"
  | badSymbol kind symbol => "invalid " ++ kind ++ ", expected `" ++ symbol ++ "`"
  | noDigits part => "invalid " ++ part ++ ", expected digits"
  | badDigit kind => "invalid " ++ kind
  | afterFloat => "invalid float, expected nothing"
  | leadingZero => "unexpected leading zero, expected nothing"
  | badUnderscore => "`_` may only go between digits, expected nothing"
  | twoSigns => "redundant numeric sign, expected nothing"
  | signedRadix => "integers with a radix cannot be signed, expected nothing"
  | upperRadix symbol => "radix must be lowercase, expected `" ++ symbol ++ "`"
  | decimalRadix => "redundant integer number prefix, expected nothing"
  | hugeInteger => "integer number overflowed"
  | hugeFloat => "floating-point number overflowed"
  | duplicateKey => "duplicate key"
  | notExtensible kind => "cannot extend value of type " ++ kind ++ " with a dotted key"

/-- A fault and the stretch of text that it is about. -/
structure Error where
  fault : Fault
  span : Stretch
deriving Repr

/-- How many bytes some characters have. -/
def byteCount (t : Text) : Nat := t.foldl (fun n c => n + c.utf8Size) 0

/-- A message with the line of the text that it is about. -/
def report (source : Text) (span : Stretch) (message : Text) : Text :=
  let before := source.take span.start
  let line := (before.filter (· = '\n')).length
  let column := (before.reverse.takeWhile (· ≠ '\n')).length
  let content := ((Text.rows source)[line]?).getD []
  let number := Nat.toDigits 10 (line + 1)
  let gutter := List.replicate (number.length + 1) ' '
  let marked := min (byteCount ((source.drop span.start).take (span.stop - span.start)))
    (byteCount content - column)
  "TOML parse error at line ".toList ++ number ++
    ", column ".toList ++ Nat.toDigits 10 (column + 1) ++
    '\n' :: gutter ++ '|' :: '\n' :: number ++ " | ".toList ++ content ++ '\n' :: gutter ++
    '|' :: List.replicate (column + 1) ' ' ++ List.replicate (max 1 marked) '^' ++
    '\n' :: message ++
    ['\n']

end CellScript.Toml
