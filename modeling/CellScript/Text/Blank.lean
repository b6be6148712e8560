set_option autoImplicit false

/-! # Blank text

Blank characters are those with the Unicode property `White_Space`. `isBlank` asks whether a text
has nothing else; `trim`, `trimStart` and `trimEnd` cut blanks off its ends. -/

namespace CellScript

/-- A text as the list of its characters; most of the library works on these. -/
abbrev Text := List Char

namespace Text

/-- Whether a character is blank. -/
def isBlankChar (c : Char) : Bool :=
  let n := c.toNat
  (9 ≤ n && n ≤ 13) || n == 0x20 || n == 0x85 || n == 0xa0 || n == 0x1680 ||
    (0x2000 ≤ n && n ≤ 0x200a) || n == 0x2028 || n == 0x2029 || n == 0x202f || n == 0x205f ||
    n == 0x3000

/-- Whether a text has only blank characters. -/
def isBlank (t : Text) : Bool := t.all isBlankChar

/-- Drop leading blanks. -/
def trimStart (t : Text) : Text := t.dropWhile isBlankChar

/-- Drop trailing blanks. -/
def trimEnd (t : Text) : Text := (t.reverse.dropWhile isBlankChar).reverse

/-- Drop blanks at both ends. -/
def trim (t : Text) : Text := trimEnd (trimStart t)

end Text

end CellScript
