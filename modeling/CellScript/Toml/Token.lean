import CellScript.Toml.Fault

set_option autoImplicit false

/-! # Tokens of TOML

`tokens` cuts a text into tokens, none of which is empty, so that their texts together are the text.
A string that is not closed ends with its line, or with the text if it may have several lines. -/

namespace CellScript.Toml

/-- The kinds of tokens. -/
inductive TokenKind where
  | dot
  | equals
  | comma
  | openBracket
  | closeBracket
  | openBrace
  | closeBrace
  | space
  | comment
  | newline
  | quoted (q : Quote)
  /-- Anything else: names, numbers, dates. -/
  | atom
deriving DecidableEq, Repr

/-- A token: its kind, its text, and the character of the whole text that it starts with. -/
structure Token where
  kind : TokenKind
  text : Text
  start : Nat
deriving DecidableEq, Repr

namespace Token

/-- Where a token ends. -/
def stop (t : Token) : Nat := t.start + t.text.length

/-- The stretch of a token. -/
def span (t : Token) : Stretch := ⟨t.start, t.stop⟩

/-- The place before a token. -/
def before (t : Token) : Stretch := ⟨t.start, t.start⟩

/-- The place after a token. -/
def after (t : Token) : Stretch := ⟨t.stop, t.stop⟩

end Token

/-- Whether a character ends a name or number. -/
def isDelimiter (c : Char) : Bool := ".=,[]\x7b\x7d \t#\r\n'\"".toList.contains c

/-- The kind of token that a character is by itself. -/
def single? (c : Char) : Option TokenKind :=
  if c = '.' then some .dot
  else if c = '=' then some .equals
  else if c = ',' then some .comma
  else if c = '[' then some .openBracket
  else if c = ']' then some .closeBracket
  else if c = '{' then some .openBrace
  else if c = '}' then some .closeBrace
  else none

/-- The length of a string on one line after its opening quote, with its closing quote. -/
def shortLength (q : Quote) : Text → Nat
  | [] => 0
  | '\n' :: _ => 0
  | '\\' :: d :: t =>
    if q.isEscaped ∧ (d = '\\' ∨ d = '"') then 2 + shortLength q t else 1 + shortLength q (d :: t)
  | c :: t => if c = q.char then 1 else 1 + shortLength q t

/-- The length of what closes a string of several lines: its quotes, and up to two more. -/
def closeLength (q : Quote) (t : Text) : Nat := min 5 (t.takeWhile (· = q.char)).length

/-- The length of a string of several lines after its opening quotes, with its closing quotes. -/
def longLength (q : Quote) : Text → Nat
  | [] => 0
  | '\\' :: d :: t =>
    if q.isEscaped ∧ (d = '\\' ∨ d = '"') then 2 + longLength q t else 1 + longLength q (d :: t)
  | c :: t => if q.mark.isPrefixOf (c :: t) then closeLength q (c :: t) else 1 + longLength q t

/-- The kind and the length of the first token. -/
def firstToken (c : Char) (t : Text) : TokenKind × Nat :=
  let whole := c :: t
  match single? c with
  | some k => (k, 1)
  | none =>
    if c = ' ' ∨ c = '\t' then (.space, (whole.takeWhile fun d => d = ' ' || d = '\t').length)
    else if c = '#' then (.comment, (whole.takeWhile fun d => d ≠ '\n' && d ≠ '\r').length)
    else if c = '\n' then (.newline, 1)
    else if c = '\r' then (.newline, if t.head? = some '\n' then 2 else 1)
    else if c = '\'' ∨ c = '"' then
      let short : Quote := if c = '\'' then .literal else .basic
      let long : Quote := if c = '\'' then .longLiteral else .longBasic
      if long.mark.isPrefixOf whole then (.quoted long, 3 + longLength long (whole.drop 3))
      else (.quoted short, 1 + shortLength short t)
    else (.atom, 1 + (t.takeWhile fun d => !isDelimiter d).length)

/-- The tokens of a text that starts at some character; their number is bounded by `n`. -/
def tokensFrom : Nat → Nat → Text → List Token
  | 0, _, _ => []
  | _ + 1, _, [] => []
  | n + 1, start, c :: t =>
    let (kind, length) := firstToken c t
    let token : Token := ⟨kind, (c :: t).take length, start⟩
    token :: tokensFrom n token.stop ((c :: t).drop length)

/-- The mark that a text may start with, which says nothing. -/
def orderMark : Char := Char.ofNat 0xfeff

/-- The tokens of a text. -/
def tokens (t : Text) : List Token :=
  match t with
  | c :: t' => if c = orderMark then tokensFrom t'.length 1 t' else tokensFrom t.length 0 t
  | [] => []

end CellScript.Toml
