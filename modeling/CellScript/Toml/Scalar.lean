import CellScript.Json.Quoted
import CellScript.Number.Shortest
import CellScript.Number.Width
import CellScript.Toml.Expression

set_option autoImplicit false

/-! # Scalars of TOML

`Piece.key` and `Piece.scalar` say what a name or a scalar means that is written in some way:
strings are unquoted, their escapes replaced; words, numbers and dates are told apart by how they
start. -/

namespace CellScript.Toml

/-- A scalar. -/
inductive Scalar where
  | str (t : Text)
  | int (n : Int)
  /-- A number that is no integer, as it is shown. -/
  | float (shown : Text)
  | bool (b : Bool)
  | date
deriving DecidableEq, Repr

/-! ## Strings -/

/-- The character that a letter stands for after a backslash. -/
def escapedChar? (c : Char) : Option Char :=
  if c = 'b' then some (Char.ofNat 8)
  else if c = 'e' then some (Char.ofNat 0x1b)
  else if c = 'f' then some (Char.ofNat 12)
  else if c = 'n' then some '\n'
  else if c = 'r' then some '\r'
  else if c = 't' then some '\t'
  else if c = '\\' then some '\\'
  else if c = '"' then some '"'
  else none

/-- How many hexadecimal digits follow a letter after a backslash. -/
def hexCount? (c : Char) : Option Nat :=
  if c = 'x' then some 2 else if c = 'u' then some 4 else if c = 'U' then some 8 else none

/-- The number that digits write in a base up to sixteen. -/
def numberOf (base : Nat) (ds : Text) : Nat :=
  ds.foldl (fun n d => n * base + (Json.hexValue? d).getD 0) 0

/-- Whether a number is that of a character. -/
def isCharNumber (n : Nat) : Bool := n < 0xd800 || (0xdfff < n && n < 0x110000)

/-- Whether a character may stand for itself in a string. -/
def isStringChar (q : Quote) (c : Char) : Bool :=
  c = '\t' || (0x20 ≤ c.toNat && c.toNat ≠ 0x7f) || (q.isLong && c = '\n')

/-- Drop blanks and line ends after a backslash at the end of a line. -/
def skipContinuation (t : Text) : Text :=
  t.dropWhile fun c => c = ' ' || c = '\t' || c = '\n' || c = '\r'

/-- Whether a line ends after blanks. -/
def endsLine (t : Text) : Bool :=
  match t.dropWhile fun c => c = ' ' || c = '\t' with
  | '\n' :: _ => true
  | '\r' :: '\n' :: _ => true
  | _ => false

/-- Replace the escapes of a string that starts at some character and ends at `stop`; the number of
steps is bounded by `n`. -/
def unescape (q : Quote) (stop : Nat) : Nat → Text → Except Error Text
  | 0, _ => .ok []
  | _ + 1, [] => .ok []
  | n + 1, c :: t =>
    let here := stop - (t.length + 1)
    if c = '\\' ∧ q.isEscaped then
      match t with
      | [] => failAt .badEscape ⟨stop, stop⟩
      | d :: t' =>
        match escapedChar? d, hexCount? d with
        | some e, _ => (unescape q stop n t').map (e :: ·)
        | none, some k =>
          let digits := (t'.take k).takeWhile fun c => (Json.hexValue? c).isSome
          let place := stop - t'.length
          if digits.length < k then failAt .shortEscape ⟨place, place⟩
          else
            let m := numberOf 16 digits
            if isCharNumber m then (unescape q stop n (t'.drop k)).map (Char.ofNat m :: ·)
            else failAt .noSuchCharacter ⟨place, place + k⟩
        | none, none =>
          if q.isLong ∧ endsLine t then unescape q stop n (skipContinuation t)
          else failAt .badEscape ⟨here + 1, here + 1⟩
    else if q.isLong ∧ c = '\r' ∧ t.head? = some '\n' then (unescape q stop n t).map (c :: ·)
    else if isStringChar q c then (unescape q stop n t).map (c :: ·)
    else failAt (.badCharacter q) ⟨here, here + 1⟩

/-- Drop a line end. -/
def dropLineEnd : Text → Text
  | '\n' :: t => t
  | '\r' :: '\n' :: t => t
  | t => t

/-- What a string means that is written within quotes. -/
def unquote (q : Quote) (p : Piece) : Except Error Text :=
  let m := q.mark.length
  let body := p.text.drop m
  match Text.dropSuffix? q.mark body with
  | none => failAt (.unclosedString q) ⟨p.span.stop, p.span.stop⟩
  | some inner =>
    let inner := if q.isLong then dropLineEnd inner else inner
    unescape q (p.span.stop - m) (inner.length + 1) inner

/-! ## Keys -/

/-- Whether a character may stand in a name that is not quoted. -/
def isBareChar (c : Char) : Bool := c.isAlphanum || c = '-' || c = '_'

/-- The name that a piece is. -/
def Piece.key (p : Piece) : Except Error Text :=
  match p.quote with
  | some q => if q.isLong then failAt (.longKey q) p.span else unquote q p
  | none =>
    if p.text = [] then failAt .emptyKey p.span
    else if p.text.all isBareChar then .ok p.text
    else
      let good := (p.text.takeWhile isBareChar).length
      failAt .badKey ⟨p.start + good, p.start + good + 1⟩

/-! ## Numbers -/

/-- Whether every underscore of a number stands between digits. -/
def underscoresFit (isDigit : Char → Bool) : Text → Bool
  | [] => true
  | ['_'] => false
  | '_' :: _ => false
  | c :: '_' :: d :: t => isDigit c && isDigit d && underscoresFit isDigit (d :: t)
  | [_, '_'] => false
  | _ :: t => underscoresFit isDigit t

/-- A number without its underscores. -/
def plain (t : Text) : Text := t.filter (· ≠ '_')

/-- The parts of a decimal: the digits before and after its point, its exponent, and what is wrong
with the way it is written. -/
structure Decimals where
  whole : Text
  fraction : Text
  exponent : Int
  fault : Option Fault

/-- The digits that a text starts with, and the fault of a part that has none. -/
def digitsOf (part : String) (t : Text) : Text × Option Fault :=
  let ds := t.takeWhile Char.isDigit
  (ds, if ds.isEmpty then some (.noDigits part) else none)

/-- The exponent that a text starts with after its `e`, the fault of having none, and what is left
of the text. -/
def exponentOf (t : Text) : Int × Option Fault × Text :=
  let (negative, t) := match t with
    | '-' :: t => (true, t)
    | '+' :: t => (false, t)
    | t => (false, t)
  let (ds, fault) := digitsOf "exponent" t
  let e : Int := numberOf 10 ds
  (if negative then -e else e, fault, t.drop ds.length)

/-- Take a decimal without underscores apart. Of several faults the first counts. -/
def decimals (t : Text) : Decimals :=
  let (whole, noWhole) := digitsOf "mantissa" t
  let zero := if 1 < whole.length ∧ whole.head? = some '0' then some Fault.leadingZero else none
  let rest := t.drop whole.length
  let (fraction, noFraction, rest) := match rest with
    | '.' :: r =>
      let (ds, fault) := digitsOf "fraction" r
      (ds, fault, r.drop ds.length)
    | r => ([], none, r)
  let (exponent, noExponent, rest) := match rest with
    | c :: r => if c = 'e' ∨ c = 'E' then exponentOf r else (0, none, rest)
    | [] => (0, none, [])
  let more := if rest.isEmpty then none else some Fault.afterFloat
  ⟨whole, fraction, exponent, noWhole <|> zero <|> noFraction <|> noExponent <|> more⟩

/-- The exponent beyond which a decimal is zero or infinite whatever its digits. -/
def maxReach : Nat := 5000

/-- A decimal as it is shown: the double nearest to it, without an exponent. There is none if it is
too great. -/
def shownDecimal? (negative : Bool) (d : Decimals) : Option Text := do
  let digits := numberOf 10 (d.whole ++ d.fraction)
  let e := d.exponent - d.fraction.length
  let x : Double ←
    if digits = 0 ∨ e < -(maxReach : Int) - (d.whole ++ d.fraction).length then
      some (.zero negative)
    else if (maxReach : Int) < e then none
    else if e < 0 then Double.ofRatio? negative digits (Nat.pow 10 (-e).toNat)
    else Double.ofRatio? negative (digits * Nat.pow 10 e.toNat) 1
  let sign : Text := if negative then ['-'] else []
  if x.mantissa = 0 then return sign ++ "0.0".toList
  else
    let s := x.shortest
    let ds := Nat.toDigits 10 s.digits
    let point : Int := ds.length + s.exponent
    return sign ++
      if 0 ≤ s.exponent then ds ++ List.replicate s.exponent.toNat '0' ++ ".0".toList
      else if 0 < point then ds.take point.toNat ++ '.' :: ds.drop point.toNat
      else "0.".toList ++ List.replicate (-point).toNat '0' ++ ds

/-- Read a float without its sign. -/
def floatNumber (p : Piece) (negative : Bool) (t : Text) : Except Error Scalar :=
  let d := decimals (plain t)
  match d.fault with
  | some f => failAt f p.span
  | none =>
    if !underscoresFit Char.isDigit t then failAt .badUnderscore p.span
    else
      match shownDecimal? negative d with
      | some shown => .ok (.float shown)
      | none => failAt .hugeFloat p.span

/-- An integer as a scalar; none has more than 128 binary digits. -/
def intScalar (p : Piece) (n : Int) : Except Error Scalar :=
  if fitsInt 128 n ∨ (0 ≤ n ∧ fitsInt 129 n) then .ok (.int n) else failAt .hugeInteger p.span

/-- Read an integer without its sign. -/
def intNumber (p : Piece) (negative : Bool) (t : Text) : Except Error Scalar :=
  if 1 < t.length ∧ t.head? = some '0' then failAt .leadingZero p.span
  else if !underscoresFit Char.isDigit t ∨ !(plain t).all Char.isDigit then
    failAt .badUnderscore p.span
  else
    let n : Int := numberOf 10 (plain t)
    intScalar p (if negative then -n else n)

/-- Read a number without its sign. -/
def decimalNumber (p : Piece) (negative : Bool) (t : Text) : Except Error Scalar :=
  match t.dropWhile Char.isDigit with
  | [] => intNumber p negative t
  | c :: more =>
    if (c :: more).contains ' ' then failAt .unquoted p.span
    else if (c :: more).any (fun c => c = '.' || c = 'e' || c = 'E') then floatNumber p negative t
    else if c = '_' then intNumber p negative t
    else failAt .unquoted p.span

/-- The base that a letter after a zero tells, and the name of its numbers. -/
def radix? (c : Char) : Option (Nat × String) :=
  if c = 'x' ∨ c = 'X' then some (16, "hexadecimal number")
  else if c = 'o' ∨ c = 'O' then some (8, "octal number")
  else if c = 'b' ∨ c = 'B' then some (2, "binary number")
  else none

/-- Read the digits of a number in a base. -/
def radixNumber (p : Piece) (base : Nat) (kind : String) (t : Text) : Except Error Scalar :=
  let isDigit (c : Char) : Bool := (Json.hexValue? c).any (· < base)
  let ds := plain t
  if !ds.all isDigit then failAt (.badDigit kind) p.span
  else if !underscoresFit isDigit t then failAt .badUnderscore p.span
  else if ds.isEmpty then failAt .hugeInteger p.span
  else intScalar p (numberOf base ds)

/-- Read a word that has to be a given one. -/
def symbol (p : Piece) (t : Text) (kind expected : String) (s : Scalar) : Except Error Scalar :=
  if t = expected.toList then .ok s else failAt (.badSymbol kind expected) p.span

/-- Read a number that may start with zero and its base. -/
def unsignedNumber (p : Piece) (negative signed : Bool) (t : Text) : Except Error Scalar :=
  match t with
  | '0' :: c :: ds =>
    match radix? c with
    | some (base, kind) =>
      if signed then failAt .signedRadix p.span
      else if c.isUpper then failAt (.upperRadix (String.ofList ['0', c.toLower])) p.span
      else radixNumber p base kind ds
    | none =>
      if c = 'd' ∨ c = 'D' then failAt (if signed then .signedRadix else .decimalRadix) p.span
      else decimalNumber p negative t
  | t => decimalNumber p negative t

/-- Whether a scalar is a date or a time: digits with a dash or a colon after them. -/
def isDate (t : Text) : Bool :=
  match t.dropWhile Char.isDigit with
  | '-' :: _ => true
  | ':' :: _ => true
  | _ => false

/-- Read a number after its sign. -/
def signedNumber (p : Piece) (negative : Bool) (t : Text) : Except Error Scalar :=
  match t with
  | [] => failAt .unquoted p.span
  | c :: _ =>
    if c = '+' ∨ c = '-' then failAt .twoSigns p.span
    else if c = 'i' ∨ c = 'I' then
      symbol p t "float" "inf" (.float (if negative then "-inf".toList else "inf".toList))
    else if c = 'n' ∨ c = 'N' then symbol p t "float" "nan" (.float "NaN".toList)
    else if c.isDigit ∨ c = '.' ∨ c = '_' then unsignedNumber p negative true t
    else failAt .unquoted p.span

/-- Read a scalar that is not quoted. -/
def bareScalar (p : Piece) : Except Error Scalar :=
  match p.text with
  | [] => failAt .unquoted p.span
  | c :: t =>
    if c = '+' then signedNumber p false t
    else if c = '-' then signedNumber p true t
    else if c.isDigit ∧ isDate p.text then .ok .date
    else if c.isDigit ∨ c = '.' ∨ c = '_' then unsignedNumber p false false p.text
    else if c = 't' ∨ c = 'T' then symbol p p.text "boolean" "true" (.bool true)
    else if c = 'f' ∨ c = 'F' then symbol p p.text "boolean" "false" (.bool false)
    else if c = 'i' ∨ c = 'I' then symbol p p.text "float" "inf" (.float "inf".toList)
    else if c = 'n' ∨ c = 'N' then symbol p p.text "float" "nan" (.float "NaN".toList)
    else failAt .unquoted p.span

/-- The scalar that a piece is. -/
def Piece.scalar (p : Piece) : Except Error Scalar :=
  match p.quote with
  | some q => (unquote q p).map .str
  | none => bareScalar p

end CellScript.Toml
