import CellScript.Json.Fault
import CellScript.Json.Value

set_option autoImplicit false

/-! # Reading numbers

A number is read as a significand of 64 bits and a power of ten: digits that no longer fit are only
counted. Without a point and an exponent it is an integer if there is room for it, otherwise a
double; so is a negative zero. -/

namespace CellScript.Json

/-- The value of a digit. -/
def digitValue (c : Char) : Nat := c.toNat - 0x30

/-- Whether a text starts with a digit. -/
def startsWithDigit : Text → Bool
  | c :: _ => c.isDigit
  | [] => false

/-- Append digits to a number while it stays below a limit: the number, how many digits were taken,
and what is left. -/
def takeDigits (limit : Nat) : Nat → Nat → Text → Nat × Nat × Text
  | n, k, [] => (n, k, [])
  | n, k, c :: t =>
    if c.isDigit then
      let n' := n * 10 + digitValue c
      if n' ≤ limit then takeDigits limit n' (k + 1) t else (n, k, c :: t)
    else (n, k, c :: t)

/-- Drop digits, counting them. -/
def dropDigits : Nat → Text → Nat × Text
  | k, [] => (k, [])
  | k, c :: t => if c.isDigit then dropDigits (k + 1) t else (k, c :: t)

/-- The greatest exponent. -/
def maxExponent : Nat := Nat.pow 2 31 - 1

/-- A number of a significand and a power of ten. -/
def scaled (negative : Bool) (significand : Nat) (k : Int) (t : Text) : Result Value :=
  match Double.ofDecimal? negative significand k with
  | some x => .ok (.double x, t)
  | none => stopAt .hugeNumber t

/-- Whether an exponent is negative, and the text after its sign. -/
def exponentSign : Text → Bool × Text
  | '+' :: t => (false, t)
  | '-' :: t => (true, t)
  | t => (false, t)

/-- Read what follows the `e` of a number. -/
def exponentPart (negative : Bool) (significand : Nat) (k : Int) (t : Text) : Result Value :=
  let (down, t) := exponentSign t
  match t with
  | [] => stopAt .endInValue t
  | c :: t' =>
    if c.isDigit then
      let (e, _, t') := takeDigits maxExponent (digitValue c) 0 t'
      if startsWithDigit t' then
        if significand ≠ 0 ∧ !down then stopPast .hugeNumber t'
        else .ok (.double (.zero negative), (dropDigits 0 t').2)
      else scaled negative significand (if down then k - e else k + e) t'
    else stopPast .badNumber t

/-- Read the exponent of a number, if it has one. -/
def exponentOr (negative : Bool) (significand : Nat) (k : Int) : Text → Result Value
  | 'e' :: t => exponentPart negative significand k t
  | 'E' :: t => exponentPart negative significand k t
  | t => scaled negative significand k t

/-- Read what follows the point of a number. -/
def fraction (negative : Bool) (significand : Nat) (k : Nat) (t : Text) : Result Value :=
  let (s, n, t) := takeDigits maxInt significand 0 t
  if startsWithDigit t then exponentOr negative s ((k : Int) - n) (dropDigits 0 t).2
  else if n = 0 then
    match t with
    | [] => stopAt .endInValue t
    | _ => stopPast .badNumber t
  else exponentOr negative s ((k : Int) - n) t

/-- The value of a number without point and exponent. -/
def integer (negative : Bool) (n : Nat) (t : Text) : Result Value :=
  if !negative then .ok (.int n, t)
  else if n = 0 ∨ minIntMagnitude < n then scaled negative n 0 t
  else .ok (.int (-(n : Int)), t)

/-- Read what follows the digits of a number before its point: the number that they are, times
`10 ^ k`. -/
def tail (negative : Bool) (n : Nat) : Text → Result Value
  | '.' :: t => fraction negative n 0 t
  | 'e' :: t => exponentPart negative n 0 t
  | 'E' :: t => exponentPart negative n 0 t
  | t => integer negative n t

/-- Read what follows the digits of a number before its point, `k` of which did not fit. -/
def longTail (negative : Bool) (n k : Nat) : Text → Result Value
  | '.' :: t => fraction negative n k t
  | t => exponentOr negative n k t

/-- Read a number, without its sign. -/
def number (negative : Bool) : Text → Result Value
  | [] => stopAt .endInValue []
  | '0' :: t => if startsWithDigit t then stopPast .badNumber t else tail negative 0 t
  | c :: t =>
    if c.isDigit then
      let (n, _, t) := takeDigits maxInt (digitValue c) 0 t
      if startsWithDigit t then
        let (k, t) := dropDigits 0 t
        longTail negative n k t
      else tail negative n t
    else stopPast .badNumber (c :: t)

end CellScript.Json
