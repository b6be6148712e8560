import CellScript.Number.Double
import CellScript.Text.Blank

set_option autoImplicit false

/-! # The shortest decimal

`Double.shortest` is the decimal with the fewest digits that is nearer to a double than to any
other, and of those with equally many digits the nearest; `Double.text` writes it, positionally for
numbers from `0.00001` up to `10 ^ 16` and with an exponent for others. -/

namespace CellScript

/-- The number `digits * 10 ^ exponent`. -/
structure Decimal where
  digits : Nat
  exponent : Int
deriving DecidableEq, Repr

namespace Double

/-- How many zeros stand between the point and the first digit of a fraction below one, at most `n`.
-/
def leadingZeros : Nat → Nat → Nat → Nat
  | 0, _, _ => 0
  | n + 1, num, den => if 10 * num < den then leadingZeros n (10 * num) den + 1 else 0

/-- The least power of ten above a positive fraction. -/
def magnitude (num den : Nat) : Int :=
  if den ≤ num then ((Nat.toDigits 10 (num / den)).length : Int)
  else -(leadingZeros 400 num den : Int)

/-- The reals that round to a double, in quarters of its last place: how far they reach below it and
above it, and whether the ends belong to them. -/
structure Reach where
  below : Nat
  above : Nat
  closed : Bool

/-- The reach of a double. -/
def reach (x : Double) : Reach :=
  ⟨if x.mantissa = leastNormal ∧ x.exponent > minExponent then 1 else 2, 2, x.mantissa % 2 == 0⟩

/-- How far apart two naturals are. -/
def distance (a b : Nat) : Nat := (a - b) + (b - a)

/-- Of the two decimals with last place `10 ^ k` around a positive double, the nearest one within
its reach. -/
def nearestWithin? (x : Double) (k : Int) : Option Decimal :=
  let quarters := 4 * x.mantissa
  let (unit, whole) := scale (x.exponent - 2) 1 1
  let (num, den) :=
    if 0 ≤ k then (unit, whole * Nat.pow 10 k.toNat) else (unit * Nat.pow 10 (-k).toNat, whole)
  let value := quarters * num
  let low := (quarters - x.reach.below) * num
  let high := (quarters + x.reach.above) * num
  let within (d : Nat) : Bool :=
    if x.reach.closed then low ≤ d * den && d * den ≤ high else low < d * den && d * den < high
  let d := value / den
  let near := distance value (d * den)
  let far := distance value ((d + 1) * den)
  match within d, within (d + 1) with
  | true, true =>
    if near < far ∨ (near = far ∧ d % 2 = 0) then some ⟨d, k⟩ else some ⟨d + 1, k⟩
  | true, false => some ⟨d, k⟩
  | false, true => some ⟨d + 1, k⟩
  | false, false => none

/-- The shortest decimal with at least `17 - n` digits. -/
def shortestFrom (x : Double) (top : Int) : Nat → Decimal
  | 0 => (nearestWithin? x (top - 17)).getD ⟨0, 0⟩
  | n + 1 => (nearestWithin? x (top - (16 - n : Int))).getD (shortestFrom x top n)

/-- Drop zeros at the end of a number's digits, at most `n`. -/
def Decimal.dropZeros : Nat → Decimal → Decimal
  | 0, d => d
  | n + 1, d =>
    if d.digits % 10 = 0 ∧ d.digits ≠ 0 then dropZeros n ⟨d.digits / 10, d.exponent + 1⟩ else d

/-- The shortest decimal of a double. -/
def shortest (x : Double) : Decimal :=
  let (num, den) := x.ratio
  Decimal.dropZeros 17 (shortestFrom x (magnitude num den) 16)

/-- An exponent as it is written, always with its sign. -/
def exponentText (e : Int) : Text :=
  (if e < 0 then '-' else '+') :: Nat.toDigits 10 e.natAbs

/-- The text of a positive decimal. -/
def decimalText (d : Decimal) : Text :=
  let ds := Nat.toDigits 10 d.digits
  let point : Int := ds.length + d.exponent
  if 0 ≤ d.exponent ∧ point ≤ 16 then ds ++ List.replicate d.exponent.toNat '0' ++ ['.', '0']
  else if 0 < point ∧ point ≤ 16 then ds.take point.toNat ++ '.' :: ds.drop point.toNat
  else if -5 < point ∧ point ≤ 0 then ['0', '.'] ++ List.replicate (-point).toNat '0' ++ ds
  else
    ds.take 1 ++ (if ds.length = 1 then [] else '.' :: ds.drop 1) ++ 'e' :: exponentText (point - 1)

/-- The text of a double. -/
def text (x : Double) : Text :=
  (if x.negative then ['-'] else []) ++
    if x.mantissa = 0 then ['0', '.', '0'] else decimalText x.shortest

end Double

end CellScript
