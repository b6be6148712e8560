set_option autoImplicit false

/-! # Doubles

A `Double` is a finite binary floating point number of double width, held as its sign, its mantissa
and its exponent. `Double.ofRatio?` is the double nearest to a fraction, the even one of two at the
same distance; every operation here is the exact result brought back to a double that way. -/

namespace CellScript

/-- The number `mantissa * 2 ^ exponent`, negated if `negative`. -/
structure Double where
  negative : Bool
  mantissa : Nat
  exponent : Int
deriving DecidableEq, Repr, Inhabited

namespace Double

/-- The least exponent. -/
def minExponent : Int := -1074

/-- The greatest exponent. -/
def maxExponent : Int := 971

/-- The least mantissa of a number that has a smaller exponent than it needs. -/
def leastNormal : Nat := Nat.pow 2 52

/-- Zero. -/
def zero (negative : Bool) : Double := ⟨negative, 0, minExponent⟩

/-- A fraction times `2 ^ e`, as numerator and denominator. -/
def scale (e : Int) (num den : Nat) : Nat × Nat :=
  if 0 ≤ e then (num * Nat.pow 2 e.toNat, den) else (num, den * Nat.pow 2 (-e).toNat)

/-- The magnitude of a double, as numerator and denominator. -/
def ratio (x : Double) : Nat × Nat := scale x.exponent x.mantissa 1

/-- A quotient to the nearest integer, the even one of two. -/
def roundDiv (num den : Nat) : Nat :=
  let q := num / den
  let r := num % den
  if 2 * r < den then q else if den < 2 * r then q + 1 else q + q % 2

/-- The exponent of the double nearest to a fraction, unless rounding carries. -/
def exponentOf (num den : Nat) : Int :=
  let e : Int := (Nat.log2 num : Int) - Nat.log2 den - 52
  let (n, d) := scale (-e) num den
  max minExponent (if n < leastNormal * d then e - 1 else e)

/-- The double nearest to a fraction, unless the fraction is beyond all of them. -/
def ofRatio? (negative : Bool) (num den : Nat) : Option Double :=
  if num = 0 then some (zero negative)
  else
    let e := exponentOf num den
    let (n, d) := scale (-e) num den
    let m := roundDiv n d
    let x : Double :=
      if m = 2 * leastNormal then ⟨negative, leastNormal, e + 1⟩ else ⟨negative, m, e⟩
    if x.exponent > maxExponent then none else some x

/-- The double nearest to a power of ten. -/
def powTen? (k : Nat) : Option Double := ofRatio? false (Nat.pow 10 k) 1

/-- A product. -/
def mul? (x y : Double) : Option Double :=
  let (a, b) := x.ratio
  let (c, d) := y.ratio
  ofRatio? (x.negative != y.negative) (a * c) (b * d)

/-- A quotient. -/
def div? (x y : Double) : Option Double :=
  let (a, b) := x.ratio
  let (c, d) := y.ratio
  if c = 0 then none else ofRatio? (x.negative != y.negative) (a * d) (b * c)

/-- The exponent of the greatest power of ten that is a double. -/
def maxPowTen : Nat := 308

/-- Divide by a power of ten, in steps that are doubles themselves. The number of steps is bounded
by `n`. -/
def divPowTen? : Nat → Double → Nat → Option Double
  | 0, _, _ => none
  | n + 1, x, k =>
    if k ≤ maxPowTen then (powTen? k).bind x.div?
    else if x.mantissa = 0 then some x
    else ((powTen? maxPowTen).bind x.div?).bind fun y => divPowTen? n y (k - maxPowTen)

/-- The double that a significand and a power of ten are read as: each is rounded, then their
product or quotient is. -/
def ofDecimal? (negative : Bool) (significand : Nat) (k : Int) : Option Double :=
  (ofRatio? negative significand 1).bind fun x =>
    if k < 0 then divPowTen? ((-k).toNat + 1) x (-k).toNat
    else if k.toNat ≤ maxPowTen then (powTen? k.toNat).bind x.mul?
    else if x.mantissa = 0 then some x
    else none

end Double

end CellScript
