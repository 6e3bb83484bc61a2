/-!
# Binary numbers of 64 bits

A finite number is a sign and a magnitude, and a magnitude is a mantissa of at most 53
binary digits times a power of two. `Magnitude.nearest?` rounds a quotient to the
nearest magnitude, a tie going to the even mantissa. Products, quotients and scalings by
a power of ten are rounded quotients.
-/

namespace Omci

/-- A power of two. -/
def twoTo (n : Nat) : Nat := Nat.pow 2 n

/-- A power of ten. -/
def tenTo (n : Nat) : Nat := Nat.pow 10 n

/-- The magnitude `mantissa * 2 ^ exponent`, in units of `2 ^ -1074`. The mantissa has
all its 53 binary digits unless the exponent is zero. -/
structure Magnitude where
  mantissa : Nat
  exponent : Nat
  mantissa_lt : mantissa < twoTo 53
  exponent_lt : exponent < 2046
deriving DecidableEq, Repr

/-- A finite number. There are two zeros, which differ in their sign. -/
structure Binary64 where
  isNegative : Bool
  magnitude : Magnitude
deriving DecidableEq, Repr

/-- The quotient rounded to the nearest number, to the even one if two are equally near. -/
def roundToEven (num den : Nat) : Nat :=
  let whole := num / den
  let rest := 2 * (num % den)
  if den < rest || (den = rest && whole % 2 = 1) then whole + 1 else whole

namespace Magnitude

/-- The number of units in one. -/
def unitsOfOne : Nat := twoTo 1074

def units (a : Magnitude) : Nat :=
  a.mantissa * twoTo a.exponent

def isZero (a : Magnitude) : Bool :=
  a.mantissa = 0

def make? (mantissa exponent : Nat) : Option Magnitude :=
  if h : mantissa < twoTo 53 ∧
    exponent < 2046 then some ⟨mantissa, exponent, h.1, h.2⟩ else none

/-- The magnitude nearest to a quotient; none if it is too great. -/
def nearest? (num den : Nat) : Option Magnitude :=
  let units := num * unitsOfOne
  let exponent := (units / den).log2 - 52
  let mantissa := roundToEven units (den * twoTo exponent)
  if mantissa < twoTo 53 then make? mantissa exponent else make? (twoTo 52) (exponent + 1)

def times? (a b : Magnitude) : Option Magnitude :=
  nearest? (a.units * b.units) (unitsOfOne * unitsOfOne)

def over? (a b : Magnitude) : Option Magnitude :=
  nearest? a.units b.units

/-- The magnitude nearest to a power of ten. -/
def powerOfTen? (power : Nat) : Option Magnitude :=
  nearest? (tenTo power) 1

/-- The greatest power of ten that is no greater than a magnitude. -/
def greatestTen : Nat := 308

/-- Multiplies by a power of ten. -/
def raised? (a : Magnitude) (power : Nat) : Option Magnitude :=
  if power ≤ greatestTen then
    (powerOfTen? power).bind a.times?
  else if a.isZero then
    some a
  else
    none

/-- Divides by a power of ten, in steps if there is no such magnitude. -/
def lowered? (a : Magnitude) (power : Nat) : Option Magnitude :=
  if power ≤ greatestTen then
    (powerOfTen? power).bind a.over?
  else if a.isZero then
    some a
  else
    ((powerOfTen? greatestTen).bind a.over?).bind fun a => a.lowered? (power - greatestTen)
termination_by power
decreasing_by simp only [greatestTen] at *; omega

/-- The significand times a power of ten, where the significand, the power and their
product are rounded one after the other. -/
def scaled? (significand : Nat) (power : Int) : Option Magnitude :=
  (nearest? significand 1).bind fun a =>
    if power < 0 then a.lowered? power.natAbs else a.raised? power.natAbs

end Magnitude

end Omci
