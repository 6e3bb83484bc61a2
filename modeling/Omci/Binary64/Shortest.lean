import Omci.Binary64
import Omci.Text.Numeral

/-!
# Shortest decimals

The text of a binary number has the fewest digits among the decimals that round to the
number, and of these it is the nearest. It is written with a point when the point falls
among its first sixteen digits or no more than four zeros follow it, and with a power of
ten otherwise.
-/

namespace Omci

/-- The decimal `digits * 10 ^ power`. -/
structure Decimal where
  digits : Nat
  power : Int
deriving DecidableEq, Repr

namespace Decimal

/-- Compares a decimal with a number of quarters of a unit. -/
def compareQuarters (d : Decimal) (quarters : Nat) : Ordering :=
  compare (d.digits * tenTo d.power.toNat * (4 * Magnitude.unitsOfOne))
    (quarters * tenTo (-d.power).toNat)

/-- Moves the zeros at the end of the digits, at most `fuel` of them, into the power. -/
def withoutZeros (fuel : Nat) (d : Decimal) : Decimal :=
  match fuel with
  | 0 => d
  | fuel + 1 =>
    if d.digits ≠ 0 && d.digits % 10 = 0 then
      withoutZeros fuel ⟨d.digits / 10, d.power + 1⟩
    else
      d

end Decimal

namespace Magnitude

/-- The decimal rounds to the magnitude: it lies between the middles to the two
neighbours, of which the lower is half as far away as the upper where the mantissa is
the least of its exponent. A middle belongs to the even mantissa. -/
def isReadFrom (a : Magnitude) (d : Decimal) : Bool :=
  let toUpper := 2 * twoTo a.exponent
  let toLower := if a.mantissa = twoTo 52 && 0 < a.exponent then twoTo a.exponent
    else toUpper
  let below := d.compareQuarters (4 * a.units - toLower)
  let above := d.compareQuarters (4 * a.units + toUpper)
  if a.mantissa % 2 = 0 then below ≠ .lt && above ≠ .gt else below = .gt && above = .lt

/-- The power of ten just above a magnitude that is not zero. -/
def tenAbove (a : Magnitude) : Int :=
  if unitsOfOne ≤ a.units then
    (Nat.toDigits 10 (a.units / unitsOfOne)).length
  else
    1 - (((List.range 325).find? fun n => unitsOfOne ≤ a.units * tenTo n).getD 325 : Nat)

/-- The decimals next to the magnitude among the multiples of a power of ten, the nearer
one first. -/
def neighbours (a : Magnitude) (power : Int) : List Decimal :=
  let num := a.units * tenTo (-power).toNat
  let den := unitsOfOne * tenTo power.toNat
  let lower := num / den
  let nearer := roundToEven num den
  [⟨nearer, power⟩, ⟨if nearer = lower then lower + 1 else lower, power⟩]

/-- The shortest decimal that rounds to a magnitude; seventeen digits are enough for any. -/
def shortest (a : Magnitude) : Decimal :=
  let candidates :=
    (List.range 17).flatMap fun n : Nat => a.neighbours (a.tenAbove - (n + 1))
  ((candidates.find? a.isReadFrom).getD ⟨a.units, 0⟩).withoutZeros 17

end Magnitude

namespace Decimal

/-- The digits with the point where the power puts it, if that is near, and with the
power of ten of the first digit otherwise. -/
def layout (d : Decimal) : List Char :=
  let digits := Text.decimal d.digits
  let point := digits.length + d.power
  if 0 ≤ d.power && point ≤ 16 then
    digits ++ List.replicate d.power.toNat '0' ++ ['.', '0']
  else if 0 < point && point ≤ 16 then
    digits.take point.toNat ++ '.' :: digits.drop point.toNat
  else if -5 < point && point ≤ 0 then
    '0' :: '.' :: List.replicate (-point).toNat '0' ++ digits
  else
    let fraction := digits.drop 1
    let sign := if point < 1 then ['-'] else []
    digits.take 1 ++ (if fraction.isEmpty then [] else '.' :: fraction) ++
      'e' :: sign ++ Text.decimal (point - 1).natAbs

end Decimal

/-- The text of a number. -/
def Binary64.text (x : Binary64) : String :=
  let digits := if x.magnitude.isZero then ['0', '.', '0'] else x.magnitude.shortest.layout
  String.ofList (if x.isNegative then '-' :: digits else digits)

end Omci
