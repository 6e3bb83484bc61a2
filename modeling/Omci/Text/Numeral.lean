/-!
# Numerals

Decimal numerals are ASCII digits, at least one, with leading zeros allowed; `unsigned?`
admits a plus sign before them and `signed?` a minus sign too. A number outside the
given bounds is not read at all.
-/

namespace Omci.Text

def digit? (c : Char) : Option Nat :=
  if '0' ≤ c ∧ c ≤ '9' then some (c.toNat - '0'.toNat) else none

/-- Reads digits behind those that gave `value`. -/
def naturalFrom (value : Nat) : List Char → Option Nat
  | [] => some value
  | c :: rest =>
    match digit? c with
    | some d => naturalFrom (10 * value + d) rest
    | none => none

def natural? : List Char → Option Nat
  | [] => none
  | c :: rest => naturalFrom 0 (c :: rest)

/-- A number below the bound, with or without a plus sign. -/
def unsigned? (bound : Nat) (s : List Char) : Option Nat :=
  let digits := match s with
    | '+' :: rest => rest
    | _ => s
  (natural? digits).filter (· < bound)

/-- A number of a signed word, which has `count` values, with or without a sign. -/
def signed? (count : Nat) (s : List Char) : Option Int :=
  let value : Option Int := match s with
    | '-' :: rest => (natural? rest).map fun n => -(n : Int)
    | '+' :: rest => (natural? rest).map fun n => (n : Int)
    | _ => (natural? s).map fun n => (n : Int)
  value.filter fun n => -(count : Int) ≤ 2 * n && 2 * n < count

/-- The decimal numeral of a number, without leading zeros. -/
def decimal (n : Nat) : List Char :=
  Nat.toDigits 10 n

/-- The decimal numeral as a part of a message or a name. -/
def numeral (n : Nat) : String :=
  String.ofList (decimal n)

/-- The hexadecimal numeral of a number, with capital letters. -/
def hexadecimal (n : Nat) : List Char :=
  (Nat.toDigits 16 n).map Char.toUpper

end Omci.Text
