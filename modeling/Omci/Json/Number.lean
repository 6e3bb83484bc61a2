import Omci.Json.Basic
import Omci.Text.Numeral

/-!
# Numbers in JSON

An integer of 64 bits, written without a fraction and without a power of ten, is kept as
it is; any other number becomes a binary one, negative zero among them. The binary
number is made of the digits in front that fit into 64 bits, so that it may be a
neighbour of the nearest one. A number that is too great is well formed and unreadable.
-/

namespace Omci.Json

/-- A number as it is written. -/
structure Literal where
  isNegative : Bool
  whole : List Char
  fraction : List Char
  /-- The power of ten, if one is written: its minus sign and its digits. -/
  power : Option (Bool × List Char)
deriving DecidableEq, Repr

/-- Takes the digits at the front, at least one of them. -/
def digits? (s : List Char) : Option (List Char × List Char) :=
  let digits := s.takeWhile Char.isDigit
  if digits.isEmpty then none else some (digits, s.dropWhile Char.isDigit)

namespace Literal

/-- Appends digits to a number as long as it fits into 64 bits; what is left are the
other digits. -/
def append (n : Nat) : List Char → Nat × List Char
  | [] => (n, [])
  | c :: rest =>
    let longer := 10 * n + (Text.digit? c).getD 0
    if longer < UInt64.size then append longer rest else (n, c :: rest)

/-- The number that the digits of the whole part stand for, if it is an integer of 64
bits. -/
def int? (l : Literal) : Option Int :=
  match append 0 l.whole with
  | (n, []) =>
    if l.isNegative then
      if n = 0 || UInt64.size < 2 * n then none else some (-n)
    else
      some n
  | _ => none

def powerOfTen (l : Literal) : Int :=
  match l.power with
  | some (true, digits) => -((Text.natural? digits).getD 0 : Nat)
  | some (false, digits) => ((Text.natural? digits).getD 0 : Nat)
  | none => 0

/-- Digits of the whole part that do not fit count as zeros, those of the fraction are
left out. -/
def real? (l : Literal) : Option Binary64 :=
  let (n, zeros) := append 0 l.whole
  let (n, ignored) := append n l.fraction
  let power := l.powerOfTen + zeros.length + ignored.length - l.fraction.length
  (Magnitude.scaled? n power).map (⟨l.isNegative, ·⟩)

def toJson (l : Literal) : Json :=
  match if l.fraction.isEmpty && l.power.isNone then l.int? else none with
  | some n => .int n
  | none =>
    match l.real? with
    | some x => .real x
    | none => .unreadable

/-- The fraction, empty if there is none. -/
def fraction? : List Char → Option (List Char × List Char)
  | '.' :: rest => digits? rest
  | s => some ([], s)

def power? : List Char → Option (Option (Bool × List Char) × List Char)
  | [] => some (none, [])
  | c :: rest =>
    if c = 'e' || c = 'E' then
      let (isNegative, rest) := match rest with
        | '+' :: rest => (false, rest)
        | '-' :: rest => (true, rest)
        | _ => (false, rest)
      (digits? rest).map fun (digits, rest) => (some (isNegative, digits), rest)
    else
      some (none, c :: rest)

/-- Reads a number, sign first; a whole part of several digits has no leading zero. -/
def read? (s : List Char) : Option (Literal × List Char) := do
  let (isNegative, s) := match s with
    | '-' :: rest => (true, rest)
    | _ => (false, s)
  let (whole, s) ← digits? s
  if whole.length > 1 && whole.head? = some '0' then
    none
  let (fraction, s) ← fraction? s
  let (power, s) ← power? s
  return (⟨isNegative, whole, fraction, power⟩, s)

end Literal

/-- A number, and the text behind it. -/
def number (s : List Char) : Option (Json × List Char) :=
  (Literal.read? s).map fun (literal, rest) => (literal.toJson, rest)

end Omci.Json
