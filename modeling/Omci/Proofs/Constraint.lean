import Omci.Json.Value
import Omci.Proofs.Base64
import Omci.Proofs.Text.Numeral
import Omci.Proofs.Text.Search

/-!
# What a constraint says

A constraint is a text. Its reader gives what it stands for: a range of integers,
a mask of bits or a length. Bounds and masks are numerals, in hexadecimal behind
0x, and each form of a constraint is read back as what it was written for.
Whether a value keeps to a constraint is a matter of the value alone, octets
being counted behind base64.
-/

namespace Omci

open Text

inductive Constraint where
  | range (low high : Nat)
  | mask (bits : Nat)
  | length (octets : Nat)
deriving DecidableEq, Repr

namespace Constraint

/-- A number, in hexadecimal behind 0x. -/
def number? : List Char → Option Nat
  | '0' :: 'x' :: digits => hexadecimal? digits
  | s => natural? s

/-- What a text without dots says. -/
def readTerm? : List Char → Option Constraint
  | '0' :: 'x' :: digits => (hexadecimal? digits).map .mask
  | 'l' :: 'e' :: 'n' :: '(' :: rest =>
    if rest.getLast? = some ')' then (natural? rest.dropLast).map .length else none
  | _ => none

def read? (s : List Char) : Option Constraint :=
  match cut? ['.', '.'] s with
  | some (low, high) => (number? low).bind fun low => (number? high).map (.range low)
  | none => readTerm? s

/-- The greatest integer of a range, or the bits of a mask. -/
def greatest? : Constraint → Option Nat
  | .range _ high => some high
  | .mask bits => some bits
  | .length _ => none

/-- The value keeps to the constraint: an integer in the range, an integer with no
bit beside the mask, or octets of the length in base64. -/
def Admits : Constraint → Json.Value → Prop
  | .range low high, value => ∃ n : Nat, value.tree = .int n ∧ low ≤ n ∧ n ≤ high
  | .mask bits, value => ∃ n : Nat, value.tree = .int n ∧ n &&& bits = n
  | .length octets, value => ∃ text data, value.tree = .str text ∧
      Base64.decode? text.toList = some data ∧ data.length = octets

/-! ## Texts of constraints -/

theorem read?_range (n : Nat) :
    read? ("0..0x" ++ String.ofList (hexadecimal n)).toList = some (.range 0 n) := by
  have htext : ("0..0x" ++ String.ofList (hexadecimal n)).toList =
      ['0'] ++ ['.', '.'] ++ '0' :: 'x' :: hexadecimal n := by simp
  rw [htext, read?, cut?_append (by decide)]
  simp only [number?, hexadecimal?_hexadecimal]
  rfl

theorem read?_of_dot_not_mem {s : List Char} (h : '.' ∉ s) : read? s = readTerm? s := by
  rw [read?, cut?, position?_eq_none h, Option.map_none]

theorem read?_mask (n : Nat) :
    read? ("0x" ++ String.ofList (hexadecimal n)).toList = some (.mask n) := by
  have htext : ("0x" ++ String.ofList (hexadecimal n)).toList =
      '0' :: 'x' :: hexadecimal n := by simp
  have hdigits : '.' ∉ hexadecimal n := not_mem_hexadecimal (by decide) n
  have hdot : '.' ∉ '0' :: 'x' :: hexadecimal n := by simpa using hdigits
  rw [htext, read?_of_dot_not_mem hdot, readTerm?, hexadecimal?_hexadecimal,
    Option.map_some]

theorem read?_length (n : Nat) :
    read? ("len(" ++ numeral n ++ ")").toList = some (.length n) := by
  have htext : ("len(" ++ numeral n ++ ")").toList =
      'l' :: 'e' :: 'n' :: '(' :: (decimal n ++ [')']) := by simp [numeral]
  have hdigits : '.' ∉ decimal n := not_mem_decimal (by decide) n
  have hdot : '.' ∉ 'l' :: 'e' :: 'n' :: '(' :: (decimal n ++ [')']) := by
    simpa using hdigits
  rw [htext, read?_of_dot_not_mem hdot, readTerm?, if_pos List.getLast?_concat,
    List.dropLast_concat, natural?_decimal, Option.map_some]

end Constraint

end Omci
