import Omci.Size
import Omci.Text.Blank
import Omci.Text.Casing
import Omci.Text.Numeral

/-!
# Reading sizes

The document gives the size of an attribute in parentheses: a number of bytes or bits, a
number of bytes for each of N rows, or a letter for a length that is only known at run
time. `Size.read?` tries the forms in a fixed order and reads nothing into a text that
has none of them.
-/

namespace Omci.Size

open Text

/-- The length, in UTF-8, from which a text must say bytes in full to count as a size. -/
def shortTextLimit : Nat := 14

/-- Ways to write a number of bytes that is only known at run time. -/
def unboundedForms : List String := [
  "m bytes", "m-bytes", "n bytes", "n-bytes", "x bytes", "x-bytes", "y bytes", "y-bytes",
  "z bytes", "z-bytes", "mxn-bytes", "mxn bytes", "m*n bytes", "n rows"]

/-- A number of octets, with or without a sign. -/
def octets? (s : List Char) : Option Int32 :=
  (signed? UInt32.size s).map Int32.ofInt

/-- The number in front of the first space or hyphen. -/
def leadingOctets? (s : List Char) : Option Int32 :=
  octets? (s.takeWhile fun c => c ≠ ' ' && c ≠ '-')

/-- The number in front of the letter that stands for a count of rows. -/
def rowOctets? (s lower : List Char) : Option Int32 :=
  (position? "n bytes".toList lower).bind fun i => octets? (trim (s.take i))

/-- The number behind the words that announce the size of each row. -/
def rowPartOctets? (s lower : List Char) : Option (Option Int32) :=
  let phrase := "each row part:".toList
  (position? phrase lower).map fun i =>
    (words (s.drop (i + phrase.length))).head?.bind octets?

/-- A size in bytes that does not begin with a number; `lower` is the text in lower case. -/
def symbolic? (s lower : List Char) : Option Size :=
  if startsWith "n * ".toList lower then
    ((split ' ' s)[2]?.bind octets?).map ofOctets
  else if lower = "n bytes".toList then
    some (ofParts 0)
  else
    match rowOctets? s lower with
    | some octets => some (ofOctets octets)
    | none =>
      match rowPartOctets? s lower with
      | some octets => octets.map ofOctets
      | none => if unboundedForms.any fun form =>
        contains form.toList lower then some (ofParts 0) else none

def utf8Length : List Char → Nat
  | [] => 0
  | c :: rest => c.utf8Size + utf8Length rest

/-- The text mentions bytes or bits, is not a note, and is short or says bytes in full. -/
def looksLikeSize (s lower : List Char) : Bool :=
  !contains "note".toList lower
    && (contains "byte".toList lower || contains "bit".toList lower)
    && (utf8Length s < shortTextLimit || contains "bytes".toList lower)

/-- The size that a text in parentheses gives. -/
def read? (s : List Char) : Option Size :=
  let s := trim s
  let lower := s.map lowerAscii
  if !looksLikeSize s lower then
    none
  else if contains "byte".toList lower then
    match leadingOctets? s with
    | some octets => some (ofOctets octets)
    | none => symbolic? s lower
  else
    (leadingOctets? s).bind fun n =>
      if 0 ≤ n.toInt then some (ofBits (UInt32.ofNat n.toInt.toNat)) else none

end Omci.Size
