import Omci.Text.Blank
import Omci.Text.Search

/-!
# ASCII

The source document is typeset: dashes, quotation marks, relations and Greek letters
stand where an identifier needs ASCII. `toAscii` spells those it knows and puts a space
for any other character.
-/

namespace Omci.Text

/-- ASCII spellings of the characters beyond ASCII that the document uses. -/
def spellings : List (Nat × String) := [
  (160, "-"), (174, "r"), (176, "degree-"), (177, "+/-"), (181, "u"), (189, "1/2"),
  (215, "*"), (224, "\x60a"), (946, "B"), (956, "v"), (969, "w"), (8211, "-"), (8217, "'"),
  (8220, "\x60\x60"), (8221, "''"), (8226, "o"), (8230, "..."), (8722, "-"), (8804, "<="),
  (8805, ">="), (61664, "->")]

def asciiSpelling (c : Char) : List Char :=
  if c.toNat < 128 then
    [c]
  else
    match spellings.lookup c.toNat with
    | some spelling => spelling.toList
    | none => [' ']

def toAscii (s : List Char) : List Char :=
  s.flatMap asciiSpelling

/-- ASCII on one line: a line feed becomes a space, a carriage return goes, and the ends
are trimmed. -/
def toAsciiLine (s : List Char) : List Char :=
  trim (replaceChar '\r' [] (replaceChar '\n' [' '] (toAscii s)))

end Omci.Text
