import Omci.Text.Property
import Omci.Text.Search

/-!
# Blank space

Blanks are the characters with the Unicode property White_Space. Trimming removes them
from both ends of a text, `words` cuts a text at them, and `collapse` leaves one space
between words.
-/

namespace Omci.Text

/-- White_Space. -/
def blankRanges : CodeRanges := [
  (0x0009, 0x000D), (0x0020, 0x0020), (0x0085, 0x0085), (0x00A0, 0x00A0), (0x1680, 0x1680),
  (0x2000, 0x200A), (0x2028, 0x2029), (0x202F, 0x202F), (0x205F, 0x205F), (0x3000, 0x3000)]

def isBlank (c : Char) : Bool :=
  blankRanges.has c

/-- A text of nothing but blanks; the empty text is one. -/
def allBlank (s : List Char) : Bool :=
  s.all isBlank

def trimStart (s : List Char) : List Char :=
  s.dropWhile isBlank

def trimEnd (s : List Char) : List Char :=
  (s.reverse.dropWhile isBlank).reverse

def trim (s : List Char) : List Char :=
  trimEnd (trimStart s)

/-- The longest stretches without a blank, in order. -/
def words (s : List Char) : List (List Char) :=
  (splitWhere isBlank s).filter (!·.isEmpty)

/-- Every stretch of blanks becomes one space, and none is left at the ends. -/
def collapse (s : List Char) : List Char :=
  join [' '] (words s)

end Omci.Text
