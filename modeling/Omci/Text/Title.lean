import Omci.Text.Blank
import Omci.Text.Casing

/-!
# Title case

A letter behind a letter is put in lower case, any other letter in upper case, so a
digit begins a new word: the title form of 1st is 1St.
-/

namespace Omci.Text

/-- Title case of a text that stands behind a letter or not. -/
def titleAfter (letter : Bool) : List Char → List Char
  | [] => []
  | c :: rest =>
    if isLetter c then
      (if letter then lowerChar c else upperChar c) ++ titleAfter true rest
    else
      c :: titleAfter false rest

def title (s : List Char) : List Char :=
  titleAfter false s

/-- Title case with the blanks left out. -/
def camel (s : List Char) : List Char :=
  (title s).filter (!isBlank ·)

end Omci.Text
