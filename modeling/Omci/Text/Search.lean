/-!
# Searching, cutting and replacing

All on lists of characters. An occurrence is always the leftmost one, and replacement
goes on after what it replaced, so that what it wrote is not searched again.
-/

namespace Omci.Text

def startsWith (pattern s : List Char) : Bool :=
  pattern.isPrefixOf s

def endsWith (pattern s : List Char) : Bool :=
  pattern.isSuffixOf s

def contains (pattern : List Char) : List Char → Bool
  | [] => pattern.isEmpty
  | c :: rest => pattern.isPrefixOf (c :: rest) || contains pattern rest

/-- Where the first occurrence of the pattern begins. -/
def position? (pattern : List Char) : List Char → Option Nat
  | [] => if pattern.isEmpty then some 0 else none
  | c :: rest =>
    if pattern.isPrefixOf (c :: rest) then some 0 else (position? pattern rest).map (· + 1)

/-- The text before the first occurrence of the pattern, and the text after it. -/
def cut? (pattern s : List Char) : Option (List Char × List Char) :=
  (position? pattern s).map fun i => (s.take i, s.drop (i + pattern.length))

/-- The pieces between the characters that separate; one more than there are of those. -/
def splitWhere (separates : Char → Bool) : List Char → List (List Char)
  | [] => [[]]
  | c :: rest =>
    if separates c then
      [] :: splitWhere separates rest
    else
      match splitWhere separates rest with
      | [] => [[c]]
      | piece :: more => (c :: piece) :: more

def split (separator : Char) (s : List Char) : List (List Char) :=
  splitWhere (· = separator) s

/-- Texts put end to end with a separator between neighbours. -/
def join (separator : List Char) : List (List Char) → List Char
  | [] => []
  | [s] => s
  | s :: rest => s ++ separator ++ join separator rest

/-- The text up to the first separator. -/
def upTo (separator : Char) (s : List Char) : List Char :=
  s.takeWhile (· ≠ separator)

/-- Replaces the pattern, after passing over the first `skip` characters, which an
earlier match covers. -/
def replaceFrom (pattern replacement : List Char) : Nat → List Char → List Char
  | _, [] => []
  | skip + 1, _ :: rest => replaceFrom pattern replacement skip rest
  | 0, c :: rest =>
    if pattern.isPrefixOf (c :: rest) then
      replacement ++ replaceFrom pattern replacement (pattern.length - 1) rest
    else
      c :: replaceFrom pattern replacement 0 rest

/-- Every occurrence of a pattern that is not empty becomes the replacement. -/
def replace (pattern replacement s : List Char) : List Char :=
  replaceFrom pattern replacement 0 s

def replaceChar (c : Char) (replacement s : List Char) : List Char :=
  s.flatMap fun d => if d = c then replacement else [d]

end Omci.Text
