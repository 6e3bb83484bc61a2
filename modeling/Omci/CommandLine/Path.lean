import Omci.Text.Search

/-!
# Paths

A path is a text of parts between slashes. Empty parts and parts that are a single point
name nothing, except that a slash in front makes the path absolute and a point in front
is a part like any other.
-/

namespace Omci.CommandLine.Path

open Text

def slash : Char := '/'

/-- The pieces between the slashes. -/
def pieces (path : String) : List (List Char) :=
  split slash path.toList

/-- Removes the pieces at the end, given in reverse, that name nothing. The first piece
of a path stays. -/
def dropIdle : List (List Char) → List (List Char)
  | piece :: next :: rest =>
    if piece = [] || piece = ['.'] then dropIdle (next :: rest) else piece :: next :: rest
  | pieces => pieces

/-- The text of pieces given in reverse, of which the first is empty if the path is
absolute. -/
def ofReversed (reversed : List (List Char)) : String :=
  if reversed = [[]] then
    String.ofList [slash]
  else
    String.ofList (join [slash] reversed.reverse)

/-- The path without its last part; empty if it has only one, none if it has none. -/
def parent? (path : String) : Option String :=
  match dropIdle (pieces path).reverse with
  | [] | [[]] => none
  | [_] => some ""
  | _ :: rest => some (ofReversed (dropIdle rest))

/-- The path of a file in a folder. -/
def child (folder name : String) : String :=
  if folder.isEmpty || folder.toList.getLast? = some slash then
    folder ++ name
  else
    folder ++ String.ofList [slash] ++ name

end Omci.CommandLine.Path
