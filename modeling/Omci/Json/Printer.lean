import Omci.Binary64.Shortest
import Omci.Json.Basic
import Omci.Text.Numeral

/-!
# Writing JSON

The layout is the indented one: two spaces a level, one item or member a line, empty
brackets closed at once. Characters beyond ASCII are written as they are.
-/

namespace Omci.Json

/-- How a character stands inside quotation marks. -/
def escape (c : Char) : List Char :=
  if c = '"' then ['\\', '"']
  else if c = '\\' then ['\\', '\\']
  else if c = '\n' then ['\\', 'n']
  else if c = '\r' then ['\\', 'r']
  else if c = '\t' then ['\\', 't']
  else if c = '\x08' then ['\\', 'b']
  else if c = '\x0c' then ['\\', 'f']
  else if c.toNat < 0x20 then
    ['\\', 'u', '0', '0', Nat.digitChar (c.toNat / 16), Nat.digitChar (c.toNat % 16)]
  else [c]

def quote (s : String) : String :=
  String.ofList ('"' :: s.toList.flatMap escape ++ ['"'])

def integer (n : Int) : String :=
  if n < 0 then
    String.ofList ('-' :: Text.decimal n.natAbs)
  else
    String.ofList (Text.decimal n.natAbs)

/-- A line break, and the spaces that `depth` brackets ask for. -/
def lineBreak (depth : Nat) : String :=
  String.ofList ('\n' :: List.replicate (2 * depth) ' ')

mutual

/-- Writes a tree that stands inside `depth` brackets behind `out`. An unreadable part
is written as null; no record has one. -/
def writeIndented (out : String) (depth : Nat) : Json → String
  | .null | .unreadable => out ++ "null"
  | .bool true => out ++ "true"
  | .bool false => out ++ "false"
  | .int n => out ++ integer n
  | .real x => out ++ x.text
  | .str s => out ++ quote s
  | .arr [] => out ++ "[]"
  | .arr (item :: rest) =>
    let out := writeIndented (out ++ "[" ++ lineBreak (depth + 1)) (depth + 1) item
    writeItems out (depth + 1) rest ++ lineBreak depth ++ "]"
  | .obj [] => out ++ "\x7b\x7d"
  | .obj ((name, member) :: rest) =>
    let out := out ++ "\x7b" ++ lineBreak (depth + 1) ++ quote name.text ++ ": "
    let out := writeIndented out (depth + 1) member
    writeMembers out (depth + 1) rest ++ lineBreak depth ++ "\x7d"

def writeItems (out : String) (depth : Nat) : List Json → String
  | [] => out
  | item :: rest =>
    writeItems (writeIndented (out ++ "," ++ lineBreak depth) depth item) depth rest

def writeMembers (out : String) (depth : Nat) : List (Name × Json) → String
  | [] => out
  | (name, member) :: rest =>
    let out := out ++ "," ++ lineBreak depth ++ quote name.text ++ ": "
    writeMembers (writeIndented out depth member) depth rest

end

/-- The text of a file that holds the tree: its indented form and a final line break. -/
def fileText (tree : Json) : String :=
  writeIndented "" 0 tree ++ "\n"

end Omci.Json
