import Omci.Json.Number

/-!
# Reading JSON

The grammar is the strict one: nothing but blanks around the value, no leading zeros, no
raw control characters, nothing after the last item. At most 127 brackets may be open at
once; what stands deeper is checked and becomes `unreadable`, as do a text or a name
with an unpaired surrogate and a number that is too great, so that a field nobody reads
may hold any of them.

A text that goes wrong is not a total loss: `Reading.cut` carries the items or members
of the outermost value that were complete before that point.
-/

namespace Omci.Json

/-- What came of reading a text. -/
inductive Reading where
  /-- The text is one value. -/
  | whole (tree : Json)
  /-- The text goes wrong behind this much of its outermost value. -/
  | cut (before : Json)
deriving Repr

/-- The number of brackets that may be open at once. -/
def depthLimit : Nat := 127

def isSpace (c : Char) : Bool :=
  c = ' ' || c = '\t' || c = '\n' || c = '\r'

def skipSpace (s : List Char) : List Char :=
  s.dropWhile isSpace

def hexDigit? (c : Char) : Option Nat :=
  if '0' ≤ c ∧ c ≤ '9' then some (c.toNat - '0'.toNat)
  else if 'a' ≤ c ∧ c ≤ 'f' then some (c.toNat - 'a'.toNat + 10)
  else if 'A' ≤ c ∧ c ≤ 'F' then some (c.toNat - 'A'.toNat + 10)
  else none

def hexUnit? (a b c d : Char) : Option Nat := do
  return (((← hexDigit? a) * 16 + (← hexDigit? b)) * 16 + (← hexDigit? c)) * 16 +
    (← hexDigit? d)

def shortEscape? : Char → Option Char
  | '"' => some '"'
  | '\\' => some '\\'
  | '/' => some '/'
  | 'b' => some '\x08'
  | 'f' => some '\x0c'
  | 'n' => some '\n'
  | 'r' => some '\r'
  | 't' => some '\t'
  | _ => none

/-- The end of a quoted text, read so far from its last character on. -/
inductive TextTail where
  | text (chars : List Char)
  /-- A text behind the second half of a surrogate pair, whose first half must come next. -/
  | half (low : Nat) (chars : List Char)
  /-- Somewhere one half stands without the other. -/
  | unpaired

def TextTail.char (c : Char) : TextTail → TextTail
  | .text chars => .text (c :: chars)
  | _ => .unpaired

/-- Puts the character or the half of one that has the number in front. -/
def TextTail.unit (n : Nat) (tail : TextTail) : TextTail :=
  if 0xD800 ≤ n ∧ n < 0xDC00 then
    match tail with
    | .half low chars =>
      .text (Char.ofNat (0x10000 + (n - 0xD800) * 0x400 + (low - 0xDC00)) :: chars)
    | _ => .unpaired
  else if 0xDC00 ≤ n ∧ n < 0xE000 then
    match tail with
    | .text chars => .half n chars
    | _ => .unpaired
  else
    tail.char (Char.ofNat n)

/-- The text up to the closing quotation mark, and what follows that. -/
def quotedTail : List Char → Option (TextTail × List Char)
  | '"' :: rest => some (.text [], rest)
  | '\\' :: 'u' :: a :: b :: c :: d :: rest =>
    match hexUnit? a b c d, quotedTail rest with
    | some n, some (tail, rest) => some (tail.unit n, rest)
    | _, _ => none
  | '\\' :: e :: rest =>
    match shortEscape? e, quotedTail rest with
    | some c, some (tail, rest) => some (tail.char c, rest)
    | _, _ => none
  | c :: rest =>
    if c = '\\' || c.toNat < 0x20 then
      none
    else
      match quotedTail rest with
      | some (tail, rest) => some (tail.char c, rest)
      | none => none
  | [] => none

/-- The text behind an opening quotation mark, `none` inside if it has an unpaired
surrogate. -/
def quoted (s : List Char) : Option (Option String × List Char) :=
  match quotedTail s with
  | some (.text chars, rest) => some (some (String.ofList chars), rest)
  | some (_, rest) => some (none, rest)
  | none => none

/-- No escape stands between an opening quotation mark and the closing one. -/
def isPlain (s : List Char) : Bool :=
  (s.dropWhile fun c => c ≠ '"' && c ≠ '\\').head? = some '"'

/-- The name behind an opening quotation mark. -/
def quotedName (s : List Char) : Option (Name × List Char) :=
  match quoted s with
  | some (some text, rest) => some (if isPlain s then .plain text else .escaped text, rest)
  | some (none, rest) => some (.unreadable, rest)
  | none => none

/-- What is left of a value when its brackets are the first ones too many. -/
def withinDepth (depth : Nat) (tree : Json) : Json :=
  if depth < depthLimit then tree else .unreadable

mutual

/-- A value inside `depth` brackets, and the text behind it; an error carries the part
of the value that was complete. Every step takes a character, so a fuel of the length of
the text is enough. -/
def readValue : Nat → Nat → List Char → Except Json (Json × List Char)
  | 0, _, _ => .error .null
  | fuel + 1, depth, s =>
    match skipSpace s with
    | 'n' :: 'u' :: 'l' :: 'l' :: rest => .ok (.null, rest)
    | 't' :: 'r' :: 'u' :: 'e' :: rest => .ok (.bool true, rest)
    | 'f' :: 'a' :: 'l' :: 's' :: 'e' :: rest => .ok (.bool false, rest)
    | '"' :: rest =>
      match quoted rest with
      | some (some text, rest) => .ok (.str text, rest)
      | some (none, rest) => .ok (.unreadable, rest)
      | none => .error .null
    | '[' :: rest =>
      match skipSpace rest with
      | ']' :: rest => .ok (withinDepth depth (.arr []), rest)
      | rest => readItems fuel depth [] rest
    | '{' :: rest =>
      match skipSpace rest with
      | '}' :: rest => .ok (withinDepth depth (.obj []), rest)
      | rest => readMembers fuel depth [] rest
    | s =>
      match number s with
      | some (tree, rest) => .ok (tree, rest)
      | none => .error .null

/-- The items of an array from the next one on, `before` being those already read, in
reverse. -/
def readItems : Nat → Nat → List Json → List Char → Except Json (Json × List Char)
  | 0, _, before, _ => .error (.arr before.reverse)
  | fuel + 1, depth, before, s =>
    match readValue fuel (depth + 1) s with
    | .error _ => .error (.arr before.reverse)
    | .ok (item, rest) =>
      match skipSpace rest with
      | ',' :: rest => readItems fuel depth (item :: before) rest
      | ']' :: rest => .ok (withinDepth depth (.arr (item :: before).reverse), rest)
      | _ => .error (.arr (item :: before).reverse)

/-- The members of an object from the next one on, `before` being those already read, in
reverse. -/
def readMembers : Nat → Nat → List (Name × Json) → List Char →
    Except Json (Json × List Char)
  | 0, _, before, _ => .error (.obj before.reverse)
  | fuel + 1, depth, before, s =>
    match skipSpace s with
    | '"' :: rest =>
      match quotedName rest with
      | none => .error (.obj before.reverse)
      | some (name, rest) =>
        match skipSpace rest with
        | ':' :: rest =>
          match readValue fuel (depth + 1) rest with
          | .error _ => .error (.obj before.reverse)
          | .ok (member, rest) =>
            match skipSpace rest with
            | ',' :: rest => readMembers fuel depth ((name, member) :: before) rest
            | '}' :: rest =>
              .ok (withinDepth depth (.obj ((name, member) :: before).reverse), rest)
            | _ => .error (.obj ((name, member) :: before).reverse)
        | _ => .error (.obj before.reverse)
    | _ => .error (.obj before.reverse)

end

/-- Reads a whole text. -/
def read (text : String) : Reading :=
  let s := text.toList
  match readValue (s.length + 1) 0 s with
  | .error before => .cut before
  | .ok (tree, rest) => if (skipSpace rest).isEmpty then .whole tree else .cut tree

end Omci.Json
