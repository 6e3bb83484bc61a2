import Omci.Attribute
import Omci.Document
import Omci.Size.Reading
import Omci.Text.Parens
import Omci.Text.Title

/-!
# Reading attributes

An attribute begins with a bold name, and parentheses behind the name say how it can be
reached, whether it is mandatory and how large it is. `Attribute.ofParagraph?` reads the
name, `Attribute.withSettings` the rest; settings may also stand in the paragraphs that
follow, and what has been said first stays.
-/

namespace Omci

open Text

namespace Attribute

/-- Names that begin an attribute although their paragraph has the style of one that
goes on. -/
def followerNames : List String := [
  "aal5 profile pointer", "deprecated 3", "grandmaster id:", "steps removed:",
  "time source:"]

/-- Slips of the document and what they stand for, in the order in which they are put
right; they are looked for in title case. -/
def nameRepairs : List (String × String) := [
  ("N Umber", "Number"), ("C Ounter", "Counter"), ("C Ontrol", "Control"),
  ("P Ointer", "Pointer"), ("T Ime", "Time"), ("B Lock", "Block"),
  ("R Evision", "Revision"), ("A Dditional", "Additional"), ("D Ate", "Date"),
  ("N Ame", "Name"), ("P Art", "Part"), ("1 St", "1st"), ("2 Nd", "2nd"), ("3 Rd", "3rd"),
  ("4 Th", "4th"), ("1St", "1st"), ("2Nd", "2nd"), ("3Rd", "3rd"), ("4Th", "4th"),
  ("1 /2", "1/2"), ("1/ 2", "1/2"), ("1 _2", "1_2"), ("1_ 2", "1_2"), ("C=0+1", "C01"),
  ("C-= 0", "C0"), ("/", "_"), ("-", "_"), ("C_= 0", "C0"), ("+", "_"), ("Packets, Usable",
    "Packets Usable"), (",", " "), ("T Cont", "TCont"), ("R Eporting", "Reporting"),
  ("I Ndication", "Indication"), ("H Ook", "Hook"), ("R Eset", "Reset"), ("R'S'", "R S"),
  ("I Nterval", "Interval"), ("M Essage", "Message"), ("M Ulticast", "Multicast"),
  ("T Ype", "Type"), ("F Ail", "Fail"), ("P Ayload", "Payload"),
  ("M Anagement", "Management"), ("Battery B Ackup", "Battery Backup"),
  ("O Ption", "Option"), ("U Nit", "Unit"), ("B It", "Bit"),
  ("FailThreshold", "Fail Threshold"), ("Failthreshold", "Fail Threshold"),
  ("DegradeThreshold", "Degrade Threshold"), ("LineClass", "Line Class"),
  ("Lineclass", "Line Class"), ("\"leftr\"", "leftr"), ("\"Leftr\"", "Leftr"),
  (" Sd ", " "), ("\"", "")]

/-- Makes the repairs one after the other. -/
def repair (repairs : List (String × String)) (s : List Char) : List Char :=
  repairs.foldl (fun s entry => replace entry.1.toList entry.2.toList s) s

/-- The name that a bold text gives: what stands before the first colon, without groups
in parentheses, in title case and repaired. -/
def nameOf (bold : List Char) : List Char :=
  let head := upTo ':' (toAscii bold)
  let name := repair nameRepairs (title (collapse (replaceGroups [' '] head)))
  collapse (name.map fun c => if c = '(' || c = ')' || c = ':' then ' ' else c)

/-- The paragraph begins an attribute and does not go on with the one before it. -/
def startsIn (p : Paragraph) : Bool :=
  p.isBold &&
    let style := lower p.style.toList
    if style = "attribute list".toList then
      false
    else if style = "attribute follower".toList then
      let lead := lower (p.text.toList.take 80)
      followerNames.any fun name => contains name.toList lead
    else
      true

/-- The attribute that a paragraph begins. -/
def ofParagraph? (p : Paragraph) : Option Attribute :=
  if startsIn p then
    let name := nameOf p.boldText
    some {
      name := String.ofList name
      description := [p.index]
      deprecated := startsWith "deprecated".toList (lower name) }
  else
    none

end Attribute

namespace Access

/-- Lists of accesses that do not name each of them by its keyword, and the lists they
mean. -/
def synonyms : List (String × String) := [
  ("rwsc", "r, w, setbycreate"),
  ("r, w setbycreate", "r, w, setbycreate"),
  ("r,w if applicable, setbycreate if applicable", "r, w, setbycreate")]

/-- The access whose keyword the token is. -/
def ofKeyword? (token : List Char) : Option Access :=
  if token = "r".toList then some .read
  else if token = "w".toList then some .write
  else if token = "setbycreate".toList then some .setByCreate
  else none

/-- The access that a token stands for when a keyword stands beside it: set-by-create
may then go on with more words. -/
def ofToken? (token : List Char) : Option Access :=
  if startsWith "setbycreate".toList token then some .setByCreate else ofKeyword? token

/-- The tokens of a list of accesses, in lower case and without hyphens. -/
def tokens (s : List Char) : List (List Char) :=
  let text := lower (trim (s.filter (· ≠ '-')))
  let text := match synonyms.find? fun entry => entry.1.toList = text with
    | some entry => entry.2.toList
    | none => text
  ((split ',' text).map trim).filter (!·.isEmpty)

/-- The accesses that a text lists, if at least one of its tokens is a keyword. -/
def read? (s : List Char) : Option AccessSet :=
  if (tokens s).any fun token => (ofKeyword? token).isSome then
    some (Ascending.ofList ((tokens s).filterMap ofToken?))
  else
    none

end Access

namespace Attribute

/-- Marks the attribute as mandatory or optional, unless that has been done. -/
def withOptional (a : Attribute) (optional : Bool) : Attribute :=
  { a with optional := a.optional.or (some optional) }

/-- Gives the attribute its accesses, unless it has some. -/
def withAccess (a : Attribute) (access : AccessSet) : Attribute :=
  if a.access.isEmpty then { a with access := access } else a

/-- Reads one item in parentheses: a flag, a list of accesses or a size. -/
def withItem (a : Attribute) (item : List Char) : Attribute :=
  let word := lower (trim item)
  if word = "mandatory".toList then
    a.withOptional false
  else if word = "optional".toList then
    a.withOptional true
  else
    match Access.read? item with
    | some access => a.withAccess access
    | none =>
      match Size.read? item with
      | some size => { a with size := some size }
      | none => a

/-- Reads items in order, up to one that speaks of a value of zeros. -/
def withItems (a : Attribute) : List (List Char) → Attribute
  | [] => a
  | item :: rest =>
    if lower (trim item) = "all zero bytes".toList then a
    else (a.withItem item).withItems rest

/-- Notes the number of a paragraph that describes the attribute. -/
def withDescription (a : Attribute) (index : UInt64) : Attribute :=
  if index ∈ a.description then
    a
  else
    { a with description := (a.description ++ [index]).mergeSort fun i j => decide (i ≤ j) }

/-- Reads the settings of a paragraph that describes the attribute. Fewer than three
items are not settings. -/
def withSettings (a : Attribute) (p : Paragraph) : Attribute :=
  let text := trim p.asciiText
  if text.isEmpty then
    a
  else
    let a := a.withDescription p.index
    let items := parenItems text
    if items.length < 3 then a else a.withItems items

end Attribute

end Omci
