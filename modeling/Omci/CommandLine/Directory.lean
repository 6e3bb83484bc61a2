import Omci.CommandLine.Files

/-!
# Directories in memory

A tree of folders and text files below a working folder, as a value. The commands run
over it as they do over a disk, so that what they write can be reasoned about. The
folders above the working folder and the root are there too, and are empty as far as
anybody knows.
-/

namespace Omci.CommandLine

open Text

/-- A place by the names on the way from the working folder. The way to a folder above
it consists of `..` alone, and a way from the root begins with `/`. -/
abbrev Place := List String

namespace Place

def root : Place := ["/"]

/-- The root, the working folder or a folder above that. -/
def isGiven (place : Place) : Bool :=
  place = root || place.all (· = "..")

/-- The place is not in the working folder. -/
def isOutside (place : Place) : Bool :=
  place.head? = some "/" || place.head? = some ".."

/-- The folder around a folder; the root is around itself. -/
def around (place : Place) : Place :=
  if place = root then root
  else if place.isGiven then place ++ [".."]
  else place.dropLast

end Place

structure Directory where
  files : List (Place × String) := []
  /-- The folders that hold no file yet, or were there before one; those on the way to a
  file are known from it. -/
  folders : List Place := []
deriving DecidableEq, Repr

namespace Directory

def file? (d : Directory) (place : Place) : Option String :=
  d.files.lookup place

def isFolder (d : Directory) (place : Place) : Bool :=
  place.isGiven || d.folders.any (place.isPrefixOf ·) ||
    d.files.any fun entry => place.isPrefixOf entry.1 && place ≠ entry.1

/-- The greatest number of octets in a name, and in a path. -/
def nameLimit : Nat := 255

def pathLimit : Nat := 4095

/-- Goes from a place along the parts of a path, of which all but the last must be
folders. -/
def walk (d : Directory) (place : Place) : List (List Char) → Except SystemError Place
  | [] => .ok place
  | part :: rest =>
    if d.isFolder place then
      if part = [] || part = ['.'] then
        d.walk place rest
      else if part = ['.', '.'] then
        d.walk place.around rest
      else if nameLimit < (String.ofList part).utf8ByteSize then
        .error .nameTooLong
      else
        d.walk (place ++ [String.ofList part]) rest
    else if (d.file? place).isSome then
      .error .notAFolder
    else
      .error .notFound

/-- The place that a path leads to. -/
def place? (d : Directory) (path : String) : Except SystemError Place :=
  if path.isEmpty then
    .error .notFound
  else if pathLimit < path.utf8ByteSize then
    .error .nameTooLong
  else
    d.walk (if path.toList.head? = some Path.slash then Place.root else [])
      (Path.pieces path)

def read (d : Directory) (path : String) : Except SystemError ByteArray := do
  let place ← d.place? path
  if d.isFolder place then
    throw .isAFolder
  match d.file? place with
  | some text => return text.toUTF8
  | none => throw .notFound

/-- The path ends in a slash, so that it can only name a folder. -/
def namesFolder (path : String) : Bool :=
  path.toList.getLast? = some Path.slash

def write (d : Directory) (path text : String) : Except SystemError Directory := do
  if namesFolder path then
    throw .isAFolder
  let place ← d.place? path
  if d.isFolder place then
    throw .isAFolder
  return { d with files := (place, text) :: d.files.filter (·.1 ≠ place) }

def makeFolder (d : Directory) (path : String) : Except SystemError Directory := do
  let place ← d.place? path
  if d.isFolder place || (d.file? place).isSome then
    throw .alreadyThere
  return { d with folders := place :: d.folders }

/-- The path leads to a place that passes the test. -/
def leadsTo (d : Directory) (path : String) (test : Directory → Place → Bool) : Bool :=
  match d.place? path with
  | .ok place => test d place
  | .error _ => false

/-- Runs an operation that changes the directory if it succeeds. -/
def change (operation : Directory → Except SystemError Directory) :
    StateM Directory (Except SystemError Unit) := do
  match operation (← get) with
  | .ok d => set d; return .ok ()
  | .error error => return .error error

/-- The directory as a place for files, at a given time. -/
def store (time : String) : Files (StateM Directory) where
  read path := return (← get).read path
  write path text := change fun d => d.write path text
  makeFolder path := change fun d => d.makeFolder path
  isThere path :=
    return (← get).leadsTo path fun d place => d.isFolder place || (d.file? place).isSome
  isFolder path := return (← get).leadsTo path isFolder
  now := return time

end Directory

end Omci.CommandLine
