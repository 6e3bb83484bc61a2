import Omci.CommandLine.Path
import Omci.Text.Numeral

/-!
# Files

What the commands need from the place where files are kept, in any monad. Folders are
made one at a time; `makeFolders` makes those on the way as well.
-/

namespace Omci.CommandLine

/-- An error that the system reports, by number and wording. -/
structure SystemError where
  code : Nat
  text : String
deriving DecidableEq, Repr

def SystemError.message (error : SystemError) : String :=
  error.text ++ " (os error " ++ Text.numeral error.code ++ ")"

namespace SystemError

def notFound : SystemError := ⟨2, "No such file or directory"⟩

def alreadyThere : SystemError := ⟨17, "File exists"⟩

def notAFolder : SystemError := ⟨20, "Not a directory"⟩

def isAFolder : SystemError := ⟨21, "Is a directory"⟩

def nameTooLong : SystemError := ⟨36, "File name too long"⟩

end SystemError

/-- A place where files are kept, and a clock. -/
structure Files (m : Type → Type) where
  read : String → m (Except SystemError ByteArray)
  /-- Makes a file with that content, or replaces the content of one. -/
  write : String → String → m (Except SystemError Unit)
  makeFolder : String → m (Except SystemError Unit)
  isThere : String → m Bool
  isFolder : String → m Bool
  /-- The time, as year, month, day, hour, minute and second in UTC. -/
  now : m String

namespace Files

variable {m : Type → Type} [Monad m]

/-- Makes a folder; that it is there already is no error. -/
def makeFolderUnlessThere (files : Files m) (path : String) :
    m (Except SystemError Unit) := do
  match ← files.makeFolder path with
  | .ok () => return .ok ()
  | .error error => if ← files.isFolder path then return .ok () else return .error error

/-- Makes a folder, the folders on its way first if one of them is missing; `steps`
bounds their number. -/
def makeFoldersWithin (files : Files m) : Nat → String → m (Except SystemError Unit)
  | 0, _ => return .ok ()
  | steps + 1, path => do
    if path.isEmpty then
      return .ok ()
    match ← files.makeFolderUnlessThere path with
    | .ok () => return .ok ()
    | .error error =>
      if error.code ≠ SystemError.notFound.code then
        return .error error
      match Path.parent? path with
      | none => return .error error
      | some folder =>
        match ← files.makeFoldersWithin steps folder with
        | .error error => return .error error
        | .ok () => files.makeFolderUnlessThere path

/-- Makes a folder, and the folders on its way if they are missing. -/
def makeFolders (files : Files m) (path : String) : m (Except SystemError Unit) :=
  files.makeFoldersWithin (path.length + 1) path

end Files

end Omci.CommandLine
