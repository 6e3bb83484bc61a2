import Omci.Assembly
import Omci.Augmentation
import Omci.Census
import Omci.CommandLine.Files
import Omci.CommandLine.Usage
import Omci.Correction.Known
import Omci.Identifiers
import Omci.Inference
import Omci.Json.Printer
import Omci.Saved.Document
import Omci.Saved.Hints
import Omci.Saved.Summary
import Omci.Sha256

/-!
# Running commands

`parse` reads a document and writes its catalog, `names` and `augment` write what
follows from a catalog, `status` counts what a catalog holds. A command stops at the
first thing that fails; files that it has written by then stay.
-/

namespace Omci.CommandLine

/-- Why a command fails. -/
inductive Failure where
  | notRead (path : String) (error : SystemError)
  /-- The file does not hold what it should. -/
  | notParsed (path : String)
  | folderNotMade (path : String) (error : SystemError)
  | fileNotMade (path : String) (error : SystemError)
  | classTable (error : ClassTable.Error)
  | assembly (error : Assembly.Error)
  | noOutputFolder (path : String)
  | reloadDiffers (path : String)
deriving DecidableEq, Repr

namespace Failure

def message : Failure → String
  | notRead path _ => "failed to read " ++ path
  | notParsed path => "failed to parse " ++ path
  | folderNotMade path _ => "failed to create directory: " ++ path
  | fileNotMade path _ => "failed to create json file: " ++ path
  | classTable error => error.message
  | assembly error => error.message
  | noOutputFolder path => "output directory " ++ path ++ " does not exist"
  | reloadDiffers path => "catalog reloaded from " ++ path ++ " differs from the one saved"

/-- The error of the system behind the failure. -/
def systemError? : Failure → Option SystemError
  | notRead _ error | folderNotMade _ error | fileNotMade _ error => some error
  | _ => none

end Failure

/-- The program and the version that sign a catalog. -/
def programName : String := "g988-catalog"

def programVersion : String := "0.1.0"

/-- The file of names inside the folder that was asked for. -/
def namesFile : String := "attrNames_test.json"

section Steps

variable {m : Type → Type} [Monad m]

/-- A step of a command. -/
abbrev Step (m : Type → Type) := ExceptT Failure m

def Step.orFail {α : Type} (failure : SystemError → Failure)
    (action : m (Except SystemError α)) :
    Step m α := do
  match ← (action : m _) with
  | .ok a => return a
  | .error error => throw (failure error)

def readFile (files : Files m) (path : String) : Step m ByteArray :=
  Step.orFail (Failure.notRead path) (files.read path)

/-- A saved value as the octets of a file hold it. -/
def decode {α : Type} [Saved α] (path : String) (octets : ByteArray) : Step m α :=
  match (String.fromUTF8? octets).bind Saved.load? with
  | some a => return a
  | none => throw (.notParsed path)

def load {α : Type} [Saved α] (files : Files m) (path : String) : Step m α := do
  decode path (← readFile files path)

/-- Writes a tree to a file, whose folder is made if it is missing. -/
def save (files : Files m) (path : String) (tree : Json) : Step m Unit := do
  match Path.parent? path with
  | some folder =>
    if !folder.isEmpty then
      Step.orFail (Failure.folderNotMade folder) (files.makeFolders folder)
  | none => pure ()
  Step.orFail (Failure.fileNotMade path) (files.write path tree.fileText)

/-- Reads a catalog that was just written and compares it with the one in hand. -/
def verify (files : Files m) (path : String) (catalog : Catalog) : Step m Unit := do
  let reloaded : Catalog ← load files path
  if (toJson reloaded).value? ≠ (toJson catalog).value? then
    throw (.reloadDiffers path)

/-! ## Commands -/

/-- What a run makes of the classes of a document: the corrected catalog with its types,
and the classes without a section. -/
def catalogOf (document : Document) (hints : Option Hints) (sectionNumber : String)
    (selected : List ClassId) : Except Failure (Catalog × Summary) := do
  let entries ← (ClassTable.read document sectionNumber).mapError Failure.classTable
  let assembly ← (Assembly.build document entries selected).mapError Failure.assembly
  let (catalog, _) := assembly.catalog.correct Correction.known
  let catalog := catalog.inferAccess
  let hints := hints.getD {}
  let catalog := (hints.apply catalog).inferTypes (hints.typed catalog)
  return (catalog.validate,
    { catalog.summary with withoutSection := assembly.withoutSection })

def runParse (files : Files m) (options : ParseOptions) : Step m Unit := do
  let octets ← readFile files options.input
  let document : Document ← decode options.input octets
  let hints : Option Hints ← match options.hints with
    | some path => some <$> load files path
    | none => pure none
  let (catalog, summary) ← ExceptT.mk <| pure <|
    catalogOf document hints options.classIdSection options.classIds
  let summary :=
    { summary with generatedAt := ← (files.now : m String), input := options.input }
  let version : Version := {
    name := programName
    version := programVersion
    createTime := ← (files.now : m String)
    document := options.input
    sha256 := Sha256.hexDigest octets }
  let catalog := { catalog with versions := document.versions ++ [version] }
  save files options.output (toJson catalog)
  verify files options.output catalog
  match options.summaryPath with
  | some path => save files path (toJson summary)
  | none => pure ()

/-- The census of a catalog, none if its file is not there. -/
def runStatus (files : Files m) (input : String) : Step m (Option Census) := do
  if ← (files.isThere input : m Bool) then
    let catalog : Catalog ← load files input
    return some catalog.census
  else
    return none

def runNames (files : Files m) (input outputDir : String) : Step m Unit := do
  if !(← (files.isFolder outputDir : m Bool)) then
    throw (.noOutputFolder outputDir)
  let catalog : Catalog ← load files input
  save files (Path.child outputDir namesFile) catalog.namesJson

def runAugment (files : Files m) (options : AugmentOptions) : Step m Unit := do
  let catalog : Catalog ← load files options.input
  let hints : Hints ← match options.existing with
    | some path => if ← (files.isThere path : m Bool) then load files path else pure {}
    | none => pure {}
  let selected := if options.classIds.isEmpty then usualClasses else options.classIds
  save files options.output (toJson (hints.augment catalog selected))

/-- Runs a command; `status` gives a census. -/
def run (files : Files m) : Command → Step m (Option Census)
  | .parse options => do runParse files options; return none
  | .status input => runStatus files input
  | .names input outputDir => do runNames files input outputDir; return none
  | .augment options => do runAugment files options; return none

end Steps

end Omci.CommandLine
