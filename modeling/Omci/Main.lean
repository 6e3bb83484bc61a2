import Omci.CommandLine.Clock
import Omci.CommandLine.Run
import Std.Time.DateTime.Timestamp

/-!
# The program

Runs the command that the arguments give over the files of the disk.
-/

namespace Omci.CommandLine

def systemError : IO.Error → SystemError
  | .alreadyExists _ code text | .inappropriateType _ code text
  | .invalidArgument _ code text
  | .noSuchThing _ code text | .permissionDenied _ code text
  | .resourceExhausted _ code text
  | .interrupted _ code text | .noFileOrDirectory _ code text
  | .hardwareFault code text | .illegalOperation code text | .otherError code text
  | .protocolError code text | .resourceBusy code text | .resourceVanished code text
  | .timeExpired code text | .unsatisfiedConstraints code text
  | .unsupportedOperation code text =>
    ⟨code.toNat, text⟩
  | .unexpectedEof => ⟨0, "unexpected end of file"⟩
  | .userError text => ⟨0, text⟩

def attempt {α : Type} (action : IO α) : IO (Except SystemError α) := do
  try
    return .ok (← action)
  catch error =>
    return .error (systemError error)

/-- A file or folder of the path can be opened. -/
def opens (path : String) : IO Bool := do
  match ← attempt (IO.FS.Handle.mk path .read) with
  | .ok _ => return true
  | .error _ => return false

/-- The files of the disk, and the clock of the system. -/
def disk : Files IO where
  read path := attempt (IO.FS.readBinFile path)
  write path text := attempt (IO.FS.writeFile path text)
  makeFolder path := attempt (IO.FS.createDir path)
  isThere := opens
  isFolder path := opens (Path.child path ".")
  now := return timeText (← Std.Time.Timestamp.now).toSecondsSinceUnixEpoch.val

def usage : String :=
  "Managed entity catalog extraction from the pre-parsed G.988 document\n\n" ++
  "Usage: g988 COMMAND\n\n" ++
  "  parse    --input FILE --hints FILE --output FILE --class-id-section NUMBER\n" ++
  "           --summary-path FILE --class-id ID ...\n" ++
  "  status   --input FILE\n" ++
  "  names    --input FILE --output-dir FOLDER\n" ++
  "  augment  --input FILE --existing FILE --output FILE --class-id ID ...\n"

def Refusal.message : Refusal → String
  | helpForMissing | help => usage
  | version => "g988 " ++ programVersion ++ "\n"
  | unknownCommand => "error: unrecognized subcommand\n\n" ++ usage
  | unknownArgument => "error: unexpected argument found\n\n" ++ usage
  | badValue => "error: a value is required\n\n" ++ usage
  | badClassId => "error: invalid class id\n\n" ++ usage
  | setTwice => "error: an argument cannot be used multiple times\n\n" ++ usage
  | superfluousValue => "error: unexpected value for a flag\n\n" ++ usage

def Refusal.exitCode : Refusal → UInt32
  | help | version => 0
  | _ => 2

/-- The census of a catalog, a line for each count. -/
def censusLines (census : Census) : List String :=
  let line (name : String) (n : Nat) : String := name ++ ": " ++ Text.numeral n
  [line "entities" census.entities, line "attributes" census.attributes,
    line "actions" census.actions, line "optional actions" census.optionalActions,
    line "alarms" census.alarms, line "threshold alerts" census.alerts,
    line "avcs" census.avcs, line "hidden" census.hidden] ++
  census.byPhase.map fun (phase, n) => line phase.name n

end Omci.CommandLine

open Omci.CommandLine in
def main (args : List String) : IO UInt32 := do
  match Command.ofArguments args with
  | .error refusal =>
    (← IO.getStderr).putStr refusal.message
    return refusal.exitCode
  | .ok command =>
    match ← (run disk command).run with
    | .ok census =>
      for line in (census.map censusLines).getD [] do
        IO.eprintln line
      return 0
    | .error failure =>
      IO.eprintln failure.message
      for error in failure.systemError?.toList do
        IO.eprintln error.message
      return 1
