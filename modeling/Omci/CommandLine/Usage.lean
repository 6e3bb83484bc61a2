import Omci.Entity
import Omci.Text.Numeral
import Omci.Text.Search

/-!
# Usage

A command line names a command and sets some of its parameters, a parameter and its
value being two arguments or one with an equals sign. What an argument is taken for
depends only on how it begins. A value in an argument of its own is looked at when the
next parameter is met or the line ends, so an argument that is not known is reported
before a bad value ahead of it.
-/

namespace Omci.CommandLine

open Text

/-- Why a command line is not followed. -/
inductive Refusal where
  /-- There is no command. -/
  | helpForMissing
  | help
  | version
  | unknownCommand
  | unknownArgument
  /-- A value is missing, or the empty path. -/
  | badValue
  /-- A value is no class id. -/
  | badClassId
  /-- A parameter with one value is set twice. -/
  | setTwice
  /-- A flag is given a value. -/
  | superfluousValue
deriving DecidableEq, Repr

/-- What a parameter takes. Class ids may be given several times, other values once. -/
inductive ValueKind where
  | path
  | text
  | classId
deriving DecidableEq, Repr

inductive Parameter where
  | input
  | hints
  | output
  | classIdSection
  | summaryPath
  | outputDir
  | existing
  | classId
deriving DecidableEq, Repr

namespace Parameter

def name : Parameter → String
  | input => "input"
  | hints => "hints"
  | output => "output"
  | classIdSection => "class-id-section"
  | summaryPath => "summary-path"
  | outputDir => "output-dir"
  | existing => "existing"
  | classId => "class-id"

def kind : Parameter → ValueKind
  | classIdSection => .text
  | classId => .classId
  | _ => .path

end Parameter

inductive CommandName where
  | parse
  | status
  | names
  | augment
deriving DecidableEq, Repr

namespace CommandName

def all : List CommandName := [parse, status, names, augment]

def name : CommandName → String
  | parse => "parse"
  | status => "status"
  | names => "names"
  | augment => "augment"

def parameters : CommandName → List Parameter
  | parse => [.input, .hints, .output, .classIdSection, .summaryPath, .classId]
  | status => [.input]
  | names => [.input, .outputDir]
  | augment => [.input, .existing, .output, .classId]

end CommandName

/-- The parameters set so far, and the one that has been named and not looked at yet. -/
structure Settings where
  values : List (Parameter × String) := []
  classIds : List ClassId := []
  /-- A named parameter, and its value if that has come. -/
  pending : Option (Parameter × Option String) := none
deriving DecidableEq, Repr

namespace Settings

def value? (settings : Settings) (p : Parameter) : Option String :=
  settings.values.lookup p

/-- A class id, with or without a sign. -/
def classId? (value : String) : Option ClassId :=
  (signed? UInt64.size value.toList).bind fun n =>
    if 0 ≤ n ∧ n < UInt16.size then some (UInt16.ofNat n.toNat) else none

/-- Sets a parameter. -/
def set (settings : Settings) (p : Parameter) (value : String) : Except Refusal Settings :=
  match p.kind with
  | .classId =>
    match classId? value with
    | some classId => .ok { settings with classIds := settings.classIds ++ [classId] }
    | none => .error .badClassId
  | kind =>
    if (settings.value? p).isSome then
      .error .setTwice
    else if kind = .path && value.isEmpty then
      .error .badValue
    else
      .ok { settings with values := settings.values ++ [(p, value)] }

/-- Sets the parameter that is pending, if one is. -/
def resolved (settings : Settings) : Except Refusal Settings :=
  match settings.pending with
  | none => .ok settings
  | some (_, none) => .error .badValue
  | some (p, some value) => { settings with pending := none }.set p value

end Settings

/-- The form of an argument. -/
inductive Argument where
  /-- Two hyphens: nothing that follows is a parameter. -/
  | stop
  | long (name : String) (value : Option String)
  /-- A hyphen and at least one more character, the first of which is given. -/
  | short (letter : Char)
  | plain (text : String)
deriving DecidableEq, Repr

def Argument.ofString (s : String) : Argument :=
  match s.toList with
  | ['-', '-'] => .stop
  | '-' :: '-' :: rest =>
    match cut? ['='] rest with
    | some (name, value) => .long (String.ofList name) (some (String.ofList value))
    | none => .long (String.ofList rest) none
  | '-' :: letter :: _ => .short letter
  | _ => .plain s

/-- Asks for help in place of a command, once what is pending has been looked at. -/
def helpAfter (settings : Settings) : Refusal :=
  match settings.resolved with
  | .ok _ => .help
  | .error refusal => refusal

/-- Reads the arguments behind the name of a command; `stopped` tells that two hyphens
came before. -/
def readSettings (command : CommandName) (stopped : Bool) (settings : Settings) :
    List String → Except Refusal Settings
  | [] => settings.resolved
  | s :: rest =>
    if stopped then
      .error .unknownArgument
    else
      match Argument.ofString s with
      | .stop => readSettings command true settings rest
      | .long name value =>
        if name = "help" then
          .error (if value.isSome then .superfluousValue else helpAfter settings)
        else
          match command.parameters.find? fun p => p.name = name with
          | none => .error .unknownArgument
          | some p =>
            match settings.resolved with
            | .error refusal => .error refusal
            | .ok settings =>
              match value with
              | none =>
                readSettings command false { settings with pending := some (p, none) } rest
              | some value =>
                match settings.set p value with
                | .error refusal => .error refusal
                | .ok settings => readSettings command false settings rest
      | .short letter =>
        .error (if letter = 'h' then helpAfter settings else .unknownArgument)
      | .plain text =>
        match settings.pending with
        | some (p, none) =>
          readSettings command false { settings with pending := some (p, some text) } rest
        | _ => .error .unknownArgument

structure ParseOptions where
  input : String
  hints : Option String
  output : String
  /-- The number of the section that holds the class table. -/
  classIdSection : String
  summaryPath : Option String
  /-- The classes to read; all of them if there is none. -/
  classIds : List ClassId
deriving DecidableEq, Repr

structure AugmentOptions where
  input : String
  existing : Option String
  output : String
  /-- The classes to augment; the usual ones if there is none. -/
  classIds : List ClassId
deriving DecidableEq, Repr

inductive Command where
  | parse (options : ParseOptions)
  | status (input : String)
  | names (input outputDir : String)
  | augment (options : AugmentOptions)
deriving DecidableEq, Repr

/-- The file in which a catalog is kept unless another one is named. -/
def catalogFile : String := "G.988.Parsed.json"

/-- The command with the values set, and the usual ones for the rest. -/
def CommandName.command (settings : Settings) : CommandName → Command
  | parse => .parse {
      input := (settings.value? .input).getD "G.988.PreParse.json"
      hints := settings.value? .hints
      output := (settings.value? .output).getD catalogFile
      classIdSection := (settings.value? .classIdSection).getD "11.2.4"
      summaryPath := settings.value? .summaryPath
      classIds := settings.classIds }
  | status => .status ((settings.value? .input).getD catalogFile)
  | names =>
    .names ((settings.value? .input).getD catalogFile)
      ((settings.value? .outputDir).getD ".")
  | augment => .augment {
      input := (settings.value? .input).getD catalogFile
      existing := settings.value? .existing
      output := (settings.value? .output).getD "G.988.augment.json"
      classIds := settings.classIds }

def CommandName.ofString? (s : String) : Option CommandName :=
  CommandName.all.find? fun command => command.name = s

/-- Help on a command, or on the program if none is named. -/
def helpOn : List String → Refusal
  | [] => .help
  | [s] => if s = "help" || (CommandName.ofString? s).isSome then .help else .unknownCommand
  | _ => .unknownCommand

/-- Reads a command line. -/
def Command.ofArguments : List String → Except Refusal Command
  | [] => .error .helpForMissing
  | s :: rest =>
    match Argument.ofString s with
    | .stop =>
      match rest with
      | [] => .error .helpForMissing
      | next :: _ =>
        .error (if next = "help" || (CommandName.ofString? next).isSome then
          .unknownArgument else .unknownCommand)
    | .long name value =>
      if name = "help" || name = "version" then
        .error (if value.isSome then .superfluousValue
          else if name = "help" then .help else .version)
      else
        .error .unknownArgument
    | .short letter =>
      .error (if letter = 'h' then .help else if letter = 'V' then .version
        else .unknownArgument)
    | .plain text =>
      if text = "help" then
        .error (helpOn rest)
      else
        match CommandName.ofString? text with
        | none => .error .unknownCommand
        | some command =>
          (readSettings command false {} rest).map fun settings => command.command settings

end Omci.CommandLine
