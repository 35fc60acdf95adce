/-!
# Arguments of the command line

The command takes one file and two flags, in any order. The arguments are read from left to right,
and the first one that asks for help or for the version, or that fits nowhere, decides.
-/

namespace Offside.CommandLine

inductive UsageError where
  | unexpectedArgument (argument : String)
  | repeatedFlag (flag : String)
  | unexpectedValue (argument : String)
  | emptyFile
  | missingFile
deriving DecidableEq, Repr

def UsageError.message : UsageError → String
  | unexpectedArgument argument => "unexpected argument '" ++ argument ++ "'"
  | repeatedFlag flag => "the flag '" ++ flag ++ "' stands twice"
  | unexpectedValue argument => "a flag takes no value, as in '" ++ argument ++ "'"
  | emptyFile => "the name of the file is empty"
  | missingFile => "the file is missing"

structure Flags where
  trivia : Bool := false
  allowAmbiguous : Bool := false
deriving DecidableEq, Repr

inductive Request where
  | dump (file : String) (flags : Flags)
  | version
  | help
  | usage (error : UsageError)
deriving DecidableEq, Repr

structure Settings where
  file : Option String := none
  flags : Flags := {}
deriving DecidableEq, Repr

namespace Settings

def setFile (settings : Settings) (argument : String) : Except Request Settings :=
  match settings.file with
  | some _ => .error (.usage (.unexpectedArgument argument))
  | none =>
    if argument = "" then .error (.usage .emptyFile)
    else .ok { settings with file := some argument }

def setTrivia (settings : Settings) : Except Request Settings :=
  if settings.flags.trivia then .error (.usage (.repeatedFlag "--trivia"))
  else .ok { settings with flags := { settings.flags with trivia := true } }

def setAllowAmbiguous (settings : Settings) : Except Request Settings :=
  if settings.flags.allowAmbiguous then
    .error (.usage (.repeatedFlag "--allow-ambiguous-indentation"))
  else .ok { settings with flags := { settings.flags with allowAmbiguous := true } }

def longNames : List String :=
  ["--trivia", "--allow-ambiguous-indentation", "--version", "--help"]

/-- Reads an argument that starts with two dashes. A name that is followed by an equals sign would
take a value, and none does. -/
def setLong (settings : Settings) (argument : String) : Except Request Settings :=
  if argument = "--trivia" then settings.setTrivia
  else if argument = "--allow-ambiguous-indentation" then settings.setAllowAmbiguous
  else if argument = "--version" then .error .version
  else if argument = "--help" then .error .help
  else if longNames.contains (String.ofList (argument.toList.takeWhile (· != '='))) then
    .error (.usage (.unexpectedValue argument))
  else .error (.usage (.unexpectedArgument argument))

/-- What an argument of one dash and letters asks for. The first letter decides. -/
def shortRequest (argument : String) (letter : Char) : Request :=
  if letter = 'V' then .version
  else if letter = 'h' then .help
  else .usage (.unexpectedArgument argument)

/-- Reads one argument. A dash on its own is the name of a file. -/
def set (settings : Settings) (argument : String) : Except Request Settings :=
  match argument.toList with
  | '-' :: '-' :: _ => settings.setLong argument
  | '-' :: letter :: _ => .error (shortRequest argument letter)
  | _ => settings.setFile argument

def read (settings : Settings) : List String → Except Request Settings
  | [] => .ok settings
  | argument :: others =>
    if argument = "--" then others.foldlM setFile settings
    else
      match settings.set argument with
      | .ok next => next.read others
      | .error request => .error request

end Settings

def Request.ofArguments (arguments : List String) : Request :=
  match Settings.read {} arguments with
  | .error request => request
  | .ok settings =>
    match settings.file with
    | some file => .dump file settings.flags
    | none => .usage .missingFile

end Offside.CommandLine
