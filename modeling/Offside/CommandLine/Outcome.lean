import Offside.CommandLine.Arguments
import Offside.Diagnostic.Report
import Offside.Tokenize

/-!
# What the command does

The command writes the tokens of a file, one on a line, and apart from them a report for each
diagnostic. It fails if the file cannot be read or holds an error.
-/

namespace Offside.CommandLine

inductive ReadFailure where
  | missing
  | directory
  | malformed
  | other (reason : String)
deriving DecidableEq, Repr

def ReadFailure.message : ReadFailure → String
  | missing => "No such file or directory (os error 2)"
  | directory => "Is a directory (os error 21)"
  | malformed => "stream did not contain valid UTF-8"
  | other reason => reason

/-- What a run of the command leaves behind. -/
structure Outcome where
  exitCode : UInt32
  output : String
  errors : String
deriving DecidableEq, Repr

def decodeFile (bytes : ByteArray) : Except ReadFailure String :=
  match String.fromUTF8? bytes with
  | some text => .ok text
  | none => .error .malformed

def tokenLine (flags : Flags) (token : Token) (isPrintable : Char → Bool := Text.isPrintable) :
    String :=
  token.render isPrintable
    ++ (if flags.trivia then
        " (leading " ++ toString token.leading ++ ", trailing " ++ toString token.trailing ++ ")"
      else "")
    ++ "\n"

/-- The reports of a text, up to the first one that cannot be drawn. -/
def reports (file text : String) (diagnostics : List Diagnostic)
    (isPrintable : Char → Bool := Text.isPrintable) : String :=
  String.join ((diagnostics.takeWhile (·.fits text)).map fun diagnostic =>
    diagnostic.report text file isPrintable ++ "\n\n")

/-- The tokens and the reports of a text. A report that cannot be drawn ends the run, and what the
system writes about that is left out. -/
def dumpText (file text : String) (flags : Flags)
    (isPrintable : Char → Bool := Text.isPrintable) : Outcome :=
  let findings := tokenize text ⟨!flags.allowAmbiguous⟩
  { exitCode :=
      if findings.diagnostics.all (·.fits text) then if findings.hasErrors then 1 else 0
      else 101
    output := String.join (findings.tokens.map (tokenLine flags · isPrintable))
    errors := reports file text findings.diagnostics isPrintable }

def readFailed (file : String) (failure : ReadFailure) : Outcome :=
  { exitCode := 1
    output := ""
    errors := "Error: Failed to read " ++ file ++ "\n\nCaused by:\n    " ++ failure.message
      ++ "\n" }

def dump (file : String) (flags : Flags) (content : Except ReadFailure ByteArray) : Outcome :=
  match content.bind decodeFile with
  | .ok text => dumpText file text flags
  | .error failure => readFailed file failure

def versionText : String := "indent-lexer 0.1.0\n"

def usageText : String := "Usage: indent-lexer [OPTIONS] <FILE>\n"

def helpText : String :=
  "Tokenize a source file and print the token stream\n\n" ++ usageText
    ++ "\nArguments:\n  <FILE>  Source file to tokenize\n\nOptions:\n"
    ++ "      --trivia                       "
    ++ "Print leading and trailing trivia counts for each token\n"
    ++ "      --allow-ambiguous-indentation  "
    ++ "Do not warn about indentation that is ignored\n"
    ++ "  -h, --help                         Print help\n"
    ++ "  -V, --version                      Print version\n"

def usageFailed (error : UsageError) : Outcome :=
  { exitCode := 2
    output := ""
    errors := "error: " ++ error.message ++ "\n\n" ++ usageText }

/-- Runs the command on its arguments. At most one file is read. What a logger may be told to write
among the errors (`RUST_LOG`) is left out. -/
def run {m : Type → Type} [Monad m] (readFile : String → m (Except ReadFailure ByteArray))
    (arguments : List String) : m Outcome :=
  match Request.ofArguments arguments with
  | .dump file flags => dump file flags <$> readFile file
  | .version => pure ⟨0, versionText, ""⟩
  | .help => pure ⟨0, helpText, ""⟩
  | .usage error => pure (usageFailed error)

end Offside.CommandLine
