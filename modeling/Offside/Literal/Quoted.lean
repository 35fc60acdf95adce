import Offside.Diagnostic
import Offside.Text.Escape
import Offside.Token.Kind

/-!
# Quoted literals

Both kinds of quotes hold the same escapes. Single quotes enclose exactly one character.
-/

namespace Offside.Literal

def decodeBody (body : String) : Except Fault String :=
  match Text.decode body.toList with
  | .ok text => .ok (String.ofList text)
  | .error bad => .error (.invalidEscape (String.ofList bad))

def string (body : String) : Except Fault TokenKind :=
  (decodeBody body).map .string

def rune (body : String) : Except Fault TokenKind :=
  match decodeBody body with
  | .error fault => .error fault
  | .ok text =>
    match text.toList with
    | [c] => .ok (.rune c)
    | _ => .error (.invalidRune body)

def quoted : Text.Quote → String → Except Fault TokenKind
  | .double => string
  | .single => rune

def unterminated : Text.Quote → Fault
  | .double => .unterminatedString
  | .single => .unterminatedRune

end Offside.Literal
