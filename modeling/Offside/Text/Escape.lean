import Offside.Text.Hex

/-!
# Escapes

The body of a quoted literal is a row of plain characters and escapes. An escape is a backslash with
one of seven letters and marks, with `x` and two digits for a character of ASCII, or with `u` and up
to six digits in braces for any character. Decoding goes from left to right and stops at the first
escape that names no character, of which it returns the part that was read.
-/

namespace Offside.Text

def namedEscape? (c : Char) : Option Char :=
  if c = 'n' then some '\n'
  else if c = 't' then some '\t'
  else if c = 'r' then some '\r'
  else if c = '0' then some '\x00'
  else if c = '\\' ∨ c = '"' ∨ c = '\'' then some c
  else none

def scalar? (point : Nat) : Option Char :=
  if h : point.isValidChar then some (Char.ofNatAux point h) else none

def readAsciiEscape (text : List Char) : Except (List Char) (Char × List Char) :=
  let digits := (text.take 2).takeWhile isHexDigit
  if digits.length = 2 ∧ ofHexDigits digits < 0x80 then
    .ok (Char.ofNat (ofHexDigits digits), text.drop 2)
  else
    .error ('x' :: digits)

/-- Reads the digits and the closing brace after a backslash, a `u` and an opening brace. -/
def readCodePointEscape (text : List Char) : Except (List Char) (Char × List Char) :=
  let digits := text.takeWhile isHexDigit
  let bad := 'u' :: '{' :: digits
  match text.dropWhile isHexDigit with
  | '}' :: rest =>
    if 1 ≤ digits.length ∧ digits.length ≤ 6 then
      match scalar? (ofHexDigits digits) with
      | some c => .ok (c, rest)
      | none => .error bad
    else
      .error bad
  | _ => .error bad

/-- Reads what follows a backslash: the character for which the escape stands, and the text behind
the escape. -/
def readEscape : List Char → Except (List Char) (Char × List Char)
  | [] => .error []
  | 'x' :: rest => readAsciiEscape rest
  | 'u' :: '{' :: rest => readCodePointEscape rest
  | 'u' :: _ => .error ['u']
  | c :: rest =>
    match namedEscape? c with
    | some decoded => .ok (decoded, rest)
    | none => .error [c]

theorem length_readAsciiEscape {text rest : List Char} {c : Char}
    (h : readAsciiEscape text = .ok (c, rest)) : rest.length ≤ text.length := by
  simp only [readAsciiEscape] at h
  split at h
  · obtain ⟨-, rfl⟩ := by simpa using h
    simp
  · simp at h

theorem length_readCodePointEscape {text rest : List Char} {c : Char}
    (h : readCodePointEscape text = .ok (c, rest)) : rest.length < text.length := by
  have hle := (List.dropWhile_sublist isHexDigit (l := text)).length_le
  simp only [readCodePointEscape] at h
  split at h
  next after heq =>
    rw [heq, List.length_cons] at hle
    split at h
    · split at h
      · obtain ⟨-, rfl⟩ := by simpa using h
        omega
      · simp at h
    · simp at h
  · simp at h

theorem length_readEscape {text rest : List Char} {c : Char}
    (h : readEscape text = .ok (c, rest)) : rest.length ≤ text.length := by
  unfold readEscape at h
  split at h
  · simp at h
  · exact Nat.le_succ_of_le (length_readAsciiEscape h)
  · exact Nat.le_succ_of_le (Nat.le_succ_of_le (Nat.le_of_lt (length_readCodePointEscape h)))
  · simp at h
  · split at h
    · obtain ⟨-, rfl⟩ := by simpa using h
      simp
    · simp at h

/-- Decodes the body of a quoted literal, or gives the first escape that names no character. -/
def decode : List Char → Except (List Char) (List Char)
  | [] => .ok []
  | c :: rest =>
    if c = '\\' then
      match _h : readEscape rest with
      | .ok (decoded, after) => (decode after).map (decoded :: ·)
      | .error bad => .error ('\\' :: bad)
    else
      (decode rest).map (c :: ·)
termination_by text => text.length
decreasing_by
  · exact Nat.lt_succ_of_le (length_readEscape _h)
  · simp

@[simp] theorem decode_nil : decode [] = .ok [] := by
  simp [decode]

theorem decode_cons {c : Char} (h : c ≠ '\\') (rest : List Char) :
    decode (c :: rest) = (decode rest).map (c :: ·) := by
  rw [decode, if_neg h]

theorem decode_escape {rest after : List Char} {c : Char} (h : readEscape rest = .ok (c, after)) :
    decode ('\\' :: rest) = (decode after).map (c :: ·) := by
  rw [decode, if_pos rfl, h]

theorem decode_bad_escape {rest bad : List Char} (h : readEscape rest = .error bad) :
    decode ('\\' :: rest) = .error ('\\' :: bad) := by
  rw [decode, if_pos rfl, h]

end Offside.Text
