import Offside.Token

/-!
# Tokens and the trivia between them

While a token is the owner, blanks and comments extend its trailing trivia. Otherwise they are
pending, until the next token takes them as its leading trivia. No character of trivia is counted
twice.
-/

namespace Offside

/-- The tokens so far, the trivia that no token has yet, and the index of the token that owns what
follows. -/
structure Staging where
  tokens : Array Token := #[]
  pending : Nat := 0
  owner : Option Nat := none
deriving DecidableEq, Repr

namespace Staging

def push (staging : Staging) (token : Token) : Staging :=
  { staging with tokens := staging.tokens.push token }

def setOwner (staging : Staging) (index : Nat) : Staging :=
  { staging with owner := some index }

def clearOwner (staging : Staging) : Staging :=
  { staging with owner := none }

/-- Gives `count` characters of trivia to the owner, or keeps them pending if there is no such
token. -/
def addTrivia (staging : Staging) (count : Nat) : Staging :=
  match staging.owner with
  | some index =>
    if index < staging.tokens.size then
      { staging with tokens := staging.tokens.modify index (·.extend count) }
    else
      { staging with pending := staging.pending + count }
  | none => { staging with pending := staging.pending + count }

def takePending (staging : Staging) : Nat × Staging :=
  (staging.pending, { staging with pending := 0 })

/-- The index of the last one of the first `count` tokens that is no change of indentation. -/
def lastLiteral? (tokens : Array Token) : Nat → Option Nat
  | 0 => none
  | count + 1 =>
    if (tokens[count]?).any (!·.isIndentation) then some count
    else lastLiteral? tokens count

/-- Gives the trivia that is left at the end of the text to the last token that is no change of
indentation. Nothing is given across a gap: the token has to end where the trivia starts. The answer
is whether nothing is left over. -/
def settleTrailing (staging : Staging) (endOfText : Nat) : Bool × Staging :=
  if staging.pending = 0 then (true, staging)
  else
    match lastLiteral? staging.tokens staging.tokens.size with
    | none => (false, staging)
    | some index =>
      if (staging.tokens[index]?).any (·.span.stop + staging.pending = endOfText) then
        (true,
          { staging with
            tokens := staging.tokens.modify index (·.extend staging.pending)
            pending := 0 })
      else (false, staging)

end Staging

end Offside
