import Offside.Staging

/-!
# Counts of bounded size

A count is held in a word of the machine. As long as it fits, a sum is what it is anywhere; a sum
that does not fit ends the run or is wrapped, which is a choice of the build. In a pass all counts
are lengths within the text, so there the operations of a staging need no bound. Here they are for
counts that come from elsewhere.
-/

namespace Offside

/-- How counts are added: a word holds the numbers below the limit. -/
structure Counting where
  limit : Nat
  wraps : Bool
deriving DecidableEq, Repr

namespace Counting

def checked : Counting := ⟨UInt64.size, false⟩

def wrapping : Counting := ⟨UInt64.size, true⟩

variable (counting : Counting) (first second : Nat)

def add : Option Nat :=
  if first + second < counting.limit then some (first + second)
  else if counting.wraps then some ((first + second) % counting.limit)
  else none

def subtract : Option Nat :=
  if counting.wraps then some (((first : Int) - second) % counting.limit).toNat
  else if second ≤ first then some (first - second)
  else none

end Counting

namespace Token

variable (counting : Counting) (token : Token)

def content? : Option Span := do
  let start ← counting.add token.span.start token.leading
  let stop ← counting.subtract token.span.stop token.trailing
  return ⟨start, stop⟩

def extend? (count : Nat) : Option Token := do
  let trailing ← counting.add token.trailing count
  let stop ← counting.add token.span.stop count
  return { token with span := ⟨token.span.start, stop⟩, trailing }

end Token

namespace Staging

variable (counting : Counting) (staging : Staging)

def keep? (count : Nat) : Option Staging := do
  let pending ← counting.add staging.pending count
  return { staging with pending }

def replace (index : Nat) (token : Token) : Staging :=
  { staging with tokens := staging.tokens.setIfInBounds index token }

def addTrivia? (count : Nat) : Option Staging :=
  match staging.owner with
  | some index =>
    match staging.tokens[index]? with
    | some token => (token.extend? counting count).map (staging.replace index)
    | none => staging.keep? counting count
  | none => staging.keep? counting count

/-- Gives what is left at the end of the text to the last token that is no change of indentation, if
that token ends where the trivia starts. The answer is whether nothing is left over. -/
def settleTrailing? (endOfText : Nat) : Option (Bool × Staging) :=
  if staging.pending = 0 then some (true, staging)
  else
    match lastLiteral? staging.tokens staging.tokens.size with
    | none => some (false, staging)
    | some index =>
      match staging.tokens[index]? with
      | none => some (false, staging)
      | some token => do
        let stop ← counting.add token.span.stop staging.pending
        if stop = endOfText then
          let grown ← token.extend? counting staging.pending
          return (true, { staging.replace index grown with pending := 0 })
        else return (false, staging)

end Staging

end Offside
