/-!
# Keywords

Some words are reserved. A few more are keywords only where the grammar expects them, and are
identifiers with a tag until then.
-/

namespace Offside

inductive Keyword where
  | kwThis
  | kwSuper
  | kwIs
  | kwElse
  | kwFor
  | kwIn
  | kwWhile
  | kwDef
  | kwVar
  | kwVal
  | kwReturn
  | kwBreak
  | kwContinue
  | kwAbstract
  | kwVirtual
  | kwOverride
  | kwNative
deriving DecidableEq, Repr

namespace Keyword

def text : Keyword → String
  | kwThis => "this"
  | kwSuper => "super"
  | kwIs => "is"
  | kwElse => "else"
  | kwFor => "for"
  | kwIn => "in"
  | kwWhile => "while"
  | kwDef => "def"
  | kwVar => "var"
  | kwVal => "val"
  | kwReturn => "return"
  | kwBreak => "break"
  | kwContinue => "continue"
  | kwAbstract => "abstract"
  | kwVirtual => "virtual"
  | kwOverride => "override"
  | kwNative => "native"

def all : List Keyword :=
  [kwThis, kwSuper, kwIs, kwElse, kwFor, kwIn, kwWhile, kwDef, kwVar, kwVal, kwReturn, kwBreak,
   kwContinue, kwAbstract, kwVirtual, kwOverride, kwNative]

def ofText? (word : String) : Option Keyword := all.find? (·.text == word)

theorem ofText?_eq_some_iff {word : String} {keyword : Keyword} :
    ofText? word = some keyword ↔ keyword.text = word := by
  constructor
  · intro h
    simpa using List.find?_some h
  · rintro rfl
    cases keyword <;> decide +kernel

end Keyword

/-- The words that the grammar reserves in certain places only. -/
inductive ContextualKeyword where
  | kwClass
  | kwObject
  | kwInterface
  | kwNull
deriving DecidableEq, Repr

namespace ContextualKeyword

def text : ContextualKeyword → String
  | kwClass => "class"
  | kwObject => "object"
  | kwInterface => "interface"
  | kwNull => "null"

def all : List ContextualKeyword := [kwClass, kwObject, kwInterface, kwNull]

def ofText? (word : String) : Option ContextualKeyword := all.find? (·.text == word)

theorem ofText?_eq_some_iff {word : String} {keyword : ContextualKeyword} :
    ofText? word = some keyword ↔ keyword.text = word := by
  constructor
  · intro h
    simpa using List.find?_some h
  · rintro rfl
    cases keyword <;> decide +kernel

end ContextualKeyword

end Offside
