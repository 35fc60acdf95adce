/-!
# Integer types

An integer literal has one of four types, signed or unsigned with 32 or 64 bits, which a suffix may
name.
-/

namespace Offside

inductive IntegerType where
  | int32
  | int64
  | uint32
  | uint64
deriving DecidableEq, Repr

namespace IntegerType

def suffix : IntegerType → String
  | int32 => "i32"
  | int64 => "i64"
  | uint32 => "u32"
  | uint64 => "u64"

/-- The least number above all values of the type. A sign leaves half of them. -/
def bound : IntegerType → Nat
  | int32 => UInt32.size / 2
  | int64 => UInt64.size / 2
  | uint32 => UInt32.size
  | uint64 => UInt64.size

def all : List IntegerType := [int32, int64, uint32, uint64]

def ofSuffix? (suffix : String) : Option IntegerType := all.find? (·.suffix == suffix)

theorem ofSuffix?_eq_some_iff {suffix : String} {type : IntegerType} :
    ofSuffix? suffix = some type ↔ type.suffix = suffix := by
  constructor
  · intro h
    simpa using List.find?_some h
  · rintro rfl
    cases type <;> decide +kernel

end IntegerType

end Offside
