import Offside.Text.Blank

/-!
# Levels of indentation

The width of a line is the room that its leading blanks take. The first line that is indented while
the level is `0` fixes the unit, the width of one level, and deeper lines must be multiples of it. A
line that fits no level is ambiguous and keeps the level of the line before it.
-/

namespace Offside.Indentation

/-- The room that blanks take: a tab counts twice, and a carriage return not at all. -/
def width (blanks : List Char) : Nat := blanks.count ' ' + 2 * blanks.count '\t'

inductive Reading where
  /-- Nothing: the line holds blanks and perhaps a comment. -/
  | blank
  /-- The width is no multiple of `unit`. The leading blanks are `run` characters long. -/
  | ambiguous (width unit run : Nat)
  | level (previous current : Nat)
deriving DecidableEq, Repr

/-- The current level, and the unit once it has been fixed. The unit is kept when the level returns
to `0`, until the next indented line replaces it. -/
structure Gauge where
  level : Nat := 0
  unit : Nat := 0
deriving DecidableEq, Repr

namespace Gauge

/-- Enters a line of the given width. Odd widths fit no level, and where no level is open they are
measured against the least unit. -/
def enter (gauge : Gauge) (width run : Nat) : Reading × Gauge :=
  if width = 0 then
    (.level gauge.level 0, { gauge with level := 0 })
  else if width % 2 ≠ 0 then
    (.ambiguous width (if gauge.level = 0 then 2 else gauge.unit) run, gauge)
  else if gauge.level = 0 then
    (.level 0 1, ⟨1, width⟩)
  else if width % gauge.unit ≠ 0 then
    (.ambiguous width gauge.unit run, gauge)
  else
    (.level gauge.level (width / gauge.unit), { gauge with level := width / gauge.unit })

def measure (gauge : Gauge) (line : List Char) : Reading × Gauge :=
  let blanks := Text.leadingBlanks line
  if Text.atLineEnd (line.drop blanks.length) then (.blank, gauge)
  else gauge.enter (width blanks) blanks.length

def close (gauge : Gauge) : Nat × Gauge := (gauge.level, { gauge with level := 0 })

end Gauge

end Offside.Indentation
