import Offside.Proofs.Join

/-!
# Places in a text

The place of a character, from what stands in front of it and what follows. The lines in front of
its own end with the line feeds there, and its own line starts behind the last of them and goes up
to the next one. So the place can be told without any search through the lines, and there is one for
each position in front of the end.
-/

namespace Offside.Text

def lineNumber (text : List Char) (position : Nat) : Nat := (text.take position).count '\n' + 1

def column (text : List Char) (position : Nat) : Nat := (lastLine (text.take position)).length

def lineAt (text : List Char) (position : Nat) : List Char :=
  lastLine (text.take position) ++ (text.drop position).takeWhile (· != '\n')

def feedAt (text : List Char) (position : Nat) : List Char :=
  if '\n' ∈ text.drop position then ['\n'] else []

theorem feedAt_cases (text : List Char) (position : Nat) :
    feedAt text position = [] ∨ feedAt text position = ['\n'] := by
  unfold feedAt
  split_ifs
  · exact .inr rfl
  · exact .inl rfl

theorem lineFeed_not_mem_lineAt (text : List Char) (position : Nat) :
    '\n' ∉ lineAt text position := by
  intro hmem
  rcases List.mem_append.1 hmem with hfront | hback
  · exact not_mem_lastLine _ hfront
  · simpa using List.mem_takeWhile_imp hback

theorem exists_append_lastLine {text : List Char} (h : '\n' ∈ text) :
    ∃ front, text = front ++ '\n' :: lastLine text := by
  induction text with
  | nil => cases h
  | cons c rest ih =>
    rw [lastLine, if_pos h]
    by_cases hrest : '\n' ∈ rest
    · obtain ⟨front, hfront⟩ := ih hrest
      refine ⟨c :: front, ?_⟩
      rw [List.cons_append, ← hfront]
    · have hc : c = '\n' := ((List.mem_cons.1 h).resolve_right hrest).symm
      exact ⟨[], by rw [lastLine_eq_self hrest, hc, List.nil_append]⟩

/-! ### The first line -/

theorem take_lineLength (text : List Char) :
    text.take (lineLength text) =
      text.takeWhile (· != '\n') ++ if '\n' ∈ text then ['\n'] else [] := by
  induction text with
  | nil => rfl
  | cons c rest ih =>
    rw [lineLength]
    by_cases hfeed : c = '\n'
    · simp [hfeed]
    · have hmem : '\n' ∈ c :: rest ↔ '\n' ∈ rest := by
        simp [Ne.symm hfeed]
      rw [if_neg hfeed, List.take_succ_cons, ih, List.takeWhile_cons_of_pos (by simpa using hfeed),
        List.cons_append]
      simp only [hmem]

theorem lineLength_pos {text : List Char} (h : text ≠ []) : 0 < lineLength text := by
  cases text with
  | nil => exact absurd rfl h
  | cons c rest =>
    rw [lineLength]
    split_ifs <;> omega

theorem lines_eq_cons {text : List Char} (h : text ≠ []) :
    lines text = text.take (lineLength text) :: lines (text.drop (lineLength text)) := by
  induction text with
  | nil => exact absurd rfl h
  | cons c rest ih =>
    rw [lines, lineLength]
    split_ifs with hfeed
    · rfl
    · cases rest with
      | nil => rfl
      | cons d others =>
        rw [ih (List.cons_ne_nil d others)]
        rfl

/-! ### Any line -/

theorem placeIn?_append (number : Nat) (before : List Char) {after : List Char} (h : after ≠ []) :
    placeIn? number before.length (lines (before ++ after)) =
      some ⟨before.count '\n' + number, lastLine before ++ after.take (lineLength after),
        (lastLine before).length⟩ := by
  by_cases hfeed : '\n' ∈ before
  · obtain ⟨line, rest, hsplit, hline⟩ := List.eq_append_cons_of_mem hfeed
    have hlength : before.length = (line ++ ['\n']).length + rest.length := by
      rw [hsplit, List.append_cons, List.length_append]
    have hcount : before.count '\n' = rest.count '\n' + 1 := by
      rw [hsplit, List.count_append, List.count_eq_zero_of_not_mem hline, List.count_cons_self,
        Nat.zero_add]
    have hlast : lastLine before = lastLine rest := by
      rw [hsplit, lastLine_append_lineFeed]
    have hlines : lines (before ++ after) = (line ++ ['\n']) :: lines (rest ++ after) := by
      rw [hsplit, List.append_assoc, List.cons_append, lines_append_lineFeed hline]
    have hbehind : ¬before.length < (line ++ ['\n']).length := by
      omega
    -- The first line is passed as a whole, and what is behind it is shorter.
    have hrest := placeIn?_append (number + 1) rest h
    rw [hlines, placeIn?, if_neg hbehind, hlength, Nat.add_sub_cancel_left, hrest, hcount, hlast,
      Nat.add_right_comm, Nat.add_assoc]
  · have hne : before ++ after ≠ [] := by
      simp [h]
    have htake : (before ++ after).take (lineLength (before ++ after)) =
        before ++ after.take (lineLength after) := by
      rw [lineLength_append hfeed, List.take_length_add_append]
    have hpos : 0 < lineLength after := lineLength_pos h
    have hlt : before.length < (before ++ after.take (lineLength after)).length := by
      have hpos' := List.length_pos_iff.2 h
      rw [List.length_append, List.length_take]
      omega
    rw [lines_eq_cons hne, htake, placeIn?, if_pos hlt, lastLine_eq_self hfeed,
      List.count_eq_zero_of_not_mem hfeed, Nat.zero_add]
termination_by before.length
decreasing_by
  rw [hlength, List.length_append, List.length_singleton]
  omega

theorem place?_of_lt {text : List Char} {position : Nat} (h : position < text.length) :
    place? text position = some ⟨lineNumber text position,
      lineAt text position ++ feedAt text position, column text position⟩ := by
  have hne : text.drop position ≠ [] := by
    rw [ne_eq, List.drop_eq_nil_iff]
    omega
  have hplace := placeIn?_append 1 (text.take position) hne
  rw [List.take_append_drop, List.length_take_of_le (Nat.le_of_lt h), take_lineLength,
    ← List.append_assoc] at hplace
  exact hplace

/-! ### Starts of lines -/

variable {text : List Char} {position later : Nat}

structure IsLineStart (text : List Char) (position start : Nat) : Prop where
  le : start ≤ position
  behind : start = 0 ∨ ∃ feed, start = feed + 1 ∧ text[feed]? = some '\n'
  between : ∀ index, start ≤ index → index < position → text[index]? ≠ some '\n'

theorem IsLineStart.le_of_isLineStart {start other : Nat} (hstart : IsLineStart text position start)
    (hother : IsLineStart text position other) : start ≤ other := by
  rcases hstart.behind with rfl | ⟨feed, rfl, hfeed⟩
  · exact Nat.zero_le other
  · by_contra hlt
    have hle := hstart.le
    exact hother.between feed (by omega) (by omega) hfeed

theorem IsLineStart.eq {start other : Nat} (hstart : IsLineStart text position start)
    (hother : IsLineStart text position other) : start = other :=
  Nat.le_antisymm (hstart.le_of_isLineStart hother) (hother.le_of_isLineStart hstart)

theorem column_le (text : List Char) (position : Nat) : column text position ≤ position :=
  (lastLine_suffix _).length_le.trans (List.length_take_le position text)

theorem take_sub_column (h : position ≤ text.length) :
    text.take (position - column text position) ++ lastLine (text.take position) =
      text.take position := by
  have hsplit := List.suffix_iff_eq_append.1 (lastLine_suffix (text.take position))
  rw [List.length_take_of_le h, List.take_take, Nat.min_eq_left (Nat.sub_le _ _)] at hsplit
  exact hsplit

theorem drop_sub_column (h : position ≤ text.length) :
    text.drop (position - column text position) =
      lastLine (text.take position) ++ text.drop position := by
  apply (List.append_right_inj (text.take (position - column text position))).1
  rw [← List.append_assoc, take_sub_column h, List.take_append_drop, List.take_append_drop]

theorem isLineStart_sub_column (h : position ≤ text.length) :
    IsLineStart text position (position - column text position) := by
  have hle := column_le text position
  refine ⟨Nat.sub_le _ _, ?behind, ?between⟩
  case behind =>
    by_cases hfeed : '\n' ∈ text.take position
    · obtain ⟨front, hfront⟩ := exists_append_lastLine hfeed
      have hlength := congrArg List.length hfront
      rw [List.length_take_of_le h, List.length_append, List.length_cons, ← column] at hlength
      have hget : (text.take position)[front.length]? = some '\n' := by
        rw [hfront]
        simp
      rw [List.getElem?_take_of_lt (by omega)] at hget
      exact .inr ⟨front.length, by omega, hget⟩
    · left
      rw [column, lastLine_eq_self hfeed, List.length_take_of_le h, Nat.sub_self]
  case between =>
    intro index hge hlt hfeed
    have hget : (text.drop (position - column text position))[
        index - (position - column text position)]? = some '\n' := by
      rw [List.getElem?_drop, Nat.add_sub_cancel' hge, hfeed]
    rw [drop_sub_column h, List.getElem?_append_left (by rw [← column]; omega)] at hget
    exact not_mem_lastLine _ (List.mem_of_getElem? hget)

theorem count_take_eq_iff (h : position ≤ later) :
    (text.take position).count '\n' = (text.take later).count '\n' ↔
      ∀ index, position ≤ index → index < later → text[index]? ≠ some '\n' := by
  obtain ⟨length, rfl⟩ := Nat.exists_eq_add_of_le h
  rw [List.take_add, List.count_append, Nat.left_eq_add, List.count_eq_zero]
  constructor
  · intro hmem index hge hlt hfeed
    apply hmem
    apply List.mem_of_getElem? (i := index - position)
    rw [List.getElem?_take_of_lt (by omega), List.getElem?_drop, Nat.add_sub_cancel' hge, hfeed]
  · intro hnone hmem
    obtain ⟨index, hindex⟩ := List.mem_iff_getElem?.1 hmem
    rw [List.getElem?_take, List.getElem?_drop] at hindex
    split_ifs at hindex with hlt
    exact hnone (position + index) (by omega) (by omega) hindex

theorem IsLineStart.count_eq_iff {start other : Nat} (hle : position ≤ later)
    (hstart : IsLineStart text position start) (hother : IsLineStart text later other) :
    (text.take position).count '\n' = (text.take later).count '\n' ↔ start = other := by
  rw [count_take_eq_iff hle]
  constructor
  · intro hnone
    have hsame : IsLineStart text later start := by
      refine ⟨hstart.le.trans hle, hstart.behind, ?_⟩
      intro index hge hlt
      by_cases hfront : index < position
      · exact hstart.between index hge hfront
      · exact hnone index (Nat.le_of_not_lt hfront) hlt
    exact hsame.eq hother
  · rintro rfl index hge hlt
    exact hother.between index (hstart.le.trans hge) hlt

/-! ### Whole lines -/

/-- The longest slice from the start on that has no line feed but perhaps at its end. -/
structure IsLine (text : List Char) (start : Nat) (line : List Char) : Prop where
  slice : line <+: text.drop start
  feed : '\n' ∉ line.dropLast
  longest : ∀ other, other <+: text.drop start → '\n' ∉ other.dropLast →
    other.length ≤ line.length

theorem IsLine.eq {start : Nat} {line other : List Char} (hline : IsLine text start line)
    (hother : IsLine text start other) : line = other := by
  have hle := hline.longest other hother.slice hother.feed
  have hge := hother.longest line hline.slice hline.feed
  exact (List.prefix_of_prefix_length_le hline.slice hother.slice hge).eq_of_length_le hle

theorem length_le_lineLength {slice : List Char} (hslice : slice <+: text)
    (hfeed : '\n' ∉ slice.dropLast) : slice.length ≤ lineLength text := by
  induction text generalizing slice with
  | nil => rw [List.prefix_nil.1 hslice, lineLength, List.length_nil]
  | cons c rest ih =>
    rw [lineLength]
    cases slice with
    | nil => exact Nat.zero_le _
    | cons d others =>
      obtain ⟨rfl, hothers⟩ := List.cons_prefix_cons.1 hslice
      cases others with
      | nil => split_ifs <;> simp
      | cons e others =>
        rw [List.dropLast_cons_cons, List.mem_cons, not_or] at hfeed
        rw [if_neg (Ne.symm hfeed.1), List.length_cons]
        exact Nat.succ_le_succ (ih hothers hfeed.2)

theorem not_mem_dropLast_take_lineLength (text : List Char) :
    '\n' ∉ (text.take (lineLength text)).dropLast := by
  have hrow : '\n' ∉ text.takeWhile (· != '\n') := by
    intro hmem
    simpa using List.mem_takeWhile_imp hmem
  rw [take_lineLength]
  split_ifs
  · rwa [List.dropLast_concat]
  · rw [List.append_nil]
    exact fun hmem => hrow ((List.dropLast_prefix _).mem hmem)

theorem isLine_take_lineLength (text : List Char) (start : Nat) :
    IsLine text start ((text.drop start).take (lineLength (text.drop start))) := by
  refine ⟨List.take_prefix _ _, not_mem_dropLast_take_lineLength _, ?_⟩
  intro other hother hfeed
  rw [List.length_take_of_le (lineLength_le _)]
  exact length_le_lineLength hother hfeed

/-! ### The search for a place -/

/-- The place of the position: the number of its line, counted from the line feeds in front of it,
how far behind the start of the line it lies, and the whole line. -/
structure Place.IsOf (place : Place) (text : List Char) (position : Nat) : Prop where
  number_eq : place.number = (text.take position).count '\n' + 1
  column_le : place.column ≤ position
  start : IsLineStart text position (position - place.column)
  line : IsLine text (position - place.column) place.line
  char : ∃ c, text[position]? = some c ∧ place.line[place.column]? = some c

theorem Place.IsOf.lt {place : Place} (h : place.IsOf text position) : position < text.length := by
  obtain ⟨c, hc, -⟩ := h.char
  exact (List.getElem?_eq_some_iff.1 hc).1

theorem Place.IsOf.eq {place other : Place} (hplace : place.IsOf text position)
    (hother : other.IsOf text position) : place = other := by
  have hstart := hplace.start.eq hother.start
  have hline := hplace.line
  rw [hstart] at hline
  have hcolumn : place.column = other.column := by
    have hle := hplace.column_le
    have hle' := hother.column_le
    omega
  have hnumber : place.number = other.number := by
    rw [hplace.number_eq, hother.number_eq]
  cases place
  cases other
  simp only [Place.mk.injEq]
  exact ⟨hnumber, hline.eq hother.line, hcolumn⟩

theorem lineAt_append_feedAt (h : position ≤ text.length) :
    lineAt text position ++ feedAt text position =
      (text.drop (position - column text position)).take
        (lineLength (text.drop (position - column text position))) := by
  rw [lineAt, feedAt, List.append_assoc, ← take_lineLength, drop_sub_column h,
    lineLength_append (not_mem_lastLine _), List.take_length_add_append]

theorem isOf_lineAt (h : position < text.length) :
    Place.IsOf ⟨lineNumber text position, lineAt text position ++ feedAt text position,
      column text position⟩ text position := by
  refine ⟨rfl, column_le text position, isLineStart_sub_column h.le, ?line, text[position],
    List.getElem?_eq_getElem h, ?char⟩
  case line =>
    rw [lineAt_append_feedAt h.le]
    exact isLine_take_lineLength text _
  case char =>
    rw [lineAt, List.append_assoc, column, List.getElem?_append_right (Nat.le_refl _), Nat.sub_self,
      feedAt, ← take_lineLength]
    have hpos : 0 < lineLength (text.drop position) := lineLength_pos (by simpa using h)
    rw [List.getElem?_take_of_lt hpos, List.getElem?_drop, Nat.add_zero, List.getElem?_eq_getElem h]

theorem placeIn?_eq_none_iff {number : Nat} {lines : List (List Char)} :
    placeIn? number position lines = none ↔ lines.flatten.length ≤ position := by
  induction lines generalizing number position with
  | nil => simp [placeIn?]
  | cons line others ih =>
    rw [placeIn?, List.flatten_cons, List.length_append]
    split_ifs with hlt
    · simp only [false_iff]
      omega
    · rw [ih]
      omega

theorem place?_eq_none_iff : place? text position = none ↔ text.length ≤ position := by
  rw [place?, placeIn?_eq_none_iff, flatten_lines]

theorem place?_eq_some_iff {place : Place} :
    place? text position = some place ↔ place.IsOf text position := by
  constructor
  · intro h
    have hlt : position < text.length := by
      apply Nat.lt_of_not_le
      rw [← place?_eq_none_iff, h]
      exact Option.some_ne_none place
    rw [place?_of_lt hlt, Option.some.injEq] at h
    exact h ▸ isOf_lineAt hlt
  · intro h
    rw [place?_of_lt h.lt, h.eq (isOf_lineAt h.lt)]

theorem Place.IsOf.number_le {place other : Place} (hplace : place.IsOf text position)
    (hother : other.IsOf text later) (hle : position ≤ later) : place.number ≤ other.number := by
  rw [hplace.number_eq, hother.number_eq]
  exact Nat.succ_le_succ ((List.take_prefix_take_left hle).sublist.count_le '\n')

theorem Place.IsOf.number_eq_iff {place other : Place} (hplace : place.IsOf text position)
    (hother : other.IsOf text later) (hle : position ≤ later) :
    place.number = other.number ↔ position - place.column = later - other.column := by
  rw [hplace.number_eq, hother.number_eq, Nat.add_right_cancel_iff]
  exact hplace.start.count_eq_iff hle hother.start

/-- The search finds the place of each position in front of the end, and nothing else. The numbers
of the lines go up with the positions, and they tell the lines apart. -/
theorem place?_exact (text : List Char) (position : Nat) :
    (place? text position = none ↔ text.length ≤ position) ∧
      (∀ place, place? text position = some place ↔ place.IsOf text position) ∧
      ∀ later place other, position ≤ later → place? text position = some place →
        place? text later = some other →
          place.number ≤ other.number ∧
            (place.number = other.number ↔ position - place.column = later - other.column) := by
  refine ⟨place?_eq_none_iff, fun _ => place?_eq_some_iff, ?_⟩
  intro later place other hle hplace hother
  rw [place?_eq_some_iff] at hplace hother
  exact ⟨hplace.number_le hother hle, hplace.number_eq_iff hother hle⟩

/-- A line feed lies in the line that it ends, and a line may hold nothing else. -/
theorem place?_exact_empty_line :
    place? ['a', '\n', '\n', 'b'] 1 = some ⟨1, ['a', '\n'], 1⟩ ∧
      place? ['a', '\n', '\n', 'b'] 2 = some ⟨2, ['\n'], 0⟩ ∧ 1 ≤ 2 ∧ (1 = 2 ↔ 1 - 1 = 2 - 0) := by
  have hplace : place? ['a', '\n', '\n', 'b'] 1 = some ⟨1, ['a', '\n'], 1⟩ := by
    decide
  have hother : place? ['a', '\n', '\n', 'b'] 2 = some ⟨2, ['\n'], 0⟩ := by
    decide
  exact ⟨hplace, hother, (place?_exact _ 1).2.2 2 _ _ (Nat.le_succ 1) hplace hother⟩

end Offside.Text
