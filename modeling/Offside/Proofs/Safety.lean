import Mathlib.Logic.Relation
import Offside.Proofs.Checked
import Offside.Proofs.Seams
import Offside.Proofs.Slice
import Offside.Proofs.Units

/-!
# A pass stays in bounds

Whatever the text, the checked pass gets to the end of it and to the same findings. What makes it
safe is an invariant: the place is in the text, a token that owns what follows is the last one and
ends at the place, and what is pending is trivia that stands right before the place or before the
literal that is being read.
-/

namespace Offside

open Indentation (Gauge)
open Text (Quote)

/-! ### Tokens and pending trivia -/

namespace Staging

/-- A token that owns what follows ends at the position, as the last one of all. Without an owner,
what is pending is the trivia right before the position. -/
structure Tracks (staging : Staging) (parts : List (Piece × Span)) (position : Nat) : Prop where
  owner : ∀ index, staging.owner = some index → index + 1 = staging.tokens.size ∧
    (∃ token, staging.tokens[index]? = some token ∧ token.span.stop = position) ∧
    staging.pending = 0
  trivia : staging.owner = none → staging.pending ≤ position ∧
    IsTriviaRun parts (position - staging.pending) position

variable {staging : Staging} {parts : List (Piece × Span)} {position : Nat}

theorem Tracks.addTrivia {count : Nat} (h : staging.Tracks parts position)
    (hrun : IsTriviaRun parts position (position + count)) :
    (staging.addTrivia count).Tracks parts (position + count) := by
  unfold Staging.addTrivia
  cases howner : staging.owner with
  | some index =>
    obtain ⟨hindex, ⟨token, htoken, hstop⟩, hpending⟩ := h.owner index howner
    have hlt : index < staging.tokens.size := by
      omega
    dsimp only
    rw [if_pos hlt]
    refine ⟨?_, fun hnone => (Option.some_ne_none index hnone).elim⟩
    intro other hother
    obtain rfl : index = other := Option.some.inj hother
    refine ⟨?_, ⟨token.extend count, ?_, ?_⟩, hpending⟩
    · rw [Array.size_modify]
      exact hindex
    · rw [Array.getElem?_modify, if_pos rfl, htoken]
      rfl
    · rw [← hstop]
      rfl
  | none =>
    obtain ⟨hle, htrivia⟩ := h.trivia howner
    refine ⟨fun index hsome => (Option.some_ne_none index hsome.symm).elim, ?_⟩
    intro _
    have hstart : position + count - (staging.pending + count) = position - staging.pending := by
      omega
    refine ⟨Nat.add_le_add_right hle count, ?_⟩
    show IsTriviaRun parts (position + count - (staging.pending + count)) (position + count)
    rw [hstart]
    exact htrivia.append hrun

theorem tracks_of_pending_eq_zero (howner : staging.owner = none) (hpending : staging.pending = 0)
    (parts : List (Piece × Span)) (position : Nat) : staging.Tracks parts position := by
  refine ⟨fun index hsome => ?_, fun _ => ?_⟩
  · exact (Option.some_ne_none index (hsome.symm.trans howner)).elim
  · rw [hpending]
    exact ⟨Nat.zero_le _, isTriviaRun_self parts position⟩

theorem Tracks.clearOwner (h : staging.Tracks parts position) :
    staging.clearOwner.Tracks parts position := by
  cases howner : staging.owner with
  | some index =>
    have hclear : staging.clearOwner.owner = none := rfl
    exact tracks_of_pending_eq_zero hclear (h.owner index howner).2.2 parts position
  | none =>
    refine ⟨fun index hsome => (Option.some_ne_none index hsome.symm).elim, ?_⟩
    exact fun _ => h.trivia howner

theorem Tracks.pending_le (h : staging.Tracks parts position) : staging.pending ≤ position := by
  cases howner : staging.owner with
  | some index =>
    rw [(h.owner index howner).2.2]
    exact Nat.zero_le _
  | none => exact (h.trivia howner).1

end Staging

namespace Scan

/-! ### The invariant -/

/-- The place of the scan is in the text, and its gauge can be divided by. -/
structure IsAt (source : List Char) (scan : Scan) : Prop where
  rest : scan.rest = source.drop scan.position
  le : scan.position ≤ source.length
  gauge : scan.gauge.IsFit

/-- The owner and the pending trivia, as they are in the mode. While a literal is being read, the
trivia before it is pending. -/
def Mode.Holds (parts : List (Piece × Span)) (position : Nat) (staging : Staging) : Mode → Prop
  | .between => staging.Tracks parts position
  | .comment => staging.Tracks parts position
  | .lineStart => staging.owner = none ∧ staging.Tracks parts position
  | .word start _ => staging.owner = none ∧ staging.pending ≤ start
  | .quoted _ start _ => staging.owner = none ∧ staging.pending ≤ start

structure Holds (source : List Char) (scan : Scan) : Prop where
  place : scan.IsAt source
  mode : scan.mode.Fits source scan.position
  staging : scan.mode.Holds (placed 0 (pieces source)) scan.position scan.staging

def Takes (source : List Char) (result : Option Scan) (next : Scan) : Prop :=
  result = some next ∧ next.Holds source

variable {source rest : List Char} {scan : Scan} {c : Char}

theorem holds_start (source : List Char) : (start source).Holds source where
  place := ⟨rfl, Nat.zero_le _, Gauge.isFit_start⟩
  mode := IsSeam.start source
  staging := Staging.tracks_of_pending_eq_zero rfl rfl _ 0

theorem holds_iff {mode : Mode} (hmode : scan.mode = mode) :
    scan.Holds source ↔ scan.IsAt source ∧ mode.Fits source scan.position ∧
      mode.Holds (placed 0 (pieces source)) scan.position scan.staging := by
  subst hmode
  exact ⟨fun h => ⟨h.place, h.mode, h.staging⟩, fun ⟨hplace, hfits, hholds⟩ =>
    ⟨hplace, hfits, hholds⟩⟩

/-! #### What leaves the place alone -/

theorem IsAt.enter (h : scan.IsAt source) (mode : Mode) : (scan.enter mode).IsAt source :=
  ⟨h.rest, h.le, h.gauge⟩

theorem IsAt.clearOwner (h : scan.IsAt source) : scan.clearOwner.IsAt source :=
  ⟨h.rest, h.le, h.gauge⟩

theorem IsAt.addToken (h : scan.IsAt source) (kind : TokenKind) (start : Nat) :
    (scan.addToken kind start).IsAt source :=
  ⟨h.rest, h.le, h.gauge⟩

/-! ### Moves -/

theorem add_length_le_of_drop {front after : List Char} {position : Nat}
    (hle : position ≤ source.length) (h : source.drop position = front ++ after) :
    position + front.length ≤ source.length := by
  have hlength := congrArg List.length h
  rw [List.length_drop, List.length_append] at hlength
  omega

theorem IsAt.advance? {front after : List Char} (h : scan.IsAt source)
    (htext : source.drop scan.position = front ++ after) :
    scan.advance? source front.length = some (scan.advance front.length) ∧
      (scan.advance front.length).IsAt source := by
  have hle := add_length_le_of_drop h.le htext
  refine ⟨if_pos hle, ?_, hle, h.gauge⟩
  show scan.rest.drop front.length = source.drop (scan.position + front.length)
  rw [h.rest, List.drop_drop]

theorem IsAt.getElem? (h : scan.IsAt source) (hrest : scan.rest = c :: rest) :
    source[scan.position]? = some c ∧ source.drop scan.position = c :: rest := by
  have htext : source.drop scan.position = c :: rest := h.rest.symm.trans hrest
  refine ⟨?_, htext⟩
  rw [← List.head?_drop, htext]
  rfl

theorem IsAt.skip? {front after : List Char} (h : scan.IsAt source)
    (htext : source.drop scan.position = front ++ after) :
    scan.skip? source front.length = some (scan.skip front.length) ∧
      (scan.skip front.length).IsAt source := by
  obtain ⟨hadvance, hplace⟩ := h.advance? htext
  rw [Scan.skip?, hadvance]
  exact ⟨rfl, hplace.rest, hplace.le, hplace.gauge⟩

/-! ### The end of a literal -/

theorem addToken?_eq (kind : TokenKind) {start : Nat} (hpending : scan.staging.pending ≤ start) :
    scan.addToken? kind start = some (scan.addToken kind start) := by
  have hsize : ∀ token : Token, difference? (scan.staging.takePending.2.push token).tokens.size 1 =
      some scan.staging.tokens.size := by
    intro token
    rw [Staging.push, Array.size_push, difference?_of_le (Nat.le_add_left 1 _),
      Nat.add_sub_cancel]
    rfl
  simp only [addToken?, Staging.takePending, difference?_of_le hpending] at hsize ⊢
  simp only [Option.bind_eq_bind, Option.bind_some, hsize]
  rfl

theorem tracks_addToken (parts : List (Piece × Span)) (kind : TokenKind) (start : Nat) :
    (scan.addToken kind start).staging.Tracks parts scan.position := by
  refine ⟨?_, fun hnone => (Option.some_ne_none _ hnone).elim⟩
  intro index hindex
  obtain rfl : scan.staging.tokens.size = index := Option.some.inj hindex
  refine ⟨?_, ⟨_, Array.getElem?_push_size, rfl⟩, rfl⟩
  exact (Array.size_push _).symm

theorem takes_settle (hplace : scan.IsAt source) (hseam : IsSeam source scan.position)
    {start : Nat} (howner : scan.staging.owner = none) (hpending : scan.staging.pending ≤ start)
    (literal : Except Fault TokenKind) :
    Takes source (scan.settle? literal start) (scan.settle literal start) := by
  cases literal with
  | ok kind =>
    refine ⟨?_, (hplace.addToken kind start).enter .between, hseam, tracks_addToken _ kind start⟩
    rw [settle?, addToken?_eq kind hpending]
    rfl
  | error fault =>
    have hdropped : scan.dropPending.staging.owner = none := howner
    refine ⟨rfl, ⟨hplace.rest, hplace.le, hplace.gauge⟩, hseam, ?_⟩
    exact Staging.tracks_of_pending_eq_zero hdropped rfl _ _

def Mode.IsCode (mode : Mode) : Prop :=
  mode = .between ∨ ∃ start text, mode = .word start text

theorem takes_endWord (h : scan.Holds source) (hcode : scan.mode.IsCode)
    (hend : ∀ c ∈ (source.drop scan.position).head?, Text.isWordPart c = false) :
    Takes source scan.endWord? scan.endWord := by
  obtain hmode | ⟨start, text, hmode⟩ := hcode
  · rw [endWord?, hmode, endWord_of_between hmode]
    exact ⟨congrArg some (enter_of_mode hmode), h⟩
  · obtain ⟨hplace, hfits, howner, hpending⟩ := (holds_iff hmode).1 h
    rw [endWord?, endWord, hmode]
    exact takes_settle hplace (hfits.word_close hend) howner hpending _

@[simp] theorem position_endWord (scan : Scan) : scan.endWord.position = scan.position := by
  unfold endWord
  split
  next start text _ => cases Literal.word text <;> rfl
  · rfl

/-! ### Steps between two literals -/

section Between

theorem Holds.seam (h : scan.Holds source) (hmode : scan.mode = .between) :
    IsSeam source scan.position :=
  ((holds_iff hmode).1 h).2.1

theorem Holds.tracks (h : scan.Holds source) (hmode : scan.mode = .between) :
    scan.staging.Tracks (placed 0 (pieces source)) scan.position :=
  ((holds_iff hmode).1 h).2.2

theorem takes_readLineBreak (h : scan.Holds source) (hmode : scan.mode = .between)
    (hbreak : Text.lineBreakLength (source.drop scan.position) ≠ 0) :
    Takes source (scan.readLineBreak? source (Text.lineBreakLength (source.drop scan.position)))
      (scan.readLineBreak (Text.lineBreakLength (source.drop scan.position))) := by
  obtain ⟨hseam, hrun⟩ := (h.seam hmode).lineBreak hbreak
  have hle := Text.lineBreakLength_le (source.drop scan.position)
  have htext := (List.take_append_drop (Text.lineBreakLength (source.drop scan.position))
    (source.drop scan.position)).symm
  obtain ⟨hskip, hplace⟩ := h.place.skip? htext
  rw [List.length_take, Nat.min_eq_left hle] at hskip hplace
  rw [readLineBreak?, hskip]
  have htracks := ((h.tracks hmode).addTrivia hrun).clearOwner
  exact ⟨rfl, hplace.clearOwner.enter .lineStart, hseam, rfl, htracks⟩

theorem takes_skip_blank (h : scan.Holds source) (hmode : scan.mode = .between)
    (htext : source.drop scan.position = c :: rest) (hspace : Text.isSpace c = true) :
    Takes source (scan.skip? source 1) (scan.skip 1) := by
  obtain ⟨hseam, hrun⟩ := (h.seam hmode).blank htext hspace
  have hblank : source.drop scan.position = [c] ++ rest := htext
  obtain ⟨hskip, hplace⟩ := h.place.skip? hblank
  have hskipped : (scan.skip 1).mode = .between := hmode
  exact ⟨hskip, (holds_iff hskipped).2 ⟨hplace, hseam, (h.tracks hmode).addTrivia hrun⟩⟩

theorem takes_openComment (h : scan.Holds source) (hmode : scan.mode = .between)
    (htext : source.drop scan.position = '#' :: rest) :
    Takes source ((scan.enter .comment).skip? source 1) ((scan.enter .comment).skip 1) := by
  obtain ⟨hfits, hrun⟩ := Mode.fits_comment_open (h.seam hmode) htext
  have hsign : source.drop scan.position = ['#'] ++ rest := htext
  obtain ⟨hskip, hnext⟩ := (h.place.enter .comment).skip? hsign
  exact ⟨hskip, hnext, hfits, (h.tracks hmode).addTrivia hrun⟩

theorem takes_openQuote (h : scan.Holds source) (hmode : scan.mode = .between) {quote : Quote}
    (htext : source.drop scan.position = quote.mark :: rest) :
    Takes source (scan.openQuote? source quote) (scan.openQuote quote) := by
  have hfits := Mode.fits_quoted_open (h.seam hmode) htext
  have hmark : source.drop scan.position = [quote.mark] ++ rest := htext
  have hplace := h.place.clearOwner.enter (.quoted quote scan.position "")
  obtain ⟨hadvance, hnext⟩ := hplace.advance? hmark
  exact ⟨hadvance, hnext, hfits, rfl, (h.tracks hmode).pending_le⟩

theorem takes_readSymbol (h : scan.Holds source) (hmode : scan.mode = .between) {symbol : Symbol}
    (hlongest : Symbol.longest? (source.drop scan.position) = some symbol) :
    Takes source (scan.readSymbol? source symbol) (scan.readSymbol symbol) := by
  obtain ⟨after, htext⟩ := Symbol.eq_append_of_longest? hlongest
  have hseam := (h.seam hmode).symbol hlongest
  obtain ⟨hadvance, hnext⟩ := h.place.clearOwner.advance? htext
  have hwidth : symbol.chars.length = symbol.width := rfl
  rw [hwidth] at hadvance hnext
  have hpending : (scan.clearOwner.advance symbol.width).staging.pending ≤ scan.position :=
    (h.tracks hmode).pending_le
  have hread : (scan.readSymbol symbol).mode = .between := hmode
  refine ⟨?_, (holds_iff hread).2 ⟨hnext.addToken _ _, hseam, tracks_addToken _ _ _⟩⟩
  rw [readSymbol?, hadvance]
  exact addToken?_eq _ hpending

end Between

theorem takes_readWord (h : scan.Holds source) (hcode : scan.mode.IsCode)
    (htext : source.drop scan.position = c :: rest) (hc : Text.isWordPart c = true) :
    Takes source (scan.readWord? source c) (scan.readWord c) := by
  have hpart : source.drop scan.position = [c] ++ rest := htext
  obtain hmode | ⟨start, text, hmode⟩ := hcode
  · have hfits := Mode.fits_word_open (h.seam hmode) htext hc
    have hplace := h.place.clearOwner.enter (.word scan.position c.toString)
    obtain ⟨hadvance, hnext⟩ := hplace.advance? hpart
    rw [readWord?, readWord, hmode]
    exact ⟨hadvance, hnext, hfits, rfl, (h.tracks hmode).pending_le⟩
  · obtain ⟨hplace, hfits, hholds⟩ := (holds_iff hmode).1 h
    obtain ⟨hadvance, hnext⟩ := (hplace.enter (.word start (text.push c))).advance? hpart
    rw [readWord?, readWord, hmode]
    exact ⟨hadvance, hnext, hfits.word_push htext hc, hholds⟩

theorem takes_stepCode (h : scan.Holds source) (hcode : scan.mode.IsCode)
    (hrest : scan.rest = c :: rest) : Takes source (scan.stepCode? source) (scan.stepCode c) := by
  obtain ⟨hat, htext⟩ := h.place.getElem? hrest
  cases hc : Text.isWordPart c with
  | true =>
    obtain ⟨hbreak, hblank, hsign, hdouble, hsingle, hsymbol⟩ := (isWordPart_iff rest).1 hc
    have hread := takes_readWord h hcode htext hc
    rw [stepCode_of_isWordPart hrest hc]
    refine ⟨?_, hread.2⟩
    rw [← hread.1, stepCode?, hat, htext, Option.bind_eq_bind, Option.bind_some]
    dsimp only
    rw [if_neg (not_not.2 hbreak), if_neg (by simp [hblank]), if_neg hsign, if_neg hdouble,
      if_neg hsingle, hsymbol]
  | false =>
    -- The character ends the word before it, and the rest of the step starts between two literals.
    have hend : ∀ d ∈ (source.drop scan.position).head?, Text.isWordPart d = false := by
      rw [htext]
      rintro _ ⟨⟩
      exact hc
    obtain ⟨hended, hholds⟩ := takes_endWord h hcode hend
    have hmode := mode_endWord scan
    have hplace : source.drop scan.endWord.position = c :: rest := by
      rw [position_endWord, htext]
    rw [stepCode?, hat, htext, stepCode, hrest, hended]
    simp only [Option.bind_eq_bind, Option.bind_some]
    split_ifs with hbreak hblank hsign hdouble hsingle
    · rw [← hplace]
      exact takes_readLineBreak hholds hmode (by rwa [hplace])
    · exact takes_skip_blank hholds hmode hplace ((Text.isSpace_iff rest).2 (.inr hblank))
    · subst hsign
      exact takes_openComment hholds hmode hplace
    · subst hdouble
      exact takes_openQuote hholds hmode hplace
    · subst hsingle
      exact takes_openQuote hholds hmode hplace
    · cases hsymbol : Symbol.longest? (c :: rest) with
      | some symbol => exact takes_readSymbol hholds hmode (by rw [hplace, hsymbol])
      | none =>
        have hpart := (isWordPart_iff rest).2 ⟨not_not.1 hbreak, by simpa using hblank, hsign,
          hdouble, hsingle, hsymbol⟩
        rw [hc] at hpart
        cases hpart

/-! ### Steps in a comment and in a quoted text -/

theorem takes_stepComment (h : scan.Holds source) (hmode : scan.mode = .comment)
    (hrest : scan.rest = c :: rest) : Takes source (scan.stepComment? source) scan.stepComment := by
  obtain ⟨hat, htext⟩ := h.place.getElem? hrest
  obtain ⟨hplace, hfits, htracks⟩ := (holds_iff hmode).1 h
  rw [stepComment?, hat, stepComment, hplace.rest]
  simp only [Option.bind_eq_bind, Option.bind_some]
  split_ifs with hbreak
  · exact ⟨rfl, hplace.enter .between, hfits.comment_close hbreak, htracks⟩
  · rw [htext, not_not] at hbreak
    obtain ⟨hnext, hrun⟩ := hfits.comment_step htext hbreak
    have hpart : source.drop scan.position = [c] ++ rest := htext
    obtain ⟨hskip, hmoved⟩ := hplace.skip? hpart
    have hskipped : (scan.skip 1).mode = .comment := hmode
    exact ⟨hskip, (holds_iff hskipped).2 ⟨hmoved, hnext, htracks.addTrivia hrun⟩⟩

section Quoted

variable {quote : Quote} {start : Nat} {body : String}

theorem takes_advance_quoted (h : scan.Holds source) (hmode : scan.mode = .quoted quote start body)
    {front : List Char} {longer : String} (htext : source.drop scan.position = front ++ rest)
    (hlonger : longer.toList = body.toList ++ front)
    (hread : Text.quotedBody? quote.mark (front ++ rest) =
      (Text.quotedBody? quote.mark rest).map (front ++ ·)) :
    Takes source ((scan.enter (.quoted quote start longer)).advance? source front.length)
      ((scan.enter (.quoted quote start longer)).advance front.length) := by
  obtain ⟨hplace, hfits, hholds⟩ := (holds_iff hmode).1 h
  obtain ⟨hadvance, hnext⟩ := (hplace.enter (.quoted quote start longer)).advance? htext
  exact ⟨hadvance, hnext, hfits.quoted_append htext hlonger hread, hholds⟩

theorem takes_closeQuote (h : scan.Holds source) (hmode : scan.mode = .quoted quote start body)
    (htext : source.drop scan.position = quote.mark :: rest) :
    Takes source ((scan.advance 1).settle? (Literal.quoted quote body) start)
      ((scan.advance 1).settle (Literal.quoted quote body) start) := by
  obtain ⟨hplace, hfits, howner, hpending⟩ := (holds_iff hmode).1 h
  have hpart : source.drop scan.position = [quote.mark] ++ rest := htext
  exact takes_settle (hplace.advance? hpart).2 (hfits.quoted_close htext) howner hpending _

theorem takes_readEscape_last (h : scan.Holds source) (hmode : scan.mode = .quoted quote start body)
    (htext : source.drop scan.position = ['\\']) :
    Takes source (scan.readEscape? source quote start body)
      ((scan.enter (.quoted quote start (body.push '\\'))).advance 1) := by
  have hread : Text.quotedBody? quote.mark (['\\'] ++ []) =
      (Text.quotedBody? quote.mark []).map (['\\'] ++ ·) := by
    cases quote <;> rfl
  obtain ⟨hadvance, hnext⟩ := takes_advance_quoted h hmode htext (String.toList_push '\\') hread
  rw [List.length_singleton] at hadvance hnext
  have hend : source[((scan.enter (.quoted quote start (body.push '\\'))).advance 1).position]? =
      none := by
    have hlength := congrArg List.length htext
    rw [List.length_drop, List.length_singleton] at hlength
    have hposition : source.length ≤ scan.position + 1 := by
      omega
    exact List.getElem?_eq_none hposition
  refine ⟨?_, hnext⟩
  rw [readEscape?, hadvance, Option.bind_eq_bind, Option.bind_some, hend]
  rfl

theorem takes_readEscape (h : scan.Holds source) (hmode : scan.mode = .quoted quote start body)
    (htext : source.drop scan.position = '\\' :: c :: rest) :
    Takes source (scan.readEscape? source quote start body)
      ((scan.enter (.quoted quote start ((body.push '\\').push c))).advance 2) := by
  have hread : Text.quotedBody? quote.mark (['\\', c] ++ rest) =
      (Text.quotedBody? quote.mark rest).map (['\\', c] ++ ·) := rfl
  have hpair : ((body.push '\\').push c).toList = body.toList ++ ['\\', c] := by
    rw [String.toList_push, String.toList_push, List.append_assoc]
    rfl
  have hfront : source.drop scan.position = ['\\', c] ++ rest := htext
  have hnext := (takes_advance_quoted h hmode hfront hpair hread).2
  have hfirst : source.drop scan.position = ['\\'] ++ c :: rest := htext
  have hplace := h.place.enter (.quoted quote start (body.push '\\'))
  obtain ⟨hadvance, htaken⟩ := hplace.advance? hfirst
  rw [List.length_singleton] at hadvance htaken
  have hsecond : source.drop (scan.position + 1) = [c] ++ rest := drop_succ htext
  have hat : source[((scan.enter (.quoted quote start (body.push '\\'))).advance 1).position]? =
      some c := by
    have hhead := congrArg List.head? hsecond
    rwa [List.head?_drop] at hhead
  refine ⟨?_, hnext⟩
  rw [readEscape?, hadvance, Option.bind_eq_bind, Option.bind_some, hat, ← advance_advance _ 1 1]
  exact ((htaken.enter (.quoted quote start ((body.push '\\').push c))).advance? hsecond).1

theorem takes_stepQuoted (h : scan.Holds source) (hmode : scan.mode = .quoted quote start body)
    (hrest : scan.rest = c :: rest) :
    Takes source (scan.stepQuoted? source quote start body)
      (scan.stepQuoted quote start body c) := by
  obtain ⟨hat, htext⟩ := h.place.getElem? hrest
  have hpart : source.drop scan.position = [c] ++ rest := htext
  rw [stepQuoted?, hat, stepQuoted, hrest]
  simp only [Option.bind_eq_bind, Option.bind_some]
  split_ifs with hbackslash hclose
  · subst hbackslash
    cases rest with
    | nil => exact takes_readEscape_last h hmode htext
    | cons d others => exact takes_readEscape h hmode htext
  · subst hclose
    have hadvance : scan.advance? source 1 = some (scan.advance 1) := (h.place.advance? hpart).1
    rw [hadvance]
    exact takes_closeQuote h hmode htext
  · apply takes_advance_quoted h hmode hpart (String.toList_push c)
    rw [List.singleton_append, Text.quotedBody?_cons hbackslash, if_neg hclose]
    rfl

end Quoted

/-! ### The start of a line -/

theorem takes_measureLine (options : Options) (h : scan.Holds source)
    (hmode : scan.mode = .lineStart) :
    Takes source (scan.measureLine? source options) (scan.measureLine options) := by
  obtain ⟨-, hseam, howner, htracks⟩ := (holds_iff hmode).1 h
  have hunit : scan.gauge.level ≠ 0 → scan.gauge.unit ≠ 0 := by
    intro hlevel
    have hfit := (h.place.gauge hlevel).1
    omega
  have hgauge := h.place.gauge.measure scan.rest
  have hline : scan.line? source = some scan.rest := by
    rw [h.place.rest]
    exact if_pos h.place.le
  have hpending := difference?_of_le htracks.pending_le
  rw [measureLine?, hline, measureLine]
  simp only [Option.bind_eq_bind, Option.bind_some, Gauge.measure?_eq hunit]
  generalize scan.gauge.measure scan.rest = measured at hgauge ⊢
  obtain ⟨reading, gauge⟩ := measured
  have hplace : IsAt source { scan with mode := .between, gauge } :=
    ⟨h.place.rest, h.place.le, hgauge⟩
  cases reading with
  | blank => exact ⟨rfl, hplace, hseam, htracks⟩
  | ambiguous width unit run =>
    dsimp only
    split_ifs
    · exact ⟨rfl, ⟨hplace.rest, hplace.le, hplace.gauge⟩, hseam, htracks⟩
    · exact ⟨rfl, hplace, hseam, htracks⟩
  | level previous current =>
    simp only [hpending, Option.bind_some]
    refine ⟨rfl, ⟨hplace.rest, hplace.le, hplace.gauge⟩, hseam, ?_⟩
    refine ⟨fun index hsome => ?_, fun _ => htracks.trivia howner⟩
    exact (Option.some_ne_none index (hsome.symm.trans howner)).elim

/-! ### Whole passes -/

/-- Every step is in bounds, and keeps the invariant. -/
theorem takes_step (options : Options) (h : scan.Holds source) (hrest : scan.rest ≠ []) :
    Takes source (scan.step? source options) (scan.step options) := by
  obtain ⟨c, rest, hcons⟩ := List.exists_cons_of_ne_nil hrest
  unfold step? step
  rw [hcons]
  cases hmode : scan.mode with
  | lineStart => exact takes_measureLine options h hmode
  | comment => exact takes_stepComment h hmode hcons
  | quoted quote start body => exact takes_stepQuoted h hmode hcons
  | between => exact takes_stepCode h (.inl hmode) hcons
  | word start text => exact takes_stepCode h (.inr ⟨start, text, hmode⟩) hcons

theorem finish?_eq (h : scan.Holds source) (hrest : scan.rest = []) :
    scan.finish? = some scan.finish := by
  have htext : source.drop scan.position = [] := h.place.rest.symm.trans hrest
  have hend : ∀ c ∈ (source.drop scan.position).head?, Text.isWordPart c = false := by
    rw [htext]
    exact fun c hc => nomatch hc
  unfold finish?
  cases hmode : scan.mode with
  | word start text =>
    have hcode : scan.mode.IsCode := .inr ⟨start, text, hmode⟩
    have hlast : scan.settleLast = scan.endWord := by
      rw [settleLast, hmode]
    simp only [(takes_endWord h hcode hend).1, Option.bind_eq_bind, Option.bind_some, ← hlast]
    rfl
  | between => rfl
  | comment => rfl
  | lineStart => rfl
  | quoted quote start body => rfl

theorem endsIn_finish (options : Options) (h : scan.Holds source) :
    EndsIn source options scan (scan.run options).finish := by
  fun_induction Scan.run options scan with
  | case1 scan hrest =>
    refine .finish ?_ (finish?_eq h hrest)
    exact List.drop_eq_nil_iff.1 (h.place.rest.symm.trans hrest)
  | case2 scan hrest ih =>
    obtain ⟨hstep, hnext⟩ := takes_step options h hrest
    refine .step ?_ hstep (ih hnext)
    rw [h.place.rest, List.drop_eq_nil_iff] at hrest
    omega

def Reaches (options : Options) : Scan → Scan → Prop :=
  Relation.ReflTransGen fun scan next => scan.rest ≠ [] ∧ scan.step options = next

theorem Holds.of_reaches {options : Options} {last : Scan} (h : scan.Holds source)
    (hreach : Reaches options scan last) : last.Holds source := by
  induction hreach with
  | refl => exact h
  | tail _ hstep ih =>
    obtain ⟨hrest, rfl⟩ := hstep
    exact (takes_step options ih hrest).2

def Mode.literal? : Mode → Option (Nat × List Char)
  | .word start text => some (start, text.toList)
  | .quoted quote start body => some (start, quote.mark :: body.toList)
  | _ => none

/-- What holds wherever the pass stops. -/
structure IsSound (source : List Char) (options : Options) (scan : Scan) : Prop where
  step : scan.rest ≠ [] → scan.step? source options = some (scan.step options)
  finish : scan.rest = [] → scan.finish? = some scan.finish
  le : scan.position ≤ source.length
  rest : scan.rest = source.drop scan.position
  /-- The owner of what follows is the last token. It ends at the position, and nothing is
  pending. -/
  owner : ∀ index, scan.staging.owner = some index →
    index + 1 = scan.staging.tokens.size ∧
      (∃ token, scan.staging.tokens[index]? = some token ∧ token.span.stop = scan.position) ∧
      scan.staging.pending = 0
  trivia : scan.mode.literal? = none → scan.staging.owner = none →
    scan.staging.pending ≤ scan.position ∧
      IsTriviaRun (placed 0 (pieces source)) (scan.position - scan.staging.pending) scan.position
  literal : ∀ start text, scan.mode.literal? = some (start, text) →
    scan.staging.owner = none ∧ scan.staging.pending ≤ start ∧ start ≤ scan.position ∧
      Span.slice ⟨start, scan.position⟩ source = text

theorem slice_of_drop {front : List Char} {start position : Nat}
    (hposition : position = start + front.length)
    (htext : source.drop start = front ++ source.drop position) :
    Span.slice ⟨start, position⟩ source = front := by
  have hlength : Span.length ⟨start, position⟩ = front.length := by
    rw [Span.length, hposition, Nat.add_sub_cancel_left]
  rw [Span.slice, hlength, htext, List.take_left]

theorem Holds.isSound (options : Options) (h : scan.Holds source) :
    scan.IsSound source options := by
  refine ⟨fun hrest => (takes_step options h hrest).1, finish?_eq h, h.place.le, h.place.rest,
    ?owner, ?trivia, ?literal⟩
  case owner =>
    intro index hsome
    cases hmode : scan.mode <;> obtain ⟨-, -, hholds⟩ := (holds_iff hmode).1 h
    case between => exact hholds.owner index hsome
    case comment => exact hholds.owner index hsome
    case lineStart => exact hholds.2.owner index hsome
    all_goals exact (Option.some_ne_none index (hsome.symm.trans hholds.1)).elim
  case trivia =>
    intro hnone howner
    cases hmode : scan.mode <;> obtain ⟨-, -, hholds⟩ := (holds_iff hmode).1 h
    case between => exact hholds.trivia howner
    case comment => exact hholds.trivia howner
    case lineStart => exact hholds.2.trivia howner
    all_goals
      rw [hmode] at hnone
      cases hnone
  case literal =>
    intro start text hsome
    cases hmode : scan.mode <;> rw [hmode] at hsome <;> cases hsome
    case word word =>
      obtain ⟨-, ⟨-, hposition, htext, -⟩, howner, hpending⟩ := (holds_iff hmode).1 h
      exact ⟨howner, hpending, by omega, slice_of_drop hposition htext⟩
    case quoted quote body =>
      obtain ⟨-, ⟨-, hposition, htext, -⟩, howner, hpending⟩ := (holds_iff hmode).1 h
      refine ⟨howner, hpending, by omega, slice_of_drop ?_ htext⟩
      rw [hposition, List.length_cons]
      omega

end Scan

/-- Whatever the text and the options, the checked pass gets to the end, with the findings of the
pass. Wherever the pass stops on its way, the invariant holds. -/
theorem endsIn_tokenize (source : String) (options : Options) :
    Scan.EndsIn source.toList options (.start source.toList) (tokenize source options) ∧
      ∀ scan, Scan.Reaches options (.start source.toList) scan →
        scan.IsSound source.toList options := by
  have hstart := Scan.holds_start source.toList
  refine ⟨Scan.endsIn_finish options hstart, fun scan hreach => ?_⟩
  exact (hstart.of_reaches hreach).isSound options

/-- The text ends behind a backslash, in a quoted text that is never closed. -/
theorem endsIn_backslash :
    Scan.EndsIn "a\"\\".toList {} (.start "a\"\\".toList) (tokenize "a\"\\") ∧
      ∃ scan, Scan.Reaches {} (.start "a\"\\".toList) scan ∧ scan.position = 3 ∧
        scan.mode = .quoted .double 1 "\\" ∧ scan.IsSound "a\"\\".toList {} := by
  obtain ⟨hends, hsound⟩ := endsIn_tokenize "a\"\\" {}
  let last := ((Scan.start "a\"\\".toList).step {}).step {}
  have hreach : Scan.Reaches {} (.start "a\"\\".toList) (last.step {}) :=
    ((Relation.ReflTransGen.single ⟨by decide, rfl⟩).tail ⟨by decide, rfl⟩).tail ⟨by decide, rfl⟩
  exact ⟨hends, last.step {}, hreach, by decide, by decide, hsound _ hreach⟩

end Offside
