import Offside.CommandLine.Outcome
import Offside.Proofs.Written

/-!
# The dump shows all of the tokens

Every token is on a line of its own, and what is shown of it determines it. Its numbers end where
their digits do, the kind ends where its label does, and a shown literal is never part of another
one, since no word holds what may stand behind it.
-/

namespace Offside

open Text (Quote)

/-! ### Where a row of characters ends -/

section Split

variable {p : Char → Bool} {first second : List Char} {c d : Char} {rest others : List Char}

theorem append_cons_inj (hfirst : ∀ x ∈ first, p x = true) (hsecond : ∀ x ∈ second, p x = true)
    (hc : p c = false) (hd : p d = false) (h : first ++ c :: rest = second ++ d :: others) :
    first = second ∧ c :: rest = d :: others := by
  have hrow : ∀ {row behind : List Char} {e : Char}, (∀ x ∈ row, p x = true) → p e = false →
      (row ++ e :: behind).takeWhile p = row := by
    intro row behind e hmem he
    rw [List.takeWhile_append_of_pos hmem, List.takeWhile_cons_of_neg (by simp [he]),
      List.append_nil]
  have hsame := congrArg (List.takeWhile p) h
  rw [hrow hfirst hc, hrow hsecond hd] at hsame
  subst hsame
  exact ⟨rfl, List.append_cancel_left h⟩

variable {number other : Nat}

theorem toDigits_inj (h : Nat.toDigits 10 number = Nat.toDigits 10 other) : number = other := by
  calc
    number = Nat.ofDigitChars 10 (Nat.toDigits 10 number) 0 := Nat.ofDigitChars_ten_toDigits.symm
    _ = Nat.ofDigitChars 10 (Nat.toDigits 10 other) 0 := by rw [h]
    _ = other := Nat.ofDigitChars_ten_toDigits

theorem toDigits_append_inj (hc : c.isDigit = false)
    (h : Nat.toDigits 10 number ++ c :: rest = Nat.toDigits 10 other ++ c :: others) :
    number = other ∧ rest = others := by
  obtain ⟨hdigits, hrest⟩ :=
    append_cons_inj (isDigit_toDigits number) (isDigit_toDigits other) hc hc h
  exact ⟨toDigits_inj hdigits, (List.cons.inj hrest).2⟩

theorem append_toDigits_inj (hc : c.isDigit = false)
    (h : rest ++ c :: Nat.toDigits 10 number = others ++ c :: Nat.toDigits 10 other) :
    rest = others ∧ number = other := by
  have hreverse := congrArg List.reverse h
  rw [List.reverse_append, List.reverse_append, List.reverse_cons, List.reverse_cons,
    List.append_assoc, List.append_assoc, List.singleton_append, List.singleton_append] at hreverse
  obtain ⟨hdigits, hrest⟩ := append_cons_inj
    (fun x hx => isDigit_toDigits number x (List.mem_reverse.1 hx))
    (fun x hx => isDigit_toDigits other x (List.mem_reverse.1 hx)) hc hc hreverse
  exact ⟨List.reverse_inj.1 (List.cons.inj hrest).2, toDigits_inj (List.reverse_inj.1 hdigits)⟩

end Split

/-! ### Kinds -/

def TokenKind.IsRead (kind : TokenKind) : Prop :=
  ∃ lexeme : Lexeme, lexeme.StandsBefore [] ∧ lexeme.reading = .ok kind

namespace TokenKind.IsRead

variable {kind other : TokenKind} (isPrintable : Char → Bool)

theorem exists_written (h : kind.IsRead) :
    ∃ lexeme : Lexeme, lexeme.chars = (kind.written isPrintable).toList ∧
      lexeme.StandsBefore [] ∧ lexeme.reading = .ok kind := by
  obtain ⟨lexeme, hstands, hreading⟩ := h
  exact Lexeme.exists_written isPrintable hstands hreading

theorem ne_indentation (h : kind.IsRead) : ∀ direction, kind ≠ .indentation direction := by
  obtain ⟨lexeme, -, hreading⟩ := h
  have houtcome := lexeme.isOutcome_reading
  rw [hreading] at houtcome
  exact houtcome

theorem eq_of_written (h : kind.IsRead) (hother : other.IsRead)
    (hwritten : kind.written isPrintable = other.written isPrintable) : kind = other := by
  obtain ⟨first, hfirst, hfirstStands, hkind⟩ := h.exists_written isPrintable
  obtain ⟨second, hsecond, hsecondStands, hreading⟩ := hother.exists_written isPrintable
  have hsame : [Piece.lexeme first] = [Piece.lexeme second] := by
    rw [← Lexeme.pieces_chars hfirstStands, ← Lexeme.pieces_chars hsecondStands, hfirst, hsecond,
      hwritten]
  rw [Piece.lexeme.inj (List.cons.inj hsame).1, hreading] at hkind
  exact (Except.ok.inj hkind).symm

theorem cases_written (h : kind.IsRead) :
    (∀ c ∈ (kind.written isPrintable).toList, Text.isWordPart c = true) ∨
      (∃ mark, kind = .symbol mark) ∨ (∃ text, kind = .string text) ∨ ∃ c, kind = .rune c := by
  obtain ⟨lexeme, hchars, hstands, hreading⟩ := h.exists_written isPrintable
  cases lexeme with
  | word first rest =>
    left
    rw [← hchars]
    exact hstands.1
  | symbol mark => exact .inr (.inl ⟨mark, (Except.ok.inj hreading).symm⟩)
  | quoted quote body =>
    cases quote with
    | double => exact .inr (.inr (.inl (Literal.exists_of_string hreading)))
    | single => exact .inr (.inr (.inr (Literal.exists_of_rune hreading)))
  | unclosed quote body => cases hreading

end TokenKind.IsRead

namespace TokenKind

theorem tag_of_label {kind : TokenKind} (h : kind.label ≠ "Identifier") : kind.tag = "" := by
  cases kind with
  | identifier name contextual => exact absurd rfl h
  | _ => rfl

theorem exists_tag_append (kind : TokenKind) :
    ∃ c rest, kind.tag.toList ++ [')'] = c :: rest ∧ Text.isWordPart c = false := by
  unfold tag
  split
  · exact ⟨',', " contextual)".toList, by decide⟩
  · exact ⟨')', [], rfl, by decide⟩

namespace IsRead

variable {kind other : TokenKind} (isPrintable : Char → Bool)

theorem isWordPart_of_label (h : kind.IsRead) (hlabel : kind.label = "Identifier") :
    ∀ c ∈ (kind.written isPrintable).toList, Text.isWordPart c = true := by
  obtain hword | ⟨mark, rfl⟩ | ⟨text, rfl⟩ | ⟨c, rfl⟩ := h.cases_written isPrintable
  · exact hword
  · simp [label] at hlabel
  · simp [label] at hlabel
  · simp [label] at hlabel

theorem written_inj (h : kind.IsRead) (hother : other.IsRead) (hlabel : kind.label = other.label)
    (hshown : (kind.written isPrintable).toList ++ (kind.tag.toList ++ [')']) =
      (other.written isPrintable).toList ++ (other.tag.toList ++ [')'])) :
    kind.written isPrintable = other.written isPrintable := by
  rw [← String.toList_inj]
  -- Only names come with a tag, and a name ends before it.
  by_cases hname : kind.label = "Identifier"
  · obtain ⟨c, rest, htag, hc⟩ := kind.exists_tag_append
    obtain ⟨d, others, hotherTag, hd⟩ := other.exists_tag_append
    rw [htag, hotherTag] at hshown
    exact (append_cons_inj (h.isWordPart_of_label isPrintable hname)
      (hother.isWordPart_of_label isPrintable (hlabel.symm.trans hname)) hc hd hshown).1
  · rw [tag_of_label hname, tag_of_label (hlabel ▸ hname)] at hshown
    exact List.append_cancel_right hshown

theorem toList_render (h : kind.IsRead) :
    (kind.render isPrintable).toList = kind.label.toList ++
      '(' :: ((kind.written isPrintable).toList ++ (kind.tag.toList ++ [')'])) := by
  simp [render_eq isPrintable h.ne_indentation]

theorem eq_of_render (h : kind.IsRead) (hother : other.IsRead)
    (hrender : kind.render isPrintable = other.render isPrintable) : kind = other := by
  have htext := congrArg String.toList hrender
  rw [h.toList_render, hother.toList_render] at htext
  obtain ⟨hlabel, hshown⟩ := append_cons_inj (fun _ => kind.isAlpha_of_mem_label)
    (fun _ => other.isAlpha_of_mem_label) (by decide) (by decide) htext
  exact h.eq_of_written isPrintable hother
    (h.written_inj isPrintable hother (String.toList_inj.1 hlabel) (List.cons.inj hshown).2)

theorem lineFeed_not_mem_written (h : kind.IsRead) :
    '\n' ∉ (kind.written isPrintable).toList := by
  obtain hword | ⟨mark, rfl⟩ | ⟨text, rfl⟩ | ⟨c, rfl⟩ := h.cases_written isPrintable
  · exact fun hmem => absurd (hword '\n' hmem) (by decide)
  · show '\n' ∉ (String.ofList mark.chars).toList
    rw [String.toList_ofList]
    exact fun hmem => absurd (Symbol.isGlyph_of_mem hmem) (by decide)
  · show '\n' ∉ (Text.quoted text isPrintable).toList
    rw [Text.quoted, String.toList_ofList]
    exact Quote.lineFeed_not_mem_enclose .double isPrintable text.toList
  · show '\n' ∉ (Text.quotedRune c isPrintable).toList
    rw [Text.quotedRune, String.toList_ofList]
    exact Quote.lineFeed_not_mem_enclose .single isPrintable [c]

theorem lineFeed_not_mem_render (h : kind.IsRead) :
    '\n' ∉ (kind.render isPrintable).toList := by
  have hlabel : '\n' ∉ kind.label.toList := fun hmem => nomatch kind.isAlpha_of_mem_label hmem
  have htag : '\n' ∉ kind.tag.toList := by
    unfold tag
    split <;> decide
  have hwritten := h.lineFeed_not_mem_written isPrintable
  rw [h.toList_render]
  simp [hlabel, htag, hwritten]

end IsRead

end TokenKind

/-! ### Tokens -/

/-- The token is one that a pass may find. -/
def Token.Occurs (token : Token) : Prop :=
  (∃ direction, token.kind = .indentation direction) ∨ token.kind.IsRead

theorem occurs_of_mem_tokens {source : String} {options : Options} {token : Token}
    (h : token ∈ (tokenize source options).tokens) : token.Occurs := by
  cases hliteral : token.isIndentation with
  | true =>
    left
    unfold Token.isIndentation at hliteral
    split at hliteral
    next direction hkind => exact ⟨direction, hkind⟩
    next => cases hliteral
  | false =>
    right
    have hmem : token ∈ (tokenize source options).literals := by
      rw [Findings.literals, List.mem_filter, hliteral]
      exact ⟨h, rfl⟩
    exact exists_lexeme_of_mem_literals hmem

namespace Token.Occurs

variable {token other : Token} (isPrintable : Char → Bool)

theorem lineFeed_not_mem_kind (h : token.Occurs) :
    '\n' ∉ (token.kind.render isPrintable).toList := by
  obtain ⟨direction, hkind⟩ | hread := h
  · rw [hkind, TokenKind.render_indentation]
    cases direction <;> decide
  · exact hread.lineFeed_not_mem_render isPrintable

theorem kind_eq (h : token.Occurs) (hother : other.Occurs)
    (hrender : token.kind.render isPrintable = other.kind.render isPrintable) :
    token.kind = other.kind := by
  have hmark : ∀ {kind : TokenKind}, kind.IsRead → '(' ∈ (kind.render isPrintable).toList := by
    intro kind hread
    rw [hread.toList_render]
    exact List.mem_append_right _ List.mem_cons_self
  have hnone : ∀ direction,
      '(' ∉ ((TokenKind.indentation direction).render isPrintable).toList := by
    intro direction
    rw [TokenKind.render_indentation]
    cases direction <;> decide
  obtain ⟨direction, hkind⟩ | hread := h
  · obtain ⟨second, hsecond⟩ | hotherRead := hother
    · rw [hkind, hsecond] at hrender ⊢
      rw [TokenKind.render_indentation, TokenKind.render_indentation] at hrender
      cases direction <;> cases second
      · rfl
      · exact absurd hrender (by decide)
      · exact absurd hrender (by decide)
      · rfl
    · rw [hkind] at hrender
      exact absurd (hrender ▸ hmark hotherRead) (hnone direction)
  · obtain ⟨second, hsecond⟩ | hotherRead := hother
    · rw [hsecond] at hrender
      exact absurd (hrender ▸ hmark hread) (hnone second)
    · exact hread.eq_of_render isPrintable hotherRead hrender

end Token.Occurs

/-! ### Lines -/

section Line

variable {token other : Token} (isPrintable : Char → Bool)

theorem toList_span (span : Span) :
    span.render.toList =
      Nat.toDigits 10 span.start ++ '.' :: '.' :: Nat.toDigits 10 span.stop := by
  simp [Span.render, Nat.toString_eq_repr, Nat.toList_repr]

theorem lineFeed_not_mem_toDigits (number : Nat) : '\n' ∉ Nat.toDigits 10 number :=
  fun hmem => nomatch isDigit_toDigits number _ hmem

theorem Token.Occurs.lineFeed_not_mem_render (h : token.Occurs) :
    '\n' ∉ (token.render isPrintable).toList := by
  have hkind := h.lineFeed_not_mem_kind isPrintable
  have hstart := lineFeed_not_mem_toDigits token.span.start
  have hstop := lineFeed_not_mem_toDigits token.span.stop
  rw [Token.render, String.toList_append, String.toList_append, toList_span]
  simp [hkind, hstart, hstop]

namespace CommandLine

theorem toList_tokenLine {flags : Flags} (h : flags.trivia = true) (token : Token) :
    (tokenLine flags token isPrintable).toList =
      Nat.toDigits 10 token.span.start ++ '.' :: '.' :: (Nat.toDigits 10 token.span.stop ++ ' ' ::
        ((token.kind.render isPrintable).toList ++ " (leading".toList ++
          ' ' :: Nat.toDigits 10 token.leading ++ ", trailing".toList ++
          ' ' :: Nat.toDigits 10 token.trailing ++ ")\n".toList)) := by
  have hleading : " (leading ".toList = " (leading".toList ++ [' '] := rfl
  have htrailing : ", trailing ".toList = ", trailing".toList ++ [' '] := rfl
  have hend : ")\n".toList = ")".toList ++ "\n".toList := rfl
  simp only [tokenLine, Token.render, if_pos h, String.toList_append, toList_span,
    Nat.toString_eq_repr, Nat.toList_repr, hleading, htrailing, hend, List.append_assoc,
    List.cons_append, List.nil_append]
  rfl

/-- With its trivia a line shows all of a token: the span in front of the kind, and the trivia
behind it, which is read from the end. -/
theorem eq_of_tokenLine {flags otherFlags : Flags} (h : token.Occurs) (hother : other.Occurs)
    (hflags : flags.trivia = true) (hotherFlags : otherFlags.trivia = true)
    (hline : tokenLine flags token isPrintable = tokenLine otherFlags other isPrintable) :
    token = other := by
  have htext := congrArg String.toList hline
  rw [toList_tokenLine isPrintable hflags, toList_tokenLine isPrintable hotherFlags] at htext
  obtain ⟨hstart, htext⟩ := toDigits_append_inj (by decide) htext
  obtain ⟨hstop, htext⟩ := toDigits_append_inj (by decide) (List.cons.inj htext).2
  obtain ⟨htext, htrailing⟩ := append_toDigits_inj (by decide) (List.append_cancel_right htext)
  obtain ⟨htext, hleading⟩ := append_toDigits_inj (by decide) (List.append_cancel_right htext)
  have hkind := h.kind_eq isPrintable hother (String.toList_inj.1 (List.append_cancel_right htext))
  obtain ⟨kind, ⟨start, stop⟩, leading, trailing⟩ := token
  obtain ⟨otherKind, ⟨otherStart, otherStop⟩, otherLeading, otherTrailing⟩ := other
  cases hstart
  cases hstop
  cases hleading
  cases htrailing
  cases hkind
  rfl

theorem exists_body (flags : Flags) (h : token.Occurs) :
    ∃ body, (tokenLine flags token isPrintable).toList = body ++ ['\n'] ∧ '\n' ∉ body := by
  have htoken := h.lineFeed_not_mem_render isPrintable
  have hleading := lineFeed_not_mem_toDigits token.leading
  have htrailing := lineFeed_not_mem_toDigits token.trailing
  refine ⟨_, String.toList_append, ?_⟩
  rw [String.toList_append]
  split_ifs
  · simp [htoken, hleading, htrailing, Nat.toString_eq_repr, Nat.toList_repr]
  · simp [htoken]

variable {tokens others : List Token} {flags otherFlags : Flags}

theorem eq_of_lines (h : ∀ token ∈ tokens, token.Occurs) (hothers : ∀ token ∈ others, token.Occurs)
    (hflags : flags.trivia = true) (hotherFlags : otherFlags.trivia = true)
    (hlines : tokens.flatMap (fun token => (tokenLine flags token isPrintable).toList) =
      others.flatMap fun token => (tokenLine otherFlags token isPrintable).toList) :
    tokens = others := by
  have hne : ∀ (flags : Flags) (token : Token),
      (tokenLine flags token isPrintable).toList ≠ [] := by
    intro flags token
    simp [tokenLine]
  induction tokens generalizing others with
  | nil =>
    cases others with
    | nil => rfl
    | cons other rest => exact absurd (List.append_eq_nil_iff.1 hlines.symm).1 (hne _ _)
  | cons token rest ih =>
    cases others with
    | nil => exact absurd (List.append_eq_nil_iff.1 hlines).1 (hne _ _)
    | cons other others =>
      obtain ⟨htoken, hrest⟩ := List.forall_mem_cons.1 h
      obtain ⟨hother, hothers⟩ := List.forall_mem_cons.1 hothers
      obtain ⟨body, hbody, hnone⟩ := exists_body isPrintable flags htoken
      obtain ⟨otherBody, hotherBody, hotherNone⟩ := exists_body isPrintable otherFlags hother
      rw [List.flatMap_cons, List.flatMap_cons, hbody, hotherBody, List.append_assoc,
        List.append_assoc, List.singleton_append, List.singleton_append] at hlines
      have hline : ∀ {row : List Char}, '\n' ∉ row → ∀ c ∈ row, (c != '\n') = true := by
        intro row hrow c hc
        rw [bne_iff_ne]
        rintro rfl
        exact hrow hc
      obtain ⟨hsame, hbehind⟩ := append_cons_inj (p := (· != '\n')) (hline hnone)
        (hline hotherNone) (by decide) (by decide) hlines
      rw [← hsame, ← hbody] at hotherBody
      rw [eq_of_tokenLine isPrintable htoken hother hflags hotherFlags
        (String.toList_inj.1 hotherBody.symm), ih hrest hothers (List.cons.inj hbehind).2]

theorem count_lineFeed (flags : Flags) (h : ∀ token ∈ tokens, token.Occurs) :
    (tokens.flatMap fun token => (tokenLine flags token isPrintable).toList).count '\n' =
      tokens.length := by
  induction tokens with
  | nil => rfl
  | cons token rest ih =>
    obtain ⟨htoken, hrest⟩ := List.forall_mem_cons.1 h
    obtain ⟨body, hbody, hnone⟩ := exists_body isPrintable flags htoken
    rw [List.flatMap_cons, hbody, List.count_append, List.count_append, ih hrest,
      List.count_eq_zero.2 hnone, List.length_cons, List.count_singleton_self]
    omega

end CommandLine

end Line

/-! ### Outputs -/

namespace CommandLine

theorem toList_output_dumpText (isPrintable : Char → Bool) (file text : String) (flags : Flags) :
    (dumpText file text flags isPrintable).output.toList =
      (tokenize text ⟨!flags.allowAmbiguous⟩).tokens.flatMap fun token =>
        (tokenLine flags token isPrintable).toList := by
  rw [dumpText, String.toList_join, List.flatMap_map]

end CommandLine

/-- The output for a text, with the trivia, determines all of the tokens, whichever characters are
taken to be printable. Any output has as many line feeds as there are tokens, since no token holds
one when it is shown. -/
theorem tokens_eq_of_output (isPrintable : Char → Bool) :
    (∀ (file text : String) (flags : CommandLine.Flags) (otherFile otherText : String)
        (otherFlags : CommandLine.Flags), flags.trivia = true → otherFlags.trivia = true →
        (CommandLine.dumpText file text flags isPrintable).output =
          (CommandLine.dumpText otherFile otherText otherFlags isPrintable).output →
        (tokenize text ⟨!flags.allowAmbiguous⟩).tokens =
          (tokenize otherText ⟨!otherFlags.allowAmbiguous⟩).tokens) ∧
      (∀ (file text : String) (flags : CommandLine.Flags),
        (CommandLine.dumpText file text flags isPrintable).output.toList.count '\n' =
          (tokenize text ⟨!flags.allowAmbiguous⟩).tokens.length) ∧
      ∀ source options, ∀ token ∈ (tokenize source options).tokens,
        '\n' ∉ (token.render isPrintable).toList := by
  refine ⟨?_, ?_, ?_⟩
  · intro file text flags otherFile otherText otherFlags hflags hotherFlags houtput
    have hlines := congrArg String.toList houtput
    rw [CommandLine.toList_output_dumpText, CommandLine.toList_output_dumpText] at hlines
    exact CommandLine.eq_of_lines isPrintable (fun _ => occurs_of_mem_tokens)
      (fun _ => occurs_of_mem_tokens) hflags hotherFlags hlines
  · intro file text flags
    rw [CommandLine.toList_output_dumpText]
    exact CommandLine.count_lineFeed isPrintable flags fun _ => occurs_of_mem_tokens
  · intro source options token hmem
    exact (occurs_of_mem_tokens hmem).lineFeed_not_mem_render isPrintable

/-- A tab in the place of a blank is not seen in the output, and in no token either. -/
theorem tokens_eq_of_tab :
    (CommandLine.dumpText "main.src" "a 1u8\"\n\"" ⟨true, false⟩).output =
        (CommandLine.dumpText "main.src" "a\t1u8\"\n\"" ⟨true, true⟩).output ∧
      (tokenize "a 1u8\"\n\"" ⟨true⟩).tokens = (tokenize "a\t1u8\"\n\"" ⟨false⟩).tokens := by
  suffices houtput : _ from ⟨houtput, (tokens_eq_of_output Text.isPrintable).1 "main.src"
    "a 1u8\"\n\"" ⟨true, false⟩ "main.src" "a\t1u8\"\n\"" ⟨true, true⟩ rfl rfl houtput⟩
  decide +kernel

end Offside
