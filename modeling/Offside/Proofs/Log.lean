import Mathlib.Data.List.Perm.Basic
import Offside.Proofs.Changes
import Offside.Proofs.Outline

/-!
# The log tells what a pass finds

Every token and every diagnostic is logged when it is found, and nothing that is found later touches
what the log shows of it: trivia only comes behind a token. Trivia that no token can take at the end
of the text is what stands behind all tokens and errors.
-/

namespace Offside

open Indentation (Direction)

/-! ### What an event shows -/

namespace Event

def tokenText? : Event → Option String
  | token made => some (token made).render
  | indentation direction position => some (indentation direction position).render
  | _ => none

def diagnosticText? : Event → Option String
  | diagnostic found => some (diagnostic found).render
  | _ => none

def unattributed? : Event → Option Nat
  | unattributed pending => some pending
  | _ => none

end Event

/-- What the log shows of a token: the literal with its leading trivia, or where the indentation
changes. -/
def Token.logged (token : Token) : String :=
  match token.kind with
  | .indentation direction =>
    "TRACE indentation direction=" ++ direction.render ++ " at=" ++ toString token.span.start
  | kind =>
    "TRACE token token=" ++ toString token.span.start ++ ".." ++ toString token.content.stop ++ " "
      ++ kind.render

namespace Event

theorem render_token (made : Token) :
    (token made).render = "TRACE token token=" ++ made.render := by
  have hstart : "TRACE token token=" = "TRACE" ++ " " ++ "token token=" := by
    decide
  have hrender : (token made).render = "TRACE" ++ " " ++ ("token token=" ++ made.render) := rfl
  simp only [hstart, hrender, String.append_assoc]

theorem render_indentation (direction : Direction) (position : Nat) :
    (indentation direction position).render =
      "TRACE indentation direction=" ++ direction.render ++ " at=" ++ toString position := by
  have hstart : "TRACE indentation direction=" = "TRACE" ++ " " ++ "indentation direction=" := by
    decide
  have hrender : (indentation direction position).render = "TRACE" ++ " " ++
      ("indentation direction=" ++ direction.render ++ " at=" ++ toString position) := rfl
  simp only [hstart, hrender, String.append_assoc]

theorem render_diagnostic (found : Diagnostic) :
    (diagnostic found).render = "DEBUG lex diagnostic error=" ++ found.render := by
  have hstart : "DEBUG lex diagnostic error=" = "DEBUG" ++ " " ++ "lex diagnostic error=" := by
    decide
  have hrender : (diagnostic found).render =
      "DEBUG" ++ " " ++ ("lex diagnostic error=" ++ found.render) := rfl
  simp only [hstart, hrender, String.append_assoc]

end Event

theorem tokenText?_bare (token : Token) : token.bare.event.tokenText? = some token.logged := by
  obtain ⟨kind, span, leading, trailing⟩ := token
  cases kind with
  | indentation direction => exact congrArg some (Event.render_indentation direction span.start)
  | _ =>
    refine congrArg some ((Event.render_token _).trans ?_)
    simp only [Token.render, Token.bare, Token.logged, Span.render, String.append_assoc]

/-- Where the last token ends that is no change of indentation, or the last error, `0` if there is
neither. -/
def Findings.lastStop (findings : Findings) : Nat :=
  ((findings.literalSpans ++ findings.errorSpans).map (·.stop)).foldr max 0

structure Findings.LogFits (findings : Findings) (length : Nat) : Prop where
  first : findings.log.head? = some (.started length)
  last : findings.log.getLast? =
    some (.finished findings.tokens.length findings.diagnostics.length)
  tokens : findings.log.filterMap Event.tokenText? = findings.tokens.map (·.logged)
  diagnostics : findings.log.filterMap Event.diagnosticText? =
    findings.diagnostics.map fun diagnostic => "DEBUG lex diagnostic error=" ++ diagnostic.render
  leftOver : findings.log.filterMap Event.unattributed? =
    if findings.lastStop < length then [length - findings.lastStop] else []

/-! ### Trivia that is left over -/

theorem max_stop_coveredFrom (tail : List Trivia) (cursor : Cursor) (items : List Item) :
    max (cursor.bound items tail) (((coveredFrom tail cursor items).map (·.stop)).foldr max 0) =
      (cursor.behind items).bound [] tail := by
  induction items generalizing cursor with
  | nil => exact Nat.max_zero _
  | cons item items ih =>
    have hlt := cursor.bound_cons_lt_bound_next item items tail
    have hrest := ih (cursor.next item)
    have hstop : (cursor.covered item items tail).stop = (cursor.next item).bound items tail := rfl
    have hbehind : cursor.behind (item :: items) = (cursor.next item).behind items := rfl
    rw [coveredFrom, List.map_cons, List.foldr_cons, hstop, hrest, hbehind]
    rw [← hrest]
    omega

theorem lastStop_of_layout {source : String} (options : Options) {items : List Item}
    {tail : List Trivia} (hlayout : Layout.ofText source.toList = ⟨items, tail⟩) :
    (tokenize source options).lastStop = (Cursor.behind {} items).bound [] tail := by
  have hperm := (perm_spans_of_layout options hlayout).map (·.stop)
  have hstart : Cursor.bound {} items tail = 0 := rfl
  have hlast := max_stop_coveredFrom tail {} items
  rw [hstart, Nat.zero_max] at hlast
  rw [Findings.lastStop, hperm.foldr_eq, hlast]

theorem filterMap_unattributed?_eventsFrom (options : Options) (tail : List Trivia)
    (cursor : Cursor) (items : List Item) :
    (eventsFrom options tail cursor items).filterMap Event.unattributed? =
      ((cursor.behind items).leftOver tail).filterMap Event.unattributed? := by
  have hevents : ∀ tokens : List Token,
      (tokens.map (·.event)).filterMap Event.unattributed? = [] := by
    intro tokens
    rw [List.filterMap_map]
    refine List.filterMap_eq_nil_iff.2 fun token _ => ?_
    show token.event.unattributed? = none
    unfold Token.event
    split <;> rfl
  have hdiagnostics : ∀ diagnostics : List Diagnostic,
      (diagnostics.map Event.diagnostic).filterMap Event.unattributed? = [] := by
    intro diagnostics
    rw [List.filterMap_map]
    exact List.filterMap_eq_nil_iff.2 fun _ _ => rfl
  induction items generalizing cursor with
  | nil =>
    rw [eventsFrom, List.filterMap_append, Cursor.closing, hevents, List.append_nil]
    rfl
  | cons item items ih =>
    rw [eventsFrom, List.filterMap_append, ih, Cursor.events, Cursor.found, List.filterMap_append,
      List.filterMap_append, List.filterMap_append, hevents, hevents, hdiagnostics, hdiagnostics]
    rfl

theorem filterMap_leftOver (cursor : Cursor) (tail : List Trivia) {length : Nat}
    (hlength : cursor.position + (Trivia.text tail).length = length) :
    (cursor.leftOver tail).filterMap Event.unattributed? =
      if cursor.bound [] tail < length then [length - cursor.bound [] tail] else [] := by
  cases howned : cursor.owned with
  | true =>
    have hbound : cursor.bound [] tail = length := by
      rw [Cursor.bound, howned]
      exact hlength
    rw [Cursor.leftOver, howned, hbound, if_neg (Nat.lt_irrefl length)]
    rfl
  | false =>
    have hbound : cursor.bound [] tail = cursor.position := by
      rw [Cursor.bound, howned]
      rfl
    have hpending : length - cursor.position = (Trivia.text tail).length := by
      omega
    rw [Cursor.leftOver, howned, hbound, hpending, Bool.false_or]
    by_cases htail : (Trivia.text tail).length = 0
    · rw [if_pos (decide_eq_true htail), if_neg (by omega)]
      rfl
    · rw [if_neg (by simp [htail]), if_pos (by omega)]
      rfl

/-- What is logged of the tokens and the diagnostics is what the pass finds, in the same order, and
trivia at the end of the text is logged as left over if it is part of no token. -/
theorem logFits_tokenize (source : String) (options : Options) :
    (tokenize source options).LogFits source.toList.length := by
  obtain ⟨items, tail, hlayout⟩ : ∃ items tail, Layout.ofText source.toList = ⟨items, tail⟩ :=
    ⟨_, _, rfl⟩
  have hlog := log_tokenize source options hlayout
  have htokens := Layout.tokens_tokenize options hlayout
  refine ⟨?first, ?last, ?tokens, ?diagnostics, ?leftOver⟩
  case first =>
    rw [hlog]
    rfl
  case last =>
    rw [hlog, ← List.cons_append, List.getLast?_concat]
  case tokens =>
    have hall : (tokensFrom tail {} items).filterMap
        (fun token => token.bare.event.tokenText?) =
          (tokensFrom tail {} items).map (·.logged) := by
      rw [← List.filterMap_eq_map]
      exact List.filterMap_congr fun token _ => tokenText?_bare token
    rw [hlog, htokens, List.filterMap_cons_none rfl, List.filterMap_append,
      filterMap_eventsFrom (fun _ => rfl) fun _ => rfl, hall]
    exact List.append_nil _
  case diagnostics =>
    have hdiagnostics := Layout.diagnostics_tokenize options hlayout
    have hshown : ∀ events : List Event, events.filterMap Event.diagnosticText? =
        (events.filterMap Event.diagnostic?).map
          fun diagnostic => "DEBUG lex diagnostic error=" ++ diagnostic.render := by
      intro events
      rw [List.map_filterMap]
      refine List.filterMap_congr fun event _ => ?_
      cases event with
      | diagnostic found => exact congrArg some (Event.render_diagnostic found)
      | _ => rfl
    rw [hshown, hlog, hdiagnostics, List.filterMap_cons_none rfl, List.filterMap_append,
      filterMap_diagnostic?_eventsFrom]
    exact congrArg (List.map _) (List.append_nil _)
  case leftOver =>
    rw [hlog, lastStop_of_layout options hlayout, List.filterMap_cons_none rfl,
      List.filterMap_append, filterMap_unattributed?_eventsFrom,
      filterMap_leftOver _ tail (Layout.position_add_tail hlayout)]
    exact List.append_nil _

/-- The number is no token, so it leaves the comment behind it to no one. -/
example : (tokenize "(\n  1x # c").log.map (·.render) =
    ["DEBUG lexing code_points=10", "TRACE token token=0..1 Symbol(()",
      "TRACE indentation direction=Indent at=2",
      "DEBUG lex diagnostic error=invalid number: \"1x\" at 4..6",
      "TRACE unattributed trailing trivia pending=4", "TRACE indentation direction=Dedent at=10",
      "DEBUG lexing complete tokens=3 errors=1"] := by
  decide +kernel

end Offside
