import Mathlib.Data.Int.ModEq
import Mathlib.Data.List.Forall2
import Offside.Staging.Counting

/-!
# No trivia is lost

A staging may be used in any order: tokens come in, any index may be made the owner, trivia comes in
and is taken out, and what is left is given away at any end. Each character of trivia that came in
is then pending, has been taken out, or is at the end of one token, and nothing else of a token has
changed.

Sums that do not fit in a word end the run or are wrapped. At each point that a run reaches the
trivia is all there: exactly in the first case, and up to multiples of the limit in the second one.
-/

namespace Offside

/-! ### Bounded sums -/

namespace Counting

/-- Two counts are one to the build if they differ by a multiple of this number. -/
def modulus (counting : Counting) : Nat := if counting.wraps then counting.limit else 0

variable {counting : Counting} {first second sum : Nat}

theorem add_modEq (h : counting.add first second = some sum) :
    sum ≡ first + second [MOD counting.modulus] := by
  unfold add at h
  split_ifs at h with hfits hwraps
  · cases h
    rfl
  · cases h
    rw [modulus, if_pos hwraps]
    exact Nat.mod_modEq _ _

theorem exists_add_of_wraps (h : counting.wraps = true) (first second : Nat) :
    ∃ sum, counting.add first second = some sum := by
  unfold add
  split_ifs
  · exact ⟨_, rfl⟩
  · exact ⟨_, rfl⟩

theorem add_of_lt (h : first + second < counting.limit) :
    counting.add first second = some (first + second) := if_pos h

theorem subtract_congr {first' second' count : Nat}
    (hfirst : first' ≡ first + count [MOD counting.modulus])
    (hsecond : second' ≡ second + count [MOD counting.modulus]) :
    counting.subtract first' second' = counting.subtract first second := by
  unfold modulus at hfirst hsecond
  unfold subtract
  cases hwraps : counting.wraps with
  | true =>
    rw [hwraps, if_pos rfl] at hfirst hsecond
    have hdifference := (Int.natCast_modEq_iff.2 hfirst).sub (Int.natCast_modEq_iff.2 hsecond)
    push_cast at hdifference
    rw [add_sub_add_right_eq_sub] at hdifference
    rw [if_pos rfl, if_pos rfl, hdifference.eq]
  | false =>
    rw [hwraps, if_neg Bool.false_ne_true, Nat.modEq_zero_iff] at hfirst hsecond
    subst hfirst hsecond
    simp only [Bool.false_eq_true, if_false, Nat.add_le_add_iff_right, Nat.add_sub_add_right]

end Counting

namespace Token

variable {counting : Counting}

theorem extend?_eq_some_iff {token grown : Token} {count : Nat} :
    token.extend? counting count = some grown ↔
      ∃ trailing stop, counting.add token.trailing count = some trailing ∧
        counting.add token.span.stop count = some stop ∧
        { token with span := ⟨token.span.start, stop⟩, trailing } = grown := by
  simp [extend?, Option.bind_eq_some_iff]

/-- The token `now` is the token `before` with more trivia at its end. -/
structure IsGrown (counting : Counting) (before now : Token) : Prop where
  kind : now.kind = before.kind
  start : now.span.start = before.span.start
  leading : now.leading = before.leading
  content : now.content? counting = before.content? counting
  growth : ∃ count, now.span.stop ≡ before.span.stop + count [MOD counting.modulus] ∧
    now.trailing ≡ before.trailing + count [MOD counting.modulus]

namespace IsGrown

theorem refl (token : Token) : IsGrown counting token token :=
  ⟨rfl, rfl, rfl, rfl, 0, rfl, rfl⟩

theorem of_growth {before now : Token} (count : Nat) (hkind : now.kind = before.kind)
    (hstart : now.span.start = before.span.start) (hleading : now.leading = before.leading)
    (hstop : now.span.stop ≡ before.span.stop + count [MOD counting.modulus])
    (htrailing : now.trailing ≡ before.trailing + count [MOD counting.modulus]) :
    IsGrown counting before now := by
  refine ⟨hkind, hstart, hleading, ?_, count, hstop, htrailing⟩
  rw [content?, content?, hstart, hleading, Counting.subtract_congr hstop htrailing]

theorem of_extend? {token grown : Token} {count : Nat}
    (h : token.extend? counting count = some grown) : IsGrown counting token grown := by
  obtain ⟨trailing, stop, htrailing, hstop, rfl⟩ := extend?_eq_some_iff.1 h
  exact of_growth count rfl rfl rfl (Counting.add_modEq hstop) (Counting.add_modEq htrailing)

theorem trans {first second third : Token} (h : IsGrown counting first second)
    (hthird : IsGrown counting second third) : IsGrown counting first third := by
  obtain ⟨count, hstop, htrailing⟩ := h.growth
  obtain ⟨more, hmore, htrailing'⟩ := hthird.growth
  refine of_growth (count + more) (hthird.kind.trans h.kind) (hthird.start.trans h.start)
    (hthird.leading.trans h.leading) (hmore.trans ?_) (htrailing'.trans ?_)
  · rw [← Nat.add_assoc]
    exact hstop.add_right more
  · rw [← Nat.add_assoc]
    exact htrailing.add_right more

end IsGrown

end Token

namespace Staging

open Token (IsGrown)

variable {counting : Counting}

def trailingLength (tokens : List Token) : Nat := (tokens.map (·.trailing)).sum

theorem trailingLength_append (front back : List Token) :
    trailingLength (front ++ back) = trailingLength front + trailingLength back := by
  rw [trailingLength, List.map_append, List.sum_append, trailingLength, trailingLength]

theorem trailingLength_split (front back : List Token) (token : Token) :
    trailingLength (front ++ token :: back) =
      token.trailing + (trailingLength front + trailingLength back) := by
  simp only [trailingLength, List.map_append, List.map_cons, List.sum_append, List.sum_cons]
  omega

theorem forall₂_isGrown_refl (tokens : List Token) :
    List.Forall₂ (IsGrown counting) tokens tokens :=
  List.forall₂_same.2 fun token _ => IsGrown.refl token

theorem forall₂_isGrown_trans {first second third : List Token}
    (h : List.Forall₂ (IsGrown counting) first second)
    (hthird : List.Forall₂ (IsGrown counting) second third) :
    List.Forall₂ (IsGrown counting) first third := by
  induction h generalizing third with
  | nil => exact hthird
  | cons hgrown _ ih =>
    cases hthird with
    | cons hgrown' hthird => exact .cons (hgrown.trans hgrown') (ih hthird)

theorem exists_split_of_getElem? {tokens : List Token} {index : Nat} {token : Token}
    (h : tokens[index]? = some token) :
    ∃ front back, tokens = front ++ token :: back ∧ front.length = index := by
  obtain ⟨hlt, rfl⟩ := List.getElem?_eq_some_iff.1 h
  refine ⟨tokens.take index, tokens.drop (index + 1), ?_, List.length_take_of_le hlt.le⟩
  rw [← List.drop_eq_getElem_cons, List.take_append_drop]

theorem toList_tokens_replace {staging : Staging} {front back : List Token} {token : Token}
    (hsplit : staging.tokens.toList = front ++ token :: back) (grown : Token) :
    (staging.replace front.length grown).tokens.toList = front ++ grown :: back := by
  rw [replace, Array.toList_setIfInBounds, hsplit]
  simp

theorem getElem?_append_cons_of_ne {front back : List Token} {index : Nat}
    (hne : index ≠ front.length) (token other : Token) :
    (front ++ token :: back)[index]? = (front ++ other :: back)[index]? := by
  rcases Nat.lt_or_gt_of_ne hne with hlt | hgt
  · rw [List.getElem?_append_left hlt, List.getElem?_append_left hlt]
  · obtain ⟨more, rfl⟩ := Nat.exists_eq_add_of_lt hgt
    simp [List.getElem?_append_right, Nat.add_assoc]

/-! ### Uses of a staging -/

inductive Use where
  | push (token : Token)
  | setOwner (index : Nat)
  | clearOwner
  | addTrivia (count : Nat)
  | takePending
  | settleTrailing (endOfText : Nat)
deriving DecidableEq, Repr

namespace Use

def added : Use → List Token
  | push token => [token]
  | _ => []

def given : Use → Nat
  | addTrivia count => count
  | _ => 0

end Use

def perform? (counting : Counting) (staging : Staging) : Use → Option (Nat × Staging)
  | .push token => some (0, staging.push token)
  | .setOwner index => some (0, staging.setOwner index)
  | .clearOwner => some (0, staging.clearOwner)
  | .addTrivia count => (staging.addTrivia? counting count).map (0, ·)
  | .takePending => some staging.takePending
  | .settleTrailing endOfText =>
    (staging.settleTrailing? counting endOfText).map fun answer => (0, answer.2)

def performAll? (counting : Counting) : Staging → List Use → Option (Nat × Staging)
  | staging, [] => some (0, staging)
  | staging, use :: uses => do
    let (taken, next) ← staging.perform? counting use
    let (more, last) ← next.performAll? counting uses
    return (taken + more, last)

/-! ### What a use keeps -/

/-- From `before` to `now` the tokens `added` and `given` characters of trivia have come in, and
`taken` characters have been taken out. All that is left is pending or at the ends of the tokens. -/
structure Conserves (counting : Counting) (before now : Staging) (added : List Token)
    (given taken : Nat) : Prop where
  tokens : List.Forall₂ (IsGrown counting) (before.tokens.toList ++ added) now.tokens.toList
  trivia : trailingLength (before.tokens.toList ++ added) + before.pending + given ≡
    trailingLength now.tokens.toList + now.pending + taken [MOD counting.modulus]

/-- The answer `settled` and the staging `now` behind it, when what is pending may go to the last
token that is no change of indentation. -/
structure Settles (counting : Counting) (staging : Staging) (endOfText : Nat) (settled : Bool)
    (now : Staging) : Prop where
  unsettled : settled = false → now = staging
  pending : settled = true → now.pending = 0
  changes : settled = true → ∀ (index : Nat) (token : Token),
    staging.tokens[index]? = some token → token.isIndentation = true →
    now.tokens[index]? = some token
  none : staging.pending = 0 → now = staging
  last : settled = true → staging.pending ≠ 0 → ∃ (done : List Token) (token grown : Token)
    (changes : List Token), staging.tokens.toList = done ++ token :: changes ∧
      token.isIndentation = false ∧ (∀ change ∈ changes, change.isIndentation = true) ∧
      now.tokens.toList = done ++ grown :: changes ∧
      token.extend? counting staging.pending = some grown ∧ grown.span.stop = endOfText

namespace Conserves

theorem of_tokens_eq {before now : Staging} {given taken : Nat}
    (htokens : now.tokens = before.tokens)
    (hpending : before.pending + given ≡ now.pending + taken [MOD counting.modulus]) :
    Conserves counting before now [] given taken := by
  refine ⟨?_, ?_⟩
  · rw [List.append_nil, htokens]
    exact forall₂_isGrown_refl before.tokens.toList
  · rw [List.append_nil, htokens, Nat.add_assoc, Nat.add_assoc]
    exact hpending.add_left _

theorem trans {first second third : Staging} {added added' : List Token}
    {given given' taken taken' : Nat} (h : Conserves counting first second added given taken)
    (hthird : Conserves counting second third added' given' taken') :
    Conserves counting first third (added ++ added') (given + given') (taken + taken') := by
  refine ⟨?_, ?_⟩
  · rw [← List.append_assoc]
    exact forall₂_isGrown_trans (List.rel_append h.tokens (forall₂_isGrown_refl added'))
      hthird.tokens
  · have htrivia := h.trivia.add_right (trailingLength added' + given')
    have htrivia' := hthird.trivia.add_right taken
    rw [trailingLength_append] at htrivia htrivia'
    rw [trailingLength_append, trailingLength_append]
    calc
      _ = trailingLength first.tokens.toList + trailingLength added + first.pending + given +
          (trailingLength added' + given') := by omega
      _ ≡ trailingLength second.tokens.toList + second.pending + taken +
          (trailingLength added' + given') [MOD counting.modulus] := htrivia
      _ = trailingLength second.tokens.toList + trailingLength added' + second.pending + given' +
          taken := by omega
      _ ≡ trailingLength third.tokens.toList + third.pending + taken' + taken
          [MOD counting.modulus] := htrivia'
      _ = _ := by omega

theorem of_extend? {before now : Staging} {front back : List Token} {token grown : Token}
    {count given : Nat} (hbefore : before.tokens.toList = front ++ token :: back)
    (hnow : now.tokens.toList = front ++ grown :: back)
    (hgrown : token.extend? counting count = some grown)
    (hpending : before.pending + given = now.pending + count) :
    Conserves counting before now [] given 0 := by
  refine ⟨?_, ?_⟩
  · rw [List.append_nil, hbefore, hnow]
    exact List.rel_append (forall₂_isGrown_refl front)
      (.cons (IsGrown.of_extend? hgrown) (forall₂_isGrown_refl back))
  · obtain ⟨trailing, stop, htrailing, -, rfl⟩ := Token.extend?_eq_some_iff.1 hgrown
    have hsum := (Counting.add_modEq htrailing).symm.add_right
      (trailingLength front + trailingLength back + now.pending)
    rw [List.append_nil, hbefore, hnow, trailingLength_split, trailingLength_split]
    calc
      _ = token.trailing + count + (trailingLength front + trailingLength back + now.pending) := by
        omega
      _ ≡ trailing + (trailingLength front + trailingLength back + now.pending)
          [MOD counting.modulus] := hsum
      _ = _ := by simp only; omega

end Conserves

theorem addTrivia?_cases {staging now : Staging} {count : Nat}
    (h : staging.addTrivia? counting count = some now) :
    (∃ pending, counting.add staging.pending count = some pending ∧
        { staging with pending } = now) ∨
      ∃ front token grown back, staging.tokens.toList = front ++ token :: back ∧
        token.extend? counting count = some grown ∧
        staging.replace front.length grown = now := by
  have hkeep : staging.keep? counting count = some now →
      ∃ pending, counting.add staging.pending count = some pending ∧
        { staging with pending } = now := by
    simp [keep?, Option.bind_eq_some_iff]
  unfold addTrivia? at h
  split at h
  next index _ =>
    split at h
    next token htoken =>
      rw [← Array.getElem?_toList] at htoken
      obtain ⟨front, back, hsplit, rfl⟩ := exists_split_of_getElem? htoken
      obtain ⟨grown, hgrown, hnow⟩ := Option.map_eq_some_iff.1 h
      exact .inr ⟨front, token, grown, back, hsplit, hgrown, hnow⟩
    next => exact .inl (hkeep h)
  next => exact .inl (hkeep h)

theorem conserves_addTrivia? {staging now : Staging} {count : Nat}
    (h : staging.addTrivia? counting count = some now) :
    Conserves counting staging now [] count 0 := by
  obtain ⟨pending, hpending, rfl⟩ | ⟨front, token, grown, back, hsplit, hgrown, rfl⟩ :=
    addTrivia?_cases h
  · exact Conserves.of_tokens_eq rfl (Counting.add_modEq hpending).symm
  · exact Conserves.of_extend? hsplit (toList_tokens_replace hsplit grown) hgrown rfl

/-! ### The end of a text -/

theorem exists_split_of_lastLiteral? {tokens : Array Token} {count index : Nat}
    (hcount : count ≤ tokens.size) (h : lastLiteral? tokens count = some index) :
    ∃ done token changes, tokens.toList.take count = done ++ token :: changes ∧
      done.length = index ∧ token.isIndentation = false ∧
      ∀ change ∈ changes, change.isIndentation = true := by
  -- The search goes back from the end: what it has passed are the changes.
  induction count with
  | zero => cases h
  | succ count ih =>
    have hlt : count < tokens.toList.length := hcount
    have htake := List.take_append_getElem hlt
    rw [lastLiteral?, Array.getElem?_eq_getElem hlt] at h
    split_ifs at h with hliteral
    · cases h
      refine ⟨tokens.toList.take index, tokens.toList[index], [], htake.symm, ?_, ?_, ?_⟩
      · exact List.length_take_of_le (Nat.le_of_lt hlt)
      · simpa using hliteral
      · exact fun change hmem => absurd hmem List.not_mem_nil
    · obtain ⟨done, token, changes, hsplit, hdone, htoken, hchanges⟩ :=
        ih (Nat.le_of_lt hlt) h
      refine ⟨done, token, changes ++ [tokens.toList[count]], ?_, hdone, htoken, ?_⟩
      · rw [← htake, hsplit, List.append_assoc, List.cons_append]
      · intro change hmem
        rcases List.mem_append.1 hmem with hmem | hmem
        · exact hchanges change hmem
        · rw [List.mem_singleton.1 hmem]
          simpa using hliteral

/-- Either the staging stays as it is, or all that is pending goes to the last literal. -/
theorem settleTrailing?_cases {staging now : Staging} {endOfText : Nat} {settled : Bool}
    (h : staging.settleTrailing? counting endOfText = some (settled, now)) :
    (decide (staging.pending = 0) = settled ∧ staging = now) ∨
      settled = true ∧ staging.pending ≠ 0 ∧ ∃ done token grown changes,
        staging.tokens.toList = done ++ token :: changes ∧ token.isIndentation = false ∧
        (∀ change ∈ changes, change.isIndentation = true) ∧
        token.extend? counting staging.pending = some grown ∧ grown.span.stop = endOfText ∧
        { staging.replace done.length grown with pending := 0 } = now := by
  unfold settleTrailing? at h
  split_ifs at h with hpending
  · cases h
    exact .inl ⟨decide_eq_true hpending, rfl⟩
  · have hstays : some (false, staging) = some (settled, now) →
        decide (staging.pending = 0) = settled ∧ staging = now := by
      intro hsome
      cases hsome
      exact ⟨decide_eq_false hpending, rfl⟩
    split at h
    next => exact .inl (hstays h)
    next index hlast =>
      obtain ⟨done, token, changes, hsplit, rfl, htoken, hchanges⟩ :=
        exists_split_of_lastLiteral? (Nat.le_refl staging.tokens.size) hlast
      have htokens : staging.tokens.toList = done ++ token :: changes := by
        rw [← hsplit, ← Array.length_toList, List.take_length]
      have hget : staging.tokens[done.length]? = some token := by
        rw [← Array.getElem?_toList, htokens]
        simp
      rw [hget] at h
      obtain ⟨stop, hstop, h⟩ := Option.bind_eq_some_iff.1 h
      split_ifs at h with hend
      · obtain ⟨grown, hgrown, h⟩ := Option.bind_eq_some_iff.1 h
        obtain ⟨trailing, stop', -, hstop', rfl⟩ := Token.extend?_eq_some_iff.1 hgrown
        rw [hstop] at hstop'
        cases hstop'
        cases h
        exact .inr ⟨rfl, hpending, done, token, _, changes, htokens, htoken, hchanges, hgrown,
          hend, rfl⟩
      · exact .inl (hstays h)

theorem conserves_settleTrailing? {staging now : Staging} {endOfText : Nat} {settled : Bool}
    (h : staging.settleTrailing? counting endOfText = some (settled, now)) :
    Conserves counting staging now [] 0 0 := by
  obtain ⟨-, rfl⟩ | ⟨-, -, done, token, grown, changes, htokens, -, -, hgrown, -, rfl⟩ :=
    settleTrailing?_cases h
  · exact Conserves.of_tokens_eq rfl rfl
  · exact Conserves.of_extend? htokens (toList_tokens_replace htokens grown) hgrown (by simp)

theorem settles_settleTrailing? {staging now : Staging} {endOfText : Nat} {settled : Bool}
    (h : staging.settleTrailing? counting endOfText = some (settled, now)) :
    Settles counting staging endOfText settled now := by
  obtain ⟨rfl, rfl⟩ | ⟨rfl, hpending, done, token, grown, changes, htokens, htoken, hchanges,
    hgrown, hstop, rfl⟩ := settleTrailing?_cases h
  · refine ⟨fun _ => rfl, of_decide_eq_true, fun _ _ _ hget _ => hget, fun _ => rfl, ?_⟩
    exact fun hsettled hpending => absurd (of_decide_eq_true hsettled) hpending
  · have hnow := toList_tokens_replace htokens grown
    refine ⟨fun h => Bool.noConfusion h, fun _ => rfl, ?_, fun h => absurd h hpending, ?_⟩
    · intro _ index change hget hchange
      have hne : index ≠ done.length := by
        rintro rfl
        have htoken' : token = change := by
          simpa [← Array.getElem?_toList, htokens] using hget
        rw [← htoken', htoken] at hchange
        exact Bool.noConfusion hchange
      rw [← Array.getElem?_toList, htokens, getElem?_append_cons_of_ne hne token grown, ← hnow,
        Array.getElem?_toList] at hget
      exact hget
    · exact fun _ _ =>
        ⟨done, token, grown, changes, htokens, htoken, hchanges, hnow, hgrown, hstop⟩

/-! ### Any uses -/

theorem conserves_perform? {staging now : Staging} {use : Use} {taken : Nat}
    (h : staging.perform? counting use = some (taken, now)) :
    Conserves counting staging now use.added use.given taken := by
  cases use with
  | push token =>
    cases h
    refine ⟨?_, ?_⟩
    · simpa [push, Use.added] using forall₂_isGrown_refl (staging.tokens.toList ++ [token])
    · simp [push, Use.added, Use.given, Nat.ModEq]
  | setOwner index =>
    cases h
    exact Conserves.of_tokens_eq rfl rfl
  | clearOwner =>
    cases h
    exact Conserves.of_tokens_eq rfl rfl
  | addTrivia count =>
    obtain ⟨next, hnext, hsome⟩ := Option.map_eq_some_iff.1 h
    cases hsome
    exact conserves_addTrivia? hnext
  | takePending =>
    cases h
    exact Conserves.of_tokens_eq rfl (by rw [Nat.add_comm]; rfl)
  | settleTrailing endOfText =>
    obtain ⟨⟨settled, next⟩, hnext, hsome⟩ := Option.map_eq_some_iff.1 h
    cases hsome
    exact conserves_settleTrailing? hnext

theorem conserves_performAll? {staging now : Staging} {uses : List Use} {taken : Nat}
    (h : staging.performAll? counting uses = some (taken, now)) :
    Conserves counting staging now (uses.flatMap Use.added) (uses.map Use.given).sum taken := by
  -- The first use leads to another staging, from which the others go on.
  induction uses generalizing staging taken with
  | nil =>
    cases h
    exact Conserves.of_tokens_eq rfl rfl
  | cons use uses ih =>
    obtain ⟨⟨first, next⟩, hfirst, h⟩ := Option.bind_eq_some_iff.1 h
    obtain ⟨⟨more, last⟩, hmore, h⟩ := Option.bind_eq_some_iff.1 h
    cases h
    have htrans := (conserves_perform? hfirst).trans (ih hmore)
    simpa using htrans

/-! ### Runs that go on -/

theorem exists_extend?_of_wraps (h : counting.wraps = true) (token : Token) (count : Nat) :
    ∃ grown, token.extend? counting count = some grown := by
  obtain ⟨trailing, htrailing⟩ := Counting.exists_add_of_wraps h token.trailing count
  obtain ⟨stop, hstop⟩ := Counting.exists_add_of_wraps h token.span.stop count
  exact ⟨_, Token.extend?_eq_some_iff.2 ⟨trailing, stop, htrailing, hstop, rfl⟩⟩

theorem exists_addTrivia?_of_wraps (h : counting.wraps = true) (staging : Staging) (count : Nat) :
    ∃ now, staging.addTrivia? counting count = some now := by
  obtain ⟨pending, hpending⟩ := Counting.exists_add_of_wraps h staging.pending count
  unfold addTrivia? keep?
  rw [hpending]
  split
  · split
    next token _ =>
      obtain ⟨grown, hgrown⟩ := exists_extend?_of_wraps h token count
      rw [hgrown]
      exact ⟨_, rfl⟩
    next => exact ⟨_, rfl⟩
  · exact ⟨_, rfl⟩

theorem exists_settleTrailing?_of_wraps (h : counting.wraps = true) (staging : Staging)
    (endOfText : Nat) : ∃ answer, staging.settleTrailing? counting endOfText = some answer := by
  unfold settleTrailing?
  split_ifs
  · exact ⟨_, rfl⟩
  · split
    · exact ⟨_, rfl⟩
    · split
      · exact ⟨_, rfl⟩
      next token _ =>
        obtain ⟨stop, hstop⟩ := Counting.exists_add_of_wraps h token.span.stop staging.pending
        obtain ⟨grown, hgrown⟩ := exists_extend?_of_wraps h token staging.pending
        rw [hstop, hgrown]
        simp only [Option.bind_eq_bind, Option.bind_some]
        split_ifs
        · exact ⟨_, rfl⟩
        · exact ⟨_, rfl⟩

theorem exists_perform?_of_wraps (h : counting.wraps = true) (staging : Staging) (use : Use) :
    ∃ answer, staging.perform? counting use = some answer := by
  cases use with
  | addTrivia count =>
    obtain ⟨now, hnow⟩ := exists_addTrivia?_of_wraps h staging count
    exact ⟨(0, now), by rw [perform?, hnow]; rfl⟩
  | settleTrailing endOfText =>
    obtain ⟨answer, hanswer⟩ := exists_settleTrailing?_of_wraps h staging endOfText
    exact ⟨(0, answer.2), by rw [perform?, hanswer]; rfl⟩
  | _ => exact ⟨_, rfl⟩

theorem exists_performAll?_of_wraps (h : counting.wraps = true) (staging : Staging)
    (uses : List Use) : ∃ answer, staging.performAll? counting uses = some answer := by
  induction uses generalizing staging with
  | nil => exact ⟨_, rfl⟩
  | cons use uses ih =>
    obtain ⟨⟨taken, next⟩, hnext⟩ := exists_perform?_of_wraps h staging use
    obtain ⟨⟨more, last⟩, hlast⟩ := ih next
    exact ⟨(taken + more, last), by rw [performAll?, hnext]; simp [hlast]⟩

/-! ### Runs in which all sums fit -/

def perform (staging : Staging) : Use → Nat × Staging
  | .push token => (0, staging.push token)
  | .setOwner index => (0, staging.setOwner index)
  | .clearOwner => (0, staging.clearOwner)
  | .addTrivia count => (0, staging.addTrivia count)
  | .takePending => staging.takePending
  | .settleTrailing endOfText => (0, (staging.settleTrailing endOfText).2)

def performAll : Staging → List Use → Nat × Staging
  | staging, [] => (0, staging)
  | staging, use :: uses =>
    ((staging.perform use).1 + ((staging.perform use).2.performAll uses).1,
      ((staging.perform use).2.performAll uses).2)

def Fits (counting : Counting) (count : Nat) (token : Token) : Prop :=
  token.trailing + count < counting.limit ∧ token.span.stop + count < counting.limit

/-- All the trivia, pending or still to come in, would fit behind any of the tokens. -/
structure HasRoom (counting : Counting) (staging : Staging) (uses : List Use) : Prop where
  pending : staging.pending + (uses.map Use.given).sum < counting.limit
  tokens : ∀ token ∈ staging.tokens.toList ++ uses.flatMap Use.added,
    Fits counting (staging.pending + (uses.map Use.given).sum) token

section Room

variable {staging : Staging} {count more : Nat} {token : Token}

theorem Fits.mono (h : Fits counting more token) (hle : count ≤ more) :
    Fits counting count token :=
  ⟨by have := h.1; omega, by have := h.2; omega⟩

theorem Fits.extend?_eq (h : Fits counting count token) :
    token.extend? counting count = some (token.extend count) :=
  Token.extend?_eq_some_iff.2
    ⟨_, _, Counting.add_of_lt h.1, Counting.add_of_lt h.2, rfl⟩

theorem replace_eq_modify {index : Nat} (h : staging.tokens[index]? = some token)
    (change : Token → Token) :
    staging.replace index (change token) =
      { staging with tokens := staging.tokens.modify index change } := by
  have htokens : staging.tokens.setIfInBounds index (change token) =
      staging.tokens.modify index change := by
    rw [← Array.toList_inj, Array.toList_setIfInBounds, Array.toList_modify,
      List.modify_eq_set_getElem?, Array.getElem?_toList, h]
    rfl
  rw [replace, htokens]

theorem addTrivia?_eq (hpending : staging.pending + count < counting.limit)
    (htokens : ∀ token ∈ staging.tokens.toList, Fits counting count token) :
    staging.addTrivia? counting count = some (staging.addTrivia count) := by
  have hkeep : staging.keep? counting count =
      some { staging with pending := staging.pending + count } := by
    rw [keep?, Counting.add_of_lt hpending]
    rfl
  unfold addTrivia? addTrivia
  cases howner : staging.owner with
  | none =>
    rw [howner] at hkeep
    exact hkeep
  | some index =>
    rw [howner] at hkeep
    dsimp only
    cases htoken : staging.tokens[index]? with
    | none =>
      rw [if_neg (Nat.not_lt.2 (Array.getElem?_eq_none_iff.1 htoken))]
      exact hkeep
    | some token =>
      obtain ⟨hlt, -⟩ := Array.getElem?_eq_some_iff.1 htoken
      have hmem := List.mem_of_getElem? (Array.getElem?_toList ▸ htoken)
      dsimp only
      rw [if_pos hlt, (htokens token hmem).extend?_eq, Option.map_some,
        replace_eq_modify htoken (·.extend count), howner]

theorem settleTrailing?_eq
    (htokens : ∀ token ∈ staging.tokens.toList, Fits counting staging.pending token)
    (endOfText : Nat) :
    staging.settleTrailing? counting endOfText = some (staging.settleTrailing endOfText) := by
  unfold settleTrailing? settleTrailing
  split_ifs
  · rfl
  · cases lastLiteral? staging.tokens staging.tokens.size with
    | none => rfl
    | some index =>
      dsimp only
      cases htoken : staging.tokens[index]? with
      | none => rfl
      | some token =>
        have hmem := List.mem_of_getElem? (Array.getElem?_toList ▸ htoken)
        have hfits := htokens token hmem
        have hchange := replace_eq_modify htoken (·.extend staging.pending)
        simp only [Counting.add_of_lt hfits.2, hfits.extend?_eq, hchange, Option.bind_eq_bind,
          Option.bind_some, Option.any_some, decide_eq_true_eq]
        split_ifs <;> rfl

theorem HasRoom.fits {use : Use} {uses : List Use} (h : HasRoom counting staging (use :: uses))
    (hle : count ≤ staging.pending + use.given) (token : Token)
    (hmem : token ∈ staging.tokens.toList) : Fits counting count token := by
  obtain ⟨-, hfits⟩ := h
  rw [List.map_cons, List.sum_cons] at hfits
  exact (hfits token (List.mem_append_left _ hmem)).mono (by omega)

theorem HasRoom.of_tokens_eq {now : Staging} {use : Use} {uses : List Use}
    (h : HasRoom counting staging (use :: uses))
    (htokens : now.tokens.toList = staging.tokens.toList ++ use.added)
    (hpending : now.pending ≤ staging.pending + use.given) : HasRoom counting now uses := by
  obtain ⟨hroom, hfits⟩ := h
  rw [List.map_cons, List.sum_cons] at hroom hfits
  refine ⟨by omega, fun token hmem => ?_⟩
  rw [htokens, List.append_assoc] at hmem
  exact (hfits token hmem).mono (by omega)

theorem HasRoom.of_extend? {now : Staging} {use : Use} {uses : List Use} {front back : List Token}
    {grown : Token} (h : HasRoom counting staging (use :: uses))
    (hbefore : staging.tokens.toList = front ++ token :: back)
    (hnow : now.tokens.toList = front ++ grown :: back)
    (hgrown : token.extend? counting count = some grown)
    (hpending : now.pending + count = staging.pending + use.given) : HasRoom counting now uses := by
  have hfit : Fits counting count token := h.fits (by omega) token (by simp [hbefore])
  rw [hfit.extend?_eq] at hgrown
  cases hgrown
  obtain ⟨hroom, hfits⟩ := h
  rw [List.map_cons, List.sum_cons] at hroom hfits
  rw [List.flatMap_cons, hbefore] at hfits
  refine ⟨by omega, fun other hmem => ?_⟩
  rw [hnow] at hmem
  simp only [List.mem_append, List.mem_cons] at hmem hfits
  obtain (hfront | rfl | hback) | hcoming := hmem
  · exact (hfits other (.inl (.inl hfront))).mono (by omega)
  · -- The token has grown by what is no longer pending or to come.
    have htoken := hfits token (.inl (.inr (.inl rfl)))
    unfold Fits at htoken ⊢
    simp only [Token.extend]
    omega
  · exact (hfits other (.inl (.inr (.inr hback)))).mono (by omega)
  · exact (hfits other (.inr (.inr hcoming))).mono (by omega)

theorem HasRoom.addTrivia {uses : List Use}
    (h : HasRoom counting staging (.addTrivia count :: uses)) :
    staging.addTrivia? counting count = some (staging.addTrivia count) ∧
      HasRoom counting (staging.addTrivia count) uses := by
  have hroom : staging.pending + count < counting.limit := by
    have hpending := h.pending
    rw [List.map_cons, List.sum_cons, Use.given] at hpending
    omega
  have hadd := addTrivia?_eq hroom (h.fits (Nat.le_add_left _ _))
  refine ⟨hadd, ?_⟩
  obtain ⟨pending, hpending, hnow⟩ | ⟨front, token, grown, back, hsplit, hgrown, hnow⟩ :=
    addTrivia?_cases hadd
  · rw [Counting.add_of_lt hroom] at hpending
    cases hpending
    rw [← hnow]
    exact h.of_tokens_eq (List.append_nil _).symm (Nat.le_refl _)
  · rw [← hnow]
    exact h.of_extend? hsplit (toList_tokens_replace hsplit grown) hgrown rfl

theorem HasRoom.settleTrailing {uses : List Use} {endOfText : Nat}
    (h : HasRoom counting staging (.settleTrailing endOfText :: uses)) :
    staging.settleTrailing? counting endOfText = some (staging.settleTrailing endOfText) ∧
      HasRoom counting (staging.settleTrailing endOfText).2 uses := by
  have hsettle := settleTrailing?_eq (h.fits (Nat.le_add_right _ _)) endOfText
  refine ⟨hsettle, ?_⟩
  generalize staging.settleTrailing endOfText = answer at hsettle ⊢
  obtain ⟨settled, now⟩ := answer
  obtain ⟨-, rfl⟩ | ⟨-, -, done, token, grown, changes, hsplit, -, -, hgrown, -, rfl⟩ :=
    settleTrailing?_cases hsettle
  · exact h.of_tokens_eq (List.append_nil _).symm (Nat.le_add_right _ _)
  · exact h.of_extend? hsplit (toList_tokens_replace hsplit grown) hgrown (Nat.add_comm _ _)

/-- A use that has room goes on, and the uses behind it have room again. -/
theorem HasRoom.perform {use : Use} {uses : List Use} (h : HasRoom counting staging (use :: uses)) :
    staging.perform? counting use = some (staging.perform use) ∧
      HasRoom counting (staging.perform use).2 uses := by
  cases use with
  | push token =>
    exact ⟨rfl, h.of_tokens_eq (by simp [Staging.perform, push, Use.added]) (Nat.le_add_right _ _)⟩
  | setOwner index => exact ⟨rfl, h.of_tokens_eq (List.append_nil _).symm (Nat.le_add_right _ _)⟩
  | clearOwner => exact ⟨rfl, h.of_tokens_eq (List.append_nil _).symm (Nat.le_add_right _ _)⟩
  | addTrivia count =>
    obtain ⟨hadd, hroom⟩ := h.addTrivia
    exact ⟨by rw [perform?, hadd]; rfl, hroom⟩
  | takePending => exact ⟨rfl, h.of_tokens_eq (List.append_nil _).symm (Nat.zero_le _)⟩
  | settleTrailing endOfText =>
    obtain ⟨hsettle, hroom⟩ := h.settleTrailing
    exact ⟨by rw [perform?, hsettle]; rfl, hroom⟩

theorem HasRoom.performAll {uses : List Use} (h : HasRoom counting staging uses) :
    staging.performAll? counting uses = some (staging.performAll uses) := by
  induction uses generalizing staging with
  | nil => rfl
  | cons use uses ih =>
    obtain ⟨hfirst, hrest⟩ := h.perform
    rw [performAll?, hfirst]
    simp only [Option.bind_eq_bind, Option.bind_some, ih hrest]
    rfl

end Room

/-- Whatever is done to a staging, none of the trivia is lost and no token changes but at its end;
and at any time, what is pending goes to the last literal as a whole, up to the end of the text, or
stays. A run reaches its end if sums are wrapped, and also if none of them is too large, and then it
is the run without bounds. -/
theorem conserves_settles_performAll (counting : Counting) (staging : Staging) (uses : List Use) :
    (counting.wraps = true → ∃ answer, staging.performAll? counting uses = some answer) ∧
      (HasRoom counting staging uses →
        staging.performAll? counting uses = some (staging.performAll uses)) ∧
      ∀ taken now, staging.performAll? counting uses = some (taken, now) →
        Conserves counting staging now (uses.flatMap Use.added) (uses.map Use.given).sum taken ∧
          ∀ endOfText settled behind,
            now.settleTrailing? counting endOfText = some (settled, behind) →
            Settles counting now endOfText settled behind :=
  ⟨fun h => exists_performAll?_of_wraps h staging uses, HasRoom.performAll, fun _ _ h =>
    ⟨conserves_performAll? h, fun _ _ _ => settles_settleTrailing?⟩⟩

/-- Two characters are taken out, one stays with the token that came in, and the owner is missing
for the last four, which go to the same token over a change of indentation. -/
theorem conserves_settles_behind_change :
    ({} : Staging).performAll? .checked
        [.addTrivia 2, .takePending, .push ⟨.symbol .plus, ⟨0, 3⟩, 2, 0⟩, .setOwner 0,
          .addTrivia 1, .setOwner 7, .addTrivia 4, .push ⟨.indentation .dedent, ⟨4, 4⟩, 0, 0⟩,
          .settleTrailing 8] =
      some (2,
        ⟨#[⟨.symbol .plus, ⟨0, 8⟩, 2, 5⟩, ⟨.indentation .dedent, ⟨4, 4⟩, 0, 0⟩], 0, some 7⟩) ∧
    Conserves .checked {}
      ⟨#[⟨.symbol .plus, ⟨0, 8⟩, 2, 5⟩, ⟨.indentation .dedent, ⟨4, 4⟩, 0, 0⟩], 0, some 7⟩
      [⟨.symbol .plus, ⟨0, 3⟩, 2, 0⟩, ⟨.indentation .dedent, ⟨4, 4⟩, 0, 0⟩] 7 2 := by
  have hroom : HasRoom .checked {}
      [.addTrivia 2, .takePending, .push ⟨.symbol .plus, ⟨0, 3⟩, 2, 0⟩, .setOwner 0,
        .addTrivia 1, .setOwner 7, .addTrivia 4, .push ⟨.indentation .dedent, ⟨4, 4⟩, 0, 0⟩,
        .settleTrailing 8] := by
    refine ⟨by decide, ?_⟩
    simp only [Fits]
    decide
  obtain ⟨-, hperform, hconserves⟩ := conserves_settles_performAll .checked {} _
  have hrun := hperform hroom
  exact ⟨hrun, (hconserves _ _ hrun).1⟩

/-- A sum that does not fit ends the run in one build, and wraps around in the other one. -/
example :
    ({} : Staging).performAll? .checked [.addTrivia (2 ^ 64 - 1), .addTrivia 1] = none ∧
      ({} : Staging).performAll? .wrapping [.addTrivia (2 ^ 64 - 1), .addTrivia 1] =
        some (0, {}) := by
  decide

end Staging

end Offside
