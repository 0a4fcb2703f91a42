import MarkupTemplate.Proofs.Canonical.Quoting
import MarkupTemplate.Proofs.Source.Stretch
import MarkupTemplate.Token.Basic

/-!
# Tokens that tile a source

Tokens tile a source if it is made of their stretches, in order, with only white
space between them, and the value of each token is what its stretch denotes.
`Tiled` says this of the tokens read so far and the characters passed so far, in
the order in which a reader meets them. `IsTiling` says what follows from it for
the finished tokens, in terms of places in the source.
-/

namespace MarkupTemplate

open Spelling Text

/-! ### What a stretch denotes -/

/-- A text without the backslashes in front of the characters they make literal. -/
def unescape : List Char → List Char
  | [] => []
  | character :: rest =>
      if character = '\\' ∧ rest.head?.any isEscapable then unescape rest
      else character :: unescape rest

/-- Whether no backslash at the end of some characters makes the next one literal. -/
def Joins (before behind : List Char) : Prop :=
  before.getLast? = some '\\' → ∀ next ∈ behind.head?, isEscapable next = false

/-- Characters join with the first of those they join with. -/
theorem Joins.front {before first second : List Char} (joins : Joins before (first ++ second))
    (nonempty : first ≠ []) : Joins before first := by
  obtain ⟨next, rest, rfl⟩ := List.exists_cons_of_ne_nil nonempty
  exact joins

/-- The last of some characters join with what follows. -/
theorem Joins.prepend {first second behind : List Char} (joins : Joins second behind)
    (nonempty : second ≠ []) : Joins (first ++ second) behind := by
  rcases List.eq_nil_or_concat second with rfl | ⟨front, last, rfl⟩
  · exact absurd rfl nonempty
  · simpa [Joins] using joins

/-- Whether a backslash is dropped depends on the character behind it. -/
theorem unescape_cons_cons (first second : Char) (rest : List Char) :
    unescape (first :: second :: rest) =
      if first = '\\' ∧ isEscapable second then unescape (second :: rest)
      else first :: unescape (second :: rest) := by
  rw [unescape]
  rfl

/-- Backslashes are dropped from two runs of characters in turn. -/
theorem unescape_append {before behind : List Char} (joins : Joins before behind) :
    unescape (before ++ behind) = unescape before ++ unescape behind := by
  induction before with
  | nil => rfl
  | cons first rest inductionHypothesis =>
      cases rest with
      | nil =>
          have kept : ¬ (first = '\\' ∧ behind.head?.any isEscapable) := by
            rintro ⟨rfl, escapes⟩
            cases behind with
            | nil => cases escapes
            | cons next behind => exact absurd (joins rfl next rfl) (by simpa using escapes)
          simp [unescape, kept]
      | cons second rest =>
          have further := inductionHypothesis (by simpa [Joins] using joins)
          rw [List.cons_append, List.cons_append, unescape_cons_cons, unescape_cons_cons,
            ← List.cons_append, further]
          split <;> rfl

/-- Some character is left of every text. -/
theorem eq_nil_of_unescape {characters : List Char} (empty : unescape characters = []) :
    characters = [] := by
  induction characters with
  | nil => rfl
  | cons first rest inductionHypothesis =>
      rw [unescape] at empty
      split at empty
      · rename_i dropped
        simp [inductionHypothesis empty] at dropped
      · cases empty

/-- Whether a token opens an embedded expression. -/
def Token.opensSite (token : Token) : Bool :=
  token.kind = .expressionStart ∨ token.kind = .spreadStart

/-- Whether a token ends an embedded expression. -/
def Token.endsSite (token : Token) : Bool := token.kind = .expressionEnd

/-- Whether characters of a source make a token of a kind with a value. `leading`
says that they are the first of an embedded expression to make one, and `closing`
that they are the last. -/
def TokenKind.Denotes (leading closing : Bool) (inside value : List Char) : TokenKind → Prop
  | .text => value = unescape inside
  | .stringLiteral => ∃ quote, (quote = '"' ∨ quote = '\'') ∧ inside = quote :: (value ++ [quote]) ∧
      quote ∉ value
  | .declaration => ∃ body, inside = '{' :: '%' :: (body ++ ['%', '}']) ∧ value = trim body
  | .expression =>
      let code := if leading then trimStart inside else inside
      value = if closing then trimEnd code else code
  | .eof => False
  | _ => value = inside

/-- Only code depends on whether it is the last of its expression. -/
theorem TokenKind.Denotes.anyClosing {kind : TokenKind} {leading closing : Bool}
    {inside value : List Char} (denotes : kind.Denotes leading closing inside value)
    (notCode : kind ≠ .expression) (closing' : Bool) :
    kind.Denotes leading closing' inside value := by
  cases kind with
  | expression => exact absurd rfl notCode
  | _ => exact denotes

/-! ### Tilings as they are read -/

/-- Whether characters can make the next token behind others, which are given newest
first. `closed` says that the last of these was taken to end its expression. -/
structure Token.Fits (tokens : List Token) (closed closing : Bool) (kind : TokenKind)
    (value : String) (inside : List Char) : Prop where
  nonempty : inside ≠ []
  denotes : kind.Denotes (tokens.head?.any opensSite) closing inside value.toList
  solid : kind ≠ .text → kind ≠ .expression → IsSolid inside
  follows : ∀ last ∈ tokens.head?, last.kind = .expression →
    (closed = true ↔ kind = .expressionEnd)

/-- No stretch of a source is an end of input. -/
theorem Token.Fits.notEnd {tokens : List Token} {closed closing : Bool} {kind : TokenKind}
    {value : String} {inside : List Char}
    (fits : Token.Fits tokens closed closing kind value inside) : kind ≠ .eof := by
  rintro rfl
  exact fits.denotes

/-- Whether tokens, newest first, tile the characters passed so far. The first
argument says whether the newest token is taken to end its expression. -/
inductive Tiled : Bool → List Char → List Token → Prop where
  | start : Tiled false [] []
  | blank {closing : Bool} {passed : List Char} {tokens : List Token} {character : Char} :
      Tiled closing passed tokens → isBlank character → Tiled closing (passed ++ [character]) tokens
  | token {closed closing : Bool} {passed inside : List Char} {tokens : List Token}
      {kind : TokenKind} {value : String} :
      Tiled closed passed tokens → Token.Fits tokens closed closing kind value inside →
      Tiled closing (passed ++ inside) (⟨kind, value, .after passed inside⟩ :: tokens)

namespace Tiled

variable {closing : Bool} {passed : List Char} {tokens : List Token}

/-- White space can be passed at any time. -/
theorem blanks {blanks : List Char} (tiled : Tiled closing passed tokens)
    (blank : ∀ character ∈ blanks, isBlank character) :
    Tiled closing (passed ++ blanks) tokens := by
  induction blanks generalizing passed with
  | nil => simpa using tiled
  | cons first rest inductionHypothesis =>
      obtain ⟨firstBlank, restBlank⟩ := List.forall_mem_cons.mp blank
      simpa using inductionHypothesis (tiled.blank firstBlank) restBlank

/-- The tokens in front of a token tile the characters in front of its stretch. -/
theorem split {newer older : List Token} {token : Token}
    (tiled : Tiled closing passed (newer ++ token :: older)) :
    ∃ closed before inside behind, Tiled closed before older ∧
      passed = before ++ inside ++ behind ∧ token.span = .after before inside ∧
      Token.Fits older closed (newer.getLast?.elim closing Token.endsSite) token.kind token.value
        inside := by
  generalize listed : newer ++ token :: older = tokens at tiled
  induction tiled generalizing newer with
  | start => simp at listed
  | @blank closing passed tokens character _ _ inductionHypothesis =>
      obtain ⟨closed, before, inside, behind, earlier, whole, facts⟩ := inductionHypothesis listed
      exact ⟨closed, before, inside, behind ++ [character], earlier, by simp [whole], facts⟩
  | @token closed closing passed stretch tokens kind value tiled fits inductionHypothesis =>
      cases newer with
      | nil =>
          obtain ⟨rfl, rfl⟩ := List.cons.inj listed
          exact ⟨closed, passed, stretch, [], tiled, by simp, rfl, fits⟩
      | cons newest newer =>
          obtain ⟨rfl, same⟩ := List.cons.inj listed
          obtain ⟨opened, before, inside, behind, earlier, whole, span, found⟩ :=
            inductionHypothesis same
          refine ⟨opened, before, inside, behind ++ stretch, earlier, by simp [whole], span, ?_⟩
          cases newer with
          | cons next newer => exact found
          | nil =>
              -- The new token is the neighbour that says whether the one before is the last.
              refine { found with denotes := ?_ }
              by_cases isCode : token.kind = .expression
              · have last : token ∈ tokens.head? := by simp [← same]
                have ends : closed = decide (kind = .expressionEnd) :=
                  Bool.eq_iff_iff.mpr
                    ((fits.follows token last isCode).trans decide_eq_true_iff.symm)
                rw [ends] at found
                exact found.denotes
              · exact found.denotes.anyClosing isCode _

/-- A character outside the stretches of all tokens is white space. -/
theorem covered (tiled : Tiled closing passed tokens) {before behind : List Char}
    {character : Char} (place : passed = before ++ character :: behind) :
    isBlank character ∨
      ∃ token ∈ tokens, token.span.Covers (Position.after {} before).byte := by
  induction tiled generalizing behind with
  | start => simp at place
  | @blank closing passed tokens last _ blank inductionHypothesis =>
      rcases List.eq_nil_or_concat behind with rfl | ⟨front, final, rfl⟩
      · obtain ⟨-, same⟩ := List.append_inj' place rfl
        cases same
        exact .inl blank
      · rw [List.concat_eq_append, ← List.cons_append, ← List.append_assoc] at place
        exact inductionHypothesis (List.append_inj' place rfl).1
  | @token closed closing passed stretch tokens kind value _ fits inductionHypothesis =>
      rcases List.append_eq_append_iff.mp place with ⟨front, rfl, rfl⟩ | ⟨front, rfl, same⟩
      · exact .inr ⟨_, List.mem_cons_self, Span.covers_after passed front character behind⟩
      · cases front with
        | nil =>
            obtain rfl : character :: behind = stretch := same
            refine .inr ⟨_, List.mem_cons_self, ?_⟩
            simpa using Span.covers_after before [] character behind
        | cons first front =>
            obtain ⟨rfl, -⟩ := List.cons.inj same
            rcases inductionHypothesis rfl with blank | ⟨token, member, covers⟩
            · exact .inl blank
            · exact .inr ⟨token, List.mem_cons_of_mem _ member, covers⟩

/-- Every token has a stretch among the characters passed. -/
theorem liesIn {token : Token} (tiled : Tiled closing passed tokens) (member : token ∈ tokens) :
    token.span.LiesIn passed := by
  obtain ⟨newer, older, rfl⟩ := List.append_of_mem member
  obtain ⟨closed, before, inside, behind, -, whole, span, -⟩ := tiled.split
  exact ⟨before, inside, behind, whole, span⟩

/-- Every stretch ends at or before the start of those of newer tokens. -/
theorem ordered (tiled : Tiled closing passed tokens) :
    tokens.Pairwise fun newer older => older.span.stop.byte ≤ newer.span.start.byte := by
  induction tiled with
  | start => exact .nil
  | blank _ _ inductionHypothesis => exact inductionHypothesis
  | token tiled fits inductionHypothesis =>
      exact .cons (fun older member => (tiled.liesIn member).stop_le) inductionHypothesis

end Tiled

/-! ### Finished tilings -/

/-- Whether tokens, in reading order, tile a source: the last of them is the end of
input, at the end of the source; the others have stretches that are not empty and
follow each other; a character outside of them is white space; and the value of
each is what its stretch denotes, given its neighbours. -/
structure IsTiling (source : String) (tokens : List Token) : Prop where
  ended : ∃ content final, tokens = content ++ [final] ∧ final.kind = .eof ∧
    final.span.start.byte = source.utf8ByteSize ∧ final.span.stop.byte = source.utf8ByteSize ∧
    ∀ token ∈ content, token.kind ≠ .eof ∧ token.span.start.byte < token.span.stop.byte
  ordered : tokens.Pairwise fun first second => first.span.stop.byte ≤ second.span.start.byte
  covered : ∀ before character behind, source = before ++ String.singleton character ++ behind →
    (∀ token ∈ tokens, ¬ token.span.Covers before.utf8ByteSize) → isBlank character
  spelled : ∀ before token behind, tokens = before ++ token :: behind → token.kind ≠ .eof →
    ∃ inside, token.span.Holds source inside ∧
      token.kind.Denotes (before.getLast?.any Token.opensSite) (behind.head?.any Token.endsSite)
        inside.toList token.value.toList

/-- The bytes in front of a place in a source. -/
theorem Position.byte_after_toList (text : String) :
    (Position.after {} text.toList).byte = text.utf8ByteSize := by
  simp [byte_after]

/-- A token in front of the last one has the last one behind it. -/
theorem exists_front {content before behind : List Token} {token final : Token}
    (listed : content ++ [final] = before ++ token :: behind) (notLast : token ≠ final) :
    ∃ front, behind = front ++ [final] ∧ content = before ++ token :: front := by
  rcases List.eq_nil_or_concat behind with rfl | ⟨front, last, rfl⟩
  · obtain ⟨-, same⟩ := List.append_inj' listed rfl
    cases same
    exact absurd rfl notLast
  · rw [List.concat_eq_append, ← List.cons_append, ← List.append_assoc] at listed
    obtain ⟨same, isLast⟩ := List.append_inj' listed rfl
    cases isLast
    exact ⟨front, List.concat_eq_append, same⟩

/-- Tokens that tile a source up to its end, closed by the end of input, tile it. -/
theorem Tiled.isTiling {source : String} {tokens : List Token}
    (tiled : Tiled false source.toList tokens) :
    IsTiling source
      (tokens.reverse ++ [⟨.eof, "", .point (Position.after {} source.toList)⟩]) := by
  constructor
  case ended =>
    refine ⟨_, _, rfl, rfl, Position.byte_after_toList source, Position.byte_after_toList source,
      fun token member => ?_⟩
    obtain ⟨newer, older, rfl⟩ := List.append_of_mem (List.mem_reverse.mp member)
    obtain ⟨closed, before, inside, behind, -, -, span, fits⟩ := tiled.split
    refine ⟨fits.notEnd, ?_⟩
    rw [span, Span.start_after, Span.stop_after, Position.after_append]
    exact Position.byte_lt_after _ fits.nonempty
  case ordered =>
    refine List.pairwise_append.mpr ⟨List.pairwise_reverse.mpr tiled.ordered,
      List.pairwise_singleton _ _, fun token member final isFinal => ?_⟩
    obtain rfl := List.mem_singleton.mp isFinal
    exact (tiled.liesIn (List.mem_reverse.mp member)).stop_le
  case covered =>
    intro before character behind whole outside
    have place : source.toList = before.toList ++ character :: behind.toList := by simp [whole]
    rcases tiled.covered place with blank | ⟨token, member, covers⟩
    · exact blank
    · rw [Position.byte_after_toList] at covers
      exact absurd covers (outside token (by simp [member]))
  case spelled =>
    intro before token behind listed notEnd
    obtain ⟨front, rfl, same⟩ := exists_front listed fun isLast => notEnd (isLast ▸ rfl)
    have reversed : tokens = front.reverse ++ token :: before.reverse := by
      simpa using congrArg List.reverse same
    rw [reversed] at tiled
    obtain ⟨closed, passed, inside, rest, -, whole, span, fits⟩ := tiled.split
    have holds := Span.holds_after passed inside rest
    rw [← whole, String.ofList_toList, ← span] at holds
    refine ⟨_, holds, ?_⟩
    have denotes := fits.denotes
    rw [List.head?_reverse, List.getLast?_reverse] at denotes
    rw [String.toList_ofList]
    cases front <;> exact denotes

end MarkupTemplate
