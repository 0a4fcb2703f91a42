import Mathlib.Logic.Function.Iterate
import MarkupTemplate.Proofs.Reader.Enclosure
import MarkupTemplate.Proofs.Reader.OpenTags

/-!
# Closing what is open

A source that ends within an element is rejected, with the advice to close the
innermost tag that is open. Following the advice helps: with the end tag behind it, the
source is read, or what is complained of is a tag or an expression that began further in
front. So closing one reported tag after the other comes to an end.

What carries this is how tags and expressions lie in each other: of the modes of a reader,
each began behind those around it.
-/

namespace MarkupTemplate

open Spelling Text

/-! ### Where modes began -/

namespace Mode

/-- The stretches that modes remember of where they began, innermost first. -/
def marks (modes : List Mode) : List Span := modes.filterMap mark?

@[simp] theorem marks_textTop (outer : List Mode) : marks (.text none :: outer) = marks outer := rfl

@[simp] theorem marks_text (tag : OpenTag) (outer : List Mode) :
    marks (.text (some tag) :: outer) = tag.span :: marks outer := rfl

@[simp] theorem marks_attributes (tag : OpenTag) (outer : List Mode) :
    marks (.attributes tag :: outer) = tag.span :: marks outer := rfl

@[simp] theorem marks_expression (site : Site) (outer : List Mode) :
    marks (.expression site :: outer) = site.opening :: marks outer := rfl

end Mode

/-- A stretch among the characters passed begins in front of the place reached. -/
theorem Span.Within.start_lt {span : Span} {passed : List Char} (within : span.Within passed) :
    span.start.byte < (Position.after {} passed).byte := by
  obtain ⟨before, inside, behind, rfl, rfl, solid⟩ := within
  have nonempty : inside ++ behind ≠ [] := by
    obtain ⟨first, isFirst, -⟩ := solid.begins_append behind
    intro empty
    rw [empty] at isFirst
    cases isFirst
  rw [List.append_assoc, Position.after_append]
  exact Position.byte_lt_after _ nonempty

namespace Reader

variable {reader next : Reader} {source : List Char} {fault : Fault} {tag : OpenTag}
  {outer : List Mode}

/-- A move keeps what the modes remember, forgets the innermost stretch, or adds one that
does not begin in front of where the reader stands. -/
theorem Moves.marks_cases (move : reader.Moves next) :
    Mode.marks next.modes = Mode.marks reader.modes ∨
      (∃ span, Mode.marks reader.modes = span :: Mode.marks next.modes) ∨
      ∃ span, Mode.marks next.modes = span :: Mode.marks reader.modes ∧
        reader.position.byte ≤ span.start.byte := by
  cases move with
  | escape => exact .inl rfl
  | literal => exact .inl rfl
  | declare modes => exact .inl (by simp [modes])
  | openChildSite modes =>
      exact .inr (.inr ⟨_, by rw [modes]; rfl, (leadsTo_flushText reader).byte_le⟩)
  | closeElement modes closes closed =>
      obtain ⟨tag, following, rfl, -⟩ := exists_of_closeTag closed
      exact .inr (.inl ⟨tag.span, by simp [modes]⟩)
  | @openChild parent outer tag next modes opens opened =>
      obtain ⟨span, -⟩ := span_of_openTag (by rwa [rest_flushText]) opened
      refine .inr (.inr ⟨tag.span, by simp [modes], ?_⟩)
      rw [span]
      exact (leadsTo_flushText reader).byte_le
  | selfClose modes => exact .inr (.inl ⟨_, by rw [modes]; rfl⟩)
  | endTag modes => exact .inl (by simp [modes])
  | openSpread modes =>
      exact .inr (.inr ⟨_, by rw [modes]; rfl, (leadsTo_skipBlank reader).byte_le⟩)
  | @nameAttribute tag outer character following next site modes front starts read =>
      cases site with
      | none => exact .inl (by simp [modes])
      | some site =>
          obtain ⟨valued, following, passes, -, rfl, rfl⟩ := openSite_of_readAttribute read
          refine .inr (.inr ⟨_, by rw [modes]; rfl, ?_⟩)
          exact ((leadsTo_skipBlank reader).trans passes.leadsTo).byte_le
  | quoteEscape modes => exact .inl (by simp [modes])
  | quoteCharacter modes => exact .inl (by simp [modes])
  | openBrace modes => exact .inl (by simp [modes])
  | closeBrace modes => exact .inl (by simp [modes])
  | closeSite modes => exact .inr (.inl ⟨_, by rw [modes]; rfl⟩)
  | @openEmbedded site outer tag next modes unquoted opens starts opened =>
      obtain ⟨span, -⟩ := span_of_openTag (by rwa [rest_flushPiece]) opened
      refine .inr (.inr ⟨tag.span, by simp [modes], ?_⟩)
      rw [span]
      exact (leadsTo_flushPiece reader site false).byte_le
  | code modes => exact .inl (by simp [modes])

/-- Whether each mode of a reader began behind those around it. -/
def Nested (reader : Reader) : Prop :=
  (Mode.marks reader.modes).Pairwise fun inner outer => outer.start.byte < inner.start.byte

/-- What the modes of a reader remember begins in front of where it stands. -/
theorem Remembers.start_lt {span : Span} (remembers : reader.Remembers source)
    (member : span ∈ Mode.marks reader.modes) : span.start.byte < reader.position.byte := by
  obtain ⟨passed, ⟨-, position⟩, marked⟩ := remembers.marked
  obtain ⟨mode, isMode, isMark⟩ := List.mem_filterMap.mp member
  rw [position]
  exact (marked mode isMode span isMark).start_lt

/-- Every move keeps the modes in each other. -/
theorem Moves.nested (move : reader.Moves next) (remembers : reader.Remembers source)
    (nested : reader.Nested) : next.Nested := by
  rcases move.marks_cases with same | ⟨span, forgotten⟩ | ⟨span, added, behind⟩
  · rwa [Nested, same]
  · rw [Nested, forgotten] at nested
    exact (List.pairwise_cons.mp nested).2
  · rw [Nested, added]
    refine List.pairwise_cons.mpr ⟨fun outer member => ?_, nested⟩
    have before := remembers.start_lt member
    omega

/-! ### At the end of a source -/

/-- A tag is reported as open only at the end of its content. -/
theorem Fails.exists_open {name : String} (fails : reader.Fails fault)
    (cause : fault.cause = .openTag name) :
    ∃ tag outer, reader.modes = .text (some tag) :: outer ∧ reader.rest = [] ∧
      fault = ⟨.openTag tag.name, tag.span, none⟩ := by
  cases fails with
  | @unclosed tag outer modes ended => exact ⟨tag, outer, modes, ended, rfl⟩
  | declare modes front undeclared => cases cause.symm.trans (readDeclaration_eq_error undeclared)
  | closeElement modes closes unclosed =>
      rcases closeTag_eq_error unclosed with ⟨_, other⟩ | ⟨_, other⟩ | ⟨_, _, -, other, -⟩
      all_goals cases cause.symm.trans other
  | openChild modes opens unopened =>
      rcases openTag_eq_error unopened with other | ⟨-, -, other⟩
      all_goals cases cause.symm.trans other
  | openEmbedded modes unquoted opens starts unopened =>
      rcases openTag_eq_error unopened with other | ⟨-, -, other⟩
      all_goals cases cause.symm.trans other
  | nameAttribute modes front starts unread =>
      rcases readAttribute_eq_error unread with ⟨_, other⟩ | ⟨_, other⟩
      all_goals cases cause.symm.trans other
  | unfinished | bareExpression | strayCharacter | openExpression => cases cause

/-- Within an element, text is closed by the end tag of the element, and then the element
stands in text or in an expression. -/
theorem InOrder.exists_closed (inOrder : reader.InOrder source)
    (modes : reader.modes = .text (some tag) :: outer) (ended : reader.rest = []) :
    ∃ closed, (reader.followedBy (endTag tag.name)).Moves closed ∧ closed.modes = outer ∧
      closed.rest = [] ∧ ((∃ parent around, outer = .text parent :: around) ∨
        ∃ site around, outer = .expression site :: around) := by
  obtain ⟨outline, -⟩ := inOrder.coherent.of_text modes
  generalize reader.tokens.reverse = tokens at outline
  cases outline with
  | children around leads shallow opens names same isName inside ends content =>
      obtain ⟨letter, others, whole, isLetter⟩ := isName.exists_cons
      have front : (reader.followedBy (endTag tag.name)).flushText.rest =
          '<' :: '/' :: (tag.name.toList ++ '>' :: []) := by
        rw [rest_flushText, rest_followedBy, ended]
        rfl
      have closes : closesTag (reader.followedBy (endTag tag.name)).rest := by
        rw [← rest_flushText, front, whole]
        exact isLetter
      obtain ⟨closed, isClosed, nothing⟩ := exists_closeTag isName.spelled front
      refine ⟨_, .closeElement modes closes isClosed, rfl, nothing, ?_⟩
      cases leads with
      | content => exact .inl ⟨_, _, rfl⟩
      | code => exact .inr ⟨_, _, rfl⟩

/-- In text or in an expression, reading ends with the source, or what is complained of is
the innermost tag or expression that is open. -/
theorem fault_of_ended (ended : reader.rest = [])
    (place : (∃ parent around, reader.modes = .text parent :: around) ∨
      ∃ site around, reader.modes = .expression site :: around) :
    reader.run.fault = none ∨ ∃ fault, reader.run.fault = some fault ∧
      ((∃ name, fault.cause = .openTag name) ∨ fault.cause = .openExpression) ∧
      (Mode.marks reader.modes).head? = some fault.span := by
  rcases place with ⟨parent, around, modes⟩ | ⟨site, around, modes⟩
  · cases parent with
    | none =>
        have finished := run_of_done ((step_eq_done_iff modes).mpr ⟨rfl, ended, rfl⟩)
        exact .inl (by rw [finished])
    | some tag =>
        have fails : reader.Fails _ := .unclosed modes ended
        refine .inr ⟨_, by rw [run_of_error fails.step_eq], .inl ⟨_, rfl⟩, by rw [modes]; rfl⟩
  · have fails : reader.Fails _ := .openExpression modes ended
    exact .inr ⟨_, by rw [run_of_error fails.step_eq], .inr rfl, by rw [modes]; rfl⟩

/-- A source that is rejected for an open tag, followed by the end tag, is read, or a tag or
an expression that began further in front is open. -/
theorem run_endTag_of_open {source name : String}
    (failed : (Reader.start source).run.fault = some fault) (cause : fault.cause = .openTag name)
    (noEscape : source.toList.getLast? ≠ some '\\') :
    ((Reader.start source).followedBy (endTag name)).run.fault = none ∨
      ∃ next, ((Reader.start source).followedBy (endTag name)).run.fault = some next ∧
        ((∃ other, next.cause = .openTag other) ∨ next.cause = .openExpression) ∧
        next.span.start.byte < fault.span.start.byte := by
  have unbroken {reader : Reader} (sameRun : reader.run = (Reader.start source).run) :
      reader.Unbroken := by
    apply unbroken_of_fault
    all_goals
      intro found isFound
      rw [sameRun, failed] at isFound
      cases isFound
      simp [cause]
  obtain ⟨last, ⟨inOrder, -, nested⟩, -, sameThere, outcome⟩ := @exists_last_elsewhere source
    (fun reader => reader.InOrder source.toList ∧ reader.Remembers source.toList ∧ reader.Nested)
    (·.followedBy (endTag name))
    (fun move held => ⟨move.inOrder held.1, move.remembers held.2.1,
      move.nested held.2.1 held.2.2⟩)
    ⟨inOrder_start source, remembers_start source, .nil⟩
    (fun move held _ sameRun =>
      move.followedBy (unbroken sameRun) (held.1.keepsText_endTag noEscape name))
  rcases outcome with ⟨found, stepped, faulty⟩ | ⟨-, faultless⟩
  · cases failed.symm.trans faulty
    obtain ⟨tag, outer, modes, ended, rfl⟩ := (step_eq_error_iff.mp stepped).exists_open cause
    cases cause
    obtain ⟨closed, move, modesClosed, nothing, place⟩ := inOrder.exists_closed modes ended
    rw [sameThere, move.run_eq]
    rw [← modesClosed] at place
    rcases fault_of_ended nothing place with finished | ⟨next, fails, isOpen, isFirst⟩
    · exact .inl finished
    · refine .inr ⟨next, fails, isOpen, ?_⟩
      rw [modesClosed] at isFirst
      rw [Nested, modes, Mode.marks_text] at nested
      exact (List.pairwise_cons.mp nested).1 _ (List.mem_of_mem_head? isFirst)
  · cases failed.symm.trans faultless

end Reader

/-! ### Following the advice -/

namespace Token

/-- A source with the end tag of the tag that it is rejected for leaving open. -/
def closeReported (source : String) : String :=
  match read source with
  | .error fault =>
      match fault.cause with
      | .openTag name => source ++ "</" ++ name ++ ">"
      | _ => source
  | .ok _ => source

variable {source name : String} {fault : Fault}

theorem closeReported_eq (failed : read source = .error fault)
    (cause : fault.cause = .openTag name) :
    closeReported source = source ++ "</" ++ name ++ ">" := by
  simp only [closeReported, failed, cause]

/-- With the reported tag closed, a source is read, or what is complained of began further in
front. -/
theorem read_closeReported (failed : read source = .error fault)
    (cause : fault.cause = .openTag name) (noEscape : source.toList.getLast? ≠ some '\\') :
    (read (closeReported source)).isOk ∨
      ∃ next, read (closeReported source) = .error next ∧
        ((∃ other, next.cause = .openTag other) ∨ next.cause = .openExpression) ∧
        next.span.start.byte < fault.span.start.byte := by
  have behind : Reader.start (closeReported source) =
      (Reader.start source).followedBy (endTag name) := by
    rw [closeReported_eq failed cause]
    simp [Reader.start, Reader.followedBy, endTag]
  rw [read_eq_error_iff] at failed
  rcases Reader.run_endTag_of_open failed cause noEscape with finished | ⟨next, fails, further⟩
  · left
    unfold read
    simp only [behind, finished]
    rfl
  · rw [← behind, ← read_eq_error_iff] at fails
    exact .inr ⟨next, fails, further⟩

/-- An end tag does not end in a backslash. -/
theorem getLast?_closeReported (failed : read source = .error fault)
    (cause : fault.cause = .openTag name) :
    (closeReported source).toList.getLast? ≠ some '\\' := by
  have bracket : ">".toList = ['>'] := rfl
  rw [closeReported_eq failed cause, String.toList_append, bracket, List.getLast?_concat]
  decide

/-- Closing the reported tags one after the other comes to an end, after no more of them than
there are bytes up to where the first one begins. -/
theorem exists_iterate_closeReported (failed : read source = .error fault)
    (cause : fault.cause = .openTag name) (noEscape : source.toList.getLast? ≠ some '\\') :
    ∃ count ≤ fault.span.start.byte + 1,
      (read (closeReported^[count] source)).isOk ∨
        ∃ last, read (closeReported^[count] source) = .error last ∧
          last.cause = .openExpression ∧ last.span.start.byte < fault.span.start.byte := by
  -- Each tag that is reported began in front of the one before.
  induction start : fault.span.start.byte using Nat.strong_induction_on
    generalizing source fault name with
  | _ start inductionHypothesis =>
      subst start
      rcases read_closeReported failed cause noEscape with
        succeeded | ⟨next, fails, ⟨other, isTag⟩ | isExpression, further⟩
      · exact ⟨1, by omega, .inl succeeded⟩
      · obtain ⟨count, bounded, outcome⟩ := inductionHypothesis _ further fails isTag
          (getLast?_closeReported failed cause) rfl
        refine ⟨count + 1, by omega, ?_⟩
        rw [Function.iterate_succ_apply]
        refine outcome.imp id ?_
        rintro ⟨last, fails, isExpression, inFront⟩
        exact ⟨last, fails, isExpression, by omega⟩
      · exact ⟨1, by omega, .inr ⟨next, fails, isExpression, further⟩⟩

/-- The advice to close a tag works. A source that does not end in a backslash and is rejected
for leaving a tag open is read with the end tag of that tag behind it, or it is rejected for a
tag or an expression that is open and begins further in front. Closing one reported tag after
the other comes to a source that is read, or rejected for an expression that is open around the
first tag that was reported. -/
theorem closing_reported_tags_helps (failed : read source = .error fault)
    (cause : fault.cause = .openTag name) (noEscape : source.toList.getLast? ≠ some '\\') :
    ((read (source ++ "</" ++ name ++ ">")).isOk ∨
      ∃ next, read (source ++ "</" ++ name ++ ">") = .error next ∧
        next.diagnostic.kind ∈ [Diagnostic.Kind.unclosedTag, .unterminatedExpression] ∧
        next.span.start.byte < fault.span.start.byte) ∧
    ∃ count ≤ fault.span.start.byte + 1,
      (read (closeReported^[count] source)).isOk ∨
        ∃ last, read (closeReported^[count] source) = .error last ∧
          last.diagnostic.kind = .unterminatedExpression ∧
          last.span.start.byte < fault.span.start.byte := by
  constructor
  · rw [← closeReported_eq failed cause]
    refine (read_closeReported failed cause noEscape).imp id ?_
    rintro ⟨next, fails, ⟨other, isTag⟩ | isExpression, further⟩
    · exact ⟨next, fails, by simp [Fault.diagnostic, isTag, Cause.kind], further⟩
    · exact ⟨next, fails, by simp [Fault.diagnostic, isExpression, Cause.kind], further⟩
  · obtain ⟨count, bounded, outcome⟩ := exists_iterate_closeReported failed cause noEscape
    refine ⟨count, bounded, outcome.imp id ?_⟩
    rintro ⟨last, fails, isExpression, further⟩
    exact ⟨last, fails, by simp [Fault.diagnostic, isExpression, Cause.kind], further⟩

/-- Two tags that are open within an expression that is open, the inner one with text that
looks like the start of an end tag. -/
theorem closing_reported_tags_helps_nested :
    ∃ fault, read "<a b=\x7b<c>x<d>y</" = .error fault ∧ fault.cause = .openTag "d" ∧
      "<a b=\x7b<c>x<d>y</".toList.getLast? ≠ some '\\' ∧
      ∃ count ≤ fault.span.start.byte + 1,
        (read (closeReported^[count] "<a b=\x7b<c>x<d>y</")).isOk ∨
          ∃ last, read (closeReported^[count] "<a b=\x7b<c>x<d>y</") = .error last ∧
            last.diagnostic.kind = .unterminatedExpression ∧
            last.span.start.byte < fault.span.start.byte := by
  have failed : read "<a b=\x7b<c>x<d>y</" =
      .error ⟨.openTag "d", ⟨⟨10, 0, 10⟩, ⟨12, 0, 12⟩⟩, none⟩ := by decide +kernel
  have noEscape : "<a b=\x7b<c>x<d>y</".toList.getLast? ≠ some '\\' := by decide +kernel
  exact ⟨_, failed, rfl, noEscape, (closing_reported_tags_helps failed rfl noEscape).2⟩

end Token
end MarkupTemplate
