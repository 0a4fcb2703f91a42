import Mathlib.Data.List.Induction
import Mathlib.Data.List.TakeWhile
import MarkupTemplate.Source.Position

/-!
# Stretches of a source text

A place is reached by passing the characters in front of it. Its three counts are
then what they are meant to be: the bytes of these characters, the line feeds
among them, and the characters behind the last line feed. A stretch is given by
the characters in front of it and those within.
-/

namespace MarkupTemplate

namespace Position

/-- Passing characters passes their bytes. -/
theorem byte_after (position : Position) (characters : List Char) :
    (position.after characters).byte =
      position.byte + (String.ofList characters).utf8ByteSize := by
  induction characters generalizing position with
  | nil => simp
  | cons first rest inductionHypothesis =>
      have advanced : (position.advance first).byte = position.byte + first.utf8Size := by
        unfold advance
        split
        · subst first
          rfl
        · rfl
      rw [after_cons, inductionHypothesis, advanced]
      simp [Nat.add_assoc]

/-- Passing characters starts as many lines as there are line feeds among them. -/
theorem line_after (position : Position) (characters : List Char) :
    (position.after characters).line = position.line + characters.count '\n' := by
  induction characters generalizing position with
  | nil => simp
  | cons first rest inductionHypothesis =>
      rw [after_cons, inductionHypothesis]
      by_cases feeds : first = '\n'
      · simp [advance, feeds]
        omega
      · simp [advance, feeds]

/-- From the start of a text, the characters of a line are counted behind its line
feed. -/
theorem col_after (characters : List Char) :
    (Position.after {} characters).col =
      (characters.reverse.takeWhile (· != '\n')).length := by
  induction characters using List.reverseRecOn with
  | nil => rfl
  | append_singleton before last inductionHypothesis =>
      rw [after_append, after_cons, after_nil]
      by_cases feeds : last = '\n'
      · simp [advance, feeds]
      · simp [advance, feeds, inductionHypothesis]

/-- Whether a place lies between two characters of a source, and its counts are the
bytes in front of it, the line feeds in front of it and the characters between it
and the last of these. -/
def IsExact (source : String) (position : Position) : Prop :=
  ∃ before behind : String, source = before ++ behind ∧
    position.byte = before.utf8ByteSize ∧
    position.line = before.toList.count '\n' ∧
    position.col = (before.toList.reverse.takeWhile (· != '\n')).length

/-- The place that is reached from the start of a source is exact. -/
theorem isExact_after (before behind : List Char) :
    (Position.after {} before).IsExact (String.ofList (before ++ behind)) :=
  ⟨String.ofList before, String.ofList behind, String.ofList_append, by simp [byte_after],
    by simp [line_after], by simp [col_after]⟩

/-- Passing more characters passes no fewer bytes. -/
theorem byte_le_after (position : Position) (characters : List Char) :
    position.byte ≤ (position.after characters).byte := by
  rw [byte_after]
  omega

/-- Passing some character passes some bytes. -/
theorem byte_lt_after (position : Position) {characters : List Char} (nonempty : characters ≠ []) :
    position.byte < (position.after characters).byte := by
  obtain ⟨first, rest, rfl⟩ := List.exists_cons_of_ne_nil nonempty
  have positive := first.utf8Size_pos
  rw [byte_after]
  simp
  omega

end Position

namespace Span

/-- The stretch that characters take behind others. -/
def after (before inside : List Char) : Span :=
  ⟨Position.after {} before, Position.after {} (before ++ inside)⟩

@[simp] theorem start_after (before inside : List Char) :
    (after before inside).start = Position.after {} before := rfl

@[simp] theorem stop_after (before inside : List Char) :
    (after before inside).stop = Position.after {} (before ++ inside) := rfl

/-- Whether a stretch takes exactly the characters `inside` of a source. -/
def Holds (source : String) (span : Span) (inside : String) : Prop :=
  ∃ before behind : String, source = before ++ inside ++ behind ∧
    span.start.byte = before.utf8ByteSize ∧ span.stop.byte = (before ++ inside).utf8ByteSize

/-- Whether a stretch is one of the characters passed. -/
def LiesIn (span : Span) (passed : List Char) : Prop :=
  ∃ before inside behind, passed = before ++ inside ++ behind ∧ span = .after before inside

/-- Whether the character at a byte lies in a stretch. -/
def Covers (span : Span) (byte : Nat) : Prop := span.start.byte ≤ byte ∧ byte < span.stop.byte

/-- Whether both ends of a stretch are exact and it does not end before it starts. -/
structure IsExact (source : String) (span : Span) : Prop where
  start : span.start.IsExact source
  stop : span.stop.IsExact source
  ordered : span.start.byte ≤ span.stop.byte

/-- A stretch takes the characters it is made of. -/
theorem holds_after (before inside behind : List Char) :
    (after before inside).Holds (String.ofList (before ++ inside ++ behind))
      (String.ofList inside) := by
  refine ⟨String.ofList before, String.ofList behind, ?_, ?_, ?_⟩
  · rw [String.ofList_append, String.ofList_append]
  · simp [Position.byte_after]
  · simp [Position.byte_after]

/-- A stretch covers every character it is made of. -/
theorem covers_after (before front : List Char) (character : Char) (behind : List Char) :
    (after before (front ++ character :: behind)).Covers
      (Position.after {} (before ++ front)).byte := by
  constructor
  · rw [start_after, Position.after_append]
    exact Position.byte_le_after _ _
  · rw [stop_after, ← List.append_assoc, Position.after_append _ (before ++ front)]
    exact Position.byte_lt_after _ (List.cons_ne_nil _ _)

/-- A stretch that is made of characters of a source is exact. -/
theorem isExact_after (before inside behind : List Char) :
    (after before inside).IsExact (String.ofList (before ++ inside ++ behind)) := by
  constructor
  case start =>
    rw [List.append_assoc]
    exact Position.isExact_after before (inside ++ behind)
  case stop => exact Position.isExact_after (before ++ inside) behind
  case ordered =>
    rw [start_after, stop_after, Position.after_append]
    exact Position.byte_le_after _ _

/-- A stretch among characters ends at or before the place behind them. -/
theorem LiesIn.stop_le {span : Span} {passed : List Char} (lies : span.LiesIn passed) :
    span.stop.byte ≤ (Position.after {} passed).byte := by
  obtain ⟨before, inside, behind, rfl, rfl⟩ := lies
  rw [stop_after, Position.after_append {} (before ++ inside)]
  exact Position.byte_le_after _ _

/-- A stretch among the first characters of a source is exact. -/
theorem LiesIn.isExact {span : Span} {passed rest : List Char} (lies : span.LiesIn passed) :
    span.IsExact (String.ofList (passed ++ rest)) := by
  obtain ⟨before, inside, behind, rfl, rfl⟩ := lies
  rw [List.append_assoc]
  exact isExact_after before inside (behind ++ rest)

end Span
end MarkupTemplate
