import Mathlib.Data.List.Basic
import MarkupTemplate.Proofs.Source.Stretch
import MarkupTemplate.Text.Lines

/-!
# Finding a line in a text

A line of a text starts behind a line feed or at the start, and reaches up to the
next line end or to the end of the text. Its number is the number of line feeds
above it. A line that is not empty is found under its number among the lines of
the text.
-/

namespace MarkupTemplate.Text

variable {above line behind characters text : List Char}

/-- Whether a line starts behind characters. -/
def StartsLine (above : List Char) : Prop := ∀ last ∈ above.getLast?, last = '\n'

/-- Whether a line ends where other characters begin. A carriage return belongs to
the line only if no line feed follows. -/
inductive EndsLine (line : List Char) : List Char → Prop where
  | last : EndsLine line []
  | feed (rest : List Char) (returnless : '\r' ∉ line.getLast?) : EndsLine line ('\n' :: rest)
  | returned (rest : List Char) : EndsLine line ('\r' :: '\n' :: rest)

/-- Whether characters are the line of a text with a number, counted from zero. -/
def IsLine (text : List Char) (number : Nat) (line : List Char) : Prop :=
  ∃ above behind, text = above ++ line ++ behind ∧ StartsLine above ∧
    above.count '\n' = number ∧ '\n' ∉ line ∧ EndsLine line behind

theorem IsLine.feedless {number : Nat} (isLine : IsLine text number line) : '\n' ∉ line := by
  obtain ⟨above, behind, -, -, -, feedless, -⟩ := isLine
  exact feedless

/-! ### Lines by their numbers -/

/-- Characters other than line feeds belong to the current line. -/
theorem linesAfter_append (feedless : '\n' ∉ characters) (line rest : List Char) :
    linesAfter line (characters ++ rest) = linesAfter (characters.reverse ++ line) rest := by
  induction characters generalizing line with
  | nil => rfl
  | cons character characters inductionHypothesis =>
      rw [List.mem_cons, not_or] at feedless
      rw [List.cons_append, linesAfter, inductionHypothesis feedless.2, List.reverse_cons,
        List.append_assoc, List.singleton_append]
      exact fun isFeed => feedless.1 isFeed.symm

/-- Every line feed ends one line. -/
theorem drop_linesAfter (line above rest : List Char) :
    (linesAfter line (above ++ '\n' :: rest)).drop (above.count '\n' + 1) = linesAfter [] rest := by
  induction above generalizing line with
  | nil => rfl
  | cons character above inductionHypothesis =>
      by_cases isFeed : character = '\n'
      · subst isFeed
        rw [List.count_cons_self]
        exact inductionHypothesis []
      · rw [List.cons_append, linesAfter, List.count_cons_of_ne isFeed]
        · exact inductionHypothesis _
        · exact isFeed

/-- A line without the carriage return of its end is left as it is. -/
theorem endLine_reverse (returnless : '\r' ∉ line.getLast?) : endLine line.reverse = line := by
  unfold endLine
  split
  next rest ends =>
    rw [← List.head?_reverse, ends] at returnless
    exact absurd rfl returnless
  next => exact List.reverse_reverse line

/-- The first line of what remains reaches up to its line end. -/
theorem head?_linesAfter (feedless : '\n' ∉ line) (ends : EndsLine line behind)
    (nonempty : line ≠ []) : (linesAfter [] (line ++ behind)).head? = some line := by
  rw [linesAfter_append feedless, List.append_nil]
  cases ends with
  | last => simp [linesAfter, nonempty]
  | feed rest returnless => simp [linesAfter, endLine_reverse returnless]
  | returned rest => simp [linesAfter, endLine]

/-- A line that is not empty is found under its number. -/
theorem IsLine.getElem?_lines {source : String} {number : Nat}
    (isLine : IsLine source.toList number line) (nonempty : line ≠ []) :
    (lines source)[number]? = some (String.ofList line) := by
  obtain ⟨above, behind, whole, starts, rfl, feedless, ends⟩ := isLine
  have first := head?_linesAfter feedless ends nonempty
  rw [lines, List.getElem?_map, whole, List.append_assoc, ← List.head?_drop]
  cases above using List.reverseRecOn with
  | nil => rw [List.count_nil, List.drop_zero, List.nil_append, first, Option.map_some]
  | append_singleton above last =>
      obtain rfl := starts last (by simp)
      rw [List.count_append, List.append_assoc, List.singleton_append]
      simp [drop_linesAfter, first]

/-- The end of a line adds nothing to it. -/
theorem mem_of_mem_endLine {character : Char} (member : character ∈ endLine line) :
    character ∈ line := by
  unfold endLine at member
  split at member
  · exact List.mem_cons_of_mem _ (List.mem_reverse.mp member)
  · exact List.mem_reverse.mp member

theorem mem_of_mem_linesAfter {current : List Char} {character : Char}
    (listed : line ∈ linesAfter current text) (member : character ∈ line) :
    character ∈ current ∨ character ∈ text := by
  fun_induction linesAfter current text with
  | case1 current empty => cases listed
  | case2 current nonempty =>
      obtain rfl := List.mem_singleton.mp listed
      exact .inl (List.mem_reverse.mp member)
  | case3 current rest inductionHypothesis =>
      rcases List.mem_cons.mp listed with rfl | further
      · exact .inl (mem_of_mem_endLine member)
      · rcases inductionHypothesis further with nothing | found
        · cases nothing
        · exact .inr (List.mem_cons_of_mem _ found)
  | case4 current first rest notFeed inductionHypothesis =>
      rw [List.mem_cons, ← or_assoc, or_comm (a := character ∈ current), ← List.mem_cons]
      exact inductionHypothesis listed

/-- The lines of a text are made of its characters. -/
theorem mem_of_mem_lines {source shown : String} {character : Char}
    (listed : shown ∈ lines source) (member : character ∈ shown.toList) :
    character ∈ source.toList := by
  obtain ⟨line, found, rfl⟩ := List.mem_map.mp listed
  rw [String.toList_ofList] at member
  exact (mem_of_mem_linesAfter found member).resolve_left List.not_mem_nil

/-! ### The line around a place -/

/-- In front of every place is the start of its line. -/
theorem exists_startsLine (before : List Char) :
    ∃ above left, before = above ++ left ∧ StartsLine above ∧ '\n' ∉ left := by
  induction before using List.reverseRecOn with
  | nil => exact ⟨[], [], rfl, by simp [StartsLine], List.not_mem_nil⟩
  | append_singleton before last inductionHypothesis =>
      by_cases isFeed : last = '\n'
      · exact ⟨before ++ [last], [], by simp, by simp [StartsLine, isFeed], List.not_mem_nil⟩
      · obtain ⟨above, left, rfl, starts, feedless⟩ := inductionHypothesis
        exact ⟨above, left ++ [last], by simp, starts, by simp [feedless, Ne.symm isFeed]⟩

/-- What is in front of the last character of a line does not matter for its end. -/
theorem EndsLine.append (ends : EndsLine line behind) (nonempty : line ≠ []) (front : List Char) :
    EndsLine (front ++ line) behind := by
  cases ends with
  | last => exact .last
  | feed rest returnless =>
      exact .feed rest (by rwa [List.getLast?_append_of_ne_nil front nonempty])
  | returned rest => exact .returned rest

/-- Behind every character that is no part of a line end is the end of its line. -/
theorem exists_endsLine {first : Char} {rest : List Char}
    (inLine : first = '\r' → '\n' ∉ rest.head?) :
    ∃ more behind, rest = more ++ behind ∧ '\n' ∉ more ∧ EndsLine (first :: more) behind := by
  induction rest generalizing first with
  | nil => exact ⟨[], [], rfl, List.not_mem_nil, .last⟩
  | cons character rest inductionHypothesis =>
      by_cases isFeed : character = '\n'
      · subst isFeed
        refine ⟨[], _, rfl, List.not_mem_nil, .feed rest ?_⟩
        rw [List.getLast?_singleton, Option.mem_some_iff]
        exact fun isReturn => inLine isReturn rfl
      by_cases returns : character = '\r' ∧ '\n' ∈ rest.head?
      · obtain ⟨rfl, feeds⟩ := returns
        obtain ⟨rest, rfl⟩ := List.head?_eq_some_iff.mp feeds
        exact ⟨[], _, rfl, List.not_mem_nil, .returned rest⟩
      · obtain ⟨more, behind, rfl, feedless, ends⟩ :=
          inductionHypothesis fun isReturn feeds => returns ⟨isReturn, feeds⟩
        exact ⟨character :: more, behind, rfl, by simp [feedless, Ne.symm isFeed],
          ends.append (List.cons_ne_nil _ _) [first]⟩

/-- The place behind a part of a line has the number of the line, and as many
characters in front of it as the part. -/
theorem line_col_after (starts : StartsLine above) (feedless : '\n' ∉ line) :
    (Position.after {} (above ++ line)).line = above.count '\n' ∧
      (Position.after {} (above ++ line)).col = line.length := by
  have noFurther : above.reverse.takeWhile (· != '\n') = [] := by
    cases above using List.reverseRecOn with
    | nil => rfl
    | append_singleton above last =>
        obtain rfl := starts last (by simp)
        simp
  constructor
  · simp [Position.line_after, List.count_eq_zero_of_not_mem feedless]
  · rw [Position.col_after, List.reverse_append, List.takeWhile_append_of_pos, noFurther,
      List.append_nil, List.length_reverse]
    intro character member
    simpa using fun isFeed : character = '\n' => feedless (isFeed ▸ List.mem_reverse.mp member)

end MarkupTemplate.Text
