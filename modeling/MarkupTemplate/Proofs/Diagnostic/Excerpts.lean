import MarkupTemplate.Compile
import MarkupTemplate.Diagnostic.Report
import MarkupTemplate.Proofs.Assembly.Places
import MarkupTemplate.Proofs.Text.Lines

/-!
# What a report shows of a source

The report of a fault shows an excerpt for every stretch of the source that the
fault concerns, and first for the one it refers back to. An excerpt is the line on
which the stretch starts, with one caret under each character of the stretch on
that line. A stretch without characters is marked at the one it stands in front
of. Because no stretch of a fault starts at white space or ends within it, there
is always a line to show, and no caret stands behind its end.
-/

namespace MarkupTemplate

open Text

/-- A line of a source, cut into the characters in front of a stretch, those that
are marked and those behind. -/
structure Excerpt where
  number : Nat
  left : List Char
  marked : List Char
  right : List Char
  label : Option String

namespace Excerpt

/-- The characters of the line. -/
def line (excerpt : Excerpt) : List Char := excerpt.left ++ excerpt.marked ++ excerpt.right

/-- The rows of a report for an excerpt: the line behind its number, which counts
from one, and a caret under every marked character. -/
def rows (width : Nat) (excerpt : Excerpt) : String :=
  alignRight width (toString (excerpt.number + 1)) ++ " | " ++ String.ofList excerpt.line ++ "\n"
    ++ repeated ' ' width ++ " | " ++ repeated ' ' excerpt.left.length
    ++ repeated '^' excerpt.marked.length ++ excerpt.label.elim "" (" " ++ ·) ++ "\n"

/-- Whether the characters of a stretch on the line where it starts are marked, with
others to the right of them: all of its characters, or those up to the line end. In
place of none, it is one. -/
inductive Marks : List Char → List Char → List Char → Prop where
  | point (character : Char) (right : List Char) : Marks [] [character] right
  | within {marked : List Char} (nonempty : marked ≠ []) (right : List Char) :
      Marks marked marked right
  | beyond {marked lineEnd : List Char} (nonempty : marked ≠ [])
      (ends : lineEnd = ['\n'] ∨ lineEnd = ['\r', '\n']) (further : List Char) :
      Marks (marked ++ lineEnd ++ further) marked []

/-- Whether an excerpt shows where a stretch of a source starts: the line it starts
on, marked from the column at which it starts to the column at which it ends, or to
the end of the line if it ends on a later one. -/
structure Shows (source : String) (excerpt : Excerpt) (span : Span) : Prop where
  number : excerpt.number = span.start.line
  isLine : IsLine source.toList excerpt.number excerpt.line
  start : excerpt.left.length = span.start.col
  stop : excerpt.marked.length =
    if span.stop.line = span.start.line then max 1 (span.stop.col - span.start.col)
    else excerpt.line.length - span.start.col
  marks : ∃ inside, span.Holds source (String.ofList inside) ∧
    Marks inside excerpt.marked excerpt.right

/-- Whether an excerpt shows a stretch under its label. -/
def Presents (source : String) (excerpt : Excerpt) (stretch : Span × Option String) : Prop :=
  excerpt.Shows source stretch.1 ∧ excerpt.label = stretch.2

variable {excerpt : Excerpt} {source : String} {span : Span}
  {above left inside marked right behind : List Char}

/-! ### Rows -/

/-- Something is marked on every line. -/
theorem Marks.nonempty (marks : Marks inside marked right) : marked ≠ [] := by
  cases marks with
  | point => exact List.cons_ne_nil _ _
  | within nonempty => exact nonempty
  | beyond nonempty => exact nonempty

theorem alignRight_empty (width : Nat) : alignRight width "" = repeated ' ' width := by
  simp [alignRight]

theorem length_alignRight (width : Nat) (text : String) :
    (alignRight width text).length = max width text.length := by
  simp [alignRight, repeated]
  omega

/-- The column in front of a line on a plain stream. -/
theorem gutter_append (width : Nat) (text rest : String) :
    Style.plain.gutter width text ++ (" " ++ rest) = alignRight width text ++ (" | " ++ rest) := by
  have bar : " |" ++ (" " ++ rest) = " | " ++ rest := by
    rw [← String.append_assoc]
    rfl
  simp [Style.gutter, Style.ink, String.append_assoc, bar]

/-- The carets of a report are those of the excerpt. -/
theorem Shows.caretCount_eq (showing : excerpt.Shows source span) :
    span.caretCount (String.ofList excerpt.line) = excerpt.marked.length := by
  obtain ⟨inside, -, marks⟩ := showing.marks
  have positive := List.length_pos_iff.mpr marks.nonempty
  have stop := showing.stop
  unfold Span.caretCount
  split at stop
  next same => rw [if_pos same, stop]
  next other =>
    rw [if_neg other, String.length_ofList]
    omega

/-- The rows of a report are those of the excerpt. -/
theorem Shows.snippet_eq (showing : excerpt.Shows source span) (width : Nat) :
    Style.plain.snippet (lines source) width span excerpt.label = excerpt.rows width := by
  obtain ⟨inside, -, marks⟩ := showing.marks
  have found : (lines source)[span.start.line]? = some (String.ofList excerpt.line) := by
    rw [← showing.number]
    exact showing.isLine.getElem?_lines (by simp [line, marks.nonempty])
  simp only [Style.snippet, found, showing.caretCount_eq, rows, showing.number, showing.start]
  cases excerpt.label <;>
    simp [Style.ink, Style.sourceLine, String.append_assoc, gutter_append, alignRight_empty]

example : rows 2 ⟨1, [' '], ['<', '/', 'q'], [' '], some "here"⟩ =
    " 2 |  </q \n   |  ^^^ here\n" := by
  decide +kernel

/-! ### Finding an excerpt -/

/-- What is marked fits the columns of a stretch. -/
theorem shows_after {label : Option String}
    (isLine : IsLine source.toList (above.count '\n') (left ++ marked ++ right))
    (starts : StartsLine above)
    (holds : (Span.after (above ++ left) inside).Holds source (String.ofList inside))
    (marks : Marks inside marked right) :
    Shows source ⟨above.count '\n', left, marked, right, label⟩ (.after (above ++ left) inside) := by
  have feedless := isLine.feedless
  rw [List.mem_append, List.mem_append, not_or, not_or] at feedless
  obtain ⟨⟨leftFeedless, markedFeedless⟩, -⟩ := feedless
  obtain ⟨number, column⟩ := line_col_after starts leftFeedless
  refine ⟨number.symm, isLine, column.symm, ?_, inside, holds, marks⟩
  rw [Span.start_after, Span.stop_after, number, column, List.append_assoc]
  change marked.length = _
  cases marks with
  | point character right =>
      rw [List.append_nil, number, column]
      simp
  | within nonempty right =>
      obtain ⟨sameNumber, stop⟩ := line_col_after starts
        (fun member => (List.mem_append.mp member).elim leftFeedless markedFeedless)
      have positive := List.length_pos_iff.mpr nonempty
      rw [sameNumber, stop, if_pos rfl, List.length_append]
      omega
  | @beyond _ lineEnd nonempty ends further =>
      have feeds : 0 < lineEnd.count '\n' := by
        rcases ends with rfl | rfl <;> decide
      rw [if_neg, line]
      · simp
      · simp only [Position.line_after, List.count_append]
        omega

/-- The line around a stretch is cut where the stretch starts and where it ends. -/
theorem exists_marks {first : Char} {more tail : List Char}
    (split : inside ++ behind = first :: more ++ tail) (lineEnds : EndsLine (first :: more) tail)
    (ends : EndsSolid inside ∨ LeadsSolid behind) :
    ∃ marked right, first :: more = marked ++ right ∧ Marks inside marked right := by
  rcases List.append_eq_append_iff.mp split with ⟨right, shown, -⟩ | ⟨further, whole, rest⟩
  · cases inside with
    | nil => exact ⟨[first], more, rfl, .point first more⟩
    | cons character inside => exact ⟨_, right, shown, .within (List.cons_ne_nil _ _) right⟩
  · have shown : first :: more ≠ [] := List.cons_ne_nil _ _
    have all (nothing : further = []) :
        ∃ marked right, first :: more = marked ++ right ∧ Marks inside marked right := by
      rw [whole, nothing, List.append_nil]
      exact ⟨_, [], (List.append_nil _).symm, .within shown []⟩
    have past {lineEnd others : List Char} (ends : lineEnd = ['\n'] ∨ lineEnd = ['\r', '\n'])
        (split : inside = first :: more ++ (lineEnd ++ others)) :
        ∃ marked right, first :: more = marked ++ right ∧ Marks inside marked right := by
      rw [split, ← List.append_assoc]
      exact ⟨_, [], (List.append_nil _).symm, .beyond shown ends others⟩
    cases lineEnds with
    | last => exact all (List.append_eq_nil_iff.mp rest.symm).1
    | feed others =>
        rcases List.cons_eq_append_iff.mp rest with ⟨nothing, -⟩ | ⟨further, rfl, -⟩
        · exact all nothing
        · exact past (.inl rfl) whole
    | returned others =>
        rcases List.cons_eq_append_iff.mp rest with ⟨nothing, -⟩ | ⟨further, rfl, feeds⟩
        · exact all nothing
        rcases List.cons_eq_append_iff.mp feeds with ⟨rfl, behindFeeds⟩ | ⟨further, rfl, -⟩
        · -- The stretch would end between the two characters of a line end.
          rcases ends with ends | leads
          · cases ends '\r' (by rw [whole, List.getLast?_concat]; rfl)
          · cases leads '\n' (by rw [behindFeeds]; rfl)
        · exact past (.inr rfl) whole

/-- There is an excerpt for every stretch that does not start at white space or end
within it. -/
theorem exists_shows {before : List Char} (whole : source.toList = before ++ inside ++ behind)
    (solid : ∃ first ∈ (inside ++ behind).head?, isBlank first = false)
    (ends : EndsSolid inside ∨ LeadsSolid behind) (label : Option String) :
    ∃ excerpt : Excerpt, excerpt.Shows source (.after before inside) ∧ excerpt.label = label := by
  obtain ⟨first, member, solid⟩ := solid
  obtain ⟨rest, split⟩ := List.head?_eq_some_iff.mp member
  have holds := Span.holds_after before inside behind
  rw [← whole, String.ofList_toList] at holds
  obtain ⟨above, left, rfl, starts, feedless⟩ := exists_startsLine before
  have notFeed : '\n' ≠ first := by
    rintro rfl
    cases solid
  have notReturn : first ≠ '\r' := by
    rintro rfl
    cases solid
  obtain ⟨more, tail, rfl, moreFeedless, lineEnds⟩ :=
    @exists_endsLine first rest fun isReturn => absurd isReturn notReturn
  obtain ⟨marked, right, shown, marks⟩ := exists_marks split lineEnds ends
  refine ⟨⟨_, left, marked, right, label⟩, shows_after ?_ starts holds marks, rfl⟩
  refine ⟨above, tail, ?_, starts, rfl, ?_, ?_⟩
  · rw [whole, List.append_assoc _ inside, split, List.append_assoc left, ← shown]
    simp
  · rw [List.append_assoc, ← shown]
    simp [feedless, notFeed, moreFeedless]
  · rw [List.append_assoc, ← shown]
    exact lineEnds.append (List.cons_ne_nil _ _) left

end Excerpt

/-- There is an excerpt for every stretch among the characters passed. -/
theorem Span.Within.exists_shows {source : String} {span : Span} {passed rest : List Char}
    (within : span.Within passed) (whole : source.toList = passed ++ rest)
    (label : Option String) :
    ∃ excerpt : Excerpt, excerpt.Shows source span ∧ excerpt.label = label := by
  obtain ⟨before, inside, behind, rfl, rfl, solid⟩ := within
  rw [List.append_assoc _ behind] at whole
  exact Excerpt.exists_shows whole (solid.begins_append _) (.inl solid.ends) label

namespace Diagnostic

/-- A plain report around the rows of its excerpts. -/
def layout (diagnostic : Diagnostic) (filename : String) (width : Nat) (rows : List String) :
    String :=
  "\n" ++ " file: " ++ filename ++ ":" ++ toString (diagnostic.span.start.line + 1) ++ ":"
    ++ toString (diagnostic.span.start.col + 1) ++ "\n"
    ++ "error[" ++ diagnostic.kind.title ++ "]:" ++ " " ++ diagnostic.message ++ "\n"
    ++ repeated ' ' width ++ " |" ++ "\n" ++ String.join rows
    ++ diagnostic.help.elim "" ("\n" ++ Style.plain.advice ·) ++ "\n"

theorem render_plain (diagnostic : Diagnostic) (source filename : String) :
    diagnostic.render .plain source filename =
      diagnostic.layout filename diagnostic.gutterWidth (diagnostic.stretches.map fun stretch =>
        Style.plain.snippet (lines source) diagnostic.gutterWidth stretch.1 stretch.2) := by
  unfold render layout place location Style.gutter Style.ink
  simp only [Excerpt.alignRight_empty, String.append_assoc, String.empty_append]
  cases diagnostic.help with
  | none => rfl
  | some help => rfl

/-- The stretches that a report shows, with the label of each, where the one it
refers back to comes first. -/
def captions (diagnostic : Diagnostic) : List (Span × Option String) :=
  diagnostic.related.toList.map (·, some (diagnostic.label.getD "opened here"))
    ++ [(diagnostic.span, none)]

/-- The numbers of all lines shown fit into the column in front of them. -/
theorem length_le_gutterWidth {diagnostic : Diagnostic} {stretch : Span × Option String}
    (captioned : stretch ∈ diagnostic.captions) :
    (toString (stretch.1.start.line + 1)).length ≤ diagnostic.gutterWidth := by
  unfold captions at captioned
  unfold gutterWidth
  cases refers : diagnostic.related with
  | none =>
      rw [refers] at captioned
      obtain rfl := List.mem_singleton.mp captioned
      exact Nat.le_max_right _ _
  | some related =>
      simp only [Option.toList_some, List.foldl_cons, List.foldl_nil]
      rw [refers] at captioned
      rcases List.mem_cons.mp captioned with rfl | isOwn
      · exact Nat.le_max_right _ _
      · obtain rfl := List.mem_singleton.mp isOwn
        exact (Nat.le_max_right _ _).trans (Nat.le_max_left _ _)

theorem stretches_eq_captions {diagnostic : Diagnostic}
    (ordered : ∀ related ∈ diagnostic.related,
      related.start.byte ≤ diagnostic.span.start.byte) :
    diagnostic.stretches = diagnostic.captions := by
  unfold stretches captions
  split
  next isNone => simp [isNone]
  next related isSome =>
    rw [if_pos (ordered related isSome), isSome]
    rfl

end Diagnostic

/-- There are excerpts for all stretches of a fault that lies in a source. -/
theorem Fault.Lies.exists_excerpts {source : String} {fault : Fault}
    (lies : fault.Lies source.toList) :
    ∃ excerpts, List.Forall₂ (Excerpt.Presents source) excerpts fault.diagnostic.captions := by
  obtain ⟨before, inside, behind, whole, span, solid, ends, related⟩ := lies
  obtain ⟨own, ownShows, unlabelled⟩ := Excerpt.exists_shows whole solid ends none
  rw [← span] at ownShows
  unfold Diagnostic.captions
  cases refers : fault.related with
  | none => exact ⟨[own], by simpa [Fault.diagnostic, refers] using ⟨ownShows, unlabelled⟩⟩
  | some earlier =>
      rw [List.append_assoc] at whole
      obtain ⟨other, otherShows, labelled⟩ := (related earlier refers).exists_shows whole
        (some (fault.cause.label.getD "opened here"))
      refine ⟨[other, own], ?_⟩
      simpa [Fault.diagnostic, refers] using ⟨⟨otherShows, labelled⟩, ownShows, unlabelled⟩

/-- The rows of a report are those of excerpts for all its stretches. -/
theorem Diagnostic.render_of_presents {diagnostic : Diagnostic} {source : String}
    {excerpts : List Excerpt}
    (presents : List.Forall₂ (Excerpt.Presents source) excerpts diagnostic.stretches)
    (filename : String) :
    diagnostic.render .plain source filename = diagnostic.layout filename diagnostic.gutterWidth
      (excerpts.map (Excerpt.rows diagnostic.gutterWidth)) := by
  rw [render_plain]
  congr 1
  generalize diagnostic.stretches = stretches at presents
  induction presents with
  | nil => rfl
  | cons first _ inductionHypothesis =>
      rw [List.map_cons, List.map_cons, inductionHypothesis, ← first.2, first.1.snippet_eq]

/-- Line numbers that fit into a column are all moved to its end. -/
theorem Excerpt.length_alignRight_number {source : String} {width : Nat}
    {excerpts : List Excerpt} {stretches : List (Span × Option String)}
    (presents : List.Forall₂ (Presents source) excerpts stretches)
    (fits : ∀ stretch ∈ stretches, (toString (stretch.1.start.line + 1)).length ≤ width) :
    ∀ excerpt ∈ excerpts, (alignRight width (toString (excerpt.number + 1))).length = width := by
  induction presents with
  | nil => exact fun _ member => absurd member List.not_mem_nil
  | cons first _ inductionHypothesis =>
      rw [List.forall_mem_cons] at fits ⊢
      refine ⟨?_, inductionHypothesis fits.2⟩
      rw [first.1.number, length_alignRight]
      exact Nat.max_eq_left fits.1

/-- The report of every fault that compiling meets shows excerpts for all stretches
that the fault concerns, with the line numbers in front of them in one column. -/
theorem Fault.excerpts_shown {options : Script.Options} {source : String} {fault : Fault}
    (failed : compile options source = .error fault) (filename : String) :
    ∃ width excerpts,
      fault.diagnostic.render .plain source filename =
        fault.diagnostic.layout filename width (excerpts.map (Excerpt.rows width)) ∧
      List.Forall₂ (Excerpt.Presents source) excerpts fault.diagnostic.captions ∧
      ∀ excerpt ∈ excerpts, (alignRight width (toString (excerpt.number + 1))).length = width := by
  rcases Reader.bind_eq_error failed with unread | ⟨template, -, compiled⟩
  · have lies := Template.lies_of_read unread
    obtain ⟨excerpts, presents⟩ := lies.exists_excerpts
    have ordered : fault.diagnostic.stretches = fault.diagnostic.captions :=
      Diagnostic.stretches_eq_captions fun related refers =>
        (lies.isLocated.related related refers).2
    exact ⟨_, excerpts, Diagnostic.render_of_presents (ordered ▸ presents) filename, presents,
      Excerpt.length_alignRight_number presents fun _ => Diagnostic.length_le_gutterWidth⟩
  · cases compiled

/-- A closing tag that takes two lines and does not fit the opening tag above. -/
theorem Fault.excerpts_shown_crossed :
    ∃ fault, compile {} "<p>\r\n  </q\r\n>" = .error fault ∧
      fault.diagnostic.related = some ⟨⟨0, 0, 0⟩, ⟨2, 0, 2⟩⟩ ∧
      fault.diagnostic.span = ⟨⟨7, 1, 2⟩, ⟨13, 2, 1⟩⟩ ∧
      ∃ width excerpts,
        fault.diagnostic.render .plain "<p>\r\n  </q\r\n>" "page" =
          fault.diagnostic.layout "page" width (excerpts.map (Excerpt.rows width)) ∧
        List.Forall₂ (Excerpt.Presents "<p>\r\n  </q\r\n>") excerpts fault.diagnostic.captions ∧
        ∀ excerpt ∈ excerpts,
          (alignRight width (toString (excerpt.number + 1))).length = width := by
  have crossed : ((compile {} "<p>\r\n  </q\r\n>").map fun _ => ()) = .error
      ⟨.crossedTags "p" "q", ⟨⟨7, 1, 2⟩, ⟨13, 2, 1⟩⟩, some ⟨⟨0, 0, 0⟩, ⟨2, 0, 2⟩⟩⟩ := by
    decide +kernel
  have failed := Reader.map_eq_error crossed
  exact ⟨_, failed, rfl, rfl, Fault.excerpts_shown failed "page"⟩

end MarkupTemplate
