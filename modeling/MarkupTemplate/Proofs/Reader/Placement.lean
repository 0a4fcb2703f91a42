import MarkupTemplate.Proofs.Reader.Failures

/-!
# A source in another place

A source may stand behind other text, or among the children of a tag. Reading it
there is reading it on its own, with every position moved and with the tokens and
open tags in front of it kept. `Reader.placed` says what becomes of a reader, and
the results below say so of every construct, every move and every failure.
-/

namespace MarkupTemplate

open Spelling Text

/-! ### Moving -/

/-- The place that lies behind `origin` as this one lies behind the start of a text.
A column counts from `origin` on the first line only. -/
def Position.moved (position origin : Position) : Position where
  byte := origin.byte + position.byte
  line := origin.line + position.line
  col := if position.line = 0 then origin.col + position.col else position.col

/-- A stretch, moved behind a place. -/
def Span.moved (span : Span) (origin : Position) : Span :=
  ⟨span.start.moved origin, span.stop.moved origin⟩

/-- A token, moved behind a place. -/
def Token.moved (token : Token) (origin : Position) : Token :=
  { token with span := token.span.moved origin }

/-- A fault, moved behind a place. Its cause is the same. -/
def Fault.moved (fault : Fault) (origin : Position) : Fault where
  cause := fault.cause
  span := fault.span.moved origin
  related := fault.related.map (·.moved origin)

/-- A report, moved behind a place. What it says is the same. -/
def Diagnostic.moved (diagnostic : Diagnostic) (origin : Position) : Diagnostic :=
  { diagnostic with
    span := diagnostic.span.moved origin
    related := diagnostic.related.map (·.moved origin) }

/-- An open tag, moved behind a place. -/
def OpenTag.moved (tag : OpenTag) (origin : Position) : OpenTag :=
  { tag with span := tag.span.moved origin }

/-- An expression that is being read, moved behind a place. -/
def Site.moved (site : Site) (origin : Position) : Site :=
  { site with opening := site.opening.moved origin }

namespace Position

theorem moved_advance (position origin : Position) (character : Char) :
    (position.advance character).moved origin = (position.moved origin).advance character := by
  unfold advance moved
  by_cases newline : character = '\n'
  · simp only [newline, if_true]
    rfl
  · simp only [newline, if_false, Position.mk.injEq, true_and, Nat.add_assoc]
    split <;> simp_all [Nat.add_assoc]

/-- Moving commutes with passing characters. -/
theorem moved_after (position origin : Position) (characters : List Char) :
    (position.after characters).moved origin = (position.moved origin).after characters := by
  induction characters generalizing position with
  | nil => rfl
  | cons character characters inductionHypothesis =>
      rw [after_cons, after_cons, inductionHypothesis, moved_advance]

end Position

/-! ### Placing -/

/-- Where a source stands: behind a place, the tokens in front of it, newest first,
and the constructs around it. If it stands among the children of a tag, these are
the tag, the modes around its children and the number of open tags. -/
structure Placement where
  origin : Position
  before : List Token
  parent : Option OpenTag := none
  outer : List Mode := []
  level : Nat := 0

/-- Whether nothing is open around a source. -/
structure Placement.IsTop (placement : Placement) : Prop where
  parent : placement.parent = none
  outer : placement.outer = []
  level : placement.level = 0

/-- What reading gives in another place, given what it gives on its own. -/
def Placement.result {α β : Type} (placement : Placement) (convert : α → β) :
    Except Fault α → Except Fault β
  | .ok value => .ok (convert value)
  | .error fault => .error (fault.moved placement.origin)

/-- The tag within which text stands, in another place. -/
def Placement.parentOf (placement : Placement) (parent : Option OpenTag) : Option OpenTag :=
  (parent.map (·.moved placement.origin)).or placement.parent

/-- A mode in another place. -/
def Mode.placed (mode : Mode) (placement : Placement) : Mode :=
  match mode with
  | .text parent => .text (placement.parentOf parent)
  | .attributes tag => .attributes (tag.moved placement.origin)
  | .expression site => .expression (site.moved placement.origin)

namespace Reader

/-- A reader in another place. -/
def placed (reader : Reader) (placement : Placement) : Reader where
  rest := reader.rest
  position := reader.position.moved placement.origin
  tokens := reader.tokens.map (·.moved placement.origin) ++ placement.before
  openElements := reader.openElements + placement.level
  modes := reader.modes.map (·.placed placement) ++ placement.outer
  pending := reader.pending
  pendingStart := reader.pendingStart.moved placement.origin

variable {reader next : Reader} {placement : Placement}

@[simp] theorem rest_placed (reader : Reader) (placement : Placement) :
    (reader.placed placement).rest = reader.rest := rfl

@[simp] theorem position_placed (reader : Reader) (placement : Placement) :
    (reader.placed placement).position = reader.position.moved placement.origin := rfl

@[simp] theorem pending_placed (reader : Reader) (placement : Placement) :
    (reader.placed placement).pending = reader.pending := rfl

@[simp] theorem openElements_placed (reader : Reader) (placement : Placement) :
    (reader.placed placement).openElements = reader.openElements + placement.level := rfl

/-- Modes around a mode stay around it. -/
theorem modes_placed (placement : Placement) {mode : Mode} {outer : List Mode}
    (modes : reader.modes = mode :: outer) :
    (reader.placed placement).modes =
      mode.placed placement :: (outer.map (·.placed placement) ++ placement.outer) := by
  simp [placed, modes]

/-- A reader in text with nothing pending stands as at the start of what is left. -/
theorem eq_placed {parent : Option OpenTag} {outer : List Mode}
    (modes : reader.modes = .text parent :: outer) (nothing : reader.pending = [])
    (here : reader.pendingStart = reader.position) :
    reader = ({ rest := reader.rest } : Reader).placed
      ⟨reader.position, reader.tokens, parent, outer, reader.openElements⟩ := by
  obtain ⟨rest, position, tokens, openElements, _, _, _⟩ := reader
  cases modes
  cases nothing
  cases here
  simp only [placed, List.map_nil, List.nil_append, Nat.zero_add]
  rfl

@[simp] theorem skip_placed (reader : Reader) (placement : Placement) (count : Nat) :
    (reader.placed placement).skip count = (reader.skip count).placed placement := by
  simp [skip, placed, Position.moved_after]

@[simp] theorem skipBlank_placed (reader : Reader) (placement : Placement) :
    (reader.placed placement).skipBlank = reader.skipBlank.placed placement :=
  skip_placed _ _ _

@[simp] theorem emit_placed (reader : Reader) (placement : Placement) (kind : TokenKind)
    (value : String) (origin : Position) :
    (reader.placed placement).emit kind value (origin.moved placement.origin) =
      (reader.emit kind value origin).placed placement := rfl

theorem gather_placed (reader : Reader) (placement : Placement) (character : Char) (count : Nat) :
    (reader.placed placement).gather character count =
      (reader.gather character count).placed placement := by
  simp [gather, placed, skip, Position.moved_after]

theorem enter_placed (reader : Reader) (placement : Placement) (modes : List Mode) :
    (reader.placed placement).enter (modes.map (·.placed placement) ++ placement.outer) =
      (reader.enter modes).placed placement := rfl

@[simp] theorem flushText_placed (reader : Reader) (placement : Placement) :
    (reader.placed placement).flushText = reader.flushText.placed placement := by
  unfold flushText
  split
  next empty => rw [if_pos (by simpa using empty)]
  next nonempty =>
    rw [if_neg (by simpa using nonempty)]
    rfl

@[simp] theorem flushPiece_placed (reader : Reader) (placement : Placement) (site : Site)
    (closing : Bool) :
    (reader.placed placement).flushPiece (site.moved placement.origin) closing =
      (reader.flushPiece site closing).placed placement := by
  have same : (site.moved placement.origin).piece closing reader.pending =
      site.piece closing reader.pending := rfl
  unfold flushPiece
  simp only [pending_placed, same]
  split <;> rfl

/-! ### Constructs -/

/-- The delimiter of an expression is read alike. -/
theorem openSite_placed (reader : Reader) (placement : Placement) (kind : TokenKind)
    (delimiter : String) :
    (reader.placed placement).openSite kind delimiter =
      ((reader.openSite kind delimiter).1.moved placement.origin,
        (reader.openSite kind delimiter).2.placed placement) := by
  simp [openSite, Site.moved, Span.moved]

/-- A tag is opened alike where there is as much room for it. -/
theorem openTag_placed
    (room : maxNesting ≤ reader.openElements + placement.level ↔ maxNesting ≤ reader.openElements) :
    (reader.placed placement).openTag =
      placement.result (fun opened => (opened.1.moved placement.origin, opened.2.placed placement))
        reader.openTag := by
  unfold openTag
  simp only [skip_placed, position_placed, emit_placed, rest_placed, openElements_placed, room]
  split
  · rfl
  split
  · rfl
  · simp [Placement.result, OpenTag.moved, Span.moved, placed, Nat.add_right_comm]

/-- A tag is closed alike, unless only the place around the source has one to close. -/
theorem closeTag_placed {parent : Option OpenTag}
    (inside : parent ≠ none ∨ placement.parent = none)
    (counted : placement.level = 0 ∨ 1 ≤ reader.openElements) :
    (reader.placed placement).closeTag (placement.parentOf parent) =
      placement.result (·.placed placement) (reader.closeTag parent) := by
  have levels : reader.openElements + placement.level - 1 =
      reader.openElements - 1 + placement.level := by omega
  unfold closeTag
  simp only [skip_placed, position_placed, rest_placed, skipBlank_placed, openElements_placed]
  split
  next =>
    cases parent with
    | none =>
        obtain top := inside.resolve_left (by simp)
        simp [Placement.parentOf, top, Placement.result, Fault.moved, Span.moved]
    | some tag =>
        simp only [Placement.parentOf, Option.map_some, Option.some_or]
        split
        next same =>
          rw [if_pos (by simpa [OpenTag.moved] using same)]
          simp [Placement.result, placed, emitAt, emit, OpenTag.moved, Token.moved, Span.moved,
            levels]
        next differs =>
          rw [if_neg (by simpa [OpenTag.moved] using differs)]
          simp [Placement.result, Fault.moved, Span.moved, OpenTag.moved]
  next => rfl

/-- A declaration is read alike. -/
theorem readDeclaration_placed (reader : Reader) (placement : Placement) :
    (reader.placed placement).readDeclaration =
      placement.result (·.placed placement) reader.readDeclaration := by
  unfold readDeclaration
  simp only [rest_placed, skip_placed, position_placed]
  split <;> rfl

/-- A quoted value is read alike. -/
theorem readString_placed (reader : Reader) (placement : Placement) (quote : Char) :
    (reader.placed placement).readString quote =
      placement.result (·.placed placement) (reader.readString quote) := by
  unfold readString
  simp only [rest_placed, skip_placed, position_placed]
  split <;> rfl

end Reader

/-- A site that may be opened, in another place. -/
def Placement.siteOf (placement : Placement) (opened : Option Site × Reader) :
    Option Site × Reader :=
  (opened.1.map (·.moved placement.origin), opened.2.placed placement)

namespace Reader

variable {reader next : Reader} {placement : Placement} {fault : Fault}

/-- The value of an attribute is read alike. -/
theorem readValue_placed (reader : Reader) (placement : Placement) (name : String)
    (origin : Position) :
    (reader.placed placement).readValue name (origin.moved placement.origin) =
      placement.result placement.siteOf (reader.readValue name origin) := by
  have quoted (quote : Char) :
      ((reader.placed placement).readString quote).map (fun next => (none, next)) =
        placement.result placement.siteOf
          ((reader.readString quote).map fun next => ((none : Option Site), next)) := by
    rw [readString_placed]
    cases reader.readString quote <;> rfl
  unfold readValue
  simp only [rest_placed, position_placed, openSite_placed]
  split
  · exact quoted '"'
  · exact quoted '\''
  · rfl
  · rfl

/-- An attribute is read alike. -/
theorem readAttribute_placed (reader : Reader) (placement : Placement) :
    (reader.placed placement).readAttribute =
      placement.result placement.siteOf reader.readAttribute := by
  unfold readAttribute
  simp only [rest_placed, skip_placed, position_placed, emit_placed, skipBlank_placed]
  split
  next => exact readValue_placed _ placement _ _
  next => rfl

/-! ### Steps -/

/-- What a place must grant for a move: either nothing is open around the source, or
there is room for the tags that the move leaves open. -/
def Fits (reader next : Reader) (placement : Placement) : Prop :=
  placement.level = 0 ∨
    reader.Balanced ∧ next.openElements + placement.level ≤ maxNesting

/-- Where a tag is open, the count of open tags can be lowered in any place. -/
theorem Fits.counted {mode : Mode} {outer : List Mode} (fits : reader.Fits next placement)
    (modes : reader.modes = mode :: outer) (holdsTag : mode.holdsTag) :
    placement.level = 0 ∨ 1 ≤ reader.openElements := by
  rcases fits with top | ⟨balanced, -⟩
  · exact .inl top
  · have counted : 0 < Mode.openTags (mode :: outer) :=
      List.countP_pos_iff.mpr ⟨mode, List.mem_cons_self, holdsTag⟩
    exact .inr (by rw [balanced, modes]; exact counted)

/-- Where a tag is opened, a place that grants the move has room for it. -/
theorem Fits.openTag_eq {flushed opened : Reader} {tag : OpenTag}
    (fits : reader.Fits next placement) (same : flushed.openElements = reader.openElements)
    (reached : next.openElements = opened.openElements)
    (opens : flushed.openTag = .ok (tag, opened)) :
    (flushed.placed placement).openTag =
      .ok (tag.moved placement.origin, opened.placed placement) := by
  have opening := opensTag_of_openTag opens
  have room : maxNesting ≤ flushed.openElements + placement.level ↔
      maxNesting ≤ flushed.openElements := by
    have shallow := opening.shallow
    have deeper := opening.openElements
    rcases fits with top | ⟨-, granted⟩ <;> omega
  rw [openTag_placed room, opens]
  rfl

/-- A move is one in every place that grants it. -/
theorem Moves.placed (move : reader.Moves next) (fits : reader.Fits next placement) :
    (reader.placed placement).Moves (next.placed placement) := by
  cases move with
  | escape modes front escapable =>
      rw [← gather_placed]
      exact .escape (modes_placed placement modes) front escapable
  | literal modes front isLiteral =>
      rw [← gather_placed]
      exact .literal (modes_placed placement modes) front isLiteral
  | declare modes front declared =>
      rw [← enter_placed]
      refine .declare (modes_placed placement modes) front ?_
      rw [flushText_placed, readDeclaration_placed, declared]
      rfl
  | openChildSite modes front noDeclaration =>
      have move := Moves.openChildSite (modes_placed placement modes) front noDeclaration
      rw [flushText_placed, openSite_placed] at move
      exact move
  | closeElement modes closes closed =>
      obtain ⟨tag, rfl, -⟩ := closesTag_of_closeTag closed
      rw [← enter_placed]
      refine .closeElement (modes_placed placement modes) closes ?_
      rw [flushText_placed, closeTag_placed (.inl (by simp))
        (by simpa using fits.counted modes rfl), closed]
      rfl
  | openChild modes opens opened =>
      rw [← enter_placed]
      refine .openChild (modes_placed placement modes) opens ?_
      rw [flushText_placed]
      exact fits.openTag_eq (openElements_flushText _) rfl opened
  | selfClose modes front =>
      have counted := fits.counted modes rfl
      have move := Moves.selfClose (modes_placed placement modes)
        (by rw [skipBlank_placed]; exact front)
      have levels : reader.openElements + placement.level - 1 =
          reader.openElements - 1 + placement.level := by omega
      simp only [skipBlank_placed, skip_placed, position_placed, emit_placed, openElements_placed,
        openElements_skipBlank, levels] at move
      exact move
  | endTag modes front =>
      have move := Moves.endTag (modes_placed placement modes)
        (by rw [skipBlank_placed]; exact front)
      simp only [skipBlank_placed, skip_placed, position_placed, emit_placed] at move
      exact move
  | openSpread modes front =>
      have move := Moves.openSpread (modes_placed placement modes)
        (by rw [skipBlank_placed]; exact front)
      rw [skipBlank_placed, openSite_placed] at move
      exact move
  | nameAttribute modes front starts read =>
      rename_i site
      have move := Moves.nameAttribute (modes_placed placement modes)
        (by rw [skipBlank_placed]; exact front) starts
        (by rw [skipBlank_placed, readAttribute_placed, read]; rfl)
      cases site <;> exact move
  | quoteEscape modes quoted front =>
      have move := Moves.quoteEscape (modes_placed placement modes) quoted front
      rw [gather_placed, gather_placed] at move
      exact move
  | quoteCharacter modes quoted front noEscape =>
      have move := Moves.quoteCharacter (modes_placed placement modes) quoted front noEscape
      rw [gather_placed] at move
      exact move
  | openBrace modes unquoted front =>
      have move := Moves.openBrace (modes_placed placement modes) unquoted front
      rw [gather_placed] at move
      exact move
  | closeBrace modes unquoted front deep =>
      have move := Moves.closeBrace (modes_placed placement modes) unquoted front deep
      rw [gather_placed] at move
      exact move
  | closeSite modes unquoted front last =>
      have move := Moves.closeSite (modes_placed placement modes) unquoted front last
      rw [flushPiece_placed, skip_placed, position_placed, emit_placed] at move
      exact move
  | openEmbedded modes unquoted opens starts opened =>
      rw [← enter_placed]
      refine .openEmbedded (modes_placed placement modes) unquoted opens starts ?_
      rw [flushPiece_placed]
      exact fits.openTag_eq (openElements_flushPiece _ _ _) rfl opened
  | code modes unquoted front notOpening notClosing noMarkup =>
      have move := Moves.code (modes_placed placement modes) unquoted front notOpening notClosing noMarkup
      rw [gather_placed] at move
      exact move

/-- A failure is one in every place with nothing open around it, and there it reports
the same fault, moved. -/
theorem Fails.placed (fails : reader.Fails fault) (top : placement.IsTop) :
    (reader.placed placement).Fails (fault.moved placement.origin) := by
  have room (flushed : Reader) : maxNesting ≤ flushed.openElements + placement.level ↔
      maxNesting ≤ flushed.openElements := by rw [top.level, Nat.add_zero]
  cases fails with
  | unclosed modes ended => exact .unclosed (modes_placed placement modes) ended
  | declare modes front undeclared =>
      refine .declare (modes_placed placement modes) front ?_
      rw [flushText_placed, readDeclaration_placed, undeclared]
      rfl
  | closeElement modes closes unclosed =>
      refine .closeElement (modes_placed placement modes) closes ?_
      rw [flushText_placed, closeTag_placed (.inr top.parent) (.inl top.level), unclosed]
      rfl
  | openChild modes opens unopened =>
      refine .openChild (modes_placed placement modes) opens ?_
      rw [flushText_placed, openTag_placed (room _), unopened]
      rfl
  | unfinished modes ended =>
      exact .unfinished (modes_placed placement modes) (by rw [skipBlank_placed]; exact ended)
  | bareExpression modes front noSpread =>
      have fails := Fails.bareExpression (modes_placed placement modes)
        (by rw [skipBlank_placed]; exact front) noSpread
      rw [skipBlank_placed] at fails
      exact fails
  | nameAttribute modes front starts unread =>
      refine .nameAttribute (modes_placed placement modes) (by rw [skipBlank_placed]; exact front) starts ?_
      rw [skipBlank_placed, readAttribute_placed, unread]
      rfl
  | strayCharacter modes front notStarting notSite notEnd notSelfClosing =>
      have fails := Fails.strayCharacter (modes_placed placement modes)
        (by rw [skipBlank_placed]; exact front) notStarting notSite notEnd notSelfClosing
      rw [skipBlank_placed] at fails
      exact fails
  | openExpression modes ended => exact .openExpression (modes_placed placement modes) ended
  | openEmbedded modes unquoted opens starts unopened =>
      refine .openEmbedded (modes_placed placement modes) unquoted opens starts ?_
      rw [flushPiece_placed, openTag_placed (room _), unopened]
      rfl

/-! ### Whole readings -/

/-- Where reading ends, it ends in every place with nothing open around it. -/
theorem done_placed {final : Reader} (stepped : reader.step = .ok (.done final))
    (top : placement.IsTop) :
    (reader.placed placement).step = .ok (.done (final.placed placement)) := by
  cases modes : reader.modes with
  | nil =>
      have here : reader.step = .ok (.done reader) := by simp only [step, modes]
      cases here.symm.trans stepped
      simp only [step, placed, modes, List.map_nil, top.outer, List.append_nil]
  | cons mode outer =>
      obtain ⟨rfl, ended, rfl⟩ := (step_eq_done_iff modes).mp stepped
      refine (step_eq_done_iff (modes_placed placement modes)).mpr ⟨?_, ended, ?_⟩
      · simp [Mode.placed, Placement.parentOf, top.parent]
      · rw [flushText_placed, enter_placed]

/-- Reading ends alike in a place with nothing open around it. -/
theorem run_placed (reader : Reader) (top : placement.IsTop) :
    (reader.placed placement).run =
      ⟨reader.run.reader.placed placement, reader.run.fault.map (·.moved placement.origin)⟩ := by
  fun_induction run reader with
  | case1 reader fault stepped =>
      have fails := (step_eq_error_iff.mp stepped).placed top
      rw [run_of_error fails.step_eq]
      rfl
  | case2 reader final stepped =>
      rw [run_of_done (done_placed stepped top)]
      rfl
  | case3 reader next stepped inductionHypothesis =>
      have move := step_eq_more_iff.mp stepped
      rw [(move.placed (.inl top.level)).run_eq, inductionHypothesis]

end Reader
end MarkupTemplate
