import Mathlib.Logic.Relation
import MarkupTemplate.Compile
import MarkupTemplate.Proofs.Assembly.Unplaced
import MarkupTemplate.Proofs.Reader.Concatenation
import MarkupTemplate.Proofs.Reader.Pending

/-!
# Reading a source with other white space

Two readers go through two texts that differ in white space where no token is. They
stay alike: they are near each other, are in the same modes and have the same characters
pending, except that white space pending in an expression may differ where none of it
becomes part of a token. Every move of the first reader is followed by moves of the
second one. So the second text is read to its end whenever the first one is, into the
same tokens up to places.
-/

namespace MarkupTemplate

open Spelling Text

/-- What is being read, without places. -/
def Mode.unplaced : Mode → Mode
  | .text parent => .text (parent.map OpenTag.unplaced)
  | .attributes tag => .attributes tag.unplaced
  | .expression site => .expression site.unplaced

namespace Reader

/-- Whether the code that two readers have pending is white space, outside quotes, and
the first of them has passed some of it where no token is. -/
structure Apart (final : List Token) (reader other : Reader) : Prop where
  unquoted : ∃ site outer, reader.modes = .expression site :: outer ∧ site.quote = none
  nonempty : reader.pending ≠ []
  blank : ∀ character ∈ reader.pending, isBlank character
  otherBlank : ∀ character ∈ other.pending, isBlank character
  free : ∃ place : Position, place.IsFree final ∧ reader.pendingStart.byte ≤ place.byte ∧
    place.byte < reader.position.byte

/-- Whether two readers are in the same state, up to places and to white space where no
token is. -/
structure Alike (final : List Token) (reader other : Reader) : Prop
    extends Near final reader other where
  modes : other.modes.map Mode.unplaced = reader.modes.map Mode.unplaced
  pending : other.pending = reader.pending ∨ Apart final reader other

variable {final : List Token} {reader other next : Reader} {parent : Option OpenTag}
  {site : Site} {outer : List Mode} {source : List Char}

/-- Both readers go on alike where nothing is pending. -/
theorem Near.enter {modes otherModes : List Mode} (near : Near final reader other)
    (same : otherModes.map Mode.unplaced = modes.map Mode.unplaced) :
    Alike final (reader.enter modes) (other.enter otherModes) :=
  ⟨⟨near.tokens, near.openElements, near.rest⟩, same, .inl rfl⟩

/-! ### Modes -/

namespace Alike

/-- Within text, the other reader is within text, and has the same text pending. -/
theorem of_text (alike : Alike final reader other) (modes : reader.modes = .text parent :: outer) :
    other.pending = reader.pending ∧ ∃ otherParent otherOuter,
      other.modes = .text otherParent :: otherOuter ∧
      otherParent.map OpenTag.unplaced = parent.map OpenTag.unplaced ∧
      otherOuter.map Mode.unplaced = outer.map Mode.unplaced := by
  refine ⟨?_, ?_⟩
  · rcases alike.pending with same | apart
    · exact same
    · obtain ⟨site, within, expression, -⟩ := apart.unquoted
      cases modes.symm.trans expression
  · have same := alike.modes
    rw [modes, List.map_cons, List.map_eq_cons_iff] at same
    obtain ⟨mode, otherOuter, otherModes, sameMode, sameOuter⟩ := same
    cases mode with
    | text otherParent =>
        exact ⟨otherParent, otherOuter, otherModes, Mode.text.inj sameMode, sameOuter⟩
    | attributes tag => cases sameMode
    | expression site => cases sameMode

/-- Within a tag, the other reader is within a tag of the same name. -/
theorem of_attributes {tag : OpenTag} (alike : Alike final reader other)
    (modes : reader.modes = .attributes tag :: outer) :
    ∃ span otherOuter, other.modes = .attributes ⟨tag.name, span⟩ :: otherOuter ∧
      otherOuter.map Mode.unplaced = outer.map Mode.unplaced := by
  have same := alike.modes
  rw [modes, List.map_cons, List.map_eq_cons_iff] at same
  obtain ⟨mode, otherOuter, otherModes, sameMode, sameOuter⟩ := same
  cases mode with
  | text parent => cases sameMode
  | attributes otherTag =>
      have name := OpenTag.name_of_unplaced (Mode.attributes.inj sameMode)
      exact ⟨otherTag.span, otherOuter, by rw [otherModes, ← name], sameOuter⟩
  | expression site => cases sameMode

/-- Within an expression, the other reader is within one that has been read as far. -/
theorem of_expression (alike : Alike final reader other)
    (modes : reader.modes = .expression site :: outer) :
    ∃ opening otherOuter, other.modes = .expression { site with opening } :: otherOuter ∧
      otherOuter.map Mode.unplaced = outer.map Mode.unplaced := by
  have same := alike.modes
  rw [modes, List.map_cons, List.map_eq_cons_iff] at same
  obtain ⟨mode, otherOuter, otherModes, sameMode, sameOuter⟩ := same
  cases mode with
  | text parent => cases sameMode
  | attributes tag => cases sameMode
  | expression otherSite =>
      have sameSite := Site.eq_of_unplaced (Mode.expression.inj sameMode)
      exact ⟨otherSite.opening, otherOuter, by rw [otherModes, ← sameSite], sameOuter⟩

/-- Text that both readers gather. -/
theorem gather_text {passed following behind : List Char} (alike : Alike final reader other)
    (pending : other.pending = reader.pending) (front : reader.rest = passed ++ following)
    (otherFront : other.rest = passed ++ behind)
    (further : Spaced final (reader.position.after passed) following behind) (character : Char) :
    Alike final (reader.gather character passed.length)
      (other.gather character passed.length) := by
  have near := alike.toNear.pass front otherFront further
  exact ⟨⟨near.tokens, near.openElements, near.rest⟩, alike.modes,
    .inl (congrArg (character :: ·) pending)⟩

/-- Markup starts behind the code of both readers, or of none. -/
theorem startsMarkup_eq (alike : Alike final reader other) :
    startsMarkup other.pending = startsMarkup reader.pending := by
  rcases alike.pending with same | apart
  · rw [same]
  · have gone := List.dropWhile_eq_nil_iff.mpr apart.blank
    have otherGone := List.dropWhile_eq_nil_iff.mpr apart.otherBlank
    simp [startsMarkup, gone, otherGone]

end Alike

/-! ### Following -/

/-- A character that can be escaped is not white space. -/
theorem isBlank_of_isEscapable {character : Char} (escapable : isEscapable character) :
    isBlank character = false := by
  by_contra blank
  have rejected : isEscapable character = false :=
    isBlank_rejected (by decide +kernel) character (by simpa using blank)
  cases rejected.symm.trans escapable

/-- A character that is text of its own is so in the other text. -/
theorem IsLiteral.respaced {character : Char} {following behind : List Char}
    (isLiteral : IsLiteral character following) {place : Position}
    (further : Spaced final (place.advance character) following behind) :
    IsLiteral character behind := by
  have whole : Spaced final place (character :: following) (character :: behind) :=
    .same further
  refine ⟨isLiteral.notSite, ?_, ?_, ?_⟩
  · rw [whole.closesTag_eq]
    exact isLiteral.notClosing
  · rw [whole.opensTag_eq]
    exact isLiteral.notOpening
  · intro isEscape next isNext
    by_contra escapable
    have solid : isBlank next = false := isBlank_of_isEscapable (by simpa using escapable)
    obtain ⟨more, rfl⟩ := List.head?_eq_some_iff.mp isNext
    obtain ⟨more, rfl⟩ := further.exists_front solid
    exact escapable (isLiteral.notEscape isEscape next rfl)

theorem unplaced_sites {site otherSite : Option Site}
    (same : otherSite.map Site.unplaced = site.map Site.unplaced) :
    (otherSite.map Mode.expression).toList.map Mode.unplaced =
      (site.map Mode.expression).toList.map Mode.unplaced := by
  cases site with
  | none =>
      rw [Option.map_eq_none_iff.mp same]
  | some site =>
      obtain ⟨found, rfl, sameSite⟩ := Option.map_eq_some_iff.mp same
      simp [Mode.unplaced, sameSite]

/-- Whether a reader goes through a source without a fault, to the tokens `final`, and
another one is in the same state. -/
structure Follows (source : List Char) (final : List Token) (reader other : Reader) : Prop where
  alike : Alike final reader other
  inOrder : reader.InOrder source
  faultless : reader.run.fault = none
  known : reader.run.reader.tokens ⊆ final

/-- Whether two readers go on to states that are alike. -/
def GoOnAlike (final : List Token) (reader other : Reader) : Prop :=
  ∃ later otherLater, Relation.TransGen Moves reader later ∧
    Relation.TransGen Moves other otherLater ∧ Alike final later otherLater

/-- A move that is followed by a single one. -/
theorem GoOnAlike.single {otherNext : Reader} (move : reader.Moves next)
    (otherMove : other.Moves otherNext) (alike : Alike final next otherNext) :
    GoOnAlike final reader other :=
  ⟨next, otherNext, .single move, .single otherMove, alike⟩

/-- The reader behind white space that stays pending. -/
def passBlanks (reader : Reader) (blanks : List Char) : Reader :=
  { reader with
    rest := reader.rest.drop blanks.length
    position := reader.position.after blanks
    pending := blanks.reverse ++ reader.pending }

theorem passBlanks_append (reader : Reader) (first second : List Char) :
    (reader.passBlanks first).passBlanks second = reader.passBlanks (first ++ second) := by
  simp [passBlanks, Position.after_append, List.drop_drop]

/-- A blank within an expression and outside quotes is gathered. -/
theorem moves_passBlanks {character : Char} {following : List Char}
    (modes : reader.modes = .expression site :: outer) (unquoted : site.quote = none)
    (front : reader.rest = character :: following) (blank : isBlank character) :
    reader.Moves (reader.passBlanks [character]) := by
  have noTag : opensTag reader.rest = false := by rw [front, opensTag_of_isBlank blank]
  have move := Moves.code modes unquoted front (isBlank_ne blank (by decide))
    (isBlank_ne blank (by decide)) (by simp [noTag])
  have sameSite : ({ site with quote := quoteAfter none character } : Site) = site := by
    simp [quoteAfter, isQuote_of_isBlank blank, ← unquoted]
  rw [sameSite, ← modes] at move
  have reached : ({ reader.gather character with modes := reader.modes } : Reader) =
      reader.passBlanks [character] := by
    simp [gather, skip, passBlanks, front]
  rwa [reached] at move

/-- White space within an expression and outside quotes is gathered. -/
theorem transGen_passBlanks {blanks following : List Char}
    (modes : reader.modes = .expression site :: outer) (unquoted : site.quote = none)
    (front : reader.rest = blanks ++ following) (nonempty : blanks ≠ [])
    (blank : ∀ character ∈ blanks, isBlank character) :
    Relation.TransGen Moves reader (reader.passBlanks blanks) := by
  induction blanks generalizing reader with
  | nil => exact absurd rfl nonempty
  | cons character blanks inductionHypothesis =>
      obtain ⟨firstBlank, restBlank⟩ := List.forall_mem_cons.mp blank
      have move := moves_passBlanks modes unquoted front firstBlank
      by_cases last : blanks = []
      · subst last
        exact .single move
      · have ahead : (reader.passBlanks [character]).rest = blanks ++ following := by
          simp [passBlanks, front]
        have later := @inductionHypothesis (reader.passBlanks [character]) modes ahead last
          restBlank
        rw [passBlanks_append] at later
        exact .head move later

namespace Follows

/-- The tokens that a move has added are among the last ones. -/
theorem subset (follows : Follows source final reader other) (move : reader.Moves next) :
    next.tokens ⊆ final := by
  have known := follows.known
  rw [move.run_eq] at known
  exact fun token member => known ((counts_run next).mem member)

/-- Text goes on with the same character. -/
theorem meets_text {character : Char} {following : List Char}
    (follows : Follows source final reader other) (modes : reader.modes = .text parent :: outer)
    (front : reader.rest = character :: following) :
    ∃ behind, other.rest = character :: behind ∧
      Spaced final (reader.position.advance character) following behind := by
  have spaced := follows.alike.rest
  rw [front] at spaced
  by_cases blank : isBlank character
  · exact spaced.cons_covered
      (follows.inOrder.not_isFree_text follows.faultless follows.known modes front blank)
  · exact spaced.cons_solid (by simpa using blank)

/-- White space where no token is, within an expression, is passed on both sides. -/
theorem pass_gap {blanks fill : List Char} (follows : Follows source final reader other)
    (modes : reader.modes = .expression site :: outer)
    (gap : Spaced.IsGap final reader.position reader.rest other.rest blanks fill) :
    GoOnAlike final reader other := by
  obtain ⟨left, right, front, otherFront, further⟩ := gap.further
  obtain ⟨opening, otherOuter, otherModes, -⟩ := follows.alike.of_expression modes
  have blanksPend : site.quote = none ∧ ∀ character ∈ reader.pending, isBlank character := by
    obtain ⟨first, more, shown⟩ := List.exists_cons_of_ne_nil gap.nonempty
    rw [shown, List.cons_append] at front
    exact follows.inOrder.isBlank_pending follows.faultless follows.known modes front
      (gap.blank first (by simp [shown])) gap.isFree
  obtain ⟨unquoted, blank⟩ := blanksPend
  have otherBlank : ∀ character ∈ other.pending, isBlank character := by
    rcases follows.alike.pending with same | apart
    · rwa [same]
    · exact apart.otherBlank
  refine ⟨reader.passBlanks blanks, other.passBlanks fill,
    transGen_passBlanks modes unquoted front gap.nonempty gap.blank,
    transGen_passBlanks otherModes unquoted otherFront gap.filled gap.fillBlank, ?_⟩
  refine ⟨⟨follows.alike.tokens, follows.alike.openElements, ?_⟩, follows.alike.modes, .inr ?_⟩
  · simpa [passBlanks, front, otherFront] using further
  · exact {
      unquoted := ⟨site, outer, modes, unquoted⟩
      nonempty := by simp [passBlanks, gap.nonempty]
      blank := by
        simp only [passBlanks, List.mem_append, List.mem_reverse]
        rintro character (inside | before)
        · exact gap.blank character inside
        · exact blank character before
      otherBlank := by
        simp only [passBlanks, List.mem_append, List.mem_reverse]
        rintro character (inside | before)
        · exact gap.fillBlank character inside
        · exact otherBlank character before
      free := ⟨reader.position, gap.isFree, follows.inOrder.tracks.pendingStart_le,
        Position.byte_lt_after _ gap.nonempty⟩ }

/-- Code that both readers gather. Where white space of theirs differs, the character is
white space, too. -/
theorem gather_code {character : Char} {following behind : List Char} {changed : Site}
    {opening : Span} {otherOuter : List Mode} (follows : Follows source final reader other)
    (modes : reader.modes = .expression site :: outer)
    (sameOuter : otherOuter.map Mode.unplaced = outer.map Mode.unplaced)
    (front : reader.rest = character :: following) (otherFront : other.rest = character :: behind)
    (further : Spaced final (reader.position.advance character) following behind)
    (stays : site.quote = none → isBlank character → changed.quote = none)
    (move : reader.Moves
      { reader.gather character with modes := .expression changed :: outer }) :
    Alike final { reader.gather character with modes := .expression changed :: outer }
      { other.gather character with
        modes := .expression { changed with opening } :: otherOuter } := by
  refine ⟨⟨follows.alike.tokens, follows.alike.openElements, ?_⟩, ?_, ?_⟩
  · simpa [gather, skip, front, otherFront] using further
  · simp [Mode.unplaced, Site.unplaced, sameOuter]
  · rcases follows.alike.pending with same | apart
    · exact .inl (congrArg (character :: ·) same)
    · obtain ⟨other, within, sameModes, unquoted⟩ := apart.unquoted
      cases modes.symm.trans sameModes
      obtain ⟨place, isFree, starts, stops⟩ := apart.free
      have passes := stops.trans (byte_lt_gather front)
      have blank : isBlank character := by
        by_contra solid
        have faultless := follows.faultless
        have known := follows.known
        rw [move.run_eq] at faultless known
        have keeps := @keepsPending_code reader outer character changed
          (.inl (by simpa using solid))
        exact not_isFree_of_content faultless keeps.content known starts passes isFree
      exact .inr {
        unquoted := ⟨changed, outer, rfl, stays unquoted blank⟩
        nonempty := List.cons_ne_nil _ _
        blank := List.forall_mem_cons.mpr ⟨blank, apart.blank⟩
        otherBlank := List.forall_mem_cons.mpr ⟨blank, apart.otherBlank⟩
        free := ⟨place, isFree, starts, passes⟩ }

/-- A piece of code is added by both readers or by none. White space that differs is
dropped on both sides, since no token may cover it. -/
theorem flushPiece {closing : Bool} (follows : Follows source final reader other)
    (known : (reader.flushPiece site closing).tokens ⊆ final) (opening : Span) :
    Near final (reader.flushPiece site closing)
      (other.flushPiece { site with opening } closing) := by
  refine follows.alike.toNear.flushPiece ?_
  rcases follows.alike.pending with same | apart
  · rw [same]
    rfl
  by_cases trimmed : site.leading = true ∨ closing = true
  · rw [piece_eq_nil apart.blank trimmed]
    exact piece_eq_nil apart.otherBlank trimmed
  · have kept : site.piece closing reader.pending ≠ [] := by
      obtain ⟨notLeading, notClosing⟩ := not_or.mp trimmed
      simp [Site.piece, notLeading, notClosing, apart.nonempty]
    obtain ⟨place, isFree, starts, stops⟩ := apart.free
    obtain ⟨token, member, span⟩ := flushedIn_flushPiece kept
    refine absurd ?_ (isFree token (known member))
    rw [span]
    exact ⟨starts, stops⟩

/-- Code goes on with the same character, or both readers pass white space. -/
theorem meets_code {character : Char} {following : List Char}
    (follows : Follows source final reader other)
    (modes : reader.modes = .expression site :: outer)
    (front : reader.rest = character :: following) :
    (∃ behind, other.rest = character :: behind ∧
        Spaced final (reader.position.advance character) following behind) ∨
      GoOnAlike final reader other := by
  have spaced := follows.alike.rest
  rw [front] at spaced
  rcases spaced.cons_cases with found | ⟨blanks, fill, gap⟩
  · exact .inl found
  · rw [← front] at gap
    exact .inr (follows.pass_gap modes gap)

/-- A character behind a backslash within quotes is the same on both sides, since a token
covers it. -/
theorem quoteEscape {mark character : Char} {following : List Char}
    (follows : Follows source final reader other)
    (modes : reader.modes = .expression site :: outer) (quoted : site.quote = some mark)
    (front : reader.rest = '\\' :: character :: following) : GoOnAlike final reader other := by
  have move := Moves.quoteEscape modes quoted front
  obtain ⟨opening, otherOuter, otherModes, sameOuter⟩ := follows.alike.of_expression modes
  have pending : other.pending = reader.pending := by
    rcases follows.alike.pending with same | apart
    · exact same
    · obtain ⟨within, others, sameModes, unquoted⟩ := apart.unquoted
      cases modes.symm.trans sameModes
      cases quoted.symm.trans unquoted
  obtain ⟨-, behind, otherFront, spaced⟩ := follows.alike.toNear.skip_one front (by decide)
  have covered : ¬ (reader.position.advance '\\').IsFree final := by
    have faultless := follows.faultless
    have known := follows.known
    rw [move.run_eq] at faultless known
    refine not_isFree_of_content faultless ?_ known ?_ ?_
    · exact (hasContent_expression rfl).mpr ⟨'\\', by simp, by decide⟩
    · exact follows.inOrder.tracks.pendingStart_le.trans (Position.byte_le_after _ ['\\'])
    · have reached : ((reader.gather '\\').gather character).position =
          (reader.position.advance '\\').after [character] := by
        simp [gather, skip, front]
      exact reached ▸ Position.byte_lt_after _ (List.cons_ne_nil _ _)
  obtain ⟨left, rfl, further⟩ := spaced.cons_covered covered
  refine .single move (.quoteEscape otherModes quoted otherFront)
    ⟨⟨follows.alike.tokens, follows.alike.openElements, ?_⟩, ?_, .inl ?_⟩
  · simpa [gather, skip, front, otherFront] using further
  · simp [Mode.unplaced, Site.unplaced, sameOuter]
  · simp [pending]

/-- Every move is followed by the other reader. -/
theorem goOnAlike (follows : Follows source final reader other) (move : reader.Moves next) :
    GoOnAlike final reader other := by
  have alike := follows.alike
  have near := alike.toNear
  have known := follows.subset move
  have here := move
  cases move with
  | @escape _ _ character following modes front escapable =>
      obtain ⟨pending, otherParent, otherOuter, otherModes, -, -⟩ := alike.of_text modes
      have solid : ['\\', character].all (!isBlank ·) := by
        rw [List.all_cons, List.all_cons, isBlank_of_isEscapable escapable]
        decide
      obtain ⟨-, behind, otherFront, further⟩ := near.pass_solid ['\\', character] front solid
      exact .single here (.escape otherModes otherFront escapable)
        (@Alike.gather_text _ _ _ ['\\', character] following behind alike pending front
          otherFront further character)
  | @literal _ _ character following modes front isLiteral =>
      obtain ⟨pending, otherParent, otherOuter, otherModes, -, -⟩ := alike.of_text modes
      obtain ⟨behind, otherFront, further⟩ := follows.meets_text modes front
      exact .single here (.literal otherModes otherFront (isLiteral.respaced further))
        (@Alike.gather_text _ _ _ [character] following behind alike pending front otherFront
          further character)
  | declare modes front declared =>
      obtain ⟨pending, otherParent, otherOuter, otherModes, sameParent, sameOuter⟩ :=
        alike.of_text modes
      obtain ⟨-, behind, otherFront, -⟩ := near.pass_solid ['{', '%'] front (by decide)
      obtain ⟨otherNext, otherDeclared, nearNext⟩ :=
        (near.flushText pending).readDeclaration (by rw [rest_flushText, front]) declared known
      exact .single here (.declare otherModes otherFront otherDeclared)
        (nearNext.enter (by simp [Mode.unplaced, sameParent, sameOuter]))
  | openChildSite modes front noDeclaration =>
      obtain ⟨pending, otherParent, otherOuter, otherModes, sameParent, sameOuter⟩ :=
        alike.of_text modes
      obtain ⟨-, behind, otherFront, further⟩ := near.skip_one front (by decide)
      have noOther : behind.head? ≠ some '%' := by
        intro isPercent
        obtain ⟨more, rfl⟩ := List.head?_eq_some_iff.mp isPercent
        obtain ⟨more, rfl⟩ := further.exists_front (by decide)
        exact noDeclaration rfl
      have opened := (near.flushText pending).openSite .expressionStart "\x7b"
        (by rw [rest_flushText, front]; rfl) (by decide)
      exact .single here (.openChildSite otherModes otherFront noOther)
        (opened.enter (by simp [Mode.unplaced, Site.unplaced, openSite, sameParent, sameOuter]))
  | closeElement modes closes closed =>
      obtain ⟨pending, otherParent, otherOuter, otherModes, sameParent, sameOuter⟩ :=
        alike.of_text modes
      have otherCloses : closesTag other.rest := by rwa [near.rest.closesTag_eq]
      obtain ⟨otherNext, otherClosed, nearNext⟩ :=
        (near.flushText pending).closeTag sameParent (by rwa [rest_flushText]) closed
      exact .single here (.closeElement otherModes otherCloses otherClosed)
        (nearNext.enter sameOuter)
  | openChild modes opens opened =>
      obtain ⟨pending, otherParent, otherOuter, otherModes, sameParent, sameOuter⟩ :=
        alike.of_text modes
      have otherOpens : opensTag other.rest := by rwa [near.rest.opensTag_eq]
      obtain ⟨span, otherNext, otherOpened, nearNext⟩ :=
        (near.flushText pending).openTag (by rwa [rest_flushText]) opened
      exact .single here (.openChild otherModes otherOpens otherOpened)
        (nearNext.enter (by simp [Mode.unplaced, OpenTag.unplaced, sameParent, sameOuter]))
  | selfClose modes front =>
      obtain ⟨span, otherOuter, otherModes, sameOuter⟩ := alike.of_attributes modes
      obtain ⟨passed, behind, otherFront, -⟩ :=
        near.skipBlank.pass_solid ['/', '>'] front (by decide)
      exact .single here (.selfClose otherModes otherFront)
        (((passed.emit .tagSelfClose "/>" _ _).withLevel
          (by rw [near.skipBlank.openElements])).enter sameOuter)
  | endTag modes front =>
      obtain ⟨span, otherOuter, otherModes, sameOuter⟩ := alike.of_attributes modes
      obtain ⟨passed, behind, otherFront, -⟩ := near.skipBlank.skip_one front (by decide)
      exact .single here (.endTag otherModes otherFront)
        ((passed.emit .tagEnd ">" _ _).enter
          (by simp [Mode.unplaced, OpenTag.unplaced, sameOuter]))
  | openSpread modes front =>
      obtain ⟨span, otherOuter, otherModes, sameOuter⟩ := alike.of_attributes modes
      obtain ⟨-, behind, otherFront, -⟩ :=
        near.skipBlank.pass_solid ['{', '.', '.', '.'] front (by decide)
      have opened := near.skipBlank.openSite .spreadStart "\x7b..." front (by decide)
      exact .single here (.openSpread otherModes otherFront)
        (opened.enter
          (by simp [Mode.unplaced, Site.unplaced, OpenTag.unplaced, openSite, sameOuter]))
  | nameAttribute modes front starts read =>
      obtain ⟨span, otherOuter, otherModes, sameOuter⟩ := alike.of_attributes modes
      obtain ⟨-, behind, otherFront, -⟩ :=
        near.skipBlank.skip_one front (isBlank_of_attrNameStart starts)
      obtain ⟨otherSite, otherNext, otherRead, sameSite, nearNext⟩ :=
        near.skipBlank.readAttribute read known
      exact .single here (.nameAttribute otherModes otherFront starts otherRead)
        (nearNext.enter
          (by simp [unplaced_sites sameSite, Mode.unplaced, OpenTag.unplaced, sameOuter]))
  | quoteEscape modes quoted front => exact follows.quoteEscape modes quoted front
  | quoteCharacter modes quoted front noEscape =>
      obtain ⟨opening, otherOuter, otherModes, sameOuter⟩ := alike.of_expression modes
      rcases follows.meets_code modes front with ⟨behind, otherFront, further⟩ | passes
      · refine .single here (.quoteCharacter otherModes quoted otherFront ?_)
          (follows.gather_code modes sameOuter front otherFront further ?_ here)
        · intro isEscape
          obtain rfl := noEscape isEscape
          exact further.eq_nil
        · intro unquoted
          cases quoted.symm.trans unquoted
      · exact passes
  | openBrace modes unquoted front =>
      obtain ⟨opening, otherOuter, otherModes, sameOuter⟩ := alike.of_expression modes
      obtain ⟨-, behind, otherFront, further⟩ := near.skip_one front (by decide)
      exact .single here (.openBrace otherModes unquoted otherFront)
        (follows.gather_code modes sameOuter front otherFront further (fun none _ => none) here)
  | closeBrace modes unquoted front deep =>
      obtain ⟨opening, otherOuter, otherModes, sameOuter⟩ := alike.of_expression modes
      obtain ⟨-, behind, otherFront, further⟩ := near.skip_one front (by decide)
      exact .single here (.closeBrace otherModes unquoted otherFront deep)
        (follows.gather_code modes sameOuter front otherFront further (fun none _ => none) here)
  | @closeSite site _ _ modes unquoted front last =>
      obtain ⟨opening, otherOuter, otherModes, sameOuter⟩ := alike.of_expression modes
      obtain ⟨-, behind, otherFront, further⟩ := near.skip_one front (by decide)
      have flushed := follows.flushPiece (List.subset_of_cons_subset known) opening
      have passed := (flushed.skip_one (by rwa [rest_flushPiece]) (by decide)).1
      exact .single here (.closeSite otherModes unquoted otherFront last)
        ((passed.emit .expressionEnd "\x7d" _ _).enter sameOuter)
  | openEmbedded modes unquoted opens starts opened =>
      obtain ⟨opening, otherOuter, otherModes, sameOuter⟩ := alike.of_expression modes
      have otherOpens : opensTag other.rest := by rwa [near.rest.opensTag_eq]
      have otherStarts : startsMarkup other.pending := by rwa [alike.startsMarkup_eq]
      have counts := (opensTag_of_openTag opened).counts
      have flushed := follows.flushPiece (fun token member => known (counts.mem member)) opening
      obtain ⟨span, otherNext, otherOpened, nearNext⟩ :=
        flushed.openTag (by rwa [rest_flushPiece]) opened
      exact .single here
        (.openEmbedded otherModes unquoted otherOpens otherStarts otherOpened)
        (nearNext.enter (by simp [Mode.unplaced, Site.unplaced, OpenTag.unplaced, sameOuter]))
  | code modes unquoted front notOpening notClosing noMarkup =>
      obtain ⟨opening, otherOuter, otherModes, sameOuter⟩ := alike.of_expression modes
      rcases follows.meets_code modes front with ⟨behind, otherFront, further⟩ | passes
      · have noOther : ¬ (opensTag other.rest ∧ startsMarkup other.pending) := by
          rwa [near.rest.opensTag_eq, alike.startsMarkup_eq]
        refine .single here (.code otherModes unquoted otherFront notOpening notClosing noOther)
          (follows.gather_code modes sameOuter front otherFront further (fun _ blank => ?_) here)
        simp [quoteAfter, isQuote_of_isBlank blank]
      · exact passes

end Follows

/-! ### Whole readings -/

/-- Moves lead to the same end. -/
theorem run_eq_of_transGen (moves : Relation.TransGen Moves reader next) :
    reader.run = next.run := by
  induction moves with
  | single move => exact move.run_eq
  | tail _ move inductionHypothesis => exact inductionHypothesis.trans move.run_eq

/-- Moves keep a state in order. -/
theorem InOrder.of_transGen (inOrder : reader.InOrder source)
    (moves : Relation.TransGen Moves reader next) : next.InOrder source := by
  induction moves with
  | single move => exact move.inOrder inOrder
  | tail _ move inductionHypothesis => exact move.inOrder inductionHypothesis

/-- Moves leave less of the source. -/
theorem length_lt_of_transGen (moves : Relation.TransGen Moves reader next) :
    next.rest.length < reader.rest.length := by
  induction moves with
  | single move => exact step_shrinks move.step_eq
  | tail _ move inductionHypothesis => exact (step_shrinks move.step_eq).trans inductionHypothesis

namespace Follows

/-- Where one reader is done, the other is. -/
theorem of_done {last : Reader} (follows : Follows source final reader other)
    (stepped : reader.step = .ok (.done last)) :
    ∃ otherLast, other.step = .ok (.done otherLast) ∧
      otherLast.tokens.map Token.unplaced = last.tokens.map Token.unplaced := by
  cases modes : reader.modes with
  | nil => cases follows.inOrder.coherent <;> simp_all
  | cons mode outer =>
      obtain ⟨rfl, ended, rfl⟩ := (step_eq_done_iff modes).mp stepped
      obtain ⟨pending, otherParent, otherOuter, otherModes, sameParent, -⟩ :=
        follows.alike.of_text modes
      obtain rfl : otherParent = none := Option.map_eq_none_iff.mp sameParent
      have spaced := follows.alike.rest
      rw [ended] at spaced
      exact ⟨_, (step_eq_done_iff otherModes).mpr ⟨rfl, spaced.eq_nil, rfl⟩,
        (follows.alike.toNear.flushText pending).tokens⟩

/-- Both readers come to an end with the same tokens, up to places. -/
theorem run_eq (follows : Follows source final reader other) :
    other.run.fault = none ∧
      other.run.reader.tokens.map Token.unplaced = reader.run.reader.tokens.map Token.unplaced := by
  -- The first reader may take several moves at once, so the induction is on what it has left.
  induction length : reader.rest.length using Nat.strong_induction_on generalizing reader other with
  | _ length' inductionHypothesis =>
      subst length
      cases stepped : reader.step with
      | error fault =>
          have faultless := follows.faultless
          rw [run_of_error stepped] at faultless
          cases faultless
      | ok progress =>
          cases progress with
          | done last =>
              obtain ⟨otherLast, otherStepped, tokens⟩ := follows.of_done stepped
              rw [run_of_done stepped, run_of_done otherStepped]
              exact ⟨rfl, tokens⟩
          | more next =>
              obtain ⟨later, otherLater, moves, otherMoves, alike⟩ :=
                follows.goOnAlike (step_eq_more_iff.mp stepped)
              have same := run_eq_of_transGen moves
              rw [run_eq_of_transGen otherMoves, same]
              refine inductionHypothesis _ (length_lt_of_transGen moves) ?_ rfl
              exact ⟨alike, follows.inOrder.of_transGen moves, same ▸ follows.faultless,
                same ▸ follows.known⟩

end Follows

end Reader

/-- A source with other white space between its tokens is read into the same tokens, up to
places. -/
theorem Token.read_respaced {source respaced : String} {tokens : List Token}
    (reads : Token.read source = .ok tokens) (isRespaced : IsRespaced source tokens respaced) :
    ∃ others, Token.read respaced = .ok others ∧
      others.map Token.unplaced = tokens.map Token.unplaced := by
  obtain ⟨content, tiled, rfl⟩ := Token.exists_tiled_of_read reads
  have spaced := isRespaced.spaced tiled.isTiling
  obtain ⟨faultless, added⟩ := Token.run_of_read reads
  have follows : Reader.Follows source.toList
      (content.reverse ++ [⟨.eof, "", .point (Position.after {} source.toList)⟩])
      (Reader.start source) (Reader.start respaced) := by
    refine ⟨⟨⟨rfl, rfl, spaced⟩, rfl, .inl rfl⟩, Reader.inOrder_start source, faultless, ?_⟩
    intro token member
    rw [← added]
    exact List.mem_append_left _ (List.mem_reverse.mpr member)
  obtain ⟨otherFaultless, same⟩ := follows.run_eq
  refine ⟨(Reader.start respaced).run.tokens, ?_, ?_⟩
  · unfold Token.read
    simp only [otherFaultless]
  · rw [← added, Reader.Ending.tokens, List.reverse_cons, List.map_append, List.map_append,
      List.map_reverse, List.map_reverse, same]
    rfl

/-- Compiling a source that is read turns what its tokens make into code. -/
theorem compile_of_read {source : String} {tokens : List Token}
    (reads : Token.read source = .ok tokens) (options : Script.Options) :
    compile options source = (Template.ofTokens tokens).map fun template =>
      ⟨Script.generate options template, template.metadata⟩ := by
  have read : Template.read source = Template.ofTokens tokens := by
    rw [Template.read, reads]
    rfl
  rw [compile, read]
  cases Template.ofTokens tokens <;> rfl

/-- White space between the tokens of a source never matters. Other white space in its place
gives the same kinds and values of tokens, so the same code and metadata, or a fault that is
reported as the same kind with the same message and advice. -/
theorem spacing_never_matters {source respaced : String} {tokens : List Token}
    (reads : Token.read source = .ok tokens) (isRespaced : IsRespaced source tokens respaced) :
    (∃ others, Token.read respaced = .ok others ∧
        others.map (fun token => (token.kind, token.value)) =
          tokens.map fun token => (token.kind, token.value)) ∧
      ∀ options,
        (∃ compiled, compile options source = .ok compiled ∧
            compile options respaced = .ok compiled) ∨
          ∃ fault other, compile options source = .error fault ∧
            compile options respaced = .error other ∧
            other.diagnostic.kind = fault.diagnostic.kind ∧
            other.diagnostic.message = fault.diagnostic.message ∧
            other.diagnostic.help = fault.diagnostic.help := by
  obtain ⟨others, otherReads, same⟩ := Token.read_respaced reads isRespaced
  refine ⟨⟨others, otherReads, ?_⟩, fun options => ?_⟩
  · have shown := congrArg (List.map fun token : Token => (token.kind, token.value)) same
    rwa [List.map_map, List.map_map] at shown
  rw [compile_of_read reads, compile_of_read otherReads]
  rcases Template.ofTokens_cases_of_unplaced same with
    ⟨template, made, otherMade⟩ | ⟨fault, other, failed, otherFailed, cause⟩
  · rw [made, otherMade]
    exact .inl ⟨_, rfl, rfl⟩
  · rw [failed, otherFailed]
    refine .inr ⟨fault, other, rfl, rfl, ?_⟩
    simp [Fault.diagnostic, cause]

/-- Two gaps within a tag and the white space around embedded markup are exchanged. -/
theorem spacing_never_matters_embedded :
    ∃ tokens, Token.read "<b a =\x7b <i/> \x7d/>" = .ok tokens ∧
      IsRespaced "<b a =\x7b <i/> \x7d/>" tokens "<b\n\ta\u00a0=\x7b\u2003<i/>\n\x7d/>" ∧
      (∃ others, Token.read "<b\n\ta\u00a0=\x7b\u2003<i/>\n\x7d/>" = .ok others ∧
        others.map (fun token => (token.kind, token.value)) =
          tokens.map fun token => (token.kind, token.value)) ∧
      ∃ compiled, compile {} "<b a =\x7b <i/> \x7d/>" = .ok compiled ∧
        compile {} "<b\n\ta\u00a0=\x7b\u2003<i/>\n\x7d/>" = .ok compiled := by
  have blank (fill : String) (nonempty : fill ≠ "") (all : fill.toList.all isBlank) :
      " " = "" ∧ fill = "" ∨
        " " ≠ "" ∧ fill ≠ "" ∧ ∀ character ∈ fill.toList, isBlank character :=
    .inr ⟨by decide, nonempty, List.all_eq_true.mp all⟩
  have refills :=
    @Refills.next 0 ⟨.tagOpen, "<", ⟨⟨0, 0, 0⟩, ⟨1, 0, 1⟩⟩⟩ _ _ "<" "" "" _ _ rfl rfl
      (.inl ⟨rfl, rfl⟩) <|
    @Refills.next _ ⟨.tagName, "b", ⟨⟨1, 0, 1⟩, ⟨2, 0, 2⟩⟩⟩ _ _ "b" " " "\n\t" _ _ rfl rfl
      (blank _ (by decide) (by decide)) <|
    @Refills.next _ ⟨.attrName, "a", ⟨⟨3, 0, 3⟩, ⟨4, 0, 4⟩⟩⟩ _ _ "a" " " "\u00a0" _ _ rfl rfl
      (blank _ (by decide) (by decide)) <|
    @Refills.next _ ⟨.attrEquals, "=", ⟨⟨5, 0, 5⟩, ⟨6, 0, 6⟩⟩⟩ _ _ "=" "" "" _ _ rfl rfl
      (.inl ⟨rfl, rfl⟩) <|
    @Refills.next _ ⟨.expressionStart, "\x7b", ⟨⟨6, 0, 6⟩, ⟨7, 0, 7⟩⟩⟩ _ _ "\x7b" " " "\u2003" _ _
      rfl rfl (blank _ (by decide) (by decide)) <|
    @Refills.next _ ⟨.tagOpen, "<", ⟨⟨8, 0, 8⟩, ⟨9, 0, 9⟩⟩⟩ _ _ "<" "" "" _ _ rfl rfl
      (.inl ⟨rfl, rfl⟩) <|
    @Refills.next _ ⟨.tagName, "i", ⟨⟨9, 0, 9⟩, ⟨10, 0, 10⟩⟩⟩ _ _ "i" "" "" _ _ rfl rfl
      (.inl ⟨rfl, rfl⟩) <|
    @Refills.next _ ⟨.tagSelfClose, "/>", ⟨⟨10, 0, 10⟩, ⟨12, 0, 12⟩⟩⟩ _ _ "/>" " " "\n" _ _ rfl rfl
      (blank _ (by decide) (by decide)) <|
    @Refills.next _ ⟨.expressionEnd, "\x7d", ⟨⟨13, 0, 13⟩, ⟨14, 0, 14⟩⟩⟩ _ _ "\x7d" "" "" _ _
      rfl rfl (.inl ⟨rfl, rfl⟩) <|
    @Refills.next _ ⟨.tagSelfClose, "/>", ⟨⟨14, 0, 14⟩, ⟨16, 0, 16⟩⟩⟩ _ _ "/>" "" "" _ _ rfl rfl
      (.inl ⟨rfl, rfl⟩) <|
    @Refills.last _ ⟨.eof, "", ⟨⟨16, 0, 16⟩, ⟨16, 0, 16⟩⟩⟩ "" rfl
  have isRespaced : IsRespaced "<b a =\x7b <i/> \x7d/>" _ "<b\n\ta\u00a0=\x7b\u2003<i/>\n\x7d/>" :=
    ⟨"", _, _, by decide, by decide, refills⟩
  obtain ⟨same, outcomes⟩ := spacing_never_matters (by decide +kernel) isRespaced
  refine ⟨_, by decide +kernel, isRespaced, same, ?_⟩
  rcases outcomes {} with compiled | ⟨fault, other, failed, -⟩
  · exact compiled
  · have succeeds : (compile {} "<b a =\x7b <i/> \x7d/>").isOk = true := by decide +kernel
    rw [failed] at succeeds
    cases succeeds

end MarkupTemplate
