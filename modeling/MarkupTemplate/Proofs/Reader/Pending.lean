import MarkupTemplate.Proofs.Reader.Levels
import MarkupTemplate.Proofs.Source.Spacing

/-!
# What becomes of pending characters

Pending text, and pending code that is more than white space, ends up in a token that
starts where the pending characters do. Every move keeps such characters pending or
adds their token, so a reading that meets no fault has added it in the end. So where
a reader passes a character that no token covers, it passes white space: within a tag,
or in an expression that has nothing but white space pending.
-/

namespace MarkupTemplate.Reader

open Spelling Text

variable {reader next : Reader} {source : List Char} {parent : Option OpenTag} {site : Site}
  {outer : List Mode}

/-- The tokens read so far stay. -/
theorem Counts.mem {token : Token} (counts : reader.Counts next) (member : token ∈ reader.tokens) :
    token ∈ next.tokens := by
  obtain ⟨added, tokens, -⟩ := counts
  rw [tokens]
  exact List.mem_append_right _ member

/-- Whether something of the pending characters has to become part of a token. -/
def HasContent (reader : Reader) : Prop :=
  match reader.modes with
  | .text _ :: _ => reader.pending ≠ []
  | .expression _ :: _ => ∃ character ∈ reader.pending, isBlank character = false
  | _ => False

theorem hasContent_text (modes : reader.modes = .text parent :: outer) :
    reader.HasContent ↔ reader.pending ≠ [] := by
  simp only [HasContent, modes]

theorem hasContent_expression (modes : reader.modes = .expression site :: outer) :
    reader.HasContent ↔ ∃ character ∈ reader.pending, isBlank character = false := by
  simp only [HasContent, modes]

theorem not_hasContent_attributes {tag : OpenTag}
    (modes : reader.modes = .attributes tag :: outer) : ¬ reader.HasContent := by
  simp only [HasContent, modes, not_false_eq_true]

/-- Whether the pending characters of a reader are covered by a token of another. -/
def FlushedIn (reader next : Reader) : Prop :=
  ∃ token ∈ next.tokens, token.span = ⟨reader.pendingStart, reader.position⟩

/-- A token that covers pending characters stays. -/
theorem FlushedIn.trans {third : Reader} (flushed : reader.FlushedIn next)
    (counts : next.Counts third) : reader.FlushedIn third := by
  obtain ⟨token, member, span⟩ := flushed
  exact ⟨token, counts.mem member, span⟩

/-- Pending text becomes a token. -/
theorem flushedIn_flushText (pends : reader.pending ≠ []) :
    reader.FlushedIn reader.flushText := by
  have nonempty : ¬ reader.pending.isEmpty := by simpa using pends
  unfold flushText
  rw [if_neg nonempty]
  exact ⟨_, List.mem_cons_self, rfl⟩

/-- Pending code becomes a token if a piece is left of it. -/
theorem flushedIn_flushPiece {closing : Bool} (left : site.piece closing reader.pending ≠ []) :
    reader.FlushedIn (reader.flushPiece site closing) := by
  have nonempty : ¬ (site.piece closing reader.pending).isEmpty := by simpa using left
  unfold flushPiece
  rw [if_neg nonempty]
  exact ⟨_, List.mem_cons_self, rfl⟩

/-- A piece is left of code that is more than white space. -/
theorem piece_ne_nil {closing : Bool} {pending : List Char}
    (solid : ∃ character ∈ pending, isBlank character = false) :
    site.piece closing pending ≠ [] := by
  intro gone
  obtain ⟨character, member, isSolid⟩ := solid
  obtain ⟨front, back, split, frontBlank, backBlank, -⟩ := site.exists_piece closing pending
  have within : character ∈ front ++ back := by
    rw [gone, List.append_nil] at split
    rw [← split]
    exact List.mem_reverse.mpr member
  rcases List.mem_append.mp within with inFront | inBack
  · cases isSolid.symm.trans (frontBlank character inFront)
  · cases isSolid.symm.trans (backBlank character inBack)

/-- Nothing is left of white space in front of the first piece or behind the last. -/
theorem piece_eq_nil {closing : Bool} {pending : List Char}
    (blank : ∀ character ∈ pending, isBlank character)
    (trimmed : site.leading = true ∨ closing = true) : site.piece closing pending = [] := by
  by_contra left
  obtain ⟨front, back, split, -, -, leads, ends, -⟩ := site.exists_piece closing pending
  have within : ∀ character ∈ site.piece closing pending, isBlank character := by
    intro character member
    refine blank character (List.mem_reverse.mp ?_)
    rw [split]
    exact List.mem_append_left _ (List.mem_append_right _ member)
  rcases trimmed with isLeading | isClosing
  · obtain ⟨first, rest, shown⟩ := List.exists_cons_of_ne_nil left
    have solid := leads isLeading first (by simp [shown])
    cases solid.symm.trans (within first (by simp [shown]))
  · have last := List.getLast?_eq_some_getLast left
    have solid := ends isClosing _ last
    cases solid.symm.trans (within _ (List.getLast_mem left))

/-- Whether the pending characters stay pending, with more of them behind. -/
structure KeepsPending (reader next : Reader) : Prop where
  content : next.HasContent
  start : next.pendingStart = reader.pendingStart
  passes : reader.position.byte ≤ next.position.byte

/-- Text that is gathered stays pending. -/
theorem keepsPending_text {character : Char} {count : Nat}
    (modes : reader.modes = .text parent :: outer) :
    reader.KeepsPending (reader.gather character count) where
  content := (hasContent_text (by exact modes)).mpr (List.cons_ne_nil _ _)
  start := rfl
  passes := reader.position.byte_le_after _

/-- Code that is gathered stays pending. -/
theorem keepsPending_code {character : Char} {changed : Site}
    (solid : isBlank character = false ∨ ∃ other ∈ reader.pending, isBlank other = false) :
    reader.KeepsPending { reader.gather character with modes := .expression changed :: outer } where
  content := by
    refine (hasContent_expression rfl).mpr ?_
    rcases solid with isSolid | ⟨other, member, isSolid⟩
    · exact ⟨character, List.mem_cons_self, isSolid⟩
    · exact ⟨other, List.mem_cons_of_mem _ member, isSolid⟩
  start := rfl
  passes := reader.position.byte_le_after _

/-- A move keeps pending characters or adds their token. -/
theorem Moves.keepsPending (move : reader.Moves next) (content : reader.HasContent) :
    reader.KeepsPending next ∨ reader.FlushedIn next := by
  cases move with
  | escape modes front escapable => exact .inl (keepsPending_text modes)
  | literal modes front isLiteral => exact .inl (keepsPending_text modes)
  | declare modes front declared =>
      obtain ⟨level, token, tokens, kind, -⟩ := declaration_of_readDeclaration declared
      exact .inr ((flushedIn_flushText ((hasContent_text modes).mp content)).trans
        (.of_single tokens kind rfl level))
  | openChildSite modes front noDeclaration =>
      obtain ⟨-, token, tokens, kind⟩ :=
        site_of_openSite reader.flushText .expressionStart "\x7b"
      exact .inr ((flushedIn_flushText ((hasContent_text modes).mp content)).trans
        (.of_single tokens kind rfl rfl))
  | closeElement modes closes closed =>
      obtain ⟨tag, -, closing⟩ := closesTag_of_closeTag closed
      exact .inr ((flushedIn_flushText ((hasContent_text modes).mp content)).trans closing.counts)
  | openChild modes opens opened =>
      exact .inr ((flushedIn_flushText ((hasContent_text modes).mp content)).trans
        (opensTag_of_openTag opened).counts)
  | selfClose modes front => exact absurd content (not_hasContent_attributes modes)
  | endTag modes front => exact absurd content (not_hasContent_attributes modes)
  | openSpread modes front => exact absurd content (not_hasContent_attributes modes)
  | nameAttribute modes front starts read =>
      exact absurd content (not_hasContent_attributes modes)
  | quoteEscape modes quoted front =>
      obtain ⟨other, member, solid⟩ := (hasContent_expression modes).mp content
      refine .inl ⟨(hasContent_expression rfl).mpr ⟨other, ?_, solid⟩, rfl, ?_⟩
      · exact List.mem_cons_of_mem _ (List.mem_cons_of_mem _ member)
      · exact (reader.position.byte_le_after _).trans (Position.byte_le_after _ _)
  | quoteCharacter modes quoted front noEscape =>
      exact .inl (keepsPending_code (.inr ((hasContent_expression modes).mp content)))
  | openBrace modes unquoted front =>
      exact .inl (keepsPending_code (.inr ((hasContent_expression modes).mp content)))
  | closeBrace modes unquoted front deep =>
      exact .inl (keepsPending_code (.inr ((hasContent_expression modes).mp content)))
  | @closeSite site _ _ modes unquoted front last =>
      have left : site.piece true reader.pending ≠ [] :=
        piece_ne_nil ((hasContent_expression modes).mp content)
      refine .inr ((flushedIn_flushPiece left).trans ?_)
      exact .of_single rfl rfl rfl rfl
  | openEmbedded modes unquoted opens starts opened =>
      exact .inr ((flushedIn_flushPiece
        (piece_ne_nil ((hasContent_expression modes).mp content))).trans
        (opensTag_of_openTag opened).counts)
  | code modes unquoted front notOpening notClosing noMarkup =>
      exact .inl (keepsPending_code (.inr ((hasContent_expression modes).mp content)))

/-- A token covers the pending characters in the end. -/
theorem exists_token_of_content (faultless : reader.run.fault = none)
    (content : reader.HasContent) :
    ∃ token ∈ reader.run.reader.tokens, token.span.start = reader.pendingStart ∧
      reader.position.byte ≤ token.span.stop.byte := by
  fun_induction run reader with
  | case1 reader fault stepped => cases faultless
  | case2 reader final stepped =>
      cases modes : reader.modes with
      | nil => simp [HasContent, modes] at content
      | cons mode outer =>
          obtain ⟨rfl, -, rfl⟩ := (step_eq_done_iff modes).mp stepped
          obtain ⟨token, member, span⟩ := flushedIn_flushText ((hasContent_text modes).mp content)
          exact ⟨token, member, by rw [span], by rw [span]⟩
  | case3 reader next stepped inductionHypothesis =>
      rcases (step_eq_more_iff.mp stepped).keepsPending content with keeps | flushed
      · obtain ⟨token, member, start, stop⟩ := inductionHypothesis faultless keeps.content
        exact ⟨token, member, start.trans keeps.start, keeps.passes.trans stop⟩
      · obtain ⟨token, member, span⟩ := flushed.trans (counts_run next)
        exact ⟨token, member, by rw [span], by rw [span]⟩

/-- No place among the pending characters is outside of all tokens. -/
theorem not_isFree_of_content (faultless : reader.run.fault = none) (content : reader.HasContent)
    {tokens : List Token} (known : reader.run.reader.tokens ⊆ tokens) {place : Position}
    (starts : reader.pendingStart.byte ≤ place.byte) (stops : place.byte < reader.position.byte) :
    ¬ place.IsFree tokens := by
  obtain ⟨token, member, start, stop⟩ := exists_token_of_content faultless content
  intro isFree
  exact isFree token (known member) ⟨start ▸ starts, stops.trans_le stop⟩

/-- Pending characters do not start behind the reader. -/
theorem Tracks.pendingStart_le (tracks : reader.Tracks source) :
    reader.pendingStart.byte ≤ reader.position.byte := by
  obtain ⟨passed, stretch, place, start, -⟩ := tracks.stretch
  rw [start, place.2, Position.after_append]
  exact Position.byte_le_after _ _

/-! ### Passing characters outside of all tokens -/

section Gap

variable {tokens : List Token} {character : Char} {following : List Char}

/-- A character that is gathered is passed. -/
theorem byte_lt_gather (front : reader.rest = character :: following) :
    reader.position.byte < (reader.gather character).position.byte := by
  have reached : (reader.gather character).position = reader.position.after [character] := by
    simp [gather, skip, front]
  rw [reached]
  exact Position.byte_lt_after _ (List.cons_ne_nil _ _)

/-- Text is never passed outside of all tokens. -/
theorem InOrder.not_isFree_text (inOrder : reader.InOrder source)
    (faultless : reader.run.fault = none) (known : reader.run.reader.tokens ⊆ tokens)
    (modes : reader.modes = .text parent :: outer)
    (front : reader.rest = character :: following) (blank : isBlank character) :
    ¬ reader.position.IsFree tokens := by
  have isLiteral : IsLiteral character following :=
    ⟨isBlank_ne blank (by decide), closesTag_of_isBlank blank following,
      opensTag_of_isBlank blank following,
      fun isEscape => absurd isEscape (isBlank_ne blank (by decide))⟩
  have move := Moves.literal modes front isLiteral
  rw [move.run_eq] at faultless known
  exact not_isFree_of_content faultless (keepsPending_text modes).content known
    inOrder.tracks.pendingStart_le (byte_lt_gather front)

/-- White space within an expression is gathered. -/
theorem exists_gather_blank (modes : reader.modes = .expression site :: outer)
    (front : reader.rest = character :: following) (blank : isBlank character) :
    ∃ changed, reader.Moves
      { reader.gather character with modes := .expression changed :: outer } := by
  cases quoted : site.quote with
  | none =>
      have noTag : opensTag reader.rest = false := by rw [front, opensTag_of_isBlank blank]
      exact ⟨_, .code modes quoted front (isBlank_ne blank (by decide))
        (isBlank_ne blank (by decide)) (by simp [noTag])⟩
  | some mark =>
      exact ⟨_, .quoteCharacter modes quoted front
        fun isEscape => absurd isEscape (isBlank_ne blank (by decide))⟩

/-- Where code is passed outside of all tokens, all that is pending is white space. -/
theorem InOrder.isBlank_pending (inOrder : reader.InOrder source)
    (faultless : reader.run.fault = none) (known : reader.run.reader.tokens ⊆ tokens)
    (modes : reader.modes = .expression site :: outer)
    (front : reader.rest = character :: following) (blank : isBlank character)
    (isFree : reader.position.IsFree tokens) :
    site.quote = none ∧ ∀ other ∈ reader.pending, isBlank other := by
  have allBlank : ∀ other ∈ reader.pending, isBlank other := by
    intro other member
    by_contra solid
    have pends : ∃ other ∈ reader.pending, isBlank other = false :=
      ⟨other, member, by simpa using solid⟩
    obtain ⟨changed, move⟩ := exists_gather_blank modes front blank
    rw [move.run_eq] at faultless known
    exact not_isFree_of_content faultless (keepsPending_code (.inr pends)).content known
      inOrder.tracks.pendingStart_le (byte_lt_gather front) isFree
  refine ⟨?_, allBlank⟩
  -- No quote is open behind white space.
  obtain ⟨depth, holds⟩ := inOrder.coherent.of_expression modes (by simp [front])
  have reads := holds.reads
  have reversed : ∀ other ∈ reader.pending.reverse, isBlank other :=
    fun other member => allBlank other (List.mem_reverse.mp member)
  rw [Code.after_blank reversed, Quoting.after_blank reversed] at reads
  obtain ⟨outside, -⟩ := Prod.mk.inj (Option.some.inj reads)
  cases quoted : site.quote with
  | none => rfl
  | some mark =>
      rw [quoted] at outside
      cases outside

end Gap

end MarkupTemplate.Reader
