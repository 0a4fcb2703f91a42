import MarkupTemplate.Proofs.Reader.Moves
import MarkupTemplate.Proofs.Reader.Outline

/-!
# Whatever is read can be written

In every state that a reader reaches, the tokens read so far are the outline of
a template, and the pending characters are the start of a text or of a piece of
code that can stand next in it. One step keeps this, so a source that is read to
its end derives a template's children, all of them well formed.
-/

namespace MarkupTemplate

open Spelling Text

namespace Node

/-- Text that characters make is a child. -/
theorem isChild_ofText (characters : List Char) :
    ∀ node ∈ ofText characters, node.IsChild := by
  unfold ofText
  split
  case isTrue => simp
  case isFalse nonempty =>
    refine List.forall_mem_singleton.mpr fun empty => nonempty ?_
    have content := congrArg String.toList empty
    simpa using content

@[simp] theorem wellFormedAll_ofText (characters : List Char) :
    WellFormedAll (ofText characters) := by
  unfold ofText
  split <;> simp [WellFormedAll, WellFormed]

@[simp] theorem nestingAll_ofText (characters : List Char) :
    nestingAll (ofText characters) = 0 := by
  unfold ofText
  split <;> simp [nestingAll, nesting]

/-- Text that characters make is at most one child. -/
theorem mem_of_mem_dropLast_ofText {nodes : List Node} {characters : List Char} {node : Node}
    (member : node ∈ (nodes ++ ofText characters).dropLast) : node ∈ nodes := by
  unfold ofText at member
  split at member
  · rw [List.append_nil] at member
    exact List.dropLast_subset nodes member
  · simpa using member

end Node

/-- Text that does not end in a backslash can be written anywhere. -/
theorem Spells.text {limit : Nat} {characters : List Char} {tokens : List Token}
    (derives : Derives (fun _ => True) (.children (Node.ofText characters)) tokens)
    (noBackslash : characters.getLast? ≠ some '\\') :
    Spells limit (.children (Node.ofText characters)) tokens where
  derives := derives
  wellFormed := by
    refine ⟨fun node member => ⟨Node.isChild_ofText characters node member, ?_⟩, by simp⟩
    unfold Node.ofText at member
    split at member
    · cases member
    · obtain rfl := List.mem_singleton.mp member
      simpa [Node.EndsInBackslash] using noBackslash
  shallow := by simp [Phrase.nesting]

/-- A declaration can be written anywhere among children. -/
theorem Spells.declaration {limit : Nat} {token : Token} (kind : token.kind = .declaration)
    (isDeclaration : Code.IsDeclaration token.value.toList) :
    Spells limit (.children [.declaration token.value]) [token] where
  derives := .declaration kind .noChildren
  wellFormed := ⟨List.forall_mem_singleton.mpr ⟨isDeclaration, id⟩, trivial, trivial⟩
  shallow := by simp [Phrase.nesting, Node.nestingAll, Node.nesting]

/-- A single attribute without elements can be written in any tag. -/
theorem Spells.single {limit : Nat} {given : Attribute} {tokens : List Token}
    (derives : Derives (fun _ => True) (.attributes [given]) tokens) (spelled : given.IsSpelled)
    (wellFormed : given.WellFormed) (flat : given.nesting = 0) :
    Spells limit (.attributes [given]) tokens where
  derives := derives
  wellFormed := ⟨List.forall_mem_singleton.mpr spelled, wellFormed, trivial⟩
  shallow := by simp [Phrase.nesting, Attribute.nestingAll, flat]

/-- White space is dropped from pending code in front of the first piece and
behind the last one. -/
theorem Site.exists_piece (site : Site) (closing : Bool) (pending : List Char) :
    ∃ front back, pending.reverse = front ++ site.piece closing pending ++ back ∧
      (∀ character ∈ front, isBlank character) ∧ (∀ character ∈ back, isBlank character) ∧
      (site.leading = true → LeadsSolid (site.piece closing pending)) ∧
      (closing = true → EndsSolid (site.piece closing pending)) ∧
      (closing = false → back = []) := by
  obtain ⟨front, frontSplit, frontBlank, leads⟩ := exists_trimStart pending.reverse
  unfold piece
  cases site.leading <;> cases closing
  · exact ⟨[], [], by simp⟩
  · obtain ⟨back, backSplit, backBlank, ends⟩ := exists_trimEnd pending.reverse
    exact ⟨[], back, by simpa using backSplit, by simp, backBlank, by simp, by simpa using ends,
      by simp⟩
  · exact ⟨front, [], by simpa using frontSplit, frontBlank, by simp, by simpa using leads,
      by simp, by simp⟩
  · obtain ⟨back, backSplit, backBlank, ends⟩ := exists_trimEnd (trimStart pending.reverse)
    refine ⟨front, back, ?_, frontBlank, backBlank, by simpa using leads.trimEnd,
      by simpa using ends, by simp⟩
    simp only [if_true, List.append_assoc]
    rw [← backSplit, ← frontSplit]

namespace Reader

variable {reader next : Reader} {parent : Option OpenTag} {outer : List Mode} {start site : Site}

/-- Whether the number of open tags is the one that the modes hold. -/
def Balanced (reader : Reader) : Prop := reader.openElements = Mode.openTags reader.modes

/-- Whether pending code leads from a state of an expression to a place in it. -/
structure HoldsCode (reader : Reader) (start : Site) (outer : List Mode)
    (place : Quoting × Nat) : Prop where
  outline : Outline (.expression start :: outer) reader.tokens.reverse
  reads : Code.after (.outside, start.depth) reader.pending.reverse = some place
  noMarkup : ¬ Code.EntersMarkup reader.pending.reverse reader.rest

/-- A state in which everything read so far can be written. Pending text that
ends in a backslash is not followed by a character that it would escape. Where
nothing follows, an expression is left open and nothing is said about it. -/
inductive Coherent (reader : Reader) : Prop where
  | text {parent : Option OpenTag} {outer : List Mode}
      (modes : reader.modes = .text parent :: outer)
      (outline : Outline (.text parent :: outer) reader.tokens.reverse)
      (noEscape : reader.pending.head? = some '\\' →
        ∀ next ∈ reader.rest.head?, isEscapable next = false)
  | attributes {tag : OpenTag} {outer : List Mode}
      (modes : reader.modes = .attributes tag :: outer)
      (outline : Outline (.attributes tag :: outer) reader.tokens.reverse)
  | expression {site : Site} {outer : List Mode}
      (modes : reader.modes = .expression site :: outer)
      (holds : reader.rest ≠ [] → ∃ depth, reader.HoldsCode { site with depth, quote := none }
        outer (.ofQuote site.quote, site.depth))

/-- One more character of code leads on, unless it starts markup. -/
theorem HoldsCode.gather {place reached : Quoting × Nat} {character : Char}
    {following : List Char} (holds : reader.HoldsCode start outer place)
    (front : reader.rest = character :: following)
    (reads : Code.read place character = some reached)
    (noMarkup : place.1 = .outside → ¬ (opensTag reader.rest ∧ startsMarkup reader.pending)) :
    (reader.gather character).HoldsCode start outer reached where
  outline := holds.outline
  reads := by
    rw [pending_gather, List.reverse_cons, Code.after_append, holds.reads]
    simp [reads]
  noMarkup := by
    rw [pending_gather, List.reverse_cons, rest_gather, front]
    rintro enters
    rcases Code.entersMarkup_snoc.mp enters with earlier | ⟨outside, opens, starts⟩
    · exact holds.noMarkup (front ▸ earlier)
    · have track : place.1 = .outside := (Code.fst_of_after holds.reads).trans outside
      exact noMarkup track ⟨front ▸ opens, by simpa using starts⟩

/-- Pending code does not depend on the modes. -/
theorem HoldsCode.withModes {place : Quoting × Nat} (holds : reader.HoldsCode start outer place)
    (modes : List Mode) : ({ reader with modes } : Reader).HoldsCode start outer place :=
  ⟨holds.outline, holds.reads, holds.noMarkup⟩

/-- With nothing pending, an outline is all there is to a state. -/
theorem coherent_of_outline (outline : Outline reader.modes reader.tokens.reverse)
    (nothing : reader.pending = []) : reader.Coherent := by
  cases modes : reader.modes with
  | nil =>
      rw [modes] at outline
      cases outline
  | cons mode outer =>
      rw [modes] at outline
      cases mode with
      | text parent => exact .text modes outline (by simp [nothing])
      | attributes tag => exact .attributes modes outline
      | expression site =>
          refine .expression modes fun _ => ⟨site.depth, ?_, ?_, ?_⟩
          · have same : { site with depth := site.depth, quote := none } = site := by
              rw [← outline.unquoted]
            rwa [same]
          · simp [nothing, outline.unquoted, Quoting.ofQuote]
          · simpa [nothing] using Code.not_entersMarkup_nil reader.rest

/-- Pending code, trimmed, continues an expression. -/
theorem HoldsCode.continues {depth : Nat} (holds : reader.HoldsCode start outer (.outside, depth))
    (site : Site) (closing : Bool) (sameLeading : site.leading = start.leading) :
    ∃ flushed, (reader.flushPiece site closing).tokens = flushed.reverse ++ reader.tokens ∧
      start.Continues (site.piece closing reader.pending) depth flushed := by
  obtain ⟨flushed, tokens, derives⟩ := reader.flushPiece_derives site closing
  obtain ⟨front, back, split, frontBlank, backBlank, leads, -, -⟩ :=
    site.exists_piece closing reader.pending
  refine ⟨flushed, tokens, derives, ?_, ?_, ?_⟩
  · intro enters
    refine holds.noMarkup ?_
    rw [split]
    exact enters.surrounded frontBlank
  · exact fun leading => leads (sameLeading.trans leading)
  · rw [← Code.depthAfter_surrounded frontBlank backBlank, ← split]
    exact Code.depthAfter_eq_some_iff.mpr holds.reads

/-! ### Every move keeps a state in order -/

/-- A move keeps the number of open tags in step with the modes. -/
theorem Moves.balanced (move : reader.Moves next) (balanced : reader.Balanced) :
    next.Balanced := by
  unfold Balanced at balanced ⊢
  cases move with
  | escape modes => exact balanced
  | literal modes => exact balanced
  | declare modes front declared =>
      rw [modes] at balanced
      have same := (declaration_of_readDeclaration declared).1
      simpa [same] using balanced
  | openChildSite modes =>
      rw [modes] at balanced
      simpa using balanced
  | closeElement modes closes closed =>
      rw [modes] at balanced
      obtain ⟨tag, rfl, closing⟩ := closesTag_of_closeTag closed
      simp [closing.openElements, balanced]
  | openChild modes opens opened =>
      rw [modes] at balanced
      have opening := opensTag_of_openTag opened
      simp [opening.openElements, balanced]
  | selfClose modes front =>
      rw [modes] at balanced
      simp [balanced]
  | endTag modes front =>
      rw [modes] at balanced
      simpa using balanced
  | openSpread modes front =>
      rw [modes] at balanced
      simpa using balanced
  | nameAttribute modes front starts read =>
      rw [modes] at balanced
      have same := (readsAttribute_of_readAttribute front starts read).1
      rename_i site
      cases site <;> simpa [same] using balanced
  | quoteEscape modes => simpa [modes] using balanced
  | quoteCharacter modes => simpa [modes] using balanced
  | openBrace modes => simpa [modes] using balanced
  | closeBrace modes => simpa [modes] using balanced
  | closeSite modes =>
      rw [modes] at balanced
      simpa using balanced
  | openEmbedded modes unquoted opens starts opened =>
      rw [modes] at balanced
      have opening := opensTag_of_openTag opened
      simp [opening.openElements, balanced]
  | code modes => simpa [modes] using balanced

/-- The name of an opened tag is a tag name. -/
theorem OpensTag.isTagName {tag : OpenTag} (opening : reader.OpensTag tag next)
    (opens : opensTag reader.rest) : IsTagName tag.name.toList := by
  have dots := isCompoundName_iff.mp opening.compound
  unfold opensTag at opens
  split at opens
  next first following front =>
    have isNameChar : isTagNameChar first := by simp [isTagNameChar, Char.isAlphanum, opens]
    have name : tag.name.toList = first :: following.takeWhile isTagNameChar := by
      simp [opening.name, front, isNameChar]
    refine ⟨⟨first, by simp [name], opens⟩, ?_, dots.1, dots.2⟩
    rw [opening.name]
    exact fun character member => List.mem_takeWhile_imp member
  next => cases opens

/-- An opened tag joins the outline behind what leads to it. -/
theorem outline_openTag {inner : List Mode} {tag : OpenTag} {before lead : List Token}
    (around : Outline outer before) (leads : Leads outer lead inner)
    (tokens : reader.tokens.reverse = before ++ lead)
    (balanced : reader.openElements = Mode.openTags inner) (opens : opensTag reader.rest)
    (opened : reader.openTag = .ok (tag, next)) :
    Outline (.attributes tag :: inner) next.tokens.reverse := by
  have opening := opensTag_of_openTag opened
  obtain ⟨mark, name, added, isMark, isName, same⟩ := opening.tokens
  have joined := Outline.attributes around leads (balanced ▸ opening.shallow) isMark isName same
    (opening.isTagName opens) .noAttributes
  simpa [added, tokens] using joined

/-- A delimiter closes an expression behind pending code. -/
theorem HoldsCode.outline_closeSite {depth : Nat}
    (holds : reader.HoldsCode { site with depth, quote := none } outer (.outside, site.depth))
    (last : site.depth ≤ 1) :
    Outline outer (((reader.flushPiece site true).skip 1).emit .expressionEnd "\x7d"
      reader.position).tokens.reverse := by
  have isLast : site.depth = 1 :=
    Nat.le_antisymm last (Code.pos_of_after holds.reads holds.outline.positive)
  obtain ⟨flushed, tokens, continues⟩ := holds.continues site true rfl
  obtain ⟨-, -, -, -, -, -, ends, -⟩ := site.exists_piece true reader.pending
  obtain ⟨stop, added, kind⟩ := exists_emit ((reader.flushPiece site true).skip 1)
    .expressionEnd "\x7d" reader.position
  rw [isLast] at continues
  have closed := holds.outline.closeSite continues (ends rfl) kind
  simpa [added, tokens] using closed

/-- A tag within an expression joins the outline behind pending code. -/
theorem HoldsCode.outline_openEmbedded {depth : Nat} {tag : OpenTag}
    (holds : reader.HoldsCode { site with depth, quote := none } outer (.outside, site.depth))
    (unquoted : site.quote = none) (balanced : reader.openElements = Mode.openTags outer)
    (opens : opensTag reader.rest) (starts : startsMarkup reader.pending)
    (opened : (reader.flushPiece site false).openTag = .ok (tag, next)) :
    Outline (.attributes tag :: .expression { site with leading := false } :: outer)
      next.tokens.reverse := by
  obtain ⟨flushed, tokens, continues⟩ := holds.continues site false rfl
  obtain ⟨front, back, split, frontBlank, -, -, -, noBack⟩ :=
    site.exists_piece false reader.pending
  have pending : reader.pending = (site.piece false reader.pending).reverse ++ front.reverse := by
    rw [noBack rfl, List.append_nil] at split
    simpa using congrArg List.reverse split
  have startsBehind : startsMarkup (site.piece false reader.pending).reverse := by
    rw [pending, Code.startsMarkup_append_blank (by simpa using frontBlank)] at starts
    exact starts
  have leads : Leads (.expression { site with depth, quote := none } :: outer) flushed
      (.expression { site with leading := false } :: outer) := by
    rw [← unquoted] at continues ⊢
    exact .code continues startsBehind
  exact outline_openTag holds.outline leads (by simp [tokens]) (by simpa using balanced)
    (by simpa using opens) opened

/-- In text, the outline and what pending text ends in. -/
theorem Coherent.of_text (coherent : reader.Coherent)
    (modes : reader.modes = .text parent :: outer) :
    Outline (.text parent :: outer) reader.tokens.reverse ∧
      (reader.pending.head? = some '\\' →
        ∀ next ∈ reader.rest.head?, isEscapable next = false) := by
  cases coherent with
  | text same outline noEscape =>
      cases modes.symm.trans same
      exact ⟨outline, noEscape⟩
  | attributes same => cases modes.symm.trans same
  | expression same => cases modes.symm.trans same

/-- Pending text joins the outline in front of a brace or a tag. -/
theorem Coherent.outline_flushText {character : Char} {following : List Char}
    (coherent : reader.Coherent) (modes : reader.modes = .text parent :: outer)
    (front : reader.rest = character :: following) (escapable : isEscapable character) :
    Outline (.text parent :: outer) reader.flushText.tokens.reverse := by
  obtain ⟨outline, noEscape⟩ := coherent.of_text modes
  obtain ⟨flushed, tokens, derives⟩ := reader.flushText_derives
  have noBackslash : reader.pending.reverse.getLast? ≠ some '\\' := by
    intro last
    rw [List.getLast?_reverse] at last
    have plain := noEscape last character (by simp [front])
    simp [escapable] at plain
  rw [tokens, List.reverse_append, List.reverse_reverse]
  exact outline.addChildren (.text derives noBackslash)

/-- Among attributes, the outline. -/
theorem Coherent.of_attributes {tag : OpenTag} (coherent : reader.Coherent)
    (modes : reader.modes = .attributes tag :: outer) :
    Outline (.attributes tag :: outer) reader.tokens.reverse := by
  cases coherent with
  | text same => cases modes.symm.trans same
  | attributes same outline =>
      cases modes.symm.trans same
      exact outline
  | expression same => cases modes.symm.trans same

/-- Within an expression that goes on, the outline and pending code. -/
theorem Coherent.of_expression (coherent : reader.Coherent)
    (modes : reader.modes = .expression site :: outer) (nonempty : reader.rest ≠ []) :
    ∃ depth, reader.HoldsCode { site with depth, quote := none } outer
      (.ofQuote site.quote, site.depth) := by
  cases coherent with
  | text same => cases modes.symm.trans same
  | attributes same => cases modes.symm.trans same
  | expression same holds =>
      cases modes.symm.trans same
      exact holds nonempty

/-- Within an expression and outside quotes, the outline and pending code. -/
theorem Coherent.of_code (coherent : reader.Coherent)
    (modes : reader.modes = .expression site :: outer) (nonempty : reader.rest ≠ [])
    (unquoted : site.quote = none) :
    ∃ depth, reader.HoldsCode { site with depth, quote := none } outer
      (.outside, site.depth) := by
  simpa [unquoted, Quoting.ofQuote] using coherent.of_expression modes nonempty

/-- Code that goes on behind a character keeps everything in order. -/
theorem Coherent.gather {character : Char} {following : List Char} {quote : Option Char}
    {depth : Nat} (coherent : reader.Coherent)
    (modes : reader.modes = .expression site :: outer)
    (front : reader.rest = character :: following)
    (reads : following ≠ [] →
      Code.read (.ofQuote site.quote, site.depth) character = some (.ofQuote quote, depth))
    (noMarkup : site.quote = none → ¬ (opensTag reader.rest ∧ startsMarkup reader.pending)) :
    ({ reader.gather character with
      modes := .expression { site with quote, depth } :: outer } : Reader).Coherent := by
  obtain ⟨reached, holds⟩ := coherent.of_expression modes (by simp [front])
  refine .expression rfl fun nonempty => ⟨reached, ?_⟩
  have goesOn : following ≠ [] := by simpa [front] using nonempty
  refine (holds.gather front (reads goesOn) fun outside => noMarkup ?_).withModes _
  cases quote : site.quote with
  | none => rfl
  | some mark =>
      rw [quote] at outside
      cases outside

/-- A move keeps everything read so far in order. -/
theorem Moves.coherent (move : reader.Moves next) (balanced : reader.Balanced)
    (coherent : reader.Coherent) : next.Coherent := by
  unfold Balanced at balanced
  cases move with
  | escape modes front escapable =>
      refine .text modes (coherent.of_text modes).1 ?_
      rw [pending_gather, List.head?_cons, Option.some.injEq]
      rintro rfl
      cases escapable
  | literal modes front isLiteral =>
      refine .text modes (coherent.of_text modes).1 ?_
      rw [pending_gather, List.head?_cons, Option.some.injEq, rest_gather, front]
      exact isLiteral.notEscape
  | declare modes front declared =>
      have flushed := coherent.outline_flushText modes front rfl
      obtain ⟨-, token, tokens, kind, isDeclaration⟩ := declaration_of_readDeclaration declared
      refine coherent_of_outline ?_ rfl
      have added := flushed.addChildren (.declaration kind isDeclaration)
      simpa [tokens] using added
  | openChildSite modes front noDeclaration =>
      have flushed := coherent.outline_flushText modes front rfl
      obtain ⟨fresh, token, tokens, kind⟩ :=
        site_of_openSite reader.flushText .expressionStart "\x7b"
      refine coherent_of_outline ?_ rfl
      have opened := Outline.childSite flushed kind (fresh.holds _)
      simpa [tokens] using opened
  | closeElement modes closes closed =>
      obtain ⟨following, front⟩ := front_of_closesTag closes
      have flushed := coherent.outline_flushText modes front rfl
      obtain ⟨tag, rfl, closing⟩ := closesTag_of_closeTag closed
      obtain ⟨mark, name, stop, tokens, isMark, isName, isStop, same⟩ := closing.tokens
      refine coherent_of_outline ?_ rfl
      have finished := flushed.closeTag isMark isName isStop same
      simpa [tokens] using finished
  | openChild modes opens opened =>
      obtain ⟨following, front⟩ := front_of_opensTag opens
      have flushed := coherent.outline_flushText modes front rfl
      rw [modes] at balanced
      have joined := outline_openTag flushed .content (List.append_nil _).symm
        (by simpa using balanced) (by simpa using opens) opened
      exact coherent_of_outline joined rfl
  | selfClose modes front =>
      have outline := coherent.of_attributes modes
      obtain ⟨stop, tokens, kind⟩ :=
        exists_emit (reader.skipBlank.skip 2) .tagSelfClose "/>" reader.skipBlank.position
      refine coherent_of_outline ?_ rfl
      simpa [tokens] using outline.selfClose kind
  | endTag modes front =>
      have outline := coherent.of_attributes modes
      obtain ⟨stop, tokens, kind⟩ :=
        exists_emit (reader.skipBlank.skip 1) .tagEnd ">" reader.skipBlank.position
      refine coherent_of_outline ?_ rfl
      simpa [tokens] using outline.endTag kind
  | openSpread modes front =>
      have outline := coherent.of_attributes modes
      obtain ⟨fresh, token, tokens, kind⟩ :=
        site_of_openSite reader.skipBlank .spreadStart "\x7b..."
      refine coherent_of_outline ?_ rfl
      have opened := Outline.spreadSite outline kind (fresh.holds _)
      simpa [tokens] using opened
  | @nameAttribute tag outer character following next site modes front starts read =>
      have outline := coherent.of_attributes modes
      obtain ⟨-, reads⟩ := readsAttribute_of_readAttribute front starts read
      refine coherent_of_outline ?_ rfl
      cases site with
      | none =>
          obtain ⟨given, emitted, tokens, derives, spelled, wellFormed, flat⟩ := reads
          have added := outline.addAttributes (.single derives spelled wellFormed flat)
          simpa [tokens] using added
      | some site =>
          obtain ⟨fresh, name, equals, start, tokens, names, equates, starts, isName⟩ := reads
          have opened := Outline.valueSite outline names equates starts isName (fresh.holds _)
          simpa [tokens] using opened
  | @quoteEscape site outer mark character following modes quoted front =>
      obtain ⟨depth, holds⟩ := coherent.of_expression modes (by simp [front])
      rw [quoted] at holds
      have first := holds.gather front (Code.read_inside_backslash _ _) (by simp [Quoting.ofQuote])
      have behind : (reader.gather '\\').rest = character :: following := by simp [front]
      have second := first.gather behind (Code.read_escaped _ _ _) (by simp)
      refine .expression rfl fun _ => ⟨depth, ?_⟩
      rw [quoted]
      exact second.withModes _
  | @quoteCharacter site outer mark character following modes quoted front noEscape =>
      refine coherent.gather modes front (fun goesOn => ?_) (by simp [quoted])
      have plain : character ≠ '\\' := fun isEscape => goesOn (noEscape isEscape)
      rw [quoted]
      exact Code.read_inside mark site.depth plain
  | openBrace modes unquoted front =>
      refine coherent.gather modes front (fun _ => ?_) (by simp [front, opensTag])
      rw [unquoted]
      rfl
  | @closeBrace site outer following modes unquoted front deep =>
      refine coherent.gather modes front (fun _ => ?_) (by simp [front, opensTag])
      rw [unquoted]
      simp [Quoting.ofQuote, Code.read, Nat.not_le.mpr deep]
  | closeSite modes unquoted front last =>
      obtain ⟨depth, holds⟩ := coherent.of_code modes (by simp [front]) unquoted
      exact coherent_of_outline (holds.outline_closeSite last) rfl
  | openEmbedded modes unquoted opens starts opened =>
      obtain ⟨following, front⟩ := front_of_opensTag opens
      obtain ⟨depth, holds⟩ := coherent.of_code modes (by simp [front]) unquoted
      rw [modes, Mode.openTags_expression] at balanced
      have joined := holds.outline_openEmbedded unquoted balanced opens starts opened
      exact coherent_of_outline joined rfl
  | @code site outer character following modes unquoted front notOpening notClosing noMarkup =>
      refine coherent.gather modes front (fun _ => ?_) (fun _ => noMarkup)
      rw [unquoted, Quoting.ofQuote, Code.read_plain notOpening notClosing, Quoting.next_outside]

/-! ### Whole readings -/

/-- A state in order from which reading ends without a fault leads to another one
at which reading ends. -/
theorem exists_coherent_end (balanced : reader.Balanced) (coherent : reader.Coherent)
    (faultless : reader.run.fault = none) :
    ∃ last : Reader, last.Coherent ∧ last.step = .ok (.done reader.run.reader) := by
  fun_induction run reader with
  | case1 reader fault stepped => cases faultless
  | case2 reader final stepped => exact ⟨reader, coherent, stepped⟩
  | case3 reader next stepped inductionHypothesis =>
      have move := step_eq_more_iff.mp stepped
      exact inductionHypothesis (move.balanced balanced) (move.coherent balanced coherent) faultless

/-- Where reading ends, children have been read, and text may be pending. -/
theorem Coherent.of_done {final : Reader} (coherent : reader.Coherent)
    (stepped : reader.step = .ok (.done final)) :
    ∃ nodes, Spells maxNesting (.children nodes) reader.tokens.reverse ∧
      final.tokens = reader.flushText.tokens := by
  cases coherent with
  | text modes outline =>
      obtain ⟨top, -, rfl⟩ := (step_eq_done_iff modes).mp stepped
      cases top
      cases outline with
      | top content => exact ⟨_, content, rfl⟩
  | attributes modes =>
      obtain ⟨top, -⟩ := (step_eq_done_iff modes).mp stepped
      cases top
  | expression modes =>
      obtain ⟨top, -⟩ := (step_eq_done_iff modes).mp stepped
      cases top

/-- At the start of a source no tag is open. -/
theorem balanced_start (source : String) : (Reader.start source).Balanced := rfl

/-- At the start of a source everything is in order. -/
theorem coherent_start (source : String) : (Reader.start source).Coherent :=
  coherent_of_outline (.top .noChildren) rfl

end Reader

/-- The tokens of an ending are closed by the end of input. -/
theorem Reader.Ending.exists_tokens (ending : Reader.Ending) :
    ∃ last : Token, ending.tokens = ending.reader.tokens.reverse ++ [last] ∧ last.kind = .eof :=
  ⟨⟨.eof, "", .point ending.reader.position⟩, by simp [tokens], rfl⟩

/-- The tokens of a source derive children that can be written, up to the end of
input. Only the last one may be text that ends in a backslash. -/
theorem Token.read_derives {source : String} {tokens : List Token}
    (reads : Token.read source = .ok tokens) :
    ∃ nodes content ending, tokens = content ++ [ending] ∧ ending.kind = .eof ∧
      Derives (fun _ => True) (.children nodes) content ∧
      (∀ node ∈ nodes, node.IsChild) ∧ (∀ node ∈ nodes.dropLast, ¬ node.EndsInBackslash) ∧
      Node.WellFormedAll nodes ∧ Node.nestingAll nodes ≤ maxNesting := by
  unfold Token.read at reads
  simp only [] at reads
  split at reads
  · cases reads
  rename_i faultless
  cases reads
  obtain ⟨last, coherent, stepped⟩ :=
    Reader.exists_coherent_end (Reader.balanced_start source) (Reader.coherent_start source)
      faultless
  obtain ⟨nodes, spells, final⟩ := coherent.of_done stepped
  obtain ⟨areChildren, all⟩ := spells.wellFormed
  obtain ⟨flushed, tokens, derives⟩ := last.flushText_derives
  obtain ⟨ending, ended, isEnd⟩ := (Reader.start source).run.exists_tokens
  refine ⟨nodes ++ Node.ofText last.pending.reverse, last.tokens.reverse ++ flushed, ending,
    ?_, isEnd, spells.derives.extends _ _ derives, ?_, ?_, ?_, ?_⟩
  · rw [ended, final, tokens]
    simp
  · refine List.forall_mem_append.mpr ⟨fun node member => (areChildren node member).1, ?_⟩
    exact Node.isChild_ofText _
  · exact fun node member => (areChildren node (Node.mem_of_mem_dropLast_ofText member)).2
  · exact Node.wellFormedAll_append.mpr ⟨all, Node.wellFormedAll_ofText _⟩
  · have shallow : Node.nestingAll nodes ≤ maxNesting := spells.shallow
    simpa using shallow

end MarkupTemplate
