import MarkupTemplate.Proofs.Reader.Agreement
import MarkupTemplate.Proofs.Source.Tiling

/-!
# Reading loses nothing

In every state that a reader reaches, its tokens tile the source up to where the
pending characters start, and the pending characters are those of the stretch
from there to where it stands. One step keeps this, so the tokens of a source
that is read to its end tile the source.
-/

namespace MarkupTemplate

open Spelling Text

/-- A token that is neither text nor code fits in front of anything but the end of an
expression. -/
theorem Token.fits_of_solid {tokens : List Token} {kind : TokenKind} {value : String}
    {inside : List Char} (solid : IsSolid inside)
    (denotes : kind.Denotes (tokens.head?.any opensSite) false inside value.toList)
    (notEnd : kind ≠ .expressionEnd) : Token.Fits tokens false false kind value inside where
  nonempty := solid.nonempty
  denotes := denotes
  solid := fun _ _ => solid
  follows := by simp [notEnd]

/-- Whether code of an expression can come next: it is the first of its expression
exactly if the last token opens one, and no other code comes directly before it. -/
def Site.GoesOn (site : Site) (tokens : List Token) : Prop :=
  site.leading = tokens.head?.any Token.opensSite ∧ ∀ last ∈ tokens.head?, last.kind ≠ .expression

/-- The first code of an expression comes directly behind its delimiter. -/
theorem Site.goesOn_of_opensSite {site : Site} {start : Token} {older : List Token}
    (leading : site.leading = true)
    (opens : start.kind = .expressionStart ∨ start.kind = .spreadStart) :
    site.GoesOn (start :: older) := by
  refine ⟨?_, ?_⟩
  · simpa [leading, Token.opensSite] using opens
  · rintro last same isCode
    cases same
    rcases opens with isStart | isStart <;> cases isStart.symm.trans isCode

namespace Reader

variable {source : List Char} {reader next : Reader} {closed closing : Bool}
  {parent : Option OpenTag} {outer : List Mode} {site : Site}

/-! ### Constructs -/

/-- Whether a reader stands behind the characters `passed` of a source. -/
def At (reader : Reader) (source passed : List Char) : Prop :=
  source = passed ++ reader.rest ∧ reader.position = Position.after {} passed

/-- Passing some of the next characters. -/
theorem At.skip {passed : List Char} (place : reader.At source passed) (count : Nat) :
    (reader.skip count).At source (passed ++ reader.rest.take count) := by
  obtain ⟨whole, position⟩ := place
  refine ⟨?_, ?_⟩
  · rw [rest_skip, List.append_assoc, List.take_append_drop]
    exact whole
  · rw [Position.after_append, ← position]
    rfl

/-- Passing the characters in front. -/
theorem At.pass {passed inside following : List Char} (place : reader.At source passed)
    (front : reader.rest = inside ++ following) :
    (reader.skip inside.length).At source (passed ++ inside) := by
  have skipped := place.skip inside.length
  rwa [front, List.take_left] at skipped

/-- Whether the tokens of a reader tile the source up to where it stands. -/
def Settled (reader : Reader) (source : List Char) (closing : Bool) : Prop :=
  ∃ passed, reader.At source passed ∧ Tiled closing passed reader.tokens

namespace Settled

/-- White space is passed between tokens. -/
theorem skipBlank (settled : reader.Settled source closing) :
    reader.skipBlank.Settled source closing := by
  obtain ⟨passed, place, tiled⟩ := settled
  exact ⟨_, place.pass List.takeWhile_append_dropWhile.symm,
    tiled.blanks fun character member => List.mem_takeWhile_imp member⟩

/-- The characters of a token are passed when it is added. -/
theorem token {inside following : List Char} {kind : TokenKind} {value : String}
    (settled : reader.Settled source closed) (front : reader.rest = inside ++ following)
    (fits : Token.Fits reader.tokens closed closing kind value inside) :
    ((reader.skip inside.length).emit kind value reader.position).Settled source closing := by
  obtain ⟨passed, place, tiled⟩ := settled
  have reached := place.pass front
  refine ⟨passed ++ inside, reached, ?_⟩
  have span : (⟨reader.position, (reader.skip inside.length).position⟩ : Span) =
      .after passed inside := by rw [place.2, reached.2, Span.after]
  have added := tiled.token fits
  rw [← span] at added
  exact added

/-- The characters of a token that is its own spelling are passed when it is added. -/
theorem word {inside following : List Char} {kind : TokenKind} {value : String}
    (settled : reader.Settled source false) (front : reader.rest = inside ++ following)
    (solid : IsSolid inside) (denotes : ∀ leading, kind.Denotes leading false inside value.toList)
    (notEnd : kind ≠ .expressionEnd) :
    ((reader.skip inside.length).emit kind value reader.position).Settled source false :=
  settled.token front (Token.fits_of_solid solid (denotes _) notEnd)

/-- A mark of the language is passed when it is added. -/
theorem mark (settled : reader.Settled source false) (kind : TokenKind) (delimiter : String)
    {following : List Char} (front : reader.rest = delimiter.toList ++ following)
    (solid : IsSolid delimiter.toList)
    (denotes : ∀ leading, kind.Denotes leading false delimiter.toList delimiter.toList)
    (notEnd : kind ≠ .expressionEnd) :
    ((reader.skip delimiter.length).emit kind delimiter reader.position).Settled source false := by
  rw [← String.length_toList]
  exact settled.word front solid denotes notEnd

end Settled

/-- A letter is not white space. -/
theorem isBlank_of_isAlpha {character : Char} (letter : character.isAlpha) :
    isBlank character = false :=
  isBlank_of_attrNameStart (by simp [isAttrNameStart, letter])

/-- The name of a tag begins with its letter. -/
theorem isSolid_tagName {letter : Char} {following : List Char} (isLetter : letter.isAlpha) :
    IsSolid ((letter :: following).takeWhile isTagNameChar) :=
  .takeWhile isTagNameChar_of_isBlank (by simp [isTagNameChar, Char.isAlphanum, isLetter])
    (isBlank_of_isAlpha isLetter)

/-- A tag is opened by `<` and a letter. -/
theorem exists_of_opensTag {characters : List Char} (opens : opensTag characters) :
    ∃ letter following, characters = '<' :: letter :: following ∧ letter.isAlpha := by
  unfold opensTag at opens
  split at opens
  · exact ⟨_, _, rfl, opens⟩
  · cases opens

/-- A tag is closed by `</` and a letter. -/
theorem exists_of_closesTag {characters : List Char} (closes : closesTag characters) :
    ∃ letter following, characters = '<' :: '/' :: letter :: following ∧ letter.isAlpha := by
  unfold closesTag at closes
  split at closes
  · exact ⟨_, _, rfl, closes⟩
  · cases closes

namespace Settled

/-- The name of a tag is passed behind its mark. -/
theorem tagName {letter : Char} {following : List Char} {name : String}
    (settled : reader.Settled source false) (front : reader.rest = letter :: following)
    (isLetter : letter.isAlpha) (spelled : name.toList = reader.rest.takeWhile isTagNameChar) :
    ((reader.skip (reader.rest.takeWhile isTagNameChar).length).emit .tagName name
      reader.position).Settled source false := by
  refine settled.word List.takeWhile_append_dropWhile.symm ?_ (fun _ => spelled) (by decide)
  rw [front]
  exact isSolid_tagName isLetter

/-- Opening a tag passes its mark and its name. -/
theorem openTag {tag : OpenTag} (settled : reader.Settled source false)
    (opens : opensTag reader.rest) (opened : reader.openTag = .ok (tag, next)) :
    next.Settled source false := by
  obtain ⟨letter, following, front, isLetter⟩ := exists_of_opensTag opens
  have marked : ((reader.skip 1).emit .tagOpen "<" reader.position).Settled source false :=
    settled.mark .tagOpen "<" front (.of_ends rfl rfl (by decide) (by decide)) (fun _ => rfl)
      (by decide)
  have ahead : (reader.skip 1).rest = letter :: following := by simp [front]
  unfold Reader.openTag at opened
  simp only [] at opened
  split at opened
  · cases opened
  split at opened
  · cases opened
  cases opened
  exact marked.tagName ahead isLetter String.toList_ofList

/-- Closing a tag passes its mark, its name and its bracket. -/
theorem closeTag (settled : reader.Settled source false)
    (closes : closesTag reader.rest) (closed : reader.closeTag parent = .ok next) :
    next.Settled source false := by
  obtain ⟨letter, following, front, isLetter⟩ := exists_of_closesTag closes
  have marked : ((reader.skip 2).emit .tagClose "</" reader.position).Settled source false :=
    settled.mark .tagClose "</" front (.of_ends rfl rfl (by decide) (by decide)) (fun _ => rfl)
      (by decide)
  have ahead : (reader.skip 2).rest = letter :: following := by simp [front]
  obtain ⟨tag, behind, rfl, bracket, name⟩ := exists_of_closeTag closed
  have spelled : tag.name.toList = (reader.skip 2).rest.takeWhile isTagNameChar := by
    rw [name, String.toList_ofList]
  rw [closeTag_eq bracket name] at closed
  cases closed
  have named := marked.tagName ahead isLetter spelled
  exact named.skipBlank.mark .tagEnd ">" bracket (.of_ends rfl rfl (by decide) (by decide))
    (fun _ => rfl) (by decide)

/-- A declaration is passed with its delimiters. -/
theorem readDeclaration {following : List Char} (settled : reader.Settled source false)
    (front : reader.rest = '{' :: '%' :: following)
    (declared : reader.readDeclaration = .ok next) : next.Settled source false := by
  obtain ⟨body, behind, cut⟩ := exists_of_readDeclaration declared
  rw [readDeclaration_eq cut] at declared
  cases declared
  have enclosed : reader.rest = '{' :: '%' :: (body ++ ['%', '}']) ++ behind := by
    simpa [front] using (Code.isDeclaration_of_cut cut).1
  have length : ('{' :: '%' :: (body ++ ['%', '}'])).length = body.length + 4 := by simp
  rw [← length]
  have ends : ('{' :: '%' :: (body ++ ['%', '}'])).getLast? = some '}' := by
    simp [List.getLast?_cons]
  exact settled.word enclosed (.of_ends rfl ends (by decide) (by decide))
    (fun _ => ⟨body, rfl, String.toList_ofList⟩) (by decide)

/-- A quoted value is passed with its quotes. -/
theorem readString {quote : Char} {following : List Char} (settled : reader.Settled source false)
    (isMark : quote = '"' ∨ quote = '\'') (front : reader.rest = quote :: following)
    (read : reader.readString quote = .ok next) : next.Settled source false := by
  obtain ⟨value, behind, lacks, whole⟩ := exists_of_readString front read
  rw [readString_eq lacks whole] at read
  cases read
  have enclosed : reader.rest = quote :: (value ++ [quote]) ++ behind := by simp [whole]
  have length : (quote :: (value ++ [quote])).length = value.length + 2 := by simp
  have solid : isBlank quote = false := by
    rcases isMark with rfl | rfl <;> decide
  rw [← length]
  have ends : (quote :: (value ++ [quote])).getLast? = some quote := by
    simp [List.getLast?_cons]
  refine settled.word enclosed (.of_ends rfl ends solid solid) (fun _ => ?_) (by decide)
  rw [String.toList_ofList]
  exact ⟨quote, isMark, rfl, lacks⟩

/-- The delimiter of an expression is passed. -/
theorem openSite {kind : TokenKind} {delimiter : String} {following : List Char}
    (settled : reader.Settled source false) (front : reader.rest = delimiter.toList ++ following)
    (solid : IsSolid delimiter.toList)
    (opens : kind = .expressionStart ∨ kind = .spreadStart) :
    (reader.openSite kind delimiter).2.Settled source false := by
  rcases opens with rfl | rfl
  · exact settled.mark _ _ front solid (fun _ => rfl) (by decide)
  · exact settled.mark _ _ front solid (fun _ => rfl) (by decide)

/-- The value of an attribute, or the delimiter that opens it, is passed. -/
theorem readValue {name : String} {origin : Position} {site : Option Site}
    (settled : reader.Settled source false)
    (read : reader.readValue name origin = .ok (site, next)) : next.Settled source false := by
  have quoted {quote : Char} {following : List Char} (isMark : quote = '"' ∨ quote = '\'')
      (front : reader.rest = quote :: following)
      (read : (reader.readString quote).map (fun next => (none, next)) = .ok (site, next)) :
      next.Settled source false := by
    cases result : reader.readString quote with
    | error fault => simp [result, Except.map] at read
    | ok found =>
        simp only [result, Except.map, Except.ok.injEq, Prod.mk.injEq] at read
        exact read.2 ▸ settled.readString isMark front result
  unfold Reader.readValue at read
  split at read
  next front => exact quoted (.inl rfl) front read
  next front => exact quoted (.inr rfl) front read
  next front =>
    cases read
    exact settled.openSite front (.of_ends rfl rfl (by decide) (by decide)) (.inl rfl)
  next => cases read

/-- An attribute is passed up to and including its value, or the delimiter that
opens it. -/
theorem readAttribute {character : Char} {following : List Char} {site : Option Site}
    (settled : reader.Settled source false) (front : reader.rest = character :: following)
    (starts : isAttrNameStart character) (read : reader.readAttribute = .ok (site, next)) :
    next.Settled source false := by
  have solid : IsSolid (reader.rest.takeWhile isAttrNameChar) := by
    rw [front]
    exact .takeWhile isAttrNameChar_of_isBlank (isAttrNameChar_of_start starts)
      (isBlank_of_attrNameStart starts)
  have named : ((reader.skip (reader.rest.takeWhile isAttrNameChar).length).emit .attrName
      (String.ofList (reader.rest.takeWhile isAttrNameChar)) reader.position).Settled source false :=
    settled.word List.takeWhile_append_dropWhile.symm solid (fun _ => String.toList_ofList)
      (by decide)
  unfold Reader.readAttribute at read
  simp only [] at read
  split at read
  next equals =>
    exact (named.skipBlank.mark .attrEquals "=" equals (.of_ends rfl rfl (by decide) (by decide))
      (fun _ => rfl) (by decide)).skipBlank.readValue read
  next =>
    cases read
    exact named.skipBlank

end Settled

/-! ### Pending characters -/

/-- Whether the pending characters are made of a stretch of the source, in the mode
of the reader. -/
def Pends (reader : Reader) (stretch : List Char) : Prop :=
  match reader.modes with
  | .text _ :: _ => reader.pending.reverse = unescape stretch ∧ Joins stretch reader.rest
  | .expression site :: _ => reader.pending.reverse = stretch ∧ site.GoesOn reader.tokens
  | _ => stretch = []

/-- Whether the tokens tile the source up to the pending characters, and these are
the rest of what was passed. An expression that is suspended is not at its start. -/
structure Tracks (reader : Reader) (source : List Char) : Prop where
  stretch : ∃ passed stretch, reader.At source (passed ++ stretch) ∧
    reader.pendingStart = Position.after {} passed ∧
    Tiled false passed reader.tokens ∧ reader.Pends stretch
  suspended : ∀ site, Mode.expression site ∈ reader.modes.tail → site.leading = false

/-- Pending characters that are added as a token. -/
theorem settled_emit {passed stretch : List Char} {kind : TokenKind} {value : String}
    (place : reader.At source (passed ++ stretch))
    (start : reader.pendingStart = Position.after {} passed)
    (tiled : Tiled closed passed reader.tokens)
    (fits : Token.Fits reader.tokens closed closing kind value stretch) :
    (reader.emit kind value reader.pendingStart).Settled source closing := by
  refine ⟨passed ++ stretch, place, ?_⟩
  have span : (⟨reader.pendingStart, reader.position⟩ : Span) = .after passed stretch := by
    rw [start, place.2, Span.after]
  have added := tiled.token fits
  rw [← span] at added
  exact added

/-- Pending text is settled when it becomes a token. -/
theorem Tracks.flushText (tracks : reader.Tracks source)
    (modes : reader.modes = .text parent :: outer) : reader.flushText.Settled source false := by
  obtain ⟨passed, stretch, place, start, tiled, pends⟩ := tracks.stretch
  simp only [Pends, modes] at pends
  obtain ⟨pending, -⟩ := pends
  unfold Reader.flushText
  split
  case isTrue empty =>
    have nothing : stretch = [] := by
      refine eq_nil_of_unescape ?_
      rw [← pending, List.isEmpty_iff.mp empty]
      rfl
    subst nothing
    exact ⟨passed, by rwa [List.append_nil] at place, tiled⟩
  case isFalse nonempty =>
    refine settled_emit place start tiled ?_
    constructor
    case nonempty =>
      rintro rfl
      exact nonempty (by simpa [unescape] using pending)
    case denotes => rw [String.toList_ofList, pending]; rfl
    case solid => exact fun notText => absurd rfl notText
    case follows => simp

/-- Pending code is settled when it becomes a token, or is white space. -/
theorem Tracks.flushPiece (tracks : reader.Tracks source)
    (modes : reader.modes = .expression site :: outer) (closing : Bool) :
    ∃ closed, (reader.flushPiece site closing).Settled source closed ∧
      (closed = true → closing = true) ∧
      ∀ last ∈ (reader.flushPiece site closing).tokens.head?, last.kind = .expression →
        closed = closing := by
  obtain ⟨passed, stretch, place, start, tiled, pends⟩ := tracks.stretch
  simp only [Pends, modes] at pends
  obtain ⟨pending, leading, noCode⟩ := pends
  unfold Reader.flushPiece
  split
  case isTrue empty =>
    -- Nothing is left of the code, so it is the white space that was trimmed.
    obtain ⟨front, back, split, frontBlank, backBlank, -⟩ :=
      site.exists_piece closing reader.pending
    rw [List.isEmpty_iff.mp empty, List.append_nil, pending] at split
    have blank : ∀ character ∈ stretch, isBlank character := by
      rw [split]
      exact List.forall_mem_append.mpr ⟨frontBlank, backBlank⟩
    exact ⟨false, ⟨passed ++ stretch, place, tiled.blanks blank⟩, by simp,
      fun last member isCode => absurd isCode (noCode last member)⟩
  case isFalse nonempty =>
    refine ⟨closing, settled_emit place start tiled ?_, id, fun _ _ _ => rfl⟩
    constructor
    case nonempty =>
      rintro rfl
      refine nonempty ?_
      rw [List.reverse_eq_nil_iff.mp pending]
      simp [Site.piece, trimStart, trimEnd]
    case denotes =>
      rw [String.toList_ofList, Site.piece, pending, ← leading]
      rfl
    case solid => exact fun _ notCode => absurd rfl notCode
    case follows => exact fun last member isCode => absurd isCode (noCode last member)

/-- Nothing is pending among attributes. -/
theorem Tracks.settled {tag : OpenTag} (tracks : reader.Tracks source)
    (modes : reader.modes = .attributes tag :: outer) : reader.Settled source false := by
  obtain ⟨passed, stretch, place, start, tiled, pends⟩ := tracks.stretch
  simp only [Pends, modes] at pends
  subst pends
  exact ⟨passed, by rwa [List.append_nil] at place, tiled⟩

/-- A settled reader can go on in other modes. -/
theorem Settled.enter {modes : List Mode} (settled : reader.Settled source false)
    (goesOn : ∀ site, modes.head? = some (.expression site) → site.GoesOn reader.tokens)
    (suspended : ∀ site, Mode.expression site ∈ modes.tail → site.leading = false) :
    (reader.enter modes).Tracks source := by
  obtain ⟨passed, place, tiled⟩ := settled
  refine ⟨⟨passed, [], ?_, place.2, tiled, ?_⟩, suspended⟩
  · rw [List.append_nil]
    exact place
  · cases modes with
    | nil => rfl
    | cons mode outer =>
        cases mode with
        | text parent => exact ⟨rfl, fun ends => by cases ends⟩
        | attributes tag => rfl
        | expression site => exact ⟨rfl, goesOn site rfl⟩

/-- A settled reader can go back to modes that were suspended, unless it has only
opened an expression or read code of one. -/
theorem Settled.resume {last : Token} {older : List Token}
    (settled : reader.Settled source false) (tokens : reader.tokens = last :: older)
    (notOpening : last.opensSite = false) (notCode : last.kind ≠ .expression)
    (suspended : ∀ site, Mode.expression site ∈ outer → site.leading = false) :
    (reader.enter outer).Tracks source := by
  refine settled.enter (fun site isFirst => ?_)
    (fun site member => suspended site (List.mem_of_mem_tail member))
  refine ⟨?_, ?_⟩
  · rw [suspended site (List.mem_of_mem_head? isFirst), tokens]
    exact notOpening.symm
  · rw [tokens]
    rintro other same
    cases same
    exact notCode

/-- Characters of text are kept without the backslash that makes them literal. -/
theorem Tracks.gatherText {spelling following : List Char} {character : Char}
    (tracks : reader.Tracks source) (modes : reader.modes = .text parent :: outer)
    (front : reader.rest = spelling ++ following) (denotes : unescape spelling = [character])
    (joins : Joins spelling following) :
    (reader.gather character spelling.length).Tracks source := by
  obtain ⟨⟨passed, stretch, place, start, tiled, pends⟩, suspended⟩ := tracks
  have reached := place.pass front
  rw [List.append_assoc] at reached
  refine ⟨⟨passed, stretch ++ spelling, reached, start, tiled, ?_⟩, suspended⟩
  simp only [Pends, modes] at pends
  obtain ⟨pending, joined⟩ := pends
  have nonempty : spelling ≠ [] := by
    rintro rfl
    cases denotes
  rw [front] at joined
  simp only [Pends, modes_gather, modes]
  refine ⟨?_, ?_⟩
  · rw [unescape_append (joined.front nonempty), denotes, ← pending, pending_gather,
      List.reverse_cons]
  · rw [rest_gather, front, List.drop_left]
    exact joins.prepend nonempty

/-- Characters of code are kept as they are. -/
theorem Tracks.gatherCode {changed : Site} {following : List Char} {character : Char}
    (tracks : reader.Tracks source) (modes : reader.modes = .expression site :: outer)
    (front : reader.rest = character :: following) (same : changed.leading = site.leading) :
    Tracks { reader.gather character with modes := .expression changed :: outer } source := by
  obtain ⟨⟨passed, stretch, place, start, tiled, pends⟩, suspended⟩ := tracks
  have reached := place.pass (show reader.rest = [character] ++ following from front)
  rw [List.append_assoc] at reached
  simp only [Pends, modes] at pends
  obtain ⟨pending, leading, noCode⟩ := pends
  rw [modes] at suspended
  refine ⟨⟨passed, stretch ++ [character], reached, start, tiled, ?_, ?_, noCode⟩,
    suspended⟩
  · rw [← pending]
    exact List.reverse_cons
  · exact same.trans leading

/-- The end of an expression is settled behind its last code. -/
theorem Tracks.closeSite {following : List Char} (tracks : reader.Tracks source)
    (modes : reader.modes = .expression site :: outer) (front : reader.rest = '}' :: following) :
    (((reader.flushPiece site true).skip 1).emit .expressionEnd "\x7d" reader.position).Settled
      source false := by
  obtain ⟨closed, settled, -, same⟩ := tracks.flushPiece modes true
  have position : (reader.flushPiece site true).position = reader.position := by
    unfold Reader.flushPiece
    split <;> rfl
  have ahead : (reader.flushPiece site true).rest = ['}'] ++ following := by
    rw [rest_flushPiece]
    exact front
  rw [← position]
  refine settled.token ahead ?_
  constructor
  case nonempty => exact List.cons_ne_nil _ _
  case denotes => rfl
  case solid => exact fun _ _ => .of_ends rfl rfl (by decide) (by decide)
  case follows => exact fun last member isCode => ⟨fun _ => rfl, fun _ => same last member isCode⟩

/-- A tag within an expression is opened behind the code in front of it. -/
theorem Tracks.openEmbedded {tag : OpenTag} (tracks : reader.Tracks source)
    (modes : reader.modes = .expression site :: outer) (opens : opensTag reader.rest)
    (opened : (reader.flushPiece site false).openTag = .ok (tag, next)) :
    next.Settled source false := by
  obtain ⟨closed, settled, closes, -⟩ := tracks.flushPiece modes false
  cases closed with
  | true => cases closes rfl
  | false => exact settled.openTag (by rwa [rest_flushPiece]) opened

/-- Every move keeps track of the source. -/
theorem Moves.tracks (move : reader.Moves next) (tracks : reader.Tracks source) :
    next.Tracks source := by
  have suspended := tracks.suspended
  cases move with
  | @escape parent outer character following modes front escapable =>
      have spelled : reader.rest = ['\\', character] ++ following := front
      refine tracks.gatherText modes spelled (by simp [unescape, escapable]) fun ends => ?_
      cases ends
      exact absurd escapable (by decide)
  | @literal parent outer character following modes front isLiteral =>
      have spelled : reader.rest = [character] ++ following := front
      refine tracks.gatherText modes spelled (by simp [unescape]) fun ends => ?_
      exact isLiteral.notEscape (by simpa using ends)
  | declare modes front declared =>
      rw [modes] at suspended
      have settled := (tracks.flushText modes).readDeclaration (by simpa using front) declared
      exact settled.enter (fun site isFirst => by cases isFirst) suspended
  | @openChildSite parent outer following modes front noDeclaration =>
      rw [modes] at suspended
      have ahead : reader.flushText.rest = "\x7b".toList ++ following := by
        rw [rest_flushText]
        exact front
      have settled : (reader.flushText.openSite .expressionStart "\x7b").2.Settled source false :=
        (tracks.flushText modes).openSite ahead (.of_ends rfl rfl (by decide) (by decide)) (.inl rfl)
      refine settled.enter (fun site isFirst => ?_) (by simpa using suspended)
      cases isFirst
      exact Site.goesOn_of_opensSite rfl (.inl rfl)
  | closeElement modes closes closed =>
      rw [modes] at suspended
      have settled := (tracks.flushText modes).closeTag (by rwa [rest_flushText]) closed
      obtain ⟨tag, -, closing⟩ := closesTag_of_closeTag closed
      obtain ⟨mark, name, stop, tokens, -, -, isEnd, -⟩ := closing.tokens
      exact settled.resume tokens (by simp [Token.opensSite, isEnd]) (by simp [isEnd]) suspended
  | openChild modes opens opened =>
      rw [modes] at suspended
      have settled := (tracks.flushText modes).openTag (by rwa [rest_flushText]) opened
      exact settled.enter (fun site isFirst => by cases isFirst) (by simpa using suspended)
  | selfClose modes front =>
      rw [modes] at suspended
      have settled : Settled { (reader.skipBlank.skip 2).emit .tagSelfClose "/>"
          reader.skipBlank.position with openElements := reader.skipBlank.openElements - 1 }
          source false :=
        (tracks.settled modes).skipBlank.mark .tagSelfClose "/>" front
          (.of_ends rfl rfl (by decide) (by decide)) (fun _ => rfl) (by decide)
      exact settled.resume rfl rfl (fun isCode => by cases isCode) suspended
  | endTag modes front =>
      rw [modes] at suspended
      have settled := (tracks.settled modes).skipBlank.mark .tagEnd ">" front
        (.of_ends rfl rfl (by decide) (by decide)) (fun _ => rfl) (by decide)
      exact settled.enter (fun site isFirst => by cases isFirst) suspended
  | openSpread modes front =>
      rw [modes] at suspended
      have settled : (reader.skipBlank.openSite .spreadStart "\x7b...").2.Settled source false :=
        (tracks.settled modes).skipBlank.openSite front
          (.of_ends rfl rfl (by decide) (by decide)) (.inr rfl)
      refine settled.enter (fun site isFirst => ?_) (by simpa using suspended)
      cases isFirst
      exact Site.goesOn_of_opensSite rfl (.inr rfl)
  | @nameAttribute tag outer character following next site modes front starts read =>
      rw [modes] at suspended
      have settled := (tracks.settled modes).skipBlank.readAttribute front starts read
      have reads := (readsAttribute_of_readAttribute front starts read).2
      cases site with
      | none => exact settled.enter (fun site isFirst => by cases isFirst) suspended
      | some site =>
          obtain ⟨fresh, name, equals, start, tokens, -, -, isStart, -⟩ := reads
          refine settled.enter (fun other isFirst => ?_) (by simpa using suspended)
          cases isFirst
          rw [tokens]
          exact Site.goesOn_of_opensSite fresh.leading (.inl isStart)
  | @quoteEscape site outer mark character following modes quoted front =>
      have escape : Tracks { reader.gather '\\' with modes := .expression site :: outer } source :=
        tracks.gatherCode modes front rfl
      have ahead : (reader.gather '\\').rest = character :: following := by simp [front]
      exact escape.gatherCode rfl ahead rfl
  | quoteCharacter modes quoted front noEscape => exact tracks.gatherCode modes front rfl
  | openBrace modes unquoted front => exact tracks.gatherCode modes front rfl
  | closeBrace modes unquoted front deep => exact tracks.gatherCode modes front rfl
  | closeSite modes unquoted front last =>
      rw [modes] at suspended
      exact (tracks.closeSite modes front).resume rfl rfl (fun isCode => by cases isCode) suspended
  | @openEmbedded site outer tag next modes unquoted opens starts opened =>
      rw [modes] at suspended
      refine (tracks.openEmbedded modes opens opened).enter (fun site isFirst => by cases isFirst) ?_
      rintro other member
      rcases List.mem_cons.mp member with same | deeper
      · cases same
        rfl
      · exact suspended other deeper
  | code modes unquoted front notOpening notClosing noMarkup =>
      exact tracks.gatherCode modes front rfl

/-! ### Whole readings -/

/-- What every move keeps holds in the last state that reading reaches, which is
the one where it ends or meets a fault. -/
theorem exists_last {holds : Reader → Prop}
    (kept : ∀ {reader next : Reader}, reader.Moves next → holds reader → holds next)
    (starts : holds reader) :
    ∃ last, holds last ∧
      ((∃ fault, last.step = .error fault ∧ reader.run.fault = some fault) ∨
        (last.step = .ok (.done reader.run.reader) ∧ reader.run.fault = none)) := by
  fun_induction run reader with
  | case1 reader fault stepped => exact ⟨reader, starts, .inl ⟨fault, stepped, rfl⟩⟩
  | case2 reader final stepped => exact ⟨reader, starts, .inr ⟨stepped, rfl⟩⟩
  | case3 reader next stepped inductionHypothesis =>
      exact inductionHypothesis (kept (step_eq_more_iff.mp stepped) starts)

/-- At the start of a source nothing has been passed. -/
theorem tracks_start (source : String) : (Reader.start source).Tracks source.toList :=
  ⟨⟨[], [], ⟨rfl, rfl⟩, rfl, .start, rfl, fun ends => by cases ends⟩,
    fun site member => by cases member⟩

/-- Where reading ends, the tokens tile the source. -/
theorem Tracks.of_done {final : Reader} (tracks : reader.Tracks source) (coherent : reader.Coherent)
    (stepped : reader.step = .ok (.done final)) :
    final.position = Position.after {} source ∧ Tiled false source final.tokens := by
  cases modes : reader.modes with
  | nil => cases coherent <;> simp_all
  | cons mode outer =>
      obtain ⟨rfl, ended, rfl⟩ := (step_eq_done_iff modes).mp stepped
      obtain ⟨passed, ⟨whole, position⟩, tiled⟩ := tracks.flushText modes
      rw [rest_flushText, ended, List.append_nil] at whole
      subst whole
      exact ⟨position, tiled⟩

/-- Whether a state is in order, and its tokens and pending characters are all that
has been read of a source. -/
structure InOrder (reader : Reader) (source : List Char) : Prop where
  balanced : reader.Balanced
  coherent : reader.Coherent
  tracks : reader.Tracks source

/-- Every move keeps a state in order. -/
theorem Moves.inOrder (move : reader.Moves next) (inOrder : reader.InOrder source) :
    next.InOrder source :=
  ⟨move.balanced inOrder.balanced, move.coherent inOrder.balanced inOrder.coherent,
    move.tracks inOrder.tracks⟩

/-- At the start of a source everything is in order. -/
theorem inOrder_start (source : String) : (Reader.start source).InOrder source.toList :=
  ⟨balanced_start source, coherent_start source, tracks_start source⟩

/-- A source that is read to its end is tiled by what was read. -/
theorem tiled_of_run {source : String} (faultless : (Reader.start source).run.fault = none) :
    (Reader.start source).run.reader.position = Position.after {} source.toList ∧
      Tiled false source.toList (Reader.start source).run.reader.tokens := by
  obtain ⟨last, inOrder, ⟨fault, -, faulty⟩ | ⟨stepped, -⟩⟩ :=
    @exists_last (Reader.start source) (·.InOrder source.toList) Moves.inOrder
      (inOrder_start source)
  · cases faultless.symm.trans faulty
  · exact inOrder.tracks.of_done inOrder.coherent stepped

end Reader

/-- The tokens of a source are those that tile it, closed by the end of input. -/
theorem Token.exists_tiled_of_read {source : String} {tokens : List Token}
    (reads : Token.read source = .ok tokens) :
    ∃ content, Tiled false source.toList content ∧
      tokens = content.reverse ++ [⟨.eof, "", .point (Position.after {} source.toList)⟩] := by
  unfold Token.read at reads
  simp only [] at reads
  split at reads
  · cases reads
  rename_i faultless
  cases reads
  obtain ⟨position, tiled⟩ := Reader.tiled_of_run faultless
  refine ⟨_, tiled, ?_⟩
  rw [Reader.Ending.tokens, List.reverse_cons, position]

/-- The tokens of a source tile it. -/
theorem Token.isTiling_of_read {source : String} {tokens : List Token}
    (reads : Token.read source = .ok tokens) : IsTiling source tokens := by
  obtain ⟨content, tiled, rfl⟩ := Token.exists_tiled_of_read reads
  exact tiled.isTiling

/-- A source with white space around and within tags and expressions, an escape, a
backslash that escapes nothing, and an element within an expression. -/
theorem Token.isTiling_of_read_mixed :
    ∃ tokens,
      Token.read "\\\x7bé\\ <p t = \x7b x, <b/> \x7d\n u='v' >\x7b% n %\x7d\x7b \x7d</p >" =
        .ok tokens ∧
      IsTiling "\\\x7bé\\ <p t = \x7b x, <b/> \x7d\n u='v' >\x7b% n %\x7d\x7b \x7d</p >" tokens := by
  have succeeds : (Token.read
      "\\\x7bé\\ <p t = \x7b x, <b/> \x7d\n u='v' >\x7b% n %\x7d\x7b \x7d</p >").isOk = true := by
    decide +kernel
  obtain ⟨tokens, reads⟩ := exists_of_isOk succeeds
  exact ⟨tokens, reads, Token.isTiling_of_read reads⟩

end MarkupTemplate
