import MarkupTemplate.Proofs.Reader.Continuation
import MarkupTemplate.Proofs.Source.Spacing

/-!
# Constructs in two texts

Two readers are near each other if they have added the same tokens, up to places, and
what they have left to read differs in white space where no token is. A construct that
one of them reads is read by the other as well, and they are near each other behind it:
the characters within a token are the same in both texts, and white space between the
tokens of a tag is passed whatever it is.
-/

namespace MarkupTemplate

open Spelling Text

/-- A token without its place. -/
def Token.unplaced (token : Token) : Token := { token with span := {} }

/-- An open tag without its place. -/
def OpenTag.unplaced (tag : OpenTag) : OpenTag := { tag with span := {} }

theorem OpenTag.name_of_unplaced {tag other : OpenTag} (same : other.unplaced = tag.unplaced) :
    other.name = tag.name := by
  have names : other.unplaced.name = tag.unplaced.name := by rw [same]
  exact names

/-- An embedded expression without its place. -/
def Site.unplaced (site : Site) : Site := { site with opening := {} }

theorem Site.eq_of_unplaced {site other : Site} (same : other.unplaced = site.unplaced) :
    other = { site with opening := other.opening } := by
  cases site
  cases other
  simpa [unplaced] using same

namespace Reader

/-- Whether two readers have read the same and have the same left to read, up to places
and to white space where no token is. -/
structure Near (final : List Token) (reader other : Reader) : Prop where
  tokens : other.tokens.map Token.unplaced = reader.tokens.map Token.unplaced
  openElements : other.openElements = reader.openElements
  rest : Spaced final reader.position reader.rest other.rest

variable {final : List Token} {reader other next : Reader} {parent : Option OpenTag}
  {site : Site}

/-! ### Constructs -/

namespace Near

/-- A token that both readers add. -/
theorem emitAt (near : Near final reader other) (kind : TokenKind) (value : String)
    (span otherSpan : Span) :
    Near final (reader.emitAt kind value span) (other.emitAt kind value otherSpan) where
  tokens := by simp [Reader.emitAt, Token.unplaced, near.tokens]
  openElements := near.openElements
  rest := near.rest

theorem emit (near : Near final reader other) (kind : TokenKind) (value : String)
    (origin otherOrigin : Position) :
    Near final (reader.emit kind value origin) (other.emit kind value otherOrigin) :=
  near.emitAt kind value _ _

theorem withLevel (near : Near final reader other) {level otherLevel : Nat}
    (same : otherLevel = level) :
    Near final { reader with openElements := level }
      { other with openElements := otherLevel } :=
  ⟨near.tokens, same, near.rest⟩

/-- Characters that both readers pass. -/
theorem pass {passed following behind : List Char} (near : Near final reader other)
    (front : reader.rest = passed ++ following) (otherFront : other.rest = passed ++ behind)
    (further : Spaced final (reader.position.after passed) following behind) :
    Near final (reader.skip passed.length) (other.skip passed.length) where
  tokens := near.tokens
  openElements := near.openElements
  rest := by simpa [skip, front, otherFront] using further

/-- Characters that are not white space are passed by both readers. -/
theorem pass_solid {following : List Char} (near : Near final reader other) (passed : List Char)
    (front : reader.rest = passed ++ following) (solid : passed.all (!isBlank ·)) :
    Near final (reader.skip passed.length) (other.skip passed.length) ∧
      ∃ behind, other.rest = passed ++ behind ∧
        Spaced final (reader.position.after passed) following behind := by
  have spaced := near.rest
  rw [front] at spaced
  obtain ⟨behind, otherFront, further⟩ := spaced.append_solid (by simpa using solid)
  exact ⟨near.pass front otherFront further, behind, otherFront, further⟩

/-- A character that is not white space is passed by both readers. -/
theorem skip_one {character : Char} {following : List Char} (near : Near final reader other)
    (front : reader.rest = character :: following) (solid : isBlank character = false) :
    Near final (reader.skip 1) (other.skip 1) ∧ ∃ behind, other.rest = character :: behind ∧
      Spaced final (reader.position.advance character) following behind :=
  near.pass_solid [character] front (by simp [solid])

/-- White space is passed by both readers. -/
theorem skipBlank (near : Near final reader other) :
    Near final reader.skipBlank other.skipBlank where
  tokens := near.tokens
  openElements := near.openElements
  rest := by
    rw [rest_skipBlank, rest_skipBlank, Reader.skipBlank, position_skipWhile]
    exact near.rest.dropWhile_isBlank

/-- The characters of a name are passed by both readers. -/
theorem skipWhile (near : Near final reader other) {accepts : Char → Bool}
    (rejects : ∀ character, isBlank character → accepts character = false) :
    Near final (reader.skipWhile accepts) (other.skipWhile accepts) ∧
      other.rest.takeWhile accepts = reader.rest.takeWhile accepts := by
  obtain ⟨same, further⟩ := near.rest.takeWhile_eq rejects
  refine ⟨⟨near.tokens, near.openElements, ?_⟩, same⟩
  rw [position_skipWhile, Reader.skipWhile, Reader.skipWhile, rest_skip, rest_skip,
    drop_length_takeWhile, drop_length_takeWhile]
  exact further

theorem flushText (near : Near final reader other) (pending : other.pending = reader.pending) :
    Near final reader.flushText other.flushText := by
  unfold Reader.flushText
  rw [pending]
  split
  · exact near
  · exact near.emit _ _ _ _

theorem flushPiece {otherSite : Site} {closing : Bool} (near : Near final reader other)
    (same : otherSite.piece closing other.pending = site.piece closing reader.pending) :
    Near final (reader.flushPiece site closing) (other.flushPiece otherSite closing) := by
  unfold Reader.flushPiece
  rw [same]
  split
  · exact near
  · exact near.emit _ _ _ _

/-- The delimiter of an expression is read by both readers. -/
theorem openSite {following : List Char} (near : Near final reader other) (kind : TokenKind)
    (delimiter : String) (front : reader.rest = delimiter.toList ++ following)
    (solid : delimiter.toList.all (!isBlank ·)) :
    Near final (reader.openSite kind delimiter).2 (other.openSite kind delimiter).2 := by
  have passed := (near.pass_solid delimiter.toList front solid).1
  rw [String.length_toList] at passed
  exact passed.emit _ _ _ _

/-- A tag that one reader opens is opened by the other. -/
theorem openTag {tag : OpenTag} (near : Near final reader other) (opens : opensTag reader.rest)
    (opened : reader.openTag = .ok (tag, next)) :
    ∃ span otherNext, other.openTag = .ok (⟨tag.name, span⟩, otherNext) ∧
      Near final next otherNext := by
  obtain ⟨letter, following, front, -⟩ := exists_of_opensTag opens
  have marked := (near.skip_one front (by decide)).1.emit .tagOpen "<" reader.position
    other.position
  obtain ⟨named, name⟩ := marked.skipWhile isTagNameChar_of_isBlank
  have opening := opensTag_of_openTag opened
  have compound : isCompoundName ((reader.rest.drop 1).takeWhile isTagNameChar) :=
    opening.name ▸ opening.compound
  have sameName : (other.rest.drop 1).takeWhile isTagNameChar =
      (reader.rest.drop 1).takeWhile isTagNameChar := name
  rw [openTag_eq compound opening.shallow] at opened
  cases opened
  rw [openTag_eq (by rwa [sameName]) (by rw [near.openElements]; exact opening.shallow), sameName]
  exact ⟨_, _, rfl, (named.emit _ _ _ _).withLevel (by rw [near.openElements])⟩

end Near

/-- A declaration is cut alike whatever follows it. -/
theorem cutDeclaration_behind {body following : List Char}
    (cut : cutDeclaration [] none (body ++ '%' :: '}' :: following) = some (body, following))
    (behind : List Char) :
    cutDeclaration [] none (body ++ '%' :: '}' :: behind) = some (body, behind) := by
  have proper : (Quoting.ofQuote none).IsProper := by
    simp [Quoting.IsProper, Quoting.ofQuote, Quoting.mark?]
  obtain ⟨code, -, same, outside, unclosed⟩ := Code.of_cutDeclaration proper cut
  obtain rfl : body = code := same
  exact Code.cutDeclaration_of_unclosed proper outside unclosed

namespace Near

/-- Characters that a token covers are passed by both readers when it is added. -/
theorem emit_covered {passed following : List Char} {kind : TokenKind} {value : String}
    (near : Near final reader other) (front : reader.rest = passed ++ following)
    (known : ((reader.skip passed.length).emit kind value reader.position).tokens ⊆ final) :
    Near final ((reader.skip passed.length).emit kind value reader.position)
        ((other.skip passed.length).emit kind value other.position) ∧
      ∃ behind, other.rest = passed ++ behind := by
  have spaced := near.rest
  rw [front] at spaced
  have reached : (reader.skip passed.length).position = reader.position.after passed := by
    simp [skip, front]
  obtain ⟨behind, otherFront, further⟩ :=
    spaced.append_covered (known List.mem_cons_self) (le_refl _) (by rw [reached])
  exact ⟨(near.pass front otherFront further).emit _ _ _ _, behind, otherFront⟩

/-- A tag that one reader closes is closed by the other. -/
theorem closeTag {otherParent : Option OpenTag} (near : Near final reader other)
    (same : otherParent.map OpenTag.unplaced = parent.map OpenTag.unplaced)
    (closes : closesTag reader.rest) (closed : reader.closeTag parent = .ok next) :
    ∃ otherNext, other.closeTag otherParent = .ok otherNext ∧ Near final next otherNext := by
  obtain ⟨letter, following, front, -⟩ := exists_of_closesTag closes
  obtain ⟨tag, behind, rfl, ends, name⟩ := exists_of_closeTag closed
  obtain ⟨otherTag, rfl, sameTag⟩ := Option.map_eq_some_iff.mp same
  have marked := (near.pass_solid ['<', '/'] front (by decide)).1
  obtain ⟨named, sameName⟩ := marked.skipWhile isTagNameChar_of_isBlank
  obtain ⟨ended, otherEnd, otherEnds, -⟩ := named.skipBlank.skip_one ends (by decide)
  have nameEq := OpenTag.name_of_unplaced sameTag
  rw [closeTag_eq ends name] at closed
  cases closed
  refine ⟨_, closeTag_eq otherEnds ?_, ?_⟩
  · rw [nameEq, name]
    exact congrArg String.ofList sameName.symm
  · rw [nameEq]
    exact (((ended.emitAt _ _ _ _).emitAt _ _ _ _).emit _ _ _ _).withLevel
      (by rw [near.openElements])

/-- A declaration that one reader reads is read by the other. -/
theorem readDeclaration {following : List Char} (near : Near final reader other)
    (front : reader.rest = '{' :: '%' :: following)
    (declared : reader.readDeclaration = .ok next) (known : next.tokens ⊆ final) :
    ∃ otherNext, other.readDeclaration = .ok otherNext ∧ Near final next otherNext := by
  obtain ⟨body, behind, cut⟩ := exists_of_readDeclaration declared
  have split := (Code.isDeclaration_of_cut cut).1
  have enclosed : reader.rest = '{' :: '%' :: (body ++ ['%', '}']) ++ behind := by
    rw [front, List.drop_succ_cons, List.drop_succ_cons, List.drop_zero] at split
    simp [front, split]
  have length : body.length + 4 = ('{' :: '%' :: (body ++ ['%', '}'])).length := by simp
  rw [readDeclaration_eq cut, length] at declared
  cases declared
  obtain ⟨passed, otherBehind, otherFront⟩ := near.emit_covered enclosed known
  rw [split] at cut
  have otherCut := cutDeclaration_behind cut otherBehind
  have otherSplit : other.rest.drop 2 = body ++ '%' :: '}' :: otherBehind := by
    simp [otherFront]
  rw [← otherSplit] at otherCut
  refine ⟨_, readDeclaration_eq otherCut, ?_⟩
  rw [length]
  exact passed

/-- A quoted value that one reader reads is read by the other. -/
theorem readString {quote : Char} {following : List Char} (near : Near final reader other)
    (front : reader.rest = quote :: following) (read : reader.readString quote = .ok next)
    (known : next.tokens ⊆ final) :
    ∃ otherNext, other.readString quote = .ok otherNext ∧ Near final next otherNext := by
  obtain ⟨value, behind, lacks, whole⟩ := exists_of_readString front read
  have enclosed : reader.rest = quote :: (value ++ [quote]) ++ behind := by simp [whole]
  have length : value.length + 2 = (quote :: (value ++ [quote])).length := by simp
  rw [readString_eq lacks whole, length] at read
  cases read
  obtain ⟨passed, otherBehind, otherFront⟩ := near.emit_covered enclosed known
  have otherWhole : other.rest = quote :: (value ++ quote :: otherBehind) := by
    simp [otherFront]
  refine ⟨_, readString_eq lacks otherWhole, ?_⟩
  rw [length]
  exact passed

/-- The value of an attribute that one reader reads is read by the other. -/
theorem readValue {name : String} {origin otherOrigin : Position} {site : Option Site}
    (near : Near final reader other) (read : reader.readValue name origin = .ok (site, next))
    (known : next.tokens ⊆ final) :
    ∃ otherSite otherNext, other.readValue name otherOrigin = .ok (otherSite, otherNext) ∧
      otherSite.map Site.unplaced = site.map Site.unplaced ∧ Near final next otherNext := by
  have quoted {quote : Char} {following : List Char} (front : reader.rest = quote :: following)
      (read : (reader.readString quote).map (fun next => (none, next)) = .ok (site, next)) :
      ∃ otherNext, other.readString quote = .ok otherNext ∧ site = none ∧
        Near final next otherNext := by
    cases result : reader.readString quote with
    | error fault => simp [result, Except.map] at read
    | ok found =>
        simp only [result, Except.map, Except.ok.injEq, Prod.mk.injEq] at read
        obtain ⟨rfl, rfl⟩ := read
        obtain ⟨otherNext, otherRead, nearNext⟩ := near.readString front result known
        exact ⟨otherNext, otherRead, rfl, nearNext⟩
  unfold Reader.readValue at read
  split at read
  next following front =>
    obtain ⟨otherNext, otherRead, rfl, nearNext⟩ := quoted front read
    obtain ⟨-, behind, otherFront, -⟩ := near.skip_one front (by decide)
    exact ⟨none, otherNext, by simp [Reader.readValue, otherFront, otherRead, Except.map], rfl,
      nearNext⟩
  next following front =>
    obtain ⟨otherNext, otherRead, rfl, nearNext⟩ := quoted front read
    obtain ⟨-, behind, otherFront, -⟩ := near.skip_one front (by decide)
    exact ⟨none, otherNext, by simp [Reader.readValue, otherFront, otherRead, Except.map], rfl,
      nearNext⟩
  next following front =>
    cases read
    obtain ⟨-, behind, otherFront, -⟩ := near.skip_one front (by decide)
    refine ⟨some (other.openSite .expressionStart "\x7b").1,
      (other.openSite .expressionStart "\x7b").2, ?_, rfl, ?_⟩
    · simp only [Reader.readValue, otherFront]
    · exact near.openSite .expressionStart "\x7b" front (by decide)
  next => cases read

/-- An attribute that one reader reads is read by the other. -/
theorem readAttribute {site : Option Site} (near : Near final reader other)
    (read : reader.readAttribute = .ok (site, next)) (known : next.tokens ⊆ final) :
    ∃ otherSite otherNext, other.readAttribute = .ok (otherSite, otherNext) ∧
      otherSite.map Site.unplaced = site.map Site.unplaced ∧ Near final next otherNext := by
  obtain ⟨passed, name⟩ := near.skipWhile isAttrNameChar_of_isBlank
  have named := (passed.emit .attrName
    (String.ofList (reader.rest.takeWhile isAttrNameChar)) reader.position
    other.position).skipBlank
  unfold Reader.readAttribute at read ⊢
  unfold Reader.skipWhile at named
  simp only [name] at read named ⊢
  split at read
  next following front =>
    obtain ⟨marked, behind, otherFront, -⟩ := named.skip_one front (by decide)
    simp only [otherFront]
    exact (marked.emit .attrEquals "=" _ _).skipBlank.readValue read known
  next noEquals =>
    cases read
    split
    next behind otherFront =>
      have spaced := named.rest
      rw [otherFront] at spaced
      obtain ⟨following, front⟩ := spaced.exists_front (by decide)
      exact (noEquals following front).elim
    next => exact ⟨none, _, rfl, rfl, named⟩

end Near

end Reader
end MarkupTemplate
