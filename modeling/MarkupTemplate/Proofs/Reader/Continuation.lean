import MarkupTemplate.Proofs.Reader.Failures

/-!
# A source that goes on

What a reader does depends on the characters in front of it only as far as it
looks. So a move is still one when more characters follow the source, with two
exceptions. A name or white space that reaches the end of the source might reach
further, which happens within a tag only and is a fault there. And the last
characters of a text might become part of a construct, such as a `<` in front of a
letter.
-/

namespace MarkupTemplate.Reader

open Spelling Text

/-- The reader with more characters behind the source. -/
def followedBy (reader : Reader) (behind : List Char) : Reader :=
  { reader with rest := reader.rest ++ behind }

variable {reader next : Reader} {behind : List Char} {fault : Fault}

/-! ### Looking ahead -/

/-- Characters that a predicate stops at are cut off alike when more of them follow. -/
theorem takeWhile_append_of_stop {accepts : Char → Bool} {characters : List Char}
    (stops : characters.dropWhile accepts ≠ []) (behind : List Char) :
    (characters ++ behind).takeWhile accepts = characters.takeWhile accepts := by
  induction characters with
  | nil => exact absurd rfl stops
  | cons character characters inductionHypothesis =>
      by_cases accepted : accepts character
      · rw [List.dropWhile_cons_of_pos accepted] at stops
        rw [List.cons_append, List.takeWhile_cons_of_pos accepted,
          List.takeWhile_cons_of_pos accepted, inductionHypothesis stops]
      · rw [List.cons_append, List.takeWhile_cons_of_neg accepted,
          List.takeWhile_cons_of_neg accepted]

/-- A declaration ends at the same place when more characters follow. -/
theorem cutDeclaration_append {passed source body rest : List Char} {quote : Option Char}
    (cut : cutDeclaration passed quote source = some (body, rest)) (behind : List Char) :
    cutDeclaration passed quote (source ++ behind) = some (body, rest ++ behind) := by
  fun_induction cutDeclaration passed quote source with
  | case1 => cases cut
  | case2 passed escaped rest mark inductionHypothesis =>
      rw [List.cons_append, List.cons_append, cutDeclaration]
      exact inductionHypothesis cut
  | case3 passed escaped rest inductionHypothesis =>
      rw [List.cons_append, List.cons_append, cutDeclaration]
      exact inductionHypothesis cut
  | case4 passed rest mark inductionHypothesis =>
      rw [List.cons_append, List.cons_append, cutDeclaration]
      exact inductionHypothesis cut
  | case5 passed rest =>
      cases cut
      rw [List.cons_append, List.cons_append, cutDeclaration]
  | case6 passed quote character rest notEscape notEnd inductionHypothesis =>
      cases rest with
      | nil => simp [cutDeclaration] at cut
      | cons second rest =>
          rw [List.cons_append, List.cons_append, cutDeclaration]
          · exact inductionHypothesis cut
          · rintro escaped more rfl same
            cases same
            exact notEscape _ _ rfl rfl
          · rintro more rfl same
            cases same
            exact notEnd _ rfl rfl

/-- A tag is opened by a `<` and a letter. -/
theorem opensTag_cons_cons (first second : Char) (rest : List Char) :
    opensTag (first :: second :: rest) = (first == '<' && second.isAlpha) := by
  unfold opensTag
  split
  next front =>
    cases front
    rfl
  next other =>
    by_cases mark : first = '<'
    · exact absurd (by rw [mark]) (other second rest)
    · simp [mark]

/-- A tag is closed by a `<`, a `/` and a letter. -/
theorem closesTag_slash (first third : Char) (rest : List Char) :
    closesTag (first :: '/' :: third :: rest) = (first == '<' && third.isAlpha) := by
  unfold closesTag
  split
  next front =>
    cases front
    rfl
  next other =>
    by_cases mark : first = '<'
    · exact absurd (by rw [mark]) (other third rest)
    · simp [mark]

/-- Without a `/` as the second character, no tag is closed. -/
theorem closesTag_of_ne {second : Char} (noSlash : second ≠ '/') {first : Char}
    (rest : List Char) : closesTag (first :: second :: rest) = false := by
  unfold closesTag
  split
  next front =>
    cases front
    exact absurd rfl noSlash
  next => rfl

/-- Whether a tag is opened shows in two characters. -/
theorem opensTag_append {characters : List Char} (long : 2 ≤ characters.length)
    (behind : List Char) : opensTag (characters ++ behind) = opensTag characters := by
  match characters, long with
  | first :: second :: rest, _ =>
      rw [List.cons_append, List.cons_append, opensTag_cons_cons, opensTag_cons_cons]

/-- A tag that is opened is also opened in front of more characters. -/
theorem opensTag_append_of_opens {characters : List Char} (opens : opensTag characters)
    (behind : List Char) : opensTag (characters ++ behind) := by
  unfold opensTag at opens
  split at opens
  · exact opens
  · cases opens

/-- A tag that is closed is also closed in front of more characters. -/
theorem closesTag_append {characters : List Char} (closes : closesTag characters)
    (behind : List Char) : closesTag (characters ++ behind) := by
  unfold closesTag at closes
  split at closes
  · exact closes
  · cases closes

/-! ### Constructs -/

@[simp] theorem rest_followedBy (reader : Reader) (behind : List Char) :
    (reader.followedBy behind).rest = reader.rest ++ behind := rfl

theorem skip_followedBy {count : Nat} (within : count ≤ reader.rest.length) (behind : List Char) :
    (reader.followedBy behind).skip count = (reader.skip count).followedBy behind := by
  simp [skip, followedBy, List.drop_append_of_le_length within,
    List.take_append_of_le_length within]

/-- A character in front is passed alike. -/
theorem skip_one_followedBy {character : Char} {following : List Char}
    (front : reader.rest = character :: following) (behind : List Char) :
    (reader.followedBy behind).skip 1 = (reader.skip 1).followedBy behind :=
  skip_followedBy (by simp [front]) behind

/-- Characters in front are passed alike if they do not reach the end. -/
theorem skipWhile_followedBy {accepts : Char → Bool}
    (stops : reader.rest.dropWhile accepts ≠ []) (behind : List Char) :
    (reader.followedBy behind).skipWhile accepts =
      (reader.skipWhile accepts).followedBy behind := by
  unfold skipWhile
  rw [rest_followedBy, takeWhile_append_of_stop stops]
  exact skip_followedBy (List.takeWhile_sublist _).length_le behind

theorem skipBlank_followedBy (stops : reader.skipBlank.rest ≠ []) (behind : List Char) :
    (reader.followedBy behind).skipBlank = reader.skipBlank.followedBy behind :=
  skipWhile_followedBy (by rwa [rest_skipBlank] at stops) behind

theorem gather_followedBy {count : Nat} (within : count ≤ reader.rest.length)
    (behind : List Char) (character : Char) :
    (reader.followedBy behind).gather character count =
      (reader.gather character count).followedBy behind := by
  unfold gather
  rw [skip_followedBy within]
  rfl

@[simp] theorem position_followedBy (reader : Reader) (behind : List Char) :
    (reader.followedBy behind).position = reader.position := rfl

@[simp] theorem openElements_followedBy (reader : Reader) (behind : List Char) :
    (reader.followedBy behind).openElements = reader.openElements := rfl

@[simp] theorem pending_followedBy (reader : Reader) (behind : List Char) :
    (reader.followedBy behind).pending = reader.pending := rfl

theorem emit_followedBy (reader : Reader) (behind : List Char) (kind : TokenKind)
    (value : String) (origin : Position) :
    (reader.followedBy behind).emit kind value origin =
      (reader.emit kind value origin).followedBy behind := rfl

theorem enter_followedBy (reader : Reader) (behind : List Char) (modes : List Mode) :
    (reader.followedBy behind).enter modes = (reader.enter modes).followedBy behind := rfl

theorem flushText_followedBy (reader : Reader) (behind : List Char) :
    (reader.followedBy behind).flushText = reader.flushText.followedBy behind := by
  unfold flushText
  by_cases empty : reader.pending.isEmpty
  · rw [pending_followedBy, if_pos empty, if_pos empty]
  · rw [pending_followedBy, if_neg empty, if_neg empty]
    rfl

theorem flushPiece_followedBy (reader : Reader) (site : Site) (closing : Bool)
    (behind : List Char) :
    (reader.followedBy behind).flushPiece site closing =
      (reader.flushPiece site closing).followedBy behind := by
  unfold flushPiece
  by_cases empty : (site.piece closing reader.pending).isEmpty
  · rw [pending_followedBy, if_pos empty, if_pos empty]
  · rw [pending_followedBy, if_neg empty, if_neg empty]
    rfl

/-- The delimiter of an expression is read alike. -/
theorem openSite_followedBy {delimiter : String} (within : delimiter.length ≤ reader.rest.length)
    (kind : TokenKind) (behind : List Char) :
    (reader.followedBy behind).openSite kind delimiter =
      ((reader.openSite kind delimiter).1,
        (reader.openSite kind delimiter).2.followedBy behind) := by
  unfold openSite
  rw [skip_followedBy within]
  rfl

/-- Where characters are left behind a cut, it lies within the source. -/
theorem le_length_of_drop {count : Nat} {characters : List Char}
    (left : characters.drop count ≠ []) : count ≤ characters.length := by
  rw [Ne, List.drop_eq_nil_iff] at left
  omega

/-- Where a predicate stops, there are characters. -/
theorem ne_nil_of_dropWhile {accepts : Char → Bool} {characters : List Char}
    (stops : characters.dropWhile accepts ≠ []) : characters ≠ [] := by
  rintro rfl
  exact stops rfl

/-- How `<name` is read where its name is fine and elements do not lie too deep. -/
theorem openTag_eq (compound : isCompoundName ((reader.rest.drop 1).takeWhile isTagNameChar))
    (shallow : reader.openElements < maxNesting) :
    reader.openTag =
      let marked := (reader.skip 1).emit .tagOpen "<" reader.position
      let named := marked.skipWhile isTagNameChar
      let name := String.ofList ((reader.rest.drop 1).takeWhile isTagNameChar)
      .ok (⟨name, ⟨reader.position, named.position⟩⟩,
        { named.emit .tagName name marked.position with
          openElements := reader.openElements + 1 }) := by
  have notTooDeep : ¬ maxNesting ≤ reader.openElements := Nat.not_le.mpr shallow
  unfold openTag
  simp only []
  rw [if_neg (by simpa using compound), if_neg notTooDeep]
  rfl

/-- A tag is opened alike, or fails alike, if its name does not reach the end. -/
theorem openTag_followedBy (stops : (reader.rest.drop 1).dropWhile isTagNameChar ≠ [])
    (behind : List Char) :
    (reader.followedBy behind).openTag =
      reader.openTag.map fun opened => (opened.1, opened.2.followedBy behind) := by
  have within := le_length_of_drop (ne_nil_of_dropWhile stops)
  have name := takeWhile_append_of_stop stops behind
  have named := @skipWhile_followedBy
    ((reader.skip 1).emit .tagOpen "<" reader.position) _ stops behind
  simp only [skipWhile, rest_followedBy, rest_emit, rest_skip, name] at named
  unfold openTag
  simp only [skip_followedBy within, position_followedBy, emit_followedBy, rest_followedBy,
    rest_emit, rest_skip, name, named, openElements_followedBy]
  by_cases compound : isCompoundName ((reader.rest.drop 1).takeWhile isTagNameChar)
  · simp only [compound, Bool.not_true, Bool.false_eq_true, if_false]
    by_cases full : maxNesting ≤ reader.openElements
    · simp only [full, if_true]
      rfl
    · simp only [full, if_false]
      rfl
  · simp only [compound, Bool.not_false, if_true]
    rfl

/-- A tag is closed alike, or fails alike, if it does not break off. -/
theorem closeTag_followedBy
    (goesOn : ((reader.skip 2).skipWhile isTagNameChar).skipBlank.rest ≠ [])
    (parent : Option OpenTag) (behind : List Char) :
    (reader.followedBy behind).closeTag parent =
      (reader.closeTag parent).map (·.followedBy behind) := by
  have stops : (reader.skip 2).rest.dropWhile isTagNameChar ≠ [] := by
    rw [rest_skipBlank] at goesOn
    have left := ne_nil_of_dropWhile goesOn
    rwa [skipWhile, rest_skip, drop_length_takeWhile] at left
  have marked := skip_followedBy (le_length_of_drop (ne_nil_of_dropWhile stops)) behind
  have name := takeWhile_append_of_stop stops behind
  have named := skipWhile_followedBy stops behind
  have ending := skipBlank_followedBy goesOn behind
  unfold skipWhile at named ending
  rw [rest_followedBy, name] at named
  obtain ⟨first, following, front⟩ := List.exists_cons_of_ne_nil goesOn
  unfold skipWhile at front
  unfold closeTag
  simp only [marked, rest_followedBy, name, named, ending, front, List.cons_append,
    skip_one_followedBy front]
  by_cases bracket : first = '>'
  · subst bracket
    cases parent with
    | none => rfl
    | some tag =>
        by_cases same : tag.name = String.ofList ((reader.skip 2).rest.takeWhile isTagNameChar)
        · simp only [same, if_true]
          rfl
        · simp only [same, if_false]
          rfl
  · split
    next isBracket => exact absurd (List.cons.inj isBracket).1 bracket
    next =>
      split
      next isBracket => exact absurd (List.cons.inj isBracket).1 bracket
      next => rfl

/-- A declaration that is read is read alike. -/
theorem readDeclaration_followedBy (declared : reader.readDeclaration = .ok next)
    (behind : List Char) :
    (reader.followedBy behind).readDeclaration = .ok (next.followedBy behind) := by
  unfold readDeclaration at declared
  split at declared
  next body rest cut =>
    cases declared
    have split := (Code.isDeclaration_of_cut cut).1
    have length : (reader.rest.drop 2).length = body.length + (rest.length + 2) := by
      rw [split]
      simp
    rw [List.length_drop] at length
    have within : body.length + 4 ≤ reader.rest.length := by omega
    unfold readDeclaration
    rw [rest_followedBy, List.drop_append_of_le_length (by omega),
      cutDeclaration_append cut behind]
    simp only [skip_followedBy within]
    rfl
  next => cases declared

/-- A quoted value that is read is read alike. -/
theorem readString_followedBy {quote : Char} (read : reader.readString quote = .ok next)
    (behind : List Char) :
    (reader.followedBy behind).readString quote = .ok (next.followedBy behind) := by
  unfold readString at read
  simp only [] at read
  split at read
  next closing rest front =>
    cases read
    have left : reader.rest.drop (((reader.rest.drop 1).takeWhile (· != quote)).length + 1) ≠ [] :=
      front ▸ List.cons_ne_nil _ _
    have stops : (reader.rest.drop 1).dropWhile (· != quote) ≠ [] := by
      rwa [Nat.add_comm, ← List.drop_drop, drop_length_takeWhile] at left
    have within := le_length_of_drop left
    have value : ((reader.followedBy behind).rest.drop 1).takeWhile (· != quote) =
        (reader.rest.drop 1).takeWhile (· != quote) := by
      rw [rest_followedBy, List.drop_append_of_le_length (by omega)]
      exact takeWhile_append_of_stop stops behind
    have ahead : (reader.followedBy behind).rest.drop
        (((reader.rest.drop 1).takeWhile (· != quote)).length + 1) =
          closing :: (rest ++ behind) := by
      rw [rest_followedBy, List.drop_append_of_le_length within, front, List.cons_append]
    have enclosed : ((reader.rest.drop 1).takeWhile (· != quote)).length + 2 ≤
        reader.rest.length := by
      have length := congrArg List.length front
      rw [List.length_drop, List.length_cons] at length
      omega
    unfold readString
    simp only [value, ahead, skip_followedBy enclosed]
    rfl
  next => cases read

/-- The value of an attribute that is read is read alike. -/
theorem readValue_followedBy {name : String} {origin : Position} {site : Option Site}
    (read : reader.readValue name origin = .ok (site, next)) (behind : List Char) :
    (reader.followedBy behind).readValue name origin = .ok (site, next.followedBy behind) := by
  have quoted {quote : Char}
      (read : (reader.readString quote).map (fun next => (none, next)) = .ok (site, next)) :
      ((reader.followedBy behind).readString quote).map (fun next => (none, next)) =
        .ok (site, next.followedBy behind) := by
    cases result : reader.readString quote with
    | error fault => simp [result, Except.map] at read
    | ok found =>
        simp only [result, Except.map, Except.ok.injEq, Prod.mk.injEq] at read
        obtain ⟨rfl, rfl⟩ := read
        rw [readString_followedBy result]
        rfl
  unfold readValue at read
  split at read
  next following front =>
    simp only [readValue, rest_followedBy, front, List.cons_append]
    exact quoted read
  next following front =>
    simp only [readValue, rest_followedBy, front, List.cons_append]
    exact quoted read
  next following front =>
    cases read
    have within : "\x7b".length ≤ reader.rest.length := by
      rw [front]
      exact Nat.le_add_left 1 following.length
    simp only [readValue, rest_followedBy, front, List.cons_append, openSite_followedBy within]
    rfl
  next => cases read

/-- There is a value to read only where the source goes on. -/
theorem rest_ne_nil_of_readValue {name : String} {origin : Position} {site : Option Site}
    (read : reader.readValue name origin = .ok (site, next)) : reader.rest ≠ [] := by
  intro ended
  simp only [readValue, ended] at read
  cases read

/-- The reader behind the name of an attribute and the white space that follows it. -/
def passName (reader : Reader) : Reader :=
  ((reader.skipWhile isAttrNameChar).emit .attrName
    (String.ofList (reader.rest.takeWhile isAttrNameChar)) reader.position).skipBlank

/-- The reader behind an equals sign and the white space that follows it. -/
def passEquals (reader : Reader) : Reader :=
  ((reader.skip 1).emit .attrEquals "=" reader.position).skipBlank

/-- Behind a name and an equals sign, the value of the attribute is read. -/
theorem readAttribute_of_equals {following : List Char}
    (front : reader.passName.rest = '=' :: following) :
    reader.readAttribute = reader.passName.passEquals.readValue
      (String.ofList (reader.rest.takeWhile isAttrNameChar)) reader.position := by
  unfold passName skipWhile at front
  unfold readAttribute
  simp only [front]
  rfl

/-- An attribute without an equals sign is bare. -/
theorem readAttribute_of_bare (bare : reader.passName.rest.head? ≠ some '=') :
    reader.readAttribute = .ok (none, reader.passName) := by
  unfold passName skipWhile at bare
  unfold readAttribute
  simp only []
  split
  next front =>
    rw [front] at bare
    exact absurd rfl bare
  next => rfl

theorem rest_passName (reader : Reader) :
    reader.passName.rest = (reader.rest.dropWhile isAttrNameChar).dropWhile isBlank := by
  rw [passName, rest_skipBlank, rest_emit, skipWhile, rest_skip, drop_length_takeWhile]

theorem rest_passEquals (reader : Reader) :
    reader.passEquals.rest = (reader.rest.drop 1).dropWhile isBlank := by
  rw [passEquals, rest_skipBlank, rest_emit, rest_skip]

theorem passName_followedBy (goesOn : reader.passName.rest ≠ []) (behind : List Char) :
    (reader.followedBy behind).passName = reader.passName.followedBy behind := by
  have stops : reader.rest.dropWhile isAttrNameChar ≠ [] := by
    rw [rest_passName] at goesOn
    exact ne_nil_of_dropWhile goesOn
  unfold passName
  rw [rest_followedBy, takeWhile_append_of_stop stops, skipWhile_followedBy stops,
    position_followedBy, emit_followedBy, skipBlank_followedBy goesOn]

theorem passEquals_followedBy (goesOn : reader.passEquals.rest ≠ []) (behind : List Char) :
    (reader.followedBy behind).passEquals = reader.passEquals.followedBy behind := by
  have within : 1 ≤ reader.rest.length := by
    rw [rest_passEquals] at goesOn
    exact le_length_of_drop (ne_nil_of_dropWhile goesOn)
  unfold passEquals
  rw [skip_followedBy within, position_followedBy, emit_followedBy, skipBlank_followedBy goesOn]

/-- An attribute has a value behind its equals sign, or it is bare. -/
theorem passName_cases (reader : Reader) :
    (∃ following, reader.passName.rest = '=' :: following) ∨
      reader.passName.rest.head? ≠ some '=' := by
  by_cases equals : reader.passName.rest.head? = some '='
  · exact .inl (List.head?_eq_some_iff.mp equals)
  · exact .inr equals

/-- What is read behind an equals sign is read alike if it does not break off there. -/
theorem readAttribute_followedBy_of_equals {following : List Char}
    (front : reader.passName.rest = '=' :: following)
    (goesOn : reader.passName.passEquals.rest ≠ []) (behind : List Char) :
    (reader.followedBy behind).readAttribute =
      (reader.passName.passEquals.followedBy behind).readValue
        (String.ofList (reader.rest.takeWhile isAttrNameChar)) reader.position := by
  have named := passName_followedBy (front ▸ List.cons_ne_nil _ _) behind
  have stops : reader.rest.dropWhile isAttrNameChar ≠ [] := by
    rw [rest_passName] at front
    exact ne_nil_of_dropWhile (front ▸ List.cons_ne_nil _ _)
  have ahead : (reader.followedBy behind).passName.rest = '=' :: (following ++ behind) := by
    rw [named, rest_followedBy, front, List.cons_append]
  rw [readAttribute_of_equals ahead, named, passEquals_followedBy goesOn, rest_followedBy,
    takeWhile_append_of_stop stops, position_followedBy]

/-- A bare attribute is read alike if it does not reach the end. -/
theorem readAttribute_followedBy_of_bare (bare : reader.passName.rest.head? ≠ some '=')
    (goesOn : reader.passName.rest ≠ []) (behind : List Char) :
    (reader.followedBy behind).readAttribute =
      .ok (none, reader.passName.followedBy behind) := by
  have named := passName_followedBy goesOn behind
  rw [readAttribute_of_bare, named]
  rwa [named, rest_followedBy, List.head?_append_of_ne_nil _ goesOn]

/-- An attribute is read alike if what is read does not reach the end. -/
theorem readAttribute_followedBy {site : Option Site}
    (read : reader.readAttribute = .ok (site, next)) (goesOn : next.rest ≠ [])
    (behind : List Char) :
    (reader.followedBy behind).readAttribute = .ok (site, next.followedBy behind) := by
  rcases reader.passName_cases with ⟨following, front⟩ | bare
  · rw [readAttribute_of_equals front] at read
    rw [readAttribute_followedBy_of_equals front (rest_ne_nil_of_readValue read)]
    exact readValue_followedBy read behind
  · rw [readAttribute_of_bare bare] at read
    cases read
    exact readAttribute_followedBy_of_bare bare goesOn behind

/-! ### Steps -/

/-- Whether a reader does not break off within a tag or an expression. -/
structure Unbroken (reader : Reader) : Prop where
  attributes : ∀ {tag : OpenTag} {outer : List Mode},
    reader.modes = .attributes tag :: outer → reader.rest ≠ []
  expression : ∀ {site : Site} {outer : List Mode},
    reader.modes = .expression site :: outer → reader.rest ≠ []

/-- What breaks off within a tag or an expression is at fault for it. -/
theorem unbroken_of_fault
    (notTag : ∀ fault ∈ reader.run.fault, ∀ name, fault.cause ≠ .unfinishedTag name)
    (notExpression : ∀ fault ∈ reader.run.fault, fault.cause ≠ .openExpression) :
    reader.Unbroken where
  attributes modes ended := by
    have fails : reader.Fails _ := .unfinished modes (by rw [rest_skipBlank, ended]; rfl)
    rw [run_of_error fails.step_eq] at notTag
    exact notTag _ rfl _ rfl
  expression modes ended := by
    have fails : reader.Fails _ := .openExpression modes ended
    rw [run_of_error fails.step_eq] at notExpression
    exact notExpression _ rfl rfl

/-- What is read without a fault does not break off. -/
theorem unbroken_of_faultless (faultless : reader.run.fault = none) : reader.Unbroken :=
  unbroken_of_fault (by simp [faultless]) (by simp [faultless])

/-- Whether what is text of its own at the end of the source is still so when more
characters follow. -/
def KeepsText (reader : Reader) (behind : List Char) : Prop :=
  ∀ {parent : Option OpenTag} {outer : List Mode} {character : Char} {following : List Char},
    reader.modes = .text parent :: outer → reader.rest = character :: following →
    IsLiteral character following → IsLiteral character (following ++ behind)

/-- A move that does not break off is still one when more characters follow that do
not change the text in front of them. -/
theorem Moves.followedBy (move : reader.Moves next) (unbroken : next.Unbroken)
    (keepsText : reader.KeepsText behind) :
    (reader.followedBy behind).Moves (next.followedBy behind) := by
  have ahead {characters : List Char} (front : reader.rest = characters) :
      (reader.followedBy behind).rest = characters ++ behind := by rw [rest_followedBy, front]
  have aheadSolid {character : Char} {following : List Char}
      (front : reader.skipBlank.rest = character :: following) :
      (reader.followedBy behind).skipBlank = reader.skipBlank.followedBy behind :=
    skipBlank_followedBy (front ▸ List.cons_ne_nil _ _) behind
  have one {character : Char} {following : List Char}
      (front : reader.rest = character :: following) : 1 ≤ reader.rest.length := by
    rw [front]
    exact Nat.le_add_left 1 _
  cases move with
  | escape modes front escapable =>
      rw [← gather_followedBy (by simp [front])]
      exact .escape modes (ahead front) escapable
  | literal modes front isLiteral =>
      rw [← gather_followedBy (one front)]
      exact .literal modes (ahead front) (keepsText modes front isLiteral)
  | declare modes front declared =>
      rw [← enter_followedBy]
      refine .declare modes (ahead front) ?_
      rw [flushText_followedBy]
      exact readDeclaration_followedBy declared behind
  | @openChildSite _ _ following modes front noDeclaration =>
      have within : "\x7b".length ≤ reader.flushText.rest.length := by
        rw [rest_flushText]
        exact one front
      have goesOn : following ≠ [] := by
        have left := unbroken.expression rfl
        rwa [rest_enter, rest_openSite (by rw [rest_flushText, front]; rfl)] at left
      have move : (reader.followedBy behind).Moves _ := .openChildSite modes (ahead front)
        (by rw [List.append_eq, List.head?_append_of_ne_nil _ goesOn]; exact noDeclaration)
      rw [flushText_followedBy, openSite_followedBy within] at move
      exact move
  | closeElement modes closes closed =>
      rw [← enter_followedBy]
      refine .closeElement modes (closesTag_append closes behind) ?_
      obtain ⟨tag, following, -, front, -⟩ := exists_of_closeTag closed
      rw [flushText_followedBy, closeTag_followedBy (front ▸ List.cons_ne_nil _ _), closed]
      rfl
  | openChild modes opens opened =>
      rw [← enter_followedBy]
      refine .openChild modes (opensTag_append_of_opens opens behind) ?_
      have stops := unbroken.attributes rfl
      rw [rest_enter, (opensTag_of_openTag opened).rest] at stops
      rw [flushText_followedBy, openTag_followedBy stops, opened]
      rfl
  | selfClose modes front =>
      have move : (reader.followedBy behind).Moves _ := .selfClose modes
        (by rw [aheadSolid front, rest_followedBy, front]; rfl)
      rw [aheadSolid front, skip_followedBy (by simp [front])] at move
      exact move
  | endTag modes front =>
      have move : (reader.followedBy behind).Moves _ := .endTag modes
        (by rw [aheadSolid front, rest_followedBy, front]; rfl)
      rw [aheadSolid front, skip_one_followedBy front] at move
      exact move
  | openSpread modes front =>
      have within : "\x7b...".length ≤ reader.skipBlank.rest.length := by
        rw [front]
        exact Nat.le_add_left 4 _
      have move : (reader.followedBy behind).Moves _ := .openSpread modes
        (by rw [aheadSolid front, rest_followedBy, front]; rfl)
      rw [aheadSolid front, openSite_followedBy within] at move
      exact move
  | @nameAttribute _ _ _ _ next site modes front starts read =>
      have goesOn : next.rest ≠ [] := by
        cases site with
        | none => exact unbroken.attributes rfl
        | some site => exact unbroken.expression rfl
      rw [← enter_followedBy]
      refine .nameAttribute modes (by rw [aheadSolid front, rest_followedBy, front]; rfl) starts ?_
      rw [aheadSolid front]
      exact readAttribute_followedBy read goesOn behind
  | quoteEscape modes quoted front =>
      have move : (reader.followedBy behind).Moves _ := .quoteEscape modes quoted (ahead front)
      rw [gather_followedBy (one front), gather_followedBy (by simp [front])] at move
      exact move
  | @quoteCharacter _ _ _ _ following modes quoted front noEscape =>
      have goesOn : following ≠ [] := by
        have left := unbroken.expression rfl
        rwa [rest_gather, front] at left
      have move : (reader.followedBy behind).Moves _ := .quoteCharacter modes quoted (ahead front)
        (fun isEscape => absurd (noEscape isEscape) goesOn)
      rw [gather_followedBy (one front)] at move
      exact move
  | openBrace modes unquoted front =>
      have move : (reader.followedBy behind).Moves _ := .openBrace modes unquoted (ahead front)
      rw [gather_followedBy (one front)] at move
      exact move
  | closeBrace modes unquoted front deep =>
      have move : (reader.followedBy behind).Moves _ :=
        .closeBrace modes unquoted (ahead front) deep
      rw [gather_followedBy (one front)] at move
      exact move
  | closeSite modes unquoted front last =>
      have move : (reader.followedBy behind).Moves _ :=
        .closeSite modes unquoted (ahead front) last
      rw [flushPiece_followedBy, skip_one_followedBy ((rest_flushPiece ..).trans front)] at move
      exact move
  | openEmbedded modes unquoted opens starts opened =>
      rw [← enter_followedBy]
      refine .openEmbedded modes unquoted (opensTag_append_of_opens opens behind) starts ?_
      have stops := unbroken.attributes rfl
      rw [rest_enter, (opensTag_of_openTag opened).rest] at stops
      rw [flushPiece_followedBy, openTag_followedBy stops, opened]
      rfl
  | @code _ _ _ following modes unquoted front notOpening notClosing noMarkup =>
      have goesOn : following ≠ [] := by
        have left := unbroken.expression rfl
        rwa [rest_gather, front] at left
      have long : 2 ≤ reader.rest.length := by
        rw [front]
        exact Nat.succ_le_succ (List.length_pos_of_ne_nil goesOn)
      have move : (reader.followedBy behind).Moves _ := .code modes unquoted (ahead front)
        notOpening notClosing (by rwa [rest_followedBy, opensTag_append long])
      rw [gather_followedBy (one front)] at move
      exact move

/-! ### Whole readings -/

/-- If every move on the way through a source can be made elsewhere too, then reading
there comes to where it ends or meets a fault here. -/
theorem exists_last_elsewhere {source : String} {holds : Reader → Prop}
    {elsewhere : Reader → Reader}
    (kept : ∀ {reader next : Reader}, reader.Moves next → holds reader → holds next)
    (starts : holds (Reader.start source))
    (along : ∀ {reader next : Reader}, reader.Moves next → holds reader → holds next →
      next.run = (Reader.start source).run → (elsewhere reader).Moves (elsewhere next)) :
    ∃ last : Reader, holds last ∧ last.run = (Reader.start source).run ∧
      (elsewhere (Reader.start source)).run = (elsewhere last).run ∧
      ((∃ fault, last.step = .error fault ∧ (Reader.start source).run.fault = some fault) ∨
        (last.step = .ok (.done (Reader.start source).run.reader) ∧
          (Reader.start source).run.fault = none)) := by
  have reached := @exists_last (Reader.start source)
    (fun reader => holds reader ∧ reader.run = (Reader.start source).run ∧
      (elsewhere (Reader.start source)).run = (elsewhere reader).run)
    (by
      rintro reader next move ⟨held, sameRun, sameThere⟩
      have sameNext := move.run_eq.symm.trans sameRun
      have further := along move held (kept move held) sameNext
      exact ⟨kept move held, sameNext, sameThere.trans further.run_eq⟩)
    ⟨starts, rfl, rfl⟩
  obtain ⟨last, ⟨held, sameRun, sameThere⟩, outcome⟩ := reached
  exact ⟨last, held, sameRun, sameThere, outcome⟩

/-- If every move on the way to the end of a source can be made elsewhere too, then
reading there comes to where it ends here. -/
theorem exists_end_elsewhere {source : String} {holds : Reader → Prop}
    {elsewhere : Reader → Reader} (faultless : (Reader.start source).run.fault = none)
    (kept : ∀ {reader next : Reader}, reader.Moves next → holds reader → holds next)
    (starts : holds (Reader.start source))
    (along : ∀ {reader next : Reader}, reader.Moves next → holds reader → holds next →
      next.run = (Reader.start source).run → (elsewhere reader).Moves (elsewhere next)) :
    ∃ last : Reader, holds last ∧ last.run = (Reader.start source).run ∧
      last.step = .ok (.done (Reader.start source).run.reader) ∧
      (elsewhere (Reader.start source)).run = (elsewhere last).run := by
  obtain ⟨last, held, sameRun, sameThere, ⟨fault, -, faulty⟩ | ⟨stepped, -⟩⟩ :=
    exists_last_elsewhere kept starts along
  · cases faultless.symm.trans faulty
  · exact ⟨last, held, sameRun, stepped, sameThere⟩

end MarkupTemplate.Reader
