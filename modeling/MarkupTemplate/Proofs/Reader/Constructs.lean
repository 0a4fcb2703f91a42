import MarkupTemplate.Proofs.Canonical.Form
import MarkupTemplate.Token.Reading

/-!
# What reading a construct leaves

Reading `<name`, `</name>`, a declaration or an attribute adds tokens and passes
characters. Each result here says for one of them when it succeeds, which tokens
it adds and what is left of the source. Where tokens lie does not matter to the
tree they make, so nothing is said about positions.
-/

namespace MarkupTemplate

open Spelling Text

/-- The text that characters make: none without characters. -/
def Node.ofText (characters : List Char) : List Node :=
  if characters.isEmpty then [] else [.text (String.ofList characters)]

/-- The code that characters make: none without characters. -/
def Node.ofCode (characters : List Char) : List Node :=
  if characters.isEmpty then [] else [.expression (String.ofList characters)]

/-- Whether nothing of an expression has been read. -/
structure Site.IsFresh (site : Site) : Prop where
  leading : site.leading = true
  depth : site.depth = 1
  quote : site.quote = none

namespace Reader

variable {admits : List Node → Prop} {reader next : Reader}

@[simp] theorem openElements_skip (reader : Reader) (count : Nat) :
    (reader.skip count).openElements = reader.openElements := rfl

@[simp] theorem tokens_skip (reader : Reader) (count : Nat) :
    (reader.skip count).tokens = reader.tokens := rfl

@[simp] theorem openElements_skipBlank (reader : Reader) :
    reader.skipBlank.openElements = reader.openElements := rfl

@[simp] theorem tokens_skipBlank (reader : Reader) :
    reader.skipBlank.tokens = reader.tokens := rfl

@[simp] theorem openElements_emit (reader : Reader) (kind : TokenKind) (value : String)
    (origin : Position) : (reader.emit kind value origin).openElements = reader.openElements := rfl

/-- A token that is added has the kind it is added with. -/
theorem exists_emit (reader : Reader) (kind : TokenKind) (value : String) (origin : Position) :
    ∃ token : Token, (reader.emit kind value origin).tokens = token :: reader.tokens ∧
      token.kind = kind :=
  ⟨⟨kind, value, _⟩, rfl, rfl⟩

@[simp] theorem openElements_openSite (reader : Reader) (kind : TokenKind) (delimiter : String) :
    (reader.openSite kind delimiter).2.openElements = reader.openElements := rfl

@[simp] theorem modes_gather (reader : Reader) (character : Char) (count : Nat) :
    (reader.gather character count).modes = reader.modes := rfl

@[simp] theorem tokens_gather (reader : Reader) (character : Char) (count : Nat) :
    (reader.gather character count).tokens = reader.tokens := rfl

@[simp] theorem openElements_gather (reader : Reader) (character : Char) (count : Nat) :
    (reader.gather character count).openElements = reader.openElements := rfl

@[simp] theorem pending_gather (reader : Reader) (character : Char) (count : Nat) :
    (reader.gather character count).pending = character :: reader.pending := rfl

@[simp] theorem modes_enter (reader : Reader) (modes : List Mode) :
    (reader.enter modes).modes = modes := rfl

@[simp] theorem tokens_enter (reader : Reader) (modes : List Mode) :
    (reader.enter modes).tokens = reader.tokens := rfl

@[simp] theorem openElements_enter (reader : Reader) (modes : List Mode) :
    (reader.enter modes).openElements = reader.openElements := rfl

@[simp] theorem pending_enter (reader : Reader) (modes : List Mode) :
    (reader.enter modes).pending = [] := rfl

@[simp] theorem openElements_flushText (reader : Reader) :
    reader.flushText.openElements = reader.openElements := by
  unfold flushText
  split <;> rfl

@[simp] theorem openElements_flushPiece (reader : Reader) (site : Site) (closing : Bool) :
    (reader.flushPiece site closing).openElements = reader.openElements := by
  unfold flushPiece
  split <;> rfl

/-- Passing the characters in front that satisfy a predicate leaves the others. -/
theorem drop_length_takeWhile (accepts : Char → Bool) (characters : List Char) :
    characters.drop (characters.takeWhile accepts).length = characters.dropWhile accepts := by
  induction characters with
  | nil => rfl
  | cons first rest inductionHypothesis =>
      by_cases accepted : accepts first <;> simp [accepted, inductionHypothesis]

/-- Passing blanks leaves what follows them. -/
theorem rest_skipBlank (reader : Reader) :
    reader.skipBlank.rest = reader.rest.dropWhile isBlank :=
  drop_length_takeWhile isBlank reader.rest

/-- Characters that a predicate accepts are passed. -/
theorem position_skipWhile (reader : Reader) (accepts : Char → Bool) :
    (reader.skipWhile accepts).position =
      reader.position.after (reader.rest.takeWhile accepts) := by
  have taken := List.prefix_iff_eq_take.mp (List.takeWhile_prefix accepts (l := reader.rest))
  rw [skipWhile, skip, ← taken]

/-! ### Pending characters -/

/-- Pending text becomes a token, if there is any. -/
theorem flushText_derives (reader : Reader) :
    ∃ flushed, reader.flushText.tokens = flushed.reverse ++ reader.tokens ∧
      Derives admits (.children (Node.ofText reader.pending.reverse)) flushed := by
  unfold flushText
  cases pending : reader.pending with
  | nil => exact ⟨[], rfl, .noChildren⟩
  | cons last before =>
      refine ⟨[⟨.text, _, _⟩], rfl, ?_⟩
      have single : Node.ofText (last :: before).reverse =
          [.text (String.ofList (last :: before).reverse)] := by simp [Node.ofText]
      rw [single]
      exact @Derives.text admits ⟨_, _, _⟩ _ _ rfl .noChildren

/-- Pending code becomes a token, if something is left of it. -/
theorem flushPiece_derives (reader : Reader) (site : Site) (closing : Bool) :
    ∃ flushed, (reader.flushPiece site closing).tokens = flushed.reverse ++ reader.tokens ∧
      Derives admits (.pieces (Node.ofCode (site.piece closing reader.pending))) flushed := by
  unfold flushPiece Node.ofCode
  split
  · exact ⟨[], rfl, .noPieces⟩
  · exact ⟨[⟨.expression, _, _⟩], rfl, @Derives.code admits ⟨_, _, _⟩ _ _ rfl .noPieces⟩

/-! ### Tags -/

/-- What an opened tag has added and passed. -/
structure OpensTag (reader : Reader) (tag : OpenTag) (next : Reader) : Prop where
  name : tag.name.toList = (reader.rest.drop 1).takeWhile isTagNameChar
  compound : isCompoundName tag.name.toList
  shallow : reader.openElements < maxNesting
  openElements : next.openElements = reader.openElements + 1
  rest : next.rest = (reader.rest.drop 1).dropWhile isTagNameChar
  tokens : ∃ mark name : Token, next.tokens = name :: mark :: reader.tokens ∧
    mark.kind = .tagOpen ∧ name.kind = .tagName ∧ name.value = tag.name

/-- An opened tag adds `<` and its name. -/
theorem opensTag_of_openTag {tag : OpenTag} (opened : reader.openTag = .ok (tag, next)) :
    reader.OpensTag tag next := by
  unfold openTag at opened
  simp only [] at opened
  split at opened
  · cases opened
  rename_i compound
  split at opened
  · cases opened
  rename_i shallow
  cases opened
  constructor
  case name => simp
  case compound => simpa using compound
  case shallow => exact Nat.lt_of_not_le shallow
  case openElements => rfl
  case rest => exact drop_length_takeWhile isTagNameChar (reader.rest.drop 1)
  case tokens => exact ⟨⟨.tagOpen, _, _⟩, ⟨.tagName, _, _⟩, rfl, rfl, rfl, rfl⟩

/-- A tag can be opened unless its name is not a tag name or elements lie too deep. -/
theorem exists_openTag
    (compound : isCompoundName ((reader.rest.drop 1).takeWhile isTagNameChar))
    (shallow : reader.openElements < maxNesting) :
    ∃ tag next, reader.openTag = .ok (tag, next) := by
  have notTooDeep : ¬ maxNesting ≤ reader.openElements := Nat.not_le.mpr shallow
  unfold openTag
  simp only []
  rw [if_neg (by simpa using compound), if_neg notTooDeep]
  exact ⟨_, _, rfl⟩

/-- How `</name>` is read. -/
theorem closeTag_eq {tag : OpenTag} {following : List Char}
    (ends : ((reader.skip 2).skipWhile isTagNameChar).skipBlank.rest = '>' :: following)
    (name : tag.name = String.ofList ((reader.skip 2).rest.takeWhile isTagNameChar)) :
    reader.closeTag (some tag) =
      let marked := reader.skip 2
      let named := marked.skipWhile isTagNameChar
      let ending := named.skipBlank
      .ok { (((ending.skip 1).emitAt .tagClose "</" ⟨reader.position, marked.position⟩).emitAt
              .tagName tag.name ⟨marked.position, named.position⟩).emit .tagEnd ">"
              ending.position with
            openElements := reader.openElements - 1 } := by
  unfold skipWhile at ends
  unfold closeTag
  simp only [ends, if_pos name]
  rfl

/-- A tag is closed by its own name and a bracket. -/
theorem exists_of_closeTag {parent : Option OpenTag} (closed : reader.closeTag parent = .ok next) :
    ∃ tag following, parent = some tag ∧
      ((reader.skip 2).skipWhile isTagNameChar).skipBlank.rest = '>' :: following ∧
      tag.name = String.ofList ((reader.skip 2).rest.takeWhile isTagNameChar) := by
  unfold closeTag at closed
  simp only [] at closed
  split at closed
  case h_2 => cases closed
  case h_1 following ends =>
    split at closed
    · cases closed
    split at closed
    case isFalse => cases closed
    case isTrue tag name => exact ⟨tag, following, rfl, ends, name⟩

/-- What a closed tag has added. -/
structure ClosesTag (reader : Reader) (tag : OpenTag) (next : Reader) : Prop where
  openElements : next.openElements = reader.openElements - 1
  tokens : ∃ mark name stop : Token, next.tokens = stop :: name :: mark :: reader.tokens ∧
    mark.kind = .tagClose ∧ name.kind = .tagName ∧ stop.kind = .tagEnd ∧ name.value = tag.name

/-- A closed tag adds `</`, the name of the tag it closes, and `>`. -/
theorem closesTag_of_closeTag {parent : Option OpenTag}
    (closed : reader.closeTag parent = .ok next) :
    ∃ tag, parent = some tag ∧ reader.ClosesTag tag next := by
  obtain ⟨tag, following, rfl, ends, name⟩ := exists_of_closeTag closed
  rw [closeTag_eq ends name] at closed
  cases closed
  exact ⟨tag, rfl, rfl, ⟨.tagClose, _, _⟩, ⟨.tagName, _, _⟩, ⟨.tagEnd, _, _⟩, rfl, rfl, rfl, rfl,
    rfl⟩

/-- A tag is closed by `</`, its name and `>`. -/
theorem exists_closeTag {tag : OpenTag} {following : List Char}
    (spelled : ∀ character ∈ tag.name.toList, isTagNameChar character)
    (front : reader.rest = '<' :: '/' :: (tag.name.toList ++ '>' :: following)) :
    ∃ next, reader.closeTag (some tag) = .ok next ∧ next.rest = following := by
  have name : ((reader.skip 2).rest).takeWhile isTagNameChar = tag.name.toList := by
    simp [front, List.takeWhile_append_of_pos spelled, isTagNameChar]
  have behind : ((reader.skip 2).rest).drop tag.name.toList.length = '>' :: following := by
    simp [front]
  have notBlank : isBlank '>' = false := by decide
  have ending : ((reader.skip 2).skip tag.name.toList.length).skipBlank.rest =
      '>' :: following := by
    rw [rest_skipBlank, rest_skip, behind]
    simp [notBlank]
  unfold closeTag
  simp only [name, ending, String.ofList_toList, if_true]
  exact ⟨_, rfl, by simp [ending]⟩

/-! ### Declarations -/

/-- How a declaration is read. -/
theorem readDeclaration_eq {body following : List Char}
    (cut : cutDeclaration [] none (reader.rest.drop 2) = some (body, following)) :
    reader.readDeclaration = .ok ((reader.skip (body.length + 4)).emit .declaration
      (String.ofList (trim body)) reader.position) := by
  unfold readDeclaration
  rw [cut]

theorem exists_of_readDeclaration (declared : reader.readDeclaration = .ok next) :
    ∃ body following, cutDeclaration [] none (reader.rest.drop 2) = some (body, following) := by
  unfold readDeclaration at declared
  split at declared
  case h_1 body following cut => exact ⟨body, following, cut⟩
  case h_2 => cases declared

/-- A declaration adds its trimmed code. -/
theorem declaration_of_readDeclaration (declared : reader.readDeclaration = .ok next) :
    next.openElements = reader.openElements ∧
      ∃ token : Token, next.tokens = token :: reader.tokens ∧ token.kind = .declaration ∧
        Code.IsDeclaration token.value.toList := by
  obtain ⟨body, following, cut⟩ := exists_of_readDeclaration declared
  rw [readDeclaration_eq cut] at declared
  cases declared
  have isDeclaration := (Code.isDeclaration_of_cut cut).2
  exact ⟨rfl, ⟨.declaration, _, _⟩, rfl, rfl, by simpa using isDeclaration⟩

/-- A declaration is read back from its code between delimiters and spaces. -/
theorem exists_readDeclaration {code following : List Char}
    (isDeclaration : Code.IsDeclaration code)
    (front : reader.rest = '{' :: '%' :: ' ' :: (code ++ ' ' :: '%' :: '}' :: following)) :
    ∃ next, reader.readDeclaration = .ok next ∧ next.rest = following ∧
      next.openElements = reader.openElements ∧
      ∃ token : Token, next.tokens = token :: reader.tokens ∧ token.kind = .declaration ∧
        token.value = String.ofList code := by
  obtain ⟨cut, trimmed⟩ := isDeclaration.cut following
  unfold readDeclaration
  rw [front, List.drop_succ_cons, List.drop_succ_cons, List.drop_zero, cut]
  refine ⟨_, rfl, ?_, rfl, ⟨.declaration, _, _⟩, rfl, rfl, by rw [trimmed]⟩
  have split : '{' :: '%' :: ' ' :: (code ++ ' ' :: '%' :: '}' :: following) =
      ('{' :: '%' :: ' ' :: (code ++ [' ', '%', '}'])) ++ following := by simp
  rw [rest_emit, rest_skip, front, split]
  exact List.drop_left' (by simp)

/-! ### Attributes -/

/-- How a quoted value is read. -/
theorem readString_eq {quote : Char} {value following : List Char} (lacks : quote ∉ value)
    (front : reader.rest = quote :: (value ++ quote :: following)) :
    reader.readString quote = .ok ((reader.skip (value.length + 2)).emit .stringLiteral
      (String.ofList value) reader.position) := by
  have differs : ∀ character ∈ value, (character != quote) = true := by
    intro character member
    simp only [bne_iff_ne, ne_eq]
    rintro rfl
    exact lacks member
  have enclosed : (reader.rest.drop 1).takeWhile (· != quote) = value := by
    simp [front, List.takeWhile_append_of_pos differs]
  have behind : reader.rest.drop (value.length + 1) = quote :: following := by simp [front]
  unfold readString
  simp only [enclosed, behind]

/-- A quoted value reaches up to the next quote. -/
theorem exists_of_readString {quote : Char} {following : List Char}
    (front : reader.rest = quote :: following) (read : reader.readString quote = .ok next) :
    ∃ value behind, quote ∉ value ∧ reader.rest = quote :: (value ++ quote :: behind) := by
  unfold readString at read
  simp only [front, List.drop_succ_cons, List.drop_zero, drop_length_takeWhile] at read
  split at read
  case h_2 => cases read
  case h_1 last behind ends =>
    have isQuote : last = quote := by
      have differs := List.head?_dropWhile_not (· != quote) following
      rw [ends] at differs
      simpa using differs
    subst isQuote
    refine ⟨following.takeWhile (· != last), behind, ?_, ?_⟩
    · intro member
      simpa using List.mem_takeWhile_imp member
    · rw [front, ← ends, List.takeWhile_append_dropWhile]

/-- A quoted value adds the characters between its quotes. -/
theorem string_of_readString {quote : Char} (read : reader.readString quote = .ok next) :
    next.openElements = reader.openElements ∧
      ∃ token : Token, next.tokens = token :: reader.tokens ∧ token.kind = .stringLiteral ∧
        quote ∉ token.value.toList := by
  unfold readString at read
  simp only [] at read
  split at read
  · cases read
    refine ⟨rfl, ⟨.stringLiteral, _, _⟩, rfl, rfl, ?_⟩
    intro member
    rw [String.toList_ofList] at member
    simpa using List.mem_takeWhile_imp member
  · cases read

/-- A value without a quote is read back from between two of them. -/
theorem exists_readString {quote : Char} {value following : List Char} (lacks : quote ∉ value)
    (front : reader.rest = quote :: (value ++ quote :: following)) :
    ∃ next, reader.readString quote = .ok next ∧ next.rest = following ∧
      next.openElements = reader.openElements ∧
      ∃ token : Token, next.tokens = token :: reader.tokens ∧ token.kind = .stringLiteral ∧
        token.value = String.ofList value := by
  refine ⟨_, readString_eq lacks front, ?_, rfl, ⟨.stringLiteral, _, _⟩, rfl, rfl, rfl⟩
  rw [rest_emit, rest_skip, front]
  simp

/-- The delimiter of an expression adds its token, and the expression is fresh. -/
theorem site_of_openSite (reader : Reader) (kind : TokenKind) (delimiter : String) :
    (reader.openSite kind delimiter).1.IsFresh ∧
      ∃ token : Token, (reader.openSite kind delimiter).2.tokens = token :: reader.tokens ∧
        token.kind = kind :=
  ⟨⟨rfl, rfl, rfl⟩, ⟨kind, _, _⟩, rfl, rfl⟩

/-- Behind the delimiter of an expression, its code follows. -/
theorem rest_openSite {kind : TokenKind} {delimiter : String} {following : List Char}
    (front : reader.rest = delimiter.toList ++ following) :
    (reader.openSite kind delimiter).2.rest = following := by
  have passed : (reader.openSite kind delimiter).2.rest =
      reader.rest.drop delimiter.length := rfl
  rw [passed, front, ← String.length_toList]
  exact List.drop_left

/-- The characters in front of an attribute are a name if the first one starts a name. -/
theorem isAttributeName_takeWhile {character : Char} {following : List Char}
    (starts : isAttrNameStart character) :
    IsAttributeName ((character :: following).takeWhile isAttrNameChar) := by
  refine ⟨⟨character, ?_, starts⟩, fun other member => List.mem_takeWhile_imp member⟩
  simp [isAttrNameChar_of_start starts]

/-- What the value of an attribute adds, given the site that is opened for it. -/
def ReadsValue (reader : Reader) (next : Reader) : Option Site → Prop
  | none => ∃ token : Token, next.tokens = token :: reader.tokens ∧
      token.kind = .stringLiteral ∧
      ('"' ∉ token.value.toList ∨ '\'' ∉ token.value.toList)
  | some site => site.IsFresh ∧ ∃ token : Token, next.tokens = token :: reader.tokens ∧
      token.kind = .expressionStart

/-- A value is quoted text or opens an expression. -/
theorem readsValue_of_readValue {name : String} {origin : Position} {site : Option Site}
    (read : reader.readValue name origin = .ok (site, next)) :
    next.openElements = reader.openElements ∧ reader.ReadsValue next site := by
  have quoted {quote : Char} (isQuoteMark : quote = '"' ∨ quote = '\'')
      (read : (reader.readString quote).map (fun next => (none, next)) = .ok (site, next)) :
      next.openElements = reader.openElements ∧ reader.ReadsValue next site := by
    cases result : reader.readString quote with
    | error fault => simp [result, Except.map] at read
    | ok found =>
        simp only [result, Except.map, Except.ok.injEq, Prod.mk.injEq] at read
        obtain ⟨rfl, rfl⟩ := read
        obtain ⟨openElements, token, tokens, kind, lacks⟩ := string_of_readString result
        refine ⟨openElements, token, tokens, kind, ?_⟩
        rcases isQuoteMark with rfl | rfl
        · exact .inl lacks
        · exact .inr lacks
  unfold readValue at read
  split at read
  · exact quoted (.inl rfl) read
  · exact quoted (.inr rfl) read
  · cases read
    exact ⟨rfl, ⟨rfl, rfl, rfl⟩, ⟨.expressionStart, _, _⟩, rfl, rfl⟩
  · cases read

/-- What reading an attribute adds, given the site that is opened for its value. -/
def ReadsAttribute (reader : Reader) (next : Reader) : Option Site → Prop
  | none => ∃ given emitted, next.tokens = emitted.reverse ++ reader.tokens ∧
      Derives (fun _ => True) (.attributes [given]) emitted ∧ given.IsSpelled ∧
      given.WellFormed ∧ given.nesting = 0
  | some site => site.IsFresh ∧ ∃ name equals start : Token,
      next.tokens = start :: equals :: name :: reader.tokens ∧ name.kind = .attrName ∧
      equals.kind = .attrEquals ∧ start.kind = .expressionStart ∧
      IsAttributeName name.value.toList

/-- An attribute is bare, has a quoted value, or opens an expression. -/
theorem readsAttribute_of_readAttribute {character : Char} {following : List Char}
    {site : Option Site} (front : reader.rest = character :: following)
    (starts : isAttrNameStart character) (read : reader.readAttribute = .ok (site, next)) :
    next.openElements = reader.openElements ∧ reader.ReadsAttribute next site := by
  have isName := @isAttributeName_takeWhile _ following starts
  unfold readAttribute at read
  simp only [front] at read
  split at read
  · obtain ⟨openElements, value⟩ := readsValue_of_readValue read
    refine ⟨openElements, ?_⟩
    cases site with
    | none =>
        obtain ⟨token, tokens, kind, lacks⟩ := value
        refine ⟨_, [⟨.attrName, _, _⟩, ⟨.attrEquals, _, _⟩, token], tokens,
          .quoted rfl rfl kind .noAttributes, ⟨?_, .inl ⟨_, rfl, lacks⟩⟩, trivial, rfl⟩
        simpa using isName
    | some site =>
        obtain ⟨fresh, token, tokens, kind⟩ := value
        exact ⟨fresh, ⟨.attrName, _, _⟩, ⟨.attrEquals, _, _⟩, token, tokens, rfl, rfl, kind,
          by simpa using isName⟩
  · cases read
    refine ⟨rfl, _, [⟨.attrName, _, _⟩], rfl, .bare rfl .noAttributes, ⟨?_, .inr ?_⟩, trivial, rfl⟩
    · simpa using isName
    · exact ⟨[.expression "true"], rfl, Node.isSite_true⟩

/-- White space is skipped only where there is some. -/
theorem rest_skipBlank_of_solid {character : Char} {following : List Char}
    (front : reader.rest = character :: following) (solid : isBlank character = false) :
    reader.skipBlank.rest = character :: following := by
  rw [rest_skipBlank, front]
  simp [solid]

/-- A name and an equals sign are read in front of a value. -/
theorem exists_readValue {name following : List Char} {first : Char}
    (spelled : ∀ character ∈ name, isAttrNameChar character)
    (front : reader.rest = name ++ '=' :: first :: following) (solid : isBlank first = false) :
    ∃ (valued : Reader) (nameToken equals : Token),
      reader.readAttribute = valued.readValue (String.ofList name) reader.position ∧
      valued.rest = first :: following ∧ valued.openElements = reader.openElements ∧
      valued.tokens = equals :: nameToken :: reader.tokens ∧ nameToken.kind = .attrName ∧
      nameToken.value = String.ofList name ∧ equals.kind = .attrEquals := by
  have taken : reader.rest.takeWhile isAttrNameChar = name := by
    rw [front, List.takeWhile_append_of_pos spelled]
    simp [isAttrNameChar]
  have atEquals : ((reader.skip name.length).emit .attrName (String.ofList name)
      reader.position).skipBlank.rest = '=' :: first :: following :=
    rest_skipBlank_of_solid (by simp [front]) (by decide)
  unfold readAttribute
  simp only [taken, atEquals]
  refine ⟨_, ⟨.attrName, _, _⟩, ⟨.attrEquals, _, _⟩, rfl, ?_, rfl, rfl, rfl, rfl, rfl⟩
  exact rest_skipBlank_of_solid (by simp [atEquals]) solid

/-- An attribute with a quoted value is read back. -/
theorem exists_readAttribute_quoted {name value following : List Char} {quote : Char}
    (isMark : quote = '"' ∨ quote = '\'')
    (spelled : ∀ character ∈ name, isAttrNameChar character) (lacks : quote ∉ value)
    (front : reader.rest = name ++ '=' :: quote :: (value ++ quote :: following)) :
    ∃ next, reader.readAttribute = .ok (none, next) ∧ next.rest = following ∧
      next.openElements = reader.openElements ∧
      ∃ added, next.tokens = added.reverse ++ reader.tokens ∧
        Derives (fun _ => True)
          (.attributes [.named (String.ofList name) (.text (String.ofList value))]) added := by
  have solid : isBlank quote = false := by
    rcases isMark with rfl | rfl <;> decide
  obtain ⟨valued, nameToken, equals, reads, ahead, level, tokens, isName, sameName, equates⟩ :=
    exists_readValue spelled front solid
  obtain ⟨next, string, rest, sameLevel, token, added, isString, sameValue⟩ :=
    exists_readString lacks ahead
  refine ⟨next, ?_, rest, sameLevel.trans level, [nameToken, equals, token], ?_, ?_⟩
  · rw [reads, readValue, ahead]
    rcases isMark with rfl | rfl <;> simp [string, Except.map]
  · rw [added, tokens]
    rfl
  · rw [← sameName, ← sameValue]
    exact .quoted isName equates isString .noAttributes

/-- An attribute with an expression as its value is read back up to its brace. -/
theorem exists_readAttribute_valued {name following : List Char}
    (spelled : ∀ character ∈ name, isAttrNameChar character)
    (front : reader.rest = name ++ '=' :: '{' :: following) :
    ∃ site next, reader.readAttribute = .ok (some site, next) ∧ site.IsFresh ∧
      next.rest = following ∧ next.openElements = reader.openElements ∧
      ∃ nameToken equals start : Token,
        next.tokens = start :: equals :: nameToken :: reader.tokens ∧
        nameToken.kind = .attrName ∧ nameToken.value = String.ofList name ∧
        equals.kind = .attrEquals ∧ start.kind = .expressionStart := by
  obtain ⟨valued, nameToken, equals, reads, ahead, level, tokens, isName, sameName, equates⟩ :=
    exists_readValue spelled front (by decide)
  obtain ⟨fresh, start, added, starts⟩ := site_of_openSite valued .expressionStart "\x7b"
  refine ⟨(valued.openSite .expressionStart "\x7b").1, (valued.openSite .expressionStart "\x7b").2,
    ?_, fresh, ?_, level, nameToken, equals, start, ?_, isName, sameName, equates, starts⟩
  · rw [reads, readValue, ahead]
    rfl
  · exact rest_openSite ahead
  · rw [added, tokens]

end Reader

end MarkupTemplate
