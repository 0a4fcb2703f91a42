import MarkupTemplate.Proofs.Reader.Lossless

/-!
# Where the faults of a reader lie

A fault that is met while a source is read concerns a stretch of the source that
begins at a character other than white space and does not end within white space.
It may name a second stretch, that of a tag that is still open, which lies in front
of the first. For this, the modes of a reader have to remember where tags and
expressions were opened.
-/

namespace MarkupTemplate

open Spelling Text

/-- Whether a stretch lies among the characters passed, and neither begins nor ends
with white space. -/
def Span.Within (span : Span) (passed : List Char) : Prop :=
  ∃ before inside behind, passed = before ++ inside ++ behind ∧ span = .after before inside ∧
    IsSolid inside

/-- A stretch stays where it is when more characters are passed. -/
theorem Span.Within.grow {span : Span} {passed : List Char} (within : span.Within passed)
    (more : List Char) : span.Within (passed ++ more) := by
  obtain ⟨before, inside, behind, rfl, facts⟩ := within
  exact ⟨before, inside, behind ++ more, by simp, facts⟩

/-- A stretch among the characters passed is one of them. -/
theorem Span.Within.liesIn {span : Span} {passed : List Char} (within : span.Within passed) :
    span.LiesIn passed := by
  obtain ⟨before, inside, behind, whole, same, -⟩ := within
  exact ⟨before, inside, behind, whole, same⟩

/-- Whether a fault concerns a stretch of a source at whose start there is a
character other than white space, and which does not end within white space. It
names only stretches in front of it. -/
def Fault.Lies (fault : Fault) (source : List Char) : Prop :=
  ∃ before inside behind, source = before ++ inside ++ behind ∧ fault.span = .after before inside ∧
    (∃ first ∈ (inside ++ behind).head?, isBlank first = false) ∧
    (EndsSolid inside ∨ LeadsSolid behind) ∧ ∀ related ∈ fault.related, related.Within before

/-- A fault may concern a stretch that was passed. -/
theorem Fault.lies_of_within {cause : Cause} {span : Span} {passed rest : List Char}
    (within : span.Within passed) : Fault.Lies ⟨cause, span, none⟩ (passed ++ rest) := by
  obtain ⟨before, inside, behind, rfl, same, solid⟩ := within
  exact ⟨before, inside, behind ++ rest, by simp, same, solid.begins_append _, .inl solid.ends,
    by simp⟩

/-- The stretch that a mode remembers of where it began. -/
def Mode.mark? : Mode → Option Span
  | .text parent => parent.map (·.span)
  | .attributes tag => some tag.span
  | .expression site => some site.opening

namespace Reader

variable {source passed reached inside further following : List Char} {reader next : Reader}
  {fault : Fault}
  {parent : Option OpenTag} {outer : List Mode} {site : Site}

/-! ### Stretches between two places -/

/-- Whether a reader gets from one place to another by reading some characters. -/
def Crosses (reader : Reader) (inside : List Char) (next : Reader) : Prop :=
  reader.rest = inside ++ next.rest ∧ next.position = reader.position.after inside

theorem Crosses.trans {middle : Reader} (first : reader.Crosses inside middle)
    (second : middle.Crosses further next) : reader.Crosses (inside ++ further) next := by
  constructor
  · rw [first.1, second.1, List.append_assoc]
  · rw [second.2, first.2, Position.after_append]

theorem crosses_skip (front : reader.rest = inside ++ following) :
    reader.Crosses inside (reader.skip inside.length) := by
  simp [Crosses, Reader.skip, front]

theorem crosses_takeWhile (reader : Reader) (accepts : Char → Bool) :
    reader.Crosses (reader.rest.takeWhile accepts)
      (reader.skip (reader.rest.takeWhile accepts).length) :=
  crosses_skip List.takeWhile_append_dropWhile.symm

/-- A reader stands where it gets to. -/
theorem At.crosses (place : reader.At source passed) (crosses : reader.Crosses inside next) :
    next.At source (passed ++ inside) := by
  constructor
  · rw [List.append_assoc, ← crosses.1]
    exact place.1
  · rw [crosses.2, place.2, Position.after_append]

/-- Whether a reader gets from one place to another that is not within white space. -/
def Passes (reader next : Reader) : Prop :=
  ∃ inside, reader.Crosses inside next ∧ (EndsSolid inside ∨ LeadsSolid next.rest)

theorem Crosses.passes (crosses : reader.Crosses inside next) (ends : EndsSolid inside) :
    reader.Passes next :=
  ⟨inside, crosses, .inl ends⟩

theorem Passes.trans {middle : Reader} (first : reader.Passes middle)
    (second : middle.Passes next) : reader.Passes next := by
  obtain ⟨inside, crosses, solid⟩ := first
  obtain ⟨further, goesOn, ends | leads⟩ := second
  · refine ⟨inside ++ further, crosses.trans goesOn, ?_⟩
    -- Where nothing further is read, it is the first place that counts.
    by_cases nothing : further = []
    · subst nothing
      rwa [List.append_nil, ← List.nil_append next.rest, ← goesOn.1]
    · exact .inl (ends.append nothing)
  · exact ⟨inside ++ further, crosses.trans goesOn, .inr leads⟩

/-- Adding a token reads nothing. -/
theorem Passes.emit {kind : TokenKind} {value : String} {origin : Position}
    (passes : reader.Passes next) : reader.Passes (next.emit kind value origin) := passes

/-- White space is passed as a whole. -/
theorem leadsSolid_skipBlank (reader : Reader) : LeadsSolid reader.skipBlank.rest := by
  intro character member
  have kept := List.head?_dropWhile_not isBlank reader.rest
  rw [← rest_skipBlank, Option.mem_def.mp member] at kept
  exact kept

theorem passes_skipBlank (reader : Reader) : reader.Passes reader.skipBlank :=
  ⟨_, crosses_takeWhile reader isBlank, .inr (leadsSolid_skipBlank reader)⟩

theorem passes_tagName (reader : Reader) :
    reader.Passes (reader.skip (reader.rest.takeWhile isTagNameChar).length) :=
  (crosses_takeWhile reader _).passes (endsSolid_takeWhile isTagNameChar_of_isBlank _)

theorem passes_attrName (reader : Reader) :
    reader.Passes (reader.skip (reader.rest.takeWhile isAttrNameChar).length) :=
  (crosses_takeWhile reader _).passes (endsSolid_takeWhile isAttrNameChar_of_isBlank _)

/-- Everything is passed at the end. -/
theorem passes_end (reader : Reader) : reader.Passes (reader.skip reader.rest.length) :=
  ⟨_, crosses_skip (List.append_nil _).symm, .inr (by simp [LeadsSolid, Reader.skip])⟩

/-- A character other than white space is passed. -/
theorem passes_mark {character : Char} (front : reader.rest = character :: following)
    (solid : isBlank character = false) : reader.Passes (reader.skip 1) :=
  (crosses_skip (show reader.rest = [character] ++ following from front)).passes
    (IsSolid.of_ends rfl rfl solid solid).ends

/-- Whether a reader gets from one place to another by passing characters. -/
def LeadsTo (reader next : Reader) : Prop := ∃ inside, reader.Crosses inside next

theorem LeadsTo.trans {middle : Reader} (first : reader.LeadsTo middle)
    (second : middle.LeadsTo next) : reader.LeadsTo next := by
  obtain ⟨inside, crosses⟩ := first
  obtain ⟨further, goesOn⟩ := second
  exact ⟨inside ++ further, crosses.trans goesOn⟩

theorem leadsTo_skip (reader : Reader) (count : Nat) : reader.LeadsTo (reader.skip count) :=
  ⟨reader.rest.take count, (List.take_append_drop count reader.rest).symm, rfl⟩

theorem leadsTo_skipBlank (reader : Reader) : reader.LeadsTo reader.skipBlank := leadsTo_skip ..

theorem leadsTo_flushText (reader : Reader) : reader.LeadsTo reader.flushText := by
  refine ⟨[], by simp, ?_⟩
  unfold flushText
  split <;> rfl

theorem leadsTo_flushPiece (reader : Reader) (site : Site) (closing : Bool) :
    reader.LeadsTo (reader.flushPiece site closing) := by
  refine ⟨[], by simp, ?_⟩
  unfold flushPiece
  split <;> rfl

/-- A reader that gets to a place has no fewer characters in front of it than are left
there. -/
theorem LeadsTo.length_le (leads : reader.LeadsTo next) :
    next.rest.length ≤ reader.rest.length := by
  obtain ⟨inside, rest, -⟩ := leads
  rw [rest, List.length_append]
  omega

/-- A reader that gets to a place stands in front of it. -/
theorem LeadsTo.byte_le (leads : reader.LeadsTo next) :
    reader.position.byte ≤ next.position.byte := by
  obtain ⟨inside, -, position⟩ := leads
  rw [position]
  exact Position.byte_le_after reader.position inside

theorem Passes.leadsTo (passes : reader.Passes next) : reader.LeadsTo next := by
  obtain ⟨inside, crosses, -⟩ := passes
  exact ⟨inside, crosses⟩

/-- A fault may concern what is read on the way from one place to another. -/
theorem At.lies {cause : Cause} {related : Option Span} (place : reader.At source passed)
    (passes : reader.Passes next) (solid : ∃ first ∈ reader.rest.head?, isBlank first = false)
    (within : ∀ span ∈ related, span.Within passed) :
    Fault.Lies ⟨cause, ⟨reader.position, next.position⟩, related⟩ source := by
  obtain ⟨inside, crosses, ends⟩ := passes
  have reached := place.crosses crosses
  refine ⟨passed, inside, next.rest, reached.1, ?_, by rwa [← crosses.1], ends, within⟩
  rw [place.2, reached.2, Span.after]

/-- What is read on the way from one place to another lies among what was passed. -/
theorem At.within (place : reader.At source passed) (crosses : reader.Crosses inside next)
    (solid : IsSolid inside) (whole : source = reached ++ next.rest) :
    Span.Within ⟨reader.position, next.position⟩ reached := by
  obtain ⟨behind, position⟩ := place.crosses crosses
  obtain rfl := List.append_cancel_right (behind.symm.trans whole)
  exact ⟨passed, inside, [], by simp, by rw [place.2, position, Span.after], solid⟩

/-! ### Faults of constructs -/

/-- A tag that cannot be opened is at fault from its mark or its name on. -/
theorem At.lies_of_openTag (place : reader.At source passed) (opens : opensTag reader.rest)
    (failed : reader.openTag = .error fault) : fault.Lies source := by
  obtain ⟨letter, following, front, isLetter⟩ := exists_of_opensTag opens
  have marked := passes_mark front (by decide)
  have named := passes_tagName (reader.skip 1)
  unfold openTag at failed
  simp only [] at failed
  split at failed
  · cases failed
    exact (place.skip 1).lies named ⟨letter, by simp [front], isBlank_of_isAlpha isLetter⟩ (by simp)
  split at failed
  · cases failed
    exact place.lies (marked.trans named) ⟨'<', by simp [front], by decide⟩ (by simp)
  · cases failed

/-- A tag that cannot be closed is at fault from its mark on. -/
theorem At.lies_of_closeTag (place : reader.At source passed) (closes : closesTag reader.rest)
    (within : ∀ tag ∈ parent, tag.span.Within passed)
    (failed : reader.closeTag parent = .error fault) : fault.Lies source := by
  obtain ⟨letter, following, front, -⟩ := exists_of_closesTag closes
  have solid : ∃ first ∈ reader.rest.head?, isBlank first = false :=
    ⟨'<', by simp [front], by decide⟩
  have marked : reader.Passes (reader.skip 2) :=
    (crosses_skip (show reader.rest = ['<', '/'] ++ _ from front)).passes
      (IsSolid.of_ends rfl rfl (by decide) (by decide)).ends
  have ending := (marked.trans (passes_tagName _)).trans (passes_skipBlank _)
  unfold closeTag at failed
  simp only [] at failed
  split at failed
  next bracket =>
    have closed := ending.trans (passes_mark bracket (by decide))
    split at failed
    · cases failed
      exact place.lies closed solid (by simp)
    split at failed
    · cases failed
    · cases failed
      exact place.lies closed solid (by simpa using within)
  next =>
    cases failed
    exact place.lies ending solid (by simp)

/-- A declaration that does not end is at fault from its delimiter on. -/
theorem At.lies_of_readDeclaration {following : List Char} (place : reader.At source passed)
    (front : reader.rest = '{' :: following) (failed : reader.readDeclaration = .error fault) :
    fault.Lies source := by
  unfold readDeclaration at failed
  split at failed
  · cases failed
  · cases failed
    exact place.lies (passes_end reader) ⟨'{', by simp [front], by decide⟩ (by simp)

/-- A quoted value that does not end is at fault from its quote on. -/
theorem At.lies_of_readString {quote : Char} {following : List Char}
    (place : reader.At source passed) (front : reader.rest = quote :: following)
    (solid : isBlank quote = false) (failed : reader.readString quote = .error fault) :
    fault.Lies source := by
  unfold readString at failed
  simp only [] at failed
  split at failed
  · cases failed
  · cases failed
    exact place.lies (passes_end reader) ⟨quote, by simp [front], solid⟩ (by simp)

/-- A computation whose result is changed fails as it does. -/
theorem map_eq_error {α β : Type} {first : Except Fault α} {change : α → β}
    (failed : first.map change = .error fault) : first = .error fault := by
  cases first with
  | error other =>
      cases failed
      rfl
  | ok value => cases failed

/-- A value that is missing is at fault from the name of its attribute on, and one
that does not end from its quote on. -/
theorem At.lies_of_readValue {valued : Reader} {name : String} (place : reader.At source passed)
    (passes : reader.Passes valued) (solid : ∃ first ∈ reader.rest.head?, isBlank first = false)
    (failed : valued.readValue name reader.position = .error fault) : fault.Lies source := by
  have ⟨inside, crosses, _⟩ := passes
  have reached := place.crosses crosses
  unfold readValue at failed
  split at failed
  next front => exact reached.lies_of_readString front (by decide) (map_eq_error failed)
  next front => exact reached.lies_of_readString front (by decide) (map_eq_error failed)
  next => cases failed
  next =>
    cases failed
    exact place.lies passes solid (by simp)

/-- An attribute is bare, or its value is read behind its name. -/
theorem readAttribute_eq (reader : Reader) :
    (∃ next, reader.readAttribute = .ok (none, next)) ∨
      ∃ valued name, reader.Passes valued ∧
        reader.readAttribute = valued.readValue name reader.position := by
  unfold readAttribute
  simp only []
  split
  next equals =>
    refine .inr ⟨_, _, ?_, rfl⟩
    exact (((passes_attrName reader).emit.trans (passes_skipBlank _)).trans
      (passes_mark equals (by decide))).emit.trans (passes_skipBlank _)
  next => exact .inl ⟨_, rfl⟩

/-- Where an attribute opens an expression, this is done behind its name. -/
theorem openSite_of_readAttribute (read : reader.readAttribute = .ok (some site, next)) :
    ∃ valued following, reader.Passes valued ∧ valued.rest = '{' :: following ∧
      site = (valued.openSite .expressionStart "\x7b").1 ∧
      next = (valued.openSite .expressionStart "\x7b").2 := by
  rcases reader.readAttribute_eq with ⟨next, bare⟩ | ⟨valued, name, passes, same⟩
  · cases bare.symm.trans read
  have unquoted {quote : Char} :
      (valued.readString quote).map (fun next => (none, next)) ≠ .ok (some site, next) := by
    cases valued.readString quote <;> simp [Except.map]
  rw [same, readValue] at read
  split at read
  next => exact absurd read unquoted
  next => exact absurd read unquoted
  next front =>
    cases read
    exact ⟨valued, _, passes, front, rfl, rfl⟩
  next => cases read

/-- An attribute is at fault from its name or its quote on. -/
theorem At.lies_of_readAttribute {character : Char} {following : List Char}
    (place : reader.At source passed) (front : reader.rest = character :: following)
    (starts : isAttrNameStart character) (failed : reader.readAttribute = .error fault) :
    fault.Lies source := by
  rcases reader.readAttribute_eq with ⟨next, bare⟩ | ⟨valued, name, passes, same⟩
  · cases bare.symm.trans failed
  · exact place.lies_of_readValue passes
      ⟨character, by simp [front], isBlank_of_attrNameStart starts⟩ (same.symm.trans failed)

/-! ### Faults of steps -/

/-- Whether the modes of a reader remember stretches among the characters passed. -/
def Marked (reader : Reader) (passed : List Char) : Prop :=
  ∀ mode ∈ reader.modes, ∀ span ∈ mode.mark?, span.Within passed

/-- A computation followed by another fails if one of them does. -/
theorem bind_eq_error {α β : Type} {first : Except Fault α} {then_ : α → Except Fault β}
    (failed : (first >>= then_) = .error fault) :
    first = .error fault ∨ ∃ middle, first = .ok middle ∧ then_ middle = .error fault := by
  cases first with
  | error other =>
      cases failed
      exact .inl rfl
  | ok middle => exact .inr ⟨middle, rfl, failed⟩

/-- Turning pending text into a token reads nothing. -/
theorem At.flushText (place : reader.At source passed) : reader.flushText.At source passed := by
  unfold Reader.flushText
  split <;> exact place

/-- Turning pending code into a token reads nothing. -/
theorem At.flushPiece (place : reader.At source passed) (site : Site) (closing : Bool) :
    (reader.flushPiece site closing).At source passed := by
  unfold Reader.flushPiece
  split <;> exact place

/-- A fault that is met in text. -/
theorem At.lies_of_stepText (place : reader.At source passed)
    (within : ∀ tag ∈ parent, tag.span.Within passed)
    (failed : reader.stepText parent outer = .error fault) : fault.Lies source := by
  unfold stepText at failed
  split at failed
  next =>
    split at failed
    next tag =>
      cases failed
      exact place.1 ▸ Fault.lies_of_within (within tag rfl)
    next => cases failed
  next => cases failed
  next front =>
    rcases bind_eq_error failed with undeclared | ⟨declared, -, further⟩
    · exact place.flushText.lies_of_readDeclaration (by rw [rest_flushText, front]) undeclared
    · cases further
  next => cases failed
  next =>
    split at failed
    next closes =>
      rcases bind_eq_error failed with unclosed | ⟨closed, -, further⟩
      · exact place.flushText.lies_of_closeTag (by rwa [rest_flushText]) within unclosed
      · cases further
    next =>
      split at failed
      next opens =>
        rcases bind_eq_error failed with unopened | ⟨opened, -, further⟩
        · exact place.flushText.lies_of_openTag (by rwa [rest_flushText]) unopened
        · cases further
      next => cases failed

/-- A fault that is met among attributes. -/
theorem At.lies_of_stepAttributes {tag : OpenTag} (place : reader.At source passed)
    (within : tag.span.Within passed)
    (failed : reader.stepAttributes tag outer = .error fault) : fault.Lies source := by
  have blanked := place.skip (reader.rest.takeWhile isBlank).length
  have stays : reader.skipBlank.Passes reader.skipBlank :=
    ⟨[], ⟨rfl, rfl⟩, .inr (leadsSolid_skipBlank reader)⟩
  have related : ∀ span ∈ some tag.span, span.Within
      (passed ++ reader.rest.take (reader.rest.takeWhile isBlank).length) := by
    simpa using within.grow _
  unfold stepAttributes at failed
  simp only [] at failed
  split at failed
  next =>
    cases failed
    exact place.1 ▸ Fault.lies_of_within within
  next => cases failed
  next => cases failed
  next => cases failed
  next front =>
    cases failed
    exact At.lies blanked stays ⟨'{', by rw [front]; rfl, by decide⟩ related
  next character following _ _ _ _ front =>
    have solid := leadsSolid_skipBlank reader character (by rw [front]; rfl)
    split at failed
    next starts =>
      rcases bind_eq_error failed with unread | ⟨⟨site, named⟩, -, further⟩
      · exact At.lies_of_readAttribute blanked front starts unread
      · cases site <;> cases further
    next =>
      cases failed
      exact At.lies blanked stays ⟨character, by rw [front]; rfl, solid⟩ related

/-- A fault that is met within an expression. -/
theorem At.lies_of_stepExpression (place : reader.At source passed)
    (within : site.opening.Within passed)
    (failed : reader.stepExpression site outer = .error fault) : fault.Lies source := by
  unfold stepExpression at failed
  simp only [] at failed
  split at failed
  · cases failed
    exact place.1 ▸ Fault.lies_of_within within
  split at failed
  · split at failed <;> cases failed
  split at failed
  · cases failed
  split at failed
  · split at failed <;> cases failed
  split at failed
  next markup =>
    rcases bind_eq_error failed with unopened | ⟨opened, -, further⟩
    · refine (place.flushPiece site false).lies_of_openTag ?_ unopened
      rw [rest_flushPiece]
      exact (Bool.and_eq_true_iff.mp markup).1
    · cases further
  next => cases failed

/-- Every fault of a reader lies in the source. -/
theorem At.lies_of_step (place : reader.At source passed) (marked : reader.Marked passed)
    (failed : reader.step = .error fault) : fault.Lies source := by
  unfold step at failed
  split at failed
  next => cases failed
  next parent outer modes =>
    rw [Marked, modes] at marked
    refine place.lies_of_stepText (fun tag isParent => ?_) failed
    cases isParent
    exact marked _ List.mem_cons_self _ rfl
  next tag outer modes =>
    rw [Marked, modes] at marked
    exact place.lies_of_stepAttributes (marked _ List.mem_cons_self _ rfl) failed
  next site outer modes =>
    rw [Marked, modes] at marked
    exact place.lies_of_stepExpression (marked _ List.mem_cons_self _ rfl) failed

/-! ### Whole readings -/

/-- An opened tag remembers the stretch of its mark and its name. -/
theorem span_of_openTag {tag : OpenTag} (opens : opensTag reader.rest)
    (opened : reader.openTag = .ok (tag, next)) :
    tag.span = ⟨reader.position, next.position⟩ ∧
      ∃ inside, reader.Crosses inside next ∧ IsSolid inside := by
  obtain ⟨letter, following, front, isLetter⟩ := exists_of_opensTag opens
  have named : (reader.skip 1).rest = letter :: following := by simp [Reader.skip, front]
  have crosses := (crosses_skip (show reader.rest = ['<'] ++ _ from front)).trans
    (crosses_takeWhile (reader.skip 1) isTagNameChar)
  have solid : IsSolid (['<'] ++ (reader.skip 1).rest.takeWhile isTagNameChar) := by
    rw [named]
    exact (IsSolid.of_ends rfl rfl (by decide) (by decide)).append (isSolid_tagName isLetter)
  unfold openTag at opened
  simp only [] at opened
  split at opened
  · cases opened
  split at opened
  · cases opened
  cases opened
  exact ⟨rfl, _, crosses, solid⟩

/-- The stretch of a tag that is opened lies among the characters passed. -/
theorem At.within_of_openTag {tag : OpenTag} (place : reader.At source passed)
    (opens : opensTag reader.rest) (opened : reader.openTag = .ok (tag, next))
    (whole : source = reached ++ next.rest) : tag.span.Within reached := by
  obtain ⟨span, inside, crosses, solid⟩ := span_of_openTag opens opened
  rw [span]
  exact place.within crosses solid whole

/-- The stretch of a delimiter that is passed lies among the characters passed. -/
theorem At.within_of_openSite {kind : TokenKind} {delimiter : String}
    (place : reader.At source passed) (front : reader.rest = delimiter.toList ++ following)
    (solid : IsSolid delimiter.toList)
    (whole : source = reached ++ (reader.openSite kind delimiter).2.rest) :
    (reader.openSite kind delimiter).1.opening.Within reached := by
  have crosses := crosses_skip front
  rw [String.length_toList] at crosses
  exact place.within crosses solid whole

/-- The delimiter that opens the value of an attribute lies among the characters
passed. -/
theorem At.within_of_readAttribute (place : reader.At source passed)
    (read : reader.readAttribute = .ok (some site, next))
    (whole : source = reached ++ next.rest) : site.opening.Within reached := by
  obtain ⟨valued, following, ⟨inside, crosses, -⟩, front, rfl, rfl⟩ :=
    openSite_of_readAttribute read
  exact (place.crosses crosses).within_of_openSite front
    (.of_ends rfl rfl (by decide) (by decide)) whole

/-- Where a reader gets to, it has passed more characters. -/
theorem At.exists_more (place : reader.At source passed) (target : next.At source reached)
    (shorter : next.rest.length ≤ reader.rest.length) : ∃ more, reached = passed ++ more := by
  rcases List.append_eq_append_iff.mp (place.1.symm.trans target.1) with
    ⟨more, same, -⟩ | ⟨more, same, split⟩
  · exact ⟨more, same⟩
  · have length := congrArg List.length split
    rw [List.length_append] at length
    obtain rfl : more = [] := List.length_eq_zero_iff.mp (by omega)
    exact ⟨[], by simpa using same.symm⟩

/-- Every move keeps what the modes remember among the characters passed. -/
theorem Moves.marked (move : reader.Moves next) (place : reader.At source passed)
    (target : next.At source reached) (marked : reader.Marked passed) : next.Marked reached := by
  obtain ⟨more, grown⟩ := place.exists_more target (Nat.le_of_lt (step_shrinks move.step_eq))
  -- What is remembered stays among the characters passed. Only a move that opens a tag or
  -- an expression has something to add.
  have old : reader.Marked reached := fun mode member span isMark =>
    grown ▸ (marked mode member span isMark).grow more
  have blanked := place.skip (reader.rest.takeWhile isBlank).length
  rw [Marked] at old
  cases move with
  | escape => exact old
  | literal => exact old
  | declare modes =>
      rw [modes] at old
      exact old
  | openChildSite modes front =>
      rw [modes] at old
      refine List.forall_mem_cons.mpr ⟨fun span isMark => ?_, old⟩
      cases isMark
      exact place.flushText.within_of_openSite (by rw [rest_flushText, front]; rfl)
        (.of_ends rfl rfl (by decide) (by decide)) target.1
  | closeElement modes =>
      rw [modes] at old
      exact (List.forall_mem_cons.mp old).2
  | openChild modes opens opened =>
      rw [modes] at old
      refine List.forall_mem_cons.mpr ⟨fun span isMark => ?_, old⟩
      cases isMark
      exact place.flushText.within_of_openTag (by rwa [rest_flushText]) opened target.1
  | selfClose modes =>
      rw [modes] at old
      exact (List.forall_mem_cons.mp old).2
  | endTag modes =>
      rw [modes] at old
      exact List.forall_mem_cons.mpr (List.forall_mem_cons.mp old)
  | openSpread modes front =>
      rw [modes] at old
      refine List.forall_mem_cons.mpr ⟨fun span isMark => ?_, old⟩
      cases isMark
      exact At.within_of_openSite blanked front (.of_ends rfl rfl (by decide) (by decide)) target.1
  | @nameAttribute tag outer character following next site modes front starts read =>
      rw [modes] at old
      cases site with
      | none => exact old
      | some site =>
          refine List.forall_mem_cons.mpr ⟨fun span isMark => ?_, old⟩
          cases isMark
          exact At.within_of_readAttribute blanked read target.1
  | quoteEscape modes =>
      rw [modes] at old
      exact old
  | quoteCharacter modes =>
      rw [modes] at old
      exact List.forall_mem_cons.mpr (List.forall_mem_cons.mp old)
  | openBrace modes =>
      rw [modes] at old
      exact List.forall_mem_cons.mpr (List.forall_mem_cons.mp old)
  | closeBrace modes =>
      rw [modes] at old
      exact List.forall_mem_cons.mpr (List.forall_mem_cons.mp old)
  | closeSite modes =>
      rw [modes] at old
      exact (List.forall_mem_cons.mp old).2
  | openEmbedded modes unquoted opens starts opened =>
      rw [modes] at old
      refine List.forall_mem_cons.mpr ⟨fun span isMark => ?_,
        List.forall_mem_cons.mpr (List.forall_mem_cons.mp old)⟩
      cases isMark
      refine (place.flushPiece _ false).within_of_openTag ?_ opened target.1
      rwa [rest_flushPiece]
  | code modes =>
      rw [modes] at old
      exact List.forall_mem_cons.mpr (List.forall_mem_cons.mp old)

/-- Whether a reader keeps track of a source and of where its modes began. -/
structure Remembers (reader : Reader) (source : List Char) : Prop where
  tracks : reader.Tracks source
  marked : ∃ passed, reader.At source passed ∧ reader.Marked passed

/-- Every move keeps track of where modes began. -/
theorem Moves.remembers (move : reader.Moves next) (remembers : reader.Remembers source) :
    next.Remembers source := by
  obtain ⟨passed, place, marked⟩ := remembers.marked
  have tracks := move.tracks remembers.tracks
  obtain ⟨before, stretch, target, -⟩ := tracks.stretch
  exact ⟨tracks, before ++ stretch, target, move.marked place target marked⟩

/-- At the start of a source there is nothing to remember. -/
theorem remembers_start (source : String) : (Reader.start source).Remembers source.toList := by
  refine ⟨tracks_start source, [], ⟨rfl, rfl⟩, fun mode member => ?_⟩
  obtain rfl := List.mem_singleton.mp member
  exact fun span isMark => by cases isMark

end Reader

/-- A source is rejected for the fault that is met while it is read. -/
theorem Token.read_eq_error_iff {source : String} {fault : Fault} :
    Token.read source = .error fault ↔ (Reader.start source).run.fault = some fault := by
  unfold Token.read
  simp only []
  split
  next found faulty => simp [faulty]
  next faultless => simp [faultless]

/-- A fault that is met while a source is read lies in it. -/
theorem Token.lies_of_read {source : String} {fault : Fault}
    (failed : Token.read source = .error fault) : fault.Lies source.toList := by
  obtain ⟨last, remembers, outcome⟩ := @Reader.exists_last (Reader.start source)
    (·.Remembers source.toList) Reader.Moves.remembers (Reader.remembers_start source)
  obtain ⟨passed, place, marked⟩ := remembers.marked
  unfold Token.read at failed
  simp only [] at failed
  split at failed
  next found faulty =>
    cases failed
    rcases outcome with ⟨fault, stepped, same⟩ | ⟨-, faultless⟩
    · cases same.symm.trans faulty
      exact place.lies_of_step marked stepped
    · cases faultless.symm.trans faulty
  next => cases failed

end MarkupTemplate
