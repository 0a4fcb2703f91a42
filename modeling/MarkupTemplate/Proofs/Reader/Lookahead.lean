import MarkupTemplate.Proofs.Reader.Nearness
import MarkupTemplate.Proofs.Reader.OpenTags

/-!
# How far a reader looks ahead

To decide what stands in front of it, a reader looks at no more than four characters
behind the place it gets to. So what it does there is the same whatever follows them:
a move that leaves so many characters of a source is one without what follows the
source, and a fault that is found at a place, with so many characters behind it, is
the same fault when something else follows.
-/

namespace MarkupTemplate

open Spelling Text

/-- Whether a fault is of a kind that is found at a place, and not by coming to the end. -/
def Fault.IsLocal (fault : Fault) : Prop :=
  fault.diagnostic.kind ∈ [Diagnostic.Kind.invalidTagName, .nestingTooDeep, .malformedAttribute,
    .mismatchedCloseTag, .unexpectedCloseTag]

/-- Whether a stretch ends at least a number of characters in front of the end of a source. -/
def Span.EndsAhead (span : Span) (count : Nat) (source : String) : Prop :=
  ∃ before behind : String, source = before ++ behind ∧ count ≤ behind.length ∧
    span.stop.byte ≤ before.utf8ByteSize

namespace Reader

variable {reader next : Reader} {behind : List Char} {fault : Fault}
  {parent : Option OpenTag} {site : Option Site}

/-! ### What is left -/

/-- Characters at the front of a source lie in its first part if that is long enough. -/
theorem exists_front {characters following : List Char} (front : List Char)
    (whole : characters ++ behind = front ++ following) (long : front.length ≤ characters.length) :
    ∃ more, characters = front ++ more ∧ following = more ++ behind := by
  rcases List.append_eq_append_iff.mp whole with ⟨more, split, rest⟩ | ⟨more, split, rest⟩
  · have length := congrArg List.length split
    rw [List.length_append] at length
    obtain rfl : more = [] := List.length_eq_zero_iff.mp (by omega)
    exact ⟨[], by simpa using split.symm, by simpa using rest.symm⟩
  · exact ⟨more, split, rest⟩

/-- Where a predicate leaves more than what follows, it stops in front of that. -/
theorem dropWhile_append_of_left {accepts : Char → Bool} {characters : List Char}
    (left : behind.length < ((characters ++ behind).dropWhile accepts).length) :
    characters.dropWhile accepts ≠ [] ∧
      (characters ++ behind).dropWhile accepts = characters.dropWhile accepts ++ behind := by
  rw [List.dropWhile_append] at left ⊢
  by_cases stops : characters.dropWhile accepts = []
  · rw [stops, List.isEmpty_nil, if_pos rfl] at left
    have shorter := (List.dropWhile_sublist accepts (l := behind)).length_le
    omega
  · exact ⟨stops, if_neg (by simpa using stops)⟩

/-- White space that leaves more than what follows is passed without it. -/
theorem skipBlank_of_left
    (left : behind.length < (reader.followedBy behind).skipBlank.rest.length) :
    reader.skipBlank.rest ≠ [] ∧
      (reader.followedBy behind).skipBlank = reader.skipBlank.followedBy behind := by
  rw [rest_skipBlank, rest_followedBy] at left
  have stops : reader.skipBlank.rest ≠ [] := by
    rw [rest_skipBlank]
    exact (dropWhile_append_of_left left).1
  exact ⟨stops, skipBlank_followedBy stops behind⟩

/-- The name of an attribute that leaves more than what follows stops in front of that. -/
theorem passName_of_left (left : behind.length < (reader.followedBy behind).passName.rest.length) :
    reader.passName.rest ≠ [] := by
  rw [rest_passName, rest_followedBy] at left
  have shorter := (List.dropWhile_sublist isBlank
    (l := (reader.rest ++ behind).dropWhile isAttrNameChar)).length_le
  obtain ⟨-, named⟩ := dropWhile_append_of_left (Nat.lt_of_lt_of_le left shorter)
  rw [named] at left
  rw [rest_passName]
  exact (dropWhile_append_of_left left).1

/-- An equals sign in front of more than what follows stands in front of that, and so
does what is behind it. -/
theorem passEquals_of_left {following : List Char}
    (front : (reader.followedBy behind).passName.rest = '=' :: following)
    (left : behind.length < (reader.followedBy behind).passName.passEquals.rest.length) :
    (∃ more, reader.passName.rest = '=' :: more) ∧ reader.passName.passEquals.rest ≠ [] := by
  rw [rest_passEquals, front] at left
  have shorter := (List.dropWhile_sublist isBlank (l := following)).length_le
  have goesOn : reader.passName.rest ≠ [] := by
    apply passName_of_left
    rw [front, List.length_cons]
    exact Nat.lt_succ_of_lt (Nat.lt_of_lt_of_le left shorter)
  rw [passName_followedBy goesOn, rest_followedBy] at front
  obtain ⟨more, here, rfl⟩ := exists_front ['='] front
    (List.length_pos_of_ne_nil goesOn)
  refine ⟨⟨more, here⟩, ?_⟩
  rw [rest_passEquals, here]
  exact (dropWhile_append_of_left left).1

/-- A closing tag that leaves more than what follows does not break off without it. -/
theorem closeTag_of_left (long : 2 ≤ reader.rest.length)
    (left : behind.length <
      (((reader.followedBy behind).skip 2).skipWhile isTagNameChar).skipBlank.rest.length) :
    ((reader.skip 2).skipWhile isTagNameChar).skipBlank.rest ≠ [] := by
  have marked := skip_followedBy long behind
  rw [marked, rest_skipBlank, skipWhile, rest_skip, drop_length_takeWhile, rest_followedBy] at left
  have shorter := (List.dropWhile_sublist isBlank
    (l := ((reader.skip 2).rest ++ behind).dropWhile isTagNameChar)).length_le
  obtain ⟨-, named⟩ := dropWhile_append_of_left (Nat.lt_of_lt_of_le left shorter)
  rw [named] at left
  rw [rest_skipBlank, skipWhile, rest_skip, drop_length_takeWhile]
  exact (dropWhile_append_of_left left).1

/-- Whether a tag is closed shows in three characters. -/
theorem closesTag_append_of_long {characters : List Char} (long : 3 ≤ characters.length)
    (behind : List Char) : closesTag (characters ++ behind) = closesTag characters := by
  match characters, long with
  | first :: second :: third :: rest, _ =>
      by_cases slash : second = '/'
      · subst slash
        exact (closesTag_slash ..).trans (closesTag_slash ..).symm
      · exact (closesTag_of_ne slash _).trans (closesTag_of_ne slash _).symm

/-- Whether a character is text of its own shows in the two characters behind it. -/
theorem isLiteral_append_iff {character : Char} {following : List Char}
    (long : 2 ≤ following.length) (behind : List Char) :
    IsLiteral character (following ++ behind) ↔ IsLiteral character following := by
  have closes : closesTag (character :: (following ++ behind)) =
      closesTag (character :: following) :=
    @closesTag_append_of_long (character :: following) (by simpa using by omega) behind
  have opens : opensTag (character :: (following ++ behind)) = opensTag (character :: following) :=
    @opensTag_append (character :: following) (by simpa using by omega) behind
  have ahead : (following ++ behind).head? = following.head? :=
    List.head?_append_of_ne_nil _ (List.ne_nil_of_length_pos (by omega))
  constructor
  · rintro ⟨notSite, notClosing, notOpening, notEscape⟩
    exact ⟨notSite, closes ▸ notClosing, opens ▸ notOpening, ahead ▸ notEscape⟩
  · rintro ⟨notSite, notClosing, notOpening, notEscape⟩
    exact ⟨notSite, closes ▸ notClosing, opens ▸ notOpening, ahead ▸ notEscape⟩

/-- Text with three characters in front is the same whatever follows. -/
theorem keepsText_of_long (long : 3 ≤ reader.rest.length) (behind : List Char) :
    reader.KeepsText behind := by
  intro parent outer character following modes front isLiteral
  rw [front, List.length_cons] at long
  exact (isLiteral_append_iff (by omega) behind).mpr isLiteral

/-! ### Constructs -/

/-- A computation whose result is changed succeeds as it does. -/
theorem map_eq_ok {α β : Type} {first : Except Fault α} {change : α → β} {result : β}
    (succeeded : first.map change = .ok result) :
    ∃ value, first = .ok value ∧ change value = result := by
  cases first with
  | error other => cases succeeded
  | ok value => exact ⟨value, rfl, Except.ok.inj succeeded⟩

/-- A tag is opened without what follows if its name stops in front of that. -/
theorem openTag_of_followedBy {tag : OpenTag} (nonempty : reader.rest ≠ [])
    (opened : (reader.followedBy behind).openTag = .ok (tag, next))
    (left : behind.length < next.rest.length) :
    ∃ inner, reader.openTag = .ok (tag, inner) ∧ next = inner.followedBy behind := by
  have rest := (opensTag_of_openTag opened).rest
  rw [rest_followedBy, List.drop_append_of_le_length (List.length_pos_of_ne_nil nonempty)] at rest
  rw [openTag_followedBy (dropWhile_append_of_left (rest ▸ left)).1] at opened
  obtain ⟨⟨same, inner⟩, here, changed⟩ := map_eq_ok opened
  cases changed
  exact ⟨inner, here, rfl⟩

/-- A tag is closed without what follows if its bracket stands in front of that. -/
theorem closeTag_of_followedBy (long : 2 ≤ reader.rest.length)
    (closed : (reader.followedBy behind).closeTag parent = .ok next)
    (left : behind.length ≤ next.rest.length) :
    ∃ inner, reader.closeTag parent = .ok inner ∧ next = inner.followedBy behind := by
  obtain ⟨tag, following, rfl, front, name⟩ := exists_of_closeTag closed
  have rest : next.rest = following := by
    rw [closeTag_eq front name] at closed
    cases closed
    simp [front]
  have goesOn : ((reader.skip 2).skipWhile isTagNameChar).skipBlank.rest ≠ [] := by
    apply closeTag_of_left long
    rw [front, List.length_cons, ← rest]
    omega
  rw [closeTag_followedBy goesOn] at closed
  obtain ⟨inner, here, changed⟩ := map_eq_ok closed
  exact ⟨inner, here, changed.symm⟩

/-- A declaration is read without what follows if it ends in front of that. -/
theorem readDeclaration_of_followedBy {following : List Char}
    (front : reader.rest = '{' :: '%' :: following)
    (declared : (reader.followedBy behind).readDeclaration = .ok next)
    (left : behind.length ≤ next.rest.length) :
    ∃ inner, reader.readDeclaration = .ok inner ∧ next = inner.followedBy behind := by
  obtain ⟨body, rest, cut⟩ := exists_of_readDeclaration declared
  have ahead : (reader.followedBy behind).rest.drop 2 = following ++ behind := by simp [front]
  rw [ahead] at cut
  have split := (Code.isDeclaration_of_cut cut).1
  have length : next.rest.length = rest.length := by
    rw [readDeclaration_eq (ahead ▸ cut)] at declared
    cases declared
    have total := congrArg List.length split
    simp at total
    simp [front]
    omega
  have closed : following ++ behind = (body ++ ['%', '}']) ++ rest := by simp [split]
  have total := congrArg List.length closed
  simp only [List.length_append] at total
  obtain ⟨more, here, rfl⟩ := exists_front _ closed (by rw [List.length_append]; omega)
  have cutHere : cutDeclaration [] none (reader.rest.drop 2) = some (body, more) := by
    have enclosed : reader.rest.drop 2 = body ++ '%' :: '}' :: more := by simp [front, here]
    rw [enclosed]
    rw [split] at cut
    exact cutDeclaration_behind cut more
  have read := readDeclaration_eq cutHere
  exact ⟨_, read, Except.ok.inj (declared.symm.trans (readDeclaration_followedBy read behind))⟩

/-- A quoted value is read without what follows if it ends in front of that. -/
theorem readString_of_followedBy {quote : Char} {following : List Char}
    (front : reader.rest = quote :: following)
    (read : (reader.followedBy behind).readString quote = .ok next)
    (left : behind.length ≤ next.rest.length) :
    ∃ inner, reader.readString quote = .ok inner ∧ next = inner.followedBy behind := by
  have ahead : (reader.followedBy behind).rest = quote :: (following ++ behind) := by simp [front]
  obtain ⟨value, rest, lacks, whole⟩ := exists_of_readString ahead read
  have length : next.rest.length = rest.length := by
    rw [readString_eq lacks whole] at read
    cases read
    rw [rest_emit, rest_skip, whole]
    simp
  have split : reader.rest ++ behind = (quote :: (value ++ [quote])) ++ rest := by
    rw [← rest_followedBy, whole]
    simp
  have total := congrArg List.length split
  simp only [List.length_append] at total
  obtain ⟨more, here, rfl⟩ := exists_front _ split (by omega)
  have readHere := @readString_eq reader quote value more lacks (by simp [here])
  exact ⟨_, readHere, Except.ok.inj (read.symm.trans (readString_followedBy readHere behind))⟩

/-- A value is read without what follows if it ends in front of that. -/
theorem readValue_of_followedBy {name : String} {origin : Position} (nonempty : reader.rest ≠ [])
    (read : (reader.followedBy behind).readValue name origin = .ok (site, next))
    (left : behind.length ≤ next.rest.length) :
    ∃ inner, reader.readValue name origin = .ok (site, inner) ∧ next = inner.followedBy behind := by
  obtain ⟨first, following, front⟩ := List.exists_cons_of_ne_nil nonempty
  have quoted {quote : Char} (isFirst : first = quote)
      (read : ((reader.followedBy behind).readString quote).map (fun next => (none, next)) =
        .ok (site, next)) :
      ∃ inner, (reader.readString quote).map (fun next => ((none : Option Site), next)) =
        .ok (site, inner) ∧ next = inner.followedBy behind := by
    obtain ⟨found, readThere, changed⟩ := map_eq_ok read
    cases changed
    obtain ⟨inner, readHere, same⟩ := readString_of_followedBy (isFirst ▸ front) readThere left
    exact ⟨inner, by rw [readHere]; rfl, same⟩
  have ahead : (reader.followedBy behind).rest = first :: (following ++ behind) := by simp [front]
  unfold readValue at read
  simp only [ahead] at read
  split at read
  next isFirst =>
    cases isFirst
    simp only [readValue, front]
    exact quoted rfl read
  next isFirst =>
    cases isFirst
    simp only [readValue, front]
    exact quoted rfl read
  next isFirst =>
    cases isFirst
    have within : "\x7b".length ≤ reader.rest.length := by
      rw [front]
      exact Nat.le_add_left 1 following.length
    rw [openSite_followedBy within] at read
    cases read
    simp only [readValue, front]
    exact ⟨_, rfl, rfl⟩
  next => cases read

/-- An attribute is read without what follows if it ends in front of that. -/
theorem readAttribute_of_followedBy
    (read : (reader.followedBy behind).readAttribute = .ok (site, next))
    (left : behind.length < next.rest.length) :
    ∃ inner, reader.readAttribute = .ok (site, inner) ∧ next = inner.followedBy behind := by
  rcases (reader.followedBy behind).passName_cases with ⟨following, front⟩ | bare
  · have shorter :
        next.rest.length < (reader.followedBy behind).passName.passEquals.rest.length := by
      rw [readAttribute_of_equals front] at read
      exact readValue_shrinks read
    obtain ⟨⟨more, here⟩, goesOn⟩ := passEquals_of_left front (left.trans shorter)
    rw [readAttribute_followedBy_of_equals here goesOn] at read
    rw [readAttribute_of_equals here]
    exact readValue_of_followedBy goesOn read left.le
  · rw [readAttribute_of_bare bare] at read
    cases read
    have goesOn := passName_of_left left
    have named := passName_followedBy goesOn behind
    rw [named, rest_followedBy, List.head?_append_of_ne_nil _ goesOn] at bare
    exact ⟨_, readAttribute_of_bare bare, named⟩

/-! ### Steps -/

/-- A move that leaves four characters in front of what follows the source is one
without it. -/
theorem Moves.of_followedBy (move : (reader.followedBy behind).Moves next)
    (left : behind.length + 4 ≤ next.rest.length) :
    ∃ inner, reader.Moves inner ∧ next = inner.followedBy behind := by
  have shorter := step_shrinks move.step_eq
  rw [rest_followedBy, List.length_append] at shorter
  have long : 5 ≤ reader.rest.length := by omega
  have nonempty : reader.rest ≠ [] := List.ne_nil_of_length_pos (by omega)
  -- Among attributes, the white space in front is passed first.
  have solid (fewer : next.rest.length < (reader.followedBy behind).skipBlank.rest.length) :
      (reader.followedBy behind).skipBlank = reader.skipBlank.followedBy behind ∧
        4 < reader.skipBlank.rest.length := by
    have blanked := (@skipBlank_of_left reader behind (by omega)).2
    rw [blanked, rest_followedBy, List.length_append] at fewer
    exact ⟨blanked, by omega⟩
  have passes {following : List Char} (front : List Char)
      (ahead : (reader.followedBy behind).skipBlank.rest = front ++ following)
      (positive : 0 < front.length) (rest : next.rest = following) :
      next.rest.length < (reader.followedBy behind).skipBlank.rest.length := by
    rw [ahead, rest, List.length_append]
    omega
  cases move with
  | escape modes front escapable =>
      obtain ⟨more, here, -⟩ := exists_front ['\\', _] front (by simp; omega)
      exact ⟨_, .escape modes here escapable, gather_followedBy (by simp [here]) ..⟩
  | literal modes front isLiteral =>
      obtain ⟨more, here, rfl⟩ := exists_front [_] front (by simp; omega)
      rw [here, List.singleton_append, List.length_cons] at long
      rw [isLiteral_append_iff (by omega)] at isLiteral
      exact ⟨_, .literal modes here isLiteral, gather_followedBy (by simp [here]) ..⟩
  | declare modes front declared =>
      obtain ⟨more, here, -⟩ := exists_front ['{', '%'] front (by simp; omega)
      rw [flushText_followedBy] at declared
      rw [rest_enter] at left
      obtain ⟨inner, readHere, rfl⟩ := readDeclaration_of_followedBy
        (by rw [rest_flushText]; exact here) declared (by omega)
      exact ⟨_, .declare modes here readHere, rfl⟩
  | openChildSite modes front noDeclaration =>
      obtain ⟨more, here, rfl⟩ := exists_front ['{'] front (by simp; omega)
      have goesOn : more ≠ [] := by
        rw [here, List.singleton_append, List.length_cons] at long
        exact List.ne_nil_of_length_pos (by omega)
      have within : "\x7b".length ≤ reader.flushText.rest.length := by
        rw [rest_flushText]
        exact List.length_pos_of_ne_nil nonempty
      rw [List.head?_append_of_ne_nil _ goesOn] at noDeclaration
      rw [flushText_followedBy, openSite_followedBy within]
      exact ⟨_, .openChildSite modes here noDeclaration, rfl⟩
  | closeElement modes closes closed =>
      rw [rest_followedBy, closesTag_append_of_long (by omega)] at closes
      rw [flushText_followedBy] at closed
      rw [rest_enter] at left
      obtain ⟨inner, closedHere, rfl⟩ := closeTag_of_followedBy (by rw [rest_flushText]; omega)
        closed (by omega)
      exact ⟨_, .closeElement modes closes closedHere, rfl⟩
  | openChild modes opens opened =>
      rw [rest_followedBy, opensTag_append (by omega)] at opens
      rw [flushText_followedBy] at opened
      rw [rest_enter] at left
      obtain ⟨inner, openedHere, rfl⟩ := openTag_of_followedBy (by rwa [rest_flushText]) opened
        (by omega)
      exact ⟨_, .openChild modes opens openedHere, rfl⟩
  | @selfClose tag outer following modes front =>
      obtain ⟨blanked, goesOn⟩ := solid (passes ['/', '>'] front (by simp) (by simp [front]))
      rw [blanked] at front ⊢
      obtain ⟨more, here, -⟩ := exists_front ['/', '>'] front (by simp; omega)
      rw [skip_followedBy (by simp [here])]
      exact ⟨_, .selfClose modes here, rfl⟩
  | @endTag tag outer following modes front =>
      obtain ⟨blanked, goesOn⟩ := solid (passes ['>'] front (by simp) (by simp [front]))
      rw [blanked] at front ⊢
      obtain ⟨more, here, -⟩ := exists_front ['>'] front (by simp; omega)
      rw [skip_followedBy (by simp [here])]
      exact ⟨_, .endTag modes here, rfl⟩
  | @openSpread tag outer following modes front =>
      obtain ⟨blanked, goesOn⟩ := solid (passes ['{', '.', '.', '.'] front (by simp)
        (by rw [rest_enter]; exact rest_openSite front))
      have within : "\x7b...".length ≤ reader.skipBlank.rest.length := Nat.le_of_lt goesOn
      rw [blanked] at front ⊢
      obtain ⟨more, here, -⟩ := exists_front ['{', '.', '.', '.'] front within
      rw [openSite_followedBy within]
      exact ⟨_, .openSpread modes here, rfl⟩
  | nameAttribute modes front starts read =>
      have fewer := readAttribute_shrinks front starts read
      obtain ⟨blanked, goesOn⟩ := solid (by rwa [rest_enter])
      rw [blanked] at front read
      rw [rest_enter] at left
      obtain ⟨more, here, -⟩ := exists_front [_] front (by simp; omega)
      obtain ⟨inner, readHere, rfl⟩ := readAttribute_of_followedBy read (by omega)
      exact ⟨_, .nameAttribute modes here starts readHere, rfl⟩
  | quoteEscape modes quoted front =>
      obtain ⟨more, here, -⟩ := exists_front ['\\', _] front (by simp; omega)
      rw [gather_followedBy (by simp [here]), gather_followedBy (by simp [here])]
      exact ⟨_, .quoteEscape modes quoted here, rfl⟩
  | quoteCharacter modes quoted front noEscape =>
      obtain ⟨more, here, rfl⟩ := exists_front [_] front (by simp; omega)
      rw [gather_followedBy (by simp [here])]
      refine ⟨_, .quoteCharacter modes quoted here fun isEscape => ?_, rfl⟩
      exact (List.append_eq_nil_iff.mp (noEscape isEscape)).1
  | openBrace modes unquoted front =>
      obtain ⟨more, here, -⟩ := exists_front ['{'] front (by simp; omega)
      rw [gather_followedBy (by simp [here])]
      exact ⟨_, .openBrace modes unquoted here, rfl⟩
  | closeBrace modes unquoted front deep =>
      obtain ⟨more, here, -⟩ := exists_front ['}'] front (by simp; omega)
      rw [gather_followedBy (by simp [here])]
      exact ⟨_, .closeBrace modes unquoted here deep, rfl⟩
  | closeSite modes unquoted front last =>
      obtain ⟨more, here, -⟩ := exists_front ['}'] front (by simp; omega)
      rw [flushPiece_followedBy, skip_one_followedBy ((rest_flushPiece ..).trans here)]
      exact ⟨_, .closeSite modes unquoted here last, rfl⟩
  | openEmbedded modes unquoted opens starts opened =>
      rw [rest_followedBy, opensTag_append (by omega)] at opens
      rw [flushPiece_followedBy] at opened
      rw [rest_enter] at left
      obtain ⟨inner, openedHere, rfl⟩ := openTag_of_followedBy (by rwa [rest_flushPiece]) opened
        (by omega)
      exact ⟨_, .openEmbedded modes unquoted opens starts openedHere, rfl⟩
  | code modes unquoted front notOpening notClosing noMarkup =>
      obtain ⟨more, here, -⟩ := exists_front [_] front (by simp; omega)
      rw [rest_followedBy, opensTag_append (by omega)] at noMarkup
      rw [gather_followedBy (by simp [here])]
      exact ⟨_, .code modes unquoted here notOpening notClosing noMarkup, rfl⟩

/-! ### Faults -/

theorem leadsTo_passName (reader : Reader) : reader.LeadsTo reader.passName := by
  have named : reader.LeadsTo ((reader.skipWhile isAttrNameChar).emit .attrName
    (String.ofList (reader.rest.takeWhile isAttrNameChar)) reader.position) := leadsTo_skip ..
  exact named.trans (leadsTo_skip ..)

theorem leadsTo_passEquals (reader : Reader) : reader.LeadsTo reader.passEquals := by
  have marked : reader.LeadsTo ((reader.skip 1).emit .attrEquals "=" reader.position) :=
    leadsTo_skip ..
  exact marked.trans (leadsTo_skip ..)

/-- Whether what fails is at fault up to a place, and fails alike whatever follows if four
characters stand behind that place, in front of what follows the source. -/
def Settles (reader : Reader) (behind : List Char) (fault : Fault) (fails : Reader → Prop) : Prop :=
  ∃ stop, (reader.followedBy behind).LeadsTo stop ∧ fault.span.stop = stop.position ∧
    (behind.length + 4 ≤ stop.rest.length → ∀ other, fails (reader.followedBy other))

/-- Four characters behind a place in front of what follows the source stand behind it in
the source. -/
theorem LeadsTo.long {stop : Reader} (leads : (reader.followedBy behind).LeadsTo stop)
    (left : behind.length + 4 ≤ stop.rest.length) : 4 ≤ reader.rest.length := by
  have shorter := leads.length_le
  rw [rest_followedBy, List.length_append] at shorter
  omega

/-- What fails at a place lets what leads there fail alike. -/
theorem Settles.before {first : Reader} {fails earlier : Reader → Prop}
    (settles : first.Settles behind fault fails)
    (leads : (reader.followedBy behind).LeadsTo (first.followedBy behind))
    (further : 4 ≤ first.rest.length → ∀ other, fails (first.followedBy other) →
      earlier (reader.followedBy other)) :
    reader.Settles behind fault earlier := by
  obtain ⟨stop, leadsOn, same, elsewhere⟩ := settles
  refine ⟨stop, leads.trans leadsOn, same, fun left other => ?_⟩
  exact further (leadsOn.long left) other (elsewhere left other)

/-- A tag that cannot be opened is at fault up to the end of its name. -/
theorem settles_openTag (failed : (reader.followedBy behind).openTag = .error fault) :
    reader.Settles behind fault (·.openTag = .error fault) := by
  have leads : (reader.followedBy behind).LeadsTo
      (((reader.followedBy behind).skip 1).skipWhile isTagNameChar) :=
    (leadsTo_skip _ 1).trans (leadsTo_skip ..)
  refine ⟨_, leads, ?_, fun left other => ?_⟩
  · unfold openTag at failed
    simp only [] at failed
    split at failed
    · cases failed
      rfl
    split at failed
    · cases failed
      rfl
    · cases failed
  · have long := leads.long left
    rw [skipWhile, rest_skip, drop_length_takeWhile, rest_skip, rest_followedBy,
      List.drop_append_of_le_length (by omega)] at left
    have stops := (dropWhile_append_of_left (Nat.lt_of_lt_of_le (by omega) left)).1
    rw [openTag_followedBy stops] at failed
    beta_reduce
    rw [openTag_followedBy stops, map_eq_error failed]
    rfl

/-- A closing tag that closes another one, or none, is at fault up to its bracket. -/
theorem settles_closeTag (failed : (reader.followedBy behind).closeTag parent = .error fault)
    (isLocal : fault.IsLocal) :
    reader.Settles behind fault (·.closeTag parent = .error fault) := by
  have ending : (reader.followedBy behind).LeadsTo
      (((reader.followedBy behind).skip 2).skipWhile isTagNameChar).skipBlank :=
    ((leadsTo_skip _ 2).trans (leadsTo_skip ..)).trans (leadsTo_skipBlank _)
  have leads := ending.trans (leadsTo_skip _ 1)
  refine ⟨_, leads, ?_, fun left other => ?_⟩
  · unfold closeTag at failed
    simp only [] at failed
    split at failed
    next =>
      split at failed
      · cases failed
        rfl
      split at failed
      · cases failed
      · cases failed
        rfl
    next =>
      cases failed
      simp [Fault.IsLocal, Fault.diagnostic, Cause.kind] at isLocal
  · have long := leads.long left
    rw [rest_skip, List.length_drop] at left
    have goesOn := @closeTag_of_left reader behind (by omega) (by omega)
    rw [closeTag_followedBy goesOn] at failed
    beta_reduce
    rw [closeTag_followedBy goesOn, map_eq_error failed]
    rfl

/-- Without a quote or a brace in front, a value is missing. -/
theorem readValue_missing {name : String} {origin : Position}
    (missing : ∀ first ∈ reader.rest.head?, first ∉ ['"', '\'', '{']) :
    reader.readValue name origin =
      .error ⟨.missingValue name, ⟨origin, reader.position⟩, none⟩ := by
  unfold readValue
  split
  next front => simp [front] at missing
  next front => simp [front] at missing
  next front => simp [front] at missing
  next => rfl

/-- An attribute that does not break off is at fault for a missing value. -/
theorem missing_of_readAttribute (failed : reader.readAttribute = .error fault)
    (isLocal : fault.IsLocal) :
    (∃ following, reader.passName.rest = '=' :: following) ∧
      (∀ first ∈ reader.passName.passEquals.rest.head?, first ∉ ['"', '\'', '{']) ∧
      fault = ⟨.missingValue (String.ofList (reader.rest.takeWhile isAttrNameChar)),
        ⟨reader.position, reader.passName.passEquals.position⟩, none⟩ := by
  have noString {quote : Char} : fault.cause ≠ .openString quote := by
    intro cause
    simp [Fault.IsLocal, Fault.diagnostic, cause, Cause.kind] at isLocal
  rcases reader.passName_cases with ⟨following, front⟩ | bare
  · rw [readAttribute_of_equals front] at failed
    refine ⟨⟨following, front⟩, ?_⟩
    unfold readValue at failed
    split at failed
    next => exact absurd (readString_eq_error (map_eq_error failed)) noString
    next => exact absurd (readString_eq_error (map_eq_error failed)) noString
    next => cases failed
    next noDouble noSingle noBrace =>
      cases failed
      refine ⟨fun first isFirst => ?_, rfl⟩
      obtain ⟨more, front⟩ := List.head?_eq_some_iff.mp isFirst
      simp only [List.mem_cons, List.not_mem_nil, or_false, not_or]
      refine ⟨?_, ?_, ?_⟩
      · rintro rfl
        exact noDouble _ front
      · rintro rfl
        exact noSingle _ front
      · rintro rfl
        exact noBrace _ front
  · rw [readAttribute_of_bare bare] at failed
    cases failed

/-- The value of an attribute is missing whatever follows the character in its place. -/
theorem readAttribute_error_elsewhere
    (failed : (reader.followedBy behind).readAttribute = .error fault) (isLocal : fault.IsLocal)
    (left : behind.length < (reader.followedBy behind).passName.passEquals.rest.length)
    (other : List Char) : (reader.followedBy other).readAttribute = .error fault := by
  obtain ⟨⟨following, front⟩, missing, -⟩ := missing_of_readAttribute failed isLocal
  obtain ⟨⟨more, here⟩, goesOn⟩ := passEquals_of_left front left
  have named := passName_followedBy (here ▸ List.cons_ne_nil _ _) behind
  rw [named, passEquals_followedBy goesOn] at missing
  have missingElsewhere : ∀ first ∈ (reader.passName.passEquals.followedBy other).rest.head?,
      first ∉ ['"', '\'', '{'] := by
    rw [rest_followedBy, List.head?_append_of_ne_nil _ goesOn] at missing ⊢
    exact missing
  rw [readAttribute_followedBy_of_equals here goesOn, readValue_missing missing] at failed
  rw [readAttribute_followedBy_of_equals here goesOn, readValue_missing missingElsewhere]
  exact failed

/-- A fault that is found at a place is found there whatever follows. -/
theorem Fails.settles (fails : (reader.followedBy behind).Fails fault) (isLocal : fault.IsLocal) :
    reader.Settles behind fault (·.Fails fault) := by
  have text : (reader.followedBy behind).LeadsTo (reader.flushText.followedBy behind) := by
    rw [← flushText_followedBy]
    exact leadsTo_flushText _
  have blank := leadsTo_skipBlank (reader.followedBy behind)
  have solid (left : behind.length + 4 ≤ (reader.followedBy behind).skipBlank.rest.length) :=
    @skipBlank_of_left reader behind (by omega)
  cases fails with
  | unclosed => simp [Fault.IsLocal, Fault.diagnostic, Cause.kind] at isLocal
  | unfinished => simp [Fault.IsLocal, Fault.diagnostic, Cause.kind] at isLocal
  | openExpression => simp [Fault.IsLocal, Fault.diagnostic, Cause.kind] at isLocal
  | declare modes front undeclared =>
      have cause := readDeclaration_eq_error undeclared
      simp [Fault.IsLocal, Fault.diagnostic, cause, Cause.kind] at isLocal
  | closeElement modes closes unclosed =>
      rw [flushText_followedBy] at unclosed
      refine (settles_closeTag unclosed isLocal).before text fun long other failed => ?_
      rw [rest_flushText] at long
      rw [rest_followedBy, closesTag_append_of_long (by omega)] at closes
      refine .closeElement modes (closesTag_append closes other) ?_
      rwa [flushText_followedBy]
  | openChild modes opens unopened =>
      rw [flushText_followedBy] at unopened
      refine (settles_openTag unopened).before text fun long other failed => ?_
      rw [rest_flushText] at long
      rw [rest_followedBy, opensTag_append (by omega)] at opens
      refine .openChild modes (opensTag_append_of_opens opens other) ?_
      rwa [flushText_followedBy]
  | @openEmbedded site outer fault modes unquoted opens starts unopened =>
      have leads := leadsTo_flushPiece (reader.followedBy behind) site false
      rw [flushPiece_followedBy] at unopened leads
      refine (settles_openTag unopened).before leads fun long other failed => ?_
      rw [rest_flushPiece] at long
      rw [rest_followedBy, opensTag_append (by omega)] at opens
      refine .openEmbedded modes unquoted (opensTag_append_of_opens opens other) starts ?_
      rwa [flushPiece_followedBy]
  | nameAttribute modes front starts unread =>
      have stop := (missing_of_readAttribute unread isLocal).2.2
      have value := (leadsTo_passName (reader.followedBy behind).skipBlank).trans
        (leadsTo_passEquals _)
      refine ⟨_, blank.trans value, by rw [stop], fun left other => ?_⟩
      obtain ⟨goesOn, blanked⟩ := solid (left.trans value.length_le)
      have elsewhere := skipBlank_followedBy goesOn other
      rw [blanked] at front left unread
      obtain ⟨more, here, -⟩ := exists_front [_] front (List.length_pos_of_ne_nil goesOn)
      refine .nameAttribute modes (by rw [elsewhere, rest_followedBy, here]; rfl) starts ?_
      rw [elsewhere]
      exact readAttribute_error_elsewhere unread isLocal (by omega) other
  | bareExpression modes front noSpread =>
      refine ⟨_, blank, rfl, fun left other => ?_⟩
      obtain ⟨goesOn, blanked⟩ := solid left
      have elsewhere := skipBlank_followedBy goesOn other
      rw [blanked, rest_followedBy] at front left
      obtain ⟨more, here, rfl⟩ := exists_front ['{'] front (List.length_pos_of_ne_nil goesOn)
      rw [blanked, position_followedBy, ← @position_followedBy _ other, ← elsewhere]
      have ahead : (reader.followedBy other).skipBlank.rest = '{' :: (more ++ other) := by
        rw [elsewhere, rest_followedBy, here]
        rfl
      refine .bareExpression modes ahead fun following isSpread => ?_
      rw [here, List.length_append, List.length_append] at left
      obtain ⟨further, split, -⟩ := exists_front ['.', '.', '.'] isSpread (by simp at left ⊢; omega)
      exact noSpread (further ++ behind) (by rw [split]; rfl)
  | @strayCharacter tag outer character following modes front notStarting notSite notEnd
      notSelfClosing =>
      refine ⟨_, blank, rfl, fun left other => ?_⟩
      obtain ⟨goesOn, blanked⟩ := solid left
      have elsewhere := skipBlank_followedBy goesOn other
      rw [blanked, rest_followedBy] at front left
      obtain ⟨more, here, rfl⟩ := exists_front [_] front (List.length_pos_of_ne_nil goesOn)
      rw [blanked, position_followedBy, ← @position_followedBy _ other, ← elsewhere]
      have ahead : (reader.followedBy other).skipBlank.rest = character :: (more ++ other) := by
        rw [elsewhere, rest_followedBy, here]
        rfl
      refine .strayCharacter modes ahead notStarting notSite notEnd ?_
      have further : more ≠ [] := by
        rw [here, List.length_append, List.length_append] at left
        exact List.ne_nil_of_length_pos (by simp at left; omega)
      rw [List.head?_append_of_ne_nil _ further] at notSelfClosing ⊢
      exact notSelfClosing

/-! ### Whole readings -/

theorem followedBy_nil (reader : Reader) : reader.followedBy [] = reader := by
  simp [followedBy]

/-- Where a stretch ends in front of the end of a source, the characters between, and those
that follow the source, are left at its end. -/
theorem Tracks.le_length_of_stop {front following : String} {stop : Reader} {span : Span}
    {count : Nat} (tracks : reader.Tracks (front ++ following).toList)
    (leads : reader.LeadsTo stop) (same : span.stop = stop.position)
    (ahead : span.EndsAhead count front) :
    following.toList.length + count ≤ stop.rest.length := by
  obtain ⟨before, behind, rfl, long, within⟩ := ahead
  obtain ⟨passed, stretch, place, -⟩ := tracks.stretch
  obtain ⟨inside, crosses⟩ := leads
  obtain ⟨whole, position⟩ := place.crosses crosses
  rw [String.toList_append, String.toList_append, List.append_assoc] at whole
  rw [← String.length_toList] at long
  have rests : ∃ more, stop.rest = more ++ (behind.toList ++ following.toList) := by
    rcases List.append_eq_append_iff.mp whole with ⟨more, split, rest⟩ | ⟨more, split, rest⟩
    · have nothing : more = [] := by
        by_contra nonempty
        have further := Position.byte_lt_after (Position.after {} before.toList) nonempty
        rw [← Position.after_append, ← split, ← position, ← same, Position.byte_after] at further
        simp at further
        omega
      exact ⟨[], by simp [rest, nothing]⟩
    · exact ⟨more, rest⟩
  obtain ⟨more, rest⟩ := rests
  rw [rest, List.length_append, List.length_append]
  omega

/-- In front of a fault that is found at a place, a reader has at least the characters
behind that place in front of it. -/
theorem Tracks.le_length_of_fault {front following : String} {count : Nat}
    (tracks : reader.Tracks (front ++ following).toList)
    (failed : reader.run.fault = some fault) (isLocal : fault.IsLocal)
    (ahead : fault.span.EndsAhead count front) :
    following.toList.length + count ≤ reader.rest.length := by
  obtain ⟨last, ⟨tracksLast, shorter⟩, ⟨found, stepped, faulty⟩ | ⟨-, faultless⟩⟩ :=
    @exists_last reader
      (fun last => last.Tracks (front ++ following).toList ∧
        last.rest.length ≤ reader.rest.length)
      (by
        rintro reader next move ⟨tracks, shorter⟩
        exact ⟨move.tracks tracks, (Nat.le_of_lt (step_shrinks move.step_eq)).trans shorter⟩)
      ⟨tracks, le_refl _⟩
  · cases failed.symm.trans faulty
    have fails := step_eq_error_iff.mp stepped
    rw [← last.followedBy_nil] at fails
    obtain ⟨stop, leads, same, -⟩ := fails.settles isLocal
    rw [followedBy_nil] at leads
    have left := tracksLast.le_length_of_stop leads same ahead
    have further := leads.length_le
    omega
  · cases failed.symm.trans faultless

/-- A fault with four characters of a source behind it is met in front of anything else
that follows the source. -/
theorem run_fault_elsewhere {front following : String} (other : String)
    (failed : (Reader.start (front ++ following)).run.fault = some fault)
    (isLocal : fault.IsLocal) (ahead : fault.span.EndsAhead 4 front) :
    (Reader.start (front ++ other)).run.fault = some fault := by
  have startsAt (behind : String) :
      Reader.start (front ++ behind) = (Reader.start front).followedBy behind.toList := by
    simp [Reader.start, followedBy]
  -- As long as both sources are read alike, their readers differ in what follows only.
  obtain ⟨last, ⟨tracks, -, inner, rfl, sameThere⟩, outcome⟩ :=
    @exists_last (Reader.start (front ++ following))
      (fun reader => reader.Tracks (front ++ following).toList ∧
        reader.run = (Reader.start (front ++ following)).run ∧
        ∃ inner : Reader, reader = inner.followedBy following.toList ∧
          (Reader.start (front ++ other)).run = (inner.followedBy other.toList).run)
      (by
        rintro _ next move ⟨tracks, sameRun, inner, rfl, sameThere⟩
        have sameNext := move.run_eq.symm.trans sameRun
        have tracksNext := move.tracks tracks
        have left := tracksNext.le_length_of_fault (sameNext ▸ failed) isLocal ahead
        obtain ⟨further, here, rfl⟩ := move.of_followedBy left
        rw [rest_followedBy, List.length_append] at left
        have goesOn : further.rest ≠ [] := List.ne_nil_of_length_pos (by omega)
        have shorter := step_shrinks here.step_eq
        have there := here.followedBy ⟨fun _ => goesOn, fun _ => goesOn⟩
          (keepsText_of_long (by omega) other.toList)
        exact ⟨tracksNext, sameNext, further, rfl, sameThere.trans there.run_eq⟩)
      ⟨tracks_start _, rfl, Reader.start front, startsAt following, by rw [startsAt]⟩
  rcases outcome with ⟨found, stepped, faulty⟩ | ⟨-, faultless⟩
  · cases failed.symm.trans faulty
    obtain ⟨stop, leads, same, elsewhere⟩ := (step_eq_error_iff.mp stepped).settles isLocal
    have left := tracks.le_length_of_stop leads same ahead
    rw [sameThere, run_of_error (elsewhere left other.toList).step_eq]
  · cases failed.symm.trans faultless

end Reader

/-- A fault of a kind that is found at a place does not depend on what follows: where four
characters of `front` stand behind the stretch it concerns, it is the fault, in cause and
place, of whatever begins with `front`. -/
theorem Token.fault_independent_of_following {front following : String} {fault : Fault}
    (failed : Token.read (front ++ following) = .error fault) (isLocal : fault.IsLocal)
    (ahead : fault.span.EndsAhead 4 front) (other : String) :
    Token.read (front ++ other) = .error fault := by
  rw [Token.read_eq_error_iff] at failed ⊢
  exact Reader.run_fault_elsewhere other failed isLocal ahead

/-- A tag name that is wrong within an expression, with exactly four characters behind it,
before a closing tag and before a declaration that does not end. -/
theorem Token.fault_independent_of_following_nested :
    ∃ fault, Token.read ("<a b=\x7b[<c.>1]\x7d" ++ "></a>") = .error fault ∧ fault.IsLocal ∧
      fault.span.EndsAhead 4 "<a b=\x7b[<c.>1]\x7d" ∧
      Token.read ("<a b=\x7b[<c.>1]\x7d" ++ "\x7b% '") = .error fault := by
  have failed : Token.read ("<a b=\x7b[<c.>1]\x7d" ++ "></a>") =
      .error ⟨.badTagName "c.", ⟨⟨8, 0, 8⟩, ⟨10, 0, 10⟩⟩, none⟩ := by decide +kernel
  have ahead : Span.EndsAhead ⟨⟨8, 0, 8⟩, ⟨10, 0, 10⟩⟩ 4 "<a b=\x7b[<c.>1]\x7d" :=
    ⟨"<a b=\x7b[<c.", ">1]\x7d", by decide +kernel, by decide +kernel, by decide +kernel⟩
  have isLocal : Fault.IsLocal ⟨.badTagName "c.", ⟨⟨8, 0, 8⟩, ⟨10, 0, 10⟩⟩, none⟩ := by
    simp [Fault.IsLocal, Fault.diagnostic, Cause.kind]
  exact ⟨_, failed, isLocal, ahead,
    Token.fault_independent_of_following failed isLocal ahead "\x7b% '"⟩

-- Three characters are not enough: a brace and two dots may still become a spread.
example : (Token.read ("<a \x7b.." ++ "")).isOk = false ∧
    (Token.read ("<a \x7b.." ++ ".b\x7d/>")).isOk = true := by decide +kernel

end MarkupTemplate
