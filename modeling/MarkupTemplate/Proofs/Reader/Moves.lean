import MarkupTemplate.Proofs.Reader.Constructs

/-!
# What a step of a reader can do

`Reader.Moves` lists every way in which reading goes on, by the mode the reader
is in, with the characters it meets and the state it reaches.
`Reader.step_eq_more_iff` says that these are exactly the steps, so that later
results argue from the list and do not open the step function again.
-/

namespace MarkupTemplate.Reader

open Spelling Text

/-- Whether the next character is text of its own: it neither starts a construct
nor escapes the character behind it. -/
structure IsLiteral (character : Char) (following : List Char) : Prop where
  notSite : character ≠ '{'
  notClosing : closesTag (character :: following) = false
  notOpening : opensTag (character :: following) = false
  notEscape : character = '\\' → ∀ next ∈ following.head?, isEscapable next = false

/-- The ways in which a reader goes on. -/
inductive Moves (reader : Reader) : Reader → Prop where
  | escape {parent : Option OpenTag} {outer : List Mode} {character : Char}
      {following : List Char} (modes : reader.modes = .text parent :: outer)
      (front : reader.rest = '\\' :: character :: following)
      (escapable : isEscapable character) :
      Moves reader (reader.gather character 2)
  | literal {parent : Option OpenTag} {outer : List Mode} {character : Char}
      {following : List Char} (modes : reader.modes = .text parent :: outer)
      (front : reader.rest = character :: following)
      (isLiteral : IsLiteral character following) :
      Moves reader (reader.gather character)
  | declare {parent : Option OpenTag} {outer : List Mode} {following : List Char}
      {next : Reader} (modes : reader.modes = .text parent :: outer)
      (front : reader.rest = '{' :: '%' :: following)
      (declared : reader.flushText.readDeclaration = .ok next) :
      Moves reader (next.enter (.text parent :: outer))
  | openChildSite {parent : Option OpenTag} {outer : List Mode} {following : List Char}
      (modes : reader.modes = .text parent :: outer)
      (front : reader.rest = '{' :: following) (noDeclaration : following.head? ≠ some '%') :
      Moves reader ((reader.flushText.openSite .expressionStart "\x7b").2.enter
        (.expression (reader.flushText.openSite .expressionStart "\x7b").1 ::
          .text parent :: outer))
  | closeElement {parent : Option OpenTag} {outer : List Mode} {next : Reader}
      (modes : reader.modes = .text parent :: outer) (closes : closesTag reader.rest)
      (closed : reader.flushText.closeTag parent = .ok next) :
      Moves reader (next.enter outer)
  | openChild {parent : Option OpenTag} {outer : List Mode} {tag : OpenTag} {next : Reader}
      (modes : reader.modes = .text parent :: outer) (opens : opensTag reader.rest)
      (opened : reader.flushText.openTag = .ok (tag, next)) :
      Moves reader (next.enter (.attributes tag :: .text parent :: outer))
  | selfClose {tag : OpenTag} {outer : List Mode} {following : List Char}
      (modes : reader.modes = .attributes tag :: outer)
      (front : reader.skipBlank.rest = '/' :: '>' :: following) :
      Moves reader (({ (reader.skipBlank.skip 2).emit .tagSelfClose "/>"
        reader.skipBlank.position with
        openElements := reader.skipBlank.openElements - 1 }).enter outer)
  | endTag {tag : OpenTag} {outer : List Mode} {following : List Char}
      (modes : reader.modes = .attributes tag :: outer)
      (front : reader.skipBlank.rest = '>' :: following) :
      Moves reader (((reader.skipBlank.skip 1).emit .tagEnd ">"
        reader.skipBlank.position).enter (.text (some tag) :: outer))
  | openSpread {tag : OpenTag} {outer : List Mode} {following : List Char}
      (modes : reader.modes = .attributes tag :: outer)
      (front : reader.skipBlank.rest = '{' :: '.' :: '.' :: '.' :: following) :
      Moves reader ((reader.skipBlank.openSite .spreadStart "\x7b...").2.enter
        (.expression (reader.skipBlank.openSite .spreadStart "\x7b...").1 ::
          .attributes tag :: outer))
  | nameAttribute {tag : OpenTag} {outer : List Mode} {character : Char}
      {following : List Char} {next : Reader} {site : Option Site}
      (modes : reader.modes = .attributes tag :: outer)
      (front : reader.skipBlank.rest = character :: following)
      (starts : isAttrNameStart character)
      (read : reader.skipBlank.readAttribute = .ok (site, next)) :
      Moves reader (next.enter ((site.map Mode.expression).toList ++ .attributes tag :: outer))
  | quoteEscape {site : Site} {outer : List Mode} {mark character : Char}
      {following : List Char} (modes : reader.modes = .expression site :: outer)
      (quoted : site.quote = some mark)
      (front : reader.rest = '\\' :: character :: following) :
      Moves reader { (reader.gather '\\').gather character with
        modes := .expression site :: outer }
  | quoteCharacter {site : Site} {outer : List Mode} {mark character : Char}
      {following : List Char} (modes : reader.modes = .expression site :: outer)
      (quoted : site.quote = some mark) (front : reader.rest = character :: following)
      (noEscape : character = '\\' → following = []) :
      Moves reader { reader.gather character with
        modes := .expression { site with quote := quoteAfter site.quote character } :: outer }
  | openBrace {site : Site} {outer : List Mode} {following : List Char}
      (modes : reader.modes = .expression site :: outer) (unquoted : site.quote = none)
      (front : reader.rest = '{' :: following) :
      Moves reader { reader.gather '{' with
        modes := .expression { site with depth := site.depth + 1 } :: outer }
  | closeBrace {site : Site} {outer : List Mode} {following : List Char}
      (modes : reader.modes = .expression site :: outer) (unquoted : site.quote = none)
      (front : reader.rest = '}' :: following) (deep : 1 < site.depth) :
      Moves reader { reader.gather '}' with
        modes := .expression { site with depth := site.depth - 1 } :: outer }
  | closeSite {site : Site} {outer : List Mode} {following : List Char}
      (modes : reader.modes = .expression site :: outer) (unquoted : site.quote = none)
      (front : reader.rest = '}' :: following) (last : site.depth ≤ 1) :
      Moves reader ((((reader.flushPiece site true).skip 1).emit .expressionEnd "\x7d"
        reader.position).enter outer)
  | openEmbedded {site : Site} {outer : List Mode} {tag : OpenTag} {next : Reader}
      (modes : reader.modes = .expression site :: outer) (unquoted : site.quote = none)
      (opens : opensTag reader.rest) (starts : startsMarkup reader.pending)
      (opened : (reader.flushPiece site false).openTag = .ok (tag, next)) :
      Moves reader (next.enter
        (.attributes tag :: .expression { site with leading := false } :: outer))
  | code {site : Site} {outer : List Mode} {character : Char} {following : List Char}
      (modes : reader.modes = .expression site :: outer) (unquoted : site.quote = none)
      (front : reader.rest = character :: following) (notOpening : character ≠ '{')
      (notClosing : character ≠ '}')
      (noMarkup : ¬ (opensTag reader.rest ∧ startsMarkup reader.pending)) :
      Moves reader { reader.gather character with
        modes := .expression { site with quote := quoteAfter none character } :: outer }

variable {reader next : Reader}

/-! ### Every listed move is a step -/

/-- A tag is opened at a `<`. -/
theorem front_of_opensTag {characters : List Char} (opens : opensTag characters) :
    ∃ following, characters = '<' :: following := by
  unfold opensTag at opens
  split at opens
  · exact ⟨_, rfl⟩
  · cases opens

/-- A tag is closed at a `<`. -/
theorem front_of_closesTag {characters : List Char} (closes : closesTag characters) :
    ∃ following, characters = '<' :: following := by
  unfold closesTag at closes
  split at closes
  · exact ⟨_, rfl⟩
  · cases closes

/-- Where a tag is opened, none is closed. -/
theorem closesTag_of_opensTag {characters : List Char} (opens : opensTag characters) :
    closesTag characters = false := by
  unfold opensTag at opens
  split at opens
  · rename_i character following
    unfold closesTag
    split
    · rename_i front
      cases front
      exact absurd opens (by decide)
    · rfl
  · cases opens

/-- The step at a character that starts neither a spread nor the end of a tag. -/
theorem stepAttributes_character {tag : OpenTag} {outer : List Mode} {character : Char}
    {following : List Char}
    (front : reader.skipBlank.rest = character :: following) (notSite : character ≠ '{')
    (notEnd : character ≠ '>') (notSelfClosing : character = '/' → following.head? ≠ some '>') :
    reader.stepAttributes tag outer =
      if isAttrNameStart character then do
        match ← reader.skipBlank.readAttribute with
        | (some site, next) =>
            .ok (.more (next.enter (.expression site :: .attributes tag :: outer)))
        | (none, next) => .ok (.more (next.enter (.attributes tag :: outer)))
      else
        .error ⟨.strayCharacter character tag.name, .point reader.skipBlank.position,
          some tag.span⟩ := by
  unfold stepAttributes
  simp only [front]
  split
  next ahead => cases ahead
  next ahead =>
    cases ahead
    exact absurd rfl (notSelfClosing rfl)
  next ahead =>
    cases ahead
    exact absurd rfl notEnd
  next ahead =>
    cases ahead
    exact absurd rfl notSite
  next ahead =>
    cases ahead
    exact absurd rfl notSite
  next ahead =>
    cases ahead
    rfl

/-- The step at a character that starts the name of an attribute. -/
theorem stepAttributes_start {tag : OpenTag} {outer : List Mode} {character : Char}
    {following : List Char} (front : reader.skipBlank.rest = character :: following)
    (starts : isAttrNameStart character) :
    reader.stepAttributes tag outer = (do
      match ← reader.skipBlank.readAttribute with
      | (some site, next) =>
          .ok (.more (next.enter (.expression site :: .attributes tag :: outer)))
      | (none, next) => .ok (.more (next.enter (.attributes tag :: outer)))) := by
  have differs {other : Char} (notStarting : isAttrNameStart other = false) :
      character ≠ other := by
    rintro rfl
    cases starts.symm.trans notStarting
  rw [stepAttributes_character front (differs rfl) (differs rfl)
    (fun isSlash => absurd isSlash (differs rfl)), if_pos starts]

/-- The step at the name of an attribute. -/
theorem stepAttributes_name {tag : OpenTag} {outer : List Mode} {character : Char}
    {following : List Char} (front : reader.skipBlank.rest = character :: following)
    {site : Option Site} (starts : isAttrNameStart character)
    (read : reader.skipBlank.readAttribute = .ok (site, next)) :
    reader.stepAttributes tag outer = .ok (.more
      (next.enter ((site.map Mode.expression).toList ++ .attributes tag :: outer))) := by
  rw [stepAttributes_start front starts, read]
  cases site <;> rfl

/-- The step at a character that is text of its own. -/
theorem stepText_literal {parent : Option OpenTag} {outer : List Mode} {character : Char}
    {following : List Char} (front : reader.rest = character :: following)
    (isLiteral : IsLiteral character following) :
    reader.stepText parent outer = .ok (.more (reader.gather character)) := by
  obtain ⟨notSite, notClosing, notOpening, notEscape⟩ := isLiteral
  unfold stepText
  split
  next empty => simp [front] at empty
  next escaped behind ahead =>
    rw [front] at ahead
    obtain ⟨rfl, rfl⟩ := List.cons.inj ahead
    rw [if_neg (by simpa using notEscape rfl escaped rfl)]
  next ahead =>
    rw [front] at ahead
    exact absurd (List.cons.inj ahead).1 notSite
  next ahead =>
    rw [front] at ahead
    exact absurd (List.cons.inj ahead).1 notSite
  next other behind _ _ _ ahead =>
    rw [front] at ahead
    obtain ⟨rfl, rfl⟩ := List.cons.inj ahead
    simp only [front, notClosing, notOpening, Bool.false_eq_true, if_false]

/-- The step at a tag in text. -/
theorem stepText_mark {parent : Option OpenTag} {outer : List Mode} {following : List Char}
    (front : reader.rest = '<' :: following) :
    reader.stepText parent outer =
      if closesTag reader.rest then do
        let closed ← reader.flushText.closeTag parent
        .ok (.more (closed.enter outer))
      else if opensTag reader.rest then do
        let (tag, opened) ← reader.flushText.openTag
        .ok (.more (opened.enter (.attributes tag :: .text parent :: outer)))
      else .ok (.more (reader.gather '<')) := by
  unfold stepText
  simp only [front]
  rfl

/-- The step at a brace in text that opens no declaration. -/
theorem stepText_brace {parent : Option OpenTag} {outer : List Mode} {following : List Char}
    (front : reader.rest = '{' :: following) (noDeclaration : following.head? ≠ some '%') :
    reader.stepText parent outer =
      .ok (.more ((reader.flushText.openSite .expressionStart "\x7b").2.enter
        (.expression (reader.flushText.openSite .expressionStart "\x7b").1 ::
          .text parent :: outer))) := by
  unfold stepText
  simp only [front]
  split
  next ahead => cases ahead
  next ahead => cases ahead
  next ahead =>
    cases ahead
    exact absurd rfl noDeclaration
  next => rfl
  next _ notBrace ahead =>
    cases ahead
    exact absurd rfl notBrace

/-- The step within an expression, outside quotes, at a character that is no brace. -/
theorem stepExpression_plain {site : Site} {outer : List Mode} {character : Char}
    {following : List Char} (unquoted : site.quote = none)
    (front : reader.rest = character :: following) (notOpening : character ≠ '{')
    (notClosing : character ≠ '}') :
    reader.stepExpression site outer =
      if opensTag reader.rest && startsMarkup reader.pending then do
        let (tag, opened) ← (reader.flushPiece site false).openTag
        .ok (.more (opened.enter
          (.attributes tag :: .expression { site with leading := false } :: outer)))
      else .ok (.more { reader.gather character with
        modes := .expression { site with quote := quoteAfter none character } :: outer }) := by
  unfold stepExpression
  simp only [front, unquoted, Option.isSome_none, Bool.false_eq_true, if_false, notOpening,
    notClosing]

/-- The step at a character inside quotes. -/
theorem stepExpression_quoted {site : Site} {outer : List Mode} {mark character : Char}
    {following : List Char} (quoted : site.quote = some mark)
    (front : reader.rest = character :: following)
    (noEscape : character = '\\' → following = []) :
    reader.stepExpression site outer = .ok (.more { reader.gather character with
      modes := .expression { site with quote := quoteAfter site.quote character } :: outer }) := by
  unfold stepExpression
  simp only [front, quoted, Option.isSome_some, if_true]
  split
  next => simp_all
  next => rfl

/-- Every move is a step. -/
theorem Moves.step_eq (move : reader.Moves next) : reader.step = .ok (.more next) := by
  cases move with
  | escape modes front escapable =>
      simp only [step, modes, stepText, front, escapable, if_true]
  | literal modes front isLiteral =>
      simp only [step, modes, stepText_literal front isLiteral]
  | declare modes front declared =>
      simp only [step, modes, stepText, front, declared]
      rfl
  | openChildSite modes front noDeclaration =>
      simp only [step, modes, stepText_brace front noDeclaration]
  | closeElement modes closes closed =>
      obtain ⟨following, front⟩ := front_of_closesTag closes
      simp only [step, modes, stepText_mark front, closes, if_true, closed]
      rfl
  | openChild modes opens opened =>
      obtain ⟨following, front⟩ := front_of_opensTag opens
      have notClosing := closesTag_of_opensTag opens
      simp only [step, modes, stepText_mark front, notClosing, opens, Bool.false_eq_true,
        if_false, if_true, opened]
      rfl
  | selfClose modes front => simp only [step, modes, stepAttributes, front]
  | endTag modes front => simp only [step, modes, stepAttributes, front]
  | openSpread modes front => simp only [step, modes, stepAttributes, front]
  | nameAttribute modes front starts read =>
      simp only [step, modes, stepAttributes_name front starts read]
  | quoteEscape modes quoted front =>
      simp only [step, modes, stepExpression, front, quoted, Option.isSome_some, if_true]
  | quoteCharacter modes quoted front noEscape =>
      simp only [step, modes, stepExpression_quoted quoted front noEscape]
  | openBrace modes unquoted front =>
      simp [step, modes, stepExpression, front, unquoted]
  | closeBrace modes unquoted front deep =>
      simp [step, modes, stepExpression, front, unquoted, Nat.not_le.mpr deep]
  | closeSite modes unquoted front last =>
      simp [step, modes, stepExpression, front, unquoted, last]
  | openEmbedded modes unquoted opens starts opened =>
      obtain ⟨following, front⟩ := front_of_opensTag opens
      simp only [step, modes,
        stepExpression_plain unquoted front (by decide) (by decide), opens, starts,
        Bool.and_self, if_true, opened]
      rfl
  | code modes unquoted front notOpening notClosing noMarkup =>
      simp only [step, modes, stepExpression_plain unquoted front notOpening notClosing]
      rw [if_neg (by simpa using noMarkup)]

/-! ### Every step is a listed move -/

/-- A computation followed by another succeeds if both do. -/
theorem bind_eq_ok {α β : Type} {first : Except Fault α} {then_ : α → Except Fault β} {result : β}
    (succeeds : (first >>= then_) = .ok result) :
    ∃ middle, first = .ok middle ∧ then_ middle = .ok result := by
  cases first with
  | error fault => cases succeeds
  | ok middle => exact ⟨middle, rfl, succeeds⟩

/-- A step within text is a move. -/
theorem moves_of_stepText {parent : Option OpenTag} {outer : List Mode}
    (modes : reader.modes = .text parent :: outer)
    (stepped : reader.stepText parent outer = .ok (.more next)) : reader.Moves next := by
  unfold stepText at stepped
  split at stepped
  next => split at stepped <;> cases stepped
  next escaped following front =>
    cases stepped
    split
    next escapable => exact .escape modes front escapable
    next notEscapable =>
      refine .literal modes front ⟨by decide, rfl, rfl, fun _ next first => ?_⟩
      cases first
      simpa using notEscapable
  next following front =>
    obtain ⟨declared, read, further⟩ := bind_eq_ok stepped
    cases further
    exact .declare modes front read
  next following noDeclaration front =>
    cases stepped
    refine .openChildSite modes front fun isPercent => ?_
    obtain ⟨behind, rfl⟩ := List.head?_eq_some_iff.mp isPercent
    exact noDeclaration behind rfl
  next character following noEscape noDeclaration notSite front =>
    split at stepped
    next closes =>
      obtain ⟨closed, read, further⟩ := bind_eq_ok stepped
      cases further
      exact .closeElement modes closes read
    next notClosing =>
      split at stepped
      next opens =>
        obtain ⟨⟨tag, opened⟩, read, further⟩ := bind_eq_ok stepped
        cases further
        exact .openChild modes opens read
      next notOpening =>
        cases stepped
        rw [front] at notClosing notOpening
        refine .literal modes front ⟨notSite, by simpa using notClosing,
          by simpa using notOpening, fun isEscape next first => ?_⟩
        obtain ⟨behind, rfl⟩ := List.head?_eq_some_iff.mp first
        exact (noEscape next behind isEscape rfl).elim

/-- A step among attributes is a move. -/
theorem moves_of_stepAttributes {tag : OpenTag} {outer : List Mode}
    (modes : reader.modes = .attributes tag :: outer)
    (stepped : reader.stepAttributes tag outer = .ok (.more next)) : reader.Moves next := by
  unfold stepAttributes at stepped
  simp only [] at stepped
  split at stepped
  next => cases stepped
  next following front =>
    cases stepped
    exact .selfClose modes front
  next following front =>
    cases stepped
    exact .endTag modes front
  next following front =>
    cases stepped
    exact .openSpread modes front
  next => cases stepped
  next front =>
    split at stepped
    next starts =>
      obtain ⟨⟨site, named⟩, read, further⟩ := bind_eq_ok stepped
      have move := Moves.nameAttribute modes front starts read
      cases site <;> cases further <;> exact move
    next => cases stepped

/-- There is one step only, so where a move is possible it is the one taken. -/
theorem Moves.of_step {other : Reader} (move : reader.Moves other)
    (stepped : reader.step = .ok (.more next)) : reader.Moves next := by
  have same : other = next := by
    simpa using move.step_eq.symm.trans stepped
  exact same ▸ move

/-- A step within an expression is a move. -/
theorem moves_of_stepExpression {site : Site} {outer : List Mode}
    (modes : reader.modes = .expression site :: outer)
    (stepped : reader.step = .ok (.more next)) : reader.Moves next := by
  have within : reader.stepExpression site outer = .ok (.more next) := by
    simpa only [step, modes] using stepped
  cases front : reader.rest with
  | nil => simp [stepExpression, front] at within
  | cons character following =>
      cases quote : site.quote with
      | some mark =>
          by_cases escape : character = '\\' ∧ following ≠ []
          · obtain ⟨rfl, nonempty⟩ := escape
            obtain ⟨hidden, behind, rfl⟩ := List.exists_cons_of_ne_nil nonempty
            exact (Moves.quoteEscape modes quote front).of_step stepped
          · have noEscape : character = '\\' → following = [] := by simpa using escape
            exact (Moves.quoteCharacter modes quote front noEscape).of_step stepped
      | none =>
          by_cases opening : character = '{'
          · subst opening
            exact (Moves.openBrace modes quote front).of_step stepped
          by_cases closing : character = '}'
          · subst closing
            rcases Nat.lt_or_ge 1 site.depth with deep | last
            · exact (Moves.closeBrace modes quote front deep).of_step stepped
            · exact (Moves.closeSite modes quote front last).of_step stepped
          by_cases markup : opensTag reader.rest ∧ startsMarkup reader.pending
          · rw [stepExpression_plain quote front opening closing,
              if_pos (by simpa using markup)] at within
            obtain ⟨⟨tag, opened⟩, read, further⟩ := bind_eq_ok within
            cases further
            exact .openEmbedded modes quote markup.1 markup.2 read
          · exact (Moves.code modes quote front opening closing markup).of_step stepped

/-- A reader goes on by one of the moves, and only by one. -/
theorem step_eq_more_iff : reader.step = .ok (.more next) ↔ reader.Moves next := by
  constructor
  · intro stepped
    cases modes : reader.modes with
    | nil => simp [step, modes] at stepped
    | cons mode outer =>
        cases mode with
        | text parent =>
            refine moves_of_stepText modes ?_
            simpa only [step, modes] using stepped
        | attributes tag =>
            refine moves_of_stepAttributes modes ?_
            simpa only [step, modes] using stepped
        | expression site => exact moves_of_stepExpression modes stepped
  · exact Moves.step_eq

/-- Reading does not end among the attributes of a tag. -/
theorem stepAttributes_ne_done (reader final : Reader) (tag : OpenTag) (outer : List Mode) :
    reader.stepAttributes tag outer ≠ .ok (.done final) := by
  intro stepped
  unfold stepAttributes at stepped
  simp only [] at stepped
  split at stepped
  case h_6 =>
    split at stepped
    · obtain ⟨⟨site, named⟩, -, further⟩ := bind_eq_ok stepped
      cases site <;> cases further
    · cases stepped
  all_goals cases stepped

/-- Reading does not end within an expression. -/
theorem stepExpression_ne_done (reader final : Reader) (site : Site) (outer : List Mode) :
    reader.stepExpression site outer ≠ .ok (.done final) := by
  intro stepped
  unfold stepExpression at stepped
  simp only [] at stepped
  split at stepped
  · cases stepped
  split at stepped
  · split at stepped <;> cases stepped
  split at stepped
  · cases stepped
  split at stepped
  · split at stepped <;> cases stepped
  split at stepped
  · obtain ⟨opened, -, further⟩ := bind_eq_ok stepped
    cases further
  · cases stepped

/-- Within text, reading ends only with the source, and outside every tag. -/
theorem stepText_eq_done_iff {final : Reader} {parent : Option OpenTag} {outer : List Mode} :
    reader.stepText parent outer = .ok (.done final) ↔
      parent = none ∧ reader.rest = [] ∧ final = reader.flushText.enter outer := by
  constructor
  · intro stepped
    unfold stepText at stepped
    split at stepped
    next front =>
      split at stepped
      · cases stepped
      · cases stepped
        exact ⟨rfl, front, rfl⟩
    next => cases stepped
    next =>
      obtain ⟨declared, -, further⟩ := bind_eq_ok stepped
      cases further
    next => cases stepped
    next =>
      split at stepped
      · obtain ⟨closed, -, further⟩ := bind_eq_ok stepped
        cases further
      · split at stepped
        · obtain ⟨opened, -, further⟩ := bind_eq_ok stepped
          cases further
        · cases stepped
  · rintro ⟨rfl, front, rfl⟩
    simp only [stepText, front]

/-- Reading that has something to read ends only in text outside every tag, with
the source. -/
theorem step_eq_done_iff {final : Reader} {mode : Mode} {outer : List Mode}
    (modes : reader.modes = mode :: outer) :
    reader.step = .ok (.done final) ↔
      mode = .text none ∧ reader.rest = [] ∧ final = reader.flushText.enter outer := by
  cases mode with
  | text parent => simp [step, modes, stepText_eq_done_iff]
  | attributes tag => simp [step, modes, stepAttributes_ne_done]
  | expression site => simp [step, modes, stepExpression_ne_done]

/-! ### Steps and whole readings -/

/-- A move does not change how reading ends. -/
theorem Moves.run_eq (move : reader.Moves next) : reader.run = next.run := by
  rw [run]
  have stepped := move.step_eq
  split
  next failed => simp [stepped] at failed
  next finished => simp [stepped] at finished
  next moved =>
    rw [stepped] at moved
    cases moved
    rfl

/-- Reading ends where a step does. -/
theorem run_of_done {final : Reader} (stepped : reader.step = .ok (.done final)) :
    reader.run = ⟨final, none⟩ := by
  rw [run]
  split
  next failed => simp [stepped] at failed
  next finished =>
    rw [stepped] at finished
    cases finished
    rfl
  next moved => simp [stepped] at moved

/-- Reading ends where a step meets a fault. -/
theorem run_of_error {fault : Fault} (stepped : reader.step = .error fault) :
    reader.run = ⟨reader, some fault⟩ := by
  rw [run]
  split
  next failed =>
    rw [stepped] at failed
    cases failed
    rfl
  next finished => simp [stepped] at finished
  next moved => simp [stepped] at moved

end MarkupTemplate.Reader
