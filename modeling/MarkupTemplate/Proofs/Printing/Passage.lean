import Mathlib.Tactic.ByContra
import MarkupTemplate.Proofs.Printing.Print
import MarkupTemplate.Proofs.Reader.Moves

/-!
# Reading what has been written

`Reader.Reads` says that a reader gets past the characters in front of it, with
tokens that derive a given phrase, and goes on at a given place. This module
shows it for text, for code, for the ends of expressions and for tags, each in
front of anything that may follow. What lies inside of them is left open here.
-/

namespace MarkupTemplate

open Spelling Text

namespace Reader

variable {reader next : Reader}

/-- Where a reader stands: what is left of the source, what is being read and how
many tags are open. -/
structure StandsAt (reader : Reader) (rest : List Char) (modes : List Mode) (level : Nat) :
    Prop where
  rest : reader.rest = rest
  modes : reader.modes = modes
  level : reader.openElements = level

/-- Whether reading leads to a place with nothing pending, and on the way adds
tokens that derive a phrase to the given ones. -/
def Reads (reader : Reader) (tokens : List Token) (phrase : Phrase) (rest : List Char)
    (modes : List Mode) (level : Nat) : Prop :=
  ∃ (next : Reader) (added : List Token), reader.run = next.run ∧
    next.StandsAt rest modes level ∧ next.pending = [] ∧
    next.tokens = added.reverse ++ tokens ∧ Derives (fun _ => True) phrase added

/-! ### Text -/

theorem escape_cons_of_escapable {character : Char} (escapable : isEscapable character)
    (characters : List Char) :
    escape (character :: characters) = '\\' :: character :: escape characters := by
  simp [escape, escapable]

theorem escape_cons_of_plain {character : Char} (plain : isEscapable character = false)
    (characters : List Char) :
    escape (character :: characters) = character :: escape characters := by
  simp [escape, plain]

/-- Escaped text begins with no character that a backslash would escape. -/
theorem head_escape (characters : List Char) :
    ∀ first ∈ (escape characters).head?, isEscapable first = false := by
  cases characters with
  | nil => simp [escape]
  | cons character characters =>
      cases escapable : isEscapable character with
      | true =>
          rw [escape_cons_of_escapable escapable]
          simp [isEscapable]
      | false =>
          rw [escape_cons_of_plain escapable]
          simpa using escapable

/-- A character that need not be escaped is text of its own, unless it is a
backslash in front of one that does. -/
theorem isLiteral_of_plain {character : Char} {following : List Char}
    (plain : isEscapable character = false)
    (noEscape : character = '\\' → ∀ next ∈ following.head?, isEscapable next = false) :
    IsLiteral character following := by
  have notMark : character ≠ '<' := by
    rintro rfl
    cases plain
  refine ⟨?_, ?_, ?_, noEscape⟩
  · rintro rfl
    cases plain
  · by_contra closes
    obtain ⟨behind, split⟩ := front_of_closesTag (by simpa using closes)
    exact notMark (List.cons.inj split).1
  · by_contra opens
    obtain ⟨behind, split⟩ := front_of_opensTag (by simpa using opens)
    exact notMark (List.cons.inj split).1

/-- Escaped text is read back as pending characters. A backslash at its end has
to be followed by a character that it does not escape. -/
theorem reads_text {parent : Option OpenTag} {outer : List Mode} {level : Nat}
    {following : List Char} (characters : List Char) (reader : Reader)
    (stands : reader.StandsAt (escape characters ++ following) (.text parent :: outer) level)
    (noEscape : characters.getLast? = some '\\' →
      ∀ next ∈ following.head?, isEscapable next = false) :
    ∃ next : Reader, reader.run = next.run ∧
      next.StandsAt following (.text parent :: outer) level ∧
      next.pending = characters.reverse ++ reader.pending ∧ next.tokens = reader.tokens := by
  induction characters generalizing reader with
  | nil => exact ⟨reader, rfl, stands, rfl, rfl⟩
  | cons character characters inductionHypothesis =>
      have later : characters.getLast? = some '\\' →
          ∀ next ∈ following.head?, isEscapable next = false := by
        intro last
        refine noEscape ?_
        rw [List.getLast?_cons, last]
        rfl
      cases escapable : isEscapable character with
      | true =>
          have front := stands.rest
          rw [escape_cons_of_escapable escapable] at front
          have move := Moves.escape stands.modes front escapable
          obtain ⟨next, sameRun, arrives, pending, tokens⟩ :=
            inductionHypothesis (reader.gather character 2)
              ⟨by simp [front], stands.modes, stands.level⟩ later
          exact ⟨next, move.run_eq.trans sameRun, arrives, by simpa using pending, tokens⟩
      | false =>
          have front := stands.rest
          rw [escape_cons_of_plain escapable] at front
          have noneEscaped : character = '\\' →
              ∀ next ∈ (escape characters ++ following).head?, isEscapable next = false := by
            rintro rfl
            cases characters with
            | nil => simpa [escape] using noEscape rfl
            | cons second characters =>
                have first := head_escape (second :: characters)
                cases whole : escape (second :: characters) with
                | nil => cases isSecond : isEscapable second <;> simp [escape, isSecond] at whole
                | cons other rest => simpa [whole] using first
          have move := Moves.literal stands.modes front (isLiteral_of_plain escapable noneEscaped)
          obtain ⟨next, sameRun, arrives, pending, tokens⟩ :=
            inductionHypothesis (reader.gather character)
              ⟨by simp [front], stands.modes, stands.level⟩ later
          exact ⟨next, move.run_eq.trans sameRun, arrives, by simpa using pending, tokens⟩

/-! ### Code -/

/-- Whether no markup starts in code, when reading starts at a place in quotes or
outside of them, with some characters pending. -/
def StartsNone (quoting : Quoting) (pending code ahead : List Char) : Prop :=
  ∀ before mark behind, code = before ++ mark :: behind → quoting.after before = .outside →
    opensTag (mark :: (behind ++ ahead)) → startsMarkup (before.reverse ++ pending) = false

theorem StartsNone.tail {quoting : Quoting} {pending code ahead : List Char} {character : Char}
    (none : StartsNone quoting pending (character :: code) ahead) :
    StartsNone (quoting.next character) (character :: pending) code ahead := by
  intro before mark behind split outside opens
  have earlier := none (character :: before) mark behind (by rw [split]; rfl) outside opens
  simpa using earlier

theorem StartsNone.head {pending code ahead : List Char} {character : Char}
    (none : StartsNone .outside pending (character :: code) ahead) :
    ¬ (opensTag (character :: (code ++ ahead)) ∧ startsMarkup pending) := by
  rintro ⟨opens, starts⟩
  have here := none [] character code rfl rfl opens
  simp [starts] at here

/-- Code in which no markup starts is no trap with white space in front of it and
no letter behind it. -/
theorem startsNone_of_not_entersMarkup {code ahead blanks : List Char}
    (noMarkup : ¬ Code.EntersMarkup code []) (blank : ∀ character ∈ blanks, isBlank character)
    (apart : ∀ character ∈ ahead.head?, character.isAlpha = false) :
    StartsNone .outside blanks code ahead := by
  intro before mark behind split outside opens
  rw [Code.startsMarkup_append_blank blank]
  by_contra starts
  refine noMarkup (Code.EntersMarkup.of_ahead apart ?_)
  exact ⟨before, mark, behind, split, outside, opens, by simpa using starts⟩

/-- A character that hides none behind it leads from one place in code to the next. -/
theorem moves_character {site : Site} {outer : List Mode} {character : Char}
    {following : List Char} {place : Quoting × Nat}
    (modes : reader.modes = .expression site :: outer)
    (front : reader.rest = character :: following)
    (noEscape : site.quote.isSome → character ≠ '\\')
    (reads : Code.read (.ofQuote site.quote, site.depth) character = some place)
    (noMarkup : site.quote = none → ¬ (opensTag reader.rest ∧ startsMarkup reader.pending)) :
    ∃ quote depth, place = (.ofQuote quote, depth) ∧
      reader.Moves { reader.gather character with
        modes := .expression { site with quote, depth } :: outer } := by
  cases quoted : site.quote with
  | some mark =>
      rw [quoted] at noEscape reads
      have plain : character ≠ '\\' := noEscape rfl
      rw [Quoting.ofQuote, Code.read_inside mark _ plain, Option.some.injEq] at reads
      have move := Moves.quoteCharacter modes quoted front (fun isEscape => absurd isEscape plain)
      rw [quoted] at move
      exact ⟨_, _, reads.symm, move⟩
  | none =>
      rw [quoted] at reads
      by_cases opening : character = '{'
      · subst opening
        have move := Moves.openBrace modes quoted front
        rw [quoted] at move
        exact ⟨none, _, (Option.some.inj reads).symm, move⟩
      by_cases closing : character = '}'
      · subst closing
        have deep : 1 < site.depth := by
          by_contra shallow
          simp [Quoting.ofQuote, Code.read, Nat.le_of_not_lt shallow] at reads
        have move := Moves.closeBrace modes quoted front deep
        rw [quoted] at move
        simp only [Quoting.ofQuote, Code.read, Nat.not_le.mpr deep] at reads
        exact ⟨none, _, (Option.some.inj reads).symm, move⟩
      · rw [Quoting.ofQuote, Code.read_plain opening closing, Quoting.next_outside,
          Option.some.injEq] at reads
        have move := Moves.code modes quoted front opening closing (noMarkup quoted)
        exact ⟨_, _, reads.symm, move⟩

/-- Code is read back as pending characters, up to a place outside quotes. -/
theorem reads_code {outer : List Mode} {level depth : Nat} {ahead : List Char}
    (code : List Char) (reader : Reader) (site : Site)
    (stands : reader.StandsAt (code ++ ahead) (.expression site :: outer) level)
    (reads : Code.after (.ofQuote site.quote, site.depth) code = some (.outside, depth))
    (none : StartsNone (.ofQuote site.quote) reader.pending code ahead) :
    ∃ next : Reader, reader.run = next.run ∧
      next.StandsAt ahead (.expression { site with depth, quote := .none } :: outer) level ∧
      next.pending = code.reverse ++ reader.pending ∧ next.tokens = reader.tokens := by
  -- On the length: inside quotes, two characters may be passed at once.
  induction size : code.length using Nat.strongRecOn generalizing code reader site with
  | ind size shorter =>
  cases code with
  | nil =>
      obtain ⟨opening, leading, reached, quote⟩ := site
      cases quote with
      | none =>
          cases reads
          exact ⟨reader, rfl, stands, rfl, rfl⟩
      | some mark => cases reads
  | cons character code =>
      by_cases escape : site.quote.isSome ∧ character = '\\'
      · obtain ⟨quoted, rfl⟩ := escape
        obtain ⟨mark, quote⟩ := Option.isSome_iff_exists.mp quoted
        rw [quote, Quoting.ofQuote, Code.after_cons, Code.read_inside_backslash,
          Option.bind_some] at reads
        cases code with
        | nil => cases reads
        | cons hidden code =>
            rw [Code.after_cons, Code.read_escaped, Option.bind_some] at reads
            have move := Moves.quoteEscape stands.modes quote stands.rest
            rw [quote] at none
            have later := none.tail.tail
            rw [Quoting.ofQuote, Quoting.next_inside_backslash] at later
            obtain ⟨next, sameRun, arrives, pending, tokens⟩ :=
              shorter code.length (by simp only [← size, List.length_cons]; omega) code
                { (reader.gather '\\').gather hidden with modes := .expression site :: outer }
                site ⟨by simp [stands.rest], rfl, stands.level⟩ (by rw [quote]; exact reads)
                (by rw [quote]; exact later) rfl
            exact ⟨next, move.run_eq.trans sameRun, arrives, by simpa using pending, tokens⟩
      · rw [Code.after_cons, Option.bind_eq_some_iff] at reads
        obtain ⟨place, first, further⟩ := reads
        have track := Code.fst_of_read first
        obtain ⟨quote, reached, rfl, move⟩ := moves_character stands.modes stands.rest
          (fun quoted isEscape => escape ⟨quoted, isEscape⟩) first (fun unquoted => by
            rw [unquoted] at none
            rw [stands.rest]
            exact StartsNone.head none)
        have later := none.tail
        rw [← track] at later
        obtain ⟨next, sameRun, arrives, pending, tokens⟩ :=
          shorter code.length (by simp [← size]) code
            { reader.gather character with
              modes := .expression { site with quote, depth := reached } :: outer }
            { site with quote, depth := reached } ⟨by simp [stands.rest], rfl, stands.level⟩
            further later rfl
        exact ⟨next, move.run_eq.trans sameRun, arrives, by simpa using pending, tokens⟩

end Reader

/-! ### Expressions -/

/-- Whether pending characters are a piece of code, with white space in front of
the first piece of an expression. -/
structure Site.Gathered (site : Site) (code pending : List Char) : Prop where
  unquoted : site.quote = none
  split : ∃ blanks, pending = code.reverse ++ blanks ∧
    (∀ character ∈ blanks, isBlank character) ∧ (site.leading = false → blanks = [])
  leads : site.leading = true → LeadsSolid code

namespace Site.Gathered

variable {site : Site} {code pending : List Char}

/-- In front of an element, gathered code is a piece as it is. -/
theorem piece_false (gathered : site.Gathered code pending) : site.piece false pending = code := by
  obtain ⟨blanks, rfl, blank, front⟩ := gathered.split
  unfold Site.piece
  cases leading : site.leading with
  | true =>
      have front : ∀ character ∈ blanks.reverse, isBlank character := by simpa using blank
      simpa using trimStart_append front (gathered.leads leading)
  | false => simp [front leading]

/-- At the end of an expression, gathered code is a piece without the space
behind it. -/
theorem piece_true (gathered : site.Gathered code pending) (ends : EndsSolid code) :
    site.piece true (' ' :: pending) = code := by
  obtain ⟨blanks, rfl, blank, front⟩ := gathered.split
  unfold Site.piece
  cases leading : site.leading with
  | true =>
      have front : ∀ character ∈ blanks.reverse, isBlank character := by simpa using blank
      simpa [trim] using trim_surrounded front isBlank_of_mem_space
        (gathered.leads leading) ends
  | false => simpa [front leading] using trimEnd_append isBlank_of_mem_space ends

/-- The space in front of gathered code does not matter to markup behind it. -/
theorem startsMarkup_eq (gathered : site.Gathered code pending) :
    startsMarkup pending = startsMarkup code.reverse := by
  obtain ⟨blanks, rfl, blank, -⟩ := gathered.split
  exact Code.startsMarkup_append_blank blank

end Site.Gathered

namespace Reader

/-- Whether reading leads to the end of an expression and past it, and on the way
adds tokens that derive its pieces. -/
def ReadsSite (reader : Reader) (pieces : List Node) (rest : List Char) (modes : List Mode)
    (level : Nat) : Prop :=
  ∃ (next : Reader) (inside : List Token) (stop : Token), reader.run = next.run ∧
    next.StandsAt rest modes level ∧ next.pending = [] ∧
    next.tokens = stop :: (inside.reverse ++ reader.tokens) ∧
    Derives (fun _ => True) (.pieces pieces) inside ∧ stop.kind = .expressionEnd

/-- A space within an expression is passed. -/
theorem reads_space {site : Site} {outer : List Mode} {level : Nat} {following : List Char}
    (reader : Reader)
    (stands : reader.StandsAt (' ' :: following) (.expression site :: outer) level)
    (unquoted : site.quote = none) :
    ∃ next : Reader, reader.run = next.run ∧
      next.StandsAt following (.expression site :: outer) level ∧
      next.pending = ' ' :: reader.pending ∧ next.tokens = reader.tokens := by
  have move := Moves.code stands.modes unquoted stands.rest (by decide) (by decide)
    (by simp [stands.rest, opensTag])
  have stays : { site with quote := quoteAfter none ' ' } = site := by
    rw [show quoteAfter none ' ' = none from rfl, ← unquoted]
  rw [stays] at move
  exact ⟨_, move.run_eq, ⟨by simp [stands.rest], rfl, stands.level⟩, rfl, rfl⟩

/-- At its closing brace an expression ends with the code that is pending. -/
theorem readsSite_close {site : Site} {outer : List Mode} {level : Nat} {following : List Char}
    (reader : Reader)
    (stands : reader.StandsAt ('}' :: following) (.expression site :: outer) level)
    (unquoted : site.quote = none) (last : site.depth = 1) :
    reader.ReadsSite (Node.ofCode (site.piece true reader.pending)) following outer level := by
  have move := Moves.closeSite stands.modes unquoted stands.rest last.le
  obtain ⟨inside, flushed, derives⟩ := reader.flushPiece_derives site true
  obtain ⟨stop, added, kind⟩ := exists_emit ((reader.flushPiece site true).skip 1)
    .expressionEnd "\x7d" reader.position
  refine ⟨_, inside, stop, move.run_eq, ⟨?_, rfl, ?_⟩, rfl, ?_, derives, kind⟩
  · simp [stands.rest]
  · simp [stands.level]
  · rw [tokens_enter, added, tokens_skip, flushed]

/-- Passing characters without adding tokens does not matter to what is read. -/
theorem ReadsSite.of_run {reader next : Reader} {pieces : List Node} {rest : List Char}
    {modes : List Mode} {level : Nat} (later : next.ReadsSite pieces rest modes level)
    (sameRun : reader.run = next.run) (tokens : next.tokens = reader.tokens) :
    reader.ReadsSite pieces rest modes level := by
  obtain ⟨last, inside, stop, laterRun, arrives, nothing, added, derives, kind⟩ := later
  exact ⟨last, inside, stop, sameRun.trans laterRun, arrives, nothing, tokens ▸ added, derives,
    kind⟩

/-- An expression is read to its end behind gathered code. -/
theorem readsSite_end {site : Site} {outer : List Mode} {level : Nat} {following code : List Char}
    (reader : Reader)
    (stands : reader.StandsAt (' ' :: '}' :: following) (.expression site :: outer) level)
    (gathered : site.Gathered code reader.pending) (ends : EndsSolid code)
    (last : site.depth = 1) : reader.ReadsSite (Node.ofCode code) following outer level := by
  obtain ⟨spaced, sameRun, arrives, pending, tokens⟩ :=
    reads_space reader stands gathered.unquoted
  have closes := readsSite_close spaced arrives gathered.unquoted last
  rw [pending, gathered.piece_true ends] at closes
  exact closes.of_run sameRun tokens

/-- Pieces that are read in turn make one expression. -/
theorem Reads.site {pieces more : List Node} {rest following : List Char}
    {modes outer : List Mode} {level : Nat} {reader : Reader}
    (first : reader.Reads reader.tokens (.pieces pieces) rest modes level)
    (then_ : ∀ next : Reader, next.StandsAt rest modes level → next.pending = [] →
      next.ReadsSite more following outer level) :
    reader.ReadsSite (pieces ++ more) following outer level := by
  obtain ⟨middle, added, sameRun, arrives, nothing, tokens, derives⟩ := first
  obtain ⟨next, inside, stop, laterRun, reached, empty, later, laterDerives, kind⟩ :=
    then_ middle arrives nothing
  refine ⟨next, added ++ inside, stop, sameRun.trans laterRun, reached, empty, ?_,
    derives.extends _ _ laterDerives, kind⟩
  rw [later, tokens]
  simp

/-! ### Elements -/

/-- Whether an element is read back wherever its tag is opened. -/
def ReadsBack (node : Node) : Prop :=
  ∀ (reader : Reader) (outer : List Mode) (following : List Char),
    reader.rest = node.print ++ following →
    reader.openElements + node.nesting ≤ maxNesting →
    opensTag reader.rest ∧ ∃ tag opened, reader.openTag = .ok (tag, opened) ∧
      (opened.enter (.attributes tag :: outer)).Reads reader.tokens (.element node) following
        outer reader.openElements

/-- An element within an expression is read back, with gathered code in front of it. -/
theorem reads_embedded {node : Node} {site : Site} {outer : List Mode} {level : Nat}
    {following code : List Char} (reader : Reader) (readsBack : ReadsBack node)
    (stands : reader.StandsAt (node.print ++ following) (.expression site :: outer) level)
    (gathered : site.Gathered code reader.pending) (starts : startsMarkup code.reverse)
    (shallow : level + node.nesting ≤ maxNesting) :
    reader.Reads reader.tokens (.pieces (Node.ofCode code ++ [node])) following
      (.expression { site with leading := false } :: outer) level := by
  obtain ⟨opens, tag, opened, opening, next, added, sameRun, arrives, nothing, tokens, derives⟩ :=
    readsBack (reader.flushPiece site false) (.expression { site with leading := false } :: outer)
      following (by rw [rest_flushPiece, stands.rest]) (by simpa [stands.level] using shallow)
  rw [rest_flushPiece] at opens
  have move := Moves.openEmbedded stands.modes gathered.unquoted opens
    (gathered.startsMarkup_eq.trans starts) opening
  obtain ⟨lead, flushed, leadDerives⟩ := reader.flushPiece_derives site false
  rw [gathered.piece_false] at leadDerives
  have embedded : Derives (fun _ => True) (.pieces [node]) added := by
    simpa using Derives.embedded derives .noPieces
  refine ⟨next, lead ++ added, move.run_eq.trans sameRun, ?_, nothing, ?_,
    leadDerives.extends _ _ embedded⟩
  · simpa [stands.level] using arrives
  · rw [tokens, flushed]
    simp

/-- An element among children is read back, behind pending text. -/
theorem reads_child {node : Node} {parent : Option OpenTag} {outer : List Mode} {level : Nat}
    {following : List Char} (reader : Reader) (readsBack : ReadsBack node)
    (stands : reader.StandsAt (node.print ++ following) (.text parent :: outer) level)
    (shallow : level + node.nesting ≤ maxNesting) :
    reader.Reads reader.flushText.tokens (.children [node]) following (.text parent :: outer)
      level := by
  obtain ⟨opens, tag, opened, opening, next, added, sameRun, arrives, nothing, tokens, derives⟩ :=
    readsBack reader.flushText (.text parent :: outer) following
      (by rw [rest_flushText, stands.rest]) (by simpa [stands.level] using shallow)
  rw [rest_flushText] at opens
  have move := Moves.openChild stands.modes opens opening
  refine ⟨next, added, move.run_eq.trans sameRun, ?_, nothing, tokens, ?_⟩
  · simpa [stands.level] using arrives
  · simpa using Derives.child derives .noChildren

end Reader

end MarkupTemplate
