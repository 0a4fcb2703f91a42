import MarkupTemplate.Proofs.Reader.Concatenation
import MarkupTemplate.Proofs.Reader.Faults
import MarkupTemplate.Proofs.Reader.OpenTags

/-!
# Where code makes room for an element

Whether a `<` within an expression opens an element depends on what stands in front of
it. `Code.ExpectsValue` is the rule on all that the expression holds up to there, its
elements included. A reader asks `startsMarkup` of the pending code alone, which is what
stands behind the last element. Nothing is lost by that: an element ends in `>`, which
expects a value just as the start of an expression does, and no word goes across it.
-/

namespace MarkupTemplate

open Spelling Text

/-! ### The rule -/

namespace Code

/-- Whether code expects a value behind it: nothing but white space stands there, or the
last character other than white space asks for a value, or the last word does. -/
inductive ExpectsValue (code : List Char) : Prop where
  | start (blank : ∀ character ∈ code, isBlank character)
  | mark {front blanks : List Char} {last : Char} (split : code = front ++ last :: blanks)
      (blank : ∀ character ∈ blanks, isBlank character)
      (asks : last ∈ ['(', '[', '{', ',', '|', '?', ':', '=', '&', '!', '>', ';'])
  | word {front word blanks : List Char} (split : code = front ++ word ++ blanks)
      (blank : ∀ character ∈ blanks, isBlank character)
      (whole : ∀ character ∈ front.getLast?, isWordChar character = false)
      (asks : String.ofList word ∈ ["do", "then", "else", "return", "and", "or"])

variable {code front blanks pending : List Char}

/-- White space behind code does not matter to what a `<` means there. -/
theorem startsMarkup_blank_append (blank : ∀ character ∈ blanks, isBlank character) :
    startsMarkup (blanks ++ code) = startsMarkup code := by
  unfold startsMarkup
  rw [List.dropWhile_append_of_pos blank]

/-- Behind a character other than white space, it or the word that it ends decides. -/
theorem startsMarkup_cons {last : Char} {before : List Char} (solid : isBlank last = false) :
    startsMarkup (last :: before) = (markupPreceders.contains last ||
      markupKeywords.contains (String.ofList ((last :: before).takeWhile isWordChar).reverse)) := by
  unfold startsMarkup
  rw [List.dropWhile_cons_of_neg (by simp [solid])]

theorem isBlank_of_mem_markupPreceders {last : Char} (asks : last ∈ markupPreceders) :
    isBlank last = false := by
  have solid : markupPreceders.all (!isBlank ·) := by decide
  simpa using List.all_eq_true.mp solid last asks

/-- A word that asks for a value is a word. -/
theorem isWordChar_of_mem_markupKeywords {word : List Char}
    (asks : String.ofList word ∈ markupKeywords) :
    word ≠ [] ∧ ∀ character ∈ word, isWordChar character := by
  have spelled : markupKeywords.all fun keyword =>
      keyword.toList ≠ [] && keyword.toList.all isWordChar := by decide
  simpa using List.all_eq_true.mp spelled _ asks

/-- Code is what is left without the white space behind it, and that white space. -/
theorem exists_split_blank (code : List Char) :
    ∃ blanks, (∀ character ∈ blanks, isBlank character) ∧
      code = (code.reverse.dropWhile isBlank).reverse ++ blanks := by
  refine ⟨(code.reverse.takeWhile isBlank).reverse, ?_, ?_⟩
  · intro character member
    exact List.mem_takeWhile_imp (List.mem_reverse.mp member)
  · rw [← List.reverse_append, List.takeWhile_append_dropWhile, List.reverse_reverse]

/-- Where a reader takes a `<` for markup, the code in front expects a value. -/
theorem expectsValue_of_startsMarkup (starts : startsMarkup code.reverse) : ExpectsValue code := by
  obtain ⟨blanks, blank, split⟩ := exists_split_blank code
  unfold startsMarkup at starts
  split at starts
  next nothing =>
    rw [nothing] at split
    exact .start (split ▸ blank)
  next last before shown =>
    rw [shown] at split
    rcases Bool.or_eq_true_iff.mp starts with mark | word
    · rw [List.reverse_cons, List.append_assoc] at split
      exact .mark split blank (List.contains_iff_mem.mp mark)
    · have parts := List.takeWhile_append_dropWhile (p := isWordChar) (l := last :: before)
      rw [← parts, List.reverse_append] at split
      refine .word split blank ?_ (List.contains_iff_mem.mp word)
      intro character isLast
      rw [List.getLast?_reverse] at isLast
      have kept := List.head?_dropWhile_not isWordChar (last :: before)
      rwa [Option.mem_def.mp isLast] at kept

/-- Where code ends in a word, the word decides. -/
theorem startsMarkup_word {word : List Char} (nonempty : word ≠ [])
    (spelled : ∀ character ∈ word, isWordChar character)
    (whole : ∀ character ∈ front.getLast?, isWordChar character = false)
    (asks : markupKeywords.contains (String.ofList word)) :
    startsMarkup (word.reverse ++ front.reverse) := by
  have ends : (word.reverse ++ front.reverse).takeWhile isWordChar = word.reverse := by
    rw [List.takeWhile_append_of_pos (by simpa using spelled)]
    cases shown : front.reverse with
    | nil => simp
    | cons first behind =>
        have noWord := whole first (by simp [← List.head?_reverse, shown])
        simp [noWord]
  obtain ⟨last, before, shown⟩ :=
    List.exists_cons_of_ne_nil (mt List.reverse_eq_nil_iff.mp nonempty)
  have solid : isBlank last = false := by
    by_contra isBlank
    have noWord := isWordChar_of_isBlank (Bool.not_eq_false _ ▸ isBlank)
    have isWord := spelled last (List.mem_reverse.mp (shown ▸ List.mem_cons_self))
    cases noWord.symm.trans isWord
  rw [shown, List.cons_append] at ends ⊢
  rw [startsMarkup_cons solid, ends, ← shown, List.reverse_reverse, asks, Bool.or_true]

/-- Where code expects a value, a reader takes a `<` for markup. -/
theorem ExpectsValue.startsMarkup (expects : ExpectsValue code) : startsMarkup code.reverse := by
  cases expects with
  | start blank =>
      have nothing : code.reverse.dropWhile isBlank = [] :=
        List.dropWhile_eq_nil_iff.mpr fun character member =>
          blank character (List.mem_reverse.mp member)
      rw [Spelling.startsMarkup, nothing]
  | @mark front blanks last split blank asks =>
      have turned : code.reverse = blanks.reverse ++ last :: front.reverse := by simp [split]
      have asked : markupPreceders.contains last := List.contains_iff_mem.mpr asks
      rw [turned, startsMarkup_blank_append (by simpa using blank),
        startsMarkup_cons (isBlank_of_mem_markupPreceders asks), asked, Bool.true_or]
  | @word front word blanks split blank whole asks =>
      have turned : code.reverse = blanks.reverse ++ (word.reverse ++ front.reverse) := by
        simp [split]
      obtain ⟨nonempty, spelled⟩ := isWordChar_of_mem_markupKeywords asks
      rw [turned, startsMarkup_blank_append (by simpa using blank)]
      exact startsMarkup_word nonempty spelled whole (List.contains_iff_mem.mpr asks)

/-- What a reader asks is the rule. -/
theorem startsMarkup_reverse_iff (code : List Char) :
    startsMarkup code.reverse ↔ ExpectsValue code :=
  ⟨expectsValue_of_startsMarkup, ExpectsValue.startsMarkup⟩

/-- Behind the end of an element, code begins anew. -/
theorem startsMarkup_append_bracket (pending earlier : List Char) :
    startsMarkup (pending ++ '>' :: earlier) = startsMarkup pending := by
  refine startsMarkup_append (List.takeWhile_cons_of_neg (by decide)) ?_
  have asks : markupPreceders.contains '>' := by decide
  rw [startsMarkup_cons (by decide), asks, Bool.true_or]

/-- Whether code stands behind the last element of what an expression holds, or is all
of it. -/
def Ends (code inside : List Char) : Prop :=
  inside = code ∨ ∃ front, inside = front ++ '>' :: code

theorem Ends.append {code inside : List Char} (ends : Ends code inside) (more : List Char) :
    Ends (code ++ more) (inside ++ more) := by
  rcases ends with rfl | ⟨front, rfl⟩
  · exact .inl rfl
  · exact .inr ⟨front, by simp⟩

/-- The code behind the last element decides for all that an expression holds. -/
theorem Ends.startsMarkup_iff {inside : List Char} (ends : Ends pending.reverse inside) :
    startsMarkup pending ↔ ExpectsValue inside := by
  rw [← startsMarkup_reverse_iff]
  rcases ends with rfl | ⟨front, rfl⟩
  · rw [List.reverse_reverse]
  · have turned : (front ++ '>' :: pending.reverse).reverse = pending ++ '>' :: front.reverse := by
      simp
    rw [turned, startsMarkup_append_bracket]

end Code

/-! ### Where expressions were opened -/

/-- Whether a stretch is the delimiter of an expression among the characters passed, and
`inside` is what follows it. -/
def Span.Delimits (opening : Span) (passed inside : List Char) : Prop :=
  ∃ before, ∃ delimiter ∈ ["\x7b", "\x7b..."], passed = before ++ delimiter.toList ++ inside ∧
    opening = .after before delimiter.toList

theorem Span.Delimits.grow {opening : Span} {passed inside : List Char}
    (delimits : opening.Delimits passed inside) (more : List Char) :
    opening.Delimits (passed ++ more) (inside ++ more) := by
  obtain ⟨before, delimiter, isDelimiter, rfl, same⟩ := delimits
  exact ⟨before, delimiter, isDelimiter, by simp, same⟩

/-- Whether an expression begins among the characters passed. -/
def Mode.Begins (passed : List Char) : Mode → Prop
  | .expression site => ∃ inside, site.opening.Delimits passed inside
  | _ => True

theorem Mode.Begins.grow {mode : Mode} {passed : List Char} (begins : mode.Begins passed)
    (more : List Char) : mode.Begins (passed ++ more) := by
  cases mode with
  | text | attributes => trivial
  | expression site =>
      obtain ⟨inside, delimits⟩ := begins
      exact ⟨inside ++ more, delimits.grow more⟩

/-- An expression stands in text or among attributes, never directly in another. -/
theorem Outline.within_expression {site : Site} {outer : List Mode} {tokens : List Token}
    (outline : Outline (.expression site :: outer) tokens) :
    (∃ parent further, outer = .text parent :: further) ∨
      ∃ tag further, outer = .attributes tag :: further := by
  cases outline with
  | childSite => exact .inl ⟨_, _, rfl⟩
  | valueSite => exact .inr ⟨_, _, rfl⟩
  | spreadSite => exact .inr ⟨_, _, rfl⟩

namespace Reader

variable {source passed reached following : List Char} {reader next : Reader}
  {parent : Option OpenTag} {outer : List Mode} {site : Site}

/-- Whether the pending code is what stands behind the last element of the innermost
expression, if that is what is read. -/
def EndsCode (reader : Reader) (passed : List Char) : Prop :=
  match reader.modes with
  | .expression site :: _ => ∃ inside, site.opening.Delimits passed inside ∧
      Code.Ends reader.pending.reverse inside
  | _ => True

/-- Whether a reader that has passed some characters can tell where its expressions began
and which part of the innermost one is pending. -/
structure Locates (reader : Reader) (passed : List Char) : Prop where
  begins : ∀ mode ∈ reader.modes, mode.Begins passed
  endsCode : reader.EndsCode passed

/-- What is passed between two places. -/
theorem At.reached_eq {more : List Char} (place : reader.At source passed)
    (target : next.At source reached) (split : reader.rest = more ++ next.rest) :
    reached = passed ++ more := by
  have whole := target.1.symm.trans place.1
  rw [split, ← List.append_assoc] at whole
  exact List.append_cancel_right whole

/-- An expression is opened behind its delimiter. -/
theorem At.delimits_openSite {kind : TokenKind} {delimiter : String}
    (place : reader.At source passed) (front : reader.rest = delimiter.toList ++ following)
    (isDelimiter : delimiter ∈ ["\x7b", "\x7b..."])
    (whole : source = reached ++ (reader.openSite kind delimiter).2.rest) :
    (reader.openSite kind delimiter).1.opening.Delimits reached [] := by
  have crosses := crosses_skip front
  rw [String.length_toList] at crosses
  obtain ⟨behind, position⟩ := place.crosses crosses
  obtain rfl := List.append_cancel_right (behind.symm.trans whole)
  refine ⟨passed, delimiter, isDelimiter, by simp, ?_⟩
  rw [Span.after, ← place.2, ← position]
  rfl

/-- The value of an attribute is opened behind its delimiter. -/
theorem At.delimits_readAttribute (place : reader.At source passed)
    (read : reader.readAttribute = .ok (some site, next))
    (whole : source = reached ++ next.rest) : site.opening.Delimits reached [] := by
  obtain ⟨valued, following, ⟨inside, crosses, -⟩, front, rfl, rfl⟩ :=
    openSite_of_readAttribute read
  exact (place.crosses crosses).delimits_openSite front (by simp) whole

/-- A tag that closes ends in a bracket. -/
theorem bracket_of_closeTag (closed : reader.closeTag parent = .ok next) :
    '>' :: next.rest <:+ reader.rest := by
  obtain ⟨tag, following, rfl, ends, name⟩ := exists_of_closeTag closed
  rw [closeTag_eq ends name] at closed
  cases closed
  have behind : (((reader.skip 2).skipWhile isTagNameChar).skipBlank.skip 1).rest = following := by
    rw [rest_skip, ends, List.drop_one, List.tail_cons]
  have passes : ((reader.skip 2).skipWhile isTagNameChar).skipBlank.rest <:+ reader.rest :=
    ((List.drop_suffix _ _).trans (List.drop_suffix _ _)).trans (List.drop_suffix _ _)
  rw [ends, ← behind] at passes
  exact passes

/-- Behind an element, code begins anew. -/
theorem endsCode_of_bracket {modes : List Mode} (place : reader.At source passed)
    (target : (next.enter modes).At source reached) (bracket : '>' :: next.rest <:+ reader.rest)
    (begins : ∀ mode ∈ modes, mode.Begins passed) : (next.enter modes).EndsCode reached := by
  obtain ⟨front, split⟩ := bracket
  have grown : reached = passed ++ (front ++ ['>']) :=
    place.reached_eq target (by simp [← split])
  cases modes with
  | nil => trivial
  | cons mode outer =>
      cases mode with
      | text | attributes => trivial
      | expression site =>
          obtain ⟨inside, delimits⟩ := begins _ List.mem_cons_self
          refine ⟨inside ++ (front ++ ['>']), grown ▸ delimits.grow _, .inr ⟨inside ++ front, ?_⟩⟩
          simp

/-- Where an expression is opened, nothing has been read of it. -/
theorem locates_of_fresh (nextModes : next.modes = .expression site :: outer)
    (nothing : next.pending = []) (fresh : site.opening.Delimits reached [])
    (begins : ∀ mode ∈ outer, mode.Begins reached) : next.Locates reached := by
  constructor
  · rw [nextModes]
    exact List.forall_mem_cons.mpr ⟨⟨[], fresh⟩, begins⟩
  · rw [EndsCode, nextModes]
    exact ⟨[], fresh, .inl (by rw [nothing]; rfl)⟩

/-- Code that is gathered goes on. -/
theorem Locates.gather {more : List Char} {changed : Site} (locates : reader.Locates passed)
    (modes : reader.modes = .expression site :: outer)
    (nextModes : next.modes = .expression changed :: outer)
    (pending : next.pending.reverse = reader.pending.reverse ++ more)
    (same : changed.opening = site.opening) : next.Locates (passed ++ more) := by
  obtain ⟨begins, ends⟩ := locates
  rw [EndsCode, modes] at ends
  rw [modes] at begins
  obtain ⟨inside, delimits, code⟩ := ends
  have grown : changed.opening.Delimits (passed ++ more) (inside ++ more) :=
    same ▸ delimits.grow more
  constructor
  · rw [nextModes]
    refine List.forall_mem_cons.mpr ⟨⟨_, grown⟩, fun mode member => ?_⟩
    exact (begins mode (List.mem_cons_of_mem _ member)).grow more
  · rw [EndsCode, nextModes]
    exact ⟨_, grown, pending ▸ code.append more⟩

/-- Every move keeps the expressions located. -/
theorem Moves.locates (move : reader.Moves next) (place : reader.At source passed)
    (target : next.At source reached) (coherent : reader.Coherent)
    (locates : reader.Locates passed) : next.Locates reached := by
  obtain ⟨more, grown⟩ := place.exists_more target (Nat.le_of_lt (step_shrinks move.step_eq))
  -- An expression that has begun stays so. What has been read of it is of interest only
  -- where it is the innermost mode: in front of a further character, and behind an element.
  have old : ∀ mode ∈ reader.modes, mode.Begins reached := fun mode member =>
    grown ▸ (locates.begins mode member).grow more
  have blanked := place.skip (reader.rest.takeWhile isBlank).length
  cases move with
  | escape modes | literal modes =>
      refine ⟨old, ?_⟩
      simp only [EndsCode, gather, skip, modes]
  | declare modes =>
      rw [modes] at old
      exact ⟨old, trivial⟩
  | openChildSite modes front =>
      rw [modes] at old
      refine locates_of_fresh rfl rfl ?_ old
      exact place.flushText.delimits_openSite (by rw [rest_flushText, front]; rfl) (by simp)
        target.1
  | closeElement modes closes closed =>
      have begins := locates.begins
      rw [modes] at old begins
      have bracket := bracket_of_closeTag closed
      rw [rest_flushText] at bracket
      exact ⟨(List.forall_mem_cons.mp old).2,
        endsCode_of_bracket place target bracket (List.forall_mem_cons.mp begins).2⟩
  | openChild modes =>
      rw [modes] at old
      exact ⟨List.forall_mem_cons.mpr ⟨trivial, old⟩, trivial⟩
  | selfClose modes front =>
      have begins := locates.begins
      rw [modes] at old begins
      have bracket : '>' :: (reader.skipBlank.skip 2).rest <:+ reader.rest := by
        have passes : reader.skipBlank.rest <:+ reader.rest := List.drop_suffix _ _
        rw [front] at passes
        rw [rest_skip, front]
        exact (List.suffix_cons _ _).trans passes
      exact ⟨(List.forall_mem_cons.mp old).2,
        endsCode_of_bracket place target bracket (List.forall_mem_cons.mp begins).2⟩
  | endTag modes =>
      rw [modes] at old
      exact ⟨List.forall_mem_cons.mpr ⟨trivial, (List.forall_mem_cons.mp old).2⟩, trivial⟩
  | openSpread modes front =>
      rw [modes] at old
      refine locates_of_fresh rfl rfl ?_ old
      exact At.delimits_openSite blanked front (by simp) target.1
  | @nameAttribute tag outer character following next site modes front starts read =>
      rw [modes] at old
      cases site with
      | none => exact ⟨old, trivial⟩
      | some site =>
          exact locates_of_fresh rfl rfl (At.delimits_readAttribute blanked read target.1) old
  | @quoteEscape site outer mark character following modes quoted front =>
      obtain rfl : reached = passed ++ ['\\', character] :=
        place.reached_eq target (by simp [front])
      exact locates.gather modes rfl (by simp) rfl
  | @quoteCharacter site outer mark character following modes quoted front =>
      obtain rfl : reached = passed ++ [character] := place.reached_eq target (by simp [front])
      exact locates.gather modes rfl (by simp) rfl
  | openBrace modes unquoted front =>
      obtain rfl : reached = passed ++ ['{'] := place.reached_eq target (by simp [front])
      exact locates.gather modes rfl (by simp) rfl
  | closeBrace modes unquoted front =>
      obtain rfl : reached = passed ++ ['}'] := place.reached_eq target (by simp [front])
      exact locates.gather modes rfl (by simp) rfl
  | closeSite modes unquoted front =>
      rw [modes] at old
      obtain ⟨depth, holds⟩ := coherent.of_code modes (by simp [front]) unquoted
      refine ⟨(List.forall_mem_cons.mp old).2, ?_⟩
      rcases holds.outline.within_expression with ⟨parent, further, rfl⟩ | ⟨tag, further, rfl⟩
      · trivial
      · trivial
  | openEmbedded modes =>
      rw [modes] at old
      obtain ⟨here, others⟩ := List.forall_mem_cons.mp old
      exact ⟨List.forall_mem_cons.mpr ⟨trivial, List.forall_mem_cons.mpr ⟨here, others⟩⟩, trivial⟩
  | @code site outer character following modes unquoted front =>
      obtain rfl : reached = passed ++ [character] := place.reached_eq target (by simp [front])
      exact locates.gather modes rfl (by simp) rfl

/-- Until it has ended, reading is in order and locates its expressions. -/
theorem Reaches.locates {source : String} (reached : Reaches source reader)
    (unfinished : reader.modes ≠ []) :
    reader.InOrder source.toList ∧
      ∃ passed, reader.At source.toList passed ∧ reader.Locates passed := by
  induction reached with
  | start =>
      refine ⟨inOrder_start source, [], ⟨rfl, rfl⟩, ?_, trivial⟩
      intro mode member
      obtain rfl := List.mem_singleton.mp member
      trivial
  | @more reader next reached stepped inductionHypothesis =>
      have move := step_eq_more_iff.mp stepped
      have going : reader.modes ≠ [] := by
        intro ended
        have here : reader.step = .ok (.done reader) := by simp only [step, ended]
        cases here.symm.trans stepped
      obtain ⟨inOrder, passed, place, locates⟩ := inductionHypothesis going
      have onward := move.inOrder inOrder
      obtain ⟨before, stretch, target, -⟩ := onward.tracks.stretch
      exact ⟨onward, before ++ stretch, target, move.locates place target inOrder.coherent locates⟩
  | @done reader final reached stepped inductionHypothesis =>
      by_cases ended : reader.modes = []
      · have here : reader.step = .ok (.done reader) := by simp only [step, ended]
        cases here.symm.trans stepped
        exact absurd ended unfinished
      · obtain ⟨-, -, rfl⟩ := (inductionHypothesis ended).1.of_done stepped
        exact absurd rfl unfinished

/-! ### What a `<` within an expression means -/

/-- A `<` before a letter is taken for code exactly where it does not start markup. -/
theorem step_eq_gather_iff (modes : reader.modes = .expression site :: outer)
    (unquoted : site.quote = none) (opens : opensTag reader.rest) :
    reader.step = .ok (.more (reader.gather '<')) ↔ ¬ startsMarkup reader.pending := by
  obtain ⟨letter, following, front, -⟩ := exists_of_opensTag opens
  have same : { site with quote := quoteAfter none '<' } = site := by
    rw [show quoteAfter none '<' = site.quote from unquoted.symm ▸ rfl]
  have stays : { reader.gather '<' with modes := .expression site :: outer } =
      reader.gather '<' := by
    rw [← modes]
    rfl
  constructor
  · intro stepped starts
    simp only [step, modes] at stepped
    rw [stepExpression_plain unquoted front (by decide) (by decide), opens, starts] at stepped
    -- Behind a tag that is opened, attributes are read and no code.
    cases opened : (reader.flushPiece site false).openTag with
    | error fault =>
        rw [opened] at stepped
        cases stepped
    | ok result =>
        rw [opened] at stepped
        have entered := Progress.more.inj (Except.ok.inj stepped)
        have sameModes := congrArg Reader.modes entered
        rw [modes_gather, modes] at sameModes
        cases sameModes
  · intro starts
    have noMarkup : ¬ (opensTag reader.rest ∧ startsMarkup reader.pending) := fun both =>
      starts both.2
    have move := Moves.code modes unquoted front (by decide) (by decide) noMarkup
    rw [same, stays] at move
    exact move.step_eq

/-- The state after a number of steps, or the last one before reading ends or fails. -/
def advance (reader : Reader) : Nat → Reader
  | 0 => reader
  | count + 1 =>
      match reader.step with
      | .ok (.more next) => next.advance count
      | _ => reader

theorem Reaches.advance {source : String} (reached : Reaches source reader) (count : Nat) :
    Reaches source (reader.advance count) := by
  induction count generalizing reader with
  | zero => exact reached
  | succ count inductionHypothesis =>
      rw [Reader.advance]
      split
      next next stepped => exact inductionHypothesis (.more reached stepped)
      next => exact reached

/-- Wherever reading meets a `<` before a letter, within an expression and outside quotes,
the pending code tells whether all that the expression holds up to there, its elements
included, expects a value. The `<` is taken for code exactly if it does not. -/
theorem startsMarkup_iff_expectsValue {source : String} (reached : Reaches source reader)
    (modes : reader.modes = .expression site :: outer) (unquoted : site.quote = none)
    (opens : opensTag reader.rest) :
    ∃ before, ∃ delimiter ∈ ["\x7b", "\x7b..."], ∃ inside,
      source.toList = before ++ delimiter.toList ++ inside ++ reader.rest ∧
      site.opening = .after before delimiter.toList ∧
      (startsMarkup reader.pending ↔ Code.ExpectsValue inside) ∧
      (reader.step = .ok (.more (reader.gather '<')) ↔ ¬ Code.ExpectsValue inside) := by
  obtain ⟨-, passed, place, locates⟩ := reached.locates (by simp [modes])
  have ends := locates.endsCode
  rw [EndsCode, modes] at ends
  obtain ⟨inside, ⟨before, delimiter, isDelimiter, split, opening⟩, code⟩ := ends
  have decides := code.startsMarkup_iff
  refine ⟨before, delimiter, isDelimiter, inside, split ▸ place.1, opening, decides, ?_⟩
  rw [step_eq_gather_iff modes unquoted opens, decides]

/-- In front of `<c/>`, the pending code is a single word, which follows an element that
holds an expression of its own. -/
theorem startsMarkup_iff_expectsValue_nested :
    ∃ reader site outer,
      Reaches "<p q=\x7bé, <b>\x7by\x7d</b>or <c/>\x7d/>" reader ∧
      reader.modes = .expression site :: outer ∧ site.quote = none ∧ opensTag reader.rest ∧
      String.ofList reader.pending.reverse = "or " ∧
      ∃ before, ∃ delimiter ∈ ["\x7b", "\x7b..."], ∃ inside,
        "<p q=\x7bé, <b>\x7by\x7d</b>or <c/>\x7d/>".toList =
          before ++ delimiter.toList ++ inside ++ reader.rest ∧
        site.opening = .after before delimiter.toList ∧
        (startsMarkup reader.pending ↔ Code.ExpectsValue inside) ∧
        (reader.step = .ok (.more (reader.gather '<')) ↔ ¬ Code.ExpectsValue inside) := by
  have reached := @Reaches.start "<p q=\x7bé, <b>\x7by\x7d</b>or <c/>\x7d/>" |>.advance 14
  have modes : ((Reader.start "<p q=\x7bé, <b>\x7by\x7d</b>or <c/>\x7d/>").advance 14).modes =
      [.expression ⟨⟨⟨5, 0, 5⟩, ⟨6, 0, 6⟩⟩, false, 1, none⟩,
        .attributes ⟨"p", ⟨⟨0, 0, 0⟩, ⟨2, 0, 2⟩⟩⟩, .text none] := by
    decide +kernel
  have opens : opensTag
      ((Reader.start "<p q=\x7bé, <b>\x7by\x7d</b>or <c/>\x7d/>").advance 14).rest := by
    decide +kernel
  exact ⟨_, _, _, reached, modes, rfl, opens, by decide +kernel,
    startsMarkup_iff_expectsValue reached modes rfl opens⟩

end Reader
end MarkupTemplate
