import MarkupTemplate.Proofs.Reader.Lossless

/-!
# How many tags are open

Every `<` of a tag opens one, and every `</` and `/>` closes one. A run of tokens
that derives a phrase opens as many tags at once as elements of the phrase lie in
each other, and has closed them all in the end. A reader keeps count of the tokens
it adds, so that it never has more tags open than the template it reads is deep.
-/

namespace MarkupTemplate

/-! ### Levels of tokens -/

/-- Whether tokens of a kind open or close a tag. -/
def TokenKind.bounds : TokenKind → Bool
  | .tagOpen | .tagClose | .tagSelfClose => true
  | _ => false

namespace Token

/-- The number of open tags behind a token, given the number in front of it. -/
def levelAfter (token : Token) (level : Nat) : Nat :=
  match token.kind with
  | .tagOpen => level + 1
  | .tagClose | .tagSelfClose => level - 1
  | _ => level

/-- A token that neither opens nor closes a tag does not count. -/
theorem levelAfter_of_inner {token : Token} {kind : TokenKind} (isKind : token.kind = kind)
    (inner : kind.bounds = false) (level : Nat) : token.levelAfter level = level := by
  unfold levelAfter
  rw [isKind]
  cases kind with
  | tagOpen | tagClose | tagSelfClose => cases inner
  | _ => rfl

/-- The number of open tags behind tokens, given the number in front of them. -/
def through (level : Nat) (tokens : List Token) : Nat :=
  tokens.foldl (fun level token => token.levelAfter level) level

/-- The greatest number of open tags on the way through tokens. -/
def peak (level : Nat) : List Token → Nat
  | [] => level
  | token :: rest => max level (peak (token.levelAfter level) rest)

@[simp] theorem through_nil (level : Nat) : through level [] = level := rfl

@[simp] theorem through_cons (level : Nat) (token : Token) (rest : List Token) :
    through level (token :: rest) = through (token.levelAfter level) rest := rfl

@[simp] theorem through_append (level : Nat) (first second : List Token) :
    through level (first ++ second) = through (through level first) second :=
  List.foldl_append

theorem le_peak (level : Nat) (tokens : List Token) : level ≤ peak level tokens := by
  cases tokens with
  | nil => exact Nat.le_refl _
  | cons token rest => exact Nat.le_max_left _ _

theorem peak_append (level : Nat) (first second : List Token) :
    peak level (first ++ second) = max (peak level first) (peak (through level first) second) := by
  induction first generalizing level with
  | nil => exact (Nat.max_eq_right (le_peak level second)).symm
  | cons token rest inductionHypothesis =>
      simp [peak, inductionHypothesis, Nat.max_assoc]

/-- On the way through tokens no more tags are open than at their peak. -/
theorem through_le_peak (level : Nat) (first second : List Token) :
    through level first ≤ peak level (first ++ second) := by
  rw [peak_append]
  exact Nat.le_trans (le_peak _ second) (Nat.le_max_right _ _)

/-- Whether tokens open tags up to a depth and close them all. -/
structure Returns (depth : Nat) (tokens : List Token) : Prop where
  level : ∀ level, through level tokens = level
  peak : ∀ level, peak level tokens = level + depth

namespace Returns

variable {depth other : Nat} {tokens rest : List Token}

theorem nil : Returns 0 [] := ⟨fun _ => rfl, fun _ => rfl⟩

/-- A token that neither opens nor closes a tag. -/
theorem single {token : Token} {kind : TokenKind} (isKind : token.kind = kind)
    (inner : kind.bounds = false) : Returns 0 [token] where
  level := levelAfter_of_inner isKind inner
  peak level := by simp [Token.peak, levelAfter_of_inner isKind inner]

theorem append (first : Returns depth tokens) (second : Returns other rest) :
    Returns (max depth other) (tokens ++ rest) where
  level level := by rw [through_append, first.level, second.level]
  peak level := by
    rw [peak_append, first.level, first.peak, second.peak]
    omega

/-- A token in front that neither opens nor closes a tag. -/
theorem cons {token : Token} {kind : TokenKind} (returns : Returns depth tokens)
    (isKind : token.kind = kind) (inner : kind.bounds = false) :
    Returns depth (token :: tokens) := by
  simpa using (single isKind inner).append returns

/-- What stands between the two ends of an element lies one level deeper. -/
theorem enclose {mark stop : Token} (opens : mark.kind = .tagOpen)
    (closes : stop.kind = .tagClose ∨ stop.kind = .tagSelfClose)
    (returns : Returns depth tokens) : Returns (depth + 1) (mark :: (tokens ++ [stop])) := by
  have up (level : Nat) : mark.levelAfter level = level + 1 := by simp [levelAfter, opens]
  have down (level : Nat) : stop.levelAfter level = level - 1 := by
    rcases closes with kind | kind <;> simp [levelAfter, kind]
  refine ⟨fun level => ?_, fun level => ?_⟩
  · simp [up, down, returns.level]
  · simp only [Token.peak, peak_append, up, down, returns.level, returns.peak]
    omega

end Returns
end Token

open Spelling Token

/-- Tokens that derive a phrase open tags as deep as its elements lie in each other. -/
theorem Derives.returns {admits : List Node → Prop} {phrase : Phrase} {tokens : List Token}
    (derivation : Derives admits phrase tokens) : Returns phrase.nesting tokens := by
  induction derivation with
  | noChildren => exact .nil
  | text isText more inductionHypothesis =>
      simpa [Phrase.nesting, Node.nestingAll, Node.nesting] using
        inductionHypothesis.cons isText rfl
  | declaration isDeclaration more inductionHypothesis =>
      simpa [Phrase.nesting, Node.nestingAll, Node.nesting] using
        inductionHypothesis.cons isDeclaration rfl
  | site starts stops inner more innerHypothesis moreHypothesis =>
      have after := moreHypothesis.cons stops rfl
      simpa [Phrase.nesting] using
        (innerHypothesis.append after).cons starts rfl
  | child first more firstHypothesis moreHypothesis =>
      exact firstHypothesis.append moreHypothesis
  | selfClosing opens names ends inner inductionHypothesis =>
      have inside := inductionHypothesis.cons names rfl
      simpa [Phrase.nesting, Node.nesting, Node.nestingAll] using inside.enclose opens (.inr ends)
  | @enclosing mark name stop closeMark closeName closeStop _ _ inside body opens names ends inner
      content closes closeNames closeEnds same innerHypothesis contentHypothesis =>
      have within := (innerHypothesis.append
        (contentHypothesis.cons ends rfl)).cons names rfl
      have behind : Returns 0 [closeName, closeStop] :=
        (Returns.single closeEnds rfl).cons closeNames rfl
      simpa [Phrase.nesting, Node.nesting] using
        (within.enclose opens (.inl closes)).append behind
  | noAttributes => exact .nil
  | bare names more inductionHypothesis =>
      simpa [Phrase.nesting, Attribute.nestingAll, Attribute.nesting, Node.nesting] using
        inductionHypothesis.cons names rfl
  | quoted names equates quotes more inductionHypothesis =>
      simpa [Phrase.nesting, Attribute.nestingAll, Attribute.nesting, Node.nesting] using
        ((inductionHypothesis.cons quotes rfl).cons equates rfl).cons names rfl
  | valued names equates starts stops inner admitted more innerHypothesis moreHypothesis =>
      have after := moreHypothesis.cons stops rfl
      simpa [Phrase.nesting, Attribute.nestingAll, Attribute.nesting] using
        (((innerHypothesis.append after).cons starts rfl).cons equates rfl).cons names rfl
  | spread starts stops inner admitted more innerHypothesis moreHypothesis =>
      have after := moreHypothesis.cons stops rfl
      simpa [Phrase.nesting, Attribute.nestingAll, Attribute.nesting] using
        (innerHypothesis.append after).cons starts rfl
  | noPieces => exact .nil
  | code isCode more inductionHypothesis =>
      simpa [Phrase.nesting, Node.nestingAll, Node.nesting] using
        inductionHypothesis.cons isCode rfl
  | embedded first more firstHypothesis moreHypothesis =>
      exact firstHypothesis.append moreHypothesis

/-! ### Readers -/

namespace Reader

variable {reader next : Reader}

/-- Whether a reader has gone on by adding tokens, with the open tags counted along. -/
def Counts (reader next : Reader) : Prop :=
  ∃ added, next.tokens = added.reverse ++ reader.tokens ∧
    next.openElements = through reader.openElements added

namespace Counts

theorem refl (reader : Reader) : reader.Counts reader := ⟨[], rfl, rfl⟩

theorem trans {first second third : Reader} (before : first.Counts second)
    (behind : second.Counts third) : first.Counts third := by
  obtain ⟨added, tokens, level⟩ := before
  obtain ⟨more, moreTokens, moreLevel⟩ := behind
  refine ⟨added ++ more, ?_, ?_⟩
  · rw [moreTokens, tokens, List.reverse_append, List.append_assoc]
  · rw [moreLevel, level, through_append]

/-- Tokens that close every tag they open leave the count as it was. -/
theorem of_returns {depth : Nat} {added : List Token} (returns : Returns depth added)
    (tokens : next.tokens = added.reverse ++ reader.tokens)
    (same : next.openElements = reader.openElements) : reader.Counts next :=
  ⟨added, tokens, by rw [returns.level, same]⟩

theorem of_derives {admits : List Node → Prop} {phrase : Phrase} {added : List Token}
    (derives : Derives admits phrase added)
    (tokens : next.tokens = added.reverse ++ reader.tokens)
    (same : next.openElements = reader.openElements) : reader.Counts next :=
  of_returns derives.returns tokens same

/-- A single token that neither opens nor closes a tag. -/
theorem of_single {token : Token} {kind : TokenKind} (tokens : next.tokens = token :: reader.tokens)
    (isKind : token.kind = kind) (inner : kind.bounds = false)
    (same : next.openElements = reader.openElements) : reader.Counts next :=
  of_returns (.single isKind inner) tokens same

end Counts

theorem counts_flushText (reader : Reader) : reader.Counts reader.flushText := by
  obtain ⟨flushed, tokens, derives⟩ := @flushText_derives (fun _ => True) reader
  exact .of_derives derives tokens (openElements_flushText reader)

theorem counts_flushPiece (reader : Reader) (site : Site) (closing : Bool) :
    reader.Counts (reader.flushPiece site closing) := by
  obtain ⟨flushed, tokens, derives⟩ :=
    @flushPiece_derives (fun _ => True) reader site closing
  exact .of_derives derives tokens (openElements_flushPiece reader site closing)

/-- A tag that is opened counts. -/
theorem OpensTag.counts {tag : OpenTag} (opening : reader.OpensTag tag next) :
    reader.Counts next := by
  obtain ⟨mark, name, tokens, opens, names, -⟩ := opening.tokens
  refine ⟨[mark, name], tokens, ?_⟩
  rw [opening.openElements]
  simp [levelAfter, opens, names]

/-- A tag that is closed does not count any more. -/
theorem ClosesTag.counts {tag : OpenTag} (closing : reader.ClosesTag tag next) :
    reader.Counts next := by
  obtain ⟨mark, name, stop, tokens, closes, names, ends, -⟩ := closing.tokens
  refine ⟨[mark, name, stop], tokens, ?_⟩
  rw [closing.openElements]
  simp [levelAfter, closes, names, ends]

/-- The attributes of a tag do not count. -/
theorem counts_readAttribute {character : Char} {following : List Char} {site : Option Site}
    (front : reader.rest = character :: following) (starts : isAttrNameStart character)
    (read : reader.readAttribute = .ok (site, next)) : reader.Counts next := by
  obtain ⟨same, reads⟩ := readsAttribute_of_readAttribute front starts read
  cases site with
  | none =>
      obtain ⟨given, emitted, tokens, derives, -⟩ := reads
      exact .of_derives derives tokens same
  | some site =>
      obtain ⟨-, name, equals, start, tokens, names, equates, begins, -⟩ := reads
      exact .of_returns (((Returns.single begins rfl).cons equates rfl).cons names rfl) tokens same

/-- Every move counts the tags that it opens and closes. -/
theorem Moves.counts (move : reader.Moves next) : reader.Counts next := by
  cases move with
  | escape | literal | quoteEscape | quoteCharacter | openBrace | closeBrace | code =>
      exact .refl reader
  | declare modes front declared =>
      obtain ⟨same, token, tokens, kind, -⟩ := declaration_of_readDeclaration declared
      exact (counts_flushText reader).trans (.of_single tokens kind rfl same)
  | openChildSite modes front =>
      obtain ⟨-, token, tokens, kind⟩ := site_of_openSite reader.flushText .expressionStart "\x7b"
      exact (counts_flushText reader).trans (.of_single tokens kind rfl rfl)
  | closeElement modes closes closed =>
      obtain ⟨tag, -, closing⟩ := closesTag_of_closeTag closed
      exact (counts_flushText reader).trans closing.counts
  | openChild modes opens opened =>
      exact (counts_flushText reader).trans (opensTag_of_openTag opened).counts
  | selfClose modes front =>
      exact ⟨[⟨.tagSelfClose, _, _⟩], rfl, rfl⟩
  | endTag modes front =>
      obtain ⟨token, tokens, kind⟩ := exists_emit (reader.skipBlank.skip 1) .tagEnd ">"
        reader.skipBlank.position
      exact .of_single tokens kind rfl rfl
  | openSpread modes front =>
      obtain ⟨-, token, tokens, kind⟩ := site_of_openSite reader.skipBlank .spreadStart "\x7b..."
      exact .of_single tokens kind rfl rfl
  | nameAttribute modes front starts read =>
      have counts := counts_readAttribute front starts read
      exact counts
  | closeSite modes unquoted front last =>
      rename_i site outer following
      obtain ⟨token, tokens, kind⟩ := exists_emit ((reader.flushPiece site true).skip 1)
        .expressionEnd "\x7d" reader.position
      exact (counts_flushPiece reader site true).trans (.of_single tokens kind rfl rfl)
  | openEmbedded modes unquoted opens starts opened =>
      exact (counts_flushPiece reader _ false).trans (opensTag_of_openTag opened).counts

/-- Where reading ends, pending text may still be added. -/
theorem counts_of_done {final : Reader} (stepped : reader.step = .ok (.done final)) :
    reader.Counts final := by
  cases modes : reader.modes with
  | nil =>
      have here : reader.step = .ok (.done reader) := by simp only [step, modes]
      cases here.symm.trans stepped
      exact .refl reader
  | cons mode outer =>
      obtain ⟨-, -, rfl⟩ := (step_eq_done_iff modes).mp stepped
      exact counts_flushText reader

/-- A whole reading counts the tags that it opens and closes. -/
theorem counts_run (reader : Reader) : reader.Counts reader.run.reader := by
  fun_induction run reader with
  | case1 reader fault stepped => exact .refl reader
  | case2 reader final stepped => exact counts_of_done stepped
  | case3 reader next stepped inductionHypothesis =>
      exact (step_eq_more_iff.mp stepped).counts.trans inductionHypothesis

/-- On the way through a source no more tags are open than the elements that it spells
lie deep. -/
theorem Counts.openElements_le {admits : List Node → Prop} {nodes : List Node} {source : String}
    (reached : (Reader.start source).Counts reader)
    (sameRun : reader.run = (Reader.start source).run)
    (derives : Derives admits (.children nodes)
      (Reader.start source).run.reader.tokens.reverse) :
    reader.openElements ≤ Node.nestingAll nodes := by
  obtain ⟨before, tokens, level⟩ := reached
  obtain ⟨behind, all, -⟩ := counts_run reader
  have split : (Reader.start source).run.reader.tokens.reverse = before ++ behind := by
    rw [← sameRun, all, tokens]
    simp [Reader.start]
  calc reader.openElements = through 0 before := level
    _ ≤ peak 0 (before ++ behind) := through_le_peak 0 before behind
    _ = 0 + Node.nestingAll nodes := by rw [← split, derives.returns.peak, Phrase.nesting]
    _ = Node.nestingAll nodes := Nat.zero_add _

end Reader
end MarkupTemplate
