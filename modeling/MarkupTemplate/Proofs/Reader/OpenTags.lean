import MarkupTemplate.Proofs.Reader.Failures
import MarkupTemplate.Proofs.Reader.Levels

/-!
# Which tags are open

A reader keeps its open tags three times: on the stack of modes, as a number, and in
the tokens that it has added. `Token.openAfter` goes through tokens and closes every
tag with the token that belongs to it. In every state that reading comes to, the tags
that the tokens leave open are those of the modes, and the number is how many they
are. So nothing is ever taken from zero, and a fault that blames an open tag blames
the innermost one.
-/

namespace MarkupTemplate

open Spelling Text

/-! ### Tags that tokens leave open -/

namespace Token

/-- The tags that are open behind tokens, innermost first, given those that are open in
front of them. There is no answer where a token closes a tag that is not open, or one
of another name. -/
def openAfter (opened : List OpenTag) : List Token → Option (List OpenTag)
  | [] => some opened
  | mark :: rest =>
      match mark.kind with
      | .tagOpen =>
          match rest with
          | name :: rest =>
              if name.kind = .tagName then
                openAfter (⟨name.value, ⟨mark.span.start, name.span.stop⟩⟩ :: opened) rest
              else none
          | [] => none
      | .tagClose =>
          match rest with
          | name :: rest =>
              if name.kind = .tagName ∧ opened.head?.map (·.name) = some name.value then
                openAfter opened.tail rest
              else none
          | [] => none
      | .tagSelfClose => if opened.isEmpty then none else openAfter opened.tail rest
      | _ => openAfter opened rest

variable {tag : OpenTag} {opened behind : List OpenTag} {mark name : Token}
  {first second rest : List Token}

theorem openAfter_tagOpen (opens : mark.kind = .tagOpen) (names : name.kind = .tagName) :
    openAfter opened (mark :: name :: rest) =
      openAfter (⟨name.value, ⟨mark.span.start, name.span.stop⟩⟩ :: opened) rest := by
  simp [openAfter.eq_def opened, opens, names]

theorem openAfter_tagClose (closes : mark.kind = .tagClose) (names : name.kind = .tagName)
    (same : name.value = tag.name) :
    openAfter (tag :: opened) (mark :: name :: rest) = openAfter opened rest := by
  simp [openAfter.eq_def (tag :: opened), closes, names, same]

theorem openAfter_tagSelfClose (closes : mark.kind = .tagSelfClose) :
    openAfter (tag :: opened) (mark :: rest) = openAfter opened rest := by
  simp [openAfter.eq_def (tag :: opened), closes]

theorem openAfter_cons_inner (inner : mark.kind.bounds = false) :
    openAfter opened (mark :: rest) = openAfter opened rest := by
  rw [openAfter.eq_def]
  cases kind : mark.kind <;> simp_all [TokenKind.bounds]

/-- What complete tokens leave open is open in front of those that follow. -/
theorem openAfter_append (complete : openAfter opened first = some behind) :
    openAfter opened (first ++ second) = openAfter behind second := by
  fun_induction openAfter opened first with
  | case1 =>
      cases complete
      rfl
  | case2 opened mark opens name rest names inductionHypothesis =>
      rw [List.cons_append, List.cons_append, openAfter_tagOpen opens names]
      exact inductionHypothesis complete
  | case5 opened mark closes name rest fits inductionHypothesis =>
      obtain ⟨names, isNamed⟩ := fits
      obtain ⟨tag, isFirst, same⟩ := Option.map_eq_some_iff.mp isNamed
      obtain ⟨outer, rfl⟩ := List.head?_eq_some_iff.mp isFirst
      rw [List.cons_append, List.cons_append, openAfter_tagClose closes names same.symm]
      exact inductionHypothesis complete
  | case9 opened mark rest closes nonempty inductionHypothesis =>
      obtain ⟨tag, outer, rfl⟩ := List.exists_cons_of_ne_nil (by simpa using nonempty)
      rw [List.cons_append, openAfter_tagSelfClose closes]
      exact inductionHypothesis complete
  | case10 opened mark rest notOpen notClose notSelfClose inductionHypothesis =>
      have inner : mark.kind.bounds = false := by
        cases kind : mark.kind <;> simp_all [TokenKind.bounds]
      rw [List.cons_append, openAfter_cons_inner inner]
      exact inductionHypothesis complete
  | case3 | case4 | case6 | case7 | case8 => cases complete

/-- Tokens that neither open nor close a tag leave the open tags as they are. -/
theorem openAfter_inner (opened : List OpenTag) {tokens : List Token}
    (inner : ∀ token ∈ tokens, token.kind.bounds = false) :
    openAfter opened tokens = some opened := by
  induction tokens with
  | nil => rfl
  | cons token tokens inductionHypothesis =>
      obtain ⟨isInner, others⟩ := List.forall_mem_cons.mp inner
      rw [openAfter_cons_inner isInner, inductionHypothesis others]

end Token

/-! ### Tags that modes hold open -/

namespace Mode

/-- The tag that a mode holds open. -/
def tag? : Mode → Option OpenTag
  | .text parent => parent
  | .attributes tag => some tag
  | .expression _ => none

/-- The tags that modes hold open, innermost first. -/
def tags (modes : List Mode) : List OpenTag := modes.filterMap tag?

@[simp] theorem tags_textTop (outer : List Mode) : tags (.text none :: outer) = tags outer := rfl

@[simp] theorem tags_text (tag : OpenTag) (outer : List Mode) :
    tags (.text (some tag) :: outer) = tag :: tags outer := rfl

@[simp] theorem tags_attributes (tag : OpenTag) (outer : List Mode) :
    tags (.attributes tag :: outer) = tag :: tags outer := rfl

@[simp] theorem tags_expression (site : Site) (outer : List Mode) :
    tags (.expression site :: outer) = tags outer := rfl

theorem length_tags (modes : List Mode) : (tags modes).length = openTags modes := by
  rw [tags, List.length_filterMap_eq_countP, openTags]
  congr 1
  funext mode
  cases mode <;> rfl

/-- Whether a mode that reads an expression has a brace open. -/
def IsDeep : Mode → Prop
  | .expression site => 0 < site.depth
  | _ => True

end Mode

namespace Reader

open Token

variable {reader next : Reader} {tag : OpenTag} {before behind : List OpenTag}

/-! ### What a move adds -/

/-- Whether a reader goes on by adding tokens that lead from some open tags to others. -/
def Adds (reader next : Reader) (before behind : List OpenTag) : Prop :=
  ∃ added, next.tokens = added.reverse ++ reader.tokens ∧ openAfter before added = some behind

namespace Adds

theorem refl (reader : Reader) (opened : List OpenTag) : reader.Adds reader opened opened :=
  ⟨[], rfl, rfl⟩

theorem trans {first second third : Reader} {between : List OpenTag}
    (start : first.Adds second before between) (further : second.Adds third between behind) :
    first.Adds third before behind := by
  obtain ⟨added, tokens, leads⟩ := start
  obtain ⟨more, moreTokens, furtherLeads⟩ := further
  refine ⟨added ++ more, ?_, ?_⟩
  · rw [moreTokens, tokens, List.reverse_append, List.append_assoc]
  · rw [openAfter_append leads, furtherLeads]

/-- Tokens that neither open nor close a tag. -/
theorem of_inner (added : List Token) (tokens : next.tokens = added.reverse ++ reader.tokens)
    (inner : ∀ token ∈ added, token.kind.bounds = false) (opened : List OpenTag) :
    reader.Adds next opened opened :=
  ⟨added, tokens, openAfter_inner opened inner⟩

/-- A single token that neither opens nor closes a tag. -/
theorem of_single {token : Token} {kind : TokenKind}
    (tokens : next.tokens = token :: reader.tokens) (isKind : token.kind = kind)
    (inner : kind.bounds = false) (opened : List OpenTag) : reader.Adds next opened opened :=
  of_inner [token] tokens (by simpa [isKind] using inner) opened

end Adds

theorem adds_flushText (reader : Reader) (opened : List OpenTag) :
    reader.Adds reader.flushText opened opened := by
  unfold flushText
  split
  · exact .refl reader opened
  · obtain ⟨token, tokens, kind⟩ := exists_emit reader .text _ reader.pendingStart
    exact .of_single tokens kind rfl opened

theorem adds_flushPiece (reader : Reader) (site : Site) (closing : Bool)
    (opened : List OpenTag) : reader.Adds (reader.flushPiece site closing) opened opened := by
  unfold flushPiece
  split
  · exact .refl reader opened
  · obtain ⟨token, tokens, kind⟩ := exists_emit reader .expression _ reader.pendingStart
    exact .of_single tokens kind rfl opened

/-- The tokens of a tag that is opened give back the tag. -/
theorem adds_openTag (opened : reader.openTag = .ok (tag, next)) (outer : List OpenTag) :
    reader.Adds next outer (tag :: outer) := by
  unfold openTag at opened
  simp only [] at opened
  split at opened
  · cases opened
  split at opened
  · cases opened
  cases opened
  exact ⟨[⟨.tagOpen, _, _⟩, ⟨.tagName, _, _⟩], rfl, openAfter_tagOpen rfl rfl⟩

/-- The tokens of a tag that is closed belong to the tag. -/
theorem ClosesTag.adds (closing : reader.ClosesTag tag next) (outer : List OpenTag) :
    reader.Adds next (tag :: outer) outer := by
  obtain ⟨mark, name, stop, tokens, closes, names, ends, same⟩ := closing.tokens
  refine ⟨[mark, name, stop], tokens, ?_⟩
  rw [openAfter_tagClose closes names same]
  exact openAfter_inner outer (by simp [ends, TokenKind.bounds])

/-- An attribute neither opens nor closes a tag. -/
theorem adds_readAttribute {site : Option Site} (read : reader.readAttribute = .ok (site, next))
    (opened : List OpenTag) : reader.Adds next opened opened := by
  unfold readAttribute at read
  simp only [] at read
  split at read
  · have value := (readsValue_of_readValue read).2
    cases site with
    | none =>
        obtain ⟨token, tokens, kind, -⟩ := value
        exact .of_inner [⟨.attrName, _, _⟩, ⟨.attrEquals, _, _⟩, token] tokens
          (by simp [kind, TokenKind.bounds]) opened
    | some site =>
        obtain ⟨-, token, tokens, kind⟩ := value
        exact .of_inner [⟨.attrName, _, _⟩, ⟨.attrEquals, _, _⟩, token] tokens
          (by simp [kind, TokenKind.bounds]) opened
  · cases read
    exact .of_inner [⟨.attrName, _, _⟩] rfl (by simp [TokenKind.bounds]) opened

/-- Every move adds tokens that lead from the tags it finds open to those it leaves open. -/
theorem Moves.adds (move : reader.Moves next) :
    reader.Adds next (Mode.tags reader.modes) (Mode.tags next.modes) := by
  cases move with
  | escape modes | literal modes => exact .refl reader _
  | declare modes front declared =>
      obtain ⟨-, token, tokens, kind, -⟩ := declaration_of_readDeclaration declared
      rw [modes]
      exact (adds_flushText reader _).trans (.of_single tokens kind rfl _)
  | openChildSite modes front =>
      obtain ⟨-, token, tokens, kind⟩ := site_of_openSite reader.flushText .expressionStart "\x7b"
      rw [modes]
      exact (adds_flushText reader _).trans (.of_single tokens kind rfl _)
  | closeElement modes closes closed =>
      obtain ⟨tag, rfl, closing⟩ := closesTag_of_closeTag closed
      rw [modes]
      exact (adds_flushText reader _).trans (closing.adds _)
  | openChild modes opens opened =>
      rw [modes]
      exact (adds_flushText reader _).trans (adds_openTag opened _)
  | selfClose modes front =>
      rw [modes]
      exact ⟨[⟨.tagSelfClose, _, _⟩], rfl, openAfter_tagSelfClose rfl⟩
  | endTag modes front =>
      rw [modes]
      exact .of_inner [⟨.tagEnd, _, _⟩] rfl (by simp [TokenKind.bounds]) _
  | openSpread modes front =>
      obtain ⟨-, token, tokens, kind⟩ := site_of_openSite reader.skipBlank .spreadStart "\x7b..."
      rw [modes]
      exact .of_single tokens kind rfl _
  | @nameAttribute _ _ _ _ _ site modes front starts read =>
      rw [modes]
      cases site <;> exact adds_readAttribute read _
  | quoteEscape modes | quoteCharacter modes | openBrace modes | closeBrace modes | code modes =>
      rw [modes]
      exact .refl reader _
  | closeSite modes unquoted front last =>
      rw [modes]
      exact (adds_flushPiece reader _ true _).trans
        (.of_inner [⟨.expressionEnd, _, _⟩] rfl (by simp [TokenKind.bounds]) _)
  | openEmbedded modes unquoted opens starts opened =>
      rw [modes]
      exact (adds_flushPiece reader _ false _).trans (adds_openTag opened _)

/-- Every move keeps the open tags within the limit. -/
theorem Moves.bounded (move : reader.Moves next) (bounded : reader.openElements ≤ maxNesting) :
    next.openElements ≤ maxNesting := by
  cases move with
  | escape | literal | quoteEscape | quoteCharacter | openBrace | closeBrace | code => exact bounded
  | declare modes front declared =>
      simpa [(declaration_of_readDeclaration declared).1] using bounded
  | openChildSite modes front => simpa using bounded
  | closeElement modes closes closed =>
      obtain ⟨tag, -, closing⟩ := closesTag_of_closeTag closed
      have fewer := Nat.sub_le reader.openElements 1
      simpa [closing.openElements] using fewer.trans bounded
  | openChild modes opens opened =>
      have opening := opensTag_of_openTag opened
      simpa [opening.openElements] using Nat.succ_le_of_lt opening.shallow
  | selfClose modes front => exact (Nat.sub_le _ 1).trans bounded
  | endTag modes front => exact bounded
  | openSpread modes front => exact bounded
  | nameAttribute modes front starts read =>
      simpa [(readsAttribute_of_readAttribute front starts read).1] using bounded
  | closeSite modes unquoted front last => simpa using bounded
  | openEmbedded modes unquoted opens starts opened =>
      have opening := opensTag_of_openTag opened
      simpa [opening.openElements] using Nat.succ_le_of_lt opening.shallow

/-- Every move keeps a brace of every expression open. -/
theorem Moves.isDeep (move : reader.Moves next) (deep : ∀ mode ∈ reader.modes, mode.IsDeep) :
    ∀ mode ∈ next.modes, mode.IsDeep := by
  cases move with
  | escape | literal => exact deep
  | declare modes | quoteEscape modes => rwa [modes] at deep
  | openChildSite modes | openSpread modes =>
      rw [modes] at deep
      exact List.forall_mem_cons.mpr ⟨Nat.one_pos, deep⟩
  | closeElement modes | selfClose modes | closeSite modes =>
      rw [modes] at deep
      exact (List.forall_mem_cons.mp deep).2
  | openChild modes =>
      rw [modes] at deep
      exact List.forall_mem_cons.mpr ⟨trivial, deep⟩
  | endTag modes =>
      rw [modes] at deep
      exact List.forall_mem_cons.mpr ⟨trivial, (List.forall_mem_cons.mp deep).2⟩
  | @nameAttribute _ _ _ _ _ site modes front starts read =>
      rw [modes] at deep
      have reads := (readsAttribute_of_readAttribute front starts read).2
      cases site with
      | none => exact deep
      | some site =>
          have fresh : 0 < site.depth := reads.1.depth ▸ Nat.one_pos
          exact List.forall_mem_cons.mpr ⟨fresh, deep⟩
  | quoteCharacter modes | code modes =>
      rw [modes] at deep
      obtain ⟨here, others⟩ := List.forall_mem_cons.mp deep
      exact List.forall_mem_cons.mpr ⟨here, others⟩
  | openBrace modes =>
      rw [modes] at deep
      exact List.forall_mem_cons.mpr ⟨Nat.succ_pos _, (List.forall_mem_cons.mp deep).2⟩
  | closeBrace modes unquoted front more =>
      rw [modes] at deep
      exact List.forall_mem_cons.mpr ⟨Nat.sub_pos_of_lt more, (List.forall_mem_cons.mp deep).2⟩
  | openEmbedded modes =>
      rw [modes] at deep
      obtain ⟨here, others⟩ := List.forall_mem_cons.mp deep
      exact List.forall_mem_cons.mpr ⟨trivial, List.forall_mem_cons.mpr ⟨here, others⟩⟩

/-! ### States that reading comes to -/

/-- Whether reading a source comes to a state. -/
inductive Reaches (source : String) : Reader → Prop where
  | start : Reaches source (.start source)
  | more {reader next : Reader} (reached : Reaches source reader)
      (stepped : reader.step = .ok (.more next)) : Reaches source next
  | done {reader final : Reader} (reached : Reaches source reader)
      (stepped : reader.step = .ok (.done final)) : Reaches source final

/-- Whether what a reader knows of its open tags agrees. -/
structure Agrees (reader : Reader) : Prop where
  tokens : openAfter [] reader.tokens.reverse = some (Mode.tags reader.modes)
  balanced : reader.Balanced
  bounded : reader.openElements ≤ maxNesting
  deep : ∀ mode ∈ reader.modes, mode.IsDeep

theorem Agrees.count (agrees : reader.Agrees) :
    reader.openElements = (Mode.tags reader.modes).length :=
  agrees.balanced.trans (Mode.length_tags reader.modes).symm

/-- Tokens that are added lead on from those that are there. -/
theorem Adds.tokens {modes : List Mode} (adds : reader.Adds next (Mode.tags reader.modes)
    (Mode.tags modes)) (agrees : reader.Agrees) :
    openAfter [] next.tokens.reverse = some (Mode.tags modes) := by
  obtain ⟨added, tokens, leads⟩ := adds
  rw [tokens, List.reverse_append, List.reverse_reverse, openAfter_append agrees.tokens, leads]

theorem Moves.agrees (move : reader.Moves next) (agrees : reader.Agrees) : next.Agrees where
  tokens := move.adds.tokens agrees
  balanced := move.balanced agrees.balanced
  bounded := move.bounded agrees.bounded
  deep := move.isDeep agrees.deep

theorem Agrees.of_done {final : Reader} (agrees : reader.Agrees)
    (stepped : reader.step = .ok (.done final)) : final.Agrees := by
  cases modes : reader.modes with
  | nil =>
      have here : reader.step = .ok (.done reader) := by simp only [step, modes]
      cases here.symm.trans stepped
      exact agrees
  | cons mode outer =>
      obtain ⟨rfl, -, rfl⟩ := (step_eq_done_iff modes).mp stepped
      have tags : Mode.tags reader.modes = Mode.tags outer := by rw [modes]; rfl
      have deep := agrees.deep
      rw [modes] at deep
      refine ⟨?_, ?_, ?_, (List.forall_mem_cons.mp deep).2⟩
      · have adds := adds_flushText reader (Mode.tags outer)
        nth_rewrite 1 [← tags] at adds
        exact adds.tokens agrees
      · have balanced := agrees.balanced
        rw [Balanced, modes] at balanced
        simpa [Balanced] using balanced
      · simpa using agrees.bounded

/-- Wherever reading comes to, it agrees on the open tags. -/
theorem Reaches.agrees {source : String} (reached : Reaches source reader) : reader.Agrees := by
  induction reached with
  | start => exact ⟨rfl, rfl, Nat.zero_le _, by simp [Reader.start, Mode.IsDeep]⟩
  | more _ stepped inductionHypothesis =>
      exact (step_eq_more_iff.mp stepped).agrees inductionHypothesis
  | done _ stepped inductionHypothesis => exact inductionHypothesis.of_done stepped

/-! ### Faults that blame a tag -/

/-- Whether a reader stands in front of a tag that opens, with a given name: in text, or
where code outside quotes expects a value. -/
inductive MeetsTag (reader : Reader) : List Char → Prop where
  | child {parent : Option OpenTag} {outer : List Mode}
      (modes : reader.modes = .text parent :: outer) (opens : opensTag reader.rest) :
      MeetsTag reader ((reader.rest.drop 1).takeWhile isTagNameChar)
  | embedded {site : Site} {outer : List Mode} (modes : reader.modes = .expression site :: outer)
      (unquoted : site.quote = none) (opens : opensTag reader.rest)
      (starts : startsMarkup reader.pending) :
      MeetsTag reader ((reader.rest.drop 1).takeWhile isTagNameChar)

/-- What a fault says about the tags that are open or opened. -/
inductive Blames (reader : Reader) (fault : Fault) : Prop where
  | unclosed {tag : OpenTag} {outer : List Mode}
      (modes : reader.modes = .text (some tag) :: outer)
      (same : fault = ⟨.openTag tag.name, tag.span, none⟩)
  | crossed {tag : OpenTag} {outer : List Mode} {closed : String}
      (modes : reader.modes = .text (some tag) :: outer)
      (cause : fault.cause = .crossedTags tag.name closed) (related : fault.related = some tag.span)
  | tooDeep {name : List Char} (meets : reader.MeetsTag name) (compound : isCompoundName name)
      (full : maxNesting ≤ reader.openElements)
      (cause : fault.cause = .tooDeep (String.ofList name))
  | nothing (kind : fault.cause.kind ∉
      [Diagnostic.Kind.unclosedTag, .mismatchedCloseTag, .nestingTooDeep])

variable {fault : Fault}

/-- A tag cannot be opened because of its name, or because elements lie too deep. -/
theorem openTag_eq_error (failed : reader.openTag = .error fault) :
    fault.cause = .badTagName (String.ofList ((reader.rest.drop 1).takeWhile isTagNameChar)) ∨
      isCompoundName ((reader.rest.drop 1).takeWhile isTagNameChar) ∧
        maxNesting ≤ reader.openElements ∧
        fault.cause = .tooDeep (String.ofList ((reader.rest.drop 1).takeWhile isTagNameChar)) := by
  unfold openTag at failed
  simp only [] at failed
  split at failed
  next =>
    cases failed
    exact .inl rfl
  next compound =>
    split at failed
    next full =>
      cases failed
      exact .inr ⟨by simpa using compound, full, rfl⟩
    next => cases failed

/-- A tag of a good name cannot be opened where as many as allowed are open. -/
theorem openTag_of_full (compound : isCompoundName ((reader.rest.drop 1).takeWhile isTagNameChar))
    (full : maxNesting ≤ reader.openElements) :
    ∃ fault, reader.openTag = .error fault ∧ fault.cause.kind = .nestingTooDeep := by
  unfold openTag
  simp only []
  rw [if_neg (by simpa using compound), if_pos full]
  exact ⟨_, rfl, rfl⟩

/-- A closing tag is unfinished, closes nothing, or crosses the tag that is open. -/
theorem closeTag_eq_error {parent : Option OpenTag} (failed : reader.closeTag parent = .error fault) :
    (∃ name, fault.cause = .unfinishedCloseTag name) ∨ (∃ name, fault.cause = .strayCloseTag name) ∨
      ∃ tag closed, parent = some tag ∧ fault.cause = .crossedTags tag.name closed ∧
        fault.related = some tag.span := by
  unfold closeTag at failed
  simp only [] at failed
  split at failed
  next =>
    split at failed
    next =>
      cases failed
      exact .inr (.inl ⟨_, rfl⟩)
    next tag =>
      split at failed
      next => cases failed
      next =>
        cases failed
        exact .inr (.inr ⟨tag, _, rfl, rfl, rfl⟩)
  next =>
    cases failed
    exact .inl ⟨_, rfl⟩

/-- A declaration fails only by not ending. -/
theorem readDeclaration_eq_error (failed : reader.readDeclaration = .error fault) :
    fault.cause = .openDeclaration := by
  unfold readDeclaration at failed
  split at failed
  · cases failed
  · cases failed
    rfl

/-- A quoted value fails only by not ending. -/
theorem readString_eq_error {quote : Char} (failed : reader.readString quote = .error fault) :
    fault.cause = .openString quote := by
  unfold readString at failed
  simp only [] at failed
  split at failed
  · cases failed
  · cases failed
    rfl

/-- An attribute fails only in its value. -/
theorem readAttribute_eq_error (failed : reader.readAttribute = .error fault) :
    (∃ quote, fault.cause = .openString quote) ∨ ∃ name, fault.cause = .missingValue name := by
  rcases reader.readAttribute_eq with ⟨next, bare⟩ | ⟨valued, name, -, same⟩
  · cases bare.symm.trans failed
  rw [same, readValue] at failed
  split at failed
  next => exact .inl ⟨_, readString_eq_error (map_eq_error failed)⟩
  next => exact .inl ⟨_, readString_eq_error (map_eq_error failed)⟩
  next => cases failed
  next =>
    cases failed
    exact .inr ⟨name, rfl⟩

/-- Every fault blames the innermost open tag, one that is opened too deep, or none. -/
theorem Fails.blames (fails : reader.Fails fault) : reader.Blames fault := by
  have ofCause {cause : Cause} (same : fault.cause = cause)
      (kind : cause.kind ∉ [Diagnostic.Kind.unclosedTag, .mismatchedCloseTag, .nestingTooDeep]) :
      reader.Blames fault := .nothing (same ▸ kind)
  cases fails with
  | unclosed modes ended => exact .unclosed modes rfl
  | declare modes front undeclared =>
      exact ofCause (readDeclaration_eq_error undeclared) (by simp [Cause.kind])
  | closeElement modes closes unclosed =>
      rcases closeTag_eq_error unclosed with ⟨name, same⟩ | ⟨name, same⟩ |
        ⟨tag, closed, rfl, cause, related⟩
      · exact ofCause same (by simp [Cause.kind])
      · exact ofCause same (by simp [Cause.kind])
      · exact .crossed modes cause related
  | openChild modes opens unopened =>
      rcases openTag_eq_error unopened with same | ⟨compound, full, cause⟩
      · exact ofCause same (by simp [Cause.kind])
      · rw [rest_flushText] at compound cause
        rw [openElements_flushText] at full
        exact .tooDeep (.child modes opens) compound full cause
  | unfinished | bareExpression | strayCharacter | openExpression =>
      exact .nothing (by simp [Cause.kind])
  | nameAttribute modes front starts unread =>
      rcases readAttribute_eq_error unread with ⟨quote, same⟩ | ⟨name, same⟩
      · exact ofCause same (by simp [Cause.kind])
      · exact ofCause same (by simp [Cause.kind])
  | openEmbedded modes unquoted opens starts unopened =>
      rcases openTag_eq_error unopened with same | ⟨compound, full, cause⟩
      · exact ofCause same (by simp [Cause.kind])
      · rw [rest_flushPiece] at compound cause
        rw [openElements_flushPiece] at full
        exact .tooDeep (.embedded modes unquoted opens starts) compound full cause

/-- A tag of a good name is too deep where as many as allowed are open. -/
theorem MeetsTag.fails {name : List Char} (meets : reader.MeetsTag name)
    (compound : isCompoundName name) (full : maxNesting ≤ reader.openElements) :
    ∃ fault, reader.Fails fault ∧ fault.cause.kind = .nestingTooDeep := by
  cases meets with
  | child modes opens =>
      obtain ⟨fault, unopened, kind⟩ := @openTag_of_full reader.flushText
        (by rwa [rest_flushText]) (by rwa [openElements_flushText])
      exact ⟨fault, .openChild modes opens unopened, kind⟩
  | @embedded site outer modes unquoted opens starts =>
      obtain ⟨fault, unopened, kind⟩ := @openTag_of_full (reader.flushPiece site false)
        (by rwa [rest_flushPiece]) (by rwa [openElements_flushPiece])
      exact ⟨fault, .openEmbedded modes unquoted opens starts unopened, kind⟩

/-- Reading finds a tag too deep exactly where it meets one of a good name while as many
as allowed are open. -/
theorem Agrees.tooDeep_iff (agrees : reader.Agrees) :
    (∃ fault, reader.step = .error fault ∧ fault.diagnostic.kind = .nestingTooDeep) ↔
      (∃ name, reader.MeetsTag name ∧ isCompoundName name) ∧
        (Mode.tags reader.modes).length = maxNesting := by
  constructor
  · rintro ⟨fault, stepped, kind⟩
    cases (step_eq_error_iff.mp stepped).blames with
    | unclosed modes same =>
        cases same
        cases kind
    | crossed modes cause related => simp [Fault.diagnostic, cause, Cause.kind] at kind
    | tooDeep meets compound full cause =>
        exact ⟨⟨_, meets, compound⟩, agrees.count ▸ agrees.bounded.antisymm full⟩
    | nothing others =>
        simp only [List.mem_cons, List.not_mem_nil, or_false, not_or] at others
        exact absurd kind others.2.2
  · rintro ⟨⟨name, meets, compound⟩, full⟩
    obtain ⟨fault, fails, kind⟩ := meets.fails compound (agrees.count.trans full).ge
    exact ⟨fault, fails.step_eq, kind⟩

/-- A fault that blames an open tag blames the innermost one. -/
theorem Fails.innermost (fails : reader.Fails fault) :
    (fault.diagnostic.kind = .unclosedTag →
        ∃ tag, (Mode.tags reader.modes).head? = some tag ∧
          fault = ⟨.openTag tag.name, tag.span, none⟩) ∧
      (fault.diagnostic.kind = .mismatchedCloseTag →
        ∃ tag closed, (Mode.tags reader.modes).head? = some tag ∧
          fault.cause = .crossedTags tag.name closed ∧ fault.related = some tag.span) := by
  cases fails.blames with
  | @unclosed tag outer modes same =>
      refine ⟨fun _ => ⟨tag, by simp [modes], same⟩, fun kind => ?_⟩
      cases same
      cases kind
  | @crossed tag outer closed modes cause related =>
      refine ⟨fun kind => ?_, fun _ => ⟨tag, closed, by simp [modes], cause, related⟩⟩
      simp [Fault.diagnostic, cause, Cause.kind] at kind
  | tooDeep meets compound full cause => simp [Fault.diagnostic, cause, Cause.kind]
  | nothing others =>
      simp only [List.mem_cons, List.not_mem_nil, or_false, not_or] at others
      exact ⟨fun kind => absurd kind others.1, fun kind => absurd kind others.2.1⟩

/-- In every state that reading comes to, the tags that the tokens leave open are those of
the modes, in name, place and order; their number is the one that is counted, and within
the limit. A tag is taken from the count, and a brace from the depth of an expression, only
where there is one. A tag is too deep exactly if it has a good name and as many as allowed
are open, and a fault that blames an open tag blames the innermost one. -/
theorem open_tags_exact {source : String} (reached : Reaches source reader) :
    openAfter [] reader.tokens.reverse = some (Mode.tags reader.modes) ∧
      reader.openElements = (Mode.tags reader.modes).length ∧
      reader.openElements ≤ maxNesting ∧
      (∀ tag outer,
        reader.modes = .attributes tag :: outer ∨ reader.modes = .text (some tag) :: outer →
          0 < reader.openElements) ∧
      (∀ site, .expression site ∈ reader.modes → 0 < site.depth) ∧
      ((∃ fault, reader.step = .error fault ∧ fault.diagnostic.kind = .nestingTooDeep) ↔
        (∃ name, reader.MeetsTag name ∧ isCompoundName name) ∧
          (Mode.tags reader.modes).length = maxNesting) ∧
      ∀ fault, reader.step = .error fault →
        (fault.diagnostic.kind = .unclosedTag →
            ∃ tag, (Mode.tags reader.modes).head? = some tag ∧
              fault = ⟨.openTag tag.name, tag.span, none⟩) ∧
          (fault.diagnostic.kind = .mismatchedCloseTag →
            ∃ tag closed, (Mode.tags reader.modes).head? = some tag ∧
              fault.cause = .crossedTags tag.name closed ∧ fault.related = some tag.span) := by
  have agrees := reached.agrees
  refine ⟨agrees.tokens, agrees.count, agrees.bounded, fun tag outer modes => ?_,
    fun site member => agrees.deep _ member, agrees.tooDeep_iff,
    fun fault stepped => (step_eq_error_iff.mp stepped).innermost⟩
  rw [agrees.count]
  rcases modes with modes | modes <;> simp [modes]

/-- The fault that a source has is met in a state that reading comes to. -/
theorem exists_reaches {source : String} {fault : Fault}
    (failed : Token.read source = .error fault) :
    ∃ reader, Reaches source reader ∧ reader.step = .error fault := by
  obtain ⟨last, reached, outcome⟩ := @exists_last (Reader.start source) (Reaches source)
    (fun move reached => reached.more move.step_eq) .start
  unfold Token.read at failed
  simp only [] at failed
  split at failed
  next found faulty =>
    cases failed
    rcases outcome with ⟨fault, stepped, same⟩ | ⟨-, faultless⟩
    · cases same.symm.trans faulty
      exact ⟨last, reached, stepped⟩
    · cases faultless.symm.trans faulty
  next => cases failed

/-- A source in which a tag within an attribute of another one is crossed. -/
theorem open_tags_exact_crossed :
    ∃ reader fault, Reaches "<a b=\x7b<c><d/>e</a>\x7d>" reader ∧ reader.step = .error fault ∧
      ∃ tag closed, (Mode.tags reader.modes).head? = some tag ∧
        fault.cause = .crossedTags tag.name closed ∧ fault.related = some tag.span := by
  have crosses : (Token.read "<a b=\x7b<c><d/>e</a>\x7d>").mapError (·.diagnostic.kind) =
      .error .mismatchedCloseTag := by decide +kernel
  cases failed : Token.read "<a b=\x7b<c><d/>e</a>\x7d>" with
  | ok tokens =>
      rw [failed] at crosses
      cases crosses
  | error fault =>
      rw [failed] at crosses
      obtain ⟨reader, reached, stepped⟩ := exists_reaches failed
      have blames := (open_tags_exact reached).2.2.2.2.2.2 fault stepped
      refine ⟨reader, fault, reached, stepped, blames.2 ?_⟩
      exact Except.error.inj crosses

end Reader
end MarkupTemplate
