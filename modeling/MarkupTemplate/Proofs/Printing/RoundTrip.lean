import MarkupTemplate.Proofs.Printing.Sites
import MarkupTemplate.Proofs.Reader.Agreement

/-!
# Reading inverts writing

A canonical template is read back from the source it is written as. The argument
follows the tree: children are read back if the elements among them are, and an
element is if its attributes and its children are. Elements lie in each other
only so deep, and the induction is on that depth. Since every template that is
read is canonical, reading inverts writing for no other templates.
-/

namespace MarkupTemplate

open Spelling Text

namespace Node

theorem ofText_toList {content : String} (nonempty : content ≠ "") :
    ofText content.toList = [.text content] := by
  simp [ofText, nonempty]

theorem isText_iff {node : Node} : node.isText = true ↔ ∃ content, node = .text content := by
  cases node <;> simp [isText]

end Node

namespace Reader

variable {reader next : Reader}

/-! ### Children -/

/-- Whether reading leads past children. Their tokens follow those of the text
that is pending, and text may be pending behind them. -/
def ReadsChildren (reader : Reader) (nodes : List Node) (rest : List Char) (modes : List Mode)
    (level : Nat) : Prop :=
  ∃ (next : Reader) (added : List Token), reader.run = next.run ∧
    next.StandsAt rest modes level ∧
    next.flushText.tokens = added.reverse ++ reader.flushText.tokens ∧
    Derives (fun _ => True) (.children nodes) added

/-- Without pending text there is nothing to flush. -/
theorem tokens_flushText_of_nothing (nothing : reader.pending = []) :
    reader.flushText.tokens = reader.tokens := by
  simp [flushText, nothing]

/-- Children that are read in turn are read together. -/
theorem Reads.children {nodes more : List Node} {ahead rest : List Char}
    {inner modes : List Mode} {level : Nat}
    (first : reader.Reads reader.flushText.tokens (.children nodes) ahead inner level)
    (then_ : ∀ next : Reader, next.StandsAt ahead inner level → next.pending = [] →
      next.ReadsChildren more rest modes level) :
    reader.ReadsChildren (nodes ++ more) rest modes level := by
  obtain ⟨middle, added, sameRun, arrives, nothing, tokens, derives⟩ := first
  obtain ⟨last, later, laterRun, reached, laterTokens, laterDerives⟩ :=
    then_ middle arrives nothing
  refine ⟨last, added ++ later, sameRun.trans laterRun, reached, ?_,
    derives.extends _ _ laterDerives⟩
  rw [laterTokens, tokens_flushText_of_nothing nothing, tokens]
  simp

/-- Text that has become pending is a child in front of those that follow. -/
theorem ReadsChildren.of_text {characters : List Char} {nodes : List Node} {rest : List Char}
    {modes : List Mode} {level : Nat} (later : next.ReadsChildren nodes rest modes level)
    (sameRun : reader.run = next.run) (nothing : reader.pending = [])
    (pending : next.pending = characters.reverse) (tokens : next.tokens = reader.tokens) :
    reader.ReadsChildren (Node.ofText characters ++ nodes) rest modes level := by
  obtain ⟨last, added, laterRun, arrives, laterTokens, derives⟩ := later
  obtain ⟨flushed, flushedTokens, flushedDerives⟩ := next.flushText_derives
  rw [pending, List.reverse_reverse] at flushedDerives
  refine ⟨last, flushed ++ added, sameRun.trans laterRun, arrives, ?_,
    flushedDerives.extends _ _ derives⟩
  rw [laterTokens, flushedTokens, tokens, tokens_flushText_of_nothing nothing]
  simp

/-- An expression among children is read back if its inside is. -/
theorem reads_childSite {level : Nat} {parent : Option OpenTag} {outer : List Mode}
    {ahead following : List Char} {pieces : List Node} (reader : Reader)
    (stands : reader.StandsAt ('{' :: ahead) (.text parent :: outer) level)
    (noDeclaration : ahead.head? ≠ some '%')
    (inside : ∀ (next : Reader) (site : Site), site.IsFresh → next.pending = [] →
      next.StandsAt ahead (.expression site :: .text parent :: outer) level →
      next.ReadsSite pieces following (.text parent :: outer) level) :
    reader.Reads reader.flushText.tokens (.children (Node.ofPieces pieces).toList) following
      (.text parent :: outer) level := by
  have move := Moves.openChildSite stands.modes stands.rest noDeclaration
  have front : reader.flushText.rest = "\x7b".toList ++ ahead := by
    rw [rest_flushText, stands.rest]
    rfl
  have behind := @rest_openSite _ .expressionStart "\x7b" _ front
  obtain ⟨fresh, start, opening, begins⟩ :=
    site_of_openSite reader.flushText .expressionStart "\x7b"
  obtain ⟨next, within, stop, laterRun, arrives, nothing, added, derives, ends⟩ :=
    inside ((reader.flushText.openSite .expressionStart "\x7b").2.enter
        (.expression (reader.flushText.openSite .expressionStart "\x7b").1 ::
          .text parent :: outer))
      _ fresh rfl ⟨behind, rfl, by simp [stands.level]⟩
  refine ⟨next, start :: (within ++ [stop]), move.run_eq.trans laterRun, arrives, nothing, ?_, ?_⟩
  · rw [added, tokens_enter, opening]
    simp
  · simpa using Derives.site begins ends derives .noChildren

/-- The pieces of an expression among children are read back. -/
theorem reads_childPieces {limit level : Nat} (ready : ReadsBackUpTo limit)
    {parent : Option OpenTag} {outer : List Mode} {following : List Char} (pieces : List Node)
    (reader : Reader)
    (stands : reader.StandsAt
      ('{' :: ' ' :: (Node.printPieces pieces ++ ' ' :: '}' :: following))
      (.text parent :: outer) level)
    (isSite : Node.IsSite pieces) (wellFormed : Node.WellFormedAll pieces)
    (small : Node.nestingAll pieces ≤ limit)
    (shallow : level + Node.nestingAll pieces ≤ maxNesting) :
    reader.Reads reader.flushText.tokens (.children (Node.ofPieces pieces).toList) following
      (.text parent :: outer) level := by
  refine reads_childSite reader stands (by simp) ?_
  intro next site fresh nothing arrives
  exact readsSite_body ready next arrives fresh nothing isSite wellFormed small shallow

/-- The braces between two texts are passed. They make no node. -/
theorem reads_separator {parent : Option OpenTag} {outer : List Mode} {level : Nat}
    {following : List Char} (reader : Reader)
    (stands : reader.StandsAt ('{' :: '}' :: following) (.text parent :: outer) level) :
    reader.Reads reader.flushText.tokens (.children []) following (.text parent :: outer)
      level := by
  refine @reads_childSite _ _ _ _ _ [] reader stands (by simp) ?_
  intro next site fresh nothing arrives
  have closes := readsSite_close next arrives fresh.quote fresh.depth
  rw [nothing] at closes
  have empty : site.piece true [] = [] := by
    simp [Site.piece, fresh.leading, trimEnd, trimStart]
  rwa [empty] at closes

/-- A declaration is read back. -/
theorem reads_declaration {parent : Option OpenTag} {outer : List Mode} {level : Nat}
    {following : List Char} {content : String} (reader : Reader)
    (stands : reader.StandsAt ((Node.declaration content).print ++ following)
      (.text parent :: outer) level)
    (isDeclaration : Code.IsDeclaration content.toList) :
    reader.Reads reader.flushText.tokens (.children [.declaration content]) following
      (.text parent :: outer) level := by
  have front : reader.rest = '{' :: '%' :: ' ' ::
      (content.toList ++ ' ' :: '%' :: '}' :: following) := by
    rw [stands.rest]
    simp [Node.print]
  obtain ⟨next, declared, rest, sameLevel, token, tokens, kind, value⟩ :=
    exists_readDeclaration isDeclaration ((rest_flushText reader).trans front)
  have move := Moves.declare stands.modes front declared
  refine ⟨_, [token], move.run_eq, ⟨rest, rfl, ?_⟩, rfl, tokens, ?_⟩
  · simpa [stands.level] using sameLevel
  · rw [String.ofList_toList] at value
    rw [← value]
    exact .declaration kind .noChildren

/-- A child that is not text is read back, behind pending text. -/
theorem reads_node {limit level : Nat} (ready : ReadsBackUpTo limit)
    {parent : Option OpenTag} {outer : List Mode} {following : List Char} {node : Node}
    (reader : Reader)
    (stands : reader.StandsAt (node.print ++ following) (.text parent :: outer) level)
    (notText : node.isText = false) (isChild : node.IsChild) (wellFormed : node.WellFormed)
    (small : node.nesting ≤ limit) (shallow : level + node.nesting ≤ maxNesting) :
    reader.Reads reader.flushText.tokens (.children [node]) following (.text parent :: outer)
      level := by
  cases node with
  | text content => cases notText
  | declaration content => exact reads_declaration reader stands isChild
  | expression content =>
      refine reads_childPieces ready [.expression content] reader ?_ isChild ⟨trivial, trivial⟩
        (by simpa [Node.nestingAll] using small) (by simpa [Node.nestingAll] using shallow)
      simpa [Node.print, Node.printPieces] using stands
  | group pieces =>
      obtain ⟨made, isSite⟩ := isChild
      have reads := reads_childPieces ready pieces reader
        (by simpa [Node.print] using stands) isSite wellFormed small shallow
      rwa [made] at reads
  | element name attributes children =>
      exact reads_child reader (ready _ trivial wellFormed small) stands shallow

/-- Behind text, what keeps it apart from the next text is passed. -/
theorem readsChildren_separated {parent : Option OpenTag} {outer : List Mode} {level : Nat}
    {content : String} {nodes : List Node} {ahead following : List Char} (reader : Reader)
    (stands : reader.StandsAt ((Node.text content).separator nodes ++ ahead)
      (.text parent :: outer) level)
    (further : ∀ next : Reader, next.StandsAt ahead (.text parent :: outer) level →
      (nodes.head?.any Node.isText → next.pending = []) →
      next.ReadsChildren nodes following (.text parent :: outer) level) :
    reader.ReadsChildren nodes following (.text parent :: outer) level := by
  by_cases texts : nodes.head?.any Node.isText
  · simp only [Node.separator, Node.isText, texts, Bool.and_self, if_true, List.cons_append,
      List.nil_append] at stands
    exact (reads_separator reader stands).children fun next arrives nothing =>
      further next arrives fun _ => nothing
  · simp only [Node.separator, Node.isText, texts, Bool.and_false, Bool.false_eq_true, if_false,
      List.nil_append] at stands
    exact further reader stands fun isText => absurd isText texts

/-- Children are read back. Text comes first only where none is pending, and a
backslash at the end of text only at the end of the source. -/
theorem readsChildren_all {limit level : Nat} (ready : ReadsBackUpTo limit)
    {parent : Option OpenTag} {outer : List Mode} {following : List Char} (nodes : List Node)
    (reader : Reader)
    (stands : reader.StandsAt (Node.printChildren nodes ++ following) (.text parent :: outer)
      level)
    (apart : nodes.head?.any Node.isText → reader.pending = [])
    (isChild : ∀ node ∈ nodes, node.IsChild)
    (backslash : ∀ node behind, node :: behind <:+ nodes → node.EndsInBackslash →
      behind = [] ∧ following = [])
    (wellFormed : Node.WellFormedAll nodes) (small : Node.nestingAll nodes ≤ limit)
    (shallow : level + Node.nestingAll nodes ≤ maxNesting) :
    reader.ReadsChildren nodes following (.text parent :: outer) level := by
  induction nodes generalizing reader with
  | nil => exact ⟨reader, [], rfl, stands, rfl, .noChildren⟩
  | cons node nodes inductionHypothesis =>
      obtain ⟨nodeFormed, restFormed⟩ := wellFormed
      obtain ⟨nodeIsChild, restAreChildren⟩ := List.forall_mem_cons.mp isChild
      simp only [Node.nestingAll] at small shallow
      have further (next : Reader)
          (arrives : next.StandsAt (Node.printChildren nodes ++ following)
            (.text parent :: outer) level)
          (apart : nodes.head?.any Node.isText → next.pending = []) :
          next.ReadsChildren nodes following (.text parent :: outer) level :=
        inductionHypothesis next arrives apart restAreChildren
          (fun node behind suffix => backslash node behind (suffix.trans (List.suffix_cons _ _)))
          restFormed (by omega) (by omega)
      rw [Node.printChildren, List.append_assoc, List.append_assoc] at stands
      cases isText : node.isText with
      | false =>
          have noSeparator : node.separator nodes = [] := by simp [Node.separator, isText]
          rw [noSeparator, List.nil_append] at stands
          exact (reads_node ready reader stands isText nodeIsChild nodeFormed (by omega)
            (by omega)).children fun next arrives nothing => further next arrives fun _ => nothing
      | true =>
          -- The text stays pending here. It becomes a token with what follows: the
          -- braces in front of more text, another child, or the end.
          obtain ⟨content, rfl⟩ := Node.isText_iff.mp isText
          have nothing : reader.pending = [] := apart rfl
          rw [Node.print] at stands
          obtain ⟨next, sameRun, arrives, pending, tokens⟩ :=
            reads_text content.toList reader stands (fun last => by
              obtain ⟨rfl, rfl⟩ := backslash _ _ List.suffix_rfl last
              simp [Node.separator, Node.printChildren])
          rw [nothing, List.append_nil] at pending
          have later := (readsChildren_separated next arrives further).of_text sameRun nothing
            pending tokens
          rwa [Node.ofText_toList nodeIsChild] at later

/-! ### Elements -/

/-- A tag is opened at its name. -/
theorem exists_opened {name : String} {behind : List Char} (isTagName : IsTagName name.toList)
    (front : reader.rest = '<' :: (name.toList ++ behind))
    (apart : ∀ first ∈ behind.head?, isTagNameChar first = false)
    (shallow : reader.openElements < maxNesting) :
    opensTag reader.rest ∧ ∃ tag opened, reader.openTag = .ok (tag, opened) ∧
      reader.OpensTag tag opened ∧ tag.name = name ∧ opened.rest = behind := by
  obtain ⟨first, others, whole, isLetter⟩ := isTagName.exists_cons
  have taken : (reader.rest.drop 1).takeWhile isTagNameChar = name.toList := by
    rw [front, List.drop_succ_cons, List.drop_zero, List.takeWhile_append_of_pos isTagName.spelled]
    cases behind with
    | nil => simp
    | cons second rest => simp [apart second rfl]
  have left : (reader.rest.drop 1).dropWhile isTagNameChar = behind := by
    rw [← drop_length_takeWhile, taken, front]
    simp
  have compound := isCompoundName_iff.mpr ⟨isTagName.noTwoDots, isTagName.noFinalDot⟩
  obtain ⟨tag, opened, opening⟩ := exists_openTag (taken.symm ▸ compound) shallow
  have opens := opensTag_of_openTag opening
  refine ⟨?_, tag, opened, opening, opens, ?_, opens.rest.trans left⟩
  · rw [front, whole]
    exact isLetter
  · exact String.toList_inj.mp (opens.name.trans taken)

/-- Whether reading leads past an element from behind its attributes. -/
def ReadsRest (reader : Reader) (tag : OpenTag) (children : List Node) (rest : List Char)
    (modes : List Mode) (level : Nat) : Prop :=
  ∃ (next : Reader) (added : List Token), reader.run = next.run ∧
    next.StandsAt rest modes level ∧ next.pending = [] ∧
    next.tokens = added.reverse ++ reader.tokens ∧
    ∀ (mark name : Token) (attributes : List Attribute) (inside : List Token),
      mark.kind = .tagOpen → name.kind = .tagName → name.value = tag.name →
      Derives (fun _ => True) (.attributes attributes) inside →
      Derives (fun _ => True) (.element (.element tag.name attributes children))
        (mark :: name :: (inside ++ added))

/-- An element without children is closed by its own tag. -/
theorem readsRest_selfClose {level : Nat} {tag : OpenTag} {outer : List Mode}
    {following : List Char} (reader : Reader)
    (stands : reader.StandsAt (' ' :: '/' :: '>' :: following) (.attributes tag :: outer)
      (level + 1)) :
    reader.ReadsRest tag [] following outer level := by
  have front := rest_skipBlank_space stands.rest (by decide)
  have move := Moves.selfClose stands.modes front
  obtain ⟨stop, tokens, kind⟩ := exists_emit (reader.skipBlank.skip 2) .tagSelfClose "/>"
    reader.skipBlank.position
  refine ⟨_, [stop], move.run_eq, ⟨?_, rfl, ?_⟩, rfl, tokens, ?_⟩
  · rw [rest_enter, rest_emit, rest_skip, front]
    rfl
  · simp [stands.level]
  · intro mark name attributes inside isMark isName sameName derives
    rw [← sameName]
    exact .selfClosing isMark isName kind derives

/-- An element with children is closed behind them. -/
theorem readsRest_enclosing {limit level : Nat} (ready : ReadsBackUpTo limit) {tag : OpenTag}
    {outer : List Mode} {following : List Char} {children : List Node} (reader : Reader)
    (stands : reader.StandsAt
      ('>' :: (Node.printChildren children ++ '<' :: '/' :: (tag.name.toList ++ '>' :: following)))
      (.attributes tag :: outer) (level + 1))
    (isTagName : IsTagName tag.name.toList)
    (areChildren : ∀ child ∈ children, child.IsChild ∧ ¬ child.EndsInBackslash)
    (wellFormed : Node.WellFormedAll children) (small : Node.nestingAll children ≤ limit)
    (shallow : level + 1 + Node.nestingAll children ≤ maxNesting) :
    reader.ReadsRest tag children following outer level := by
  have front := rest_skipBlank_of_solid stands.rest (by decide)
  have move := Moves.endTag stands.modes front
  obtain ⟨stop, stopTokens, stops⟩ := exists_emit (reader.skipBlank.skip 1) .tagEnd ">"
    reader.skipBlank.position
  have inside : (((reader.skipBlank.skip 1).emit .tagEnd ">" reader.skipBlank.position).enter
      (.text (some tag) :: outer)).StandsAt
      (Node.printChildren children ++ '<' :: '/' :: (tag.name.toList ++ '>' :: following))
      (.text (some tag) :: outer) (level + 1) :=
    ⟨by simp [front], rfl, stands.level⟩
  obtain ⟨middle, body, laterRun, arrives, bodyTokens, derives⟩ :=
    readsChildren_all ready children _ inside (fun _ => rfl)
      (fun child member => (areChildren child member).1)
      (fun node behind suffix ends =>
        absurd ends (areChildren node (suffix.subset List.mem_cons_self)).2)
      wellFormed small shallow
  have ahead := (rest_flushText middle).trans arrives.rest
  obtain ⟨closed, closing, rest⟩ := exists_closeTag isTagName.spelled ahead
  obtain ⟨_, same, closes⟩ := closesTag_of_closeTag closing
  cases same
  obtain ⟨closeMark, closeName, closeStop, closeTokens, marks, names, ends, sameName⟩ :=
    closes.tokens
  obtain ⟨first, others, whole, isLetter⟩ := isTagName.exists_cons
  have isClosing : closesTag middle.rest := by
    rw [arrives.rest, whole]
    exact isLetter
  have closeMove := Moves.closeElement arrives.modes isClosing closing
  refine ⟨_, stop :: (body ++ [closeMark, closeName, closeStop]),
    (move.run_eq.trans laterRun).trans closeMove.run_eq, ⟨rest, rfl, ?_⟩, rfl, ?_, ?_⟩
  · rw [openElements_enter, closes.openElements, openElements_flushText, arrives.level]
    rfl
  · rw [tokens_enter, closeTokens, bodyTokens, tokens_flushText_of_nothing rfl, tokens_enter,
      stopTokens]
    simp
  · intro mark name attributes inside isMark isName named givenDerives
    rw [← named] at sameName ⊢
    exact .enclosing isMark isName stops givenDerives derives marks names ends sameName

/-- Behind the name of a tag, something follows that does not belong to it. -/
theorem head_printAll (attributes : List Attribute) {ending : List Char}
    (apart : ∀ first ∈ ending.head?, isTagNameChar first = false) :
    ∀ first ∈ (Attribute.printAll attributes ++ ending).head?, isTagNameChar first = false := by
  cases attributes with
  | nil => simpa [Attribute.printAll] using apart
  | cons given attributes =>
      have space : ∃ behind, given.print = ' ' :: behind := by
        fun_cases Attribute.print given <;> exact ⟨_, rfl⟩
      obtain ⟨behind, printed⟩ := space
      simp [Attribute.printAll, printed, isTagNameChar]

/-- An element is read back if the elements within it are. -/
theorem readsBackUpTo_succ {limit : Nat} (ready : ReadsBackUpTo limit) :
    ReadsBackUpTo (limit + 1) := by
  intro node isElement wellFormed small reader outer following front shallow
  cases node with
  | element name attributes children =>
      obtain ⟨isTagName, spelled, areChildren, attributesFormed, childrenFormed⟩ := wellFormed
      simp only [Node.nesting] at small shallow
      simp only [Node.print, List.cons_append, List.append_assoc] at front
      obtain ⟨opens, tag, opened, opening, opensTag, rfl, rest⟩ :=
        exists_opened isTagName front (head_printAll attributes (by
          cases children <;> simp [isTagNameChar])) (by omega)
      obtain ⟨mark, nameToken, tokens, isMark, isName, sameName⟩ := opensTag.tokens
      obtain ⟨middle, given, sameRun, arrives, nothing, givenTokens, givenDerives⟩ :=
        reads_attributes ready attributes (opened.enter (.attributes tag :: outer))
          ⟨rest, rfl, opensTag.openElements⟩ rfl spelled attributesFormed (by omega) (by omega)
      have closing : middle.ReadsRest tag children following outer reader.openElements := by
        cases children with
        | nil => exact readsRest_selfClose middle arrives
        | cons child children =>
            exact readsRest_enclosing ready middle (by simpa using arrives) isTagName areChildren
              childrenFormed (by omega) (by omega)
      obtain ⟨next, added, laterRun, reached, empty, addedTokens, derives⟩ := closing
      refine ⟨opens, tag, opened, opening, next, mark :: nameToken :: (given ++ added),
        sameRun.trans laterRun, reached, empty, ?_,
        derives mark nameToken attributes given isMark isName sameName givenDerives⟩
      rw [addedTokens, givenTokens, tokens_enter, tokens]
      simp
  | _ => exact isElement.elim

/-- Elements are read back, however deep they lie in each other. -/
theorem readsBackUpTo_all (limit : Nat) : ReadsBackUpTo limit := by
  induction limit with
  | zero =>
      intro node isElement _ small
      cases node with
      | element => simp [Node.nesting] at small
      | _ => exact isElement.elim
  | succ limit inductionHypothesis => exact readsBackUpTo_succ inductionHypothesis

/-! ### Templates -/

/-- Where the source ends in text outside every tag, reading ends without a fault. -/
theorem run_eq_of_end {outer : List Mode} {level : Nat}
    (stands : reader.StandsAt [] (.text none :: outer) level) :
    reader.run = ⟨reader.flushText.enter outer, none⟩ :=
  run_of_done ((step_eq_done_iff stands.modes).mpr ⟨rfl, stands.rest, rfl⟩)

end Reader

/-- A canonical template is written as a source whose tokens derive its children. -/
theorem Template.IsCanonical.exists_tokens {template : Template}
    (canonical : template.IsCanonical) :
    ∃ content ending, Token.read template.print = .ok (content ++ [ending]) ∧
      ending.kind = .eof ∧ Derives (fun _ => True) (.children template.children) content := by
  have stands : (Reader.start template.print).StandsAt
      (Node.printChildren template.children ++ []) [.text none] 0 :=
    ⟨by simp [Reader.start, Template.print], rfl, rfl⟩
  have backslash : ∀ node behind, node :: behind <:+ template.children →
      node.EndsInBackslash → behind = [] ∧ ([] : List Char) = [] := by
    rintro node behind ⟨before, split⟩ ends
    refine ⟨?_, rfl⟩
    by_contra nonempty
    refine canonical.noBackslash node ?_ ends
    rw [← split, List.dropLast_append_of_ne_nil (List.cons_ne_nil _ _),
      List.dropLast_cons_of_ne_nil nonempty]
    simp
  obtain ⟨last, content, sameRun, arrives, tokens, derives⟩ :=
    Reader.readsChildren_all (Reader.readsBackUpTo_all maxNesting) template.children
      (Reader.start template.print) stands (fun _ => rfl) canonical.isChild backslash
      canonical.wellFormed canonical.shallow (by simpa using canonical.shallow)
  have finished := sameRun.trans (Reader.run_eq_of_end arrives)
  obtain ⟨ending, ended, isEnd⟩ := (Reader.start template.print).run.exists_tokens
  refine ⟨content, ending, ?_, isEnd, derives⟩
  have collected : (Reader.start template.print).run.tokens = content ++ [ending] := by
    rw [ended, finished, Reader.tokens_enter, tokens, Reader.tokens_flushText_of_nothing rfl]
    simp [Reader.start]
  rw [Token.read]
  simp only [collected]
  rw [finished]

/-- Reading inverts writing exactly for canonical templates. -/
theorem Template.read_print_iff {template : Template} :
    Template.read template.print = .ok template ↔ template.IsCanonical := by
  constructor
  · intro spells
    obtain ⟨tokens, reads, makes⟩ := Reader.bind_eq_ok spells
    exact Template.isCanonical_of_tokens reads makes
  · intro canonical
    obtain ⟨content, ending, reads, isEnd, derivation⟩ := canonical.exists_tokens
    have ends : ∀ token ∈ [ending].head?, token.kind = .eof := by simpa using isEnd
    have makes : Template.ofTokens (content ++ [ending]) = .ok template := by
      rcases Template.ofTokens_of_derives derivation ends canonical.shallow with
        ⟨-, made⟩ | ⟨improper, -⟩
      · exact made
      · exact absurd canonical.proper improper
    rw [Template.read, reads]
    exact makes

end MarkupTemplate
