import MarkupTemplate.Proofs.Printing.Passage

/-!
# Reading expressions and attributes back

An expression that has been written is read back piece by piece, if the elements
among its pieces are read back. So are attributes, whose values and spreads are
expressions or quoted text.
-/

namespace MarkupTemplate

open Spelling Text

namespace Node

@[simp] theorem ofCode_nil : ofCode [] = [] := rfl

theorem ofCode_toList {content : String} (nonempty : content ≠ "") :
    ofCode content.toList = [.expression content] := by
  simp [ofCode, nonempty]

theorem printPieces_expression (content : String) (nodes : List Node) :
    printPieces (.expression content :: nodes) = content.toList ++ printPieces nodes := by
  simp [printPieces]

theorem IsElement.printPieces {node : Node} (isElement : node.IsElement) (nodes : List Node) :
    Node.printPieces (node :: nodes) = node.print ++ Node.printPieces nodes := by
  cases node <;> first | exact isElement.elim | simp [Node.printPieces]

/-- An element is written with a `<` in front. -/
theorem IsElement.head_print {node : Node} (isElement : node.IsElement) :
    node.print.head? = some '<' := by
  cases node <;> first | exact isElement.elim | simp [print]

end Node

/-- The pieces that an open expression lacks, given the code gathered last. -/
structure Site.Lacks (site : Site) (code : List Char) (nodes : List Node) : Prop where
  isPiece : ∀ node ∈ nodes, node.IsPiece
  precedes : (Node.ofCode code ++ nodes).IsChain Node.Precedes
  leads : site.leading = true → ∀ first ∈ nodes.head?.bind Node.code?, LeadsSolid first
  ends : ∀ last ∈ (Node.ofCode code ++ nodes).getLast?.bind Node.code?, EndsSolid last
  balanced : (Node.codes nodes).foldlM Code.depthAfter site.depth = some 1

namespace Site.Lacks

variable {site : Site} {code : List Char} {nodes : List Node}

/-- Without further pieces, an expression ends behind the code gathered last. -/
theorem ends_nil (lacks : site.Lacks code []) : site.depth = 1 ∧ EndsSolid code := by
  refine ⟨Option.some.inj lacks.balanced, ?_⟩
  cases code with
  | nil => simp [EndsSolid]
  | cons first rest => simpa [Node.ofCode, Node.code?] using lacks.ends

/-- A piece of code stands behind an element or at the start, and an element or
the end stands behind it. -/
theorem expression {content : String} (lacks : site.Lacks code (.expression content :: nodes)) :
    code = [] ∧ content ≠ "" ∧ ¬ Code.EntersMarkup content.toList [] ∧
      (∀ node ∈ nodes.head?, node.IsElement) ∧
      ∃ depth, Code.depthAfter site.depth content.toList = some depth ∧
        ({ site with depth, quote := none } : Site).Lacks content.toList nodes := by
  have noCode : code = [] := by
    by_contra nonempty
    have chain := lacks.precedes
    simp only [Node.ofCode, List.isEmpty_iff, nonempty, if_false, List.cons_append,
      List.nil_append, List.isChain_cons_cons] at chain
    exact chain.1.1
  subst noCode
  obtain ⟨isPiece, piecesBehind⟩ := List.forall_mem_cons.mp lacks.isPiece
  obtain ⟨nonempty, noMarkup⟩ := isPiece
  have same : Node.ofCode content.toList ++ nodes = .expression content :: nodes := by
    rw [Node.ofCode_toList nonempty]
    rfl
  have behind : ∀ node ∈ nodes.head?, node.IsElement :=
    fun node first => ((List.isChain_cons.mp lacks.precedes).1 node first).1
  have balanced := lacks.balanced
  rw [Node.codes_expression, List.foldlM_cons] at balanced
  obtain ⟨depth, reads, further⟩ := Option.bind_eq_some_iff.mp balanced
  refine ⟨rfl, nonempty, noMarkup, behind, depth, reads, piecesBehind, ?_, ?_, ?_, further⟩
  · rw [same]
    exact lacks.precedes
  · intro _ first member
    obtain ⟨node, isHead, isCode⟩ := Option.mem_bind_iff.mp member
    rw [(behind node isHead).code?] at isCode
    cases isCode
  · rw [same]
    exact lacks.ends

/-- An element stands behind code that makes room for markup. -/
theorem element {node : Node} (lacks : site.Lacks code (node :: nodes))
    (isElement : node.IsElement) :
    startsMarkup code.reverse ∧ ({ site with leading := false } : Site).Lacks [] nodes := by
  obtain ⟨-, chain, before⟩ := List.isChain_append.mp lacks.precedes
  constructor
  · cases code with
    | nil => rfl
    | cons first rest =>
        have precedes := before (.expression (String.ofList (first :: rest)))
          (by simp [Node.ofCode]) node rfl
        simpa using precedes.2
  · refine ⟨(List.forall_mem_cons.mp lacks.isPiece).2, (List.isChain_cons.mp chain).2, by simp,
      ?_, ?_⟩
    · intro last member
      refine lacks.ends last ?_
      rw [Node.ofCode_nil, List.nil_append] at member
      obtain ⟨lastNode, isLast, isCode⟩ := Option.mem_bind_iff.mp member
      refine Option.mem_bind_iff.mpr ⟨lastNode, ?_, isCode⟩
      rw [List.getLast?_append, List.getLast?_cons, Option.mem_def.mp isLast]
      rfl
    · have balanced := lacks.balanced
      rwa [isElement.codes] at balanced

end Site.Lacks

/-- A fresh expression lacks all of its pieces. -/
theorem Node.IsSite.lacks {pieces : List Node} (isSite : Node.IsSite pieces) {site : Site}
    (fresh : site.IsFresh) : site.Lacks [] pieces where
  isPiece := isSite.isPiece
  precedes := isSite.precedes
  leads := fun _ => isSite.leads
  ends := isSite.ends
  balanced := fresh.depth ▸ isSite.balanced

namespace Reader

/-- Whether elements are read back that do not lie too deep in each other. -/
def ReadsBackUpTo (limit : Nat) : Prop :=
  ∀ node : Node, node.IsElement → node.WellFormed → node.nesting ≤ limit → ReadsBack node

/-! ### Expressions -/

/-- What follows a piece of code is an element or the space at the end, and no letter. -/
theorem head_printPieces {nodes : List Node} (behind : ∀ node ∈ nodes.head?, node.IsElement)
    (following : List Char) :
    ∀ character ∈ (Node.printPieces nodes ++ ' ' :: following).head?,
      character.isAlpha = false := by
  cases nodes with
  | nil => simp [Node.printPieces]
  | cons node nodes =>
      have isElement := behind node rfl
      rw [isElement.printPieces, List.head?_append, List.head?_append, isElement.head_print]
      simp

/-- The pieces that an expression lacks are read back. -/
theorem readsSite_pieces {limit level : Nat} (ready : ReadsBackUpTo limit) {outer : List Mode}
    {following : List Char} (nodes : List Node) (reader : Reader) (site : Site)
    (code : List Char)
    (stands : reader.StandsAt (Node.printPieces nodes ++ ' ' :: '}' :: following)
      (.expression site :: outer) level)
    (gathered : site.Gathered code reader.pending) (lacks : site.Lacks code nodes)
    (wellFormed : Node.WellFormedAll nodes) (small : Node.nestingAll nodes ≤ limit)
    (shallow : level + Node.nestingAll nodes ≤ maxNesting) :
    reader.ReadsSite (Node.ofCode code ++ nodes) following outer level := by
  induction nodes generalizing reader site code with
  | nil =>
      obtain ⟨last, ends⟩ := lacks.ends_nil
      rw [List.append_nil]
      exact readsSite_end reader stands gathered ends last
  | cons node nodes inductionHypothesis =>
      obtain ⟨nodeFormed, restFormed⟩ := wellFormed
      simp only [Node.nestingAll] at small shallow
      rcases (lacks.isPiece node (by simp)).eq_or with ⟨content, rfl⟩ | isElement
      · obtain ⟨rfl, nonempty, noMarkup, behind, depth, reads, further⟩ := lacks.expression
        obtain ⟨blanks, pending, blank, front⟩ := gathered.split
        have place : Code.after (.ofQuote site.quote, site.depth) content.toList =
            some (.outside, depth) := by
          rw [gathered.unquoted]
          exact Code.depthAfter_eq_some_iff.mp reads
        have none : StartsNone (.ofQuote site.quote) reader.pending content.toList
            (Node.printPieces nodes ++ ' ' :: '}' :: following) := by
          rw [gathered.unquoted, pending]
          exact startsNone_of_not_entersMarkup noMarkup blank (head_printPieces behind _)
        rw [Node.printPieces_expression, List.append_assoc] at stands
        obtain ⟨next, sameRun, arrives, gatheredBehind, tokens⟩ :=
          reads_code content.toList reader site stands place none
        have laterGathered : ({ site with depth, quote := .none } : Site).Gathered content.toList
            next.pending :=
          ⟨rfl, ⟨blanks, by rw [gatheredBehind, pending]; rfl, blank, front⟩,
            fun leading => lacks.leads leading _ rfl⟩
        have later := inductionHypothesis next _ content.toList arrives laterGathered further
          restFormed (by omega) (by omega)
        rw [Node.ofCode_toList nonempty] at later
        exact later.of_run sameRun tokens
      · obtain ⟨starts, further⟩ := lacks.element isElement
        rw [isElement.printPieces, List.append_assoc] at stands
        have first := reads_embedded reader (ready node isElement nodeFormed (by omega)) stands
          gathered starts (by omega)
        have whole := first.site fun next arrives nothing =>
          inductionHypothesis next _ [] arrives
            ⟨gathered.unquoted, ⟨[], by simp [nothing]⟩, by simp⟩ further restFormed (by omega)
            (by omega)
        simpa using whole

/-- An expression is read back behind its opening delimiter. -/
theorem readsSite_body {limit level : Nat} (ready : ReadsBackUpTo limit) {outer : List Mode}
    {following : List Char} {pieces : List Node} {site : Site} (reader : Reader)
    (stands : reader.StandsAt (' ' :: (Node.printPieces pieces ++ ' ' :: '}' :: following))
      (.expression site :: outer) level)
    (fresh : site.IsFresh) (nothing : reader.pending = []) (isSite : Node.IsSite pieces)
    (wellFormed : Node.WellFormedAll pieces) (small : Node.nestingAll pieces ≤ limit)
    (shallow : level + Node.nestingAll pieces ≤ maxNesting) :
    reader.ReadsSite pieces following outer level := by
  obtain ⟨next, sameRun, arrives, pending, tokens⟩ := reads_space reader stands fresh.quote
  have gathered : site.Gathered [] next.pending := by
    refine ⟨fresh.quote, ⟨[' '], ?_, isBlank_of_mem_space, ?_⟩, by simp [LeadsSolid]⟩
    · simp [pending, nothing]
    · simp [fresh.leading]
  have later := readsSite_pieces ready pieces next site [] arrives gathered (isSite.lacks fresh)
    wellFormed small shallow
  exact later.of_run sameRun tokens

/-! ### Attributes -/

/-- The chosen mark does not occur in a value that lacks one of the two. -/
theorem quoteFor_spec {value : List Char} (lacks : '"' ∉ value ∨ '\'' ∉ value) :
    (quoteFor value = '"' ∨ quoteFor value = '\'') ∧ quoteFor value ∉ value := by
  unfold quoteFor
  split
  next member => exact ⟨.inr rfl, lacks.resolve_left (fun absent => absent member)⟩
  next absent => exact ⟨.inl rfl, absent⟩

/-- The pieces that are the value of an attribute are written between braces and spaces. -/
theorem print_named_ofValue (name : String) (pieces : List Node) :
    (Attribute.named name (.ofValue pieces)).print =
      ' ' :: (name.toList ++ '=' :: '{' :: ' ' :: (Node.printPieces pieces ++ [' ', '}'])) := by
  unfold Node.ofValue Node.ofPieces
  split <;> simp [Attribute.print, Node.print, Node.printPieces]

/-- The space in front of an attribute is skipped. -/
theorem rest_skipBlank_space {reader : Reader} {first : Char} {following : List Char}
    (front : reader.rest = ' ' :: first :: following) (solid : isBlank first = false) :
    reader.skipBlank.rest = first :: following := by
  have space : isBlank ' ' = true := by decide
  rw [rest_skipBlank, front]
  simp [space, solid]

/-- An attribute whose value is text is read back. -/
theorem reads_quoted {level : Nat} {tag : OpenTag} {outer : List Mode} {following : List Char}
    {name content : String} (reader : Reader)
    (stands : reader.StandsAt ((Attribute.named name (.text content)).print ++ following)
      (.attributes tag :: outer) level)
    (isName : IsAttributeName name.toList)
    (lacks : '"' ∉ content.toList ∨ '\'' ∉ content.toList) :
    reader.Reads reader.tokens (.attributes [.named name (.text content)]) following
      (.attributes tag :: outer) level := by
  obtain ⟨isMark, lacksMark⟩ := quoteFor_spec lacks
  obtain ⟨first, others, split, starts⟩ := isName.exists_cons
  have solid := isBlank_of_attrNameStart starts
  have front : reader.skipBlank.rest = name.toList ++ '=' :: quoteFor content.toList ::
      (content.toList ++ quoteFor content.toList :: following) := by
    have ahead := stands.rest
    simp only [Attribute.print, split, List.cons_append] at ahead
    rw [rest_skipBlank_space ahead solid, split]
    simp
  obtain ⟨next, read, rest, sameLevel, added, tokens, derives⟩ :=
    exists_readAttribute_quoted isMark isName.spelled lacksMark front
  rw [split] at front
  have move := Moves.nameAttribute stands.modes front starts read
  refine ⟨_, added, move.run_eq, ⟨rest, rfl, ?_⟩, rfl, tokens, by simpa using derives⟩
  simpa [stands.level] using sameLevel

/-- An attribute whose value is an expression is read back. -/
theorem reads_valued {limit level : Nat} (ready : ReadsBackUpTo limit) {tag : OpenTag}
    {outer : List Mode} {following : List Char} {name : String} {pieces : List Node}
    (reader : Reader)
    (stands : reader.StandsAt ((Attribute.named name (.ofValue pieces)).print ++ following)
      (.attributes tag :: outer) level)
    (isName : IsAttributeName name.toList) (isSite : Node.IsSite pieces)
    (wellFormed : Node.WellFormedAll pieces) (small : Node.nestingAll pieces ≤ limit)
    (shallow : level + Node.nestingAll pieces ≤ maxNesting) :
    reader.Reads reader.tokens (.attributes [.named name (.ofValue pieces)]) following
      (.attributes tag :: outer) level := by
  obtain ⟨first, others, split, starts⟩ := isName.exists_cons
  have solid := isBlank_of_attrNameStart starts
  have front : reader.skipBlank.rest = name.toList ++ '=' :: '{' :: ' ' ::
      (Node.printPieces pieces ++ ' ' :: '}' :: following) := by
    have ahead := stands.rest
    simp only [print_named_ofValue, split, List.cons_append] at ahead
    rw [rest_skipBlank_space ahead solid, split]
    simp
  obtain ⟨site, opened, read, fresh, rest, sameLevel, nameToken, equals, start, tokens, names,
    sameName, equates, begins⟩ := exists_readAttribute_valued isName.spelled front
  rw [split] at front
  have move := Moves.nameAttribute stands.modes front starts read
  obtain ⟨next, inside, stop, laterRun, arrives, nothing, added, derives, ends⟩ :=
    readsSite_body ready (opened.enter (.expression site :: .attributes tag :: outer))
      ⟨rest, rfl, sameLevel.trans stands.level⟩ fresh rfl isSite wellFormed small shallow
  refine ⟨next, nameToken :: equals :: start :: (inside ++ [stop]), move.run_eq.trans laterRun,
    arrives, nothing, ?_, ?_⟩
  · rw [added, tokens_enter, tokens]
    simp
  · rw [String.ofList_toList] at sameName
    rw [← sameName]
    exact .valued names equates begins ends derives trivial .noAttributes

/-- An attribute that spreads an expression is read back. -/
theorem reads_spread {limit level : Nat} (ready : ReadsBackUpTo limit) {tag : OpenTag}
    {outer : List Mode} {following : List Char} {pieces : List Node} (reader : Reader)
    (stands : reader.StandsAt ((Attribute.spread pieces).print ++ following)
      (.attributes tag :: outer) level)
    (isSite : Node.IsSite pieces)
    (wellFormed : Node.WellFormedAll pieces) (small : Node.nestingAll pieces ≤ limit)
    (shallow : level + Node.nestingAll pieces ≤ maxNesting) :
    reader.Reads reader.tokens (.attributes [.spread pieces]) following
      (.attributes tag :: outer) level := by
  have front : reader.skipBlank.rest = '{' :: '.' :: '.' :: '.' :: ' ' ::
      (Node.printPieces pieces ++ ' ' :: '}' :: following) := by
    have ahead := stands.rest
    simp only [Attribute.print, List.cons_append] at ahead
    rw [rest_skipBlank_space ahead (by decide)]
    simp
  have move := Moves.openSpread stands.modes front
  obtain ⟨fresh, start, opening, begins⟩ :=
    site_of_openSite reader.skipBlank .spreadStart "\x7b..."
  have behind := @rest_openSite _ .spreadStart "\x7b..." _ front
  obtain ⟨next, inside, stop, laterRun, arrives, nothing, added, derives, ends⟩ :=
    readsSite_body ready ((reader.skipBlank.openSite .spreadStart "\x7b...").2.enter
        (.expression (reader.skipBlank.openSite .spreadStart "\x7b...").1 ::
          .attributes tag :: outer))
      ⟨behind, rfl, stands.level⟩ fresh rfl isSite wellFormed small shallow
  refine ⟨next, start :: (inside ++ [stop]), move.run_eq.trans laterRun, arrives, nothing, ?_,
    .spread begins ends derives trivial .noAttributes⟩
  rw [added, tokens_enter, opening, tokens_skipBlank]
  simp

/-- An attribute is read back. -/
theorem reads_attribute {limit level : Nat} (ready : ReadsBackUpTo limit) {tag : OpenTag}
    {outer : List Mode} {following : List Char} {given : Attribute} (reader : Reader)
    (stands : reader.StandsAt (given.print ++ following) (.attributes tag :: outer) level)
    (spelled : given.IsSpelled) (wellFormed : given.WellFormed) (small : given.nesting ≤ limit)
    (shallow : level + given.nesting ≤ maxNesting) :
    reader.Reads reader.tokens (.attributes [given]) following (.attributes tag :: outer)
      level := by
  cases given with
  | named name value =>
      obtain ⟨isName, ⟨content, rfl, lacks⟩ | ⟨pieces, rfl, isSite⟩⟩ := spelled
      · exact reads_quoted reader stands isName lacks
      · simp only [Attribute.WellFormed, Node.wellFormed_ofValue] at wellFormed
        simp only [Attribute.nesting, Node.nesting_ofValue] at small shallow
        exact reads_valued ready reader stands isName isSite wellFormed small shallow
  | spread pieces => exact reads_spread ready reader stands spelled wellFormed small shallow

/-- Attributes are read back. -/
theorem reads_attributes {limit level : Nat} (ready : ReadsBackUpTo limit) {tag : OpenTag}
    {outer : List Mode} {following : List Char} (attributes : List Attribute) (reader : Reader)
    (stands : reader.StandsAt (Attribute.printAll attributes ++ following)
      (.attributes tag :: outer) level)
    (nothing : reader.pending = []) (spelled : ∀ given ∈ attributes, given.IsSpelled)
    (wellFormed : Attribute.WellFormedAll attributes)
    (small : Attribute.nestingAll attributes ≤ limit)
    (shallow : level + Attribute.nestingAll attributes ≤ maxNesting) :
    reader.Reads reader.tokens (.attributes attributes) following (.attributes tag :: outer)
      level := by
  induction attributes generalizing reader with
  | nil => exact ⟨reader, [], rfl, stands, nothing, rfl, .noAttributes⟩
  | cons given attributes inductionHypothesis =>
      obtain ⟨givenFormed, restFormed⟩ := wellFormed
      obtain ⟨givenSpelled, restSpelled⟩ := List.forall_mem_cons.mp spelled
      simp only [Attribute.nestingAll] at small shallow
      rw [Attribute.printAll, List.append_assoc] at stands
      obtain ⟨middle, added, sameRun, arrives, empty, tokens, derives⟩ :=
        reads_attribute ready reader stands givenSpelled givenFormed (by omega) (by omega)
      obtain ⟨next, more, laterRun, reached, empty, laterTokens, laterDerives⟩ :=
        inductionHypothesis middle arrives empty restSpelled restFormed (by omega) (by omega)
      refine ⟨next, added ++ more, sameRun.trans laterRun, reached, empty, ?_,
        derives.extends _ _ laterDerives⟩
      rw [laterTokens, tokens]
      simp

end Reader

end MarkupTemplate
