import Mathlib.Tactic.Tauto
import MarkupTemplate.Proofs.Assembly.Moves

/-!
# Putting the tokens of a derivation together

An assembly in front of the tokens of a phrase takes exactly these tokens and
hands the tree of the phrase to the construct around it, unless an element of
the tree has an attribute without a value or two attributes with one key. In
that case, and only in that case, it ends in a fault that says which it is.

The derivation is followed from the outside in. `Assembly.Resolves` states the
ways in which a stretch of tokens can end, and is composed along the tokens.
-/

namespace MarkupTemplate

/-- Whether a fault is about the attributes of an element. -/
def Fault.ConcernsAttributes (fault : Fault) : Prop :=
  fault.cause.kind = .malformedAttribute ∨ fault.cause.kind = .duplicateAttribute

namespace OpenElement

/-- A named attribute whose key is in use is reported as repeated. -/
theorem addNamed_of_used {element : OpenElement} {name : String} (value : Node) (span : Span)
    (used : Script.underscore name ∈ element.usedKeys) :
    ∃ fault, element.addNamed name value span = .error fault ∧
      fault.cause.kind = .duplicateAttribute := by
  cases added : element.addNamed name value span with
  | ok grown => exact absurd used (addNamed_eq_ok_iff.mp added).1
  | error fault =>
      refine ⟨fault, rfl, ?_⟩
      unfold addNamed at added
      simp only [] at added
      split at added
      next =>
        cases added
        rfl
      next => cases added

end OpenElement

namespace Assembly

/-- Whether an assembly ends in a fault of a kind. -/
def FailsAs (assembly : Assembly) (kind : Diagnostic.Kind) : Prop :=
  ∃ fault, assembly.run = .error fault ∧ fault.cause.kind = kind

/-- How the tokens in front of an assembly come out: accepted, and a state is
reached from which the rest follows, or not, and a fault about attributes ends it.
The fault tells whether they are not all filled or their keys not all distinct. -/
def Resolves (assembly : Assembly) (filled distinct : Prop) (reached : Assembly → Prop) : Prop :=
  (filled ∧ distinct ∧ ∃ next, reached next ∧ assembly.run = next.run) ∨
    (¬ filled ∧ assembly.FailsAs .malformedAttribute) ∨
    (¬ distinct ∧ assembly.FailsAs .duplicateAttribute)

/-- A step that goes on leads to the same end. -/
theorem run_of_step {assembly next : Assembly} (stepped : assembly.step = .ok (.more next)) :
    assembly.run = next.run := by
  rw [run]
  split
  next failed => simp [stepped] at failed
  next finished => simp [stepped] at finished
  next moved =>
    rw [stepped] at moved
    cases moved
    rfl

/-- A step that meets a fault ends with it. -/
theorem run_of_fault {assembly : Assembly} {fault : Fault}
    (stepped : assembly.step = .error fault) : assembly.run = .error fault := by
  rw [run]
  split
  next failed =>
    rw [stepped] at failed
    cases failed
    rfl
  next finished => simp [stepped] at finished
  next moved => simp [stepped] at moved

/-- A step that finishes a template ends with it. -/
theorem run_of_done {assembly : Assembly} {template : Template}
    (stepped : assembly.step = .ok (.done template)) : assembly.run = .ok template := by
  rw [run]
  split
  next failed => simp [stepped] at failed
  next finished =>
    rw [stepped] at finished
    cases finished
    rfl
  next moved => simp [stepped] at moved

namespace Resolves

variable {assembly next : Assembly} {filled distinct alsoFilled alsoDistinct : Prop}
  {reached final : Assembly → Prop}

/-- Nothing has to be taken. -/
theorem here (isFilled : filled) (isDistinct : distinct) (arrived : reached assembly) :
    assembly.Resolves filled distinct reached :=
  .inl ⟨isFilled, isDistinct, assembly, arrived, rfl⟩

/-- What a move leads to comes out as the move does. -/
theorem of_move (move : assembly.Moves next) (resolves : next.Resolves filled distinct reached) :
    assembly.Resolves filled distinct reached := by
  simpa only [Resolves, FailsAs, run_of_step move.step_eq] using resolves

/-- An attribute without a value rejects the tokens in front. -/
theorem of_empty {fault : Fault} (empty : ¬ filled) (stepped : assembly.step = .error fault)
    (kind : fault.cause.kind = .malformedAttribute) :
    assembly.Resolves filled distinct reached :=
  .inr (.inl ⟨empty, fault, run_of_fault stepped, kind⟩)

/-- A key that is repeated rejects the tokens in front. -/
theorem of_repeated {fault : Fault} (repeated : ¬ distinct)
    (stepped : assembly.step = .error fault) (kind : fault.cause.kind = .duplicateAttribute) :
    assembly.Resolves filled distinct reached :=
  .inr (.inr ⟨repeated, fault, run_of_fault stepped, kind⟩)

/-- Two stretches of tokens in turn are accepted if both are. -/
theorem trans (first : assembly.Resolves filled distinct reached)
    (second : ∀ next, reached next → next.Resolves alsoFilled alsoDistinct final) :
    assembly.Resolves (filled ∧ alsoFilled) (distinct ∧ alsoDistinct) final := by
  rcases first with ⟨isFilled, isDistinct, middle, arrived, same⟩ | ⟨empty, fails⟩ |
    ⟨repeated, fails⟩
  · have later := second middle arrived
    simp only [Resolves, FailsAs, ← same] at later
    rcases later with ⟨filledToo, distinctToo, ended⟩ | ⟨empty, fails⟩ | ⟨repeated, fails⟩
    · exact .inl ⟨⟨isFilled, filledToo⟩, ⟨isDistinct, distinctToo⟩, ended⟩
    · exact .inr (.inl ⟨fun both => empty both.2, fails⟩)
    · exact .inr (.inr ⟨fun both => repeated both.2, fails⟩)
  · exact .inr (.inl ⟨fun both => empty both.1, fails⟩)
  · exact .inr (.inr ⟨fun both => repeated both.1, fails⟩)

/-- Two stretches of tokens in turn, where the first leads to one known state. -/
theorem andThen (first : assembly.Resolves filled distinct fun reached => reached = next)
    (second : next.Resolves alsoFilled alsoDistinct final) :
    assembly.Resolves (filled ∧ alsoFilled) (distinct ∧ alsoDistinct) final :=
  first.trans fun _ arrived => arrived ▸ second

/-- The conditions and the states reached may be described in other words. -/
theorem congr (resolves : assembly.Resolves filled distinct reached)
    (sameFilled : filled ↔ alsoFilled) (sameDistinct : distinct ↔ alsoDistinct)
    (arrives : ∀ next, reached next → final next) :
    assembly.Resolves alsoFilled alsoDistinct final := by
  rw [Resolves, ← sameFilled, ← sameDistinct]
  refine resolves.imp_left ?_
  rintro ⟨isFilled, isDistinct, next, arrived, sameRun⟩
  exact ⟨isFilled, isDistinct, next, arrives next arrived, sameRun⟩

end Resolves

@[simp] theorem place_children (assembly : Assembly) (rest : List Token)
    (element : OpenElement) (nodes : List Node) (outer : List Frame) (node : Node) :
    (assembly.goOn rest (.children element nodes :: outer)).place node =
      assembly.goOn rest (.children element (node :: nodes) :: outer) := rfl

@[simp] theorem place_pieces (assembly : Assembly) (rest : List Token) (purpose : Purpose)
    (nodes : List Node) (outer : List Frame) (node : Node) :
    (assembly.goOn rest (.pieces purpose nodes :: outer)).place node =
      assembly.goOn rest (.pieces purpose (node :: nodes) :: outer) := rfl

/-- Among the children of an element, nodes are kept newest first. -/
theorem placeAll_children (assembly : Assembly) (rest : List Token) (element : OpenElement)
    (before nodes : List Node) (outer : List Frame) :
    (assembly.goOn rest (.children element before :: outer)).placeAll nodes =
      assembly.goOn rest (.children element (nodes.reverse ++ before) :: outer) := by
  induction nodes generalizing before with
  | nil => rfl
  | cons node nodes inductionHypothesis =>
      rw [placeAll_cons, place_children, inductionHypothesis]
      simp

/-- At the top, nodes are kept newest first. -/
theorem placeAll_top (assembly : Assembly) (top : assembly.frames = []) (nodes : List Node) :
    assembly.placeAll nodes = { assembly with root := nodes.reverse ++ assembly.root } := by
  induction nodes generalizing assembly with
  | nil => rfl
  | cons node nodes inductionHypothesis =>
      have placed : assembly.place node = { assembly with root := node :: assembly.root } := by
        simp [place, top]
      have stillTop : (assembly.place node).frames = [] := by rw [placed, top]
      rw [placeAll_cons, inductionHypothesis _ stillTop, placed]
      simp

/-- Handing on a node keeps what may be read next. -/
theorem takeContent_place {assembly : Assembly} (node : Node)
    (content : Frame.TakeContent assembly.frames) :
    Frame.TakeContent (assembly.place node).frames := by
  unfold place
  split
  next => trivial
  next within => simp [within, Frame.TakeContent] at content
  next => exact content

/-- Handing on a node keeps how many elements are open. -/
@[simp] theorem countP_place (assembly : Assembly) (node : Node) :
    (assembly.place node).frames.countP Frame.isElement =
      assembly.frames.countP Frame.isElement := by
  unfold place
  split
  next within => simp [within]
  next within => simp [within]
  next => rfl

/-- Handing on a node does not depend on the tokens that remain. -/
theorem goOn_place (assembly : Assembly) (first second : List Token) (node : Node) :
    ((assembly.goOn first assembly.frames).place node).goOn second
        ((assembly.goOn first assembly.frames).place node).frames =
      (assembly.goOn second assembly.frames).place node := by
  obtain ⟨rest, lastSpan, root, frames⟩ := assembly
  unfold place goOn
  split <;> simp_all

/-- The end of an expression that is the value of an attribute. -/
theorem resolves_valueEnd {assembly : Assembly} {stop : Token} {rest : List Token}
    {name : String} {nameSpan span : Span} {nodes : List Node} {element : OpenElement}
    {outer : List Frame}
    (within : assembly.frames =
      .pieces (.value name nameSpan span) nodes :: .attributes element :: outer)
    (front : assembly.rest = stop :: rest) (stops : stop.kind = .expressionEnd) :
    assembly.Resolves (nodes ≠ []) (Script.underscore name ∉ element.usedKeys) fun next =>
      next = assembly.goOn rest
        (.attributes (element.withNamed name (.ofValue nodes.reverse) nameSpan) :: outer) := by
  have stepped := step_siteEnd within front stops
  rw [finishPieces_value, List.isEmpty_reverse] at stepped
  by_cases empty : nodes = []
  · rw [if_pos (by simpa using empty)] at stepped
    exact .of_empty (fun nonempty => nonempty empty) stepped rfl
  · rw [if_neg (by simpa using empty)] at stepped
    by_cases used : Script.underscore name ∈ element.usedKeys
    · obtain ⟨fault, refuses, kind⟩ := OpenElement.addNamed_of_used
        (.ofValue nodes.reverse) nameSpan used
      rw [refuses] at stepped
      exact .of_repeated (fun unused => unused used) stepped kind
    · rw [OpenElement.addNamed_eq_ok_iff.mpr ⟨used, rfl⟩] at stepped
      exact .of_move (step_eq_more_iff.mp stepped) (.here empty used rfl)

/-- The end of an expression that is spread. -/
theorem resolves_spreadEnd {assembly : Assembly} {stop : Token} {rest : List Token}
    {span : Span} {nodes : List Node} {element : OpenElement} {outer : List Frame}
    (within : assembly.frames = .pieces (.spread span) nodes :: .attributes element :: outer)
    (front : assembly.rest = stop :: rest) (stops : stop.kind = .expressionEnd) :
    assembly.Resolves (nodes ≠ []) True fun next =>
      next = assembly.goOn rest (.attributes (element.addSpread nodes.reverse) :: outer) := by
  have stepped := step_siteEnd within front stops
  rw [finishPieces_spread, List.isEmpty_reverse] at stepped
  by_cases empty : nodes = []
  · rw [if_pos (by simpa using empty)] at stepped
    exact .of_empty (fun nonempty => nonempty empty) stepped rfl
  · rw [if_neg (by simpa using empty)] at stepped
    exact .of_move (step_eq_more_iff.mp stepped) (.here empty trivial rfl)

/-- A named attribute that needs no expression. -/
theorem resolves_named {assembly : Assembly} {rest : List Token} {name : String}
    {value : Node} {span : Span} {element : OpenElement} {outer : List Frame}
    (stepped : assembly.step = (element.addNamed name value span).map fun added =>
      .more (assembly.goOn rest (.attributes added :: outer))) :
    assembly.Resolves True (Script.underscore name ∉ element.usedKeys) fun next =>
      next = assembly.goOn rest
        (.attributes (element.withNamed name value span) :: outer) := by
  by_cases used : Script.underscore name ∈ element.usedKeys
  · obtain ⟨fault, refuses, kind⟩ := OpenElement.addNamed_of_used value span used
    simp only [refuses, Except.map] at stepped
    exact .of_repeated (fun unused => unused used) stepped kind
  · have adds := OpenElement.addNamed_eq_ok_iff.mpr
      ⟨used, (rfl : element.withNamed name value span = _)⟩
    simp only [adds, Except.map] at stepped
    exact .of_move (step_eq_more_iff.mp stepped) (.here trivial used rfl)

end Assembly

namespace Phrase

/-- What an assembly makes of tokens that derive a phrase, in the place where such
a phrase is read. The numbers of open elements stay within the limit. -/
def Resolved : Phrase → List Token → Prop
  | children nodes, tokens =>
      ∀ (assembly : Assembly) (rest : List Token), Frame.TakeContent assembly.frames →
        assembly.rest = tokens ++ rest →
        assembly.frames.countP Frame.isElement + Node.nestingAll nodes ≤ maxNesting →
        assembly.Resolves (Attribute.AllFilled (Node.tagsAll nodes))
          (Attribute.DistinctKeys (Node.tagsAll nodes)) fun next =>
          next = (assembly.goOn rest assembly.frames).placeAll nodes
  | element node, tokens =>
      ∀ (assembly : Assembly) (rest : List Token), Frame.TakeElement assembly.frames →
        assembly.rest = tokens ++ rest →
        assembly.frames.countP Frame.isElement + node.nesting ≤ maxNesting →
        assembly.Resolves (Attribute.AllFilled node.tags)
          (Attribute.DistinctKeys node.tags) fun next =>
          next = (assembly.goOn rest assembly.frames).place node
  | attributes added, tokens =>
      ∀ (assembly : Assembly) (rest : List Token) (element : OpenElement)
        (outer : List Frame), assembly.frames = .attributes element :: outer →
        assembly.rest = tokens ++ rest →
        (∀ token ∈ rest.head?, token.kind ≠ .attrEquals) →
        outer.countP Frame.isElement + 1 + Attribute.nestingAll added ≤ maxNesting →
        assembly.Resolves
          ((∀ given ∈ added, given.IsFilled) ∧ Attribute.AllFilled (Attribute.tagsAll added))
          (Attribute.Fresh element.usedKeys added ∧
            Attribute.DistinctKeys (Attribute.tagsAll added))
          fun next => ∃ grown : OpenElement, grown.name = element.name ∧
            grown.attributes = added.reverse ++ element.attributes ∧
            next = assembly.goOn rest (.attributes grown :: outer)
  | pieces nodes, tokens =>
      ∀ (assembly : Assembly) (rest : List Token) (purpose : Purpose) (before : List Node)
        (outer : List Frame), assembly.frames = .pieces purpose before :: outer →
        assembly.rest = tokens ++ rest →
        outer.countP Frame.isElement + Node.nestingAll nodes ≤ maxNesting →
        assembly.Resolves (Attribute.AllFilled (Node.tagsAll nodes))
          (Attribute.DistinctKeys (Node.tagsAll nodes)) fun next =>
          next = assembly.goOn rest (.pieces purpose (nodes.reverse ++ before) :: outer)

variable {tokens inside following : List Token} {nodes : List Node}
  {given : List Attribute}

/-- The children after one that has been handed on. -/
theorem resolved_after {assembly : Assembly} {rest : List Token} (node : Node)
    (more : Resolved (children nodes) following) (content : Frame.TakeContent assembly.frames)
    (shallow : assembly.frames.countP Frame.isElement + Node.nestingAll nodes ≤ maxNesting) :
    ((assembly.goOn (following ++ rest) assembly.frames).place node).Resolves
      (Attribute.AllFilled (Node.tagsAll nodes))
      (Attribute.DistinctKeys (Node.tagsAll nodes)) fun next =>
        next = (assembly.goOn rest assembly.frames).placeAll (node :: nodes) := by
  have placed : Frame.TakeContent
      ((assembly.goOn (following ++ rest) assembly.frames).place node).frames :=
    Assembly.takeContent_place node content
  have later := more _ rest placed (by simp)
    (by rw [Assembly.countP_place]; exact shallow)
  rw [Assembly.goOn_place] at later
  exact later

/-- A leaf among children, and the children after it. -/
theorem resolved_leaf {token : Token} {node : Node}
    (more : Resolved (children nodes) following)
    (moves : ∀ (assembly : Assembly) (rest : List Token),
      Frame.TakeContent assembly.frames → assembly.rest = token :: rest →
      assembly.Moves ((assembly.goOn rest assembly.frames).place node))
    (untagged : node.tags = []) (flat : node.nesting = 0) :
    Resolved (children (node :: nodes)) (token :: following) := by
  intro assembly rest content front shallow
  simp only [Node.nestingAll, flat, Nat.zero_max] at shallow
  refine .of_move (moves assembly (following ++ rest) content front) ?_
  simpa only [Node.tagsAll, untagged, List.nil_append] using
    resolved_after node more content shallow

/-- An expression among children, and the children after it. -/
theorem resolved_site {start stop : Token} {pieces : List Node}
    (starts : start.kind = .expressionStart) (stops : stop.kind = .expressionEnd)
    (inner : Resolved (.pieces pieces) inside) (more : Resolved (children nodes) following) :
    Resolved (children ((Node.ofPieces pieces).toList ++ nodes))
      (start :: (inside ++ stop :: following)) := by
  intro assembly rest content front shallow
  simp only [Node.nestingAll_append, Node.nestingAll_ofPieces] at shallow
  refine .of_move (.siteOpened content front starts) ?_
  have within := inner (assembly.goOn ((inside ++ stop :: following) ++ rest)
    (.pieces .child [] :: assembly.frames)) (stop :: (following ++ rest)) .child []
    assembly.frames rfl (by simp) (by omega)
  have later : (assembly.goOn (stop :: (following ++ rest))
      (.pieces .child pieces.reverse :: assembly.frames)).Resolves
      (Attribute.AllFilled (Node.tagsAll nodes))
      (Attribute.DistinctKeys (Node.tagsAll nodes)) fun next =>
        next = (assembly.goOn rest assembly.frames).placeAll
          ((Node.ofPieces pieces).toList ++ nodes) := by
    have finished := Assembly.finishPieces_child
      (assembly.goOn (following ++ rest) assembly.frames) pieces.reverse.reverse
    refine .of_move (.siteClosed rfl rfl stops finished) ?_
    rw [List.reverse_reverse]
    cases Node.ofPieces pieces with
    | none => exact more _ rest content rfl (by simp only [Option.toList_none, Assembly.placeAll_nil, Assembly.frames_goOn]; omega)
    | some node => exact resolved_after node more content (by omega)
  rw [List.append_nil] at within
  refine (within.andThen later).congr ?_ ?_ fun _ arrived => arrived
  · rw [Node.tagsAll_append, Node.tagsAll_ofPieces, Attribute.allFilled_append_iff]
  · rw [Node.tagsAll_append, Node.tagsAll_ofPieces, Attribute.distinctKeys_append_iff]

/-- An element among children, and the children after it. -/
theorem resolved_child {node : Node} (first : Resolved (element node) tokens)
    (more : Resolved (children nodes) following) :
    Resolved (children (node :: nodes)) (tokens ++ following) := by
  intro assembly rest content front shallow
  simp only [Node.nestingAll] at shallow
  have opened := first assembly (following ++ rest) content.takeElement
    (by rw [front, List.append_assoc]) (by omega)
  refine (opened.andThen (resolved_after node more content (by omega))).congr ?_ ?_
    fun _ arrived => arrived
  · rw [Node.tagsAll, Attribute.allFilled_append_iff]
  · rw [Node.tagsAll, Attribute.distinctKeys_append_iff]

/-- An element among the pieces of an expression, and the pieces after it. -/
theorem resolved_embedded {node : Node} (first : Resolved (element node) tokens)
    (more : Resolved (pieces nodes) following) :
    Resolved (pieces (node :: nodes)) (tokens ++ following) := by
  intro assembly rest purpose before outer within front shallow
  simp only [Node.nestingAll] at shallow
  have opened := first assembly (following ++ rest) (by rw [within]; trivial)
    (by rw [front, List.append_assoc]) (by rw [within, Frame.countP_pieces]; omega)
  rw [within, Assembly.place_pieces] at opened
  have later := more (assembly.goOn (following ++ rest)
    (.pieces purpose (node :: before) :: outer)) rest purpose (node :: before) outer rfl rfl
    (by omega)
  refine (opened.andThen later).congr ?_ ?_ (by simp)
  · rw [Node.tagsAll, Attribute.allFilled_append_iff]
  · rw [Node.tagsAll, Attribute.distinctKeys_append_iff]

/-- Code among the pieces of an expression, and the pieces after it. -/
theorem resolved_code {token : Token} (isCode : token.kind = .expression)
    (more : Resolved (pieces nodes) following) :
    Resolved (pieces (.expression token.value :: nodes)) (token :: following) := by
  intro assembly rest purpose before outer within front shallow
  simp only [Node.nestingAll, Node.nesting, Nat.zero_max] at shallow
  refine .of_move (.code within front isCode) ?_
  simpa [Node.tagsAll, Node.tags] using more
    (assembly.goOn (following ++ rest) (.pieces purpose (.expression token.value :: before) :: outer))
    rest purpose _ outer rfl rfl shallow

/-- One named attribute without elements in it, and the attributes after it. -/
theorem resolved_named {assembly : Assembly} {rest : List Token} {name : String}
    {value : Node} {element : OpenElement} {outer : List Frame} (span : Span)
    (more : Resolved (attributes given) following)
    (after : ∀ token ∈ rest.head?, token.kind ≠ .attrEquals)
    (shallow : outer.countP Frame.isElement + 1 + Attribute.nestingAll given ≤ maxNesting)
    (first : assembly.Resolves
      (Attribute.IsFilled (.named name value) ∧ Attribute.AllFilled value.tags)
      (Attribute.DistinctKeys value.tags ∧ Script.underscore name ∉ element.usedKeys)
      fun next => next = assembly.goOn (following ++ rest)
        (.attributes (element.withNamed name value span) :: outer)) :
    assembly.Resolves
      ((∀ single ∈ Attribute.named name value :: given, single.IsFilled) ∧
        Attribute.AllFilled (Attribute.tagsAll (.named name value :: given)))
      (Attribute.Fresh element.usedKeys (.named name value :: given) ∧
        Attribute.DistinctKeys (Attribute.tagsAll (.named name value :: given)))
      fun next => ∃ grown : OpenElement, grown.name = element.name ∧
        grown.attributes = (Attribute.named name value :: given).reverse ++ element.attributes ∧
        next = assembly.goOn rest (.attributes grown :: outer) := by
  have later := more (assembly.goOn (following ++ rest)
    (.attributes (element.withNamed name value span) :: outer)) rest _ outer rfl rfl after shallow
  refine (first.andThen later).congr ?_ ?_ ?_
  · rw [List.forall_mem_cons, Attribute.tagsAll, Attribute.tags, Attribute.allFilled_append_iff]
    tauto
  · rw [Attribute.fresh_named_iff, Attribute.tagsAll, Attribute.tags,
      Attribute.distinctKeys_append_iff, OpenElement.usedKeys_withNamed]
    tauto
  · rintro next ⟨grown, sameName, grownBy, rfl⟩
    refine ⟨grown, sameName, ?_, rfl⟩
    simpa [OpenElement.withNamed] using grownBy

/-- An attribute without a value, and the attributes after it. -/
theorem resolved_bare {name : Token} (names : name.kind = .attrName)
    (more : Resolved (attributes given) following)
    (apart : ∀ token ∈ following.head?, token.kind ≠ .attrEquals) :
    Resolved (attributes (.named name.value (.expression "true") :: given))
      (name :: following) := by
  intro assembly rest element outer within front after shallow
  have alone : ∀ token ∈ (following ++ rest).head?, token.kind ≠ .attrEquals := by
    cases following with
    | nil => exact after
    | cons token tokens => exact apart
  simp only [Attribute.nestingAll, Attribute.nesting, Node.nesting, Nat.zero_max] at shallow
  refine resolved_named name.span more after shallow ?_
  exact (Assembly.resolves_named (Assembly.step_bare within front names alone)).congr
    (by simp [Attribute.IsFilled, Node.tags]) (by simp [Node.tags]) fun _ arrived => arrived

/-- An attribute with a quoted value, and the attributes after it. -/
theorem resolved_quoted {name equals value : Token} (names : name.kind = .attrName)
    (equates : equals.kind = .attrEquals) (quotes : value.kind = .stringLiteral)
    (more : Resolved (attributes given) following) :
    Resolved (attributes (.named name.value (.text value.value) :: given))
      (name :: equals :: value :: following) := by
  intro assembly rest element outer within front after shallow
  simp only [Attribute.nestingAll, Attribute.nesting, Node.nesting, Nat.zero_max] at shallow
  refine resolved_named name.span more after shallow ?_
  exact (Assembly.resolves_named
    (Assembly.step_quoted within front names equates quotes)).congr
    (by simp [Attribute.IsFilled, Node.tags]) (by simp [Node.tags]) fun _ arrived => arrived

/-- An attribute with an expression as its value, and the attributes after it. -/
theorem resolved_valued {name equals start stop : Token} {pieces : List Node}
    (names : name.kind = .attrName) (equates : equals.kind = .attrEquals)
    (starts : start.kind = .expressionStart) (stops : stop.kind = .expressionEnd)
    (inner : Resolved (.pieces pieces) inside)
    (more : Resolved (attributes given) following) :
    Resolved (attributes (.named name.value (.ofValue pieces) :: given))
      (name :: equals :: start :: (inside ++ stop :: following)) := by
  intro assembly rest element outer within front after shallow
  simp only [Attribute.nestingAll, Attribute.nesting, Node.nesting_ofValue] at shallow
  refine resolved_named name.span more after (by omega)
    (.of_move (.valueOpened within front names equates starts) ?_)
  have site := inner (assembly.goOn ((inside ++ stop :: following) ++ rest)
    (.pieces (.value name.value name.span start.span) [] :: .attributes element :: outer))
    (stop :: (following ++ rest)) (.value name.value name.span start.span) []
    (.attributes element :: outer) rfl (by simp) (by
      rw [Frame.countP_attributes]
      omega)
  rw [List.append_nil] at site
  have ended := @Assembly.resolves_valueEnd (assembly.goOn (stop :: (following ++ rest))
    (.pieces (.value name.value name.span start.span) pieces.reverse
      :: .attributes element :: outer)) _ _ _ _ _ _ _ _ rfl rfl stops
  refine (site.andThen ended).congr ?_ (by rw [Node.tags_ofValue]) (by simp)
  rw [Attribute.isFilled_ofValue, Node.tags_ofValue, ne_eq, List.reverse_eq_nil_iff]
  exact and_comm

/-- A spread, and the attributes after it. -/
theorem resolved_spread {start stop : Token} {pieces : List Node}
    (starts : start.kind = .spreadStart) (stops : stop.kind = .expressionEnd)
    (inner : Resolved (.pieces pieces) inside)
    (more : Resolved (attributes given) following) :
    Resolved (attributes (.spread pieces :: given))
      (start :: (inside ++ stop :: following)) := by
  intro assembly rest element outer within front after shallow
  simp only [Attribute.nestingAll, Attribute.nesting] at shallow
  refine .of_move (.spreadOpened within front starts) ?_
  have site := inner (assembly.goOn ((inside ++ stop :: following) ++ rest)
    (.pieces (.spread start.span) [] :: .attributes element :: outer))
    (stop :: (following ++ rest)) (.spread start.span) []
    (.attributes element :: outer) rfl (by simp) (by
      rw [Frame.countP_attributes]
      omega)
  rw [List.append_nil] at site
  have ended := @Assembly.resolves_spreadEnd (assembly.goOn (stop :: (following ++ rest))
    (.pieces (.spread start.span) pieces.reverse :: .attributes element :: outer))
    _ _ _ _ _ _ rfl rfl stops
  have later := more (assembly.goOn (following ++ rest)
    (.attributes (element.addSpread pieces) :: outer)) rest _ outer rfl rfl after (by omega)
  rw [List.reverse_reverse] at ended
  refine ((site.andThen ended).andThen later).congr ?_ ?_ ?_
  · rw [List.forall_mem_cons, Attribute.tagsAll, Attribute.tags,
      Attribute.allFilled_append_iff, ne_eq, List.reverse_eq_nil_iff, Attribute.IsFilled]
    tauto
  · have sameKeys : (element.addSpread pieces).usedKeys = element.usedKeys := rfl
    rw [Attribute.fresh_spread_iff, Attribute.tagsAll, Attribute.tags,
      Attribute.distinctKeys_append_iff, sameKeys]
    tauto
  · rintro next ⟨grown, sameName, grownBy, rfl⟩
    refine ⟨grown, sameName, ?_, rfl⟩
    simpa [OpenElement.addSpread] using grownBy

/-- The opening of an element and its attributes. -/
theorem resolves_opening {mark name : Token} {assembly : Assembly} {rest : List Token}
    (opens : mark.kind = .tagOpen) (names : name.kind = .tagName)
    (inner : Resolved (attributes given) inside)
    (content : Frame.TakeElement assembly.frames)
    (front : assembly.rest = mark :: name :: (inside ++ rest))
    (after : ∀ token ∈ rest.head?, token.kind ≠ .attrEquals)
    (shallow : assembly.frames.countP Frame.isElement + 1 + Attribute.nestingAll given
      ≤ maxNesting) :
    assembly.Resolves (Attribute.AllFilled (given :: Attribute.tagsAll given))
      (Attribute.DistinctKeys (given :: Attribute.tagsAll given))
      fun next => ∃ grown : OpenElement, grown.name = name.value ∧
        grown.attributes = given.reverse ∧
        next = assembly.goOn rest (.attributes grown :: assembly.frames) := by
  refine .of_move (.elementOpened content front opens names (by omega)) ?_
  have read := inner (assembly.goOn (inside ++ rest)
    (.attributes { name := name.value, opening := ⟨mark.span.start, name.span.stop⟩ }
      :: assembly.frames)) rest _ assembly.frames rfl rfl after shallow
  refine read.congr Attribute.allFilled_cons_iff.symm ?_ ?_
  · rw [Attribute.distinctKeys_cons_iff]
    exact and_congr_left fun _ => Attribute.fresh_nil_used_iff
  · rintro next ⟨grown, sameName, grownBy, rfl⟩
    exact ⟨grown, sameName, by simpa using grownBy, rfl⟩

/-- An element whose tag closes itself. -/
theorem resolved_selfClosing {mark name stop : Token} (opens : mark.kind = .tagOpen)
    (names : name.kind = .tagName) (ends : stop.kind = .tagSelfClose)
    (inner : Resolved (attributes given) inside) :
    Resolved (element (.element name.value given [])) (mark :: name :: (inside ++ [stop])) := by
  intro assembly rest content front shallow
  simp only [Node.nesting] at shallow
  have opened := resolves_opening opens names inner content
    (by rw [front, List.cons_append, List.cons_append, List.append_assoc,
      List.singleton_append]) (by simp [ends]) (by omega)
  have closed : ∀ next, (∃ grown : OpenElement, grown.name = name.value ∧
      grown.attributes = given.reverse ∧
      next = assembly.goOn (stop :: rest) (.attributes grown :: assembly.frames)) →
      next.Resolves True True fun next =>
        next = (assembly.goOn rest assembly.frames).place (.element name.value given []) := by
    rintro next ⟨grown, sameName, grownBy, rfl⟩
    refine .of_move (.selfClosed rfl rfl ends) (.here trivial trivial ?_)
    simp [OpenElement.finish, sameName, grownBy]
  refine (opened.trans closed).congr ?_ ?_ fun _ arrived => arrived
  · simp [Node.tags, Node.tagsAll]
  · simp [Node.tags, Node.tagsAll]

/-- An element with an opening and a closing tag. -/
theorem resolved_enclosing {mark name stop closeMark closeName closeStop : Token}
    {body : List Token} (opens : mark.kind = .tagOpen) (names : name.kind = .tagName)
    (ends : stop.kind = .tagEnd) (inner : Resolved (attributes given) inside)
    (content : Resolved (children nodes) body) (closes : closeMark.kind = .tagClose)
    (closeNames : closeName.kind = .tagName) (closeEnds : closeStop.kind = .tagEnd)
    (same : closeName.value = name.value) :
    Resolved (element (.element name.value given nodes))
      (mark :: name :: (inside ++ stop :: (body ++ [closeMark, closeName, closeStop]))) := by
  intro assembly rest place front shallow
  simp only [Node.nesting] at shallow
  have opened := resolves_opening opens names inner place
    (by rw [front, List.cons_append, List.cons_append, List.append_assoc,
      List.cons_append, List.append_assoc]) (by simp [ends]) (by omega)
  have closed : ∀ next, (∃ grown : OpenElement, grown.name = name.value ∧
      grown.attributes = given.reverse ∧
      next = assembly.goOn (stop :: (body ++ ([closeMark, closeName, closeStop] ++ rest)))
        (.attributes grown :: assembly.frames)) →
      next.Resolves (Attribute.AllFilled (Node.tagsAll nodes))
        (Attribute.DistinctKeys (Node.tagsAll nodes)) fun next =>
        next = (assembly.goOn rest assembly.frames).place (.element name.value given nodes) := by
    rintro next ⟨grown, sameName, grownBy, rfl⟩
    refine .of_move (.tagEnded rfl rfl ends) ?_
    have read := content (assembly.goOn (body ++ ([closeMark, closeName, closeStop] ++ rest))
      (.children grown [] :: assembly.frames)) ([closeMark, closeName, closeStop] ++ rest)
      trivial rfl (by
        rw [Assembly.frames_goOn, Frame.countP_children]
        omega)
    rw [Assembly.frames_goOn, Assembly.goOn_goOn, Assembly.placeAll_children,
      List.append_nil] at read
    refine (read.andThen (.of_move (.elementClosed rfl rfl closes closeNames closeEnds
      (same.trans sameName.symm)) (.here trivial trivial ?_))).congr (iff_of_eq (and_true _))
      (iff_of_eq (and_true _)) fun _ arrived => arrived
    simp [OpenElement.finish, sameName, grownBy]
  refine (opened.trans closed).congr ?_ ?_ fun _ arrived => arrived
  · rw [Node.tags, ← List.cons_append, Attribute.allFilled_append_iff]
  · rw [Node.tags, ← List.cons_append, Attribute.distinctKeys_append_iff]

end Phrase

/-- An assembly in front of the tokens of a phrase takes them and makes the tree of
the phrase, or rejects its attributes. -/
theorem Derives.resolved {admits : List Node → Prop} {phrase : Phrase} {tokens : List Token}
    (derivation : Derives admits phrase tokens) : phrase.Resolved tokens := by
  induction derivation with
  | noChildren =>
      intro assembly rest content front shallow
      refine .here (by simp [Node.tagsAll]) (by simp [Node.tagsAll]) ?_
      rw [List.nil_append] at front
      rw [← front]
      rfl
  | text isText more inductionHypothesis =>
      exact Phrase.resolved_leaf inductionHypothesis
        (fun assembly rest content front => .text content front isText) rfl rfl
  | declaration isDeclaration more inductionHypothesis =>
      exact Phrase.resolved_leaf inductionHypothesis
        (fun assembly rest content front => .declaration content front isDeclaration) rfl rfl
  | site starts stops inner more innerHypothesis inductionHypothesis =>
      exact Phrase.resolved_site starts stops innerHypothesis inductionHypothesis
  | child first more firstHypothesis inductionHypothesis =>
      exact Phrase.resolved_child firstHypothesis inductionHypothesis
  | selfClosing opens names ends inner innerHypothesis =>
      exact Phrase.resolved_selfClosing opens names ends innerHypothesis
  | enclosing opens names ends inner content closes closeNames closeEnds same innerHypothesis
      contentHypothesis =>
      exact Phrase.resolved_enclosing opens names ends innerHypothesis contentHypothesis closes
        closeNames closeEnds same
  | noAttributes =>
      intro assembly rest element outer within front after shallow
      refine .here (by simp [Attribute.tagsAll]) (by simp [Attribute.tagsAll])
        ⟨element, rfl, rfl, ?_⟩
      rw [List.nil_append] at front
      rw [← front, ← within]
      rfl
  | bare names more inductionHypothesis =>
      exact Phrase.resolved_bare names inductionHypothesis more.head_attributes
  | quoted names equates quotes more inductionHypothesis =>
      exact Phrase.resolved_quoted names equates quotes inductionHypothesis
  | valued names equates starts stops inner admitted more innerHypothesis inductionHypothesis =>
      exact Phrase.resolved_valued names equates starts stops innerHypothesis
        inductionHypothesis
  | spread starts stops inner admitted more innerHypothesis inductionHypothesis =>
      exact Phrase.resolved_spread starts stops innerHypothesis inductionHypothesis
  | noPieces =>
      intro assembly rest purpose before outer within front shallow
      refine .here (by simp [Node.tagsAll]) (by simp [Node.tagsAll]) ?_
      rw [List.nil_append] at front
      rw [← front, List.reverse_nil, List.nil_append, ← within]
      rfl
  | code isCode more inductionHypothesis =>
      exact Phrase.resolved_code isCode inductionHypothesis
  | embedded first more firstHypothesis inductionHypothesis =>
      exact Phrase.resolved_embedded firstHypothesis inductionHypothesis

namespace Template

variable {admits : List Node → Prop} {nodes : List Node} {tokens rest : List Token}

/-- Tokens that derive children, with nothing or an end of input after them, make a
template of these children, or the fault tells what is wrong with their attributes. -/
theorem ofTokens_of_derives_cases (derivation : Derives admits (.children nodes) tokens)
    (ends : ∀ token ∈ rest.head?, token.kind = .eof)
    (shallow : Node.nestingAll nodes ≤ maxNesting) :
    (Attribute.AllFilled (Node.tagsAll nodes) ∧ Attribute.DistinctKeys (Node.tagsAll nodes) ∧
        Template.ofTokens (tokens ++ rest) = .ok ⟨nodes⟩) ∨
      (¬ Attribute.AllFilled (Node.tagsAll nodes) ∧
        ∃ fault, Template.ofTokens (tokens ++ rest) = .error fault ∧
          fault.cause.kind = .malformedAttribute) ∨
      (¬ Attribute.DistinctKeys (Node.tagsAll nodes) ∧
        ∃ fault, Template.ofTokens (tokens ++ rest) = .error fault ∧
          fault.cause.kind = .duplicateAttribute) := by
  have resolves := derivation.resolved (Assembly.start (tokens ++ rest)) rest trivial rfl
    (by simpa [Assembly.start] using shallow)
  refine resolves.imp (fun accepted => ?_) id
  obtain ⟨filled, distinct, next, rfl, sameRun⟩ := accepted
  refine ⟨filled, distinct, ?_⟩
  rw [Template.ofTokens, sameRun]
  refine Assembly.run_of_done (Assembly.step_eq_done_iff.mpr ?_)
  rw [Assembly.placeAll_top _ rfl]
  exact ⟨rfl, ends, by simp [Assembly.goOn, Assembly.start]⟩

/-- Tokens that derive children, with nothing or an end of input after them, make a
template of these children, or their attributes are rejected. -/
theorem ofTokens_of_derives (derivation : Derives admits (.children nodes) tokens)
    (ends : ∀ token ∈ rest.head?, token.kind = .eof)
    (shallow : Node.nestingAll nodes ≤ maxNesting) :
    ((∀ tag ∈ Node.tagsAll nodes, Attribute.Proper tag) ∧
        Template.ofTokens (tokens ++ rest) = .ok ⟨nodes⟩) ∨
      ((¬ ∀ tag ∈ Node.tagsAll nodes, Attribute.Proper tag) ∧
        ∃ fault, Template.ofTokens (tokens ++ rest) = .error fault ∧
          fault.ConcernsAttributes) := by
  rw [Attribute.proper_iff]
  rcases ofTokens_of_derives_cases derivation ends shallow with
    ⟨filled, distinct, made⟩ | ⟨empty, fault, failed, kind⟩ | ⟨repeated, fault, failed, kind⟩
  · exact .inl ⟨⟨filled, distinct⟩, made⟩
  · exact .inr ⟨fun both => empty both.1, fault, failed, .inl kind⟩
  · exact .inr ⟨fun both => repeated both.2, fault, failed, .inr kind⟩

end Template
end MarkupTemplate
