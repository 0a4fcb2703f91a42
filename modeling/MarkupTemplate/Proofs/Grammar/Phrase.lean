import MarkupTemplate.Template.OfTokens

/-!
# The grammar of tokens

The grammar says which runs of tokens make children, elements, attributes and
pieces of an expression, and which tree each of them makes. It is a relation
between tokens and trees and knows neither a stack nor an order of work.

What the grammar cannot say is stated on trees: the keys that the named
attributes of one element become, and how deep elements lie in each other.
-/

namespace MarkupTemplate

/-- What a run of tokens is read as, with the tree it makes. -/
inductive Phrase where
  | children (nodes : List Node)
  | element (node : Node)
  | attributes (attributes : List Attribute)
  | pieces (nodes : List Node)

/-- The value that the pieces of an expression give to an attribute. Without
pieces there is no value; an empty group stands in its place. -/
def Node.ofValue (pieces : List Node) : Node :=
  (Node.ofPieces pieces).getD (.group [])

/-- The phrases that runs of tokens derive. `admits` says which pieces may be the
value of an attribute or a spread; a child expression may have any. -/
inductive Derives (admits : List Node → Prop) : Phrase → List Token → Prop where
  | noChildren : Derives admits (.children []) []
  | text {token : Token} {nodes : List Node} {rest : List Token}
      (isText : token.kind = .text) (more : Derives admits (.children nodes) rest) :
      Derives admits (.children (.text token.value :: nodes)) (token :: rest)
  | declaration {token : Token} {nodes : List Node} {rest : List Token}
      (isDeclaration : token.kind = .declaration)
      (more : Derives admits (.children nodes) rest) :
      Derives admits (.children (.declaration token.value :: nodes)) (token :: rest)
  | site {start stop : Token} {pieces nodes : List Node} {inside rest : List Token}
      (starts : start.kind = .expressionStart) (stops : stop.kind = .expressionEnd)
      (inner : Derives admits (.pieces pieces) inside)
      (more : Derives admits (.children nodes) rest) :
      Derives admits (.children ((Node.ofPieces pieces).toList ++ nodes))
        (start :: (inside ++ stop :: rest))
  | child {node : Node} {nodes : List Node} {tokens rest : List Token}
      (first : Derives admits (.element node) tokens)
      (more : Derives admits (.children nodes) rest) :
      Derives admits (.children (node :: nodes)) (tokens ++ rest)
  | selfClosing {mark name stop : Token} {attributes : List Attribute} {inside : List Token}
      (opens : mark.kind = .tagOpen) (names : name.kind = .tagName)
      (ends : stop.kind = .tagSelfClose)
      (inner : Derives admits (.attributes attributes) inside) :
      Derives admits (.element (.element name.value attributes []))
        (mark :: name :: (inside ++ [stop]))
  | enclosing {mark name stop closeMark closeName closeStop : Token}
      {attributes : List Attribute} {nodes : List Node} {inside body : List Token}
      (opens : mark.kind = .tagOpen) (names : name.kind = .tagName)
      (ends : stop.kind = .tagEnd)
      (inner : Derives admits (.attributes attributes) inside)
      (content : Derives admits (.children nodes) body)
      (closes : closeMark.kind = .tagClose) (closeNames : closeName.kind = .tagName)
      (closeEnds : closeStop.kind = .tagEnd) (same : closeName.value = name.value) :
      Derives admits (.element (.element name.value attributes nodes))
        (mark :: name :: (inside ++ stop :: (body ++ [closeMark, closeName, closeStop])))
  | noAttributes : Derives admits (.attributes []) []
  | bare {name : Token} {attributes : List Attribute} {rest : List Token}
      (names : name.kind = .attrName) (more : Derives admits (.attributes attributes) rest) :
      Derives admits (.attributes (.named name.value (.expression "true") :: attributes))
        (name :: rest)
  | quoted {name equals value : Token} {attributes : List Attribute} {rest : List Token}
      (names : name.kind = .attrName) (equates : equals.kind = .attrEquals)
      (quotes : value.kind = .stringLiteral)
      (more : Derives admits (.attributes attributes) rest) :
      Derives admits (.attributes (.named name.value (.text value.value) :: attributes))
        (name :: equals :: value :: rest)
  | valued {name equals start stop : Token} {pieces : List Node}
      {attributes : List Attribute} {inside rest : List Token}
      (names : name.kind = .attrName) (equates : equals.kind = .attrEquals)
      (starts : start.kind = .expressionStart) (stops : stop.kind = .expressionEnd)
      (inner : Derives admits (.pieces pieces) inside) (admitted : admits pieces)
      (more : Derives admits (.attributes attributes) rest) :
      Derives admits (.attributes (.named name.value (.ofValue pieces) :: attributes))
        (name :: equals :: start :: (inside ++ stop :: rest))
  | spread {start stop : Token} {pieces : List Node} {attributes : List Attribute}
      {inside rest : List Token}
      (starts : start.kind = .spreadStart) (stops : stop.kind = .expressionEnd)
      (inner : Derives admits (.pieces pieces) inside) (admitted : admits pieces)
      (more : Derives admits (.attributes attributes) rest) :
      Derives admits (.attributes (.spread pieces :: attributes))
        (start :: (inside ++ stop :: rest))
  | noPieces : Derives admits (.pieces []) []
  | code {token : Token} {nodes : List Node} {rest : List Token}
      (isCode : token.kind = .expression) (more : Derives admits (.pieces nodes) rest) :
      Derives admits (.pieces (.expression token.value :: nodes)) (token :: rest)
  | embedded {node : Node} {nodes : List Node} {tokens rest : List Token}
      (first : Derives admits (.element node) tokens)
      (more : Derives admits (.pieces nodes) rest) :
      Derives admits (.pieces (node :: nodes)) (tokens ++ rest)

/-- The key that an attribute becomes, if it is a named one. -/
def Attribute.key? : Attribute → Option String
  | .named name _ => some (Script.underscore name)
  | .spread _ => none

/-- The keys that attributes become, in their order. -/
def Attribute.keys (attributes : List Attribute) : List String :=
  attributes.filterMap Attribute.key?

/-- Whether an attribute has a value, or something to spread. -/
def Attribute.IsFilled : Attribute → Prop
  | .named _ value => ∀ pieces, value = .group pieces → pieces ≠ []
  | .spread pieces => pieces ≠ []

mutual

/-- The attributes of every element of a tree, one list for each element. -/
def Node.tags : Node → List (List Attribute)
  | .text _ => []
  | .expression _ => []
  | .declaration _ => []
  | .group pieces => Node.tagsAll pieces
  | .element _ attributes children =>
      attributes :: (Attribute.tagsAll attributes ++ Node.tagsAll children)

/-- The attributes of every element of several trees. -/
def Node.tagsAll : List Node → List (List Attribute)
  | [] => []
  | node :: nodes => node.tags ++ Node.tagsAll nodes

/-- The attributes of every element within an attribute. -/
def Attribute.tags : Attribute → List (List Attribute)
  | .named _ value => value.tags
  | .spread pieces => Node.tagsAll pieces

/-- The attributes of every element within several attributes. -/
def Attribute.tagsAll : List Attribute → List (List Attribute)
  | [] => []
  | first :: rest => first.tags ++ Attribute.tagsAll rest

end

mutual

/-- How many elements of a tree lie in each other at most. -/
def Node.nesting : Node → Nat
  | .text _ => 0
  | .expression _ => 0
  | .declaration _ => 0
  | .group pieces => Node.nestingAll pieces
  | .element _ attributes children =>
      max (Attribute.nestingAll attributes) (Node.nestingAll children) + 1

/-- How many elements of several trees lie in each other at most. -/
def Node.nestingAll : List Node → Nat
  | [] => 0
  | node :: nodes => max node.nesting (Node.nestingAll nodes)

/-- How many elements within an attribute lie in each other at most. -/
def Attribute.nesting : Attribute → Nat
  | .named _ value => value.nesting
  | .spread pieces => Node.nestingAll pieces

/-- How many elements within several attributes lie in each other at most. -/
def Attribute.nestingAll : List Attribute → Nat
  | [] => 0
  | first :: rest => max first.nesting (Attribute.nestingAll rest)

end

namespace Node

@[simp] theorem tagsAll_append (first second : List Node) :
    tagsAll (first ++ second) = tagsAll first ++ tagsAll second := by
  induction first with
  | nil => rfl
  | cons node nodes inductionHypothesis => simp [tagsAll, inductionHypothesis]

@[simp] theorem nestingAll_append (first second : List Node) :
    nestingAll (first ++ second) = max (nestingAll first) (nestingAll second) := by
  induction first with
  | nil => simp [nestingAll]
  | cons node nodes inductionHypothesis =>
      simp [nestingAll, inductionHypothesis, Nat.max_assoc]

/-- Joining pieces to one node keeps the elements among them. -/
@[simp] theorem tagsAll_ofPieces (pieces : List Node) :
    tagsAll (ofPieces pieces).toList = tagsAll pieces := by
  unfold ofPieces
  split <;> simp [tagsAll, tags]

/-- Joining pieces to one node keeps how deep the elements among them lie. -/
@[simp] theorem nestingAll_ofPieces (pieces : List Node) :
    nestingAll (ofPieces pieces).toList = nestingAll pieces := by
  unfold ofPieces
  split <;> simp [nestingAll, nesting]

/-- The value of an attribute keeps the elements among its pieces. -/
@[simp] theorem tags_ofValue (pieces : List Node) : (ofValue pieces).tags = tagsAll pieces := by
  unfold ofValue ofPieces
  split <;> simp [tagsAll, tags]

/-- The value of an attribute keeps how deep the elements among its pieces lie. -/
@[simp] theorem nesting_ofValue (pieces : List Node) :
    (ofValue pieces).nesting = nestingAll pieces := by
  unfold ofValue ofPieces
  split <;> simp [nestingAll, nesting]

/-- Pieces make no node exactly if there are none. -/
@[simp] theorem ofPieces_eq_none_iff {pieces : List Node} :
    ofPieces pieces = none ↔ pieces = [] := by
  unfold ofPieces
  split <;> simp_all

end Node

namespace Attribute

@[simp] theorem keys_nil : keys [] = [] := rfl

@[simp] theorem keys_named (name : String) (value : Node) (attributes : List Attribute) :
    keys (.named name value :: attributes) = Script.underscore name :: keys attributes := rfl

@[simp] theorem keys_spread (pieces : List Node) (attributes : List Attribute) :
    keys (.spread pieces :: attributes) = keys attributes := rfl

/-- An attribute with an expression as its value is filled if there are pieces. -/
@[simp] theorem isFilled_ofValue (name : String) (pieces : List Node) :
    (named name (.ofValue pieces)).IsFilled ↔ pieces ≠ [] := by
  simp only [IsFilled, Node.ofValue, Node.ofPieces]
  split <;> simp_all

/-- Whether the attributes of one element can stand together: each has a value,
and no two become the same key. -/
def Proper (attributes : List Attribute) : Prop :=
  (keys attributes).Nodup ∧ ∀ given ∈ attributes, given.IsFilled

/-- Whether attributes become keys that are neither used nor the same. -/
def Fresh (used : List String) (attributes : List Attribute) : Prop :=
  (keys attributes).Nodup ∧ ∀ key ∈ keys attributes, key ∉ used

@[simp] theorem fresh_nil (used : List String) : Fresh used [] := by
  simp [Fresh]

theorem fresh_named_iff {used : List String} {name : String} {value : Node}
    {attributes : List Attribute} :
    Fresh used (.named name value :: attributes) ↔
      Script.underscore name ∉ used ∧ Fresh (Script.underscore name :: used) attributes := by
  simp only [Fresh, keys_named, List.nodup_cons, List.mem_cons, not_or, forall_eq_or_imp]
  constructor
  · rintro ⟨⟨notAfter, distinct⟩, notUsed, othersUnused⟩
    refine ⟨notUsed, distinct, fun key member => ⟨?_, othersUnused key member⟩⟩
    rintro rfl
    exact notAfter member
  · rintro ⟨notUsed, distinct, others⟩
    exact ⟨⟨fun member => (others _ member).1 rfl, distinct⟩, notUsed,
      fun key member => (others key member).2⟩

@[simp] theorem fresh_spread_iff {used : List String} {pieces : List Node}
    {attributes : List Attribute} :
    Fresh used (.spread pieces :: attributes) ↔ Fresh used attributes := Iff.rfl

/-- To an element without attributes, attributes are fresh if they differ. -/
theorem fresh_nil_used_iff {attributes : List Attribute} :
    Fresh [] attributes ↔ (keys attributes).Nodup := by
  simp [Fresh]

/-- Whether no element has two attributes that become the same key. -/
def DistinctKeys (tags : List (List Attribute)) : Prop :=
  ∀ tag ∈ tags, (Attribute.keys tag).Nodup

@[simp] theorem distinctKeys_nil : DistinctKeys [] := by
  simp [DistinctKeys]

@[simp] theorem distinctKeys_cons_iff {tag : List Attribute} {tags : List (List Attribute)} :
    DistinctKeys (tag :: tags) ↔ (keys tag).Nodup ∧ DistinctKeys tags :=
  List.forall_mem_cons

@[simp] theorem distinctKeys_append_iff {first second : List (List Attribute)} :
    DistinctKeys (first ++ second) ↔ DistinctKeys first ∧ DistinctKeys second :=
  List.forall_mem_append

/-- Whether no element has an attribute without a value, or without anything to
spread. -/
def AllFilled (tags : List (List Attribute)) : Prop :=
  ∀ tag ∈ tags, ∀ given ∈ tag, given.IsFilled

@[simp] theorem allFilled_nil : AllFilled [] := by
  simp [AllFilled]

@[simp] theorem allFilled_cons_iff {tag : List Attribute} {tags : List (List Attribute)} :
    AllFilled (tag :: tags) ↔ (∀ given ∈ tag, given.IsFilled) ∧ AllFilled tags :=
  List.forall_mem_cons

@[simp] theorem allFilled_append_iff {first second : List (List Attribute)} :
    AllFilled (first ++ second) ↔ AllFilled first ∧ AllFilled second :=
  List.forall_mem_append

/-- The attributes of every element can stand together if they are filled and their
keys differ. -/
theorem proper_iff {tags : List (List Attribute)} :
    (∀ tag ∈ tags, Proper tag) ↔ AllFilled tags ∧ DistinctKeys tags := by
  simp only [Proper, AllFilled, DistinctKeys, ← forall_and]
  exact forall_congr' fun tag => forall_congr' fun _ => and_comm

end Attribute

/-- Attributes do not start with an equals sign. -/
theorem Derives.head_attributes {admits : List Node → Prop} {attributes : List Attribute}
    {tokens : List Token} (derivation : Derives admits (.attributes attributes) tokens) :
    ∀ token ∈ tokens.head?, token.kind ≠ .attrEquals := by
  cases derivation <;> simp [*]

/-! ### One phrase after another -/

/-- Whether tokens can be continued by those of another phrase of the same kind,
and derive both phrases together then. An element is complete. -/
def Phrase.Extends (admits : List Node → Prop) : Phrase → List Token → Prop
  | children nodes, tokens => ∀ more rest, Derives admits (.children more) rest →
      Derives admits (.children (nodes ++ more)) (tokens ++ rest)
  | element _, _ => True
  | attributes given, tokens => ∀ more rest, Derives admits (.attributes more) rest →
      Derives admits (.attributes (given ++ more)) (tokens ++ rest)
  | pieces nodes, tokens => ∀ more rest, Derives admits (.pieces more) rest →
      Derives admits (.pieces (nodes ++ more)) (tokens ++ rest)

/-- The tokens of every phrase can be continued. -/
theorem Derives.extends {admits : List Node → Prop} {phrase : Phrase} {tokens : List Token}
    (derivation : Derives admits phrase tokens) : phrase.Extends admits tokens := by
  induction derivation with
  | noChildren => exact fun _ _ later => later
  | text isText _ inductionHypothesis =>
      exact fun more rest later => .text isText (inductionHypothesis more rest later)
  | declaration isDeclaration _ inductionHypothesis =>
      exact fun more rest later => .declaration isDeclaration (inductionHypothesis more rest later)
  | site starts stops inner _ _ inductionHypothesis =>
      intro more rest later
      simpa using Derives.site starts stops inner (inductionHypothesis more rest later)
  | child first _ _ inductionHypothesis =>
      intro more rest later
      simpa using Derives.child first (inductionHypothesis more rest later)
  | selfClosing => trivial
  | enclosing => trivial
  | noAttributes => exact fun _ _ later => later
  | bare names _ inductionHypothesis =>
      exact fun more rest later => .bare names (inductionHypothesis more rest later)
  | quoted names equates quotes _ inductionHypothesis =>
      exact fun more rest later =>
        .quoted names equates quotes (inductionHypothesis more rest later)
  | valued names equates starts stops inner admitted _ _ inductionHypothesis =>
      intro more rest later
      simpa using Derives.valued names equates starts stops inner admitted
        (inductionHypothesis more rest later)
  | spread starts stops inner admitted _ _ inductionHypothesis =>
      intro more rest later
      simpa using Derives.spread starts stops inner admitted (inductionHypothesis more rest later)
  | noPieces => exact fun _ _ later => later
  | code isCode _ inductionHypothesis =>
      exact fun more rest later => .code isCode (inductionHypothesis more rest later)
  | embedded first _ _ inductionHypothesis =>
      intro more rest later
      simpa using Derives.embedded first (inductionHypothesis more rest later)

end MarkupTemplate
