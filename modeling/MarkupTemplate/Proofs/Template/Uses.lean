import Mathlib.Tactic.Tauto
import MarkupTemplate.Proofs.Grammar.Phrase
import MarkupTemplate.Template.Metadata

/-!
# What a template uses, in the order in which it is written

The summary of a template is collected by visitors that see elements from the
outside in. Here the same facts are listed in the order of the source: a tag where
its element opens, a spread where it starts, a declaration where it stands.
`Template.metadata_summarizes` says that the visitors miss none of these uses and
count none of them twice.
-/

namespace MarkupTemplate

/-- A construct that the summary of a template speaks of. -/
inductive Use where
  | tag (name : String)
  | declaration
  | spread
deriving DecidableEq

mutual

/-- The uses in a tree. -/
def Node.uses : Node → List Use
  | .text _ => []
  | .expression _ => []
  | .declaration _ => [.declaration]
  | .group pieces => Node.usesAll pieces
  | .element name attributes children =>
      .tag name :: (Attribute.usesAll attributes ++ Node.usesAll children)

/-- The uses in several trees. -/
def Node.usesAll : List Node → List Use
  | [] => []
  | node :: nodes => node.uses ++ Node.usesAll nodes

/-- The uses in an attribute. A spread is one itself. -/
def Attribute.uses : Attribute → List Use
  | .named _ value => value.uses
  | .spread pieces => .spread :: Node.usesAll pieces

/-- The uses in several attributes. -/
def Attribute.usesAll : List Attribute → List Use
  | [] => []
  | first :: rest => first.uses ++ Attribute.usesAll rest

end

namespace Node

@[simp] theorem usesAll_append (first second : List Node) :
    usesAll (first ++ second) = usesAll first ++ usesAll second := by
  induction first with
  | nil => rfl
  | cons node nodes inductionHypothesis => simp [usesAll, inductionHypothesis]

/-- Joining pieces to one node keeps what they use. -/
@[simp] theorem usesAll_ofPieces (pieces : List Node) :
    usesAll (ofPieces pieces).toList = usesAll pieces := by
  unfold ofPieces
  split <;> simp [usesAll, uses]

/-- The value of an attribute keeps what its pieces use. -/
@[simp] theorem uses_ofValue (pieces : List Node) : (ofValue pieces).uses = usesAll pieces := by
  unfold ofValue ofPieces
  split <;> simp [usesAll, uses]

end Node

namespace Metadata

variable {before middle after : Metadata} {uses more : List Use} {early late : Nat}

/-- What a visit adds to a summary that notes tags: those among `uses`, and the
spreads among them. An element counts its spreads when it is entered, so `early` of
them have been counted before the visit. -/
structure Notes (before after : Metadata) (uses : List Use) (early : Nat) : Prop where
  components : ∀ name, name ∈ after.components ↔
    name ∈ before.components ∨ (.tag name ∈ uses ∧ isComponent name)
  elements : ∀ name, name ∈ after.elements ↔
    name ∈ before.elements ∨ (.tag name ∈ uses ∧ ¬ isComponent name)
  declarations : after.declarations = before.declarations
  spreads : after.spreads + early = before.spreads + uses.count .spread

/-- Where nothing is used, nothing is noted. -/
theorem Notes.nil (metadata : Metadata) : Notes metadata metadata [] 0 where
  components := by simp
  elements := by simp
  declarations := rfl
  spreads := rfl

/-- A declaration is no concern of this visitor. -/
theorem Notes.declared (metadata : Metadata) : Notes metadata metadata [.declaration] 0 where
  components := by simp
  elements := by simp
  declarations := rfl
  spreads := rfl

/-- Two visits in turn note what both of them see. -/
theorem Notes.append (first : Notes before middle uses early)
    (second : Notes middle after more late) :
    Notes before after (uses ++ more) (early + late) where
  components name := by
    rw [second.components, first.components, List.mem_append]
    tauto
  elements name := by
    rw [second.elements, first.elements, List.mem_append]
    tauto
  declarations := second.declarations.trans first.declarations
  spreads := by
    have inFirst := first.spreads
    have inSecond := second.spreads
    rw [List.count_append]
    omega

/-- A spread that its element has counted. -/
theorem Notes.spread (notes : Notes before after uses 0) :
    Notes before after (.spread :: uses) 1 where
  components := by simpa using notes.components
  elements := by simpa using notes.elements
  declarations := notes.declarations
  spreads := by
    have counted := notes.spreads
    rw [List.count_cons_self]
    omega

theorem mem_components_addElement {metadata : Metadata} {name other : String}
    {attributes : List Attribute} :
    other ∈ (metadata.addElement name attributes).components ↔
      other ∈ metadata.components ∨ (other = name ∧ isComponent other) := by
  unfold addElement
  split
  next isComponent => rw [NameSet.mem_insert]; grind
  next => grind

theorem mem_elements_addElement {metadata : Metadata} {name other : String}
    {attributes : List Attribute} :
    other ∈ (metadata.addElement name attributes).elements ↔
      other ∈ metadata.elements ∨ (other = name ∧ ¬ isComponent other) := by
  unfold addElement
  split
  next => grind
  next => rw [NameSet.mem_insert]; grind

@[simp] theorem declarations_addElement (metadata : Metadata) (name : String)
    (attributes : List Attribute) :
    (metadata.addElement name attributes).declarations = metadata.declarations := by
  unfold addElement
  split <;> rfl

@[simp] theorem spreads_addElement (metadata : Metadata) (name : String)
    (attributes : List Attribute) :
    (metadata.addElement name attributes).spreads =
      metadata.spreads + attributes.countP isSpread := by
  unfold addElement
  split <;> rfl

/-- An element is noted when it is entered, its spreads with it. -/
theorem Notes.element {name : String} {attributes : List Attribute}
    (notes : Notes (before.addElement name attributes) after uses (attributes.countP isSpread)) :
    Notes before after (.tag name :: uses) 0 where
  components other := by
    rw [notes.components, mem_components_addElement, List.mem_cons, Use.tag.injEq]
    tauto
  elements other := by
    rw [notes.elements, mem_elements_addElement, List.mem_cons, Use.tag.injEq]
    tauto
  declarations := by rw [notes.declarations, declarations_addElement]
  spreads := by
    have counted := notes.spreads
    rw [spreads_addElement] at counted
    rw [List.count_cons_of_ne (by simp)]
    omega

mutual

/-- A visit of a node notes what it uses. -/
theorem notes_visit (metadata : Metadata) :
    ∀ node : Node, Notes metadata (tagVisitor.visit metadata node) node.uses 0
  | .text _ => .nil metadata
  | .expression _ => .nil metadata
  | .declaration _ => .declared metadata
  | .group pieces => notes_visitAll metadata pieces
  | .element name attributes children => by
      have inAttributes :=
        notes_visitAttributes (metadata.addElement name attributes) attributes
      exact .element (inAttributes.append (notes_visitAll _ children))

/-- A visit of nodes notes what they use. -/
theorem notes_visitAll (metadata : Metadata) :
    ∀ nodes : List Node, Notes metadata (tagVisitor.visitAll metadata nodes)
      (Node.usesAll nodes) 0
  | [] => .nil metadata
  | node :: nodes => (notes_visit metadata node).append (notes_visitAll _ nodes)

/-- A visit of an attribute notes what it uses. A spread has been counted. -/
theorem notes_visitAttribute (metadata : Metadata) :
    ∀ given : Attribute, Notes metadata (tagVisitor.visitAttribute metadata given)
      given.uses ([given].countP isSpread)
  | .named _ value => notes_visit metadata value
  | .spread pieces => .spread (notes_visitAll metadata pieces)

/-- A visit of attributes notes what they use. Spreads have been counted. -/
theorem notes_visitAttributes (metadata : Metadata) :
    ∀ attributes : List Attribute,
      Notes metadata (tagVisitor.visitAttributes metadata attributes)
        (Attribute.usesAll attributes) (attributes.countP isSpread)
  | [] => .nil metadata
  | first :: rest => by
      have inRest := notes_visitAttributes (tagVisitor.visitAttribute metadata first) rest
      have counted : (first :: rest).countP isSpread =
          [first].countP isSpread + rest.countP isSpread := by
        rw [← List.countP_append, List.singleton_append]
      rw [counted]
      exact (notes_visitAttribute metadata first).append inRest

end

/-- The summary with more declarations counted. -/
def addDeclarations (metadata : Metadata) (uses : List Use) : Metadata :=
  { metadata with declarations := metadata.declarations + uses.count .declaration }

theorem addDeclarations_append (metadata : Metadata) (uses more : List Use) :
    metadata.addDeclarations (uses ++ more) =
      (metadata.addDeclarations uses).addDeclarations more := by
  simp [addDeclarations, Nat.add_assoc]

mutual

/-- A visit of a node counts its declarations. -/
theorem visit_declarations (metadata : Metadata) :
    ∀ node : Node, declarationVisitor.visit metadata node = metadata.addDeclarations node.uses
  | .text _ => rfl
  | .expression _ => rfl
  | .declaration _ => rfl
  | .group pieces => visitAll_declarations metadata pieces
  | .element name attributes children => by
      have passes : metadata.addDeclarations (.tag name ::
          (Attribute.usesAll attributes ++ Node.usesAll children)) =
          metadata.addDeclarations (Attribute.usesAll attributes ++ Node.usesAll children) := by
        simp [addDeclarations]
      rw [Node.uses, passes, addDeclarations_append,
        ← visitAttributes_declarations metadata attributes, ← visitAll_declarations _ children]
      rfl

/-- A visit of nodes counts their declarations. -/
theorem visitAll_declarations (metadata : Metadata) :
    ∀ nodes : List Node,
      declarationVisitor.visitAll metadata nodes = metadata.addDeclarations (Node.usesAll nodes)
  | [] => rfl
  | node :: nodes => by
      rw [Node.usesAll, addDeclarations_append, ← visit_declarations metadata node,
        ← visitAll_declarations _ nodes, Visitor.visitAll]

/-- A visit of an attribute counts its declarations. -/
theorem visitAttribute_declarations (metadata : Metadata) :
    ∀ given : Attribute,
      declarationVisitor.visitAttribute metadata given = metadata.addDeclarations given.uses
  | .named _ value => visit_declarations metadata value
  | .spread pieces => by
      rw [Visitor.visitAttribute, visitAll_declarations metadata pieces]
      simp [addDeclarations, Attribute.uses]

/-- A visit of attributes counts their declarations. -/
theorem visitAttributes_declarations (metadata : Metadata) :
    ∀ attributes : List Attribute,
      declarationVisitor.visitAttributes metadata attributes =
        metadata.addDeclarations (Attribute.usesAll attributes)
  | [] => rfl
  | first :: rest => by
      rw [Attribute.usesAll, addDeclarations_append,
        ← visitAttribute_declarations metadata first,
        ← visitAttributes_declarations _ rest, Visitor.visitAttributes]

end

/-- Whether a summary says of uses which components and which elements are among
them, and how many declarations and spreads. -/
structure Summarizes (metadata : Metadata) (uses : List Use) : Prop where
  components : ∀ name, name ∈ metadata.components ↔ .tag name ∈ uses ∧ isComponent name
  elements : ∀ name, name ∈ metadata.elements ↔ .tag name ∈ uses ∧ ¬ isComponent name
  declarations : metadata.declarations = uses.count .declaration
  spreads : metadata.spreads = uses.count .spread

end Metadata

/-- The summary of a template summarizes what the template uses. -/
theorem Template.metadata_summarizes (template : Template) :
    template.metadata.Summarizes (Node.usesAll template.children) := by
  have visited : template.metadata =
      (Metadata.tagVisitor.visitAll {} template.children).addDeclarations
        (Node.usesAll template.children) :=
    Metadata.visitAll_declarations _ template.children
  have notes := Metadata.notes_visitAll {} template.children
  have unlisted (name : String) : ¬ name ∈ (∅ : NameSet) := List.not_mem_nil
  rw [visited]
  constructor
  case components =>
    exact fun name => (notes.components name).trans (or_iff_right (unlisted name))
  case elements =>
    exact fun name => (notes.elements name).trans (or_iff_right (unlisted name))
  case declarations => simp [Metadata.addDeclarations, notes.declarations]
  case spreads => simpa [Metadata.addDeclarations] using notes.spreads

end MarkupTemplate
