import MarkupTemplate.Template.Visit
import MarkupTemplate.Text.NameSet

/-!
# What a template uses

The components and elements that a template names, and how many declarations and
spreads it has.
-/

namespace MarkupTemplate

/-- Facts about what a template uses. -/
structure Metadata where
  components : NameSet := ∅
  elements : NameSet := ∅
  declarations : Nat := 0
  spreads : Nat := 0

namespace Metadata

/-- Whether an attribute is a spread. -/
def isSpread : Attribute → Bool
  | .spread _ => true
  | .named _ _ => false

/-- Notes the tag of an element, and counts its spreads. -/
def addElement (metadata : Metadata) (name : String) (attributes : List Attribute) :
    Metadata :=
  let counted := { metadata with spreads := metadata.spreads + attributes.countP isSpread }
  if isComponent name then { counted with components := metadata.components.insert name }
  else { counted with elements := metadata.elements.insert name }

/-- Notes which components and elements are used. -/
def tagVisitor : Visitor Metadata where
  enter
    | .element name attributes _, metadata => (true, metadata.addElement name attributes)
    | _, metadata => (true, metadata)

/-- Counts declarations. -/
def declarationVisitor : Visitor Metadata where
  enter
    | .declaration _, metadata =>
        (true, { metadata with declarations := metadata.declarations + 1 })
    | _, metadata => (true, metadata)

/-- The visitors that collect all there is to know. -/
def visitors : List (Visitor Metadata) := [tagVisitor, declarationVisitor]

end Metadata

/-- What a template uses. -/
def Template.metadata (template : Template) : Metadata :=
  template.walk Metadata.visitors {}

end MarkupTemplate
