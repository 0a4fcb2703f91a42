/-!
# Templates

A template is a tree of text, embedded code and elements. Embedded code that
contains elements is a group of pieces, which are written back to back.
-/

namespace MarkupTemplate

mutual

/-- A node of a template. -/
inductive Node where
  /-- Literal text. -/
  | text (content : String)
  /-- Code whose value is inserted. -/
  | expression (content : String)
  /-- Code that stands on its own. -/
  | declaration (content : String)
  /-- Pieces of one embedded expression. -/
  | group (pieces : List Node)
  | element (name : String) (attributes : List Attribute) (children : List Node)
deriving Repr

/-- An attribute of an element. -/
inductive Attribute where
  | named (name : String) (value : Node)
  /-- Attributes taken from the value of an expression. -/
  | spread (pieces : List Node)
deriving Repr

end

instance : Inhabited Node := ⟨.text ""⟩

/-- The tree of a whole template. -/
structure Template where
  children : List Node := []
deriving Repr, Inhabited

/-- Whether a tag names a component: its name is capitalised or compound. -/
def isComponent (name : String) : Bool :=
  name.toList.head?.any Char.isUpper || name.toList.contains '.'

/-- The node that the pieces of an expression make: nothing without pieces, and
a lone piece of code is an expression of its own. -/
def Node.ofPieces : List Node → Option Node
  | [] => none
  | [.expression content] => some (.expression content)
  | pieces => some (.group pieces)

end MarkupTemplate
