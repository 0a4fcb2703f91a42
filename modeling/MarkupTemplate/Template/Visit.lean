import MarkupTemplate.Template.Basic

/-!
# Visiting the nodes of a template

A visitor is shown every node on the way down and again on the way up. It may
decline what lies below a node. The nodes below an element are the values of its
attributes, the pieces of its spreads and then its children.
-/

namespace MarkupTemplate

/-- What is done at the nodes of a template. -/
structure Visitor (State : Type) where
  /-- Meets a node on the way down, and tells whether to go below it. -/
  enter : Node → State → Bool × State
  /-- Meets a node on the way up. -/
  leave : Node → State → State := fun _ state => state

namespace Visitor

variable {State Other : Type}

mutual

/-- Visits a node and what lies below it. -/
def visit (visitor : Visitor State) (state : State) : Node → State
  | .text content =>
      visitor.leave (.text content) (visitor.enter (.text content) state).2
  | .expression content =>
      visitor.leave (.expression content) (visitor.enter (.expression content) state).2
  | .declaration content =>
      visitor.leave (.declaration content) (visitor.enter (.declaration content) state).2
  | .group pieces =>
      let entered := visitor.enter (.group pieces) state
      visitor.leave (.group pieces)
        (if entered.1 then visitAll visitor entered.2 pieces else entered.2)
  | .element name attributes children =>
      let entered := visitor.enter (.element name attributes children) state
      visitor.leave (.element name attributes children)
        (if entered.1 then
          visitAll visitor (visitAttributes visitor entered.2 attributes) children
        else entered.2)

/-- Visits nodes in turn. -/
def visitAll (visitor : Visitor State) (state : State) : List Node → State
  | [] => state
  | node :: nodes => visitAll visitor (visit visitor state node) nodes

/-- Visits the value of an attribute or the pieces of a spread. -/
def visitAttribute (visitor : Visitor State) (state : State) : Attribute → State
  | .named _ value => visit visitor state value
  | .spread pieces => visitAll visitor state pieces

/-- Visits attributes in turn. -/
def visitAttributes (visitor : Visitor State) (state : State) : List Attribute → State
  | [] => state
  | first :: rest => visitAttributes visitor (visitAttribute visitor state first) rest

end

/-- The visitor that works on the first part of a pair. -/
def onFirst (visitor : Visitor State) : Visitor (State × Other) where
  enter node pair :=
    let entered := visitor.enter node pair.1
    (entered.1, entered.2, pair.2)
  leave node pair := (visitor.leave node pair.1, pair.2)

/-- The visitor that works on the second part of a pair. -/
def onSecond (visitor : Visitor State) : Visitor (Other × State) where
  enter node pair :=
    let entered := visitor.enter node pair.2
    (entered.1, pair.1, entered.2)
  leave node pair := (pair.1, visitor.leave node pair.2)

/-- What a node is called in an outline. -/
def label : Node → String
  | .text content => "Text " ++ content
  | .expression content => "Expression " ++ content
  | .declaration content => "Declaration " ++ content
  | .group pieces => "ExpressionGroup " ++ toString pieces.length
  | .element name _ _ => "XmlNode " ++ name

/-- The visitor that notes every node it enters or leaves, newest note first, and
declines what lies below the nodes whose labels are given. -/
def outline (declined : List String) : Visitor (List String) where
  enter node notes := (!declined.contains (label node), ("enter " ++ label node) :: notes)
  leave node notes := ("exit " ++ label node) :: notes

end Visitor

/-- Walks through the whole template with several visitors, one after the other. -/
def Template.walk {State : Type} (template : Template) (visitors : List (Visitor State))
    (state : State) : State :=
  visitors.foldl (fun state visitor => visitor.visitAll state template.children) state

end MarkupTemplate
