import MarkupTemplate.Component.Context
import MarkupTemplate.Component.Operation
import MarkupTemplate.Component.Registry

/-!
# Rendering components

Rendering threads a stack of context values through all operations. A component
renders in a frame of its own, which is dropped however the rendering ends. An
element renders its content first, among the contexts of its caller.

Components may call each other without end, so the depth of nested calls is
bounded by an argument. An ending other than `tooDeep` does not depend on it.
-/

namespace MarkupTemplate

/-- The context values at hand while rendering. -/
abbrev Contexts := ContextStack Json

/-- How the markup of an element is made from its name, properties and content. -/
abbrev ElementBuilder := String → Props → Option Markup → Markup

/-- What rendering needs to know and never changes. -/
structure Stage where
  registry : Registry (List Operation) := {}
  builder : ElementBuilder := Element.build

/-- Whether a tag call names a component: its name is capitalised or compound. -/
def isComponentCall (name : String) : Bool :=
  name.toList.head?.any Char.isUpper || name.toList.contains '.'
    || hasDoubleUnderscore name.toList
where
  /-- Whether two underscores stand next to each other. -/
  hasDoubleUnderscore : List Char → Bool
    | '_' :: '_' :: _ => true
    | _ :: rest => hasDoubleUnderscore rest
    | [] => false

/-- A way to render operations in some surroundings. It gives the outcome and the
contexts that are left. -/
abbrev Rendering := Surroundings → List Operation → Contexts → Outcome Markup × Contexts

namespace Rendering

/-- Renders deferred content in the surroundings where it is written. -/
def deferred (render : Rendering) : Deferred → Contexts → Outcome Markup × Contexts
  | .mk body props content => render ⟨props, content⟩ body

/-- Calls a component or builds an element. -/
def call (render : Rendering) (stage : Stage) (name : String) (props : Props)
    (content : Option Deferred) (contexts : Contexts) : Outcome Markup × Contexts :=
  if isComponentCall name then
    match stage.registry.get? name with
    | none => (.failed (.unknownComponent name), contexts)
    | some body =>
        let (outcome, left) := render ⟨props, content⟩ body contexts.push
        (outcome, left.pop)
  else
    match content with
    | none => (.done (stage.builder name props none), contexts)
    | some content =>
        let (outcome, left) := render.deferred content contexts
        (outcome.map fun markup => stage.builder name props (some markup), left)

/-- What an operation appends, and the contexts it leaves. -/
def perform (render : Rendering) (stage : Stage) (surroundings : Surroundings)
    (contexts : Contexts) : Operation → Outcome Content × Contexts
  | .place =>
      match surroundings.content with
      | none => (.done .empty, contexts)
      | some content =>
          let (outcome, left) := render.deferred content contexts
          (outcome.map .safe, left)
  | .depth => (.done (.text (toString contexts.depth)), contexts)
  | .tag name props supply =>
      let (outcome, left) :=
        render.call stage name props (surroundings.supplied supply) contexts
      (outcome.map .safe, left)
  | .provide name value => (.done .empty, contexts.create name value)
  | .provideProp name =>
      (.done .empty, contexts.create name ((surroundings.props.lookup name).getD .null))
  | .use name =>
      match contexts.use? name with
      | some value => (.done (.ofText value.plainText), contexts)
      | none => (.failed (.contextNotFound name), contexts)
  | .prop name =>
      (.done ((surroundings.props.lookup name).elim .empty fun value =>
        .ofText value.plainText), contexts)
  | .fail message => (.failed (.host message), contexts)
  | .abort => (.aborted, contexts)
  | .attempt body =>
      match render surroundings body contexts with
      | (.failed error, left) => (.done (.text ("[" ++ error.message ++ "]")), left)
      | (outcome, left) => (outcome.map .safe, left)
  | .append content => (.done content, contexts)

/-- Performs operations in turn and appends to a buffer, until one of them does
not end well. -/
def performAll (render : Rendering) (stage : Stage) (surroundings : Surroundings)
    (buffer : Buffer) (contexts : Contexts) :
    List Operation → Outcome Markup × Contexts
  | [] => (.done buffer.finish, contexts)
  | operation :: rest =>
      match render.perform stage surroundings contexts operation with
      | (.done content, left) =>
          performAll render stage surroundings (buffer.append content) left rest
      | (.failed error, left) => (.failed error, left)
      | (.aborted, left) => (.aborted, left)
      | (.tooDeep, left) => (.tooDeep, left)

end Rendering

namespace Stage

/-- Renders operations, with calls nested at most `limit` deep. -/
def render (stage : Stage) : Nat → Rendering
  | 0 => fun _ _ contexts => (.tooDeep, contexts)
  | limit + 1 => fun surroundings operations contexts =>
      (stage.render limit).performAll stage surroundings {} contexts operations

/-- The depth of nested calls that a step is allowed. -/
def callLimit : Nat := 10000

/-- Renders single operations at the top, one after the other, each from the
contexts that the one before it left. -/
def steps (stage : Stage) (contexts : Contexts) (operations : List Operation)
    (limit : Nat := callLimit) : List (Outcome Markup × Contexts) :=
  match operations with
  | [] => []
  | operation :: rest =>
      let (outcome, left) := stage.render limit {} [operation] contexts
      (outcome, left) :: steps stage left rest limit

end Stage
end MarkupTemplate
