import MarkupTemplate.Content.Buffer
import MarkupTemplate.Element.Tag

/-!
# What component bodies are made of

A body is a list of operations, each of which appends something to the output,
binds a context value, or fails. Content that is handed to a tag is deferred: it
is rendered when, and as often as, the receiver asks for it, with the properties
and the content of the component in which it is written.
-/

namespace MarkupTemplate

mutual

/-- One operation of a body. -/
inductive Operation where
  /-- Renders the content that the component received. -/
  | place
  /-- Appends the number of context frames. -/
  | depth
  /-- Calls a tag. -/
  | tag (name : String) (props : Props) (supply : Supply)
  /-- Binds a context value. -/
  | provide (name : String) (value : Json)
  /-- Binds a property, or null without it, as a context value. -/
  | provideProp (name : String)
  /-- Appends a context value. -/
  | use (name : String)
  /-- Appends a property, or nothing without it. -/
  | prop (name : String)
  /-- Fails with a message of the host program. -/
  | fail (message : String)
  /-- Aborts the host program's step. -/
  | abort
  /-- Renders a list of operations; a failure becomes text. -/
  | attempt (body : List Operation)
  /-- Appends a content. -/
  | append (content : Content)
deriving Repr

/-- The content that a tag call hands over. -/
inductive Supply where
  | nothing
  /-- The content that the calling component received. -/
  | forwarded
  | block (body : List Operation)
deriving Repr

end

instance : Inhabited Operation := ⟨.place⟩

/-- Content whose rendering is deferred, with the properties and the content of
the component in which it is written. -/
inductive Deferred where
  | mk (body : List Operation) (props : Props) (content : Option Deferred)
deriving Repr

/-- The properties and the content of the component in which an operation is
written. At the top there are none. -/
structure Surroundings where
  props : Props := []
  content : Option Deferred := none
deriving Repr

/-- The deferred content that a call made in these surroundings hands over. -/
def Surroundings.supplied (surroundings : Surroundings) : Supply → Option Deferred
  | .nothing => none
  | .forwarded => surroundings.content
  | .block body => some (.mk body surroundings.props surroundings.content)

/-- Why rendering fails. -/
inductive RenderError where
  | contextNotFound (name : String)
  | unknownComponent (name : String)
  | host (message : String)
deriving DecidableEq, Repr

/-- The message that states why rendering fails. -/
def RenderError.message : RenderError → String
  | contextNotFound name => "no parent context `" ++ name ++ "`"
  | unknownComponent name => "no component registered as `" ++ name ++ "`"
  | host message => message

/-- How rendering ends. -/
inductive Outcome (α : Type) where
  | done (value : α)
  | failed (error : RenderError)
  /-- The host program's step was aborted. -/
  | aborted
  /-- Calls were nested deeper than was allowed for. -/
  | tooDeep
deriving DecidableEq, Repr

/-- Applies a function to the value of an outcome. -/
def Outcome.map {α β : Type} (convert : α → β) : Outcome α → Outcome β
  | done value => .done (convert value)
  | failed error => .failed error
  | aborted => .aborted
  | tooDeep => .tooDeep

end MarkupTemplate
