/-!
# Context values

Named values are shared with everything rendered inside a component. Each
component has a frame of its own on a stack, and a name is looked up from the
innermost frame outwards.
-/

namespace MarkupTemplate

/-- The values bound in one frame. -/
abbrev ContextFrame (α : Type) := List (String × α)

/-- Binds a name in a frame. An earlier binding of it is replaced. -/
def ContextFrame.bind {α : Type} (frame : ContextFrame α) (name : String) (value : α) :
    ContextFrame α :=
  (name, value) :: frame.filter (·.1 != name)

/-- The frames in use, innermost first. -/
structure ContextStack (α : Type) where
  frames : List (ContextFrame α) := []
deriving DecidableEq, Repr, Inhabited

namespace ContextStack

variable {α : Type}

/-- Adds a frame without bindings. -/
def push (stack : ContextStack α) : ContextStack α := ⟨[] :: stack.frames⟩

/-- Drops the innermost frame, if there is one. -/
def pop (stack : ContextStack α) : ContextStack α := ⟨stack.frames.tail⟩

/-- The number of frames. -/
def depth (stack : ContextStack α) : Nat := stack.frames.length

/-- Binds a name in the innermost frame. Where there is none, one is added. -/
def create (stack : ContextStack α) (name : String) (value : α) : ContextStack α :=
  match stack.frames with
  | [] => ⟨[[(name, value)]]⟩
  | frame :: outer => ⟨frame.bind name value :: outer⟩

/-- The nearest binding of a name. -/
def use? (stack : ContextStack α) (name : String) : Option α :=
  stack.frames.findSome? (·.lookup name)

end ContextStack
end MarkupTemplate
