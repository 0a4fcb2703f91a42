import MarkupTemplate.Text.Entries

/-!
# Registered components

A component is found under the name it has in templates and under the name of
the method that generated code calls: two underscores stand for a dot.
-/

namespace MarkupTemplate

/-- Writes every two underscores as a dot, from left to right. -/
def dotUnderscores : List Char → List Char
  | '_' :: '_' :: rest => '.' :: dotUnderscores rest
  | character :: rest => character :: dotUnderscores rest
  | [] => []

/-- The name under which a component is kept. -/
def registryKey (name : String) : String := String.ofList (dotUnderscores name.toList)

/-- Components by name, in ascending order of their keys. -/
structure Registry (α : Type) where
  entries : List (String × α) := []
deriving Repr, Inhabited

namespace Registry

variable {α : Type}

/-- Registers a component. One of the same key is replaced. -/
def register (registry : Registry α) (name : String) (component : α) : Registry α :=
  ⟨insertEntry (registryKey name) component registry.entries⟩

/-- The component of a name. -/
def get? (registry : Registry α) (name : String) : Option α :=
  registry.entries.lookup (registryKey name)

/-- Whether there is a component of a name. -/
def contains (registry : Registry α) (name : String) : Bool :=
  (registry.get? name).isSome

/-- The registered names in ascending order, as they are written in templates. -/
def names (registry : Registry α) : List String := registry.entries.map (·.1)

/-- The number of components. -/
def size (registry : Registry α) : Nat := registry.entries.length

end Registry
end MarkupTemplate
