import MarkupTemplate.Component.Rendering
import MarkupTemplate.Text.Visible

/-!
# Describing the state of rendering

One-line descriptions of the registered components and of the bound context
values, for people who look into a running program.
-/

namespace MarkupTemplate

/-- A text between quotes, with hidden characters written as their code points. -/
def describeText (text : String) : String :=
  "\"" ++ String.ofList (text.toList.flatMap shown) ++ "\""
where
  /-- How a character is shown. -/
  shown (character : Char) : List Char :=
    match character with
    | '"' => ['\\', '"']
    | '\\' => ['\\', '\\']
    | '\n' => ['\\', 'n']
    | '\r' => ['\\', 'r']
    | '\t' => ['\\', 't']
    | '\x00' => ['\\', '0']
    | other =>
        if Text.isVisible other then [other]
        else ['\\', 'u', '{'] ++ Nat.toDigits 16 other.toNat ++ ['}']

/-- Descriptions between brackets. -/
def describeList (descriptions : List String) : String :=
  "[" ++ ", ".intercalate descriptions ++ "]"

/-- Named descriptions between braces. -/
def describeEntries (entries : List (String × String)) : String :=
  "\x7b" ++ ", ".intercalate (entries.map fun (name, description) =>
    describeText name ++ ": " ++ description) ++ "\x7d"

mutual

/-- A value under the name of its type. -/
def Json.describe : Json → String
  | .null => "Null"
  | .bool value => if value then "Bool(true)" else "Bool(false)"
  | .number value => "Number(" ++ value.render ++ ")"
  | .text value => "String(" ++ describeText value ++ ")"
  | .list items => "Array " ++ describeList (describeItems items)
  | .object fields => "Object " ++ describeEntries (describeFields fields)

/-- The descriptions of items. -/
def Json.describeItems : List Json → List String
  | [] => []
  | item :: items => item.describe :: describeItems items

/-- The descriptions of fields. -/
def Json.describeFields : List (String × Json) → List (String × String)
  | [] => []
  | (name, value) :: fields => (name, value.describe) :: describeFields fields

end

/-- The registered names. -/
def Registry.describe {α : Type} (registry : Registry α) : String :=
  "ComponentRegistry \x7b components: " ++ describeList (registry.names.map describeText)
    ++ " \x7d"

/-- The bindings of every frame, outermost frame first. -/
def ContextStack.describe (contexts : Contexts) : String :=
  "ContextStack \x7b frames: "
    ++ describeList (contexts.frames.reverse.map fun frame =>
      describeEntries (frame.map fun (name, value) => (name, value.describe)))
    ++ " \x7d"

/-- The registered names and the bindings of every frame. -/
def Stage.describe (stage : Stage) (contexts : Contexts) : String :=
  "Runtime \x7b registry: " ++ stage.registry.describe ++ ", contexts: "
    ++ contexts.describe ++ " \x7d"

end MarkupTemplate
