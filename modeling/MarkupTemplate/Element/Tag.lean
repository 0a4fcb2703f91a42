import MarkupTemplate.Content.Buffer
import MarkupTemplate.Json.Printer

/-!
# Elements as markup

The markup of an element is its opening tag with the attributes that its
properties prescribe, its content and its closing tag. Void elements have
neither content nor closing tag.
-/

namespace MarkupTemplate

/-- Named values, in ascending order of their names. -/
abbrev Props := List (String × Json)

/-- The plain text of a value: a text itself, anything else as compact JSON. -/
def Json.plainText : Json → String
  | .text value => value
  | other => other.compact

namespace Element

/-- The elements without content and closing tag. -/
def voidNames : List String :=
  ["area", "base", "br", "col", "embed", "hr", "img", "input", "link", "meta", "param",
    "source", "track", "wbr"]

/-- Whether a tag names a void element, in whatever case it is written. -/
def isVoid (tag : String) : Bool :=
  voidNames.contains (String.ofList (tag.toList.map Char.toLower))

/-- Whether an object under this name stands for several attributes. -/
def isPrefixed (name : String) : Bool :=
  name == "data" || name == "aria"

/-- A name with dashes for underscores. -/
def dashed (name : String) : String :=
  String.ofList (name.toList.map fun character => if character = '_' then '-' else character)

/-- An attribute with a value. -/
def pair (name value : String) : String :=
  " " ++ name ++ "=\"" ++ escapeMarkup value ++ "\""

/-- Whether a value leaves an attribute or an item out. -/
def isAbsent : Json → Bool
  | .null => true
  | .bool value => !value
  | _ => false

/-- The attribute that a value prescribes: none for null and false, a bare name
for true, and the items of a list separated by spaces. -/
def attributeOf (name : String) : Json → String
  | .null => ""
  | .bool value => if value then " " ++ name else ""
  | .list items =>
      pair name (" ".intercalate ((items.filter (!isAbsent ·)).map Json.plainText))
  | value => pair name value.plainText

/-- The attributes that a property prescribes. An object under a prefixed name
stands for one attribute per field. The names of these contain a dash, so that
objects below them are not expanded any further. -/
def property (name : String) (value : Json) : String :=
  match value with
  | .object fields =>
      if isPrefixed name then
        String.join (fields.map fun (key, nested) =>
          attributeOf (name ++ "-" ++ dashed key) nested)
      else attributeOf name value
  | _ => attributeOf name value

/-- The opening tag of an element. -/
def openingTag (tag : String) (props : Props) : String :=
  "<" ++ tag ++ String.join (props.map fun (key, value) => property (dashed key) value) ++ ">"

/-- The markup of an element. -/
def build (name : String) (props : Props) (content : Option Markup) : Markup :=
  let tag := dashed name
  if isVoid tag then ⟨openingTag tag props⟩
  else ⟨openingTag tag props ++ (content.elim "" (·.html)) ++ "</" ++ tag ++ ">"⟩

end Element
end MarkupTemplate
