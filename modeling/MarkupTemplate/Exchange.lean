import MarkupTemplate.Compile
import MarkupTemplate.Json.Printer

/-!
# Exchanging tokens, templates and results

Tokens, templates and results of compilation as JSON, and options of compilation
from JSON. Fields are written in the order given here.
-/

namespace MarkupTemplate

/-- A place as JSON. -/
def Position.json (position : Position) : Json :=
  .object [("byte", .nat position.byte), ("line", .nat position.line),
    ("col", .nat position.col)]

/-- A stretch as JSON. -/
def Span.json (span : Span) : Json :=
  .object [("start", span.start.json), ("end", span.stop.json)]

/-- The name of a kind of token. -/
def TokenKind.name : TokenKind → String
  | text => "Text"
  | tagOpen => "TagOpen"
  | tagClose => "TagClose"
  | tagEnd => "TagEnd"
  | tagSelfClose => "TagSelfClose"
  | tagName => "TagName"
  | attrName => "AttrName"
  | attrEquals => "AttrEquals"
  | stringLiteral => "StringLiteral"
  | expressionStart => "ExpressionStart"
  | expression => "Expression"
  | expressionEnd => "ExpressionEnd"
  | spreadStart => "SpreadStart"
  | declaration => "Declaration"
  | eof => "Eof"

/-- A token as JSON. -/
def Token.json (token : Token) : Json :=
  .object [("kind", .text token.kind.name), ("value", .text token.value),
    ("span", token.span.json)]

mutual

/-- A node as JSON. -/
def Node.json : Node → Json
  | .text content => .object [("type", .text "Text"), ("content", .text content)]
  | .expression content => .object [("type", .text "Expression"), ("content", .text content)]
  | .declaration content => .object [("type", .text "Declaration"), ("content", .text content)]
  | .group pieces =>
      .object [("type", .text "ExpressionGroup"), ("statements", .list (Node.jsonAll pieces))]
  | .element name attributes children =>
      .object [("type", .text "XmlNode"), ("name", .text name),
        ("attrs", .list (Attribute.jsonAll attributes)),
        ("children", .list (Node.jsonAll children))]

/-- Nodes as JSON. -/
def Node.jsonAll : List Node → List Json
  | [] => []
  | node :: nodes => node.json :: Node.jsonAll nodes

/-- An attribute as JSON. -/
def Attribute.json : Attribute → Json
  | .named name value =>
      .object [("type", .text "Named"), ("name", .text name), ("value", value.json)]
  | .spread pieces =>
      .object [("type", .text "Spread"), ("statements", .list (Node.jsonAll pieces))]

/-- Attributes as JSON. -/
def Attribute.jsonAll : List Attribute → List Json
  | [] => []
  | first :: rest => first.json :: Attribute.jsonAll rest

end

/-- A template as JSON. -/
def Template.json (template : Template) : Json :=
  .object [("children", .list (Node.jsonAll template.children))]

/-- What a template uses as JSON. -/
def Metadata.json (metadata : Metadata) : Json :=
  .object [("components", .texts metadata.components.names),
    ("elements", .texts metadata.elements.names),
    ("declarations", .nat metadata.declarations), ("spreads", .nat metadata.spreads)]

/-- A result of compilation as JSON. -/
def Compiled.json (compiled : Compiled) : Json :=
  .object [("code", .text compiled.code), ("metadata", compiled.metadata.json)]

namespace Script.Options

/-- Options as JSON. -/
def json (options : Options) : Json :=
  .object [("buffer_class", .text options.bufferClass), ("tag_helper", .text options.tagHelper),
    ("prelude", .bool options.prelude)]

/-- A text option, which has its default where it is absent. -/
def textOr (default : String) : Option Json → Option String
  | none => some default
  | some (.text value) => some value
  | some _ => none

/-- A switch, which has its default where it is absent. -/
def boolOr (default : Bool) : Option Json → Option Bool
  | none => some default
  | some (.bool value) => some value
  | some _ => none

/-- Options from their three parts. -/
def ofParts? (bufferClass tagHelper prelude : Option Json) : Option Options := do
  let defaults : Options := {}
  return {
    bufferClass := ← textOr defaults.bufferClass bufferClass
    tagHelper := ← textOr defaults.tagHelper tagHelper
    prelude := ← boolOr defaults.prelude prelude }

/-- Options from an object, of which unknown fields are ignored, or from a list
of at most three parts. -/
def ofJson? : Json → Option Options
  | .object fields =>
      ofParts? (fields.lookup "buffer_class") (fields.lookup "tag_helper")
        (fields.lookup "prelude")
  | .list items => if items.length ≤ 3 then ofParts? items[0]? items[1]? items[2]? else none
  | _ => none

end Script.Options
end MarkupTemplate
