import MarkupTemplate.Script.Listing
import MarkupTemplate.Script.Name
import MarkupTemplate.Template.Basic
import MarkupTemplate.Text.Blank

/-!
# The code of a template

A template becomes a program that appends the value of each child to an output
buffer. An element becomes a call on the tag helper, and its children a block
that builds a buffer of its own.
-/

namespace MarkupTemplate.Script

/-- How code is generated. -/
structure Options where
  /-- The class of output buffers. -/
  bufferClass : String := "OutputBuffer"
  /-- The receiver of tag calls. -/
  tagHelper : String := "tag"
  /-- Whether the buffer class is defined first. -/
  prelude : Bool := false
deriving DecidableEq, Repr

/-- A declaration as it stands on its line. -/
def declarationText (content : String) : String :=
  String.ofList (Text.trim content.toList)

/-- A buffer that is built by the lines of `body`, from where the cursor stands.
The lines of the body are one level further in than `level`. -/
def buffer (options : Options) (level : Nat) (body : List Fragment) : List Fragment :=
  [.text options.bufferClass, .text ".new.tap do |output|", .lineEnd]
    ++ body
    ++ [.indent level, .text "end"]

/-- The block that hands a buffer to a call. -/
def block (options : Options) (level : Nat) (body : List Fragment) : List Fragment :=
  [.text " do", .lineEnd, .indent (level + 1)]
    ++ buffer options (level + 1) body
    ++ [.text ".html_safe", .lineEnd, .indent level, .text "end"]

/-- The line of a child, whose code is `code`. A declaration stands for itself,
and the value of anything else is appended to the buffer. -/
def childLine (level : Nat) (child : Node) (code : List Fragment) : List Fragment :=
  match child with
  | .declaration _ => .indent level :: code ++ [.lineEnd]
  | _ => .indent level :: .text "output << (" :: code ++ [.text ")", .lineEnd]

mutual

/-- The code of a node on a line that is indented by `level`. -/
def nodeCode (options : Options) (level : Nat) : Node → List Fragment
  | .text content => [.text (literal content)]
  | .expression content => [.text content]
  | .declaration content => [.text (declarationText content)]
  | .group pieces => piecesCode options level pieces
  | .element name attributes children =>
      [.text options.tagHelper, .text ".", .text (safeTagName name), .text "("]
        ++ attributesCode options level attributes
        ++ [.text ")"]
        ++ if children.isEmpty then []
          else block options level (childrenCode options (level + 2) children)

/-- The code of pieces, back to back. -/
def piecesCode (options : Options) (level : Nat) : List Node → List Fragment
  | [] => []
  | piece :: pieces => nodeCode options level piece ++ piecesCode options level pieces

/-- The code of one attribute. -/
def attributeCode (options : Options) (level : Nat) : Attribute → List Fragment
  | .named name value => [.text (attributeKey name), .text " "] ++ nodeCode options level value
  | .spread pieces => .text "**" :: piecesCode options level pieces

/-- The code of attributes, separated by commas. -/
def attributesCode (options : Options) (level : Nat) : List Attribute → List Fragment
  | [] => []
  | [last] => attributeCode options level last
  | first :: second :: rest =>
      attributeCode options level first ++ .text ", "
        :: attributesCode options level (second :: rest)

/-- The lines of children. -/
def childrenCode (options : Options) (level : Nat) : List Node → List Fragment
  | [] => []
  | child :: children =>
      childLine level child (nodeCode options level child)
        ++ childrenCode options level children

end

/-- The definition of the buffer class. -/
def preludeCode (options : Options) : List Fragment :=
  ["class " ++ options.bufferClass ++ " < String",
    "  def <<(content)",
    "    value = content.is_a?(Array) ? content.join : content",
    "    super(value.to_s)",
    "  end",
    "end",
    ""].flatMap fun line => [.text line, .lineEnd]

/-- The listing of the code of a template. -/
def listing (options : Options) (template : Template) : Listing :=
  .ofFragments ((if options.prelude then preludeCode options else [])
    ++ buffer options 0 (childrenCode options 1 template.children)
    ++ [.lineEnd])

/-- The code of a template. -/
def generate (options : Options) (template : Template) : String :=
  (listing options template).finish

end MarkupTemplate.Script
