import MarkupTemplate.Template.Basic
import MarkupTemplate.Token.Spelling

/-!
# Writing templates

A template is written as a source that spells it. Braces and `<` in text are
escaped, expressions and declarations stand between spaces, and an empty
expression keeps two texts apart.
-/

namespace MarkupTemplate

/-- Text as it is written: a backslash in front of every brace and every `<`. -/
def Spelling.escape (characters : List Char) : List Char :=
  characters.flatMap fun character =>
    if isEscapable character then ['\\', character] else [character]

/-- The mark that quotes a value. -/
def Spelling.quoteFor (value : List Char) : Char :=
  if '"' ∈ value then '\'' else '"'

/-- Whether a node is text. -/
def Node.isText : Node → Bool
  | .text _ => true
  | _ => false

/-- What is written between a node and those behind it: two texts in a row are
kept apart. -/
def Node.separator (node : Node) (following : List Node) : List Char :=
  if node.isText && following.head?.any Node.isText then ['{', '}'] else []

mutual

/-- A node as it is written among children. -/
def Node.print : Node → List Char
  | .text content => Spelling.escape content.toList
  | .expression content => '{' :: ' ' :: (content.toList ++ [' ', '}'])
  | .declaration content => '{' :: '%' :: ' ' :: (content.toList ++ [' ', '%', '}'])
  | .group pieces => '{' :: ' ' :: (Node.printPieces pieces ++ [' ', '}'])
  | .element name attributes children =>
      '<' :: (name.toList ++ Attribute.printAll attributes ++
        if children.isEmpty then [' ', '/', '>']
        else '>' :: (Node.printChildren children ++ '<' :: '/' :: (name.toList ++ ['>'])))

/-- Children as they are written. -/
def Node.printChildren : List Node → List Char
  | [] => []
  | node :: nodes => node.print ++ node.separator nodes ++ Node.printChildren nodes

/-- The pieces of an expression as they are written. -/
def Node.printPieces : List Node → List Char
  | [] => []
  | .expression content :: nodes => content.toList ++ Node.printPieces nodes
  | node :: nodes => node.print ++ Node.printPieces nodes

/-- An attribute as it is written, with a space in front. -/
def Attribute.print : Attribute → List Char
  | .named name (.text content) =>
      ' ' :: (name.toList ++ '=' :: Spelling.quoteFor content.toList ::
        (content.toList ++ [Spelling.quoteFor content.toList]))
  | .named name value => ' ' :: (name.toList ++ '=' :: value.print)
  | .spread pieces =>
      ' ' :: '{' :: '.' :: '.' :: '.' :: ' ' :: (Node.printPieces pieces ++ [' ', '}'])

/-- Attributes as they are written. -/
def Attribute.printAll : List Attribute → List Char
  | [] => []
  | first :: rest => first.print ++ Attribute.printAll rest

end

/-- The source that a template is written as. -/
def Template.print (template : Template) : String :=
  String.ofList (Node.printChildren template.children)

example : (Template.mk [.text "a<", .text "b", .expression "c"]).print = "a\\<\x7b\x7db\x7b c \x7d" := by
  rfl

end MarkupTemplate
