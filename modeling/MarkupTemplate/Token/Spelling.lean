import MarkupTemplate.Text.Alphanumeric
import MarkupTemplate.Text.Blank

/-!
# How constructs are spelled

The characters that names are made of, what a `<` or a brace stands for where
it is met, and where embedded code makes room for markup.
-/

namespace MarkupTemplate.Spelling

open Text

/-- The characters of a tag name. -/
def isTagNameChar (character : Char) : Bool :=
  character.isAlphanum || character == '_' || character == '-' || character == '.'

/-- The characters an attribute name may start with. -/
def isAttrNameStart (character : Char) : Bool :=
  character.isAlpha || character == '_' || character == '@' || character == ':'

/-- The characters of an attribute name. -/
def isAttrNameChar (character : Char) : Bool :=
  character.isAlphanum || character == '_' || character == '-' || character == ':'
    || character == '@' || character == '.'

/-- Whether the dots of a tag name each stand between two segments. -/
def isCompoundName : List Char → Bool
  | [] => true
  | ['.'] => false
  | '.' :: '.' :: _ => false
  | _ :: rest => isCompoundName rest

/-- The characters that a backslash makes literal in text. -/
def isEscapable (character : Char) : Bool :=
  character == '{' || character == '}' || character == '<'

/-- Whether a tag is opened here: a `<` directly before a letter. -/
def opensTag : List Char → Bool
  | '<' :: character :: _ => character.isAlpha
  | _ => false

/-- Whether a tag is closed here: a `</` directly before a letter. -/
def closesTag : List Char → Bool
  | '<' :: '/' :: character :: _ => character.isAlpha
  | _ => false

/-- The marks that quote a string in embedded code. -/
def isQuote (character : Char) : Bool :=
  character == '"' || character == '\'' || character == '\x60'

/-- The quote that is open after a character, given the one open before it. A
quote is closed by its own mark only. -/
def quoteAfter (quote : Option Char) (character : Char) : Option Char :=
  match quote with
  | some mark => if character = mark then none else some mark
  | none => if isQuote character then some character else none

/-- The characters after which code expects a value. -/
def markupPreceders : List Char :=
  ['(', '[', '{', ',', '|', '?', ':', '=', '&', '!', '>', ';']

/-- The words after which code expects a value. -/
def markupKeywords : List String :=
  ["do", "then", "else", "return", "and", "or"]

/-- The characters of a word of code. -/
def isWordChar (character : Char) : Bool :=
  isAlphanumeric character || character == '_'

/-- Whether a `<` after this code opens markup rather than comparing two values.
The code is given last character first. -/
def startsMarkup (code : List Char) : Bool :=
  match code.dropWhile isBlank with
  | [] => true
  | last :: before =>
      markupPreceders.contains last
        || markupKeywords.contains
          (String.ofList ((last :: before).takeWhile isWordChar).reverse)

/-- Cuts the source after `{%` at the `%}` that is outside quotes: the characters
in front of it, and what follows it. The characters already passed are given
last first. -/
def cutDeclaration (passed : List Char) (quote : Option Char) :
    List Char → Option (List Char × List Char)
  | [] => none
  | '\\' :: escaped :: rest =>
      match quote with
      | some _ => cutDeclaration (escaped :: '\\' :: passed) quote rest
      | none => cutDeclaration ('\\' :: passed) none (escaped :: rest)
  | '%' :: '}' :: rest =>
      match quote with
      | some _ => cutDeclaration ('%' :: passed) quote ('}' :: rest)
      | none => some (passed.reverse, rest)
  | character :: rest =>
      cutDeclaration (character :: passed) (quoteAfter quote character) rest

end MarkupTemplate.Spelling
