/-!
# String literals of generated code

Text is written as a double-quoted literal in which a hash sign cannot start an
interpolation.
-/

namespace MarkupTemplate.Script

/-- Whether a hash sign directly before this character would interpolate. -/
def interpolates (character : Char) : Bool :=
  character == '{' || character == '@' || character == '$'

/-- How one character is written in a literal, given the character after it. -/
def escapeOne (character : Char) (next : Option Char) : List Char :=
  match character with
  | '\\' => ['\\', '\\']
  | '"' => ['\\', '"']
  | '\n' => ['\\', 'n']
  | '\r' => ['\\', 'r']
  | '\t' => ['\\', 't']
  | '#' => if next.any interpolates then ['\\', '#'] else ['#']
  | other => [other]

/-- How characters are written in a literal. -/
def escapeAll : List Char → List Char
  | [] => []
  | character :: rest => escapeOne character rest.head? ++ escapeAll rest

/-- Text as it stands between the quotes of a literal. -/
def escape (text : String) : String := String.ofList (escapeAll text.toList)

/-- The literal that denotes a text. -/
def literal (text : String) : String := "\"" ++ escape text ++ "\""

end MarkupTemplate.Script
