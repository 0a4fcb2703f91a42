/-!
# Lines of a text

A line ends at a line feed, and a carriage return directly before that line
feed belongs to the line end. A text that ends in a line feed has no further,
empty line.
-/

namespace MarkupTemplate.Text

/-- Drops one carriage return from the end of a line given last character
first, and puts the line in reading order. -/
def endLine : List Char → List Char
  | '\r' :: line => line.reverse
  | line => line.reverse

/-- The lines of the text that remains, where `line` holds the characters of the
current line, last character first. -/
def linesAfter (line : List Char) : List Char → List (List Char)
  | [] => if line.isEmpty then [] else [line.reverse]
  | '\n' :: rest => endLine line :: linesAfter [] rest
  | character :: rest => linesAfter (character :: line) rest

/-- The lines of a text, without their line ends. -/
def lines (text : String) : List String :=
  (linesAfter [] text.toList).map String.ofList

end MarkupTemplate.Text
