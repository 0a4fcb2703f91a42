/-!
# Escaping text for markup

Five characters have a meaning in markup and are written as entities.
-/

namespace MarkupTemplate

/-- How a character of plain text is written in markup. -/
def entity (character : Char) : List Char :=
  match character with
  | '&' => ['&', 'a', 'm', 'p', ';']
  | '<' => ['&', 'l', 't', ';']
  | '>' => ['&', 'g', 't', ';']
  | '"' => ['&', 'q', 'u', 'o', 't', ';']
  | '\'' => ['&', '#', '3', '9', ';']
  | other => [other]

/-- Plain text as it is written in markup. -/
def escapeMarkup (text : String) : String :=
  String.ofList (text.toList.flatMap entity)

end MarkupTemplate
