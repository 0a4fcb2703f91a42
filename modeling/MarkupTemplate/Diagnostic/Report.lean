import MarkupTemplate.Diagnostic.Basic
import MarkupTemplate.Text.Lines

/-!
# Showing a diagnostic

A report names the place of the mistake, states it, shows each line concerned
with carets under the stretch meant, and ends with advice. In colour the same
characters are shown with escape sequences between them, and the place is a link
to the file.
-/

namespace MarkupTemplate

/-- Whether a report is for a plain stream or for a terminal with colours. -/
inductive Style where
  | plain
  | coloured
deriving DecidableEq, Repr

/-- The colours and weights that a report uses, and the return to normal. -/
inductive Ink where
  | error
  | faint
  | underline
  | advice
  | tag
  | brace
  | normal
deriving DecidableEq, Repr

/-- The escape sequence that switches to an ink. -/
def Ink.sequence : Ink → String
  | error => "\x1b[1;31m"
  | faint => "\x1b[2m"
  | underline => "\x1b[4m"
  | advice => "\x1b[1;38;5;73m"
  | tag => "\x1b[38;5;180m"
  | brace => "\x1b[38;5;72m"
  | normal => "\x1b[0m"

/-- How an ink is switched to: not at all on a plain stream. -/
def Style.ink (style : Style) (ink : Ink) : String :=
  match style with
  | .plain => ""
  | .coloured => ink.sequence

/-- `count` copies of a character. -/
def repeated (character : Char) (count : Nat) : String :=
  String.ofList (List.replicate count character)

/-- A text moved to the right end of a column. -/
def alignRight (width : Nat) (text : String) : String :=
  repeated ' ' (width - text.length) ++ text

/-- The characters that the name behind a highlighted `<` is made of. -/
def isHighlighted (character : Char) : Bool :=
  character.isAlphanum || character == '/' || character == '.' || character == '-'
    || character == '_'

/-- Colours tags and braces. `inName` tells whether the name behind a `<` is
being passed. -/
def highlightFrom (inName : Bool) : List Char → List Char
  | [] => if inName then Ink.normal.sequence.toList else []
  | character :: rest =>
      if inName && isHighlighted character then character :: highlightFrom true rest
      else
        (if inName then Ink.normal.sequence.toList else [])
          ++ if character = '<' ∧ rest.head?.any (fun next => next.isAlpha || next == '/') then
              Ink.tag.sequence.toList ++ '<' :: highlightFrom true rest
            else if character = '>' then
              Ink.tag.sequence.toList ++ '>' :: Ink.normal.sequence.toList
                ++ highlightFrom false rest
            else if character = '{' ∨ character = '}' then
              Ink.brace.sequence.toList ++ character :: Ink.normal.sequence.toList
                ++ highlightFrom false rest
            else character :: highlightFrom false rest

/-- A line of source as it is shown. -/
def Style.sourceLine (style : Style) (line : String) : String :=
  match style with
  | .plain => line
  | .coloured => String.ofList (highlightFrom false line.toList)

/-- The column in front of every shown line. -/
def Style.gutter (style : Style) (width : Nat) (text : String) : String :=
  style.ink .faint ++ alignRight width text ++ " |" ++ style.ink .normal

/-- The number of carets under a stretch: its width on its first line, and at
least one. -/
def Span.caretCount (span : Span) (line : String) : Nat :=
  max 1 ((if span.stop.line = span.start.line then span.stop.col else line.length)
    - span.start.col)

/-- A line of source with carets under a stretch of it. A stretch whose line does
not exist is not shown. -/
def Style.snippet (style : Style) (lines : List String) (width : Nat) (span : Span)
    (label : Option String) : String :=
  match lines[span.start.line]? with
  | none => ""
  | some line =>
      let carets := repeated '^' (span.caretCount line)
      style.gutter width (toString (span.start.line + 1)) ++ " " ++ style.sourceLine line ++ "\n"
        ++ style.gutter width "" ++ " " ++ repeated ' ' span.start.col
        ++ (match label with
          | some label => style.ink .faint ++ carets ++ " " ++ label
          | none => style.ink .error ++ carets)
        ++ style.ink .normal ++ "\n"

/-- The lines of advice. -/
def Style.advice (style : Style) (help : String) : String :=
  match Text.lines help with
  | [] => ""
  | first :: rest =>
      " " ++ style.ink .advice ++ "help:" ++ style.ink .normal ++ " " ++ first ++ "\n"
        ++ String.join (rest.map fun line => "       " ++ line ++ "\n")

namespace Diagnostic

/-- The place of the mistake, counted from one. -/
def location (diagnostic : Diagnostic) (filename : String) : String :=
  filename ++ ":" ++ toString (diagnostic.span.start.line + 1) ++ ":"
    ++ toString (diagnostic.span.start.col + 1)

/-- The line that names the place of the mistake. -/
def place (diagnostic : Diagnostic) (style : Style) (filename : String) : String :=
  match style with
  | .plain => " file: " ++ diagnostic.location filename ++ "\n"
  | .coloured =>
      " " ++ style.ink .faint ++ "file:" ++ style.ink .normal ++ " "
        ++ "\x1b]8;;file://" ++ filename ++ "\x07"
        ++ style.ink .underline ++ diagnostic.location filename ++ style.ink .normal
        ++ "\x1b]8;;\x07\n"

/-- The width of the line numbers, at least two. -/
def gutterWidth (diagnostic : Diagnostic) : Nat :=
  (diagnostic.span :: diagnostic.related.toList).foldl
    (fun width span => max width (toString (span.start.line + 1)).length) 2

/-- The stretches to show with their labels: the related one comes first where it
does not start after the mistake. -/
def stretches (diagnostic : Diagnostic) : List (Span × Option String) :=
  match diagnostic.related with
  | none => [(diagnostic.span, none)]
  | some related =>
      let labelled := (related, some (diagnostic.label.getD "opened here"))
      if related.start.byte ≤ diagnostic.span.start.byte then
        [labelled, (diagnostic.span, none)]
      else [(diagnostic.span, none), labelled]

/-- The report of a mistake in a source. -/
def render (diagnostic : Diagnostic) (style : Style) (source filename : String) : String :=
  let width := diagnostic.gutterWidth
  let lines := Text.lines source
  "\n" ++ diagnostic.place style filename
    ++ style.ink .error ++ "error[" ++ diagnostic.kind.title ++ "]:" ++ style.ink .normal ++ " "
    ++ diagnostic.message ++ "\n"
    ++ style.gutter width "" ++ "\n"
    ++ String.join (diagnostic.stretches.map fun (span, label) =>
        style.snippet lines width span label)
    ++ (match diagnostic.help with
      | some help => "\n" ++ style.advice help
      | none => "")
    ++ "\n"

end Diagnostic
end MarkupTemplate
