import MarkupTemplate.Source.Position

/-!
# Diagnostics

A diagnostic is what a template's author is told about one mistake: its kind,
a message, the offending stretch of source, perhaps a second stretch with a
label of its own, and perhaps advice.
-/

namespace MarkupTemplate

namespace Diagnostic

/-- What kind of mistake a diagnostic reports. -/
inductive Kind where
  | unterminatedExpression
  | unterminatedDeclaration
  | unterminatedString
  | unterminatedTag
  | invalidTagName
  | unclosedTag
  | mismatchedCloseTag
  | unexpectedCloseTag
  | malformedAttribute
  | duplicateAttribute
  | unexpectedToken
  | nestingTooDeep
deriving DecidableEq, Repr

/-- Whether a mistake lies in the spelling of one construct or in how constructs
stand to each other. -/
inductive Category where
  | lexical
  | structural
deriving DecidableEq, Repr

namespace Kind

/-- Every kind of mistake. -/
def all : List Kind :=
  [unterminatedExpression, unterminatedDeclaration, unterminatedString, unterminatedTag,
    invalidTagName, unclosedTag, mismatchedCloseTag, unexpectedCloseTag, malformedAttribute,
    duplicateAttribute, unexpectedToken, nestingTooDeep]

/-- The title under which a kind of mistake is reported. -/
def title : Kind → String
  | unterminatedExpression => "Unterminated expression"
  | unterminatedDeclaration => "Unterminated declaration"
  | unterminatedString => "Unterminated string"
  | unterminatedTag => "Unterminated tag"
  | invalidTagName => "Invalid tag name"
  | unclosedTag => "Unclosed tag"
  | mismatchedCloseTag => "Mismatched close tag"
  | unexpectedCloseTag => "Unexpected close tag"
  | malformedAttribute => "Malformed attribute"
  | duplicateAttribute => "Duplicate attribute"
  | unexpectedToken => "Unexpected token"
  | nestingTooDeep => "Nesting too deep"

/-- Unfinished constructs and bad names are lexical; the rest is structural. -/
def category : Kind → Category
  | unterminatedExpression | unterminatedDeclaration | unterminatedString | unterminatedTag
  | invalidTagName => .lexical
  | unclosedTag | mismatchedCloseTag | unexpectedCloseTag | malformedAttribute
  | duplicateAttribute | unexpectedToken | nestingTooDeep => .structural

end Kind
end Diagnostic

/-- A report of one mistake in a template. -/
structure Diagnostic where
  kind : Diagnostic.Kind
  message : String
  span : Span := {}
  related : Option Span := none
  label : Option String := none
  help : Option String := none
deriving DecidableEq, Repr

end MarkupTemplate
