import MarkupTemplate.Source.Position

/-!
# Tokens

A template is read as a sequence of tokens, each a kind, a value and the
stretch of source it was read from. The value of a text or expression token
need not be its source verbatim: escapes are resolved, and the white space
around an embedded expression is dropped.
-/

namespace MarkupTemplate

/-- The kinds of tokens. -/
inductive TokenKind where
  | text
  | tagOpen
  | tagClose
  | tagEnd
  | tagSelfClose
  | tagName
  | attrName
  | attrEquals
  | stringLiteral
  | expressionStart
  | expression
  | expressionEnd
  | spreadStart
  | declaration
  | eof
deriving DecidableEq, Repr

namespace TokenKind

/-- Every kind of token. -/
def all : List TokenKind :=
  [text, tagOpen, tagClose, tagEnd, tagSelfClose, tagName, attrName, attrEquals, stringLiteral,
    expressionStart, expression, expressionEnd, spreadStart, declaration, eof]

/-- How a kind of token is called in a message. -/
def describe : TokenKind → String
  | text => "text"
  | tagOpen => "'<'"
  | tagClose => "'</'"
  | tagEnd => "'>'"
  | tagSelfClose => "'/>'"
  | tagName => "a tag name"
  | attrName => "an attribute name"
  | attrEquals => "'='"
  | stringLiteral => "a quoted string"
  | expressionStart => "'\x7b'"
  | expression => "an expression"
  | expressionEnd => "'\x7d'"
  | spreadStart => "'\x7b...'"
  | declaration => "a \x7b% declaration %\x7d"
  | eof => "end of input"

end TokenKind

/-- A token of a template. -/
structure Token where
  kind : TokenKind
  value : String
  span : Span := {}
deriving DecidableEq, Repr

end MarkupTemplate
