import MarkupTemplate.Diagnostic.Basic
import MarkupTemplate.Token.Basic

/-!
# Faults

A fault is the cause of a rejected template together with the stretches of
source it concerns. Every message, label and piece of advice is worded here.
-/

namespace MarkupTemplate

/-- What was expected where a sequence of tokens went wrong. -/
inductive Expectation where
  | content
  | attributeValue
  | quotedOrExpression
  | attributeOrEnd
  | pieceOrEnd
  | kind (kind : TokenKind)
deriving DecidableEq, Repr

/-- How an expectation is called in a message. -/
def Expectation.describe : Expectation → String
  | content => "text, a tag or an \x7bexpression\x7d"
  | attributeValue => "an attribute value"
  | quotedOrExpression => "a quoted string or \x7bexpression\x7d"
  | attributeOrEnd => "an attribute, '>' or '/>'"
  | pieceOrEnd => "an expression or '\x7d'"
  | kind expected => expected.describe

/-- Why a template is rejected. The first group arises while source text is read
into tokens, the second while tokens are put together, the third in both. -/
inductive Cause where
  | unfinishedTag (name : String)
  | unfinishedCloseTag (name : String)
  | badTagName (name : String)
  | strayCharacter (character : Char) (tag : String)
  | missingValue (name : String)
  | openString (quote : Char)
  | bareExpression (tag : String)
  | openExpression
  | openDeclaration
  | crossedTags (opened closed : String)
  | tagCutShort (name : String)
  | expressionCutShort
  | crossedTokens (opened closed : String)
  | repeatedAttribute (name tag first key : String)
  | emptyValue (name : String)
  | emptySpread (tag : String)
  | unexpected (expected : Expectation) (found : Option TokenKind)
  | openTag (name : String)
  | strayCloseTag (name : String)
  | tooDeep (name : String)
deriving DecidableEq, Repr

/-- The greatest number of elements that may be open at once. -/
def maxNesting : Nat := 256

namespace Cause

/-- The kind under which a cause is reported. -/
def kind : Cause → Diagnostic.Kind
  | unfinishedTag _ | unfinishedCloseTag _ | tagCutShort _ => .unterminatedTag
  | badTagName _ => .invalidTagName
  | strayCharacter _ _ | missingValue _ | bareExpression _ | emptyValue _ | emptySpread _ =>
      .malformedAttribute
  | openString _ => .unterminatedString
  | openExpression | expressionCutShort => .unterminatedExpression
  | openDeclaration => .unterminatedDeclaration
  | crossedTags _ _ | crossedTokens _ _ => .mismatchedCloseTag
  | repeatedAttribute _ _ _ _ => .duplicateAttribute
  | unexpected _ _ => .unexpectedToken
  | openTag _ => .unclosedTag
  | strayCloseTag _ => .unexpectedCloseTag
  | tooDeep _ => .nestingTooDeep

/-- The message that states a cause. -/
def message : Cause → String
  | unfinishedTag name | tagCutShort name => "<" ++ name ++ "> is missing its closing '>'."
  | unfinishedCloseTag name => "</" ++ name ++ "> is missing its closing '>'."
  | badTagName name => "'" ++ name ++ "' is not a valid tag name."
  | strayCharacter character tag =>
      "Unexpected '" ++ character.toString ++ "' inside <" ++ tag ++ ">."
  | missingValue name => "Attribute '" ++ name ++ "' needs a value after '='."
  | openString _ => "This attribute value is never closed."
  | bareExpression tag =>
      "Only \x7b...spread\x7d expressions may appear among the attributes of <" ++ tag ++ ">."
  | openExpression | expressionCutShort => "This expression is never closed."
  | openDeclaration => "This declaration is never closed."
  | crossedTags opened closed | crossedTokens opened closed =>
      "Expected </" ++ opened ++ "> but found </" ++ closed ++ ">."
  | repeatedAttribute name tag _ _ => "'" ++ name ++ "' is set twice on <" ++ tag ++ ">."
  | emptyValue name => "Attribute '" ++ name ++ "' has an empty expression."
  | emptySpread tag => "Empty spread on <" ++ tag ++ ">."
  | unexpected expected found =>
      "Expected " ++ expected.describe ++ ", found "
        ++ (found.getD .eof).describe ++ "."
  | openTag name => "<" ++ name ++ "> is never closed."
  | strayCloseTag name => "</" ++ name ++ "> has no matching opening tag."
  | tooDeep name =>
      "<" ++ name ++ "> is nested more than " ++ toString maxNesting ++ " elements deep."

/-- The label of the second stretch of source, where it is not simply the place
at which a tag was opened. -/
def label : Cause → Option String
  | strayCharacter _ _ | bareExpression _ => some "in this tag"
  | repeatedAttribute _ _ _ _ => some "first use"
  | _ => none

/-- The advice that goes with a cause. -/
def help : Cause → Option String
  | unfinishedTag _ => some "Finish the tag with '>' or '/>'."
  | badTagName _ =>
      some "Compound names separate segments with a single '.', e.g. <Ui.Button />."
  | strayCharacter _ _ =>
      some "Attributes look like name=\"value\", name=\x7bexpression\x7d or \x7b...spread\x7d."
  | missingValue name =>
      some ("Write " ++ name ++ "=\"text\" or " ++ name ++ "=\x7bexpression\x7d.")
  | openString quote => some ("Add a closing " ++ quote.toString ++ ".")
  | bareExpression _ => some "Use name=\x7bexpression\x7d for a single attribute."
  | openExpression => some "Add a matching '\x7d'."
  | openDeclaration => some "Finish it with '%\x7d'."
  | crossedTags opened closed =>
      some ("<" ++ opened ++ "> must be closed before </" ++ closed ++ ">.")
  | repeatedAttribute name _ first key =>
      if first = name then none
      else some ("'" ++ first ++ "' and '" ++ name ++ "' both become the key " ++ key ++ ".")
  | emptySpread _ => some "Write \x7b...expression\x7d with a hash to spread."
  | openTag name =>
      some ("Close it with </" ++ name ++ "> or write it as <" ++ name ++ " />.")
  | tooDeep _ => some "Move part of the markup into a component."
  | _ => none

end Cause

/-- A cause, the stretch of source it is found at and the stretch it refers back
to, if any. -/
structure Fault where
  cause : Cause
  span : Span
  related : Option Span := none
deriving DecidableEq, Repr

/-- The report of a fault. -/
def Fault.diagnostic (fault : Fault) : Diagnostic where
  kind := fault.cause.kind
  message := fault.cause.message
  span := fault.span
  related := fault.related
  label := fault.cause.label
  help := fault.cause.help

end MarkupTemplate
