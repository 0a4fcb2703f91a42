import MarkupTemplate.Diagnostic.Fault
import MarkupTemplate.Token.Spelling

/-!
# Reading source text into tokens

The reader goes through the source from left to right in one of three modes:
text between tags, the attributes of a tag, or an embedded expression. A
construct that is entered inside another one suspends the mode of the outer
construct on a stack. This module holds the state of a reader and how it reads
single constructs.
-/

namespace MarkupTemplate

/-- A tag that is open, with the stretch from its `<` to the end of its name. -/
structure OpenTag where
  name : String
  span : Span
deriving DecidableEq, Repr

/-- An embedded expression that is being read. -/
structure Site where
  /-- The stretch of its opening delimiter. -/
  opening : Span
  /-- Whether nothing of it has been turned into tokens so far. -/
  leading : Bool := true
  /-- The number of its braces that are open, its own included. -/
  depth : Nat := 1
  /-- The quote that is open. -/
  quote : Option Char := none
deriving DecidableEq, Repr

/-- The piece of code that pending characters make. White space is dropped in
front of the first piece of an expression and behind the last one. -/
def Site.piece (site : Site) (closing : Bool) (pending : List Char) : List Char :=
  let code := if site.leading then Text.trimStart pending.reverse else pending.reverse
  if closing then Text.trimEnd code else code

/-- What is being read. -/
inductive Mode where
  /-- Text, between the tags of `parent` or at the top. -/
  | text (parent : Option OpenTag)
  | attributes (tag : OpenTag)
  | expression (site : Site)
deriving DecidableEq, Repr

/-- How far a source has been read. -/
structure Reader where
  rest : List Char
  position : Position := {}
  /-- The tokens read, newest first. -/
  tokens : List Token := []
  /-- The number of tags that are open. -/
  openElements : Nat := 0
  /-- What is being read, innermost first. -/
  modes : List Mode := [.text none]
  /-- Text or code that is not yet part of a token, last character first. -/
  pending : List Char := []
  /-- Where the pending characters start. -/
  pendingStart : Position := {}
deriving DecidableEq, Repr

namespace Reader

open Spelling Text

/-- The reader in front of a source. -/
def start (source : String) : Reader := { rest := source.toList }

/-- Passes the next `count` characters. -/
def skip (reader : Reader) (count : Nat) : Reader :=
  { reader with
    rest := reader.rest.drop count
    position := reader.position.after (reader.rest.take count) }

/-- Passes the characters in front that satisfy a predicate. -/
def skipWhile (reader : Reader) (accepts : Char → Bool) : Reader :=
  reader.skip (reader.rest.takeWhile accepts).length

/-- Passes white space. -/
def skipBlank (reader : Reader) : Reader := reader.skipWhile isBlank

/-- Passes the next `count` characters and keeps `character` for them. -/
def gather (reader : Reader) (character : Char) (count : Nat := 1) : Reader :=
  { reader.skip count with pending := character :: reader.pending }

/-- Adds a token over a given stretch. -/
def emitAt (reader : Reader) (kind : TokenKind) (value : String) (span : Span) : Reader :=
  { reader with tokens := ⟨kind, value, span⟩ :: reader.tokens }

/-- Adds a token that reaches from `origin` to here. -/
def emit (reader : Reader) (kind : TokenKind) (value : String) (origin : Position) : Reader :=
  reader.emitAt kind value ⟨origin, reader.position⟩

/-- Goes on in other modes, with nothing pending. -/
def enter (reader : Reader) (modes : List Mode) : Reader :=
  { reader with modes, pending := [], pendingStart := reader.position }

/-- Turns pending text into a token. -/
def flushText (reader : Reader) : Reader :=
  if reader.pending.isEmpty then reader
  else reader.emit .text (String.ofList reader.pending.reverse) reader.pendingStart

/-- Turns pending code into a token, unless there is nothing left of it. -/
def flushPiece (reader : Reader) (site : Site) (closing : Bool) : Reader :=
  if (site.piece closing reader.pending).isEmpty then reader
  else reader.emit .expression (String.ofList (site.piece closing reader.pending))
    reader.pendingStart

/-- Reads `<name`. -/
def openTag (reader : Reader) : Except Fault (OpenTag × Reader) :=
  let marked := (reader.skip 1).emit .tagOpen "<" reader.position
  let name := marked.rest.takeWhile isTagNameChar
  let named := marked.skip name.length
  let tag : OpenTag := ⟨String.ofList name, ⟨reader.position, named.position⟩⟩
  if !isCompoundName name then
    .error ⟨.badTagName tag.name, ⟨marked.position, named.position⟩, none⟩
  else if maxNesting ≤ reader.openElements then
    .error ⟨.tooDeep tag.name, tag.span, none⟩
  else
    .ok (tag,
      { named.emit .tagName tag.name marked.position with
        openElements := reader.openElements + 1 })

/-- Reads `</name>`, which has to close `parent`. -/
def closeTag (reader : Reader) (parent : Option OpenTag) : Except Fault Reader :=
  let marked := reader.skip 2
  let name := marked.rest.takeWhile isTagNameChar
  let named := marked.skip name.length
  let ending := named.skipBlank
  match ending.rest with
  | '>' :: _ =>
      let closed := ending.skip 1
      match parent with
      | none =>
          .error ⟨.strayCloseTag (String.ofList name), ⟨reader.position, closed.position⟩, none⟩
      | some tag =>
          if tag.name = String.ofList name then
            .ok
              { ((closed.emitAt .tagClose "</" ⟨reader.position, marked.position⟩).emitAt
                  .tagName tag.name ⟨marked.position, named.position⟩).emit
                  .tagEnd ">" ending.position with
                openElements := reader.openElements - 1 }
          else
            .error ⟨.crossedTags tag.name (String.ofList name),
              ⟨reader.position, closed.position⟩, some tag.span⟩
  | _ => .error ⟨.unfinishedCloseTag (String.ofList name), ⟨reader.position, ending.position⟩, none⟩

/-- Reads the delimiter that opens an expression. -/
def openSite (reader : Reader) (kind : TokenKind) (delimiter : String) : Site × Reader :=
  let opened := reader.skip delimiter.length
  (⟨⟨reader.position, opened.position⟩, true, 1, none⟩,
    opened.emit kind delimiter reader.position)

/-- Reads `{% code %}`. -/
def readDeclaration (reader : Reader) : Except Fault Reader :=
  match cutDeclaration [] none (reader.rest.drop 2) with
  | some (body, _) =>
      .ok ((reader.skip (body.length + 4)).emit
        .declaration (String.ofList (trim body)) reader.position)
  | none =>
      .error ⟨.openDeclaration,
        ⟨reader.position, (reader.skip reader.rest.length).position⟩, none⟩

/-- Reads a quoted attribute value. -/
def readString (reader : Reader) (quote : Char) : Except Fault Reader :=
  let value := (reader.rest.drop 1).takeWhile (· != quote)
  match reader.rest.drop (value.length + 1) with
  | _ :: _ =>
      .ok ((reader.skip (value.length + 2)).emit
        .stringLiteral (String.ofList value) reader.position)
  | [] =>
      .error ⟨.openString quote,
        ⟨reader.position, (reader.skip reader.rest.length).position⟩, none⟩

/-- Reads the value of the attribute `name`, which starts at `origin`, or the
delimiter that opens its value. -/
def readValue (reader : Reader) (name : String) (origin : Position) :
    Except Fault (Option Site × Reader) :=
  match reader.rest with
  | '"' :: _ => (reader.readString '"').map fun next => (none, next)
  | '\'' :: _ => (reader.readString '\'').map fun next => (none, next)
  | '{' :: _ =>
      let (site, next) := reader.openSite .expressionStart "\x7b"
      .ok (some site, next)
  | _ => .error ⟨.missingValue name, ⟨origin, reader.position⟩, none⟩

/-- Reads an attribute up to and including its value, or the delimiter that
opens its value. -/
def readAttribute (reader : Reader) : Except Fault (Option Site × Reader) :=
  let name := reader.rest.takeWhile isAttrNameChar
  let equals :=
    ((reader.skip name.length).emit .attrName (String.ofList name) reader.position).skipBlank
  match equals.rest with
  | '=' :: _ =>
      (((equals.skip 1).emit .attrEquals "=" equals.position).skipBlank).readValue
        (String.ofList name) reader.position
  | _ => .ok (none, equals)

end Reader
end MarkupTemplate
