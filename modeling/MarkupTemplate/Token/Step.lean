import MarkupTemplate.Token.Reader

/-!
# Steps of the reader

What a reader does next depends on the innermost mode and on the characters in
front of it. Every step either ends the reading or goes on with less of the
source.
-/

namespace MarkupTemplate.Reader

open Spelling Text

/-- What a step leads to. -/
inductive Progress where
  /-- Reading goes on. -/
  | more (reader : Reader)
  /-- The source has been read. -/
  | done (reader : Reader)
deriving DecidableEq, Repr

/-- A step within text. -/
def stepText (reader : Reader) (parent : Option OpenTag) (outer : List Mode) :
    Except Fault Progress :=
  match reader.rest with
  | [] =>
      match parent with
      | some tag => .error ⟨.openTag tag.name, tag.span, none⟩
      | none => .ok (.done (reader.flushText.enter outer))
  | '\\' :: escaped :: _ =>
      .ok (.more (if isEscapable escaped then reader.gather escaped 2 else reader.gather '\\'))
  | '{' :: '%' :: _ => do
      let declared ← reader.flushText.readDeclaration
      .ok (.more (declared.enter (.text parent :: outer)))
  | '{' :: _ =>
      let (site, opened) := reader.flushText.openSite .expressionStart "\x7b"
      .ok (.more (opened.enter (.expression site :: .text parent :: outer)))
  | character :: _ =>
      if closesTag reader.rest then do
        let closed ← reader.flushText.closeTag parent
        .ok (.more (closed.enter outer))
      else if opensTag reader.rest then do
        let (tag, opened) ← reader.flushText.openTag
        .ok (.more (opened.enter (.attributes tag :: .text parent :: outer)))
      else .ok (.more (reader.gather character))

/-- A step among the attributes of a tag. -/
def stepAttributes (reader : Reader) (tag : OpenTag) (outer : List Mode) :
    Except Fault Progress :=
  let reader := reader.skipBlank
  match reader.rest with
  | [] => .error ⟨.unfinishedTag tag.name, tag.span, none⟩
  | '/' :: '>' :: _ =>
      .ok (.more (({ (reader.skip 2).emit .tagSelfClose "/>" reader.position with
        openElements := reader.openElements - 1 }).enter outer))
  | '>' :: _ =>
      .ok (.more (((reader.skip 1).emit .tagEnd ">" reader.position).enter
        (.text (some tag) :: outer)))
  | '{' :: '.' :: '.' :: '.' :: _ =>
      let (site, opened) := reader.openSite .spreadStart "\x7b..."
      .ok (.more (opened.enter (.expression site :: .attributes tag :: outer)))
  | '{' :: _ => .error ⟨.bareExpression tag.name, .point reader.position, some tag.span⟩
  | character :: _ =>
      if isAttrNameStart character then do
        match ← reader.readAttribute with
        | (some site, next) =>
            .ok (.more (next.enter (.expression site :: .attributes tag :: outer)))
        | (none, next) => .ok (.more (next.enter (.attributes tag :: outer)))
      else
        .error ⟨.strayCharacter character tag.name, .point reader.position, some tag.span⟩

/-- A step within an expression. Braces and tags count only outside quotes. -/
def stepExpression (reader : Reader) (site : Site) (outer : List Mode) :
    Except Fault Progress :=
  let go (next : Reader) (site : Site) : Except Fault Progress :=
    .ok (.more { next with modes := .expression site :: outer })
  match reader.rest with
  | [] => .error ⟨.openExpression, site.opening, none⟩
  | character :: following =>
      if site.quote.isSome then
        match character, following with
        | '\\', escaped :: _ => go ((reader.gather '\\').gather escaped) site
        | _, _ =>
            go (reader.gather character) { site with quote := quoteAfter site.quote character }
      else if character = '{' then
        go (reader.gather character) { site with depth := site.depth + 1 }
      else if character = '}' then
        if site.depth ≤ 1 then
          let flushed := reader.flushPiece site true
          .ok (.more (((flushed.skip 1).emit .expressionEnd "\x7d" reader.position).enter outer))
        else go (reader.gather character) { site with depth := site.depth - 1 }
      else if opensTag reader.rest && startsMarkup reader.pending then do
        let (tag, opened) ← (reader.flushPiece site false).openTag
        .ok (.more (opened.enter
          (.attributes tag :: .expression { site with leading := false } :: outer)))
      else
        go (reader.gather character) { site with quote := quoteAfter none character }

/-- One step of reading, in the innermost mode. -/
def step (reader : Reader) : Except Fault Progress :=
  match reader.modes with
  | [] => .ok (.done reader)
  | .text parent :: outer => reader.stepText parent outer
  | .attributes tag :: outer => reader.stepAttributes tag outer
  | .expression site :: outer => reader.stepExpression site outer

end MarkupTemplate.Reader
