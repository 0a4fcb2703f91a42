import MarkupTemplate.Diagnostic.Fault
import MarkupTemplate.Script.Name
import MarkupTemplate.Template.Basic

/-!
# Putting tokens together

Tokens are put together into a template from left to right. Constructs that are
not finished lie on a stack, innermost first: an element whose attributes are
read, an element whose children are read, or an expression whose pieces are
read. A sequence of tokens may come from anywhere, so each token is checked
where it is met.
-/

namespace MarkupTemplate

/-- The first use of an attribute's key on an element. -/
structure KeyUse where
  key : String
  name : String
  span : Span
deriving DecidableEq, Repr

/-- An element whose attributes or children are still being read. -/
structure OpenElement where
  name : String
  opening : Span
  /-- The attributes read, newest first. -/
  attributes : List Attribute := []
  /-- The keys that its named attributes use. -/
  uses : List KeyUse := []
deriving Repr

namespace OpenElement

/-- Adds a named attribute, unless its key is already in use. -/
def addNamed (element : OpenElement) (name : String) (value : Node) (span : Span) :
    Except Fault OpenElement :=
  let key := Script.underscore name
  match element.uses.find? (·.key == key) with
  | some first =>
      .error ⟨.repeatedAttribute name element.name first.name key, span, some first.span⟩
  | none =>
      .ok { element with
        attributes := .named name value :: element.attributes
        uses := ⟨key, name, span⟩ :: element.uses }

/-- Adds a spread of the value of an expression. -/
def addSpread (element : OpenElement) (pieces : List Node) : OpenElement :=
  { element with attributes := .spread pieces :: element.attributes }

/-- The finished element. -/
def finish (element : OpenElement) (children : List Node) : Node :=
  .element element.name element.attributes.reverse children

end OpenElement

/-- What the pieces of an expression are for. -/
inductive Purpose where
  | child
  /-- The value of an attribute, with the stretches of its name and of the
  delimiter that opens the value. -/
  | value (name : String) (nameSpan span : Span)
  | spread (span : Span)
deriving DecidableEq, Repr

/-- An unfinished construct. The nodes it has so far are kept newest first. -/
inductive Frame where
  | attributes (element : OpenElement)
  | children (element : OpenElement) (nodes : List Node)
  | pieces (purpose : Purpose) (nodes : List Node)
deriving Repr

/-- Whether an unfinished construct is an element. -/
def Frame.isElement : Frame → Bool
  | pieces _ _ => false
  | _ => true

/-- How far a sequence of tokens has been put together. -/
structure Assembly where
  rest : List Token
  /-- The stretch of the very last token, where a sequence that ends too early is
  reported. -/
  lastSpan : Span := {}
  /-- The finished nodes at the top, newest first. -/
  root : List Node := []
  /-- The unfinished constructs, innermost first. -/
  frames : List Frame := []
deriving Repr

namespace Assembly

/-- The assembly in front of a sequence of tokens. -/
def start (tokens : List Token) : Assembly :=
  { rest := tokens, lastSpan := (tokens.getLast?.map (·.span)).getD {} }

/-- Goes on with other tokens and unfinished constructs. -/
def goOn (assembly : Assembly) (rest : List Token) (frames : List Frame) : Assembly :=
  { assembly with rest, frames }

/-- The stretch of the next token, or of the last one where none is left. -/
def here (assembly : Assembly) : Span :=
  match assembly.rest with
  | token :: _ => token.span
  | [] => assembly.lastSpan

/-- The fault that something else was expected here. -/
def unexpected (assembly : Assembly) (expected : Expectation) : Fault :=
  ⟨.unexpected expected (assembly.rest.head?.map (·.kind)), assembly.here, none⟩

/-- Takes the next token, which has to be of the given kind. -/
def expect (assembly : Assembly) (kind : TokenKind) : Except Fault (Token × Assembly) :=
  match assembly.rest with
  | token :: following =>
      if token.kind = kind then .ok (token, { assembly with rest := following })
      else .error (assembly.unexpected (.kind kind))
  | [] => .error (assembly.unexpected (.kind kind))

/-- Hands a finished node to the construct around it. -/
def place (assembly : Assembly) (node : Node) : Assembly :=
  match assembly.frames with
  | .children element nodes :: outer =>
      { assembly with frames := .children element (node :: nodes) :: outer }
  | .pieces purpose nodes :: outer =>
      { assembly with frames := .pieces purpose (node :: nodes) :: outer }
  | _ => { assembly with root := node :: assembly.root }

/-- Opens the element whose `<` is next. -/
def openElement (assembly : Assembly) : Except Fault Assembly := do
  let (mark, marked) ← assembly.expect .tagOpen
  let (name, named) ← marked.expect .tagName
  let opening : Span := ⟨mark.span.start, name.span.stop⟩
  if maxNesting ≤ assembly.frames.countP Frame.isElement then
    .error ⟨.tooDeep name.value, opening, none⟩
  else
    .ok { named with
      frames := .attributes { name := name.value, opening } :: assembly.frames }

/-- Reads a child, or opens one that is finished later. An end of input is left where
it is. -/
def stepContent (assembly : Assembly) (token : Token) (following : List Token) :
    Except Fault Assembly :=
  match token.kind with
  | .text => .ok ({ assembly with rest := following }.place (.text token.value))
  | .declaration => .ok ({ assembly with rest := following }.place (.declaration token.value))
  | .expressionStart => .ok (assembly.goOn following (.pieces .child [] :: assembly.frames))
  | .tagOpen => assembly.openElement
  | .tagClose =>
      .error ⟨.strayCloseTag ((following.head?.map (·.value)).getD ""), token.span, none⟩
  | .eof => .ok assembly
  | _ => .error (assembly.unexpected .content)

/-- Reads an attribute whose name has just been passed, or opens its value. -/
def stepAttribute (assembly : Assembly) (element : OpenElement) (outer : List Frame)
    (name : Token) : Except Fault Assembly :=
  match assembly.rest with
  | ⟨.attrEquals, _, _⟩ :: following =>
      match following with
      | [] => .error (({ assembly with rest := [] }).unexpected .attributeValue)
      | value :: more =>
          match value.kind with
          | .stringLiteral => do
              let element ← element.addNamed name.value (.text value.value) name.span
              .ok (assembly.goOn more (.attributes element :: outer))
          | .expressionStart =>
              .ok (assembly.goOn more
                (.pieces (.value name.value name.span value.span) [] :: .attributes element
                  :: outer))
          | _ => .error (({ assembly with rest := following }).unexpected .quotedOrExpression)
  | _ => do
      let element ← element.addNamed name.value (.expression "true") name.span
      .ok (assembly.goOn assembly.rest (.attributes element :: outer))

/-- Reads an attribute of an element, or the end of its tag. -/
def stepAttributes (assembly : Assembly) (element : OpenElement) (outer : List Frame) :
    Except Fault Assembly :=
  match assembly.rest with
  | [] => .error ⟨.tagCutShort element.name, element.opening, none⟩
  | token :: following =>
      match token.kind with
      | .tagSelfClose => .ok ((assembly.goOn following outer).place (element.finish []))
      | .tagEnd => .ok (assembly.goOn following (.children element [] :: outer))
      | .attrName => ({ assembly with rest := following }).stepAttribute element outer token
      | .spreadStart =>
          .ok (assembly.goOn following
            (.pieces (.spread token.span) [] :: .attributes element :: outer))
      | .eof => .error ⟨.tagCutShort element.name, element.opening, none⟩
      | _ => .error (assembly.unexpected .attributeOrEnd)

/-- Reads the close tag of an element, whose `</` is next. -/
def closeElement (assembly : Assembly) (element : OpenElement) (nodes : List Node)
    (outer : List Frame) : Except Fault Assembly := do
  let (mark, marked) ← assembly.expect .tagClose
  let (name, named) ← marked.expect .tagName
  let (stop, stopped) ← named.expect .tagEnd
  if name.value = element.name then
    .ok ((stopped.goOn stopped.rest outer).place (element.finish nodes.reverse))
  else
    .error ⟨.crossedTokens element.name name.value, ⟨mark.span.start, stop.span.stop⟩,
      some element.opening⟩

/-- Reads a child of an element, or its close tag. -/
def stepChildren (assembly : Assembly) (element : OpenElement) (nodes : List Node)
    (outer : List Frame) : Except Fault Assembly :=
  match assembly.rest with
  | [] => .error ⟨.openTag element.name, element.opening, none⟩
  | token :: following =>
      match token.kind with
      | .tagClose => assembly.closeElement element nodes outer
      | .eof => .error ⟨.openTag element.name, element.opening, none⟩
      | _ => assembly.stepContent token following

/-- Hands the pieces of a finished expression to what they are for. -/
def finishPieces (assembly : Assembly) (purpose : Purpose) (pieces : List Node) :
    Except Fault Assembly :=
  match purpose, assembly.frames with
  | .child, _ => .ok ((Node.ofPieces pieces).elim assembly assembly.place)
  | .value name nameSpan span, .attributes element :: outer =>
      match Node.ofPieces pieces with
      | none => .error ⟨.emptyValue name, span, none⟩
      | some value => do
          let element ← element.addNamed name value nameSpan
          .ok { assembly with frames := .attributes element :: outer }
  | .spread span, .attributes element :: outer =>
      if pieces.isEmpty then .error ⟨.emptySpread element.name, span, none⟩
      else .ok { assembly with frames := .attributes (element.addSpread pieces) :: outer }
  | _, _ => .ok assembly

/-- Reads a piece of an expression, or its end. -/
def stepPieces (assembly : Assembly) (purpose : Purpose) (nodes : List Node)
    (outer : List Frame) : Except Fault Assembly :=
  match assembly.rest with
  | [] => .error ⟨.expressionCutShort, assembly.here, none⟩
  | token :: following =>
      match token.kind with
      | .expression =>
          .ok (assembly.goOn following
            (.pieces purpose (.expression token.value :: nodes) :: outer))
      | .tagOpen => assembly.openElement
      | .expressionEnd => (assembly.goOn following outer).finishPieces purpose nodes.reverse
      | .eof => .error ⟨.expressionCutShort, token.span, none⟩
      | _ => .error (assembly.unexpected .pieceOrEnd)

/-- What a step leads to. -/
inductive Progress where
  | more (assembly : Assembly)
  | done (template : Template)
deriving Repr

/-- One step of putting tokens together. What follows an end of input at the top
is not looked at. -/
def step (assembly : Assembly) : Except Fault Progress :=
  match assembly.frames with
  | .attributes element :: outer => (assembly.stepAttributes element outer).map .more
  | .children element nodes :: outer => (assembly.stepChildren element nodes outer).map .more
  | .pieces purpose nodes :: outer => (assembly.stepPieces purpose nodes outer).map .more
  | [] =>
      match assembly.rest with
      | [] => .ok (.done ⟨assembly.root.reverse⟩)
      | token :: following =>
          if token.kind = .eof then .ok (.done ⟨assembly.root.reverse⟩)
          else (assembly.stepContent token following).map .more

end Assembly
end MarkupTemplate
