import Mathlib.Tactic.ByContra
import MarkupTemplate.Proofs.Grammar.Phrase

/-!
# What a step of an assembly can do

`Assembly.Moves` lists every way in which putting tokens together goes on, with
the tokens taken and the state reached. `Assembly.step_eq_more_iff` says that
these are exactly the steps, so later results argue from the list and do not
open the step function again.
-/

namespace MarkupTemplate

/-- Whether children are read next: at the top, or between the tags of an element. -/
def Frame.TakeContent : List Frame → Prop
  | [] => True
  | .children _ _ :: _ => True
  | _ => False

/-- Whether an element may be opened next: where children are read, or among the
pieces of an expression. -/
def Frame.TakeElement : List Frame → Prop
  | .attributes _ :: _ => False
  | _ => True

/-- Where children are read, an element may be opened. -/
theorem Frame.TakeContent.takeElement {frames : List Frame} (content : TakeContent frames) :
    TakeElement frames := by
  unfold TakeContent at content
  split at content
  next => trivial
  next => trivial
  next => contradiction

@[simp] theorem Frame.countP_attributes (element : OpenElement) (outer : List Frame) :
    (Frame.attributes element :: outer).countP Frame.isElement =
      outer.countP Frame.isElement + 1 := List.countP_cons_of_pos rfl

@[simp] theorem Frame.countP_children (element : OpenElement) (nodes : List Node)
    (outer : List Frame) :
    (Frame.children element nodes :: outer).countP Frame.isElement =
      outer.countP Frame.isElement + 1 := List.countP_cons_of_pos rfl

@[simp] theorem Frame.countP_pieces (purpose : Purpose) (nodes : List Node)
    (outer : List Frame) :
    (Frame.pieces purpose nodes :: outer).countP Frame.isElement =
      outer.countP Frame.isElement := List.countP_cons_of_neg (by simp [Frame.isElement])

namespace OpenElement

/-- The keys that are in use on an element. -/
def usedKeys (element : OpenElement) : List String := element.uses.map (·.key)

/-- An element with one more named attribute. -/
def withNamed (element : OpenElement) (name : String) (value : Node) (span : Span) :
    OpenElement :=
  { element with
    attributes := .named name value :: element.attributes
    uses := ⟨Script.underscore name, name, span⟩ :: element.uses }

@[simp] theorem usedKeys_withNamed (element : OpenElement) (name : String) (value : Node)
    (span : Span) :
    (element.withNamed name value span).usedKeys =
      Script.underscore name :: element.usedKeys := rfl

/-- A named attribute is added exactly if its key is not in use. -/
theorem addNamed_eq_ok_iff {element added : OpenElement} {name : String} {value : Node}
    {span : Span} :
    element.addNamed name value span = .ok added ↔
      Script.underscore name ∉ element.usedKeys ∧
        added = element.withNamed name value span := by
  unfold addNamed
  simp only []
  split
  next first found =>
    have used : Script.underscore name ∈ element.usedKeys := by
      have same := List.find?_some found
      exact List.mem_map.mpr ⟨first, List.mem_of_find?_eq_some found, by simpa using same⟩
    simp [used]
  next missing =>
    have unused : Script.underscore name ∉ element.usedKeys := by
      intro member
      obtain ⟨use, useMember, sameKey⟩ := List.mem_map.mp member
      have differs := List.find?_eq_none.mp missing use useMember
      simp [sameKey] at differs
    simp [unused, withNamed, eq_comm]

end OpenElement

namespace Assembly

@[simp] theorem frames_goOn (assembly : Assembly) (rest : List Token) (frames : List Frame) :
    (assembly.goOn rest frames).frames = frames := rfl

@[simp] theorem goOn_goOn (assembly : Assembly) (rest next : List Token)
    (frames further : List Frame) :
    (assembly.goOn rest frames).goOn next further = assembly.goOn next further := rfl

/-- Hands finished nodes to the construct around them, one after the other. -/
def placeAll (assembly : Assembly) (nodes : List Node) : Assembly :=
  nodes.foldl place assembly

@[simp] theorem placeAll_nil (assembly : Assembly) : assembly.placeAll [] = assembly := rfl

@[simp] theorem placeAll_cons (assembly : Assembly) (node : Node) (nodes : List Node) :
    assembly.placeAll (node :: nodes) = (assembly.place node).placeAll nodes := rfl

/-- What the pieces of a child expression lead to. -/
theorem finishPieces_child (assembly : Assembly) (pieces : List Node) :
    assembly.finishPieces .child pieces =
      .ok (assembly.placeAll (Node.ofPieces pieces).toList) := by
  unfold finishPieces
  cases Node.ofPieces pieces <;> rfl

/-- What the pieces of the value of an attribute lead to, in the tag they belong to. -/
theorem finishPieces_value (assembly : Assembly) (rest : List Token) (name : String)
    (nameSpan span : Span) (pieces : List Node) (element : OpenElement) (outer : List Frame) :
    (assembly.goOn rest (.attributes element :: outer)).finishPieces
        (.value name nameSpan span) pieces =
      if pieces.isEmpty then .error ⟨.emptyValue name, span, none⟩
      else (element.addNamed name (.ofValue pieces) nameSpan).map fun added =>
        assembly.goOn rest (.attributes added :: outer) := by
  simp only [finishPieces, frames_goOn]
  cases joined : Node.ofPieces pieces with
  | none => simp [Node.ofPieces_eq_none_iff.mp joined]
  | some value =>
      have filled : pieces ≠ [] := fun empty => by simp [empty, Node.ofPieces] at joined
      have isValue : Node.ofValue pieces = value := by simp [Node.ofValue, joined]
      rw [isValue, if_neg (by simpa using filled)]
      dsimp only
      cases element.addNamed name value nameSpan <;> rfl

/-- What the pieces of a spread lead to, in the tag they belong to. -/
theorem finishPieces_spread (assembly : Assembly) (rest : List Token) (span : Span)
    (pieces : List Node) (element : OpenElement) (outer : List Frame) :
    (assembly.goOn rest (.attributes element :: outer)).finishPieces (.spread span) pieces =
      if pieces.isEmpty then .error ⟨.emptySpread element.name, span, none⟩
      else .ok (assembly.goOn rest (.attributes (element.addSpread pieces) :: outer)) := rfl

/-- The pieces of an expression become the value of an attribute exactly if there
are some and the key of the attribute is not in use. -/
theorem finishPieces_value_eq_ok_iff {assembly next : Assembly} {rest : List Token}
    {name : String} {nameSpan span : Span} {pieces : List Node} {element : OpenElement}
    {outer : List Frame} :
    (assembly.goOn rest (.attributes element :: outer)).finishPieces
        (.value name nameSpan span) pieces = .ok next ↔
      pieces ≠ [] ∧ Script.underscore name ∉ element.usedKeys ∧
        next = assembly.goOn rest
          (.attributes (element.withNamed name (.ofValue pieces) nameSpan) :: outer) := by
  rw [finishPieces_value]
  by_cases empty : pieces = []
  · simp [empty]
  · rw [if_neg (by simpa using empty)]
    cases added : element.addNamed name (.ofValue pieces) nameSpan with
    | error fault =>
        have used : Script.underscore name ∈ element.usedKeys := by
          by_contra unused
          rw [OpenElement.addNamed_eq_ok_iff.mpr ⟨unused, rfl⟩] at added
          cases added
        simp [Except.map, used]
    | ok grown =>
        obtain ⟨unused, rfl⟩ := OpenElement.addNamed_eq_ok_iff.mp added
        simp [Except.map, empty, unused, eq_comm]

/-- The pieces of an expression are spread exactly if there are some. -/
theorem finishPieces_spread_eq_ok_iff {assembly next : Assembly} {rest : List Token}
    {span : Span} {pieces : List Node} {element : OpenElement} {outer : List Frame} :
    (assembly.goOn rest (.attributes element :: outer)).finishPieces (.spread span) pieces
        = .ok next ↔
      pieces ≠ [] ∧
        next = assembly.goOn rest (.attributes (element.addSpread pieces) :: outer) := by
  rw [finishPieces_spread]
  by_cases empty : pieces = []
  · simp [empty]
  · simp only [List.isEmpty_iff, empty, if_false, Except.ok.injEq, ne_eq, not_false_eq_true,
      true_and]
    exact eq_comm

/-- The ways in which putting tokens together goes on. -/
inductive Moves (assembly : Assembly) : Assembly → Prop where
  | text {token : Token} {following : List Token}
      (content : Frame.TakeContent assembly.frames)
      (front : assembly.rest = token :: following) (isText : token.kind = .text) :
      Moves assembly ((assembly.goOn following assembly.frames).place (.text token.value))
  | declaration {token : Token} {following : List Token}
      (content : Frame.TakeContent assembly.frames)
      (front : assembly.rest = token :: following)
      (isDeclaration : token.kind = .declaration) :
      Moves assembly
        ((assembly.goOn following assembly.frames).place (.declaration token.value))
  | siteOpened {start : Token} {following : List Token}
      (content : Frame.TakeContent assembly.frames)
      (front : assembly.rest = start :: following) (starts : start.kind = .expressionStart) :
      Moves assembly (assembly.goOn following (.pieces .child [] :: assembly.frames))
  | elementOpened {mark name : Token} {following : List Token}
      (content : Frame.TakeElement assembly.frames)
      (front : assembly.rest = mark :: name :: following)
      (opens : mark.kind = .tagOpen) (names : name.kind = .tagName)
      (shallow : assembly.frames.countP Frame.isElement < maxNesting) :
      Moves assembly (assembly.goOn following
        (.attributes { name := name.value, opening := ⟨mark.span.start, name.span.stop⟩ }
          :: assembly.frames))
  | selfClosed {stop : Token} {following : List Token} {element : OpenElement}
      {outer : List Frame} (within : assembly.frames = .attributes element :: outer)
      (front : assembly.rest = stop :: following) (ends : stop.kind = .tagSelfClose) :
      Moves assembly ((assembly.goOn following outer).place (element.finish []))
  | tagEnded {stop : Token} {following : List Token} {element : OpenElement}
      {outer : List Frame} (within : assembly.frames = .attributes element :: outer)
      (front : assembly.rest = stop :: following) (ends : stop.kind = .tagEnd) :
      Moves assembly (assembly.goOn following (.children element [] :: outer))
  | bareNamed {name : Token} {following : List Token} {element added : OpenElement}
      {outer : List Frame} (within : assembly.frames = .attributes element :: outer)
      (front : assembly.rest = name :: following) (names : name.kind = .attrName)
      (alone : ∀ equals ∈ following.head?, equals.kind ≠ .attrEquals)
      (adds : element.addNamed name.value (.expression "true") name.span = .ok added) :
      Moves assembly (assembly.goOn following (.attributes added :: outer))
  | quoteNamed {name equals value : Token} {following : List Token}
      {element added : OpenElement} {outer : List Frame}
      (within : assembly.frames = .attributes element :: outer)
      (front : assembly.rest = name :: equals :: value :: following)
      (names : name.kind = .attrName) (equates : equals.kind = .attrEquals)
      (quotes : value.kind = .stringLiteral)
      (adds : element.addNamed name.value (.text value.value) name.span = .ok added) :
      Moves assembly (assembly.goOn following (.attributes added :: outer))
  | valueOpened {name equals start : Token} {following : List Token} {element : OpenElement}
      {outer : List Frame} (within : assembly.frames = .attributes element :: outer)
      (front : assembly.rest = name :: equals :: start :: following)
      (names : name.kind = .attrName) (equates : equals.kind = .attrEquals)
      (starts : start.kind = .expressionStart) :
      Moves assembly (assembly.goOn following
        (.pieces (.value name.value name.span start.span) [] :: .attributes element :: outer))
  | spreadOpened {start : Token} {following : List Token} {element : OpenElement}
      {outer : List Frame} (within : assembly.frames = .attributes element :: outer)
      (front : assembly.rest = start :: following) (starts : start.kind = .spreadStart) :
      Moves assembly (assembly.goOn following
        (.pieces (.spread start.span) [] :: .attributes element :: outer))
  | elementClosed {mark name stop : Token} {following : List Token} {element : OpenElement}
      {nodes : List Node} {outer : List Frame}
      (within : assembly.frames = .children element nodes :: outer)
      (front : assembly.rest = mark :: name :: stop :: following)
      (closes : mark.kind = .tagClose) (names : name.kind = .tagName)
      (ends : stop.kind = .tagEnd) (same : name.value = element.name) :
      Moves assembly ((assembly.goOn following outer).place (element.finish nodes.reverse))
  | code {token : Token} {following : List Token} {purpose : Purpose} {nodes : List Node}
      {outer : List Frame} (within : assembly.frames = .pieces purpose nodes :: outer)
      (front : assembly.rest = token :: following) (isCode : token.kind = .expression) :
      Moves assembly (assembly.goOn following
        (.pieces purpose (.expression token.value :: nodes) :: outer))
  | siteClosed {stop : Token} {following : List Token} {purpose : Purpose}
      {nodes : List Node} {outer : List Frame} {next : Assembly}
      (within : assembly.frames = .pieces purpose nodes :: outer)
      (front : assembly.rest = stop :: following) (stops : stop.kind = .expressionEnd)
      (finishes : (assembly.goOn following outer).finishPieces purpose nodes.reverse = .ok next) :
      Moves assembly next

/-- Where children are read, a token other than a close tag or the end of input is
read as content. -/
theorem step_content {assembly : Assembly} {token : Token} {following : List Token}
    (content : Frame.TakeContent assembly.frames) (front : assembly.rest = token :: following)
    (closing : token.kind ≠ .tagClose) (ending : token.kind ≠ .eof) :
    assembly.step = (assembly.stepContent token following).map .more := by
  unfold Frame.TakeContent at content
  unfold step
  split at content
  next top => simp [top, front, ending]
  next element nodes outer within =>
    simp only [within, stepChildren, front]
  next => contradiction

/-- A `<` opens an element wherever one may stand. -/
theorem step_tagOpen {assembly : Assembly} {mark : Token} {following : List Token}
    (content : Frame.TakeElement assembly.frames) (front : assembly.rest = mark :: following)
    (opens : mark.kind = .tagOpen) : assembly.step = assembly.openElement.map .more := by
  unfold step
  split
  next element outer within =>
    rw [within] at content
    exact content.elim
  next element nodes outer within => simp only [stepChildren, front, opens, stepContent]
  next purpose nodes outer within => simp only [stepPieces, front, opens]
  next top => simp [front, opens, stepContent]

/-- Opening an element takes its `<` and its name, unless it would lie too deep. -/
theorem openElement_of_front {assembly : Assembly} {mark name : Token}
    {following : List Token} (front : assembly.rest = mark :: name :: following)
    (opens : mark.kind = .tagOpen) (names : name.kind = .tagName) :
    assembly.openElement =
      if maxNesting ≤ assembly.frames.countP Frame.isElement then
        .error ⟨.tooDeep name.value, ⟨mark.span.start, name.span.stop⟩, none⟩
      else .ok (assembly.goOn following
        (.attributes { name := name.value, opening := ⟨mark.span.start, name.span.stop⟩ }
          :: assembly.frames)) := by
  simp [openElement, expect, front, opens, names, bind, Except.bind, goOn]

/-- An element that was opened has its `<` and its name in front. -/
theorem front_of_openElement {assembly next : Assembly}
    (opened : assembly.openElement = .ok next) :
    ∃ mark name following, assembly.rest = mark :: name :: following ∧
      mark.kind = .tagOpen ∧ name.kind = .tagName := by
  unfold openElement at opened
  cases first : assembly.expect .tagOpen with
  | error fault => simp [first, bind, Except.bind] at opened
  | ok marked =>
      obtain ⟨mark, marked⟩ := marked
      cases second : marked.expect .tagName with
      | error fault => simp [first, second, bind, Except.bind] at opened
      | ok named =>
          obtain ⟨name, named⟩ := named
          have firstTaken := expect_eq_ok first
          have secondTaken := expect_eq_ok second
          exact ⟨mark, name, named.rest, by rw [firstTaken.1, secondTaken.1], firstTaken.2,
            secondTaken.2⟩

/-- Closing an element takes three tokens, and the names have to agree. -/
theorem closeElement_of_front {assembly : Assembly} {mark name stop : Token}
    {following : List Token} {element : OpenElement} {nodes : List Node} {outer : List Frame}
    (front : assembly.rest = mark :: name :: stop :: following)
    (closes : mark.kind = .tagClose) (names : name.kind = .tagName)
    (ends : stop.kind = .tagEnd) :
    assembly.closeElement element nodes outer =
      if name.value = element.name then
        .ok ((assembly.goOn following outer).place (element.finish nodes.reverse))
      else .error ⟨.crossedTokens element.name name.value,
        ⟨mark.span.start, stop.span.stop⟩, some element.opening⟩ := by
  simp [closeElement, expect, front, closes, names, ends, bind, Except.bind, goOn]

/-- An element that was closed has its close tag in front. -/
theorem front_of_closeElement {assembly next : Assembly} {element : OpenElement}
    {nodes : List Node} {outer : List Frame}
    (closed : assembly.closeElement element nodes outer = .ok next) :
    ∃ mark name stop following, assembly.rest = mark :: name :: stop :: following ∧
      mark.kind = .tagClose ∧ name.kind = .tagName ∧ stop.kind = .tagEnd := by
  unfold closeElement at closed
  cases first : assembly.expect .tagClose with
  | error fault => simp [first, bind, Except.bind] at closed
  | ok marked =>
      obtain ⟨mark, marked⟩ := marked
      cases second : marked.expect .tagName with
      | error fault => simp [first, second, bind, Except.bind] at closed
      | ok named =>
          obtain ⟨name, named⟩ := named
          cases third : named.expect .tagEnd with
          | error fault => simp [first, second, third, bind, Except.bind] at closed
          | ok stopped =>
              obtain ⟨stop, stopped⟩ := stopped
              have firstTaken := expect_eq_ok first
              have secondTaken := expect_eq_ok second
              have thirdTaken := expect_eq_ok third
              exact ⟨mark, name, stop, stopped.rest,
                by rw [firstTaken.1, secondTaken.1, thirdTaken.1], firstTaken.2,
                secondTaken.2, thirdTaken.2⟩

/-- The step at the name of an attribute without a value. -/
theorem step_bare {assembly : Assembly} {name : Token} {following : List Token}
    {element : OpenElement} {outer : List Frame}
    (within : assembly.frames = .attributes element :: outer)
    (front : assembly.rest = name :: following) (names : name.kind = .attrName)
    (alone : ∀ equals ∈ following.head?, equals.kind ≠ .attrEquals) :
    assembly.step =
      (element.addNamed name.value (.expression "true") name.span).map fun added =>
        .more (assembly.goOn following (.attributes added :: outer)) := by
  simp only [step, within, stepAttributes, front, names, stepAttribute]
  split
  next span value more =>
    exact absurd rfl (alone _ rfl)
  next =>
    cases element.addNamed name.value (.expression "true") name.span <;> rfl

/-- The step at an attribute with a quoted value. -/
theorem step_quoted {assembly : Assembly} {name equals value : Token}
    {following : List Token} {element : OpenElement} {outer : List Frame}
    (within : assembly.frames = .attributes element :: outer)
    (front : assembly.rest = name :: equals :: value :: following)
    (names : name.kind = .attrName) (equates : equals.kind = .attrEquals)
    (quotes : value.kind = .stringLiteral) :
    assembly.step =
      (element.addNamed name.value (.text value.value) name.span).map fun added =>
        .more (assembly.goOn following (.attributes added :: outer)) := by
  obtain ⟨kind, text, span⟩ := equals
  cases equates
  simp only [step, within, stepAttributes, front, names, stepAttribute, quotes]
  cases element.addNamed name.value (.text value.value) name.span <;> rfl

/-- The step at the end of an expression. -/
theorem step_siteEnd {assembly : Assembly} {stop : Token} {following : List Token}
    {purpose : Purpose} {nodes : List Node} {outer : List Frame}
    (within : assembly.frames = .pieces purpose nodes :: outer)
    (front : assembly.rest = stop :: following) (stops : stop.kind = .expressionEnd) :
    assembly.step =
      ((assembly.goOn following outer).finishPieces purpose nodes.reverse).map .more := by
  simp only [step, within, stepPieces, front, stops]

/-- Every move is a step. -/
theorem Moves.step_eq {assembly next : Assembly} (move : assembly.Moves next) :
    assembly.step = .ok (.more next) := by
  cases move with
  | text content front isText =>
      rw [step_content content front (by simp [isText]) (by simp [isText])]
      simp only [stepContent, isText]
      rfl
  | declaration content front isDeclaration =>
      rw [step_content content front (by simp [isDeclaration]) (by simp [isDeclaration])]
      simp only [stepContent, isDeclaration]
      rfl
  | siteOpened content front starts =>
      rw [step_content content front (by simp [starts]) (by simp [starts])]
      simp only [stepContent, starts]
      rfl
  | elementOpened content front opens names shallow =>
      rw [step_tagOpen content front opens, openElement_of_front front opens names,
        if_neg (Nat.not_le.mpr shallow)]
      rfl
  | selfClosed within front ends =>
      simp only [step, within, stepAttributes, front, ends]
      rfl
  | tagEnded within front ends =>
      simp only [step, within, stepAttributes, front, ends]
      rfl
  | bareNamed within front names alone adds =>
      rw [step_bare within front names alone, adds]
      rfl
  | quoteNamed within front names equates quotes adds =>
      rw [step_quoted within front names equates quotes, adds]
      rfl
  | @valueOpened name equals start following element outer within front names equates starts =>
      obtain ⟨kind, text, span⟩ := equals
      cases equates
      simp only [step, within, stepAttributes, front, names, stepAttribute, starts]
      rfl
  | spreadOpened within front starts =>
      simp only [step, within, stepAttributes, front, starts]
      rfl
  | elementClosed within front closes names ends same =>
      simp only [step, within, stepChildren, front, closes]
      rw [closeElement_of_front front closes names ends, if_pos same]
      rfl
  | code within front isCode =>
      simp only [step, within, stepPieces, front, isCode]
      rfl
  | siteClosed within front stops finishes =>
      rw [step_siteEnd within front stops, finishes]
      rfl

/-- Opening an element is a move. -/
theorem moves_of_openElement {assembly next : Assembly}
    (content : Frame.TakeElement assembly.frames)
    (opened : assembly.openElement = .ok next) : assembly.Moves next := by
  obtain ⟨mark, name, following, front, opens, names⟩ := front_of_openElement opened
  rw [openElement_of_front front opens names] at opened
  split at opened
  · cases opened
  next shallow =>
    cases opened
    exact .elementOpened content front opens names (Nat.not_le.mp shallow)

/-- Reading content is a move. -/
theorem moves_of_stepContent {assembly next : Assembly} {token : Token}
    {following : List Token} (content : Frame.TakeContent assembly.frames)
    (front : assembly.rest = token :: following) (going : token.kind ≠ .eof)
    (stepped : assembly.stepContent token following = .ok next) : assembly.Moves next := by
  unfold stepContent at stepped
  split at stepped
  next isText =>
    cases stepped
    exact .text content front isText
  next isDeclaration =>
    cases stepped
    exact .declaration content front isDeclaration
  next starts =>
    cases stepped
    exact .siteOpened content front starts
  next => exact moves_of_openElement content.takeElement stepped
  next => cases stepped
  next ending => exact absurd ending going
  next => cases stepped

/-- Reading an attribute is a move. -/
theorem moves_of_stepAttribute {assembly next : Assembly} {name : Token}
    {following : List Token} {element : OpenElement} {outer : List Frame}
    (within : assembly.frames = .attributes element :: outer)
    (front : assembly.rest = name :: following) (names : name.kind = .attrName)
    (stepped : ({ assembly with rest := following }).stepAttribute element outer name
      = .ok next) : assembly.Moves next := by
  unfold stepAttribute at stepped
  split at stepped
  next text span more equalsFront =>
    simp only at equalsFront
    split at stepped
    · cases stepped
    next value more =>
      subst equalsFront
      split at stepped
      next quotes =>
        cases added : element.addNamed name.value (.text value.value) name.span with
        | error fault => simp [added, bind, Except.bind] at stepped
        | ok grown =>
            simp only [added, bind, Except.bind, Except.ok.injEq] at stepped
            exact stepped ▸ .quoteNamed within front names rfl quotes added
      next starts =>
        cases stepped
        exact .valueOpened within front names rfl starts
      next => cases stepped
  next notEquals =>
    cases added : element.addNamed name.value (.expression "true") name.span with
    | error fault => simp [added, bind, Except.bind] at stepped
    | ok grown =>
        simp only [added, bind, Except.bind, Except.ok.injEq] at stepped
        refine stepped ▸ .bareNamed within front names ?_ added
        rintro ⟨kind, text, span⟩ isFirst equates
        obtain ⟨more, following_eq⟩ := List.head?_eq_some_iff.mp isFirst
        cases equates
        exact notEquals text span more following_eq

/-- Reading among attributes is a move. -/
theorem moves_of_stepAttributes {assembly next : Assembly} {element : OpenElement}
    {outer : List Frame} (within : assembly.frames = .attributes element :: outer)
    (stepped : assembly.stepAttributes element outer = .ok next) : assembly.Moves next := by
  unfold stepAttributes at stepped
  split at stepped
  next => cases stepped
  next front =>
    split at stepped
    next ends =>
      cases stepped
      exact .selfClosed within front ends
    next ends =>
      cases stepped
      exact .tagEnded within front ends
    next names => exact moves_of_stepAttribute within front names stepped
    next starts =>
      cases stepped
      exact .spreadOpened within front starts
    next => cases stepped
    next => cases stepped

/-- Reading among children is a move. -/
theorem moves_of_stepChildren {assembly next : Assembly} {element : OpenElement}
    {nodes : List Node} {outer : List Frame}
    (within : assembly.frames = .children element nodes :: outer)
    (stepped : assembly.stepChildren element nodes outer = .ok next) :
    assembly.Moves next := by
  unfold stepChildren at stepped
  split at stepped
  next => cases stepped
  next front =>
    split at stepped
    next =>
      obtain ⟨mark, name, stop, following, tagFront, closes, names, ends⟩ :=
        front_of_closeElement stepped
      rw [closeElement_of_front tagFront closes names ends] at stepped
      split at stepped
      next same =>
        cases stepped
        exact .elementClosed within tagFront closes names ends same
      next => cases stepped
    next => cases stepped
    next _ going => exact moves_of_stepContent (by rw [within]; trivial) front going stepped

/-- Reading among the pieces of an expression is a move. -/
theorem moves_of_stepPieces {assembly next : Assembly} {purpose : Purpose}
    {nodes : List Node} {outer : List Frame}
    (within : assembly.frames = .pieces purpose nodes :: outer)
    (stepped : assembly.stepPieces purpose nodes outer = .ok next) : assembly.Moves next := by
  unfold stepPieces at stepped
  split at stepped
  next => cases stepped
  next front =>
    split at stepped
    next isCode =>
      cases stepped
      exact .code within front isCode
    next => exact moves_of_openElement (by rw [within]; trivial) stepped
    next stops => exact .siteClosed within front stops stepped
    next => cases stepped
    next => cases stepped

/-- The moves are exactly the steps that go on. -/
theorem step_eq_more_iff {assembly next : Assembly} :
    assembly.step = .ok (.more next) ↔ assembly.Moves next := by
  refine ⟨fun stepped => ?_, Moves.step_eq⟩
  unfold step at stepped
  split at stepped
  next within => exact moves_of_stepAttributes within (map_more_eq_ok stepped)
  next within => exact moves_of_stepChildren within (map_more_eq_ok stepped)
  next within => exact moves_of_stepPieces within (map_more_eq_ok stepped)
  next top =>
    split at stepped
    next => cases stepped
    next front =>
      split at stepped
      next => cases stepped
      next going =>
        exact moves_of_stepContent (by rw [top]; trivial) front going (map_more_eq_ok stepped)

/-- Putting tokens together is finished exactly at the top, in front of nothing or
of an end of input. -/
theorem step_eq_done_iff {assembly : Assembly} {template : Template} :
    assembly.step = .ok (.done template) ↔
      assembly.frames = [] ∧ (∀ token ∈ assembly.rest.head?, token.kind = .eof) ∧
        template = ⟨assembly.root.reverse⟩ := by
  have notDone : ∀ result : Except Fault Assembly,
      result.map Progress.more ≠ .ok (.done template) := by
    intro result
    cases result <;> simp [Except.map]
  unfold step
  split
  next within => simp [within, notDone]
  next within => simp [within, notDone]
  next within => simp [within, notDone]
  next top =>
    split
    next front => simp [top, front, eq_comm]
    next token following front =>
      split
      next ending => simp [top, front, ending, eq_comm]
      next going => simp [front, going, notDone]

end Assembly
end MarkupTemplate
