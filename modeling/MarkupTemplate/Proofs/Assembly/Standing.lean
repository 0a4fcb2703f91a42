import MarkupTemplate.Proofs.Assembly.Resolution

/-!
# How unfinished constructs stand on each other

A finished node goes to the construct on top of the stack, and the pieces of an
attribute or a spread go to the opening tag there. Both are right only if the
constructs stand on each other in certain ways, which `Frame.WellShaped` lists.
Every move keeps them, so they hold in every state that any tokens lead to.

Every move also takes tokens, so the number of moves is bounded by that of the
tokens, and putting them together comes to an end.
-/

namespace MarkupTemplate

namespace Frame

/-- Whether attributes are read next. -/
def TakeAttributes : List Frame → Prop
  | .attributes _ :: _ => True
  | _ => False

theorem TakeAttributes.exists_element {frames : List Frame} (inside : TakeAttributes frames) :
    ∃ element outer, frames = .attributes element :: outer := by
  unfold TakeAttributes at inside
  split at inside
  next element outer => exact ⟨element, outer, rfl⟩
  next => contradiction

/-- Whether an unfinished construct may stand on others, innermost first. The pieces of an
attribute or a spread stand on the tag they belong to, other pieces among children, and
elements anywhere but in a tag. -/
def StandsOn : Frame → List Frame → Prop
  | .pieces (.value _ _ _) _, outer => TakeAttributes outer
  | .pieces (.spread _) _, outer => TakeAttributes outer
  | .pieces .child _, outer => TakeContent outer
  | .attributes _, outer => TakeElement outer
  | .children _ _, outer => TakeElement outer

/-- Whether each unfinished construct may stand on those around it. -/
def WellShaped : List Frame → Prop
  | [] => True
  | frame :: outer => frame.StandsOn outer ∧ WellShaped outer

/-- Which pieces an expression has so far does not matter. -/
theorem StandsOn.withPieces {purpose : Purpose} {nodes : List Node} {outer : List Frame}
    (stands : (pieces purpose nodes).StandsOn outer) (other : List Node) :
    (pieces purpose other).StandsOn outer := by
  cases purpose <;> exact stands

end Frame

/-- The attribute that the pieces of an expression make, if they are for one. -/
def Purpose.attributeOf? : Purpose → List Node → Option Attribute
  | child, _ => none
  | value name _ _, pieces => some (.named name (.ofValue pieces))
  | spread _, pieces => some (.spread pieces)

namespace Assembly

variable {assembly next : Assembly} {tokens : List Token} {count : Nat}

/-! ### The shape is kept -/

/-- Placing a node keeps the shape. -/
theorem wellShaped_place {node : Node} (shaped : Frame.WellShaped assembly.frames) :
    Frame.WellShaped (assembly.place node).frames := by
  unfold place
  split
  next within =>
    rw [within] at shaped
    exact shaped
  next within =>
    rw [within] at shaped
    exact ⟨shaped.1.withPieces _, shaped.2⟩
  next => exact shaped

/-- Handing on the pieces of an expression keeps the shape. -/
theorem wellShaped_finishPieces {rest : List Token} {purpose : Purpose}
    {nodes pieces : List Node} {outer : List Frame}
    (shaped : Frame.WellShaped (.pieces purpose nodes :: outer))
    (finishes : (assembly.goOn rest outer).finishPieces purpose pieces = .ok next) :
    Frame.WellShaped next.frames := by
  obtain ⟨stands, further⟩ := shaped
  cases purpose with
  | child =>
      rw [finishPieces_child] at finishes
      cases finishes
      cases Node.ofPieces pieces with
      | none => exact further
      | some node => exact wellShaped_place further
  | value name nameSpan span =>
      obtain ⟨element, around, rfl⟩ := Frame.TakeAttributes.exists_element stands
      obtain ⟨-, -, rfl⟩ := finishPieces_value_eq_ok_iff.mp finishes
      exact further
  | spread span =>
      obtain ⟨element, around, rfl⟩ := Frame.TakeAttributes.exists_element stands
      obtain ⟨-, rfl⟩ := finishPieces_spread_eq_ok_iff.mp finishes
      exact further

/-- Every move keeps the shape. -/
theorem Moves.wellShaped (move : assembly.Moves next) (shaped : Frame.WellShaped assembly.frames) :
    Frame.WellShaped next.frames := by
  cases move with
  | text => exact wellShaped_place shaped
  | declaration => exact wellShaped_place shaped
  | siteOpened content => exact ⟨content, shaped⟩
  | elementOpened content => exact ⟨content, shaped⟩
  | selfClosed within =>
      rw [within] at shaped
      exact wellShaped_place shaped.2
  | tagEnded within =>
      -- Both frames of an element stand on the same things, whatever its attributes are.
      rw [within] at shaped
      exact shaped
  | bareNamed within =>
      rw [within] at shaped
      exact shaped
  | quoteNamed within =>
      rw [within] at shaped
      exact shaped
  | valueOpened within =>
      rw [within] at shaped
      exact ⟨trivial, shaped⟩
  | spreadOpened within =>
      rw [within] at shaped
      exact ⟨trivial, shaped⟩
  | elementClosed within =>
      rw [within] at shaped
      exact wellShaped_place shaped.2
  | code within =>
      rw [within] at shaped
      exact ⟨shaped.1.withPieces _, shaped.2⟩
  | siteClosed within front stops finishes =>
      rw [within] at shaped
      exact wellShaped_finishPieces shaped finishes

/-! ### Tokens are taken -/

/-- Every move takes tokens from the front, and never an end of input. -/
theorem Moves.takes (move : assembly.Moves next) :
    ∃ taken, taken ≠ [] ∧ (∀ token ∈ taken, token.kind ≠ .eof) ∧
      assembly.rest = taken ++ next.rest := by
  cases move with
  | @text token following content front isText =>
      exact ⟨[token], by simp, by simp [isText], by simp [front]⟩
  | @declaration token following content front isDeclaration =>
      exact ⟨[token], by simp, by simp [isDeclaration], by simp [front]⟩
  | @siteOpened start following content front starts =>
      exact ⟨[start], by simp, by simp [starts], by simp [front]⟩
  | @elementOpened mark name following content front opens names shallow =>
      exact ⟨[mark, name], by simp, by simp [opens, names], by simp [front]⟩
  | @selfClosed stop following element outer within front ends =>
      exact ⟨[stop], by simp, by simp [ends], by simp [front]⟩
  | @tagEnded stop following element outer within front ends =>
      exact ⟨[stop], by simp, by simp [ends], by simp [front]⟩
  | @bareNamed name following element added outer within front names alone adds =>
      exact ⟨[name], by simp, by simp [names], by simp [front]⟩
  | @quoteNamed name equals value following element added outer within front names equates
      quotes adds =>
      exact ⟨[name, equals, value], by simp, by simp [names, equates, quotes], by simp [front]⟩
  | @valueOpened name equals start following element outer within front names equates starts =>
      exact ⟨[name, equals, start], by simp, by simp [names, equates, starts], by simp [front]⟩
  | @spreadOpened start following element outer within front starts =>
      exact ⟨[start], by simp, by simp [starts], by simp [front]⟩
  | @elementClosed mark name stop following element nodes outer within front closes names ends
      same =>
      exact ⟨[mark, name, stop], by simp, by simp [closes, names, ends], by simp [front]⟩
  | @code token following purpose nodes outer within front isCode =>
      exact ⟨[token], by simp, by simp [isCode], by simp [front]⟩
  | @siteClosed stop following purpose nodes outer next within front stops finishes =>
      exact ⟨[stop], by simp, by simp [stops], by simp [front, rest_finishPieces finishes]⟩

/-! ### Finished nodes -/

/-- The node that the next step finishes if it goes on, and the constructs around it. -/
def finished? (assembly : Assembly) : Option (Node × List Frame) :=
  match assembly.rest with
  | [] => none
  | token :: _ =>
      match token.kind, assembly.frames with
      | .text, frames => some (.text token.value, frames)
      | .declaration, frames => some (.declaration token.value, frames)
      | .tagSelfClose, .attributes element :: outer => some (element.finish [], outer)
      | .tagClose, .children element nodes :: outer =>
          some (element.finish nodes.reverse, outer)
      | .expressionEnd, .pieces .child nodes :: outer =>
          (Node.ofPieces nodes.reverse).map (·, outer)
      | _, _ => none

/-- A node that is not placed in a tag goes to the top only if nothing is around it. -/
theorem root_place {node : Node} (outside : Frame.TakeElement assembly.frames) :
    (assembly.place node).root = assembly.root ∨ (assembly.place node).frames = [] := by
  obtain ⟨rest, lastSpan, root, frames⟩ := assembly
  cases frames with
  | nil => exact .inr rfl
  | cons frame outer =>
      cases frame with
      -- Only here would a node reach the top over constructs that are unfinished.
      | attributes element => exact outside.elim
      | children element nodes => exact .inl rfl
      | pieces purpose nodes => exact .inl rfl

/-- Whether a state comes from another one by placing the node that is finished there
outside of a tag. Nothing is added at the top if no node is finished. -/
def Hands (assembly next : Assembly) : Prop :=
  (assembly.finished? = none ∧ next.root = assembly.root) ∨
    ∃ node around, assembly.finished? = some (node, around) ∧ Frame.TakeElement around ∧
      next = (assembly.goOn next.rest around).place node

/-- A node that is finished is handed on. -/
theorem Hands.of_place {rest : List Token} {node : Node} {around : List Frame}
    (finishes : assembly.finished? = some (node, around)) (outside : Frame.TakeElement around) :
    assembly.Hands ((assembly.goOn rest around).place node) :=
  .inr ⟨node, around, finishes, outside, by rw [rest_place, rest_goOn]⟩

/-- At the end of an expression, the node that its pieces make is handed on. -/
theorem hands_finishPieces {stop : Token} {following : List Token} {purpose : Purpose}
    {nodes : List Node} {outer : List Frame}
    (within : assembly.frames = .pieces purpose nodes :: outer)
    (front : assembly.rest = stop :: following) (stops : stop.kind = .expressionEnd)
    (stands : (Frame.pieces purpose nodes).StandsOn outer)
    (finishes : (assembly.goOn following outer).finishPieces purpose nodes.reverse = .ok next) :
    assembly.Hands next := by
  cases purpose with
  | child =>
      have finished : assembly.finished? = (Node.ofPieces nodes.reverse).map (·, outer) := by
        simp only [finished?, front, stops, within]
      rw [finishPieces_child] at finishes
      cases finishes
      cases joined : Node.ofPieces nodes.reverse with
      | none => exact .inl ⟨by rw [finished, joined]; rfl, rfl⟩
      | some node =>
          exact .of_place (by rw [finished, joined]; rfl) (Frame.TakeContent.takeElement stands)
  | value name nameSpan span =>
      -- The pieces join a tag that is open, so no node is finished.
      obtain ⟨element, around, rfl⟩ := Frame.TakeAttributes.exists_element stands
      obtain ⟨-, -, rfl⟩ := finishPieces_value_eq_ok_iff.mp finishes
      exact .inl ⟨by simp only [finished?, front, stops, within], rfl⟩
  | spread span =>
      obtain ⟨element, around, rfl⟩ := Frame.TakeAttributes.exists_element stands
      obtain ⟨-, rfl⟩ := finishPieces_spread_eq_ok_iff.mp finishes
      exact .inl ⟨by simp only [finished?, front, stops, within], rfl⟩

/-- Every move in a well-shaped state hands on the node that is finished. -/
theorem Moves.hands (move : assembly.Moves next) (shaped : Frame.WellShaped assembly.frames) :
    assembly.Hands next := by
  cases move with
  | text content front isText =>
      exact .of_place (by simp only [finished?, front, isText]) content.takeElement
  | declaration content front isDeclaration =>
      exact .of_place (by simp only [finished?, front, isDeclaration]) content.takeElement
  | siteOpened content front starts =>
      exact .inl ⟨by simp only [finished?, front, starts], rfl⟩
  | elementOpened content front opens =>
      exact .inl ⟨by simp only [finished?, front, opens], rfl⟩
  | selfClosed within front ends =>
      rw [within] at shaped
      exact .of_place (by simp only [finished?, front, ends, within]) shaped.1
  | tagEnded within front ends => exact .inl ⟨by simp only [finished?, front, ends], rfl⟩
  | bareNamed within front names => exact .inl ⟨by simp only [finished?, front, names], rfl⟩
  | quoteNamed within front names => exact .inl ⟨by simp only [finished?, front, names], rfl⟩
  | valueOpened within front names => exact .inl ⟨by simp only [finished?, front, names], rfl⟩
  | spreadOpened within front starts =>
      exact .inl ⟨by simp only [finished?, front, starts], rfl⟩
  | elementClosed within front closes =>
      rw [within] at shaped
      exact .of_place (by simp only [finished?, front, closes, within]) shaped.1
  | code within front isCode => exact .inl ⟨by simp only [finished?, front, isCode], rfl⟩
  | siteClosed within front stops finishes =>
      rw [within] at shaped
      exact hands_finishPieces within front stops shaped.1 finishes

/-- What is handed on goes to the top only if nothing is unfinished then. -/
theorem Hands.root (hands : assembly.Hands next) :
    next.root = assembly.root ∨ next.frames = [] := by
  rcases hands with ⟨-, same⟩ | ⟨node, around, -, outside, placed⟩
  · exact .inl same
  · rw [placed]
    exact root_place outside

/-! ### Attributes -/

/-- At the end of an expression that an attribute is made of, the attribute joins those of
the tag around it. Without pieces, or if its key is in use there, a fault is reported. -/
theorem step_attributeEnd {stop : Token} {following : List Token} {purpose : Purpose}
    {nodes : List Node} {outer : List Frame} {made : Attribute}
    (shaped : Frame.WellShaped assembly.frames)
    (within : assembly.frames = .pieces purpose nodes :: outer)
    (front : assembly.rest = stop :: following) (stops : stop.kind = .expressionEnd)
    (makes : purpose.attributeOf? nodes.reverse = some made) :
    ∃ element around, outer = .attributes element :: around ∧
      (((nodes = [] ∨ ∃ key ∈ made.key?, key ∈ element.usedKeys) ∧
          ∃ fault, assembly.step = .error fault ∧ fault.ConcernsAttributes) ∨
        ∃ grown : OpenElement, grown.attributes = made :: element.attributes ∧
          assembly.step = .ok (.more (assembly.goOn following (.attributes grown :: around)))) := by
  rw [within] at shaped
  rw [step_siteEnd within front stops]
  cases purpose with
  | child => cases makes
  | value name nameSpan span =>
      obtain ⟨element, around, rfl⟩ := Frame.TakeAttributes.exists_element shaped.1
      cases makes
      refine ⟨element, around, rfl, ?_⟩
      rw [finishPieces_value]
      split
      next empty => exact .inl ⟨.inl (by simpa using empty), _, rfl, .inl rfl⟩
      next =>
        by_cases used : Script.underscore name ∈ element.usedKeys
        · obtain ⟨fault, refuses, kind⟩ := OpenElement.addNamed_of_used
            (.ofValue nodes.reverse) nameSpan used
          rw [refuses]
          exact .inl ⟨.inr ⟨_, rfl, used⟩, fault, rfl, .inr kind⟩
        · rw [OpenElement.addNamed_eq_ok_iff.mpr ⟨used, rfl⟩]
          exact .inr ⟨_, rfl, rfl⟩
  | spread span =>
      obtain ⟨element, around, rfl⟩ := Frame.TakeAttributes.exists_element shaped.1
      cases makes
      refine ⟨element, around, rfl, ?_⟩
      rw [finishPieces_spread]
      split
      next empty => exact .inl ⟨.inl (by simpa using empty), _, rfl, .inl rfl⟩
      next => exact .inr ⟨_, rfl, rfl⟩

/-! ### States that putting tokens together comes to -/

/-- Whether putting tokens together comes to a state after a number of steps. -/
inductive Reaches (tokens : List Token) : Nat → Assembly → Prop where
  | start : Reaches tokens 0 (.start tokens)
  | more {count : Nat} {assembly next : Assembly} (reached : Reaches tokens count assembly)
      (stepped : assembly.step = .ok (.more next)) : Reaches tokens (count + 1) next

namespace Reaches

/-- The constructs that are unfinished are well shaped. -/
theorem wellShaped (reached : Reaches tokens count assembly) :
    Frame.WellShaped assembly.frames := by
  induction reached with
  | start => trivial
  | more _ stepped inductionHypothesis =>
      exact (step_eq_more_iff.mp stepped).wellShaped inductionHypothesis

/-- There were no more steps than tokens that have been taken. -/
theorem count_le (reached : Reaches tokens count assembly) :
    count + assembly.rest.length ≤ tokens.length := by
  induction reached with
  | start => simp [Assembly.start]
  | more _ stepped inductionHypothesis =>
      have shrinks := step_shrinks stepped
      omega

/-- Going on from a state that is come to leads to an end, and to what is made there. -/
theorem exists_last (reached : Reaches tokens count assembly) :
    ∃ total last, Reaches tokens total last ∧
      ((∃ fault, last.step = .error fault ∧ assembly.run = .error fault) ∨
        ∃ template, last.step = .ok (.done template) ∧ assembly.run = .ok template) := by
  fun_induction run assembly generalizing count with
  | case1 assembly fault stepped =>
      exact ⟨count, assembly, reached, .inl ⟨fault, stepped, rfl⟩⟩
  | case2 assembly template stepped =>
      exact ⟨count, assembly, reached, .inr ⟨template, stepped, rfl⟩⟩
  | case3 assembly next stepped inductionHypothesis =>
      exact inductionHypothesis (reached.more stepped)

end Reaches

/-- Whatever the tokens are, the unfinished constructs stand on each other as they should in
every state that is come to. A step that goes on takes at least one token and no end of
input. The node that it finishes is never placed in a tag, and nothing is added at the top
while a construct is unfinished. Where an expression ends that an attribute or a spread is
made of, the tag around it gets it, unless it is refused with a fault. There are at most as
many steps as tokens, and after them a template is finished or a fault is met. -/
theorem frames_well_shaped (tokens : List Token) :
    (∀ count assembly, Reaches tokens count assembly →
      Frame.WellShaped assembly.frames ∧
        (∀ next, assembly.step = .ok (.more next) →
          (∃ taken, taken ≠ [] ∧ (∀ token ∈ taken, token.kind ≠ .eof) ∧
            assembly.rest = taken ++ next.rest) ∧
          assembly.Hands next ∧ (next.root = assembly.root ∨ next.frames = [])) ∧
        (∀ purpose nodes outer stop following made,
          assembly.frames = .pieces purpose nodes :: outer → assembly.rest = stop :: following →
          stop.kind = .expressionEnd → purpose.attributeOf? nodes.reverse = some made →
          ∃ element around, outer = .attributes element :: around ∧
            (((nodes = [] ∨ ∃ key ∈ made.key?, key ∈ element.usedKeys) ∧
                ∃ fault, assembly.step = .error fault ∧ fault.ConcernsAttributes) ∨
              ∃ grown : OpenElement, grown.attributes = made :: element.attributes ∧
                assembly.step =
                  .ok (.more (assembly.goOn following (.attributes grown :: around))))) ∧
        count + assembly.rest.length ≤ tokens.length) ∧
      ∃ count last, Reaches tokens count last ∧
        ((∃ fault, last.step = .error fault ∧ Template.ofTokens tokens = .error fault) ∨
          ∃ template, last.step = .ok (.done template) ∧
            Template.ofTokens tokens = .ok template) := by
  refine ⟨fun count assembly reached => ?_, Reaches.start.exists_last⟩
  refine ⟨reached.wellShaped, fun next stepped => ?_, ?_, reached.count_le⟩
  · have move := step_eq_more_iff.mp stepped
    have hands := move.hands reached.wellShaped
    exact ⟨move.takes, hands, hands.root⟩
  · intro purpose nodes outer stop following made within front stops makes
    exact step_attributeEnd reached.wellShaped within front stops makes

/-- The tokens of `<a b={<c>{x}</c>}`, in which the outer tag has no end. -/
def embedded : List Token :=
  [⟨.tagOpen, "<", {}⟩, ⟨.tagName, "a", {}⟩, ⟨.attrName, "b", {}⟩, ⟨.attrEquals, "=", {}⟩,
    ⟨.expressionStart, "\x7b", {}⟩, ⟨.tagOpen, "<", {}⟩, ⟨.tagName, "c", {}⟩, ⟨.tagEnd, ">", {}⟩,
    ⟨.expressionStart, "\x7b", {}⟩, ⟨.expression, "x", {}⟩, ⟨.expressionEnd, "\x7d", {}⟩,
    ⟨.tagClose, "</", {}⟩, ⟨.tagName, "c", {}⟩, ⟨.tagEnd, ">", {}⟩, ⟨.expressionEnd, "\x7d", {}⟩]

/-- Within an expression in an element in the value of an attribute, four constructs stand on
each other. Once the inner ones are finished, the value joins its tag. -/
theorem frames_well_shaped_embedded :
    (∃ inner next, Reaches embedded 6 inner ∧ inner.frames.length = 4 ∧
      Frame.WellShaped inner.frames ∧ inner.step = .ok (.more next) ∧ inner.Hands next ∧
      next.root = []) ∧
    ∃ outer grown, Reaches embedded 8 outer ∧
      outer.step = .ok (.more (outer.goOn [] [.attributes grown])) ∧
      grown.attributes.length = 1 := by
  have inside : Reaches embedded 6 _ :=
    Reaches.start.more rfl |>.more rfl |>.more rfl |>.more rfl |>.more rfl |>.more rfl
  have outside : Reaches embedded 8 _ := inside.more rfl |>.more rfl
  have holds := (frames_well_shaped embedded).1
  constructor
  · obtain ⟨shaped, goesOn, -⟩ := holds _ _ inside
    exact ⟨_, _, inside, rfl, shaped, rfl, (goesOn _ rfl).2.1, rfl⟩
  · obtain ⟨-, -, joins, -⟩ := holds _ _ outside
    obtain ⟨element, around, stands, ⟨-, fault, failed, -⟩ | ⟨grown, grows, stepped⟩⟩ :=
      joins _ _ _ _ _ _ rfl rfl rfl rfl
    · cases failed
    · cases stands
      exact ⟨_, grown, outside, stepped, by rw [grows]; rfl⟩

end Assembly
end MarkupTemplate
