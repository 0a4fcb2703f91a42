import MarkupTemplate.Proofs.Assembly.Resolution
import MarkupTemplate.Proofs.Reader.Nearness

/-!
# Places do not matter to the template

Where tokens lie is told by faults only. Taking all places away from tokens and from
the state of an assembly commutes with every step, and so with a whole run. Tokens that
are the same up to places therefore make the same template, or are rejected for the same
cause.
-/

namespace MarkupTemplate

/-- A fault without places. -/
def Fault.unplaced (fault : Fault) : Fault where
  cause := fault.cause
  span := {}
  related := fault.related.map fun _ => {}

/-- The use of a key without its place. -/
def KeyUse.unplaced (use : KeyUse) : KeyUse := { use with span := {} }

/-- An open element without places. -/
def OpenElement.unplaced (element : OpenElement) : OpenElement :=
  { element with opening := {}, uses := element.uses.map KeyUse.unplaced }

/-- What pieces are for, without places. -/
def Purpose.unplaced : Purpose → Purpose
  | .child => .child
  | .value name _ _ => .value name {} {}
  | .spread _ => .spread {}

/-- An unfinished construct without places. -/
def Frame.unplaced : Frame → Frame
  | .attributes element => .attributes element.unplaced
  | .children element nodes => .children element.unplaced nodes
  | .pieces purpose nodes => .pieces purpose.unplaced nodes

/-- An assembly without places. -/
def Assembly.unplaced (assembly : Assembly) : Assembly where
  rest := assembly.rest.map Token.unplaced
  root := assembly.root
  frames := assembly.frames.map Frame.unplaced

/-- What a step leads to, without places. -/
def Assembly.Progress.unplaced : Assembly.Progress → Assembly.Progress
  | .more assembly => .more assembly.unplaced
  | .done template => .done template

/-- An outcome without places, given what becomes of a result. -/
def Fault.outcome {α β : Type} (convert : α → β) : Except Fault α → Except Fault β
  | .ok result => .ok (convert result)
  | .error fault => .error fault.unplaced

open Fault (outcome)

/-- Places can be taken away from each of two computations in turn. -/
theorem Fault.outcome_bind {α β γ δ : Type} {first : Except Fault α}
    {further : α → Except Fault β} {convert : α → γ} {others : γ → Except Fault δ} {last : β → δ}
    (commutes : ∀ result, others (convert result) = outcome last (further result)) :
    (outcome convert first >>= others) = outcome last (first >>= further) := by
  cases first with
  | error fault => rfl
  | ok result => exact commutes result

/-- Outcomes that are the same up to places are the same result, or have the same cause. -/
theorem Fault.cases_of_outcome {α : Type} {first second : Except Fault α}
    (same : outcome id second = outcome id first) :
    (∃ result, first = .ok result ∧ second = .ok result) ∨
      ∃ fault other, first = .error fault ∧ second = .error other ∧ other.cause = fault.cause := by
  cases first with
  | ok result =>
      cases second with
      | ok other =>
          cases same
          exact .inl ⟨_, rfl, rfl⟩
      | error other => cases same
  | error fault =>
      cases second with
      | ok other => cases same
      | error other =>
          have unplaced : other.unplaced = fault.unplaced := Except.error.inj same
          have causes : other.unplaced.cause = fault.unplaced.cause := by rw [unplaced]
          exact .inr ⟨fault, other, rfl, rfl, causes⟩

@[simp] theorem Frame.isElement_unplaced (frame : Frame) :
    frame.unplaced.isElement = frame.isElement := by
  cases frame <;> rfl

namespace OpenElement

/-- Whether a key is in use does not depend on places. -/
theorem addNamed_unplaced (element : OpenElement) (name : String) (value : Node) (span : Span) :
    element.unplaced.addNamed name value {} =
      outcome unplaced (element.addNamed name value span) := by
  have found : element.unplaced.uses.find? (·.key == Script.underscore name) =
      (element.uses.find? (·.key == Script.underscore name)).map KeyUse.unplaced :=
    List.find?_map ..
  unfold addNamed
  simp only [found]
  cases element.uses.find? (·.key == Script.underscore name) with
  | none => rfl
  | some use => rfl

end OpenElement

namespace Assembly

theorem place_unplaced (assembly : Assembly) (node : Node) :
    assembly.unplaced.place node = (assembly.place node).unplaced := by
  obtain ⟨rest, lastSpan, root, frames⟩ := assembly
  cases frames with
  | nil => rfl
  | cons frame outer => cases frame <;> rfl

theorem unexpected_unplaced (assembly : Assembly) (expected : Expectation) :
    assembly.unplaced.unexpected expected = (assembly.unexpected expected).unplaced := by
  obtain ⟨rest, lastSpan, root, frames⟩ := assembly
  cases rest <;> rfl

theorem expect_unplaced (assembly : Assembly) (kind : TokenKind) :
    assembly.unplaced.expect kind =
      outcome (fun taken => (taken.1.unplaced, taken.2.unplaced)) (assembly.expect kind) := by
  obtain ⟨rest, lastSpan, root, frames⟩ := assembly
  cases rest with
  | nil => rfl
  | cons token following =>
      by_cases isKind : token.kind = kind
      · simp [expect, unplaced, Token.unplaced, isKind, outcome]
      · simp [expect, unplaced, Token.unplaced, isKind, outcome, unexpected, Fault.unplaced, here]

theorem openElement_unplaced (assembly : Assembly) :
    assembly.unplaced.openElement = outcome unplaced assembly.openElement := by
  unfold openElement
  rw [expect_unplaced]
  refine Fault.outcome_bind fun ⟨mark, marked⟩ => ?_
  simp only
  rw [expect_unplaced]
  refine Fault.outcome_bind fun ⟨name, named⟩ => ?_
  have count : assembly.unplaced.frames.countP Frame.isElement =
      assembly.frames.countP Frame.isElement := by
    simp [unplaced, List.countP_map, Function.comp_def]
  simp only [count]
  split
  · rfl
  · rfl

theorem stepContent_unplaced (assembly : Assembly) (token : Token) (following : List Token) :
    assembly.unplaced.stepContent token.unplaced (following.map Token.unplaced) =
      outcome unplaced (assembly.stepContent token following) := by
  obtain ⟨kind, value, span⟩ := token
  cases kind with
  | text => exact congrArg Except.ok (place_unplaced { assembly with rest := following } _)
  | declaration => exact congrArg Except.ok (place_unplaced { assembly with rest := following } _)
  | expressionStart => rfl
  | tagOpen => exact openElement_unplaced assembly
  | tagClose => cases following <;> rfl
  | eof => rfl
  | _ => exact congrArg Except.error (unexpected_unplaced assembly .content)

/-- Adding a named attribute and going on. -/
theorem addNamed_goOn_unplaced (assembly : Assembly) (element : OpenElement) (name : String)
    (value : Node) (span : Span) (rest : List Token) (outer : List Frame) :
    (element.unplaced.addNamed name value {} >>= fun added =>
        .ok (assembly.unplaced.goOn (rest.map Token.unplaced)
          (.attributes added :: outer.map Frame.unplaced))) =
      outcome unplaced (element.addNamed name value span >>= fun added =>
        .ok (assembly.goOn rest (.attributes added :: outer))) := by
  rw [OpenElement.addNamed_unplaced element name value span]
  exact Fault.outcome_bind fun _ => rfl

theorem stepAttribute_unplaced (assembly : Assembly) (element : OpenElement) (outer : List Frame)
    (name : Token) :
    assembly.unplaced.stepAttribute element.unplaced (outer.map Frame.unplaced) name.unplaced =
      outcome unplaced (assembly.stepAttribute element outer name) := by
  have withoutValue := addNamed_goOn_unplaced assembly element name.value (.expression "true")
    name.span assembly.rest outer
  obtain ⟨rest, lastSpan, root, frames⟩ := assembly
  cases rest with
  | nil => exact withoutValue
  | cons first following =>
      obtain ⟨kind, text, span⟩ := first
      cases kind with
      | attrEquals =>
          cases following with
          | nil => rfl
          | cons value more =>
              obtain ⟨kind, text, span⟩ := value
              cases kind with
              | stringLiteral => exact addNamed_goOn_unplaced _ element _ _ name.span more outer
              | _ => rfl
      | _ => exact withoutValue

theorem stepAttributes_unplaced (assembly : Assembly) (element : OpenElement)
    (outer : List Frame) :
    assembly.unplaced.stepAttributes element.unplaced (outer.map Frame.unplaced) =
      outcome unplaced (assembly.stepAttributes element outer) := by
  obtain ⟨rest, lastSpan, root, frames⟩ := assembly
  cases rest with
  | nil => rfl
  | cons token following =>
      obtain ⟨kind, text, span⟩ := token
      cases kind with
      | tagSelfClose =>
          exact congrArg Except.ok
            (place_unplaced ⟨following, lastSpan, root, outer⟩ (element.finish []))
      | attrName => exact stepAttribute_unplaced ⟨following, lastSpan, root, frames⟩ element outer _
      | _ => rfl

theorem closeElement_unplaced (assembly : Assembly) (element : OpenElement) (nodes : List Node)
    (outer : List Frame) :
    assembly.unplaced.closeElement element.unplaced nodes (outer.map Frame.unplaced) =
      outcome unplaced (assembly.closeElement element nodes outer) := by
  unfold closeElement
  rw [expect_unplaced]
  refine Fault.outcome_bind fun ⟨mark, marked⟩ => ?_
  simp only
  rw [expect_unplaced]
  refine Fault.outcome_bind fun ⟨name, named⟩ => ?_
  simp only
  rw [expect_unplaced]
  refine Fault.outcome_bind fun ⟨stop, stopped⟩ => ?_
  have sameName : name.unplaced.value = element.unplaced.name ↔ name.value = element.name := Iff.rfl
  simp only [sameName]
  split
  · exact congrArg Except.ok (place_unplaced (stopped.goOn stopped.rest outer) _)
  · rfl

theorem stepChildren_unplaced (assembly : Assembly) (element : OpenElement) (nodes : List Node)
    (outer : List Frame) :
    assembly.unplaced.stepChildren element.unplaced nodes (outer.map Frame.unplaced) =
      outcome unplaced (assembly.stepChildren element nodes outer) := by
  have content := stepContent_unplaced assembly
  have closing := closeElement_unplaced assembly element nodes outer
  obtain ⟨rest, lastSpan, root, frames⟩ := assembly
  cases rest with
  | nil => rfl
  | cons token following =>
      obtain ⟨kind, text, span⟩ := token
      have child := content ⟨kind, text, span⟩ following
      cases kind with
      | tagClose => exact closing
      | eof => rfl
      | _ => exact child

theorem finishPieces_unplaced (assembly : Assembly) (purpose : Purpose) (pieces : List Node) :
    assembly.unplaced.finishPieces purpose.unplaced pieces =
      outcome unplaced (assembly.finishPieces purpose pieces) := by
  have placed := place_unplaced assembly
  obtain ⟨rest, lastSpan, root, frames⟩ := assembly
  cases purpose with
  | child =>
      unfold finishPieces
      cases Node.ofPieces pieces with
      | none => rfl
      | some node => exact congrArg Except.ok (placed node)
  | value name nameSpan span =>
      cases frames with
      | nil => rfl
      | cons frame outer =>
          cases frame with
          | attributes element =>
              simp only [finishPieces, unplaced, Purpose.unplaced, List.map_cons, Frame.unplaced]
              cases Node.ofPieces pieces with
              | none => rfl
              | some value =>
                  exact addNamed_goOn_unplaced ⟨rest, lastSpan, root, .attributes element :: outer⟩
                    element name value nameSpan rest outer
          | children element nodes => rfl
          | pieces purpose nodes => rfl
  | spread span =>
      cases frames with
      | nil => rfl
      | cons frame outer =>
          cases frame with
          | attributes element => cases pieces <;> rfl
          | children element nodes => rfl
          | pieces purpose nodes => rfl

theorem stepPieces_unplaced (assembly : Assembly) (purpose : Purpose) (nodes : List Node)
    (outer : List Frame) :
    assembly.unplaced.stepPieces purpose.unplaced nodes (outer.map Frame.unplaced) =
      outcome unplaced (assembly.stepPieces purpose nodes outer) := by
  have opening := openElement_unplaced assembly
  obtain ⟨rest, lastSpan, root, frames⟩ := assembly
  cases rest with
  | nil => rfl
  | cons token following =>
      obtain ⟨kind, text, span⟩ := token
      cases kind with
      | tagOpen => exact opening
      | expressionEnd =>
          exact finishPieces_unplaced ⟨following, lastSpan, root, outer⟩ purpose nodes.reverse
      | _ => rfl

/-- A step that goes on. -/
theorem map_more_unplaced {stepped other : Except Fault Assembly}
    (same : other = outcome unplaced stepped) :
    other.map Progress.more = outcome Progress.unplaced (stepped.map .more) := by
  subst same
  cases stepped <;> rfl

/-- A step does not depend on places, but for those in its fault. -/
theorem step_unplaced (assembly : Assembly) :
    assembly.unplaced.step = outcome Progress.unplaced assembly.step := by
  unfold step
  cases frames : assembly.frames with
  | nil =>
      cases rest : assembly.rest with
      | nil => simp [unplaced, frames, rest, outcome, Progress.unplaced]
      | cons token following =>
          have content := map_more_unplaced (stepContent_unplaced assembly token following)
          simp only [unplaced, frames, rest, List.map_nil, List.map_cons] at content ⊢
          by_cases isEnd : token.kind = .eof
          · simp [isEnd, Token.unplaced, outcome, Progress.unplaced]
          · have goesOn : token.unplaced.kind ≠ .eof := isEnd
            simp only [isEnd, goesOn, if_false]
            exact content
  | cons frame outer =>
      have others : assembly.unplaced.frames = frame.unplaced :: outer.map Frame.unplaced := by
        simp [unplaced, frames]
      rw [others]
      cases frame with
      | attributes element =>
          exact map_more_unplaced (stepAttributes_unplaced assembly element outer)
      | children element nodes =>
          exact map_more_unplaced (stepChildren_unplaced assembly element nodes outer)
      | pieces purpose nodes =>
          exact map_more_unplaced (stepPieces_unplaced assembly purpose nodes outer)

/-- A whole run does not depend on places, but for those in its fault. -/
theorem run_unplaced (assembly : Assembly) :
    assembly.unplaced.run = outcome id assembly.run := by
  fun_induction run assembly with
  | case1 assembly fault stepped =>
      refine run_of_fault ?_
      rw [step_unplaced, stepped]
      rfl
  | case2 assembly template stepped =>
      refine run_of_done ?_
      rw [step_unplaced, stepped]
      rfl
  | case3 assembly next stepped inductionHypothesis =>
      rw [← inductionHypothesis]
      refine run_of_step ?_
      rw [step_unplaced, stepped]
      rfl

end Assembly

/-- Tokens that are the same up to places make the same template, or are rejected for the
same cause. -/
theorem Template.ofTokens_cases_of_unplaced {tokens others : List Token}
    (same : others.map Token.unplaced = tokens.map Token.unplaced) :
    (∃ template, Template.ofTokens tokens = .ok template ∧
        Template.ofTokens others = .ok template) ∨
      ∃ fault other, Template.ofTokens tokens = .error fault ∧
        Template.ofTokens others = .error other ∧ other.cause = fault.cause := by
  have start (tokens : List Token) : (Assembly.start tokens).unplaced =
      { rest := tokens.map Token.unplaced } := rfl
  have made : outcome id (Template.ofTokens others) = outcome id (Template.ofTokens tokens) := by
    rw [Template.ofTokens, Template.ofTokens, ← Assembly.run_unplaced, ← Assembly.run_unplaced,
      start, start, same]
  exact Fault.cases_of_outcome made

end MarkupTemplate
