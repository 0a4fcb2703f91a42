import MarkupTemplate.Template.Assembly

/-!
# The template that a sequence of tokens makes

Every step of putting tokens together takes at least one token, so the steps
from any state come to an end: either a template is finished or a fault is met.
-/

namespace MarkupTemplate

namespace Assembly

@[simp] theorem rest_goOn (assembly : Assembly) (rest : List Token) (frames : List Frame) :
    (assembly.goOn rest frames).rest = rest := rfl

@[simp] theorem rest_place (assembly : Assembly) (node : Node) :
    (assembly.place node).rest = assembly.rest := by
  unfold place
  split <;> rfl

/-- An expected token is the next one, and it is taken. -/
theorem expect_eq_ok {assembly next : Assembly} {kind : TokenKind} {token : Token}
    (expected : assembly.expect kind = .ok (token, next)) :
    assembly.rest = token :: next.rest ∧ token.kind = kind := by
  unfold expect at expected
  split at expected
  next front =>
    split at expected
    next matched =>
      cases expected
      exact ⟨front, matched⟩
    next => cases expected
  next => cases expected

/-- An opened element takes its `<` and its name. -/
theorem openElement_shrinks {assembly next : Assembly}
    (opened : assembly.openElement = .ok next) : next.rest.length < assembly.rest.length := by
  unfold openElement at opened
  cases first : assembly.expect .tagOpen with
  | error fault => simp [first, bind, Except.bind] at opened
  | ok marked =>
      obtain ⟨mark, marked⟩ := marked
      cases second : marked.expect .tagName with
      | error fault => simp [first, second, bind, Except.bind] at opened
      | ok named =>
          obtain ⟨name, named⟩ := named
          have firstTaken := (expect_eq_ok first).1
          have secondTaken := (expect_eq_ok second).1
          simp only [first, second, bind, Except.bind] at opened
          split at opened
          · cases opened
          · cases opened
            simp only [firstTaken, secondTaken, List.length_cons]
            omega

/-- Reading content takes at least one token, but for an end of input. -/
theorem stepContent_shrinks {assembly next : Assembly} {token : Token} {following : List Token}
    (front : assembly.rest = token :: following) (going : token.kind ≠ .eof)
    (stepped : assembly.stepContent token following = .ok next) :
    next.rest.length < assembly.rest.length := by
  unfold stepContent at stepped
  split at stepped
  · cases stepped
    simp [front]
  · cases stepped
    simp [front]
  · cases stepped
    simp [front]
  · exact openElement_shrinks stepped
  · cases stepped
  next ending => exact absurd ending going
  · cases stepped

/-- What follows the name of an attribute leaves no more tokens than there were. -/
theorem stepAttribute_le {assembly next : Assembly} {element : OpenElement}
    {outer : List Frame} {name : Token}
    (stepped : assembly.stepAttribute element outer name = .ok next) :
    next.rest.length ≤ assembly.rest.length := by
  unfold stepAttribute at stepped
  split at stepped
  next front =>
    split at stepped
    · cases stepped
    · split at stepped
      next value _ _ _ =>
        cases added : element.addNamed name.value (.text value.value) name.span with
        | error fault => simp [added, bind, Except.bind] at stepped
        | ok element =>
            simp only [added, bind, Except.bind, Except.ok.injEq] at stepped
            simp only [← stepped, rest_goOn, front, List.length_cons]
            omega
      · cases stepped
        simp only [rest_goOn, front, List.length_cons]
        omega
      · cases stepped
  next =>
    cases added : element.addNamed name.value (.expression "true") name.span with
    | error fault => simp [added, bind, Except.bind] at stepped
    | ok element =>
        simp only [added, bind, Except.bind, Except.ok.injEq] at stepped
        simp [← stepped]

/-- Reading among attributes takes at least one token. -/
theorem stepAttributes_shrinks {assembly next : Assembly} {element : OpenElement}
    {outer : List Frame} (stepped : assembly.stepAttributes element outer = .ok next) :
    next.rest.length < assembly.rest.length := by
  unfold stepAttributes at stepped
  split at stepped
  · cases stepped
  next front =>
    split at stepped
    · cases stepped
      simp [front]
    · cases stepped
      simp [front]
    · have shorter := stepAttribute_le stepped
      simp only [front, List.length_cons] at shorter ⊢
      omega
    · cases stepped
      simp [front]
    · cases stepped
    · cases stepped

/-- A close tag takes its three tokens. -/
theorem closeElement_shrinks {assembly next : Assembly} {element : OpenElement}
    {nodes : List Node} {outer : List Frame}
    (closed : assembly.closeElement element nodes outer = .ok next) :
    next.rest.length < assembly.rest.length := by
  unfold closeElement at closed
  cases first : assembly.expect .tagClose with
  | error fault => simp [first, bind, Except.bind] at closed
  | ok marked =>
      obtain ⟨mark, marked⟩ := marked
      cases second : marked.expect .tagName with
      | error fault => simp [first, second, bind, Except.bind] at closed
      | ok named =>
          obtain ⟨name, named⟩ := named
          cases third : named.expect .tagEnd with
          | error fault => simp [first, second, third, bind, Except.bind] at closed
          | ok stopped =>
              obtain ⟨stop, stopped⟩ := stopped
              have firstTaken := (expect_eq_ok first).1
              have secondTaken := (expect_eq_ok second).1
              have thirdTaken := (expect_eq_ok third).1
              simp only [first, second, third, bind, Except.bind] at closed
              split at closed
              · cases closed
                simp only [rest_place, rest_goOn, firstTaken, secondTaken, thirdTaken,
                  List.length_cons]
                omega
              · cases closed

/-- Reading among children takes at least one token. -/
theorem stepChildren_shrinks {assembly next : Assembly} {element : OpenElement}
    {nodes : List Node} {outer : List Frame}
    (stepped : assembly.stepChildren element nodes outer = .ok next) :
    next.rest.length < assembly.rest.length := by
  unfold stepChildren at stepped
  split at stepped
  · cases stepped
  next front =>
    split at stepped
    · exact closeElement_shrinks stepped
    · cases stepped
    next _ going => exact stepContent_shrinks front going stepped

/-- Handing on the pieces of an expression takes no token. -/
theorem rest_finishPieces {assembly next : Assembly} {purpose : Purpose} {pieces : List Node}
    (finished : assembly.finishPieces purpose pieces = .ok next) :
    next.rest = assembly.rest := by
  unfold finishPieces at finished
  split at finished
  · cases finished
    cases Node.ofPieces pieces <;> simp
  next name nameSpan span element outer frames =>
    split at finished
    · cases finished
    next value _ =>
      cases added : element.addNamed name value nameSpan with
      | error fault => simp [added, bind, Except.bind] at finished
      | ok element =>
          simp only [added, bind, Except.bind, Except.ok.injEq] at finished
          simp [← finished]
  next =>
    split at finished
    · cases finished
    · cases finished
      rfl
  next =>
    cases finished
    rfl

/-- Reading among the pieces of an expression takes at least one token. -/
theorem stepPieces_shrinks {assembly next : Assembly} {purpose : Purpose} {nodes : List Node}
    {outer : List Frame} (stepped : assembly.stepPieces purpose nodes outer = .ok next) :
    next.rest.length < assembly.rest.length := by
  unfold stepPieces at stepped
  split at stepped
  · cases stepped
  next front =>
    split at stepped
    · cases stepped
      simp [front]
    · exact openElement_shrinks stepped
    · simp [rest_finishPieces stepped, front]
    · cases stepped
    · cases stepped

/-- A step that goes on comes from a part step that goes on. -/
theorem map_more_eq_ok {result : Except Fault Assembly} {next : Assembly}
    (mapped : result.map Progress.more = .ok (.more next)) : result = .ok next := by
  cases result with
  | error fault => cases mapped
  | ok value =>
      cases mapped
      rfl

/-- Every step that goes on takes at least one token. -/
theorem step_shrinks {assembly next : Assembly} (stepped : assembly.step = .ok (.more next)) :
    next.rest.length < assembly.rest.length := by
  unfold step at stepped
  split at stepped
  · exact stepAttributes_shrinks (map_more_eq_ok stepped)
  · exact stepChildren_shrinks (map_more_eq_ok stepped)
  · exact stepPieces_shrinks (map_more_eq_ok stepped)
  · split at stepped
    · cases stepped
    next front =>
      split at stepped
      · cases stepped
      next going => exact stepContent_shrinks front going (map_more_eq_ok stepped)

/-- Puts tokens together until the template is finished or a fault is met. -/
def run (assembly : Assembly) : Except Fault Template :=
  match _stepped : assembly.step with
  | .error fault => .error fault
  | .ok (.done template) => .ok template
  | .ok (.more next) => next.run
termination_by assembly.rest.length
decreasing_by exact step_shrinks _stepped

/-- The element whose opening tag is about to end, so that its children are read
next. -/
def beginsChildren (assembly : Assembly) : Option String :=
  match assembly.frames, assembly.rest with
  | .attributes element :: _, token :: _ =>
      if token.kind = .tagEnd then some element.name else none
  | _, _ => none

/-- The elements whose children are read before the assembly ends, in order,
after those already `met`, which are given last first. -/
def elementsBegun (met : List String) (assembly : Assembly) : List String :=
  let met := assembly.beginsChildren.toList ++ met
  match _stepped : assembly.step with
  | .ok (.more next) => elementsBegun met next
  | _ => met.reverse
termination_by assembly.rest.length
decreasing_by exact step_shrinks _stepped

end Assembly

/-- Puts tokens together into a template. -/
def Template.ofTokens (tokens : List Token) : Except Fault Template :=
  (Assembly.start tokens).run

end MarkupTemplate
