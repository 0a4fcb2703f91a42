import MarkupTemplate.Component.Rendering

/-!
# Renderings that end

Rendering is bounded in the depth of nested calls. A rendering that ends under
one bound ends under every greater one, with the same outcome and the same
contexts. `Stage.Renders` and `Stage.Performs` are what is left when the bound is
forgotten, and the results about them say how the ending of an operation follows
from the endings of what is rendered inside of it.
-/

namespace MarkupTemplate

/-- Whether two outcomes are the same failure, abortion or excess. -/
inductive Outcome.SameStop {α β : Type} : Outcome α → Outcome β → Prop where
  | failed (error : RenderError) : SameStop (.failed error) (.failed error)
  | aborted : SameStop .aborted .aborted
  | tooDeep : SameStop .tooDeep .tooDeep

theorem Outcome.map_eq_tooDeep_iff {α β : Type} {convert : α → β} {outcome : Outcome α} :
    outcome.map convert = .tooDeep ↔ outcome = .tooDeep := by
  cases outcome <;> simp [Outcome.map]

/-- What an attempt appends, given how the attempted operations end. -/
def Outcome.caught : Outcome Markup → Outcome Content
  | failed error => .done (.text ("[" ++ error.message ++ "]"))
  | outcome => outcome.map .safe

theorem Outcome.caught_eq_tooDeep_iff {outcome : Outcome Markup} :
    outcome.caught = .tooDeep ↔ outcome = .tooDeep := by
  cases outcome <;> simp [Outcome.caught, Outcome.map]

namespace Rendering

variable {stage : Stage} {render more less : Rendering} {surroundings : Surroundings}
  {contexts left : Contexts} {operation : Operation} {operations : List Operation}
  {buffer : Buffer} {outcome : Outcome Markup}

/-- An attempt renders its operations and catches a failure. -/
theorem perform_attempt (body : List Operation) :
    render.perform stage surroundings contexts (.attempt body) =
      ((render surroundings body contexts).1.caught, (render surroundings body contexts).2) := by
  simp only [perform]
  split
  next rendered => simp [rendered, Outcome.caught]
  next notFailed rendered =>
    rw [rendered]
    cases outcome : (render surroundings body contexts).1 <;> simp_all [Outcome.caught]

/-- The first operation is followed by the others or ends the rendering. -/
theorem performAll_cons_cases
    (rendered : render.performAll stage surroundings buffer contexts (operation :: operations) =
      (outcome, left)) :
    (∃ content middle, render.perform stage surroundings contexts operation =
        (.done content, middle) ∧
      render.performAll stage surroundings (buffer.append content) middle operations =
        (outcome, left)) ∨
    (∃ stopped, render.perform stage surroundings contexts operation = (stopped, left) ∧
      stopped.SameStop outcome) := by
  unfold performAll at rendered
  split at rendered
  next content middle performed => exact .inl ⟨content, middle, performed, rendered⟩
  next error middle performed =>
    cases rendered
    exact .inr ⟨_, performed, .failed error⟩
  next middle performed =>
    cases rendered
    exact .inr ⟨_, performed, .aborted⟩
  next middle performed =>
    cases rendered
    exact .inr ⟨_, performed, .tooDeep⟩

/-! ### Bounds on nested calls -/

/-- Whether one way of rendering agrees with another one wherever that one ends. -/
def Extends (more less : Rendering) : Prop :=
  ∀ surroundings operations contexts, (less surroundings operations contexts).1 ≠ .tooDeep →
    more surroundings operations contexts = less surroundings operations contexts

theorem Extends.deferred (agrees : more.Extends less) {content : Deferred}
    (ends : (less.deferred content contexts).1 ≠ .tooDeep) :
    more.deferred content contexts = less.deferred content contexts := by
  cases content
  exact agrees _ _ _ ends

theorem Extends.call (agrees : more.Extends less) {name : String} {props : Props}
    {content : Option Deferred}
    (ends : (less.call stage name props content contexts).1 ≠ .tooDeep) :
    more.call stage name props content contexts = less.call stage name props content contexts := by
  unfold Rendering.call at ends ⊢
  split
  next isComponent =>
    rw [if_pos isComponent] at ends
    split
    next => rfl
    next body registered =>
      simp only [registered] at ends
      simp only [agrees _ _ _ ends]
  next isElement =>
    rw [if_neg isElement] at ends
    cases content with
    | none => rfl
    | some content =>
        simp only [ne_eq, Outcome.map_eq_tooDeep_iff] at ends
        simp only [agrees.deferred ends]

theorem Extends.perform (agrees : more.Extends less)
    (ends : (less.perform stage surroundings contexts operation).1 ≠ .tooDeep) :
    more.perform stage surroundings contexts operation =
      less.perform stage surroundings contexts operation := by
  cases operation with
  | place =>
      simp only [Rendering.perform] at ends ⊢
      split
      next => rfl
      next content received =>
        simp only [received, ne_eq, Outcome.map_eq_tooDeep_iff] at ends
        simp only [agrees.deferred ends]
  | tag name props supply =>
      simp only [Rendering.perform, ne_eq, Outcome.map_eq_tooDeep_iff] at ends ⊢
      simp only [agrees.call ends]
  | attempt body =>
      simp only [perform_attempt, ne_eq, Outcome.caught_eq_tooDeep_iff] at ends ⊢
      simp only [agrees _ _ _ ends]
  | depth => rfl
  | provide name value => rfl
  | provideProp name => rfl
  | use name => rfl
  | prop name => rfl
  | fail message => rfl
  | abort => rfl
  | append content => rfl

theorem Extends.performAll (agrees : more.Extends less)
    (ends : (less.performAll stage surroundings buffer contexts operations).1 ≠ .tooDeep) :
    more.performAll stage surroundings buffer contexts operations =
      less.performAll stage surroundings buffer contexts operations := by
  induction operations generalizing buffer contexts with
  | nil => rfl
  | cons operation operations inductionHypothesis =>
      have first : (less.perform stage surroundings contexts operation).1 ≠ .tooDeep := by
        intro excess
        unfold Rendering.performAll at ends
        split at ends
        all_goals next performed => simp [performed] at excess ends
      unfold Rendering.performAll at ends ⊢
      rw [agrees.perform first]
      split
      next content middle performed =>
        rw [performed] at ends
        exact inductionHypothesis ends
      all_goals rfl

end Rendering

namespace Stage

variable {stage : Stage} {surroundings : Surroundings} {contexts left : Contexts}
  {operation : Operation} {operations body : List Operation} {buffer : Buffer}
  {content : Outcome Content} {outcome : Outcome Markup} {name : String} {props written : Props}
  {supply : Supply} {inner : Option Deferred}

/-- A greater bound on nested calls does not change a rendering that ends. -/
theorem extends_render (stage : Stage) {limit greater : Nat} (atMost : limit ≤ greater) :
    (stage.render greater).Extends (stage.render limit) := by
  induction limit generalizing greater with
  | zero => exact fun _ _ _ ends => absurd rfl ends
  | succ limit inductionHypothesis =>
      obtain ⟨greater, rfl⟩ := Nat.exists_eq_succ_of_ne_zero (Nat.ne_zero_of_lt atMost)
      exact fun _ _ _ ends =>
        (inductionHypothesis (Nat.le_of_succ_le_succ atMost)).performAll ends

/-- Whether performing an operation ends, and how. -/
def Performs (stage : Stage) (surroundings : Surroundings) (contexts : Contexts)
    (operation : Operation) (content : Outcome Content) (left : Contexts) : Prop :=
  content ≠ .tooDeep ∧
    ∃ limit, (stage.render limit).perform stage surroundings contexts operation = (content, left)

/-- Whether rendering operations behind what a buffer holds ends, and how. -/
def Renders (stage : Stage) (surroundings : Surroundings) (contexts : Contexts)
    (buffer : Buffer) (operations : List Operation) (outcome : Outcome Markup)
    (left : Contexts) : Prop :=
  outcome ≠ .tooDeep ∧
    ∃ limit, (stage.render limit).performAll stage surroundings buffer contexts operations =
      (outcome, left)

/-- An operation ends in one way only. -/
theorem Performs.unique {other : Outcome Content} {otherLeft : Contexts}
    (first : stage.Performs surroundings contexts operation content left)
    (second : stage.Performs surroundings contexts operation other otherLeft) :
    content = other ∧ left = otherLeft := by
  obtain ⟨ends, limit, performed⟩ := first
  obtain ⟨otherEnds, otherLimit, otherPerformed⟩ := second
  have wider := (stage.extends_render (Nat.le_max_left limit otherLimit)).perform
    (by rwa [performed])
  have otherWider := (stage.extends_render (Nat.le_max_right limit otherLimit)).perform
    (by rwa [otherPerformed])
  simpa [performed, otherPerformed, wider] using otherWider

/-- Operations end in one way only. -/
theorem Renders.unique {other : Outcome Markup} {otherLeft : Contexts}
    (first : stage.Renders surroundings contexts buffer operations outcome left)
    (second : stage.Renders surroundings contexts buffer operations other otherLeft) :
    outcome = other ∧ left = otherLeft := by
  obtain ⟨ends, limit, rendered⟩ := first
  obtain ⟨otherEnds, otherLimit, otherRendered⟩ := second
  have wider := (stage.extends_render (Nat.le_max_left limit otherLimit)).performAll
    (by rwa [rendered])
  have otherWider := (stage.extends_render (Nat.le_max_right limit otherLimit)).performAll
    (by rwa [otherRendered])
  simpa [rendered, otherRendered, wider] using otherWider

/-- What ends under a bound on nested calls ends. -/
theorem exists_render_iff :
    (outcome ≠ .tooDeep ∧
      ∃ limit, stage.render limit surroundings operations contexts = (outcome, left)) ↔
      stage.Renders surroundings contexts {} operations outcome left := by
  constructor
  · rintro ⟨ends, limit, rendered⟩
    cases limit with
    | zero =>
        cases rendered
        exact absurd rfl ends
    | succ limit => exact ⟨ends, limit, rendered⟩
  · rintro ⟨ends, limit, rendered⟩
    exact ⟨ends, limit + 1, rendered⟩

theorem renders_nil_iff :
    stage.Renders surroundings contexts buffer [] outcome left ↔
      outcome = .done buffer.finish ∧ left = contexts := by
  constructor
  · rintro ⟨-, limit, rendered⟩
    cases rendered
    exact ⟨rfl, rfl⟩
  · rintro ⟨rfl, rfl⟩
    exact ⟨by simp, 0, rfl⟩

/-- Operations go on behind the first one, or end with it. -/
theorem renders_cons_iff :
    stage.Renders surroundings contexts buffer (operation :: operations) outcome left ↔
      (∃ content middle, stage.Performs surroundings contexts operation (.done content) middle ∧
        stage.Renders surroundings middle (buffer.append content) operations outcome left) ∨
      (∃ stopped, stage.Performs surroundings contexts operation stopped left ∧
        stopped.SameStop outcome) := by
  constructor
  · rintro ⟨ends, limit, rendered⟩
    rcases Rendering.performAll_cons_cases rendered with
      ⟨content, middle, performed, rest⟩ | ⟨stopped, performed, same⟩
    · exact .inl ⟨content, middle, ⟨by simp, limit, performed⟩, ends, limit, rest⟩
    · refine .inr ⟨stopped, ⟨?_, limit, performed⟩, same⟩
      rintro rfl
      cases same
      exact ends rfl
  · rintro (⟨content, middle, ⟨-, limit, performed⟩, ends, bound, rest⟩ |
      ⟨stopped, ⟨ends, limit, performed⟩, same⟩)
    · -- Both parts are taken under a bound that suffices for either.
      have first := (stage.extends_render (Nat.le_max_left limit bound)).perform
        (by rw [performed]; simp)
      have second := (stage.extends_render (Nat.le_max_right limit bound)).performAll
        (by rwa [rest])
      refine ⟨ends, max limit bound, ?_⟩
      rw [Rendering.performAll, first, performed]
      simp only [second, rest]
    · cases same with
      | failed error => exact ⟨by simp, limit, by rw [Rendering.performAll, performed]⟩
      | aborted => exact ⟨by simp, limit, by rw [Rendering.performAll, performed]⟩
      | tooDeep => exact absurd rfl ends

/-! ### Operations -/

/-- An operation inside of which nothing is rendered ends. -/
theorem performs_iff_of_plain {result : Outcome Content × Contexts}
    (plain : ∀ render : Rendering,
      render.perform stage surroundings contexts operation = result)
    (ends : result.1 ≠ .tooDeep) :
    stage.Performs surroundings contexts operation content left ↔ result = (content, left) := by
  constructor
  · rintro ⟨-, limit, performed⟩
    exact (plain _).symm.trans performed
  · rintro rfl
    exact ⟨ends, 0, plain _⟩

/-- An operation ends as what is rendered inside of it. -/
theorem performs_iff_of_nested {within : Surroundings} {start : Contexts}
    {convert : Outcome Markup → Outcome Content} {resume : Contexts → Contexts}
    (nested : ∀ render : Rendering, render.perform stage surroundings contexts operation =
      (convert (render within body start).1, resume (render within body start).2))
    (excess : ∀ outcome, convert outcome = .tooDeep ↔ outcome = .tooDeep) :
    stage.Performs surroundings contexts operation content left ↔
      ∃ outcome reached, stage.Renders within start {} body outcome reached ∧
        content = convert outcome ∧ left = resume reached := by
  constructor
  · rintro ⟨ends, limit, performed⟩
    rw [nested, Prod.mk.injEq] at performed
    obtain ⟨rfl, rfl⟩ := performed
    exact ⟨_, _, exists_render_iff.mp ⟨mt (excess _).mpr ends, limit, rfl⟩, rfl, rfl⟩
  · rintro ⟨outcome, reached, renders, rfl, rfl⟩
    obtain ⟨ends, limit, rendered⟩ := exists_render_iff.mpr renders
    exact ⟨mt (excess _).mp ends, limit, by rw [nested, rendered]⟩

/-- Content that was received is rendered where it is placed, in the surroundings
in which it is written. -/
theorem performs_place_iff (received : surroundings.content = some (.mk body written inner)) :
    stage.Performs surroundings contexts .place content left ↔
      ∃ outcome reached, stage.Renders ⟨written, inner⟩ contexts {} body outcome reached ∧
        content = outcome.map .safe ∧ left = reached :=
  performs_iff_of_nested (by simp [Rendering.perform, received, Rendering.deferred])
    fun _ => Outcome.map_eq_tooDeep_iff

/-- A component is rendered in a frame of its own. -/
theorem performs_component_iff (isComponent : isComponentCall name = true)
    (registered : stage.registry.get? name = some body) :
    stage.Performs surroundings contexts (.tag name props supply) content left ↔
      ∃ outcome reached, stage.Renders ⟨props, surroundings.supplied supply⟩ contexts.push {}
          body outcome reached ∧
        content = outcome.map .safe ∧ left = reached.pop :=
  performs_iff_of_nested
    (by simp [Rendering.perform, Rendering.call, isComponent, registered])
    fun _ => Outcome.map_eq_tooDeep_iff

/-- An element is built from the content that is rendered first. -/
theorem performs_element_iff (isElement : isComponentCall name = false)
    (supplied : surroundings.supplied supply = some (.mk body written inner)) :
    stage.Performs surroundings contexts (.tag name props supply) content left ↔
      ∃ outcome reached, stage.Renders ⟨written, inner⟩ contexts {} body outcome reached ∧
        content = (outcome.map fun markup => stage.builder name props (some markup)).map .safe ∧
        left = reached :=
  performs_iff_of_nested
    (by simp [Rendering.perform, Rendering.call, isElement, supplied, Rendering.deferred])
    fun _ => Outcome.map_eq_tooDeep_iff.trans Outcome.map_eq_tooDeep_iff

/-- A failure that is caught becomes text. -/
theorem performs_attempt_iff :
    stage.Performs surroundings contexts (.attempt body) content left ↔
      ∃ outcome reached, stage.Renders surroundings contexts {} body outcome reached ∧
        content = outcome.caught ∧ left = reached :=
  performs_iff_of_nested (fun _ => Rendering.perform_attempt body)
    fun _ => Outcome.caught_eq_tooDeep_iff

end Stage
end MarkupTemplate
