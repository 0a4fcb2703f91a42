import MarkupTemplate.Proofs.Component.Endings

/-!
# Frames of context values

Rendering a component adds a frame and drops it again, however the rendering
ends. Everything else that is rendered works on the innermost frame, or adds a
first one. So the frames around a call are never touched by it, and at the top
there is a frame only after a value was bound outside every component.
-/

namespace MarkupTemplate

namespace ContextStack

variable {α : Type} {before middle after : ContextStack α}

/-- Whether only the innermost frame may have changed. Where there was no frame,
one may have been added. -/
def KeepsOuter (before after : ContextStack α) : Prop :=
  match before.frames with
  | [] => after.frames.length ≤ 1
  | _ :: outer => ∃ frame, after.frames = frame :: outer

theorem KeepsOuter.refl (stack : ContextStack α) : stack.KeepsOuter stack := by
  unfold KeepsOuter
  split
  next none => simp [none]
  next frame outer some => exact ⟨frame, some⟩

theorem KeepsOuter.trans (first : before.KeepsOuter middle) (second : middle.KeepsOuter after) :
    before.KeepsOuter after := by
  unfold KeepsOuter at first ⊢
  split at first
  next =>
    cases frames : middle.frames with
    | nil => simpa [KeepsOuter, frames] using second
    | cons frame outer =>
        obtain rfl : outer = [] := by simpa [frames] using first
        obtain ⟨changed, left⟩ : ∃ changed, after.frames = [changed] := by
          simpa [KeepsOuter, frames] using second
        simp [left]
  next =>
    obtain ⟨frame, frames⟩ := first
    simpa [KeepsOuter, frames] using second

/-- Frames do not vanish. -/
theorem KeepsOuter.ne_nil (keeps : before.KeepsOuter after) (present : before.frames ≠ []) :
    after.frames ≠ [] := by
  obtain ⟨frame, outer, frames⟩ := List.exists_cons_of_ne_nil present
  obtain ⟨changed, left⟩ : ∃ changed, after.frames = changed :: outer := by
    simpa [KeepsOuter, frames] using keeps
  simp [left]

/-- Where there is at most one frame, there is at most one afterwards. -/
theorem KeepsOuter.depth_le_one (keeps : before.KeepsOuter after) (few : before.depth ≤ 1) :
    after.depth ≤ 1 := by
  unfold KeepsOuter at keeps
  split at keeps
  next => exact keeps
  next frame outer frames =>
    obtain ⟨changed, left⟩ := keeps
    simpa [depth, frames, left] using few

theorem keepsOuter_create (stack : ContextStack α) (name : String) (value : α) :
    stack.KeepsOuter (stack.create name value) := by
  unfold KeepsOuter create
  split <;> simp [*]

theorem create_ne_nil (stack : ContextStack α) (name : String) (value : α) :
    (stack.create name value).frames ≠ [] := by
  unfold create
  split <;> simp

/-- Dropping a frame undoes adding it, whatever was bound in it. -/
theorem pop_of_push (keeps : before.push.KeepsOuter after) : after.pop = before := by
  obtain ⟨frame, left⟩ : ∃ frame, after.frames = frame :: before.frames := keeps
  simp [pop, left]

end ContextStack

namespace Rendering

variable {stage : Stage} {render more less : Rendering} {surroundings : Surroundings}
  {contexts left : Contexts} {operation : Operation} {operations : List Operation}
  {buffer : Buffer} {outcome : Outcome Markup}

/-- Whether rendering leaves all frames but the innermost one as they are. -/
def Keeps (render : Rendering) : Prop :=
  ∀ surroundings operations (contexts : Contexts),
    contexts.KeepsOuter (render surroundings operations contexts).2

theorem Keeps.deferred (keeps : render.Keeps) (content : Deferred) (contexts : Contexts) :
    contexts.KeepsOuter (render.deferred content contexts).2 := by
  cases content
  exact keeps _ _ _

/-- A call of a component leaves every frame as it is. -/
theorem Keeps.call_component (keeps : render.Keeps) {name : String}
    (isComponent : isComponentCall name) (props : Props) (content : Option Deferred)
    (contexts : Contexts) : (render.call stage name props content contexts).2 = contexts := by
  unfold Rendering.call
  rw [if_pos isComponent]
  split
  next => rfl
  next => exact ContextStack.pop_of_push (keeps _ _ _)

theorem Keeps.call (keeps : render.Keeps) (name : String) (props : Props)
    (content : Option Deferred) (contexts : Contexts) :
    contexts.KeepsOuter (render.call stage name props content contexts).2 := by
  cases isComponent : isComponentCall name with
  | true =>
      rw [keeps.call_component isComponent]
      exact .refl contexts
  | false =>
      unfold Rendering.call
      rw [if_neg (by simp [isComponent])]
      cases content with
      | none => exact .refl contexts
      | some content => exact keeps.deferred content contexts

theorem Keeps.perform (keeps : render.Keeps) (stage : Stage) (surroundings : Surroundings)
    (contexts : Contexts) (operation : Operation) :
    contexts.KeepsOuter (render.perform stage surroundings contexts operation).2 := by
  cases operation with
  | place =>
      simp only [Rendering.perform]
      split
      next => exact .refl contexts
      next content received => exact keeps.deferred content contexts
  | tag name props supply => exact keeps.call name props _ contexts
  | provide name value => exact contexts.keepsOuter_create name value
  | provideProp name => exact contexts.keepsOuter_create name _
  | use name =>
      simp only [Rendering.perform]
      split <;> exact .refl contexts
  | attempt body =>
      have within := keeps surroundings body contexts
      simp only [Rendering.perform]
      split <;> next rendered => simpa [rendered] using within
  | depth => exact .refl contexts
  | prop name => exact .refl contexts
  | fail message => exact .refl contexts
  | abort => exact .refl contexts
  | append content => exact .refl contexts

theorem Keeps.performAll (keeps : render.Keeps) (stage : Stage) (surroundings : Surroundings)
    (buffer : Buffer) (contexts : Contexts) (operations : List Operation) :
    contexts.KeepsOuter (render.performAll stage surroundings buffer contexts operations).2 := by
  induction operations generalizing buffer contexts with
  | nil => exact .refl contexts
  | cons operation operations inductionHypothesis =>
      have first := keeps.perform stage surroundings contexts operation
      rcases performAll_cons_cases (Prod.eta _).symm with
        ⟨content, middle, performed, rest⟩ | ⟨stopped, performed, -⟩
      · rw [performed] at first
        have second := inductionHypothesis (buffer.append content) middle
        rw [rest] at second
        exact first.trans second
      · rw [performed] at first
        exact first

end Rendering

namespace Stage

variable {stage : Stage} {surroundings : Surroundings} {contexts left : Contexts}
  {operation : Operation} {operations : List Operation} {outcome : Outcome Markup}

/-- Rendering leaves all frames but the innermost one as they are. -/
theorem keeps_render (stage : Stage) (limit : Nat) : (stage.render limit).Keeps := by
  induction limit with
  | zero => exact fun _ _ contexts => .refl contexts
  | succ limit inductionHypothesis =>
      exact fun surroundings operations contexts =>
        inductionHypothesis.performAll stage surroundings {} contexts operations

/-! ### Bindings outside every component -/

/-- Whether rendering operations binds a context value outside every component
that is called on the way: by an operation of the list, or within content that is
placed there or handed to an element. -/
inductive Binds (stage : Stage) : Surroundings → Contexts → List Operation → Prop where
  | provide {surroundings : Surroundings} {contexts : Contexts} {rest : List Operation}
      {name : String} {value : Json} :
      Binds stage surroundings contexts (.provide name value :: rest)
  | provideProp {surroundings : Surroundings} {contexts : Contexts} {rest : List Operation}
      {name : String} : Binds stage surroundings contexts (.provideProp name :: rest)
  | place {surroundings : Surroundings} {contexts : Contexts} {rest body : List Operation}
      {props : Props} {inner : Option Deferred}
      (received : surroundings.content = some (.mk body props inner))
      (binds : Binds stage ⟨props, inner⟩ contexts body) :
      Binds stage surroundings contexts (.place :: rest)
  | element {surroundings : Surroundings} {contexts : Contexts} {rest body : List Operation}
      {name : String} {props written : Props} {supply : Supply} {inner : Option Deferred}
      (isElement : isComponentCall name = false)
      (supplied : surroundings.supplied supply = some (.mk body written inner))
      (binds : Binds stage ⟨written, inner⟩ contexts body) :
      Binds stage surroundings contexts (.tag name props supply :: rest)
  | attempt {surroundings : Surroundings} {contexts : Contexts} {rest body : List Operation}
      (binds : Binds stage surroundings contexts body) :
      Binds stage surroundings contexts (.attempt body :: rest)
  | later {surroundings : Surroundings} {contexts left : Contexts} {operation : Operation}
      {rest : List Operation} {content : Content}
      (performed : stage.Performs surroundings contexts operation (.done content) left)
      (binds : Binds stage surroundings left rest) :
      Binds stage surroundings contexts (operation :: rest)

/-- Whether one of several operations that are rendered in turn at the top binds
a context value outside every component. -/
inductive BindsInTurn (stage : Stage) : Contexts → List Operation → Prop where
  | here {contexts : Contexts} {operation : Operation} {rest : List Operation}
      (binds : stage.Binds {} contexts [operation]) :
      BindsInTurn stage contexts (operation :: rest)
  | later {contexts left : Contexts} {operation : Operation} {rest : List Operation}
      {outcome : Outcome Markup}
      (renders : stage.Renders {} contexts {} [operation] outcome left)
      (binds : BindsInTurn stage left rest) :
      BindsInTurn stage contexts (operation :: rest)

/-- Operations that end have performed the first one, and a frame that it leaves
stays. -/
theorem exists_performed
    (renders : stage.Renders surroundings contexts buffer (operation :: operations) outcome left) :
    ∃ content middle, stage.Performs surroundings contexts operation content middle ∧
      (middle.frames ≠ [] → left.frames ≠ []) := by
  rcases renders_cons_iff.mp renders with
    ⟨content, middle, performs, -, limit, rest⟩ | ⟨stopped, performs, -⟩
  · refine ⟨_, middle, performs, fun present => ?_⟩
    have keeps := (stage.keeps_render limit).performAll stage surroundings
      (buffer.append content) middle operations
    rw [rest] at keeps
    exact keeps.ne_nil present
  · exact ⟨stopped, left, performs, id⟩

/-- Operations that bind a value outside every component leave a frame. -/
theorem Binds.ne_nil (binds : stage.Binds surroundings contexts operations)
    (renders : stage.Renders surroundings contexts buffer operations outcome left) :
    left.frames ≠ [] := by
  induction binds generalizing buffer outcome left with
  | provide =>
      obtain ⟨content, middle, performs, stays⟩ := exists_performed renders
      cases (performs_iff_of_plain (fun _ => rfl) (by simp)).mp performs
      exact stays (ContextStack.create_ne_nil _ _ _)
  | provideProp =>
      obtain ⟨content, middle, performs, stays⟩ := exists_performed renders
      cases (performs_iff_of_plain (fun _ => rfl) (by simp)).mp performs
      exact stays (ContextStack.create_ne_nil _ _ _)
  | place received _ inductionHypothesis =>
      obtain ⟨content, middle, performs, stays⟩ := exists_performed renders
      obtain ⟨_, _, rendersBody, -, rfl⟩ := (performs_place_iff received).mp performs
      exact stays (inductionHypothesis rendersBody)
  | element isElement supplied _ inductionHypothesis =>
      obtain ⟨content, middle, performs, stays⟩ := exists_performed renders
      obtain ⟨_, _, rendersBody, -, rfl⟩ := (performs_element_iff isElement supplied).mp performs
      exact stays (inductionHypothesis rendersBody)
  | attempt _ inductionHypothesis =>
      obtain ⟨content, middle, performs, stays⟩ := exists_performed renders
      obtain ⟨_, _, rendersBody, -, rfl⟩ := performs_attempt_iff.mp performs
      exact stays (inductionHypothesis rendersBody)
  | later performed _ inductionHypothesis =>
      rcases renders_cons_iff.mp renders with
        ⟨content, middle, performs, rest⟩ | ⟨stopped, performs, same⟩
      · obtain ⟨-, rfl⟩ := performed.unique performs
        exact inductionHypothesis rest
      · obtain ⟨rfl, -⟩ := performed.unique performs
        cases same

end Stage

/-- Whether rendering leaves a first frame only by binding a value outside every
component. -/
def Rendering.Exposes (render : Rendering) (stage : Stage) : Prop :=
  ∀ surroundings operations contexts, contexts.frames = [] →
    (render surroundings operations contexts).2.frames ≠ [] →
    stage.Binds surroundings contexts operations

namespace Rendering

variable {stage : Stage} {render : Rendering} {contexts : Contexts}

/-- An operation that leaves a first frame binds a value outside every component. -/
theorem Exposes.perform (exposes : render.Exposes stage) (keeps : render.Keeps)
    (surroundings : Surroundings) (operation : Operation) (rest : List Operation)
    (empty : contexts.frames = [])
    (present : (render.perform stage surroundings contexts operation).2.frames ≠ []) :
    stage.Binds surroundings contexts (operation :: rest) := by
  cases operation with
  | place =>
      simp only [Rendering.perform] at present
      split at present
      next => exact absurd empty present
      next content received =>
        cases content
        exact .place received (exposes _ _ _ empty present)
  | tag name props supply =>
      simp only [Rendering.perform] at present
      cases isComponent : isComponentCall name with
      | true =>
          rw [keeps.call_component isComponent] at present
          exact absurd empty present
      | false =>
          simp only [Rendering.call, isComponent, Bool.false_eq_true, if_false] at present
          split at present
          next => exact absurd empty present
          next content supplied =>
            cases content
            exact .element isComponent supplied (exposes _ _ _ empty present)
  | provide name value => exact .provide
  | provideProp name => exact .provideProp
  | use name =>
      simp only [Rendering.perform] at present
      split at present <;> exact absurd empty present
  | attempt body =>
      rw [perform_attempt] at present
      exact .attempt (exposes _ _ _ empty present)
  | depth => exact absurd empty present
  | prop name => exact absurd empty present
  | fail message => exact absurd empty present
  | abort => exact absurd empty present
  | append content => exact absurd empty present

end Rendering

namespace Stage

variable {stage : Stage} {surroundings : Surroundings} {contexts left : Contexts}
  {operation : Operation} {operations : List Operation} {buffer : Buffer}
  {outcome : Outcome Markup}

/-- Operations that leave a first frame bind a value outside every component. -/
theorem exposes_performAll {limit : Nat} (exposes : (stage.render limit).Exposes stage)
    (empty : contexts.frames = [])
    (rendered : (stage.render limit).performAll stage surroundings buffer contexts operations =
      (outcome, left)) (present : left.frames ≠ []) :
    stage.Binds surroundings contexts operations := by
  induction operations generalizing buffer contexts with
  | nil =>
      cases rendered
      exact absurd empty present
  | cons operation operations inductionHypothesis =>
      have first := exposes.perform (stage.keeps_render limit) surroundings operation operations
        empty
      rcases Rendering.performAll_cons_cases rendered with
        ⟨content, middle, performed, rest⟩ | ⟨stopped, performed, -⟩
      · rw [performed] at first
        by_cases stays : middle.frames = []
        · exact .later ⟨by simp, limit, performed⟩ (inductionHypothesis stays rest)
        · exact first stays
      · rw [performed] at first
        exact first present

theorem exposes_render (stage : Stage) (limit : Nat) : (stage.render limit).Exposes stage := by
  induction limit with
  | zero => exact fun _ _ _ empty present => absurd empty present
  | succ limit inductionHypothesis =>
      exact fun _ _ _ empty => exposes_performAll inductionHypothesis empty rfl

/-- Operations that end leave a frame exactly if there was one, or if they bind a
value outside every component. -/
theorem Renders.ne_nil_iff
    (renders : stage.Renders surroundings contexts {} operations outcome left) :
    left.frames ≠ [] ↔ contexts.frames ≠ [] ∨ stage.Binds surroundings contexts operations := by
  obtain ⟨limit, rendered⟩ := renders.2
  have keeps := (stage.keeps_render limit).performAll stage surroundings {} contexts operations
  rw [rendered] at keeps
  constructor
  · intro present
    by_cases empty : contexts.frames = []
    · exact .inr (exposes_performAll (stage.exposes_render limit) empty rendered present)
    · exact .inl empty
  · rintro (earlier | binds)
    · exact keeps.ne_nil earlier
    · exact binds.ne_nil renders

/-! ### Steps at the top -/

/-- Behind steps that end, there is at most one frame more than none, and there is
one exactly if there was one before or a value has been bound outside every
component. -/
theorem depth_of_steps {limit : Nat} (few : contexts.depth ≤ 1)
    (ends : ∀ result ∈ stage.steps contexts operations limit, result.1 ≠ .tooDeep)
    (last : (stage.steps contexts operations limit).getLast? = some (outcome, left)) :
    left.depth ≤ 1 ∧
      (left.frames ≠ [] ↔ contexts.frames ≠ [] ∨ stage.BindsInTurn contexts operations) := by
  induction operations generalizing contexts with
  | nil => cases last
  | cons operation operations inductionHypothesis =>
      simp only [steps, List.forall_mem_cons] at ends last
      obtain ⟨endsHere, endsLater⟩ := ends
      have renders : stage.Renders {} contexts {} [operation] _ _ :=
        exists_render_iff.mp ⟨endsHere, limit, rfl⟩
      have keeps := stage.keeps_render limit {} [operation] contexts
      have fewHere := keeps.depth_le_one few
      have framesHere := renders.ne_nil_iff
      have turns : stage.BindsInTurn contexts (operation :: operations) ↔
          stage.Binds {} contexts [operation] ∨
            stage.BindsInTurn (stage.render limit {} [operation] contexts).2 operations := by
        constructor
        · intro binds
          cases binds with
          | here binds => exact .inl binds
          | later otherRenders binds =>
              obtain ⟨-, rfl⟩ := renders.unique otherRenders
              exact .inr binds
        · rintro (binds | binds)
          · exact .here binds
          · exact .later renders binds
      cases operations with
      | nil =>
          obtain ⟨rfl, rfl⟩ := Prod.mk.inj (Option.some.inj last)
          refine ⟨fewHere, framesHere.trans (or_congr Iff.rfl ?_)⟩
          rw [turns, or_iff_left]
          rintro ⟨⟩
      | cons next operations =>
          rw [List.getLast?_cons_of_ne_nil (by simp [steps])] at last
          obtain ⟨fewLeft, framesLeft⟩ := inductionHypothesis fewHere endsLater last
          exact ⟨fewLeft, by rw [framesLeft, framesHere, turns, or_assoc]⟩

/-- Frames do not leak. A call of a component leaves all of them as they were. A
call of an element and operations in a row change the innermost one only, or add
a first one. Behind steps at the top there is at most one, and there is one
exactly if a value has been bound outside every component. -/
theorem frames_never_leak (stage : Stage) (limit : Nat) :
    (∀ name props content contexts, isComponentCall name = true →
      ((stage.render limit).call stage name props content contexts).2 = contexts) ∧
    (∀ name props content (contexts : Contexts), isComponentCall name = false →
      contexts.KeepsOuter ((stage.render limit).call stage name props content contexts).2) ∧
    (∀ surroundings operations (contexts : Contexts),
      contexts.KeepsOuter (stage.render limit surroundings operations contexts).2) ∧
    (∀ operations outcome left,
      (stage.steps {} operations limit).getLast? = some (outcome, left) →
      (∀ result ∈ stage.steps {} operations limit, result.1 ≠ .tooDeep) →
      (left.depth = 0 ∨ left.depth = 1) ∧
        (left.depth = 1 ↔ stage.BindsInTurn {} operations)) := by
  have keeps := stage.keeps_render limit
  refine ⟨?_, ?_, keeps, ?_⟩
  · exact fun name props content contexts isComponent =>
      keeps.call_component isComponent props content contexts
  · exact fun name props content contexts _ => keeps.call name props content contexts
  · intro operations outcome left last ends
    have none : ContextStack.depth ({} : Contexts) ≤ 1 := Nat.zero_le 1
    obtain ⟨few, frames⟩ := depth_of_steps none ends last
    have single : left.depth = 1 ↔ left.frames ≠ [] := by
      rw [← List.length_pos_iff]
      unfold ContextStack.depth at few ⊢
      omega
    refine ⟨by omega, ?_⟩
    rw [single, frames, or_iff_right (by simp)]

/-- A component that binds a value and fails leaves no frame. Content of an element
that binds a value and is aborted leaves one. -/
theorem frames_never_leak_aborted :
    let stage : Stage := { registry := ⟨[("Card", [.provide "leak" .null, .fail "no"])]⟩ }
    let operations : List Operation :=
      [.tag "Card" [] .nothing, .tag "p" [] (.block [.provide "theme" .null, .abort])]
    stage.steps {} operations 3 =
        [(.failed (.host "no"), {}), (.aborted, ⟨[[("theme", .null)]]⟩)] ∧
      stage.BindsInTurn {} operations := by
  intro stage operations
  have results : stage.steps {} operations 3 =
      [(.failed (.host "no"), {}), (.aborted, ⟨[[("theme", .null)]]⟩)] := by rfl
  refine ⟨results, ?_⟩
  obtain ⟨-, binds⟩ := (frames_never_leak stage 3).2.2.2 operations .aborted
    ⟨[[("theme", .null)]]⟩ (by rw [results]; rfl) (by rw [results]; simp)
  exact binds.mp rfl

end Stage
end MarkupTemplate
