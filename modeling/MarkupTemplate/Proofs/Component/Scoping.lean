import MarkupTemplate.Proofs.Component.Frames

/-!
# Scoped context values

An environment gives every name its value, and nothing is said of frames. The
rules below evaluate operations by handing environments on: a component works in
a copy of its caller's environment, which is forgotten when it ends, and content
works in the environment of the place where it is rendered.

Rendering implements these rules. At every moment the frames together give each
name the value that the environment gives it, so the outcomes are the same,
however steps end. Only an operation that asks for the number of frames could
tell the difference.
-/

namespace MarkupTemplate

/-- The values at hand, by name. -/
abbrev Environment := String → Option Json

/-- The environment without values. -/
def Environment.empty : Environment := fun _ => none

/-- Gives a name a value. -/
def Environment.bind (environment : Environment) (name : String) (value : Json) : Environment :=
  fun other => if other = name then some value else environment other

namespace Stage

/-! ### Evaluation -/

mutual

/-- How an operation ends in an environment, and the environment it leaves. -/
inductive Acts (stage : Stage) :
    Surroundings → Environment → Operation → Outcome Content → Environment → Prop where
  | append {surroundings : Surroundings} {environment : Environment} {content : Content} :
      Acts stage surroundings environment (.append content) (.done content) environment
  | prop {surroundings : Surroundings} {environment : Environment} {name : String} :
      Acts stage surroundings environment (.prop name)
        (.done ((surroundings.props.lookup name).elim .empty fun value =>
          .ofText value.plainText)) environment
  | provide {surroundings : Surroundings} {environment : Environment} {name : String}
      {value : Json} :
      Acts stage surroundings environment (.provide name value) (.done .empty)
        (environment.bind name value)
  | provideProp {surroundings : Surroundings} {environment : Environment} {name : String} :
      Acts stage surroundings environment (.provideProp name) (.done .empty)
        (environment.bind name ((surroundings.props.lookup name).getD .null))
  | use {surroundings : Surroundings} {environment : Environment} {name : String}
      {value : Json} (bound : environment name = some value) :
      Acts stage surroundings environment (.use name) (.done (.ofText value.plainText))
        environment
  | useUnbound {surroundings : Surroundings} {environment : Environment} {name : String}
      (unbound : environment name = none) :
      Acts stage surroundings environment (.use name) (.failed (.contextNotFound name))
        environment
  | fail {surroundings : Surroundings} {environment : Environment} {message : String} :
      Acts stage surroundings environment (.fail message) (.failed (.host message)) environment
  | abort {surroundings : Surroundings} {environment : Environment} :
      Acts stage surroundings environment .abort .aborted environment
  | placeNothing {surroundings : Surroundings} {environment : Environment}
      (nothing : surroundings.content = none) :
      Acts stage surroundings environment .place (.done .empty) environment
  /-- Content is evaluated where it is placed, each time and in the environment of
  that moment. -/
  | place {surroundings : Surroundings} {environment after : Environment}
      {body : List Operation} {written : Props} {inner : Option Deferred}
      {outcome : Outcome Markup}
      (received : surroundings.content = some (.mk body written inner))
      (placed : Evaluates stage ⟨written, inner⟩ environment {} body outcome after) :
      Acts stage surroundings environment .place (outcome.map .safe) after
  | unknownComponent {surroundings : Surroundings} {environment : Environment} {name : String}
      {props : Props} {supply : Supply} (isComponent : isComponentCall name = true)
      (unknown : stage.registry.get? name = none) :
      Acts stage surroundings environment (.tag name props supply)
        (.failed (.unknownComponent name)) environment
  /-- A component starts from its caller's environment, and what it binds is
  forgotten. -/
  | component {surroundings : Surroundings} {environment forgotten : Environment}
      {name : String} {props : Props} {supply : Supply} {body : List Operation}
      {outcome : Outcome Markup} (isComponent : isComponentCall name = true)
      (registered : stage.registry.get? name = some body)
      (rendered : Evaluates stage ⟨props, surroundings.supplied supply⟩ environment {} body
        outcome forgotten) :
      Acts stage surroundings environment (.tag name props supply) (outcome.map .safe)
        environment
  | emptyElement {surroundings : Surroundings} {environment : Environment} {name : String}
      {props : Props} {supply : Supply} (isElement : isComponentCall name = false)
      (nothing : surroundings.supplied supply = none) :
      Acts stage surroundings environment (.tag name props supply)
        (.done (.safe (stage.builder name props none))) environment
  /-- An element evaluates its content once, in the environment at hand. -/
  | element {surroundings : Surroundings} {environment after : Environment} {name : String}
      {props written : Props} {supply : Supply} {body : List Operation}
      {inner : Option Deferred} {outcome : Outcome Markup}
      (isElement : isComponentCall name = false)
      (supplied : surroundings.supplied supply = some (.mk body written inner))
      (rendered : Evaluates stage ⟨written, inner⟩ environment {} body outcome after) :
      Acts stage surroundings environment (.tag name props supply)
        ((outcome.map fun markup => stage.builder name props (some markup)).map .safe) after
  | attempt {surroundings : Surroundings} {environment after : Environment}
      {body : List Operation} {outcome : Outcome Markup}
      (attempted : Evaluates stage surroundings environment {} body outcome after) :
      Acts stage surroundings environment (.attempt body) outcome.caught after

/-- How operations end in an environment, behind what a buffer holds, and the
environment they leave. -/
inductive Evaluates (stage : Stage) :
    Surroundings → Environment → Buffer → List Operation → Outcome Markup → Environment →
      Prop where
  | finish {surroundings : Surroundings} {environment : Environment} {buffer : Buffer} :
      Evaluates stage surroundings environment buffer [] (.done buffer.finish) environment
  | next {surroundings : Surroundings} {environment middle after : Environment}
      {buffer : Buffer} {operation : Operation} {rest : List Operation} {content : Content}
      {outcome : Outcome Markup}
      (acts : Acts stage surroundings environment operation (.done content) middle)
      (further : Evaluates stage surroundings middle (buffer.append content) rest outcome after) :
      Evaluates stage surroundings environment buffer (operation :: rest) outcome after
  | stop {surroundings : Surroundings} {environment after : Environment} {buffer : Buffer}
      {operation : Operation} {rest : List Operation} {stopped : Outcome Content}
      {outcome : Outcome Markup}
      (acts : Acts stage surroundings environment operation stopped after)
      (same : stopped.SameStop outcome) :
      Evaluates stage surroundings environment buffer (operation :: rest) outcome after

end

/-- How single operations end at the top, each in the environment that the one
before it left. -/
inductive Interprets (stage : Stage) :
    Environment → List Operation → List (Outcome Markup) → Prop where
  | done {environment : Environment} : Interprets stage environment [] []
  | step {environment after : Environment} {operation : Operation} {rest : List Operation}
      {outcome : Outcome Markup} {outcomes : List (Outcome Markup)}
      (evaluates : stage.Evaluates {} environment {} [operation] outcome after)
      (further : Interprets stage after rest outcomes) :
      Interprets stage environment (operation :: rest) (outcome :: outcomes)

end Stage

/-! ### Frames and environments -/

namespace ContextStack

theorem lookup_bind {α : Type} (frame : ContextFrame α) (name other : String) (value : α) :
    (frame.bind name value).lookup other =
      if other = name then some value else frame.lookup other := by
  unfold ContextFrame.bind
  induction frame with
  | nil => grind
  | cons entry frame inductionHypothesis => grind

/-- A new frame hides nothing. -/
theorem use?_push (contexts : Contexts) : contexts.push.use? = contexts.use? := rfl

/-- Binding a value in the innermost frame gives the name that value. -/
theorem use?_create (contexts : Contexts) (name : String) (value : Json) :
    (contexts.create name value).use? = Environment.bind contexts.use? name value := by
  have bound (frame : ContextFrame Json) (outer : List (ContextFrame Json)) :
      use? ⟨frame.bind name value :: outer⟩ = Environment.bind (use? ⟨frame :: outer⟩) name value := by
    funext other
    simp only [use?, Environment.bind, List.findSome?_cons, lookup_bind]
    by_cases same : other = name <;> simp [same]
  obtain ⟨frames⟩ := contexts
  cases frames with
  | nil => exact bound [] []
  | cons frame outer => exact bound frame outer

end ContextStack

/-! ### Rendering what is evaluated -/

namespace Stage

/-- A frame that is added for operations is dropped behind them, whatever they
bind. -/
theorem Renders.pop_eq {stage : Stage} {surroundings : Surroundings} {contexts left : Contexts}
    {buffer : Buffer} {operations : List Operation} {outcome : Outcome Markup}
    (renders : stage.Renders surroundings contexts.push buffer operations outcome left) :
    left.pop = contexts := by
  obtain ⟨-, limit, rendered⟩ := renders
  have keeps := (stage.keeps_render limit).performAll stage surroundings buffer contexts.push
    operations
  rw [rendered] at keeps
  exact ContextStack.pop_of_push keeps

/-- Whether an operation is performed with a given ending, where the frames give
names the values of an environment. -/
def IsPerformed (stage : Stage) (surroundings : Surroundings) (environment : Environment)
    (operation : Operation) (content : Outcome Content) (after : Environment) : Prop :=
  ∀ contexts : Contexts, contexts.use? = environment →
    ∃ left, stage.Performs surroundings contexts operation content left ∧ left.use? = after

/-- Whether operations are rendered with a given ending, where the frames give
names the values of an environment. -/
def IsRendered (stage : Stage) (surroundings : Surroundings) (environment : Environment)
    (buffer : Buffer) (operations : List Operation) (outcome : Outcome Markup)
    (after : Environment) : Prop :=
  ∀ contexts : Contexts, contexts.use? = environment →
    ∃ left, stage.Renders surroundings contexts buffer operations outcome left ∧
      left.use? = after

/-- An operation inside of which nothing is rendered is performed with the ending it
has, and leaves the environment that its contexts give. -/
theorem isPerformed_of_plain {stage : Stage} {surroundings : Surroundings}
    {environment after : Environment} {operation : Operation} {content : Outcome Content}
    (leave : Contexts → Contexts)
    (plain : ∀ (render : Rendering) (contexts : Contexts), contexts.use? = environment →
      render.perform stage surroundings contexts operation = (content, leave contexts))
    (leaves : ∀ contexts : Contexts, contexts.use? = environment → (leave contexts).use? = after)
    (ends : content ≠ .tooDeep) :
    stage.IsPerformed surroundings environment operation content after := by
  intro contexts agrees
  refine ⟨leave contexts, ?_, leaves contexts agrees⟩
  exact (performs_iff_of_plain (fun render => plain render contexts agrees) ends).mpr rfl

section

variable {stage : Stage} {surroundings : Surroundings} {environment middle after : Environment}
  {operation : Operation} {operations body : List Operation} {buffer : Buffer}
  {outcome : Outcome Markup} {name : String} {props written : Props} {supply : Supply}
  {inner : Option Deferred}

theorem IsRendered.place (received : surroundings.content = some (.mk body written inner))
    (placed : stage.IsRendered ⟨written, inner⟩ environment {} body outcome after) :
    stage.IsPerformed surroundings environment .place (outcome.map .safe) after := by
  intro contexts agrees
  obtain ⟨left, renders, reaches⟩ := placed contexts agrees
  exact ⟨left, (performs_place_iff received).mpr ⟨_, _, renders, rfl, rfl⟩, reaches⟩

/-- A component leaves the frames of its caller, and so the environment. -/
theorem IsRendered.component (isComponent : isComponentCall name = true)
    (registered : stage.registry.get? name = some body)
    (rendered : stage.IsRendered ⟨props, surroundings.supplied supply⟩ environment {} body
      outcome after) :
    stage.IsPerformed surroundings environment (.tag name props supply) (outcome.map .safe)
      environment := by
  intro contexts agrees
  obtain ⟨left, renders, -⟩ := rendered contexts.push (contexts.use?_push.trans agrees)
  refine ⟨contexts, (performs_component_iff isComponent registered).mpr ?_, agrees⟩
  exact ⟨_, _, renders, rfl, renders.pop_eq.symm⟩

theorem IsRendered.element (isElement : isComponentCall name = false)
    (supplied : surroundings.supplied supply = some (.mk body written inner))
    (rendered : stage.IsRendered ⟨written, inner⟩ environment {} body outcome after) :
    stage.IsPerformed surroundings environment (.tag name props supply)
      ((outcome.map fun markup => stage.builder name props (some markup)).map .safe) after := by
  intro contexts agrees
  obtain ⟨left, renders, reaches⟩ := rendered contexts agrees
  exact ⟨left, (performs_element_iff isElement supplied).mpr ⟨_, _, renders, rfl, rfl⟩, reaches⟩

theorem IsRendered.attempt
    (attempted : stage.IsRendered surroundings environment {} body outcome after) :
    stage.IsPerformed surroundings environment (.attempt body) outcome.caught after := by
  intro contexts agrees
  obtain ⟨left, renders, reaches⟩ := attempted contexts agrees
  exact ⟨left, performs_attempt_iff.mpr ⟨_, _, renders, rfl, rfl⟩, reaches⟩

theorem IsPerformed.next {content : Content}
    (performed : stage.IsPerformed surroundings environment operation (.done content) middle)
    (rendered : stage.IsRendered surroundings middle (buffer.append content) operations outcome
      after) :
    stage.IsRendered surroundings environment buffer (operation :: operations) outcome after := by
  intro contexts agrees
  obtain ⟨reached, performs, agreesThere⟩ := performed contexts agrees
  obtain ⟨left, renders, reaches⟩ := rendered reached agreesThere
  exact ⟨left, renders_cons_iff.mpr (.inl ⟨_, _, performs, renders⟩), reaches⟩

theorem IsPerformed.stop {stopped : Outcome Content}
    (performed : stage.IsPerformed surroundings environment operation stopped after)
    (same : stopped.SameStop outcome) :
    stage.IsRendered surroundings environment buffer (operation :: operations) outcome after := by
  intro contexts agrees
  obtain ⟨left, performs, reaches⟩ := performed contexts agrees
  exact ⟨left, renders_cons_iff.mpr (.inr ⟨_, performs, same⟩), reaches⟩

/-- A value that is bound in a frame is bound in the environment. -/
theorem create_agrees (name : String) (value : Json) (contexts : Contexts)
    (agrees : contexts.use? = environment) :
    (contexts.create name value).use? = environment.bind name value := by
  rw [ContextStack.use?_create, agrees]

/-- Operations that end by the rules are rendered with the same ending. -/
theorem Evaluates.isRendered
    (evaluates : stage.Evaluates surroundings environment buffer operations outcome after) :
    stage.IsRendered surroundings environment buffer operations outcome after := by
  -- The rules for operations and for lists of them call on each other, so one
  -- induction goes through both.
  refine @Evaluates.rec stage
    (fun surroundings environment operation content after _ =>
      stage.IsPerformed surroundings environment operation content after)
    (fun surroundings environment buffer operations outcome after _ =>
      stage.IsRendered surroundings environment buffer operations outcome after)
    ?append ?prop ?provide ?provideProp ?use ?useUnbound ?fail ?abort ?placeNothing ?place
    ?unknownComponent ?component ?emptyElement ?element ?attempt ?finish ?next ?stop
    surroundings environment buffer operations outcome after evaluates
  case append => exact isPerformed_of_plain id (fun _ _ _ => rfl) (fun _ => id) (by simp)
  case prop => exact isPerformed_of_plain id (fun _ _ _ => rfl) (fun _ => id) (by simp)
  case provide =>
    exact isPerformed_of_plain (·.create _ _) (fun _ _ _ => rfl) (create_agrees _ _) (by simp)
  case provideProp =>
    exact isPerformed_of_plain (·.create _ _) (fun _ _ _ => rfl) (create_agrees _ _) (by simp)
  case use =>
    intro _ _ _ _ bound
    refine isPerformed_of_plain id (fun _ contexts agrees => ?_) (fun _ => id) (by simp)
    simp only [Rendering.perform, agrees, bound, id]
  case useUnbound =>
    intro _ _ _ unbound
    refine isPerformed_of_plain id (fun _ contexts agrees => ?_) (fun _ => id) (by simp)
    simp only [Rendering.perform, agrees, unbound, id]
  case fail => exact isPerformed_of_plain id (fun _ _ _ => rfl) (fun _ => id) (by simp)
  case abort => exact isPerformed_of_plain id (fun _ _ _ => rfl) (fun _ => id) (by simp)
  case placeNothing =>
    intro _ _ nothing
    refine isPerformed_of_plain id (fun _ contexts _ => ?_) (fun _ => id) (by simp)
    simp only [Rendering.perform, nothing, id]
  case place => exact fun received _ placed => placed.place received
  case unknownComponent =>
    intro _ _ _ _ _ isComponent unknown
    refine isPerformed_of_plain id (fun _ contexts _ => ?_) (fun _ => id) (by simp)
    simp only [Rendering.perform, Rendering.call, isComponent, unknown, if_true, Outcome.map, id]
  case component =>
    exact fun isComponent registered _ rendered => rendered.component isComponent registered
  case emptyElement =>
    intro _ _ _ _ _ isElement nothing
    refine isPerformed_of_plain id (fun _ contexts _ => ?_) (fun _ => id) (by simp)
    simp only [Rendering.perform, Rendering.call, isElement, nothing, Bool.false_eq_true,
      if_false, Outcome.map, id]
  case element => exact fun isElement supplied _ rendered => rendered.element isElement supplied
  case attempt => exact fun _ attempted => attempted.attempt
  case finish => exact fun contexts agrees => ⟨contexts, renders_nil_iff.mpr ⟨rfl, rfl⟩, agrees⟩
  case next => exact fun _ _ performed rendered => performed.next rendered
  case stop => exact fun _ same performed => performed.stop same

end

end Stage

/-! ### Evaluating what is rendered -/

mutual

/-- Whether an operation asks for the number of frames, or hands over content that
does. -/
def Operation.asksDepth : Operation → Bool
  | .depth => true
  | .tag _ _ supply => supply.asksDepth
  | .attempt body => Operation.anyAsksDepth body
  | _ => false

/-- Whether the content that a call hands over asks for the number of frames. -/
def Supply.asksDepth : Supply → Bool
  | .block body => Operation.anyAsksDepth body
  | _ => false

/-- Whether one of several operations asks for the number of frames. -/
def Operation.anyAsksDepth : List Operation → Bool
  | [] => false
  | operation :: rest => operation.asksDepth || Operation.anyAsksDepth rest

end

/-- Whether deferred content, or content that it can place, asks for the number of
frames. -/
def Deferred.asksDepth : Deferred → Bool
  | .mk body _ none => Operation.anyAsksDepth body
  | .mk body _ (some inner) => Operation.anyAsksDepth body || inner.asksDepth

/-- Whether no content at hand asks for the number of frames. -/
def Surroundings.IsBlind (surroundings : Surroundings) : Prop :=
  ∀ content ∈ surroundings.content, content.asksDepth = false

/-- Whether no registered component asks for the number of frames. -/
def Stage.IsBlind (stage : Stage) : Prop :=
  ∀ entry ∈ stage.registry.entries, Operation.anyAsksDepth entry.2 = false

theorem Deferred.asksDepth_eq_false_iff {body : List Operation} {props : Props}
    {inner : Option Deferred} :
    (Deferred.mk body props inner).asksDepth = false ↔
      Operation.anyAsksDepth body = false ∧ Surroundings.IsBlind ⟨props, inner⟩ := by
  cases inner <;> simp [Deferred.asksDepth, Surroundings.IsBlind]

/-- Content that is handed over asks for nothing more than what it is made of. -/
theorem Surroundings.IsBlind.supplied {surroundings : Surroundings} {supply : Supply}
    (blind : surroundings.IsBlind) (blindSupply : supply.asksDepth = false) (props : Props) :
    Surroundings.IsBlind ⟨props, surroundings.supplied supply⟩ := by
  cases supply with
  | nothing => simp [Surroundings.supplied, Surroundings.IsBlind]
  | forwarded => exact blind
  | block body =>
      simpa [Surroundings.supplied, Surroundings.IsBlind, Deferred.asksDepth_eq_false_iff]
        using ⟨by simpa [Supply.asksDepth] using blindSupply, blind⟩

theorem Stage.IsBlind.get? {stage : Stage} (blind : stage.IsBlind) {name : String}
    {body : List Operation} (registered : stage.registry.get? name = some body) :
    Operation.anyAsksDepth body = false := by
  obtain ⟨before, behind, entries, -⟩ := List.lookup_eq_some_iff.mp registered
  exact blind (registryKey name, body) (by simp [entries])

/-- Whether all that a way of rendering brings to an end is evaluated with the same
ending, as long as nothing asks for the number of frames. -/
def Rendering.Sound (render : Rendering) (stage : Stage) : Prop :=
  ∀ surroundings operations (contexts : Contexts), surroundings.IsBlind →
    Operation.anyAsksDepth operations = false →
    (render surroundings operations contexts).1 ≠ .tooDeep →
    stage.Evaluates surroundings contexts.use? {} operations
      (render surroundings operations contexts).1 (render surroundings operations contexts).2.use?

namespace Rendering

variable {stage : Stage} {render : Rendering} {surroundings : Surroundings}
  {contexts left : Contexts} {operation : Operation} {operations : List Operation}
  {buffer : Buffer} {content : Outcome Content} {outcome : Outcome Markup}

/-- A tag call that ends does so by the rules. -/
theorem Sound.acts_tag (sound : render.Sound stage) (keeps : render.Keeps)
    (blindStage : stage.IsBlind) (blind : surroundings.IsBlind) {name : String} {props : Props}
    {supply : Supply} (blindSupply : supply.asksDepth = false)
    (performed : render.perform stage surroundings contexts (.tag name props supply) =
      (content, left)) (ends : content ≠ .tooDeep) :
    stage.Acts surroundings contexts.use? (.tag name props supply) content left.use? := by
  have blindInside := blind.supplied blindSupply props
  simp only [Rendering.perform, Rendering.call] at performed
  cases isComponent : isComponentCall name with
  | true =>
      simp only [isComponent, if_true] at performed
      cases registered : stage.registry.get? name with
      | none =>
          simp only [registered, Outcome.map] at performed
          cases performed
          exact .unknownComponent isComponent registered
      | some body =>
          simp only [registered] at performed
          cases performed
          rw [ContextStack.pop_of_push (keeps _ _ _)]
          exact .component isComponent registered (sound _ _ contexts.push blindInside
            (blindStage.get? registered) (mt Outcome.map_eq_tooDeep_iff.mpr ends))
  | false =>
      simp only [isComponent, Bool.false_eq_true, if_false] at performed
      cases supplied : surroundings.supplied supply with
      | none =>
          simp only [supplied] at performed
          cases performed
          exact .emptyElement isComponent supplied
      | some deferred =>
          obtain ⟨body, written, inner⟩ := deferred
          simp only [supplied, Rendering.deferred] at performed
          cases performed
          obtain ⟨blindBody, blindInner⟩ :=
            Deferred.asksDepth_eq_false_iff.mp (blindInside _ supplied)
          refine .element isComponent supplied (sound _ _ _ blindInner blindBody ?_)
          simpa [Outcome.map_eq_tooDeep_iff] using ends

/-- An operation that ends does so by the rules. -/
theorem Sound.acts (sound : render.Sound stage) (keeps : render.Keeps)
    (blindStage : stage.IsBlind) (blind : surroundings.IsBlind)
    (blindOperation : operation.asksDepth = false)
    (performed : render.perform stage surroundings contexts operation = (content, left))
    (ends : content ≠ .tooDeep) :
    stage.Acts surroundings contexts.use? operation content left.use? := by
  cases operation with
  | depth => cases blindOperation
  | place =>
      simp only [Rendering.perform] at performed
      cases received : surroundings.content with
      | none =>
          simp only [received] at performed
          cases performed
          exact .placeNothing received
      | some deferred =>
          obtain ⟨body, written, inner⟩ := deferred
          simp only [received, Rendering.deferred] at performed
          cases performed
          obtain ⟨blindBody, blindInner⟩ :=
            Deferred.asksDepth_eq_false_iff.mp (blind _ received)
          exact .place received (sound _ _ _ blindInner blindBody
            (mt Outcome.map_eq_tooDeep_iff.mpr ends))
  | tag name props supply =>
      have blindSupply : supply.asksDepth = false := by
        simpa [Operation.asksDepth] using blindOperation
      exact sound.acts_tag keeps blindStage blind blindSupply performed ends
  | use name =>
      simp only [Rendering.perform] at performed
      split at performed
      next value bound =>
        cases performed
        exact .use bound
      next unbound =>
        cases performed
        exact .useUnbound unbound
  | attempt body =>
      rw [perform_attempt] at performed
      cases performed
      have blindBody : Operation.anyAsksDepth body = false := by
        simpa [Operation.asksDepth] using blindOperation
      exact .attempt (sound _ _ _ blind blindBody (mt Outcome.caught_eq_tooDeep_iff.mpr ends))
  | provide name value =>
      cases performed
      rw [ContextStack.use?_create]
      exact .provide
  | provideProp name =>
      cases performed
      rw [ContextStack.use?_create]
      exact .provideProp
  | prop name =>
      cases performed
      exact .prop
  | fail message =>
      cases performed
      exact .fail
  | abort =>
      cases performed
      exact .abort
  | append content =>
      cases performed
      exact .append

/-- Operations that end do so by the rules. -/
theorem Sound.evaluates (sound : render.Sound stage) (keeps : render.Keeps)
    (blindStage : stage.IsBlind) (blind : surroundings.IsBlind)
    (blindOperations : Operation.anyAsksDepth operations = false)
    (rendered : render.performAll stage surroundings buffer contexts operations = (outcome, left))
    (ends : outcome ≠ .tooDeep) :
    stage.Evaluates surroundings contexts.use? buffer operations outcome left.use? := by
  induction operations generalizing buffer contexts with
  | nil =>
      cases rendered
      exact .finish
  | cons operation operations inductionHypothesis =>
      simp only [Operation.anyAsksDepth, Bool.or_eq_false_iff] at blindOperations
      obtain ⟨blindFirst, blindRest⟩ := blindOperations
      rcases performAll_cons_cases rendered with
        ⟨content, middle, performed, rest⟩ | ⟨stopped, performed, same⟩
      · have acts := sound.acts keeps blindStage blind blindFirst performed (by simp)
        exact .next acts (inductionHypothesis blindRest rest)
      · have stops : stopped ≠ .tooDeep := by
          rintro rfl
          cases same
          exact ends rfl
        exact .stop (sound.acts keeps blindStage blind blindFirst performed stops) same

end Rendering

namespace Stage

variable {stage : Stage} {contexts : Contexts} {environment : Environment}
  {operations : List Operation} {outcomes : List (Outcome Markup)}

/-- Whatever rendering brings to an end is evaluated with the same ending. -/
theorem sound_render (blindStage : stage.IsBlind) (limit : Nat) :
    (stage.render limit).Sound stage := by
  induction limit with
  | zero => exact fun _ _ _ _ _ ends => absurd rfl ends
  | succ limit inductionHypothesis =>
      intro surroundings operations contexts blind blindOperations ends
      exact inductionHypothesis.evaluates (stage.keeps_render limit) blindStage blind
        blindOperations rfl ends

/-! ### Steps at the top -/

/-- Steps that end are interpreted with the same outcomes. -/
theorem interprets_of_steps (blindStage : stage.IsBlind) {limit : Nat}
    (blindSteps : Operation.anyAsksDepth operations = false)
    (ends : .tooDeep ∉ (stage.steps contexts operations limit).map Prod.fst) :
    stage.Interprets contexts.use? operations
      ((stage.steps contexts operations limit).map Prod.fst) := by
  induction operations generalizing contexts with
  | nil => exact .done
  | cons operation operations inductionHypothesis =>
      simp only [Operation.anyAsksDepth, Bool.or_eq_false_iff] at blindSteps
      simp only [steps, List.map_cons, List.mem_cons, not_or] at ends ⊢
      refine .step (sound_render blindStage limit {} [operation] contexts ?_ ?_ ?_)
        (inductionHypothesis blindSteps.2 ends.2)
      · simp [Surroundings.IsBlind]
      · simpa [Operation.anyAsksDepth] using blindSteps.1
      · exact fun excess => ends.1 excess.symm

/-- Steps that are interpreted end with the same outcomes, under every bound on
nested calls that is great enough. -/
theorem Interprets.exists_steps (interprets : stage.Interprets environment operations outcomes)
    (agrees : contexts.use? = environment) :
    .tooDeep ∉ outcomes ∧ ∃ limit, ∀ greater, limit ≤ greater →
      (stage.steps contexts operations greater).map Prod.fst = outcomes := by
  induction interprets generalizing contexts with
  | done => exact ⟨by simp, 0, fun _ _ => rfl⟩
  | step evaluates _ inductionHypothesis =>
      obtain ⟨left, renders, reaches⟩ := evaluates.isRendered contexts agrees
      obtain ⟨ends, limit, rendered⟩ := exists_render_iff.mpr renders
      obtain ⟨endLater, laterLimit, later⟩ := inductionHypothesis reaches
      refine ⟨?_, max limit laterLimit, fun greater enough => ?_⟩
      · rw [List.mem_cons, not_or]
        exact ⟨ends.symm, endLater⟩
      · have wider := stage.extends_render (Nat.le_trans (Nat.le_max_left _ _) enough) {} _ contexts
          (by rwa [rendered])
        rw [rendered] at wider
        simp only [steps, wider, List.map_cons]
        rw [later greater (Nat.le_trans (Nat.le_max_right _ _) enough)]

/-- Rendering implements scoped contexts: steps that all end have the outcomes that
the rules of evaluation give them, and no others, as long as nothing asks for the
number of frames. -/
theorem steps_iff_interprets (blindStage : stage.IsBlind)
    (blindSteps : Operation.anyAsksDepth operations = false)
    (outcomes : List (Outcome Markup)) :
    ((∃ limit, (stage.steps {} operations limit).map Prod.fst = outcomes ∧
        .tooDeep ∉ outcomes) ↔ stage.Interprets .empty operations outcomes) ∧
      (stage.Interprets .empty operations outcomes →
        ∀ others, stage.Interprets .empty operations others → others = outcomes) := by
  have noValues : ContextStack.use? ({} : Contexts) = Environment.empty := rfl
  refine ⟨⟨?_, ?_⟩, ?_⟩
  · rintro ⟨limit, rfl, ends⟩
    exact interprets_of_steps blindStage blindSteps ends
  · intro interprets
    obtain ⟨ends, limit, enough⟩ := interprets.exists_steps noValues
    exact ⟨limit, enough limit (Nat.le_refl limit), ends⟩
  · intro interprets others interpretsOthers
    obtain ⟨-, limit, enough⟩ := interprets.exists_steps noValues
    obtain ⟨-, otherLimit, otherEnough⟩ := interpretsOthers.exists_steps noValues
    rw [← otherEnough _ (Nat.le_max_right limit otherLimit), enough _ (Nat.le_max_left _ _)]

/-- A component binds a value and places its content twice: each time the content
has that value, and behind the component it is gone. An element shares the value
that is bound in its content, even where it fails. -/
theorem steps_iff_interprets_placedTwice :
    let stage : Stage :=
      { registry := ⟨[("Theme", [.provide "theme" (.text "dark"), .place, .place])]⟩ }
    let operations : List Operation :=
      [.tag "Theme" [] (.block [.use "theme"]), .use "theme",
        .tag "p" [] (.block [.provide "theme" (.text "light"), .fail "no"]), .use "theme"]
    stage.Interprets .empty operations
      [.done ⟨"darkdark"⟩, .failed (.contextNotFound "theme"), .failed (.host "no"),
        .done ⟨"light"⟩] := by
  intro stage operations
  have results : (stage.steps {} operations 4).map Prod.fst =
      [.done ⟨"darkdark"⟩, .failed (.contextNotFound "theme"), .failed (.host "no"),
        .done ⟨"light"⟩] := by decide +kernel
  refine (steps_iff_interprets ?_ (by decide) _).1.mp ⟨4, results, by decide⟩
  simp only [IsBlind, stage, List.forall_mem_singleton]
  decide

end Stage
end MarkupTemplate
