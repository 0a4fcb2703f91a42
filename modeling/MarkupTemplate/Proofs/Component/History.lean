import Mathlib.Tactic.ByContra
import MarkupTemplate.Proofs.Component.Scoping

/-!
# The history of a stack of frames

What a stack of frames answers can be read off what was done to it. A name has the
value that it was given last, among the values whose frame has not been dropped
since. Frames may be dropped where there are none, and a value that is bound where
there is no frame brings one with it.

The same answers come from a stack of complete environments, in which nothing has to
be looked up further out: a new environment starts as a copy of the one below it.
-/

namespace MarkupTemplate

/-- What can be done to a stack of frames. -/
inductive ContextEvent where
  | push
  | pop
  | create (name : String) (value : Json)
  | use (name : String)

namespace ContextEvent

def isPush : ContextEvent → Bool
  | push => true
  | _ => false

def isPop : ContextEvent → Bool
  | pop => true
  | _ => false

/-- Whether events drop the frame that is the innermost one in front of them: at some
point they have dropped more frames than they have added. -/
def Drops (events : List ContextEvent) : Prop :=
  ∃ front, front <+: events ∧ front.countP isPush < front.countP isPop

/-- Whether a value that a name was given in front of events can be seen behind them.
Its frame is still there, and so is no frame that was added later and in which the
name was given a value. -/
structure Shows (name : String) (later : List ContextEvent) : Prop where
  stands : ¬ Drops later
  unshadowed : ∀ between value behind, later = between ++ .create name value :: behind →
    ¬ Drops behind → ¬ between.countP isPop < between.countP isPush

/-- Whether a name has been given a value that can be seen, and none later. -/
def Provides (events : List ContextEvent) (name : String) (value : Json) : Prop :=
  ∃ earlier later, events = earlier ++ .create name value :: later ∧ Shows name later ∧
    ∀ between other behind, later = between ++ .create name other :: behind → ¬ Shows name behind

variable {name : String} {value : Json} {event : ContextEvent} {events later : List ContextEvent}

/-! ### Frames that are dropped -/

/-- How many of the frames in front of events they drop, if there are as many. -/
def dropped : List ContextEvent → Nat
  | [] => 0
  | .push :: rest => dropped rest - 1
  | .pop :: rest => dropped rest + 1
  | .create _ _ :: rest | .use _ :: rest => dropped rest

/-- More than `level` frames are dropped if at some point so many more have been
dropped than added. -/
theorem lt_dropped_iff {level : Nat} : level < dropped events ↔
    ∃ front, front <+: events ∧ front.countP isPush + level < front.countP isPop := by
  induction events generalizing level with
  | nil => simp [dropped, List.prefix_nil]
  | cons event events inductionHypothesis =>
      -- A part in front that drops anything begins with the first event.
      have begins : (∃ front, front <+: event :: events ∧
          front.countP isPush + level < front.countP isPop) ↔
            ∃ front, front <+: events ∧
              (event :: front).countP isPush + level < (event :: front).countP isPop := by
        simp only [List.prefix_cons_iff]
        constructor
        · rintro ⟨front, rfl | ⟨inside, rfl, isPrefix⟩, more⟩
          · simp at more
          · exact ⟨inside, isPrefix, more⟩
        · rintro ⟨inside, isPrefix, more⟩
          exact ⟨_, .inr ⟨inside, rfl, isPrefix⟩, more⟩
      rw [begins]
      cases event with
      | push =>
          have added : level < dropped events - 1 ↔ level + 1 < dropped events := by omega
          rw [dropped, added, inductionHypothesis]
          simp [List.countP_cons, isPush, isPop, Nat.add_assoc, Nat.add_comm 1]
      | pop =>
          rw [dropped]
          cases level with
          | zero => simpa using ⟨[], List.nil_prefix, by simp [List.countP_cons, isPush, isPop]⟩
          | succ level =>
              rw [Nat.add_lt_add_iff_right, inductionHypothesis]
              simp [List.countP_cons, isPush, isPop, ← Nat.add_assoc]
      | create name value => simpa [dropped, isPush, isPop] using inductionHypothesis
      | use name => simpa [dropped, isPush, isPop] using inductionHypothesis

theorem drops_iff : Drops events ↔ 0 < dropped events := by
  rw [lt_dropped_iff]
  rfl

/-! ### Values that stand -/

/-- Whether the frame of every value that events give a name has been dropped again. -/
def Lacks (name : String) (events : List ContextEvent) : Prop :=
  ∀ between value behind, events = between ++ .create name value :: behind → Drops behind

theorem lacks_cons_iff : Lacks name (event :: events) ↔
    (∀ value, event = .create name value → Drops events) ∧ Lacks name events := by
  constructor
  · intro lacks
    constructor
    · rintro value rfl
      exact lacks [] value events rfl
    · rintro between value behind rfl
      exact lacks (event :: between) value behind rfl
  · rintro ⟨first, others⟩ between value behind split
    cases between with
    | nil =>
        obtain ⟨rfl, rfl⟩ := List.cons.inj split
        exact first value rfl
    | cons _ between => exact others between value behind (List.cons.inj split).2

/-- Among the values of a name that stand there is a last one. -/
theorem exists_last_of_not_lacks (stands : ¬ Lacks name events) :
    ∃ earlier value later, events = earlier ++ .create name value :: later ∧ ¬ Drops later ∧
      Lacks name later := by
  induction events with
  | nil => exact absurd (fun between value behind split => by simp at split) stands
  | cons event events inductionHypothesis =>
      by_cases others : Lacks name events
      · have first : ∃ value, event = .create name value ∧ ¬ Drops events := by
          simpa [lacks_cons_iff, others] using stands
        obtain ⟨value, rfl, kept⟩ := first
        exact ⟨[], value, events, rfl, kept, others⟩
      · obtain ⟨earlier, value, later, rfl, last⟩ := inductionHypothesis others
        exact ⟨event :: earlier, value, later, rfl, last⟩

/-- A value that stands can be seen if no later one stands. -/
theorem shows_of_lacks (kept : ¬ Drops later) (lacks : Lacks name later) : Shows name later where
  stands := kept
  unshadowed := fun between value behind split stands =>
    absurd (lacks between value behind split) stands

/-- Where no later value can be seen, none stands. -/
theorem lacks_of_not_shows
    (unseen : ∀ between other behind, later = between ++ .create name other :: behind →
      ¬ Shows name behind) : Lacks name later := by
  by_contra stands
  obtain ⟨between, other, behind, split, kept, lacks⟩ := exists_last_of_not_lacks stands
  exact unseen between other behind split (shows_of_lacks kept lacks)

/-- The value that a name was given last and that can be seen is the last one that
stands. -/
theorem provides_iff : Provides events name value ↔
    ∃ earlier later, events = earlier ++ .create name value :: later ∧ ¬ Drops later ∧
      Lacks name later := by
  constructor
  · rintro ⟨earlier, later, split, seen, unseen⟩
    exact ⟨earlier, later, split, seen.stands, lacks_of_not_shows unseen⟩
  · rintro ⟨earlier, later, split, kept, lacks⟩
    refine ⟨earlier, later, split, shows_of_lacks kept lacks, ?_⟩
    exact fun between other behind split seen => seen.stands (lacks between other behind split)

end ContextEvent

namespace ContextStack

open ContextEvent

variable {name : String} {value : Json} {events : List ContextEvent}

/-! ### What a stack answers -/

/-- What a stack becomes by an event. -/
def after (contexts : Contexts) : ContextEvent → Contexts
  | .push => contexts.push
  | .pop => contexts.pop
  | .create name value => contexts.create name value
  | .use _ => contexts

/-- What a new stack becomes by events. -/
def reached (events : List ContextEvent) : Contexts := events.foldl after {}

/-- The nearest binding of a name, or the failure that names it. -/
def use (contexts : Contexts) (name : String) : Except RenderError Json :=
  match contexts.use? name with
  | some value => .ok value
  | none => .error (.contextNotFound name)

theorem use_eq_ok_iff {contexts : Contexts} :
    contexts.use name = .ok value ↔ contexts.use? name = some value := by
  unfold use
  cases contexts.use? name <;> simp

theorem use_eq_error_iff {contexts : Contexts} {error : RenderError} :
    contexts.use name = .error error ↔
      error = .contextNotFound name ∧ contexts.use? name = none := by
  unfold use
  cases contexts.use? name <;> simp [eq_comm]

/-- Binding a value touches the innermost frame only. -/
theorem tail_frames_create (contexts : Contexts) (name : String) (value : Json) :
    (contexts.create name value).frames.tail = contexts.frames.tail := by
  unfold create
  split <;> simp [*]

/-- Where no value of a name stands, its value is the one that it has in the frames
that are left of those in front. -/
theorem use?_of_lacks (lacks : Lacks name events) (contexts : Contexts) :
    (events.foldl after contexts).use? name =
      use? (⟨contexts.frames.drop (dropped events)⟩ : Contexts) name := by
  induction events generalizing contexts with
  | nil => rfl
  | cons event events inductionHypothesis =>
      obtain ⟨first, others⟩ := lacks_cons_iff.mp lacks
      rw [List.foldl_cons, inductionHypothesis others]
      cases event with
      | push =>
          cases count : dropped events with
          | zero =>
              rw [dropped, count]
              exact congrFun (use?_push contexts) name
          | succ count => simp_all [after, dropped, push]
      | pop => simp [after, dropped, pop, List.drop_tail]
      | create other value =>
          cases count : dropped events with
          | zero =>
              have differs : name ≠ other := by
                rintro rfl
                have drops := drops_iff.mp (first value rfl)
                omega
              have kept := congrFun (use?_create contexts other value) name
              rw [Environment.bind, if_neg differs] at kept
              rw [dropped, count]
              exact kept
          | succ count =>
              have same := tail_frames_create contexts other value
              rw [dropped, count, ← List.drop_tail, ← List.drop_tail, ← same]
              rfl
      | use other => rfl

/-- A name has the value that it was given last, among those that stand. -/
theorem use?_of_stands {earlier later : List ContextEvent} (kept : ¬ Drops later)
    (lacks : Lacks name later) :
    (reached (earlier ++ .create name value :: later)).use? name = some value := by
  have nothing : dropped later = 0 := by
    have none := mt drops_iff.mpr kept
    omega
  rw [reached, List.foldl_append, List.foldl_cons, use?_of_lacks lacks, nothing, List.drop_zero]
  have bound := congrFun (use?_create (earlier.foldl after {}) name value) name
  rwa [Environment.bind, if_pos rfl] at bound

/-- A name for which no value stands has none. -/
theorem use?_reached_of_lacks (lacks : Lacks name events) : (reached events).use? name = none := by
  rw [reached, use?_of_lacks lacks, List.drop_nil]
  rfl

/-- A name has the value that it was given last among those that can be seen. -/
theorem use?_reached_eq_some_iff :
    (reached events).use? name = some value ↔ Provides events name value := by
  rw [provides_iff]
  constructor
  · intro bound
    have stands : ¬ Lacks name events := by
      intro lacks
      cases (use?_reached_of_lacks lacks).symm.trans bound
    obtain ⟨earlier, found, later, rfl, kept, lacks⟩ := exists_last_of_not_lacks stands
    cases (use?_of_stands kept lacks).symm.trans bound
    exact ⟨earlier, later, rfl, kept, lacks⟩
  · rintro ⟨earlier, later, rfl, kept, lacks⟩
    exact use?_of_stands kept lacks

/-- A name has no value if none that it was given can be seen. -/
theorem use?_reached_eq_none_iff :
    (reached events).use? name = none ↔
      ¬ ∃ earlier value later, events = earlier ++ .create name value :: later ∧
        Shows name later := by
  constructor
  · rintro unbound ⟨earlier, value, later, split, seen⟩
    have stands : ¬ Lacks name events := fun lacks => seen.stands (lacks earlier value later split)
    obtain ⟨front, found, behind, whole, last⟩ := exists_last_of_not_lacks stands
    have bound := use?_reached_eq_some_iff.mpr (provides_iff.mpr ⟨front, behind, whole, last⟩)
    cases unbound.symm.trans bound
  · intro unseen
    refine use?_reached_of_lacks (lacks_of_not_shows fun between other behind split seen => ?_)
    exact unseen ⟨between, other, behind, split, seen⟩

end ContextStack

/-! ### Complete environments -/

/-- A stack of environments, innermost first. -/
abbrev Environments := List Environment

namespace Environments

/-- The innermost environment. Where there is none, no name has a value. -/
def top (environments : Environments) : Environment := environments.headD .empty

/-- What a stack of environments becomes by an event: the innermost one is copied,
dropped or changed. -/
def after (environments : Environments) : ContextEvent → Environments
  | .push => environments.top :: environments
  | .pop => environments.tail
  | .create name value => environments.top.bind name value :: environments.tail
  | .use _ => environments

end Environments

namespace ContextStack

/-- The environments that frames amount to, each frame with all those around it. -/
def environments (contexts : Contexts) : Environments :=
  below contexts.frames
where
  below : List (ContextFrame Json) → Environments
    | [] => []
    | frame :: outer => use? ⟨frame :: outer⟩ :: below outer

@[simp] theorem length_environments (contexts : Contexts) :
    contexts.environments.length = contexts.depth := by
  obtain ⟨frames⟩ := contexts
  induction frames with
  | nil => rfl
  | cons frame outer inductionHypothesis => exact congrArg (· + 1) inductionHypothesis

theorem top_environments (contexts : Contexts) : contexts.environments.top = contexts.use? := by
  obtain ⟨frames⟩ := contexts
  cases frames <;> rfl

theorem tail_environments (contexts : Contexts) :
    contexts.environments.tail = contexts.pop.environments := by
  obtain ⟨frames⟩ := contexts
  cases frames <;> rfl

/-- Binding a value changes the innermost environment only. -/
theorem environments_create (contexts : Contexts) (name : String) (value : Json) :
    (contexts.create name value).environments =
      Environment.bind contexts.use? name value :: contexts.pop.environments := by
  have changed := use?_create contexts name value
  obtain ⟨frames⟩ := contexts
  cases frames with
  | nil => exact congrArg (· :: []) changed
  | cons frame outer => exact congrArg (· :: environments.below outer) changed

/-- An event does to the environments that frames amount to what it does to the
frames. -/
theorem environments_after (contexts : Contexts) (event : ContextEvent) :
    (contexts.after event).environments = contexts.environments.after event := by
  cases event with
  | push =>
      rw [Environments.after, top_environments]
      rfl
  | pop => exact (tail_environments contexts).symm
  | create name value =>
      rw [Environments.after, top_environments, tail_environments]
      exact environments_create contexts name value
  | use name => rfl

theorem environments_foldl (events : List ContextEvent) (contexts : Contexts) :
    (events.foldl after contexts).environments =
      events.foldl Environments.after contexts.environments := by
  induction events generalizing contexts with
  | nil => rfl
  | cons event events inductionHypothesis =>
      rw [List.foldl_cons, List.foldl_cons, inductionHypothesis, environments_after]

end ContextStack

/-- How an answer ends an operation. -/
def Outcome.ofAnswer {α : Type} : Except RenderError α → Outcome α
  | .ok value => .done value
  | .error error => .failed error

/-- Using a value appends what the stack answers, and leaves the stack as it is, also
where it fails. -/
theorem Rendering.perform_use (render : Rendering) (stage : Stage) (surroundings : Surroundings)
    (contexts : Contexts) (name : String) :
    render.perform stage surroundings contexts (.use name) =
      (.ofAnswer ((contexts.use name).map fun value => .ofText value.plainText), contexts) := by
  simp only [Rendering.perform, ContextStack.use]
  cases contexts.use? name <;> rfl

open ContextEvent ContextStack in
/-- Behind any events on a new stack, a name has the value that it was given last among
those that can be seen. There is a failure that names it if and only if none can be
seen. A stack of complete environments gives the same answers, and is as deep. Using a
value changes nothing, whether or not there is one. -/
theorem ContextStack.use_follows_history (events : List ContextEvent) (name : String) :
    (∀ value, (reached events).use name = .ok value ↔ Provides events name value) ∧
      ((reached events).use name = .error (.contextNotFound name) ↔
        ¬ ∃ earlier value later, events = earlier ++ .create name value :: later ∧
          Shows name later) ∧
      ((reached events).use? name = (events.foldl Environments.after []).top name ∧
        (reached events).depth = (events.foldl Environments.after []).length) ∧
      ∀ (render : Rendering) (stage : Stage) (surroundings : Surroundings),
        render.perform stage surroundings (reached events) (.use name) =
          (.ofAnswer (((reached events).use name).map fun value => .ofText value.plainText),
            reached events) := by
  have refines : (reached events).environments = events.foldl Environments.after [] :=
    environments_foldl events {}
  refine ⟨fun value => ?_, ?_, ⟨?_, ?_⟩, fun render stage surroundings => ?_⟩
  · rw [use_eq_ok_iff, use?_reached_eq_some_iff]
  · rw [use_eq_error_iff, use?_reached_eq_none_iff]
    exact and_iff_right rfl
  · rw [← refines, top_environments]
  · rw [← refines, length_environments]
  · exact render.perform_use stage surroundings (reached events) name

end MarkupTemplate
