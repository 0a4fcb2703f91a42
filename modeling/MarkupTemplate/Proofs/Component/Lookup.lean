import Mathlib.Algebra.Group.Nat.Even
import MarkupTemplate.Proofs.Component.Dispatch

/-!
# Components under the names of their methods

A component is registered under the name that it has in templates and is looked up
under the name of the method that a tag calls. Both are brought to a common key, in
which two underscores are a dot. The keys agree exactly if the name has no dash in it,
since a dash is never found again behind an underscore, and an even number of
underscores in front of each of its dots, since a single one would be paired with the
first of the two that stand for the dot. A component with any other name is registered,
but no tag that is written with this name finds it.
-/

namespace MarkupTemplate

open Script

/-! ### Keys -/

/-- Two underscores are paired only where they stand in front. -/
theorem dotUnderscores_cons {character : Char} {rest : List Char}
    (unpaired : character = '_' → rest.head? ≠ some '_') :
    dotUnderscores (character :: rest) = character :: dotUnderscores rest := by
  rw [dotUnderscores.eq_def]
  split
  next same =>
    cases same
    exact absurd rfl (unpaired rfl)
  next same =>
    cases same
    rfl
  next same => cases same

/-- A dash of a name is one of its key. -/
theorem dash_mem_dotUnderscores_iff {name : List Char} :
    '-' ∈ dotUnderscores name ↔ '-' ∈ name := by
  fun_induction dotUnderscores name with
  | case1 rest inductionHypothesis => simp [inductionHypothesis]
  | case2 character rest _ inductionHypothesis => simp [inductionHypothesis]
  | case3 => rfl

/-- The name of a method has no dash in it. -/
theorem dash_notMem_safeTagChars (name : List Char) : '-' ∉ name.flatMap safeTagChar := by
  rw [mem_safeTagChars_iff (by decide)]
  rintro ⟨-, -, notDash⟩
  exact notDash rfl

/-- The number of underscores that end a text. -/
def trailingUnderscores (text : List Char) : Nat :=
  (text.reverse.takeWhile (· == '_')).length

/-- Whether an even number of underscores stands in front of every dot of a name. -/
def PairsUnderscores (name : List Char) : Prop :=
  ∀ before behind, name = before ++ '.' :: behind → Even (trailingUnderscores before)

theorem trailingUnderscores_le (text : List Char) :
    trailingUnderscores text ≤ text.length := by
  rw [← List.length_reverse]
  exact (List.takeWhile_sublist _).length_le

/-- A character in front counts only behind nothing but underscores. -/
theorem trailingUnderscores_cons (first : Char) (text : List Char) :
    trailingUnderscores (first :: text) =
      if trailingUnderscores text = text.length then text.length + trailingUnderscores [first]
      else trailingUnderscores text := by
  simp only [trailingUnderscores, List.reverse_cons, List.takeWhile_append, List.length_reverse]
  split
  · rw [List.length_append, List.length_reverse]
    rfl
  · rfl

theorem trailingUnderscores_cons_of_ne {first : Char} (notUnderscore : first ≠ '_')
    (text : List Char) : trailingUnderscores (first :: text) = trailingUnderscores text := by
  have nothing : trailingUnderscores [first] = 0 := by simp [trailingUnderscores, notUnderscore]
  rw [trailingUnderscores_cons, nothing]
  split <;> omega

/-- The underscores at the end of a text end behind any other character of it. -/
theorem trailingUnderscores_cons_cons_of_ne {second : Char} (notUnderscore : second ≠ '_')
    (first : Char) (text : List Char) :
    trailingUnderscores (first :: second :: text) = trailingUnderscores (second :: text) := by
  have fewer := trailingUnderscores_le text
  rw [trailingUnderscores_cons, trailingUnderscores_cons_of_ne notUnderscore, List.length_cons,
    if_neg (by omega)]

/-- Two more underscores in front leave the number at the end even or odd. -/
theorem even_trailingUnderscores_cons_cons {text : List Char} :
    Even (trailingUnderscores ('_' :: '_' :: text)) ↔ Even (trailingUnderscores text) := by
  have one : trailingUnderscores ['_'] = 1 := rfl
  have fewer := trailingUnderscores_le text
  rw [trailingUnderscores_cons '_' ('_' :: text), trailingUnderscores_cons '_' text, one,
    List.length_cons]
  by_cases all : trailingUnderscores text = text.length
  · rw [if_pos all, if_pos rfl, all]
    simp [Nat.even_add_one]
  · rw [if_neg all, if_neg (by omega)]

namespace PairsUnderscores

variable {name rest : List Char}

theorem cons_iff_of_ne {first : Char} (notUnderscore : first ≠ '_') :
    PairsUnderscores (first :: rest) ↔ PairsUnderscores rest := by
  constructor
  · rintro pairs before behind rfl
    have even := pairs (first :: before) behind rfl
    rwa [trailingUnderscores_cons_of_ne notUnderscore] at even
  · rintro pairs before behind split
    rcases List.cons_eq_append_iff.mp split with ⟨rfl, -⟩ | ⟨before, rfl, rfl⟩
    · exact Even.zero
    · rw [trailingUnderscores_cons_of_ne notUnderscore]
      exact pairs before behind rfl

theorem cons_cons_iff :
    PairsUnderscores ('_' :: '_' :: rest) ↔ PairsUnderscores rest := by
  constructor
  · rintro pairs before behind rfl
    exact even_trailingUnderscores_cons_cons.mp (pairs ('_' :: '_' :: before) behind rfl)
  · rintro pairs before behind whole
    rcases List.cons_eq_append_iff.mp whole with ⟨-, isDot⟩ | ⟨others, rfl, split⟩
    · cases isDot
    rcases List.cons_eq_append_iff.mp split with ⟨-, isDot⟩ | ⟨before, rfl, rfl⟩
    · cases isDot
    · exact even_trailingUnderscores_cons_cons.mpr (pairs before behind rfl)

/-- A single underscore is no matter, unless it stands in front of a dot. -/
theorem cons_iff_of_head (unpaired : rest.head? ≠ some '_') :
    PairsUnderscores ('_' :: rest) ↔ rest.head? ≠ some '.' ∧ PairsUnderscores rest := by
  constructor
  · intro pairs
    have noDot : rest.head? ≠ some '.' := by
      intro front
      obtain ⟨behind, rfl⟩ := List.head?_eq_some_iff.mp front
      exact absurd (pairs ['_'] behind rfl) (by decide)
    refine ⟨noDot, ?_⟩
    rintro (- | ⟨second, before⟩) behind rfl
    · exact absurd rfl noDot
    · have notUnderscore : second ≠ '_' := fun same => unpaired (by rw [same]; rfl)
      have even := pairs ('_' :: second :: before) behind rfl
      rwa [trailingUnderscores_cons_cons_of_ne notUnderscore] at even
  · rintro ⟨noDot, pairs⟩ before behind split
    rcases List.cons_eq_append_iff.mp split with ⟨-, isDot⟩ | ⟨before, rfl, rfl⟩
    · cases isDot
    cases before with
    | nil => exact absurd rfl noDot
    | cons second before =>
        have notUnderscore : second ≠ '_' := fun same => unpaired (by rw [same]; rfl)
        rw [trailingUnderscores_cons_cons_of_ne notUnderscore]
        exact pairs (second :: before) behind rfl

end PairsUnderscores

/-- Without a dash, the name of a method has the key of its tag exactly if its
underscores are paired. -/
theorem dotUnderscores_safeTagChars_iff {name : List Char} (noDash : '-' ∉ name) :
    dotUnderscores (name.flatMap safeTagChar) = dotUnderscores name ↔ PairsUnderscores name := by
  fun_induction dotUnderscores name with
  | case1 rest inductionHypothesis =>
      have written : ('_' :: '_' :: rest).flatMap safeTagChar =
          '_' :: '_' :: rest.flatMap safeTagChar := rfl
      rw [written, dotUnderscores, List.cons_inj_right, PairsUnderscores.cons_cons_iff]
      exact inductionHypothesis (by simpa using noDash)
  | case2 character rest unpaired inductionHypothesis =>
      have notDash : character ≠ '-' := fun same => noDash (by simp [same])
      replace noDash : '-' ∉ rest := fun member => noDash (List.mem_cons_of_mem _ member)
      rw [List.flatMap_cons]
      by_cases isDot : character = '.'
      · subst isDot
        rw [PairsUnderscores.cons_iff_of_ne (by decide), ← inductionHypothesis noDash]
        exact List.cons_inj_right _
      have written : safeTagChar character = [character] := by
        simp [safeTagChar, isDot, notDash]
      rw [written, List.singleton_append]
      by_cases isUnderscore : character = '_'
      · subst isUnderscore
        have single : rest.head? ≠ some '_' := by
          intro front
          obtain ⟨behind, rfl⟩ := List.head?_eq_some_iff.mp front
          exact unpaired behind rfl rfl
        rw [PairsUnderscores.cons_iff_of_head single, ← inductionHypothesis noDash]
        by_cases front : rest.head? = some '.'
        · -- The underscore is paired with the first of the two that are written for the dot.
          obtain ⟨behind, rfl⟩ := List.head?_eq_some_iff.mp front
          have paired : dotUnderscores ('_' :: ('.' :: behind).flatMap safeTagChar) =
              '.' :: dotUnderscores ('_' :: behind.flatMap safeTagChar) := rfl
          rw [paired]
          simp
        · have apart : (rest.flatMap safeTagChar).head? ≠ some '_' := by
            rw [ne_eq, head_safeTagChars_iff]
            rintro ⟨first, isFirst, joins | rfl⟩
            · rcases List.mem_pair.mp joins with rfl | rfl
              · exact noDash (List.mem_of_head? isFirst)
              · exact single isFirst
            · exact front isFirst
          rw [dotUnderscores_cons fun _ => apart, List.cons_inj_right]
          exact (and_iff_right front).symm
      · rw [dotUnderscores_cons fun same => absurd same isUnderscore, List.cons_inj_right,
          PairsUnderscores.cons_iff_of_ne isUnderscore]
        exact inductionHypothesis noDash
  | case3 => simp [dotUnderscores, PairsUnderscores]

/-- Whether the name of a method leads back to the name of its tag: the tag name has no
dash, and its underscores are paired in front of dots. -/
def LeadsBack (name : String) : Prop :=
  '-' ∉ name.toList ∧ PairsUnderscores name.toList

/-- The name of a method has the key of its tag exactly if it leads back to it. -/
theorem registryKey_safeTagName_iff {name : String} :
    registryKey (safeTagName name) = registryKey name ↔ LeadsBack name := by
  rw [registryKey, registryKey, toList_safeTagName, String.ofList_inj]
  constructor
  · intro same
    have noDash : '-' ∉ name.toList := by
      intro dash
      rw [← dash_mem_dotUnderscores_iff, ← same, dash_mem_dotUnderscores_iff] at dash
      exact dash_notMem_safeTagChars name.toList dash
    exact ⟨noDash, (dotUnderscores_safeTagChars_iff noDash).mp same⟩
  · rintro ⟨noDash, pairs⟩
    exact (dotUnderscores_safeTagChars_iff noDash).mpr pairs

/-! ### Lookups -/

namespace Registry

variable {α : Type}

/-- A component is found under every name of the same key, and registering it changes
nothing for the other names. -/
theorem get?_register (registry : Registry α) (name other : String) (component : α) :
    (registry.register name component).get? other =
      if registryKey other = registryKey name then some component else registry.get? other :=
  lookup_insertEntry _ _ _ _

end Registry

namespace Rendering

variable {render : Rendering} {stage : Stage} {name : String} {body : List Operation}

/-- The call of a registered component renders its body in a frame of its own. -/
theorem call_of_get? (isCall : isComponentCall name) (found : stage.registry.get? name = some body)
    (props : Props) (content : Option Deferred) (contexts : Contexts) :
    render.call stage name props content contexts =
      Prod.map id ContextStack.pop (render ⟨props, content⟩ body contexts.push) := by
  simp only [call, isCall, if_true, found]
  rfl

end Rendering

/-- A registered component is found under its name. It is found under the name of the
method that its tag calls, and rendered by such calls, exactly if this name leads back
to it. Otherwise registering the component changes nothing for these calls. -/
theorem registered_component_found (registry : Registry (List Operation)) (name : String)
    (body : List Operation) (listed : isComponent name) :
    (registry.register name body).get? name = some body ∧
      (registryKey (safeTagName name) = registryKey name ↔ LeadsBack name) ∧
      (LeadsBack name →
        (registry.register name body).get? (safeTagName name) = some body ∧
          ∀ (render : Rendering) (builder : ElementBuilder) (props : Props)
            (content : Option Deferred) (contexts : Contexts),
            render.call ⟨registry.register name body, builder⟩ (safeTagName name) props content
                contexts =
              Prod.map id ContextStack.pop (render ⟨props, content⟩ body contexts.push)) ∧
      (¬ LeadsBack name →
        (registry.register name body).get? (safeTagName name) =
            registry.get? (safeTagName name) ∧
          ∀ (render : Rendering) (builder : ElementBuilder) (props : Props)
            (content : Option Deferred) (contexts : Contexts),
            render.call ⟨registry.register name body, builder⟩ (safeTagName name) props content
                contexts =
              render.call ⟨registry, builder⟩ (safeTagName name) props content contexts) := by
  have isCall : isComponentCall (safeTagName name) :=
    isComponentCall_safeTagName_iff.mpr (.inl listed)
  have keys := @registryKey_safeTagName_iff name
  refine ⟨?_, keys, fun leadsBack => ?_, fun astray => ?_⟩
  · rw [Registry.get?_register, if_pos rfl]
  · have found : (registry.register name body).get? (safeTagName name) = some body := by
      rw [Registry.get?_register, if_pos (keys.mpr leadsBack)]
    exact ⟨found, fun render builder => Rendering.call_of_get? isCall found⟩
  · have unseen : (registry.register name body).get? (safeTagName name) =
        registry.get? (safeTagName name) := by
      rw [Registry.get?_register, if_neg (keys.not.mpr astray)]
    refine ⟨unseen, fun render builder props content contexts => ?_⟩
    simp only [Rendering.call, isCall, if_true, unseen]

/-- A name in which a dot follows two underscores, and a single underscore follows a dot. -/
theorem registered_component_found_paired :
    isComponent "ui__._Card" ∧
      ((Registry.mk []).register "ui__._Card" [Operation.depth]).get?
        (safeTagName "ui__._Card") = some [Operation.depth] := by
  have listed : isComponent "ui__._Card" := by decide
  have leadsBack : LeadsBack "ui__._Card" := registryKey_safeTagName_iff.mp (by decide)
  exact ⟨listed,
    ((registered_component_found ⟨[]⟩ "ui__._Card" [.depth] listed).2.2.1 leadsBack).1⟩

/-- Two components that no tag finds: a dash is not found again behind an underscore, and
an underscore in front of a dot is paired with the wrong one. -/
theorem registered_component_unseen :
    (IsTagName "My-Card".toList ∧ isComponent "My-Card" ∧
        ((Registry.mk []).register "My-Card" [Operation.depth]).get? (safeTagName "My-Card") =
          none) ∧
      IsTagName "A_.B".toList ∧ isComponent "A_.B" ∧
        ((Registry.mk []).register "A_.B" [Operation.depth]).get? (safeTagName "A_.B") = none := by
  refine ⟨⟨⟨⟨'M', rfl, rfl⟩, List.all_eq_true.mp (by decide), by decide, by decide⟩, by decide, ?_⟩,
    ⟨⟨'A', rfl, rfl⟩, List.all_eq_true.mp (by decide), by decide, by decide⟩, by decide, ?_⟩
  · rw [Registry.get?_register, if_neg (by decide)]
    rfl
  · rw [Registry.get?_register, if_neg (by decide)]
    rfl

end MarkupTemplate
