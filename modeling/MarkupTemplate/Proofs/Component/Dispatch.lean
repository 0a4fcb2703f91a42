import Mathlib.Data.List.Infix
import Mathlib.Tactic.Tauto
import MarkupTemplate.Compile
import MarkupTemplate.Component.Rendering
import MarkupTemplate.Proofs.Reader.Agreement
import MarkupTemplate.Proofs.Template.Uses

/-!
# Which tags become component calls

A template lists a tag as a component if its name is capitalised or has a dot in
it. A tag call goes to a component if the name of the called method is capitalised
or has two underscores next to each other, which stand for a dot there. A dash
becomes an underscore as well, so the two differ on names in which two joiners, a
dash or an underscore each, stand next to each other, and on no other names.

Where a call goes is said by what it depends on: a call that is left to the
registry gives the same result whatever builds elements, and a call that is left
to the builder gives the same result whatever components are registered.
-/

namespace MarkupTemplate

open Script

namespace Script

/-- The characters that become an underscore in the name of a method. -/
def joiners : List Char := ['-', '_']

/-- Whether two joiners stand next to each other in a name. -/
def DoublesJoiner (name : List Char) : Prop :=
  ∃ first ∈ joiners, ∃ second ∈ joiners, [first, second] <:+: name

@[simp] theorem not_doublesJoiner_nil : ¬ DoublesJoiner [] := by
  rintro ⟨first, -, second, -, within⟩
  simp at within

theorem doublesJoiner_cons_iff {character : Char} {rest : List Char} :
    DoublesJoiner (character :: rest) ↔
      (character ∈ joiners ∧ ∃ next ∈ rest.head?, next ∈ joiners) ∨ DoublesJoiner rest := by
  have starts (first second : Char) : [first, second] <+: character :: rest ↔
      first = character ∧ rest.head? = some second := by
    rw [List.cons_prefix_cons]
    cases rest <;> simp [List.cons_prefix_cons, eq_comm]
  simp only [DoublesJoiner, List.infix_cons_iff, starts]
  constructor
  · rintro ⟨first, isFirst, second, isSecond, ⟨rfl, front⟩ | within⟩
    · exact .inl ⟨isFirst, second, front, isSecond⟩
    · exact .inr ⟨first, isFirst, second, isSecond, within⟩
  · rintro (⟨isFirst, second, front, isSecond⟩ | ⟨first, isFirst, second, isSecond, within⟩)
    · exact ⟨character, isFirst, second, isSecond, .inl ⟨rfl, front⟩⟩
    · exact ⟨first, isFirst, second, isSecond, .inr within⟩

/-- The name of a method has no dot in it. -/
theorem dot_notMem_safeTagName (name : String) : '.' ∉ (safeTagName name).toList := by
  rw [toList_safeTagName, mem_safeTagChars_iff (by decide)]
  rintro ⟨-, notDot, -⟩
  exact notDot rfl

/-- The name of a method starts with an underscore if the tag name starts with a
joiner or a dot. -/
theorem head_safeTagChars_iff {name : List Char} :
    (name.flatMap safeTagChar).head? = some '_' ↔
      ∃ first ∈ name.head?, first ∈ joiners ∨ first = '.' := by
  cases name with
  | nil => simp
  | cons first rest =>
      by_cases isDot : first = '.'
      · simp [isDot, safeTagChar]
      · by_cases isDash : first = '-'
        · simp [isDash, safeTagChar, joiners]
        · simp [isDot, isDash, safeTagChar, joiners]

end Script

/-- Two underscores in a row are found wherever they stand. -/
theorem hasDoubleUnderscore_cons_iff {character : Char} {rest : List Char} :
    isComponentCall.hasDoubleUnderscore (character :: rest) ↔
      (character = '_' ∧ rest.head? = some '_') ∨ isComponentCall.hasDoubleUnderscore rest := by
  rw [isComponentCall.hasDoubleUnderscore.eq_def]
  split
  next same => cases same; simp
  next first following notDouble same =>
    cases same
    rw [or_iff_right]
    rintro ⟨rfl, front⟩
    obtain ⟨more, rfl⟩ := List.head?_eq_some_iff.mp front
    exact notDouble more rfl rfl
  next same => cases same

/-- The name of a method has two underscores in a row exactly if the tag name has a
dot or two joiners in a row. -/
theorem hasDoubleUnderscore_safeTagChars_iff {name : List Char} :
    isComponentCall.hasDoubleUnderscore (name.flatMap safeTagChar) ↔
      '.' ∈ name ∨ DoublesJoiner name := by
  induction name with
  | nil => simp [isComponentCall.hasDoubleUnderscore]
  | cons character rest inductionHypothesis =>
      have dotInFront : (∃ first ∈ rest.head?, first = '.') → '.' ∈ rest := by
        rintro ⟨first, front, rfl⟩
        exact List.mem_of_head? front
      rw [List.flatMap_cons, List.mem_cons, doublesJoiner_cons_iff]
      by_cases isDot : character = '.'
      · subst isDot
        simp [safeTagChar, hasDoubleUnderscore_cons_iff]
      · have written :
            safeTagChar character = [if character ∈ joiners then '_' else character] := by
          by_cases isDash : character = '-' <;> by_cases isUnderscore : character = '_' <;>
            simp [safeTagChar, joiners, isDot, isDash, isUnderscore]
        have joins : (if character ∈ joiners then '_' else character) = '_' ↔
            character ∈ joiners := by
          by_cases joins : character ∈ joiners
          · simp [joins]
          · have notUnderscore : character ≠ '_' := fun same => joins (by simp [joiners, same])
            simp [joins, notUnderscore]
        rw [written, List.singleton_append, hasDoubleUnderscore_cons_iff, inductionHypothesis,
          head_safeTagChars_iff, joins]
        constructor
        · rintro (⟨isJoiner, first, front, joins | isDot⟩ | dot | doubled)
          · exact .inr (.inl ⟨isJoiner, first, front, joins⟩)
          · exact .inl (.inr (dotInFront ⟨first, front, isDot⟩))
          · exact .inl (.inr dot)
          · exact .inr (.inr doubled)
        · rintro ((same | dot) | ⟨isJoiner, first, front, joins⟩ | doubled)
          · exact absurd same.symm isDot
          · exact .inr (.inl dot)
          · exact .inl ⟨isJoiner, first, front, .inl joins⟩
          · exact .inr (.inr doubled)

/-- A name that is no call of a component starts as its tag does. -/
theorem head_safeTagName_isUpper (name : String) :
    (safeTagName name).toList.head?.any Char.isUpper = name.toList.head?.any Char.isUpper := by
  rw [toList_safeTagName]
  cases name.toList with
  | nil => rfl
  | cons first rest =>
      by_cases isDot : first = '.'
      · subst isDot
        rfl
      · by_cases isDash : first = '-'
        · subst isDash
          rfl
        · simp [safeTagChar, isDot, isDash]

/-- The call of a tag is one of a component exactly if the tag is listed as one or two
joiners stand next to each other in its name. -/
theorem isComponentCall_safeTagName_iff {name : String} :
    isComponentCall (safeTagName name) ↔ isComponent name ∨ DoublesJoiner name.toList := by
  have noDot : (safeTagName name).toList.contains '.' = false := by
    simpa using dot_notMem_safeTagName name
  have doubled := @hasDoubleUnderscore_safeTagChars_iff name.toList
  rw [← toList_safeTagName] at doubled
  simp only [isComponentCall, isComponent, head_safeTagName_isUpper, noDot, Bool.or_false,
    Bool.or_eq_true, List.contains_iff_mem, doubled]
  exact or_assoc.symm

/-- Whether the tag calls of a name are left to the registry of components: how
elements are built plays no part in them. -/
def IsLeftToRegistry (name : String) : Prop :=
  ∀ (render : Rendering) (registry : Registry (List Operation)) (builder other : ElementBuilder)
    (props : Props) (content : Option Deferred) (contexts : Contexts),
    render.call ⟨registry, builder⟩ name props content contexts =
      render.call ⟨registry, other⟩ name props content contexts

/-- Whether the tag calls of a name are left to the builder of elements: which
components are registered plays no part in them. -/
def IsLeftToBuilder (name : String) : Prop :=
  ∀ (render : Rendering) (registry other : Registry (List Operation)) (builder : ElementBuilder)
    (props : Props) (content : Option Deferred) (contexts : Contexts),
    render.call ⟨registry, builder⟩ name props content contexts =
      render.call ⟨other, builder⟩ name props content contexts

theorem isLeftToRegistry_iff {name : String} :
    IsLeftToRegistry name ↔ isComponentCall name := by
  constructor
  · intro left
    by_contra isElement
    have same := left (fun _ _ contexts => (.aborted, contexts)) {} (fun _ _ _ => ⟨"a"⟩)
      (fun _ _ _ => ⟨"b"⟩) [] none {}
    simp [Rendering.call, isElement] at same
  · intro isCall render registry builder other props content contexts
    simp only [Rendering.call, isCall, if_true]

theorem isLeftToBuilder_iff {name : String} :
    IsLeftToBuilder name ↔ ¬ isComponentCall name := by
  constructor
  · intro left isCall
    have same := left (fun _ _ contexts => (.aborted, contexts)) {} ⟨[(registryKey name, [])]⟩
      (fun _ _ _ => ⟨""⟩) [] none {}
    simp [Rendering.call, isCall, Registry.get?] at same
  · intro isElement render registry other builder props content contexts
    simp only [Rendering.call, isElement]
    rfl

/-- What a source lists agrees with where its tag calls go, up to doubled joiners. The
call of a listed component is left to the registry. The call of a listed element is
left to the builder, unless two joiners stand next to each other in its name: then it
is left to the registry as well. -/
theorem tag_calls_as_listed (name : String) :
    (isComponentCall (safeTagName name) ↔ isComponent name ∨ DoublesJoiner name.toList) ∧
      ∀ options source compiled, compile options source = .ok compiled →
        (name ∈ compiled.metadata.components → IsLeftToRegistry (safeTagName name)) ∧
          (name ∈ compiled.metadata.elements →
            (IsLeftToBuilder (safeTagName name) ↔ ¬ DoublesJoiner name.toList) ∧
              (IsLeftToRegistry (safeTagName name) ↔ DoublesJoiner name.toList)) := by
  refine ⟨isComponentCall_safeTagName_iff, fun options source compiled compiles => ?_⟩
  obtain ⟨template, -, finished⟩ := Reader.bind_eq_ok compiles
  cases finished
  have summarizes := template.metadata_summarizes
  rw [isLeftToRegistry_iff, isLeftToBuilder_iff, isComponentCall_safeTagName_iff]
  constructor
  · intro listed
    exact .inl ((summarizes.components name).mp listed).2
  · intro listed
    have notComponent := ((summarizes.elements name).mp listed).2
    rw [or_iff_right notComponent]
    exact ⟨Iff.rfl, Iff.rfl⟩

/-- A source with a component whose name has a dash beside its dot, and with an element
of two words. -/
theorem tag_calls_as_listed_joined :
    ∃ compiled, compile {} "<ui.my-card/><my-card/>" = .ok compiled ∧
      "ui.my-card" ∈ compiled.metadata.components ∧
      IsLeftToRegistry (safeTagName "ui.my-card") ∧
      "my-card" ∈ compiled.metadata.elements ∧
      IsLeftToBuilder (safeTagName "my-card") := by
  have lists : (compile {} "<ui.my-card/><my-card/>").toOption.any (fun compiled =>
      compiled.metadata.components.contains "ui.my-card" &&
        compiled.metadata.elements.contains "my-card") = true := by decide +kernel
  obtain ⟨compiled, compiles, listed⟩ := exists_of_toOption_any lists
  obtain ⟨isComponent, isElement⟩ := Bool.and_eq_true_iff.mp listed
  have listedComponent := List.contains_iff_mem.mp isComponent
  have listedElement := List.contains_iff_mem.mp isElement
  have ofCard := (tag_calls_as_listed "ui.my-card").2 {} _ compiled compiles
  have ofElement := (tag_calls_as_listed "my-card").2 {} _ compiled compiles
  have noCall : ¬ isComponentCall (safeTagName "my-card") := by decide
  exact ⟨compiled, compiles, listedComponent, ofCard.1 listedComponent, listedElement,
    (ofElement.2 listedElement).1.mpr
      fun doubles => noCall (isComponentCall_safeTagName_iff.mpr (.inr doubles))⟩

/-- A tag that is listed as an element and called as a component. -/
theorem element_called_as_component :
    IsTagName "ui__button".toList ∧ isComponent "ui__button" = false ∧
      isComponentCall (safeTagName "ui__button") = true ∧
      ∃ compiled, compile {} "<ui__button/>" = .ok compiled ∧
        "ui__button" ∈ compiled.metadata.elements ∧
        ¬ IsLeftToBuilder (safeTagName "ui__button") := by
  have isTagName : IsTagName "ui__button".toList :=
    ⟨⟨'u', rfl, rfl⟩, List.all_eq_true.mp (by decide), by decide, by decide⟩
  have isCall : isComponentCall (safeTagName "ui__button") = true := by decide
  have lists : (compile {} "<ui__button/>").toOption.any (fun compiled =>
      compiled.metadata.elements.contains "ui__button") = true := by decide +kernel
  obtain ⟨compiled, compiles, listed⟩ := exists_of_toOption_any lists
  exact ⟨isTagName, by decide, isCall, compiled, compiles, List.contains_iff_mem.mp listed,
    fun left => isLeftToBuilder_iff.mp left isCall⟩

end MarkupTemplate
