import MarkupTemplate.Proofs.Reader.Faults

/-!
# How a step of a reader can fail

`Reader.Fails` lists every way in which reading meets a fault, by the mode the
reader is in, with the characters it meets and the fault it reports.
`Reader.step_eq_error_iff` says that these are exactly the failures. Together with
the list of moves this says everything about a step.
-/

namespace MarkupTemplate.Reader

open Spelling Text

/-- The ways in which a reader meets a fault. -/
inductive Fails (reader : Reader) : Fault → Prop where
  | unclosed {tag : OpenTag} {outer : List Mode} (modes : reader.modes = .text (some tag) :: outer)
      (ended : reader.rest = []) : Fails reader ⟨.openTag tag.name, tag.span, none⟩
  | declare {parent : Option OpenTag} {outer : List Mode} {following : List Char} {fault : Fault}
      (modes : reader.modes = .text parent :: outer)
      (front : reader.rest = '{' :: '%' :: following)
      (undeclared : reader.flushText.readDeclaration = .error fault) : Fails reader fault
  | closeElement {parent : Option OpenTag} {outer : List Mode} {fault : Fault}
      (modes : reader.modes = .text parent :: outer) (closes : closesTag reader.rest)
      (unclosed : reader.flushText.closeTag parent = .error fault) : Fails reader fault
  | openChild {parent : Option OpenTag} {outer : List Mode} {fault : Fault}
      (modes : reader.modes = .text parent :: outer) (opens : opensTag reader.rest)
      (unopened : reader.flushText.openTag = .error fault) : Fails reader fault
  | unfinished {tag : OpenTag} {outer : List Mode} (modes : reader.modes = .attributes tag :: outer)
      (ended : reader.skipBlank.rest = []) :
      Fails reader ⟨.unfinishedTag tag.name, tag.span, none⟩
  | bareExpression {tag : OpenTag} {outer : List Mode} {following : List Char}
      (modes : reader.modes = .attributes tag :: outer)
      (front : reader.skipBlank.rest = '{' :: following)
      (noSpread : ∀ more, following ≠ '.' :: '.' :: '.' :: more) :
      Fails reader ⟨.bareExpression tag.name, .point reader.skipBlank.position, some tag.span⟩
  | nameAttribute {tag : OpenTag} {outer : List Mode} {character : Char} {following : List Char}
      {fault : Fault} (modes : reader.modes = .attributes tag :: outer)
      (front : reader.skipBlank.rest = character :: following)
      (starts : isAttrNameStart character)
      (unread : reader.skipBlank.readAttribute = .error fault) : Fails reader fault
  | strayCharacter {tag : OpenTag} {outer : List Mode} {character : Char} {following : List Char}
      (modes : reader.modes = .attributes tag :: outer)
      (front : reader.skipBlank.rest = character :: following)
      (notStarting : isAttrNameStart character = false) (notSite : character ≠ '{')
      (notEnd : character ≠ '>') (notSelfClosing : character = '/' → following.head? ≠ some '>') :
      Fails reader ⟨.strayCharacter character tag.name, .point reader.skipBlank.position,
        some tag.span⟩
  | openExpression {site : Site} {outer : List Mode}
      (modes : reader.modes = .expression site :: outer) (ended : reader.rest = []) :
      Fails reader ⟨.openExpression, site.opening, none⟩
  | openEmbedded {site : Site} {outer : List Mode} {fault : Fault}
      (modes : reader.modes = .expression site :: outer) (unquoted : site.quote = none)
      (opens : opensTag reader.rest) (starts : startsMarkup reader.pending)
      (unopened : (reader.flushPiece site false).openTag = .error fault) : Fails reader fault

variable {reader : Reader} {fault : Fault} {parent : Option OpenTag} {outer : List Mode}
  {tag : OpenTag} {site : Site}

/-! ### Every listed failure is one -/

/-- The step at the name of an attribute that cannot be read. -/
theorem stepAttributes_unread {character : Char} {following : List Char}
    (front : reader.skipBlank.rest = character :: following) (starts : isAttrNameStart character)
    (unread : reader.skipBlank.readAttribute = .error fault) :
    reader.stepAttributes tag outer = .error fault := by
  rw [stepAttributes_start front starts, unread]
  rfl

/-- The step at a brace among attributes that opens no spread. -/
theorem stepAttributes_brace {following : List Char}
    (front : reader.skipBlank.rest = '{' :: following)
    (noSpread : ∀ more, following ≠ '.' :: '.' :: '.' :: more) :
    reader.stepAttributes tag outer =
      .error ⟨.bareExpression tag.name, .point reader.skipBlank.position, some tag.span⟩ := by
  unfold stepAttributes
  simp only [front]

/-- Every listed failure is one. -/
theorem Fails.step_eq (fails : reader.Fails fault) : reader.step = .error fault := by
  cases fails with
  | unclosed modes ended => simp only [step, modes, stepText, ended]
  | declare modes front undeclared =>
      simp only [step, modes, stepText, front, undeclared]
      rfl
  | closeElement modes closes unclosed =>
      obtain ⟨following, front⟩ := front_of_closesTag closes
      simp only [step, modes, stepText_mark front, closes, if_true, unclosed]
      rfl
  | openChild modes opens unopened =>
      obtain ⟨following, front⟩ := front_of_opensTag opens
      have notClosing := closesTag_of_opensTag opens
      simp only [step, modes, stepText_mark front, notClosing, opens, Bool.false_eq_true,
        if_false, if_true, unopened]
      rfl
  | unfinished modes ended => simp only [step, modes, stepAttributes, ended]
  | bareExpression modes front noSpread =>
      simp only [step, modes, stepAttributes_brace front noSpread]
  | nameAttribute modes front starts unread =>
      simp only [step, modes, stepAttributes_unread front starts unread]
  | strayCharacter modes front notStarting notSite notEnd notSelfClosing =>
      simp only [step, modes, stepAttributes_character front notSite notEnd notSelfClosing,
        notStarting, Bool.false_eq_true, if_false]
  | openExpression modes ended => simp only [step, modes, stepExpression, ended]
  | openEmbedded modes unquoted opens starts unopened =>
      obtain ⟨following, front⟩ := front_of_opensTag opens
      simp only [step, modes,
        stepExpression_plain unquoted front (by decide) (by decide), opens, starts,
        Bool.and_self, if_true, unopened]
      rfl

/-! ### Every failure is listed -/

theorem fails_of_stepText (modes : reader.modes = .text parent :: outer)
    (failed : reader.stepText parent outer = .error fault) : reader.Fails fault := by
  unfold stepText at failed
  split at failed
  next ended =>
    split at failed
    next =>
      cases failed
      exact .unclosed modes ended
    next => cases failed
  next => cases failed
  next front =>
    rcases bind_eq_error failed with undeclared | ⟨declared, -, further⟩
    · exact .declare modes front undeclared
    · cases further
  next => cases failed
  next =>
    split at failed
    next closes =>
      rcases bind_eq_error failed with unclosed | ⟨closed, -, further⟩
      · exact .closeElement modes closes unclosed
      · cases further
    next =>
      split at failed
      next opens =>
        rcases bind_eq_error failed with unopened | ⟨opened, -, further⟩
        · exact .openChild modes opens unopened
        · cases further
      next => cases failed

theorem fails_of_stepAttributes (modes : reader.modes = .attributes tag :: outer)
    (failed : reader.stepAttributes tag outer = .error fault) : reader.Fails fault := by
  unfold stepAttributes at failed
  simp only [] at failed
  split at failed
  next ended =>
    cases failed
    exact .unfinished modes ended
  next => cases failed
  next => cases failed
  next => cases failed
  next noSpread front =>
    cases failed
    refine .bareExpression modes front fun more isSpread => ?_
    subst isSpread
    exact noSpread _ rfl
  next character following notSelfClosing notEnd noSpread notSite front =>
    split at failed
    next starts =>
      rcases bind_eq_error failed with unread | ⟨⟨site, named⟩, -, further⟩
      · exact .nameAttribute modes front starts unread
      · cases site <;> cases further
    next notStarting =>
      cases failed
      refine .strayCharacter modes front (by simpa using notStarting) ?_ ?_ ?_
      · rintro rfl
        exact notSite rfl
      · rintro rfl
        exact notEnd rfl
      · rintro rfl isEnd
        obtain ⟨behind, rfl⟩ := List.head?_eq_some_iff.mp isEnd
        exact notSelfClosing behind rfl rfl

theorem fails_of_stepExpression (modes : reader.modes = .expression site :: outer)
    (failed : reader.stepExpression site outer = .error fault) : reader.Fails fault := by
  cases front : reader.rest with
  | nil =>
      simp only [stepExpression, front, Except.error.injEq] at failed
      exact failed ▸ .openExpression modes front
  | cons character following =>
      unfold stepExpression at failed
      simp only [front] at failed
      split at failed
      next => split at failed <;> cases failed
      next unquoted =>
        split at failed
        next => cases failed
        next =>
          split at failed
          next => split at failed <;> cases failed
          next =>
            split at failed
            next markup =>
              obtain ⟨opens, starts⟩ := Bool.and_eq_true_iff.mp markup
              rcases bind_eq_error failed with unopened | ⟨opened, -, further⟩
              · exact .openEmbedded modes (by simpa using unquoted) (by rwa [front]) starts unopened
              · cases further
            next => cases failed

/-- A reader meets a fault in one of the listed ways, and only so. -/
theorem step_eq_error_iff : reader.step = .error fault ↔ reader.Fails fault := by
  constructor
  · intro failed
    cases modes : reader.modes with
    | nil => simp [step, modes] at failed
    | cons mode outer =>
        cases mode with
        | text parent =>
            refine fails_of_stepText modes ?_
            simpa only [step, modes] using failed
        | attributes tag =>
            refine fails_of_stepAttributes modes ?_
            simpa only [step, modes] using failed
        | expression site =>
            refine fails_of_stepExpression modes ?_
            simpa only [step, modes] using failed
  · exact Fails.step_eq

end MarkupTemplate.Reader
