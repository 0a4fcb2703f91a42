import MarkupTemplate.Content.Escape

/-!
# Entities are undone

`undoEntities` goes through markup once, from left to right, and puts the character
back for each of the five entities. Whatever follows escaped text, it finds the text
again: every ampersand of escaped text is the start of an entity, and the other four
characters do not occur in it. So a text that looks like an entity itself is safe.
-/

namespace MarkupTemplate

/-- Puts the characters back for the five entities, in one pass from left to right. -/
def undoEntities : List Char → List Char
  | '&' :: 'a' :: 'm' :: 'p' :: ';' :: rest => '&' :: undoEntities rest
  | '&' :: 'l' :: 't' :: ';' :: rest => '<' :: undoEntities rest
  | '&' :: 'g' :: 't' :: ';' :: rest => '>' :: undoEntities rest
  | '&' :: 'q' :: 'u' :: 'o' :: 't' :: ';' :: rest => '"' :: undoEntities rest
  | '&' :: '#' :: '3' :: '9' :: ';' :: rest => '\'' :: undoEntities rest
  | character :: rest => character :: undoEntities rest
  | [] => []

/-- The five entities. -/
def entityTexts : List String := ["&amp;", "&lt;", "&gt;", "&quot;", "&#39;"]

theorem toList_escapeMarkup (text : String) :
    (escapeMarkup text).toList = text.toList.flatMap entity :=
  String.toList_ofList

/-- Escaping goes character by character. -/
theorem escapeMarkup_append (first second : String) :
    escapeMarkup (first ++ second) = escapeMarkup first ++ escapeMarkup second := by
  unfold escapeMarkup
  rw [String.toList_append, List.flatMap_append, String.ofList_append]

/-- A character other than an ampersand starts no entity. -/
theorem undoEntities_cons {character : Char} (plain : character ≠ '&') (rest : List Char) :
    undoEntities (character :: rest) = character :: undoEntities rest := by
  rw [undoEntities]
  all_goals
    intro _ isAmpersand
    exact absurd isAmpersand plain

/-- The character that was written is put back, whatever follows it. -/
theorem undoEntities_entity (character : Char) (rest : List Char) :
    undoEntities (entity character ++ rest) = character :: undoEntities rest := by
  unfold entity
  split
  case h_6 notAmpersand _ _ _ _ => exact undoEntities_cons notAmpersand rest
  all_goals rfl

/-- Escaped text is found again, whatever follows it. -/
theorem undoEntities_flatMap_entity (text rest : List Char) :
    undoEntities (text.flatMap entity ++ rest) = text ++ undoEntities rest := by
  induction text with
  | nil => rfl
  | cons character text inductionHypothesis =>
      rw [List.flatMap_cons, List.append_assoc, undoEntities_entity, inductionHypothesis]
      rfl

theorem undoEntities_escapeMarkup (text : String) :
    undoEntities (escapeMarkup text).toList = text.toList := by
  have found := undoEntities_flatMap_entity text.toList []
  rwa [List.append_nil, undoEntities, List.append_nil, ← toList_escapeMarkup] at found

/-- No character is written with one that would have to be escaped, ampersands apart. -/
theorem notMem_entity {mark : Char} (isMark : mark ∈ ['<', '>', '"', '\'']) (character : Char) :
    mark ∉ entity character := by
  intro member
  unfold entity at member
  split at member
  case h_6 notLess notGreater notQuote notApostrophe =>
    obtain rfl := List.mem_singleton.mp member
    simp_all
  all_goals
    simp only [List.mem_cons, List.not_mem_nil, or_false] at isMark member
    rcases isMark with rfl | rfl | rfl | rfl <;> simp at member

/-- Escaped text does not contain what would have to be escaped, ampersands apart. -/
theorem notMem_escapeMarkup {mark : Char} (isMark : mark ∈ ['<', '>', '"', '\''])
    (text : String) : mark ∉ (escapeMarkup text).toList := by
  rw [toList_escapeMarkup, List.mem_flatMap]
  rintro ⟨character, -, member⟩
  exact notMem_entity isMark character member

/-- An ampersand in a character that was written, or behind it, starts the character's
entity or stands behind it. -/
theorem ampersand_suffix_entity {character : Char} {rest behind : List Char}
    (ends : '&' :: behind <:+ entity character ++ rest) :
    (∃ text ∈ entityTexts, text.toList <+: '&' :: behind) ∨ '&' :: behind <:+ rest := by
  unfold entity at ends
  split at ends
  case h_6 notAmpersand _ _ _ _ =>
    rw [List.singleton_append, List.suffix_cons_iff] at ends
    exact ends.imp_left fun same => absurd (List.cons.inj same).1.symm notAmpersand
  all_goals
    simp only [List.cons_append, List.nil_append, List.suffix_cons_iff, List.cons.injEq] at ends
    simp only [Char.reduceEq, false_and, false_or, true_and] at ends
    refine ends.imp_left ?_
    rintro rfl
    simp [entityTexts]

/-- Every ampersand of escaped text starts one of the five entities. -/
theorem exists_entity_of_ampersand {text : String} {behind : List Char}
    (ends : '&' :: behind <:+ (escapeMarkup text).toList) :
    ∃ text ∈ entityTexts, text.toList <+: '&' :: behind := by
  rw [toList_escapeMarkup] at ends
  generalize text.toList = characters at ends
  induction characters with
  | nil => exact absurd (List.eq_nil_of_suffix_nil ends) (List.cons_ne_nil _ _)
  | cons character characters inductionHypothesis =>
      rw [List.flatMap_cons] at ends
      rcases ampersand_suffix_entity ends with starts | further
      · exact starts
      · exact inductionHypothesis further

end MarkupTemplate
