import MarkupTemplate.Script.Literal
import MarkupTemplate.Text.DecimalDigit
import MarkupTemplate.Text.Lowercase

/-!
# Names in generated code

Tag names become method names, and attribute names become keyword keys in which
words are lowercased and joined by underscores.
-/

namespace MarkupTemplate.Script

open Text

/-- How a character of a tag name is written in the name of a method: a dot becomes
two underscores and a dash becomes one. -/
def safeTagChar (character : Char) : List Char :=
  if character = '.' then ['_', '_']
  else if character = '-' then ['_']
  else [character]

/-- The method that a tag name calls. -/
def safeTagName (name : String) : String :=
  String.ofList (name.toList.flatMap safeTagChar)

theorem toList_safeTagName (name : String) :
    (safeTagName name).toList = name.toList.flatMap safeTagChar :=
  String.toList_ofList

/-- But for underscores, the name of a method has the characters of the tag name that
are neither dots nor dashes. -/
theorem mem_safeTagChars_iff {name : List Char} {written : Char}
    (notUnderscore : written ≠ '_') :
    written ∈ name.flatMap safeTagChar ↔ written ∈ name ∧ written ≠ '.' ∧ written ≠ '-' := by
  rw [List.mem_flatMap]
  constructor
  · rintro ⟨character, inName, produced⟩
    unfold safeTagChar at produced
    split at produced
    next => exact absurd produced (by simp [notUnderscore])
    next notDot =>
      split at produced
      next => exact absurd produced (by simp [notUnderscore])
      next notDash =>
        obtain rfl := List.mem_singleton.mp produced
        exact ⟨inName, notDot, notDash⟩
  · rintro ⟨inName, notDot, notDash⟩
    exact ⟨written, inName, by simp [safeTagChar, notDot, notDash]⟩

/-- Writes every scope operator `::` as a slash. -/
def slashScopes : List Char → List Char
  | ':' :: ':' :: rest => '/' :: slashScopes rest
  | character :: rest => character :: slashScopes rest
  | [] => []

/-- The characters of an acronym: ASCII capitals and decimal digits. -/
def isAcronymChar (character : Char) : Bool :=
  character.isUpper || isDecimalDigit character

/-- Writes a run of acronym characters, given last first, in front of a small
letter: the last one of two or more, if it is a capital, belongs to the word
that the small letter continues. -/
def splitRun : List Char → List Char
  | last :: before :: earlier =>
      if last.isUpper then (before :: earlier).reverse ++ ['_', last]
      else (last :: before :: earlier).reverse
  | run => run.reverse

/-- Separates an acronym from the capitalised word after it. `run` holds the
acronym characters directly in front, last first. -/
def splitAcronyms (run : List Char) : List Char → List Char
  | [] => run.reverse
  | character :: rest =>
      if isAcronymChar character then splitAcronyms (character :: run) rest
      else if character.isLower then splitRun run ++ character :: splitAcronyms [] rest
      else run.reverse ++ character :: splitAcronyms [] rest

/-- Separates a small letter or digit from the capital after it. -/
def splitCapitals : List Char → List Char
  | first :: second :: rest =>
      if (first.isLower || isDecimalDigit first) && second.isUpper then
        first :: '_' :: second :: splitCapitals rest
      else first :: splitCapitals (second :: rest)
  | rest => rest

/-- A dash becomes an underscore. -/
def dashToUnderscore (character : Char) : Char :=
  if character = '-' then '_' else character

/-- The words of a name, lowercased and joined by underscores. -/
def underscore (name : String) : String :=
  String.ofList
    (lowercase ((splitCapitals (splitAcronyms [] (slashScopes name.toList))).map
      dashToUnderscore))

/-- The characters of a label that needs no quotes. -/
def isLabelChar (character : Char) : Bool :=
  character.isAlphanum || character == '_'

/-- Whether a key can be written without quotes: a letter or underscore, then
letters, digits and underscores, then at most one question or exclamation mark. -/
def isLabel : List Char → Bool
  | [] => false
  | first :: rest =>
      (first.isAlpha || first == '_')
        && [[], ['?'], ['!']].contains (rest.dropWhile isLabelChar)

/-- The keyword key of an attribute, its colon included. -/
def attributeKey (name : String) : String :=
  let key := underscore name
  if isLabel key.toList then key ++ ":" else literal key ++ ":"

end MarkupTemplate.Script
