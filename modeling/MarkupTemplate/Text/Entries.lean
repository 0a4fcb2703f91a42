/-!
# Entries in order of their names

Named entries are kept as a list in ascending order of names, with one entry per
name.
-/

namespace MarkupTemplate

/-- Puts an entry in its place in an ascending list. An entry of the same name is
replaced. -/
def insertEntry {α : Type} (name : String) (value : α) :
    List (String × α) → List (String × α)
  | [] => [(name, value)]
  | (other, old) :: entries =>
      if name < other then (name, value) :: (other, old) :: entries
      else if name = other then (name, value) :: entries
      else (other, old) :: insertEntry name value entries

/-- Looking up a name after an insertion finds the new value under the inserted
name, and what was there before under any other name. -/
theorem lookup_insertEntry {α : Type} (name other : String) (value : α)
    (entries : List (String × α)) :
    (insertEntry name value entries).lookup other =
      if other = name then some value else entries.lookup other := by
  induction entries with
  | nil => grind [insertEntry]
  | cons entry entries inductionHypothesis => grind [insertEntry]

end MarkupTemplate
