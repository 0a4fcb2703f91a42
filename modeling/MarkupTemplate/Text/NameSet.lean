/-!
# Sets of names

A set of names is kept in ascending order without repeats, so that it is listed
the same way whatever the order in which the names were met. Names are compared
by code points, which is also the order of their encoded bytes.
-/

namespace MarkupTemplate

/-- Puts a name in its place in an ascending list, unless it is already there. -/
def insertName (name : String) : List String → List String
  | [] => [name]
  | other :: names =>
      if name < other then name :: other :: names
      else if name = other then other :: names
      else other :: insertName name names

/-- A name is in the list after insertion exactly when it was put in or was
there before. -/
theorem mem_insertName {name other : String} {names : List String} :
    other ∈ insertName name names ↔ other = name ∨ other ∈ names := by
  induction names with
  | nil => simp [insertName]
  | cons head names inductionHypothesis =>
      unfold insertName
      split
      · simp
      · split
        next equal => simp [equal]
        next =>
          simp only [List.mem_cons, inductionHypothesis]
          grind

/-- Insertion keeps a list ascending. -/
theorem pairwise_insertName {name : String} {names : List String}
    (ascending : names.Pairwise (· < ·)) : (insertName name names).Pairwise (· < ·) := by
  induction names with
  | nil => simp [insertName]
  | cons head names inductionHypothesis =>
      obtain ⟨above, ascending⟩ := List.pairwise_cons.mp ascending
      unfold insertName
      split
      next below =>
        refine List.pairwise_cons.mpr ⟨?_, List.pairwise_cons.mpr ⟨above, ascending⟩⟩
        intro other member
        rcases List.mem_cons.mp member with rfl | member
        · exact below
        · exact String.lt_trans below (above other member)
      next notBelow =>
        split
        next => exact List.pairwise_cons.mpr ⟨above, ascending⟩
        next different =>
          refine List.pairwise_cons.mpr ⟨?_, inductionHypothesis ascending⟩
          intro other member
          rcases mem_insertName.mp member with rfl | member
          · have reached : head ≤ other := String.not_lt.mp notBelow
            by_cases below : head < other
            · exact below
            · exact absurd (String.le_antisymm (String.not_lt.mp below) reached) different
          · exact above other member

/-- A set of names. -/
structure NameSet where
  names : List String := []
  ascending : names.Pairwise (· < ·) := by simp

namespace NameSet

instance : EmptyCollection NameSet := ⟨{}⟩

instance : Inhabited NameSet := ⟨∅⟩

/-- The set with one more name. -/
def insert (set : NameSet) (name : String) : NameSet :=
  ⟨insertName name set.names, pairwise_insertName set.ascending⟩

/-- Whether a name is in the set. -/
def contains (set : NameSet) (name : String) : Bool := set.names.contains name

/-- The number of names in the set. -/
def size (set : NameSet) : Nat := set.names.length

instance : Membership String NameSet := ⟨fun set name => name ∈ set.names⟩

theorem mem_insert {set : NameSet} {name other : String} :
    other ∈ set.insert name ↔ other = name ∨ other ∈ set :=
  mem_insertName

end NameSet
end MarkupTemplate
