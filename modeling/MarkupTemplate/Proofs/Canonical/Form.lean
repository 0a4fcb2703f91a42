import Mathlib.Data.List.Chain
import Mathlib.Tactic.Tauto
import MarkupTemplate.Diagnostic.Fault
import MarkupTemplate.Proofs.Canonical.Code
import MarkupTemplate.Proofs.Canonical.Declaration
import MarkupTemplate.Proofs.Grammar.Phrase

/-!
# Canonical templates

Not every tree can be the tree of a source: text may be empty, code may close
its own braces, a name may hold a blank. This module says which trees can be.
Each condition speaks of one place in a tree: a name, a child, the pieces of one
expression, the value of an attribute. `Node.WellFormed` asks them of every
element within a tree, and `Template.IsCanonical` of a whole template.
-/

namespace MarkupTemplate

open Spelling Text

/-- A tag name: a letter and then letters, digits, `_`, `-` and `.`, with no two
dots in a row and none at the end. -/
structure IsTagName (name : List Char) : Prop where
  letter : ∃ first ∈ name.head?, first.isAlpha
  spelled : ∀ character ∈ name, isTagNameChar character
  noTwoDots : ¬ ['.', '.'] <:+: name
  noFinalDot : name.getLast? ≠ some '.'

/-- An attribute name: characters of attribute names, the first one of those
that may start it. -/
structure IsAttributeName (name : List Char) : Prop where
  start : ∃ first ∈ name.head?, isAttrNameStart first
  spelled : ∀ character ∈ name, isAttrNameChar character

namespace Node

/-- Whether a node is an element. -/
def IsElement : Node → Prop
  | .element .. => True
  | _ => False

/-- The code of a node that is an expression. -/
def code? : Node → Option (List Char)
  | .expression content => some content.toList
  | _ => none

/-- The code among the pieces of an expression, piece by piece. -/
def codes (pieces : List Node) : List (List Char) := pieces.filterMap code?

/-- Whether a node can be a piece of an expression: an element, or code that is
not empty and in which no markup starts. -/
def IsPiece : Node → Prop
  | .expression content => content ≠ "" ∧ ¬ Code.EntersMarkup content.toList []
  | .element .. => True
  | _ => False

/-- Whether one piece can stand directly before another: code only before an
element, and only if it makes room for markup. -/
def Precedes : Node → Node → Prop
  | .expression content, next => next.IsElement ∧ startsMarkup content.toList.reverse
  | _, _ => True

/-- The pieces at the start of an expression, behind which `depth` of its braces
are open. White space has been dropped in front of them. No piece ends inside
quotes, and none closes the brace that encloses the expression. -/
structure IsOpenSite (depth : Nat) (pieces : List Node) : Prop where
  isPiece : ∀ node ∈ pieces, node.IsPiece
  precedes : pieces.IsChain Precedes
  leads : ∀ code ∈ pieces.head?.bind code?, LeadsSolid code
  balanced : (codes pieces).foldlM Code.depthAfter 1 = some depth

/-- All pieces of an expression, possibly none. White space has been dropped
behind them as well, and only the brace that encloses them is open there. -/
structure IsSite (pieces : List Node) : Prop extends IsOpenSite 1 pieces where
  ends : ∀ code ∈ pieces.getLast?.bind code?, EndsSolid code

/-- Whether a node can stand among the children of an element or a template. A
lone piece of code is an expression, other pieces are a group. -/
def IsChild : Node → Prop
  | .text content => content ≠ ""
  | .expression content => IsSite [.expression content]
  | .declaration content => Code.IsDeclaration content.toList
  | .group pieces => ofPieces pieces = some (.group pieces) ∧ IsSite pieces
  | .element .. => True

/-- Whether a node is text that ends in a backslash, which would escape what
follows it. -/
def EndsInBackslash : Node → Prop
  | .text content => content.toList.getLast? = some '\\'
  | _ => False

/-- Whether a node can be the value of an attribute: text that some quotes can
enclose, or the pieces of an expression. -/
def IsValue (value : Node) : Prop :=
  (∃ content, value = .text content ∧ ('"' ∉ content.toList ∨ '\'' ∉ content.toList)) ∨
    ∃ pieces, value = .ofValue pieces ∧ IsSite pieces

end Node

/-- Whether the name and the value of an attribute, or what it spreads, can be
written. -/
def Attribute.IsSpelled : Attribute → Prop
  | .named name value => IsAttributeName name.toList ∧ value.IsValue
  | .spread pieces => Node.IsSite pieces

mutual

/-- Whether every element within a node can be written. -/
def Node.WellFormed : Node → Prop
  | .text _ => True
  | .expression _ => True
  | .declaration _ => True
  | .group pieces => Node.WellFormedAll pieces
  | .element name attributes children =>
      IsTagName name.toList ∧ (∀ given ∈ attributes, given.IsSpelled) ∧
        (∀ child ∈ children, child.IsChild ∧ ¬ child.EndsInBackslash) ∧
        Attribute.WellFormedAll attributes ∧ Node.WellFormedAll children

/-- Whether every element within several nodes can be written. -/
def Node.WellFormedAll : List Node → Prop
  | [] => True
  | node :: nodes => node.WellFormed ∧ Node.WellFormedAll nodes

/-- Whether every element within an attribute can be written. -/
def Attribute.WellFormed : Attribute → Prop
  | .named _ value => value.WellFormed
  | .spread pieces => Node.WellFormedAll pieces

/-- Whether every element within several attributes can be written. -/
def Attribute.WellFormedAll : List Attribute → Prop
  | [] => True
  | first :: rest => first.WellFormed ∧ Attribute.WellFormedAll rest

end

/-- A template that a source can have. Text at its very end may end in a
backslash. Each attribute of an element has a value or something to spread, and
no two of them become the same key. -/
structure Template.IsCanonical (template : Template) : Prop where
  isChild : ∀ child ∈ template.children, child.IsChild
  noBackslash : ∀ child ∈ template.children.dropLast, ¬ child.EndsInBackslash
  wellFormed : Node.WellFormedAll template.children
  proper : ∀ tag ∈ Node.tagsAll template.children, Attribute.Proper tag
  shallow : Node.nestingAll template.children ≤ maxNesting

/-! ### Names -/

/-- The dots of a name each stand between two segments exactly if no two are in a
row and none is at the end. A dot at the start does not matter here. -/
theorem isCompoundName_iff {name : List Char} :
    isCompoundName name = true ↔ ¬ ['.', '.'] <:+: name ∧ name.getLast? ≠ some '.' := by
  fun_induction isCompoundName name with
  | case1 => simp
  | case2 => simp
  | case3 rest => simp [List.infix_cons_iff]
  | case4 first rest notLast notTwo inductionHypothesis =>
      have noneHere : ¬ ['.', '.'] <+: first :: rest := by
        rintro ⟨behind, split⟩
        cases split
        exact notTwo behind rfl rfl
      rw [inductionHypothesis, List.infix_cons_iff, or_iff_right noneHere]
      cases rest with
      | nil =>
          have notDot : first ≠ '.' := fun isDot => notLast isDot rfl
          simp [notDot]
      | cons second rest => simp

/-- A character that starts an attribute name continues it as well. -/
theorem isAttrNameChar_of_start {character : Char} (starts : isAttrNameStart character) :
    isAttrNameChar character := by
  simp only [isAttrNameStart, isAttrNameChar, Char.isAlphanum, Bool.or_eq_true] at starts ⊢
  tauto

/-- A tag name has a first character, which is a letter. -/
theorem IsTagName.exists_cons {name : List Char} (isTagName : IsTagName name) :
    ∃ first rest, name = first :: rest ∧ first.isAlpha := by
  obtain ⟨first, isFirst, isLetter⟩ := isTagName.letter
  obtain ⟨rest, rfl⟩ := List.head?_eq_some_iff.mp isFirst
  exact ⟨first, rest, rfl, isLetter⟩

/-- An attribute name has a first character, which may start it. -/
theorem IsAttributeName.exists_cons {name : List Char} (isName : IsAttributeName name) :
    ∃ first rest, name = first :: rest ∧ isAttrNameStart first := by
  obtain ⟨first, isFirst, starts⟩ := isName.start
  obtain ⟨rest, rfl⟩ := List.head?_eq_some_iff.mp isFirst
  exact ⟨first, rest, rfl, starts⟩

/-! ### Several trees -/

@[simp] theorem Node.wellFormedAll_append {first second : List Node} :
    WellFormedAll (first ++ second) ↔ WellFormedAll first ∧ WellFormedAll second := by
  induction first with
  | nil => simp [WellFormedAll]
  | cons node nodes inductionHypothesis => simp [WellFormedAll, inductionHypothesis, and_assoc]

@[simp] theorem Attribute.wellFormedAll_append {first second : List Attribute} :
    WellFormedAll (first ++ second) ↔ WellFormedAll first ∧ WellFormedAll second := by
  induction first with
  | nil => simp [WellFormedAll]
  | cons given rest inductionHypothesis => simp [WellFormedAll, inductionHypothesis, and_assoc]

@[simp] theorem Attribute.nestingAll_append (first second : List Attribute) :
    nestingAll (first ++ second) = max (nestingAll first) (nestingAll second) := by
  induction first with
  | nil => simp [nestingAll]
  | cons given rest inductionHypothesis =>
      simp [nestingAll, inductionHypothesis, Nat.max_assoc]

/-- Joining pieces to one node keeps the elements among them. -/
@[simp] theorem Node.wellFormedAll_ofPieces {pieces : List Node} :
    WellFormedAll (ofPieces pieces).toList ↔ WellFormedAll pieces := by
  unfold ofPieces
  split <;> simp [WellFormedAll, WellFormed]

/-- The value of an attribute keeps the elements among its pieces. -/
@[simp] theorem Node.wellFormed_ofValue {pieces : List Node} :
    (ofValue pieces).WellFormed ↔ WellFormedAll pieces := by
  unfold ofValue ofPieces
  split <;> simp [WellFormedAll, WellFormed]

/-- Pieces of an expression among children are a child, unless there are none. -/
theorem Node.IsSite.isChild {pieces : List Node} (isSite : IsSite pieces) :
    ∀ child ∈ ofPieces pieces, child.IsChild ∧ ¬ child.EndsInBackslash := by
  intro child made
  unfold ofPieces at made
  split at made
  · cases made
  · cases made
    exact ⟨isSite, id⟩
  · rename_i notEmpty notLone
    cases made
    refine ⟨⟨?_, isSite⟩, id⟩
    unfold ofPieces
    split <;> simp_all

/-! ### Pieces -/

namespace Node

@[simp] theorem codes_nil : codes [] = [] := rfl

@[simp] theorem codes_append (first second : List Node) :
    codes (first ++ second) = codes first ++ codes second := List.filterMap_append

theorem codes_expression (content : String) (pieces : List Node) :
    codes (.expression content :: pieces) = content.toList :: codes pieces := rfl

/-- Elements hold no code of the expression they stand in. -/
theorem IsElement.code? {node : Node} (isElement : node.IsElement) : node.code? = none := by
  cases node <;> trivial

theorem IsElement.codes {node : Node} (isElement : node.IsElement) (pieces : List Node) :
    codes (node :: pieces) = codes pieces := List.filterMap_cons_none isElement.code?

/-- A piece of an expression is code or an element. -/
theorem IsPiece.eq_or {node : Node} (isPiece : node.IsPiece) :
    (∃ content, node = .expression content) ∨ node.IsElement := by
  cases node with
  | expression content => exact .inl ⟨content, rfl⟩
  | element => exact .inr trivial
  | _ => exact isPiece.elim

theorem IsElement.isPiece {node : Node} (isElement : node.IsElement) : node.IsPiece := by
  cases node <;> trivial

theorem IsElement.isChild {node : Node} (isElement : node.IsElement) : node.IsChild := by
  cases node <;> trivial

theorem IsElement.not_endsInBackslash {node : Node} (isElement : node.IsElement) :
    ¬ node.EndsInBackslash := by
  cases node <;> first | exact id | exact isElement.elim

theorem IsElement.precedes {node : Node} (isElement : node.IsElement) (next : Node) :
    node.Precedes next := by
  cases node <;> trivial

/-- The value of an attribute that is only named. -/
theorem isSite_true : IsSite [.expression "true"] where
  isPiece := by
    simp only [List.forall_mem_singleton, IsPiece]
    exact ⟨by decide, fun enters => absurd enters.mem (by decide)⟩
  precedes := .singleton _
  leads := by simp [code?, LeadsSolid, isBlank, blankRanges, inRanges]
  ends := by simp [code?, EndsSolid, isBlank, blankRanges, inRanges]
  balanced := by decide

end Node

end MarkupTemplate
