import MarkupTemplate.Proofs.Script.Characters
import MarkupTemplate.Token.Spelling

/-!
# What generated code tells of a template

A static template holds no code: it is made of text and of elements whose
attributes have quoted values. The code of a static template determines it, up to
what code does to names: a tag name becomes a method and an attribute name a key.
No text can be taken for a piece of the program around it.

Two programs are compared from the front. Each result here says that equal code
comes from equal parts and goes on with equal code.
-/

namespace MarkupTemplate

open Spelling

mutual

/-- A node with the names it has in code. -/
def Node.rename : Node → Node
  | .text content => .text content
  | .expression content => .expression content
  | .declaration content => .declaration content
  | .group pieces => .group (Node.renameAll pieces)
  | .element name attributes children =>
      .element (Script.safeTagName name) (Attribute.renameAll attributes)
        (Node.renameAll children)

/-- Nodes with the names they have in code. -/
def Node.renameAll : List Node → List Node
  | [] => []
  | node :: nodes => node.rename :: Node.renameAll nodes

/-- An attribute with the name it has in code. -/
def Attribute.rename : Attribute → Attribute
  | .named name value => .named (Script.underscore name) value.rename
  | .spread pieces => .spread (Node.renameAll pieces)

/-- Attributes with the names they have in code. -/
def Attribute.renameAll : List Attribute → List Attribute
  | [] => []
  | first :: rest => first.rename :: Attribute.renameAll rest

end

/-- A template with the names it has in code. -/
def Template.rename (template : Template) : Template := ⟨Node.renameAll template.children⟩

/-- Whether a tag name is a letter and then characters of tag names. -/
def IsTagSpelling (name : List Char) : Prop :=
  ∃ first rest, name = first :: rest ∧ first.isAlpha ∧ ∀ character ∈ rest, isTagNameChar character

/-- Whether an attribute has a quoted value. -/
def Attribute.IsStatic : Attribute → Prop
  | .named _ (.text _) => True
  | _ => False

mutual

/-- Whether a node holds no code. -/
def Node.IsStatic : Node → Prop
  | .text _ => True
  | .element name attributes children =>
      IsTagSpelling name.toList ∧ (∀ given ∈ attributes, given.IsStatic) ∧ Node.AreStatic children
  | _ => False

/-- Whether nodes hold no code. -/
def Node.AreStatic : List Node → Prop
  | [] => True
  | node :: nodes => node.IsStatic ∧ Node.AreStatic nodes

end

/-- Whether a template holds no code. -/
def Template.IsStatic (template : Template) : Prop := Node.AreStatic template.children

namespace Script

variable {options : Options} {level : Nat}

/-- Behind the first attribute, the others follow a comma. -/
theorem attributesCode_cons (options : Options) (level : Nat) (first : Attribute)
    (rest : List Attribute) :
    attributesCode options level (first :: rest) = attributeCode options level first ++
      if rest.isEmpty then [] else .text ", " :: attributesCode options level rest := by
  cases rest with
  | nil => simp [attributesCode]
  | cons second rest => simp [attributesCode]

/-! ### Code depends on names only as it spells them -/

/-- Nodes keep their number when they are renamed. -/
theorem isEmpty_of_renameAll : ∀ {first second : List Node},
    Node.renameAll first = Node.renameAll second → first.isEmpty = second.isEmpty
  | [], [], _ => rfl
  | [], _ :: _, same => by simp [Node.renameAll] at same
  | _ :: _, [], same => by simp [Node.renameAll] at same
  | _ :: _, _ :: _, _ => rfl

/-- The key of an attribute depends on the words of its name. -/
theorem attributeKey_congr {first second : String} (same : underscore first = underscore second) :
    attributeKey first = attributeKey second := by
  rw [attributeKey, attributeKey, same]

mutual

/-- Equal names in code make equal code of nodes. -/
theorem nodeCode_congr (level : Nat) : ∀ first second : Node, first.rename = second.rename →
    nodeCode options level first = nodeCode options level second
  | .text _, second, same => by
      cases second <;> simp only [Node.rename, reduceCtorEq] at same
      rw [Node.text.inj same]
  | .expression _, second, same => by
      cases second <;> simp only [Node.rename, reduceCtorEq] at same
      rw [Node.expression.inj same]
  | .declaration _, second, same => by
      cases second <;> simp only [Node.rename, reduceCtorEq] at same
      rw [Node.declaration.inj same]
  | .group pieces, second, same => by
      cases second <;> simp only [Node.rename, reduceCtorEq] at same
      rw [nodeCode, nodeCode, piecesCode_congr level pieces _ (Node.group.inj same)]
  | .element name attributes children, second, same => by
      cases second <;> simp only [Node.rename, reduceCtorEq] at same
      obtain ⟨sameName, sameAttributes, sameChildren⟩ := Node.element.inj same
      rw [nodeCode, nodeCode, sameName, attributesCode_congr level attributes _ sameAttributes,
        childrenCode_congr (level + 2) children _ sameChildren, isEmpty_of_renameAll sameChildren]

/-- Equal names in code make equal code of pieces. -/
theorem piecesCode_congr (level : Nat) : ∀ first second : List Node,
    Node.renameAll first = Node.renameAll second →
    piecesCode options level first = piecesCode options level second
  | [], second, same => by
      cases second <;> simp only [Node.renameAll, reduceCtorEq] at same
      rfl
  | piece :: pieces, second, same => by
      cases second <;> simp only [Node.renameAll, reduceCtorEq] at same
      obtain ⟨sameFirst, sameRest⟩ := List.cons.inj same
      rw [piecesCode, piecesCode, nodeCode_congr level piece _ sameFirst,
        piecesCode_congr level pieces _ sameRest]

/-- Equal names in code make equal code of an attribute. -/
theorem attributeCode_congr (level : Nat) : ∀ first second : Attribute,
    first.rename = second.rename →
    attributeCode options level first = attributeCode options level second
  | .named name value, second, same => by
      cases second <;> simp only [Attribute.rename, reduceCtorEq] at same
      obtain ⟨sameName, sameValue⟩ := Attribute.named.inj same
      rw [attributeCode, attributeCode, attributeKey_congr sameName,
        nodeCode_congr level value _ sameValue]
  | .spread pieces, second, same => by
      cases second <;> simp only [Attribute.rename, reduceCtorEq] at same
      rw [attributeCode, attributeCode, piecesCode_congr level pieces _ (Attribute.spread.inj same)]

/-- Equal names in code make equal code of attributes. -/
theorem attributesCode_congr (level : Nat) : ∀ first second : List Attribute,
    Attribute.renameAll first = Attribute.renameAll second →
    attributesCode options level first = attributesCode options level second
  | [], second, same => by
      cases second <;> simp only [Attribute.renameAll, reduceCtorEq] at same
      rfl
  | given :: rest, second, same => by
      cases second <;> simp only [Attribute.renameAll, reduceCtorEq] at same
      rename_i other others
      obtain ⟨sameFirst, sameRest⟩ := List.cons.inj same
      have sameEmpty : rest.isEmpty = others.isEmpty := by
        cases rest <;> cases others <;> simp [Attribute.renameAll] at sameRest <;> rfl
      rw [attributesCode_cons, attributesCode_cons, attributeCode_congr level given _ sameFirst,
        attributesCode_congr level rest _ sameRest, sameEmpty]

/-- Equal names in code make equal lines of children. -/
theorem childrenCode_congr (level : Nat) : ∀ first second : List Node,
    Node.renameAll first = Node.renameAll second →
    childrenCode options level first = childrenCode options level second
  | [], second, same => by
      cases second <;> simp only [Node.renameAll, reduceCtorEq] at same
      rfl
  | child :: children, second, same => by
      cases second <;> simp only [Node.renameAll, reduceCtorEq] at same
      rename_i other others
      obtain ⟨sameFirst, sameRest⟩ := List.cons.inj same
      have sameCode := nodeCode_congr level child other sameFirst
      have sameLine (code : List Fragment) :
          childLine level child code = childLine level other code := by
        cases child <;> cases other <;> simp only [Node.rename, reduceCtorEq] at sameFirst <;> rfl
      rw [childrenCode, childrenCode, sameLine, sameCode,
        childrenCode_congr level children _ sameRest]

end

/-! ### Code determines what it was made from -/

/-- A text ends where a character stands that it does not hold. -/
theorem append_cons_inj {mark : Char} {first second rest behind : List Char}
    (notFirst : mark ∉ first) (notSecond : mark ∉ second)
    (same : first ++ mark :: rest = second ++ mark :: behind) : first = second ∧ rest = behind := by
  induction first generalizing second with
  | nil =>
      cases second with
      | nil => exact ⟨rfl, (List.cons.inj same).2⟩
      | cons character second =>
          obtain ⟨rfl, -⟩ := List.cons.inj same
          simp at notSecond
  | cons character first inductionHypothesis =>
      cases second with
      | nil =>
          obtain ⟨rfl, -⟩ := List.cons.inj same
          simp at notFirst
      | cons other second =>
          obtain ⟨rfl, sameRest⟩ := List.cons.inj same
          rw [List.mem_cons, not_or] at notFirst notSecond
          obtain ⟨rfl, sameBehind⟩ := inductionHypothesis notFirst.2 notSecond.2 sameRest
          exact ⟨rfl, sameBehind⟩

/-- The method of a tag name holds no bracket. -/
theorem bracket_notMem_safeTagName {name : String} (spelled : IsTagSpelling name.toList) :
    '(' ∉ (safeTagName name).toList := by
  obtain ⟨first, rest, split, letter, others⟩ := spelled
  have isNameChar : ∀ character ∈ name.toList, isTagNameChar character := by
    rw [split]
    exact List.forall_mem_cons.mpr ⟨by simp [isTagNameChar, Char.isAlphanum, letter], others⟩
  rw [toList_safeTagName, mem_safeTagChars_iff (by decide)]
  rintro ⟨inName, -⟩
  exact absurd (isNameChar _ inName) (by decide)

/-- A key is a label, or a literal. -/
theorem toList_attributeKey (name : String) :
    (isLabel (underscore name).toList = true ∧
        (attributeKey name).toList = (underscore name).toList ++ [':']) ∨
      (attributeKey name).toList = (literal (underscore name)).toList ++ [':'] := by
  unfold attributeKey
  simp only []
  split
  case isTrue label => exact .inl ⟨label, by simp⟩
  case isFalse => exact .inr (by simp)

/-- A label is no literal. -/
theorem label_ne_literal {key : List Char} {other : String} {rest behind : List Char}
    (label : isLabel key = true) : key ++ rest ≠ (literal other).toList ++ behind := by
  intro same
  cases key with
  | nil => simp [isLabel] at label
  | cons first key =>
      rw [toList_literal] at same
      obtain ⟨rfl, -⟩ := List.cons.inj same
      exact absurd (spelled_of_isLabel label '"' (by simp)) (by decide)

/-- The key of an attribute determines the words of its name. -/
theorem attributeKey_append_inj {first second : String} {rest behind : List Char}
    (same : (attributeKey first).toList ++ rest = (attributeKey second).toList ++ behind) :
    underscore first = underscore second ∧ rest = behind := by
  have noColon {key : List Char} (label : isLabel key = true) : ':' ∉ key := fun member =>
    absurd (spelled_of_isLabel label ':' member) (by decide)
  rcases toList_attributeKey first with ⟨label, key⟩ | key <;>
    rcases toList_attributeKey second with ⟨otherLabel, otherKey⟩ | otherKey <;>
    rw [key, otherKey, List.append_assoc, List.append_assoc] at same
  · obtain ⟨sameKey, sameRest⟩ := append_cons_inj (noColon label) (noColon otherLabel) same
    exact ⟨String.toList_inj.mp sameKey, sameRest⟩
  · exact absurd same (label_ne_literal label)
  · exact absurd same.symm (label_ne_literal otherLabel)
  · obtain ⟨sameKey, sameRest⟩ := literal_append_inj same
    exact ⟨sameKey, (List.cons.inj sameRest).2⟩

/-- The key of an attribute does not start with a bracket. -/
theorem attributeKey_ne_bracket {name : String} {rest behind : List Char} :
    (attributeKey name).toList ++ rest ≠ ')' :: behind := by
  intro same
  rcases toList_attributeKey name with ⟨label, key⟩ | key
  · rw [key] at same
    cases spelled : (underscore name).toList with
    | nil => simp [spelled, isLabel] at label
    | cons first others =>
        rw [spelled] at same label
        obtain ⟨rfl, -⟩ := List.cons.inj same
        exact absurd (spelled_of_isLabel label ')' (by simp)) (by decide)
  · simp [key] at same

/-- An attribute without code is a name with a quoted value. -/
theorem exists_named_of_isStatic {given : Attribute} (isStatic : given.IsStatic) :
    ∃ name content, given = .named name (.text content) := by
  unfold Attribute.IsStatic at isStatic
  split at isStatic
  · exact ⟨_, _, rfl⟩
  · exact isStatic.elim

/-- The characters of attributes, the first of which has a quoted value. -/
theorem spell_attributesCode_cons (options : Options) (level : Nat) (name content : String)
    (others : List Attribute) (behind : List Char) :
    spell (attributesCode options level (.named name (.text content) :: others)) ++ behind =
      (attributeKey name).toList ++ (' ' :: ((literal content).toList ++
        ((if others.isEmpty then [] else ", ".toList ++ spell (attributesCode options level others))
          ++ behind))) := by
  rw [attributesCode_cons, attributeCode, nodeCode]
  cases others <;> simp

/-- Attributes with quoted values are determined by their code in front of a
closing bracket. -/
theorem attributesCode_append_inj {first second : List Attribute} {rest behind : List Char}
    (firstStatic : ∀ given ∈ first, given.IsStatic) (secondStatic : ∀ given ∈ second, given.IsStatic)
    (same : spell (attributesCode options level first) ++ ')' :: rest =
      spell (attributesCode options level second) ++ ')' :: behind) :
    Attribute.renameAll first = Attribute.renameAll second ∧ rest = behind := by
  induction first generalizing second with
  | nil =>
      cases second with
      | nil => exact ⟨rfl, (List.cons.inj same).2⟩
      | cons other others =>
          obtain ⟨name, content, rfl⟩ := exists_named_of_isStatic (secondStatic _ List.mem_cons_self)
          rw [spell_attributesCode_cons] at same
          exact absurd same.symm attributeKey_ne_bracket
  | cons given others inductionHypothesis =>
      obtain ⟨name, content, rfl⟩ := exists_named_of_isStatic (firstStatic _ List.mem_cons_self)
      rw [spell_attributesCode_cons] at same
      cases second with
      | nil => exact absurd same attributeKey_ne_bracket
      | cons second seconds =>
          obtain ⟨otherName, otherContent, rfl⟩ :=
            exists_named_of_isStatic (secondStatic _ List.mem_cons_self)
          rw [spell_attributesCode_cons] at same
          obtain ⟨sameName, sameValue⟩ := attributeKey_append_inj same
          obtain ⟨rfl, sameRest⟩ := literal_append_inj (List.cons.inj sameValue).2
          have further : Attribute.renameAll others = Attribute.renameAll seconds ∧ rest = behind := by
            cases others with
            | nil =>
                cases seconds with
                | nil => exact ⟨rfl, (List.cons.inj sameRest).2⟩
                | cons => simp at sameRest
            | cons =>
                cases seconds with
                | nil => simp at sameRest
                | cons =>
                    refine inductionHypothesis (List.forall_mem_cons.mp firstStatic).2
                      (List.forall_mem_cons.mp secondStatic).2 ?_
                    simpa using sameRest
          simp [Attribute.renameAll, Attribute.rename, Node.rename, sameName, further]

/-- Indentation is told apart from deeper indentation by what follows it. -/
theorem margin_append_ne {character : Char} {rest behind : List Char} (solid : character ≠ ' ') :
    margin level ++ character :: rest ≠ margin (level + 1) ++ behind := by
  have deeper : margin (level + 1) = margin level ++ [' ', ' '] := by
    rw [margin, Nat.mul_add, ← List.replicate_append_replicate]
    rfl
  rw [deeper, List.append_assoc, ne_eq, List.append_cancel_left_eq]
  exact fun same => solid (List.cons.inj same).1

/-- The characters of the line of a child without code. -/
theorem spell_childLine {child : Node} (isStatic : child.IsStatic) (code : List Fragment) :
    spell (childLine level child code) =
      margin level ++ ("output << (".toList ++ (spell code ++ [')', '\n'])) := by
  cases child with
  | declaration content => exact isStatic.elim
  | _ => simp [childLine]

/-- The characters of a call in front of a closing bracket, with its block if there
are children. -/
theorem spell_element (options : Options) (level : Nat) (name : String)
    (attributes : List Attribute) (children : List Node) (behind : List Char) :
    spell (nodeCode options level (.element name attributes children)) ++ behind =
      options.tagHelper.toList ++ ('.' :: ((safeTagName name).toList ++ ('(' ::
        (spell (attributesCode options level attributes) ++ (')' ::
          ((if children.isEmpty then [] else
            spell (block options level (childrenCode options (level + 2) children)))
              ++ behind)))))) := by
  rw [nodeCode]
  cases children <;> simp

/-- What follows the lines of a block, behind the first letter of the line that
closes its buffer. -/
def blockTail (level : Nat) (behind : List Char) : List Char :=
  ['n', 'd'] ++ (".html_safe".toList ++ '\n' :: (margin level ++ ("end".toList ++ behind)))

/-- Equal blocks have equal lines, up to the line that closes their buffer. -/
theorem spell_block_append_inj {first second : List Fragment} {rest behind : List Char}
    (same : spell (block options level first) ++ rest = spell (block options level second) ++ behind) :
    spell first ++ (margin (level + 1) ++ 'e' :: blockTail level rest) =
      spell second ++ (margin (level + 1) ++ 'e' :: blockTail level behind) := by
  have closing : "end".toList = ['e', 'n', 'd'] := by simp
  simp only [block, buffer, spell_append, spell_text, spell_lineEnd, spell_indent, spell_nil,
    List.append_assoc, List.append_nil, List.cons_append, List.nil_append,
    List.append_cancel_left_eq, List.cons.injEq, true_and] at same
  rw [closing] at same
  exact same

/-- What follows a block is the end of what follows its lines. -/
theorem blockTail_inj {rest behind : List Char} (same : blockTail level rest = blockTail level behind) :
    rest = behind := by
  simpa only [blockTail, List.append_cancel_left_eq, List.cons.injEq, true_and] using same

/-- A block does not begin with a closing bracket. -/
theorem spell_block_ne_bracket {body : List Fragment} {rest behind : List Char} :
    spell (block options level body) ++ rest ≠ ')' :: behind := by
  simp [block]

mutual

/-- A node without code is determined by its code in front of a closing bracket. -/
theorem nodeCode_append_inj (level : Nat) : ∀ (first second : Node) {rest behind : List Char},
    first.IsStatic → second.IsStatic →
    spell (nodeCode {} level first) ++ ')' :: rest =
      spell (nodeCode {} level second) ++ ')' :: behind →
    first.rename = second.rename ∧ rest = behind
  | .text content, second, rest, behind, _, isStatic, same => by
      cases second with
      | text other =>
          rw [nodeCode, nodeCode] at same
          simp only [spell_text, spell_nil, List.append_nil] at same
          obtain ⟨rfl, sameRest⟩ := literal_append_inj same
          exact ⟨rfl, (List.cons.inj sameRest).2⟩
      | element => simp [nodeCode] at same
      | _ => exact isStatic.elim
  | .element name attributes children, second, rest, behind, isStatic, otherStatic, same => by
      cases second with
      | text other => simp [nodeCode] at same
      | element otherName otherAttributes otherChildren =>
          obtain ⟨spelled, attributesStatic, childrenStatic⟩ := isStatic
          obtain ⟨otherSpelled, otherAttributesStatic, otherChildrenStatic⟩ := otherStatic
          rw [spell_element, spell_element] at same
          -- The method ends at its bracket, the attributes end at theirs, and what is left
          -- is a block on both sides or on neither.
          obtain ⟨sameName, sameAttributes⟩ := append_cons_inj (bracket_notMem_safeTagName spelled)
            (bracket_notMem_safeTagName otherSpelled)
            (List.cons.inj (List.append_cancel_left same)).2
          obtain ⟨sameRenamed, sameBlock⟩ := attributesCode_append_inj attributesStatic
            otherAttributesStatic sameAttributes
          have further : Node.renameAll children = Node.renameAll otherChildren ∧ rest = behind := by
            split at sameBlock <;> split at sameBlock
            · rename_i empty otherEmpty
              rw [List.isEmpty_iff.mp empty, List.isEmpty_iff.mp otherEmpty]
              exact ⟨rfl, (List.cons.inj sameBlock).2⟩
            · exact absurd sameBlock.symm spell_block_ne_bracket
            · exact absurd sameBlock spell_block_ne_bracket
            · obtain ⟨sameChildren, sameTail⟩ := childrenCode_append_inj (level + 1) children
                otherChildren childrenStatic otherChildrenStatic (spell_block_append_inj sameBlock)
              exact ⟨sameChildren, (List.cons.inj (blockTail_inj sameTail)).2⟩
          simp [Node.rename, String.toList_inj.mp sameName, sameRenamed, further]
      | _ => exact otherStatic.elim

/-- Children without code are determined by their lines in front of the line that
ends their block. -/
theorem childrenCode_append_inj (level : Nat) :
    ∀ (first second : List Node) {rest behind : List Char},
    Node.AreStatic first → Node.AreStatic second →
    spell (childrenCode {} (level + 1) first) ++ (margin level ++ 'e' :: rest) =
      spell (childrenCode {} (level + 1) second) ++ (margin level ++ 'e' :: behind) →
    Node.renameAll first = Node.renameAll second ∧ rest = behind
  | [], second, rest, behind, _, isStatic, same => by
      cases second with
      | nil => exact ⟨rfl, (List.cons.inj (List.append_cancel_left same)).2⟩
      | cons child children =>
          rw [childrenCode, childrenCode, spell_append, spell_childLine isStatic.1,
            List.append_assoc, List.append_assoc] at same
          exact absurd same (margin_append_ne (by decide))
  | child :: children, second, rest, behind, isStatic, otherStatic, same => by
      cases second with
      | nil =>
          rw [childrenCode, childrenCode, spell_append, spell_childLine isStatic.1,
            List.append_assoc, List.append_assoc] at same
          exact absurd same.symm (margin_append_ne (by decide))
      | cons other others =>
          rw [childrenCode, childrenCode, spell_append, spell_append, spell_childLine isStatic.1,
            spell_childLine otherStatic.1] at same
          simp only [List.append_assoc] at same
          obtain ⟨sameChild, sameLines⟩ := nodeCode_append_inj (level + 1) child other isStatic.1
            otherStatic.1 (List.append_cancel_left (List.append_cancel_left same))
          obtain ⟨sameOthers, sameRest⟩ := childrenCode_append_inj level children others isStatic.2
            otherStatic.2 (List.cons.inj sameLines).2
          simp [Node.renameAll, sameChild, sameOthers, sameRest]

end

/-- Two static templates have the same code exactly if they are the same tree with
the same text and the same quoted values, and their names are the same in code. -/
theorem generate_eq_iff {first second : Template} (isStatic : first.IsStatic)
    (otherStatic : second.IsStatic) :
    generate {} first = generate {} second ↔ first.rename = second.rename := by
  constructor
  · intro same
    have spelled := congrArg String.toList same
    rw [toList_generate, toList_generate] at spelled
    have lines : spell (childrenCode {} (0 + 1) first.children) ++ (margin 0 ++ 'e' :: "nd\n".toList) =
        spell (childrenCode {} (0 + 1) second.children) ++ (margin 0 ++ 'e' :: "nd\n".toList) := by
      simpa [buffer] using spelled
    have sameChildren := (childrenCode_append_inj 0 _ _ isStatic otherStatic lines).1
    rw [Template.rename, Template.rename, sameChildren]
  · intro same
    have sameChildren := @childrenCode_congr {} 1 _ _ (Template.mk.inj same)
    rw [generate, generate, listing, listing, sameChildren]

/-- Two templates with names that are spelled differently and are the same in code,
around a text that could be taken for the end of its literal and of its block. -/
theorem generate_eq_iff_respelled :
    Template.IsStatic ⟨[.element "x-y" [.named "data-k" (.text "#\x7bq\x7d")]
        [.text "\")\n  end\n"]]⟩ ∧
      Template.IsStatic ⟨[.element "x_y" [.named "data_k" (.text "#\x7bq\x7d")]
        [.text "\")\n  end\n"]]⟩ ∧
      generate {} ⟨[.element "x-y" [.named "data-k" (.text "#\x7bq\x7d")]
          [.text "\")\n  end\n"]]⟩ =
        generate {} ⟨[.element "x_y" [.named "data_k" (.text "#\x7bq\x7d")]
          [.text "\")\n  end\n"]]⟩ := by
  have hyphened : IsTagSpelling ['x', '-', 'y'] := ⟨'x', ['-', 'y'], rfl, rfl, by simp; decide⟩
  have joined : IsTagSpelling ['x', '_', 'y'] := ⟨'x', ['_', 'y'], rfl, rfl, by simp; decide⟩
  have isStatic : Template.IsStatic ⟨[.element "x-y" [.named "data-k" (.text "#\x7bq\x7d")]
      [.text "\")\n  end\n"]]⟩ := by
    simp [Template.IsStatic, Node.AreStatic, Node.IsStatic, Attribute.IsStatic, hyphened]
  have otherStatic : Template.IsStatic ⟨[.element "x_y" [.named "data_k" (.text "#\x7bq\x7d")]
      [.text "\")\n  end\n"]]⟩ := by
    simp [Template.IsStatic, Node.AreStatic, Node.IsStatic, Attribute.IsStatic, joined]
  have sameTag : safeTagName "x-y" = safeTagName "x_y" := by decide +kernel
  have sameKey : underscore "data-k" = underscore "data_k" := by decide +kernel
  refine ⟨isStatic, otherStatic, (generate_eq_iff isStatic otherStatic).mpr ?_⟩
  simp only [Template.rename, Node.renameAll, Node.rename, Attribute.renameAll, Attribute.rename,
    sameTag, sameKey]

end Script
end MarkupTemplate
