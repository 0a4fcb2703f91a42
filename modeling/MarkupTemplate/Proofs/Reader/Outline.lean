import MarkupTemplate.Proofs.Reader.Constructs

/-!
# What an unfinished reading has read

The modes of a reader tell which constructs are open. `Outline` says that the
tokens read so far are those of a template which breaks off within these
constructs: what is complete derives well-formed phrases, and no element lies
too deep. The results below say how an outline grows when a construct is opened,
filled or closed.
-/

namespace MarkupTemplate

open Spelling Text

/-- Whether everything in a phrase can be written. For pieces this concerns the
elements among them; their code is a matter of the expression as a whole. -/
def Phrase.WellFormed : Phrase → Prop
  | children nodes =>
      (∀ node ∈ nodes, node.IsChild ∧ ¬ node.EndsInBackslash) ∧ Node.WellFormedAll nodes
  | element node => node.IsElement ∧ node.WellFormed
  | attributes given => (∀ single ∈ given, single.IsSpelled) ∧ Attribute.WellFormedAll given
  | pieces nodes => Node.WellFormedAll nodes

/-- How many elements of a phrase lie in each other at most. -/
def Phrase.nesting : Phrase → Nat
  | children nodes => Node.nestingAll nodes
  | element node => node.nesting
  | attributes given => Attribute.nestingAll given
  | pieces nodes => Node.nestingAll nodes

/-- Whether tokens derive a phrase that can be written and does not exceed a limit
of nesting. An attribute may be left without a value here. -/
structure Spells (limit : Nat) (phrase : Phrase) (tokens : List Token) : Prop where
  derives : Derives (fun _ => True) phrase tokens
  wellFormed : phrase.WellFormed
  shallow : phrase.nesting ≤ limit

namespace Spells

variable {limit : Nat} {tokens rest : List Token}

theorem noChildren : Spells limit (.children []) [] :=
  ⟨.noChildren, by simp [Phrase.WellFormed, Node.WellFormedAll], Nat.zero_le _⟩

theorem noAttributes : Spells limit (.attributes []) [] :=
  ⟨.noAttributes, by simp [Phrase.WellFormed, Attribute.WellFormedAll], Nat.zero_le _⟩

theorem noPieces : Spells limit (.pieces []) [] :=
  ⟨.noPieces, trivial, Nat.zero_le _⟩

theorem appendChildren {nodes more : List Node} (first : Spells limit (.children nodes) tokens)
    (second : Spells limit (.children more) rest) :
    Spells limit (.children (nodes ++ more)) (tokens ++ rest) where
  derives := first.derives.extends _ _ second.derives
  wellFormed := by
    obtain ⟨firstChildren, firstAll⟩ := first.wellFormed
    obtain ⟨secondChildren, secondAll⟩ := second.wellFormed
    exact ⟨List.forall_mem_append.mpr ⟨firstChildren, secondChildren⟩,
      Node.wellFormedAll_append.mpr ⟨firstAll, secondAll⟩⟩
  shallow := by
    rw [Phrase.nesting, Node.nestingAll_append]
    exact Nat.max_le.mpr ⟨first.shallow, second.shallow⟩

theorem appendAttributes {given more : List Attribute}
    (first : Spells limit (.attributes given) tokens)
    (second : Spells limit (.attributes more) rest) :
    Spells limit (.attributes (given ++ more)) (tokens ++ rest) where
  derives := first.derives.extends _ _ second.derives
  wellFormed := by
    obtain ⟨firstSpelled, firstAll⟩ := first.wellFormed
    obtain ⟨secondSpelled, secondAll⟩ := second.wellFormed
    exact ⟨List.forall_mem_append.mpr ⟨firstSpelled, secondSpelled⟩,
      Attribute.wellFormedAll_append.mpr ⟨firstAll, secondAll⟩⟩
  shallow := by
    rw [Phrase.nesting, Attribute.nestingAll_append]
    exact Nat.max_le.mpr ⟨first.shallow, second.shallow⟩

theorem appendPieces {nodes more : List Node} (first : Spells limit (.pieces nodes) tokens)
    (second : Spells limit (.pieces more) rest) :
    Spells limit (.pieces (nodes ++ more)) (tokens ++ rest) where
  derives := first.derives.extends _ _ second.derives
  wellFormed := Node.wellFormedAll_append.mpr ⟨first.wellFormed, second.wellFormed⟩
  shallow := by
    rw [Phrase.nesting, Node.nestingAll_append]
    exact Nat.max_le.mpr ⟨first.shallow, second.shallow⟩

/-- An element is a child. -/
theorem child {node : Node} (element : Spells limit (.element node) tokens) :
    Spells limit (.children [node]) tokens where
  derives := by simpa using Derives.child element.derives .noChildren
  wellFormed := by
    obtain ⟨isElement, wellFormed⟩ := element.wellFormed
    exact ⟨by simpa using ⟨isElement.isChild, isElement.not_endsInBackslash⟩, wellFormed, trivial⟩
  shallow := by simpa [Phrase.nesting, Node.nestingAll] using element.shallow

/-- An element is a piece of an expression. -/
theorem embedded {node : Node} (element : Spells limit (.element node) tokens) :
    Spells limit (.pieces [node]) tokens where
  derives := by simpa using Derives.embedded element.derives .noPieces
  wellFormed := ⟨element.wellFormed.2, trivial⟩
  shallow := by simpa [Phrase.nesting, Node.nestingAll] using element.shallow

/-- Pieces between the delimiters of an expression are at most one child. -/
theorem site {start stop : Token} {pieces : List Node}
    (inner : Spells limit (.pieces pieces) tokens) (isSite : Node.IsSite pieces)
    (starts : start.kind = .expressionStart) (stops : stop.kind = .expressionEnd) :
    Spells limit (.children (Node.ofPieces pieces).toList) (start :: (tokens ++ [stop])) where
  derives := by simpa using Derives.site starts stops inner.derives .noChildren
  wellFormed := by
    refine ⟨?_, Node.wellFormedAll_ofPieces.mpr inner.wellFormed⟩
    simpa using isSite.isChild
  shallow := by simpa [Phrase.nesting] using inner.shallow

/-- Pieces behind a name and an equals sign are the value of an attribute. -/
theorem valued {name equals start stop : Token} {pieces : List Node}
    (inner : Spells limit (.pieces pieces) tokens) (isSite : Node.IsSite pieces)
    (names : name.kind = .attrName) (equates : equals.kind = .attrEquals)
    (starts : start.kind = .expressionStart) (stops : stop.kind = .expressionEnd)
    (isName : IsAttributeName name.value.toList) :
    Spells limit (.attributes [.named name.value (.ofValue pieces)])
      (name :: equals :: start :: (tokens ++ [stop])) where
  derives := .valued names equates starts stops inner.derives trivial .noAttributes
  wellFormed := by
    refine ⟨List.forall_mem_singleton.mpr ⟨isName, .inr ⟨pieces, rfl, isSite⟩⟩, ?_, trivial⟩
    exact Node.wellFormed_ofValue.mpr inner.wellFormed
  shallow := by
    simpa [Phrase.nesting, Attribute.nestingAll, Attribute.nesting] using inner.shallow

/-- Pieces behind three dots are spread. -/
theorem spread {start stop : Token} {pieces : List Node}
    (inner : Spells limit (.pieces pieces) tokens) (isSite : Node.IsSite pieces)
    (starts : start.kind = .spreadStart) (stops : stop.kind = .expressionEnd) :
    Spells limit (.attributes [.spread pieces]) (start :: (tokens ++ [stop])) where
  derives := .spread starts stops inner.derives trivial .noAttributes
  wellFormed := ⟨List.forall_mem_singleton.mpr isSite, inner.wellFormed, trivial⟩
  shallow := by
    simpa [Phrase.nesting, Attribute.nestingAll, Attribute.nesting] using inner.shallow

/-- Attributes within a tag that closes itself make an element, one level deeper. -/
theorem selfClosing {mark name stop : Token} {given : List Attribute}
    (inner : Spells limit (.attributes given) tokens) (opens : mark.kind = .tagOpen)
    (names : name.kind = .tagName) (ends : stop.kind = .tagSelfClose)
    (isName : IsTagName name.value.toList) :
    Spells (limit + 1) (.element (.element name.value given []))
      (mark :: name :: (tokens ++ [stop])) where
  derives := .selfClosing opens names ends inner.derives
  wellFormed := by
    obtain ⟨spelled, all⟩ := inner.wellFormed
    exact ⟨trivial, isName, spelled, by simp, all, trivial⟩
  shallow := by
    simpa [Phrase.nesting, Node.nesting, Node.nestingAll] using inner.shallow

/-- Attributes and children between two tags make an element, one level deeper. -/
theorem enclosing {mark name stop closeMark closeName closeStop : Token}
    {given : List Attribute} {nodes : List Node} {body : List Token}
    (inner : Spells limit (.attributes given) tokens)
    (content : Spells limit (.children nodes) body) (opens : mark.kind = .tagOpen)
    (names : name.kind = .tagName) (ends : stop.kind = .tagEnd)
    (closes : closeMark.kind = .tagClose) (closeNames : closeName.kind = .tagName)
    (closeEnds : closeStop.kind = .tagEnd) (same : closeName.value = name.value)
    (isName : IsTagName name.value.toList) :
    Spells (limit + 1) (.element (.element name.value given nodes))
      (mark :: name :: (tokens ++ stop :: (body ++ [closeMark, closeName, closeStop]))) where
  derives := .enclosing opens names ends inner.derives content.derives closes closeNames
    closeEnds same
  wellFormed := by
    obtain ⟨spelled, all⟩ := inner.wellFormed
    obtain ⟨areChildren, allChildren⟩ := content.wellFormed
    exact ⟨trivial, isName, spelled, areChildren, all, allChildren⟩
  shallow := Nat.succ_le_succ (Nat.max_le.mpr ⟨inner.shallow, content.shallow⟩)

end Spells

/-! ### Expressions that are open -/

namespace Node

/-- Whether code may follow pieces: the last one, if any, is an element. -/
def TakesCode (pieces : List Node) : Prop := ∀ node ∈ pieces.getLast?, node.IsElement

theorem takesCode_nil : TakesCode [] := by simp [TakesCode]

theorem IsElement.takesCode {node : Node} (isElement : node.IsElement) (pieces : List Node) :
    TakesCode (pieces ++ [node]) := by
  simpa [TakesCode] using isElement

theorem isOpenSite_nil : IsOpenSite 1 [] :=
  ⟨by simp, .nil, by simp, rfl⟩

/-- Code behind the pieces of an open expression keeps it open. -/
theorem IsOpenSite.append_ofCode {depth reached : Nat} {pieces : List Node} {code : List Char}
    (isOpen : IsOpenSite depth pieces) (takesCode : TakesCode pieces)
    (noMarkup : ¬ Code.EntersMarkup code []) (leads : pieces = [] → LeadsSolid code)
    (reads : Code.depthAfter depth code = some reached) :
    IsOpenSite reached (pieces ++ ofCode code) := by
  unfold ofCode
  split
  case isTrue empty =>
    obtain rfl : code = [] := by simpa using empty
    cases reads
    simpa using isOpen
  case isFalse nonempty =>
    have content : (String.ofList code).toList = code := by simp
    constructor
    case isPiece =>
      refine List.forall_mem_append.mpr ⟨isOpen.isPiece, List.forall_mem_singleton.mpr ⟨?_, ?_⟩⟩
      · intro empty
        rw [empty] at content
        exact nonempty (by simp [← content])
      · rwa [content]
    case precedes =>
      refine List.isChain_append.mpr ⟨isOpen.precedes, .singleton _, ?_⟩
      exact fun last member next _ => (takesCode last member).precedes next
    case leads =>
      cases pieces with
      | nil => simpa [code?] using leads rfl
      | cons first rest => exact isOpen.leads
    case balanced =>
      rw [codes_append, List.foldlM_append, isOpen.balanced, codes_expression, content]
      simp [reads]

/-- An element behind the pieces of an open expression keeps it open. -/
theorem IsOpenSite.append_element {depth : Nat} {pieces : List Node} {node : Node}
    (isOpen : IsOpenSite depth pieces) (isElement : node.IsElement)
    (starts : ∀ content, pieces.getLast? = some (.expression content) →
      startsMarkup content.toList.reverse) :
    IsOpenSite depth (pieces ++ [node]) where
  isPiece := List.forall_mem_append.mpr
    ⟨isOpen.isPiece, List.forall_mem_singleton.mpr isElement.isPiece⟩
  precedes := by
    refine List.isChain_append.mpr ⟨isOpen.precedes, .singleton _, ?_⟩
    intro last member next first
    obtain rfl : node = next := by simpa using first
    cases last with
    | expression content => exact ⟨isElement, starts content member⟩
    | _ => trivial
  leads := by
    cases pieces with
    | nil => simp [isElement.code?]
    | cons first rest => exact isOpen.leads
  balanced := by
    rw [codes_append, isElement.codes, codes_nil, List.append_nil]
    exact isOpen.balanced

/-- An open expression is closed by trimmed code behind its last element. -/
theorem IsOpenSite.isSite {pieces : List Node} {code : List Char}
    (isOpen : IsOpenSite 1 (pieces ++ ofCode code)) (takesCode : TakesCode pieces)
    (ends : EndsSolid code) : IsSite (pieces ++ ofCode code) where
  toIsOpenSite := isOpen
  ends := by
    unfold ofCode
    split
    case isTrue =>
      intro code member
      rw [List.append_nil] at member
      obtain ⟨last, isLast, isCode⟩ := Option.mem_bind_iff.mp member
      rw [(takesCode last isLast).code?] at isCode
      cases isCode
    case isFalse => simpa [code?] using ends

end Node

/-! ### Outlines -/

/-- Whether a mode holds an open tag. -/
def Mode.holdsTag : Mode → Bool
  | .text parent => parent.isSome
  | .attributes _ => true
  | .expression _ => false

/-- The number of open tags that modes hold. -/
def Mode.openTags (modes : List Mode) : Nat := modes.countP Mode.holdsTag

/-- How deep elements may lie in each other within modes. -/
def Mode.room (modes : List Mode) : Nat := maxNesting - Mode.openTags modes

@[simp] theorem Mode.openTags_textTop (outer : List Mode) :
    openTags (.text none :: outer) = openTags outer := rfl

@[simp] theorem Mode.openTags_text (tag : OpenTag) (outer : List Mode) :
    openTags (.text (some tag) :: outer) = openTags outer + 1 := List.countP_cons_of_pos rfl

@[simp] theorem Mode.openTags_attributes (tag : OpenTag) (outer : List Mode) :
    openTags (.attributes tag :: outer) = openTags outer + 1 := List.countP_cons_of_pos rfl

@[simp] theorem Mode.openTags_expression (site : Site) (outer : List Mode) :
    openTags (.expression site :: outer) = openTags outer :=
  List.countP_cons_of_neg (by simp [Mode.holdsTag])

/-- Whether tokens hold the next piece of code of an expression, which leads to a
number of open braces. Without code there is no token. -/
structure Site.Continues (site : Site) (code : List Char) (depth : Nat) (tokens : List Token) :
    Prop where
  derives : Derives (fun _ => True) (.pieces (Node.ofCode code)) tokens
  noMarkup : ¬ Code.EntersMarkup code []
  leads : site.leading = true → LeadsSolid code
  reads : Code.depthAfter site.depth code = some depth

/-- What stands directly in front of an element that is opened: nothing among
children; within an expression the code behind the last element, if any. The
modes are those before this code and those behind it. -/
inductive Leads : List Mode → List Token → List Mode → Prop where
  | content {parent : Option OpenTag} {outer : List Mode} :
      Leads (.text parent :: outer) [] (.text parent :: outer)
  | code {site : Site} {depth : Nat} {outer : List Mode} {code : List Char}
      {tokens : List Token} (continues : site.Continues code depth tokens)
      (starts : startsMarkup code.reverse) :
      Leads (.expression site :: outer) tokens
        (.expression { site with depth, leading := false } :: outer)

/-- Whether the pieces read so far are those of an expression that is open in the
given state, behind an element or at the start. -/
structure Site.Holds (site : Site) (limit : Nat) (pieces : List Node) (tokens : List Token) :
    Prop where
  spells : Spells limit (.pieces pieces) tokens
  isOpen : Node.IsOpenSite site.depth pieces
  takesCode : Node.TakesCode pieces
  begun : pieces = [] → site.leading = true
  positive : 1 ≤ site.depth
  unquoted : site.quote = none

/-- The tokens of an unfinished template, given the modes it breaks off in. -/
inductive Outline : List Mode → List Token → Prop where
  | top {nodes : List Node} {tokens : List Token}
      (content : Spells maxNesting (.children nodes) tokens) : Outline [.text none] tokens
  | attributes {outer inner : List Mode} {before lead tokens : List Token} {mark name : Token}
      {tag : OpenTag} {given : List Attribute} (around : Outline outer before)
      (leads : Leads outer lead inner) (shallow : Mode.openTags inner < maxNesting)
      (opens : mark.kind = .tagOpen) (names : name.kind = .tagName)
      (same : name.value = tag.name) (isName : IsTagName tag.name.toList)
      (inside : Spells (Mode.room (.attributes tag :: inner)) (.attributes given) tokens) :
      Outline (.attributes tag :: inner) (before ++ lead ++ mark :: name :: tokens)
  | children {outer inner : List Mode} {before lead tokens body : List Token}
      {mark name stop : Token} {tag : OpenTag} {given : List Attribute} {nodes : List Node}
      (around : Outline outer before) (leads : Leads outer lead inner)
      (shallow : Mode.openTags inner < maxNesting) (opens : mark.kind = .tagOpen)
      (names : name.kind = .tagName) (same : name.value = tag.name)
      (isName : IsTagName tag.name.toList)
      (inside : Spells (Mode.room (.attributes tag :: inner)) (.attributes given) tokens)
      (ends : stop.kind = .tagEnd)
      (content : Spells (Mode.room (.attributes tag :: inner)) (.children nodes) body) :
      Outline (.text (some tag) :: inner)
        (before ++ lead ++ mark :: name :: (tokens ++ stop :: body))
  | childSite {parent : Option OpenTag} {site : Site} {outer : List Mode}
      {before tokens : List Token} {start : Token} {pieces : List Node}
      (around : Outline (.text parent :: outer) before) (starts : start.kind = .expressionStart)
      (holds : site.Holds (Mode.room (.text parent :: outer)) pieces tokens) :
      Outline (.expression site :: .text parent :: outer) (before ++ start :: tokens)
  | valueSite {tag : OpenTag} {site : Site} {outer : List Mode} {before tokens : List Token}
      {name equals start : Token} {pieces : List Node}
      (around : Outline (.attributes tag :: outer) before) (names : name.kind = .attrName)
      (equates : equals.kind = .attrEquals) (starts : start.kind = .expressionStart)
      (isName : IsAttributeName name.value.toList)
      (holds : site.Holds (Mode.room (.attributes tag :: outer)) pieces tokens) :
      Outline (.expression site :: .attributes tag :: outer)
        (before ++ name :: equals :: start :: tokens)
  | spreadSite {tag : OpenTag} {site : Site} {outer : List Mode} {before tokens : List Token}
      {start : Token} {pieces : List Node} (around : Outline (.attributes tag :: outer) before)
      (starts : start.kind = .spreadStart)
      (holds : site.Holds (Mode.room (.attributes tag :: outer)) pieces tokens) :
      Outline (.expression site :: .attributes tag :: outer) (before ++ start :: tokens)

/-- An expression that has just been opened holds nothing. -/
theorem Site.IsFresh.holds {site : Site} (fresh : site.IsFresh) (limit : Nat) :
    site.Holds limit [] [] where
  spells := .noPieces
  isOpen := fresh.depth ▸ Node.isOpenSite_nil
  takesCode := Node.takesCode_nil
  begun := fun _ => fresh.leading
  positive := fresh.depth.ge
  unquoted := fresh.quote

/-- Code of an expression holds no elements. -/
theorem Spells.code {limit : Nat} {code : List Char} {tokens : List Token}
    (derives : Derives (fun _ => True) (.pieces (Node.ofCode code)) tokens) :
    Spells limit (.pieces (Node.ofCode code)) tokens := by
  refine ⟨derives, ?_, ?_⟩
  · unfold Node.ofCode
    split <;> simp [Phrase.WellFormed, Node.WellFormedAll, Node.WellFormed]
  · unfold Node.ofCode
    split <;> simp [Phrase.nesting, Node.nestingAll, Node.nesting]

namespace Site

variable {site : Site} {depth limit : Nat} {pieces : List Node} {code : List Char}
  {tokens lead : List Token}

/-- An expression stays open with the next piece of its code. -/
theorem Holds.isOpen_code (holds : site.Holds limit pieces tokens)
    (continues : site.Continues code depth lead) :
    Node.IsOpenSite depth (pieces ++ Node.ofCode code) :=
  holds.isOpen.append_ofCode holds.takesCode continues.noMarkup
    (fun empty => continues.leads (holds.begun empty)) continues.reads

/-- An expression holds more with an element and the code in front of it. -/
theorem Holds.embed {node : Node} {rest : List Token} (holds : site.Holds limit pieces tokens)
    (continues : site.Continues code depth lead) (starts : startsMarkup code.reverse)
    (element : Spells limit (.element node) rest) :
    ({ site with depth, leading := false } : Site).Holds limit
      (pieces ++ Node.ofCode code ++ [node]) (tokens ++ lead ++ rest) where
  spells := (holds.spells.appendPieces (.code continues.derives)).appendPieces element.embedded
  isOpen := by
    refine (holds.isOpen_code continues).append_element element.wellFormed.1 ?_
    intro content last
    unfold Node.ofCode at last
    split at last
    · rw [List.append_nil] at last
      exact (holds.takesCode _ last).elim
    · obtain rfl : String.ofList code = content := by simpa using last
      simpa using starts
  takesCode := element.wellFormed.1.takesCode _
  begun := by simp
  positive := Code.pos_of_after (Code.depthAfter_eq_some_iff.mp continues.reads) holds.positive
  unquoted := holds.unquoted

/-- An expression is complete with trimmed code behind its last element. -/
theorem Holds.isSite (holds : site.Holds limit pieces tokens)
    (continues : site.Continues code 1 lead) (ends : EndsSolid code) :
    Node.IsSite (pieces ++ Node.ofCode code) :=
  (holds.isOpen_code continues).isSite holds.takesCode ends

end Site

namespace Outline

variable {outer inner : List Mode} {tag : OpenTag} {site : Site} {tokens rest : List Token}

/-- Children can be added where children are read. -/
theorem addChildren {parent : Option OpenTag} {nodes : List Node}
    (outline : Outline (.text parent :: outer) tokens)
    (added : Spells (Mode.room (.text parent :: outer)) (.children nodes) rest) :
    Outline (.text parent :: outer) (tokens ++ rest) := by
  cases outline with
  | top content => exact .top (content.appendChildren added)
  | children around leads shallow opens names same isName inside ends content =>
      have grown := Outline.children around leads shallow opens names same isName inside ends
        (content.appendChildren added)
      simpa using grown

/-- Attributes can be added where attributes are read. -/
theorem addAttributes {given : List Attribute} (outline : Outline (.attributes tag :: outer) tokens)
    (added : Spells (Mode.room (.attributes tag :: outer)) (.attributes given) rest) :
    Outline (.attributes tag :: outer) (tokens ++ rest) := by
  cases outline with
  | attributes around leads shallow opens names same isName inside =>
      have grown := Outline.attributes around leads shallow opens names same isName
        (inside.appendAttributes added)
      simpa using grown

/-- An element can be added among children, and within an expression. -/
theorem addElement {lead : List Token} {node : Node} (outline : Outline outer tokens)
    (leads : Leads outer lead inner) (added : Spells (Mode.room inner) (.element node) rest) :
    Outline inner (tokens ++ lead ++ rest) := by
  cases leads with
  | content =>
      rw [List.append_nil]
      exact outline.addChildren added.child
  | code continues starts =>
      cases outline with
      | childSite around start holds =>
          simpa using Outline.childSite around start (holds.embed continues starts added)
      | valueSite around names equates start isName holds =>
          simpa using Outline.valueSite around names equates start isName
            (holds.embed continues starts added)
      | spreadSite around start holds =>
          simpa using Outline.spreadSite around start (holds.embed continues starts added)

/-- The brace that encloses an open expression is open. -/
theorem positive (outline : Outline (.expression site :: outer) tokens) : 1 ≤ site.depth := by
  cases outline with
  | childSite _ _ holds => exact holds.positive
  | valueSite _ _ _ _ _ holds => exact holds.positive
  | spreadSite _ _ holds => exact holds.positive

/-- An expression is left for an element outside quotes only. -/
theorem unquoted (outline : Outline (.expression site :: outer) tokens) : site.quote = none := by
  cases outline with
  | childSite _ _ holds => exact holds.unquoted
  | valueSite _ _ _ _ _ holds => exact holds.unquoted
  | spreadSite _ _ holds => exact holds.unquoted

/-- One level deeper there is room for one level less. -/
theorem room_attributes (shallow : Mode.openTags inner < maxNesting) :
    Mode.room (.attributes tag :: inner) + 1 = Mode.room inner := by
  simp only [Mode.room, Mode.openTags_attributes]
  omega

/-- An element without children ends with its tag. -/
theorem selfClose {stop : Token} (outline : Outline (.attributes tag :: inner) tokens)
    (ends : stop.kind = .tagSelfClose) : Outline inner (tokens ++ [stop]) := by
  cases outline with
  | attributes around leads shallow opens names same isName inside =>
      have added := inside.selfClosing opens names ends (same ▸ isName)
      rw [room_attributes shallow] at added
      simpa using around.addElement leads added

/-- Behind the end of its tag, the children of an element are read. -/
theorem endTag {stop : Token} (outline : Outline (.attributes tag :: inner) tokens)
    (ends : stop.kind = .tagEnd) : Outline (.text (some tag) :: inner) (tokens ++ [stop]) := by
  cases outline with
  | attributes around leads shallow opens names same isName inside =>
      simpa using Outline.children around leads shallow opens names same isName inside ends
        .noChildren

/-- An element ends with its close tag. -/
theorem closeTag {mark name stop : Token} (outline : Outline (.text (some tag) :: inner) tokens)
    (closes : mark.kind = .tagClose) (names : name.kind = .tagName)
    (ends : stop.kind = .tagEnd) (same : name.value = tag.name) :
    Outline inner (tokens ++ [mark, name, stop]) := by
  cases outline with
  | children around leads shallow opens opensName sameName isName inside stops content =>
      have added := inside.enclosing content opens opensName stops closes names ends
        (same.trans sameName.symm) (sameName ▸ isName)
      rw [room_attributes shallow] at added
      simpa using around.addElement leads added

/-- An expression ends with its delimiter, behind trimmed code. -/
theorem closeSite {code : List Char} {lead : List Token} {stop : Token}
    (outline : Outline (.expression site :: outer) tokens)
    (continues : site.Continues code 1 lead) (ends : EndsSolid code)
    (stops : stop.kind = .expressionEnd) : Outline outer (tokens ++ lead ++ [stop]) := by
  cases outline with
  | childSite around starts holds =>
      have inner := holds.spells.appendPieces (.code continues.derives)
      simpa using around.addChildren (inner.site (holds.isSite continues ends) starts stops)
  | valueSite around names equates starts isName holds =>
      have inner := holds.spells.appendPieces (.code continues.derives)
      simpa using around.addAttributes
        (inner.valued (holds.isSite continues ends) names equates starts stops isName)
  | spreadSite around starts holds =>
      have inner := holds.spells.appendPieces (.code continues.derives)
      simpa using around.addAttributes (inner.spread (holds.isSite continues ends) starts stops)

end Outline

end MarkupTemplate
