import MarkupTemplate.Proofs.Reader.Concatenation
import MarkupTemplate.Proofs.Template.Uses

/-!
# The summary of a template and its tokens

The tokens of a source tell what its template uses without being put together: a
tag opens where a name follows a `<`, and a declaration and a spread have a token
each. `Derives.uses_eq` relates this to the tree, use by use and in order, so the
summary that is collected from the tree reports exactly what the tokens announce.
-/

namespace MarkupTemplate

namespace Token

/-- Whether a tag of a name opens among tokens: the name directly follows a `<`. -/
def Opens (tokens : List Token) (name : String) : Prop :=
  ∃ before mark token behind, tokens = before ++ mark :: token :: behind ∧
    mark.kind = .tagOpen ∧ token.kind = .tagName ∧ token.value = name

/-- The tag that opens with a `<` in front of the tokens. -/
def openedTag (rest : List Token) : List Use :=
  match rest with
  | [] => []
  | name :: _ => if name.kind = .tagName then [.tag name.value] else []

/-- The uses that tokens announce, in their order. -/
def uses : List Token → List Use
  | [] => []
  | token :: rest =>
      match token.kind with
      | .tagOpen => openedTag rest ++ uses rest
      | .declaration => .declaration :: uses rest
      | .spreadStart => .spread :: uses rest
      | _ => uses rest

theorem uses_tagOpen {mark name : Token} {rest : List Token} (opens : mark.kind = .tagOpen)
    (names : name.kind = .tagName) : uses (mark :: name :: rest) = .tag name.value :: uses rest := by
  simp [uses, openedTag, opens, names]

theorem uses_declaration {token : Token} {rest : List Token}
    (isDeclaration : token.kind = .declaration) :
    uses (token :: rest) = .declaration :: uses rest := by
  simp [uses, isDeclaration]

theorem uses_spreadStart {token : Token} {rest : List Token}
    (starts : token.kind = .spreadStart) : uses (token :: rest) = .spread :: uses rest := by
  simp [uses, starts]

/-- Other tokens announce nothing. -/
theorem uses_pass {token : Token} {rest : List Token}
    (other : token.kind ∉ [.tagOpen, .declaration, .spreadStart]) :
    uses (token :: rest) = uses rest := by
  simp only [List.mem_cons, List.not_mem_nil, or_false, not_or] at other
  rw [uses]
  split
  next opens => exact absurd opens other.1
  next isDeclaration => exact absurd isDeclaration other.2.1
  next starts => exact absurd starts other.2.2
  next => rfl

/-- Tokens announce what their parts announce, unless they are parted in front of
the name of a tag. -/
theorem uses_append (tokens : List Token) {rest : List Token}
    (apart : ∀ token ∈ rest.head?, token.kind ≠ .tagName) :
    uses (tokens ++ rest) = uses tokens ++ uses rest := by
  induction tokens with
  | nil => rfl
  | cons token tokens inductionHypothesis =>
      have opened : openedTag (tokens ++ rest) = openedTag tokens := by
        cases tokens with
        | cons => rfl
        | nil =>
            cases rest with
            | nil => rfl
            | cons next rest => exact if_neg (apart next rfl)
      simp only [List.cons_append, uses]
      split <;> simp [inductionHypothesis, opened]

theorem tag_mem_uses_iff {tokens : List Token} {name : String} :
    .tag name ∈ uses tokens ↔ Opens tokens name := by
  induction tokens with
  | nil => simp [uses, Opens]
  | cons token tokens inductionHypothesis =>
      have here : .tag name ∈ openedTag tokens ↔
          ∃ first behind, tokens = first :: behind ∧ first.kind = .tagName ∧
            first.value = name := by
        cases tokens with
        | nil => simp [openedTag]
        | cons first behind =>
            simp only [openedTag, List.cons.injEq, exists_and_left, and_assoc]
            split <;> simp_all [eq_comm]
      have split : Opens (token :: tokens) name ↔
          (token.kind = .tagOpen ∧ .tag name ∈ openedTag tokens) ∨ Opens tokens name := by
        rw [here]
        constructor
        · rintro ⟨before, mark, first, behind, parted, opens, names, same⟩
          cases before with
          | nil =>
              cases parted
              exact .inl ⟨opens, first, behind, rfl, names, same⟩
          | cons _ before =>
              cases parted
              exact .inr ⟨before, mark, first, behind, rfl, opens, names, same⟩
        · rintro (⟨opens, first, behind, rfl, names, same⟩ |
            ⟨before, mark, first, behind, rfl, opens, names, same⟩)
          · exact ⟨[], token, first, behind, rfl, opens, names, same⟩
          · exact ⟨token :: before, mark, first, behind, rfl, opens, names, same⟩
      rw [split, ← inductionHypothesis, uses]
      split <;> simp_all

theorem exists_tag_of_mem_openedTag {rest : List Token} {use : Use}
    (member : use ∈ openedTag rest) : ∃ name, use = .tag name := by
  unfold openedTag at member
  split at member
  next => cases member
  next name _ =>
    split at member
    next => exact ⟨name.value, List.mem_singleton.mp member⟩
    next => cases member

/-- A use that is no tag is announced by each token of some kind. -/
theorem count_uses {use : Use} {kind : TokenKind} (noTag : ∀ name, use ≠ .tag name)
    (announced : ∀ (token : Token) (rest : List Token), token.kind ≠ .tagOpen →
      (uses (token :: rest)).count use =
        (uses rest).count use + if token.kind = kind then 1 else 0)
    (kindOther : kind ≠ .tagOpen) (tokens : List Token) :
    (uses tokens).count use = tokens.countP (·.kind = kind) := by
  induction tokens with
  | nil => rfl
  | cons token tokens inductionHypothesis =>
      rw [List.countP_cons, ← inductionHypothesis]
      by_cases opens : token.kind = .tagOpen
      · have notOpened : (openedTag tokens).count use = 0 := by
          rw [List.count_eq_zero]
          intro member
          obtain ⟨name, isTag⟩ := exists_tag_of_mem_openedTag member
          exact noTag name isTag
        simp [uses, opens, notOpened, kindOther.symm]
      · simpa using announced token tokens opens

theorem count_declaration_uses (tokens : List Token) :
    (uses tokens).count .declaration = tokens.countP (·.kind = .declaration) := by
  refine count_uses (by simp) (fun token rest noTag => ?_) (by simp) tokens
  rw [uses]
  split <;> simp_all

theorem count_spread_uses (tokens : List Token) :
    (uses tokens).count .spread = tokens.countP (·.kind = .spreadStart) := by
  refine count_uses (by simp) (fun token rest noTag => ?_) (by simp) tokens
  rw [uses]
  split <;> simp_all

end Token

namespace Phrase

/-- The uses in a phrase. -/
def uses : Phrase → List Use
  | children nodes => Node.usesAll nodes
  | element node => node.uses
  | attributes given => Attribute.usesAll given
  | pieces nodes => Node.usesAll nodes

/-- How many elements there are in a phrase. -/
def size : Phrase → Nat
  | children nodes => (Node.tagsAll nodes).length
  | element node => node.tags.length
  | attributes given => (Attribute.tagsAll given).length
  | pieces nodes => (Node.tagsAll nodes).length

end Phrase

namespace Derives

variable {admits : List Node → Prop} {phrase : Phrase} {tokens : List Token}

/-- No phrase starts with the name of a tag. -/
theorem head_ne_tagName (derivation : Derives admits phrase tokens) :
    ∀ token ∈ tokens.head?, token.kind ≠ .tagName := by
  have headed {first rest : List Token} (ofFirst : ∀ token ∈ first.head?, token.kind ≠ .tagName)
      (ofRest : ∀ token ∈ rest.head?, token.kind ≠ .tagName) :
      ∀ token ∈ (first ++ rest).head?, token.kind ≠ .tagName := by
    cases first with
    | nil => exact ofRest
    | cons => exact ofFirst
  induction derivation with
  | child _ _ firstHypothesis inductionHypothesis =>
      exact headed firstHypothesis inductionHypothesis
  | embedded _ _ firstHypothesis inductionHypothesis =>
      exact headed firstHypothesis inductionHypothesis
  | _ => simp [*]

/-- Tokens announce what their phrase uses, use by use. -/
theorem uses_eq (derivation : Derives admits phrase tokens) :
    Token.uses tokens = phrase.uses := by
  induction derivation with
  | noChildren => rfl
  | text isText _ inductionHypothesis =>
      rw [Token.uses_pass (by simp [isText]), inductionHypothesis]
      rfl
  | declaration isDeclaration _ inductionHypothesis =>
      rw [Token.uses_declaration isDeclaration, inductionHypothesis]
      rfl
  | site starts stops _ _ innerHypothesis inductionHypothesis =>
      rw [Token.uses_pass (by simp [starts]), Token.uses_append _ (by simp [stops]),
        Token.uses_pass (by simp [stops]), innerHypothesis, inductionHypothesis]
      simp [Phrase.uses]
  | child _ more firstHypothesis inductionHypothesis =>
      rw [Token.uses_append _ more.head_ne_tagName, firstHypothesis, inductionHypothesis]
      rfl
  | selfClosing opens names ends _ innerHypothesis =>
      rw [Token.uses_tagOpen opens names, Token.uses_append _ (by simp [ends]),
        Token.uses_pass (by simp [ends]), innerHypothesis]
      rfl
  | enclosing opens names ends _ _ closes closeNames closeEnds _ innerHypothesis
      contentHypothesis =>
      rw [Token.uses_tagOpen opens names, Token.uses_append _ (by simp [ends]),
        Token.uses_pass (by simp [ends]), Token.uses_append _ (by simp [closes]),
        Token.uses_pass (by simp [closes]), Token.uses_pass (by simp [closeNames]),
        Token.uses_pass (by simp [closeEnds]), innerHypothesis, contentHypothesis]
      simp [Phrase.uses, Node.uses, Token.uses]
  | noAttributes => rfl
  | bare names _ inductionHypothesis =>
      rw [Token.uses_pass (by simp [names]), inductionHypothesis]
      rfl
  | quoted names equates quotes _ inductionHypothesis =>
      rw [Token.uses_pass (by simp [names]), Token.uses_pass (by simp [equates]),
        Token.uses_pass (by simp [quotes]), inductionHypothesis]
      rfl
  | valued names equates starts stops _ _ _ innerHypothesis inductionHypothesis =>
      rw [Token.uses_pass (by simp [names]), Token.uses_pass (by simp [equates]),
        Token.uses_pass (by simp [starts]), Token.uses_append _ (by simp [stops]),
        Token.uses_pass (by simp [stops]), innerHypothesis, inductionHypothesis]
      simp [Phrase.uses, Attribute.usesAll, Attribute.uses]
  | spread starts stops _ _ _ innerHypothesis inductionHypothesis =>
      rw [Token.uses_spreadStart starts, Token.uses_append _ (by simp [stops]),
        Token.uses_pass (by simp [stops]), innerHypothesis, inductionHypothesis]
      rfl
  | noPieces => rfl
  | code isCode _ inductionHypothesis =>
      rw [Token.uses_pass (by simp [isCode]), inductionHypothesis]
      rfl
  | embedded _ more firstHypothesis inductionHypothesis =>
      rw [Token.uses_append _ more.head_ne_tagName, firstHypothesis, inductionHypothesis]
      rfl

/-- There is one element for each `<` that opens a tag. -/
theorem size_eq (derivation : Derives admits phrase tokens) :
    phrase.size = tokens.countP (·.kind = .tagOpen) := by
  induction derivation with
  | noChildren => rfl
  | noAttributes => rfl
  | noPieces => rfl
  | _ =>
      simp_all [Phrase.size, Node.tagsAll, Node.tags, Attribute.tagsAll, Attribute.tags,
        Nat.add_comm]

end Derives

/-- Whether a name is one of components: it starts with an ASCII capital or has a dot
in it. -/
theorem isComponent_iff {name : String} :
    isComponent name ↔
      (∃ first ∈ name.toList.head?, 'A' ≤ first ∧ first ≤ 'Z') ∨ '.' ∈ name.toList := by
  have capital (character : Char) :
      character.isUpper = true ↔ 'A' ≤ character ∧ character ≤ 'Z' := decide_eq_true_iff
  cases first : name.toList.head? <;> simp [isComponent, first, capital]

/-- Whether a summary reports what tokens announce. A name is listed among the
components if it starts with an ASCII capital or has a dot in it, and among the
elements otherwise. -/
structure Metadata.Reports (metadata : Metadata) (tokens : List Token) : Prop where
  disjoint : ∀ name, ¬ (name ∈ metadata.components ∧ name ∈ metadata.elements)
  listed : ∀ name,
    name ∈ metadata.components ∨ name ∈ metadata.elements ↔ Token.Opens tokens name
  component : ∀ name, name ∈ metadata.components ↔ Token.Opens tokens name ∧
    ((∃ first ∈ name.toList.head?, 'A' ≤ first ∧ first ≤ 'Z') ∨ '.' ∈ name.toList)
  declarations : metadata.declarations = tokens.countP (·.kind = .declaration)
  spreads : metadata.spreads = tokens.countP (·.kind = .spreadStart)

/-- A summary of what tokens announce reports them. -/
theorem Metadata.Summarizes.reports {metadata : Metadata} {tokens : List Token}
    (summarizes : metadata.Summarizes (Token.uses tokens)) : metadata.Reports tokens where
  disjoint name both :=
    ((summarizes.elements name).mp both.2).2 ((summarizes.components name).mp both.1).2
  listed name := by
    rw [summarizes.components, summarizes.elements, Token.tag_mem_uses_iff]
    tauto
  component name := by
    rw [summarizes.components, Token.tag_mem_uses_iff, isComponent_iff]
  declarations := by rw [summarizes.declarations, Token.count_declaration_uses]
  spreads := by rw [summarizes.spreads, Token.count_spread_uses]

/-- The summary of a source that compiles reports its tokens, and the template has one
element for each `<` that opens a tag. -/
theorem metadata_of_compile {options : Script.Options} {source : String} {compiled : Compiled}
    (compiles : compile options source = .ok compiled) :
    ∃ tokens template, Token.read source = .ok tokens ∧
      Template.ofTokens tokens = .ok template ∧ compiled.metadata.Reports tokens ∧
      (Node.tagsAll template.children).length = tokens.countP (·.kind = .tagOpen) := by
  obtain ⟨template, spells, finished⟩ := Reader.bind_eq_ok compiles
  cases finished
  obtain ⟨tokens, reads, makes⟩ := Reader.bind_eq_ok spells
  obtain ⟨-, content, ending, rfl, isEnd, -, -, -, -, -⟩ := Token.read_derives reads
  have derivation := ((Template.read_eq_ok_iff reads template).mp spells).derives
  refine ⟨_, template, reads, makes, Metadata.Summarizes.reports ?_, ?_⟩
  · have announced : Token.uses (content ++ [ending]) = Node.usesAll template.children := by
      rw [Token.uses_append _ (by simp [isEnd]), Token.uses_pass (by simp [isEnd]),
        derivation.uses_eq]
      exact List.append_nil _
    rw [announced]
    exact template.metadata_summarizes
  · rw [List.countP_append, ← derivation.size_eq]
    simp [Phrase.size, isEnd]

/-- A source with a declaration, a tag inside a spread and one inside the value of an
attribute. -/
theorem metadata_of_compile_nested :
    ∃ compiled, compile {} "\x7b% n %\x7d<A \x7b...<b/>\x7d c=\x7bx and <d.e/>\x7d/>" =
        .ok compiled ∧
      ∃ tokens template,
        Token.read "\x7b% n %\x7d<A \x7b...<b/>\x7d c=\x7bx and <d.e/>\x7d/>" = .ok tokens ∧
        Template.ofTokens tokens = .ok template ∧ compiled.metadata.Reports tokens ∧
        (Node.tagsAll template.children).length = tokens.countP (·.kind = .tagOpen) := by
  have succeeds :
      (compile {} "\x7b% n %\x7d<A \x7b...<b/>\x7d c=\x7bx and <d.e/>\x7d/>").isOk = true := by
    decide +kernel
  obtain ⟨compiled, compiles⟩ := exists_of_isOk succeeds
  exact ⟨compiled, compiles, metadata_of_compile compiles⟩

end MarkupTemplate
