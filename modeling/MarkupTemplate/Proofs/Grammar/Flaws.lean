import Mathlib.Data.List.Infix
import Mathlib.Tactic.Tauto
import MarkupTemplate.Proofs.Grammar.Phrase

/-!
# Flaws among tokens

Three things can be wrong with tokens that are otherwise in order: an attribute
with an empty expression as its value, a spread of an empty expression, and a tag
with two attributes that become the same key. They are stated on the tokens
alone. `Derives.flawed_iff` relates them to the tree: a run of tokens is flawed
exactly if some element of its tree has attributes that are not proper.
-/

namespace MarkupTemplate

namespace Token

/-- The keys that the named attributes of a tag become, read from behind its name
to its end. What stands within an expression, `depth` of which are open, belongs
to other tags. -/
def tagKeys : Nat → List Token → List String
  | _, [] => []
  | depth, token :: rest =>
      match token.kind with
      | .expressionStart | .spreadStart => tagKeys (depth + 1) rest
      | .expressionEnd => tagKeys (depth - 1) rest
      | .tagEnd | .tagSelfClose => if depth = 0 then [] else tagKeys depth rest
      | .attrName =>
          if depth = 0 then Script.underscore token.value :: tagKeys depth rest
          else tagKeys depth rest
      | _ => tagKeys depth rest

/-- Whether some attribute has an empty expression as its value. -/
def LacksValue (tokens : List Token) : Prop :=
  [.attrEquals, .expressionStart, .expressionEnd] <:+: tokens.map Token.kind

/-- Whether an empty expression is spread. -/
def LacksSpread (tokens : List Token) : Prop :=
  [.spreadStart, .expressionEnd] <:+: tokens.map Token.kind

/-- Whether some opening tag has two attributes that become the same key. -/
def RepeatsKey (tokens : List Token) : Prop :=
  ∃ before mark behind, tokens = before ++ mark :: behind ∧ mark.kind = .tagOpen ∧
    ¬ (tagKeys 0 behind).Nodup

/-- Whether something is wrong with the attributes among tokens. -/
def Flawed (tokens : List Token) : Prop :=
  LacksValue tokens ∨ LacksSpread tokens ∨ RepeatsKey tokens

/-- Whether a flaw starts at a token, given those behind it. -/
def StartsFlaw (token : Token) (rest : List Token) : Prop :=
  [.attrEquals, .expressionStart, .expressionEnd] <+: (token :: rest).map Token.kind ∨
    [.spreadStart, .expressionEnd] <+: (token :: rest).map Token.kind ∨
    (token.kind = .tagOpen ∧ ¬ (tagKeys 0 rest).Nodup)

theorem repeatsKey_cons_iff {token : Token} {rest : List Token} :
    RepeatsKey (token :: rest) ↔
      (token.kind = .tagOpen ∧ ¬ (tagKeys 0 rest).Nodup) ∨ RepeatsKey rest := by
  constructor
  · rintro ⟨before, mark, behind, split, opens, repeats⟩
    cases before with
    | nil =>
        cases split
        exact .inl ⟨opens, repeats⟩
    | cons first before =>
        cases split
        exact .inr ⟨before, mark, behind, rfl, opens, repeats⟩
  · rintro (⟨opens, repeats⟩ | ⟨before, mark, behind, rfl, opens, repeats⟩)
    · exact ⟨[], token, rest, rfl, opens, repeats⟩
    · exact ⟨token :: before, mark, behind, rfl, opens, repeats⟩

/-- A flaw starts at the first token or later. -/
theorem flawed_cons_iff {token : Token} {rest : List Token} :
    Flawed (token :: rest) ↔ StartsFlaw token rest ∨ Flawed rest := by
  simp only [Flawed, StartsFlaw, LacksValue, LacksSpread, List.map_cons, List.infix_cons_iff,
    repeatsKey_cons_iff]
  tauto

theorem not_flawed_nil : ¬ Flawed [] := by
  simp [Flawed, LacksValue, LacksSpread, RepeatsKey]

/-- A flaw starts only at an equals sign, at a spread or at a tag. -/
theorem not_startsFlaw {token : Token} (rest : List Token) (notEquals : token.kind ≠ .attrEquals)
    (notSpread : token.kind ≠ .spreadStart) (notTag : token.kind ≠ .tagOpen) :
    ¬ StartsFlaw token rest := by
  simp [StartsFlaw, notTag, notEquals.symm, notSpread.symm]

/-- Other tokens can be passed over. -/
theorem flawed_pass {token : Token} {rest : List Token}
    (other : token.kind ∉ [.attrEquals, .spreadStart, .tagOpen]) :
    Flawed (token :: rest) ↔ Flawed rest := by
  simp only [List.mem_cons, List.not_mem_nil, or_false, not_or] at other
  rw [flawed_cons_iff, or_iff_right (not_startsFlaw rest other.1 other.2.1 other.2.2)]

/-- At an equals sign, a flaw is an empty expression. -/
theorem startsFlaw_equals_iff {equals next : Token} {rest : List Token}
    (equates : equals.kind = .attrEquals) :
    StartsFlaw equals (next :: rest) ↔
      next.kind = .expressionStart ∧ ∃ stop ∈ rest.head?, stop.kind = .expressionEnd := by
  cases rest <;> simp [StartsFlaw, equates, @eq_comm _ TokenKind.expressionStart,
    @eq_comm _ TokenKind.expressionEnd]

/-- At a spread, a flaw is an empty expression. -/
theorem startsFlaw_spread_iff {start : Token} {rest : List Token}
    (starts : start.kind = .spreadStart) :
    StartsFlaw start rest ↔ ∃ stop ∈ rest.head?, stop.kind = .expressionEnd := by
  cases rest <;> simp [StartsFlaw, starts, @eq_comm _ TokenKind.expressionEnd]

/-- At a tag, a flaw is a key that is repeated. -/
theorem startsFlaw_tag_iff {mark : Token} {rest : List Token} (opens : mark.kind = .tagOpen) :
    StartsFlaw mark rest ↔ ¬ (tagKeys 0 rest).Nodup := by
  simp [StartsFlaw, opens]

end Token

variable {admits : List Node → Prop} {phrase : Phrase} {tokens : List Token}

/-- Within an expression, the keys of a tag are looked for behind every phrase. -/
theorem Derives.tagKeys_skip (derivation : Derives admits phrase tokens) (depth : Nat)
    (rest : List Token) :
    Token.tagKeys (depth + 1) (tokens ++ rest) = Token.tagKeys (depth + 1) rest := by
  induction derivation generalizing depth rest with
  | noChildren => rfl
  | text isText _ inductionHypothesis => simp [Token.tagKeys, isText, inductionHypothesis]
  | declaration isDeclaration _ inductionHypothesis =>
      simp [Token.tagKeys, isDeclaration, inductionHypothesis]
  | site starts stops _ _ innerHypothesis inductionHypothesis =>
      simp [Token.tagKeys, starts, stops, innerHypothesis, inductionHypothesis]
  | child _ _ firstHypothesis inductionHypothesis =>
      simp [firstHypothesis, inductionHypothesis]
  | selfClosing opens names ends _ innerHypothesis =>
      simp [Token.tagKeys, opens, names, ends, innerHypothesis]
  | enclosing opens names ends _ _ closes closeNames closeEnds _ innerHypothesis
      contentHypothesis =>
      simp [Token.tagKeys, opens, names, ends, closes, closeNames, closeEnds, innerHypothesis,
        contentHypothesis]
  | noAttributes => rfl
  | bare names _ inductionHypothesis => simp [Token.tagKeys, names, inductionHypothesis]
  | quoted names equates quotes _ inductionHypothesis =>
      simp [Token.tagKeys, names, equates, quotes, inductionHypothesis]
  | valued names equates starts stops _ _ _ innerHypothesis inductionHypothesis =>
      simp [Token.tagKeys, names, equates, starts, stops, innerHypothesis, inductionHypothesis]
  | spread starts stops _ _ _ innerHypothesis inductionHypothesis =>
      simp [Token.tagKeys, starts, stops, innerHypothesis, inductionHypothesis]
  | noPieces => rfl
  | code isCode _ inductionHypothesis => simp [Token.tagKeys, isCode, inductionHypothesis]
  | embedded _ _ firstHypothesis inductionHypothesis =>
      simp [firstHypothesis, inductionHypothesis]

/-- The keys of a tag are those of the attributes that its tokens derive. -/
theorem Derives.tagKeys_attributes {given : List Attribute}
    (derivation : Derives admits (.attributes given) tokens) (rest : List Token) :
    Token.tagKeys 0 (tokens ++ rest) = Attribute.keys given ++ Token.tagKeys 0 rest := by
  generalize isPhrase : Phrase.attributes given = phrase at derivation
  induction derivation generalizing given with
  | noAttributes =>
      cases isPhrase
      rfl
  | bare names _ inductionHypothesis =>
      cases isPhrase
      simp [Token.tagKeys, names, inductionHypothesis rfl]
  | quoted names equates quotes _ inductionHypothesis =>
      cases isPhrase
      simp [Token.tagKeys, names, equates, quotes, inductionHypothesis rfl]
  | valued names equates starts stops inner _ _ _ inductionHypothesis =>
      cases isPhrase
      simp [Token.tagKeys, names, equates, starts, stops, inner.tagKeys_skip,
        inductionHypothesis rfl]
  | spread starts stops inner _ _ _ inductionHypothesis =>
      cases isPhrase
      simp [Token.tagKeys, starts, stops, inner.tagKeys_skip, inductionHypothesis rfl]
  | _ => cases isPhrase

/-- Pieces are missing exactly where the end of an expression comes first. -/
theorem Derives.head_pieces {pieces : List Node}
    (derivation : Derives admits (.pieces pieces) tokens) {stop : Token} {rest : List Token}
    (stops : stop.kind = .expressionEnd) :
    (∃ first ∈ (tokens ++ stop :: rest).head?, first.kind = .expressionEnd) ↔ pieces = [] := by
  cases derivation with
  | noPieces => simp [stops]
  | code isCode => simp [isCode]
  | embedded first => cases first <;> simp [*]

/-- Whether every attribute in a phrase has a value, and the elements in it have
no two attributes with the same key. -/
def Phrase.Proper : Phrase → Prop
  | children nodes => ∀ tag ∈ Node.tagsAll nodes, Attribute.Proper tag
  | element node => ∀ tag ∈ node.tags, Attribute.Proper tag
  | attributes given =>
      (∀ single ∈ given, single.IsFilled) ∧ ∀ tag ∈ Attribute.tagsAll given, Attribute.Proper tag
  | pieces nodes => ∀ tag ∈ Node.tagsAll nodes, Attribute.Proper tag

/-- The keys in a tag, from behind its mark to its end. -/
theorem Derives.tagKeys_tag {given : List Attribute} {name stop : Token}
    (inner : Derives admits (.attributes given) tokens) (names : name.kind = .tagName)
    (ends : stop.kind = .tagEnd ∨ stop.kind = .tagSelfClose) (rest : List Token) :
    Token.tagKeys 0 (name :: (tokens ++ stop :: rest)) = Attribute.keys given := by
  rcases ends with ends | ends <;>
    simp [Token.tagKeys, names, inner.tagKeys_attributes, ends]

/-- Tokens that derive a phrase are flawed exactly if it is not proper. -/
theorem Derives.flawed_iff (derivation : Derives admits phrase tokens) (rest : List Token) :
    Token.Flawed (tokens ++ rest) ↔ ¬ phrase.Proper ∨ Token.Flawed rest := by
  -- Each token is passed in turn; a flaw can start only where the grammar has a
  -- tag, an equals sign or a spread, and there the tree shows the same flaw.
  induction derivation generalizing rest with
  | noChildren => simp [Phrase.Proper, Node.tagsAll]
  | text isText _ inductionHypothesis =>
      rw [List.cons_append, Token.flawed_pass (by simp [isText]), inductionHypothesis]
      simp [Phrase.Proper, Node.tagsAll, Node.tags]
  | declaration isDeclaration _ inductionHypothesis =>
      rw [List.cons_append, Token.flawed_pass (by simp [isDeclaration]), inductionHypothesis]
      simp [Phrase.Proper, Node.tagsAll, Node.tags]
  | site starts stops _ _ innerHypothesis inductionHypothesis =>
      simp only [List.cons_append, List.append_assoc]
      rw [Token.flawed_pass (by simp [starts]), innerHypothesis,
        Token.flawed_pass (by simp [stops]), inductionHypothesis]
      simp only [Phrase.Proper, Node.tagsAll_append, Node.tagsAll_ofPieces,
        List.forall_mem_append]
      tauto
  | child _ _ firstHypothesis inductionHypothesis =>
      rw [List.append_assoc, firstHypothesis, inductionHypothesis]
      simp only [Phrase.Proper, Node.tagsAll, List.forall_mem_append]
      tauto
  | selfClosing opens names ends inner innerHypothesis =>
      simp only [List.cons_append, List.append_assoc, List.nil_append]
      rw [Token.flawed_cons_iff, Token.startsFlaw_tag_iff opens,
        inner.tagKeys_tag names (.inr ends), Token.flawed_pass (by simp [names]),
        innerHypothesis, Token.flawed_pass (by simp [ends])]
      simp only [Phrase.Proper, Node.tags, Node.tagsAll, List.append_nil, List.forall_mem_cons,
        Attribute.Proper]
      tauto
  | enclosing opens names ends inner _ closes closeNames closeEnds _ innerHypothesis
      contentHypothesis =>
      simp only [List.cons_append, List.append_assoc, List.nil_append]
      rw [Token.flawed_cons_iff, Token.startsFlaw_tag_iff opens,
        inner.tagKeys_tag names (.inl ends), Token.flawed_pass (by simp [names]),
        innerHypothesis, Token.flawed_pass (by simp [ends]), contentHypothesis,
        Token.flawed_pass (by simp [closes]), Token.flawed_pass (by simp [closeNames]),
        Token.flawed_pass (by simp [closeEnds])]
      simp only [Phrase.Proper, Node.tags, List.forall_mem_append, List.forall_mem_cons,
        Attribute.Proper]
      tauto
  | noAttributes => simp [Phrase.Proper, Attribute.tagsAll]
  | bare names _ inductionHypothesis =>
      rw [List.cons_append, Token.flawed_pass (by simp [names]), inductionHypothesis]
      simp [Phrase.Proper, Attribute.tagsAll, Attribute.tags, Node.tags, Attribute.IsFilled]
  | quoted names equates quotes _ inductionHypothesis =>
      simp only [List.cons_append]
      rw [Token.flawed_pass (by simp [names]), Token.flawed_cons_iff,
        Token.startsFlaw_equals_iff equates, Token.flawed_pass (by simp [quotes]),
        inductionHypothesis]
      simp [quotes, Phrase.Proper, Attribute.tagsAll, Attribute.tags, Node.tags,
        Attribute.IsFilled]
  | valued names equates starts stops inner _ _ innerHypothesis inductionHypothesis =>
      simp only [List.cons_append, List.append_assoc]
      rw [Token.flawed_pass (by simp [names]), Token.flawed_cons_iff,
        Token.startsFlaw_equals_iff equates, inner.head_pieces stops,
        Token.flawed_pass (by simp [starts]), innerHypothesis,
        Token.flawed_pass (by simp [stops]), inductionHypothesis]
      simp only [Phrase.Proper, Attribute.tagsAll, Attribute.tags, Node.tags_ofValue,
        List.forall_mem_append, List.forall_mem_cons, Attribute.isFilled_ofValue, ne_eq]
      tauto
  | spread starts stops inner _ _ innerHypothesis inductionHypothesis =>
      simp only [List.cons_append, List.append_assoc]
      rw [Token.flawed_cons_iff, Token.startsFlaw_spread_iff starts, inner.head_pieces stops,
        innerHypothesis, Token.flawed_pass (by simp [stops]), inductionHypothesis]
      simp only [Phrase.Proper, Attribute.tagsAll, Attribute.tags, Attribute.IsFilled,
        List.forall_mem_append, List.forall_mem_cons, ne_eq]
      tauto
  | noPieces => simp [Phrase.Proper, Node.tagsAll]
  | code isCode _ inductionHypothesis =>
      rw [List.cons_append, Token.flawed_pass (by simp [isCode]), inductionHypothesis]
      simp [Phrase.Proper, Node.tagsAll, Node.tags]
  | embedded _ _ firstHypothesis inductionHypothesis =>
      rw [List.append_assoc, firstHypothesis, inductionHypothesis]
      simp only [Phrase.Proper, Node.tagsAll, List.forall_mem_append]
      tauto

end MarkupTemplate
