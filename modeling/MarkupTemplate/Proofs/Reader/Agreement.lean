import MarkupTemplate.Compile
import MarkupTemplate.Proofs.Assembly.Resolution
import MarkupTemplate.Proofs.Grammar.Flaws
import MarkupTemplate.Proofs.Reader.Soundness

/-!
# What the tokens of a source make

The tokens of a source always derive the children of a template, within the
limit of nesting. So they make a template unless something is wrong with the
attributes among them, and a template that they make is canonical.
-/

namespace MarkupTemplate

theorem exists_of_isOk {α : Type} {outcome : Except Fault α} (succeeds : outcome.isOk = true) :
    ∃ result, outcome = .ok result := by
  cases outcome with
  | error fault => cases succeeds
  | ok result => exact ⟨result, rfl⟩

theorem exists_of_toOption_any {α : Type} {outcome : Except Fault α} {test : α → Bool}
    (passes : outcome.toOption.any test = true) :
    ∃ result, outcome = .ok result ∧ test result = true := by
  cases outcome with
  | error fault => cases passes
  | ok result => exact ⟨result, rfl, passes⟩

/-- A template that the tokens of a source make is canonical. -/
theorem Template.isCanonical_of_tokens {source : String} {tokens : List Token}
    {template : Template} (reads : Token.read source = .ok tokens)
    (makes : Template.ofTokens tokens = .ok template) : template.IsCanonical := by
  obtain ⟨nodes, content, ending, rfl, isEnd, derivation, isChild, noBackslash, wellFormed,
    shallow⟩ := Token.read_derives reads
  have ends : ∀ token ∈ [ending].head?, token.kind = .eof := by simpa using isEnd
  rcases Template.ofTokens_of_derives derivation ends shallow with
    ⟨proper, made⟩ | ⟨-, fault, failed, -⟩
  · cases makes.symm.trans made
    exact ⟨isChild, noBackslash, wellFormed, proper, shallow⟩
  · cases makes.symm.trans failed

/-- Every template that a source spells is canonical. -/
theorem Template.isCanonical_of_read {source : String} {template : Template}
    (spells : Template.read source = .ok template) : template.IsCanonical := by
  obtain ⟨tokens, reads, makes⟩ := Reader.bind_eq_ok spells
  exact Template.isCanonical_of_tokens reads makes

/-- A source with every kind of node, among them an element within an attribute. -/
theorem Template.isCanonical_of_read_mixed :
    ∃ template, Template.read
        "\x7b% n = 2 %\x7d\\\x7b<p.q t=\x7bx and <b/>\x7d \x7b...r\x7d>\x7bs\x7d</p.q>\\" =
        .ok template ∧ template.IsCanonical := by
  have succeeds : (Template.read
      "\x7b% n = 2 %\x7d\\\x7b<p.q t=\x7bx and <b/>\x7d \x7b...r\x7d>\x7bs\x7d</p.q>\\").isOk =
      true := by decide +kernel
  obtain ⟨template, spells⟩ := exists_of_isOk succeeds
  exact ⟨template, spells, Template.isCanonical_of_read spells⟩

/-- The tokens of a source make a template exactly if they are not flawed, and a
flaw is reported as one of attributes. -/
theorem Template.ofTokens_read {source : String} {tokens : List Token}
    (reads : Token.read source = .ok tokens) :
    (¬ Token.Flawed tokens ∧ ∃ template, Template.ofTokens tokens = .ok template) ∨
      (Token.Flawed tokens ∧ ∃ fault, Template.ofTokens tokens = .error fault ∧
        (fault.cause.kind = .malformedAttribute ∨ fault.cause.kind = .duplicateAttribute)) := by
  obtain ⟨nodes, content, ending, rfl, isEnd, derivation, -, -, -, shallow⟩ :=
    Token.read_derives reads
  have ends : ∀ token ∈ [ending].head?, token.kind = .eof := by simpa using isEnd
  have flawed : Token.Flawed (content ++ [ending]) ↔
      ¬ ∀ tag ∈ Node.tagsAll nodes, Attribute.Proper tag := by
    rw [derivation.flawed_iff, Token.flawed_pass (by simp [isEnd])]
    simp [Phrase.Proper, Token.not_flawed_nil]
  rcases Template.ofTokens_of_derives derivation ends shallow with
    ⟨proper, made⟩ | ⟨improper, fault, failed, concerns⟩
  · exact .inl ⟨fun isFlawed => flawed.mp isFlawed proper, _, made⟩
  · exact .inr ⟨flawed.mpr improper, fault, failed, concerns⟩

/-- A tag with two flaws: a value without pieces, and two names of one key. -/
theorem Template.ofTokens_read_twiceFlawed :
    ∃ tokens, Token.read "<a b-c d=\x7b\x7d b_c/>" = .ok tokens ∧ Token.Flawed tokens ∧
      ∃ fault, Template.ofTokens tokens = .error fault ∧
        (fault.cause.kind = .malformedAttribute ∨ fault.cause.kind = .duplicateAttribute) := by
  have succeeds : (Token.read "<a b-c d=\x7b\x7d b_c/>").isOk = true := by decide +kernel
  have fails : (Template.read "<a b-c d=\x7b\x7d b_c/>").isOk = false := by decide +kernel
  obtain ⟨tokens, reads⟩ := exists_of_isOk succeeds
  rw [Template.read, reads] at fails
  rcases Template.ofTokens_read reads with ⟨-, template, made⟩ | flawed
  · cases (congrArg Except.isOk made).symm.trans fails
  · exact ⟨tokens, reads, flawed⟩

end MarkupTemplate
