import MarkupTemplate.Proofs.Assembly.Completion

/-!
# The sequences of tokens that make a template

A sequence of tokens makes a template exactly if it begins with a derivation of
the template's children, ended by the end of the sequence or by an end of input,
and if the template keeps to the two rules that the grammar does not state: the
keys of an element differ, and elements do not lie too deep. No sequence is
excluded; the tokens may come in any order and carry any values.
-/

namespace MarkupTemplate

/-- The attributes of the elements of a phrase. The attributes of a tag that is
still open count as one element. -/
def Phrase.tags : Phrase → List (List Attribute)
  | children nodes => Node.tagsAll nodes
  | element node => node.tags
  | attributes given => given :: Attribute.tagsAll given
  | pieces nodes => Node.tagsAll nodes

/-- In the grammar proper, every attribute has a value or something to spread. -/
theorem Derives.isFilled {phrase : Phrase} {tokens : List Token}
    (derivation : DerivesFilled phrase tokens) :
    ∀ tag ∈ phrase.tags, ∀ given ∈ tag, given.IsFilled := by
  induction derivation with
  | noChildren => simp [Phrase.tags, Node.tagsAll]
  | text _ _ inductionHypothesis =>
      simpa [Phrase.tags, Node.tagsAll, Node.tags] using inductionHypothesis
  | declaration _ _ inductionHypothesis =>
      simpa [Phrase.tags, Node.tagsAll, Node.tags] using inductionHypothesis
  | site _ _ _ _ innerHypothesis inductionHypothesis =>
      simp only [Phrase.tags, Node.tagsAll_append, Node.tagsAll_ofPieces,
        List.forall_mem_append]
      exact ⟨innerHypothesis, inductionHypothesis⟩
  | child _ _ firstHypothesis inductionHypothesis =>
      simp only [Phrase.tags, Node.tagsAll, List.forall_mem_append]
      exact ⟨firstHypothesis, inductionHypothesis⟩
  | selfClosing _ _ _ _ innerHypothesis =>
      simpa [Phrase.tags, Node.tags, Node.tagsAll] using innerHypothesis
  | enclosing _ _ _ _ _ _ _ _ _ innerHypothesis contentHypothesis =>
      simp only [Phrase.tags, Node.tags, List.forall_mem_cons, List.forall_mem_append]
        at innerHypothesis contentHypothesis ⊢
      exact ⟨innerHypothesis.1, innerHypothesis.2, contentHypothesis⟩
  | noAttributes => simp [Phrase.tags, Attribute.tagsAll]
  | bare _ _ inductionHypothesis =>
      simpa [Phrase.tags, Attribute.tagsAll, Attribute.tags, Node.tags, Attribute.IsFilled]
        using inductionHypothesis
  | quoted _ _ _ _ inductionHypothesis =>
      simpa [Phrase.tags, Attribute.tagsAll, Attribute.tags, Node.tags, Attribute.IsFilled]
        using inductionHypothesis
  | valued _ _ _ _ _ admitted _ innerHypothesis inductionHypothesis =>
      simp only [Phrase.tags, Attribute.tagsAll, Attribute.tags, List.forall_mem_cons,
        List.forall_mem_append, Node.tags_ofValue, Attribute.isFilled_ofValue]
        at innerHypothesis inductionHypothesis ⊢
      exact ⟨⟨admitted, inductionHypothesis.1⟩, innerHypothesis, inductionHypothesis.2⟩
  | spread _ _ _ admitted _ innerHypothesis inductionHypothesis =>
      simp only [Phrase.tags, Attribute.tagsAll, Attribute.tags, List.forall_mem_cons,
        List.forall_mem_append] at innerHypothesis inductionHypothesis ⊢
      exact ⟨⟨admitted, inductionHypothesis.1⟩, innerHypothesis, inductionHypothesis.2⟩
  | noPieces => simp [Phrase.tags, Node.tagsAll]
  | code _ _ inductionHypothesis =>
      simpa [Phrase.tags, Node.tagsAll, Node.tags] using inductionHypothesis
  | embedded _ _ firstHypothesis inductionHypothesis =>
      simp only [Phrase.tags, Node.tagsAll, List.forall_mem_append]
      exact ⟨firstHypothesis, inductionHypothesis⟩

namespace Template

/-- A sequence of tokens makes a template exactly if it begins with a derivation of
its children, with nothing or an end of input after it, in which no element has
two attributes of one key and no elements lie too deep. -/
theorem ofTokens_eq_ok_iff_derives (tokens : List Token) (template : Template) :
    Template.ofTokens tokens = .ok template ↔
      ∃ used rest, tokens = used ++ rest ∧
        (rest = [] ∨ ∃ ending more, rest = ending :: more ∧ ending.kind = .eof) ∧
        Derives (· ≠ []) (.children template.children) used ∧
        (∀ tag ∈ Node.tagsAll template.children, (Attribute.keys tag).Nodup) ∧
        Node.nestingAll template.children ≤ maxNesting := by
  have ends_iff (rest : List Token) : (∀ token ∈ rest.head?, token.kind = .eof) ↔
      rest = [] ∨ ∃ ending more, rest = ending :: more ∧ ending.kind = .eof := by
    cases rest <;> simp
  constructor
  · intro finished
    cases Assembly.completes_of_run finished with
    | top top front ends derivation distinct shallow =>
        refine ⟨_, _, front, (ends_iff _).mp ends, ?_⟩
        simpa [Assembly.start] using ⟨derivation, distinct, shallow⟩
    | children within => cases within
    | attributes within => cases within
    | pieces within => cases within
  · rintro ⟨used, rest, rfl, ends, derivation, distinct, shallow⟩
    have filled := derivation.isFilled
    have proper : ∀ tag ∈ Node.tagsAll template.children, Attribute.Proper tag :=
      fun tag member => ⟨distinct tag member, filled tag member⟩
    rcases ofTokens_of_derives derivation ((ends_iff rest).mpr ends) shallow with
      ⟨_, finished⟩ | ⟨improper, _⟩
    · exact finished
    · exact absurd proper improper

end Template
end MarkupTemplate
