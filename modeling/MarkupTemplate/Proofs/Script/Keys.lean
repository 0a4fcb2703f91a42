import MarkupTemplate.Proofs.Reader.Agreement
import MarkupTemplate.Proofs.Script.Faithful

/-!
# Keys of generated calls

The attributes of a tag become the keywords of a call. Whether a key is repeated is
asked where tokens are put together, of the words of the attribute names; what is
written is a label or a literal. The two agree: a key that is written can be read
back to its words, so different words are never written as one key. Hence the tags
that are rejected for a repeated key are those whose call would repeat a keyword.
-/

namespace MarkupTemplate

namespace Script

/-- Reads a key back. Its last character is a colon, and what stands before the colon
is a label or a literal. -/
def readKey (text : List Char) : Option (List Char) :=
  if text.getLast? = some ':' then
    match text.dropLast with
    | '"' :: inside =>
        match readLiteral inside with
        | some (key, []) => some key
        | _ => none
    | label => if isLabel label then some label else none
  else none

/-- The key of an attribute reads back to the words of its name. -/
theorem readKey_attributeKey (name : String) :
    readKey (attributeKey name).toList = some (underscore name).toList := by
  unfold readKey
  rcases toList_attributeKey name with ⟨label, written⟩ | written
  · have noQuote (inside : List Char) : (underscore name).toList ≠ '"' :: inside := by
      intro same
      exact absurd (spelled_of_isLabel label '"' (by simp [same])) (by decide)
    rw [written, List.getLast?_concat, if_pos rfl, List.dropLast_concat]
    split
    next inside same => exact absurd same (noQuote inside)
    next => rw [if_pos label]
  · rw [written, List.getLast?_concat, if_pos rfl, List.dropLast_concat, toList_literal]
    simp only [readLiteral_escapeAll]

/-- Two keys are written alike exactly if they have the same words. -/
theorem attributeKey_eq_iff {first second : String} :
    attributeKey first = attributeKey second ↔ underscore first = underscore second := by
  constructor
  · intro same
    have read := congrArg (fun key => readKey key.toList) same
    simp only [readKey_attributeKey, Option.some.injEq, String.toList_inj] at read
    exact read
  · exact attributeKey_congr

end Script

namespace Attribute

/-- The name of a named attribute. -/
def name? : Attribute → Option String
  | .named name _ => some name
  | .spread _ => none

/-- The keys that are written for the named attributes of a tag, in their order. -/
def keyTexts (attributes : List Attribute) : List String :=
  (attributes.filterMap name?).map Script.attributeKey

theorem keys_eq (attributes : List Attribute) :
    keys attributes = (attributes.filterMap name?).map Script.underscore := by
  rw [keys, List.map_filterMap]
  congr 1
  funext given
  cases given <;> rfl

/-- The keys that are written differ exactly if the words of the names do. -/
theorem nodup_keyTexts_iff {attributes : List Attribute} :
    (keyTexts attributes).Nodup ↔ (keys attributes).Nodup := by
  simp only [keyTexts, keys_eq, List.Nodup, List.pairwise_map, ne_eq, Script.attributeKey_eq_iff]

/-- Keys that are written differ in every tag exactly if none is rejected for a
repeated key. -/
theorem distinctKeys_iff {tags : List (List Attribute)} :
    DistinctKeys tags ↔ ∀ tag ∈ tags, (keyTexts tag).Nodup := by
  simp only [DistinctKeys, nodup_keyTexts_iff]

end Attribute

namespace Node

/-- Whether the call of some tag would repeat a keyword. -/
def RepeatsKeyword (nodes : List Node) : Prop :=
  ∃ tag ∈ tagsAll nodes, ¬ (Attribute.keyTexts tag).Nodup

/-- Whether some tag has an attribute without a value, or without anything to spread. -/
def LacksValue (nodes : List Node) : Prop :=
  ∃ tag ∈ tagsAll nodes, ∃ given ∈ tag, ¬ given.IsFilled

theorem repeatsKeyword_iff {nodes : List Node} :
    RepeatsKeyword nodes ↔ ¬ Attribute.DistinctKeys (tagsAll nodes) := by
  simp [RepeatsKeyword, Attribute.distinctKeys_iff]

theorem lacksValue_iff {nodes : List Node} :
    LacksValue nodes ↔ ¬ Attribute.AllFilled (tagsAll nodes) := by
  simp [LacksValue, Attribute.AllFilled]

end Node

/-- A source that is read into tokens spells trees, and these become its template
unless their attributes are at fault. The fault tells how. -/
theorem Template.read_cases {source : String} {tokens : List Token}
    (reads : Token.read source = .ok tokens) :
    ∃ nodes content ending, tokens = content ++ [ending] ∧ ending.kind = .eof ∧
      Derives (fun _ => True) (.children nodes) content ∧
      ((¬ Node.LacksValue nodes ∧ ¬ Node.RepeatsKeyword nodes ∧
          Template.read source = .ok ⟨nodes⟩) ∨
        (Node.LacksValue nodes ∧ ∃ fault, Template.read source = .error fault ∧
          fault.cause.kind = .malformedAttribute) ∨
        (Node.RepeatsKeyword nodes ∧ ∃ fault, Template.read source = .error fault ∧
          fault.cause.kind = .duplicateAttribute)) := by
  have made : Template.read source = Template.ofTokens tokens := by
    rw [Template.read, reads]
    rfl
  obtain ⟨nodes, content, ending, rfl, isEnd, derivation, -, -, -, shallow⟩ :=
    Token.read_derives reads
  refine ⟨nodes, content, ending, rfl, isEnd, derivation, ?_⟩
  have ends : ∀ token ∈ [ending].head?, token.kind = .eof := by simpa using isEnd
  rw [made, Node.lacksValue_iff, Node.repeatsKeyword_iff, not_not, not_not]
  exact Template.ofTokens_of_derives_cases derivation ends shallow

/-- The calls of a template never repeat a keyword. The keys that are written for a tag
of a source that compiles differ; a key that is written reads back to the words of its
name, so that keys are the same exactly if these words are; and a source that can be
read into tokens is rejected for a repeated key only if a tag would repeat one, and is
rejected whenever a tag would, for the repeated key if no attribute lacks its value. -/
theorem Template.keys_never_repeat :
    (∀ source template, Template.read source = .ok template →
        ∀ tag ∈ Node.tagsAll template.children, (Attribute.keyTexts tag).Nodup) ∧
      (∀ first second, Script.attributeKey first = Script.attributeKey second ↔
        Script.underscore first = Script.underscore second) ∧
      (∀ name, Script.readKey (Script.attributeKey name).toList =
        some (Script.underscore name).toList) ∧
      ∀ source tokens, Token.read source = .ok tokens →
        ∃ nodes content ending, tokens = content ++ [ending] ∧ ending.kind = .eof ∧
          Derives (fun _ => True) (.children nodes) content ∧
          (∀ fault, Template.read source = .error fault →
            fault.cause.kind = .duplicateAttribute → Node.RepeatsKeyword nodes) ∧
          (Node.RepeatsKeyword nodes → ∃ fault, Template.read source = .error fault ∧
            (Node.LacksValue nodes ∨ fault.cause.kind = .duplicateAttribute)) := by
  refine ⟨fun source template spells => ?_, fun _ _ => Script.attributeKey_eq_iff,
    Script.readKey_attributeKey, fun source tokens reads => ?_⟩
  · obtain ⟨tokens, reads, makes⟩ := Reader.bind_eq_ok spells
    have proper := (Template.isCanonical_of_tokens reads makes).proper
    exact Attribute.distinctKeys_iff.mp (Attribute.proper_iff.mp proper).2
  · obtain ⟨nodes, content, ending, rfl, isEnd, derivation, cases⟩ := Template.read_cases reads
    refine ⟨nodes, content, ending, rfl, isEnd, derivation, ?_⟩
    rcases cases with ⟨filled, distinct, spells⟩ | ⟨empty, fault, fails, kind⟩ |
      ⟨repeated, fault, fails, kind⟩
    · refine ⟨fun fault fails _ => ?_, fun repeated => absurd repeated distinct⟩
      cases spells.symm.trans fails
    · refine ⟨fun other failsAs isRepeat => ?_, fun _ => ⟨fault, fails, .inl empty⟩⟩
      cases fails.symm.trans failsAs
      cases kind.symm.trans isRepeat
    · exact ⟨fun _ _ _ => repeated, fun _ => ⟨fault, fails, .inr kind⟩⟩

/-- A tag with keys of both kinds, and one with two names of the same words, the first
of which has an element in its value. -/
theorem Template.keys_never_repeat_respelled :
    (∃ template, Template.read "<a b-c :d=''/>" = .ok template ∧
        ∀ tag ∈ Node.tagsAll template.children, (Attribute.keyTexts tag).Nodup) ∧
      ∃ tokens, Token.read "<a b-c=\x7b<i/>\x7d bC/>" = .ok tokens ∧
        ∃ nodes content ending, tokens = content ++ [ending] ∧ ending.kind = .eof ∧
          Derives (fun _ => True) (.children nodes) content ∧ Node.RepeatsKeyword nodes := by
  have succeeds : (Template.read "<a b-c :d=''/>").isOk = true := by decide +kernel
  obtain ⟨template, spells⟩ := exists_of_isOk succeeds
  have readable : (Token.read "<a b-c=\x7b<i/>\x7d bC/>").isOk = true := by decide +kernel
  obtain ⟨tokens, reads⟩ := exists_of_isOk readable
  have repeats : ((Template.read "<a b-c=\x7b<i/>\x7d bC/>").map fun _ => ()).mapError
      (·.cause.kind) = .error .duplicateAttribute := by decide +kernel
  refine ⟨⟨template, spells, Template.keys_never_repeat.1 _ template spells⟩, tokens, reads, ?_⟩
  obtain ⟨nodes, content, ending, split, isEnd, derivation, ofRepeated, -⟩ :=
    Template.keys_never_repeat.2.2.2 _ tokens reads
  cases failed : Template.read "<a b-c=\x7b<i/>\x7d bC/>" with
  | ok template =>
      rw [failed] at repeats
      cases repeats
  | error fault =>
      rw [failed] at repeats
      have kind : fault.cause.kind = .duplicateAttribute := Except.error.inj repeats
      exact ⟨nodes, content, ending, split, isEnd, derivation, ofRepeated fault failed kind⟩

end MarkupTemplate
