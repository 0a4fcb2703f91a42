import MarkupTemplate.Proofs.Assembly.Faults

/-!
# Places are exact

Every place in a token or in a fault of a source is one between two of its
characters, with the bytes, lines and columns in front of it counted right.
-/

namespace MarkupTemplate

open Text

variable {source : String} {tokens : List Token} {fault : Fault}

/-- Whether the places of a fault are exact, its stretch starts at a character of the
source that is not white space, and it names only a stretch that starts no later. -/
structure Fault.IsLocated (fault : Fault) (source : String) : Prop where
  isExact : fault.span.IsExact source
  solid : ∃ before character behind, source = before ++ String.singleton character ++ behind ∧
    fault.span.start.byte = before.utf8ByteSize ∧ isBlank character = false
  related : ∀ related ∈ fault.related, related.IsExact source ∧
    related.start.byte ≤ fault.span.start.byte

/-- A fault that lies in a source has exact places. -/
theorem Fault.Lies.isLocated (lies : fault.Lies source.toList) : fault.IsLocated source := by
  obtain ⟨before, inside, behind, whole, span, ⟨first, member, solid⟩, -, related⟩ := lies
  have joined : source = String.ofList (before ++ inside ++ behind) := by
    rw [← whole, String.ofList_toList]
  constructor
  case isExact =>
    rw [joined, span]
    exact Span.isExact_after before inside behind
  case solid =>
    obtain ⟨following, split⟩ := List.head?_eq_some_iff.mp member
    refine ⟨String.ofList before, first, String.ofList following, ?_, ?_, solid⟩
    · rw [joined, List.append_assoc, split, String.singleton_eq_ofList, ← String.ofList_append,
        ← String.ofList_append, List.append_assoc]
      rfl
    · simp [span, Position.byte_after]
  case related =>
    intro other isRelated
    have lies := (related other isRelated).liesIn
    have isExact := @Span.LiesIn.isExact other before (inside ++ behind) lies
    rw [← List.append_assoc, ← joined] at isExact
    refine ⟨isExact, ?_⟩
    rw [span]
    exact isExact.ordered.trans lies.stop_le

/-- The places of the tokens of a source are exact. -/
theorem Token.isExact_of_read (reads : Token.read source = .ok tokens) :
    ∀ token ∈ tokens, token.span.IsExact source := by
  obtain ⟨content, tiled, rfl⟩ := Token.exists_tiled_of_read reads
  have exact_of_lies {span : Span} (lies : span.LiesIn source.toList) : span.IsExact source := by
    have isExact := @Span.LiesIn.isExact span source.toList [] lies
    rwa [List.append_nil, String.ofList_toList] at isExact
  refine List.forall_mem_append.mpr ⟨fun token member => ?_, fun token isLast => ?_⟩
  · exact exact_of_lies (tiled.liesIn (List.mem_reverse.mp member))
  · obtain rfl := List.mem_singleton.mp isLast
    exact exact_of_lies ⟨source.toList, [], [], by simp, by rw [Span.after, List.append_nil]; rfl⟩

/-- A fault that concerns a token of a source lies in the source. -/
theorem Fault.Concerns.lies (concerns : fault.Concerns tokens)
    (reads : Token.read source = .ok tokens) : fault.Lies source.toList := by
  obtain ⟨content, tiled, rfl⟩ := Token.exists_tiled_of_read reads
  obtain ⟨before, token, behind, listed, span, kind, related⟩ := concerns
  have notLast : token ≠ ⟨.eof, "", .point (Position.after {} source.toList)⟩ := by
    rintro rfl
    simp at kind
  obtain ⟨front, rfl, same⟩ := exists_front listed notLast
  have reversed : content = front.reverse ++ token :: before.reverse := by
    simpa using congrArg List.reverse same
  rw [reversed] at tiled
  obtain ⟨closed, passed, inside, rest, earlier, whole, place, fits⟩ := tiled.split
  have solid : IsSolid inside := by
    apply fits.solid <;> rcases kind with isName | isStart | isSpread <;> simp [*]
  refine ⟨passed, inside, rest, whole, span.trans place, solid.begins_append rest, .inl solid.ends,
    fun other isRelated => ?_⟩
  obtain ⟨name, member, names, rfl⟩ := related other isRelated
  obtain ⟨later, former, split⟩ := List.append_of_mem (List.mem_reverse.mpr member)
  rw [split] at earlier
  obtain ⟨closed, passed, inside, rest, -, whole, place, fits⟩ := earlier.split
  exact ⟨passed, inside, rest, whole, place, fits.solid (by simp [names]) (by simp [names])⟩

/-- A fault of a source lies in it. -/
theorem Template.lies_of_read (failed : Template.read source = .error fault) :
    fault.Lies source.toList := by
  rcases Reader.bind_eq_error failed with unread | ⟨tokens, reads, failed⟩
  · exact Token.lies_of_read unread
  obtain ⟨nodes, content, ending, rfl, isEnd, derivation, -, -, -, shallow⟩ :=
    Token.read_derives reads
  have ends : ∀ token ∈ [ending].head?, token.kind = .eof := by simpa using isEnd
  rcases Template.ofTokens_of_derives derivation ends shallow with
    ⟨-, made⟩ | ⟨-, other, failedSo, concerns⟩
  · cases made.symm.trans failed
  · cases failedSo.symm.trans failed
    exact (Template.concerns_of_ofTokens failed concerns).lies reads

/-- All places in the tokens of a source are exact, and so are those in its fault if
it has one. -/
theorem Template.places_exact (source : String) :
    (∀ tokens, Token.read source = .ok tokens → ∀ token ∈ tokens, token.span.IsExact source) ∧
      ∀ fault, Template.read source = .error fault → fault.IsLocated source :=
  ⟨fun _ reads => Token.isExact_of_read reads,
    fun _ failed => (Template.lies_of_read failed).isLocated⟩

/-- A source that is read into tokens, in which the second line repeats an attribute
of the first under another name. -/
theorem Template.places_exact_repeated :
    (∃ tokens, Token.read "é<p a-b\n a_b/>" = .ok tokens ∧
        ∀ token ∈ tokens, token.span.IsExact "é<p a-b\n a_b/>") ∧
      ∃ fault, Template.read "é<p a-b\n a_b/>" = .error fault ∧
        fault.IsLocated "é<p a-b\n a_b/>" := by
  have succeeds : (Token.read "é<p a-b\n a_b/>").isOk = true := by decide +kernel
  have fails : (Template.read "é<p a-b\n a_b/>").isOk = false := by decide +kernel
  obtain ⟨tokens, reads⟩ := exists_of_isOk succeeds
  refine ⟨⟨tokens, reads, (Template.places_exact _).1 tokens reads⟩, ?_⟩
  cases failed : Template.read "é<p a-b\n a_b/>" with
  | ok template => cases (congrArg Except.isOk failed).symm.trans fails
  | error fault => exact ⟨fault, rfl, (Template.places_exact _).2 fault failed⟩

end MarkupTemplate
