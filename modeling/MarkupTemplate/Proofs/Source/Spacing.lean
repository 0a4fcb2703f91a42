import MarkupTemplate.Proofs.Source.Tiling

/-!
# White space between tokens

The white space between two tokens of a source can be exchanged for other white
space. `IsRespaced` says that a text is a source with such an exchange in each of
the gaps between its tokens. `Spaced` says the same of what is left of the two texts
from some place on, in the order in which two readers pass them: they pass the same
character, or each of them passes white space of its own where the first is between
two tokens.
-/

namespace MarkupTemplate

open Spelling Text

/-- Whether no token covers the character at a place. -/
def Position.IsFree (tokens : List Token) (place : Position) : Prop :=
  ∀ token ∈ tokens, ¬ token.span.Covers place.byte

/-! ### Exchanging white space -/

/-- Two texts that start with the first of some tokens, at a byte of the source, and have
the same characters within tokens. Between two tokens there is white space in the second
text exactly if there is something in the first one. -/
inductive Refills : Nat → List Token → String → String → Prop where
  | last {byte : Nat} {token : Token} {text : String} (starts : token.span.start.byte = byte) :
      Refills byte [token] text text
  | next {byte : Nat} {token following : Token} {rest : List Token}
      {inside gap fill text refilled : String} (starts : token.span.start.byte = byte)
      (stops : token.span.stop.byte = byte + inside.utf8ByteSize)
      (fills : gap = "" ∧ fill = "" ∨
        gap ≠ "" ∧ fill ≠ "" ∧ ∀ character ∈ fill.toList, isBlank character)
      (further : Refills (byte + inside.utf8ByteSize + gap.utf8ByteSize) (following :: rest)
        text refilled) :
      Refills byte (token :: following :: rest) (inside ++ gap ++ text)
        (inside ++ fill ++ refilled)

/-- Whether a text is a source with other white space between its tokens. -/
def IsRespaced (source : String) (tokens : List Token) (respaced : String) : Prop :=
  ∃ before text refilled, source = before ++ text ∧ respaced = before ++ refilled ∧
    Refills before.utf8ByteSize tokens text refilled

/-- What is left of two texts that differ in white space where no token is. The place
is one in the first text. -/
inductive Spaced (tokens : List Token) : Position → List Char → List Char → Prop where
  | ended {place : Position} : Spaced tokens place [] []
  | same {place : Position} {character : Char} {rest others : List Char}
      (further : Spaced tokens (place.advance character) rest others) :
      Spaced tokens place (character :: rest) (character :: others)
  | gap {place : Position} {blanks fill rest others : List Char}
      (isFree : place.IsFree tokens) (nonempty : blanks ≠ []) (filled : fill ≠ [])
      (blank : ∀ character ∈ blanks, isBlank character)
      (fillBlank : ∀ character ∈ fill, isBlank character)
      (further : Spaced tokens (place.after blanks) rest others) :
      Spaced tokens place (blanks ++ rest) (fill ++ others)

/-! ### What agrees in the two texts -/

/-- Whether the first characters of a text satisfy some predicates, one each. -/
def leadsWith : List (Char → Bool) → List Char → Bool
  | [], _ => true
  | _ :: _, [] => false
  | accepts :: more, character :: rest => accepts character && leadsWith more rest

theorem any_head?_eq_leadsWith (accepts : Char → Bool) (characters : List Char) :
    characters.head?.any accepts = leadsWith [accepts] characters := by
  cases characters <;> simp [leadsWith]

/-- A tag is opened by a `<` and a letter. -/
theorem opensTag_eq_leadsWith (characters : List Char) :
    opensTag characters = leadsWith [(· == '<'), Char.isAlpha] characters := by
  unfold opensTag
  split
  next => simp [leadsWith]
  next other =>
    match characters with
    | [] => rfl
    | [first] => simp [leadsWith]
    | first :: second :: rest =>
        have notMark : first ≠ '<' := by
          rintro rfl
          exact other second rest rfl
        simp [leadsWith, notMark]

/-- A tag is closed by a `<`, a `/` and a letter. -/
theorem closesTag_eq_leadsWith (characters : List Char) :
    closesTag characters = leadsWith [(· == '<'), (· == '/'), Char.isAlpha] characters := by
  unfold closesTag
  split
  next => simp [leadsWith]
  next other =>
    match characters with
    | [] => rfl
    | [first] => simp [leadsWith]
    | [first, second] => simp [leadsWith]
    | first :: second :: third :: rest =>
        have notMark : first = '<' → second ≠ '/' := by
          rintro rfl rfl
          exact other third rest rfl
        by_cases isMark : first = '<'
        · simp [leadsWith, notMark isMark]
        · simp [leadsWith, isMark]

/-- No tag is opened by white space. -/
theorem opensTag_of_isBlank {character : Char} (blank : isBlank character)
    (following : List Char) : opensTag (character :: following) = false := by
  have notMark : character ≠ '<' := isBlank_ne blank (by decide)
  simp [opensTag_eq_leadsWith, leadsWith, notMark]

/-- No tag is closed by white space. -/
theorem closesTag_of_isBlank {character : Char} (blank : isBlank character)
    (following : List Char) : closesTag (character :: following) = false := by
  have notMark : character ≠ '<' := isBlank_ne blank (by decide)
  simp [closesTag_eq_leadsWith, leadsWith, notMark]

namespace Spaced

variable {tokens : List Token} {place : Position} {rest others : List Char}

/-- A text agrees with itself. -/
theorem refl (tokens : List Token) (place : Position) (rest : List Char) :
    Spaced tokens place rest rest := by
  induction rest generalizing place with
  | nil => exact .ended
  | cons character rest inductionHypothesis => exact .same (inductionHypothesis _)

/-- The same characters can be passed in front of what agrees. -/
theorem prepend {passed : List Char} (further : Spaced tokens (place.after passed) rest others) :
    Spaced tokens place (passed ++ rest) (passed ++ others) := by
  induction passed generalizing place with
  | nil => exact further
  | cons character passed inductionHypothesis => exact .same (inductionHypothesis further)

/-- The first text ends where the second one does. -/
theorem eq_nil (spaced : Spaced tokens place [] others) : others = [] := by
  generalize start : ([] : List Char) = rest at spaced
  cases spaced with
  | ended => rfl
  | same => cases start
  | gap _ nonempty => exact absurd (List.append_eq_nil_iff.mp start.symm).1 nonempty

/-- Whether two texts both go on with white space outside of all tokens. -/
structure IsGap (tokens : List Token) (place : Position) (rest others blanks fill : List Char) :
    Prop where
  isFree : place.IsFree tokens
  nonempty : blanks ≠ []
  filled : fill ≠ []
  blank : ∀ character ∈ blanks, isBlank character
  fillBlank : ∀ character ∈ fill, isBlank character
  further : ∃ left right, rest = blanks ++ left ∧ others = fill ++ right ∧
    Spaced tokens (place.after blanks) left right

/-- Two texts with a gap in front both start with white space. -/
theorem IsGap.exists_front {blanks fill : List Char}
    (gap : IsGap tokens place rest others blanks fill) :
    ∃ first more other otherMore, rest = first :: more ∧ others = other :: otherMore ∧
      isBlank first ∧ isBlank other := by
  obtain ⟨left, right, rfl, rfl, -⟩ := gap.further
  obtain ⟨first, blanks, rfl⟩ := List.exists_cons_of_ne_nil gap.nonempty
  obtain ⟨other, fill, rfl⟩ := List.exists_cons_of_ne_nil gap.filled
  exact ⟨first, blanks ++ left, other, fill ++ right, rfl, rfl,
    gap.blank first List.mem_cons_self, gap.fillBlank other List.mem_cons_self⟩

/-- The two texts go on with the same character, or both with white space outside of
all tokens. -/
theorem cons_cases {character : Char} (spaced : Spaced tokens place (character :: rest) others) :
    (∃ behind, others = character :: behind ∧
        Spaced tokens (place.advance character) rest behind) ∨
      ∃ blanks fill, IsGap tokens place (character :: rest) others blanks fill := by
  generalize start : character :: rest = whole at spaced
  cases spaced with
  | ended => cases start
  | same further =>
      obtain ⟨rfl, rfl⟩ := List.cons.inj start
      exact .inl ⟨_, rfl, further⟩
  | gap isFree nonempty filled blank fillBlank further =>
      exact .inr ⟨_, _, isFree, nonempty, filled, blank, fillBlank, _, _, rfl, rfl, further⟩

/-- A character that is not white space stays. -/
theorem cons_solid {character : Char} (spaced : Spaced tokens place (character :: rest) others)
    (solid : isBlank character = false) :
    ∃ behind, others = character :: behind ∧
      Spaced tokens (place.advance character) rest behind := by
  rcases spaced.cons_cases with found | ⟨blanks, fill, gap⟩
  · exact found
  · obtain ⟨first, more, other, otherMore, front, -, blank, -⟩ := gap.exists_front
    cases front
    cases solid.symm.trans blank

/-- A character that is not white space was there before. -/
theorem exists_front {character : Char} {behind : List Char}
    (spaced : Spaced tokens place rest (character :: behind))
    (solid : isBlank character = false) : ∃ following, rest = character :: following := by
  cases rest with
  | nil => cases spaced.eq_nil
  | cons first rest =>
      rcases spaced.cons_cases with ⟨left, same, -⟩ | ⟨blanks, fill, gap⟩
      · cases same
        exact ⟨rest, rfl⟩
      · obtain ⟨first, more, other, otherMore, -, front, -, blank⟩ := gap.exists_front
        cases front
        cases solid.symm.trans blank

/-- A character that a token covers stays. -/
theorem cons_covered {character : Char} (spaced : Spaced tokens place (character :: rest) others)
    (covered : ¬ place.IsFree tokens) :
    ∃ behind, others = character :: behind ∧
      Spaced tokens (place.advance character) rest behind := by
  rcases spaced.cons_cases with found | ⟨blanks, fill, gap⟩
  · exact found
  · exact absurd gap.isFree covered

/-- Characters that are not white space stay. -/
theorem append_solid {passed : List Char} (spaced : Spaced tokens place (passed ++ rest) others)
    (solid : ∀ character ∈ passed, isBlank character = false) :
    ∃ behind, others = passed ++ behind ∧ Spaced tokens (place.after passed) rest behind := by
  induction passed generalizing place others with
  | nil => exact ⟨others, rfl, spaced⟩
  | cons character passed inductionHypothesis =>
      obtain ⟨firstSolid, restSolid⟩ := List.forall_mem_cons.mp solid
      obtain ⟨_, rfl, further⟩ := spaced.cons_solid firstSolid
      obtain ⟨behind, rfl, left⟩ := inductionHypothesis further restSolid
      exact ⟨behind, rfl, left⟩

/-- Characters within one token stay. -/
theorem append_covered {passed : List Char} {token : Token}
    (spaced : Spaced tokens place (passed ++ rest) others) (member : token ∈ tokens)
    (starts : token.span.start.byte ≤ place.byte)
    (stops : (place.after passed).byte ≤ token.span.stop.byte) :
    ∃ behind, others = passed ++ behind ∧ Spaced tokens (place.after passed) rest behind := by
  induction passed generalizing place others with
  | nil => exact ⟨others, rfl, spaced⟩
  | cons character passed inductionHypothesis =>
      have later : place.byte < (place.after (character :: passed)).byte :=
        place.byte_lt_after (List.cons_ne_nil _ _)
      have passes : place.byte ≤ (place.advance character).byte := place.byte_le_after [character]
      obtain ⟨_, rfl, further⟩ := spaced.cons_covered fun isFree =>
        isFree token member ⟨starts, later.trans_le stops⟩
      obtain ⟨behind, rfl, left⟩ := inductionHypothesis further (starts.trans passes) stops
      exact ⟨behind, rfl, left⟩

/-- Both texts start with characters of the same kinds, if white space is of none of
these. -/
theorem leadsWith_eq (spaced : Spaced tokens place rest others) {tests : List (Char → Bool)}
    (rejects : ∀ accepts ∈ tests, ∀ character, isBlank character → accepts character = false) :
    leadsWith tests others = leadsWith tests rest := by
  induction tests generalizing place rest others with
  | nil => rfl
  | cons accepts tests inductionHypothesis =>
      obtain ⟨firstRejects, restRejects⟩ := List.forall_mem_cons.mp rejects
      cases rest with
      | nil => rw [spaced.eq_nil]
      | cons character rest =>
          rcases spaced.cons_cases with ⟨behind, rfl, further⟩ | ⟨blanks, fill, gap⟩
          · rw [leadsWith, leadsWith, inductionHypothesis further restRejects]
          · obtain ⟨first, more, other, otherMore, front, rfl, blank, otherBlank⟩ :=
              gap.exists_front
            rw [front]
            simp [leadsWith, firstRejects first blank, firstRejects other otherBlank]

/-- The next characters of both texts are of the same kind, if white space is not of
it. -/
theorem head?_eq (spaced : Spaced tokens place rest others) {accepts : Char → Bool}
    (rejects : ∀ character, isBlank character → accepts character = false) :
    others.head?.any accepts = rest.head?.any accepts := by
  have same := spaced.leadsWith_eq (List.forall_mem_singleton.mpr rejects)
  rwa [← any_head?_eq_leadsWith, ← any_head?_eq_leadsWith] at same

/-- Both texts open a tag, or none does. -/
theorem opensTag_eq (spaced : Spaced tokens place rest others) :
    opensTag others = opensTag rest := by
  rw [opensTag_eq_leadsWith, opensTag_eq_leadsWith]
  refine spaced.leadsWith_eq ?_
  simp only [List.forall_mem_cons, List.not_mem_nil, false_imp_iff, implies_true, and_true]
  exact ⟨isBlank_rejected (by decide +kernel), isBlank_rejected (by decide +kernel)⟩

/-- Both texts close a tag, or none does. -/
theorem closesTag_eq (spaced : Spaced tokens place rest others) :
    closesTag others = closesTag rest := by
  rw [closesTag_eq_leadsWith, closesTag_eq_leadsWith]
  refine spaced.leadsWith_eq ?_
  simp only [List.forall_mem_cons, List.not_mem_nil, false_imp_iff, implies_true, and_true]
  exact ⟨isBlank_rejected (by decide +kernel), isBlank_rejected (by decide +kernel),
    isBlank_rejected (by decide +kernel)⟩

/-- A run of characters without white space is cut off alike. -/
theorem takeWhile_eq (spaced : Spaced tokens place rest others) {accepts : Char → Bool}
    (rejects : ∀ character, isBlank character → accepts character = false) :
    others.takeWhile accepts = rest.takeWhile accepts ∧
      Spaced tokens (place.after (rest.takeWhile accepts)) (rest.dropWhile accepts)
        (others.dropWhile accepts) := by
  have solid : ∀ character ∈ rest.takeWhile accepts, isBlank character = false := by
    intro character member
    by_contra blank
    have accepted := List.mem_takeWhile_imp member
    rw [rejects character (by simpa using blank)] at accepted
    cases accepted
  have split : rest.takeWhile accepts ++ rest.dropWhile accepts = rest :=
    List.takeWhile_append_dropWhile
  obtain ⟨behind, rfl, further⟩ := Spaced.append_solid (split.symm ▸ spaced) solid
  -- What is left starts with a character that is rejected, on both sides.
  have stops : behind.head?.any accepts = false := by
    rw [further.head?_eq rejects]
    cases left : rest.dropWhile accepts with
    | nil => rfl
    | cons character left =>
        have rejected := List.head?_dropWhile_not accepts rest
        rw [left] at rejected
        simpa using rejected
  have all : ∀ character ∈ rest.takeWhile accepts, accepts character :=
    fun character member => List.mem_takeWhile_imp member
  have none : behind.takeWhile accepts = [] ∧ behind.dropWhile accepts = behind := by
    cases behind with
    | nil => exact ⟨rfl, rfl⟩
    | cons character behind =>
        have rejected : ¬ accepts character := by simpa using stops
        exact ⟨List.takeWhile_cons_of_neg rejected, List.dropWhile_cons_of_neg rejected⟩
  rw [List.takeWhile_append_of_pos all, List.dropWhile_append_of_pos all, none.1, none.2]
  exact ⟨List.append_nil _, further⟩

/-- White space can be passed on both sides. -/
theorem dropWhile_isBlank (spaced : Spaced tokens place rest others) :
    Spaced tokens (place.after (rest.takeWhile isBlank)) (rest.dropWhile isBlank)
      (others.dropWhile isBlank) := by
  induction spaced with
  | ended => exact .ended
  | @same place character rest others further inductionHypothesis =>
      by_cases blank : isBlank character
      · simpa only [List.takeWhile_cons_of_pos blank, List.dropWhile_cons_of_pos blank,
          Position.after_cons] using inductionHypothesis
      · simpa only [List.takeWhile_cons_of_neg blank, List.dropWhile_cons_of_neg blank,
          Position.after_nil] using Spaced.same further
  | gap _ _ _ blank fillBlank _ inductionHypothesis =>
      rw [List.takeWhile_append_of_pos blank, List.dropWhile_append_of_pos blank,
        List.dropWhile_append_of_pos fillBlank, Position.after_append]
      exact inductionHypothesis

end Spaced

/-! ### From the exchange to the two texts -/

/-- No token ends before it starts. -/
theorem IsTiling.start_le_stop {source : String} {tokens : List Token}
    (tiling : IsTiling source tokens) {token : Token} (member : token ∈ tokens) :
    token.span.start.byte ≤ token.span.stop.byte := by
  obtain ⟨content, final, rfl, -, starts, stops, spans⟩ := tiling.ended
  rcases List.mem_append.mp member with within | isFinal
  · exact (spans token within).2.le
  · obtain rfl := List.mem_singleton.mp isFinal
    exact (starts.trans stops.symm).le

/-- No token covers a place between the end of a token and the start of the next. -/
theorem IsTiling.isFree_between {source : String} {earlier later : List Token}
    {token following : Token} (tiling : IsTiling source (earlier ++ token :: following :: later))
    {place : Position} (stopped : token.span.stop.byte ≤ place.byte)
    (unstarted : place.byte < following.span.start.byte) :
    place.IsFree (earlier ++ token :: following :: later) := by
  obtain ⟨-, ordered, across⟩ := List.pairwise_append.mp tiling.ordered
  have nextOrdered := (List.pairwise_cons.mp (List.pairwise_cons.mp ordered).2).1
  have forward := tiling.start_le_stop (show token ∈ _ by simp)
  have nextForward := tiling.start_le_stop (show following ∈ _ by simp)
  rintro other member ⟨starts, stops⟩
  simp only [List.mem_append, List.mem_cons] at member
  rcases member with before | rfl | rfl | behind
  · have := across other before token List.mem_cons_self
    omega
  · omega
  · omega
  · have := nextOrdered other behind
    omega

/-- The characters between the end of a token and the start of the next one are white
space. -/
theorem IsTiling.isBlank_between {source : String} {earlier later : List Token}
    {token following : Token} (tiling : IsTiling source (earlier ++ token :: following :: later))
    {passed gap behind : List Char} (whole : source.toList = passed ++ gap ++ behind)
    (stopped : token.span.stop.byte = (Position.after {} passed).byte)
    (unstarted : following.span.start.byte = (Position.after {} (passed ++ gap)).byte) :
    ∀ character ∈ gap, isBlank character := by
  intro character member
  obtain ⟨front, back, rfl⟩ := List.append_of_mem member
  refine tiling.covered (String.ofList (passed ++ front)) character
    (String.ofList (back ++ behind)) ?_ ?_
  · apply String.toList_inj.mp
    simp [whole]
  · have place : (String.ofList (passed ++ front)).utf8ByteSize =
        (Position.after {} (passed ++ front)).byte := by simp [Position.byte_after]
    rw [place]
    refine tiling.isFree_between ?_ ?_
    · rw [stopped, Position.after_append]
      exact Position.byte_le_after _ _
    · rw [unstarted, ← List.append_assoc, Position.after_append {} (passed ++ front)]
      exact Position.byte_lt_after _ (List.cons_ne_nil _ _)

theorem Refills.start_eq {byte : Nat} {first : Token} {rest : List Token} {text refilled : String}
    (refills : Refills byte (first :: rest) text refilled) : first.span.start.byte = byte := by
  cases refills with
  | last starts => exact starts
  | next starts => exact starts

/-- From a token on, the two texts differ in white space where no token is. -/
theorem Refills.spaced {source text refilled : String} {byte : Nat} {tokens later : List Token}
    (tiling : IsTiling source tokens) (refills : Refills byte later text refilled)
    {earlier : List Token} (listed : tokens = earlier ++ later) {passed : List Char}
    (whole : source.toList = passed ++ text.toList)
    (place : byte = (Position.after {} passed).byte) :
    Spaced tokens (Position.after {} passed) text.toList refilled.toList := by
  induction refills generalizing earlier passed with
  | last => exact .refl _ _ _
  | @next byte token following rest inside gap fill text refilled starts stops fills further
      inductionHypothesis =>
      simp only [String.toList_append] at whole ⊢
      -- The source is `passed`, the token, the gap and what is behind it.
      have behind : byte + inside.utf8ByteSize =
          (Position.after {} (passed ++ inside.toList)).byte := by
        simp [place, Position.byte_after]
      have ahead : byte + inside.utf8ByteSize + gap.utf8ByteSize =
          (Position.after {} (passed ++ inside.toList ++ gap.toList)).byte := by
        simp [place, Position.byte_after, Nat.add_assoc]
      have cut : source.toList = passed ++ inside.toList ++ gap.toList ++ text.toList := by
        simp [whole]
      have spaced := inductionHypothesis (listed.trans (List.append_cons _ _ _)) cut ahead
      rw [List.append_assoc, List.append_assoc]
      refine Spaced.prepend ?_
      rw [← Position.after_append]
      rcases fills with ⟨rfl, rfl⟩ | ⟨nonempty, filled, fillBlank⟩
      · simpa using spaced
      · have someGap : gap.toList ≠ [] := by simpa using nonempty
        have stopped := stops.trans behind
        have unstarted := further.start_eq.trans ahead
        subst listed
        rw [Position.after_append] at spaced
        refine .gap (tiling.isFree_between stopped.le ?_) someGap (by simpa using filled)
          (tiling.isBlank_between cut stopped unstarted) fillBlank spaced
        rw [unstarted, Position.after_append {} (passed ++ inside.toList)]
        exact Position.byte_lt_after _ someGap

/-- A source with other white space between its tokens differs from it in white space
where no token is. -/
theorem IsRespaced.spaced {source respaced : String} {tokens : List Token}
    (tiling : IsTiling source tokens) (isRespaced : IsRespaced source tokens respaced) :
    Spaced tokens {} source.toList respaced.toList := by
  obtain ⟨before, text, refilled, whole, rfl, refills⟩ := isRespaced
  have cut : source.toList = before.toList ++ text.toList := by
    rw [whole, String.toList_append]
  have spaced := refills.spaced tiling (List.nil_append _).symm cut
    (Position.byte_after_toList before).symm
  rw [cut, String.toList_append]
  exact spaced.prepend

end MarkupTemplate
