import MarkupTemplate.Proofs.Canonical.Quoting

/-!
# Braces and markup in code

Two things about a piece of code matter to the expression it stands in: how many
braces are open behind it, and whether markup starts at a `<` within it. Both
are stated on the code alone, from left to right, and count only outside quotes.
-/

namespace MarkupTemplate

open Spelling Text

/-! ### Braces -/

namespace Code

/-- Reads one character of code, given the quotes and the number of braces that
are open. Braces count outside quotes, and the outermost one is not closed. -/
def read : Quoting × Nat → Char → Option (Quoting × Nat)
  | (.outside, depth), character =>
      if character = '{' then some (.outside, depth + 1)
      else if character = '}' then
        if depth ≤ 1 then none else some (.outside, depth - 1)
      else some (Quoting.outside.next character, depth)
  | (quoting, depth), character => some (quoting.next character, depth)

/-- Reads code from a place in it. -/
def after (place : Quoting × Nat) (code : List Char) : Option (Quoting × Nat) :=
  code.foldlM read place

/-- The number of braces that are open behind a piece of code. A piece may not
end inside quotes. -/
def depthAfter (depth : Nat) (code : List Char) : Option Nat :=
  match after (.outside, depth) code with
  | some (.outside, reached) => some reached
  | _ => none

@[simp] theorem after_nil (place : Quoting × Nat) : after place [] = some place := rfl

@[simp] theorem after_cons (place : Quoting × Nat) (character : Char) (code : List Char) :
    after place (character :: code) = (read place character).bind (after · code) := rfl

theorem after_append (place : Quoting × Nat) (first second : List Char) :
    after place (first ++ second) = (after place first).bind (after · second) :=
  List.foldlM_append

theorem depthAfter_eq_some_iff {depth reached : Nat} {code : List Char} :
    depthAfter depth code = some reached ↔
      after (.outside, depth) code = some (.outside, reached) := by
  unfold depthAfter
  split
  · simp [*]
  · rename_i differs
    simp only [reduceCtorEq, false_iff]
    exact differs reached

/-- Reading a character keeps track of quotes. -/
theorem fst_of_read {place reached : Quoting × Nat} {character : Char}
    (reads : read place character = some reached) : reached.1 = place.1.next character := by
  unfold read at reads
  split at reads
  · split at reads
    · cases reads
      simp [Quoting.next, isQuote, *]
    · split at reads
      · split at reads
        · cases reads
        · cases reads
          simp [Quoting.next, isQuote, *]
      · cases reads
        rfl
  · cases reads
    rfl

/-- Reading code keeps track of quotes. -/
theorem fst_of_after {place reached : Quoting × Nat} {code : List Char}
    (reads : after place code = some reached) : reached.1 = place.1.after code := by
  induction code generalizing place with
  | nil => simp_all
  | cons character code inductionHypothesis =>
      rw [after_cons, Option.bind_eq_some_iff] at reads
      obtain ⟨middle, first, later⟩ := reads
      rw [inductionHypothesis later, fst_of_read first, Quoting.after_cons]

/-- Reading a character does not close the outermost brace. -/
theorem pos_of_read {place reached : Quoting × Nat} {character : Char}
    (reads : read place character = some reached) (positive : 1 ≤ place.2) : 1 ≤ reached.2 := by
  unfold read at reads
  split at reads
  · split at reads
    · cases reads
      exact Nat.le_add_left 1 _
    · split at reads
      · split at reads
        · cases reads
        · cases reads
          simp only
          omega
      · cases reads
        exact positive
  · cases reads
    exact positive

/-- Reading code does not close the outermost brace. -/
theorem pos_of_after {place reached : Quoting × Nat} {code : List Char}
    (reads : after place code = some reached) (positive : 1 ≤ place.2) : 1 ≤ reached.2 := by
  induction code generalizing place with
  | nil =>
      cases reads
      exact positive
  | cons character code inductionHypothesis =>
      rw [after_cons, Option.bind_eq_some_iff] at reads
      obtain ⟨middle, first, later⟩ := reads
      exact inductionHypothesis later (pos_of_read first positive)

/-- A character that is no brace leaves the braces as they are. -/
theorem read_plain {quoting : Quoting} {depth : Nat} {character : Char}
    (notOpening : character ≠ '{') (notClosing : character ≠ '}') :
    read (quoting, depth) character = some (quoting.next character, depth) := by
  cases quoting <;> simp [read, notOpening, notClosing]

/-- Inside quotes, a backslash hides the character behind it. -/
theorem read_inside_backslash (mark : Char) (depth : Nat) :
    read (.inside mark, depth) '\\' = some (.escaped mark, depth) := by
  simp [read, Quoting.next]

/-- A hidden character stays inside quotes. -/
theorem read_escaped (mark : Char) (depth : Nat) (character : Char) :
    read (.escaped mark, depth) character = some (.inside mark, depth) := rfl

/-- Inside quotes, braces do not count. -/
theorem read_inside {character : Char} (mark : Char) (depth : Nat) (plain : character ≠ '\\') :
    read (.inside mark, depth) character =
      some (.ofQuote (quoteAfter (some mark) character), depth) := by
  simp [read, Quoting.next_inside plain]

/-- White space leaves the braces as they are. -/
theorem after_blank {quoting : Quoting} {depth : Nat} {blanks : List Char}
    (blank : ∀ character ∈ blanks, isBlank character) :
    after (quoting, depth) blanks = some (quoting.after blanks, depth) := by
  induction blanks generalizing quoting with
  | nil => rfl
  | cons character blanks inductionHypothesis =>
      rw [List.forall_mem_cons] at blank
      have notOpening : character ≠ '{' := isBlank_ne blank.1 (by decide)
      have notClosing : character ≠ '}' := isBlank_ne blank.1 (by decide)
      simp [read_plain notOpening notClosing, inductionHypothesis blank.2]

/-- White space around a piece of code does not matter to its braces. -/
theorem depthAfter_surrounded {depth : Nat} {front code back : List Char}
    (frontBlank : ∀ character ∈ front, isBlank character)
    (backBlank : ∀ character ∈ back, isBlank character) :
    depthAfter depth (front ++ code ++ back) = depthAfter depth code := by
  refine Option.ext fun reached => ?_
  rw [depthAfter_eq_some_iff, depthAfter_eq_some_iff, after_append, after_append,
    after_blank frontBlank, Quoting.after_blank frontBlank, Option.bind_some]
  constructor
  · intro reads
    obtain ⟨⟨quoting, middle⟩, first, later⟩ := Option.bind_eq_some_iff.mp reads
    rw [after_blank backBlank, Option.some.injEq, Prod.mk.injEq] at later
    have track : quoting = Quoting.outside.after code := fst_of_after first
    have proper : quoting.IsProper := track ▸ Quoting.isProper_after_outside code
    rw [first, Quoting.eq_outside_of_after_blank proper backBlank later.1, later.2]
  · intro reads
    rw [reads, Option.bind_some, after_blank backBlank, Quoting.after_blank backBlank]

/-! ### Markup -/

/-- What expects a value and does not end in a word does not matter to what a `<` behind
further code means. -/
theorem startsMarkup_append {code earlier : List Char}
    (noWord : earlier.takeWhile isWordChar = []) (starts : startsMarkup earlier) :
    startsMarkup (code ++ earlier) = startsMarkup code := by
  unfold startsMarkup at starts ⊢
  rw [List.dropWhile_append]
  cases shown : code.dropWhile isBlank with
  | nil => exact starts
  | cons last before =>
      have sameWord : ((last :: before) ++ earlier).takeWhile isWordChar =
          (last :: before).takeWhile isWordChar := by
        rw [List.takeWhile_append, noWord]
        split
        · rename_i whole
          rw [List.append_nil, (List.takeWhile_prefix isWordChar).eq_of_length whole]
        · rfl
      simp only [List.isEmpty_cons, Bool.false_eq_true, if_false, List.cons_append] at sameWord ⊢
      rw [sameWord]

/-- White space in front of code does not matter to what a `<` behind it means. -/
theorem startsMarkup_append_blank {code blanks : List Char}
    (blank : ∀ character ∈ blanks, isBlank character) :
    startsMarkup (code ++ blanks) = startsMarkup code := by
  refine startsMarkup_append ?_ ?_
  · cases blanks with
    | nil => rfl
    | cons first rest => simp [isWordChar_of_isBlank (blank first (by simp))]
  · rw [startsMarkup, List.dropWhile_eq_nil_iff.mpr blank]

/-- Whether markup starts within code: at a `<` before a letter, outside quotes,
after code that expects a value. The letter may be the first of the characters
that lie `ahead` of the code. -/
def EntersMarkup (code ahead : List Char) : Prop :=
  ∃ before mark behind, code = before ++ mark :: behind ∧
    Quoting.outside.after before = .outside ∧ opensTag (mark :: (behind ++ ahead)) ∧
    startsMarkup before.reverse

theorem not_entersMarkup_nil (ahead : List Char) : ¬ EntersMarkup [] ahead := by
  rintro ⟨before, mark, behind, split, -⟩
  simp at split

/-- Markup starts in code only if there is a `<` in it. -/
theorem EntersMarkup.mem {code ahead : List Char} (enters : EntersMarkup code ahead) :
    '<' ∈ code := by
  obtain ⟨before, mark, behind, rfl, -, opens, -⟩ := enters
  unfold opensTag at opens
  split at opens <;> simp_all

/-- A tag that is opened stays so with more characters behind. -/
theorem opensTag_append {code : List Char} (opens : opensTag code) (more : List Char) :
    opensTag (code ++ more) := by
  unfold opensTag at opens
  split at opens
  · simpa [opensTag] using opens
  · cases opens

/-- Markup starts in longer code at its last character or before it. -/
theorem entersMarkup_snoc {code ahead : List Char} {character : Char} :
    EntersMarkup (code ++ [character]) ahead ↔
      EntersMarkup code (character :: ahead) ∨
        (Quoting.outside.after code = .outside ∧ opensTag (character :: ahead) ∧
          startsMarkup code.reverse) := by
  constructor
  · rintro ⟨before, mark, behind, split, outside, opens, starts⟩
    rcases List.eq_nil_or_concat behind with rfl | ⟨behind, last, rfl⟩
    · obtain ⟨rfl, same⟩ := List.append_inj' split rfl
      cases same
      exact .inr ⟨outside, opens, starts⟩
    · rw [List.concat_eq_append, ← List.cons_append, ← List.append_assoc] at split
      obtain ⟨rfl, same⟩ := List.append_inj' split rfl
      cases same
      exact .inl ⟨before, mark, behind, rfl, outside, by simpa using opens, starts⟩
  · rintro (⟨before, mark, behind, rfl, outside, opens, starts⟩ | ⟨outside, opens, starts⟩)
    · exact ⟨before, mark, behind ++ [character], by simp, outside, by simpa using opens, starts⟩
    · exact ⟨code, character, [], rfl, outside, opens, starts⟩

/-- Markup that starts in code still does so with white space in front of the
code and anything behind it. -/
theorem EntersMarkup.surrounded {front code back ahead : List Char}
    (blank : ∀ character ∈ front, isBlank character) (enters : EntersMarkup code []) :
    EntersMarkup (front ++ code ++ back) ahead := by
  obtain ⟨before, mark, behind, rfl, outside, opens, starts⟩ := enters
  refine ⟨front ++ before, mark, behind ++ back, by simp, ?_, ?_, ?_⟩
  · rw [Quoting.after_append, Quoting.after_blank blank, outside]
  · simpa using opensTag_append opens (back ++ ahead)
  · rwa [List.reverse_append, startsMarkup_append_blank (by simpa using blank)]

/-- What lies ahead of code starts no markup in it unless it begins with a letter. -/
theorem EntersMarkup.of_ahead {code ahead : List Char}
    (apart : ∀ character ∈ ahead.head?, character.isAlpha = false)
    (enters : EntersMarkup code ahead) : EntersMarkup code [] := by
  obtain ⟨before, mark, behind, rfl, outside, opens, starts⟩ := enters
  refine ⟨before, mark, behind, rfl, outside, ?_, starts⟩
  cases behind with
  | nil =>
      cases ahead with
      | nil => exact opens
      | cons first rest =>
          have notLetter := apart first rfl
          simp only [List.nil_append] at opens
          unfold opensTag at opens
          split at opens <;> simp_all
  | cons letter behind =>
      unfold opensTag at opens ⊢
      split at opens <;> simp_all

end Code

end MarkupTemplate
