import Mathlib.Data.List.Basic
import Mathlib.Data.List.TakeWhile
import MarkupTemplate.Token.Spelling

/-!
# Quotes and white space in code

A place in code lies outside quotes, inside them, or behind a backslash that
hides the next character. White space neither opens quotes nor closes them, and
it can be dropped at both ends of code.
-/

namespace MarkupTemplate

open Spelling Text

/-- Where a place in code lies with respect to quotes. -/
inductive Quoting where
  | outside
  | inside (mark : Char)
  /-- Inside quotes, directly behind a backslash. -/
  | escaped (mark : Char)
deriving DecidableEq, Repr

namespace Quoting

/-- Where the place behind a character lies. Inside quotes a backslash hides the
character after it, and only the mark that opened a quote closes it. -/
def next : Quoting → Char → Quoting
  | outside, character => if isQuote character then inside character else outside
  | inside mark, character =>
      if character = '\\' then escaped mark
      else if character = mark then outside
      else inside mark
  | escaped mark, _ => inside mark

/-- Where the place behind a run of characters lies. -/
def after (quoting : Quoting) (code : List Char) : Quoting :=
  code.foldl next quoting

/-- The place at which a quote may be open. -/
def ofQuote : Option Char → Quoting
  | none => outside
  | some mark => inside mark

@[simp] theorem after_nil (quoting : Quoting) : quoting.after [] = quoting := rfl

@[simp] theorem after_cons (quoting : Quoting) (character : Char) (code : List Char) :
    quoting.after (character :: code) = (quoting.next character).after code := rfl

@[simp] theorem after_append (quoting : Quoting) (first second : List Char) :
    quoting.after (first ++ second) = (quoting.after first).after second :=
  List.foldl_append

/-- Outside quotes, the next place is given by the quote that a character opens. -/
theorem next_outside (character : Char) :
    outside.next character = ofQuote (quoteAfter none character) := by
  simp only [next, quoteAfter]
  split <;> rfl

/-- Inside quotes, a character other than a backslash may close them. -/
theorem next_inside {mark character : Char} (plain : character ≠ '\\') :
    (inside mark).next character = ofQuote (quoteAfter (some mark) character) := by
  simp only [next, if_neg plain, quoteAfter]
  split <;> rfl

/-- A backslash inside quotes hides the character behind it. -/
theorem next_inside_backslash (mark : Char) : (inside mark).next '\\' = .escaped mark := by
  simp [next]

/-- The mark of a quote that is open. -/
def mark? : Quoting → Option Char
  | outside => none
  | inside mark => some mark
  | escaped mark => some mark

/-- Whether only a quote can be open. -/
def IsProper (quoting : Quoting) : Prop := ∀ mark ∈ quoting.mark?, isQuote mark

theorem IsProper.next {quoting : Quoting} (proper : quoting.IsProper) (character : Char) :
    (quoting.next character).IsProper := by
  unfold IsProper at proper ⊢
  cases quoting with
  | outside =>
      simp only [Quoting.next]
      split <;> simp_all [mark?]
  | inside mark =>
      simp only [Quoting.next]
      split
      · simpa [mark?] using proper
      · split <;> simp_all [mark?]
  | escaped mark => simpa [Quoting.next, mark?] using proper

/-- Reading code from outside quotes opens only quotes. -/
theorem isProper_after_outside (code : List Char) : (outside.after code).IsProper := by
  have general (quoting : Quoting) (proper : quoting.IsProper) :
      (quoting.after code).IsProper := by
    induction code generalizing quoting with
    | nil => exact proper
    | cons character code inductionHypothesis =>
        exact inductionHypothesis _ (proper.next character)
  exact general _ (by simp [IsProper, mark?])

end Quoting

/-! ### Blanks -/

/-- A single space is white space. -/
theorem isBlank_of_mem_space : ∀ character ∈ [' '], isBlank character = true := by
  rw [List.forall_mem_singleton]
  decide

/-- White space is none of the characters that code is divided by. -/
theorem isBlank_ne {character other : Char} (blank : isBlank character = true)
    (solid : isBlank other = false) : character ≠ other := by
  rintro rfl
  simp [blank] at solid

/-- A code point of a table lies in one of its ranges. -/
theorem exists_range_of_inRanges {ranges : List (Nat × Nat)} {code : Nat}
    (within : inRanges ranges code = true) :
    ∃ range ∈ ranges, ∃ offset < range.2 + 1 - range.1, code = range.1 + offset := by
  fun_induction inRanges ranges code with
  | case1 => simp at within
  | case2 => simp at within
  | case3 first last ranges code notBefore notBehind =>
      exact ⟨(first, last), by simp, code - first, by grind, by grind⟩
  | case4 first last ranges code notBefore behind inductionHypothesis =>
      obtain ⟨range, member, offset⟩ := inductionHypothesis within
      exact ⟨range, by simp [member], offset⟩

/-- White space is not accepted if none of the characters in the table is. -/
theorem isBlank_rejected {accepts : Char → Bool}
    (table : ∀ range ∈ blankRanges, ∀ offset < range.2 + 1 - range.1,
      accepts (Char.ofNat (range.1 + offset)) = false) (character : Char)
    (blank : isBlank character) : accepts character = false := by
  obtain ⟨range, member, offset, bound, code⟩ := exists_range_of_inRanges blank
  rw [← Char.ofNat_toNat character, code]
  exact table range member offset bound

/-- White space is not part of the name of a tag. -/
theorem isTagNameChar_of_isBlank (character : Char) (blank : isBlank character) :
    isTagNameChar character = false :=
  isBlank_rejected (by decide +kernel) character blank

/-- White space is not part of the name of an attribute. -/
theorem isAttrNameChar_of_isBlank (character : Char) (blank : isBlank character) :
    isAttrNameChar character = false :=
  isBlank_rejected (by decide +kernel) character blank

/-- White space does not continue a word. -/
theorem isWordChar_of_isBlank {character : Char} (blank : isBlank character = true) :
    isWordChar character = false :=
  isBlank_rejected (by decide +kernel) character blank

/-- White space does not open quotes. -/
theorem isQuote_of_isBlank {character : Char} (blank : isBlank character = true) :
    isQuote character = false :=
  isBlank_rejected (by decide +kernel) character blank

/-- White space starts no attribute name. -/
theorem isBlank_of_attrNameStart {character : Char} (starts : isAttrNameStart character) :
    isBlank character = false := by
  by_contra blank
  have rejected : isAttrNameStart character = false :=
    isBlank_rejected (by decide +kernel) character (by simpa using blank)
  rw [starts] at rejected
  cases rejected

namespace Quoting

/-- White space outside quotes stays outside. -/
theorem after_blank {blanks : List Char} (blank : ∀ character ∈ blanks, isBlank character) :
    outside.after blanks = outside := by
  induction blanks with
  | nil => rfl
  | cons character blanks inductionHypothesis =>
      rw [List.forall_mem_cons] at blank
      simp [next, isQuote_of_isBlank blank.1, inductionHypothesis blank.2]

/-- White space does not lead out of quotes. -/
theorem eq_outside_of_after_blank {quoting : Quoting} {blanks : List Char}
    (proper : quoting.IsProper) (blank : ∀ character ∈ blanks, isBlank character)
    (leaves : quoting.after blanks = outside) : quoting = outside := by
  induction blanks generalizing quoting with
  | nil => exact leaves
  | cons character blanks inductionHypothesis =>
      rw [List.forall_mem_cons] at blank
      have left := inductionHypothesis (proper.next character) blank.2 leaves
      cases quoting with
      | outside => rfl
      | inside mark =>
          have isMark : isQuote mark := proper mark rfl
          have differs : character ≠ mark := by
            rintro rfl
            simp [isQuote_of_isBlank blank.1] at isMark
          by_cases escape : character = '\\' <;> simp [next, escape, differs] at left
      | escaped mark => simp [next] at left

end Quoting

/-- Whether code does not begin with white space. -/
def LeadsSolid (code : List Char) : Prop := ∀ character ∈ code.head?, isBlank character = false

/-- Whether code does not end in white space. -/
def EndsSolid (code : List Char) : Prop := ∀ character ∈ code.getLast?, isBlank character = false

theorem EndsSolid.append {front back : List Char} (ends : EndsSolid back) (nonempty : back ≠ []) :
    EndsSolid (front ++ back) := by
  intro character member
  rw [List.getLast?_append_of_ne_nil front nonempty] at member
  exact ends character member

/-- What a predicate accepts does not end in white space if it accepts none. -/
theorem endsSolid_takeWhile {accepts : Char → Bool}
    (rejects : ∀ character, isBlank character → accepts character = false)
    (characters : List Char) : EndsSolid (characters.takeWhile accepts) := by
  intro character member
  by_contra blank
  have rejected := rejects character (by simpa using blank)
  rw [List.mem_takeWhile_imp (List.mem_of_mem_getLast? member)] at rejected
  cases rejected

/-- Whether there are characters that neither begin with white space nor end in it. -/
structure IsSolid (characters : List Char) : Prop where
  begins : ∃ first ∈ characters.head?, isBlank first = false
  ends : EndsSolid characters

namespace IsSolid

variable {characters : List Char}

theorem of_ends {first last : Char} (begins : characters.head? = some first)
    (ends : characters.getLast? = some last) (solidFirst : isBlank first = false)
    (solidLast : isBlank last = false) : IsSolid characters := by
  refine ⟨⟨first, begins, solidFirst⟩, fun character member => ?_⟩
  cases ends.symm.trans member
  exact solidLast

/-- What a predicate accepts is solid if it begins so. -/
theorem takeWhile {accepts : Char → Bool} {first : Char} {rest : List Char}
    (rejects : ∀ character, isBlank character → accepts character = false)
    (accepted : accepts first) (solid : isBlank first = false) :
    IsSolid ((first :: rest).takeWhile accepts) where
  begins := ⟨first, by simp [accepted], solid⟩
  ends := endsSolid_takeWhile rejects _

theorem nonempty (solid : IsSolid characters) : characters ≠ [] := by
  rintro rfl
  obtain ⟨first, member, -⟩ := solid.begins
  cases member

theorem begins_append (solid : IsSolid characters) (more : List Char) :
    ∃ first ∈ (characters ++ more).head?, isBlank first = false := by
  obtain ⟨first, member, isSolid⟩ := solid.begins
  exact ⟨first, by simp [Option.mem_def.mp member], isSolid⟩

theorem append {more : List Char} (solid : IsSolid characters) (further : IsSolid more) :
    IsSolid (characters ++ more) where
  begins := solid.begins_append more
  ends := further.ends.append further.nonempty

end IsSolid

/-- Trimming at the start takes white space only, and all of it. -/
theorem exists_trimStart (code : List Char) :
    ∃ blanks, code = blanks ++ trimStart code ∧ (∀ character ∈ blanks, isBlank character) ∧
      LeadsSolid (trimStart code) := by
  refine ⟨code.takeWhile isBlank, List.takeWhile_append_dropWhile.symm, ?_, ?_⟩
  · exact fun character member => List.mem_takeWhile_imp member
  · intro character first
    have kept := List.head?_dropWhile_not isBlank code
    rw [trimStart] at first
    simpa [Option.mem_def.mp first] using kept

/-- Trimming at the end takes white space only, and all of it. -/
theorem exists_trimEnd (code : List Char) :
    ∃ blanks, code = trimEnd code ++ blanks ∧ (∀ character ∈ blanks, isBlank character) ∧
      EndsSolid (trimEnd code) := by
  obtain ⟨blanks, split, blank, solid⟩ := exists_trimStart code.reverse
  refine ⟨blanks.reverse, ?_, by simpa using blank, ?_⟩
  · simpa [trimStart, trimEnd] using congrArg List.reverse split
  · simpa [EndsSolid, LeadsSolid, trimStart, trimEnd] using solid

/-- Trimming at the end keeps how code begins. -/
theorem LeadsSolid.trimEnd {code : List Char} (solid : LeadsSolid code) :
    LeadsSolid (trimEnd code) := by
  obtain ⟨blanks, split, -, -⟩ := exists_trimEnd code
  intro character first
  refine solid character ?_
  rw [split, List.head?_append, Option.mem_def.mp first]
  rfl

/-- Trimming at the start undoes white space in front. -/
theorem trimStart_append {blanks code : List Char}
    (blank : ∀ character ∈ blanks, isBlank character) (solid : LeadsSolid code) :
    trimStart (blanks ++ code) = code := by
  rw [trimStart, List.dropWhile_append_of_pos blank]
  cases code with
  | nil => rfl
  | cons first rest => simp [solid first rfl]

/-- Trimming at the end undoes white space behind. -/
theorem trimEnd_append {code blanks : List Char}
    (blank : ∀ character ∈ blanks, isBlank character) (solid : EndsSolid code) :
    trimEnd (code ++ blanks) = code := by
  have reversed : trimStart (blanks.reverse ++ code.reverse) = code.reverse :=
    trimStart_append (by simpa using blank) (by simpa [EndsSolid, LeadsSolid] using solid)
  simpa [trimStart, trimEnd] using congrArg List.reverse reversed

/-- Trimming undoes white space on both sides. -/
theorem trim_surrounded {front code back : List Char}
    (frontBlank : ∀ character ∈ front, isBlank character)
    (backBlank : ∀ character ∈ back, isBlank character)
    (leads : LeadsSolid code) (ends : EndsSolid code) : trim (front ++ (code ++ back)) = code := by
  cases code with
  | nil =>
      have blank : ∀ character ∈ front ++ back, isBlank character := by
        simpa [or_imp, forall_and] using And.intro frontBlank backBlank
      rw [List.nil_append, trim, trimStart, List.dropWhile_eq_nil_iff.mpr blank]
      rfl
  | cons first rest =>
      rw [trim, trimStart_append frontBlank (by simpa [LeadsSolid] using leads),
        trimEnd_append backBlank ends]

end MarkupTemplate
