import MarkupTemplate.Proofs.Canonical.Quoting

/-!
# Declarations

The code of a declaration ends at the first `%` and closing brace outside
quotes. Code in which there is none is read back from between the delimiters.
-/

namespace MarkupTemplate

open Spelling Text

namespace Code

/-- Whether a declaration would be closed within code: by a `%}` outside quotes,
when reading starts at the given place. -/
def ClosesFrom (quoting : Quoting) (code : List Char) : Prop :=
  ∃ before behind, code = before ++ '%' :: '}' :: behind ∧ quoting.after before = .outside

theorem ClosesFrom.cons {quoting : Quoting} {character : Char} {code : List Char}
    (closes : ClosesFrom (quoting.next character) code) :
    ClosesFrom quoting (character :: code) := by
  obtain ⟨before, behind, rfl, outside⟩ := closes
  exact ⟨character :: before, behind, rfl, outside⟩

/-- A declaration is closed at the first character or later. -/
theorem closesFrom_cons_iff {quoting : Quoting} {character : Char} {code : List Char} :
    ClosesFrom quoting (character :: code) ↔
      (quoting = .outside ∧ character = '%' ∧ code.head? = some '}') ∨
        ClosesFrom (quoting.next character) code := by
  constructor
  · rintro ⟨before, behind, split, outside⟩
    cases before with
    | nil =>
        cases split
        exact .inl ⟨outside, rfl, rfl⟩
    | cons first before =>
        cases split
        exact .inr ⟨before, behind, rfl, outside⟩
  · rintro (⟨rfl, rfl, next⟩ | closes)
    · obtain ⟨behind, rfl⟩ := List.head?_eq_some_iff.mp next
      exact ⟨[], behind, rfl, rfl⟩
    · exact closes.cons

theorem not_closesFrom_nil (quoting : Quoting) : ¬ ClosesFrom quoting [] := by
  rintro ⟨before, behind, split, -⟩
  simp at split

/-- The code of a declaration: trimmed, closed nowhere, and not ending inside
quotes. -/
structure IsDeclaration (code : List Char) : Prop where
  leads : LeadsSolid code
  ends : EndsSolid code
  unclosed : ¬ ClosesFrom .outside code
  outside : Quoting.outside.after code = .outside

/-- Inside quotes, no declaration is closed by the next character. -/
theorem closesFrom_inside_iff {mark character : Char} {code : List Char} :
    ClosesFrom (.inside mark) (character :: code) ↔
      ClosesFrom ((Quoting.inside mark).next character) code := by
  simp [closesFrom_cons_iff]

/-- Directly behind a backslash, no declaration is closed by the next character. -/
theorem closesFrom_escaped_iff {mark character : Char} {code : List Char} :
    ClosesFrom (.escaped mark) (character :: code) ↔ ClosesFrom (.inside mark) code := by
  simp [closesFrom_cons_iff, Quoting.next]

/-- A percent sign is no quote. -/
theorem next_inside_percent {mark : Char} (isMark : isQuote mark) :
    (Quoting.inside mark).next '%' = .inside mark := by
  have differs : '%' ≠ mark := by
    rintro rfl
    exact absurd isMark (by decide)
  simp [Quoting.next, differs]

/-- Reading one more character keeps what a cut found behind it. -/
theorem cut_cons {quoting : Quoting} {character : Char} {passed source body rest : List Char}
    (passes : quoting = .outside → character = '%' → source.head? ≠ some '}')
    (cut : ∃ code, source = code ++ '%' :: '}' :: rest ∧
      body = (character :: passed).reverse ++ code ∧
      (quoting.next character).after code = .outside ∧
      ¬ ClosesFrom (quoting.next character) code) :
    ∃ code, character :: source = code ++ '%' :: '}' :: rest ∧ body = passed.reverse ++ code ∧
      quoting.after code = .outside ∧ ¬ ClosesFrom quoting code := by
  obtain ⟨code, rfl, rfl, outside, unclosed⟩ := cut
  refine ⟨character :: code, rfl, by simp, outside, ?_⟩
  rw [closesFrom_cons_iff]
  rintro (⟨isOutside, isPercent, next⟩ | closes)
  · exact passes isOutside isPercent (by simp [next])
  · exact unclosed closes

/-- A character that hides none behind it leads on as the quote after it says. -/
theorem next_ofQuote {character : Char} (quote : Option Char) (plain : character ≠ '\\') :
    (Quoting.ofQuote quote).next character = .ofQuote (quoteAfter quote character) := by
  cases quote with
  | none => exact Quoting.next_outside character
  | some mark => exact Quoting.next_inside plain

/-- A cut leaves the code up to the `%}` that closes it. -/
theorem of_cutDeclaration {passed source body rest : List Char} {quote : Option Char}
    (proper : (Quoting.ofQuote quote).IsProper)
    (cut : cutDeclaration passed quote source = some (body, rest)) :
    ∃ code, source = code ++ '%' :: '}' :: rest ∧ body = passed.reverse ++ code ∧
      (Quoting.ofQuote quote).after code = .outside ∧
      ¬ ClosesFrom (Quoting.ofQuote quote) code := by
  fun_induction cutDeclaration passed quote source with
  | case1 => cases cut
  | case2 passed escaped source mark inductionHypothesis =>
      refine cut_cons (by simp [Quoting.ofQuote]) ?_
      rw [Quoting.ofQuote, Quoting.next_inside_backslash]
      exact cut_cons (by simp) (inductionHypothesis proper cut)
  | case3 passed escaped source inductionHypothesis =>
      exact cut_cons (by simp) (inductionHypothesis proper cut)
  | case4 passed source mark inductionHypothesis =>
      refine cut_cons (by simp [Quoting.ofQuote]) ?_
      rw [Quoting.ofQuote, next_inside_percent (proper mark rfl)]
      exact inductionHypothesis proper cut
  | case5 passed source =>
      cases cut
      exact ⟨[], rfl, by simp, rfl, not_closesFrom_nil _⟩
  | case6 passed quote character source notEscape notDelimiter inductionHypothesis =>
      have nonempty : source ≠ [] := by
        rintro rfl
        simp [cutDeclaration] at cut
      have track := next_ofQuote quote fun isEscape => by
        obtain ⟨escaped, behind, split⟩ := List.exists_cons_of_ne_nil nonempty
        exact notEscape escaped behind isEscape split
      refine cut_cons (fun _ isPercent next => ?_) ?_
      · obtain ⟨behind, split⟩ := List.head?_eq_some_iff.mp next
        exact notDelimiter behind isPercent split
      · rw [track]
        exact inductionHypothesis (track ▸ proper.next character) cut

/-- Code that a declaration is not closed in is cut at the `%}` behind it. -/
theorem cutDeclaration_of_unclosed {passed code rest : List Char} {quote : Option Char}
    (proper : (Quoting.ofQuote quote).IsProper)
    (outside : (Quoting.ofQuote quote).after code = .outside)
    (unclosed : ¬ ClosesFrom (Quoting.ofQuote quote) code) :
    cutDeclaration passed quote (code ++ '%' :: '}' :: rest) =
      some (passed.reverse ++ code, rest) := by
  generalize split : code ++ '%' :: '}' :: rest = source
  fun_induction cutDeclaration passed quote source generalizing code with
  | case1 => simp at split
  | case2 passed escaped source mark inductionHypothesis =>
      obtain ⟨-, other⟩ | ⟨code, rfl, tail⟩ := List.append_eq_cons_iff.mp split
      · cases other
      rw [Quoting.ofQuote, Quoting.after_cons, Quoting.next_inside_backslash] at outside
      rw [Quoting.ofQuote, closesFrom_inside_iff, Quoting.next_inside_backslash] at unclosed
      obtain ⟨rfl, -⟩ | ⟨code, rfl, rfl⟩ := List.append_eq_cons_iff.mp tail.symm
      · cases outside
      rw [closesFrom_escaped_iff] at unclosed
      simpa using inductionHypothesis proper outside unclosed rfl
  | case3 passed escaped source inductionHypothesis =>
      obtain ⟨-, other⟩ | ⟨code, rfl, tail⟩ := List.append_eq_cons_iff.mp split
      · cases other
      have later : ¬ ClosesFrom (Quoting.ofQuote none) code := fun closes => unclosed (.cons closes)
      simpa using @inductionHypothesis code proper outside later tail.symm
  | case4 passed source mark inductionHypothesis =>
      obtain ⟨rfl, -⟩ | ⟨code, rfl, tail⟩ := List.append_eq_cons_iff.mp split
      · cases outside
      have same := next_inside_percent (proper mark rfl)
      rw [Quoting.ofQuote, closesFrom_inside_iff, same] at unclosed
      rw [Quoting.ofQuote, Quoting.after_cons, same] at outside
      simpa using inductionHypothesis proper outside unclosed tail.symm
  | case5 passed source =>
      obtain ⟨rfl, whole⟩ | ⟨code, rfl, tail⟩ := List.append_eq_cons_iff.mp split
      · cases whole
        simp
      obtain ⟨-, other⟩ | ⟨code, rfl, -⟩ := List.append_eq_cons_iff.mp tail.symm
      · cases other
      · exact absurd ⟨[], code, rfl, rfl⟩ unclosed
  | case6 passed quote character source notEscape notDelimiter inductionHypothesis =>
      obtain ⟨-, whole⟩ | ⟨code, rfl, rfl⟩ := List.append_eq_cons_iff.mp split
      · cases whole
        exact (notDelimiter rest rfl rfl).elim
      have nonempty : code ++ '%' :: '}' :: rest ≠ [] := by simp
      have track := next_ofQuote quote fun isEscape => by
        obtain ⟨escaped, behind, ahead⟩ := List.exists_cons_of_ne_nil nonempty
        exact notEscape escaped behind isEscape ahead
      have later : ¬ ClosesFrom (.ofQuote (quoteAfter quote character)) code :=
        track ▸ fun closes => unclosed closes.cons
      rw [Quoting.after_cons, track] at outside
      simpa using inductionHypothesis (track ▸ proper.next character) outside later rfl

/-- The trimmed code of a cut is that of a declaration. -/
theorem isDeclaration_of_cut {source body rest : List Char}
    (cut : cutDeclaration [] none source = some (body, rest)) :
    source = body ++ '%' :: '}' :: rest ∧ IsDeclaration (trim body) := by
  obtain ⟨code, rfl, same, outside, unclosed⟩ :=
    of_cutDeclaration (by simp [Quoting.IsProper, Quoting.ofQuote, Quoting.mark?]) cut
  obtain rfl : body = code := same
  obtain ⟨front, frontSplit, frontBlank, leads⟩ := exists_trimStart body
  obtain ⟨back, backSplit, backBlank, ends⟩ := exists_trimEnd (trimStart body)
  have whole : body = front ++ (trim body ++ back) := frontSplit.trans (by rw [trim, ← backSplit])
  rw [Quoting.ofQuote] at outside unclosed
  refine ⟨rfl, leads.trimEnd, ends, ?_, ?_⟩
  · rintro ⟨before, behind, split, isOutside⟩
    refine unclosed ⟨front ++ before, behind ++ back, ?_, ?_⟩
    · rw [whole, show trim body = _ from split]
      simp
    · rw [Quoting.after_append, Quoting.after_blank frontBlank, isOutside]
  · rw [whole, Quoting.after_append, Quoting.after_blank frontBlank,
      Quoting.after_append] at outside
    exact Quoting.eq_outside_of_after_blank (Quoting.isProper_after_outside _) backBlank outside

/-- A declaration is cut and trimmed to its code when spaces surround it. -/
theorem IsDeclaration.cut {code : List Char} (isDeclaration : IsDeclaration code)
    (rest : List Char) :
    cutDeclaration [] none (' ' :: (code ++ ' ' :: '%' :: '}' :: rest)) =
        some (' ' :: (code ++ [' ']), rest) ∧
      trim (' ' :: (code ++ [' '])) = code := by
  have outside : Quoting.outside.after (' ' :: (code ++ [' '])) = .outside := by
    rw [Quoting.after_cons, show Quoting.outside.next ' ' = .outside from rfl,
      Quoting.after_append, isDeclaration.outside, Quoting.after_blank isBlank_of_mem_space]
  have unclosed : ¬ ClosesFrom .outside (' ' :: (code ++ [' '])) := by
    rintro ⟨before, behind, split, isOutside⟩
    cases before with
    | nil => cases split
    | cons first before =>
        obtain rfl : ' ' = first := (List.cons.inj split).1
        have tail : code ++ [' '] = before ++ '%' :: '}' :: behind := (List.cons.inj split).2
        rcases List.eq_nil_or_concat behind with rfl | ⟨behind, last, rfl⟩
        · have ends := congrArg List.getLast? tail
          simp at ends
        · rw [List.concat_eq_append, ← List.cons_append, ← List.cons_append,
            ← List.append_assoc] at tail
          exact isDeclaration.unclosed
            ⟨before, behind, (List.append_inj' tail rfl).1, isOutside⟩
  refine ⟨?_, trim_surrounded isBlank_of_mem_space isBlank_of_mem_space isDeclaration.leads
    isDeclaration.ends⟩
  have cut := @cutDeclaration_of_unclosed [] _ rest none
    (by simp [Quoting.IsProper, Quoting.ofQuote, Quoting.mark?]) outside unclosed
  simpa using cut

end Code

end MarkupTemplate
