import MarkupTemplate.Proofs.Script.Characters

/-!
# Literals are inert

Within double quotes a backslash escapes the character behind it, and an unescaped
hash sign in front of a brace, an at sign or a dollar sign starts code that is run.
`scan` reads a literal by these rules alone. Applied to a text that was written as a
literal it never meets such code: it finds the text again, and stops where the literal
does, whatever follows it.
-/

namespace MarkupTemplate.Script

/-- How reading a literal ends: at its closing quote, with the text it denotes and
what follows it; at code that it interpolates; or not at all. -/
inductive Scan where
  | closed (text behind : List Char)
  | interpolation
  | unclosed
deriving DecidableEq, Repr

/-- The text that is found, with a character in front of it. -/
def Scan.cons (character : Char) : Scan → Scan
  | closed text behind => closed (character :: text) behind
  | interpolation => interpolation
  | unclosed => unclosed

/-- The characters in front of which an unescaped hash sign starts code. -/
def codeMarks : List Char := ['{', '@', '$']

/-- Reads a literal behind its opening quote. -/
def scanInside : List Char → Scan
  | [] => .unclosed
  | '"' :: rest => .closed [] rest
  | '\\' :: character :: rest => (scanInside rest).cons (denoted character)
  | '#' :: next :: rest =>
      if next ∈ codeMarks then .interpolation else (scanInside (next :: rest)).cons '#'
  | character :: rest => (scanInside rest).cons character

/-- Reads a literal. -/
def scan : List Char → Scan
  | '"' :: rest => scanInside rest
  | _ => .unclosed

/-- The code marks are the characters that the writer of literals watches for. -/
theorem mem_codeMarks_iff {character : Char} :
    character ∈ codeMarks ↔ interpolates character = true := by
  simp [codeMarks, interpolates, or_assoc]

/-- A hash sign in front of no code mark stands for itself. -/
theorem scanInside_hash {rest : List Char}
    (noCode : ∀ first ∈ rest.head?, first ∉ codeMarks) :
    scanInside ('#' :: rest) = (scanInside rest).cons '#' := by
  cases rest with
  | nil => rfl
  | cons first rest => rw [scanInside, if_neg (noCode first rfl)]

/-- One escaped character is read back, provided that a code mark is written behind it
only where one stands behind it in the text. -/
theorem scanInside_escapeOne (character : Char) {next : Option Char} {rest : List Char}
    (seen : ∀ first ∈ rest.head?, first ∈ codeMarks → next = some first) :
    scanInside (escapeOne character next ++ rest) = (scanInside rest).cons character := by
  unfold escapeOne
  split
  case h_6 =>
    split
    next => rfl
    next harmless =>
      refine scanInside_hash fun first member isMark => harmless ?_
      simpa [seen first member isMark] using mem_codeMarks_iff.mp isMark
  case h_7 notBackslash notQuote _ _ _ notHash =>
    rw [List.singleton_append, scanInside]
    · exact notQuote
    · exact fun _ _ same _ => notBackslash same
    · exact fun _ _ same _ => notHash same
  all_goals rfl

/-- An escaped character starts with itself or with a backslash. -/
theorem head?_escapeOne (character : Char) (next : Option Char) (rest : List Char) :
    ∀ first ∈ (escapeOne character next ++ rest).head?, first = character ∨ first = '\\' := by
  unfold escapeOne
  split
  case h_6 => split <;> simp
  all_goals simp

/-- A code mark is written first only where the text starts with it. -/
theorem head?_escapeAll {text rest : List Char} :
    ∀ first ∈ (escapeAll text ++ '"' :: rest).head?, first ∈ codeMarks → text.head? = some first := by
  intro first member isMark
  cases text with
  | nil =>
      cases member
      exact absurd isMark (by decide)
  | cons character text =>
      rw [escapeAll, List.append_assoc] at member
      rcases head?_escapeOne character _ _ first member with rfl | rfl
      · rfl
      · exact absurd isMark (by decide)

/-- Escaped text is read back up to its closing quote. -/
theorem scanInside_escapeAll (text rest : List Char) :
    scanInside (escapeAll text ++ '"' :: rest) = .closed text rest := by
  induction text with
  | nil => rfl
  | cons character text inductionHypothesis =>
      rw [escapeAll, List.append_assoc, scanInside_escapeOne character head?_escapeAll,
        inductionHypothesis]
      rfl

/-- Every text becomes one literal on one line that denotes it: reading the literal
with anything behind it meets no code, finds the text and leaves what was behind. -/
theorem literal_inert (text rest : String) :
    scan (literal text ++ rest).toList = .closed text.toList rest.toList ∧
      '\n' ∉ (literal text).toList ∧ '\r' ∉ (literal text).toList := by
  refine ⟨?_, newline_notMem_literal text, lineEnd_notMem_literal (.inr rfl) text⟩
  have split : (literal text ++ rest).toList =
      '"' :: (escapeAll text.toList ++ '"' :: rest.toList) := by simp
  rw [split]
  exact scanInside_escapeAll text.toList rest.toList

/-- A hash sign that the writer of literals left alone would start code. -/
example : scan ['"', '#', '{', 'x', '}', '"'] = .interpolation := by decide

end MarkupTemplate.Script
