import Mathlib.Data.List.TakeWhile
import MarkupTemplate.Script.Code

/-!
# The characters of generated code

A listing is written fragment by fragment; its text is what the fragments spell,
one after the other. A text within it stands in quotes, and reading up to the
quote that closes it gives the text back.
-/

namespace MarkupTemplate.Script

/-- The spaces that indent a line. -/
def margin (level : Nat) : List Char := List.replicate (2 * level) ' '

/-- The characters that fragments spell. -/
def spell (fragments : List Fragment) : List Char :=
  fragments.flatMap fun fragment => fragment.content.toList

@[simp] theorem spell_nil : spell [] = [] := rfl

@[simp] theorem spell_append (first second : List Fragment) :
    spell (first ++ second) = spell first ++ spell second := List.flatMap_append

@[simp] theorem spell_text (content : String) (fragments : List Fragment) :
    spell (.text content :: fragments) = content.toList ++ spell fragments := rfl

@[simp] theorem spell_indent (level : Nat) (fragments : List Fragment) :
    spell (.indent level :: fragments) = margin level ++ spell fragments := by
  simp [spell, Fragment.content, margin]

@[simp] theorem spell_lineEnd (fragments : List Fragment) :
    spell (.lineEnd :: fragments) = '\n' :: spell fragments := rfl

/-- Writing a fragment adds its characters at the end. -/
theorem Listing.toList_finish_write (listing : Listing) (fragment : Fragment) :
    (listing.write fragment).finish.toList =
      listing.finish.toList ++ fragment.content.toList := by
  cases fragment <;> simp [write, finish]

/-- Writing fragments adds their characters at the end. -/
theorem Listing.toList_finish_foldl (fragments : List Fragment) (listing : Listing) :
    (fragments.foldl write listing).finish.toList =
      listing.finish.toList ++ spell fragments := by
  induction fragments generalizing listing with
  | nil => simp
  | cons fragment fragments inductionHypothesis =>
      rw [List.foldl_cons, inductionHypothesis, toList_finish_write, List.append_assoc]
      rfl

/-- The characters of the code of a template. -/
theorem toList_generate (options : Options) (template : Template) :
    (generate options template).toList =
      spell (if options.prelude then preludeCode options else []) ++
        spell (buffer options 0 (childrenCode options 1 template.children)) ++ ['\n'] := by
  rw [generate, listing, Listing.ofFragments, Listing.toList_finish_foldl]
  simp [Listing.finish]

/-! ### Literals -/

/-- The character that stands behind a backslash for another. -/
def denoted : Char → Char
  | 'n' => '\n'
  | 'r' => '\r'
  | 't' => '\t'
  | other => other

/-- Reads a literal behind its opening quote: the text it denotes, and what
follows its closing quote. -/
def readLiteral : List Char → Option (List Char × List Char)
  | [] => none
  | '"' :: rest => some ([], rest)
  | '\\' :: character :: rest =>
      (readLiteral rest).map fun (text, behind) => (denoted character :: text, behind)
  | character :: rest =>
      (readLiteral rest).map fun (text, behind) => (character :: text, behind)

/-- One escaped character is read back. -/
theorem readLiteral_escapeOne (character : Char) (next : Option Char) (rest : List Char) :
    readLiteral (escapeOne character next ++ rest) =
      (readLiteral rest).map fun (text, behind) => (character :: text, behind) := by
  unfold escapeOne
  split
  case h_6 => split <;> simp [readLiteral, denoted]
  case h_7 notBackslash notQuote _ _ _ _ =>
    rw [List.singleton_append, readLiteral]
    · exact notQuote
    · exact fun _ _ same _ => notBackslash same
  all_goals rfl

/-- Escaped text is read back up to its closing quote. -/
theorem readLiteral_escapeAll (text rest : List Char) :
    readLiteral (escapeAll text ++ '"' :: rest) = some (text, rest) := by
  induction text with
  | nil => rfl
  | cons character text inductionHypothesis =>
      rw [escapeAll, List.append_assoc, readLiteral_escapeOne, inductionHypothesis]
      rfl

@[simp] theorem toList_literal (text : String) :
    (literal text).toList = '"' :: (escapeAll text.toList ++ ['"']) := by
  simp [literal, escape]

/-- A literal ends at its own closing quote, so it determines its text and what
follows it. -/
theorem literal_append_inj {first second : String} {rest behind : List Char}
    (same : (literal first).toList ++ rest = (literal second).toList ++ behind) :
    first = second ∧ rest = behind := by
  have split : escapeAll first.toList ++ '"' :: rest = escapeAll second.toList ++ '"' :: behind := by
    simpa using same
  have read := congrArg readLiteral split
  rw [readLiteral_escapeAll, readLiteral_escapeAll] at read
  simpa [String.toList_inj] using read

/-- No line ends within an escaped character. -/
theorem lineEnd_notMem_escapeOne {lineEnd : Char} (ends : lineEnd = '\n' ∨ lineEnd = '\r')
    (character : Char) (next : Option Char) : lineEnd ∉ escapeOne character next := by
  unfold escapeOne
  split
  case h_6 =>
    split <;> rcases ends with rfl | rfl <;> simp
  case h_7 notNewline notReturn _ _ =>
    rcases ends with rfl | rfl
    · simpa using fun same => notNewline same.symm
    · simpa using fun same => notReturn same.symm
  all_goals rcases ends with rfl | rfl <;> simp

/-- No line ends within a literal. -/
theorem lineEnd_notMem_literal {lineEnd : Char} (ends : lineEnd = '\n' ∨ lineEnd = '\r')
    (text : String) : lineEnd ∉ (literal text).toList := by
  have escaped (characters : List Char) : lineEnd ∉ escapeAll characters := by
    induction characters with
    | nil => simp [escapeAll]
    | cons character characters inductionHypothesis =>
        rw [escapeAll, List.mem_append, not_or]
        exact ⟨lineEnd_notMem_escapeOne ends _ _, inductionHypothesis⟩
  have noQuote : lineEnd ≠ '"' := by rcases ends with rfl | rfl <;> decide
  simpa [noQuote] using escaped text.toList

theorem newline_notMem_literal (text : String) : '\n' ∉ (literal text).toList :=
  lineEnd_notMem_literal (.inl rfl) text

/-! ### Names -/

/-- The characters of a key that needs no quotes. -/
theorem spelled_of_isLabel {key : List Char} (label : isLabel key = true) :
    ∀ character ∈ key, isLabelChar character = true ∨ character = '?' ∨ character = '!' := by
  unfold isLabel at label
  split at label
  · simp
  rename_i first rest
  simp only [Bool.and_eq_true, Bool.or_eq_true, beq_iff_eq, List.contains_iff_mem] at label
  obtain ⟨leads, ends⟩ := label
  have isFirst : isLabelChar first = true := by
    rcases leads with letter | rfl
    · simp [isLabelChar, Char.isAlphanum, letter]
    · rfl
  have behind : ∀ character ∈ rest.dropWhile isLabelChar, character = '?' ∨ character = '!' := by
    simp only [List.mem_cons, List.not_mem_nil, or_false] at ends
    rcases ends with same | same | same <;> simp [same]
  have others : ∀ character ∈ rest.takeWhile isLabelChar ++ rest.dropWhile isLabelChar,
      isLabelChar character = true ∨ character = '?' ∨ character = '!' :=
    List.forall_mem_append.mpr
      ⟨fun character member => .inl (List.mem_takeWhile_imp member),
        fun character member => .inr (behind character member)⟩
  rw [List.takeWhile_append_dropWhile] at others
  exact List.forall_mem_cons.mpr ⟨.inl isFirst, others⟩

end MarkupTemplate.Script
