import MarkupTemplate.Proofs.Canonical.Quoting
import MarkupTemplate.Proofs.Script.Characters

/-!
# The layout of generated code

Generated code is read line by line with a counter. A line that starts with
`end` closes a block, and one that ends in ` do` or ` do |output|` opens one; a
line may do both. `IsLaidOut` says that every block is closed, that none is closed
which is not open, and that every line is indented by its depth. It holds of the
code of every template whose parts fit on lines.

The code of a node need not end the line it starts on. `Flow` says what such code
does to the lines it runs over, and is composed along the code.
-/

namespace MarkupTemplate

open Text

/-! ### Reading lines -/

namespace Script

/-- The text of a line behind its leading spaces. -/
def lineText (line : List Char) : List Char := line.dropWhile (· == ' ')

/-- The number of spaces a line starts with. -/
def leadingSpaces (line : List Char) : Nat := (line.takeWhile (· == ' ')).length

/-- Whether a line closes a block. -/
def closesBlock (line : List Char) : Bool := "end".toList.isPrefixOf (lineText line)

/-- Whether a line opens a block. -/
def opensBlock (line : List Char) : Bool :=
  " do".toList.isSuffixOf (lineText line) || " do |output|".toList.isSuffixOf (lineText line)

/-- The depth at which a line stands, given the depth before it. -/
def depthOn (depth : Int) (line : List Char) : Int :=
  if closesBlock line then depth - 1 else depth

/-- The depth behind a line, given the depth before it. -/
def depthBehind (depth : Int) (line : List Char) : Int :=
  if opensBlock line then depthOn depth line + 1 else depthOn depth line

/-- Whether a line leads from one depth to another, is indented by the depth at
which it stands and holds no line feed. -/
structure Turns (before : Nat) (line : List Char) (behind : Nat) : Prop where
  open_ : 0 ≤ depthOn before line
  aligned : (leadingSpaces line : Int) = 2 * depthOn before line
  leads : depthBehind before line = behind
  oneLine : '\n' ∉ line

/-- Whether lines lead from one depth to another, one after the other. -/
inductive Passes : Nat → List (List Char) → Nat → Prop where
  | none (depth : Nat) : Passes depth [] depth
  | line {before middle behind : Nat} {first : List Char} {rest : List (List Char)}
      (turns : Turns before first middle) (passes : Passes middle rest behind) :
      Passes before (first :: rest) behind

namespace Passes

variable {before middle behind : Nat} {first second : List (List Char)}

theorem append (passes : Passes before first middle) (further : Passes middle second behind) :
    Passes before (first ++ second) behind := by
  induction passes with
  | none => exact further
  | line turns _ inductionHypothesis => exact .line turns (inductionHypothesis further)

theorem single {line : List Char} (turns : Turns before line behind) :
    Passes before [line] behind := .line turns (.none behind)

theorem oneLine (passes : Passes before first behind) : ∀ line ∈ first, '\n' ∉ line := by
  induction passes with
  | none => simp
  | line turns _ inductionHypothesis =>
      exact List.forall_mem_cons.mpr ⟨turns.oneLine, inductionHypothesis⟩

/-- The counter reaches the depth that lines lead to. -/
theorem foldl_depthBehind (passes : Passes before first behind) :
    first.foldl depthBehind before = behind := by
  induction passes with
  | none => rfl
  | line turns _ inductionHypothesis => rwa [List.foldl_cons, turns.leads]

/-- Every line stands at a depth and is indented by it. -/
theorem aligned {line : List Char} {rest : List (List Char)}
    (passes : Passes before (first ++ line :: rest) behind) :
    0 ≤ depthOn (first.foldl depthBehind before) line ∧
      (leadingSpaces line : Int) = 2 * depthOn (first.foldl depthBehind before) line := by
  induction first generalizing before with
  | nil =>
      cases passes with
      | line turns => exact ⟨turns.open_, turns.aligned⟩
  | cons earlier first inductionHypothesis =>
      cases passes with
      | line turns passes =>
          rw [List.foldl_cons, turns.leads]
          exact inductionHypothesis passes

end Passes

/-! ### What single lines do -/

section Lines

variable {level : Nat} {text : List Char}

@[simp] theorem newline_notMem_margin (level : Nat) : '\n' ∉ margin level := by
  simp [margin, List.mem_replicate]

/-- Lines are indented by spaces. -/
theorem space_of_mem_margin : ∀ character ∈ margin level, (character == ' ') = true := by
  simp [margin, List.mem_replicate]

/-- The text of an indented line is what follows the indentation. -/
theorem lineText_margin (solid : text.head? ≠ some ' ') :
    lineText (margin level ++ text) = text := by
  rw [lineText, List.dropWhile_append_of_pos space_of_mem_margin]
  cases text with
  | nil => rfl
  | cons first rest =>
      rw [List.dropWhile_cons_of_neg]
      simpa using solid

/-- The leading spaces of an indented line are its indentation. -/
theorem leadingSpaces_margin (solid : text.head? ≠ some ' ') :
    leadingSpaces (margin level ++ text) = 2 * level := by
  have none : text.takeWhile (· == ' ') = [] := by
    cases text with
    | nil => rfl
    | cons first rest =>
        rw [List.takeWhile_cons_of_neg]
        simpa using solid
  rw [leadingSpaces, List.takeWhile_append_of_pos space_of_mem_margin, none]
  simp [margin]

/-- Whether the text of a line ends in a word that opens a block. -/
def IsOpening (text : List Char) : Prop :=
  " do".toList <:+ text ∨ " do |output|".toList <:+ text

/-- Code that ends in `do` opens a block whatever stands before it. -/
theorem isOpening_append {final : List Char} (opens : " do".toList <:+ final) (start : List Char) :
    IsOpening (start ++ final) :=
  .inl (opens.trans (List.suffix_append start final))

/-- A text that ends in none of the last characters of the two words opens no block. -/
theorem not_isOpening_of_last {last : Char} (ends : text.getLast? = some last)
    (differs : last ≠ 'o' ∧ last ≠ '|') : ¬ IsOpening text := by
  have apart {word : List Char} {final : Char} (isFinal : word.getLast? = some final)
      (other : last ≠ final) : ¬ word <:+ text := by
    rintro ⟨before, rfl⟩
    rw [List.getLast?_append, isFinal] at ends
    exact other (by simpa using ends.symm)
  exact not_or.mpr ⟨apart rfl differs.1, apart rfl differs.2⟩

/-- Text in front of a closing bracket opens no block. -/
theorem not_isOpening_bracket (text : List Char) : ¬ IsOpening (text ++ [')']) :=
  not_isOpening_of_last List.getLast?_concat (by decide)

/-- An indented line opens a block exactly if its text does. -/
theorem opensBlock_margin_iff (solid : text.head? ≠ some ' ') :
    opensBlock (margin level ++ text) = true ↔ IsOpening text := by
  rw [opensBlock, lineText_margin solid, Bool.or_eq_true_iff, List.isSuffixOf_iff_suffix,
    List.isSuffixOf_iff_suffix]
  rfl

/-- Whether a line stands at the depth that it is indented by. -/
structure Stands (before level : Nat) (text : List Char) : Prop where
  solid : text.head? ≠ some ' '
  depth : depthOn before (margin level ++ text) = level
  oneLine : '\n' ∉ text

namespace Stands

variable {before : Nat}

/-- A line that does not close a block stands at the depth before it. -/
theorem ahead (solid : text.head? ≠ some ' ') (notEnd : ¬ "end".toList <+: text)
    (oneLine : '\n' ∉ text) : Stands level level text where
  solid := solid
  depth := by
    rw [depthOn, if_neg]
    rwa [closesBlock, lineText_margin solid, List.isPrefixOf_iff_prefix]
  oneLine := oneLine

/-- A line that closes a block stands one level further out. -/
theorem atEnd (oneLine : '\n' ∉ text) : Stands (level + 1) level ("end".toList ++ text) where
  solid := by simp
  depth := by
    have closes : closesBlock (margin level ++ ("end".toList ++ text)) = true := by
      rw [closesBlock, lineText_margin (by simp), List.isPrefixOf_iff_prefix]
      exact List.prefix_append _ _
    rw [depthOn, if_pos closes]
    omega
  oneLine := by simpa using oneLine

theorem turns {behind : Nat} (stands : Stands before level text)
    (leads : depthBehind before (margin level ++ text) = behind) :
    Turns before (margin level ++ text) behind where
  open_ := by
    rw [stands.depth]
    omega
  aligned := by
    rw [stands.depth, leadingSpaces_margin stands.solid]
    omega
  leads := leads
  oneLine := by simpa using stands.oneLine

/-- Behind a line that opens a block, the depth is one more. -/
theorem opens (stands : Stands before level text) (opening : IsOpening text) :
    Turns before (margin level ++ text) (level + 1) := by
  refine stands.turns ?_
  rw [depthBehind, if_pos ((opensBlock_margin_iff stands.solid).mpr opening), stands.depth]
  rfl

/-- Behind a line that opens no block, the depth is the same. -/
theorem stays (stands : Stands before level text) (notOpening : ¬ IsOpening text) :
    Turns before (margin level ++ text) level := by
  refine stands.turns ?_
  rw [depthBehind, if_neg (by rwa [opensBlock_margin_iff stands.solid]), stands.depth]

end Stands
end Lines

/-! ### Code that runs over lines -/

/-- Lines with their line feeds. -/
def unlines (lines : List (List Char)) : List Char := lines.flatMap (· ++ ['\n'])

@[simp] theorem unlines_append (first second : List (List Char)) :
    unlines (first ++ second) = unlines first ++ unlines second := List.flatMap_append

@[simp] theorem unlines_cons (line : List Char) (lines : List (List Char)) :
    unlines (line :: lines) = line ++ '\n' :: unlines lines := by
  simp [unlines]

@[simp] theorem unlines_nil : unlines [] = [] := rfl

/-- Lines are read back from between their line feeds. -/
theorem splitOn_unlines {lines : List (List Char)} (oneLine : ∀ line ∈ lines, '\n' ∉ line)
    (rest : List Char) :
    (unlines lines ++ rest).splitOn '\n' = lines ++ rest.splitOn '\n' := by
  induction lines with
  | nil => rfl
  | cons line lines inductionHypothesis =>
      obtain ⟨first, others⟩ := List.forall_mem_cons.mp oneLine
      have cut : (line ++ '\n' :: (unlines lines ++ rest)).splitOn '\n' =
          line.splitOn '\n' ++ (unlines lines ++ rest).splitOn '\n' :=
        List.splitOnP_append_cons line _ (by decide)
      rw [unlines_cons, List.append_assoc, List.cons_append, cut, inductionHypothesis others,
        List.splitOn_eq_singleton first]
      rfl

/-- What code does within a block: it stays on its line, or its first line opens a
block, and behind lines within this block, its last line closes it. -/
inductive Flow (level : Nat) : List Char → Prop where
  | inline {text : List Char} (oneLine : '\n' ∉ text) : Flow level text
  | broken {first last : List Char} {lines : List (List Char)} (oneLine : '\n' ∉ first)
      (opens : " do".toList <:+ first) (body : Passes (level + 1) lines (level + 1))
      (lastOneLine : '\n' ∉ last) :
      Flow level (first ++ '\n' :: (unlines lines ++ (margin level ++ ("end".toList ++ last))))

namespace Flow

variable {level : Nat} {text first second : List Char}

/-- Code behind other code. Where both run over lines, one line closes the block of
the first and opens that of the second. -/
theorem append (flow : Flow level first) (further : Flow level second) :
    Flow level (first ++ second) := by
  cases flow with
  | inline oneLine =>
      cases further with
      | inline otherOneLine => exact .inline (by simp [oneLine, otherOneLine])
      | @broken start last lines startOneLine opens body lastOneLine =>
          have joined := @Flow.broken level (first ++ start) last lines
            (by simp [oneLine, startOneLine]) (opens.trans (List.suffix_append _ _)) body
            lastOneLine
          simpa using joined
  | @broken start last lines startOneLine opens body lastOneLine =>
      cases further with
      | inline oneLine =>
          have joined := @Flow.broken level start (last ++ second) lines startOneLine opens body
            (by simp [oneLine, lastOneLine])
          simpa using joined
      | @broken next final inner nextOneLine nextOpens nextBody finalOneLine =>
          have both : Turns (level + 1) (margin level ++ ("end".toList ++ (last ++ next)))
              (level + 1) := by
            refine (Stands.atEnd (by simp [lastOneLine, nextOneLine])).opens ?_
            rw [← List.append_assoc]
            exact isOpening_append nextOpens _
          have joined := Flow.broken startOneLine opens
            (body.append (.line both nextBody)) finalOneLine
          simpa using joined

/-- Code as the value on a line of its own. -/
theorem passes (flow : Flow level text) : ∃ lines, Passes level lines level ∧
    margin level ++ ("output << (".toList ++ (text ++ [')', '\n'])) = unlines lines := by
  cases flow with
  | inline oneLine =>
      have stands : Stands level level ("output << (".toList ++ text ++ [')']) :=
        .ahead (by simp) (by simp) (by simp [oneLine])
      exact ⟨_, .single (stands.stays (not_isOpening_bracket _)), by simp⟩
  | @broken start last lines startOneLine opens body lastOneLine =>
      have enters : Stands level level ("output << (".toList ++ start) :=
        .ahead (by simp) (by simp) (by simp [startOneLine])
      have leaves : Stands (level + 1) level ("end".toList ++ (last ++ [')'])) :=
        .atEnd (by simp [lastOneLine])
      refine ⟨_, .line (enters.opens (isOpening_append opens _))
        (body.append (.single (leaves.stays ?_))), by simp⟩
      rw [← List.append_assoc]
      exact not_isOpening_bracket _

end Flow
end Script

/-! ### Trees and options that fit into lines -/

/-- Whether a declaration fits on a line and, trimmed, neither closes nor opens a
block. -/
structure Script.IsStatement (content : String) : Prop where
  oneLine : '\n' ∉ content.toList
  notEnd : ¬ "end".toList <+: trim content.toList
  notDo : ¬ " do".toList <:+ trim content.toList
  notTap : ¬ " do |output|".toList <:+ trim content.toList

mutual

/-- Whether the code and the tag names of a node fit on lines. Nothing is asked of
text or of the names of attributes. -/
def Node.FitsLines : Node → Prop
  | .text _ => True
  | .expression content => '\n' ∉ content.toList
  | .declaration content => Script.IsStatement content
  | .group pieces => Node.FitLines pieces
  | .element name attributes children =>
      '\n' ∉ name.toList ∧ Attribute.FitLines attributes ∧ Node.FitLines children

/-- Whether several nodes fit on lines. -/
def Node.FitLines : List Node → Prop
  | [] => True
  | node :: nodes => node.FitsLines ∧ Node.FitLines nodes

/-- Whether the value of an attribute, or what it spreads, fits on lines. -/
def Attribute.FitsLines : Attribute → Prop
  | .named _ value => value.FitsLines
  | .spread pieces => Node.FitLines pieces

/-- Whether several attributes fit on lines. -/
def Attribute.FitLines : List Attribute → Prop
  | [] => True
  | first :: rest => first.FitsLines ∧ Attribute.FitLines rest

end

namespace Script

/-- Whether code is generated without a prelude, with names that fit on lines and
a buffer class that neither indents its line nor closes a block. -/
structure Options.FitLines (options : Options) : Prop where
  noPrelude : options.prelude = false
  tagHelper : '\n' ∉ options.tagHelper.toList
  bufferClass : '\n' ∉ options.bufferClass.toList
  solid : ∀ character ∈ options.bufferClass.toList.head?, isBlank character = false
  notEnd : ¬ "end".toList <+: options.bufferClass.toList

variable {options : Options} {level : Nat}

/-! ### The parts of code -/

/-- A word that a text does not start with is not completed by a character that
the word does not hold. -/
theorem not_prefix_append_cons {word text rest : List Char} {character : Char}
    (notPrefix : ¬ word <+: text) (foreign : character ∉ word) :
    ¬ word <+: text ++ character :: rest := by
  intro completed
  rcases List.prefix_or_prefix_of_prefix completed (List.prefix_append text _) with whole | part
  · exact notPrefix whole
  · obtain ⟨missing, rfl⟩ := part
    rw [List.prefix_append_right_inj] at completed
    cases missing with
    | nil => exact notPrefix (by simp)
    | cons first missing =>
        rw [List.cons_prefix_cons] at completed
        exact foreign (by simp [completed.1])

/-- The line that opens a buffer. -/
theorem turns_bufferLine (fits : options.FitLines) :
    Turns level (margin level ++ (options.bufferClass.toList ++ ".new.tap do |output|".toList))
      (level + 1) := by
  have solid : (options.bufferClass.toList ++ ".new.tap do |output|".toList).head? ≠ some ' ' := by
    cases name : options.bufferClass.toList with
    | nil => simp
    | cons first rest =>
        have notBlank := fits.solid first (by simp [name])
        rw [List.cons_append, List.head?_cons, ne_eq, Option.some.injEq]
        rintro rfl
        exact absurd notBlank (by decide)
  have stands : Stands level level
      (options.bufferClass.toList ++ ".new.tap do |output|".toList) :=
    .ahead solid (not_prefix_append_cons fits.notEnd (by decide)) (by simp [fits.bufferClass])
  refine stands.opens (.inr ⟨options.bufferClass.toList ++ ".new.tap".toList, ?_⟩)
  simp

/-- A buffer is a block of its own, from where its first line begins. -/
theorem passes_buffer {lines : List (List Char)} {body : List Fragment} {tail : List Char}
    (fits : options.FitLines) (spelled : spell body = unlines lines)
    (passes : Passes (level + 1) lines (level + 1)) (oneLine : '\n' ∉ tail)
    (notOpening : ¬ IsOpening ("end".toList ++ tail)) :
    ∃ all, Passes level all level ∧
      margin level ++ (spell (buffer options level body) ++ (tail ++ ['\n'])) = unlines all := by
  have leaves : Turns (level + 1) (margin level ++ ("end".toList ++ tail)) level :=
    (Stands.atEnd oneLine).stays notOpening
  refine ⟨_, .line (turns_bufferLine fits) (passes.append (.single leaves)), ?_⟩
  simp [buffer, spelled]

/-- The block of an element opens on the line of the call and closes on the line on
which the code goes on. -/
theorem flow_block {lines : List (List Char)} {body : List Fragment} (fits : options.FitLines)
    (spelled : spell body = unlines lines) (passes : Passes (level + 2) lines (level + 2)) :
    Flow level (spell (block options level body)) := by
  have safe : ¬ IsOpening ("end".toList ++ ".html_safe".toList) :=
    not_isOpening_of_last rfl (by decide)
  obtain ⟨all, inner, spelledAll⟩ := passes_buffer fits spelled passes (by decide) safe
  have flow := @Flow.broken level " do".toList [] all (by decide) (List.suffix_refl _) inner
    (by simp)
  rw [← spelledAll] at flow
  simpa [block] using flow

/-- The line of a declaration. -/
theorem turns_declaration {content : String} (statement : IsStatement content) :
    Turns level (margin level ++ (declarationText content).toList) level := by
  obtain ⟨front, frontSplit, -, leads⟩ := exists_trimStart content.toList
  obtain ⟨back, backSplit, -, -⟩ := exists_trimEnd (trimStart content.toList)
  have text : (declarationText content).toList = trim content.toList := by simp [declarationText]
  have solid : (trim content.toList).head? ≠ some ' ' := by
    intro first
    exact absurd (leads.trimEnd _ first) (by decide)
  have oneLine : '\n' ∉ trim content.toList := by
    intro member
    refine statement.oneLine ?_
    rw [frontSplit, backSplit]
    simp [show '\n' ∈ trimEnd (trimStart content.toList) from member]
  have stands : Stands level level (trim content.toList) := .ahead solid statement.notEnd oneLine
  rw [text]
  exact stands.stays (not_or.mpr ⟨statement.notDo, statement.notTap⟩)

/-! ### The code of trees -/

/-- A tag name that fits on a line is a method that does. -/
theorem newline_notMem_safeTagName {name : String} (oneLine : '\n' ∉ name.toList) :
    '\n' ∉ (safeTagName name).toList := by
  rw [toList_safeTagName, mem_safeTagChars_iff (by decide)]
  rintro ⟨inName, -⟩
  exact oneLine inName

/-- The key of an attribute fits on a line, whatever the attribute is called. -/
theorem newline_notMem_attributeKey (name : String) : '\n' ∉ (attributeKey name).toList := by
  unfold attributeKey
  simp only []
  split
  case isTrue label =>
    have notMember : '\n' ∉ (underscore name).toList := fun member =>
      absurd (spelled_of_isLabel label _ member) (by decide)
    simpa using notMember
  case isFalse => simpa using newline_notMem_literal (underscore name)

mutual

/-- The code of a node stays on its line or opens blocks that it closes. -/
theorem flow_nodeCode (fits : options.FitLines) (level : Nat) :
    ∀ node : Node, node.FitsLines → Flow level (spell (nodeCode options level node))
  | .text content, _ => .inline (by simpa [nodeCode] using newline_notMem_literal content)
  | .expression content, oneLine => .inline (by simpa [nodeCode, Node.FitsLines] using oneLine)
  | .declaration content, statement => by
      have oneLine := (@turns_declaration 0 content statement).oneLine
      exact .inline (by simpa [nodeCode, margin] using oneLine)
  | .group pieces, fit => by
      rw [nodeCode]
      exact flow_piecesCode fits level pieces fit
  | .element name attributes children, ⟨oneLine, attributesFit, childrenFit⟩ => by
      have call : Flow level (spell
          [.text options.tagHelper, .text ".", .text (safeTagName name), .text "("]) :=
        .inline (by simp [fits.tagHelper, newline_notMem_safeTagName oneLine])
      have given := flow_attributesCode fits level attributes attributesFit
      have bracket : Flow level (spell [.text ")"]) := .inline (by simp)
      have closed := (call.append given).append bracket
      rw [nodeCode, spell_append, spell_append, spell_append]
      split
      case isTrue => simpa using closed
      case isFalse =>
        obtain ⟨lines, passes, spelled⟩ := passes_childrenCode fits (level + 2) children childrenFit
        exact closed.append (flow_block fits spelled passes)

/-- The code of pieces stays on its line or opens blocks that it closes. -/
theorem flow_piecesCode (fits : options.FitLines) (level : Nat) :
    ∀ pieces : List Node, Node.FitLines pieces → Flow level (spell (piecesCode options level pieces))
  | [], _ => .inline (by simp [piecesCode])
  | piece :: pieces, ⟨first, rest⟩ => by
      rw [piecesCode, spell_append]
      exact (flow_nodeCode fits level piece first).append (flow_piecesCode fits level pieces rest)

/-- The code of an attribute stays on its line or opens blocks that it closes. -/
theorem flow_attributeCode (fits : options.FitLines) (level : Nat) :
    ∀ given : Attribute, given.FitsLines → Flow level (spell (attributeCode options level given))
  | .named name value, fit => by
      have key : Flow level (spell [.text (attributeKey name), .text " "]) :=
        .inline (by simp [newline_notMem_attributeKey name])
      rw [attributeCode, spell_append]
      exact key.append (flow_nodeCode fits level value fit)
  | .spread pieces, fit => by
      have stars : Flow level "**".toList := .inline (by decide)
      rw [attributeCode, spell_text]
      exact stars.append (flow_piecesCode fits level pieces fit)

/-- The code of attributes stays on its line or opens blocks that it closes. -/
theorem flow_attributesCode (fits : options.FitLines) (level : Nat) :
    ∀ given : List Attribute, Attribute.FitLines given →
      Flow level (spell (attributesCode options level given))
  | [], _ => .inline (by simp [attributesCode])
  | [last], ⟨fit, _⟩ => by
      rw [attributesCode]
      exact flow_attributeCode fits level last fit
  | first :: second :: rest, ⟨fit, others⟩ => by
      have comma : Flow level ", ".toList := .inline (by decide)
      rw [attributesCode, spell_append, spell_text]
      exact (flow_attributeCode fits level first fit).append
        (comma.append (flow_attributesCode fits level (second :: rest) others))

/-- The code of children is a sequence of lines at their depth. -/
theorem passes_childrenCode (fits : options.FitLines) (level : Nat) :
    ∀ children : List Node, Node.FitLines children →
      ∃ lines, Passes level lines level ∧ spell (childrenCode options level children) = unlines lines
  | [], _ => ⟨[], .none level, by simp [childrenCode]⟩
  | child :: children, ⟨fit, others⟩ => by
      obtain ⟨lines, passes, spelled⟩ := passes_childrenCode fits level children others
      have first : ∃ own, Passes level own level ∧
          spell (childLine level child (nodeCode options level child)) = unlines own := by
        cases child with
        | declaration content =>
            refine ⟨_, .single (turns_declaration fit), ?_⟩
            simp [childLine, nodeCode]
        | _ =>
            obtain ⟨own, ownPasses, ownSpelled⟩ := (flow_nodeCode fits level _ fit).passes
            exact ⟨own, ownPasses, by simpa [childLine] using ownSpelled⟩
      obtain ⟨own, ownPasses, ownSpelled⟩ := first
      refine ⟨own ++ lines, ownPasses.append passes, ?_⟩
      rw [childrenCode, spell_append, ownSpelled, spelled, unlines_append]

end

/-! ### Whole programs -/

/-- Whether code, read line by line, closes every block that it opens and no other,
indents every line by its depth and ends its last line. -/
structure IsLaidOut (code : String) : Prop where
  aligned : ∀ before line behind, code.toList.splitOn '\n' = before ++ line :: behind →
    0 ≤ depthOn (before.foldl depthBehind 0) line ∧
      (leadingSpaces line : Int) = 2 * depthOn (before.foldl depthBehind 0) line
  closed : (code.toList.splitOn '\n').foldl depthBehind 0 = 0
  ended : code.toList.getLast? = some '\n'

/-- The lines of a whole program lead from the outermost depth back to it. -/
theorem exists_lines_generate {template : Template} (fits : options.FitLines)
    (fit : Node.FitLines template.children) :
    ∃ lines, Passes 0 lines 0 ∧ (generate options template).toList = unlines lines := by
  obtain ⟨lines, passes, spelled⟩ := passes_childrenCode fits 1 template.children fit
  have notOpening : ¬ IsOpening ("end".toList ++ []) := not_isOpening_of_last rfl (by decide)
  obtain ⟨all, outer, spelledAll⟩ := passes_buffer fits spelled passes (by simp) notOpening
  refine ⟨all, outer, ?_⟩
  rw [toList_generate, if_neg (by simp [fits.noPrelude]), ← spelledAll]
  simp [margin]

/-- The code of every template whose parts fit on lines is laid out in blocks. -/
theorem isLaidOut_generate {template : Template} (fits : options.FitLines)
    (fit : Node.FitLines template.children) : IsLaidOut (generate options template) := by
  obtain ⟨lines, passes, spelled⟩ := exists_lines_generate fits fit
  have nothing : Turns 0 [] 0 := ⟨by decide, by decide, by decide, by simp⟩
  have split : (generate options template).toList.splitOn '\n' = lines ++ [[]] := by
    simpa [spelled] using splitOn_unlines passes.oneLine []
  have all : Passes 0 ((generate options template).toList.splitOn '\n') 0 := by
    rw [split]
    exact passes.append (.single nothing)
  constructor
  case aligned =>
    intro before line behind same
    rw [same] at all
    exact all.aligned
  case closed => exact all.foldl_depthBehind
  case ended =>
    rw [toList_generate]
    exact List.getLast?_concat

/-- An element within an attribute of another one, between pieces of code: the line
`end, class: "end") do` closes one block and opens the next. -/
theorem isLaidOut_generate_nested :
    Options.FitLines {} ∧
      Node.FitLines [.declaration " if x ", .group [.expression "y and ",
        .element "a" [.named "b\n" (.element "c" [] [.text "end\n do"]), .named "class" (.text "end")]
          [.text " do"], .expression " or z"]] ∧
      IsLaidOut (generate {} ⟨[.declaration " if x ", .group [.expression "y and ",
        .element "a" [.named "b\n" (.element "c" [] [.text "end\n do"]), .named "class" (.text "end")]
          [.text " do"], .expression " or z"]]⟩) := by
  have solid : ∀ character ∈ "OutputBuffer".toList.head?, isBlank character = false := by
    intro character first
    obtain rfl : 'O' = character := by simpa using first
    decide
  have fits : Options.FitLines {} := ⟨rfl, by decide, by decide, solid, by decide⟩
  have statement : IsStatement " if x " := ⟨by decide, by decide, by decide, by decide⟩
  have fit : Node.FitLines [.declaration " if x ", .group [.expression "y and ",
      .element "a" [.named "b\n" (.element "c" [] [.text "end\n do"]), .named "class" (.text "end")]
        [.text " do"], .expression " or z"]] := by
    simp [Node.FitLines, Node.FitsLines, Attribute.FitLines, Attribute.FitsLines, statement]
  exact ⟨fits, fit, isLaidOut_generate fits fit⟩

end Script
end MarkupTemplate
