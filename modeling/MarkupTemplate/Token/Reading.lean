import MarkupTemplate.Token.Step

/-!
# Reading a source to its end

A step that goes on leaves less of the source, so the steps from any state come
to an end: either the whole source is read or a fault is found.
-/

namespace MarkupTemplate

namespace Reader

@[simp] theorem rest_skip (reader : Reader) (count : Nat) :
    (reader.skip count).rest = reader.rest.drop count := rfl

@[simp] theorem rest_gather (reader : Reader) (character : Char) (count : Nat) :
    (reader.gather character count).rest = reader.rest.drop count := rfl

@[simp] theorem rest_emitAt (reader : Reader) (kind : TokenKind) (value : String) (span : Span) :
    (reader.emitAt kind value span).rest = reader.rest := rfl

@[simp] theorem rest_emit (reader : Reader) (kind : TokenKind) (value : String)
    (origin : Position) : (reader.emit kind value origin).rest = reader.rest := rfl

@[simp] theorem rest_enter (reader : Reader) (modes : List Mode) :
    (reader.enter modes).rest = reader.rest := rfl

@[simp] theorem rest_flushText (reader : Reader) : reader.flushText.rest = reader.rest := by
  unfold flushText
  split <;> rfl

@[simp] theorem rest_flushPiece (reader : Reader) (site : Site) (closing : Bool) :
    (reader.flushPiece site closing).rest = reader.rest := by
  unfold flushPiece
  split <;> rfl

/-- Skipping white space leaves no more than there was. -/
theorem length_rest_skipBlank_le (reader : Reader) :
    reader.skipBlank.rest.length ≤ reader.rest.length := by
  simp [skipBlank, skipWhile]

/-- An opened tag takes at least its `<`. -/
theorem openTag_shrinks {reader next : Reader} {tag : OpenTag} (nonempty : reader.rest ≠ [])
    (opened : reader.openTag = .ok (tag, next)) : next.rest.length < reader.rest.length := by
  have positive := List.length_pos_iff.mpr nonempty
  unfold openTag at opened
  simp only [] at opened
  split at opened
  · cases opened
  · split at opened
    · cases opened
    · cases opened
      simp
      omega

/-- A closed tag takes at least its `</`. -/
theorem closeTag_shrinks {reader next : Reader} {parent : Option OpenTag}
    (nonempty : reader.rest ≠ []) (closed : reader.closeTag parent = .ok next) :
    next.rest.length < reader.rest.length := by
  have positive := List.length_pos_iff.mpr nonempty
  unfold closeTag at closed
  simp only [] at closed
  split at closed
  · split at closed
    · cases closed
    · split at closed
      · cases closed
        simp [skipBlank, skipWhile]
        omega
      · cases closed
  · cases closed

/-- A declaration takes at least its delimiters. -/
theorem readDeclaration_shrinks {reader next : Reader} (nonempty : reader.rest ≠ [])
    (declared : reader.readDeclaration = .ok next) : next.rest.length < reader.rest.length := by
  have positive := List.length_pos_iff.mpr nonempty
  unfold readDeclaration at declared
  split at declared
  · cases declared
    simp
    omega
  · cases declared

/-- A quoted value takes at least its quotes. -/
theorem readString_shrinks {reader next : Reader} {quote : Char} (nonempty : reader.rest ≠ [])
    (read : reader.readString quote = .ok next) : next.rest.length < reader.rest.length := by
  have positive := List.length_pos_iff.mpr nonempty
  unfold readString at read
  simp only [] at read
  split at read
  · cases read
    simp
    omega
  · cases read

/-- Opening an expression takes its delimiter. -/
theorem openSite_shrinks (reader : Reader) (kind : TokenKind) (delimiter : String)
    (nonempty : reader.rest ≠ []) (spelled : 0 < delimiter.length) :
    (reader.openSite kind delimiter).2.rest.length < reader.rest.length := by
  have positive := List.length_pos_iff.mpr nonempty
  simp [openSite]
  omega

/-- The value of an attribute takes at least its delimiter. -/
theorem readValue_shrinks {reader next : Reader} {site : Option Site} {name : String}
    {origin : Position} (read : reader.readValue name origin = .ok (site, next)) :
    next.rest.length < reader.rest.length := by
  unfold readValue at read
  split at read
  next front =>
    cases value : reader.readString '"' with
    | error fault => simp [value, Except.map] at read
    | ok result =>
        simp only [value, Except.map, Except.ok.injEq, Prod.mk.injEq] at read
        exact read.2 ▸ readString_shrinks (by simp [front]) value
  next front =>
    cases value : reader.readString '\'' with
    | error fault => simp [value, Except.map] at read
    | ok result =>
        simp only [value, Except.map, Except.ok.injEq, Prod.mk.injEq] at read
        exact read.2 ▸ readString_shrinks (by simp [front]) value
  next front =>
    simp only [Except.ok.injEq, Prod.mk.injEq] at read
    exact read.2 ▸ openSite_shrinks reader _ _ (by simp [front]) (by decide)
  next => cases read

/-- An attribute takes at least one character of its name. -/
theorem readAttribute_shrinks {reader next : Reader} {site : Option Site} {character : Char}
    {following : List Char} (front : reader.rest = character :: following)
    (starts : Spelling.isAttrNameStart character)
    (read : reader.readAttribute = .ok (site, next)) :
    next.rest.length < reader.rest.length := by
  have named : Spelling.isAttrNameChar character := by
    simp [Spelling.isAttrNameStart, Spelling.isAttrNameChar, Char.isAlphanum] at starts ⊢
    grind
  have positive : 0 < (reader.rest.takeWhile Spelling.isAttrNameChar).length := by
    simp [front, named]
  have length : 0 < reader.rest.length := by simp [front]
  unfold readAttribute at read
  simp only [] at read
  split at read
  next =>
    have shorter := readValue_shrinks read
    simp [skipBlank, skipWhile] at shorter ⊢
    omega
  next =>
    cases read
    simp [skipBlank, skipWhile]
    omega

/-- A step within text that goes on leaves less of the source. -/
theorem stepText_shrinks {reader next : Reader} {parent : Option OpenTag} {outer : List Mode}
    (stepped : reader.stepText parent outer = .ok (.more next)) :
    next.rest.length < reader.rest.length := by
  unfold stepText at stepped
  split at stepped
  next => split at stepped <;> cases stepped
  next front =>
    cases stepped
    split <;>
      simp only [rest_gather, front, List.length_drop, List.length_cons] <;> omega
  next front =>
    cases declared : reader.flushText.readDeclaration with
    | error fault => simp [declared, bind, Except.bind] at stepped
    | ok result =>
        simp only [declared, bind, Except.bind, Except.ok.injEq, Progress.more.injEq] at stepped
        have shorter := readDeclaration_shrinks (by simp [front]) declared
        simpa [← stepped] using shorter
  next front =>
    simp only [Except.ok.injEq, Progress.more.injEq] at stepped
    have shorter := openSite_shrinks reader.flushText .expressionStart "\x7b"
      (by simp [front]) (by decide)
    simpa [← stepped] using shorter
  next front =>
    split at stepped
    · cases closed : reader.flushText.closeTag parent with
      | error fault => simp [closed, bind, Except.bind] at stepped
      | ok result =>
          simp only [closed, bind, Except.bind, Except.ok.injEq, Progress.more.injEq] at stepped
          have shorter := closeTag_shrinks (by simp [front]) closed
          simpa [← stepped] using shorter
    · split at stepped
      · cases opened : reader.flushText.openTag with
        | error fault => simp [opened, bind, Except.bind] at stepped
        | ok result =>
            simp only [opened, bind, Except.bind, Except.ok.injEq, Progress.more.injEq] at stepped
            have shorter := openTag_shrinks (by simp [front]) opened
            simpa [← stepped] using shorter
      · cases stepped
        simp [front]

/-- A step among attributes that goes on leaves less of the source. -/
theorem stepAttributes_shrinks {reader next : Reader} {tag : OpenTag} {outer : List Mode}
    (stepped : reader.stepAttributes tag outer = .ok (.more next)) :
    next.rest.length < reader.rest.length := by
  refine Nat.lt_of_lt_of_le ?_ reader.length_rest_skipBlank_le
  unfold stepAttributes at stepped
  simp only [] at stepped
  split at stepped
  next => cases stepped
  next front =>
    cases stepped
    simp only [rest_enter, rest_emit, rest_skip, front, List.length_drop, List.length_cons]
    omega
  next front =>
    cases stepped
    simp [front]
  next front =>
    simp only [Except.ok.injEq, Progress.more.injEq] at stepped
    have shorter := openSite_shrinks reader.skipBlank .spreadStart "\x7b..."
      (by simp [front]) (by decide)
    simpa [← stepped] using shorter
  next => cases stepped
  next front =>
    split at stepped
    next starts =>
      cases read : reader.skipBlank.readAttribute with
      | error fault => simp [read, bind, Except.bind] at stepped
      | ok result =>
          obtain ⟨site, result⟩ := result
          have shorter := readAttribute_shrinks front starts read
          cases site <;>
            simp only [read, bind, Except.bind, Except.ok.injEq, Progress.more.injEq] at stepped <;>
            simpa [← stepped] using shorter
    next => cases stepped

/-- A step within an expression that goes on leaves less of the source. -/
theorem stepExpression_shrinks {reader next : Reader} {site : Site} {outer : List Mode}
    (stepped : reader.stepExpression site outer = .ok (.more next)) :
    next.rest.length < reader.rest.length := by
  unfold stepExpression at stepped
  simp only [] at stepped
  split at stepped
  next => cases stepped
  next front =>
    split at stepped
    · split at stepped <;> cases stepped <;>
        simp only [rest_gather, front, List.length_drop, List.length_cons] <;> omega
    · split at stepped
      · cases stepped
        simp [front]
      · split at stepped
        · split at stepped <;> cases stepped <;> simp [front]
        · split at stepped
          · cases opened : (reader.flushPiece site false).openTag with
            | error fault => simp [opened, bind, Except.bind] at stepped
            | ok result =>
                simp only [opened, bind, Except.bind, Except.ok.injEq, Progress.more.injEq]
                  at stepped
                have shorter := openTag_shrinks (by simp [front]) opened
                simpa [← stepped] using shorter
          · cases stepped
            simp [front]

/-- Every step that goes on leaves less of the source. -/
theorem step_shrinks {reader next : Reader} (stepped : reader.step = .ok (.more next)) :
    next.rest.length < reader.rest.length := by
  unfold step at stepped
  split at stepped
  · cases stepped
  · exact stepText_shrinks stepped
  · exact stepAttributes_shrinks stepped
  · exact stepExpression_shrinks stepped

/-- How reading ended: the last state reached and, unless the source was read to
its end, the fault met there. -/
structure Ending where
  reader : Reader
  fault : Option Fault
deriving DecidableEq, Repr

/-- Reads on until the source ends or a fault is met. -/
def run (reader : Reader) : Ending :=
  match _stepped : reader.step with
  | .error fault => ⟨reader, some fault⟩
  | .ok (.done final) => ⟨final, none⟩
  | .ok (.more next) => next.run
termination_by reader.rest.length
decreasing_by exact step_shrinks _stepped

/-- The tokens of an ending in reading order, closed by the end of input. -/
def Ending.tokens (ending : Ending) : List Token :=
  (⟨.eof, "", .point ending.reader.position⟩ :: ending.reader.tokens).reverse

/-- The tags that were opened, in reading order, each with the place of its `<`. -/
def Ending.openedTags (ending : Ending) : List (String × Position) :=
  opened ending.reader.tokens.reverse
where
  opened : List Token → List (String × Position)
    | mark :: name :: rest =>
        if mark.kind = .tagOpen then (name.value, mark.span.start) :: opened rest
        else opened (name :: rest)
    | _ => []

end Reader

/-- Reads a template's source into tokens. -/
def Token.read (source : String) : Except Fault (List Token) :=
  let ending := (Reader.start source).run
  match ending.fault with
  | some fault => .error fault
  | none => .ok ending.tokens

end MarkupTemplate
