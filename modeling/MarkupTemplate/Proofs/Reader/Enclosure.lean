import MarkupTemplate.Proofs.Printing.RoundTrip
import MarkupTemplate.Proofs.Reader.Concatenation
import MarkupTemplate.Proofs.Reader.Levels

/-!
# A source inside an element

What a source means does not change when it becomes the content of an element.
Between `<name>` and `</name>` it is read as on its own, one level deeper, and its
children become those of the element. Only a backslash at its end would escape the
closing tag.
-/

namespace MarkupTemplate

open Spelling Text

/-- The end tag of a name. -/
def endTag (name : String) : List Char := '<' :: '/' :: (name.toList ++ ['>'])

/-- Whether a place is the one behind `<name>` at the start of a source. -/
structure Placement.IsWithin (placement : Placement) (name : String) : Prop where
  parent : ∃ tag, placement.parent = some tag ∧ tag.name = name
  outer : placement.outer = [.text none]
  level : placement.level = 1
  before : ∃ mark tagName stop : Token, placement.before = [stop, tagName, mark] ∧
    mark.kind = .tagOpen ∧ tagName.kind = .tagName ∧ tagName.value = name ∧ stop.kind = .tagEnd

namespace Reader

variable {reader next : Reader} {placement : Placement} {name : String}

/-! ### In front of an end tag -/

/-- A character that is text of its own stays so in front of an end tag, unless it
escapes it. -/
theorem IsLiteral.append_endTag {character : Char} {following : List Char}
    (isLiteral : IsLiteral character following) (noEscape : character = '\\' → following ≠ [])
    (name : String) : IsLiteral character (following ++ endTag name) := by
  by_cases empty : following = []
  · subst empty
    refine ⟨isLiteral.notSite, closesTag_of_ne (by decide) _, ?_,
      fun isEscape => absurd rfl (noEscape isEscape)⟩
    rw [endTag, List.nil_append, opensTag_cons_cons, Bool.and_eq_false_imp]
    exact fun _ => by decide
  by_cases mark : following = ['/']
  · subst mark
    refine ⟨isLiteral.notSite, ?_, ?_, by simp [isEscapable]⟩
    · rw [endTag, List.singleton_append, closesTag_slash, Bool.and_eq_false_imp]
      exact fun _ => by decide
    · rw [List.singleton_append, opensTag_cons_cons, Bool.and_eq_false_imp]
      exact fun _ => by decide
  · exact isLiteral.append empty mark _

/-- Text in front of an end tag is the same as at the end of a source that does not
end in a backslash. -/
theorem InOrder.keepsText_endTag {source : List Char} (inOrder : reader.InOrder source)
    (noEscape : source.getLast? ≠ some '\\') (name : String) :
    reader.KeepsText (endTag name) := by
  intro parent outer character following modes front isLiteral
  refine isLiteral.append_endTag ?_ name
  rintro rfl rfl
  obtain ⟨passed, stretch, ⟨whole, -⟩, -⟩ := inOrder.tracks.stretch
  rw [whole, front] at noEscape
  simp at noEscape

/-! ### Opening and closing -/

/-- Behind `<name>` at the start, what follows is read as the children of a tag. -/
theorem exists_within (isTagName : IsTagName name.toList) {source : String}
    {following : List Char} (front : source.toList = '<' :: (name.toList ++ '>' :: following)) :
    ∃ placement : Placement, placement.IsWithin name ∧
      (Reader.start source).run = (({ rest := following } : Reader).placed placement).run := by
  obtain ⟨opens, tag, opened, opening, opensTag, sameName, behind⟩ :=
    @exists_opened (Reader.start source) name ('>' :: following) isTagName front
      (by simp [isTagNameChar]) (by simp [Reader.start, maxNesting])
  obtain ⟨mark, tagName, tokens, isMark, isName, value⟩ := opensTag.tokens
  have named : (Reader.start source).Moves (opened.enter [.attributes tag, .text none]) :=
    .openChild rfl opens opening
  have ahead : (opened.enter [.attributes tag, .text none]).skipBlank.rest = '>' :: following :=
    rest_skipBlank_of_solid behind (by decide)
  obtain ⟨entered, move, modes, nothing, here, rest, level, stop, ended, isStop⟩ :
      ∃ entered : Reader, (opened.enter [.attributes tag, .text none]).Moves entered ∧
        entered.modes = [.text (some tag), .text none] ∧ entered.pending = [] ∧
        entered.pendingStart = entered.position ∧ entered.rest = following ∧
        entered.openElements = 1 ∧
        ∃ stop : Token, entered.tokens = stop :: opened.tokens ∧ stop.kind = .tagEnd :=
    ⟨_, .endTag rfl ahead, rfl, rfl, rfl, by simp [ahead], opensTag.openElements,
      ⟨.tagEnd, _, _⟩, rfl, rfl⟩
  have placed := eq_placed modes nothing here
  rw [rest] at placed
  refine ⟨⟨entered.position, entered.tokens, some tag, [.text none], entered.openElements⟩,
    ⟨⟨tag, rfl, sameName⟩, rfl, level, mark, tagName, stop, ?_, isMark, isName,
      value.trans sameName, isStop⟩, ?_⟩
  · rw [ended, tokens]
    rfl
  · rw [named.run_eq, move.run_eq]
    exact congrArg run placed

/-- A source that has been read to its end within an element is closed by the end tag
of the element. -/
theorem InOrder.run_endTag {source : List Char} {final : Reader} (inOrder : reader.InOrder source)
    (stepped : reader.step = .ok (.done final)) (within : placement.IsWithin name)
    (isTagName : IsTagName name.toList) :
    ∃ (ended : Reader) (mark tagName stop : Token),
      ((reader.followedBy (endTag name)).placed placement).run = ⟨ended, none⟩ ∧
      ended.tokens = stop :: tagName :: mark ::
        (final.tokens.map (·.moved placement.origin) ++ placement.before) ∧
      mark.kind = .tagClose ∧ tagName.kind = .tagName ∧ tagName.value = name ∧
      stop.kind = .tagEnd := by
  obtain ⟨modes, ended, rfl⟩ := inOrder.of_done stepped
  obtain ⟨tag, parent, sameName⟩ := within.parent
  obtain ⟨letter, others, whole, isLetter⟩ := isTagName.exists_cons
  have here : ((reader.followedBy (endTag name)).placed placement).modes =
      [.text (some tag), .text none] := by
    have inside := @modes_placed (reader.followedBy (endTag name)) placement _ _ modes
    simpa [Mode.placed, Placement.parentOf, parent, within.outer] using inside
  have front : ((reader.followedBy (endTag name)).placed placement).rest = endTag name := by
    simp [ended]
  have closes : closesTag ((reader.followedBy (endTag name)).placed placement).rest := by
    rw [front, endTag, whole]
    exact isLetter
  have flushed : ((reader.followedBy (endTag name)).placed placement).flushText =
      (reader.flushText.followedBy (endTag name)).placed placement := by
    rw [flushText_placed, flushText_followedBy]
  obtain ⟨closed, isClosed, nothing⟩ := @exists_closeTag
    ((reader.followedBy (endTag name)).placed placement).flushText tag []
    (sameName ▸ isTagName.spelled) (by rw [rest_flushText, front, sameName]; rfl)
  obtain ⟨_, same, closing⟩ := closesTag_of_closeTag isClosed
  cases same
  obtain ⟨mark, tagName, stop, tokens, isMark, isName, isStop, value⟩ := closing.tokens
  have move : ((reader.followedBy _).placed placement).Moves (closed.enter [.text none]) :=
    .closeElement here closes isClosed
  have top : (closed.enter [.text none]).modes = [.text none] := rfl
  have finished := run_of_done ((step_eq_done_iff top).mpr ⟨rfl, nothing, rfl⟩)
  refine ⟨_, mark, tagName, stop, move.run_eq.trans finished, ?_, isMark, isName,
    value.trans sameName, isStop⟩
  rw [flushed] at tokens
  exact tokens

/-- A source that is not too deep is read to its end within an element. -/
theorem exists_end_within {source : String} {nodes : List Node}
    (faultless : (Reader.start source).run.fault = none)
    (derives : Derives (fun _ => True) (.children nodes)
      (Reader.start source).run.reader.tokens.reverse)
    (shallow : Node.nestingAll nodes ≤ maxNesting - 1)
    (noEscape : source.toList.getLast? ≠ some '\\') (within : placement.IsWithin name) :
    ∃ last : Reader, last.InOrder source.toList ∧
      last.step = .ok (.done (Reader.start source).run.reader) ∧
      (((Reader.start source).followedBy (endTag name)).placed placement).run =
        ((last.followedBy (endTag name)).placed placement).run := by
  obtain ⟨last, ⟨inOrder, -⟩, -, stepped, sameThere⟩ := @exists_end_elsewhere source
    (fun reader => reader.InOrder source.toList ∧ (Reader.start source).Counts reader)
    (fun reader => (reader.followedBy (endTag name)).placed placement) faultless
    (fun move held => ⟨move.inOrder held.1, held.2.trans move.counts⟩)
    ⟨inOrder_start source, .refl _⟩
    (by
      rintro reader next move ⟨inOrder, -⟩ ⟨-, counts⟩ sameRun
      have further := move.followedBy (unbroken_of_faultless (sameRun ▸ faultless))
        (inOrder.keepsText_endTag noEscape name)
      refine further.placed (.inr ⟨inOrder.balanced, ?_⟩)
      have level := counts.openElements_le sameRun derives
      have positive : 0 < maxNesting := by decide
      rw [openElements_followedBy, within.level]
      omega)
  exact ⟨last, inOrder, stepped, sameThere⟩

end Reader

/-- A source is read as what was added by the time reading has ended. -/
theorem Token.read_of_run {source : String} {final : Reader}
    (finished : (Reader.start source).run = ⟨final, none⟩) :
    Token.read source =
      .ok (final.tokens.reverse ++ [⟨.eof, "", .point final.position⟩]) := by
  unfold Token.read
  rw [finished]
  simp [Reader.Ending.tokens]

/-! ### Trees -/

/-- Tokens between those of a start tag and of its end tag make an element of the
children that they make on their own. -/
theorem Template.IsMadeOf.enclosed {template : Template} {content : List Token}
    (made : template.IsMadeOf content)
    (shallow : Node.nestingAll template.children ≤ maxNesting - 1)
    {name : String} {mark tagName stop closeMark closeName closeStop : Token}
    (opens : mark.kind = .tagOpen) (names : tagName.kind = .tagName) (value : tagName.value = name)
    (ends : stop.kind = .tagEnd) (closes : closeMark.kind = .tagClose)
    (closeNames : closeName.kind = .tagName) (closeValue : closeName.value = name)
    (closeEnds : closeStop.kind = .tagEnd) :
    Template.IsMadeOf ⟨[.element name [] template.children]⟩
      (mark :: tagName :: stop :: (content ++ [closeMark, closeName, closeStop])) where
  derives := by
    have element := Derives.enclosing opens names ends .noAttributes made.derives closes
      closeNames closeEnds (closeValue.trans value.symm)
    rw [value] at element
    simpa using Derives.child element .noChildren
  proper := by
    simpa [Node.tagsAll, Node.tags, Attribute.tagsAll, Attribute.Proper] using made.proper
  shallow := by
    have positive : 0 < maxNesting := by decide
    simp only [Node.nestingAll, Node.nesting, Attribute.nestingAll]
    omega

/-- A source that spells a template spells the same children between the two tags of
an element, unless they lie too deep for it or a backslash escapes the end tag. -/
theorem Template.read_enclosed {source name : String} {template : Template}
    (spells : Template.read source = .ok template)
    (shallow : Node.nestingAll template.children ≤ maxNesting - 1)
    (noEscape : source.toList.getLast? ≠ some '\\') (isTagName : IsTagName name.toList) :
    Template.read ("<" ++ name ++ ">" ++ source ++ "</" ++ name ++ ">") =
      .ok ⟨[.element name [] template.children]⟩ := by
  obtain ⟨tokens, reads, -⟩ := Reader.bind_eq_ok spells
  obtain ⟨-, content, ending, rfl, -⟩ := Token.read_derives reads
  have made := (Template.read_eq_ok_iff reads template).mp spells
  obtain ⟨faultless, added⟩ := Token.run_of_read reads
  -- Reading goes past the start tag, through the source and past the end tag.
  obtain ⟨placement, within, entered⟩ := @Reader.exists_within name isTagName
    ("<" ++ name ++ ">" ++ source ++ "</" ++ name ++ ">") (source.toList ++ endTag name)
    (by simp [endTag])
  obtain ⟨last, inOrder, stepped, passed⟩ := Reader.exists_end_within faultless
    (added ▸ made.derives) shallow noEscape within
  obtain ⟨ended, closeMark, closeName, closeStop, finished, all, closes, closeNames, closeValue,
    closeEnds⟩ := inOrder.run_endTag stepped within isTagName
  obtain ⟨mark, tagName, stop, before, opens, names, value, ends⟩ := within.before
  have whole := Token.read_of_run (entered.trans (passed.trans finished))
  have split : ended.tokens.reverse = mark :: tagName :: stop ::
      (content.map (·.moved placement.origin) ++ [closeMark, closeName, closeStop]) := by
    rw [all, before, ← added]
    simp
  rw [split] at whole
  exact (Template.read_eq_ok_iff whole _).mpr ((made.moved _).enclosed shallow opens names value
    ends closes closeNames closeValue closeEnds)

/-- A source that ends in the first characters of an end tag, within an element of a
compound name. -/
theorem Template.read_enclosed_mark :
    ∃ template, Template.read "\\<<a b/>\x7bx\x7d </" = .ok template ∧
      Node.nestingAll template.children ≤ maxNesting - 1 ∧ IsTagName "p.q".toList ∧
      Template.read ("<" ++ "p.q" ++ ">" ++ "\\<<a b/>\x7bx\x7d </" ++ "</" ++ "p.q" ++ ">") =
        .ok ⟨[.element "p.q" [] template.children]⟩ := by
  have isTagName : IsTagName "p.q".toList :=
    ⟨⟨'p', rfl, by decide⟩, List.all_eq_true.mp (by decide), by decide, by decide⟩
  have fits : ((Template.read "\\<<a b/>\x7bx\x7d </").toOption.any fun template =>
      Nat.ble (Node.nestingAll template.children) (maxNesting - 1)) = true := by decide +kernel
  cases spells : Template.read "\\<<a b/>\x7bx\x7d </" with
  | error fault =>
      rw [spells] at fits
      cases fits
  | ok template =>
      rw [spells] at fits
      have shallow := Nat.le_of_ble_eq_true fits
      exact ⟨template, rfl, shallow, isTagName,
        Template.read_enclosed spells shallow (by decide) isTagName⟩

end MarkupTemplate
