import MarkupTemplate.Proofs.Reader.Continuation
import MarkupTemplate.Proofs.Reader.Placement

/-!
# Sources in a row

Unless a source ends in text, another one can be put behind it and both mean what
they mean on their own. The tokens are those of the first source followed by those
of the second, moved to where the first one ends, and the children of the two
templates stand side by side.
-/

namespace MarkupTemplate

open Spelling Text

namespace Reader

variable {reader : Reader} {parent : Option OpenTag} {outer : List Mode}

/-! ### Where text ends -/

/-- A character that is text of its own stays so if what decides it is there. -/
theorem IsLiteral.append {character : Char} {following : List Char}
    (isLiteral : IsLiteral character following) (goesOn : following ≠ [])
    (notMark : following ≠ ['/']) (behind : List Char) :
    IsLiteral character (following ++ behind) := by
  obtain ⟨second, more, rfl⟩ := List.exists_cons_of_ne_nil goesOn
  obtain ⟨notSite, notClosing, notOpening, notEscape⟩ := isLiteral
  refine ⟨notSite, ?_, ?_, ?_⟩
  · by_cases slash : second = '/'
    · subst slash
      have further : more ≠ [] := fun empty => notMark (by rw [empty])
      obtain ⟨third, more, rfl⟩ := List.exists_cons_of_ne_nil further
      rw [closesTag_slash] at notClosing
      rw [List.cons_append, List.cons_append, closesTag_slash, notClosing]
    · exact closesTag_of_ne slash _
  · rw [← List.cons_append, opensTag_append (by simp) behind]
    exact notOpening
  · simpa using notEscape

/-- Whether the last token that reading adds is text. -/
def EndsInText (reader : Reader) : Prop :=
  ∃ token ∈ reader.run.reader.tokens.head?, token.kind = .text

/-- How a reading ends does not depend on where it is taken up. -/
theorem endsInText_iff_of_run {next : Reader} (sameRun : reader.run = next.run) :
    reader.EndsInText ↔ next.EndsInText := by
  unfold EndsInText
  rw [sameRun]

/-- Text that is pending at the end becomes the last token. -/
theorem endsInText_of_pending (modes : reader.modes = .text parent :: outer)
    (ended : reader.rest = []) (pending : reader.pending ≠ [])
    (faultless : reader.run.fault = none) : reader.EndsInText := by
  cases parent with
  | some tag =>
      have fails : reader.Fails _ := .unclosed modes ended
      rw [run_of_error fails.step_eq] at faultless
      cases faultless
  | none =>
      have finished := run_of_done ((step_eq_done_iff modes).mpr ⟨rfl, ended, rfl⟩)
      have flushed : reader.flushText =
          reader.emit .text (String.ofList reader.pending.reverse) reader.pendingStart :=
        if_neg (by simpa using pending)
      unfold EndsInText
      rw [finished, flushed]
      exact ⟨_, rfl, rfl⟩

/-- Where the last token is not text, text does not reach the end of the source. -/
theorem keepsText_of_not_endsInText (notText : ¬ reader.EndsInText)
    (faultless : reader.run.fault = none) (behind : List Char) : reader.KeepsText behind := by
  intro parent outer character following modes front isLiteral
  have move : reader.Moves (reader.gather character) := .literal modes front isLiteral
  have sameRun := move.run_eq
  refine isLiteral.append ?_ ?_ behind
  · rintro rfl
    have ends : (reader.gather character).EndsInText :=
      endsInText_of_pending modes (by simp [front]) (by simp) (sameRun ▸ faultless)
    exact notText ((endsInText_iff_of_run sameRun).mpr ends)
  · rintro rfl
    have slash : IsLiteral '/' [] := ⟨by decide, rfl, rfl, by simp⟩
    have further : (reader.gather character).Moves ((reader.gather character).gather '/') :=
      .literal modes (by simp [front]) slash
    have sameRun := sameRun.trans further.run_eq
    have ends : ((reader.gather character).gather '/').EndsInText :=
      endsInText_of_pending modes (by simp [front]) (by simp) (sameRun ▸ faultless)
    exact notText ((endsInText_iff_of_run sameRun).mpr ends)

/-! ### Going on behind a source -/

/-- Where reading ends, the reader is in text outside every tag. -/
theorem InOrder.of_done {source : List Char} {final : Reader} (inOrder : reader.InOrder source)
    (stepped : reader.step = .ok (.done final)) :
    reader.modes = [.text none] ∧ reader.rest = [] ∧ final = reader.flushText.enter [] := by
  cases inOrder.coherent with
  | attributes modes =>
      obtain ⟨top, -⟩ := (step_eq_done_iff modes).mp stepped
      cases top
  | expression modes =>
      obtain ⟨top, -⟩ := (step_eq_done_iff modes).mp stepped
      cases top
  | text modes outline =>
      obtain ⟨top, ended, rfl⟩ := (step_eq_done_iff modes).mp stepped
      cases top
      cases outline with
      | top content => exact ⟨modes, ended, rfl⟩

/-- In text with nothing pending, the pending characters start where the reader
stands. -/
theorem InOrder.pendingStart_eq {source : List Char} (inOrder : reader.InOrder source)
    (modes : reader.modes = .text parent :: outer) (nothing : reader.pending = []) :
    reader.pendingStart = reader.position := by
  obtain ⟨passed, stretch, ⟨-, position⟩, start, -, pends⟩ := inOrder.tracks.stretch
  have spelled : reader.pending.reverse = unescape stretch := by
    unfold Pends at pends
    rw [modes] at pends
    exact pends.1
  rw [nothing] at spelled
  obtain rfl : stretch = [] := eq_nil_of_unescape spelled.symm
  rw [start, position, List.append_nil]

/-- Where reading ends, the whole source has been passed. -/
theorem InOrder.position_eq {source : List Char} (inOrder : reader.InOrder source)
    (ended : reader.rest = []) : reader.position = Position.after {} source := by
  obtain ⟨passed, stretch, ⟨whole, position⟩, -⟩ := inOrder.tracks.stretch
  rw [ended, List.append_nil] at whole
  rw [whole, position]

/-- A source that does not end in text is read up to its end when another one
follows, and then that one is read in its place. -/
theorem run_append {first : String} (faultless : (Reader.start first).run.fault = none)
    (notText : ¬ (Reader.start first).EndsInText) (second : String) :
    (Reader.start (first ++ second)).run =
      ((Reader.start second).placed ⟨Position.after {} first.toList,
        (Reader.start first).run.reader.tokens, none, [], 0⟩).run := by
  have along {reader next : Reader} (move : reader.Moves next)
      (sameRun : next.run = (Reader.start first).run) :
      (reader.followedBy second.toList).Moves (next.followedBy second.toList) := by
    have sameHere := move.run_eq.trans sameRun
    exact move.followedBy (unbroken_of_faultless (sameRun ▸ faultless))
      (keepsText_of_not_endsInText (mt (endsInText_iff_of_run sameHere).mp notText)
        (sameHere ▸ faultless) _)
  obtain ⟨last, inOrder, sameRun, stepped, sameThere⟩ :=
    exists_end_elsewhere faultless Moves.inOrder (inOrder_start first) fun move _ _ => along move
  obtain ⟨modes, ended, final⟩ := inOrder.of_done stepped
  have nothing : last.pending = [] := by
    by_contra pending
    have ends := endsInText_of_pending modes ended pending (sameRun ▸ faultless)
    exact notText ((endsInText_iff_of_run sameRun).mp ends)
  have level : last.openElements = 0 := by
    rw [inOrder.balanced, modes]
    rfl
  have flushed : last.flushText = last := if_pos (by simp [nothing])
  have behind := @eq_placed (last.followedBy second.toList) none [] modes nothing
    (inOrder.pendingStart_eq modes nothing)
  have together : Reader.start (first ++ second) =
      (Reader.start first).followedBy second.toList := by
    rw [Reader.start, String.toList_append]
    rfl
  rw [together, sameThere, behind, final, flushed, ← inOrder.position_eq ended, rest_followedBy,
    ended, openElements_followedBy, level]
  rfl

end Reader

/-- A source that is read has no fault, and its tokens are those that were added. -/
theorem Token.run_of_read {source : String} {content : List Token} {ending : Token}
    (reads : Token.read source = .ok (content ++ [ending])) :
    (Reader.start source).run.fault = none ∧
      (Reader.start source).run.reader.tokens.reverse = content := by
  unfold Token.read at reads
  simp only [] at reads
  split at reads
  · cases reads
  next faultless =>
    obtain ⟨last, split, -⟩ := (Reader.start source).run.exists_tokens
    exact ⟨faultless, (List.append_inj' (split.symm.trans (Except.ok.inj reads)) rfl).1⟩

/-- What a source is read as in a place with nothing open around it. -/
theorem Token.read_of_placed {source whole : String} {placement : Placement}
    (top : placement.IsTop)
    (sameRun : (Reader.start whole).run = ((Reader.start source).placed placement).run) :
    Token.read whole =
      placement.result (fun tokens => placement.before.reverse ++
        tokens.map (·.moved placement.origin)) (Token.read source) := by
  unfold Token.read
  rw [sameRun, Reader.run_placed _ top]
  obtain ⟨final, fault⟩ := (Reader.start source).run
  cases fault with
  | some fault => rfl
  | none => simp [Placement.result, Reader.Ending.tokens, Reader.placed, Token.moved, Span.moved,
      Span.point]

/-! ### Trees -/

/-- Where tokens stand does not matter to what they derive. -/
theorem Derives.moved {admits : List Node → Prop} {phrase : Phrase} {tokens : List Token}
    (derivation : Derives admits phrase tokens) (origin : Position) :
    Derives admits phrase (tokens.map (·.moved origin)) := by
  induction derivation with
  | noChildren => exact .noChildren
  | @text token _ _ isText more inductionHypothesis =>
      exact @Derives.text _ (token.moved origin) _ _ isText inductionHypothesis
  | @declaration token _ _ isDeclaration more inductionHypothesis =>
      exact @Derives.declaration _ (token.moved origin) _ _ isDeclaration inductionHypothesis
  | @site start stop _ _ _ _ starts stops inner more innerHypothesis moreHypothesis =>
      rw [List.map_cons, List.map_append, List.map_cons]
      exact @Derives.site _ (start.moved origin) (stop.moved origin) _ _ _ _ starts stops
        innerHypothesis moreHypothesis
  | child first more firstHypothesis moreHypothesis =>
      rw [List.map_append]
      exact .child firstHypothesis moreHypothesis
  | @selfClosing mark name stop _ _ opens names ends inner inductionHypothesis =>
      rw [List.map_cons, List.map_cons, List.map_append]
      exact @Derives.selfClosing _ (mark.moved origin) (name.moved origin) (stop.moved origin) _ _
        opens names ends inductionHypothesis
  | @enclosing mark name stop closeMark closeName closeStop _ _ _ _ opens names ends inner content
      closes closeNames closeEnds same innerHypothesis contentHypothesis =>
      rw [List.map_cons, List.map_cons, List.map_append, List.map_cons, List.map_append]
      exact @Derives.enclosing _ (mark.moved origin) (name.moved origin) (stop.moved origin)
        (closeMark.moved origin) (closeName.moved origin) (closeStop.moved origin) _ _ _ _ opens
        names ends innerHypothesis contentHypothesis closes closeNames closeEnds same
  | noAttributes => exact .noAttributes
  | @bare name _ _ names more inductionHypothesis =>
      exact @Derives.bare _ (name.moved origin) _ _ names inductionHypothesis
  | @quoted name equals value _ _ names equates quotes more inductionHypothesis =>
      exact @Derives.quoted _ (name.moved origin) (equals.moved origin) (value.moved origin) _ _
        names equates quotes inductionHypothesis
  | @valued name equals start stop _ _ _ _ names equates starts stops inner admitted more
      innerHypothesis moreHypothesis =>
      rw [List.map_cons, List.map_cons, List.map_cons, List.map_append, List.map_cons]
      exact @Derives.valued _ (name.moved origin) (equals.moved origin) (start.moved origin)
        (stop.moved origin) _ _ _ _ names equates starts stops innerHypothesis admitted
        moreHypothesis
  | @spread start stop _ _ _ _ starts stops inner admitted more innerHypothesis moreHypothesis =>
      rw [List.map_cons, List.map_append, List.map_cons]
      exact @Derives.spread _ (start.moved origin) (stop.moved origin) _ _ _ _ starts stops
        innerHypothesis admitted moreHypothesis
  | noPieces => exact .noPieces
  | @code token _ _ isCode more inductionHypothesis =>
      exact @Derives.code _ (token.moved origin) _ _ isCode inductionHypothesis
  | embedded first more firstHypothesis moreHypothesis =>
      rw [List.map_append]
      exact .embedded firstHypothesis moreHypothesis

/-- Whether tokens in front of the end of input make a template. -/
structure Template.IsMadeOf (template : Template) (content : List Token) : Prop where
  derives : Derives (fun _ => True) (.children template.children) content
  proper : ∀ tag ∈ Node.tagsAll template.children, Attribute.Proper tag
  shallow : Node.nestingAll template.children ≤ maxNesting

/-- A source spells exactly the template that its tokens make. -/
theorem Template.read_eq_ok_iff {source : String} {content : List Token} {ending : Token}
    (reads : Token.read source = .ok (content ++ [ending])) (template : Template) :
    Template.read source = .ok template ↔ template.IsMadeOf content := by
  have made : Template.read source = Template.ofTokens (content ++ [ending]) := by
    rw [Template.read, reads]
    rfl
  obtain ⟨nodes, derived, last, split, isEnd, derivation, -, -, -, shallow⟩ :=
    Token.read_derives reads
  obtain ⟨rfl, same⟩ := List.append_inj' split rfl
  cases same
  have ends : ∀ token ∈ [ending].head?, token.kind = .eof := by simpa using isEnd
  rw [made]
  constructor
  · intro makes
    rcases Template.ofTokens_of_derives derivation ends shallow with
      ⟨proper, accepted⟩ | ⟨-, fault, failed, -⟩
    · cases makes.symm.trans accepted
      exact ⟨derivation, proper, shallow⟩
    · cases makes.symm.trans failed
  · rintro ⟨derivation, proper, shallow⟩
    rcases Template.ofTokens_of_derives derivation ends shallow with
      ⟨-, accepted⟩ | ⟨improper, -⟩
    · exact accepted
    · exact absurd proper improper

/-- Tokens make the same template wherever they stand. -/
theorem Template.IsMadeOf.moved {template : Template} {content : List Token}
    (made : template.IsMadeOf content) (origin : Position) :
    template.IsMadeOf (content.map (·.moved origin)) :=
  ⟨made.derives.moved origin, made.proper, made.shallow⟩

/-- Templates whose tokens stand in a row make one template. -/
theorem Template.IsMadeOf.append {first second : Template} {content more : List Token}
    (firstMade : first.IsMadeOf content) (secondMade : second.IsMadeOf more) :
    Template.IsMadeOf ⟨first.children ++ second.children⟩ (content ++ more) where
  derives := firstMade.derives.extends _ _ secondMade.derives
  proper := by
    rw [Node.tagsAll_append]
    exact List.forall_mem_append.mpr ⟨firstMade.proper, secondMade.proper⟩
  shallow := by
    rw [Node.nestingAll_append]
    exact Nat.max_le.mpr ⟨firstMade.shallow, secondMade.shallow⟩

/-- A source that does not end in text can be put in front of any other source: both
are read as on their own, the second one from where the first one ends. -/
theorem Token.read_append_eq {first : String} {tokens : List Token} {ending : Token}
    (reads : Token.read first = .ok (tokens ++ [ending]))
    (notText : ∀ token ∈ tokens.getLast?, token.kind ≠ .text) (second : String) :
    Token.read (first ++ second) =
      Placement.result ⟨Position.after {} first.toList, tokens.reverse, none, [], 0⟩
        (fun more => tokens ++ more.map (·.moved (Position.after {} first.toList)))
        (Token.read second) := by
  obtain ⟨faultless, read⟩ := Token.run_of_read reads
  have notEnding : ¬ (Reader.start first).EndsInText := by
    rintro ⟨token, member, isText⟩
    refine notText token ?_ isText
    rwa [← read, List.getLast?_reverse]
  have sameRun := Reader.run_append faultless notEnding second
  rw [← List.reverse_reverse (Reader.start first).run.reader.tokens, read] at sameRun
  have placed := Token.read_of_placed ⟨rfl, rfl, rfl⟩ sameRun
  rwa [List.reverse_reverse] at placed

/-- Reading and putting together go piece by piece: behind a source that does not end
in text, any source is read as on its own, with its tokens or its fault moved, and
the two templates stand side by side. -/
theorem Template.read_append {first second : String} {tokens : List Token} {ending : Token}
    (reads : Token.read first = .ok (tokens ++ [ending]))
    (notText : ∀ token ∈ tokens.getLast?, token.kind ≠ .text) :
    (∀ more, Token.read second = .ok more →
      Token.read (first ++ second) =
        .ok (tokens ++ more.map (·.moved (Position.after {} first.toList)))) ∧
    (∀ fault, Token.read second = .error fault →
      Token.read (first ++ second) = .error (fault.moved (Position.after {} first.toList)) ∧
        (fault.moved (Position.after {} first.toList)).diagnostic =
          fault.diagnostic.moved (Position.after {} first.toList)) ∧
    ∀ front back, Template.read first = .ok front → Template.read second = .ok back →
      Template.read (first ++ second) = .ok ⟨front.children ++ back.children⟩ := by
  have together := Token.read_append_eq reads notText second
  refine ⟨fun more read => ?_, fun fault read => ?_, fun front back frontRead backRead => ?_⟩
  · rw [together, read]
    rfl
  · rw [together, read]
    exact ⟨rfl, rfl⟩
  · obtain ⟨all, readBack, -⟩ := Reader.bind_eq_ok backRead
    obtain ⟨-, more, last, rfl, -⟩ := Token.read_derives readBack
    have frontMade := (Template.read_eq_ok_iff reads front).mp frontRead
    have backMade := (Template.read_eq_ok_iff readBack back).mp backRead
    have read : Token.read (first ++ second) =
        .ok (tokens ++ more.map (·.moved (Position.after {} first.toList)) ++
          [last.moved (Position.after {} first.toList)]) := by
      rw [together, readBack]
      simp [Placement.result]
    exact (Template.read_eq_ok_iff read _).mpr (frontMade.append (backMade.moved _))

/-- A source of two lines that ends in a tag, in front of a source that breaks off and
in front of an expression. -/
theorem Template.read_append_secondLine :
    Token.read "\n<b/>" = .ok ([⟨.text, "\n", ⟨{}, ⟨1, 1, 0⟩⟩⟩,
        ⟨.tagOpen, "<", ⟨⟨1, 1, 0⟩, ⟨2, 1, 1⟩⟩⟩, ⟨.tagName, "b", ⟨⟨2, 1, 1⟩, ⟨3, 1, 2⟩⟩⟩,
        ⟨.tagSelfClose, "/>", ⟨⟨3, 1, 2⟩, ⟨5, 1, 4⟩⟩⟩] ++ [⟨.eof, "", .point ⟨5, 1, 4⟩⟩]) ∧
      Token.read ("\n<b/>" ++ "<c") =
        .error ⟨.unfinishedTag "c", ⟨⟨5, 1, 4⟩, ⟨7, 1, 6⟩⟩, none⟩ ∧
      ∃ front back, Template.read "\n<b/>" = .ok front ∧ Template.read "\x7bx\x7d" = .ok back ∧
        Template.read ("\n<b/>" ++ "\x7bx\x7d") = .ok ⟨front.children ++ back.children⟩ := by
  have reads : Token.read "\n<b/>" = .ok ([⟨.text, "\n", ⟨{}, ⟨1, 1, 0⟩⟩⟩,
      ⟨.tagOpen, "<", ⟨⟨1, 1, 0⟩, ⟨2, 1, 1⟩⟩⟩, ⟨.tagName, "b", ⟨⟨2, 1, 1⟩, ⟨3, 1, 2⟩⟩⟩,
      ⟨.tagSelfClose, "/>", ⟨⟨3, 1, 2⟩, ⟨5, 1, 4⟩⟩⟩] ++ [⟨.eof, "", .point ⟨5, 1, 4⟩⟩]) := by
    decide +kernel
  have firstSucceeds : (Template.read "\n<b/>").isOk = true := by decide +kernel
  have secondSucceeds : (Template.read "\x7bx\x7d").isOk = true := by decide +kernel
  obtain ⟨front, frontRead⟩ := exists_of_isOk firstSucceeds
  obtain ⟨back, backRead⟩ := exists_of_isOk secondSucceeds
  refine ⟨reads, ?_, front, back, frontRead, backRead, ?_⟩
  · exact ((Template.read_append reads (by simp)).2.1 ⟨.unfinishedTag "c", ⟨{}, ⟨2, 0, 2⟩⟩, none⟩
      (by decide +kernel)).1
  · exact (Template.read_append reads (by simp)).2.2 front back frontRead backRead

end MarkupTemplate
