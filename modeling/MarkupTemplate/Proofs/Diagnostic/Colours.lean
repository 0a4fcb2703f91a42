import MarkupTemplate.Diagnostic.Report
import MarkupTemplate.Proofs.Text.Lines

/-!
# Colours change nothing that is shown

A terminal does not show escape sequences: one that switches colours ends with the
next `m`, one that starts or ends a link with the next bell. `displayed` is what is left
of a text without them. A report in colour displays the plain report, character by
character, for every diagnostic and every source, so that the carets of both stand under
the same characters. The texts that a report is made of must not contain escape
sequences of their own.
-/

namespace MarkupTemplate

namespace Terminal

/-! ### What a terminal shows -/

/-- What follows the first occurrence of a character. -/
def behindFirst? (mark : Char) : List Char → Option (List Char)
  | [] => none
  | character :: rest => if character = mark then some rest else behindFirst? mark rest

/-- What follows the escape sequence that a text starts with. -/
def behindSequence? : List Char → Option (List Char)
  | '\x1b' :: '[' :: rest => behindFirst? 'm' rest
  | '\x1b' :: ']' :: '8' :: ';' :: ';' :: rest => behindFirst? '\x07' rest
  | _ => none

theorem behindFirst?_shrinks {mark : Char} {characters behind : List Char}
    (found : behindFirst? mark characters = some behind) :
    behind.length < characters.length := by
  induction characters with
  | nil => cases found
  | cons character rest inductionHypothesis =>
      rw [behindFirst?] at found
      split at found
      · cases found
        exact Nat.lt_succ_self _
      · exact Nat.lt_succ_of_lt (inductionHypothesis found)

theorem behindSequence?_shrinks {characters behind : List Char}
    (found : behindSequence? characters = some behind) :
    behind.length < characters.length := by
  unfold behindSequence? at found
  split at found
  · have shorter := behindFirst?_shrinks found
    simp only [List.length_cons]
    omega
  · have shorter := behindFirst?_shrinks found
    simp only [List.length_cons]
    omega
  · cases found

/-- A text without its escape sequences. -/
def displayed (characters : List Char) : List Char :=
  match characters with
  | [] => []
  | character :: rest =>
      match _found : behindSequence? (character :: rest) with
      | some behind => displayed behind
      | none => character :: displayed rest
termination_by characters.length
decreasing_by
  · exact behindSequence?_shrinks _found
  · exact Nat.lt_succ_self _

theorem displayed_nil : displayed [] = [] := by
  rw [displayed.eq_def]

/-- An escape sequence is not shown. -/
theorem displayed_sequence {characters behind : List Char}
    (found : behindSequence? characters = some behind) :
    displayed characters = displayed behind := by
  cases characters with
  | nil => cases found
  | cons character rest =>
      rw [displayed.eq_def]
      simp only []
      split
      next other => cases found.symm.trans other; rfl
      next none => cases found.symm.trans none

/-- A character that starts no escape sequence is shown. -/
theorem displayed_cons {character : Char} (silent : character ≠ '\x1b') (rest : List Char) :
    displayed (character :: rest) = character :: displayed rest := by
  have nothing : behindSequence? (character :: rest) = none := by
    unfold behindSequence?
    split
    next same => exact absurd (List.cons.inj same).1 silent
    next same => exact absurd (List.cons.inj same).1 silent
    next => rfl
  rw [displayed.eq_def]
  simp only []
  split
  next found => cases nothing.symm.trans found
  next => rfl

/-! ### Texts that show others -/

/-- Whether a text shows another one, whatever follows it. -/
def Displays (written shown : String) : Prop :=
  ∀ rest, displayed (written.toList ++ rest) = shown.toList ++ displayed rest

/-- Whether a text has no escape sequences. -/
def IsSilent (text : String) : Prop := '\x1b' ∉ text.toList

instance (text : String) : Decidable (IsSilent text) :=
  inferInstanceAs (Decidable ('\x1b' ∉ text.toList))

theorem Displays.append {written shown further others : String} (first : Displays written shown)
    (second : Displays further others) : Displays (written ++ further) (shown ++ others) := by
  intro rest
  rw [String.toList_append, String.toList_append, List.append_assoc, first, second,
    List.append_assoc]

/-- A text without escape sequences shows itself. -/
theorem IsSilent.displays {text : String} (silent : IsSilent text) : Displays text text := by
  intro rest
  unfold IsSilent at silent
  generalize text.toList = characters at silent ⊢
  induction characters with
  | nil => rfl
  | cons character characters inductionHypothesis =>
      rw [List.mem_cons, not_or] at silent
      rw [List.cons_append, displayed_cons (Ne.symm silent.1), inductionHypothesis silent.2]
      rfl

theorem Displays.displayed_eq {written shown : String} (displays : Displays written shown) :
    displayed written.toList = shown.toList := by
  have whole := displays []
  rwa [List.append_nil, displayed_nil, List.append_nil] at whole

/-- An ink is switched to without a trace. -/
theorem displayed_ink (ink : Ink) (rest : List Char) :
    displayed (ink.sequence.toList ++ rest) = displayed rest := by
  refine displayed_sequence ?_
  cases ink <;> rfl

theorem displays_ink (ink : Ink) : Displays (Style.coloured.ink ink) (Style.plain.ink ink) :=
  displayed_ink ink

/-- A link is started without a trace, to whatever address. -/
theorem displays_link {address : String} (bellless : '\x07' ∉ address.toList) :
    Displays ("\x1b]8;;" ++ address ++ "\x07") "" := by
  have passes (rest : List Char) :
      behindFirst? '\x07' (address.toList ++ '\x07' :: rest) = some rest := by
    generalize address.toList = characters at bellless
    induction characters with
    | nil => rfl
    | cons character characters inductionHypothesis =>
        rw [List.mem_cons, not_or] at bellless
        rw [List.cons_append, behindFirst?, if_neg (Ne.symm bellless.1),
          inductionHypothesis bellless.2]
  intro rest
  have written : ("\x1b]8;;" ++ address ++ "\x07").toList ++ rest =
      '\x1b' :: ']' :: '8' :: ';' :: ';' :: (address.toList ++ '\x07' :: rest) := by
    simp
  rw [written]
  exact displayed_sequence (passes rest)

/-! ### Texts without escape sequences -/

namespace IsSilent

variable {text other : String}

theorem append (first : IsSilent text) (second : IsSilent other) : IsSilent (text ++ other) := by
  unfold IsSilent
  rw [String.toList_append, List.mem_append, not_or]
  exact ⟨first, second⟩

theorem repeated {character : Char} (isShown : character ≠ '\x1b') (count : Nat) :
    IsSilent (repeated character count) := by
  unfold IsSilent MarkupTemplate.repeated
  rw [String.toList_ofList, List.mem_replicate]
  exact fun member => isShown member.2.symm

theorem alignRight (silent : IsSilent text) (width : Nat) : IsSilent (alignRight width text) :=
  (IsSilent.repeated (by decide) _).append silent

/-- Numbers are written with digits. -/
theorem number (value : Nat) : IsSilent (toString value) := by
  intro member
  rw [Nat.toString_eq_repr, Nat.toList_repr] at member
  have isDigit := Nat.isDigit_of_mem_toDigits (by decide) (by decide) member
  cases isDigit

theorem title (kind : Diagnostic.Kind) : IsSilent kind.title := by
  cases kind <;> decide

/-- The lines of a text are made of its characters. -/
theorem line (silent : IsSilent text) (listed : other ∈ Text.lines text) : IsSilent other :=
  fun member => silent (Text.mem_of_mem_lines listed member)

end IsSilent

/-! ### Reports -/

/-- Texts in a row show what each of them shows. -/
theorem displays_join {α : Type} {written shown : α → String} {items : List α}
    (displays : ∀ item ∈ items, Displays (written item) (shown item)) :
    Displays (String.join (items.map written)) (String.join (items.map shown)) := by
  induction items with
  | nil => exact fun rest => rfl
  | cons item items inductionHypothesis =>
      rw [List.forall_mem_cons] at displays
      rw [List.map_cons, List.map_cons, String.join_cons, String.join_cons]
      exact displays.1.append (inductionHypothesis displays.2)

/-- Highlighting adds escape sequences only. -/
theorem displayed_highlightFrom {characters : List Char} (silent : '\x1b' ∉ characters)
    (inName : Bool) (rest : List Char) :
    displayed (highlightFrom inName characters ++ rest) = characters ++ displayed rest := by
  have ending (inName : Bool) (further : List Char) :
      displayed ((if inName then Ink.normal.sequence.toList else []) ++ further) =
        displayed further := by
    cases inName with
    | false => rfl
    | true => exact displayed_ink .normal further
  induction characters generalizing inName with
  | nil => exact ending inName rest
  | cons character characters inductionHypothesis =>
      rw [List.mem_cons, not_or] at silent
      have shows := displayed_cons (Ne.symm silent.1)
      have others := inductionHypothesis silent.2
      rw [highlightFrom]
      split
      next => rw [List.cons_append, shows, others]; rfl
      next =>
        rw [List.append_assoc, ending]
        split
        next opens =>
          rw [← opens.1, List.append_assoc, displayed_ink, List.cons_append, shows, others]
          rfl
        next =>
          split
          next closes =>
            rw [← closes, List.append_assoc, List.append_assoc, displayed_ink, List.cons_append,
              shows, displayed_ink, others]
            rfl
          next =>
            split
            next =>
              rw [List.append_assoc, List.append_assoc, displayed_ink, List.cons_append,
                shows, displayed_ink, others]
              rfl
            next => rw [List.cons_append, shows, others]; rfl

theorem displays_sourceLine {line : String} (silent : IsSilent line) :
    Displays (Style.coloured.sourceLine line) (Style.plain.sourceLine line) := by
  intro rest
  simp only [Style.sourceLine, String.toList_ofList]
  exact displayed_highlightFrom silent false rest

theorem displays_gutter {text : String} (silent : IsSilent text) (width : Nat) :
    Displays (Style.coloured.gutter width text) (Style.plain.gutter width text) :=
  (((displays_ink .faint).append (silent.alignRight width).displays).append
    (IsSilent.displays (by decide))).append (displays_ink .normal)

/-- Snippets show the same lines and carets. -/
theorem displays_snippet {lines : List String} (silent : ∀ line ∈ lines, IsSilent line)
    (width : Nat) (span : Span) {label : Option String}
    (silentLabel : ∀ text ∈ label, IsSilent text) :
    Displays (Style.coloured.snippet lines width span label)
      (Style.plain.snippet lines width span label) := by
  unfold Style.snippet
  split
  next => exact IsSilent.displays (by decide)
  next line found =>
    have space : Displays " " " " := IsSilent.displays (by decide)
    have lineEnd : Displays "\n" "\n" := IsSilent.displays (by decide)
    have number := displays_gutter (.number (span.start.line + 1)) width
    have shown := displays_sourceLine (silent line (List.mem_of_getElem? found))
    have margin := @displays_gutter "" (by decide) width
    have indent := (@IsSilent.repeated ' ' (by decide) span.start.col).displays
    have carets := (@IsSilent.repeated '^' (by decide) (span.caretCount line)).displays
    refine .append (.append (.append (((((number.append space).append shown).append lineEnd).append
      margin).append space |>.append indent) ?_) (displays_ink .normal)) lineEnd
    cases label with
    | none => exact (displays_ink .error).append carets
    | some text =>
        exact (((displays_ink .faint).append carets).append space).append
          (silentLabel text rfl).displays

theorem displays_advice {help : String} (silent : IsSilent help) :
    Displays (Style.coloured.advice help) (Style.plain.advice help) := by
  have silentLine {line : String} (listed : line ∈ Text.lines help) : Displays line line :=
    (silent.line listed).displays
  unfold Style.advice
  split
  next => exact IsSilent.displays (by decide)
  next first rest lines =>
    rw [lines] at silentLine
    have space : Displays " " " " := IsSilent.displays (by decide)
    have lineEnd : Displays "\n" "\n" := IsSilent.displays (by decide)
    have heading : Displays "help:" "help:" := IsSilent.displays (by decide)
    have indent : Displays "       " "       " := IsSilent.displays (by decide)
    refine ((((((space.append (displays_ink .advice)).append heading).append
      (displays_ink .normal)).append space).append (silentLine List.mem_cons_self)).append
      lineEnd).append (displays_join fun line member => ?_)
    exact (indent.append (silentLine (List.mem_cons_of_mem _ member))).append lineEnd

end Terminal

namespace Diagnostic

open Terminal

variable {diagnostic : Diagnostic} {source filename : String}

theorem isSilent_location (silent : IsSilent filename) :
    IsSilent (diagnostic.location filename) :=
  (((silent.append (by decide)).append (.number _)).append (by decide)).append (.number _)

/-- A stretch is shown without a label, or with that of the report. -/
theorem caption_of_mem {stretch : Span × Option String} (member : stretch ∈ diagnostic.stretches) :
    stretch.2 = none ∨ stretch.2 = some (diagnostic.label.getD "opened here") := by
  unfold stretches at member
  split at member
  next =>
    rw [List.mem_singleton.mp member]
    exact .inl rfl
  next related _ =>
    have listed : stretch ∈ [(related, some (diagnostic.label.getD "opened here")),
        (diagnostic.span, none)] := by
      simp only [] at member
      split at member
      · exact member
      · exact (List.Perm.swap _ _ _).mem_iff.mp member
    rcases List.mem_cons.mp listed with rfl | own
    · exact .inr rfl
    · rw [List.mem_singleton.mp own]
      exact .inl rfl

theorem isSilent_caption (silent : ∀ text ∈ diagnostic.label, IsSilent text)
    {stretch : Span × Option String} (member : stretch ∈ diagnostic.stretches) :
    ∀ text ∈ stretch.2, IsSilent text := by
  intro text labelled
  rcases caption_of_mem member with unlabelled | same
  · cases unlabelled.symm.trans labelled
  · cases same.symm.trans labelled
    cases given : diagnostic.label with
    | none => decide
    | some label => exact silent label given

/-- The link to the file shows the place. -/
theorem displays_place (silent : IsSilent filename) (bellless : '\x07' ∉ filename.toList) :
    Displays (diagnostic.place .coloured filename) (diagnostic.place .plain filename) := by
  have space : Displays " " " " := IsSilent.displays (by decide)
  have lineEnd : Displays "\n" "\n" := IsSilent.displays (by decide)
  have heading : Displays "file:" "file:" := IsSilent.displays (by decide)
  have location : Displays (diagnostic.location filename) (diagnostic.location filename) :=
    (isSilent_location silent).displays
  have started : Displays ("\x1b]8;;" ++ ("file://" ++ filename) ++ "\x07") "" :=
    displays_link (by simpa using bellless)
  have ended : Displays ("\x1b]8;;" ++ "" ++ "\x07") "" := displays_link (by decide)
  have displays := (((((((((space.append (displays_ink .faint)).append heading).append
    (displays_ink .normal)).append space).append started).append
    (displays_ink .underline)).append location).append (displays_ink .normal)).append
    ended).append lineEnd
  intro rest
  have shown := displays rest
  simpa [place, Style.ink] using shown

/-- A report in colour displays the plain report, provided that neither its texts nor the
source have escape sequences of their own, and the name of the file does not end the link
to it. -/
theorem displayed_render {diagnostic : Diagnostic} {source filename : String}
    (message : IsSilent diagnostic.message) (label : ∀ text ∈ diagnostic.label, IsSilent text)
    (help : ∀ text ∈ diagnostic.help, IsSilent text) (silent : IsSilent source)
    (file : IsSilent filename) (bellless : '\x07' ∉ filename.toList) :
    displayed (diagnostic.render .coloured source filename).toList =
      (diagnostic.render .plain source filename).toList := by
  have space : Displays " " " " := IsSilent.displays (by decide)
  have lineEnd : Displays "\n" "\n" := IsSilent.displays (by decide)
  have opening : Displays "error[" "error[" := IsSilent.displays (by decide)
  have closing : Displays "]:" "]:" := IsSilent.displays (by decide)
  have place := @displays_place diagnostic filename file bellless
  have title := (IsSilent.title diagnostic.kind).displays
  have margin := @displays_gutter "" (by decide) diagnostic.gutterWidth
  have snippets : Displays
      (String.join (diagnostic.stretches.map fun stretch =>
        Style.coloured.snippet (Text.lines source) diagnostic.gutterWidth stretch.1 stretch.2))
      (String.join (diagnostic.stretches.map fun stretch =>
        Style.plain.snippet (Text.lines source) diagnostic.gutterWidth stretch.1 stretch.2)) :=
    displays_join fun stretch member =>
      displays_snippet (fun line => silent.line) _ stretch.1 (isSilent_caption label member)
  have body := (((((((((((lineEnd.append place).append (displays_ink .error)).append opening).append
    title).append closing).append (displays_ink .normal)).append space).append
    message.displays).append lineEnd).append margin).append lineEnd).append snippets
  apply Displays.displayed_eq
  unfold render
  cases given : diagnostic.help with
  | none => exact (body.append (IsSilent.displays (by decide))).append lineEnd
  | some text =>
      exact (body.append (lineEnd.append (displays_advice (help text given)))).append lineEnd

/-- A report whose second stretch comes later, on a line that ends within the name of a tag,
with advice on two lines. -/
theorem displayed_render_later :
    displayed (render ⟨.duplicateAttribute, "'b' is set twice.", ⟨⟨3, 0, 3⟩, ⟨4, 0, 4⟩⟩,
        some ⟨⟨9, 1, 0⟩, ⟨9, 1, 9⟩⟩, some "here", some "Drop it\nor not."⟩ .coloured
        "<a b=\x7bc\x7d\n></a.-" "page").toList =
      (render ⟨.duplicateAttribute, "'b' is set twice.", ⟨⟨3, 0, 3⟩, ⟨4, 0, 4⟩⟩,
        some ⟨⟨9, 1, 0⟩, ⟨9, 1, 9⟩⟩, some "here", some "Drop it\nor not."⟩ .plain
        "<a b=\x7bc\x7d\n></a.-" "page").toList := by
  have given {text other : String} (silent : IsSilent text) (same : other ∈ some text) :
      IsSilent other := by
    cases same
    exact silent
  exact displayed_render (by decide) (fun _ => given (by decide)) (fun _ => given (by decide))
    (by decide) (by decide) (by decide)

end Diagnostic
end MarkupTemplate
