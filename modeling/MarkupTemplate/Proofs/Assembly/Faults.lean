import MarkupTemplate.Proofs.Assembly.Resolution
import MarkupTemplate.Proofs.Reader.Faults

/-!
# Where the faults of attributes lie

Where tokens are put together, a fault of attributes concerns the name of an
attribute or the delimiter of an expression. A repeated attribute also names the
one it repeats, which comes first. For this, the unfinished constructs have to
remember tokens that were taken, in the order in which they were.
-/

namespace MarkupTemplate

/-- Whether a fault concerns the name of an attribute or the delimiter of an
expression among tokens, and names only names of attributes in front of it. -/
def Fault.Concerns (fault : Fault) (tokens : List Token) : Prop :=
  ∃ before token behind, tokens = before ++ token :: behind ∧ fault.span = token.span ∧
    (token.kind = .attrName ∨ token.kind = .expressionStart ∨ token.kind = .spreadStart) ∧
    ∀ related ∈ fault.related, ∃ first ∈ before, first.kind = .attrName ∧ first.span = related

/-- A fault may concern a single token. -/
theorem Fault.concerns_of_mem {cause : Cause} {token : Token} {tokens : List Token}
    (member : token ∈ tokens)
    (kind : token.kind = .attrName ∨ token.kind = .expressionStart ∨ token.kind = .spreadStart) :
    Fault.Concerns ⟨cause, token.span, none⟩ tokens := by
  obtain ⟨before, behind, rfl⟩ := List.append_of_mem member
  exact ⟨before, token, behind, rfl, rfl, kind, by simp⟩

/-- Whether unfinished constructs remember stretches of tokens that were taken. The
keys of an element come from names in front of the name whose value is read. -/
inductive Frame.Recall : List Token → List Frame → Prop where
  | top {taken : List Token} : Recall taken []
  | attributes {taken : List Token} {element : OpenElement} {outer : List Frame}
      (further : Recall taken outer)
      (uses : ∀ use ∈ element.uses, ∃ name ∈ taken,
        name.kind = .attrName ∧ name.span = use.span) :
      Recall taken (.attributes element :: outer)
  | children {taken : List Token} {element : OpenElement} {nodes : List Node}
      {outer : List Frame} (further : Recall taken outer) :
      Recall taken (.children element nodes :: outer)
  | child {taken : List Token} {nodes : List Node} {outer : List Frame}
      (further : Recall taken outer) : Recall taken (.pieces .child nodes :: outer)
  | value {taken before between : List Token} {name start : Token} {text : String}
      {nodes : List Node} {element : OpenElement} {outer : List Frame}
      (further : Recall before (.attributes element :: outer))
      (order : taken = before ++ name :: between) (names : name.kind = .attrName)
      (member : start ∈ between) (starts : start.kind = .expressionStart) :
      Recall taken
        (.pieces (.value text name.span start.span) nodes :: .attributes element :: outer)
  | spread {taken : List Token} {start : Token} {nodes : List Node} {element : OpenElement}
      {outer : List Frame} (further : Recall taken (.attributes element :: outer))
      (member : start ∈ taken) (starts : start.kind = .spreadStart) :
      Recall taken (.pieces (.spread start.span) nodes :: .attributes element :: outer)

namespace Frame.Recall

variable {taken : List Token} {frames outer : List Frame} {element : OpenElement}

/-- What is remembered stays when more tokens are taken. -/
theorem grow (recalls : Recall taken frames) (more : List Token) :
    Recall (taken ++ more) frames := by
  induction recalls with
  | top => exact .top
  | attributes _ uses inductionHypothesis =>
      refine .attributes inductionHypothesis fun use member => ?_
      obtain ⟨name, taken, same⟩ := uses use member
      exact ⟨name, List.mem_append_left _ taken, same⟩
  | children _ inductionHypothesis => exact .children inductionHypothesis
  | child _ inductionHypothesis => exact .child inductionHypothesis
  | value further order names member starts =>
      exact .value further (by rw [order, List.append_assoc, List.cons_append]) names
        (List.mem_append_left more member) starts
  | spread _ member starts inductionHypothesis =>
      exact .spread inductionHypothesis (List.mem_append_left _ member) starts

/-- Which pieces an expression has so far does not matter. -/
theorem withPieces {purpose : Purpose} {nodes : List Node}
    (recalls : Recall taken (.pieces purpose nodes :: outer)) (other : List Node) :
    Recall taken (.pieces purpose other :: outer) := by
  cases recalls with
  | child further => exact .child further
  | value further order names member starts => exact .value further order names member starts
  | spread further member starts => exact .spread further member starts

/-- Below the attributes of an element. -/
theorem tail (recalls : Recall taken (.attributes element :: outer)) : Recall taken outer := by
  cases recalls with
  | attributes further => exact further

/-- A named attribute is remembered by its name. -/
theorem withNamed {name : String} {value : Node} {token : Token}
    (recalls : Recall taken (.attributes element :: outer)) (member : token ∈ taken)
    (names : token.kind = .attrName) :
    Recall taken (.attributes (element.withNamed name value token.span) :: outer) := by
  cases recalls with
  | attributes further uses =>
      exact .attributes further (List.forall_mem_cons.mpr ⟨⟨token, member, names, rfl⟩, uses⟩)

/-- Spreading a value adds no key. -/
theorem addSpread {pieces : List Node} (recalls : Recall taken (.attributes element :: outer)) :
    Recall taken (.attributes (element.addSpread pieces) :: outer) := by
  cases recalls with
  | attributes further uses => exact .attributes further uses

end Frame.Recall

namespace Assembly

variable {assembly next : Assembly} {taken tokens : List Token} {fault : Fault}
  {element : OpenElement} {outer : List Frame}

/-- Placing a node changes nothing that is remembered. -/
theorem recall_place {node : Node} (recalls : Frame.Recall taken assembly.frames) :
    Frame.Recall taken (assembly.place node).frames := by
  unfold place
  split
  next frames =>
    rw [frames] at recalls
    cases recalls with
    | children further => exact .children further
  next frames =>
    rw [frames] at recalls
    exact recalls.withPieces _
  next => exact recalls

/-- Handing on the pieces of an expression remembers the name they are a value of. -/
theorem recall_finishPieces {rest : List Token} {purpose : Purpose} {nodes pieces : List Node}
    (recalls : Frame.Recall taken (.pieces purpose nodes :: outer))
    (finishes : (assembly.goOn rest outer).finishPieces purpose pieces = .ok next) :
    Frame.Recall taken next.frames := by
  cases recalls with
  | child further =>
      rw [finishPieces_child] at finishes
      cases finishes
      cases Node.ofPieces pieces with
      | none => exact further
      | some node => exact recall_place further
  | value further order names member starts =>
      obtain ⟨-, -, rfl⟩ := finishPieces_value_eq_ok_iff.mp finishes
      subst order
      exact (further.grow _).withNamed (by simp) names
  | spread further =>
      obtain ⟨-, rfl⟩ := finishPieces_spread_eq_ok_iff.mp finishes
      exact further.addSpread

/-- Every move remembers tokens that were taken. -/
theorem Moves.recalls (move : assembly.Moves next) (split : tokens = taken ++ assembly.rest)
    (recalls : Frame.Recall taken assembly.frames) :
    ∃ more, tokens = taken ++ more ++ next.rest ∧ Frame.Recall (taken ++ more) next.frames := by
  cases move with
  | @text token following content front isText =>
      exact ⟨[token], by simp [split, front], recall_place (recalls.grow [token])⟩
  | @declaration token following content front isDeclaration =>
      exact ⟨[token], by simp [split, front], recall_place (recalls.grow [token])⟩
  | @siteOpened start following content front starts =>
      exact ⟨[start], by simp [split, front], .child (recalls.grow [start])⟩
  | @elementOpened mark name following content front opens names shallow =>
      refine ⟨[mark, name], by simp [split, front], .attributes (recalls.grow _) ?_⟩
      exact fun use member => by cases member
  | @selfClosed stop following element outer within front ends =>
      rw [within] at recalls
      exact ⟨[stop], by simp [split, front], recall_place (recalls.tail.grow [stop])⟩
  | @tagEnded stop following element outer within front ends =>
      rw [within] at recalls
      exact ⟨[stop], by simp [split, front], .children (recalls.tail.grow [stop])⟩
  | @bareNamed name following element added outer within front names alone adds =>
      rw [within] at recalls
      obtain ⟨-, rfl⟩ := OpenElement.addNamed_eq_ok_iff.mp adds
      exact ⟨[name], by simp [split, front], (recalls.grow [name]).withNamed (by simp) names⟩
  | @quoteNamed name equals value following element added outer within front names equates quotes
      adds =>
      rw [within] at recalls
      obtain ⟨-, rfl⟩ := OpenElement.addNamed_eq_ok_iff.mp adds
      exact ⟨[name, equals, value], by simp [split, front],
        (recalls.grow _).withNamed (by simp) names⟩
  | @valueOpened name equals start following element outer within front names equates starts =>
      rw [within] at recalls
      exact ⟨[name, equals, start], by simp [split, front],
        .value recalls rfl names (by simp) starts⟩
  | @spreadOpened start following element outer within front starts =>
      rw [within] at recalls
      exact ⟨[start], by simp [split, front], .spread (recalls.grow [start]) (by simp) starts⟩
  | @elementClosed mark name stop following element nodes outer within front closes names ends
      same =>
      rw [within] at recalls
      cases recalls with
      | children further =>
          exact ⟨[mark, name, stop], by simp [split, front], recall_place (further.grow _)⟩
  | @code token following purpose nodes outer within front isCode =>
      rw [within] at recalls
      exact ⟨[token], by simp [split, front], (recalls.grow [token]).withPieces _⟩
  | @siteClosed stop following purpose nodes outer next within front stops finishes =>
      rw [within] at recalls
      refine ⟨[stop], ?_, recall_finishPieces (recalls.grow [stop]) finishes⟩
      simp [split, front, rest_finishPieces finishes]

/-! ### Faults -/

/-- An expected token that is missing is no fault of attributes. -/
theorem not_concernsAttributes_unexpected (assembly : Assembly) (expected : Expectation) :
    ¬ (assembly.unexpected expected).ConcernsAttributes := by
  simp [unexpected, Fault.ConcernsAttributes, Cause.kind]

theorem expect_eq_error {kind : TokenKind} (failed : assembly.expect kind = .error fault) :
    ¬ fault.ConcernsAttributes := by
  unfold expect at failed
  split at failed
  · split at failed
    · cases failed
    · cases failed
      exact not_concernsAttributes_unexpected _ _
  · cases failed
    exact not_concernsAttributes_unexpected _ _

/-- Opening an element meets no fault of attributes. -/
theorem openElement_eq_error (failed : assembly.openElement = .error fault) :
    ¬ fault.ConcernsAttributes := by
  unfold openElement at failed
  rcases Reader.bind_eq_error failed with unmarked | ⟨⟨mark, marked⟩, -, failed⟩
  · exact expect_eq_error unmarked
  rcases Reader.bind_eq_error failed with unnamed | ⟨⟨name, named⟩, -, failed⟩
  · exact expect_eq_error unnamed
  simp only [] at failed
  split at failed
  · cases failed
    simp [Fault.ConcernsAttributes, Cause.kind]
  · cases failed

/-- Closing an element meets no fault of attributes. -/
theorem closeElement_eq_error {nodes : List Node}
    (failed : assembly.closeElement element nodes outer = .error fault) :
    ¬ fault.ConcernsAttributes := by
  unfold closeElement at failed
  rcases Reader.bind_eq_error failed with unmarked | ⟨⟨mark, marked⟩, -, failed⟩
  · exact expect_eq_error unmarked
  rcases Reader.bind_eq_error failed with unnamed | ⟨⟨name, named⟩, -, failed⟩
  · exact expect_eq_error unnamed
  rcases Reader.bind_eq_error failed with unstopped | ⟨⟨stop, stopped⟩, -, failed⟩
  · exact expect_eq_error unstopped
  simp only [] at failed
  split at failed
  · cases failed
  · cases failed
    simp [Fault.ConcernsAttributes, Cause.kind]

/-- Reading content meets no fault of attributes. -/
theorem stepContent_eq_error {token : Token} {following : List Token}
    (failed : assembly.stepContent token following = .error fault) :
    ¬ fault.ConcernsAttributes := by
  unfold stepContent at failed
  split at failed
  next => cases failed
  next => cases failed
  next => cases failed
  next => exact openElement_eq_error failed
  next =>
    cases failed
    simp [Fault.ConcernsAttributes, Cause.kind]
  next => cases failed
  next =>
    cases failed
    exact not_concernsAttributes_unexpected _ _

/-- Reading among children meets no fault of attributes. -/
theorem stepChildren_eq_error {nodes : List Node}
    (failed : assembly.stepChildren element nodes outer = .error fault) :
    ¬ fault.ConcernsAttributes := by
  unfold stepChildren at failed
  split at failed
  next =>
    cases failed
    simp [Fault.ConcernsAttributes, Cause.kind]
  next =>
    split at failed
    next => exact closeElement_eq_error failed
    next =>
      cases failed
      simp [Fault.ConcernsAttributes, Cause.kind]
    next => exact stepContent_eq_error failed

/-- A name that repeats a key is at fault, and the first use of the key is named. -/
theorem concerns_of_addNamed {before behind : List Token} {name : Token} {text : String}
    {value : Node} (recalls : Frame.Recall before (.attributes element :: outer))
    (names : name.kind = .attrName)
    (failed : element.addNamed text value name.span = .error fault) :
    fault.Concerns (before ++ name :: behind) := by
  unfold OpenElement.addNamed at failed
  simp only [] at failed
  split at failed
  next first found =>
    cases failed
    cases recalls with
    | attributes _ uses =>
        have earlier := uses first (List.mem_of_find?_eq_some found)
        exact ⟨before, name, behind, rfl, rfl, .inl names, by simpa using earlier⟩
  next => cases failed

/-- A fault of attributes that is met at the name of one. -/
theorem concerns_of_stepAttributes (split : tokens = taken ++ assembly.rest)
    (recalls : Frame.Recall taken (.attributes element :: outer))
    (failed : assembly.stepAttributes element outer = .error fault)
    (concerns : fault.ConcernsAttributes) : fault.Concerns tokens := by
  unfold stepAttributes at failed
  split at failed
  next =>
    cases failed
    simp [Fault.ConcernsAttributes, Cause.kind] at concerns
  next token following front =>
    rw [front] at split
    split at failed
    next => cases failed
    next => cases failed
    next names =>
      have repeated {text : String} {value : Node}
          (failed : element.addNamed text value token.span = .error fault) :
          fault.Concerns tokens := split ▸ concerns_of_addNamed recalls names failed
      unfold stepAttribute at failed
      split at failed
      next =>
        split at failed
        next =>
          cases failed
          exact absurd concerns (not_concernsAttributes_unexpected _ _)
        next =>
          split at failed
          next =>
            rcases Reader.bind_eq_error failed with used | ⟨added, -, further⟩
            · exact repeated used
            · cases further
          next => cases failed
          next =>
            cases failed
            exact absurd concerns (not_concernsAttributes_unexpected _ _)
      next =>
        rcases Reader.bind_eq_error failed with used | ⟨added, -, further⟩
        · exact repeated used
        · cases further
    next => cases failed
    next =>
      cases failed
      simp [Fault.ConcernsAttributes, Cause.kind] at concerns
    next =>
      cases failed
      exact absurd concerns (not_concernsAttributes_unexpected _ _)

/-- A delimiter whose expression has no pieces, or a name whose key is repeated, is
at fault where the expression ends. -/
theorem concerns_of_finishPieces {rest behind : List Token} {purpose : Purpose}
    {nodes pieces : List Node} (recalls : Frame.Recall taken (.pieces purpose nodes :: outer))
    (failed : (assembly.goOn rest outer).finishPieces purpose pieces = .error fault) :
    fault.Concerns (taken ++ behind) := by
  cases recalls with
  | child further =>
      rw [finishPieces_child] at failed
      cases failed
  | value further order names member starts =>
      subst order
      rw [finishPieces_value] at failed
      split at failed
      next =>
        cases failed
        exact Fault.concerns_of_mem (by simp [member]) (.inr (.inl starts))
      next =>
        rw [List.append_assoc, List.cons_append]
        exact concerns_of_addNamed further names (Reader.map_eq_error failed)
  | spread further member starts =>
      rw [finishPieces_spread] at failed
      split at failed
      next =>
        cases failed
        exact Fault.concerns_of_mem (List.mem_append_left _ member) (.inr (.inr starts))
      next => cases failed

/-- A fault of attributes that is met within an expression. -/
theorem concerns_of_stepPieces {purpose : Purpose} {nodes : List Node}
    (split : tokens = taken ++ assembly.rest)
    (recalls : Frame.Recall taken (.pieces purpose nodes :: outer))
    (failed : assembly.stepPieces purpose nodes outer = .error fault)
    (concerns : fault.ConcernsAttributes) : fault.Concerns tokens := by
  unfold stepPieces at failed
  split at failed
  next =>
    cases failed
    simp [Fault.ConcernsAttributes, Cause.kind] at concerns
  next =>
    split at failed
    next => cases failed
    next => exact absurd concerns (openElement_eq_error failed)
    next => exact split ▸ concerns_of_finishPieces recalls failed
    next =>
      cases failed
      simp [Fault.ConcernsAttributes, Cause.kind] at concerns
    next =>
      cases failed
      exact absurd concerns (not_concernsAttributes_unexpected _ _)

/-- Every fault of attributes concerns a token. -/
theorem concerns_of_step (split : tokens = taken ++ assembly.rest)
    (recalls : Frame.Recall taken assembly.frames) (failed : assembly.step = .error fault)
    (concerns : fault.ConcernsAttributes) : fault.Concerns tokens := by
  unfold step at failed
  split at failed
  next within =>
    rw [within] at recalls
    exact concerns_of_stepAttributes split recalls (Reader.map_eq_error failed) concerns
  next => exact absurd concerns (stepChildren_eq_error (Reader.map_eq_error failed))
  next within =>
    rw [within] at recalls
    exact concerns_of_stepPieces split recalls (Reader.map_eq_error failed) concerns
  next =>
    split at failed
    next => cases failed
    next =>
      split at failed
      next => cases failed
      next => exact absurd concerns (stepContent_eq_error (Reader.map_eq_error failed))

/-- Every fault of attributes that is met along the way concerns a token. -/
theorem concerns_of_run (split : tokens = taken ++ assembly.rest)
    (recalls : Frame.Recall taken assembly.frames) (failed : assembly.run = .error fault)
    (concerns : fault.ConcernsAttributes) : fault.Concerns tokens := by
  fun_induction run assembly generalizing taken with
  | case1 assembly other stepped =>
      cases failed
      exact concerns_of_step split recalls stepped concerns
  | case2 assembly template stepped => cases failed
  | case3 assembly next stepped inductionHypothesis =>
      obtain ⟨more, further, recalls⟩ := (step_eq_more_iff.mp stepped).recalls split recalls
      exact inductionHypothesis further recalls failed

end Assembly

/-- A fault of attributes that is met where tokens are put together concerns one of
them. -/
theorem Template.concerns_of_ofTokens {tokens : List Token} {fault : Fault}
    (failed : Template.ofTokens tokens = .error fault) (concerns : fault.ConcernsAttributes) :
    fault.Concerns tokens :=
  Assembly.concerns_of_run (List.nil_append tokens).symm .top failed concerns

end MarkupTemplate
