import MarkupTemplate.Proofs.Assembly.Resolution

/-!
# What completes an assembly

Every unfinished construct on the stack still asks for tokens: an element for
more attributes or children and its close tag, an expression for more pieces and
its end. `Assembly.Completes` says that the tokens in front meet all that is
asked for, innermost construct first, by derivations of the grammar.

A step takes tokens from the front of what the state before it asks for, so
whatever completes the state after a step completes the state before it. Hence
every assembly that ends with a template was completed by a derivation.
-/

namespace MarkupTemplate

/-- The phrases of the grammar proper, in which the value of an attribute and a
spread have at least one piece. -/
abbrev DerivesFilled : Phrase → List Token → Prop := Derives (· ≠ [])

namespace Assembly

/-- Whether the tokens in front complete an assembly to a template. -/
inductive Completes : Assembly → Template → Prop where
  | top {assembly : Assembly} {nodes : List Node} {tokens rest : List Token}
      (top : assembly.frames = []) (front : assembly.rest = tokens ++ rest)
      (ends : ∀ token ∈ rest.head?, token.kind = .eof)
      (derivation : DerivesFilled (.children nodes) tokens)
      (distinct : Attribute.DistinctKeys (Node.tagsAll nodes))
      (shallow : Node.nestingAll nodes ≤ maxNesting) :
      Completes assembly ⟨assembly.root.reverse ++ nodes⟩
  | children {assembly : Assembly} {template : Template} {element : OpenElement}
      {before nodes : List Node} {outer : List Frame} {tokens rest : List Token}
      {mark name stop : Token}
      (within : assembly.frames = .children element before :: outer)
      (front : assembly.rest = tokens ++ mark :: name :: stop :: rest)
      (derivation : DerivesFilled (.children nodes) tokens)
      (distinct : Attribute.DistinctKeys (Node.tagsAll nodes))
      (shallow : Node.nestingAll nodes ≤ maxNesting - assembly.frames.countP Frame.isElement)
      (closes : mark.kind = .tagClose) (names : name.kind = .tagName)
      (stops : stop.kind = .tagEnd) (same : name.value = element.name)
      (outside : Completes
        ((assembly.goOn rest outer).place (element.finish (before.reverse ++ nodes))) template) :
      Completes assembly template
  | attributes {assembly next : Assembly} {template : Template}
      {element grown : OpenElement} {given : List Attribute} {outer : List Frame}
      {tokens rest : List Token} {stop : Token}
      (within : assembly.frames = .attributes element :: outer)
      (front : assembly.rest = tokens ++ stop :: rest)
      (derivation : DerivesFilled (.attributes given) tokens)
      (distinct : Attribute.DistinctKeys (Attribute.tagsAll given))
      (shallow : Attribute.nestingAll given
        ≤ maxNesting - assembly.frames.countP Frame.isElement)
      (fresh : Attribute.Fresh element.usedKeys given)
      (sameName : grown.name = element.name)
      (grows : grown.attributes = given.reverse ++ element.attributes)
      (ends : (stop.kind = .tagSelfClose ∧
          next = (assembly.goOn rest outer).place (grown.finish [])) ∨
        (stop.kind = .tagEnd ∧ next = assembly.goOn rest (.children grown [] :: outer)))
      (outside : Completes next template) : Completes assembly template
  | pieces {assembly next : Assembly} {template : Template} {purpose : Purpose}
      {before nodes : List Node} {outer : List Frame} {tokens rest : List Token} {stop : Token}
      (within : assembly.frames = .pieces purpose before :: outer)
      (front : assembly.rest = tokens ++ stop :: rest)
      (derivation : DerivesFilled (.pieces nodes) tokens)
      (distinct : Attribute.DistinctKeys (Node.tagsAll nodes))
      (shallow : Node.nestingAll nodes ≤ maxNesting - assembly.frames.countP Frame.isElement)
      (stops : stop.kind = .expressionEnd)
      (finishes : (assembly.goOn rest outer).finishPieces purpose (before.reverse ++ nodes)
        = .ok next)
      (outside : Completes next template) : Completes assembly template

namespace Completes

variable {assembly : Assembly} {template : Template} {following : List Token}
  {outer : List Frame}

/-- Children in front of those that complete an assembly. -/
theorem content (first : List Node) (tokens : List Token)
    (place : Frame.TakeContent assembly.frames)
    (front : assembly.rest = tokens ++ following)
    (prepends : ∀ nodes rest, DerivesFilled (.children nodes) rest →
      DerivesFilled (.children (first ++ nodes)) (tokens ++ rest))
    (distinct : Attribute.DistinctKeys (Node.tagsAll first))
    (shallow : Node.nestingAll first ≤ maxNesting - assembly.frames.countP Frame.isElement)
    (later : Completes ((assembly.goOn following assembly.frames).placeAll first) template) :
    Completes assembly template := by
  unfold Frame.TakeContent at place
  split at place
  next top =>
    rw [top, placeAll_top _ rfl] at later
    cases later with
    | @top _ nodes used rest _ restFront ends derivation restDistinct restShallow =>
        have whole : assembly.rest = (tokens ++ used) ++ rest := by
          rw [front, List.append_assoc]
          exact congrArg (tokens ++ ·) restFront
        have deep : Node.nestingAll (first ++ nodes) ≤ maxNesting := by
          rw [Node.nestingAll_append]
          omega
        have result := Completes.top top whole ends (prepends _ _ derivation)
          (by simpa using ⟨distinct, restDistinct⟩) deep
        simpa [goOn] using result
    | children within => cases within
    | attributes within => cases within
    | pieces within => cases within
  next element before outer within =>
    rw [within, placeAll_children] at later
    cases later with
    | top top => cases top
    | @children _ _ _ _ nodes _ used rest mark name stop sameFrames restFront derivation
        restDistinct restShallow closes names stops same outside =>
        cases sameFrames
        have whole : assembly.rest = (tokens ++ used) ++ mark :: name :: stop :: rest := by
          rw [front, List.append_assoc]
          exact congrArg (tokens ++ ·) restFront
        refine .children within whole (prepends _ _ derivation)
          (by simpa using ⟨distinct, restDistinct⟩) ?_ closes names stops same ?_
        · rw [within, Frame.countP_children] at shallow ⊢
          rw [frames_goOn, Frame.countP_children] at restShallow
          rw [Node.nestingAll_append]
          omega
        · simpa [List.append_assoc] using outside
    | attributes within => cases within
    | pieces within => cases within
  next => contradiction

/-- A piece in front of those that complete an expression. -/
theorem piece {purpose : Purpose} {before : List Node} {node : Node} (tokens : List Token)
    (within : assembly.frames = .pieces purpose before :: outer)
    (front : assembly.rest = tokens ++ following)
    (prepends : ∀ nodes rest, DerivesFilled (.pieces nodes) rest →
      DerivesFilled (.pieces (node :: nodes)) (tokens ++ rest))
    (distinct : Attribute.DistinctKeys node.tags)
    (shallow : node.nesting ≤ maxNesting - assembly.frames.countP Frame.isElement)
    (later : Completes
      (assembly.goOn following (.pieces purpose (node :: before) :: outer)) template) :
    Completes assembly template := by
  cases later with
  | top top => cases top
  | children sameFrames => cases sameFrames
  | attributes sameFrames => cases sameFrames
  | @pieces _ _ _ _ _ nodes _ used rest stop sameFrames restFront derivation restDistinct
      restShallow stops finishes outside =>
      cases sameFrames
      have whole : assembly.rest = (tokens ++ used) ++ stop :: rest := by
        rw [front, List.append_assoc]
        exact congrArg (tokens ++ ·) restFront
      refine .pieces within whole (prepends _ _ derivation)
        (by simpa [Node.tagsAll] using ⟨distinct, restDistinct⟩) ?_ stops ?_ outside
      · rw [within, Frame.countP_pieces] at shallow ⊢
        rw [frames_goOn, Frame.countP_pieces] at restShallow
        rw [Node.nestingAll]
        omega
      · simpa [List.append_assoc] using finishes

/-- An element in front of what completes an assembly. -/
theorem element {node : Node} {tokens : List Token} (place : Frame.TakeElement assembly.frames)
    (front : assembly.rest = tokens ++ following)
    (derivation : DerivesFilled (.element node) tokens)
    (distinct : Attribute.DistinctKeys node.tags)
    (shallow : node.nesting ≤ maxNesting - assembly.frames.countP Frame.isElement)
    (later : Completes ((assembly.goOn following assembly.frames).place node) template) :
    Completes assembly template := by
  have asContent (takes : Frame.TakeContent assembly.frames) :
      Completes assembly template :=
    content [node] tokens takes front (fun _ _ more => .child derivation more)
      (by simpa [Node.tagsAll] using distinct) (by simpa [Node.nestingAll] using shallow) later
  cases frames : assembly.frames with
  | nil => exact asContent (by rw [frames]; trivial)
  | cons frame outer =>
      cases frame with
      | attributes element =>
          rw [frames] at place
          exact place.elim
      | children element nodes => exact asContent (by rw [frames]; trivial)
      | pieces purpose nodes =>
          rw [frames, place_pieces] at later
          exact piece tokens frames front (fun _ _ more => .embedded derivation more) distinct shallow
            later

/-- An attribute in front of those that complete a tag. -/
theorem grow {element : OpenElement} (single : Attribute) (added : OpenElement)
    (tokens : List Token) (within : assembly.frames = .attributes element :: outer)
    (front : assembly.rest = tokens ++ following)
    (prepends : ∀ given rest, DerivesFilled (.attributes given) rest →
      DerivesFilled (.attributes (single :: given)) (tokens ++ rest))
    (distinct : Attribute.DistinctKeys single.tags)
    (shallow : single.nesting ≤ maxNesting - assembly.frames.countP Frame.isElement)
    (fresh : ∀ given, Attribute.Fresh added.usedKeys given →
      Attribute.Fresh element.usedKeys (single :: given))
    (sameName : added.name = element.name)
    (adds : added.attributes = single :: element.attributes)
    (later : Completes (assembly.goOn following (.attributes added :: outer)) template) :
    Completes assembly template := by
  cases later with
  | top top => cases top
  | children sameFrames => cases sameFrames
  | @attributes _ next _ _ grown given _ used rest stop sameFrames restFront derivation
      restDistinct restShallow restFresh grownName grows ends outside =>
      cases sameFrames
      have whole : assembly.rest = (tokens ++ used) ++ stop :: rest := by
        rw [front, List.append_assoc]
        exact congrArg (tokens ++ ·) restFront
      refine .attributes within whole (prepends _ _ derivation)
        (by simpa [Attribute.tagsAll] using ⟨distinct, restDistinct⟩) ?_ (fresh _ restFresh)
        (grownName.trans sameName) (by simp [grows, adds]) ends outside
      rw [within, Frame.countP_attributes] at shallow ⊢
      rw [frames_goOn, Frame.countP_attributes] at restShallow
      rw [Attribute.nestingAll]
      omega
  | pieces sameFrames => cases sameFrames

/-- The opening of a tag in front of what completes it. -/
theorem opening {mark name : Token} {rest : List Token} {span : Span}
    (place : Frame.TakeElement assembly.frames)
    (front : assembly.rest = mark :: name :: rest)
    (opens : mark.kind = .tagOpen) (names : name.kind = .tagName)
    (shallow : assembly.frames.countP Frame.isElement < maxNesting)
    (later : Completes (assembly.goOn rest
      (.attributes { name := name.value, opening := span } :: assembly.frames)) template) :
    Completes assembly template := by
  cases later with
  | top top => cases top
  | children sameFrames => cases sameFrames
  | @attributes _ next _ _ grown given _ used afterTag stop sameFrames tagFront derivation
      distinct deep fresh sameName grows ends outside =>
      cases sameFrames
      have keysDistinct := Attribute.fresh_nil_used_iff.mp fresh
      rw [List.append_nil] at grows
      rw [frames_goOn, Frame.countP_attributes] at deep
      rw [rest_goOn] at tagFront
      subst tagFront
      rcases ends with ⟨ends, rfl⟩ | ⟨ends, rfl⟩
      · have whole : assembly.rest = (mark :: name :: (used ++ [stop])) ++ afterTag := by
          simpa using front
        refine element place whole (.selfClosing opens names ends derivation)
          (by simpa [Node.tags, Node.tagsAll] using ⟨keysDistinct, distinct⟩)
          (by simp only [Node.nesting, Node.nestingAll]; omega) ?_
        simpa [OpenElement.finish, sameName, grows] using outside
      · cases outside with
        | top top => cases top
        | @children _ _ _ _ nodes _ body rest closeMark closeName closeStop sameFrames
            bodyFront content contentDistinct contentDeep closes closeNames stops same
            outside =>
            cases sameFrames
            rw [frames_goOn, Frame.countP_children] at contentDeep
            simp only [goOn_goOn, rest_goOn] at bodyFront
            subst bodyFront
            have whole : assembly.rest = (mark :: name :: (used ++ stop ::
                (body ++ [closeMark, closeName, closeStop]))) ++ rest := by
              simpa using front
            refine element place whole
              (.enclosing opens names ends derivation content closes closeNames stops
                (same.trans sameName))
              (by simpa [Node.tags] using ⟨keysDistinct, distinct, contentDistinct⟩)
              (by simp only [Node.nesting]; omega) ?_
            simpa [OpenElement.finish, sameName, grows] using outside
        | attributes sameFrames => cases sameFrames
        | pieces sameFrames => cases sameFrames
  | pieces sameFrames => cases sameFrames

/-- The opening of a child expression in front of what completes it. -/
theorem site {start : Token} {rest : List Token} (place : Frame.TakeContent assembly.frames)
    (front : assembly.rest = start :: rest) (starts : start.kind = .expressionStart)
    (later : Completes (assembly.goOn rest (.pieces .child [] :: assembly.frames)) template) :
    Completes assembly template := by
  cases later with
  | top top => cases top
  | children sameFrames => cases sameFrames
  | attributes sameFrames => cases sameFrames
  | @pieces _ next _ _ _ nodes _ inside afterSite stop sameFrames restFront derivation
      distinct shallow stops finishes outside =>
      cases sameFrames
      rw [frames_goOn, Frame.countP_pieces] at shallow
      rw [rest_goOn] at restFront
      subst restFront
      rw [finishPieces_child, List.reverse_nil, List.nil_append] at finishes
      cases finishes
      refine content _ (start :: (inside ++ [stop])) place (by simpa using front)
        (fun more rest continues => ?_) (by simpa using distinct) (by simpa using shallow)
        outside
      simpa using Derives.site starts stops derivation continues

/-- The opening of the value of an attribute in front of what completes it. -/
theorem value {name equals start : Token} {rest : List Token} {element : OpenElement}
    (within : assembly.frames = .attributes element :: outer)
    (front : assembly.rest = name :: equals :: start :: rest)
    (names : name.kind = .attrName) (equates : equals.kind = .attrEquals)
    (starts : start.kind = .expressionStart)
    (later : Completes (assembly.goOn rest
      (.pieces (.value name.value name.span start.span) [] :: .attributes element :: outer))
      template) :
    Completes assembly template := by
  cases later with
  | top top => cases top
  | children sameFrames => cases sameFrames
  | attributes sameFrames => cases sameFrames
  | @pieces _ next _ _ _ nodes _ inside afterSite stop sameFrames restFront derivation
      distinct shallow stops finishes outside =>
      cases sameFrames
      rw [frames_goOn, Frame.countP_pieces] at shallow
      rw [rest_goOn] at restFront
      subst restFront
      rw [goOn_goOn, List.reverse_nil, List.nil_append] at finishes
      obtain ⟨filled, unused, rfl⟩ := finishPieces_value_eq_ok_iff.mp finishes
      refine grow (.named name.value (.ofValue nodes))
        (element.withNamed name.value (.ofValue nodes) name.span) (name :: equals :: start :: (inside ++ [stop])) within
        (by simpa using front) (fun given rest continues => ?_)
        (by simpa [Attribute.tags] using distinct)
        (by rw [within]; simpa [Attribute.nesting] using shallow)
        (fun given fresh => Attribute.fresh_named_iff.mpr ⟨unused, fresh⟩) rfl rfl outside
      simpa using Derives.valued names equates starts stops derivation filled continues

/-- The opening of a spread in front of what completes it. -/
theorem spread {start : Token} {rest : List Token} {element : OpenElement}
    (within : assembly.frames = .attributes element :: outer)
    (front : assembly.rest = start :: rest) (starts : start.kind = .spreadStart)
    (later : Completes (assembly.goOn rest
      (.pieces (.spread start.span) [] :: .attributes element :: outer)) template) :
    Completes assembly template := by
  cases later with
  | top top => cases top
  | children sameFrames => cases sameFrames
  | attributes sameFrames => cases sameFrames
  | @pieces _ next _ _ _ nodes _ inside afterSite stop sameFrames restFront derivation
      distinct shallow stops finishes outside =>
      cases sameFrames
      rw [frames_goOn, Frame.countP_pieces] at shallow
      rw [rest_goOn] at restFront
      subst restFront
      rw [goOn_goOn, List.reverse_nil, List.nil_append] at finishes
      obtain ⟨filled, rfl⟩ := finishPieces_spread_eq_ok_iff.mp finishes
      refine grow (.spread nodes) (element.addSpread nodes) (start :: (inside ++ [stop])) within (by simpa using front)
        (fun given rest continues => ?_) (by simpa [Attribute.tags] using distinct)
        (by rw [within]; simpa [Attribute.nesting] using shallow)
        (fun given fresh => fresh) rfl rfl outside
      simpa using Derives.spread starts stops derivation filled continues

end Completes

/-- What completes the state after a move completes the state before it. -/
theorem Moves.completes {assembly next : Assembly} {template : Template}
    (move : assembly.Moves next) (later : next.Completes template) :
    assembly.Completes template := by
  cases move with
  | @text token following place front isText =>
      exact .content [.text token.value] [token] place front
        (fun _ _ more => .text isText more) (by simp [Node.tagsAll, Node.tags])
        (by simp [Node.nestingAll, Node.nesting]) later
  | @declaration token following place front isDeclaration =>
      exact .content [.declaration token.value] [token] place front
        (fun _ _ more => .declaration isDeclaration more) (by simp [Node.tagsAll, Node.tags])
        (by simp [Node.nestingAll, Node.nesting]) later
  | siteOpened place front starts => exact .site place front starts later
  | elementOpened place front opens names shallow =>
      exact .opening place front opens names shallow later
  | @selfClosed stop following element outer within front ends =>
      exact .attributes within (front.trans (List.nil_append _).symm) .noAttributes
        Attribute.distinctKeys_nil (Nat.zero_le _) (Attribute.fresh_nil _) rfl rfl
        (.inl ⟨ends, rfl⟩) later
  | @tagEnded stop following element outer within front ends =>
      exact .attributes within (front.trans (List.nil_append _).symm) .noAttributes
        Attribute.distinctKeys_nil (Nat.zero_le _) (Attribute.fresh_nil _) rfl rfl
        (.inr ⟨ends, rfl⟩) later
  | @bareNamed name following element added outer within front names alone adds =>
      obtain ⟨unused, rfl⟩ := OpenElement.addNamed_eq_ok_iff.mp adds
      exact .grow (.named name.value (.expression "true")) (element.withNamed _ _ name.span)
        [name] within front (fun _ _ more => .bare names more)
        (by simp [Attribute.tags, Node.tags]) (by simp [Attribute.nesting, Node.nesting])
        (fun given fresh => Attribute.fresh_named_iff.mpr ⟨unused, fresh⟩) rfl rfl later
  | @quoteNamed name equals value following element added outer within front names equates
      quotes adds =>
      obtain ⟨unused, rfl⟩ := OpenElement.addNamed_eq_ok_iff.mp adds
      exact .grow (.named name.value (.text value.value)) (element.withNamed _ _ name.span)
        [name, equals, value] within front (fun _ _ more => .quoted names equates quotes more)
        (by simp [Attribute.tags, Node.tags]) (by simp [Attribute.nesting, Node.nesting])
        (fun given fresh => Attribute.fresh_named_iff.mpr ⟨unused, fresh⟩) rfl rfl later
  | valueOpened within front names equates starts =>
      exact .value within front names equates starts later
  | spreadOpened within front starts => exact .spread within front starts later
  | elementClosed within front closes names ends same =>
      refine .children within (front.trans (List.nil_append _).symm) .noChildren
        Attribute.distinctKeys_nil (Nat.zero_le _) closes names ends same ?_
      simpa using later
  | @code token following purpose nodes outer within front isCode =>
      exact .piece [token] within front (fun _ _ more => .code isCode more)
        (by simp [Node.tags]) (by simp [Node.nesting]) later
  | siteClosed within front stops finishes =>
      refine .pieces within (front.trans (List.nil_append _).symm) .noPieces
        Attribute.distinctKeys_nil (Nat.zero_le _) stops ?_ later
      simpa using finishes

/-- An assembly that ends with a template is completed to it by the tokens in front. -/
theorem completes_of_run {assembly : Assembly} {template : Template}
    (finished : assembly.run = .ok template) : assembly.Completes template := by
  fun_induction run assembly with
  | case1 assembly fault stepped => cases finished
  | case2 assembly reached stepped =>
      cases finished
      obtain ⟨top, ends, rfl⟩ := step_eq_done_iff.mp stepped
      simpa using Completes.top top (List.nil_append assembly.rest).symm ends .noChildren
        Attribute.distinctKeys_nil (Nat.zero_le _)
  | case3 assembly next stepped inductionHypothesis =>
      exact (step_eq_more_iff.mp stepped).completes (inductionHypothesis finished)

end Assembly
end MarkupTemplate
