import Mathlib.Logic.Relation
import MarkupTemplate.Content.Buffer
import MarkupTemplate.Proofs.Content.Entities

/-!
# What a buffer gathers

However deeply contents are grouped into lists, a buffer gathers their leaves from
left to right: trusted markup as it is, text escaped, and nothing for an empty
content. Two sequences of contents can be turned into each other by grouping and
ungrouping neighbours exactly if they have the same leaves, so that grouping never
matters to a buffer.
-/

namespace MarkupTemplate

/-- A content that is no list. -/
inductive Leaf where
  | safe (markup : Markup)
  | text (text : String)
  | empty
deriving DecidableEq, Repr

namespace Leaf

/-- The markup of a leaf. -/
def html : Leaf → String
  | safe markup => markup.html
  | text plain => escapeMarkup plain
  | empty => ""

/-- A leaf as a content. -/
def content : Leaf → Content
  | safe markup => .safe markup
  | text plain => .text plain
  | empty => .empty

end Leaf

namespace Content

mutual

/-- The leaves of a content, from left to right. -/
def leaves : Content → List Leaf
  | .safe markup => [.safe markup]
  | .text plain => [.text plain]
  | .list items => leavesAll items
  | .empty => [.empty]

/-- The leaves of contents, from left to right. -/
def leavesAll : List Content → List Leaf
  | [] => []
  | item :: items => leaves item ++ leavesAll items

end

theorem leavesAll_eq_flatMap (contents : List Content) :
    leavesAll contents = contents.flatMap leaves := by
  induction contents with
  | nil => rfl
  | cons content contents inductionHypothesis =>
      rw [leavesAll, inductionHypothesis, List.flatMap_cons]

theorem leavesAll_append (first second : List Content) :
    leavesAll (first ++ second) = leavesAll first ++ leavesAll second := by
  simp only [leavesAll_eq_flatMap, List.flatMap_append]

/-! ### Regrouping -/

/-- Whether neighbours in one sequence of contents are a list in the other. -/
inductive Groups : List Content → List Content → Prop where
  | neighbours (front items back : List Content) :
      Groups (front ++ items ++ back) (front ++ .list items :: back)

/-- Whether two sequences of contents differ only in how they are grouped into lists. -/
def Regrouped : List Content → List Content → Prop := Relation.EqvGen Groups

/-- A list is taken apart where it stands. -/
theorem regrouped_list (front items back : List Content) :
    Regrouped (front ++ .list items :: back) (front ++ items ++ back) :=
  .symm _ _ (.rel _ _ (.neighbours front items back))

mutual

/-- A content is taken apart into its leaves where it stands. -/
theorem regrouped_leaves (front back : List Content) : (content : Content) →
    Regrouped (front ++ content :: back) (front ++ content.leaves.map Leaf.content ++ back)
  | .list items =>
      .trans _ _ _ (regrouped_list front items back) (regrouped_leavesAll front back items)
  | .safe _ | .text _ | .empty => by
      rw [leaves, List.append_assoc]
      exact .refl _

/-- Contents are taken apart into their leaves where they stand. -/
theorem regrouped_leavesAll (front back : List Content) : (items : List Content) →
    Regrouped (front ++ items ++ back) (front ++ (leavesAll items).map Leaf.content ++ back)
  | [] => .refl _
  | item :: items => by
      have first := regrouped_leaves front (items ++ back) item
      have others := regrouped_leavesAll (front ++ item.leaves.map Leaf.content) back items
      rw [← List.append_assoc] at first
      rw [leavesAll, List.map_append, ← List.append_assoc]
      refine .trans _ _ _ ?_ others
      rw [List.append_assoc, List.cons_append]
      exact first

end

/-- Every sequence of contents is one of leaves, regrouped. -/
theorem regrouped_map_leavesAll (contents : List Content) :
    Regrouped contents ((leavesAll contents).map Leaf.content) := by
  have apart := regrouped_leavesAll [] [] contents
  rwa [List.append_nil, List.append_nil, List.nil_append, List.nil_append] at apart

/-- Contents that are grouped in different ways are those with the same leaves. -/
theorem regrouped_iff_leavesAll {contents others : List Content} :
    Regrouped contents others ↔ leavesAll contents = leavesAll others := by
  constructor
  · intro regrouped
    induction regrouped with
    | rel _ _ groups =>
        obtain ⟨front, items, back⟩ := groups
        simp only [leavesAll_append, leavesAll, leaves, List.append_assoc]
    | refl => rfl
    | symm _ _ _ inductionHypothesis => exact inductionHypothesis.symm
    | trans _ _ _ _ _ first second => exact first.trans second
  · intro same
    refine .trans _ _ _ (regrouped_map_leavesAll contents) ?_
    rw [same]
    exact .symm _ _ (regrouped_map_leavesAll others)

end Content

/-! ### Buffers -/

namespace Buffer

open Content

mutual

/-- A content adds its leaves. -/
theorem html_append (buffer : Buffer) : (content : Content) →
    (buffer.append content).html = buffer.html ++ String.join (content.leaves.map Leaf.html)
  | .safe markup => by simp [append, leaves, Leaf.html]
  | .text plain => by simp [append, leaves, Leaf.html]
  | .list items => html_appendAll buffer items
  | .empty => by simp [append, leaves, Leaf.html]

/-- Contents add their leaves in turn. -/
theorem html_appendAll (buffer : Buffer) : (items : List Content) →
    (buffer.appendAll items).html =
      buffer.html ++ String.join ((leavesAll items).map Leaf.html)
  | [] => by simp [appendAll, leavesAll]
  | item :: items => by
      rw [appendAll, html_appendAll (buffer.append item) items, html_append buffer item, leavesAll,
        List.map_append, String.join_append, String.append_assoc]

end

/-- Appending one content after the other is appending them all. -/
theorem foldl_append (buffer : Buffer) (contents : List Content) :
    contents.foldl append buffer = buffer.appendAll contents := by
  induction contents generalizing buffer with
  | nil => rfl
  | cons content contents inductionHypothesis => exact inductionHypothesis (buffer.append content)

/-- What a new buffer gathers is the markup of all leaves, from left to right. -/
theorem html_finish_foldl (contents : List Content) :
    (contents.foldl append {}).finish.html =
      String.join ((leavesAll contents).map Leaf.html) := by
  rw [foldl_append, finish, html_appendAll, String.empty_append]

/-- A buffer gathers the leaves of its contents from left to right, each escaped once if it
is text and never otherwise, however the contents are grouped. Escaped text holds none of
the characters that are escaped, except for ampersands that start entities; undoing the
entities in one pass gives the text back; and texts may be escaped together or apart. -/
theorem leaves_escaped_once :
    (∀ contents : List Content, (contents.foldl append {}).finish.html =
        String.join ((contents.flatMap leaves).map Leaf.html)) ∧
      (∀ contents others : List Content,
        (Regrouped contents others ↔ contents.flatMap leaves = others.flatMap leaves) ∧
          (Regrouped contents others →
            (contents.foldl append {}).finish = (others.foldl append {}).finish)) ∧
      (∀ text : String,
        (∀ mark ∈ ['<', '>', '"', '\''], mark ∉ (escapeMarkup text).toList) ∧
          (∀ behind, '&' :: behind <:+ (escapeMarkup text).toList →
            ∃ entity ∈ entityTexts, entity.toList <+: '&' :: behind) ∧
          undoEntities (escapeMarkup text).toList = text.toList) ∧
      ∀ first second : String,
        escapeMarkup (first ++ second) = escapeMarkup first ++ escapeMarkup second := by
  refine ⟨fun contents => ?_, fun contents others => ⟨?_, fun regrouped => ?_⟩,
    fun text => ⟨?_, ?_, ?_⟩, ?_⟩
  · rw [html_finish_foldl, leavesAll_eq_flatMap]
  · rw [regrouped_iff_leavesAll, leavesAll_eq_flatMap, leavesAll_eq_flatMap]
  · have same : (contents.foldl append {}).finish.html = (others.foldl append {}).finish.html := by
      rw [html_finish_foldl, html_finish_foldl, regrouped_iff_leavesAll.mp regrouped]
    exact congrArg Markup.mk same
  · exact fun mark isMark => notMem_escapeMarkup isMark text
  · exact fun behind => exists_entity_of_ampersand
  · exact undoEntities_escapeMarkup text
  · exact escapeMarkup_append

/-- Markup and texts that are grouped in two ways, one of them a text that is an entity. -/
theorem leaves_escaped_once_regrouped :
    Regrouped [.list [.text "&lt;", .list [.safe ⟨"<i>"⟩, .empty]], .text "'"]
        [.text "&lt;", .list [], .list [.list [.safe ⟨"<i>"⟩], .empty, .text "'"]] ∧
      (List.foldl append {}
          [.list [.text "&lt;", .list [.safe ⟨"<i>"⟩, .empty]], .text "'"]).finish =
        (List.foldl append {}
          [.text "&lt;", .list [], .list [.list [.safe ⟨"<i>"⟩], .empty, .text "'"]]).finish := by
  have regrouped : Regrouped [.list [.text "&lt;", .list [.safe ⟨"<i>"⟩, .empty]], .text "'"]
      [.text "&lt;", .list [], .list [.list [.safe ⟨"<i>"⟩], .empty, .text "'"]] :=
    regrouped_iff_leavesAll.mpr rfl
  exact ⟨regrouped, (leaves_escaped_once.2.1 _ _).2 regrouped⟩

end Buffer
end MarkupTemplate
