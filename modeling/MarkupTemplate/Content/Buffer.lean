import MarkupTemplate.Content.Escape

/-!
# Contents and output buffers

A content is trusted markup, plain text or a list of contents. A buffer takes
contents one after the other: lists are flattened, plain text is escaped and
markup is taken as it is.
-/

namespace MarkupTemplate

/-- Markup that is trusted to be escaped already. -/
structure Markup where
  html : String := ""
deriving DecidableEq, Repr, Inhabited

/-- The markup of a plain text. -/
def Markup.escape (text : String) : Markup := ⟨escapeMarkup text⟩

/-- What can be appended to a buffer. -/
inductive Content where
  | safe (markup : Markup)
  | text (text : String)
  | list (items : List Content)
  | empty
deriving Repr, Inhabited

/-- The content of a plain text, which is nothing at all if the text is empty. -/
def Content.ofText (text : String) : Content :=
  if text.isEmpty then .empty else .text text

/-- The output gathered so far. -/
structure Buffer where
  html : String := ""
deriving DecidableEq, Repr, Inhabited

namespace Buffer

mutual

/-- Appends a content. -/
def append (buffer : Buffer) : Content → Buffer
  | .safe markup => ⟨buffer.html ++ markup.html⟩
  | .text text => ⟨buffer.html ++ escapeMarkup text⟩
  | .list items => appendAll buffer items
  | .empty => buffer

/-- Appends contents in turn. -/
def appendAll (buffer : Buffer) : List Content → Buffer
  | [] => buffer
  | item :: items => appendAll (append buffer item) items

end

/-- Whether nothing has been gathered. -/
def isEmpty (buffer : Buffer) : Bool := buffer.html.isEmpty

/-- The markup gathered. -/
def finish (buffer : Buffer) : Markup := ⟨buffer.html⟩

end Buffer
end MarkupTemplate
