/-!
# Places in a source text

A place is counted three ways at once: in bytes of the encoded text, in lines
and in characters within its line. Only a line feed starts a new line.
-/

namespace MarkupTemplate

/-- A place in a source text, all counts starting at zero. -/
structure Position where
  byte : Nat := 0
  line : Nat := 0
  col : Nat := 0
deriving DecidableEq, Repr, Inhabited

namespace Position

/-- The place directly after a character. -/
def advance (position : Position) (character : Char) : Position :=
  if character = '\n' then
    ⟨position.byte + 1, position.line + 1, 0⟩
  else
    ⟨position.byte + character.utf8Size, position.line, position.col + 1⟩

/-- The place directly after a run of characters. -/
def after (position : Position) (characters : List Char) : Position :=
  characters.foldl advance position

@[simp] theorem after_nil (position : Position) : position.after [] = position := rfl

@[simp] theorem after_cons (position : Position) (character : Char) (rest : List Char) :
    position.after (character :: rest) = (position.advance character).after rest := rfl

/-- Passing two runs in turn is passing their concatenation. -/
theorem after_append (position : Position) (first second : List Char) :
    position.after (first ++ second) = (position.after first).after second :=
  List.foldl_append

end Position

/-- The stretch of a source text between two places. -/
structure Span where
  start : Position := {}
  stop : Position := {}
deriving DecidableEq, Repr, Inhabited

namespace Span

/-- The empty stretch at a place. -/
def point (position : Position) : Span := ⟨position, position⟩

end Span
end MarkupTemplate
