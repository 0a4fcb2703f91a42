/-!
# Listings of generated code

Code is written as a sequence of fragments: text on the current line, two spaces
per level of indentation, and the ends of lines. A line feed inside a text
fragment belongs to that fragment and ends no line of the listing.
-/

namespace MarkupTemplate.Script

/-- A fragment of a listing. -/
inductive Fragment where
  | text (content : String)
  | indent (level : Nat)
  | lineEnd
deriving DecidableEq, Repr

/-- The characters of a fragment. -/
def Fragment.content : Fragment → String
  | text content => content
  | indent level => String.ofList (List.replicate (2 * level) ' ')
  | lineEnd => "\n"

/-- A listing that is being written. -/
structure Listing where
  /-- The finished lines, newest first. -/
  lines : List String := []
  /-- The line that is not finished. -/
  current : String := ""
deriving DecidableEq, Repr

namespace Listing

/-- Adds a fragment at the end. -/
def write (listing : Listing) (fragment : Fragment) : Listing :=
  match fragment with
  | .lineEnd => ⟨(listing.current ++ fragment.content) :: listing.lines, ""⟩
  | _ => { listing with current := listing.current ++ fragment.content }

/-- The number of finished lines. -/
def lineCount (listing : Listing) : Nat := listing.lines.length

/-- The whole text of the listing. -/
def finish (listing : Listing) : String :=
  String.join listing.lines.reverse ++ listing.current

/-- The listing of a sequence of fragments. -/
def ofFragments (fragments : List Fragment) : Listing := fragments.foldl write {}

end Listing
end MarkupTemplate.Script
