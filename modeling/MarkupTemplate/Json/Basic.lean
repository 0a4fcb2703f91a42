/-!
# JSON values

The values of properties and contexts, and the shape of everything that is
exchanged as text. The fields of an object are kept in the order in which they
are written.
-/

namespace MarkupTemplate

/-- A number: an integer, or a finite binary64 value by its bits. -/
inductive Number where
  | integer (value : Int)
  | float (bits : UInt64)
deriving DecidableEq, Repr

/-- A JSON value. -/
inductive Json where
  | null
  | bool (value : Bool)
  | number (value : Number)
  | text (value : String)
  | list (items : List Json)
  | object (fields : List (String × Json))
deriving Repr, Inhabited

namespace Json

/-- A natural number as a value. -/
def nat (value : Nat) : Json := .number (.integer value)

/-- A list of texts as a value. -/
def texts (values : List String) : Json := .list (values.map .text)

/-- A value that may be absent. -/
def ofOption {α : Type} (encode : α → Json) : Option α → Json
  | some value => encode value
  | none => .null

/-- The value of a field, if this is an object that has it. -/
def field? (name : String) : Json → Option Json
  | .object fields => fields.lookup name
  | _ => none

end Json
end MarkupTemplate
