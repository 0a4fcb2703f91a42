import MarkupTemplate.Json.Basic
import MarkupTemplate.Text.Entries

/-!
# Reading JSON

The reader accepts one value between white space. The fields of an object come
out in ascending order of their names, and the last of several fields of one
name counts. A number without fraction and exponent is an integer as long as it
fits in 64 bits.
-/

namespace MarkupTemplate

namespace Number

/-- The greatest significand that is kept exactly. -/
def maxSignificand : Nat := Nat.pow 2 64 - 1

/-- Appends digits to a significand as long as it stays within 64 bits, and tells
how many digits are left over. -/
def extend (significand : Nat) : List Char → Nat × Nat
  | [] => (significand, 0)
  | digit :: rest =>
      let next := significand * 10 + (digit.toNat - '0'.toNat)
      if maxSignificand < next then (significand, rest.length + 1) else extend next rest

/-- The bits of `significand · 10 ^ exponent` with a sign. The significand and
every scaling by a power of ten are rounded once each. A magnitude that is too
great is no number. -/
def scale (negative : Bool) (significand : Nat) (exponent : Int) : Option Number :=
  let rec reduce (value : Float) (exponent : Int) : Nat → Option Float
    | 0 => some value
    | fuel + 1 =>
        if exponent.natAbs ≤ 308 then
          let power := Float.ofScientific 1 false exponent.natAbs
          if 0 ≤ exponent then
            let product := value * power
            if product.isInf then none else some product
          else some (value / power)
        else if value == 0.0 then some value
        else if 0 ≤ exponent then none
        else reduce (value / Float.ofScientific 1 false 308) (exponent + 308) fuel
  (reduce (Float.ofNat significand) exponent 4).map fun value =>
    .float (if negative then (-value).toBits else value.toBits)

/-- The number with the given sign and digits, of which an absent fraction or
exponent is told from an empty one. -/
def ofParts (negative : Bool) (whole : List Char) (fraction : Option (List Char))
    (exponent : Option Int) : Option Number :=
  let (significand, dropped) := extend 0 whole
  if fraction.isNone && exponent.isNone && dropped == 0
      && (!negative || (1 ≤ significand && significand ≤ Nat.pow 2 63)) then
    some (.integer (if negative then -(significand : Int) else significand))
  else
    let decimals := fraction.getD []
    let (significand, ignored) := extend significand decimals
    let places : Int := (decimals.length : Int) - ignored
    scale negative significand ((dropped : Int) - places + exponent.getD 0)

end Number

namespace Json

/-- White space between the parts of a value. -/
def isGap (character : Char) : Bool :=
  character == ' ' || character == '\t' || character == '\n' || character == '\r'

/-- Drops white space in front. -/
def skipGap (input : List Char) : List Char := input.dropWhile isGap

/-- The value of a hexadecimal digit. -/
def hexValue? (character : Char) : Option Nat :=
  if character.isDigit then some (character.toNat - '0'.toNat)
  else if 'a' ≤ character ∧ character ≤ 'f' then some (character.toNat - 'a'.toNat + 10)
  else if 'A' ≤ character ∧ character ≤ 'F' then some (character.toNat - 'A'.toNat + 10)
  else none

/-- The value of four hexadecimal digits. -/
def hexUnit? (digits : List Char) : Option Nat :=
  if digits.length = 4 then
    digits.foldlM (fun value digit => (hexValue? digit).map (value * 16 + ·)) 0
  else none

/-- The character that a backslash and a letter stand for. -/
def unescape? : Char → Option Char
  | '"' => some '"'
  | '\\' => some '\\'
  | '/' => some '/'
  | 'b' => some '\x08'
  | 'f' => some '\x0c'
  | 'n' => some '\n'
  | 'r' => some '\r'
  | 't' => some '\t'
  | _ => none

/-- Reads the characters of a text value up to its closing quote. Those already
read are given last first. -/
def readText (read : List Char) : Nat → List Char → Option (String × List Char)
  | 0, _ => none
  | fuel + 1, input =>
      match input with
      | '"' :: rest => some (String.ofList read.reverse, rest)
      | '\\' :: 'u' :: rest => do
          let unit ← hexUnit? (rest.take 4)
          let rest := rest.drop 4
          if 0xD800 ≤ unit ∧ unit < 0xDC00 then
            match rest with
            | '\\' :: 'u' :: more =>
                let low ← hexUnit? (more.take 4)
                if 0xDC00 ≤ low ∧ low < 0xE000 then
                  readText
                    (Char.ofNat (0x10000 + (unit - 0xD800) * 0x400 + (low - 0xDC00)) :: read)
                    fuel (more.drop 4)
                else none
            | _ => none
          else if 0xDC00 ≤ unit ∧ unit < 0xE000 then none
          else readText (Char.ofNat unit :: read) fuel rest
      | '\\' :: letter :: rest => do
          readText ((← unescape? letter) :: read) fuel rest
      | character :: rest => readText (character :: read) fuel rest
      | [] => none

/-- The value of decimal digits. -/
def decimalValue (digits : List Char) : Nat :=
  digits.foldl (fun value digit => value * 10 + (digit.toNat - '0'.toNat)) 0

/-- Reads the exponent of a number, if there is one. -/
def readExponent : List Char → Option (Option Int × List Char)
  | mark :: rest =>
      if mark = 'e' ∨ mark = 'E' then
        let (negative, rest) := match rest with
          | '+' :: rest => (false, rest)
          | '-' :: rest => (true, rest)
          | rest => (false, rest)
        let digits := rest.takeWhile Char.isDigit
        if digits.isEmpty then none
        else
          let value : Int := decimalValue digits
          some (some (if negative then -value else value), rest.drop digits.length)
      else some (none, mark :: rest)
  | [] => some (none, [])

/-- Reads a number. -/
def readNumber (input : List Char) : Option (Number × List Char) := do
  let (negative, input) := match input with
    | '-' :: rest => (true, rest)
    | rest => (false, rest)
  let whole := input.takeWhile Char.isDigit
  if whole.isEmpty then none
  else if whole.head? = some '0' ∧ whole.length ≠ 1 then none
  else
    let (fraction, input) ← match input.drop whole.length with
      | '.' :: rest =>
          let digits := rest.takeWhile Char.isDigit
          if digits.isEmpty then none else some (some digits, rest.drop digits.length)
      | rest => some (none, rest)
    let (exponent, input) ← readExponent input
    let value ← Number.ofParts negative whole fraction exponent
    return (value, input)

mutual

/-- Reads a value with white space in front of it. Every nested call takes some
of the text, whose length bounds the fuel. -/
def readValue : Nat → List Char → Option (Json × List Char)
  | 0, _ => none
  | fuel + 1, input =>
      match skipGap input with
      | 'n' :: 'u' :: 'l' :: 'l' :: rest => some (.null, rest)
      | 't' :: 'r' :: 'u' :: 'e' :: rest => some (.bool true, rest)
      | 'f' :: 'a' :: 'l' :: 's' :: 'e' :: rest => some (.bool false, rest)
      | '"' :: rest => do
          let (value, rest) ← readText [] (rest.length + 1) rest
          return (.text value, rest)
      | '[' :: rest =>
          match skipGap rest with
          | ']' :: rest => some (.list [], rest)
          | rest => readItems fuel [] rest
      | '{' :: rest =>
          match skipGap rest with
          | '}' :: rest => some (.object [], rest)
          | rest => readFields fuel [] rest
      | rest => do
          let (value, rest) ← readNumber rest
          return (.number value, rest)

/-- Reads the items of a list. Those already read are given last first. -/
def readItems : Nat → List Json → List Char → Option (Json × List Char)
  | 0, _, _ => none
  | fuel + 1, items, input => do
      let (item, rest) ← readValue fuel input
      match skipGap rest with
      | ',' :: rest => readItems fuel (item :: items) rest
      | ']' :: rest => some (.list (item :: items).reverse, rest)
      | _ => none

/-- Reads the fields of an object into those already read. -/
def readFields : Nat → List (String × Json) → List Char → Option (Json × List Char)
  | 0, _, _ => none
  | fuel + 1, fields, input =>
      match skipGap input with
      | '"' :: rest => do
          let (name, rest) ← readText [] (rest.length + 1) rest
          match skipGap rest with
          | ':' :: rest =>
              let (value, rest) ← readValue fuel rest
              let fields := insertEntry name value fields
              match skipGap rest with
              | ',' :: rest => readFields fuel fields rest
              | '}' :: rest => some (.object fields, rest)
              | _ => none
          | _ => none
      | _ => none

end

/-- The value that a text spells, if it spells one. -/
def read? (input : String) : Option Json :=
  let characters := input.toList
  match readValue (2 * characters.length + 2) characters with
  | some (value, rest) => if (skipGap rest).isEmpty then some value else none
  | none => none

end Json
end MarkupTemplate
