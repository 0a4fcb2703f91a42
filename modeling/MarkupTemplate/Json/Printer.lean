import MarkupTemplate.Decimal.Shortest
import MarkupTemplate.Json.Basic

/-!
# Writing JSON

A value is written compactly or, for people, with one item per line. Numbers of
moderate size are written positionally and always show that they are not
integers.
-/

namespace MarkupTemplate

/-- The digits of a natural number. -/
def digitsOf (value : Nat) : List Char := Nat.toDigits 10 value

namespace Number

/-- A positive decimal whose leading digit stands for `10 ^ leading`, in
positional notation with at least one digit on either side of the point. -/
def positional (digits : List Char) (leading : Int) : List Char :=
  if leading < 0 then
    '0' :: '.' :: List.replicate (-leading - 1).toNat '0' ++ digits
  else
    let whole := leading.toNat + 1
    let padded := digits ++ List.replicate (whole - digits.length) '0'
    let fraction := padded.drop whole
    padded.take whole ++ '.' :: if fraction.isEmpty then ['0'] else fraction

/-- A positive decimal with its leading digit in front of the point. -/
def scientific (digits : List Char) (leading : Int) : List Char :=
  let fraction := digits.drop 1
  digits.take 1 ++ (if fraction.isEmpty then [] else '.' :: fraction)
    ++ 'e' :: (if leading < 0 then '-' else '+') :: digitsOf leading.natAbs

/-- A binary64 value with the fewest digits that read back. Leading digits from
`10 ^ -5` to `10 ^ 15` are written positionally. -/
def floatText (bits : UInt64) : List Char :=
  let sign := if Nat.pow 2 63 ≤ bits.toNat then ['-'] else []
  let binary := Decimal.Binary.ofBits bits
  if binary.mantissa = 0 then sign ++ ['0', '.', '0']
  else
    let decimal := Decimal.shortest binary
    let digits := digitsOf decimal.digits
    let leading := decimal.power + digits.length - 1
    sign ++ if -5 ≤ leading && leading ≤ 15 then positional digits leading
      else scientific digits leading

/-- The text of a number. -/
def render : Number → String
  | integer value => toString value
  | float bits => String.ofList (floatText bits)

end Number

namespace Json

/-- A hexadecimal digit. -/
def hexDigit (value : Nat) : Char :=
  Char.ofNat (if value < 10 then '0'.toNat + value else 'a'.toNat + value - 10)

/-- How a character is written in a text value. -/
def escapeChar (character : Char) : List Char :=
  match character with
  | '"' => ['\\', '"']
  | '\\' => ['\\', '\\']
  | '\x08' => ['\\', 'b']
  | '\t' => ['\\', 't']
  | '\n' => ['\\', 'n']
  | '\x0c' => ['\\', 'f']
  | '\r' => ['\\', 'r']
  | other =>
      if other.toNat < 0x20 then
        ['\\', 'u', '0', '0', hexDigit (other.toNat / 16), hexDigit (other.toNat % 16)]
      else [other]

/-- A text value between its quotes. -/
def quoted (text : String) : String :=
  "\"" ++ String.ofList (text.toList.flatMap escapeChar) ++ "\""

mutual

/-- A value without any white space. -/
def compact : Json → String
  | .null => "null"
  | .bool value => if value then "true" else "false"
  | .number value => value.render
  | .text value => quoted value
  | .list items => "[" ++ compactItems items ++ "]"
  | .object fields => "\x7b" ++ compactFields fields ++ "\x7d"

/-- Items separated by commas. -/
def compactItems : List Json → String
  | [] => ""
  | [last] => compact last
  | first :: second :: rest => compact first ++ "," ++ compactItems (second :: rest)

/-- Fields separated by commas. -/
def compactFields : List (String × Json) → String
  | [] => ""
  | [(name, value)] => quoted name ++ ":" ++ compact value
  | (name, value) :: second :: rest =>
      quoted name ++ ":" ++ compact value ++ "," ++ compactFields (second :: rest)

end

/-- The start of a line at a level of two spaces each. -/
def newLine (level : Nat) : String :=
  "\n" ++ String.ofList (List.replicate (2 * level) ' ')

mutual

/-- A value with one item or field per line. -/
def prettyAt (level : Nat) : Json → String
  | .null => "null"
  | .bool value => if value then "true" else "false"
  | .number value => value.render
  | .text value => quoted value
  | .list [] => "[]"
  | .list (first :: rest) =>
      "[" ++ prettyItems (level + 1) (first :: rest) ++ newLine level ++ "]"
  | .object [] => "\x7b\x7d"
  | .object (first :: rest) =>
      "\x7b" ++ prettyFields (level + 1) (first :: rest) ++ newLine level ++ "\x7d"

/-- Items on lines of their own. -/
def prettyItems (level : Nat) : List Json → String
  | [] => ""
  | [last] => newLine level ++ prettyAt level last
  | first :: second :: rest =>
      newLine level ++ prettyAt level first ++ "," ++ prettyItems level (second :: rest)

/-- Fields on lines of their own. -/
def prettyFields (level : Nat) : List (String × Json) → String
  | [] => ""
  | [(name, value)] => newLine level ++ quoted name ++ ": " ++ prettyAt level value
  | (name, value) :: second :: rest =>
      newLine level ++ quoted name ++ ": " ++ prettyAt level value ++ ","
        ++ prettyFields level (second :: rest)

end

/-- A value laid out for people. -/
def pretty (value : Json) : String := prettyAt 0 value

end Json
end MarkupTemplate
