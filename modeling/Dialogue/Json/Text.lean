import Dialogue.Json.Value
import Dialogue.Number.Shortest

/-! # Values as text

The compact text of a value: no blanks, members in the order they have, and in strings only what has
to be escaped is — the quotation mark, the backslash and the control characters, the common ones by
their letters and the others by four hexadecimal digits.
-/

namespace Dialogue.Json

/-- The hexadecimal digit of a number below sixteen. -/
def hexChar (n : Nat) : Char :=
  if n < 10 then Char.ofNat ('0'.toNat + n) else Char.ofNat ('a'.toNat + (n - 10))

/-- How a character stands inside quotation marks. -/
def escapeChar (c : Char) : List Char :=
  if c == '"' then ['\\', '"']
  else if c == '\\' then ['\\', '\\']
  else if c == '\x08' then ['\\', 'b']
  else if c == '\x0c' then ['\\', 'f']
  else if c == '\n' then ['\\', 'n']
  else if c == '\r' then ['\\', 'r']
  else if c == '\t' then ['\\', 't']
  else if c.toNat < 0x20 then ['\\', 'u', '0', '0', hexChar (c.toNat / 16), hexChar (c.toNat % 16)]
  else [c]

/-- A string in quotation marks. -/
def quoted (s : String) : String :=
  String.ofList ('"' :: (s.toList.flatMap escapeChar ++ ['"']))

mutual

/-- The pieces of the compact text of a value, put before those that follow it. -/
def textPieces : Json → List String → List String
  | .null, k => "null" :: k
  | .bool true, k => "true" :: k
  | .bool false, k => "false" :: k
  | .int n, k => integerText n :: k
  | .float x, k => x.text :: k
  | .str s, k => quoted s :: k
  | .arr xs, k => "[" :: itemPieces xs ("]" :: k)
  | .obj ms, k => "\x7b" :: memberPieces ms ("\x7d" :: k)

/-- The pieces of a list of values, separated by commas. -/
def itemPieces : List Json → List String → List String
  | [], k => k
  | [x], k => textPieces x k
  | x :: xs, k => textPieces x ("," :: itemPieces xs k)

/-- The pieces of a list of members, separated by commas. -/
def memberPieces : List (String × Json) → List String → List String
  | [], k => k
  | [(n, x)], k => quoted n :: ":" :: textPieces x k
  | (n, x) :: ms, k => quoted n :: ":" :: textPieces x ("," :: memberPieces ms k)

end

/-- The compact text of a value. -/
def text (v : Json) : String := String.join (textPieces v [])

end Dialogue.Json
