import DpuNetwork.Json.Basic
import DpuNetwork.Text.Decimal

/-!
# Writing JSON

The shortest text of a value: no white space, and in strings only the quote, the backslash and the
control characters are escaped.
-/

namespace DpuNetwork.Json

open Text

/-- The hexadecimal digit of a number below 16, in lower case. -/
def hexDigit (n : Nat) : Char := if n < 10 then Char.ofNat (48 + n) else Char.ofNat (87 + n)

/-- A character as it stands in a string literal. -/
def renderChar (c : Char) : List Char :=
  if c = '"' then ['\\', '"']
  else if c = '\\' then ['\\', '\\']
  else if c.toNat < 0x20 then
    ['\\', 'u', '0', '0', hexDigit (c.toNat / 16), hexDigit (c.toNat % 16)]
  else [c]

/-- A string literal. -/
def renderString (s : String) : List Char := '"' :: s.toList.flatMap renderChar ++ ['"']

/-- An integer literal. -/
def renderInt (n : Int) : List Char :=
  if n < 0 then '-' :: numeral n.natAbs else numeral n.natAbs

/-- A string that denotes no text has no literal of its own and is written as the empty string. -/
def renderText (t : Option String) : List Char := renderString (t.getD "")

mutual

/-- The text of a value. -/
def render : Json → List Char
  | .null => ['n', 'u', 'l', 'l']
  | .bool true => ['t', 'r', 'u', 'e']
  | .bool false => ['f', 'a', 'l', 's', 'e']
  | .int n => renderInt n
  | .real literal => literal.toList
  | .str t => renderText t
  | .arr items => '[' :: renderItems items
  | .obj members => '\x7b' :: renderMembers members

/-- The items of an array with its closing bracket. -/
def renderItems : List Json → List Char
  | [] => [']']
  | [j] => render j ++ [']']
  | j :: js => render j ++ ',' :: renderItems js

/-- The members of an object with its closing brace. -/
def renderMembers : List (Option String × Json) → List Char
  | [] => ['\x7d']
  | [(k, j)] => renderText k ++ ':' :: render j ++ ['\x7d']
  | (k, j) :: ms => renderText k ++ ':' :: render j ++ ',' :: renderMembers ms

end

/-- The text of a value. -/
def toText (j : Json) : String := String.ofList j.render

end DpuNetwork.Json
