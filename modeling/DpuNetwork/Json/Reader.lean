import DpuNetwork.Json.Basic
import DpuNetwork.Text.Decimal

/-!
# Reading JSON

The strict grammar: white space is space, tab, line feed and carriage return, nothing but white
space follows the value, numbers have no leading zeros or plus sign, and strings hold no control
characters. Nesting is not limited. Each reader takes the text in front of it and returns what it
read with the rest of the text; the bound that `value`, `elements` and `members` carry is the number
of nested calls left, and a text of `n` characters never needs more than `2 * n + 2`.
-/

namespace DpuNetwork.Json

open Text

/-- White space between tokens. -/
def isSpace (c : Char) : Bool := c == ' ' || c == '\t' || c == '\n' || c == '\r'

/-- The text behind white space. -/
def skip (s : List Char) : List Char := s.dropWhile isSpace

/-- The code unit that four hexadecimal digits denote. -/
def unit? (a b c d : Char) : Option Nat := hexadecimal? 0 [a, b, c, d]

/-- A code unit that starts a surrogate pair. -/
def isHighSurrogate (u : Nat) : Bool := 0xD800 ≤ u && u < 0xDC00

/-- A code unit that ends a surrogate pair. -/
def isLowSurrogate (u : Nat) : Bool := 0xDC00 ≤ u && u < 0xE000

/-- The character of a surrogate pair. -/
def ofSurrogates (high low : Nat) : Char :=
  Char.ofNat (0x10000 + (high - 0xD800) * 0x400 + (low - 0xDC00))

/-- The character of a one-letter escape. -/
def escape? : Char → Option Char
  | '"' => some '"'
  | '\\' => some '\\'
  | '/' => some '/'
  | 'b' => some '\x08'
  | 'f' => some '\x0c'
  | 'n' => some '\n'
  | 'r' => some '\r'
  | 't' => some '\t'
  | _ => none

/-- What stands between the quotes of a string literal: characters, and code units given by their
number. -/
inductive Piece where
  /-- A character that stands for itself or has an escape of one letter. -/
  | char (c : Char)
  /-- A code unit. -/
  | unit (u : Nat)

/-- Reads the rest of a string literal behind its opening quote; `acc` holds the pieces so far, the
last one first. -/
def pieces (acc : List Piece) : List Char → Option (List Piece × List Char)
  | '"' :: r => some (acc.reverse, r)
  | '\\' :: 'u' :: a :: b :: c :: d :: r =>
    match unit? a b c d with
    | some u => pieces (.unit u :: acc) r
    | none => none
  | '\\' :: c :: r =>
    match escape? c with
    | some e => pieces (.char e :: acc) r
    | none => none
  | c :: r => if c.toNat < 0x20 ∨ c = '\\' then none else pieces (.char c :: acc) r
  | [] => none

/-- The text that pieces denote; there is none if a surrogate has no partner next to it. -/
def joinPieces : List Piece → Option (List Char)
  | [] => some []
  | .char c :: r => (joinPieces r).map (c :: ·)
  | .unit u :: .unit v :: r =>
    if isHighSurrogate u then
      if isLowSurrogate v then (joinPieces r).map (ofSurrogates u v :: ·) else none
    else if isLowSurrogate u then none
    else (joinPieces (.unit v :: r)).map (Char.ofNat u :: ·)
  | .unit u :: r =>
    if isHighSurrogate u || isLowSurrogate u then none
    else (joinPieces r).map (Char.ofNat u :: ·)

/-- Reads the rest of a string literal behind its opening quote. -/
def string (s : List Char) : Option (Option String × List Char) :=
  match pieces [] s with
  | some (ps, r) => some ((joinPieces ps).map String.ofList, r)
  | none => none

/-- Splits a text behind its leading digits. -/
def digits (s : List Char) : List Char × List Char :=
  (s.takeWhile Char.isDigit, s.dropWhile Char.isDigit)

/-- Reads a fraction, if the text starts with a point. The digits are required. -/
def fraction (s : List Char) : Option (List Char × List Char) :=
  match s with
  | '.' :: r => match digits r with
    | ([], _) => none
    | (ds, r') => some ('.' :: ds, r')
  | _ => some ([], s)

/-- Reads an exponent, if the text starts with one. The digits are required. -/
def exponent (s : List Char) : Option (List Char × List Char) :=
  match s with
  | e :: r =>
    if e = 'e' ∨ e = 'E' then
      let (sign, r) := match r with
        | '+' :: r' => (['+'], r')
        | '-' :: r' => (['-'], r')
        | _ => ([], r)
      match digits r with
      | ([], _) => none
      | (ds, r') => some (e :: sign ++ ds, r')
    else some ([], s)
  | [] => some ([], s)

/-- The value of a number literal, given in its four parts. -/
def ofNumber (negative : Bool) (whole frac exp : List Char) : Json :=
  let n := Nat.ofDigitChars 10 whole 0
  if frac.isEmpty && exp.isEmpty && !(negative && n == 0) then
    .int (if negative then -(n : Int) else n)
  else
    .real (String.ofList ((if negative then ['-'] else []) ++ whole ++ frac ++ exp))

/-- Reads a number. -/
def number (s : List Char) : Option (Json × List Char) :=
  let (negative, r) := match s with
    | '-' :: r => (true, r)
    | _ => (false, s)
  match digits r with
  | ([], _) => none
  | (whole, r) =>
    if whole.head? = some '0' ∧ whole.length ≠ 1 then none
    else match fraction r with
      | none => none
      | some (frac, r) => match exponent r with
        | none => none
        | some (exp, r) => some (ofNumber negative whole frac exp, r)

mutual

/-- Reads a value that starts at the first character. -/
def value : Nat → List Char → Option (Json × List Char)
  | 0, _ => none
  | n + 1, s =>
    match s with
    | '\x7b' :: r => match skip r with
      | '\x7d' :: r' => some (.obj [], r')
      | r' => members n [] r'
    | '[' :: r => match skip r with
      | ']' :: r' => some (.arr [], r')
      | r' => elements n [] r'
    | '"' :: r => match string r with
      | some (t, r') => some (.str t, r')
      | none => none
    | 't' :: 'r' :: 'u' :: 'e' :: r => some (.bool true, r)
    | 'f' :: 'a' :: 'l' :: 's' :: 'e' :: r => some (.bool false, r)
    | 'n' :: 'u' :: 'l' :: 'l' :: r => some (.null, r)
    | _ => number s

/-- Reads the items of an array from an item on; `acc` holds the items before it. -/
def elements : Nat → List Json → List Char → Option (Json × List Char)
  | 0, _, _ => none
  | n + 1, acc, s =>
    match value n s with
    | none => none
    | some (v, r) => match skip r with
      | ',' :: r' => elements n (v :: acc) (skip r')
      | ']' :: r' => some (.arr (v :: acc).reverse, r')
      | _ => none

/-- Reads the members of an object from a name on; `acc` holds the members before it. -/
def members : Nat → List (Option String × Json) → List Char → Option (Json × List Char)
  | 0, _, _ => none
  | n + 1, acc, s =>
    match s with
    | '"' :: r => match string r with
      | none => none
      | some (k, r) => match skip r with
        | ':' :: r => match value n (skip r) with
          | none => none
          | some (v, r) => match skip r with
            | ',' :: r' => members n ((k, v) :: acc) (skip r')
            | '\x7d' :: r' => some (.obj ((k, v) :: acc).reverse, r')
            | _ => none
        | _ => none
    | _ => none

end

/-- Reads a text that holds one value and nothing else. -/
def parse? (s : List Char) : Option Json :=
  match value (2 * s.length + 2) (skip s) with
  | some (v, r) => if skip r = [] then some v else none
  | none => none

/-- Reads a text that holds one value and nothing else. -/
def ofString? (s : String) : Option Json := parse? s.toList

end DpuNetwork.Json
