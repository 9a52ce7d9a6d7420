/-!
# Bytes as text

Bytes that are meant as UTF-8 but need not be. What is well formed is decoded, and each longest
piece that only begins a character, or begins none, gives one replacement character.

The decoder stands between two bytes with what the first bytes of a character still owe: the number
of bytes to come and the range of the next one. Only the byte behind the first has a range of its
own; it keeps out overlong forms, surrogates, and numbers that are no characters.
-/

namespace DpuNetwork.Text.Utf8

/-- What the bytes of an unfinished character owe. -/
structure Owed where
  /-- The number of bytes that follow the next one. -/
  more : Nat
  /-- The least next byte. -/
  low : Nat
  /-- The greatest next byte. -/
  high : Nat
  /-- The number that the bytes so far denote. -/
  code : Nat

/-- The character that stands for bytes that are none. -/
def replacement : Char := '\ufffd'

/-- What a first byte stands for: a character, the beginning of one, or nothing. -/
inductive Lead where
  /-- A character of one byte. -/
  | char (c : Char)
  /-- The beginning of a character. -/
  | owes (o : Owed)
  /-- No character begins with it. -/
  | nothing

/-- What a first byte stands for. -/
def lead (b : Nat) : Lead :=
  if b < 0x80 then .char (Char.ofNat b)
  else if b < 0xC2 then .nothing
  else if b < 0xE0 then .owes ⟨0, 0x80, 0xBF, b - 0xC0⟩
  else if b < 0xF0 then
    .owes ⟨1, if b = 0xE0 then 0xA0 else 0x80, if b = 0xED then 0x9F else 0xBF, b - 0xE0⟩
  else if b < 0xF5 then
    .owes ⟨2, if b = 0xF0 then 0x90 else 0x80, if b = 0xF4 then 0x8F else 0xBF, b - 0xF0⟩
  else .nothing

/-- Decodes bytes, given what is still owed; `acc` holds the characters so far, the last one
first. -/
def decodeFrom (acc : List Char) : Option Owed → List UInt8 → List Char
  | none, [] => acc.reverse
  | some _, [] => (replacement :: acc).reverse
  | owed, x :: r =>
    let b := x.toNat
    let begin (acc : List Char) : List Char :=
      match lead b with
      | .char c => decodeFrom (c :: acc) none r
      | .owes o => decodeFrom acc (some o) r
      | .nothing => decodeFrom (replacement :: acc) none r
    match owed with
    | none => begin acc
    | some o =>
      if o.low ≤ b ∧ b ≤ o.high then
        let code := o.code * 64 + (b - 0x80)
        match o.more with
        | 0 => decodeFrom (Char.ofNat code :: acc) none r
        | n + 1 => decodeFrom acc (some ⟨n, 0x80, 0xBF, code⟩) r
      else begin (replacement :: acc)

/-- The text of bytes, with replacement characters for what is no UTF-8. -/
def decode (bytes : List UInt8) : String := String.ofList (decodeFrom [] none bytes)

end DpuNetwork.Text.Utf8
