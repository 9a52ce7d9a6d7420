/-!
# Decimal numerals

Natural numbers in decimal, without sign or separator. `natural?` accepts every nonempty run of
ASCII digits, leading zeros included, and reads back what `numeral` writes (`natural?_numeral`).
-/

namespace DpuNetwork.Text

/-- The digits of a number, without leading zeros. -/
def numeral (n : Nat) : List Char := Nat.toDigits 10 n

/-- The number that a nonempty run of digits denotes. -/
def natural? (s : List Char) : Option Nat :=
  if s ≠ [] ∧ s.all Char.isDigit then some (Nat.ofDigitChars 10 s 0) else none

/-- A number with an optional plus sign, of at most `limit`. -/
def bounded? (limit : Nat) (s : List Char) : Option Nat :=
  match natural? (match s with | '+' :: r => r | _ => s) with
  | some n => if n ≤ limit then some n else none
  | none => none

/-- The value of a hexadecimal digit in either case. -/
def hexDigit? (c : Char) : Option Nat :=
  if c.isDigit then some (c.toNat - '0'.toNat)
  else if 'a' ≤ c && c ≤ 'f' then some (c.toNat - 'a'.toNat + 10)
  else if 'A' ≤ c && c ≤ 'F' then some (c.toNat - 'A'.toNat + 10)
  else none

/-- The number that a run of hexadecimal digits denotes, read on from `acc`. -/
def hexadecimal? (acc : Nat) : List Char → Option Nat
  | [] => some acc
  | c :: r => match hexDigit? c with
    | some d => hexadecimal? (acc * 16 + d) r
    | none => none

theorem isDigit_of_mem_numeral {c : Char} {n : Nat} (h : c ∈ numeral n) : c.isDigit = true :=
  Nat.isDigit_of_mem_toDigits (by decide) (by decide) h

theorem numeral_ne_nil (n : Nat) : numeral n ≠ [] := Nat.toDigits_ne_nil

/-- Reading gives back what was written. -/
@[simp] theorem natural?_numeral (n : Nat) : natural? (numeral n) = some n := by
  have h : (numeral n).all Char.isDigit = true :=
    List.all_eq_true.2 fun _ hc ↦ isDigit_of_mem_numeral hc
  rw [natural?, if_pos ⟨numeral_ne_nil n, h⟩, numeral,
    Nat.ofDigitChars_toDigits (by decide) (by decide)]

/-- Different numbers are written differently. -/
theorem numeral_inj {m n : Nat} : numeral m = numeral n ↔ m = n :=
  ⟨fun h ↦ by simpa using congrArg natural? h, fun h ↦ h ▸ rfl⟩

end DpuNetwork.Text
