import DpuNetwork.Text.Decimal

/-!
# Arithmetic in scripts

Integer expressions of 64 bits: sums, products, comparisons, the logical connectives and
parentheses. A name stands for its value, or for zero. Operators of one rank are taken from left to
right; the ranks stand in `ranks`, the loosest first.
-/

namespace DpuNetwork.Program.Shell.Arithmetic

open Text

/-- What an expression is made of. -/
inductive Symbol where
  /-- A number. -/
  | number (n : Int)
  /-- A name. -/
  | name (s : List Char)
  /-- An operator or a parenthesis. -/
  | sign (s : String)
  deriving DecidableEq

/-- The value of an integer of 64 bits after an operation. -/
def wrap (n : Int) : Int := Int.bmod n 0x10000000000000000

/-- The truth of an operand as a number. -/
def truth (b : Bool) : Int := if b then 1 else 0

/-- The operators of two operands, in ranks. -/
def ranks : List (List String) :=
  [["||"], ["&&"], ["==", "!="], ["<=", ">=", "<", ">"], ["+", "-"], ["*", "/", "%"]]

/-- The value of an operation; there is none for a division by zero. -/
def apply (o : String) (a b : Int) : Option Int :=
  match o with
  | "||" => some (truth (a != 0 || b != 0))
  | "&&" => some (truth (a != 0 && b != 0))
  | "==" => some (truth (a == b))
  | "!=" => some (truth (a != b))
  | "<=" => some (truth (a ≤ b))
  | ">=" => some (truth (a ≥ b))
  | "<" => some (truth (a < b))
  | ">" => some (truth (a > b))
  | "+" => some (wrap (a + b))
  | "-" => some (wrap (a - b))
  | "*" => some (wrap (a * b))
  | "/" => if b = 0 then none else some (wrap (Int.tdiv a b))
  | "%" => if b = 0 then none else some (wrap (Int.tmod a b))
  | _ => none

/-- Reads the symbols of an expression. The bound is the number of characters left. -/
def symbols : Nat → List Symbol → List Char → Option (List Symbol)
  | 0, _, _ => none
  | n + 1, acc, s =>
    match s with
    | [] => some acc.reverse
    | c :: r =>
      if c = ' ' ∨ c = '\t' ∨ c = '\n' then symbols n acc r
      else if c.isDigit then
        let ds := s.takeWhile Char.isDigit
        symbols n (.number (Nat.ofDigitChars 10 ds 0) :: acc) (s.drop ds.length)
      else if c.isAlpha || c == '_' then
        let name := s.takeWhile fun c ↦ c.isAlphanum || c == '_'
        symbols n (.name name :: acc) (s.drop name.length)
      else
        let two := String.ofList (s.take 2)
        if ["||", "&&", "==", "!=", "<=", ">="].contains two then
          symbols n (.sign two :: acc) (s.drop 2)
        else if ['<', '>', '+', '-', '*', '/', '%', '(', ')', '!'].contains c then
          symbols n (.sign (String.ofList [c]) :: acc) r
        else none

mutual

/-- Evaluates operations of the given ranks. -/
def ranked (value : List Char → Int) : Nat → List (List String) → List Symbol →
    Option (Int × List Symbol)
  | 0, _, _ => none
  | n + 1, [], s => operand value n s
  | n + 1, os :: tighter, s => match ranked value n tighter s with
    | some (a, r) => rankedRest value n os tighter a r
    | none => none

/-- Evaluates the operations of a rank that follow a first operand. -/
def rankedRest (value : List Char → Int) : Nat → List String → List (List String) → Int →
    List Symbol → Option (Int × List Symbol)
  | 0, _, _, _, _ => none
  | n + 1, os, tighter, a, s =>
    match s with
    | .sign o :: r =>
      if os.contains o then match ranked value n tighter r with
        | some (b, r') => match apply o a b with
          | some c => rankedRest value n os tighter c r'
          | none => none
        | none => none
      else some (a, s)
    | _ => some (a, s)

/-- Evaluates an operand. -/
def operand (value : List Char → Int) : Nat → List Symbol → Option (Int × List Symbol)
  | 0, _ => none
  | n + 1, s =>
    match s with
    | .number k :: r => some (wrap k, r)
    | .name x :: r => some (value x, r)
    | .sign "-" :: r => (operand value n r).map fun (k, r) ↦ (wrap (-k), r)
    | .sign "+" :: r => operand value n r
    | .sign "!" :: r => (operand value n r).map fun (k, r) ↦ (truth (k == 0), r)
    | .sign "(" :: r => match ranked value n ranks r with
      | some (k, .sign ")" :: r') => some (k, r')
      | _ => none
    | _ => none

end

/-- The value of an expression, given the values of names. -/
def evaluate (value : List Char → Int) (s : List Char) : Option Int :=
  match symbols (s.length + 1) [] s with
  | none => none
  | some [] => some 0
  | some ss => match ranked value (16 * ss.length + 16) ranks ss with
    | some (k, []) => some k
    | _ => none

end DpuNetwork.Program.Shell.Arithmetic
