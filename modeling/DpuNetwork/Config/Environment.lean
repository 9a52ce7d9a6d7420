import DpuNetwork.Config.Value
import DpuNetwork.Text.Blank
import DpuNetwork.Text.Cut
import DpuNetwork.Text.Decimal

/-!
# Settings in environment variables

A variable whose name starts with `DPU_CNI_PROVISIONER__`, in any case, holds a setting: the rest of
the name is a path of keys with two underscores (or a point) between them. Its text is read by a
small grammar of truth values, tables, lists, quoted texts, single characters, numbers and bare
words; a text that is not of this grammar as a whole stands for itself, untouched.

Variables are kept in the order in which they were first set, and the later one counts where two
name the same key.
-/

namespace DpuNetwork.Config.Environment

open Text

/-- Environment variables: names with texts. -/
abbrev Variables := Assoc String String

/-- The variables in the order of their names, which is the order in which a started program finds
them. -/
def sorted (vars : Variables) : Variables := ⟨vars.entries.mergeSort fun a b ↦ !(b.1 < a.1)⟩

/-- What the name of a setting starts with. -/
def namespaceText : List Char := "DPU_CNI_PROVISIONER__".toList

/-- The rest of a text behind `start`, without regard to the case of ASCII letters. -/
def dropStart? : List Char → List Char → Option (List Char)
  | [], s => some s
  | c :: start, d :: s => if c.toLower = d.toLower then dropStart? start s else none
  | _ :: _, [] => none

/-- The text with a point in place of two underscores, from left to right. -/
def pointed : List Char → List Char
  | '_' :: '_' :: r => '.' :: pointed r
  | c :: r => c :: pointed r
  | [] => []

/-- The path of keys that the name of a variable stands for. A name with an empty key stands for
nothing. -/
def keys? (name : String) : Option (List String) :=
  match dropStart? namespaceText (trim name.toList) with
  | none => none
  | some rest =>
    let parts := cut '.' (trim (pointed rest))
    if parts.contains [] then none
    else some (parts.map fun p ↦ String.ofList (p.map Char.toLower))

/-- ASCII white space; the vertical tab is not part of it. -/
def isSpace (c : Char) : Bool :=
  c == ' ' || c == '\t' || c == '\n' || c == '\x0c' || c == '\r'

/-- The text behind white space. -/
def skip (s : List Char) : List Char := s.dropWhile isSpace

/-- A character that ends a bare word. -/
def isSeparator (c : Char) : Bool := c == ',' || c == '\x7b' || c == '\x7d' || c == '[' || c == ']'

/-- A character of a bare key. -/
def isKeyChar (c : Char) : Bool := c.isAlphanum || c == '_' || c == '-'

/-- The inside of a quoted text and what follows its closing quote. A quote behind a backslash does
not close. -/
def quoted (acc : List Char) : List Char → Option (List Char × List Char)
  | '"' :: r => some (acc.reverse, r)
  | '\\' :: c :: r => quoted (c :: '\\' :: acc) r
  | c :: r => if c = '\\' then none else quoted (c :: acc) r
  | [] => none

/-- The character with the given number, if there is one. -/
def scalar? (n : Nat) : Option Char := if n.isValidChar then some (Char.ofNat n) else none

/-- The text that the inside of a quoted text denotes. Control characters other than the tab have to
be escaped. -/
def unescape : List Char → Option (List Char)
  | [] => some []
  | '\\' :: 'u' :: a :: b :: c :: d :: r => do
    let x ← (hexadecimal? 0 [a, b, c, d]).bind scalar?
    return x :: (← unescape r)
  | '\\' :: 'U' :: a :: b :: c :: d :: e :: f :: g :: h :: r => do
    let x ← (hexadecimal? 0 [a, b, c, d, e, f, g, h]).bind scalar?
    return x :: (← unescape r)
  | '\\' :: c :: r => do
    let x ← match c with
      | '"' => some '"'
      | '\\' => some '\\'
      | 'b' => some '\x08'
      | 'f' => some '\x0c'
      | 'n' => some '\n'
      | 'r' => some '\r'
      | 't' => some '\t'
      | _ => none
    return x :: (← unescape r)
  | c :: r =>
    if c = '\\' ∨ (c.toNat < 0x20 ∧ c ≠ '\t') ∨ c.toNat = 0x7F then none
    else (unescape r).map (c :: ·)

/-- Reads a quoted text behind its opening quote. -/
def string? (s : List Char) : Option (String × List Char) :=
  match quoted [] s with
  | some (inside, r) => (unescape inside).map fun t ↦ (String.ofList t, r)
  | none => none

/-- Whether a text is an optional sign, digits with a point among or around them, and an optional
exponent. -/
def isFloat (s : List Char) : Bool :=
  let s := match s with
    | '+' :: r => r
    | '-' :: r => r
    | _ => s
  let whole := s.takeWhile Char.isDigit
  match s.dropWhile Char.isDigit with
  | '.' :: r =>
    let frac := r.takeWhile Char.isDigit
    (!whole.isEmpty || !frac.isEmpty) &&
      match r.dropWhile Char.isDigit with
      | [] => true
      | e :: r =>
        let r := match r with
          | '+' :: r' => r'
          | '-' :: r' => r'
          | _ => r
        (e == 'e' || e == 'E') && !r.isEmpty && r.all Char.isDigit
  | _ => false

/-- The integer of at most 64 bits, signed or unsigned, that a text denotes. -/
def integer? (s : List Char) : Option Int :=
  match s with
  | '-' :: r => match natural? r with
    | some n => if n ≤ 0x8000000000000000 then some (-(n : Int)) else none
    | none => none
  | _ => (bounded? 0xffffffffffffffff s).map Int.ofNat

/-- The value of a bare word. -/
def word (s : List Char) : Value :=
  let s := trim s
  if isFloat s then .float (String.ofList s)
  else match integer? s with
    | some n => .int n
    | none => .text (String.ofList s)

mutual

/-- Reads a value with the white space around it. The bound is the number of nested calls left. -/
def value : Nat → List Char → Option (Value × List Char)
  | 0, _ => none
  | n + 1, s =>
    (match skip s with
      | 't' :: 'r' :: 'u' :: 'e' :: r => some (.bool true, r)
      | 'f' :: 'a' :: 'l' :: 's' :: 'e' :: r => some (.bool false, r)
      | '\x7b' :: r => entries n [] r
      | '[' :: r => items n [] r
      | '"' :: r => (string? r).map fun (t, r) ↦ (.text t, r)
      | '\'' :: r => match r with
        | c :: '\'' :: r' => some (.text (String.ofList [c]), r')
        | _ => none
      | r => some (word (r.takeWhile fun c ↦ !isSeparator c), r.dropWhile fun c ↦ !isSeparator c)
      : Option (Value × List Char)).map fun (v, r) ↦ (v, skip r)

/-- Reads the items of a list up to its closing bracket; a comma may stand before it. -/
def items : Nat → List Value → List Char → Option (Value × List Char)
  | 0, _, _ => none
  | n + 1, acc, s =>
    match s with
    | ']' :: r => some (.list acc.reverse, r)
    | _ => match value n s with
      | none => none
      | some (v, ',' :: r) => items n (v :: acc) r
      | some (v, ']' :: r) => some (.list (v :: acc).reverse, r)
      | some _ => none

/-- Reads the entries of a table up to its closing brace; a comma may stand before it. -/
def entries : Nat → Table → List Char → Option (Value × List Char)
  | 0, _, _ => none
  | n + 1, acc, s =>
    match s with
    | '\x7d' :: r => some (.table acc, r)
    | _ =>
      let key := match skip s with
        | '"' :: r => string? r
        | r => match r.takeWhile isKeyChar with
          | [] => none
          | k => some (String.ofList k, r.dropWhile isKeyChar)
      match key with
      | none => none
      | some (k, r) => match skip r with
        | '=' :: r => match value n r with
          | none => none
          | some (v, ',' :: r) => entries n (Assoc.put k v acc) r
          | some (v, '\x7d' :: r) => some (.table (Assoc.put k v acc), r)
          | some _ => none
        | _ => none

end

/-- The value that the text of a variable stands for. -/
def valueOf (s : String) : Value :=
  match value (2 * s.length + 2) s.toList with
  | some (v, []) => v
  | _ => .text s

/-- The settings in environment variables. -/
def table (vars : Variables) : Table :=
  Table.layered (vars.entries.filterMap fun (name, s) ↦
    (keys? name).map fun ks ↦ Table.nest ks (valueOf s))

end DpuNetwork.Config.Environment
