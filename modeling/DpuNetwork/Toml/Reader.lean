import DpuNetwork.Toml.Definition
import DpuNetwork.Toml.Lexical

/-!
# Reading TOML

The grammar of TOML 1.0 from values up to whole documents. A document is read line by line: a line
is empty, opens a table or a further table of a list, or defines a key in the table that was opened
last.

The readers of values carry two bounds: the number of nested calls left, of which a text of `n`
characters never needs more than `2 * n + 2`, and how deep arrays and tables may still nest.
-/

namespace DpuNetwork.Toml

open Config (Value)

mutual

/-- Reads a value that starts at the first character. -/
def value : Nat → Nat → List Char → Option (Value × List Char)
  | 0, _, _ => none
  | n + 1, depth, s =>
    match s with
    | '[' :: r => match depth with
      | 0 => none
      | d + 1 => items n d [] (skipLines r.length r)
    | '\x7b' :: r => match depth with
      | 0 => none
      | d + 1 => match skip r with
        | '\x7d' :: r' => some (.table [], r')
        | r' => entries n d [] r'
    | 't' :: 'r' :: 'u' :: 'e' :: r => some (.bool true, r)
    | 'f' :: 'a' :: 'l' :: 's' :: 'e' :: r => some (.bool false, r)
    | c :: _ =>
      if c = '"' ∨ c = '\'' then (string? s).map fun (t, r) ↦ (.text t, r) else number? s
    | [] => none

/-- Reads the items of an array from an item or the closing bracket on; `acc` holds the items before
it, the last one first. -/
def items : Nat → Nat → List Value → List Char → Option (Value × List Char)
  | 0, _, _, _ => none
  | n + 1, depth, acc, s =>
    match s with
    | ']' :: r => some (.list acc.reverse, r)
    | _ => match value n depth s with
      | none => none
      | some (v, r) => match skipLines r.length r with
        | ',' :: r' => items n depth (v :: acc) (skipLines r'.length r')
        | ']' :: r' => some (.list (v :: acc).reverse, r')
        | _ => none

/-- Reads the entries of an inline table from a key on; `acc` holds what is defined before it. -/
def entries : Nat → Nat → Definitions → List Char → Option (Value × List Char)
  | 0, _, _, _ => none
  | n + 1, depth, acc, s =>
    match key? s with
    | some (path, '=' :: r) => match value n depth (skip r) with
      | none => none
      | some (v, r) => match acc.assign path v with
        | none => none
        | some acc => match skip r with
          | ',' :: r' => entries n depth acc r'
          | '\x7d' :: r' => some (.table (Definition.toTable acc), r')
          | _ => none
    | _ => none

end

/-- Reads a header behind its opening brackets, up to the end of its line. -/
def header? (closing : List Char) (s : List Char) : Option (List String × List Char) :=
  match key? s with
  | none => none
  | some (path, r) =>
    if closing.isPrefixOf r then (lineEnd? (r.drop closing.length)).map (path, ·) else none

/-- Reads a key and its value, up to the end of the line. -/
def assignment? (s : List Char) : Option (List String × Value × List Char) :=
  match key? s with
  | some (path, '=' :: r) => match value (2 * r.length + 2) depthLimit (skip r) with
    | some (v, r) => (lineEnd? r).map (path, v, ·)
    | none => none
  | _ => none

/-- Reads lines to the end of the text. The path is that of the header of the table that was opened
last. The bound is the number of lines left. -/
def document : Nat → List String → Definitions → List Char → Option Definitions
  | 0, _, _, _ => none
  | n + 1, current, t, s =>
    match skip s with
    | [] => some t
    | '[' :: '[' :: r => match header? [']', ']'] r with
      | some (path, r) => match t.openItem path with
        | some t => document n path t r
        | none => none
      | none => none
    | '[' :: r => match header? [']'] r with
      | some (path, r) => match t.openTable path with
        | some t => document n path t r
        | none => none
      | none => none
    | r => match lineEnd? r with
      | some r => document n current t r
      | none => match assignment? r with
        | some (path, v, r) => match t.assignIn current path v with
          | some t => document n current t r
          | none => none
        | none => none

/-- The text without the byte order mark that may stand in front of it. -/
def withoutMark : List Char → List Char
  | '\ufeff' :: r => r
  | s => s

/-- The table that a text defines. -/
def parse? (s : String) : Option Config.Table :=
  (document (s.length + 2) [] [] (withoutMark s.toList)).map Definition.toTable

end DpuNetwork.Toml
