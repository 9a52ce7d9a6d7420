import DpuNetwork.Config.Value

/-!
# What a TOML document defines

A document defines its tables piece by piece, and a table remembers how it came to be: by a header
of its own, as the parent of a table that has a header, or by a key with points. On this depends
what may still be added to it:

- a header may name a table that only was a parent so far, and nothing else that is there already;
- a key with points may go on in tables that no header has named, and adds only to tables that keys
  with points have made.

Every operation returns `none` for a definition that these rules refuse.
-/

namespace DpuNetwork.Toml

open Assoc (lookup put)
open Config (Value)

/-- How a table came to be. -/
inductive Origin where
  /-- It has a header, or is the whole document. -/
  | header
  /-- A table below it has a header. -/
  | parent
  /-- A key with points leads through it. -/
  | dotted
  deriving DecidableEq

/-- What a key of a table under definition stands for. -/
inductive Definition where
  /-- A value, complete as it is. -/
  | value (v : Value)
  /-- A table. -/
  | table (origin : Origin) (entries : List (String × Definition))
  /-- The tables of a repeated header, the latest one first. -/
  | tables (latest : List (String × Definition)) (before : List (List (String × Definition)))
  deriving Inhabited

/-- The keys of a table under definition. -/
abbrev Definitions := List (String × Definition)

mutual

/-- The value that a definition amounts to. -/
def Definition.toValue : Definition → Value
  | .value v => v
  | .table _ entries => .table (Definition.toTable entries)
  | .tables latest before =>
    .list (Definition.toTables before [.table (Definition.toTable latest)])

/-- The table that definitions amount to. -/
def Definition.toTable : List (String × Definition) → Config.Table
  | [] => []
  | (k, d) :: r => (k, d.toValue) :: Definition.toTable r

/-- The tables that come before those in `acc`, the latest one first. -/
def Definition.toTables : List (List (String × Definition)) → List Value → List Value
  | [], acc => acc
  | t :: r, acc => Definition.toTables r (.table (Definition.toTable t) :: acc)

end

namespace Definitions

/-- Changes the table that a path of keys leads to; tables on the way that are not there yet are
made. The change is given how the table came to be. In a list of tables the path goes on in the
latest one. With `dotted`, the path is that of a key with points. -/
def within (dotted : Bool) (change : Origin → Definitions → Option Definitions)
    (origin : Origin) (t : Definitions) : List String → Option Definitions
  | [] => change origin t
  | k :: ks =>
    match lookup k t with
    | none =>
      let made := if dotted then .dotted else .parent
      (within dotted change made [] ks).map fun below ↦ put k (.table made below) t
    | some (.value _) => none
    | some (.table found entries) =>
      if dotted ∧ found = .header then none
      else (within dotted change found entries ks).map fun below ↦ put k (.table found below) t
    | some (.tables latest before) =>
      (within dotted change .header latest ks).map fun below ↦ put k (.tables below before) t

/-- Defines a key in the current table, the rest of whose path is given. -/
def define (k : String) (v : Value) (isDotted : Bool) (origin : Origin) (t : Definitions) :
    Option Definitions :=
  if isDotted ∧ origin ≠ .dotted then none
  else if (lookup k t).isSome then none
  else some (put k (.value v) t)

/-- Defines the value of a path of keys in a table. -/
def assign (t : Definitions) (path : List String) (v : Value) : Option Definitions :=
  match path.getLast? with
  | none => none
  | some k =>
    let way := path.dropLast
    within true (define k v (!way.isEmpty)) .header t way

/-- Defines the value of a path of keys in the table that the latest header has named. -/
def assignIn (t : Definitions) (header path : List String) (v : Value) : Option Definitions :=
  within false (fun _ t ↦ t.assign path v) .header t header

/-- Opens the table that a header names. -/
def openTable (t : Definitions) (header : List String) : Option Definitions :=
  match header.getLast? with
  | none => none
  | some k =>
    within false (fun _ t ↦
      match lookup k t with
      | none => some (put k (.table .header []) t)
      | some (.table .parent entries) => some (put k (.table .header entries) t)
      | some _ => none) .header t header.dropLast

/-- Opens a further table of the list that a header names. -/
def openItem (t : Definitions) (header : List String) : Option Definitions :=
  match header.getLast? with
  | none => none
  | some k =>
    within false (fun _ t ↦
      match lookup k t with
      | none => some (put k (.tables [] []) t)
      | some (.tables latest before) => some (put k (.tables [] (latest :: before)) t)
      | some _ => none) .header t header.dropLast

end Definitions

end DpuNetwork.Toml
