import DpuNetwork.Json.Basic

/-!
# Records in JSON

A record with known field names is written as an object, in any order and with further members that
are ignored, or as an array of its fields in the order of declaration. A member that no field is
named for is never looked into; a field that is given twice, or a name that is no text, refuses the
whole record.

A field whose member is missing may have a default; one that only tolerates `null` may be missing
from an object but not from the end of an array.
-/

namespace DpuNetwork.Json

/-- How a record gives one of its fields. -/
inductive Field where
  /-- With a value. -/
  | given (j : Json)
  /-- Not at all: an object without a member of that name. -/
  | omitted
  /-- Not at all: an array that ends before it. -/
  | cutOff

/-- The members of an object whose names are all texts. -/
def members? : Json → Option (List (String × Json))
  | .obj members => members.mapM fun (k, v) ↦ k.map fun k ↦ (k, v)
  | _ => none

/-- How a record gives the named fields. -/
def fields? (names : List String) : Json → Option (List Field)
  | .obj ms =>
    match members? (.obj ms) with
    | some ms =>
      if names.all fun n ↦ (ms.countP fun m ↦ m.1 == n) ≤ 1 then
        some (names.map fun n ↦ match ms.lookup n with
          | some j => .given j
          | none => .omitted)
      else none
    | none => none
  | .arr items =>
    if items.length ≤ names.length then
      some (items.map .given ++ List.replicate (names.length - items.length) .cutOff)
    else none
  | _ => none

namespace Field

variable {α : Type}

/-- A field that has to be given. -/
def required? (read : Json → Option α) : Field → Option α
  | .given j => read j
  | _ => none

/-- A field that may be `null`, and may be missing from an object. -/
def optional? (read : Json → Option α) : Field → Option (Option α)
  | .given j => orNull? read j
  | .omitted => some none
  | .cutOff => none

/-- A field with a default. -/
def withDefault? (default : α) (read : Json → Option α) : Field → Option α
  | .given j => read j
  | _ => some default

end Field

/-- The value of a named member, the last one if the name is repeated. -/
def lastMember? (name : String) (members : List (String × Json)) : Option Json :=
  (members.reverse.lookup name)

end DpuNetwork.Json
