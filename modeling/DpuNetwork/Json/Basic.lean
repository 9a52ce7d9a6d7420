/-!
# JSON values

The tree that a JSON text denotes, with what a later decoder may still object to: a string literal
can hold an unpaired surrogate and then denotes no text, and a number literal with a fraction or an
exponent is kept apart from the integers. Members of an object stay in the order of writing, and a
repeated name stays repeated.
-/

namespace DpuNetwork

/-- A JSON value. -/
inductive Json where
  /-- The literal `null`. -/
  | null
  /-- A truth value. -/
  | bool (b : Bool)
  /-- A number written without fraction and exponent; minus zero is not one of them. -/
  | int (n : Int)
  /-- Any other number, as it is written. -/
  | real (literal : String)
  /-- A string; `none` stands for a literal with an unpaired surrogate, which denotes no text. -/
  | str (text : Option String)
  /-- An array. -/
  | arr (items : List Json)
  /-- An object. -/
  | obj (members : List (Option String × Json))
  deriving Inhabited

namespace Json

/-- The value of a string that denotes a text. -/
def ofText (s : String) : Json := .str (some s)

/-- An object with the given members. -/
def record (members : List (String × Json)) : Json :=
  .obj (members.map fun (k, v) ↦ (some k, v))

/-- The text of a string. -/
def text? : Json → Option String
  | .str t => t
  | _ => none

/-- The natural number of at most `limit` that a value denotes. -/
def natural? (limit : Nat) : Json → Option Nat
  | .int n => if 0 ≤ n ∧ n ≤ limit then some n.toNat else none
  | _ => none

/-- The items of an array. -/
def items? : Json → Option (List Json)
  | .arr items => some items
  | _ => none

/-- A value that may be `null` in place of what `read` takes. -/
def orNull? {α : Type} (read : Json → Option α) : Json → Option (Option α)
  | .null => some none
  | j => (read j).map some

/-- A list of values that `read` takes. -/
def list? {α : Type} (read : Json → Option α) (j : Json) : Option (List α) :=
  match j.items? with
  | some items => items.mapM read
  | none => none

end Json

end DpuNetwork
