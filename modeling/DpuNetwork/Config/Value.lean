import DpuNetwork.Assoc

/-!
# Settings as they are written

A source of settings gives a table of values, and sources are laid over one another: under each key
the later source counts, except that two tables under one key are laid over one another in turn.
Types are not looked at here, so a value of the wrong type does no harm under a later one.

The law of layering is `lookup_overlay`: what stands under a key depends only on what stands under
that key in the two layers.
-/

namespace DpuNetwork.Config

/-- A value in a source of settings. -/
inductive Value where
  /-- A truth value. -/
  | bool (b : Bool)
  /-- An integer. -/
  | int (n : Int)
  /-- A number with a fraction or an exponent, as it is written. -/
  | float (literal : String)
  /-- A text. -/
  | text (s : String)
  /-- A date or a time, as it is written. -/
  | moment (literal : String)
  /-- A list. -/
  | list (items : List Value)
  /-- A table. -/
  | table (entries : List (String × Value))
  deriving Inhabited

/-- A table: keys with values. The first entry of a key counts. -/
abbrev Table := List (String × Value)

open Assoc (lookup put)

mutual

/-- A value laid over another. -/
def Value.over (lower : Value) : Value → Value
  | .table entries =>
    match lower with
    | .table below => .table (Table.overlay below entries)
    | _ => .table entries
  | v => v

/-- A table with the entries of another laid over it, one after the other. -/
def Table.overlay (lower : Table) : List (String × Value) → Table
  | [] => lower
  | (k, v) :: r =>
    Table.overlay (put k
      (match lookup k lower with
        | some old => Value.over old v
        | none => v) lower) r

end

/-- The table that holds one value under a path of keys; the empty path gives the empty table. -/
def Table.nest : List String → Value → Table
  | [], _ => []
  | [k], v => [(k, v)]
  | k :: ks, v => [(k, .table (Table.nest ks v))]

/-- All layers, the first one lowest. -/
def Table.layered (layers : List Table) : Table := layers.foldl Table.overlay []

/-- What stands under a key after a layer was laid over a table, if the layer has the key once. -/
theorem Table.lookup_overlay (lower upper : Table) (j : String)
    (h : (upper.map Prod.fst).Nodup) :
    lookup j (Table.overlay lower upper) =
      match lookup j upper with
      | none => lookup j lower
      | some v => match lookup j lower with
        | some old => some (Value.over old v)
        | none => some v := by
  induction upper generalizing lower with
  | nil => simp [Table.overlay, lookup]
  | cons e r ih =>
    obtain ⟨k, v⟩ := e
    obtain ⟨hnot, hr⟩ := List.nodup_cons.mp h
    rw [Table.overlay, ih _ hr]
    by_cases hk : k = j
    · -- This entry decides, since the key does not come again.
      subst hk
      have habsent : lookup k r = none := Assoc.lookup_of_not_mem hnot
      have hhere : lookup k ((k, v) :: r) = some v := by simp [lookup]
      rw [habsent, hhere]
      cases hbelow : lookup k lower <;> simp [Assoc.lookup_put]
    · -- It leaves what stands under the other key as it was.
      have hthere : lookup j ((k, v) :: r) = lookup j r := by simp [lookup, hk]
      simp [hthere, Assoc.lookup_put, hk]

end DpuNetwork.Config
