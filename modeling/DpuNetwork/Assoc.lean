/-!
# Finite maps in order of insertion

A finite map as a list of pairs. Putting a value under a key that is present replaces the value and
keeps the place, so listing the keys gives the order in which they were first put. What a look-up
sees after each operation is stated here (`get?_insert`, `get?_erase`, `get?_filter`); nothing else
about the list matters to the rest of the library.
-/

namespace DpuNetwork

/-- A finite map. -/
structure Assoc (κ ν : Type) where
  /-- The pairs of key and value; the first pair of a key counts. -/
  entries : List (κ × ν) := []
  deriving DecidableEq

namespace Assoc

variable {κ ν : Type} [DecidableEq κ]

/-- The value of the first pair with the key. -/
def lookup (k : κ) : List (κ × ν) → Option ν
  | [] => none
  | (k', v) :: r => if k' = k then some v else lookup k r

/-- The pairs with the value under `k` replaced, or a new pair at the end. -/
def put (k : κ) (v : ν) : List (κ × ν) → List (κ × ν)
  | [] => [(k, v)]
  | (k', v') :: r => if k' = k then (k, v) :: r else (k', v') :: put k v r

/-- The value under a key. -/
def get? (m : Assoc κ ν) (k : κ) : Option ν := lookup k m.entries

/-- The map with a value put under a key. -/
def insert (m : Assoc κ ν) (k : κ) (v : ν) : Assoc κ ν := ⟨put k v m.entries⟩

/-- The map without a key. -/
def erase (m : Assoc κ ν) (k : κ) : Assoc κ ν := ⟨m.entries.filter fun e ↦ decide (e.1 ≠ k)⟩

/-- The map without the keys that do not satisfy `p`. -/
def filter (m : Assoc κ ν) (p : κ → Bool) : Assoc κ ν := ⟨m.entries.filter fun e ↦ p e.1⟩

/-- The map that holds the given pairs; of two pairs with one key the later counts. -/
def ofList (l : List (κ × ν)) : Assoc κ ν := l.foldl (fun m e ↦ m.insert e.1 e.2) {}

/-- The first map with every pair of the second put into it. -/
def union (m m' : Assoc κ ν) : Assoc κ ν := m'.entries.foldl (fun m e ↦ m.insert e.1 e.2) m

@[simp] theorem get?_empty (k : κ) : ({} : Assoc κ ν).get? k = none := rfl

/-- Nothing stands under a key that no pair has. -/
theorem lookup_of_not_mem {k : κ} {l : List (κ × ν)} (h : k ∉ l.map Prod.fst) :
    lookup k l = none := by
  induction l with
  | nil => rfl
  | cons e r ih =>
    obtain ⟨hne, hr⟩ := not_or.mp (mt List.mem_cons.mpr h)
    rw [lookup, if_neg (Ne.symm hne), ih hr]

theorem lookup_put (k j : κ) (v : ν) (l : List (κ × ν)) :
    lookup j (put k v l) = if k = j then some v else lookup j l := by
  induction l with
  | nil => rfl
  | cons e r ih =>
    obtain ⟨k', v'⟩ := e
    simp only [put]
    by_cases hk : k' = k
    · subst hk
      by_cases hj : k' = j <;> simp [lookup, hj]
    · by_cases hj : k' = j
      · subst hj
        simp [lookup, hk, Ne.symm hk]
      · simp [lookup, hk, hj, ih]

/-- A pair with a new key is put at the end. -/
theorem put_of_not_mem {k : κ} {l : List (κ × ν)} (h : k ∉ l.map Prod.fst) (v : ν) :
    put k v l = l ++ [(k, v)] := by
  induction l with
  | nil => rfl
  | cons e r ih =>
    obtain ⟨hne, hr⟩ := not_or.mp (mt List.mem_cons.mpr h)
    rw [put, if_neg (Ne.symm hne), ih hr, List.cons_append]

/-- Pairs with different new keys are put at the end, one after the other. -/
theorem foldl_insert {m : Assoc κ ν} {l : List (κ × ν)}
    (h : (m.entries.map Prod.fst ++ l.map Prod.fst).Nodup) :
    l.foldl (fun m e ↦ m.insert e.1 e.2) m = ⟨m.entries ++ l⟩ := by
  induction l generalizing m with
  | nil => simp
  | cons e l ih =>
    have hnew : e.1 ∉ m.entries.map Prod.fst := fun hmem ↦
      (List.nodup_append.mp h).2.2 _ hmem _ (List.mem_cons_self) rfl
    have hentries : (m.insert e.1 e.2).entries = m.entries ++ [e] := put_of_not_mem hnew e.2
    rw [List.foldl_cons, ih, hentries, List.append_assoc, List.singleton_append]
    simpa [hentries] using h

/-- The pairs of a map make up the map, if their keys are different. -/
theorem ofList_entries {m : Assoc κ ν} (h : (m.entries.map Prod.fst).Nodup) :
    ofList m.entries = m :=
  foldl_insert (m := {}) (by simpa using h)

/-- What a look-up sees after a value was put. -/
theorem get?_insert (m : Assoc κ ν) (k j : κ) (v : ν) :
    (m.insert k v).get? j = if k = j then some v else m.get? j :=
  lookup_put k j v m.entries

@[simp] theorem get?_insert_self (m : Assoc κ ν) (k : κ) (v : ν) :
    (m.insert k v).get? k = some v := by simp [get?_insert]

theorem get?_insert_of_ne (m : Assoc κ ν) {k j : κ} (h : k ≠ j) (v : ν) :
    (m.insert k v).get? j = m.get? j := by simp [get?_insert, h]

/-- What a look-up sees after keys were removed. -/
theorem get?_filter (m : Assoc κ ν) (p : κ → Bool) (j : κ) :
    (m.filter p).get? j = if p j then m.get? j else none := by
  obtain ⟨l⟩ := m
  simp only [get?, filter]
  induction l with
  | nil => simp [lookup]
  | cons e r ih =>
    obtain ⟨k', v'⟩ := e
    by_cases hk : k' = j
    · subst hk
      by_cases hp : p k' = true <;> simp_all [lookup]
    · by_cases hp : p k' = true <;> simp_all [lookup]

/-- What a look-up sees after a key was removed. -/
theorem get?_erase (m : Assoc κ ν) (k j : κ) :
    (m.erase k).get? j = if k = j then none else m.get? j := by
  have h := get?_filter m (fun x ↦ decide (x ≠ k)) j
  rw [show m.erase k = m.filter fun x ↦ decide (x ≠ k) from rfl, h]
  by_cases hk : k = j <;> simp [hk, eq_comm]

end Assoc

end DpuNetwork
