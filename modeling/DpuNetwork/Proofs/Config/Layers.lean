import Mathlib.Data.List.Nodup
import Mathlib.Data.Option.Basic
import DpuNetwork.Config.Environment
import DpuNetwork.Toml.Reader

/-!
# Layers of settings

What stands under a key in settings that come from several sources is what the last source that has
the key gives for it, up to what tables hold (`Value.Alike`): two tables under one key are laid over
one another, and are a table all the same. This is so for sources whose keys are distinct, which the
tables of TOML documents are, since a document that gives a key twice is refused.

## Main statements

* `Toml.distinct_of_parse?`: the keys of a TOML document are distinct;
* `Table.lookup_layered`: the last layer that has a key counts;
* `Environment.lookup_table`: so does the last variable for a key.
-/

namespace DpuNetwork

namespace Assoc

variable {κ ν : Type}

/-- No key stands in a list of pairs twice. -/
def Distinct (l : List (κ × ν)) : Prop := (l.map Prod.fst).Nodup

theorem distinct_nil : Distinct ([] : List (κ × ν)) := List.nodup_nil

theorem distinct_singleton (e : κ × ν) : Distinct [e] := List.nodup_singleton _

variable [DecidableEq κ]

/-- A key that is put is there, and no other is gone. -/
theorem mem_keys_put {k j : κ} {v : ν} {l : List (κ × ν)} :
    j ∈ (put k v l).map Prod.fst ↔ j = k ∨ j ∈ l.map Prod.fst := by
  induction l with
  | nil => simp [put]
  | cons e r ih =>
    rw [put]
    split
    · next h => simp [h]
    · simp only [List.map_cons, List.mem_cons, ih]
      exact or_left_comm

/-- Putting a value under a key leaves the keys distinct. -/
theorem Distinct.put {l : List (κ × ν)} (h : Distinct l) (k : κ) (v : ν) :
    Distinct (put k v l) := by
  induction l with
  | nil => exact distinct_singleton _
  | cons e r ih =>
    obtain ⟨hnot, hr⟩ := List.nodup_cons.mp h
    rw [Assoc.put]
    split
    · next hk => exact List.nodup_cons.mpr ⟨hk ▸ hnot, hr⟩
    · next hk =>
      refine List.nodup_cons.mpr ⟨fun hmem ↦ ?_, ih hr⟩
      rcases mem_keys_put.mp hmem with heq | hmem
      · exact hk heq
      · exact hnot hmem

end Assoc

open Assoc (Distinct lookup put)

/-! ### The keys of a TOML document -/

namespace Toml

open Config (Value)

variable {t t' : Definitions}

namespace Definitions

/-- A change within a table leaves its keys distinct, if it does so where the path leads to the
table itself. -/
theorem distinct_within {dotted : Bool} {change : Origin → Definitions → Option Definitions}
    {origin : Origin} {path : List String}
    (hchange : ∀ origin t t', Distinct t → change origin t = some t' → Distinct t')
    (ht : Distinct t) (h : within dotted change origin t path = some t') : Distinct t' := by
  cases path with
  | nil => exact hchange origin t t' ht h
  | cons k path =>
    rw [within] at h
    split at h
    · obtain ⟨below, -, rfl⟩ := Option.map_eq_some_iff.mp h
      exact ht.put k _
    · cases h
    · split at h
      · cases h
      · obtain ⟨below, -, rfl⟩ := Option.map_eq_some_iff.mp h
        exact ht.put k _
    · obtain ⟨below, -, rfl⟩ := Option.map_eq_some_iff.mp h
      exact ht.put k _

/-- An assignment keeps the keys distinct: where a key is defined already, it is refused. So do the
other ways in which definitions grow, below. -/
theorem distinct_assign {path : List String} {v : Value} (ht : Distinct t)
    (h : t.assign path v = some t') : Distinct t' := by
  rw [assign] at h
  split at h
  · cases h
  · refine distinct_within (fun origin t t' ht h ↦ ?_) ht h
    rw [define] at h
    split at h
    · cases h
    split at h
    · cases h
    · cases h
      exact ht.put _ _

theorem distinct_assignIn {header path : List String} {v : Value} (ht : Distinct t)
    (h : t.assignIn header path v = some t') : Distinct t' :=
  distinct_within (fun _ _ _ ht h ↦ distinct_assign ht h) ht h

theorem distinct_openTable {header : List String} (ht : Distinct t)
    (h : t.openTable header = some t') : Distinct t' := by
  rw [openTable] at h
  split at h
  · cases h
  · refine distinct_within (fun origin t t' ht h ↦ ?_) ht h
    split at h <;> cases h <;> exact ht.put _ _

theorem distinct_openItem {header : List String} (ht : Distinct t)
    (h : t.openItem header = some t') : Distinct t' := by
  rw [openItem] at h
  split at h
  · cases h
  · refine distinct_within (fun origin t t' ht h ↦ ?_) ht h
    split at h <;> cases h <;> exact ht.put _ _

end Definitions

/-- So it is with the whole document, by induction on its lines. -/
theorem distinct_document {n : Nat} {current : List String} {s : List Char} (ht : Distinct t)
    (h : document n current t s = some t') : Distinct t' := by
  induction n generalizing current t s with
  | zero => cases h
  | succ n ih =>
    rw [document] at h
    split at h
    · cases h
      exact ht
    · split at h
      · split at h
        · next hopen => exact ih (Definitions.distinct_openItem ht hopen) h
        · cases h
      · cases h
    · split at h
      · split at h
        · next hopen => exact ih (Definitions.distinct_openTable ht hopen) h
        · cases h
      · cases h
    · split at h
      · exact ih ht h
      · split at h
        · split at h
          · next hassign => exact ih (Definitions.distinct_assignIn ht hassign) h
          · cases h
        · cases h

/-- The table has the keys of the definitions and nothing else. -/
theorem keys_toTable (t : Definitions) :
    (Definition.toTable t).map Prod.fst = t.map Prod.fst := by
  induction t with
  | nil => rw [Definition.toTable]; rfl
  | cons e t ih =>
    obtain ⟨k, d⟩ := e
    rw [Definition.toTable, List.map_cons, List.map_cons, ih]

/-- **The keys of a TOML document are distinct.** -/
theorem distinct_of_parse? {s : String} {t : Config.Table} (h : parse? s = some t) :
    Distinct t := by
  obtain ⟨defined, hdefined, rfl⟩ := Option.map_eq_some_iff.mp h
  rw [Distinct, keys_toTable]
  exact distinct_document Assoc.distinct_nil hdefined

end Toml

namespace Config

/-! ### The last layer counts -/

/-- Values that differ at most in what they hold as tables. -/
inductive Value.Alike : Value → Value → Prop
  /-- Every value is like itself. -/
  | refl (v : Value) : Alike v v
  /-- Tables are alike, whatever they hold. -/
  | tables (a b : Table) : Alike (.table a) (.table b)

theorem Value.Alike.trans {v₁ v₂ v₃ : Value} (h : v₁.Alike v₂) (h' : v₂.Alike v₃) :
    v₁.Alike v₃ := by
  cases h with
  | refl => exact h'
  | tables a b =>
    cases h' with
    | refl => exact .tables a b
    | tables _ c => exact .tables a c

/-- A value laid over another is like itself. -/
theorem Value.alike_over (old v : Value) : (Value.over old v).Alike v := by
  cases v with
  | table entries => cases old <;> exact .tables _ _
  | _ => exact .refl _

/-- What stands under a key in two tables is alike. -/
abbrev Alike : Option Value → Option Value → Prop := Option.Rel Value.Alike

theorem Alike.refl (v : Option Value) : Alike v v := by
  cases v with
  | none => exact .none
  | some v => exact .some (.refl v)

theorem Alike.trans {v₁ v₂ v₃ : Option Value} (h : Alike v₁ v₂) (h' : Alike v₂ v₃) :
    Alike v₁ v₃ := by
  cases h with
  | none => exact h'
  | some h =>
    cases h' with
    | some h' => exact .some (h.trans h')

/-- Alternatives that are alike choose alike. -/
theorem Alike.or {v v' w w' : Option Value} (h : Alike v v') (h' : Alike w w') :
    Alike (v.or w) (v'.or w') := by
  cases h with
  | none => simpa using h'
  | some h => simpa using h

namespace Table

/-- Keys stay distinct when a layer is laid over another. -/
theorem distinct_overlay {lower : Table} (upper : Table) (h : Distinct lower) :
    Distinct (overlay lower upper) := by
  induction upper generalizing lower with
  | nil => rwa [overlay]
  | cons e upper ih =>
    rw [overlay]
    exact ih (h.put _ _)

/-- So they do under any number of layers. -/
theorem distinct_foldl_overlay {lower : Table} (layers : List Table) (h : Distinct lower) :
    Distinct (layers.foldl overlay lower) := by
  induction layers generalizing lower with
  | nil => exact h
  | cons t layers ih => exact ih (distinct_overlay t h)

/-- What stands in a layer counts, and what does not stand there is left as it is. -/
theorem alike_lookup_overlay (lower : Table) {upper : Table} (h : Distinct upper) (k : String) :
    Alike (lookup k (overlay lower upper)) ((lookup k upper).or (lookup k lower)) := by
  rw [lookup_overlay lower upper k h]
  rcases lookup k upper with - | v
  · exact .refl _
  · rcases lookup k lower with - | old
    · exact .refl _
    · exact .some (Value.alike_over old v)

/-- Of several layers the last one that has a key gives it, and the lowest gives what no other
has. -/
theorem lookup_foldl_overlay (lower : Table) {layers : List Table}
    (h : ∀ t ∈ layers, Distinct t) (k : String) :
    Alike (lookup k (layers.foldl overlay lower))
      ((layers.filterMap (lookup k)).getLast?.or (lookup k lower)) := by
  induction layers generalizing lower with
  | nil => exact .refl _
  | cons t layers ih =>
    obtain ⟨ht, hlayers⟩ := List.forall_mem_cons.mp h
    have hrest := ih (overlay lower t) hlayers
    refine hrest.trans ((Alike.refl _).or (alike_lookup_overlay lower ht k) |>.trans ?_)
    rw [List.filterMap_cons]
    rcases lookup k t with - | v
    · exact .refl _
    · rw [List.getLast?_cons]
      rcases (layers.filterMap (lookup k)).getLast? with - | w <;> exact .refl _

/-- **The last layer that has a key counts.** -/
theorem lookup_layered {layers : List Table} (h : ∀ t ∈ layers, Distinct t) (k : String) :
    Alike (lookup k (layered layers)) (layers.filterMap (lookup k)).getLast? := by
  have hlast := lookup_foldl_overlay [] h k
  rwa [lookup, Option.or_none] at hlast

theorem distinct_layered (layers : List Table) : Distinct (layered layers) :=
  distinct_foldl_overlay layers Assoc.distinct_nil

theorem distinct_nest (path : List String) (v : Value) : Distinct (nest path v) := by
  rcases path with - | ⟨k, - | ⟨k', path⟩⟩
  · exact Assoc.distinct_nil
  · exact Assoc.distinct_singleton _
  · exact Assoc.distinct_singleton _

end Table

/-! ### Variables -/

namespace Environment

/-- What stands under the first key of a path when a value stands under the whole path. -/
def below (v : Value) : List String → Value
  | [] => v
  | path => .table (Table.nest path v)

/-- What a variable gives for a key: the value of its text, if its name stands for the key, and a
table, if it stands for a longer path that starts with the key. -/
def gives? (key name text : String) : Option Value :=
  match keys? name with
  | some (k :: path) => if k = key then some (below (valueOf text) path) else none
  | _ => none

/-- What the variables give for a key; the last one that gives something counts. -/
def given? (vars : Variables) (key : String) : Option Value :=
  (vars.entries.filterMap fun e ↦ gives? key e.1 e.2).getLast?

/-- Of the table that a variable stands for, the key at the top gives what `gives?` says. -/
theorem lookup_nest (key name text : String) :
    ((keys? name).map fun path ↦ Table.nest path (valueOf text)).bind (lookup key) =
      gives? key name text := by
  rw [gives?]
  rcases keys? name with - | (- | ⟨k, - | ⟨k', path⟩⟩)
  · rfl
  · rfl
  · rfl
  · rfl

/-- **The last variable for a key counts.** -/
theorem lookup_table (vars : Variables) (key : String) :
    Alike (lookup key (table vars)) (given? vars key) := by
  have hdistinct : ∀ t ∈ vars.entries.filterMap (fun e ↦
      (keys? e.1).map fun path ↦ Table.nest path (valueOf e.2)), Distinct t := by
    intro t ht
    obtain ⟨e, -, hnest⟩ := List.mem_filterMap.mp ht
    obtain ⟨path, -, rfl⟩ := Option.map_eq_some_iff.mp hnest
    exact Table.distinct_nest path _
  have hlast := Table.lookup_layered hdistinct key
  rw [List.filterMap_filterMap] at hlast
  simp only [lookup_nest] at hlast
  exact hlast

/-- The table of the environment has distinct keys, as every layered table does. -/
theorem distinct_table (vars : Variables) : Distinct (table vars) := Table.distinct_layered _

end Environment

end Config

end DpuNetwork
