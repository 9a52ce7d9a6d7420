import DpuNetwork.Json.Record
import Mathlib.Data.List.Nodup

/-!
# The members of an object

A field of a record is given by the only member of its name, wherever it stands and whatever other
members there are. So the fields of an object depend neither on the order of its members nor on
members that no field is named for (`fields?_of_perm`), and a field that may be missing or `null`
can be told from the members of its name alone (`GivesText`).

## Main statements

* `fields?_of_perm`: the fields of an object, its members in any order and among others;
* `exists_fields?_iff`: how a record gives optional texts.
-/

namespace DpuNetwork.Json

variable {ms own others : List (String × Json)} {n : String} {names : List String}

theorem members?_record (ms : List (String × Json)) :
    members? (.record ms) = some ms := by
  rw [record, members?]
  induction ms with
  | nil => rfl
  | cons m ms ih => rw [List.map_cons, List.mapM_cons, ih]; rfl

/-- The field that the members of an object give under a name. -/
def field (ms : List (String × Json)) (n : String) : Field :=
  match ms.lookup n with
  | some j => .given j
  | none => .omitted

/-- Fields are read by name, unless one of the names stands there twice. -/
theorem fields?_record (names : List String) (ms : List (String × Json)) :
    fields? names (.record ms) =
      if names.all fun n ↦ (ms.countP fun m ↦ m.1 == n) ≤ 1 then some (names.map (field ms))
      else none := by
  have hmembers := members?_record ms
  rw [record] at hmembers ⊢
  rw [fields?, hmembers]
  rfl

/-- A look-up finds the first member of that name. -/
theorem lookup_eq_head? (n : String) (ms : List (String × Json)) :
    ms.lookup n = (ms.filter fun m ↦ m.1 == n).head?.map Prod.snd := by
  induction ms with
  | nil => rfl
  | cons m ms ih =>
    obtain ⟨k, v⟩ := m
    by_cases h : n = k
    · subst h
      simp
    · have hn : (n == k) = false := beq_eq_false_iff_ne.mpr h
      have hk : (k == n) = false := beq_eq_false_iff_ne.mpr (Ne.symm h)
      rw [List.lookup_cons, List.filter_cons, hn, hk, ih]
      rfl

/-- Of members with different names, at most one has a given name. -/
theorem countP_le_one (h : (own.map Prod.fst).Nodup) (n : String) :
    own.countP (fun m ↦ m.1 == n) ≤ 1 := by
  have hcount := List.nodup_iff_count_le_one.mp h n
  rwa [List.count, List.countP_map] at hcount

/-- The members of one name, in any order and among others. -/
theorem filter_of_perm (h : ms.Perm (own ++ others)) (hown : (own.map Prod.fst).Nodup)
    (hothers : ∀ m ∈ others, m.1 ≠ n) :
    ms.filter (fun m ↦ m.1 == n) = own.filter fun m ↦ m.1 == n := by
  have hnone : others.filter (fun m ↦ m.1 == n) = [] := by simpa using hothers
  have hperm := h.filter fun m ↦ m.1 == n
  have hone := countP_le_one hown n
  rw [List.filter_append, hnone, List.append_nil] at hperm
  rw [List.countP_eq_length_filter] at hone
  generalize own.filter (fun m ↦ m.1 == n) = found at hperm hone ⊢
  rcases found with - | ⟨m, - | ⟨m', rest⟩⟩
  · exact hperm.eq_nil
  · exact List.perm_singleton.mp hperm
  · simp at hone

/-- **The fields of an object** do not depend on the order of its members, nor on members that no
field is named for. -/
theorem fields?_of_perm (h : ms.Perm (own ++ others)) (hown : (own.map Prod.fst).Nodup)
    (hothers : ∀ m ∈ others, m.1 ∉ names) :
    fields? names (.record ms) = some (names.map (field own)) := by
  have hfilter : ∀ n ∈ names, ms.filter (fun m ↦ m.1 == n) = own.filter fun m ↦ m.1 == n :=
    fun n hn ↦ filter_of_perm h hown fun m hm heq ↦ hothers m hm (heq ▸ hn)
  have hone : names.all (fun n ↦ (ms.countP fun m ↦ m.1 == n) ≤ 1) = true := by
    refine List.all_eq_true.mpr fun n hn ↦ decide_eq_true ?_
    rw [List.countP_eq_length_filter, hfilter n hn, ← List.countP_eq_length_filter]
    exact countP_le_one hown n
  rw [fields?_record, if_pos hone, Option.some_inj]
  refine List.map_congr_left fun n hn ↦ ?_
  rw [field, lookup_eq_head?, hfilter n hn, ← lookup_eq_head?, field]

/-! ### Optional texts -/

/-- A text, or `null`. -/
def ofText? : Option String → Json
  | some t => .ofText t
  | none => .null

/-- The members of an object give an optional text under a name: there is one such member, or there
is none and no text either. -/
def GivesText (ms : List (String × Json)) (n : String) (t? : Option String) : Prop :=
  (ms.filter fun m ↦ m.1 == n) = [(n, ofText? t?)] ∨ t? = none ∧ ∀ m ∈ ms, m.1 ≠ n

/-- A text or `null` is read as what it stands for. -/
theorem orNull?_text?_eq_some_iff {j : Json} {t? : Option String} :
    orNull? text? j = some t? ↔ j = ofText? t? := by
  cases j <;> cases t? <;> simp [orNull?, text?, ofText?, ofText]

/-- Only a record has members. -/
theorem members?_eq_some_iff {j : Json} : members? j = some ms ↔ j = .record ms := by
  refine ⟨fun h ↦ ?_, fun h ↦ h ▸ members?_record ms⟩
  cases j with
  | obj members =>
    rw [members?] at h
    rw [record, Json.obj.injEq]
    induction members generalizing ms with
    | nil =>
      obtain rfl : [] = ms := by simpa using h
      rfl
    | cons m members ih =>
      obtain ⟨k?, v⟩ := m
      simp only [List.mapM_cons, Option.bind_eq_bind, Option.bind_eq_some_iff,
        Option.map_eq_some_iff, Option.pure_def, Option.some_inj] at h
      obtain ⟨_, ⟨k, rfl, rfl⟩, ms', hms', rfl⟩ := h
      rw [List.map_cons, ← ih hms']
  | _ => cases h

/-- A field that may be missing is read as a text exactly when the members give that text for its
name. -/
theorem optional?_field_iff {t? : Option String} :
    (ms.countP fun m ↦ m.1 == n) ≤ 1 ∧ (field ms n).optional? text? = some t? ↔
      GivesText ms n t? := by
  have hnone : (∀ m ∈ ms, m.1 ≠ n) ↔ (ms.filter fun m ↦ m.1 == n) = [] := by simp
  have hname : ∀ m ∈ ms.filter fun m ↦ m.1 == n, m.1 = n := fun m hm ↦
    beq_iff_eq.mp (List.mem_filter.mp hm).2
  rw [List.countP_eq_length_filter, field, lookup_eq_head?, GivesText, hnone]
  generalize (ms.filter fun m ↦ m.1 == n) = found at hname ⊢
  rcases found with - | ⟨⟨k, j⟩, - | ⟨m', rest⟩⟩
  · simp [Field.optional?, eq_comm]
  · obtain rfl : k = n := hname _ List.mem_cons_self
    simp [Field.optional?, orNull?_text?_eq_some_iff]
  · simp

/-- An object is read as the texts that it gives for the names, whatever other members it has. -/
theorem exists_fields?_record_iff {ts : List (Option String)} :
    (∃ fs, fields? names (.record ms) = some fs ∧
        List.Forall₂ (fun f t? ↦ f.optional? text? = some t?) fs ts) ↔
      List.Forall₂ (GivesText ms) names ts := by
  have hgives : GivesText ms = fun n t? ↦ (ms.countP fun m ↦ m.1 == n) ≤ 1 ∧
      (field ms n).optional? text? = some t? :=
    funext₂ fun n t? ↦ (propext optional?_field_iff).symm
  rw [hgives, List.forall₂_and_left, fields?_record]
  simp only [List.all_eq_true, decide_eq_true_iff]
  split
  · next hone => simpa [List.forall₂_map_left_iff] using fun _ ↦ hone
  · next hmany => simp [hmany]

/-- An array is read as its items, one for each name and in that order. -/
theorem exists_fields?_arr_iff {items : List Json} {ts : List (Option String)} :
    (∃ fs, fields? names (.arr items) = some fs ∧
        List.Forall₂ (fun f t? ↦ f.optional? text? = some t?) fs ts) ↔
      items = ts.map ofText? ∧ ts.length = names.length := by
  constructor
  · rintro ⟨fs, hfs, hts⟩
    have hnot : ∀ f ∈ fs, f ≠ .cutOff := ((List.forall₂_and_left ..).mp
      (hts.imp fun f t? h ↦ ⟨fun hcut ↦ by simp [hcut, Field.optional?] at h, h⟩)).1
    rw [fields?] at hfs
    split at hfs
    · next hle =>
      obtain rfl := Option.some.inj hfs
      have hfull : names.length - items.length = 0 := by
        by_contra hmissing
        exact hnot .cutOff (List.mem_append_right _ (List.mem_replicate.mpr ⟨hmissing, rfl⟩)) rfl
      rw [hfull, List.replicate_zero, List.append_nil, List.forall₂_map_left_iff] at hts
      simp only [Field.optional?, orNull?_text?_eq_some_iff] at hts
      have hitems : items = ts.map ofText? := by
        rwa [← List.forall₂_eq_eq_eq, List.forall₂_map_right_iff]
      refine ⟨hitems, ?_⟩
      rw [hitems, List.length_map] at hle hfull
      omega
    · cases hfs
  · rintro ⟨rfl, hlength⟩
    refine ⟨ts.map fun t? ↦ .given (ofText? t?), by simp [fields?, hlength], ?_⟩
    rw [List.forall₂_map_left_iff]
    exact List.forall₂_same.mpr fun t? _ ↦ orNull?_text?_eq_some_iff.mpr rfl

/-- **How a record gives optional texts**: as an object by the members of their names, as an array
in their order, and none may be missing from an array. -/
theorem exists_fields?_iff {ts : List (Option String)} {j : Json} :
    (∃ fs, fields? names j = some fs ∧
        List.Forall₂ (fun f t? ↦ f.optional? text? = some t?) fs ts) ↔
      (∃ ms, j = .record ms ∧ List.Forall₂ (GivesText ms) names ts) ∨
        j = .arr (ts.map ofText?) ∧ ts.length = names.length := by
  cases j with
  | obj members =>
    cases hmembers : members? (.obj members) with
    | none =>
      have hrecord : ∀ ms, .obj members ≠ record ms := fun ms h ↦ by
        rw [members?_eq_some_iff.mpr h] at hmembers
        cases hmembers
      simp [fields?, hmembers, hrecord]
    | some ms =>
      have hrecord : ∀ ms', .obj members = record ms' ↔ ms = ms' := fun ms' ↦ by
        rw [← members?_eq_some_iff, hmembers, Option.some_inj]
      rw [(hrecord ms).mpr rfl, exists_fields?_record_iff]
      simp [hrecord, ← (hrecord ms).mpr rfl]
  | arr items => simp [exists_fields?_arr_iff, record]
  | _ => simp [fields?, record]

end DpuNetwork.Json
