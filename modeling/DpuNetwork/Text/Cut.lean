/-!
# Cutting text at separators

Three ways of cutting a text: once at the first separator, at every separator, and into lines.
Cutting everywhere loses only the separators (`join_cut`), and parts without a separator are found
again (`cut_join`), which together tell what the parts are (`cut_eq_iff`). Cutting once gives the
part without separators and the rest (`cutOnce_eq_some_iff`), unless there is no separator
(`cutOnce_eq_none_iff`).
-/

namespace DpuNetwork.Text

variable {α : Type} [DecidableEq α]

/-- The parts before and after the first occurrence of a separator, if there is one. -/
def cutOnce (sep : α) : List α → Option (List α × List α)
  | [] => none
  | c :: r => if c = sep then some ([], r) else (cutOnce sep r).map fun (a, b) ↦ (c :: a, b)

/-- The parts between the elements that satisfy `isSep`; there is always at least one part. -/
def cutWhere (isSep : α → Bool) : List α → List (List α)
  | [] => [[]]
  | c :: r =>
    if isSep c then [] :: cutWhere isSep r
    else match cutWhere isSep r with
      | [] => [[c]]
      | p :: ps => (c :: p) :: ps

/-- The parts between the occurrences of one separator. -/
def cut (sep : α) (s : List α) : List (List α) := cutWhere (· == sep) s

/-- The parts written one after the other with a separator in between. -/
def join (sep : α) : List (List α) → List α
  | [] => []
  | [p] => p
  | p :: ps => p ++ sep :: join sep ps

/-- The lines of a text. A line ends at a line feed, which may follow a carriage return; the end of
the text ends the last line, and no empty line follows a final line feed. -/
def lines (s : List Char) : List (List Char) :=
  let parts := cut '\n' s
  let ended := parts.dropLast.map fun l ↦
    if l.getLast? = some '\r' then l.dropLast else l
  match parts.getLast? with
  | some [] | none => ended
  | some l => ended ++ [l]

omit [DecidableEq α] in
/-- A cut text has at least one part. -/
theorem cutWhere_ne_nil (isSep : α → Bool) (s : List α) : cutWhere isSep s ≠ [] := by
  cases s with
  | nil => simp [cutWhere]
  | cons c r =>
    unfold cutWhere
    split
    · simp
    · split <;> simp

/-- Cutting at a separator loses only the separators. -/
theorem join_cut (sep : α) (s : List α) : join sep (cut sep s) = s := by
  induction s with
  | nil => rfl
  | cons c r ih =>
    simp only [cut, cutWhere] at ih ⊢
    have hne := cutWhere_ne_nil (· == sep) r
    split
    · next h =>
      rw [join, ih, beq_iff_eq.1 h]
      · rfl
      · exact hne
    · cases h : cutWhere (· == sep) r with
      | nil => exact absurd h hne
      | cons p ps =>
        rw [h] at ih
        cases ps with
        | nil => simpa [join] using ih
        | cons q qs => simpa [join] using ih

omit [DecidableEq α] in
/-- A part without separators stands in front of the first separator. -/
theorem cutWhere_append {isSep : α → Bool} {p : List α} {c : α} (hc : isSep c = true)
    (h : ∀ x ∈ p, isSep x = false) (r : List α) :
    cutWhere isSep (p ++ c :: r) = p :: cutWhere isSep r := by
  induction p with
  | nil => simp [cutWhere, hc]
  | cons x p ih =>
    have ih := ih fun y hy ↦ h y (List.mem_cons_of_mem _ hy)
    simp [cutWhere, h x List.mem_cons_self, ih]

omit [DecidableEq α] in
/-- A text without separators is its only part. -/
theorem cutWhere_of_forall {isSep : α → Bool} {p : List α}
    (h : ∀ x ∈ p, isSep x = false) : cutWhere isSep p = [p] := by
  induction p with
  | nil => rfl
  | cons x p ih =>
    have ih := ih fun y hy ↦ h y (List.mem_cons_of_mem _ hy)
    simp [cutWhere, h x List.mem_cons_self, ih]

/-- Cutting in front of the first separator. -/
theorem cut_append {sep : α} {p : List α} (h : sep ∉ p) (r : List α) :
    cut sep (p ++ sep :: r) = p :: cut sep r :=
  cutWhere_append (by simp) (fun x hx ↦ by simpa using fun e : x = sep ↦ h (e ▸ hx)) r

/-- A text without the separator is its only part. -/
theorem cut_of_not_mem {sep : α} {p : List α} (h : sep ∉ p) : cut sep p = [p] :=
  cutWhere_of_forall fun x hx ↦ by simpa using fun e : x = sep ↦ h (e ▸ hx)

/-- Parts that hold no separator are found again when they are written one after the other. -/
theorem cut_join {sep : α} {ps : List (List α)} (hne : ps ≠ []) (h : ∀ p ∈ ps, sep ∉ p) :
    cut sep (join sep ps) = ps := by
  induction ps with
  | nil => exact absurd rfl hne
  | cons p ps ih =>
    cases ps with
    | nil => exact cut_of_not_mem (h p List.mem_cons_self)
    | cons q qs =>
      rw [join, cut_append (h p List.mem_cons_self),
        ih (by simp) fun r hr ↦ h r (List.mem_cons_of_mem _ hr)]
      simp

omit [DecidableEq α] in
/-- No part holds a separator. -/
theorem isSep_of_mem_cutWhere {isSep : α → Bool} {s p : List α} (hp : p ∈ cutWhere isSep s) :
    ∀ x ∈ p, isSep x = false := by
  induction s generalizing p with
  | nil =>
    obtain rfl : p = [] := by simpa [cutWhere] using hp
    exact fun x hx ↦ absurd hx List.not_mem_nil
  | cons c r ih =>
    rw [cutWhere] at hp
    split at hp
    · rcases List.mem_cons.1 hp with rfl | hp
      · exact fun x hx ↦ absurd hx List.not_mem_nil
      · exact ih hp
    · next hc =>
      split at hp
      · next hnil => exact absurd hnil (cutWhere_ne_nil isSep r)
      · next q ps hcut =>
        rw [hcut] at ih
        rcases List.mem_cons.1 hp with rfl | hp
        · exact List.forall_mem_cons.2 ⟨eq_false_of_ne_true hc, ih List.mem_cons_self⟩
        · exact ih (List.mem_cons_of_mem q hp)

/-- The parts of a text are those without a separator that it is written from. -/
theorem cut_eq_iff {sep : α} {s : List α} {ps : List (List α)} (hne : ps ≠ []) :
    cut sep s = ps ↔ s = join sep ps ∧ ∀ p ∈ ps, sep ∉ p := by
  constructor
  · rintro rfl
    refine ⟨(join_cut sep s).symm, fun p hp hmem ↦ ?_⟩
    simpa using isSep_of_mem_cutWhere hp sep hmem
  · rintro ⟨rfl, h⟩
    exact cut_join hne h

/-- A part that holds no separator is what stands before the first one. -/
theorem cutOnce_append {sep : α} {p : List α} (h : sep ∉ p) (r : List α) :
    cutOnce sep (p ++ sep :: r) = some (p, r) := by
  induction p with
  | nil => simp [cutOnce]
  | cons c p ih =>
    have hc : c ≠ sep := fun e ↦ h (e ▸ List.mem_cons_self)
    simp [cutOnce, hc, ih (fun m ↦ h (List.mem_cons_of_mem _ m))]

/-- What cutting once gives. -/
theorem cutOnce_eq_some_iff {sep : α} {s p r : List α} :
    cutOnce sep s = some (p, r) ↔ s = p ++ sep :: r ∧ sep ∉ p := by
  constructor
  · intro h
    induction s generalizing p with
    | nil => cases h
    | cons c s ih =>
      rw [cutOnce] at h
      split at h
      · next hc =>
        obtain ⟨rfl, rfl⟩ := Prod.mk.inj (Option.some.inj h)
        exact ⟨by rw [hc]; rfl, List.not_mem_nil⟩
      · next hc =>
        obtain ⟨⟨p', r'⟩, hcut, hp⟩ := Option.map_eq_some_iff.mp h
        obtain ⟨rfl, rfl⟩ := Prod.mk.inj hp
        obtain ⟨rfl, hnot⟩ := ih hcut
        exact ⟨rfl, fun hmem ↦ (List.mem_cons.mp hmem).elim (Ne.symm hc) hnot⟩
  · rintro ⟨rfl, hp⟩
    exact cutOnce_append hp r

/-- There is nothing to cut in a text without the separator. -/
theorem cutOnce_eq_none_iff {sep : α} {s : List α} : cutOnce sep s = none ↔ sep ∉ s := by
  induction s with
  | nil => simp [cutOnce]
  | cons c s ih =>
    by_cases hc : c = sep
    · simp [cutOnce, hc]
    · simp [cutOnce, hc, ih, Ne.symm hc]

end DpuNetwork.Text
