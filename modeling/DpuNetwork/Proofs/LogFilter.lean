import DpuNetwork.LogFilter
import Mathlib.Data.List.Basic
import Mathlib.Data.List.TakeWhile

/-!
# What a log filter lets through

Two results about log filters.

`level_cases` says which directive decides on a target: of those whose text the target begins with,
one with the longest text, and of several with the same text the last. It is proved over the list of
the directives that apply (`applying`), because directives for spans and for other targets are
passed over. The invariant of the fold is `Best`: what was found so far decides among the directives
seen so far.

`ofText_written` says that a filter is read as it is written: directives that are written as a
target, an equals sign and a level, with commas in between, are found again in order, and nothing is
ignored. A level alone stands for the empty text, which every target begins with.
-/

namespace DpuNetwork

open Text

namespace LogFilter

/-! ### The directive that decides -/

/-- Of some directives one decides: none in front of it has a longer text, and those behind it have
shorter ones. -/
def Decides (seen : List (List Char × LogLevel)) (e : List Char × LogLevel) : Prop :=
  ∃ before after, seen = before ++ e :: after ∧
    (∀ d ∈ before, d.1.length ≤ e.1.length) ∧ ∀ d ∈ after, d.1.length < e.1.length

/-- A directive that decides does not stand behind another one that does. -/
theorem Decides.not_behind {before between after : List (List Char × LogLevel)}
    {d e : List Char × LogLevel} (hafter : ∀ x ∈ between ++ e :: after, x.1.length < d.1.length)
    (hbefore : ∀ x ∈ before ++ d :: between, x.1.length ≤ e.1.length) : False := by
  have hlt : e.1.length < d.1.length := hafter e (by simp)
  have hle : d.1.length ≤ e.1.length := hbefore d (by simp)
  omega

/-- At most one directive decides. -/
theorem Decides.eq {seen : List (List Char × LogLevel)} {d e : List Char × LogLevel}
    (hd : Decides seen d) (he : Decides seen e) : d = e := by
  obtain ⟨b, a, rfl, hb, ha⟩ := hd
  obtain ⟨b', a', heq, hb', ha'⟩ := he
  rcases List.append_eq_append_iff.mp heq with ⟨m, rfl, hm⟩ | ⟨m, rfl, hm⟩
  · cases m with
    | nil => exact (List.cons.inj hm).1
    | cons x m =>
      obtain ⟨rfl, rfl⟩ := List.cons.inj hm
      exact (Decides.not_behind ha hb').elim
  · cases m with
    | nil => exact (List.cons.inj hm).1.symm
    | cons x m =>
      obtain ⟨rfl, rfl⟩ := List.cons.inj hm
      exact (Decides.not_behind ha' hb).elim

/-- What was found decides among what was seen. -/
def Best (seen : List (List Char × LogLevel)) : Option (List Char × LogLevel) → Prop
  | none => seen = []
  | some e => Decides seen e

theorem best_nil : Best [] none := rfl

/-- The step: one more directive keeps the invariant. -/
theorem Best.better {seen : List (List Char × LogLevel)} {found : Option (List Char × LogLevel)}
    (h : Best seen found) (d : List Char × LogLevel) : Best (seen ++ [d]) (better found d) := by
  cases found with
  | none =>
    obtain rfl : seen = [] := h
    exact ⟨[], [], by simp⟩
  | some e =>
    obtain ⟨before, after, rfl, hbefore, hafter⟩ := h
    unfold LogFilter.better
    split
    · next hle =>
      have hle : e.1.length ≤ d.1.length := by simpa using hle
      refine ⟨before ++ e :: after, [], rfl, fun d' hd' ↦ ?_, by simp⟩
      rcases List.mem_append.mp hd' with hd' | hd'
      · exact Nat.le_trans (hbefore d' hd') hle
      · rcases List.mem_cons.mp hd' with rfl | hd'
        · exact hle
        · exact Nat.le_trans (Nat.le_of_lt (hafter d' hd')) hle
    · next hlt =>
      have hlt : d.1.length < e.1.length := by simpa using hlt
      refine ⟨before, after ++ [d], by simp, hbefore, fun d' hd' ↦ ?_⟩
      rcases List.mem_append.mp hd' with hd' | hd'
      · exact hafter d' hd'
      · obtain rfl := List.mem_singleton.mp hd'
        exact hlt

/-- The run: what a list of directives comes to decides among all of them. -/
theorem Best.foldl {seen : List (List Char × LogLevel)} {found : Option (List Char × LogLevel)}
    (h : Best seen found) (ds : List (List Char × LogLevel)) :
    Best (seen ++ ds) (ds.foldl LogFilter.better found) := by
  induction ds generalizing seen found with
  | nil => simpa using h
  | cons d ds ih => simpa using ih (h.better d)

/-- The directives that apply are those for a text that the target begins with. -/
theorem mem_applying {f : LogFilter} {target start : List Char} {l : LogLevel} :
    (start, l) ∈ f.applying target ↔ .target start l ∈ f.directives ∧ start <+: target := by
  simp only [applying, List.mem_filterMap]
  constructor
  · rintro ⟨d, hd, happlies⟩
    cases d with
    | span => cases happlies
    | target start' l' =>
      obtain ⟨hstart, heq⟩ := Option.ite_none_right_eq_some.mp happlies
      obtain ⟨rfl, rfl⟩ := Prod.mk.inj (Option.some.inj heq)
      exact ⟨hd, List.isPrefixOf_iff_prefix.mp hstart⟩
  · rintro ⟨hd, hstart⟩
    exact ⟨_, hd, if_pos (List.isPrefixOf_iff_prefix.mpr hstart)⟩

/-- **Which level a target has.** Without directives it is that of information, and where none
applies nothing is logged. Else there is a directive that decides. -/
theorem level_cases (f : LogFilter) (target : List Char) :
    (f.directives = [] ∧ f.level target = .info) ∨
      (f.directives ≠ [] ∧ f.applying target = [] ∧ f.level target = .off) ∨
      ∃ e, Decides (f.applying target) e ∧ f.level target = e.2 := by
  by_cases hd : f.directives = []
  · exact .inl ⟨hd, by simp [level, hd]⟩
  · have hbest : Best (f.applying target) ((f.applying target).foldl LogFilter.better none) := by
      simpa using best_nil.foldl (f.applying target)
    have hlevel : f.level target =
        (((f.applying target).foldl LogFilter.better none).map Prod.snd).getD .off := by
      simp [level, hd]
    rw [hlevel]
    cases hfound : (f.applying target).foldl LogFilter.better none with
    | none =>
      rw [hfound] at hbest
      exact .inr (.inl ⟨hd, hbest, rfl⟩)
    | some e =>
      rw [hfound] at hbest
      exact .inr (.inr ⟨e, hbest, rfl⟩)

/-! ### Reading a filter as it is written -/

/-- The word for a level. -/
def word : LogLevel → List Char
  | .off => "off".toList
  | .error => "error".toList
  | .warn => "warn".toList
  | .info => "info".toList
  | .debug => "debug".toList
  | .trace => "trace".toList

/-- A directive as it is written: the text and the level with an equals sign in between, or the
level alone. -/
def written : List Char × LogLevel → List Char
  | ([], l) => word l
  | (start, l) => start ++ '=' :: word l

theorem word_ne_nil (l : LogLevel) : word l ≠ [] := by
  cases l <;> decide

theorem written_ne_nil (d : List Char × LogLevel) : written d ≠ [] := by
  obtain ⟨_ | ⟨c, r⟩, l⟩ := d
  · exact word_ne_nil l
  · exact List.cons_ne_nil c _

theorem comma_not_mem_word (l : LogLevel) : ',' ∉ word l := by
  cases l <;> decide

/-- No directive holds a comma. -/
theorem comma_not_mem_written {d : List Char × LogLevel} (h : ∀ c ∈ d.1, isTargetChar c = true) :
    ',' ∉ written d := by
  have hstart : ',' ∉ d.1 := fun hmem ↦ absurd (h _ hmem) (by decide)
  obtain ⟨_ | ⟨c, r⟩, l⟩ := d
  · exact comma_not_mem_word l
  · show ',' ∉ (c :: r) ++ '=' :: word l
    simpa [comma_not_mem_word l] using hstart

theorem ofText?_word (l : LogLevel) : LogLevel.ofText? (word l) = some l := by
  cases l <;> rfl

/-- A text with an equals sign is not a level. -/
theorem ofText?_of_mem {s : List Char} (h : '=' ∈ s) : LogLevel.ofText? s = none := by
  have hmem : '=' ∈ (String.ofList (s.map Char.toLower)).toList := by
    simpa using ⟨'=', h, rfl⟩
  unfold LogLevel.ofText?
  split
  case h_13 => rfl
  all_goals
    next hword =>
      rw [hword] at hmem
      exact absurd hmem (by decide)

/-- What a directive is for is a single target, if it holds nothing else. -/
theorem subject?_target {t : List Char} (hne : t ≠ []) (h : ∀ c ∈ t, isTargetChar c = true) :
    subject? 2 t = some [some t] := by
  obtain ⟨c, r, rfl⟩ := List.exists_cons_of_ne_nil hne
  have hbracket : c ≠ '[' := by
    rintro rfl
    exact absurd (h '[' List.mem_cons_self) (by decide)
  have htake : (c :: r).takeWhile isTargetChar = c :: r := List.takeWhile_eq_self_iff.mpr h
  have hdrop : (c :: r).dropWhile isTargetChar = [] := List.dropWhile_eq_nil_iff.mpr h
  rw [subject?]
  · simp [htake, hdrop, subject?]
  · simp
  · simpa using hbracket

/-- **A directive is read as it is written.** -/
theorem directive?_written {d : List Char × LogLevel} (h : ∀ c ∈ d.1, isTargetChar c = true) :
    directive? (written d) = some (.target d.1 d.2) := by
  obtain ⟨start, l⟩ := d
  cases start with
  | nil => rw [directive?, written, ofText?_word]
  | cons c r =>
    have hfree : '=' ∉ c :: r := fun hmem ↦ absurd (h _ hmem) (by decide)
    obtain ⟨b, bs, hword⟩ := List.exists_cons_of_ne_nil (word_ne_nil l)
    have hlevel := ofText?_word l
    rw [hword] at hlevel
    have hwritten : written (c :: r, l) = (c :: r) ++ '=' :: word l := rfl
    rw [directive?, hwritten, ofText?_of_mem (by simp), cutOnce_append hfree, hword]
    simp only [hlevel, subject?_target (List.cons_ne_nil c r) h]

/-- The parts of a filter that is written are its directives. -/
theorem filter_cut_join_written {ds : List (List Char × LogLevel)}
    (h : ∀ d ∈ ds, ∀ c ∈ d.1, isTargetChar c = true) :
    (cut ',' (join ',' (ds.map written))).filter (· ≠ []) = ds.map written := by
  cases ds with
  | nil => rfl
  | cons d ds =>
    rw [cut_join (by simp) fun p hp ↦ ?_]
    · exact List.filter_eq_self.mpr fun p hp ↦ by
        obtain ⟨e, -, rfl⟩ := List.mem_map.mp hp
        simpa using written_ne_nil e
    · obtain ⟨e, he, rfl⟩ := List.mem_map.mp hp
      exact comma_not_mem_written (h e he)

/-- **A filter is read as it is written**, and nothing in it is ignored. -/
theorem ofText_written {ds : List (List Char × LogLevel)}
    (h : ∀ d ∈ ds, ∀ c ∈ d.1, isTargetChar c = true) :
    ofText (String.ofList (join ',' (ds.map written))) =
      { directives := ds.map fun d ↦ .target d.1 d.2, ignored := [] } := by
  have hread : ∀ d ∈ ds, directive? (written d) = some (.target d.1 d.2) := fun d hd ↦
    directive?_written (h d hd)
  have hdirectives : (ds.map written).filterMap directive? = ds.map fun d ↦ .target d.1 d.2 := by
    rw [List.filterMap_map]
    exact List.filterMap_eq_map_iff_forall_eq_some.mpr hread
  have hignored : (ds.map written).filter (fun p ↦ directive? p = none) = [] := by
    simp only [List.filter_eq_nil_iff, List.mem_map]
    rintro _ ⟨d, hd, rfl⟩
    simp [hread d hd]
  rw [ofText, String.toList_ofList, filter_cut_join_written h]
  simp only [hdirectives, hignored, List.map_nil]

end LogFilter

end DpuNetwork
