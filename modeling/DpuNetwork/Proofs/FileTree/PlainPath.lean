import DpuNetwork.Proofs.FileTree.OwnedFiles

/-!
# Paths of ordinary names

A path is plain when it names something in a directory and every component is a name of its own,
neither `.` nor `..` (`Path.IsPlain`). What is read off the text of such a path agrees: its
directory is what all components but the last name (`IsPlain.exists_parent?`), and the path under
which new contents are written first names something beside it (`IsPlain.temporary`). Joining a
plain relative path to a root gives a plain path (`IsPlain.child`).
-/

namespace DpuNetwork.Path

open Text

/-! ### Components -/

/-- The components of a path are the pieces between its separators, empty ones left out. -/
theorem components_ofList (l : List Char) :
    components (String.ofList l) = ((cut '/' l).filter (· ≠ [])).map String.ofList := by
  rw [components, String.toList_ofList]

/-- A path can be cut at a separator. -/
theorem components_ofList_append_cons (l r : List Char) :
    components (String.ofList (l ++ '/' :: r)) =
      components (String.ofList l) ++ components (String.ofList r) := by
  simp only [components_ofList, cut_append_cons, List.filter_append, List.map_append]

theorem components_ofList_nil : components (String.ofList []) = [] := rfl

/-- A text without a separator is one component. -/
theorem components_ofList_of_not_mem {w : List Char} (hslash : '/' ∉ w) (hne : w ≠ []) :
    components (String.ofList w) = [String.ofList w] := by
  rw [components_ofList, cut_of_not_mem hslash]
  simp [hne]

/-- Text that is empty or ends in a slash, so that what follows it is a component of its own. -/
def EndsDirectory (front : List Char) : Prop := front = [] ∨ ∃ f, front = f ++ ['/']

/-- A path can be cut behind the separator too. -/
theorem EndsDirectory.components_append {front : List Char} (h : EndsDirectory front)
    (r : List Char) : components (String.ofList (front ++ r)) =
      components (String.ofList front) ++ components (String.ofList r) := by
  obtain rfl | ⟨f, rfl⟩ := h
  · rfl
  · rw [List.append_assoc, List.singleton_append, components_ofList_append_cons,
      components_ofList_append_cons, components_ofList_nil, List.append_nil]

/-- A text is cut behind its last slash. -/
theorem exists_endsDirectory (l : List Char) :
    ∃ front w, l = front ++ w ∧ EndsDirectory front ∧ '/' ∉ w := by
  induction l with
  | nil => exact ⟨[], [], rfl, .inl rfl, List.not_mem_nil⟩
  | cons c l ih =>
    obtain ⟨front, w, rfl, rfl | ⟨f, rfl⟩, hw⟩ := ih
    · -- No slash behind the first character: that one decides.
      by_cases hc : c = '/'
      · exact ⟨['/'], w, by simp [hc], .inr ⟨[], rfl⟩, hw⟩
      · exact ⟨[], c :: w, rfl, .inl rfl, by simp [hw, Ne.symm hc]⟩
    · exact ⟨c :: f ++ ['/'], w, by simp, .inr ⟨c :: f, rfl⟩, hw⟩

/-! ### Plain paths -/

/-- A name that leads to an entry of its own, not to where one is already or to the place above. -/
def IsOrdinary (c : String) : Prop := c ≠ "." ∧ c ≠ ".."

instance (c : String) : Decidable (IsOrdinary c) := inferInstanceAs (Decidable (_ ∧ _))

/-- A path that names something in a directory, by ordinary names all the way. -/
structure IsPlain (s : String) (dir : Route) (name : String) : Prop where
  /-- The components are those of the directory and the name. -/
  components_eq : components s = dir ++ [name]
  /-- All of them are ordinary. -/
  ordinary : ∀ c ∈ dir ++ [name], IsOrdinary c
  /-- No slash follows the name. -/
  bare : s.toList.getLast? ≠ some '/'

namespace IsPlain

variable {s : String} {dir : Route} {name : String}

/-- The text of a plain path is that of its directory, up to a slash, and its name. -/
theorem exists_front (hs : IsPlain s dir name) :
    ∃ front, s.toList = front ++ name.toList ∧ EndsDirectory front ∧
      components (String.ofList front) = dir ∧ '/' ∉ name.toList ∧ name.toList ≠ [] := by
  obtain ⟨front, w, hl, hfront, hw⟩ := exists_endsDirectory s.toList
  have hcs : components (String.ofList front) ++ components (String.ofList w) = dir ++ [name] := by
    rw [← hfront.components_append, ← hl, String.ofList_toList, hs.components_eq]
  have hne : w ≠ [] := by
    rintro rfl
    obtain rfl | ⟨f, rfl⟩ := hfront
    · rw [components_ofList_nil] at hcs
      simp at hcs
    · exact hs.bare (by simp [hl])
  rw [components_ofList_of_not_mem hw hne] at hcs
  obtain ⟨hdir, hname⟩ := List.append_inj' hcs rfl
  obtain rfl : String.ofList w = name := List.singleton_inj.1 hname
  rw [String.toList_ofList]
  exact ⟨front, hl, hfront, hdir, hw, hne⟩

/-- The path beside a plain path names something in the same directory. -/
theorem temporary (hs : IsPlain s dir name) :
    IsPlain (FileTree.temporary s) dir (FileTree.temporary name) := by
  obtain ⟨front, hl, hfront, hdir, hslash, -⟩ := hs.exists_front
  have htext : (FileTree.temporary s).toList = front ++ (FileTree.temporary name).toList := by
    simp [FileTree.temporary, hl]
  refine ⟨?_, fun c hc ↦ ?_, ?_⟩
  · rw [← String.ofList_toList (s := FileTree.temporary s), htext, hfront.components_append, hdir,
      components_ofList_of_not_mem, String.ofList_toList]
    · simp [FileTree.temporary, hslash]
    · simp [FileTree.temporary]
  · rcases List.mem_append.1 hc with hc | hc
    · exact hs.ordinary c (List.mem_append_left _ hc)
    · -- The name ends in a character that neither of the two other names has.
      obtain rfl := List.mem_singleton.1 hc
      constructor <;> intro h <;>
        simpa [FileTree.temporary] using congrArg (fun n ↦ n.toList.getLast?) h
  · simp [FileTree.temporary]

end IsPlain

/-! ### The directory of a plain path -/

/-- Only slashes and `.` components are left out at the end of a path. -/
theorem filter_components_bareEnd (r : List Char) :
    (components (String.ofList (bareEnd r).reverse)).filter (· ≠ ".") =
      (components (String.ofList r.reverse)).filter (· ≠ ".") := by
  fun_induction bareEnd r with
  | case1 c r ih =>
    rw [ih, List.reverse_cons (a := '/'), components_ofList_append_cons, components_ofList_nil,
      List.append_nil]
  | case2 r ih =>
    have hdot : ('.' :: '/' :: r).reverse = r.reverse ++ '/' :: ['.'] := by simp
    have hslash : ('/' :: r).reverse = r.reverse ++ '/' :: [] := by simp
    rw [ih, hdot, hslash, components_ofList_append_cons, components_ofList_append_cons,
      List.filter_append, List.filter_append]
    rfl
  | case3 => rfl

theorem bareEnd_suffix (r : List Char) : bareEnd r <:+ r := by
  fun_induction bareEnd r with
  | case1 c r ih => exact ih.trans (List.suffix_cons _ _)
  | case2 r ih => exact ih.trans (List.suffix_cons _ _)
  | case3 => exact List.suffix_refl _

/-- There is nothing to take from an end that is neither a separator nor a dot behind one. -/
theorem bareEnd_eq_self {r : List Char} (hslash : r.head? ≠ some '/') (hdot : ¬['.', '/'] <+: r) :
    bareEnd r = r := by
  unfold bareEnd
  split
  · simp at hslash
  · exact absurd ⟨_, rfl⟩ hdot
  · rfl

/-- The start of a path that can be used can be used. -/
theorem isUnusable_of_prefix {s : String} {p : List Char} (h : p <+: s.toList)
    (hs : isUnusable s = false) : isUnusable (String.ofList p) = false := by
  obtain ⟨w, hw⟩ := h
  obtain rfl : s = String.ofList p ++ String.ofList w := by
    rw [← String.ofList_append, hw, String.ofList_toList]
  simp only [isUnusable, String.toList_append, String.utf8ByteSize_append, Bool.or_eq_false_iff,
    List.contains_eq_mem, decide_eq_false_iff_not, List.mem_append, not_or] at hs ⊢
  exact ⟨hs.1.1, by omega⟩

namespace IsPlain

variable {s : String} {dir : Route} {name : String}

/-- A plain path ends in its name. -/
theorem bareEnd_reverse (hs : IsPlain s dir name) :
    bareEnd s.toList.reverse = s.toList.reverse := by
  obtain ⟨front, hl, -, -, hslash, hne⟩ := hs.exists_front
  refine bareEnd_eq_self (by rw [List.head?_reverse]; exact hs.bare) fun hdot ↦ ?_
  rw [hl, List.reverse_append] at hdot
  -- A name that ends in a dot is more than the dot, and no slash stands before the dot in it.
  have hname : name.toList.reverse ≠ ['.'] := fun h ↦
    (hs.ordinary name (by simp)).1 (by rw [← String.toList_inj]; simpa using h)
  have hslash' : '/' ∉ name.toList.reverse := by simpa using hslash
  rcases h : name.toList.reverse with - | ⟨a, - | ⟨b, w⟩⟩
  · exact hne (List.reverse_eq_nil_iff.1 h)
  · rw [h] at hdot hname
    obtain rfl : '.' = a := by simpa using (List.cons_prefix_cons.1 hdot).1
    exact hname rfl
  · rw [h] at hdot hslash'
    have hb := (List.cons_prefix_cons.1 (List.cons_prefix_cons.1 hdot).2).1
    exact hslash' (hb ▸ List.mem_cons_of_mem _ List.mem_cons_self)

/-- The directory of a plain path is what all its components but the last name. -/
theorem exists_parent? (hs : IsPlain s dir name) :
    ∃ d, parent? s = some d ∧ (components d).filter (· ≠ ".") = dir ∧
      (isUnusable s = false → isUnusable d = false) := by
  obtain ⟨front, hl, hfront, hdir, hslash, hne⟩ := hs.exists_front
  have hrest : s.toList.reverse.dropWhile (· ≠ '/') = front.reverse := by
    rw [hl, List.reverse_append, List.dropWhile_append_of_pos]
    · obtain rfl | ⟨f, rfl⟩ := hfront <;> simp
    · intro c hc
      simpa using fun e : c = '/' ↦ hslash (e ▸ List.mem_reverse.1 hc)
  refine ⟨String.ofList (bareEnd front.reverse).reverse, ?_, ?_, fun hu ↦ ?_⟩
  · have hbare := hs.bareEnd_reverse
    have hbare' := hs.bare
    unfold parent?
    rw [hbare]
    split
    · next h => simp [hl, hne] at h
    · next h => simp [List.reverse_eq_cons_iff.1 h] at hbare'
    · rw [← hrest]
  · rw [filter_components_bareEnd, List.reverse_reverse, hdir, List.filter_eq_self]
    intro c hc
    simpa using (hs.ordinary c (List.mem_append_left _ hc)).1
  · refine isUnusable_of_prefix ?_ hu
    rw [hl]
    refine ((List.reverse_prefix.2 (bareEnd_suffix front.reverse)).trans ?_)
    rw [List.reverse_reverse]
    exact List.prefix_append _ _

end IsPlain

/-! ### Paths below a root -/

/-- The components of a path under a root are those of the root and its own. -/
theorem components_child {root path : String} (hpath : path.toList.head? ≠ some '/') :
    components (child root path) = components root ++ components path := by
  unfold child
  split
  · next h =>
    have hroot : root = "" := by simpa [hpath] using h
    rw [hroot]
    rfl
  · split
    · next hlast =>
      obtain ⟨f, hf⟩ := List.getLast?_eq_some_iff.1 hlast
      have h := EndsDirectory.components_append (.inr ⟨f, hf⟩) path.toList
      rwa [← String.toList_append, String.ofList_toList, String.ofList_toList,
        String.ofList_toList] at h
    · have htext : (root ++ "/" ++ path).toList = root.toList ++ '/' :: path.toList := by simp
      rw [← String.ofList_toList (s := root ++ "/" ++ path), htext, components_ofList_append_cons,
        String.ofList_toList, String.ofList_toList]

/-- **A plain relative path is plain below any root of ordinary names.** -/
theorem IsPlain.child {root path : String} {dir : Route} {name : String}
    (hpath : IsPlain path dir name) (hrelative : path.toList.head? ≠ some '/')
    (hroot : ∀ c ∈ components root, IsOrdinary c) :
    IsPlain (child root path) (components root ++ dir) name := by
  refine ⟨?_, fun c hc ↦ ?_, ?_⟩
  · rw [components_child hrelative, hpath.components_eq, List.append_assoc]
  · rw [List.append_assoc] at hc
    exact (List.mem_append.1 hc).elim (hroot c) (hpath.ordinary c)
  · obtain ⟨front, hfront⟩ := exists_toList_child root path
    obtain ⟨front', hl, -, -, -, hne⟩ := hpath.exists_front
    have hpath₀ : path.toList ≠ [] := by simp [hl, hne]
    have hbare := hpath.bare
    rw [List.getLast?_eq_some_getLast hpath₀] at hbare
    rwa [hfront, List.getLast?_append, List.getLast?_eq_some_getLast hpath₀, Option.some_or]

end DpuNetwork.Path
