import DpuNetwork.Proofs.FileTree.ReadBack

/-!
# Files that can be written

Replacing a file succeeds when its directory is there and neither the file nor the one beside it is
a directory (`FileTree.Ready`). Replacing takes no directory away and makes none where all are
there, so such files can be written over and over (`FileTree.writable_of_ready`).
-/

namespace DpuNetwork.FileTree

/-- Replacing files one after the other succeeds. -/
def Accepts : FileTree → List (String × String) → Prop
  | _, [] => True
  | t, (path, text) :: rest =>
    ∃ changed t', t.replace path text = (.ok changed, t') ∧ t'.Accepts rest

/-- Files at some paths can be written, over and over, whatever their contents are to be. -/
def Writable (t : FileTree) (paths : List String) : Prop :=
  ∀ writes : List (String × String), (∀ w ∈ writes, w.1 ∈ paths) → t.Accepts writes

/-- Owned files can be written again and again. -/
theorem Writable.replace {t : FileTree} {paths : List String} (h : t.Writable paths)
    {path : String} (hpath : path ∈ paths) (text : String) :
    ∃ changed t', t.replace path text = (.ok changed, t') ∧ t'.Writable paths := by
  obtain ⟨changed, t', hreplace, -⟩ := h [(path, text)] (by simpa using hpath)
  -- Later writes succeed because they do so behind this one.
  refine ⟨changed, t', hreplace, fun writes hwrites ↦ ?_⟩
  obtain ⟨changed', t'', hreplace', hrest⟩ :=
    h ((path, text) :: writes) (by simpa [hpath] using hwrites)
  rw [hreplace] at hreplace'
  obtain ⟨-, rfl⟩ := Prod.mk.inj hreplace'
  exact hrest

/-! ### A sufficient condition -/

/-- The directory of a path is there, and neither the place that the path leads to nor the one
beside it is a directory. -/
structure Ready (t : FileTree) (s : String) : Prop where
  /-- The directory is there. -/
  directory : ∃ dir, Path.parent? s = some dir ∧ Path.isUnusable dir = false ∧
    t.leadsToDirectory ((Path.components dir).filter (· ≠ ".")) = true
  /-- The path leads to what is no directory. -/
  target : ∃ p, Path.locate t s = .ok (.named p false) ∧ t.isDirectory p = false
  /-- So does the path that is written first. -/
  beside : ∃ p, Path.locate t (temporary s) = .ok (.named p false) ∧ t.isDirectory p = false

variable {t t' : FileTree}

/-- A path to a directory leads to one in every tree with these directories. -/
theorem leadsToDirectory_of_directories
    (hd : ∀ x, t.isDirectory x = true → t'.isDirectory x = true) {cs : List String}
    (h : t.leadsToDirectory cs = true) : t'.leadsToDirectory cs = true := by
  unfold leadsToDirectory at h ⊢
  rcases hplace : Path.place t cs false with e | p | ⟨p, slash⟩
  · simp [hplace] at h
  · rw [Path.place_of_directories hd hplace]
  · rw [Path.place_of_directories hd hplace]
    rw [hplace] at h
    exact hd p h

/-- A directory that is there is not made again. -/
theorem makeDirectoriesUp_of_leadsToDirectory {cs : List String}
    (h : t.leadsToDirectory cs = true) : t.makeDirectoriesUp cs.reverse = (true, t) := by
  rcases hup : cs.reverse with - | ⟨c, up⟩
  · rfl
  have hcs : (c :: up).reverse = cs := by rw [← hup, List.reverse_reverse]
  have hmake : t.makeDirectory cs = .error .refused := by
    unfold makeDirectory
    unfold leadsToDirectory at h
    rcases hplace : Path.place t cs false with e | p | ⟨p, slash⟩
    · simp [hplace] at h
    · rfl
    · rw [hplace] at h
      exact if_neg (find?_ne_none_of_isDirectory h)
  rw [makeDirectoriesUp, hcs, hmake, h]

/-- A file takes the place of a directory and changes no other. -/
theorem isDirectory_put_file {p : Route} (hp : p ≠ []) (b : ByteArray) (x : Route) :
    (t.put p (.file b)).isDirectory x = (t.isDirectory x && decide (p ≠ x)) := by
  rw [isDirectory, find?_put t hp]
  by_cases hx : p = x
  · simp [hx]
  · simp [hx, isDirectory]

theorem isDirectory_remove_file {p : Route} (hp : p ≠ []) (x : Route) :
    (t.remove p).isDirectory x = (t.isDirectory x && decide (p ≠ x)) := by
  rw [isDirectory, find?_remove t hp]
  by_cases hx : p = x
  · simp [hx]
  · simp [hx, isDirectory]

/-- A file that is ready is replaced, and the directories stay what they are. -/
theorem Ready.replace {s : String} (h : t.Ready s) (text : String) :
    ∃ changed t', t.replace s text = (.ok changed, t') ∧
      ∀ x, t'.isDirectory x = t.isDirectory x := by
  obtain ⟨dir, hdir, husable, hleads⟩ := h.directory
  obtain ⟨q, hq, hqd⟩ := h.target
  obtain ⟨p, hp, hpd⟩ := h.beside
  have hp₀ := (Path.getLast?_of_locate hp).1
  have hq₀ := (Path.getLast?_of_locate hq).1
  by_cases hread : t.read s = some text.toUTF8
  · exact ⟨false, t, replace_of_read hread, fun _ ↦ rfl⟩
  have hmade : t.makeDirectories dir = (true, t) := by
    rw [makeDirectories, husable]
    exact makeDirectoriesUp_of_leadsToDirectory hleads
  have hwrite : t.write (temporary s) text.toUTF8 = some (t.put p (.file text.toUTF8)) := by
    simp [write, hp, hpd]
  -- Behind the first write the paths still lead to the same places.
  have hkept (x : Route) (hx : t.isDirectory x = true) :
      (t.put p (.file text.toUTF8)).isDirectory x = true := isDirectory_put hp₀ hpd _ hx
  have hrename : (t.put p (.file text.toUTF8)).rename (temporary s) s =
      some (((t.put p (.file text.toUTF8)).remove p).put q (.file text.toUTF8)) := by
    have hfile : (t.put p (.file text.toUTF8)).find? p = some (.file text.toUTF8) := by
      rw [find?_put t hp₀, if_pos rfl]
    have hfree : (t.put p (.file text.toUTF8)).isDirectory q = false := by
      rw [isDirectory_put_file hp₀, hqd, Bool.false_and]
    rw [rename, Path.locate_of_directories hkept hp, Path.locate_of_directories hkept hq]
    simp only [hfile, hfree, Bool.false_eq_true, if_false]
  refine ⟨true, ((t.put p (.file text.toUTF8)).remove p).put q (.file text.toUTF8), ?_,
    fun x ↦ ?_⟩
  · rw [FileTree.replace, if_neg hread, hdir]
    simp only [hmade, hwrite, hrename]
  · rw [isDirectory_put_file hq₀, isDirectory_remove_file hp₀, isDirectory_put_file hp₀]
    by_cases hpx : p = x
    · simp [← hpx, hpd]
    · by_cases hqx : q = x
      · simp [← hqx, hqd]
      · simp [hpx, hqx]

/-- Whether a file can be written depends on the directories alone. -/
theorem Ready.of_directories {s : String} (h : t.Ready s)
    (hd : ∀ x, t'.isDirectory x = t.isDirectory x) : t'.Ready s := by
  have hd' (x : Route) (hx : t.isDirectory x = true) : t'.isDirectory x = true := by
    rw [hd, hx]
  obtain ⟨dir, hdir, husable, hleads⟩ := h.directory
  obtain ⟨q, hq, hqd⟩ := h.target
  obtain ⟨p, hp, hpd⟩ := h.beside
  exact ⟨⟨dir, hdir, husable, leadsToDirectory_of_directories hd' hleads⟩,
    ⟨q, Path.locate_of_directories hd' hq, by rw [hd, hqd]⟩,
    ⟨p, Path.locate_of_directories hd' hp, by rw [hd, hpd]⟩⟩

/-- **Files whose directories are there can be written** over and over. -/
theorem writable_of_ready {paths : List String} (h : ∀ s ∈ paths, t.Ready s) :
    t.Writable paths := by
  intro writes
  induction writes generalizing t with
  | nil => exact fun _ ↦ trivial
  | cons w writes ih =>
    intro hwrites
    obtain ⟨changed, t', hreplace, hd⟩ :=
      (h w.1 (hwrites w List.mem_cons_self)).replace w.2
    refine ⟨changed, t', hreplace, ih (fun s hs ↦ (h s hs).of_directories hd) fun w' hw' ↦ ?_⟩
    exact hwrites w' (List.mem_cons_of_mem _ hw')

end DpuNetwork.FileTree
