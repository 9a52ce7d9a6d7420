import DpuNetwork.FileTree.Replace

/-!
# Reading back what was replaced

A file whose contents were replaced with success holds the new contents (`read_replace`), and files
with other names hold what they held before (`read_replace_of_lastName_ne`); a failure leaves the
file itself as it was, too (`read_replace_of_error`). All rest on two facts: the file work of
`replace` takes no directory away, and where a path leads is decided by the directories alone
(`Path.locate_of_directories`).
-/

namespace DpuNetwork

open Text

namespace Path

variable {t t' : FileTree}

/-! ### Where a path leads -/

/-- Only from a directory does a step lead anywhere. -/
theorem isDirectory_of_step {p q : Route} {c : String} (h : step t p c = .ok q) :
    t.isDirectory p = true := by
  unfold step at h
  split at h
  · cases h
  · simp_all

/-- A component that leads to a directory leads there in every tree with the same directories. -/
theorem step_of_directories (hd : ∀ x, t.isDirectory x = true → t'.isDirectory x = true)
    {p q : Route} {c : String} (h : step t p c = .ok q) (hq : t.isDirectory q = true) :
    step t' p c = .ok q := by
  have hp := hd p (isDirectory_of_step h)
  have hq' : t'.find? q ≠ none := by
    intro hnone
    simpa [FileTree.isDirectory, hnone] using hd q hq
  -- A step looks at the two places alone, and what it asks of them is the same in both trees.
  unfold step at h ⊢
  grind

/-- A walk that succeeds succeeds in every tree with these directories, by induction on the
names. -/
theorem foldlM_step_of_directories
    (hd : ∀ x, t.isDirectory x = true → t'.isDirectory x = true) {q : Route}
    (hq : t.isDirectory q = true) (cs : List String) :
    ∀ p, cs.foldlM (step t) p = .ok q →
      t.isDirectory p = true ∧ cs.foldlM (step t') p = .ok q := by
  -- Every place on the way is a directory, since the way goes on from it.
  induction cs with
  | nil =>
    intro p h
    obtain rfl := Except.ok.inj h
    exact ⟨hq, rfl⟩
  | cons c cs ih =>
    intro p h
    rw [List.foldlM_cons] at h ⊢
    rcases hstep : step t p c with e | p₁
    · rw [hstep] at h; cases h
    · rw [hstep] at h
      obtain ⟨hp₁, hrest⟩ := ih p₁ h
      refine ⟨isDirectory_of_step hstep, ?_⟩
      rw [step_of_directories hd hstep hp₁]
      exact hrest

/-- So a directory that is reached is reached there too. -/
theorem directory_of_directories (hd : ∀ x, t.isDirectory x = true → t'.isDirectory x = true)
    {cs : List String} {p : Route} (h : directory t cs = .ok p) : directory t' cs = .ok p := by
  unfold directory at h ⊢
  split at h
  · next p' hfold =>
    split at h
    · next hp' =>
      obtain rfl := Except.ok.inj h
      rw [(foldlM_step_of_directories hd hp' cs [] hfold).2]
      simp [hd _ hp']
    · cases h
  · cases h

/-- So is a place. -/
theorem place_of_directories (hd : ∀ x, t.isDirectory x = true → t'.isDirectory x = true)
    {cs : List String} {slash : Bool} {pl : Place} (h : place t cs slash = .ok pl) :
    place t' cs slash = .ok pl := by
  unfold place at h ⊢
  split at h
  · exact h
  · split at h
    · cases h
    · next hdir => rw [directory_of_directories hd hdir]; exact h

/-- Where a path leads is decided by the directories alone. -/
theorem locate_of_directories (hd : ∀ x, t.isDirectory x = true → t'.isDirectory x = true)
    {s : String} {pl : Place} (h : locate t s = .ok pl) : locate t' s = .ok pl := by
  unfold locate at h ⊢
  split at h
  · cases h
  · rw [if_neg ‹_›]
    split at h
    · cases h
    · rw [if_neg ‹_›]
      exact place_of_directories hd h

/-- The last component of a path. -/
def lastName? (s : String) : Option String := (components s).getLast?

/-- A path leads to a place of its own name. -/
theorem getLast?_of_locate {s : String} {p : Route} {slash : Bool}
    (h : locate t s = .ok (.named p slash)) : p ≠ [] ∧ p.getLast? = lastName? s := by
  unfold locate at h
  split at h
  · cases h
  · split at h
    · cases h
    · unfold place at h
      split at h
      · cases h
      · next c hc =>
        split at h
        · cases h
        · split at h
          · cases h
          · split at h
            · cases h
            · split at h
              · cases h
              · obtain ⟨rfl, -⟩ := Place.named.inj (Except.ok.inj h)
                simp [lastName?, hc]

end Path

namespace FileTree

variable {t t' : FileTree}

theorem find?_ne_none_of_isDirectory {x : Route} (h : t.isDirectory x = true) :
    t.find? x ≠ none := by
  intro hnone
  simp [isDirectory, hnone] at h

theorem isDirectory_of_find?_eq {x : Route} (h : t'.find? x = t.find? x) :
    t'.isDirectory x = t.isDirectory x := by
  rw [isDirectory, isDirectory, h]

/-! ### Making directories -/

/-- Whatever is there stays as it is. -/
def KeptIn (t t' : FileTree) : Prop := ∀ x, t.find? x ≠ none → t'.find? x = t.find? x

theorem KeptIn.refl (t : FileTree) : KeptIn t t := fun _ _ ↦ rfl

/-- What is kept twice is kept. -/
theorem KeptIn.trans {t₁ t₂ t₃ : FileTree} (h : KeptIn t₁ t₂) (h' : KeptIn t₂ t₃) :
    KeptIn t₁ t₃ := fun x hx ↦ by
  have hx₂ : t₂.find? x ≠ none := by rw [h x hx]; exact hx
  rw [h' x hx₂, h x hx]

/-- Directories are kept. -/
theorem KeptIn.isDirectory (h : KeptIn t t') {x : Route} (hx : t.isDirectory x = true) :
    t'.isDirectory x = true := by
  rw [isDirectory_of_find?_eq (h x (find?_ne_none_of_isDirectory hx)), hx]

/-- What is put at a free place takes no one's place. -/
theorem keptIn_put {p : Route} (hfree : t.find? p = none) (e : Entry) : KeptIn t (t.put p e) := by
  have hp : p ≠ [] := by
    rintro rfl
    simp at hfree
  intro x hx
  have hne : p ≠ x := by
    rintro rfl
    exact hx hfree
  rw [find?_put t hp, if_neg hne]

/-- Making directories removes nothing. -/
theorem keptIn_makeDirectory {cs : List String} (h : t.makeDirectory cs = .ok t') :
    KeptIn t t' := by
  unfold makeDirectory at h
  split at h
  · split at h
    · next hfree =>
      obtain rfl := Except.ok.inj h
      exact keptIn_put hfree _
    · cases h
  · cases h
  · cases h

theorem keptIn_makeDirectoriesUp (cs : List String) (t : FileTree) :
    KeptIn t (t.makeDirectoriesUp cs).2 := by
  induction cs generalizing t with
  | nil => exact KeptIn.refl t
  | cons c up ih =>
    rw [makeDirectoriesUp]
    split
    · exact keptIn_makeDirectory ‹_›
    · exact KeptIn.refl t
    · -- The directory above is missing: it is made first, and then this one.
      have hup := ih t
      split
      · next h => rw [h] at hup; exact hup
      · next h =>
        rw [h] at hup
        split
        · exact hup.trans (keptIn_makeDirectory ‹_›)
        · exact hup

theorem keptIn_makeDirectories (t : FileTree) (s : String) :
    KeptIn t (t.makeDirectories s).2 := by
  unfold makeDirectories
  split
  · exact KeptIn.refl t
  · exact keptIn_makeDirectoriesUp _ t

/-! ### Writing and renaming -/

/-- What writing does: it puts the contents at the place that the path leads to, which is no
directory. -/
theorem eq_put_of_write {s : String} {b : ByteArray} (h : t.write s b = some t') :
    ∃ p, Path.locate t s = .ok (.named p false) ∧ p ≠ [] ∧ t.isDirectory p = false ∧
      t' = t.put p (.file b) := by
  unfold write at h
  split at h
  · next p hpl =>
    split at h
    · cases h
    · exact ⟨p, hpl, (Path.getLast?_of_locate hpl).1, eq_false_of_ne_true ‹_›,
        (Option.some.inj h).symm⟩
  · cases h

/-- What renaming does: it moves a file to a place that is no directory. -/
theorem eq_put_of_rename {s s' : String} (h : t.rename s s' = some t') :
    ∃ p q b, Path.locate t s = .ok (.named p false) ∧ Path.locate t s' = .ok (.named q false) ∧
      p ≠ [] ∧ q ≠ [] ∧ t.find? p = some (.file b) ∧ t.isDirectory q = false ∧
      t' = (t.remove p).put q (.file b) := by
  unfold rename at h
  split at h
  · next p q hp hq =>
    split at h
    · next b hb =>
      split at h
      · cases h
      · exact ⟨p, q, b, hp, hq, (Path.getLast?_of_locate hp).1, (Path.getLast?_of_locate hq).1,
          hb, eq_false_of_ne_true ‹_›, (Option.some.inj h).symm⟩
    · cases h
  · cases h

/-- A file in place of what is no directory takes no directory away. -/
theorem isDirectory_put {p : Route} (hp : p ≠ []) (hnd : t.isDirectory p = false) (b : ByteArray)
    {x : Route} (hx : t.isDirectory x = true) : (t.put p (.file b)).isDirectory x = true := by
  have hne : p ≠ x := by
    rintro rfl
    rw [hnd] at hx
    cases hx
  rw [isDirectory_of_find?_eq (t := t) (by rw [find?_put t hp, if_neg hne]), hx]

/-- Removing what is no directory leaves the directories. -/
theorem isDirectory_remove {p : Route} (hp : p ≠ []) (hnd : t.isDirectory p = false)
    {x : Route} (hx : t.isDirectory x = true) : (t.remove p).isDirectory x = true := by
  have hne : p ≠ x := by
    rintro rfl
    rw [hnd] at hx
    cases hx
  rw [isDirectory_of_find?_eq (t := t) (by rw [find?_remove t hp, if_neg hne]), hx]

theorem isDirectory_of_file {p : Route} {b : ByteArray} (h : t.find? p = some (.file b)) :
    t.isDirectory p = false := by
  simp [isDirectory, h]

/-- Moving a file takes no directory away. -/
theorem isDirectory_move {p q : Route} {b : ByteArray} (hp : p ≠ []) (hq : q ≠ [])
    (hb : t.find? p = some (.file b)) (hnd : t.isDirectory q = false) (x : Route)
    (hx : t.isDirectory x = true) : ((t.remove p).put q (.file b)).isDirectory x = true := by
  have hnd' : (t.remove p).isDirectory q = false := by
    by_cases hpq : p = q
    · subst hpq
      rw [isDirectory, find?_remove t hp, if_pos rfl]
      rfl
    · rw [isDirectory_of_find?_eq (t := t) (by rw [find?_remove t hp, if_neg hpq]), hnd]
  exact isDirectory_put hq hnd' b (isDirectory_remove hp (isDirectory_of_file hb) hx)

/-! ### Replacing -/

/-- Making the directory of a path, if it has one, changes nothing that is there. -/
theorem keptIn_of_parent {dir : Option String} {made : Bool}
    (h : (match dir with | some d => t.makeDirectories d | none => (true, t)) = (made, t')) :
    KeptIn t t' := by
  cases dir with
  | none =>
    obtain rfl : t = t' := congrArg Prod.snd h
    exact KeptIn.refl t
  | some d =>
    obtain rfl : (t.makeDirectories d).2 = t' := congrArg Prod.snd h
    exact keptIn_makeDirectories t d

/-- What replacing a file does when it succeeds: the file holds the text already, or the text is put
beside it into a tree with all its directories and moved to its place. -/
theorem replace_eq_ok {s text : String} {changed : Bool}
    (h : t.replace s text = (.ok changed, t')) :
    (t.read s = some text.toUTF8 ∧ t' = t) ∨
      ∃ t₁ t₂, KeptIn t t₁ ∧ t₁.write (temporary s) text.toUTF8 = some t₂ ∧
        t₂.rename (temporary s) s = some t' := by
  unfold replace at h
  split at h
  · next hread =>
    exact .inl ⟨hread, (congrArg Prod.snd h).symm⟩
  · refine .inr ?_
    dsimp only at h
    split at h
    · cases h
    · next t₁ hdirs =>
      split at h
      · cases h
      · next t₂ hwrite =>
        split at h
        · cases h
        · next t₃ hrename =>
          obtain rfl : t₃ = t' := congrArg Prod.snd h
          exact ⟨t₁, t₂, keptIn_of_parent hdirs, hwrite, hrename⟩

/-- What replacing a file does when it fails: it makes directories, and it may put the text beside
the file. -/
theorem replace_eq_error {s text : String} {e : FileStep × String}
    (h : t.replace s text = (.error e, t')) :
    ∃ t₁, KeptIn t t₁ ∧ (t' = t₁ ∨ t₁.write (temporary s) text.toUTF8 = some t') := by
  unfold replace at h
  split at h
  · cases h
  · dsimp only at h
    split at h
    · next t₁ hdirs =>
      obtain rfl : t₁ = t' := congrArg Prod.snd h
      exact ⟨t₁, keptIn_of_parent hdirs, .inl rfl⟩
    · next t₁ hdirs =>
      split at h
      · obtain rfl : t₁ = t' := congrArg Prod.snd h
        exact ⟨t₁, keptIn_of_parent hdirs, .inl rfl⟩
      · next t₂ hwrite =>
        split at h
        · obtain rfl : t₂ = t' := congrArg Prod.snd h
          exact ⟨t₁, keptIn_of_parent hdirs, .inr hwrite⟩
        · cases h

/-- A file is reported as unchanged exactly when it holds the text. -/
theorem replace_eq_ok_false_iff {s text : String} :
    (t.replace s text).1 = .ok false ↔ t.read s = some text.toUTF8 := by
  constructor
  · intro h
    unfold replace at h
    split at h
    · assumption
    · dsimp only at h
      split at h
      · cases h
      · split at h
        · cases h
        · split at h <;> cases h
  · intro h
    rw [replace, if_pos h]

/-- What is read from the place that a path leads to. -/
theorem read_of_locate {s : String} {p : Route} {b : ByteArray}
    (hp : Path.locate t s = .ok (.named p false)) (hb : t.find? p = some (.file b)) :
    t.read s = some b := by
  simp [read, hp, hb]

/-- A file that was read is at a place. -/
theorem locate_of_read {s : String} {b : ByteArray} (h : t.read s = some b) :
    ∃ p, Path.locate t s = .ok (.named p false) ∧ t.find? p = some (.file b) := by
  unfold read at h
  split at h
  · next p hp =>
    split at h
    · next b' hb =>
      obtain rfl := Option.some.inj h
      exact ⟨p, hp, hb⟩
    · cases h
  · cases h

/-- **A replaced file holds its new contents.** -/
theorem read_replace {s text : String} {changed : Bool}
    (h : t.replace s text = (.ok changed, t')) : t'.read s = some text.toUTF8 := by
  obtain ⟨hread, rfl⟩ | ⟨t₁, t₂, -, hwrite, hrename⟩ := replace_eq_ok h
  · exact hread
  · obtain ⟨p, hp, hp₀, hpd, rfl⟩ := eq_put_of_write hwrite
    obtain ⟨p', q, b, hp', hq, -, hq₀, hb, hqd, rfl⟩ := eq_put_of_rename hrename
    -- The temporary name still leads to the place that was written.
    have hlocate := Path.locate_of_directories
      (fun x hx ↦ isDirectory_put hp₀ hpd text.toUTF8 hx) hp
    obtain ⟨rfl, -⟩ := Place.named.inj (Except.ok.inj (hp'.symm.trans hlocate))
    obtain rfl : text.toUTF8 = b := by
      simpa [find?_put _ hp₀] using hb
    refine read_of_locate (Path.locate_of_directories ?_ hq) ?_
    · exact isDirectory_move hp₀ hq₀ hb hqd
    · rw [find?_put _ hq₀, if_pos rfl]

/-- A file that holds the bytes of a text is read as that text. -/
theorem readText_of_read {s text : String} (h : t.read s = some text.toUTF8) :
    t.readText s = some text := by
  rw [readText, h]
  exact dif_pos text.isValidUTF8

/-- Replacing a file that holds the text changes nothing. -/
theorem replace_of_read {s text : String} (h : t.read s = some text.toUTF8) :
    t.replace s text = (.ok false, t) := by
  rw [replace, if_pos h]

/-! ### Files with other names -/

/-- What a file holds stays while nothing that is there changes. -/
theorem KeptIn.read (h : KeptIn t t') {s : String} {b : ByteArray} (hread : t.read s = some b) :
    t'.read s = some b := by
  obtain ⟨x, hx, hxb⟩ := locate_of_read hread
  refine read_of_locate (Path.locate_of_directories (fun _ hd ↦ h.isDirectory hd) hx) ?_
  rw [h x (by simp [hxb]), hxb]

/-- Paths with different last components lead to different places. -/
theorem ne_of_lastName_ne {t₁ t₂ : FileTree} {s s' : String} {p q : Route} {slash slash' : Bool}
    (hp : Path.locate t₁ s = .ok (.named p slash)) (hq : Path.locate t₂ s' = .ok (.named q slash'))
    (hname : Path.lastName? s ≠ Path.lastName? s') : q ≠ p := by
  rintro rfl
  exact hname (by rw [← (Path.getLast?_of_locate hp).2, (Path.getLast?_of_locate hq).2])

/-- Writing a file leaves a file with another name as it is. -/
theorem read_of_write {s s' : String} {b b' : ByteArray} (h : t.write s' b' = some t')
    (hread : t.read s = some b) (hname : Path.lastName? s ≠ Path.lastName? s') :
    t'.read s = some b := by
  obtain ⟨x, hx, hxb⟩ := locate_of_read hread
  obtain ⟨p, hp, hp₀, hpd, rfl⟩ := eq_put_of_write h
  refine read_of_locate
    (Path.locate_of_directories (fun _ hd ↦ isDirectory_put hp₀ hpd b' hd) hx) ?_
  rw [find?_put _ hp₀, if_neg (ne_of_lastName_ne hx hp hname), hxb]

/-- Renaming a file leaves a file that has neither name as it is. -/
theorem read_of_rename {s s' s'' : String} {b : ByteArray} (h : t.rename s' s'' = some t')
    (hread : t.read s = some b) (hname : Path.lastName? s ≠ Path.lastName? s')
    (hname' : Path.lastName? s ≠ Path.lastName? s'') : t'.read s = some b := by
  obtain ⟨x, hx, hxb⟩ := locate_of_read hread
  obtain ⟨p, q, b', hp, hq, hp₀, hq₀, hb', hqd, rfl⟩ := eq_put_of_rename h
  refine read_of_locate (Path.locate_of_directories (isDirectory_move hp₀ hq₀ hb' hqd) hx) ?_
  rw [find?_put _ hq₀, if_neg (ne_of_lastName_ne hx hq hname'), find?_remove _ hp₀,
    if_neg (ne_of_lastName_ne hx hp hname), hxb]

/-- A file that could not be replaced leaves those with a name other than that of the file beside it
as they are, itself included. -/
theorem read_replace_of_error {s s' text : String} {e : FileStep × String} {b : ByteArray}
    (h : t.replace s text = (.error e, t')) (hread : t.read s' = some b)
    (htemp : Path.lastName? s' ≠ Path.lastName? (temporary s)) : t'.read s' = some b := by
  obtain ⟨t₁, hkept, rfl | hwrite⟩ := replace_eq_error h
  · exact hkept.read hread
  · exact read_of_write hwrite (hkept.read hread) htemp

/-- Files with other names hold what they held before. -/
theorem read_replace_of_lastName_ne {s s' text : String} {changed : Bool} {b : ByteArray}
    (h : t.replace s text = (.ok changed, t')) (hread : t.read s' = some b)
    (hname : Path.lastName? s' ≠ Path.lastName? s)
    (htemp : Path.lastName? s' ≠ Path.lastName? (temporary s)) : t'.read s' = some b := by
  obtain ⟨-, rfl⟩ | ⟨t₁, t₂, hkept, hwrite, hrename⟩ := replace_eq_ok h
  · exact hread
  · exact read_of_rename hrename (read_of_write hwrite (hkept.read hread) htemp) htemp hname

end FileTree

end DpuNetwork
