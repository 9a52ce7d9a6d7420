import DpuNetwork.Proofs.FileTree.PlainPath
import DpuNetwork.Proofs.FileTree.Writable
import Mathlib.Data.List.Induction

/-!
# Going down a tree by ordinary names

In a tree, what stands at a place stands in a directory (`FileTree.IsTree`). There a path of
ordinary names leads where its names say, as soon as its directory is there and no name is too long
(`Path.locate_eq_ok_iff`). Making the directories of such a path succeeds exactly when no file is in
the way and no name is too long (`FileTree.makeDirectoriesUp_fst_iff`), and whether it does or not,
it only puts directories on the way where nothing was (`FileTree.OpensWay`).
-/

namespace DpuNetwork

open DpuNetwork.Path

/-! ### Trees -/

namespace FileTree

variable {t t' : FileTree}

/-- What stands at a place stands in a directory. -/
def IsTree (t : FileTree) : Prop :=
  ∀ (p : Route) (c : String), t.find? (p ++ [c]) ≠ none → t.isDirectory p = true

theorem isDirectory_iff {p : Route} : t.isDirectory p = true ↔ t.find? p = some .directory := by
  rw [isDirectory, beq_iff_eq]

/-- Nothing but the root is a tree. -/
theorem isTree_empty : ({} : FileTree).IsTree := by
  intro p c h
  rw [find?_of_ne _ (by simp)] at h
  exact absurd rfl h

/-- The way to a directory leads over directories. -/
theorem IsTree.isDirectory_of_prefix (ht : t.IsTree) {p q : Route} (hq : q <+: p)
    (hp : t.isDirectory p = true) : t.isDirectory q = true := by
  induction p using List.reverseRecOn with
  | nil => rwa [List.prefix_nil.1 hq]
  | append_singleton p c ih =>
    rcases List.prefix_concat_iff.1 hq with rfl | hq
    · exact hp
    · exact ih hq (ht p c (find?_ne_none_of_isDirectory hp))

/-- An entry in a directory leaves a tree, unless it takes the place of a directory. -/
theorem IsTree.put (ht : t.IsTree) {p : Route} {c : String} {e : Entry}
    (hp : t.isDirectory p = true) (he : e = .directory ∨ t.isDirectory (p ++ [c]) = false) :
    (t.put (p ++ [c]) e).IsTree := by
  have hne : p ++ [c] ≠ [] := by simp
  -- A directory stays one: the place that is taken is none, or becomes one.
  have hkept (q : Route) (hq : t.isDirectory q = true) :
      (t.put (p ++ [c]) e).isDirectory q = true := by
    rw [isDirectory_iff] at hq ⊢
    rw [find?_put t hne]
    split
    · next h =>
      rcases he with rfl | he
      · rfl
      · rw [h, isDirectory, hq] at he
        cases he
    · exact hq
  intro q d h
  rw [find?_put t hne] at h
  split at h
  · next heq =>
    obtain ⟨rfl, -⟩ := List.append_inj' heq rfl
    exact hkept p hp
  · exact hkept q (ht q d h)

end FileTree

/-! ### Where ordinary names lead -/

namespace Path

variable {t : FileTree} {cs dir : Route} {c name s : String}

/-- None of some names is too long. -/
def NamesFit (cs : Route) : Prop := ∀ c ∈ cs, c.utf8ByteSize ≤ nameLimit

instance (cs : Route) : Decidable (NamesFit cs) := inferInstanceAs (Decidable (∀ c ∈ cs, _))

/-- Names fit one by one. -/
theorem namesFit_append {cs cs' : Route} : NamesFit (cs ++ cs') ↔ NamesFit cs ∧ NamesFit cs' :=
  List.forall_mem_append

theorem namesFit_singleton : NamesFit [c] ↔ c.utf8ByteSize ≤ nameLimit := by
  simp [NamesFit]

/-- What one ordinary name does. -/
theorem step_of_isOrdinary (hc : IsOrdinary c) {p : Route} (hp : t.isDirectory p = true)
    (hfit : c.utf8ByteSize ≤ nameLimit) :
    step t p c = if t.find? (p ++ [c]) = none then .error .missing else .ok (p ++ [c]) := by
  simp [step, hp, hc.1, hc.2, Nat.not_lt.2 hfit]

/-- A step along an ordinary name leads to that name, which fits. -/
theorem of_step_eq_ok (hc : IsOrdinary c) {p q : Route} (h : step t p c = .ok q) :
    q = p ++ [c] ∧ c.utf8ByteSize ≤ nameLimit := by
  unfold step at h
  rw [if_neg hc.1, if_neg hc.2] at h
  grind

/-- So a walk along ordinary names leads to their route, by induction on them. -/
theorem of_foldlM_step_eq_ok (hcs : ∀ c ∈ cs, IsOrdinary c) {p q : Route}
    (h : cs.foldlM (step t) p = .ok q) : q = p ++ cs ∧ NamesFit cs := by
  induction cs generalizing p with
  | nil =>
    obtain rfl := Except.ok.inj h
    exact ⟨by simp, by simp [NamesFit]⟩
  | cons c cs ih =>
    rw [List.foldlM_cons] at h
    rcases hstep : step t p c with e | p₁
    · rw [hstep] at h; cases h
    · rw [hstep] at h
      obtain ⟨rfl, hfit⟩ := of_step_eq_ok (hcs c List.mem_cons_self) hstep
      obtain ⟨rfl, hfits⟩ := ih (fun d hd ↦ hcs d (List.mem_cons_of_mem _ hd)) h
      exact ⟨by simp, List.forall_mem_cons.2 ⟨hfit, hfits⟩⟩

/-- A walk to a directory succeeds if its names fit, since all that lies above is a directory
too. -/
theorem foldlM_step_of_isDirectory (ht : t.IsTree) (hcs : ∀ c ∈ cs, IsOrdinary c)
    (hd : t.isDirectory cs = true) (hfit : NamesFit cs) : cs.foldlM (step t) [] = .ok cs := by
  induction cs using List.reverseRecOn with
  | nil => rfl
  | append_singleton cs c ih =>
    have hne := FileTree.find?_ne_none_of_isDirectory hd
    have hup := ht cs c hne
    rw [namesFit_append, namesFit_singleton] at hfit
    rw [List.foldlM_append, ih (List.forall_mem_append.1 hcs).1 hup hfit.1]
    show ([c] : List String).foldlM (step t) cs = _
    rw [List.foldlM_cons, step_of_isOrdinary (hcs c (by simp)) hup hfit.2, if_neg hne]
    rfl

/-- Ordinary names lead to the directory of that name, if it is one and no name is too long. -/
theorem directory_eq_ok_iff (ht : t.IsTree) (hcs : ∀ c ∈ cs, IsOrdinary c) {p : Route} :
    directory t cs = .ok p ↔ p = cs ∧ t.isDirectory cs = true ∧ NamesFit cs := by
  constructor
  · intro h
    unfold directory at h
    split at h
    · next q hq =>
      split at h
      · next hd =>
        obtain rfl := Except.ok.inj h
        obtain ⟨rfl, hfit⟩ := of_foldlM_step_eq_ok hcs hq
        exact ⟨rfl, hd, hfit⟩
      · cases h
    · cases h
  · rintro ⟨rfl, hd, hfit⟩
    simp [directory, foldlM_step_of_isDirectory ht hcs hd hfit, hd]

/-- A name in the directory of some names. -/
theorem place_eq_ok_iff (ht : t.IsTree) (hcs : ∀ c ∈ dir ++ [name], IsOrdinary c) {slash : Bool}
    {pl : Place} : place t (dir ++ [name]) slash = .ok pl ↔
      pl = .named (dir ++ [name]) slash ∧ NamesFit (dir ++ [name]) ∧ t.isDirectory dir = true := by
  have hdir := (List.forall_mem_append.1 hcs).1
  have hname := hcs name (by simp)
  unfold place
  rw [List.getLast?_concat, List.dropLast_concat, namesFit_append, namesFit_singleton]
  dsimp only
  rcases h : directory t dir with e | p
  · constructor
    · intro h; cases h
    · rintro ⟨-, ⟨hfit, -⟩, hd⟩
      rw [(directory_eq_ok_iff ht hdir).2 ⟨rfl, hd, hfit⟩] at h
      cases h
  · obtain ⟨rfl, hd, hfit⟩ := (directory_eq_ok_iff ht hdir).1 h
    simp only [hname.1, hname.2, if_false, hd, hfit, true_and, and_true]
    split
    · next hlong => simp [Nat.not_le.2 hlong]
    · next hshort => simp [Nat.not_lt.1 hshort, eq_comm]

/-- A path that is taken as it is: it can be used as a text, and no name in it is too long. -/
def IsAccepted (s : String) : Prop := isUnusable s = false ∧ NamesFit (components s)

instance (s : String) : Decidable (IsAccepted s) := inferInstanceAs (Decidable (_ ∧ _))

/-- **Where a plain path leads**: to its own name in its directory. -/
theorem IsPlain.locate_eq_ok_iff (hs : IsPlain s dir name) (ht : t.IsTree) {pl : Place} :
    locate t s = .ok pl ↔
      pl = .named (dir ++ [name]) false ∧ IsAccepted s ∧ t.isDirectory dir = true := by
  obtain ⟨front, hl, -, -, -, hne⟩ := hs.exists_front
  have hempty : s.isEmpty = false := by
    rw [Bool.eq_false_iff]
    intro h
    rw [String.isEmpty_iff] at h
    simp [h, hne] at hl
  unfold locate IsAccepted
  rw [hempty, hs.components_eq]
  cases isUnusable s with
  | true => simp
  | false =>
    simp only [Bool.false_eq_true, if_false, place_eq_ok_iff ht hs.ordinary, hs.bare, decide_false,
      true_and]

/-- What is accepted with more text behind its last name is accepted. -/
theorem IsPlain.isAccepted_of_temporary (hs : IsPlain s dir name)
    (h : IsAccepted (FileTree.temporary s)) : IsAccepted s := by
  have htext : s.toList <+: (FileTree.temporary s).toList := by
    simp [FileTree.temporary]
  refine ⟨String.ofList_toList (s := s) ▸ isUnusable_of_prefix htext h.1, ?_⟩
  have hfit := h.2
  rw [hs.temporary.components_eq, namesFit_append, namesFit_singleton] at hfit
  rw [hs.components_eq, namesFit_append, namesFit_singleton]
  refine ⟨hfit.1, Nat.le_trans ?_ hfit.2⟩
  rw [FileTree.temporary, String.utf8ByteSize_append]
  exact Nat.le_add_right _ _

end Path

/-! ### Making the directories on the way -/

namespace FileTree

variable {t t' t₁ t₂ : FileTree} {dir up : Route} {c : String}

/-- What stands in a directory is not on the way to it. -/
theorem concat_not_isPrefix_self (p : Route) (c : String) : ¬p ++ [c] <+: p := by
  intro h
  have hlength := h.length_le
  rw [List.length_append, List.length_singleton] at hlength
  exact Nat.not_succ_le_self _ hlength

/-- Nothing has changed but that some places on the way to a directory, free before, have become
directories. -/
def OpensWay (dir : Route) (t t' : FileTree) : Prop :=
  ∀ x, t'.find? x = t.find? x ∨ t.find? x = none ∧ x <+: dir ∧ t'.find? x = some .directory

/-- The directories on the way to a directory are there or can be made: no file stands in the way,
and no name is too long. -/
structure CanOpenWay (t : FileTree) (dir : Route) : Prop where
  /-- No name is too long. -/
  namesFit : NamesFit dir
  /-- No file stands in the way. -/
  no_file : ∀ q, q <+: dir → ∀ b, t.find? q ≠ some (.file b)

/-- A way that can be opened can be opened as far as one likes. -/
theorem CanOpenWay.of_append {cs : Route} (h : t.CanOpenWay (dir ++ cs)) : t.CanOpenWay dir where
  namesFit := (namesFit_append.1 h.namesFit).1
  no_file q hq := h.no_file q (hq.trans (List.prefix_append dir cs))

/-- What is no directory yet on a way that can be opened is free. -/
theorem CanOpenWay.find?_eq_none (h : t.CanOpenWay dir) (hdir : t.isDirectory dir = false) :
    t.find? dir = none := by
  rcases hx : t.find? dir with - | - | b
  · rfl
  · rw [isDirectory, hx] at hdir
    cases hdir
  · exact absurd hx (h.no_file dir List.prefix_rfl b)

namespace OpensWay

theorem refl (dir : Route) (t : FileTree) : OpensWay dir t t := fun _ ↦ .inl rfl

/-- What two openings leave alone both leave alone. -/
theorem trans (h : OpensWay dir t t₁) (h' : OpensWay dir t₁ t₂) : OpensWay dir t t₂ := fun x ↦ by
  rcases h' x with hx' | ⟨hfree, hx, hmade⟩
  · rw [hx']
    exact h x
  · rcases h x with hx' | ⟨-, -, hmade'⟩
    · exact .inr ⟨hx' ▸ hfree, hx, hmade⟩
    · rw [hfree] at hmade'
      cases hmade'

/-- An opening of a shorter way is one of the longer way. -/
theorem mono (h : OpensWay up t t') (hup : up <+: dir) : OpensWay dir t t' := fun x ↦
  (h x).imp_right fun ⟨hfree, hx, hmade⟩ ↦ ⟨hfree, hx.trans hup, hmade⟩

/-- Places that are not on the way are as before. -/
theorem find?_of_not_prefix (h : OpensWay dir t t') {x : Route} (hx : ¬x <+: dir) :
    t'.find? x = t.find? x :=
  (h x).resolve_right fun ⟨_, hx', _⟩ ↦ hx hx'

/-- Where a way could be opened, no file stood in it. -/
theorem canOpenWay (h : OpensWay dir t t') (ht' : t'.IsTree) (hdir : t'.isDirectory dir = true)
    (hfit : NamesFit dir) : t.CanOpenWay dir where
  namesFit := hfit
  no_file q hq b hb := by
    have hq' := isDirectory_iff.1 (ht'.isDirectory_of_prefix hq hdir)
    rcases h q with heq | ⟨hfree, -, -⟩
    · rw [heq, hb] at hq'
      cases hq'
    · rw [hfree] at hb
      cases hb

end OpensWay

/-- What making one directory does. -/
theorem makeDirectory_eq_ok_iff (ht : t.IsTree) (hcs : ∀ d ∈ up ++ [c], IsOrdinary d) :
    t.makeDirectory (up ++ [c]) = .ok t' ↔ NamesFit (up ++ [c]) ∧ t.isDirectory up = true ∧
      t.find? (up ++ [c]) = none ∧ t' = t.put (up ++ [c]) .directory := by
  unfold makeDirectory
  rcases hplace : place t (up ++ [c]) false with e | pl
  · constructor
    · intro h; cases h
    · rintro ⟨hfit, hup, -⟩
      rw [(place_eq_ok_iff ht hcs).2 ⟨rfl, hfit, hup⟩] at hplace
      cases hplace
  · obtain ⟨rfl, hfit, hup⟩ := (place_eq_ok_iff ht hcs).1 hplace
    dsimp only
    split
    · next hfree => simp [hfit, hup, hfree, eq_comm]
    · next htaken => simp [htaken]

/-- What a path leads to is what the tree says, if the names fit. -/
theorem leadsToDirectory_iff (ht : t.IsTree) (hcs : ∀ d ∈ up ++ [c], IsOrdinary d) :
    t.leadsToDirectory (up ++ [c]) = true ↔
      t.isDirectory (up ++ [c]) = true ∧ NamesFit (up ++ [c]) := by
  unfold leadsToDirectory
  rcases hplace : place t (up ++ [c]) false with e | pl
  · simp only [Bool.false_eq_true, false_iff]
    rintro ⟨hd, hfit⟩
    have hup := ht up c (find?_ne_none_of_isDirectory hd)
    rw [(place_eq_ok_iff ht hcs).2 ⟨rfl, hfit, hup⟩] at hplace
    cases hplace
  · obtain ⟨rfl, hfit, -⟩ := (place_eq_ok_iff ht hcs).1 hplace
    simp [hfit]

/-- A directory is made at once, is there already, or is made behind those above it. -/
theorem makeDirectoriesUp_concat (t : FileTree) (up : Route) (c : String) :
    t.makeDirectoriesUp (up ++ [c]).reverse = match t.makeDirectory (up ++ [c]) with
      | .ok t' => (true, t')
      | .error .refused => (t.leadsToDirectory (up ++ [c]), t)
      | .error .missing =>
        match t.makeDirectoriesUp up.reverse with
        | (false, t') => (false, t')
        | (true, t') => match t'.makeDirectory (up ++ [c]) with
          | .ok t'' => (true, t'')
          | .error _ => (t'.leadsToDirectory (up ++ [c]), t') := by
  have hcs : (c :: up.reverse).reverse = up ++ [c] := by
    rw [← List.reverse_concat, List.reverse_reverse]
  rw [List.reverse_concat, ← hcs]
  rfl

/-- A directory that was made lies on its own way, and the tree is a tree again. -/
theorem opensWay_makeDirectory (ht : t.IsTree) (hcs : ∀ d ∈ up ++ [c], IsOrdinary d)
    (h : t.makeDirectory (up ++ [c]) = .ok t') : OpensWay (up ++ [c]) t t' ∧ t'.IsTree := by
  obtain ⟨-, hup, hfree, rfl⟩ := (makeDirectory_eq_ok_iff ht hcs).1 h
  refine ⟨fun x ↦ ?_, ht.put hup (.inl rfl)⟩
  rw [find?_put t (by simp)]
  split
  · next hx => exact .inr ⟨hx ▸ hfree, hx ▸ List.prefix_rfl, rfl⟩
  · exact .inl rfl

/-- It is there. -/
theorem isDirectory_makeDirectory (ht : t.IsTree) (hcs : ∀ d ∈ up ++ [c], IsOrdinary d)
    (h : t.makeDirectory (up ++ [c]) = .ok t') :
    t'.isDirectory (up ++ [c]) = true ∧ NamesFit (up ++ [c]) := by
  obtain ⟨hfit, -, -, rfl⟩ := (makeDirectory_eq_ok_iff ht hcs).1 h
  refine ⟨isDirectory_iff.2 ?_, hfit⟩
  rw [find?_put t (by simp), if_pos rfl]

/-- What making the directories of a path does, whether it succeeds or not. -/
theorem opensWay_makeDirectoriesUp (ht : t.IsTree) (hcs : ∀ d ∈ dir, IsOrdinary d) :
    OpensWay dir t (t.makeDirectoriesUp dir.reverse).2 ∧
      (t.makeDirectoriesUp dir.reverse).2.IsTree := by
  induction dir using List.reverseRecOn with
  | nil => exact ⟨OpensWay.refl _ t, ht⟩
  | append_singleton up c ih =>
    rw [makeDirectoriesUp_concat]
    split
    · exact opensWay_makeDirectory ht hcs ‹_›
    · exact ⟨OpensWay.refl _ t, ht⟩
    · -- The directory above is missing: it is made first, and then this one.
      have hup := ih (List.forall_mem_append.1 hcs).1
      rcases h : t.makeDirectoriesUp up.reverse with ⟨made, t₁⟩
      rw [h] at hup
      have hway := hup.1.mono (List.prefix_append up [c])
      cases made with
      | false => exact ⟨hway, hup.2⟩
      | true =>
        dsimp only
        split
        · next hmake =>
          obtain ⟨hway', ht'⟩ := opensWay_makeDirectory hup.2 hcs hmake
          exact ⟨hway.trans hway', ht'⟩
        · exact ⟨hway, hup.2⟩

/-- When making the directories of a path succeeds, they are there. -/
theorem isDirectory_makeDirectoriesUp (ht : t.IsTree) (hcs : ∀ d ∈ dir, IsOrdinary d)
    (h : t.makeDirectoriesUp dir.reverse = (true, t')) :
    t'.isDirectory dir = true ∧ NamesFit dir := by
  rcases List.eq_nil_or_concat dir with rfl | ⟨up, c, rfl⟩
  · exact ⟨rfl, by simp [NamesFit]⟩
  rw [List.concat_eq_append] at *
  have hup := opensWay_makeDirectoriesUp ht (List.forall_mem_append.1 hcs).1
  rw [makeDirectoriesUp_concat] at h
  split at h
  · next hm =>
    obtain ⟨-, rfl⟩ := Prod.mk.inj h
    exact isDirectory_makeDirectory ht hcs hm
  · obtain ⟨hl, rfl⟩ := Prod.mk.inj h
    exact (leadsToDirectory_iff ht hcs).1 hl
  · rcases hrec : t.makeDirectoriesUp up.reverse with ⟨made, t₁⟩
    rw [hrec] at h hup
    cases made with
    | false => cases h
    | true =>
      dsimp only at h
      split at h
      · next hm =>
        obtain ⟨-, rfl⟩ := Prod.mk.inj h
        exact isDirectory_makeDirectory hup.2 hcs hm
      · obtain ⟨hl, rfl⟩ := Prod.mk.inj h
        exact (leadsToDirectory_iff hup.2 hcs).1 hl

/-- Where the way can be opened but is not open yet, something is missing on it. -/
theorem foldlM_step_eq_missing (ht : t.IsTree) (hcs : ∀ d ∈ dir, IsOrdinary d)
    (h : t.CanOpenWay dir) (hdir : t.isDirectory dir = false) :
    dir.foldlM (step t) [] = .error .missing := by
  induction dir using List.reverseRecOn with
  | nil => cases hdir
  | append_singleton up c ih =>
    have hcs' := (List.forall_mem_append.1 hcs).1
    have hfit := namesFit_append.1 h.namesFit
    rw [List.foldlM_append]
    cases hup : t.isDirectory up with
    | false =>
      rw [ih hcs' h.of_append hup]
      rfl
    | true =>
      rw [foldlM_step_of_isDirectory ht hcs' hup hfit.1]
      show ([c] : List String).foldlM (step t) up = _
      rw [List.foldlM_cons, step_of_isOrdinary (hcs c (by simp)) hup (namesFit_singleton.1 hfit.2),
        if_pos (h.find?_eq_none hdir)]
      rfl

/-- Without the directory above, a directory is not made; this error, and no other, makes one go
up. -/
theorem makeDirectory_eq_missing (ht : t.IsTree) (hcs : ∀ d ∈ up, IsOrdinary d)
    (h : t.CanOpenWay up) (hup : t.isDirectory up = false) :
    t.makeDirectory (up ++ [c]) = .error .missing := by
  have hplace : place t (up ++ [c]) false = .error .missing := by
    rw [place, List.getLast?_concat, List.dropLast_concat, directory,
      foldlM_step_eq_missing ht hcs h hup]
  rw [makeDirectory, hplace]

/-- **The directories of a path can be made** exactly when no file is in the way. -/
theorem makeDirectoriesUp_fst_iff (ht : t.IsTree) (hcs : ∀ d ∈ dir, IsOrdinary d) :
    (t.makeDirectoriesUp dir.reverse).1 = true ↔ t.CanOpenWay dir := by
  constructor
  · intro h
    obtain ⟨hway, ht'⟩ := opensWay_makeDirectoriesUp ht hcs
    obtain ⟨hdir, hfit⟩ := isDirectory_makeDirectoriesUp ht hcs (Prod.ext h rfl)
    exact hway.canOpenWay ht' hdir hfit
  · intro h
    induction dir using List.reverseRecOn with
    | nil => rfl
    | append_singleton up c ih =>
      have hcs' := (List.forall_mem_append.1 hcs).1
      cases hdir : t.isDirectory (up ++ [c]) with
      | true =>
        rw [makeDirectoriesUp_of_leadsToDirectory
          ((leadsToDirectory_iff ht hcs).2 ⟨hdir, h.namesFit⟩)]
      | false =>
        have hfree := h.find?_eq_none hdir
        rw [makeDirectoriesUp_concat]
        cases hup : t.isDirectory up with
        | true =>
          rw [(makeDirectory_eq_ok_iff ht hcs).2 ⟨h.namesFit, hup, hfree, rfl⟩]
        | false =>
          -- The directories above are made first; the place itself is still free then.
          have hmade := ih hcs' h.of_append
          obtain ⟨hway, ht₁⟩ := opensWay_makeDirectoriesUp ht hcs'
          rw [makeDirectory_eq_missing ht hcs' h.of_append hup]
          rcases hrec : t.makeDirectoriesUp up.reverse with ⟨made, t₁⟩
          rw [hrec] at hmade hway ht₁
          obtain rfl : made = true := hmade
          have hfree₁ : t₁.find? (up ++ [c]) = none := by
            rw [hway.find?_of_not_prefix (concat_not_isPrefix_self up c), hfree]
          dsimp only
          rw [(makeDirectory_eq_ok_iff ht₁ hcs).2
            ⟨h.namesFit, (isDirectory_makeDirectoriesUp ht hcs' hrec).1, hfree₁, rfl⟩]

end FileTree

end DpuNetwork
