import DpuNetwork.GatewayOptions
import DpuNetwork.Proofs.FileTree.Descent

/-!
# Replacing a file is atomic

What replacing a file does on an arbitrary tree, whatever stands at its place, beside it or in its
way: one of five things, each with its condition (`FileTree.Replaces`). From these follows that the
file holds the old contents or the new ones and everything else stays as it is, and that after any
number of replacements the file holds the text of the last one that succeeded
(`FileTree.replaces_atomically`).
-/

namespace DpuNetwork.FileTree

open DpuNetwork.Path

variable {t t' t₁ : FileTree} {s text : String} {dir : Route} {name : String}

/-! ### File work at plain paths -/

/-- A file is read where it is found, if its path is accepted. -/
theorem read_eq_some_iff (hs : IsPlain s dir name) (ht : t.IsTree) {b : ByteArray} :
    t.read s = some b ↔ IsAccepted s ∧ t.find? (dir ++ [name]) = some (.file b) := by
  constructor
  · intro h
    obtain ⟨p, hp, hb⟩ := locate_of_read h
    obtain ⟨hpl, hs', -⟩ := (hs.locate_eq_ok_iff ht).1 hp
    obtain ⟨rfl, -⟩ := Place.named.inj hpl
    exact ⟨hs', hb⟩
  · rintro ⟨hs', hb⟩
    have hdir := ht dir name (by rw [hb]; simp)
    exact read_of_locate ((hs.locate_eq_ok_iff ht).2 ⟨rfl, hs', hdir⟩) hb

/-- Writing succeeds at an accepted path that names no directory. -/
theorem write_eq (hs : IsPlain s dir name) (ht : t.IsTree) (hdir : t.isDirectory dir = true)
    (b : ByteArray) : t.write s b =
      if IsAccepted s ∧ t.isDirectory (dir ++ [name]) = false
      then some (t.put (dir ++ [name]) (.file b)) else none := by
  by_cases hs' : IsAccepted s
  · have hloc := (hs.locate_eq_ok_iff ht).2 ⟨rfl, hs', hdir⟩
    rw [write, hloc]
    cases h : t.isDirectory (dir ++ [name]) <;> simp [hs', h]
  · rw [if_neg fun h ↦ hs' h.1]
    unfold write
    split
    · next hloc => exact absurd ((hs.locate_eq_ok_iff ht).1 hloc).2.1 hs'
    · rfl

/-- The temporary file has a name of its own, being longer. -/
theorem temporary_ne (name : String) : temporary name ≠ name := fun h ↦ by
  simpa [temporary] using congrArg String.length h

theorem beside_ne : dir ++ [temporary name] ≠ dir ++ [name] := fun h ↦
  temporary_ne name (by simpa using h)

/-- Renaming what has just been written beside a file succeeds if the file is no directory. -/
theorem rename_eq (hs : IsPlain s dir name) (ht : t.IsTree) (hdir : t.isDirectory dir = true)
    (hacc : IsAccepted (temporary s)) {b : ByteArray}
    (hb : t.find? (dir ++ [temporary name]) = some (.file b)) :
    t.rename (temporary s) s = if t.isDirectory (dir ++ [name]) = true then none
      else some ((t.remove (dir ++ [temporary name])).put (dir ++ [name]) (.file b)) := by
  rw [rename, (hs.temporary.locate_eq_ok_iff ht).2 ⟨rfl, hacc, hdir⟩,
    (hs.locate_eq_ok_iff ht).2 ⟨rfl, hs.isAccepted_of_temporary hacc, hdir⟩]
  dsimp only
  rw [hb]

/-! ### What replacing does -/

/-- A tree whose directories on the way to a file have been made. -/
structure Opened (t : FileTree) (dir : Route) (t₁ : FileTree) : Prop where
  /-- Nothing else has changed. -/
  opensWay : OpensWay dir t t₁
  /-- What stands at a place stands in a directory. -/
  isTree : t₁.IsTree
  /-- The directory of the file is there. -/
  isDirectory : t₁.isDirectory dir = true

/-- The tree with contents written beside a file and moved to its place. -/
def installed (t : FileTree) (dir : Route) (name : String) (b : ByteArray) : FileTree :=
  ((t.put (dir ++ [temporary name]) (.file b)).remove (dir ++ [temporary name])).put
    (dir ++ [name]) (.file b)

/-- After the installation the text is at its place, nothing is at the temporary one, and everything
else is as it was. -/
theorem find?_installed (t : FileTree) (dir : Route) (name : String) (b : ByteArray) (x : Route) :
    (t.installed dir name b).find? x = if dir ++ [name] = x then some (.file b)
      else if dir ++ [temporary name] = x then none else t.find? x := by
  rw [installed, find?_put _ (by simp), find?_remove _ (by simp), find?_put _ (by simp)]
  split
  · rfl
  · split <;> rfl

/-- The installation leaves a tree, since what it puts and removes are files. -/
theorem IsTree.installed (ht : t.IsTree) (hdir : t.isDirectory dir = true)
    (hbeside : t.isDirectory (dir ++ [temporary name]) = false)
    (hfree : t.isDirectory (dir ++ [name]) = false) (b : ByteArray) :
    (t.installed dir name b).IsTree := by
  have hkept (q : Route) (hq : t.isDirectory q = true) :
      (t.installed dir name b).isDirectory q = true := by
    have hne {x : Route} (hx : t.isDirectory x = false) : x ≠ q := by
      rintro rfl
      rw [hx] at hq
      cases hq
    rw [isDirectory_iff, find?_installed, if_neg (hne hfree), if_neg (hne hbeside)]
    exact isDirectory_iff.1 hq
  intro q c h
  rw [find?_installed] at h
  split at h
  · next heq =>
    obtain ⟨rfl, -⟩ := List.append_inj' heq rfl
    exact hkept _ hdir
  · split at h
    · exact absurd rfl h
    · exact hkept q (ht q c h)

/-- Opening the way to a directory touches no file in it. -/
theorem Opened.find?_file (h : Opened t dir t₁) (n : String) :
    t₁.find? (dir ++ [n]) = t.find? (dir ++ [n]) :=
  h.opensWay.find?_of_not_prefix (concat_not_isPrefix_self dir n)

/-- Nor does it make a directory of one. -/
theorem Opened.isDirectory_file (h : Opened t dir t₁) (n : String) :
    t₁.isDirectory (dir ++ [n]) = t.isDirectory (dir ++ [n]) :=
  isDirectory_of_find?_eq (h.find?_file n)

/-- What replacing a file does, by outcome. -/
inductive Replaces (t : FileTree) (s : String) (dir : Route) (name text : String) :
    Except (FileStep × String) Bool → FileTree → Prop
  /-- The file holds the text. -/
  | kept (haccepted : IsAccepted s) (hheld : t.find? (dir ++ [name]) = some (.file text.toUTF8)) :
    Replaces t s dir name text (.ok false) t
  /-- The directories on the way cannot be made, or the path is not accepted. -/
  | noDirectory {d : String} {t₁ : FileTree} (hnot : t.read s ≠ some text.toUTF8)
    (hd : parent? s = some d) (hway : OpensWay dir t t₁) (htree : t₁.IsTree)
    (hstuck : ¬IsAccepted (temporary s) ∨ ¬t.CanOpenWay dir) :
    Replaces t s dir name text (.error (.createDirs, d)) t₁
  /-- A directory stands beside the file, or the path there is not accepted. -/
  | notWritten {t₁ : FileTree} (hnot : t.read s ≠ some text.toUTF8) (hopen : Opened t dir t₁)
    (hstuck : ¬IsAccepted (temporary s) ∨ t.isDirectory (dir ++ [temporary name]) = true) :
    Replaces t s dir name text (.error (.write, temporary s)) t₁
  /-- A directory stands at the place of the file. -/
  | notRenamed {t₁ : FileTree} (hnot : t.read s ≠ some text.toUTF8) (hopen : Opened t dir t₁)
    (haccepted : IsAccepted (temporary s))
    (hbeside : t.isDirectory (dir ++ [temporary name]) = false)
    (hstuck : t.isDirectory (dir ++ [name]) = true) :
    Replaces t s dir name text (.error (.rename, s))
      (t₁.put (dir ++ [temporary name]) (.file text.toUTF8))
  /-- The file is replaced. -/
  | replaced {t₁ : FileTree} (hnot : t.read s ≠ some text.toUTF8) (hopen : Opened t dir t₁)
    (haccepted : IsAccepted (temporary s))
    (hbeside : t.isDirectory (dir ++ [temporary name]) = false)
    (hfree : t.isDirectory (dir ++ [name]) = false) :
    Replaces t s dir name text (.ok true) (t₁.installed dir name text.toUTF8)

/-- Replacing a file does one of these five things. -/
theorem replaces (hs : IsPlain s dir name) (ht : t.IsTree) (text : String) :
    Replaces t s dir name text (t.replace s text).1 (t.replace s text).2 := by
  by_cases hread : t.read s = some text.toUTF8
  · rw [replace_of_read hread]
    obtain ⟨hacc, hheld⟩ := (read_eq_some_iff hs ht).1 hread
    exact .kept hacc hheld
  obtain ⟨d, hd, hcs, husable⟩ := hs.exists_parent?
  have hdirs := (List.forall_mem_append.1 hs.ordinary).1
  obtain ⟨hway, htree⟩ := opensWay_makeDirectoriesUp ht hdirs
  have hiff := makeDirectoriesUp_fst_iff ht hdirs
  rw [replace, if_neg hread, hd]
  dsimp only
  rw [makeDirectories, hcs]
  cases hu : isUnusable d with
  | true =>
    refine .noDirectory hread hd (OpensWay.refl dir t) ht (.inl fun h ↦ ?_)
    rw [husable (hs.isAccepted_of_temporary h).1] at hu
    cases hu
  | false =>
    rcases hmake : t.makeDirectoriesUp dir.reverse with ⟨made, t₁⟩
    rw [hmake] at hway htree hiff
    cases made with
    | false => exact .noDirectory hread hd hway htree (.inr fun h ↦ by simpa using hiff.2 h)
    | true =>
      have hdir := (isDirectory_makeDirectoriesUp ht hdirs hmake).1
      have hopen : Opened t dir t₁ := ⟨hway, htree, hdir⟩
      have hbeside := hopen.isDirectory_file (temporary name)
      have htarget := hopen.isDirectory_file name
      simp only [Bool.false_eq_true, if_false]
      rw [write_eq hs.temporary htree hdir, hbeside]
      by_cases hfit : IsAccepted (temporary s) ∧ t.isDirectory (dir ++ [temporary name]) = false
      · rw [if_pos hfit]
        -- The text stands beside the file now, and the directory is still there.
        obtain ⟨hacc, hb⟩ := hfit
        have hne : dir ++ [temporary name] ≠ [] := by simp
        have hb₁ : t₁.isDirectory (dir ++ [temporary name]) = false := hbeside.trans hb
        have htree₂ := htree.put (e := .file text.toUTF8) hdir (.inr hb₁)
        have hdir₂ := isDirectory_put hne hb₁ text.toUTF8 hdir
        have htarget₂ : (t₁.put (dir ++ [temporary name]) (.file text.toUTF8)).isDirectory
            (dir ++ [name]) = t.isDirectory (dir ++ [name]) := by
          rw [← htarget, isDirectory_of_find?_eq]
          rw [find?_put t₁ hne, if_neg beside_ne]
        dsimp only
        rw [rename_eq hs htree₂ hdir₂ hacc (by rw [find?_put t₁ hne, if_pos rfl]), htarget₂]
        cases hfree : t.isDirectory (dir ++ [name]) with
        | true => exact .notRenamed hread hopen hacc hb hfree
        | false => exact .replaced hread hopen hacc hb hfree
      · rw [if_neg hfit]
        refine .notWritten hread hopen ?_
        by_cases hacc : IsAccepted (temporary s)
        · exact .inr (eq_true_of_ne_false fun hb ↦ hfit ⟨hacc, hb⟩)
        · exact .inl hacc

/-! ### One replacement -/

/-- The file holds the text already. -/
def Holds (t : FileTree) (s : String) (p : Route) (text : String) : Prop :=
  IsAccepted s ∧ t.find? p = some (.file text.toUTF8)

/-- What is in the way of replacing a file: its path or the one beside it is not accepted, a file
stands where a directory has to be, or a directory stands beside the file or in its place. -/
def Obstructed (t : FileTree) (s : String) (dir : Route) (name : String) : Prop :=
  ¬IsAccepted (temporary s) ∨ (∃ q, q <+: dir ∧ ∃ b, t.find? q = some (.file b)) ∨
    t.isDirectory (dir ++ [temporary name]) = true ∨ t.isDirectory (dir ++ [name]) = true

/-- The directories on the way are there, the file is as given, nothing stands beside it, and
everything else is as before. -/
structure IsReplaced (t : FileTree) (dir : Route) (name text : String) (t' : FileTree) : Prop where
  /-- The file holds the text. -/
  file : t'.find? (dir ++ [name]) = some (.file text.toUTF8)
  /-- Nothing stands beside it. -/
  beside : t'.find? (dir ++ [temporary name]) = none
  /-- The directories on the way are there. -/
  directories : ∀ q, q <+: dir → t'.find? q = some .directory
  /-- They were there or free before. -/
  free_or_directory : ∀ q, q <+: dir → t.find? q = none ∨ t.find? q = some .directory
  /-- Everything else is as before. -/
  frame : ∀ x, x ≠ dir ++ [name] → x ≠ dir ++ [temporary name] → ¬x <+: dir →
    t'.find? x = t.find? x

/-- The file is as before and so is everything that was there, except beside it; where nothing was,
there is at most a new directory on the way. -/
structure IsSpared (t : FileTree) (dir : Route) (name : String) (t' : FileTree) : Prop where
  /-- The file is as before. -/
  file : t'.find? (dir ++ [name]) = t.find? (dir ++ [name])
  /-- What was there is as before. -/
  kept : ∀ x, x ≠ dir ++ [temporary name] → t.find? x ≠ none → t'.find? x = t.find? x
  /-- What is new is a directory on the way. -/
  made : ∀ x, x ≠ dir ++ [temporary name] → t.find? x = none → t'.find? x ≠ none →
    x <+: dir ∧ t'.find? x = some .directory

/-- A way that was opened spares the file, whatever becomes of the attempt after that. -/
theorem OpensWay.isSpared (h : OpensWay dir t t₁) : IsSpared t dir name t₁ where
  file := h.find?_of_not_prefix (concat_not_isPrefix_self dir name)
  kept x _ hx := (h x).resolve_right fun hmade ↦ hx hmade.1
  made x _ hx hx' := by
    rcases h x with heq | ⟨-, hdir, hmade⟩
    · exact absurd (heq.trans hx) hx'
    · exact ⟨hdir, hmade⟩

/-- What stands beside a file does not matter to it. -/
theorem IsSpared.put (h : IsSpared t dir name t₁) (e : Entry) :
    IsSpared t dir name (t₁.put (dir ++ [temporary name]) e) := by
  have hfind (x : Route) (hx : x ≠ dir ++ [temporary name]) :
      (t₁.put (dir ++ [temporary name]) e).find? x = t₁.find? x := by
    rw [find?_put t₁ (by simp), if_neg (Ne.symm hx)]
  refine ⟨?_, fun x hx ↦ ?_, fun x hx ↦ ?_⟩
  · rw [hfind _ (Ne.symm beside_ne)]
    exact h.file
  · rw [hfind x hx]
    exact h.kept x hx
  · rw [hfind x hx]
    exact h.made x hx

/-- With the way open, the installation replaces the file and nothing else. -/
theorem Opened.isReplaced (h : Opened t dir t₁) :
    IsReplaced t dir name text (t₁.installed dir name text.toUTF8) := by
  have hout (n : String) (q : Route) (hq : q <+: dir) : dir ++ [n] ≠ q := by
    rintro rfl
    exact concat_not_isPrefix_self dir n hq
  refine ⟨?_, ?_, fun q hq ↦ ?_, fun q hq ↦ ?_, fun x hx hx' hx'' ↦ ?_⟩
  · rw [find?_installed, if_pos rfl]
  · rw [find?_installed, if_neg beside_ne.symm, if_pos rfl]
  · rw [find?_installed, if_neg (hout _ q hq), if_neg (hout _ q hq)]
    exact isDirectory_iff.1 (h.isTree.isDirectory_of_prefix hq h.isDirectory)
  · rcases h.opensWay q with heq | ⟨hfree, -⟩
    · exact .inr (heq ▸ isDirectory_iff.1 (h.isTree.isDirectory_of_prefix hq h.isDirectory))
    · exact .inl hfree
  · rw [find?_installed, if_neg (Ne.symm hx), if_neg (Ne.symm hx'),
      h.opensWay.find?_of_not_prefix hx'']

/-! ### Many replacements -/

/-- Replaces a file by one text after the other; each text comes back with its outcome. -/
def replaceAll (t : FileTree) (s : String) :
    List String → List (String × Except (FileStep × String) Bool) × FileTree
  | [] => ([], t)
  | text :: texts =>
    let (log, last) := (t.replace s text).2.replaceAll s texts
    ((text, (t.replace s text).1) :: log, last)

/-- The text of the last replacement that succeeded. -/
def lastReplaced? (log : List (String × Except (FileStep × String) Bool)) : Option String :=
  ((log.filter fun e ↦ e.2.isOk).getLast?).map Prod.fst

/-- What replacing a file comes to, on a tree, for every text and every sequence of texts. -/
structure ReplacesAtomically (t : FileTree) (s : String) (dir : Route) (name : String) :
    Prop where
  /-- What is a tree stays one. -/
  isTree (text : String) : (t.replace s text).2.IsTree
  /-- It reports no change exactly when the file holds the text. -/
  unchanged_iff (text : String) :
    (t.replace s text).1 = .ok false ↔ t.Holds s (dir ++ [name]) text
  /-- Then the tree stays as it is. -/
  unchanged (text : String) : (t.replace s text).1 = .ok false → (t.replace s text).2 = t
  /-- When it reports a change, the file is replaced and all else is as before. -/
  changed (text : String) :
    (t.replace s text).1 = .ok true → IsReplaced t dir name text (t.replace s text).2
  /-- When it fails, the file and all else but what stands beside it are as before. -/
  failed (text : String) (e : FileStep × String) :
    (t.replace s text).1 = .error e → IsSpared t dir name (t.replace s text).2
  /-- It fails exactly when something is in the way of a text that the file does not hold. -/
  failed_iff (text : String) : (∃ e, (t.replace s text).1 = .error e) ↔
    ¬t.Holds s (dir ++ [name]) text ∧ t.Obstructed s dir name
  /-- After a success the same text is no change. -/
  again (text : String) (changed : Bool) : (t.replace s text).1 = .ok changed →
    (t.replace s text).2.replace s text = (.ok false, (t.replace s text).2)
  /-- After any sequence of texts the file holds the last one that was written with success, or is
  as it was before the first. -/
  last (texts : List String) : (t.replaceAll s texts).2.find? (dir ++ [name]) =
    ((lastReplaced? (t.replaceAll s texts).1).map fun text ↦ Entry.file text.toUTF8).or
      (t.find? (dir ++ [name]))

/-- A way that was opened could be opened. -/
theorem Opened.canOpenWay (h : Opened t dir t₁) (hs : IsPlain s dir name)
    (hacc : IsAccepted (temporary s)) : t.CanOpenWay dir := by
  have hfit := hacc.2
  rw [hs.temporary.components_eq, namesFit_append] at hfit
  exact h.opensWay.canOpenWay h.isTree h.isDirectory hfit.1

namespace Replaces

variable {r : Except (FileStep × String) Bool}

/-- A replacement leaves a tree, whether it succeeds or not. -/
theorem isTree (h : Replaces t s dir name text r t') (ht : t.IsTree) : t'.IsTree := by
  cases h with
  | kept => exact ht
  | noDirectory _ _ _ htree => exact htree
  | notWritten _ hopen => exact hopen.isTree
  | notRenamed _ hopen _ hbeside =>
    exact hopen.isTree.put hopen.isDirectory (.inr ((hopen.isDirectory_file _).trans hbeside))
  | replaced _ hopen _ hbeside hfree =>
    exact hopen.isTree.installed hopen.isDirectory ((hopen.isDirectory_file _).trans hbeside)
      ((hopen.isDirectory_file _).trans hfree) _

/-- A replacement changes nothing exactly when the file holds the text. -/
theorem unchanged_iff (h : Replaces t s dir name text r t') (hs : IsPlain s dir name)
    (ht : t.IsTree) : r = .ok false ↔ t.Holds s (dir ++ [name]) text := by
  unfold Holds
  rw [← read_eq_some_iff hs ht]
  cases h with
  | kept hacc hheld => exact iff_of_true rfl ((read_eq_some_iff hs ht).2 ⟨hacc, hheld⟩)
  | noDirectory hnot => exact iff_of_false (by simp) hnot
  | notWritten hnot => exact iff_of_false (by simp) hnot
  | notRenamed hnot => exact iff_of_false (by simp) hnot
  | replaced hnot => exact iff_of_false (by simp) hnot

/-- It then changes nothing at all, not even a directory. -/
theorem unchanged (h : Replaces t s dir name text (.ok false) t') : t' = t := by
  cases h
  rfl

/-- A replacement that reports a change has made it. -/
theorem changed (h : Replaces t s dir name text (.ok true) t') :
    IsReplaced t dir name text t' := by
  cases h with
  | replaced _ hopen => exact hopen.isReplaced

/-- A replacement that fails leaves the file as it was. -/
theorem failed {e : FileStep × String} (h : Replaces t s dir name text (.error e) t') :
    IsSpared t dir name t' := by
  cases h with
  | noDirectory _ _ hway => exact hway.isSpared
  | notWritten _ hopen => exact hopen.opensWay.isSpared
  | notRenamed _ hopen => exact hopen.opensWay.isSpared.put _

/-- It fails exactly when it has something to do and something is in its way. -/
theorem failed_iff (h : Replaces t s dir name text r t') (hs : IsPlain s dir name)
    (ht : t.IsTree) : (∃ e, r = .error e) ↔
      ¬t.Holds s (dir ++ [name]) text ∧ t.Obstructed s dir name := by
  unfold Holds
  rw [← read_eq_some_iff hs ht]
  cases h with
  | kept hacc hheld => simp [(read_eq_some_iff hs ht).2 ⟨hacc, hheld⟩]
  | noDirectory hnot _ _ _ hstuck =>
    refine iff_of_true ⟨_, rfl⟩ ⟨hnot, ?_⟩
    by_cases hacc : IsAccepted (temporary s)
    · -- The names fit, so it is a file that stands in the way.
      have hfit := hacc.2
      rw [hs.temporary.components_eq, namesFit_append] at hfit
      have hfile : ¬∀ q, q <+: dir → ∀ b, t.find? q ≠ some (.file b) := fun h ↦
        hstuck.elim (absurd hacc) fun h' ↦ h' ⟨hfit.1, h⟩
      exact .inr (.inl (by simpa using hfile))
    · exact .inl hacc
  | notWritten hnot _ hstuck =>
    refine iff_of_true ⟨_, rfl⟩ ⟨hnot, ?_⟩
    exact hstuck.imp_right fun hb ↦ .inr (.inl hb)
  | notRenamed hnot _ _ _ hstuck =>
    exact iff_of_true ⟨_, rfl⟩ ⟨hnot, .inr (.inr (.inr hstuck))⟩
  | replaced hnot hopen hacc hbeside hfree =>
    refine iff_of_false (by simp) fun ⟨_, hstuck⟩ ↦ ?_
    obtain hacc' | ⟨q, hq, b, hb⟩ | hb | hb := hstuck
    · exact hacc' hacc
    · exact (hopen.canOpenWay hs hacc).no_file q hq b hb
    · rw [hbeside] at hb
      cases hb
    · rw [hfree] at hb
      cases hb

/-- What a file holds behind one replacement. -/
theorem find?_file (h : Replaces t s dir name text r t') : t'.find? (dir ++ [name]) =
    if r.isOk = true then some (.file text.toUTF8) else t.find? (dir ++ [name]) := by
  rcases r with e | - | -
  · exact h.failed.file
  · obtain rfl := h.unchanged
    cases h with
    | kept _ hheld => exact hheld
  · exact h.changed.file

end Replaces

/-- Of a log, the last replacement that succeeded counts. -/
theorem lastReplaced?_cons (e : String × Except (FileStep × String) Bool)
    (log : List (String × Except (FileStep × String) Bool)) :
    lastReplaced? (e :: log) =
      (lastReplaced? log).or (if e.2.isOk = true then some e.1 else none) := by
  unfold lastReplaced?
  rw [List.filter_cons]
  cases e.2.isOk with
  | false => simp
  | true =>
    rw [if_pos rfl, List.getLast?_cons]
    cases (log.filter fun e ↦ e.2.isOk).getLast? <;> rfl

/-- What a file holds behind any number of replacements. -/
theorem find?_replaceAll (hs : IsPlain s dir name) (ht : t.IsTree) (texts : List String) :
    (t.replaceAll s texts).2.find? (dir ++ [name]) =
      ((lastReplaced? (t.replaceAll s texts).1).map fun text ↦ Entry.file text.toUTF8).or
        (t.find? (dir ++ [name])) := by
  induction texts generalizing t with
  | nil => rfl
  | cons text texts ih =>
    have h := replaces hs ht text
    show ((t.replace s text).2.replaceAll s texts).2.find? (dir ++ [name]) =
      ((lastReplaced? ((text, (t.replace s text).1) ::
        ((t.replace s text).2.replaceAll s texts).1)).map _).or _
    rw [ih (h.isTree ht), lastReplaced?_cons, h.find?_file]
    cases lastReplaced? ((t.replace s text).2.replaceAll s texts).1 with
    | some _ => rfl
    | none => cases (t.replace s text).1.isOk <;> rfl

/-- **Replacing a file is atomic**, at every path of ordinary names below a root of such names,
whatever the tree holds. -/
theorem replaces_atomically {root path : String} (ht : t.IsTree)
    (hroot : ∀ c ∈ components root, IsOrdinary c) (hpath : IsPlain path dir name)
    (hrelative : path.toList.head? ≠ some '/') :
    t.ReplacesAtomically (child root path) (components root ++ dir) name := by
  have hs := hpath.child hrelative hroot
  have hdoes (text : String) := replaces hs ht text
  exact
    { isTree := fun text ↦ (hdoes text).isTree ht
      unchanged_iff := fun text ↦ (hdoes text).unchanged_iff hs ht
      unchanged := fun text h ↦ (h ▸ hdoes text).unchanged
      changed := fun text h ↦ (h ▸ hdoes text).changed
      failed := fun text _ h ↦ (h ▸ hdoes text).failed
      failed_iff := fun text ↦ (hdoes text).failed_iff hs ht
      again := fun _ _ h ↦ replace_of_read (read_replace (Prod.ext h rfl))
      last := find?_replaceAll hs ht }

/-- The gateway options below the root of a host where the directories are there and the file that
was written beside them once is still there. -/
theorem replaces_atomically_gatewayOptions :
    ReplacesAtomically
      (((({} : FileTree).put ["etc"] .directory).put ["etc", "openvswitch"] .directory).put
        ["etc", "openvswitch", "ovn_k8s.conf.TMP"] (.file "[Gate".toUTF8))
      (child "/" gatewayOptionsPath) (components "/" ++ ["etc", "openvswitch"]) "ovn_k8s.conf" :=
  replaces_atomically
    (((isTree_empty.put (p := []) (c := "etc") rfl (.inl rfl)).put
      (p := ["etc"]) (c := "openvswitch") rfl (.inl rfl)).put
      (p := ["etc", "openvswitch"]) (c := "ovn_k8s.conf.TMP") (by decide +kernel)
        (.inr (by decide +kernel)))
    (by decide +kernel) ⟨by decide +kernel, by decide +kernel, by decide +kernel⟩
    (by decide +kernel)

end DpuNetwork.FileTree
