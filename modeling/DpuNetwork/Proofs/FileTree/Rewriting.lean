import DpuNetwork.Proofs.FileTree.Replacement

/-!
# Writing one file over and over

A run of replacements of one file (`FileTree.Rewrites`). Between them anything may happen to the
tree as long as the file stays what it is: directories come and go, other files are written, and so
some of the replacements fail. From the first success on the file holds the text of the last one,
and therefore a replacement reports no change exactly when it is of that text.

Nothing is asked of the tree, and of the path only that the file written first has another name.

## Main statements

* `Rewrites.read_eq`: what the file holds after a run;
* `Rewrites.unchanged_iff`: which replacements of a run report no change.
-/

namespace DpuNetwork.FileTree

open DpuNetwork.Path

variable {t t' : FileTree} {s text last : String} {b : ByteArray}
  {r : Except (FileStep × String) Bool}
  {log before after : List (String × Except (FileStep × String) Bool)}

/-- A run of replacements of the file that a path leads to: the texts and what came of them. -/
inductive Rewrites (s : String) :
    FileTree → List (String × Except (FileStep × String) Bool) → FileTree → Prop
  /-- Nothing is replaced. -/
  | done {t t' : FileTree} (hsame : t'.read s = t.read s) : Rewrites s t [] t'
  /-- The file is replaced, in a tree where it is what it was. -/
  | replace {t t₁ t₂ t' : FileTree} {text : String} {r : Except (FileStep × String) Bool}
      {log : List (String × Except (FileStep × String) Bool)} (hsame : t₁.read s = t.read s)
      (hreplace : t₁.replace s text = (r, t₂)) (hrest : Rewrites s t₂ log t') :
      Rewrites s t ((text, r) :: log) t'

theorem lastReplaced?_cons_error (text : String) (e : FileStep × String)
    (log : List (String × Except (FileStep × String) Bool)) :
    lastReplaced? ((text, .error e) :: log) = lastReplaced? log := by
  rw [lastReplaced?_cons]
  exact Option.or_none

theorem lastReplaced?_cons_ok (text : String) (changed : Bool)
    (log : List (String × Except (FileStep × String) Bool)) :
    lastReplaced? ((text, .ok changed) :: log) = some ((lastReplaced? log).getD text) := by
  rw [lastReplaced?_cons]
  exact Option.or_some

namespace Rewrites

/-- A run is cut anywhere. -/
theorem exists_of_append (h : Rewrites s t (before ++ after) t') :
    ∃ t₁, Rewrites s t before t₁ ∧ Rewrites s t₁ after t' := by
  induction before generalizing t with
  | nil => exact ⟨t, .done rfl, h⟩
  | cons w before ih =>
    cases h with
    | replace hsame hreplace hrest =>
      obtain ⟨t₁, hbefore, hafter⟩ := ih hrest
      exact ⟨t₁, .replace hsame hreplace hbefore, hafter⟩

/-- Without a success the file stays what it is. -/
theorem read_of_lastReplaced?_eq_none (hname : lastName? s ≠ lastName? (temporary s))
    (h : Rewrites s t log t') (hlast : lastReplaced? log = none) (hb : t.read s = some b) :
    t'.read s = some b := by
  induction h with
  | done hsame => rw [hsame, hb]
  | @replace t t₁ t₂ t' text r log hsame hreplace _ ih =>
    cases r with
    | ok changed =>
      rw [lastReplaced?_cons_ok] at hlast
      cases hlast
    | error e =>
      rw [lastReplaced?_cons_error] at hlast
      exact ih hlast (read_replace_of_error hreplace (hsame.trans hb) hname)

/-- **After a run the file holds the text of the last success.** -/
theorem read_eq (hname : lastName? s ≠ lastName? (temporary s)) (h : Rewrites s t log t')
    (hlast : lastReplaced? log = some last) : t'.read s = some last.toUTF8 := by
  induction h with
  | done => cases hlast
  | @replace t t₁ t₂ t' text r log _ hreplace hrest ih =>
    cases r with
    | error e =>
      rw [lastReplaced?_cons_error] at hlast
      exact ih hlast
    | ok changed =>
      rw [lastReplaced?_cons_ok] at hlast
      cases hlater : lastReplaced? log with
      | some text' =>
        rw [hlater] at hlast
        exact ih (hlater.trans hlast)
      | none =>
        -- This one is the last success, and what follows leaves the file as it is.
        rw [hlater] at hlast
        obtain rfl : text = last := Option.some.inj hlast
        exact read_of_lastReplaced?_eq_none hname hrest hlater (read_replace hreplace)

/-- **A replacement reports no change exactly when it is of the text of the last success.** -/
theorem unchanged_iff (hname : lastName? s ≠ lastName? (temporary s))
    (h : Rewrites s t (before ++ (text, r) :: after) t')
    (hlast : lastReplaced? before = some last) :
    r = .ok false ↔ text = last := by
  obtain ⟨t₁, hbefore, hafter⟩ := h.exists_of_append
  cases hafter with
  | replace hsame hreplace =>
    obtain rfl := congrArg Prod.fst hreplace
    rw [replace_eq_ok_false_iff, hsame, hbefore.read_eq hname hlast, Option.some_inj, eq_comm]
    exact String.toByteArray_inj

end Rewrites

end DpuNetwork.FileTree
