import DpuNetwork.Agent
import DpuNetwork.Proofs.CommandLine
import DpuNetwork.Proofs.FileTree.PlainPath
import DpuNetwork.Proofs.LogFilter

/-!
# How the agent starts

What can be relied on before the first pass.

* The agent gets as far as a plan exactly when its command line is accepted and does not ask for the
  version, its settings are loaded, and they make the plan (`ofArgs_eq_planned_iff`). Of all files
  it depends on the one that the command line names (`ofArgs_congr`), so a program that reads that
  file beforehand has the same start.
* The ways of ending can be told apart from outside: a start that is over without a failure prints
  something and has the exit code zero (`exitCode_eq_zero_iff`), and there is something on the error
  output exactly when the exit code says that starting has failed (`errorLines_eq_nil_iff`).
* The files that a relative path stands for are those in a directory and in all directories above
  it: the bound on the number of directories is never reached (`directoriesUp_length`,
  `mem_directoriesUp_of_parent`), because a parent has a shorter path (`Path.length_of_parent?`).
-/

namespace DpuNetwork

open Text

/-! ### The directories above a directory -/

namespace Path

/-- A path without its bare end holds no slash at its end, unless it is the root. -/
theorem bareEnd_ne_slash_cons (r : List Char) (c : Char) (r' : List Char) :
    bareEnd r ≠ '/' :: c :: r' := by
  fun_induction bareEnd r with
  | case1 c r ih => exact ih
  | case2 r ih => exact ih
  | case3 s hslash hdot =>
    rintro rfl
    exact hslash c r' rfl

/-- **A parent has a shorter path.** -/
theorem length_of_parent? {s up : String} (h : parent? s = some up) : up.length < s.length := by
  unfold parent? at h
  split at h
  · cases h
  · cases h
  · next hnil hroot =>
    obtain rfl := Option.some.inj h
    have hbare := (bareEnd_suffix s.toList.reverse).length_le
    have hup := (bareEnd_suffix ((bareEnd s.toList.reverse).dropWhile (· ≠ '/'))).length_le
    have hdrop : ((bareEnd s.toList.reverse).dropWhile (· ≠ '/')).length <
        (bareEnd s.toList.reverse).length := by
      cases hr : bareEnd s.toList.reverse with
      | nil => exact absurd hr hnil
      | cons c r =>
        have hc : c ≠ '/' := by
          rintro rfl
          cases r with
          | nil => exact hroot hr
          | cons c' r' => exact bareEnd_ne_slash_cons _ c' r' hr
        rw [List.dropWhile_cons_of_pos (by simpa using hc)]
        exact Nat.lt_succ_of_le (List.dropWhile_suffix _).length_le
    rw [List.length_reverse, String.length_toList] at hbare
    simp only [String.length_ofList, List.length_reverse]
    omega

end Path

variable {dir up d : String} {n m : Nat}

/-- A bound that is not reached does not matter. -/
theorem directoriesUp_eq (hn : dir.length < n) (hm : dir.length < m) :
    directoriesUp n dir = directoriesUp m dir := by
  induction n generalizing dir m with
  | zero => omega
  | succ n ih =>
    obtain ⟨m, rfl⟩ := Nat.exists_eq_succ_of_ne_zero (Nat.ne_of_gt (Nat.zero_lt_of_lt hm))
    rw [directoriesUp, directoriesUp]
    cases hup : Path.parent? dir with
    | none => rfl
    | some up =>
      have hlt := Path.length_of_parent? hup
      exact congrArg (dir :: ·) (ih (by omega) (by omega))

/-- **The directories go up to one without a parent**: with a directory there is its parent. -/
theorem mem_directoriesUp_of_parent (hn : dir.length < n) (hd : d ∈ directoriesUp n dir)
    (hup : Path.parent? d = some up) : up ∈ directoriesUp n dir := by
  induction n generalizing dir with
  | zero => omega
  | succ n ih =>
    rw [directoriesUp] at hd ⊢
    cases hdir : Path.parent? dir with
    | none =>
      rw [hdir] at hd
      obtain rfl := List.mem_singleton.mp hd
      exact absurd (hdir.symm.trans hup) (by simp)
    | some above =>
      rw [hdir] at hd
      have hlt := Path.length_of_parent? hdir
      have hlen : above.length < n := by omega
      refine List.mem_cons_of_mem dir ?_
      rcases List.mem_cons.mp hd with rfl | hd
      · obtain rfl := Option.some.inj (hdir.symm.trans hup)
        obtain ⟨n, rfl⟩ := Nat.exists_eq_succ_of_ne_zero (Nat.ne_of_gt (Nat.zero_lt_of_lt hlen))
        exact List.mem_cons_self
      · exact ih hlen hd

/-! ### How starting ends -/

namespace Start

variable {args : List String} {readFile : String → Option ByteArray}
  {vars : Config.Environment.Variables}

open CommandLine in
/-- **When the agent gets as far as a plan.** -/
theorem ofArgs_eq_planned_iff {o : Options} {s : Settings} {p : Plan} :
    ofArgs args readFile vars = .planned o s p ↔
      Gives {} args o ∧ "--version" ∉ args ∧
        Settings.load (o.configPath.bind readFile) vars = .ok s ∧ s.plan = .ok p := by
  constructor
  · intro h
    unfold ofArgs at h
    split at h
    · cases h
    · next o' hargs =>
      have hgives := Options.ofArgs_eq_ok_iff.mp hargs
      split at h
      · cases h
      · next hversion =>
        split at h
        · cases h
        · next s' hload =>
          split at h
          · cases h
          · next p' hplan =>
            obtain ⟨rfl, rfl, rfl⟩ := planned.inj h
            exact ⟨hgives, fun hmem ↦ hversion (hgives.flags_iff.1.mpr (.inr hmem)), hload, hplan⟩
  · rintro ⟨hgives, hnot, hload, hplan⟩
    have hargs := Options.ofArgs_eq_ok_iff.mpr hgives
    have hversion : ¬o.version = true := fun hv ↦
      hnot ((hgives.flags_iff.1.mp hv).resolve_left Bool.false_ne_true)
    simp only [ofArgs, hargs, hversion, Bool.false_eq_true, if_false, hload, hplan]

/-- **Of all files the agent depends on the one that the command line names.** -/
theorem ofArgs_congr {readFile' : String → Option ByteArray}
    (h : ∀ path, ["--config-path", path] <:+: args ∨ "--config-path=" ++ path ∈ args →
      readFile path = readFile' path) :
    ofArgs args readFile vars = ofArgs args readFile' vars := by
  unfold ofArgs
  cases hargs : Options.ofArgs args with
  | error f => rfl
  | ok o =>
    have hfile : o.configPath.bind readFile = o.configPath.bind readFile' := by
      cases hpath : o.configPath with
      | none => rfl
      | some path =>
        have hgiven := (Options.ofArgs_eq_ok_iff.mp hargs).configPath_iff path
        exact h path ((hgiven.mp hpath).resolve_left (Option.some_ne_none path).symm)
    simp only [hfile]

/-- **A start that is over without a failure** has printed something. -/
theorem exitCode_eq_zero_iff (s : Start) : s.exitCode = 0 ↔ s.output ≠ none := by
  cases s with
  | refused f => cases f <;> decide
  | version => decide
  | unloadable f => simp [exitCode, output]
  | invalid f => simp [exitCode, output]
  | planned o s p => simp [exitCode, output]

/-- **A failure to start is reported**, and nothing else is: a command line that is refused leaves
the error output to the reader of the command line, and directives are not read for it. -/
theorem errorLines_eq_nil_iff (filter : LogFilter) (s : Start) :
    s.errorLines filter = [] ↔ s.exitCode ≠ 1 := by
  cases s with
  | refused f => cases f <;> simp [errorLines, logs, report, exitCode]
  | version => simp [errorLines, logs, report, exitCode]
  | unloadable f => simp [errorLines, report, exitCode]
  | invalid f => simp [errorLines, report, exitCode]
  | planned o s p => simp [errorLines, report, exitCode]

/-- **Without a log filter every plan is announced**, and only plans are. -/
theorem announces_of_unset (h : vars.get? logVariable = none) (s : Start) :
    s.announces (filter vars) ↔ ∃ o t p, s = .planned o t p := by
  have hfilter : (filter vars).enables logTarget .info := by
    rw [filter, h]
    decide
  cases s with
  | planned o t p => simpa [announces] using hfilter
  | refused f => simp [announces]
  | version => simp [announces]
  | unloadable f => simp [announces]
  | invalid f => simp [announces]

end Start

end DpuNetwork
