import DpuNetwork.Program.Launch
import DpuNetwork.Proofs.FunctionConfig
import DpuNetwork.Proofs.Utf8

/-!
# What running a program tells

The agent sees of a program what it has written and how it has ended. A success gives the output as
it was written, as long as it is text (`runOutcome_of_text`). A failure names the command, how the
program has ended, and the error output without the blanks around it: the wording of an ending
determines the ending (`Ending.text_inj`), so two failures that read alike come from programs that
ended alike (`ending_eq_of_runOutcome`).

Together with what a program does this gives whole runs: what writing arguments out comes back as
(`runOutcome_echo`).

For a program in the background what counts is that its state settles: whenever it is asked for
again after the program has ended, the answer stays the same (`states?_settle`).
-/

namespace DpuNetwork.Program

open Text

/-! ### The wording of an ending -/

/-- What stands behind the number of a signal. -/
def signalSuffix (k : Nat) : String :=
  match signalName? k with
  | some name => " (SIG" ++ name ++ ")"
  | none => ""

theorem toList_toString (n : Nat) : (toString n).toList = numeral n := by
  simp [toString, Nat.repr, numeral]

theorem toList_text_exited (code : UInt8) :
    (Ending.exited code).text.toList = "exit status: ".toList ++ numeral code.toNat := by
  rw [Ending.text, String.toList_append, toList_toString]

theorem toList_text_killed (k : Nat) : (Ending.killed k).text.toList =
    "signal: ".toList ++ (numeral k ++ (signalSuffix k).toList) := by
  have htext : (Ending.killed k).text = "signal: " ++ toString k ++ signalSuffix k := rfl
  rw [htext, String.toList_append, String.toList_append, toList_toString, List.append_assoc]

/-- Behind the number of a signal there is no digit. -/
theorem takeWhile_signal (k : Nat) :
    (numeral k ++ (signalSuffix k).toList).takeWhile Char.isDigit = numeral k := by
  have hsuffix : ∀ c ∈ (signalSuffix k).toList.head?, c.isDigit = false := by
    unfold signalSuffix
    cases signalName? k with
    | none => simp
    | some name => simp
  rw [List.takeWhile_append_of_pos fun c hc ↦ isDigit_of_mem_numeral hc]
  cases hr : (signalSuffix k).toList with
  | nil => simp
  | cons c r => simp [hsuffix c (by rw [hr]; rfl)]

/-- **The wording of an ending tells the ending.** -/
theorem Ending.text_inj {e e' : Ending} : e.text = e'.text ↔ e = e' := by
  refine ⟨fun h ↦ ?_, fun h ↦ h ▸ rfl⟩
  have hlist := congrArg String.toList h
  cases e with
  | exited code =>
    cases e' with
    | exited code' =>
      rw [toList_text_exited, toList_text_exited, List.append_cancel_left_eq, numeral_inj] at hlist
      rw [UInt8.toNat_inj.mp hlist]
    | killed k =>
      rw [toList_text_exited, toList_text_killed] at hlist
      simp at hlist
  | killed k =>
    cases e' with
    | exited code =>
      rw [toList_text_exited, toList_text_killed] at hlist
      simp at hlist
    | killed k' =>
      rw [toList_text_killed, toList_text_killed, List.append_cancel_left_eq] at hlist
      have hnumber := congrArg (List.takeWhile Char.isDigit) hlist
      rw [takeWhile_signal, takeWhile_signal, numeral_inj] at hnumber
      rw [hnumber]

/-! ### Successes and failures -/

variable {c : Command} {f f' : Finished} {e : Failure}

/-- **A success gives what was written**, as long as that is text. -/
theorem runOutcome_of_text (c : Command) (output errors : String) :
    runOutcome c (some { output := output.toUTF8.toList, errors := errors.toUTF8.toList }) =
      .ok ⟨output, errors⟩ := by
  simp only [runOutcome, Utf8.decode_toUTF8, if_true]

/-- **What a failure says**: the command, how the program ended, and its error output, which neither
begins nor ends with a blank. -/
theorem runOutcome_eq_error_iff : runOutcome c (some f) = .error e ↔
    f.ending ≠ .exited 0 ∧ ∃ detail, e = .command c.text f.ending.text detail ∧
      Padded detail.toList (Utf8.decode f.errors).toList ∧ IsTrimmed detail.toList := by
  unfold runOutcome
  by_cases hending : f.ending = .exited 0
  · simp [hending]
  · simp only [hending, if_false, Except.error.injEq, not_false_eq_true, ne_eq, true_and,
      ← trim_eq_iff]
    constructor
    · rintro rfl
      exact ⟨_, rfl, by rw [String.toList_ofList]⟩
    · rintro ⟨detail, rfl, htrim⟩
      rw [htrim, String.ofList_toList]

/-- **Failures that read alike** come from programs that ended alike. -/
theorem ending_eq_of_runOutcome (h : runOutcome c (some f) = .error e)
    (h' : runOutcome c (some f') = .error e) : f.ending = f'.ending := by
  obtain ⟨-, detail, rfl, -⟩ := runOutcome_eq_error_iff.mp h
  obtain ⟨-, detail', hsame, -⟩ := runOutcome_eq_error_iff.mp h'
  exact Ending.text_inj.mp (Failure.command.inj hsame).2.1

/-! ### Programs of a host -/

/-- Arguments of which the first is no option are written out as they stand. -/
theorem echo_of_plain (escapes newline : Bool) {args : List (List Char)}
    (h : ∀ arg ∈ args.head?, arg.head? ≠ some '-') :
    echo escapes newline args = writeLine escapes newline args := by
  cases args with
  | nil => rfl
  | cons arg args =>
    have hne : arg.head? ≠ some '-' := h arg rfl
    unfold echo
    split
    · exact absurd rfl hne
    · rfl

/-- A text written as a line. -/
theorem bytes_append_newline (s : List Char) :
    bytes s ++ [10] = (String.ofList (s ++ ['\n'])).toUTF8.toList := by
  have hnewline : String.utf8EncodeChar '\n' = [10] := by decide
  rw [bytes, Utf8.toList_toUTF8, Utf8.toList_toUTF8, String.toList_ofList, String.toList_ofList,
    List.flatMap_append, List.flatMap_singleton, hnewline]

/-- **Writing arguments out**: what comes back are the arguments with spaces in between, and a line
end. The first of them must not look like an option. -/
theorem runOutcome_echo {args : List String} (hargs : args.all isArgument = true)
    (hplain : ∀ arg ∈ args.head?, arg.toList.head? ≠ some '-') :
    let c : Command := ⟨"echo", args⟩
    runOutcome c (finished? c) =
      .ok ⟨String.ofList (join ' ' (args.map String.toList) ++ ['\n']), ""⟩ := by
  intro c
  have hname : Shell.programName "echo" = "echo" := by decide
  have hshell : Shell.isShell "echo" = false := by decide
  have hall : ("echo" :: args).all isArgument = true := by
    have hecho : isArgument "echo" = true := by decide
    rw [List.all_cons, hecho, hargs]
    rfl
  have hfirst : ∀ arg ∈ (args.map String.toList).head?, arg.head? ≠ some '-' := by
    intro arg harg
    rw [List.head?_map] at harg
    obtain ⟨arg, hmem, rfl⟩ := Option.map_eq_some_iff.mp harg
    exact hplain arg hmem
  have houtput : (writeLine false true (args.map String.toList)).output =
      (String.ofList (join ' ' (args.map String.toList) ++ ['\n'])).toUTF8.toList :=
    bytes_append_newline _
  have herrors : ([] : List UInt8) = "".toUTF8.toList := by
    rw [Utf8.toList_toUTF8]
    rfl
  have hfinished : finished? c = some {
      output := (writeLine false true (args.map String.toList)).output
      errors := [] } := by
    simp only [c, finished?, hall, hname, hshell, program?, echo_of_plain false true hfirst]
    rfl
  rw [hfinished, houtput, herrors]
  exact runOutcome_of_text c _ ""

/-- **The state of a program settles**: once it has ended, the answer stays the same. -/
theorem states?_settle {kill : Bool} {states : List ChildState}
    (h : states? c kill = some states) :
    ∃ status, states.drop (if kill then 1 else 0) = [.exited status, .exited status] := by
  unfold states? at h
  split at h
  · cases h
  · cases kill <;> obtain rfl := Option.some.inj h <;> exact ⟨_, rfl⟩

end DpuNetwork.Program
