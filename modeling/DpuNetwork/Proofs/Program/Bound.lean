import DpuNetwork.Program.Launch

/-!
# A script that ends does not depend on the bound

Running a script takes a bound on the number of nested calls, because scripts need not end. That a
call gives nothing may mean that the bound was too small; that it gives something settles what it
gives. `Within x y` says that `y` does what `x` does wherever `x` ends, and every way of putting
actions together respects this. So it goes from the calls of one bound to the calls of the next
(`Grows.succ`), one lemma for each function of the shell, and by induction to all larger bounds
(`grows`).

For a shell as a whole this makes its result one of the script alone: `Ends` does not mention a
bound, holds of at most one result (`Ends.unique`), and is found by any bound that is large enough
(`shell_of_ends`).
-/

namespace DpuNetwork.Program.Shell

variable {α β : Type}

/-! ### Actions that do what others do -/

/-- One action does what another does wherever that ends. -/
def Within (x y : Act α) : Prop := ∀ st r, x st = some r → y st = some r

/-- What one action behind another does. -/
theorem bind_apply (x : Act α) (f : α → Act β) (st : State) :
    (x >>= f) st = (x st).bind fun r ↦ match r.1 with
      | .ok a => f a r.2
      | .error flow => some (.error flow, r.2) := by
  change (x st).bind (fun r ↦ ExceptT.bindCont f r.1 r.2) = _
  congr 1
  funext ⟨o, st'⟩
  cases o <;> rfl

namespace Within

variable {x y : Act α} {f g : α → Act β}

theorem refl (x : Act α) : Within x x := fun _ _ h ↦ h

/-- Programs that are each within the next are within the last. -/
theorem trans {z : Act α} (h : Within x y) (h' : Within y z) : Within x z := fun st r hr ↦
  h' st r (h st r hr)

/-- What has not ended is within everything. -/
theorem endless (x : Act α) : Within .endless x := fun _ _ h ↦ nomatch h

/-- The parts may be taken further one by one. -/
theorem bind (h : Within x y) (hfg : ∀ a, Within (f a) (g a)) : Within (x >>= f) (y >>= g) := by
  intro st r hr
  rw [bind_apply] at hr ⊢
  obtain ⟨⟨o, st'⟩, hx, hr⟩ := Option.bind_eq_some_iff.mp hr
  rw [h st _ hx]
  cases o with
  | error flow => exact hr
  | ok a => exact hfg a st' r hr

/-- The rest of a script, behind something that both do. -/
theorem bind_left (x : Act α) (hfg : ∀ a, Within (f a) (g a)) : Within (x >>= f) (x >>= g) :=
  bind (refl x) hfg

/-- A state of its own makes no difference. -/
theorem inner (h : Within x y) (st : State) : Within (x.inner st) (y.inner st) := by
  intro st' r hr
  obtain ⟨q, hx, hq⟩ := Option.map_eq_some_iff.mp hr
  exact Option.map_eq_some_iff.mpr ⟨q, h st q hx, hq⟩

theorem await {a b : Option α} (h : ∀ r, a = some r → b = some r) :
    Within (Act.await a) (Act.await b) := by
  intro st r hr
  obtain ⟨q, ha, hq⟩ := Option.map_eq_some_iff.mp hr
  exact Option.map_eq_some_iff.mpr ⟨q, h q ha, hq⟩

end Within

/-! ### From one bound to the next -/

/-- The calls with one bound do what those with another do. -/
structure Grows (n m : Nat) : Prop where
  piece : ∀ streams f p, Within (piece n streams f p) (piece m streams f p)
  fields : ∀ streams f w, Within (fields n streams f w) (fields m streams f w)
  allFields : ∀ streams acc ws, Within (allFields n streams acc ws) (allFields m streams acc ws)
  assign : ∀ streams as, Within (assign n streams as) (assign m streams as)
  source : ∀ streams s, Within (source n streams s) (source m streams s)
  receive : ∀ streams k, Within (receive n streams k) (receive m streams k)
  external : ∀ streams origin name args,
    Within (external n streams origin name args) (external m streams origin name args)
  call : ∀ streams name args, Within (call n streams name args) (call m streams name args)
  redirect : ∀ streams rs, Within (redirect n streams rs) (redirect m streams rs)
  run : ∀ streams checked s, Within (run n streams checked s) (run m streams checked s)
  turns : ∀ streams checked name items body,
    Within (turns n streams checked name items body) (turns m streams checked name items body)
  inside : ∀ streams checked s, Within (inside n streams checked s) (inside m streams checked s)
  shell : ∀ st args f, shell n st args = some f → shell m st args = some f

namespace Grows

variable {n m : Nat}

/-- Without any calls nothing ends. -/
theorem zero (m : Nat) : Grows 0 m where
  piece _ _ _ := .endless _
  fields _ _ w := by cases w <;> exact .endless _
  allFields _ _ ws := by cases ws <;> exact .endless _
  assign _ as := by cases as <;> exact .endless _
  source _ _ := .endless _
  receive _ _ := .endless _
  external _ _ _ _ := .endless _
  call _ _ _ := .endless _
  redirect _ rs := by cases rs <;> exact .endless _
  run _ _ _ := .endless _
  turns _ _ _ items _ := by cases items <;> exact .endless _
  inside _ _ _ := .endless _
  shell _ _ _ h := nomatch h

variable (h : Grows n m)

include h

/-- The parts of a shell, one by one: given that all of them grow from `n` to `m`, each grows by one
more turn. They are those of `Shell.run`, in its order. -/
theorem piece_succ (streams : Streams) (f : Fields) (p : Piece) :
    Within (Shell.piece (n + 1) streams f p) (Shell.piece (m + 1) streams f p) := by
  unfold Shell.piece
  refine .bind_left _ fun st ↦ ?_
  cases p with
  | text s => exact .refl _
  | parameter name isQuoted => exact .refl _
  | arithmetic e isQuoted => exact .refl _
  | substitution s isQuoted => exact .bind ((h.source _ _).inner _) fun _ ↦ .refl _

/-- A word grows as its pieces do. -/
theorem fields_succ (streams : Streams) (f : Fields) (w : Word) :
    Within (Shell.fields (n + 1) streams f w) (Shell.fields (m + 1) streams f w) := by
  cases w with
  | nil => exact .refl _
  | cons p w => exact .bind (h.piece _ _ _) fun _ ↦ h.fields _ _ _

/-- So do several words. -/
theorem allFields_succ (streams : Streams) (acc : List (List Char)) (ws : List Word) :
    Within (Shell.allFields (n + 1) streams acc ws) (Shell.allFields (m + 1) streams acc ws) := by
  cases ws with
  | nil => exact .refl _
  | cons w ws => exact .bind (h.fields _ _ _) fun _ ↦ h.allFields _ _ _

/-- An assignment grows as its word does. -/
theorem assign_succ (streams : Streams) (as : List (List Char × Word)) :
    Within (Shell.assign (n + 1) streams as) (Shell.assign (m + 1) streams as) := by
  cases as with
  | nil => exact .refl _
  | cons a as =>
    obtain ⟨name, w⟩ := a
    exact .bind (h.fields _ _ _) fun _ ↦ .bind_left _ fun _ ↦ h.assign _ _

/-- A text is read before it is run, and only the running depends on the bound. -/
theorem source_succ (streams : Streams) (s : List Char) :
    Within (Shell.source (n + 1) streams s) (Shell.source (m + 1) streams s) := by
  unfold Shell.source
  cases parse s with
  | ok script => exact h.run _ _ _
  | error f => exact .refl _

theorem receive_succ (streams : Streams) (k : Nat) :
    Within (Shell.receive (n + 1) streams k) (Shell.receive (m + 1) streams k) := by
  unfold Shell.receive
  refine .bind_left _ fun st ↦ ?_
  by_cases hk : k = sigkill
  · simp only [hk, if_true]
    exact .refl _
  · simp only [hk, if_false]
    cases st.traps.get? k with
    | none => exact .refl _
    | some action =>
      cases action with
      | nil => exact .refl _
      | cons c r => exact .bind (h.source _ _) fun _ ↦ .refl _

/-- A program is looked up before it is run, and only the running depends on the bound. -/
theorem external_succ (streams : Streams) (origin name : String) (args : List (List Char)) :
    Within (Shell.external (n + 1) streams origin name args)
      (Shell.external (m + 1) streams origin name args) := by
  unfold Shell.external
  refine .bind_left _ fun st ↦ ?_
  by_cases hshell : isShell (programName name) = true
  · simp only [hshell, if_true]
    exact .bind (.await fun f ↦ h.shell _ _ f) fun _ ↦ .refl _
  · simp only [hshell]
    exact .refl _

/-- A call grows as the function or the program that is called. -/
theorem call_succ (streams : Streams) (name : String) (args : List (List Char)) :
    Within (Shell.call (n + 1) streams name args) (Shell.call (m + 1) streams name args) := by
  unfold Shell.call
  refine .bind_left _ fun st ↦ ?_
  cases builtin? streams name args st with
  | some r => exact .refl _
  | none =>
    cases Runner.ofName? name with
    | none => exact h.external _ _ _ _
    | some runner =>
      cases runner with
      | eval => exact .bind_left _ fun _ ↦ h.source _ _
      | exec =>
        cases args with
        | nil => exact .refl _
        | cons name r => exact .bind (h.external _ _ _ _) fun _ ↦ .refl _
      | kill =>
        cases killArgs? args with
        | none => exact .refl _
        | some q =>
          obtain ⟨k, receivers⟩ := q
          by_cases hall : receivers.all (· == State.processNumber) = true
          · simp only [hall, if_true]
            exact .bind_left _ fun _ ↦ h.receive _ _
          · simp only [hall]
            exact .refl _

/-- A redirection grows as the word that names its file. -/
theorem redirect_succ (streams : Streams) (rs : List Redirection) :
    Within (Shell.redirect (n + 1) streams rs) (Shell.redirect (m + 1) streams rs) := by
  cases rs with
  | nil => exact .refl _
  | cons r rs =>
    unfold Shell.redirect
    cases r.target with
    | stream k => exact h.redirect _ _
    | write w => exact h.redirect _ _
    | read w =>
      refine .bind (h.fields _ _ _) fun f ↦ ?_
      by_cases hfile : String.ofList (Text.join ' ' f.toList) = "/dev/null"
      · simp only [hfile, if_true]
        exact .bind_left _ fun _ ↦ h.redirect _ _
      · simp only [hfile, if_false]
        exact .refl _

theorem inside_succ (streams : Streams) (checked : Bool) (s : Script) :
    Within (Shell.inside (n + 1) streams checked s) (Shell.inside (m + 1) streams checked s) := by
  unfold Shell.inside
  exact .bind_left _ fun _ ↦ .bind ((h.run _ _ _).inner _) fun _ ↦ .refl _

/-- A loop grows with each of its turns. -/
theorem turns_succ (streams : Streams) (checked : Bool) (name : List Char)
    (items : List (List Char)) (body : Script) :
    Within (Shell.turns (n + 1) streams checked name items body)
      (Shell.turns (m + 1) streams checked name items body) := by
  cases items with
  | nil => exact .refl _
  | cons item items =>
    refine .bind_left _ fun st ↦ .bind ((h.run _ _ _).inner _) fun q ↦ .bind_left _ fun _ ↦ ?_
    cases afterTurn q.1 with
    | none => exact h.turns _ _ _ _ _
    | some r => exact .refl _

/-- A command with its assignments and words. -/
theorem run_simple_succ (streams : Streams) (checked : Bool)
    (assignments : List (List Char × Word)) (words : List Word) :
    Within (Shell.run (n + 1) streams checked (.simple assignments words))
      (Shell.run (m + 1) streams checked (.simple assignments words)) := by
  refine .bind (h.allFields _ _ _) fun fs ↦ .bind_left _ fun _ ↦ .bind_left _ fun before ↦
    .bind (h.assign _ _) fun _ ↦ ?_
  cases fs with
  | nil => exact .refl _
  | cons name args => exact .bind_left _ fun _ ↦ .bind (h.call _ _ _) fun _ ↦ .refl _

/-- A script with redirections. -/
theorem run_redirected_succ (streams : Streams) (checked : Bool) (s : Script)
    (rs : List Redirection) :
    Within (Shell.run (n + 1) streams checked (.redirected s rs))
      (Shell.run (m + 1) streams checked (.redirected s rs)) := by
  refine .bind_left _ fun before ↦ .bind (h.redirect _ _) fun led ↦ ?_
  cases led with
  | none => exact .refl _
  | some streams =>
    exact .bind_left _ fun st ↦ .bind ((h.run _ _ _).inner _) fun _ ↦ .refl _

/-- A pipe of two scripts. -/
theorem run_pipe_succ (streams : Streams) (checked : Bool) (a b : Script) :
    Within (Shell.run (n + 1) streams checked (.pipe a b))
      (Shell.run (m + 1) streams checked (.pipe a b)) := by
  refine .bind_left _ fun st ↦ .bind ((h.run _ _ _).inner _) fun q ↦ ?_
  have hsecond : ∀ st' : State, Within
      ((Shell.inside n streams checked b).inner st' >>= fun r ↦ do
        set { r.2 with input := q.2.input }
        Act.resume r.1)
      ((Shell.inside m streams checked b).inner st' >>= fun r ↦ do
        set { r.2 with input := q.2.input }
        Act.resume r.1) := fun st' ↦
    .bind ((h.inside _ _ _).inner st') fun _ ↦ .refl _
  obtain ⟨r, st'⟩ := q
  cases r with
  | ok _ => exact hsecond _
  | error flow =>
    cases flow with
    | killed k => exact .refl _
    | leave k => exact hsecond _
    | again k => exact hsecond _
    | exit => exact hsecond _

/-- A loop: its condition, a turn, and the loop again. -/
theorem run_loop_succ (streams : Streams) (checked negated : Bool) (condition body : Script) :
    Within (Shell.run (n + 1) streams checked (.loop negated condition body))
      (Shell.run (m + 1) streams checked (.loop negated condition body)) := by
  refine .bind (h.run _ _ _) fun _ ↦ .bind_left _ fun st ↦ ?_
  by_cases hend : (st.status = 0) = (negated = true)
  · simp only [hend, if_true]
    exact .refl _
  · simp only [hend, if_false]
    refine .bind ((h.run _ _ _).inner _) fun q ↦ .bind_left _ fun _ ↦ ?_
    cases afterTurn q.1 with
    | none => exact h.run _ _ _
    | some r => exact .refl _

/-- A script grows as its commands do, case by case. -/
theorem run_succ (streams : Streams) (checked : Bool) (s : Script) :
    Within (Shell.run (n + 1) streams checked s) (Shell.run (m + 1) streams checked s) := by
  cases s with
  | empty => exact .refl _
  | simple assignments words => exact h.run_simple_succ _ _ _ _
  | redirected s rs => exact h.run_redirected_succ _ _ _ _
  | sequence a b => exact .bind (h.run _ _ _) fun _ ↦ h.run _ _ _
  | conjunction a b =>
    refine .bind (h.run _ _ _) fun _ ↦ .bind_left _ fun st ↦ ?_
    by_cases hst : st.status = 0
    · simp only [hst, if_true]
      exact h.run _ _ _
    · simp only [hst, if_false]
      exact .refl _
  | disjunction a b =>
    refine .bind (h.run _ _ _) fun _ ↦ .bind_left _ fun st ↦ ?_
    by_cases hst : st.status = 0
    · simp only [hst, if_true]
      exact .refl _
    · simp only [hst, if_false]
      exact h.run _ _ _
  | negation a => exact .bind (h.run _ _ _) fun _ ↦ .refl _
  | pipe a b => exact h.run_pipe_succ _ _ _ _
  | loop negated condition body => exact h.run_loop_succ _ _ _ _ _
  | branch condition yes no =>
    refine .bind (h.run _ _ _) fun _ ↦ .bind_left _ fun st ↦ ?_
    by_cases hst : st.status = 0
    · simp only [hst, if_true]
      exact h.run _ _ _
    · simp only [hst, if_false]
      exact .bind_left _ fun _ ↦ h.run _ _ _
  | each name items body =>
    refine .bind_left _ fun st ↦ ?_
    cases items with
    | none => exact .bind_left _ fun fs ↦ .bind_left _ fun _ ↦ h.turns _ _ _ _ _
    | some ws => exact .bind (h.allFields _ _ _) fun fs ↦ .bind_left _ fun _ ↦ h.turns _ _ _ _ _
  | subshell a => exact h.inside _ _ _

/-- A whole shell ends with what it ended with, if it is given more turns. -/
theorem shell_succ (st : State) (args : List (List Char)) (f : Finished)
    (hf : Shell.shell (n + 1) st args = some f) : Shell.shell (m + 1) st args = some f := by
  unfold Shell.shell at hf ⊢
  obtain ⟨r, hr, hf⟩ := Option.bind_eq_some_iff.mp hf
  rw [h.source _ _ _ r hr, Option.bind_some]
  cases hlast : lastAction? r with
  | none => simpa only [hlast] using hf
  | some action =>
    simp only [hlast] at hf ⊢
    obtain ⟨r', hr', hf⟩ := Option.map_eq_some_iff.mp hf
    exact Option.map_eq_some_iff.mpr ⟨r', h.source _ _ _ r' hr', hf⟩

/-- **The step**: with one more call on both sides this stays so. -/
theorem succ : Grows (n + 1) (m + 1) where
  piece := h.piece_succ
  fields := h.fields_succ
  allFields := h.allFields_succ
  assign := h.assign_succ
  source := h.source_succ
  receive := h.receive_succ
  external := h.external_succ
  call := h.call_succ
  redirect := h.redirect_succ
  run := h.run_succ
  turns := h.turns_succ
  inside := h.inside_succ
  shell := h.shell_succ

end Grows

/-- **A larger bound does what a smaller one did.** -/
theorem grows {n m : Nat} (h : n ≤ m) : Grows n m := by
  induction n generalizing m with
  | zero => exact .zero m
  | succ n ih =>
    obtain ⟨m, rfl⟩ := Nat.exists_eq_add_of_lt h
    exact (ih (Nat.le_add_right n m)).succ

/-! ### What a shell ends with -/

/-- A shell ends with a result: some bound is large enough for it. -/
def Ends (st : State) (args : List (List Char)) (f : Finished) : Prop :=
  ∃ n, shell n st args = some f

variable {st : State} {args : List (List Char)} {f f' : Finished}

/-- **A shell ends with one result**, whatever bounds it was run with. -/
theorem Ends.unique (h : Ends st args f) (h' : Ends st args f') : f = f' := by
  obtain ⟨n, hn⟩ := h
  obtain ⟨m, hm⟩ := h'
  have hleft := (grows (Nat.le_max_left n m)).shell st args f hn
  have hright := (grows (Nat.le_max_right n m)).shell st args f' hm
  exact Option.some.inj (hleft.symm.trans hright)

/-- **Every bound that is large enough finds the result.** -/
theorem shell_of_ends (h : Ends st args f) : ∃ n, ∀ m, n ≤ m → shell m st args = some f := by
  obtain ⟨n, hn⟩ := h
  exact ⟨n, fun m hm ↦ (grows hm).shell st args f hn⟩

end DpuNetwork.Program.Shell

namespace DpuNetwork.Program

/-- **Running a shell as a program** gives what the shell ends with, if that takes no more calls
than the bound for programs. -/
theorem finished?_eq_of_shell {c : Command} {n : Nat} {f : Finished}
    (hargs : (c.program :: c.args).all isArgument = true)
    (hshell : Shell.isShell (Shell.programName c.program) = true) (hn : n ≤ callBound)
    (h : Shell.shell n {} (c.args.map String.toList) = some f) : finished? c = some f := by
  have hbound := (Shell.grows hn).shell _ _ f h
  simp only [finished?, hargs, hshell, hbound, Bool.not_true, Bool.false_eq_true, if_false, if_true,
    Option.getD_some]

end DpuNetwork.Program
