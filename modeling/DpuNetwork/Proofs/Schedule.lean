import Mathlib.Data.List.Chain
import DpuNetwork.Proofs.Course.FailFast
import DpuNetwork.Proofs.Course.Leads
import DpuNetwork.Proofs.Course.Server
import DpuNetwork.Proofs.Pass.Frame
import DpuNetwork.Schedule

/-!
# Runs of passes

A run makes passes one after the other, each with what the one before it has left and what waiting
has made of the host (`Goes`). It ends when a stop was requested or when the DHCP server has ended,
and no other failure of a pass ends it or has a part in what comes next: the next pass is fixed by
what the pass before it has left, not by its result.

A run is bounded by a number of passes. The runs of all bounds are the beginnings of one run, and a
run that has ended is the same for all larger bounds, so what holds for all bounds holds of the run
that is not bounded.

## Main statements

* `passes_goes`: every run goes so;
* `Goes.failed_iff`, `Goes.stop`: what ends a run;
* `Goes.take`, `Goes.mono`: the runs of larger bounds;
* `run_recounts`: the account of every run (`Recounts`), which holds all this.
-/

namespace DpuNetwork

/-- A stop that was requested stays so, whatever is exchanged. -/
structure Stops.Latches {σ : Type} (stops : Stops σ) (H : Host σ) : Prop where
  /-- Requesting a stop works. -/
  request : ∀ k, stops.isRequested (stops.request k) = true
  /-- No exchange takes it back. -/
  keeps : ∀ {e : Exchange} {k k'}, e.Happens H k k' → stops.isRequested k = true →
    stops.isRequested k' = true

theorem Stops.Latches.leads {σ : Type} {stops : Stops σ} {H : Host σ} (h : stops.Latches H)
    {t : List Exchange} {k k' : σ} (ht : Leads H t k k') (hk : stops.isRequested k = true) :
    stops.isRequested k' = true := by
  induction ht with
  | nil k => exact hk
  | cons he _ ih => exact ih (h.keeps he hk)

namespace Schedule

section

variable {σ : Type} (H : Host σ) (stops : Stops σ) (roots : Roots) (plan : Plan) (interval : Nat)

/-- The circumstances of a pass that is due at a moment: what waiting has made of the host, and the
files as they are. -/
def visit (due : Nat) (s : Session σ) : Visit σ :=
  ⟨stops.clock due (stops.wait due s.host), stops.wait due s.host, s.files⟩

/-- The pass that is due at a moment. -/
def duePass (due : Nat) (s : Session σ) : MadePass σ :=
  makePass H roots plan s.memory (visit stops due s)

/-- No stop was requested when the waiting for a pass began, and none was in the meantime. -/
def MayBegin (due : Nat) (s : Session σ) : Prop :=
  stops.isRequested s.host = false ∧ stops.isRequested (stops.wait due s.host) = false

/-- How a run goes from a session on in which a pass is due at a moment: the passes that it makes,
at most as many as the bound, and the run itself. -/
inductive Goes : Nat → Nat → Session σ → List (MadePass σ) → Run σ → Prop
  /-- The bound is used up. -/
  | used (due : Nat) (s : Session σ) : Goes 0 due s [] ⟨.running, [], s⟩
  /-- A stop was requested before the waiting began. -/
  | stopped {n due : Nat} {s : Session σ} (h : stops.isRequested s.host = true) :
    Goes (n + 1) due s [] ⟨.stopped, [], s⟩
  /-- A stop was requested while waiting. -/
  | interrupted {n due : Nat} {s : Session σ} (hs : stops.isRequested s.host = false)
    (h : stops.isRequested (stops.wait due s.host) = true) :
    Goes (n + 1) due s [] ⟨.stopped, [], onHost (stops.wait due) s⟩
  /-- A pass fails for good, so a stop is requested. -/
  | failed {n due : Nat} {s : Session σ} {f : Failure} (hs : MayBegin stops due s)
    (h : (duePass H stops roots plan due s).result = .error f) (hf : f.isFatal = true) :
    Goes (n + 1) due s [duePass H stops roots plan due s]
      ⟨.failed f, [(duePass H stops roots plan due s).now],
        onHost stops.request ((duePass H stops roots plan due s).after.behind s.trace)⟩
  /-- A pass is made and does not fail for good, so the next one is due an interval later. -/
  | next {n due : Nat} {s : Session σ} {ps : List (MadePass σ)} {run : Run σ}
    (hs : MayBegin stops due s)
    (h : ∀ f, (duePass H stops roots plan due s).result = .error f → f.isFatal = false)
    (hrest : Goes n ((duePass H stops roots plan due s).now + interval)
      ((duePass H stops roots plan due s).after.behind s.trace) ps run) :
    Goes (n + 1) due s (duePass H stops roots plan due s :: ps)
      { run with moments := (duePass H stops roots plan due s).now :: run.moments }

/-- A pass of a run is one that begins with nothing exchanged. -/
theorem exec_converge (now : Nat) (s : Session σ) :
    (Pass.converge H roots plan now).exec s =
      ((makePass H roots plan s.memory ⟨now, s.host, s.files⟩).result,
        (makePass H roots plan s.memory ⟨now, s.host, s.files⟩).after.behind s.trace) := by
  have hs : s = Session.behind
      { host := s.host, files := s.files, memory := s.memory, trace := [] } s.trace := by
    simp [Session.behind]
  conv_lhs => rw [hs, Pass.isFramed_converge H roots plan now]
  rfl

/-- A run that makes a pass goes on behind it, unless the pass fails for good. -/
theorem passes_of_mayBegin {n due : Nat} {s : Session σ} (hs : MayBegin stops due s) :
    passes H stops roots plan interval (n + 1) due s =
      let p := duePass H stops roots plan due s
      let rest := passes H stops roots plan interval n (p.now + interval) (p.after.behind s.trace)
      match p.result with
      | .error f =>
        if f.isFatal then ⟨.failed f, [p.now], onHost stops.request (p.after.behind s.trace)⟩
        else { rest with moments := p.now :: rest.moments }
      | .ok () => { rest with moments := p.now :: rest.moments } := by
  have hstart : ¬ stops.isRequested s.host = true := by simp [hs.1]
  have hwait : ¬ stops.isRequested (onHost (stops.wait due) s).host = true := by
    simp [onHost, hs.2]
  have hexec : (Pass.converge H roots plan
      (stops.clock due (onHost (stops.wait due) s).host)).exec (onHost (stops.wait due) s) =
        ((duePass H stops roots plan due s).result,
          (duePass H stops roots plan due s).after.behind s.trace) :=
    exec_converge H roots plan _ _
  rw [passes, if_neg hstart]
  dsimp only
  rw [if_neg hwait, hexec]
  cases (duePass H stops roots plan due s).result <;> rfl

/-- **Every run goes so.** -/
theorem passes_goes (n due : Nat) (s : Session σ) :
    ∃ ps, Goes H stops roots plan interval n due s ps
      (passes H stops roots plan interval n due s) := by
  induction n generalizing due s with
  | zero => exact ⟨[], .used due s⟩
  | succ n ih =>
    by_cases hstart : stops.isRequested s.host = true
    · rw [passes, if_pos hstart]
      exact ⟨[], .stopped hstart⟩
    by_cases hwait : stops.isRequested (onHost (stops.wait due) s).host = true
    · rw [passes, if_neg hstart]
      dsimp only
      rw [if_pos hwait]
      exact ⟨[], .interrupted (Bool.eq_false_iff.mpr hstart) hwait⟩
    have hs : MayBegin stops due s := ⟨Bool.eq_false_iff.mpr hstart, Bool.eq_false_iff.mpr hwait⟩
    obtain ⟨ps, hrest⟩ := ih ((duePass H stops roots plan due s).now + interval)
      ((duePass H stops roots plan due s).after.behind s.trace)
    rw [passes_of_mayBegin H stops roots plan interval hs]
    dsimp only
    split
    · next f hresult =>
      split
      · next hf => exact ⟨_, .failed hs hresult hf⟩
      · next hf =>
        refine ⟨_, .next hs (fun f' hresult' ↦ ?_) hrest⟩
        rw [hresult] at hresult'
        rw [← Except.error.inj hresult', Bool.eq_false_iff]
        exact hf
    · next hresult =>
      refine ⟨_, .next hs (fun f' hresult' ↦ ?_) hrest⟩
      rw [hresult] at hresult'
      cases hresult'

end

section

variable {σ : Type} {H : Host σ} {stops : Stops σ} {roots : Roots} {plan : Plan}
  {interval n m due : Nat} {s : Session σ} {ps ps' : List (MadePass σ)} {run run' : Run σ}
  {p : MadePass σ} {pre post : List (MadePass σ)} {f : Failure}

/-! ### One pass after the other -/

theorem Goes.eq_duePass_of_head? (h : Goes H stops roots plan interval n due s ps run)
    (hp : p ∈ ps.head?) : p = duePass H stops roots plan due s := by
  cases h with
  | used | stopped | interrupted => simp at hp
  | failed | next => simpa [eq_comm] using hp

/-- Each pass begins with what the one before it has left. -/
theorem Goes.isChain (h : Goes H stops roots plan interval n due s ps run) :
    ps.IsChain fun p p' ↦ p' = duePass H stops roots plan (p.now + interval) p.after := by
  induction h with
  | used | stopped | interrupted => exact .nil
  | failed => exact .singleton _
  | next hs h hrest ih => exact List.isChain_cons.mpr ⟨fun p hp ↦ hrest.eq_duePass_of_head? hp, ih⟩

theorem Goes.exists_makePass (h : Goes H stops roots plan interval n due s ps run) (hp : p ∈ ps) :
    ∃ memory v, p = makePass H roots plan memory v := by
  induction h with
  | used | stopped | interrupted => simp at hp
  | failed => exact ⟨_, _, List.mem_singleton.mp hp⟩
  | next hs h hrest ih =>
    rcases List.mem_cons.mp hp with rfl | hp
    · exact ⟨_, _, rfl⟩
    · exact ih hp

theorem Goes.moments_eq (h : Goes H stops roots plan interval n due s ps run) :
    run.moments = ps.map MadePass.now := by
  induction h with
  | used | stopped | interrupted | failed => rfl
  | next hs h hrest ih => rw [List.map_cons, ← ih]

/-- The exchanges of a run are those of its passes, in order. -/
theorem Goes.trace_eq (h : Goes H stops roots plan interval n due s ps run) :
    run.session.trace = s.trace ++ exchanges ps := by
  induction h with
  | used | stopped | interrupted => simp [exchanges, onHost]
  | failed => simp [exchanges, onHost]
  | next hs h hrest ih => simpa [exchanges] using ih

/-- What a run leaves of the files and of the agent's memory is what its last pass leaves. -/
theorem Goes.store_eq (h : Goes H stops roots plan interval n due s ps run) :
    run.session.store = ((ps.getLast?.map MadePass.after).getD s).store := by
  induction h with
  | used | stopped | interrupted | failed => rfl
  | @next n due s ps run hs h hrest ih =>
    rw [List.getLast?_cons]
    rcases hlast : ps.getLast? with - | p
    · rw [hlast] at ih
      exact ih
    · rw [hlast] at ih
      exact ih

theorem Goes.not_isRequested (h : Goes H stops roots plan interval n due s ps run) (hp : p ∈ ps) :
    stops.isRequested p.before.host = false := by
  induction h with
  | used | stopped | interrupted => simp at hp
  | failed hs =>
    rw [List.mem_singleton.mp hp]
    exact hs.2
  | next hs h hrest ih =>
    rcases List.mem_cons.mp hp with rfl | hp
    · exact hs.2
    · exact ih hp

/-! ### What ends a run -/

theorem Goes.length_le (h : Goes H stops roots plan interval n due s ps run) : ps.length ≤ n := by
  induction h with
  | used | stopped | interrupted | failed => simp
  | next hs h hrest ih => simpa using ih

/-- A run that goes on has used up its bound. -/
theorem Goes.length_eq (h : Goes H stops roots plan interval n due s ps run)
    (hrun : run.outcome = .running) : ps.length = n := by
  induction h with
  | used => rfl
  | stopped | interrupted | failed => cases hrun
  | next hs h hrest ih => simpa using ih hrun

theorem Goes.ne_noInterval (h : Goes H stops roots plan interval n due s ps run) :
    run.outcome ≠ .noInterval := by
  induction h with
  | used | stopped | interrupted | failed => nofun
  | next hs h hrest ih => exact ih

theorem Goes.isRequested_of_stopped (h : Goes H stops roots plan interval n due s ps run)
    (hrun : run.outcome = .stopped) : stops.isRequested run.session.host = true := by
  induction h with
  | used | failed => cases hrun
  | stopped h => exact h
  | interrupted hs h => exact h
  | next hs h hrest ih => exact ih hrun

/-- A run stops only where a pass would have to begin and must not. -/
theorem Goes.not_mayBegin_of_stopped (h : Goes H stops roots plan interval n due s ps run)
    (hrun : run.outcome = .stopped) :
    ¬ MayBegin stops ((ps.getLast?.map fun p ↦ p.now + interval).getD due)
      ((ps.getLast?.map MadePass.after).getD s) := by
  induction h with
  | used | failed => cases hrun
  | stopped h => exact fun hs ↦ absurd h (Bool.eq_false_iff.mp hs.1)
  | interrupted _ h => exact fun hs ↦ absurd h (Bool.eq_false_iff.mp hs.2)
  | @next n due s ps run hs h hrest ih =>
    rw [List.getLast?_cons]
    rcases hlast : ps.getLast? with - | p
    · rw [hlast] at ih
      exact ih hrun
    · rw [hlast] at ih
      exact ih hrun

/-- **A run fails with the failure of its last pass**, if that is for good, and with no other. -/
theorem Goes.failed_iff (h : Goes H stops roots plan interval n due s ps run) :
    run.outcome = .failed f ↔
      ∃ (pre : List (MadePass σ)) (p : MadePass σ),
        ps = pre ++ [p] ∧ p.result = .error f ∧ f.isFatal = true := by
  induction h with
  | used | stopped | interrupted => simp
  | @failed n due s f' hs h hf =>
    constructor
    · rintro ⟨⟩
      exact ⟨[], _, rfl, h, hf⟩
    · rintro ⟨pre, p, hp, hresult, -⟩
      obtain ⟨-, rfl, -⟩ := singleton_eq_append_cons.mp hp
      rw [h] at hresult
      rw [Except.error.inj hresult]
  | @next n due s ps run hs h hrest ih =>
    rw [ih]
    constructor
    · rintro ⟨pre, p, rfl, hresult, hf⟩
      exact ⟨_ :: pre, p, rfl, hresult, hf⟩
    · rintro ⟨pre, p, hp, hresult, hf⟩
      rcases pre with - | ⟨q, pre⟩
      · obtain ⟨rfl, -⟩ := List.cons.inj hp
        rw [h f hresult] at hf
        cases hf
      · exact ⟨pre, p, (List.cons.inj hp).2, hresult, hf⟩

/-- A pass that fails for good is the last one. -/
theorem Goes.eq_nil_of_isFatal
    (h : Goes H stops roots plan interval n due s (pre ++ p :: post) run)
    (hresult : p.result = .error f) (hf : f.isFatal = true) : post = [] := by
  generalize hps : pre ++ p :: post = ps at h
  induction h generalizing pre with
  | used | stopped | interrupted => simp at hps
  | failed => exact (singleton_eq_append_cons.mp hps.symm).2.2
  | next hs h hrest ih =>
    rcases pre with - | ⟨q, pre⟩
    · obtain ⟨rfl, -⟩ := List.cons.inj hps
      rw [h f hresult] at hf
      cases hf
    · exact ih (List.cons.inj hps).2

theorem Goes.isRequested_of_failed (h : Goes H stops roots plan interval n due s ps run)
    (hstops : stops.Latches H) (hrun : run.outcome = .failed f) :
    stops.isRequested run.session.host = true := by
  induction h with
  | used | stopped | interrupted => cases hrun
  | failed => exact hstops.request _
  | next hs h hrest ih => exact ih hrun

/-- From a session in which a stop was requested no pass is made. -/
theorem Goes.eq_nil_of_isRequested (h : Goes H stops roots plan interval n due s ps run)
    (hs : stops.isRequested s.host = true) :
    ps = [] ∧ (0 < n → run.outcome = .stopped) := by
  have hnot (h : MayBegin stops due s) : False := by
    rw [h.1] at hs
    cases hs
  cases h with
  | used => exact ⟨rfl, fun h ↦ absurd h (Nat.lt_irrefl 0)⟩
  | stopped | interrupted => exact ⟨rfl, fun _ ↦ rfl⟩
  | failed h => exact (hnot h).elim
  | next h => exact (hnot h).elim

/-- **A stop that was requested by the end of a pass makes it the last one**; the run then stops,
unless that pass fails for good. -/
theorem Goes.stop (h : Goes H stops roots plan interval n due s (pre ++ p :: post) run)
    (hp : stops.isRequested p.after.host = true) :
    post = [] ∧ ((pre ++ [p]).length < n → (∀ f, p.result = .error f → f.isFatal = false) →
      run.outcome = .stopped) := by
  generalize hps : pre ++ p :: post = ps at h
  induction h generalizing pre with
  | used | stopped | interrupted => simp at hps
  | failed hs h hf =>
    obtain ⟨rfl, rfl, rfl⟩ := singleton_eq_append_cons.mp hps.symm
    refine ⟨rfl, fun _ hnot ↦ ?_⟩
    rw [hnot _ h] at hf
    cases hf
  | next hs h hrest ih =>
    rcases pre with - | ⟨q, pre⟩
    · obtain ⟨rfl, rfl⟩ := List.cons.inj hps
      obtain ⟨hnil, hstopped⟩ := hrest.eq_nil_of_isRequested hp
      exact ⟨hnil, fun hlt _ ↦ hstopped (by simpa using hlt)⟩
    · obtain ⟨hnil, hstopped⟩ := ih (List.cons.inj hps).2
      exact ⟨hnil, fun hlt ↦ hstopped (by simpa using hlt)⟩

/-! ### Larger bounds -/

/-- **A run with a larger bound begins with the same passes.** -/
theorem Goes.take (h : Goes H stops roots plan interval n due s ps run)
    (h' : Goes H stops roots plan interval m due s ps' run') (hnm : n ≤ m) : ps = ps'.take n := by
  -- Where both go on they begin with the same pass; any other pair of endings contradicts itself.
  induction h generalizing m ps' run' with
  | used => simp
  | stopped h => rw [(h'.eq_nil_of_isRequested h).1, List.take_nil]
  | interrupted hs h =>
    cases h' with
    | used => exact absurd hnm (Nat.not_succ_le_zero _)
    | stopped | interrupted => rfl
    | failed hs' | next hs' =>
      rw [hs'.2] at h
      cases h
  | failed hs h hf =>
    cases h' with
    | used => exact absurd hnm (Nat.not_succ_le_zero _)
    | stopped h' =>
      rw [hs.1] at h'
      cases h'
    | interrupted _ h' =>
      rw [hs.2] at h'
      cases h'
    | failed => rw [List.take_succ_cons, List.take_nil]
    | next _ h' =>
      rw [h' _ h] at hf
      cases hf
  | next hs h hrest ih =>
    cases h' with
    | used => exact absurd hnm (Nat.not_succ_le_zero _)
    | stopped h' =>
      rw [hs.1] at h'
      cases h'
    | interrupted _ h' =>
      rw [hs.2] at h'
      cases h'
    | failed _ h' hf =>
      rw [h _ h'] at hf
      cases hf
    | next _ _ hrest' => rw [List.take_succ_cons, ← ih hrest' (Nat.le_of_succ_le_succ hnm)]

/-- A run that has ended is the same for a larger bound. -/
theorem Goes.mono (h : Goes H stops roots plan interval n due s ps run)
    (hrun : run.outcome ≠ .running) (hnm : n ≤ m) :
    Goes H stops roots plan interval m due s ps run := by
  induction h generalizing m with
  | used => exact absurd rfl hrun
  | stopped h =>
    obtain ⟨m, rfl⟩ := Nat.exists_eq_add_one_of_ne_zero (Nat.ne_zero_of_lt hnm)
    exact .stopped h
  | interrupted hs h =>
    obtain ⟨m, rfl⟩ := Nat.exists_eq_add_one_of_ne_zero (Nat.ne_zero_of_lt hnm)
    exact .interrupted hs h
  | failed hs h hf =>
    obtain ⟨m, rfl⟩ := Nat.exists_eq_add_one_of_ne_zero (Nat.ne_zero_of_lt hnm)
    exact .failed hs h hf
  | next hs h hrest ih =>
    obtain ⟨m, rfl⟩ := Nat.exists_eq_add_one_of_ne_zero (Nat.ne_zero_of_lt hnm)
    exact .next hs h (ih hrun (Nat.le_of_succ_le_succ hnm))

/-- There is no other way for a run to go. -/
theorem Goes.eq_passes (h : Goes H stops roots plan interval n due s ps run) :
    run = passes H stops roots plan interval n due s := by
  induction h with
  | used => rfl
  | stopped h => rw [passes, if_pos h]
  | interrupted hs h =>
    rw [passes, if_neg (by simp [hs])]
    exact (if_pos h).symm
  | failed hs h hf =>
    rw [passes_of_mayBegin H stops roots plan interval hs]
    dsimp only
    rw [h]
    exact (if_pos hf).symm
  | next hs h hrest ih =>
    rw [passes_of_mayBegin H stops roots plan interval hs]
    dsimp only
    rw [← ih]
    split
    · next f hresult => rw [if_neg (by simp [h f hresult])]
    · rfl

end

/-! ### The account of a run -/

section

variable {σ : Type}

/-- The account of a run that makes at most as many passes as the bound: the passes that it makes,
how each of them begins, and how the run ends. -/
structure Recounts (H : Host σ) (stops : Stops σ) (roots : Roots) (plan : Plan)
    (interval bound : Nat) (s : Session σ) (ps : List (MadePass σ)) (run : Run σ) : Prop where
  /-- There are no more passes than there may be. -/
  length_le : ps.length ≤ bound
  /-- The first pass is due at once. -/
  first : ∀ p ∈ ps.head?, p = duePass H stops roots plan 0 s
  /-- Each further pass is due an interval after the one before it began, and begins with what that
  one has left, whatever its result is. -/
  next : ps.IsChain fun p p' ↦ p' = duePass H stops roots plan (p.now + interval) p.after
  /-- The moments of the run are those of its passes. -/
  moments : run.moments = ps.map MadePass.now
  /-- Its exchanges are those of its passes, one pass after the other. -/
  trace : run.session.trace = s.trace ++ exchanges ps
  /-- It leaves the files and the memory that its last pass has left. -/
  store : run.session.store = ((ps.getLast?.map MadePass.after).getD s).store
  /-- No pass begins when a stop was requested. -/
  begins : ∀ p ∈ ps, stops.isRequested p.before.host = false
  /-- A pass during which a stop was requested is the last one; the run stops then, unless the pass
  has told that the DHCP server has ended. -/
  stop : ∀ pre (p : MadePass σ) post t u k, ps = pre ++ p :: post → p.after.trace = t ++ u →
    Leads H t p.before.host k → stops.isRequested k = true →
    post = [] ∧ (ps.length < bound →
      (∀ status, p.result ≠ .error (.dhcpServerExited status)) → run.outcome = .stopped)
  /-- A pass that tells that the DHCP server has ended is the last one, and a stop was requested at
  the end. -/
  exited : ∀ pre (p : MadePass σ) post status, ps = pre ++ p :: post →
    p.result = .error (.dhcpServerExited status) →
    post = [] ∧ run.outcome = .failed (.dhcpServerExited status) ∧
      stops.isRequested run.session.host = true
  /-- The run fails only so. -/
  failed : ∀ f, run.outcome = .failed f →
    ∃ p ∈ ps, p.result = .error f ∧ ∃ status, f = .dhcpServerExited status
  /-- It stops only if a stop was requested before the next pass could begin. -/
  stopped : run.outcome = .stopped → stops.isRequested run.session.host = true ∧
    ¬ MayBegin stops ((ps.getLast?.map fun p ↦ p.now + interval).getD 0)
      ((ps.getLast?.map MadePass.after).getD s)
  /-- Otherwise it makes as many passes as it may. -/
  running : run.outcome ≠ .stopped → (∀ f, run.outcome ≠ .failed f) →
    run.outcome = .running ∧ ps.length = bound
  /-- In external mode no run fails. -/
  external : ∀ m, plan.mode = .external m → ∀ f, run.outcome ≠ .failed f

variable {H : Host σ} {stops : Stops σ} {roots : Roots} {plan : Plan} {interval bound : Nat}
  {s : Session σ} {ps : List (MadePass σ)} {run : Run σ}

/-- **A run that goes on in this way** has this account. -/
theorem Goes.recounts (hstops : stops.Latches H)
    (h : Goes H stops roots plan interval bound 0 s ps run) :
    Recounts H stops roots plan interval bound s ps run where
  length_le := h.length_le
  first p hp := h.eq_duePass_of_head? hp
  next := h.isChain
  moments := h.moments_eq
  trace := h.trace_eq
  store := h.store_eq
  begins p hp := h.not_isRequested hp
  stop pre p post t u k hps ht hlead hk := by
    subst hps
    -- What was requested along the way is still requested when the pass ends.
    have hend : stops.isRequested p.after.host = true := by
      obtain ⟨memory, v, rfl⟩ := h.exists_makePass (p := p) (by simp)
      have hall := makePass_leads H roots plan memory v
      rw [ht] at hall
      obtain ⟨k', hlead', hrest⟩ := leads_append_iff.mp hall
      obtain rfl := hlead.unique hlead'
      exact hstops.leads hrest hk
    obtain ⟨rfl, hstopped⟩ := h.stop hend
    refine ⟨rfl, fun hlt hresult ↦ hstopped hlt fun f hf ↦ ?_⟩
    rw [Bool.eq_false_iff]
    intro hfatal
    obtain ⟨status, rfl⟩ := Failure.exists_eq_of_isFatal hfatal
    exact hresult status hf
  exited pre p post status hps hresult := by
    subst hps
    obtain rfl := h.eq_nil_of_isFatal hresult rfl
    have hfailed : run.outcome = .failed (.dhcpServerExited status) :=
      h.failed_iff.mpr ⟨pre, p, rfl, hresult, rfl⟩
    exact ⟨rfl, hfailed, h.isRequested_of_failed hstops hfailed⟩
  failed f hf := by
    obtain ⟨pre, p, rfl, hresult, hfatal⟩ := h.failed_iff.mp hf
    exact ⟨p, by simp, hresult, Failure.exists_eq_of_isFatal hfatal⟩
  stopped hrun := ⟨h.isRequested_of_stopped hrun, h.not_mayBegin_of_stopped hrun⟩
  running hstopped hfailed := by
    have hrunning : run.outcome = .running := by
      cases houtcome : run.outcome with
      | running => rfl
      | stopped => exact absurd houtcome hstopped
      | failed f => exact absurd houtcome (hfailed f)
      | noInterval => exact absurd houtcome h.ne_noInterval
    exact ⟨hrunning, h.length_eq hrunning⟩
  external m hmode f hf := by
    obtain ⟨pre, p, rfl, hresult, hfatal⟩ := h.failed_iff.mp hf
    obtain ⟨status, rfl⟩ := Failure.exists_eq_of_isFatal hfatal
    obtain ⟨memory, v, rfl⟩ := h.exists_makePass (p := p) (by simp)
    exact mode_ne_internal hmode (makePass_exited H roots hresult).2

/-- **The account of a run**: at any interval, all bounds have accounts of the same run, so the
passes up to a bound are the first ones up to any larger bound, and a run that has ended is over. -/
theorem run_recounts (roots : Roots) (plan : Plan) (hstops : stops.Latches H)
    (hinterval : 0 < interval) (s : Session σ) :
    ∃ ps : Nat → List (MadePass σ), ∀ bound,
      Recounts H stops roots plan interval bound s (ps bound)
        (Schedule.run H stops roots plan interval bound s) ∧
      ∀ more, ps bound = (ps (bound + more)).take bound ∧
        ((Schedule.run H stops roots plan interval bound s).outcome ≠ .running →
          Schedule.run H stops roots plan interval (bound + more) s =
            Schedule.run H stops roots plan interval bound s) := by
  have hrun (bound : Nat) : Schedule.run H stops roots plan interval bound s =
      passes H stops roots plan interval bound 0 s := if_neg (Nat.ne_of_gt hinterval)
  choose ps hps using fun bound ↦ passes_goes H stops roots plan interval bound 0 s
  simp only [hrun]
  refine ⟨ps, fun bound ↦ ⟨(hps bound).recounts hstops, fun more ↦ ⟨?_, fun hend ↦ ?_⟩⟩⟩
  · exact (hps bound).take (hps (bound + more)) (Nat.le_add_right bound more)
  · exact ((hps bound).mono hend (Nat.le_add_right bound more)).eq_passes.symm

end

/-! ### Stops by a script -/

theorem stopped_reply (line : String) (k : Script) : (k.reply line).2.stopped = k.stopped := by
  rw [Script.reply]
  split <;> rfl

theorem stopped_clusterFault (k : Script) : k.clusterFault.2.stopped = k.stopped := by
  rw [Script.clusterFault]
  split <;> rfl

theorem stopped_withLabels (name : String) (labels : Labels) (k : Script) :
    (k.withLabels name labels).stopped = k.stopped := by
  rw [Script.withLabels]
  split <;> rfl

/-- A script takes no stop back. -/
theorem latches_scriptedStops : scriptedStops.Latches scriptedHost where
  request _ := rfl
  keeps {e k k'} he hk := by
    have hk : k.stopped = true := hk
    have hstopped {α : Type} {r : α × Script} {answer : α} (h : r = (answer, k'))
        (hr : r.2.stopped = true) : scriptedStops.isRequested k' = true := by
      rw [h] at hr
      exact hr
    cases e with
    | run c answer => exact hstopped he ((stopped_reply c.text k).trans hk)
    | start c answer => exact hstopped he ((stopped_reply _ k).trans hk)
    | childState answer => exact hstopped he hk
    | getNode name answer =>
      have hcount : k.countRead.stopped = true := by simp [Script.countRead, hk]
      have hfault := (stopped_clusterFault k.countRead).trans hcount
      refine hstopped he ?_
      simp only [scriptedHost]
      split <;> next h => simpa [h] using hfault
    | applyLabels name labels answer =>
      have hfault := (stopped_clusterFault k).trans hk
      refine hstopped he ?_
      simp only [scriptedHost]
      split
      · next h => simpa [h] using hfault
      · next h => simpa [h, stopped_withLabels] using hfault
    | readDevice path answer => exact hstopped he hk

/-- A session on a host on which the DHCP server ends after the second pass. -/
def endingSession : Session Script :=
  let v := serverVisit (.output "") (.ok .running)
  { host := { v.host with children := [.ok .running, .ok (.exited (.code 1))] }
    files := v.files
    memory := staticPlan.memory }

/-- The server is started in the first pass, runs in the second one and has ended in the third one,
which is the last. -/
theorem run_recounts_threePasses :
    ∃ ps, Recounts scriptedHost scriptedStops {} staticPlan 1000 10 endingSession ps
        (Schedule.run scriptedHost scriptedStops {} staticPlan 1000 10 endingSession) ∧
      ps.length = 3 ∧
      ∀ more, (Schedule.run scriptedHost scriptedStops {} staticPlan 1000 (10 + more)
        endingSession).outcome = .failed (.dhcpServerExited (.code 1)) := by
  obtain ⟨ps, hps⟩ :=
    run_recounts {} staticPlan latches_scriptedStops (by decide : 0 < 1000) endingSession
  obtain ⟨hrecounts, hlater⟩ := hps 10
  have hrun : (Schedule.run scriptedHost scriptedStops {} staticPlan 1000 10
      endingSession).moments = [0, 1000, 2000] ∧
      (Schedule.run scriptedHost scriptedStops {} staticPlan 1000 10 endingSession).outcome =
        .failed (.dhcpServerExited (.code 1)) := by decide +kernel
  refine ⟨ps 10, hrecounts, ?_, fun more ↦ ?_⟩
  · have hlength := congrArg List.length (hrecounts.moments.symm.trans hrun.1)
    simpa using hlength
  · rw [(hlater more).2 (by rw [hrun.2]; nofun), hrun.2]

end Schedule

end DpuNetwork
