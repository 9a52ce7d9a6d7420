import DpuNetwork.Pass.Convergence

/-!
# How a pass is run

What each operation of a pass gives and how it leaves the session, for every host. A request leaves
everything in place but the state of the host and the trace (`Session.told`), so what a longer pass
does is found by running its parts one after the other (`exec_bind`), and a pass succeeds exactly
when its parts do (`exec_bind_eq_ok_iff`).

Nothing outside this module unfolds the operations. The lemmas give the result and the session of
each operation in terms of the host's answer, in the order of the program: sequencing, requests,
files and memory. Each request has one lemma, and each answer is taken apart in it once, so that
the steps of a pass are only put together from these.

A failure does not undo anything: behind it the session is the one that the failed operation left.

## Main statements

* `exec_bind`: a sequence is run part by part;
* `exec_bind_eq_ok_iff`: it succeeds exactly when its parts do;
* `exec_run`, `exec_start`, `exec_getNode` and their companions: one for each request.
-/

namespace DpuNetwork

/-- The session after an exchange that left the host in a state. -/
def Session.told {σ : Type} (s : Session σ) (host : σ) (e : Exchange) : Session σ :=
  { s with host, trace := s.trace ++ [e] }

namespace Session

variable {σ : Type} (s : Session σ) (host : σ) (e : Exchange)

/-- The host is in the state in which the request left it. -/
@[simp] theorem told_host : (s.told host e).host = host := rfl

/-- A request leaves the files in place. -/
@[simp] theorem told_files : (s.told host e).files = s.files := rfl

/-- A request leaves what is remembered in place. -/
@[simp] theorem told_memory : (s.told host e).memory = s.memory := rfl

/-- The exchange stands at the end of the trace. -/
@[simp] theorem told_trace : (s.told host e).trace = s.trace ++ [e] := rfl

end Session

/-- A result is known once its value is. -/
theorem eq_ok_of_toOption {ε α : Type} {r : Except ε α} {a : α} (h : r.toOption = some a) :
    r = .ok a := by
  cases r with
  | error e => cases h
  | ok b => exact congrArg Except.ok (Option.some.inj h)

/-- There is no fault to be reworded in a success. -/
@[simp] theorem mapError_ok {ε ε' α : Type} (f : ε → ε') (a : α) :
    (Except.ok a : Except ε α).mapError f = .ok a := rfl

/-- A fault is reworded. -/
@[simp] theorem mapError_error {ε ε' α : Type} (f : ε → ε') (e : ε) :
    (Except.error e : Except ε α).mapError f = .error (f e) := rfl

namespace Pass

variable {σ α β : Type}

/-! ### Sequencing -/

/-- What does nothing leaves the session as it is. -/
@[simp] theorem exec_pure (a : α) (s : Session σ) : (pure a : Pass σ α).exec s = (.ok a, s) := rfl

/-- A failure leaves the session as it is, too: nothing is undone. -/
@[simp] theorem exec_throw (f : Failure) (s : Session σ) :
    (throw f : Pass σ α).exec s = (.error f, s) := rfl

/-- The second part is run from where the first one succeeded; a failure ends the pass there. -/
theorem exec_bind (p : Pass σ α) (f : α → Pass σ β) (s : Session σ) :
    (p >>= f).exec s =
      match p.exec s with
      | (.ok a, s') => (f a).exec s'
      | (.error e, s') => (.error e, s') := by
  show ExceptT.bindCont f (p.exec s).1 (p.exec s).2 = _
  rcases p.exec s with ⟨r | r, s'⟩ <;> rfl

/-- Behind a success the second part is run. -/
theorem exec_bind_of_ok {p : Pass σ α} {s s' : Session σ} {a : α} (h : p.exec s = (.ok a, s'))
    (f : α → Pass σ β) : (p >>= f).exec s = (f a).exec s' := by
  rw [exec_bind, h]

/-- A pass succeeds exactly when its parts do. -/
theorem exec_bind_eq_ok_iff {p : Pass σ α} {f : α → Pass σ β} {s s' : Session σ} {b : β} :
    (p >>= f).exec s = (.ok b, s') ↔
      ∃ a s₁, p.exec s = (.ok a, s₁) ∧ (f a).exec s₁ = (.ok b, s') := by
  rw [exec_bind]
  constructor
  -- The first part cannot have failed, so it gave some `a` in some session `s₁`.
  · intro h
    rcases hp : p.exec s with ⟨e | a, s₁⟩
    · simp [hp] at h
    · exact ⟨a, s₁, rfl, by simpa [hp] using h⟩
  · rintro ⟨a, s₁, hp, hf⟩
    rw [hp]
    exact hf

/-- Two passes are the same when they run alike from every session. -/
theorem ext {p q : Pass σ α} (h : ∀ s, p.exec s = q.exec s) : p = q := funext h

/-! ### Requests -/

variable (H : Host σ) (s : Session σ)

/-- A result that is at hand is handed on. -/
@[simp] theorem exec_lift (r : Except Failure α) : (lift r : Pass σ α).exec s = (r, s) := by
  cases r <;> rfl

/-- A request is put to the host, and answered. -/
theorem exec_request (ask : σ → α × σ) (record : α → Exchange) :
    (request ask record).exec s =
      (.ok (ask s.host).1, s.told (ask s.host).2 (record (ask s.host).1)) := rfl

/-- A program is run: its output, or the failure with its command. -/
theorem exec_run (c : Command) :
    (run H c).exec s =
      ((H.run c s.host).1.mapError (RunFault.toFailure c),
        s.told (H.run c s.host).2 (.run c (H.run c s.host).1)) := by
  rw [run, exec_bind, exec_request]
  cases (H.run c s.host).1 <;> rfl

/-- A program is run for its effect, so its output is dropped. -/
theorem exec_perform (c : Command) :
    (perform H c).exec s =
      (((H.run c s.host).1.mapError (RunFault.toFailure c)).map fun _ ↦ (),
        s.told (H.run c s.host).2 (.run c (H.run c s.host).1)) := by
  rw [perform, exec_bind, exec_run]
  cases (H.run c s.host).1 <;> rfl

/-- A program is started in the background, or it could not be started. -/
theorem exec_start (c : Command) :
    (start H c).exec s =
      (if (H.start c s.host).1 then .ok () else .error (.spawn c.text),
        s.told (H.start c s.host).2 (.start c (H.start c s.host).1)) := by
  rw [start, exec_bind, exec_request]
  cases (H.start c s.host).1 <;> rfl

/-- The state of the program in the background is asked for. -/
theorem exec_childState :
    (childState H).exec s =
      ((H.childState s.host).1.mapError ChildFault.toFailure,
        s.told (H.childState s.host).2 (.childState (H.childState s.host).1)) := by
  rw [childState, exec_bind, exec_request]
  cases (H.childState s.host).1 <;> rfl

/-- A node is read; that there is none is no failure yet. -/
theorem exec_getNode (name : String) :
    (getNode H name).exec s =
      ((H.getNode name s.host).1.mapError ClusterFault.toFailure,
        s.told (H.getNode name s.host).2 (.getNode name (H.getNode name s.host).1)) := by
  rw [getNode, exec_bind, exec_request]
  cases (H.getNode name s.host).1 <;> rfl

/-- Labels are put on a node. -/
theorem exec_applyLabels (name : String) (l : Labels) :
    (applyLabels H name l).exec s =
      ((H.applyLabels name l s.host).1.mapError ClusterFault.toFailure,
        s.told (H.applyLabels name l s.host).2
          (.applyLabels name l (H.applyLabels name l s.host).1)) := by
  rw [applyLabels, exec_bind, exec_request]
  cases (H.applyLabels name l s.host).1 <;> rfl

/-- A device file is read; a file that is not there fails the pass. -/
theorem exec_readDevice (path : String) :
    (readDevice H path).exec s =
      (match (H.readDevice path s.host).1 with
        | some text => .ok text
        | none => .error (.file .read path),
        s.told (H.readDevice path s.host).2 (.readDevice path (H.readDevice path s.host).1)) := by
  rw [readDevice, exec_bind, exec_request]
  cases (H.readDevice path s.host).1 <;> rfl

/-! ### Files and memory -/

/-- A file is replaced. The files are left as the replacement leaves them, also when it fails. -/
theorem exec_replaceFile (path text : String) :
    (replaceFile path text : Pass σ Bool).exec s =
      ((s.files.replace path text).1.mapError fun e ↦ .file e.1 e.2,
        { s with files := (s.files.replace path text).2 }) := by
  rw [replaceFile, exec_bind]
  show exec (do
    set { s with files := (s.files.replace path text).2 }
    ofExcept _ (s.files.replace path text).1) s = _
  rw [exec_bind]
  cases (s.files.replace path text).1 <;> rfl

/-- What is remembered is read. -/
@[simp] theorem exec_remembered : (remembered : Pass σ Memory).exec s = (.ok s.memory, s) := rfl

/-- What is remembered is changed. -/
@[simp] theorem exec_remember (f : Memory → Memory) :
    (remember f : Pass σ Unit).exec s = (.ok (), { s with memory := f s.memory }) := rfl

/-- The application is issued once if the throttle is ready, whatever comes of it. -/
theorem exec_applyThrottled (now : Nat) :
    (applyThrottled H now).exec s =
      if s.memory.throttle.isReady now then
        (perform H applyBridgeDefinition).exec
          { s with memory := { s.memory with throttle := s.memory.throttle.record now } }
      else (.ok (), s) := by
  rw [applyThrottled, exec_bind, exec_remembered]
  dsimp only
  split
  · rw [exec_bind, exec_remember]
  · rfl

end Pass

end DpuNetwork
