import DpuNetwork.Pass.Convergence

/-!
# Passes at intervals

The agent makes a pass at once and then one at every interval, until a stop is requested or a pass
fails for good; any other failure is left to the next pass. A stop can be requested at any time,
during a pass or in the time between two passes, and a pass that has begun is finished. A pass that
begins late puts off the ones after it: the next one is due an interval after it began.

`Schedule.run` is bounded by a number of passes. Its outcome tells a run that ended from one that
has used up the bound, so a statement about all runs is one about all bounds.
-/

namespace DpuNetwork

/-- How a run of passes ends. -/
inductive RunOutcome where
  /-- It goes on. -/
  | running
  /-- A stop was requested. -/
  | stopped
  /-- A pass failed for good. -/
  | failed (f : Failure)
  /-- There is no time between passes. -/
  | noInterval
  deriving DecidableEq

/-- How the report of a run that failed for good begins. -/
def fatalReport (f : Failure) : String :=
  "unrecoverable provisioning failure, exiting: " ++ f.message

/-- A run of passes: how it ended, the moments at which passes began, and the session at its end. -/
structure Run (σ : Type) where
  /-- How it ended. -/
  outcome : RunOutcome
  /-- The moments at which passes began. -/
  moments : List Nat
  /-- The session at the end. -/
  session : Session σ

namespace Schedule

variable {σ : Type} (H : Host σ) (stops : Stops σ) (roots : Roots) (plan : Plan)

/-- The session with another state of the host. -/
def onHost (f : σ → σ) (s : Session σ) : Session σ := { s with host := f s.host }

/-- Makes passes from the moment on at which one is due, at most as many as the bound. -/
def passes (interval : Nat) : Nat → Nat → Session σ → Run σ
  | 0, _, s => ⟨.running, [], s⟩
  | n + 1, due, s =>
    if stops.isRequested s.host then ⟨.stopped, [], s⟩
    else
      let s := onHost (stops.wait due) s
      if stops.isRequested s.host then ⟨.stopped, [], s⟩
      else
        let now := stops.clock due s.host
        match (Pass.converge H roots plan now).exec s with
        | (.error f, s) =>
          if f.isFatal then ⟨.failed f, [now], onHost stops.request s⟩
          else
            let rest := passes interval n (now + interval) s
            { rest with moments := now :: rest.moments }
        | (.ok (), s) =>
          let rest := passes interval n (now + interval) s
          { rest with moments := now :: rest.moments }

/-- A run of passes at an interval, at most as many as the bound. Without time between passes there
is no run. -/
def run (interval bound : Nat) (s : Session σ) : Run σ :=
  if interval = 0 then ⟨.noInterval, [], s⟩ else passes H stops roots plan interval bound 0 s

end Schedule

end DpuNetwork
