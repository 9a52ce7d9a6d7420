/-!
# Limiting how often something is done

A throttle remembers the moment of the last action and tells whether the next one may follow.
Moments and durations are milliseconds on one time line, which may run backwards; time that would be
negative counts as none. Readiness and the time that remains describe the same boundary
(`isReady_iff_remaining_eq_zero`).
-/

namespace DpuNetwork

/-- A limit of one action per cooldown. -/
structure Throttle where
  /-- The least time between two actions. -/
  cooldown : Nat
  /-- The moment of the last action. -/
  last : Option Nat := none
  deriving DecidableEq

namespace Throttle

/-- The time since the last action. -/
def elapsed (last now : Nat) : Nat := now - last

/-- Whether the action may be done now. The first one always may. -/
def isReady (t : Throttle) (now : Nat) : Bool :=
  match t.last with
  | none => true
  | some last => t.cooldown ≤ elapsed last now

/-- The throttle after an action, whatever its outcome. -/
def record (t : Throttle) (now : Nat) : Throttle := { t with last := some now }

/-- The time until the action may be done again. -/
def remaining (t : Throttle) (now : Nat) : Nat :=
  match t.last with
  | none => 0
  | some last => t.cooldown - elapsed last now

/-- An action may be done exactly when no time remains. -/
theorem isReady_iff_remaining_eq_zero (t : Throttle) (now : Nat) :
    t.isReady now = true ↔ t.remaining now = 0 := by
  obtain ⟨c, last⟩ := t
  cases last with
  | none => simp [isReady, remaining]
  | some last => simp [isReady, remaining, Nat.sub_eq_zero_iff_le]

end Throttle

end DpuNetwork
