import DpuNetwork.Throttle

/-!
# The time that remains

What a throttle tells after actions at any moments (`Throttle.recorded`). They may come in any
order, since the clock may step back; the throttle goes by the one that was recorded last. Before
that moment the full cooldown remains, from it on the remaining time runs down with the clock, and
the throttle is ready when nothing is left of it.

## Main statements

* `recorded_eq`: of all recorded moments only the last one is remembered;
* `runsDown_recorded`: readiness and remaining time at every moment.
-/

namespace DpuNetwork.Throttle

variable {t : Throttle} {last now : Nat}

/-! ### Recording -/

/-- The throttle after actions at some moments, in the order in which they were recorded. -/
def recorded (cooldown : Nat) (moments : List Nat) : Throttle :=
  moments.foldl record { cooldown }

/-- Of several moments the last one is recorded, by induction on them. -/
theorem foldl_record (t : Throttle) (moments : List Nat) :
    moments.foldl record t = { t with last := moments.getLast?.or t.last } := by
  induction moments generalizing t with
  | nil => rfl
  | cons q moments ih =>
    rw [List.foldl_cons, ih, List.getLast?_cons]
    cases moments.getLast? <;> rfl

/-- **Only the last moment counts**, whatever was recorded before it. -/
theorem recorded_eq (cooldown : Nat) (moments : List Nat) :
    recorded cooldown moments = { cooldown, last := moments.getLast? } := by
  rw [recorded, foldl_record, Option.or_none]

/-! ### At one moment -/

/-- The time that remains; a clock that was set back has let no time pass. -/
theorem remaining_eq (h : t.last = some last) (now : Nat) :
    t.remaining now = t.cooldown - (now - last) := by
  rw [remaining, h]
  rfl

/-- It is never longer than the cooldown. -/
theorem remaining_le_cooldown (t : Throttle) (now : Nat) : t.remaining now ≤ t.cooldown := by
  cases h : t.last with
  | none => simp [remaining, h]
  | some last =>
    rw [remaining_eq h]
    exact Nat.sub_le _ _

/-- Time that would be negative counts as none, so nothing of the cooldown has passed. -/
theorem remaining_of_le (h : t.last = some last) (hnow : now ≤ last) :
    t.remaining now = t.cooldown := by
  rw [remaining_eq h, Nat.sub_eq_zero_of_le hnow, Nat.sub_zero]

/-! ### As time goes by -/

/-- From the last action on, the remaining time runs down with the clock. -/
theorem remaining_add (h : t.last = some last) (hnow : last ≤ now) (delay : Nat) :
    t.remaining (now + delay) = t.remaining now - delay := by
  rw [remaining_eq h, remaining_eq h, Nat.sub_add_comm hnow, Nat.sub_sub]

/-- With a clock that runs forward, the cooldown is over when it has passed. -/
theorem isReady_iff_of_le (h : t.last = some last) (hnow : last ≤ now) :
    t.isReady now = true ↔ last + t.cooldown ≤ now := by
  rw [isReady_iff_remaining_eq_zero, remaining_eq h, Nat.sub_eq_zero_iff_le, Nat.add_comm,
    Nat.le_sub_iff_add_le hnow]

/-- What a throttle tells at every moment, by its cooldown and the moment of the last action. -/
structure RunsDown (t : Throttle) (cooldown : Nat) (last : Option Nat) : Prop where
  /-- It is ready exactly when no time remains. -/
  ready_iff : ∀ now, t.isReady now = true ↔ t.remaining now = 0
  /-- Never more than the cooldown remains. -/
  remaining_le : ∀ now, t.remaining now ≤ cooldown
  /-- Without an action it is ready, and no time remains. -/
  fresh : last = none → ∀ now, t.isReady now = true ∧ t.remaining now = 0
  /-- Before the last action the full cooldown remains. -/
  before : ∀ q, last = some q → ∀ now < q, t.remaining now = cooldown
  /-- From the last action on, the remaining time runs down with the clock and stops at zero. -/
  runs : ∀ q, last = some q → ∀ now, q ≤ now → ∀ delay,
    t.remaining (now + delay) = t.remaining now - delay
  /-- From the last action on, a throttle that is ready stays so. -/
  stays : ∀ q, last = some q → ∀ now now', q ≤ now → now ≤ now' → t.isReady now = true →
    t.isReady now' = true
  /-- It becomes ready when the cooldown has passed since the last action, and not before. -/
  ready_since : ∀ q, last = some q → ∀ now, q ≤ now →
    (t.isReady now = true ↔ q + cooldown ≤ now)

/-- **Readiness and remaining time**, for every cooldown, after any actions and at every moment. -/
theorem runsDown_recorded (cooldown : Nat) (moments : List Nat) :
    RunsDown (recorded cooldown moments) cooldown moments.getLast? := by
  rw [recorded_eq]
  refine ⟨isReady_iff_remaining_eq_zero _, remaining_le_cooldown _, fun hlast now ↦ ?_,
    fun q hlast now hnow ↦ remaining_of_le hlast (Nat.le_of_lt hnow),
    fun q hlast now hnow delay ↦ remaining_add hlast hnow delay,
    fun q hlast now now' hnow hlater hready ↦ ?_,
    fun q hlast now hnow ↦ isReady_iff_of_le hlast hnow⟩
  · rw [hlast]
    exact ⟨rfl, rfl⟩
  · obtain ⟨delay, rfl⟩ := Nat.exists_eq_add_of_le hlater
    rw [isReady_iff_remaining_eq_zero] at hready ⊢
    rw [remaining_add hlast hnow, hready, Nat.zero_sub]

/-- The clock has stepped back between two actions; the later one counts. -/
example : (recorded 120 [100, 40]).remaining 30 = 120 ∧
    (recorded 120 [100, 40]).remaining 100 = 60 ∧
    (recorded 120 [100, 40]).isReady 159 = false ∧
    (recorded 120 [100, 40]).isReady 160 = true := by decide

end DpuNetwork.Throttle
