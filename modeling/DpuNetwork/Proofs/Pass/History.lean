import DpuNetwork.Proofs.Pass.Respects

/-!
# Histories

The passes that one agent makes, one after the other. From pass to pass the agent carries over what
it remembers and nothing else: whatever time it is, whatever state the host is in and whatever files
there are when a pass begins, is a circumstance of that pass (`Visit`). A statement about all
histories therefore covers clocks that step back and every change between two passes.
-/

namespace DpuNetwork

/-- The circumstances of a pass. -/
structure Visit (σ : Type) where
  /-- The reading of the clock. -/
  now : Nat
  /-- The state of the host. -/
  host : σ
  /-- The files. -/
  files : FileTree

/-- A pass that was made. -/
structure MadePass (σ : Type) where
  /-- The reading of the clock. -/
  now : Nat
  /-- The session that it began in, with nothing exchanged yet. -/
  before : Session σ
  /-- What came of it. -/
  result : Except Failure Unit
  /-- The session that it ended in. -/
  after : Session σ

section

variable {σ : Type} (H : Host σ) (roots : Roots) (plan : Plan)

/-- The pass made in some circumstances by an agent that remembers something. -/
def makePass (memory : Memory) (v : Visit σ) : MadePass σ :=
  let before : Session σ := { host := v.host, files := v.files, memory }
  let (result, after) := (Pass.converge H roots plan v.now).exec before
  { now := v.now, before, result, after }

@[simp] theorem makePass_now (memory : Memory) (v : Visit σ) :
    (makePass H roots plan memory v).now = v.now := rfl

/-- A pass begins with nothing exchanged: what the agent remembers is all that comes from earlier
ones. -/
@[simp] theorem makePass_before (memory : Memory) (v : Visit σ) :
    (makePass H roots plan memory v).before = { host := v.host, files := v.files, memory } := rfl

/-- A pass ends where one execution of `Pass.converge` ends. -/
@[simp] theorem makePass_after (memory : Memory) (v : Visit σ) :
    (makePass H roots plan memory v).after =
      ((Pass.converge H roots plan v.now).exec
        { host := v.host, files := v.files, memory }).2 := rfl

/-- The passes made on a list of visits. -/
def history : Memory → List (Visit σ) → List (MadePass σ)
  | _, [] => []
  | memory, v :: vs =>
    makePass H roots plan memory v :: history (makePass H roots plan memory v).after.memory vs

@[simp] theorem history_nil (memory : Memory) : history H roots plan memory [] = [] := rfl

/-- What the first pass leaves in memory is what the others begin with; their host and their files
are their own. -/
@[simp] theorem history_cons (memory : Memory) (v : Visit σ) (vs : List (Visit σ)) :
    history H roots plan memory (v :: vs) =
      makePass H roots plan memory v ::
        history H roots plan (makePass H roots plan memory v).after.memory vs := rfl

/-- Every pass of a history was made in some circumstances by an agent that remembers something. -/
theorem exists_eq_makePass_of_mem_history {memory : Memory} {vs : List (Visit σ)} {r : MadePass σ}
    (hr : r ∈ history H roots plan memory vs) :
    ∃ memory' v, r = makePass H roots plan memory' v := by
  induction vs generalizing memory with
  | nil => simp at hr
  | cons v vs ih =>
    rw [history_cons, List.mem_cons] at hr
    rcases hr with rfl | hr
    · exact ⟨memory, v, rfl⟩
    · exact ih hr

end

end DpuNetwork
