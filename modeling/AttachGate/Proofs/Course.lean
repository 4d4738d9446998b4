/-!
# Courses

A machine takes one step after another, and anybody may choose the next one.
Its history keeps every step with the state that the step was taken in, so that
a statement about where the machine stands may also speak of how it got there.
-/

namespace AttachGate

variable {σ μ : Type}

/-- The steps from a state on, each with the state that it was taken in. -/
def history (step : σ → μ → σ) : σ → List μ → List (σ × μ)
  | _, [] => []
  | s, m :: rest => (s, m) :: history step (step s m) rest

theorem mem_of_mem_history {step : σ → μ → σ} {first : σ} {moves : List μ} {e : σ × μ}
    (he : e ∈ history step first moves) : e.2 ∈ moves := by
  induction moves generalizing first with
  | nil => cases he
  | cons m rest ih =>
      rcases List.mem_cons.mp he with rfl | hlater
      · exact .head rest
      · exact .tail m (ih hlater)

theorem mem_history_append (step : σ → μ → σ) (first : σ) (before : List μ) (m : μ)
    (after : List μ) : (before.foldl step first, m) ∈ history step first (before ++ m :: after) := by
  induction before generalizing first with
  | nil => exact List.mem_cons_self
  | cons m' before ih => exact List.mem_cons_of_mem _ (ih (step first m'))

/-- What holds at first and is kept by every step holds of every course, of its
history and of the state that it leads to. -/
theorem course_invariant {step : σ → μ → σ} {first : σ} {I : List (σ × μ) → σ → Prop}
    (hfirst : I [] first) (hstep : ∀ past s m, I past s → I (past ++ [(s, m)]) (step s m))
    (moves : List μ) : I (history step first moves) (moves.foldl step first) := by
  have hfrom : ∀ past s, I past s →
      I (past ++ history step s moves) (moves.foldl step s) := by
    induction moves with
    | nil =>
        intro past s hs
        simpa [history] using hs
    | cons m rest ih =>
        intro past s hs
        have hnext := ih _ _ (hstep past s m hs)
        simpa [history] using hnext
  simpa using hfrom [] first hfirst

end AttachGate
