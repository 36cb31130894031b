import AssemblyInfo.Folded.Request

/-!
# Runs

Requests that are answered one after the other, each by the state that the one before leaves. Two ways to
answer agree on every run if they agree on one request.
-/

namespace AssemblyInfo.Folded

variable {σ τ ι ρ : Type}

/-- `runs step state requests` is the answers to `requests`, one after the other, and the state after
them. -/
def runs (step : σ → ι → ρ × σ) (state : σ) : List ι → List ρ × σ
  | [] => ([], state)
  | request :: rest =>
    let (reply, next) := step state request
    let (replies, last) := runs step next rest
    (reply :: replies, last)

/-- `seen view outcome` is the answer of `outcome`, and the state after it as `view` shows it. -/
def seen (view : σ → τ) (outcome : ρ × σ) : ρ × τ :=
  (outcome.1, view outcome.2)

theorem seen_runs {step : σ → ι → ρ × σ} {other : τ → ι → ρ × τ} {view : σ → τ}
    (same : ∀ state request, seen view (step state request) = other (view state) request)
    (state : σ) (requests : List ι) :
    seen view (runs step state requests) = runs other (view state) requests := by
  induction requests generalizing state with
  | nil => rfl
  | cons request rest ih =>
    rw [runs, runs, ← same]
    simp only [seen, ← ih]

end AssemblyInfo.Folded
