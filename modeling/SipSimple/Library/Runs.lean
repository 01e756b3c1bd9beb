import Mathlib.Data.List.Basic

/-!
# Runs of a step function

A system is a step function that takes a state and an input, and everything the environment decides
is in the input. A run feeds a list of inputs to it. `Meets` says that every input meets a condition
at the state it is fed to; what one step preserves under the condition, a run that meets it preserves.
-/

namespace Runs

variable {σ ι : Type*} (step : σ → ι → σ)

/-- The state after the inputs. -/
def run (state : σ) (inputs : List ι) : σ := inputs.foldl step state

@[simp] theorem run_nil (state : σ) : run step state [] = state := rfl

@[simp] theorem run_cons (state : σ) (input : ι) (inputs : List ι) :
    run step state (input :: inputs) = run step (step state input) inputs := rfl

theorem run_append (state : σ) (before after : List ι) :
    run step state (before ++ after) = run step (run step state before) after := by
  simp only [run, List.foldl_append]

/-- Every input meets the condition at the state it is fed to. -/
def Meets (condition : σ → ι → Prop) : σ → List ι → Prop
  | _, [] => True
  | state, input :: inputs => condition state input ∧ Meets condition (step state input) inputs

instance decidableMeets (condition : σ → ι → Prop)
    [∀ state input, Decidable (condition state input)] :
    ∀ (state : σ) (inputs : List ι), Decidable (Meets step condition state inputs)
  | _, [] => inferInstanceAs (Decidable True)
  | state, input :: inputs =>
      have := decidableMeets condition (step state input) inputs
      inferInstanceAs (Decidable (condition state input ∧ Meets step condition _ inputs))

variable {step} {condition : σ → ι → Prop}

theorem meets_append {state : σ} {before after : List ι} :
    Meets step condition state (before ++ after) ↔
      Meets step condition state before ∧ Meets step condition (run step state before) after := by
  induction before generalizing state with
  | nil => simp [Meets]
  | cons input before ih =>
      rw [List.cons_append, Meets, ih, Meets, run_cons, and_assoc]

theorem Meets.mono {other : σ → ι → Prop} (hle : ∀ state input, condition state input → other state input)
    {state : σ} {inputs : List ι} (h : Meets step condition state inputs) :
    Meets step other state inputs := by
  induction inputs generalizing state with
  | nil => exact trivial
  | cons input inputs ih => exact ⟨hle state input h.1, ih h.2⟩

theorem Meets.and {other : σ → ι → Prop} {state : σ} {inputs : List ι} (h : Meets step condition state inputs)
    (hother : Meets step other state inputs) :
    Meets step (fun state input => condition state input ∧ other state input) state inputs := by
  induction inputs generalizing state with
  | nil => exact trivial
  | cons input inputs ih => exact ⟨⟨h.1, hother.1⟩, ih h.2 hother.2⟩

/-- **The induction on a run**: what every step preserves under the condition holds at the end. -/
theorem invariant_run (invariant : σ → Prop)
    (hstep : ∀ state input, invariant state → condition state input → invariant (step state input))
    {state : σ} {inputs : List ι} (hstart : invariant state)
    (hmeets : Meets step condition state inputs) : invariant (run step state inputs) := by
  induction inputs generalizing state with
  | nil => exact hstart
  | cons input inputs ih => exact ih (hstep state input hstart hmeets.1) hmeets.2

/-- The induction where no condition is needed. -/
theorem always_run (invariant : σ → Prop)
    (hstep : ∀ state input, invariant state → invariant (step state input)) {state : σ}
    (hstart : invariant state) (inputs : List ι) : invariant (run step state inputs) := by
  induction inputs generalizing state with
  | nil => exact hstart
  | cons input inputs ih => exact ih (hstep state input hstart)

end Runs
