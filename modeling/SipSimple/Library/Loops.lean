import Mathlib.Tactic.TypeStar

/-!
# Loops that an exception ends

The body of the loop changes a state and may raise; then the loop ends with what was changed so far.
What the body keeps in any case the loop keeps. Where the body is known not to raise, an invariant about
the items that are done gives that the loop gets to its end.
-/

variable {σ α ε : Type*}

def forEach (f : σ → α → σ × Option ε) : List α → σ → σ × Option ε
  | [], state => (state, none)
  | item :: items, state =>
      match f state item with
      | (state', some error) => (state', some error)
      | (state', none) => forEach f items state'

namespace Loops

variable {f : σ → α → σ × Option ε}

theorem forEach_keeps (invariant : σ → Prop)
    (hstep : ∀ state item, invariant state → invariant (f state item).1) (items : List α) {state : σ}
    (h : invariant state) : invariant (forEach f items state).1 := by
  induction items generalizing state with
  | nil => exact h
  | cons item items ih =>
      have hnext := hstep state item h
      rw [forEach]
      split
      next state' error heq =>
          rw [heq] at hnext
          exact hnext
      next state' heq =>
          rw [heq] at hnext
          exact ih hnext

/-- **The induction on a loop that does not raise.** -/
theorem forEach_completes (invariant : List α → σ → Prop) {items : List α}
    (hstep : ∀ done item rest state, done ++ item :: rest = items → invariant done state →
      (f state item).2 = none ∧ invariant (done ++ [item]) (f state item).1) {state : σ}
    (h : invariant [] state) :
    (forEach f items state).2 = none ∧ invariant items (forEach f items state).1 := by
  have hrest : ∀ rest done state, done ++ rest = items → invariant done state →
      (forEach f rest state).2 = none ∧ invariant items (forEach f rest state).1 := by
    intro rest
    induction rest with
    | nil =>
        intro done state hitems hdone
        rw [List.append_nil] at hitems
        exact ⟨rfl, hitems ▸ hdone⟩
    | cons item rest ih =>
        intro done state hitems hdone
        obtain ⟨hraised, hnext⟩ := hstep done item rest state hitems hdone
        rw [forEach]
        split
        next state' error heq =>
          rw [heq] at hraised
          cases hraised
        next state' heq =>
          rw [heq] at hnext
          exact ih (done ++ [item]) state' (by rw [← hitems]; simp) hnext
  exact hrest items [] state rfl h

end Loops
