import Mathlib.Data.List.Basic

/-!
# Attempts with a log

A computation that writes what it does to a log and may end with a failure. `Meets` gives it a postcondition for its
value and one for its failure. `Gives` is said of one that comes to one value whatever the log holds, unless it fails
with a certain failure; then an event that it logged itself is to blame. `Agree` is said of two that come to the same
end, whatever either of them logs.
-/

def Logged (ω ε α : Type) : Type := List ω → Except ε α × List ω

namespace Logged

variable {ω ε α β : Type}

instance : Monad (Logged ω ε) where
  pure value := fun log => (.ok value, log)
  bind computation next := fun log =>
    match computation log with
    | (.ok value, after) => next value after
    | (.error failure, after) => (.error failure, after)

def raise (failure : ε) : Logged ω ε α := fun log => (.error failure, log)

/-- What another computation makes of the failure. -/
def handle (computation : Logged ω ε α) (handler : ε → Logged ω ε α) : Logged ω ε α := fun log =>
  match computation log with
  | (.ok value, after) => (.ok value, after)
  | (.error failure, after) => handler failure after

theorem bind_ok {computation : Logged ω ε α} {next : α → Logged ω ε β} {log after : List ω} {value : α}
    (h : computation log = (.ok value, after)) : (computation >>= next) log = next value after := by
  show (match computation log with
    | (.ok value, after) => next value after
    | (.error failure, after) => (.error failure, after)) = _
  rw [h]

theorem bind_error {computation : Logged ω ε α} {next : α → Logged ω ε β} {log after : List ω} {failure : ε}
    (h : computation log = (.error failure, after)) : (computation >>= next) log = (.error failure, after) := by
  show (match computation log with
    | (.ok value, after) => next value after
    | (.error failure, after) => (.error failure, after)) = _
  rw [h]

theorem handle_ok {computation : Logged ω ε α} {handler : ε → Logged ω ε α} {log after : List ω} {value : α}
    (h : computation log = (.ok value, after)) : computation.handle handler log = (.ok value, after) := by
  rw [handle, h]

theorem handle_error {computation : Logged ω ε α} {handler : ε → Logged ω ε α} {log after : List ω} {failure : ε}
    (h : computation log = (.error failure, after)) : computation.handle handler log = handler failure after := by
  rw [handle, h]

/-- The value, or the failure with an event that is to blame. -/
def Gives (computation : Logged ω ε α) (value : α) (failure : ε) (blame : ω → Prop) : Prop :=
  ∀ log, ∃ events, (computation log).2 = log ++ events ∧
    ((computation log).1 = .ok value ∨ (computation log).1 = .error failure ∧ ∃ event ∈ events, blame event)

variable {failure : ε} {blame : ω → Prop}

theorem gives_pure (value : α) : Gives (pure value) value failure blame := fun log =>
  ⟨[], (List.append_nil log).symm, Or.inl rfl⟩

theorem Gives.mono {computation : Logged ω ε α} {value : α} (h : Gives computation value failure blame)
    (other : ω → Prop) (hblame : ∀ event, blame event → other event) : Gives computation value failure other := by
  intro log
  obtain ⟨events, hlog, hvalue | ⟨hfailed, event, hmem, hevent⟩⟩ := h log
  · exact ⟨events, hlog, Or.inl hvalue⟩
  · exact ⟨events, hlog, Or.inr ⟨hfailed, event, hmem, hblame event hevent⟩⟩

theorem Gives.bind {computation : Logged ω ε α} {next : α → Logged ω ε β} {value : α} {result : β}
    (h : Gives computation value failure blame) (hnext : Gives (next value) result failure blame) :
    Gives (computation >>= next) result failure blame := by
  intro log
  obtain ⟨events, hlog, hvalue | ⟨hfailed, event, hmem, hevent⟩⟩ := h log
  · obtain ⟨later, hlater, hresult⟩ := hnext (log ++ events)
    rw [bind_ok (Prod.ext hvalue hlog)]
    refine ⟨events ++ later, by rw [hlater, List.append_assoc], hresult.imp_right ?_⟩
    rintro ⟨hfailed, event, hmem, hevent⟩
    exact ⟨hfailed, event, List.mem_append_right _ hmem, hevent⟩
  · rw [bind_error (Prod.ext hfailed hlog)]
    exact ⟨events, rfl, Or.inr ⟨rfl, event, hmem, hevent⟩⟩

/-- **The rule for a loop with an accumulator.** -/
theorem gives_foldlM {step : β → α → Logged ω ε β} {value : β → α → β} {items : List α}
    (hstep : ∀ state, ∀ item ∈ items, Gives (step state item) (value state item) failure blame) (state : β) :
    Gives (items.foldlM step state) (items.foldl value state) failure blame := by
  induction items generalizing state with
  | nil => exact gives_pure state
  | cons item items ih =>
      rw [List.foldlM_cons, List.foldl_cons]
      exact (hstep state item List.mem_cons_self).bind
        (ih (fun state item hmem => hstep state item (List.mem_cons_of_mem _ hmem)) _)

/-- Either way, the events that were logged in between. -/
theorem Gives.cases {computation : Logged ω ε α} {value : α} (h : Gives computation value failure blame)
    (log : List ω) : ∃ events, computation log = (.ok value, log ++ events) ∨
      computation log = (.error failure, log ++ events) ∧ ∃ event ∈ events, blame event := by
  obtain ⟨events, hlog, hvalue | ⟨hfailed, hblame⟩⟩ := h log
  · exact ⟨events, Or.inl (Prod.ext hvalue hlog)⟩
  · exact ⟨events, Or.inr ⟨Prod.ext hfailed hlog, hblame⟩⟩

/-! ### Postconditions -/

def Meets (computation : Logged ω ε α) (log : List ω) (returns : α → List ω → Prop) (fails : ε → List ω → Prop) :
    Prop :=
  match computation log with
  | (.ok value, after) => returns value after
  | (.error failure, after) => fails failure after

variable {log : List ω} {returns : α → List ω → Prop} {result : β → List ω → Prop} {fails : ε → List ω → Prop}

theorem meets_pure {value : α} (h : returns value log) : Meets (pure value) log returns fails := h

theorem meets_raise {failure : ε} (h : fails failure log) : Meets (raise failure) log returns fails := h

theorem Meets.bind {computation : Logged ω ε α} {next : α → Logged ω ε β} (h : Meets computation log returns fails)
    (hnext : ∀ value after, returns value after → Meets (next value) after result fails) :
    Meets (computation >>= next) log result fails := by
  rw [Meets] at h ⊢
  rcases heq : computation log with ⟨failure | value, after⟩
  · rw [heq] at h
    rwa [bind_error heq]
  · rw [heq] at h
    rw [bind_ok heq]
    exact hnext value after h

theorem Meets.map {computation : Logged ω ε α} {f : α → β}
    (h : Meets computation log (fun value after => result (f value) after) fails) :
    Meets (f <$> computation) log result fails :=
  Meets.bind h fun _ _ hvalue => meets_pure hvalue

theorem Meets.handle {computation : Logged ω ε α} {handler : ε → Logged ω ε α} (raised : ε → List ω → Prop)
    (h : Meets computation log returns raised)
    (hhandler : ∀ failure after, raised failure after → Meets (handler failure) after returns fails) :
    Meets (computation.handle handler) log returns fails := by
  rw [Meets] at h ⊢
  rcases heq : computation log with ⟨failure | value, after⟩
  · rw [heq] at h
    rw [handle_error heq]
    exact hhandler failure after h
  · rw [heq] at h
    rwa [handle_ok heq]

theorem Meets.imp {computation : Logged ω ε α} {returns' : α → List ω → Prop} {fails' : ε → List ω → Prop}
    (h : Meets computation log returns fails) (hreturns : ∀ value after, returns value after → returns' value after)
    (hfails : ∀ failure after, fails failure after → fails' failure after) :
    Meets computation log returns' fails' := by
  rw [Meets] at h ⊢
  rcases heq : computation log with ⟨failure | value, after⟩
  · rw [heq] at h
    exact hfails failure after h
  · rw [heq] at h
    exact hreturns value after h

theorem Gives.meets {computation : Logged ω ε α} {value : α} (h : Gives computation value failure blame)
    (hvalue : ∀ events, returns value (log ++ events))
    (hfailure : ∀ events, (∃ event ∈ events, blame event) → fails failure (log ++ events)) :
    Meets computation log returns fails := by
  rw [Meets]
  obtain ⟨events, heq | ⟨heq, hblame⟩⟩ := h.cases log
  · rw [heq]
    exact hvalue events
  · rw [heq]
    exact hfailure events hblame

/-- **The rule for a loop with an accumulator**, with an invariant about the items that are done. -/
theorem meets_foldlM {step : β → α → Logged ω ε β} (invariant : List α → β → List ω → Prop) {items : List α}
    (hstep : ∀ done item state log, item ∈ items → invariant done state log →
      Meets (step state item) log (fun state after => invariant (done ++ [item]) state after) fails)
    {state : β} (h : invariant [] state log) : Meets (items.foldlM step state) log (invariant items) fails := by
  have hrest : ∀ rest done state log, rest ⊆ items → invariant done state log →
      Meets (rest.foldlM step state) log (invariant (done ++ rest)) fails := by
    intro rest
    induction rest with
    | nil =>
        intro done state log _ hdone
        rw [List.append_nil]
        exact meets_pure hdone
    | cons item rest ih =>
        intro done state log hsubset hdone
        rw [List.foldlM_cons]
        refine Meets.bind (hstep done item state log (hsubset List.mem_cons_self) hdone) fun next after hnext => ?_
        have htail := ih (done ++ [item]) next after (fun _ hmem => hsubset (List.mem_cons_of_mem item hmem)) hnext
        rwa [List.append_assoc] at htail
  simpa using hrest items [] state log (List.Subset.refl items) h

/-! ### Computations with the same end -/

def Agree (computation other : Logged ω ε α) : Prop := ∀ log log', (computation log).1 = (other log').1

theorem agree_pure (value : α) : Agree (pure value : Logged ω ε α) (pure value) := fun _ _ => rfl

theorem agree_raise (failure : ε) : Agree (raise failure : Logged ω ε α) (raise failure) := fun _ _ => rfl

theorem Agree.bind {computation other : Logged ω ε α} {next next' : α → Logged ω ε β} (h : Agree computation other)
    (hnext : ∀ value, Agree (next value) (next' value)) : Agree (computation >>= next) (other >>= next') := by
  intro log log'
  have hend := h log log'
  rcases heq : computation log with ⟨ended, after⟩
  rcases heq' : other log' with ⟨ended', after'⟩
  rw [heq, heq'] at hend
  obtain rfl : ended = ended' := hend
  cases ended with
  | error failure => rw [bind_error heq, bind_error heq']
  | ok value =>
      rw [bind_ok heq, bind_ok heq']
      exact hnext value after after'

theorem Agree.handle {computation other : Logged ω ε α} {handler handler' : ε → Logged ω ε α}
    (h : Agree computation other) (hhandler : ∀ failure, Agree (handler failure) (handler' failure)) :
    Agree (computation.handle handler) (other.handle handler') := by
  intro log log'
  have hend := h log log'
  rcases heq : computation log with ⟨ended, after⟩
  rcases heq' : other log' with ⟨ended', after'⟩
  rw [heq, heq'] at hend
  obtain rfl : ended = ended' := hend
  cases ended with
  | error failure =>
      rw [handle_error heq, handle_error heq']
      exact hhandler failure after after'
  | ok value => rw [handle_ok heq, handle_ok heq']

theorem agree_foldlM {step step' : β → α → Logged ω ε β} (items : List α)
    (hstep : ∀ state item, Agree (step state item) (step' state item)) (state : β) :
    Agree (items.foldlM step state) (items.foldlM step' state) := by
  induction items generalizing state with
  | nil => exact agree_pure state
  | cons item items ih =>
      rw [List.foldlM_cons, List.foldlM_cons]
      exact (hstep state item).bind ih

/-- Two that give one value and have nothing to blame. -/
theorem Gives.agree {computation other : Logged ω ε α} {value : α} {blame' : ω → Prop}
    (h : Gives computation value failure blame) (h' : Gives other value failure blame')
    (hblame : ∀ event, ¬blame event) (hblame' : ∀ event, ¬blame' event) : Agree computation other := by
  intro log log'
  obtain ⟨_, -, hvalue | ⟨-, event, -, hevent⟩⟩ := h log
  · obtain ⟨_, -, hvalue' | ⟨-, event, -, hevent⟩⟩ := h' log'
    · rw [hvalue, hvalue']
    · exact absurd hevent (hblame' event)
  · exact absurd hevent (hblame event)

end Logged
