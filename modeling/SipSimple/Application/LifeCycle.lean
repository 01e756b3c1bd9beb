import SipSimple.Application.SIPApplication

/-!
# The life cycle of the application

Whoever moves the state to `stopping` posts `SIPApplicationWillEnd` once. `_initialize_subsystems` writes the state
without looking at it, so that it has to find it as it left it: what is proved is about runs in which it does.
-/

namespace SipSimple.Application

/-- `SIPApplicationDidStart` is never posted after `SIPApplicationWillEnd`. -/
def StartsFirst (notifications : List ApplicationNotification) : Prop :=
  ∀ before after, notifications = before ++ .didStart :: after → .willEnd ∉ before

/-- What may be posted over the life of an application. -/
structure LifeCycle (notifications : List ApplicationNotification) : Prop where
  willEnd_once : notifications.count .willEnd ≤ 1
  didEnd_once : notifications.count .didEnd ≤ 1
  startsFirst : StartsFirst notifications

theorem StartsFirst.append {notifications : List ApplicationNotification} (h : StartsFirst notifications)
    {name : ApplicationNotification} (hname : name = .didStart → .willEnd ∉ notifications) :
    StartsFirst (notifications ++ [name]) := by
  intro before after hposted
  rcases List.eq_nil_or_concat after with rfl | ⟨rest, last, rfl⟩
  · obtain ⟨hbefore, hlast⟩ := List.append_inj' hposted rfl
    rw [← hbefore]
    exact hname (List.singleton_inj.mp hlast)
  · apply h before rest
    have hsplit : notifications ++ [name] = (before ++ .didStart :: rest) ++ [last] := by
      rw [hposted, List.concat_eq_append, List.append_assoc, List.cons_append]
    exact (List.append_inj' hsplit rfl).1

/-- The task posts `SIPApplicationWillEnd` next. -/
def Task.owesWillEnd : Task → Bool
  | .initializeWillEnd | .stopWillEnd | .failWillEnd => true
  | _ => false

namespace SIPApplication

variable {self : SIPApplication}

/-! ### The condition -/

/-- `_initialize_subsystems` writes the state where the application is still starting, and posts that it did start
where that still stands. -/
def InTime (self : SIPApplication) : ApplicationStep → Prop
  | .proceed _ _ =>
      (self.control = some .initializeSubsystems → self.stopPending → self.state = .starting) ∧
        (self.control = some (.start []) → self.state = .starting) ∧
        (self.control = some (.didStart true) ∨ self.control = some (.didStart false) → self.state = .started)
  | _ => True

instance (step : ApplicationStep) : Decidable (self.InTime step) := by
  cases step <;> unfold InTime <;> infer_instance

/-! ### What holds between the steps -/

/-- How often `SIPApplicationWillEnd` was posted or is about to be. -/
def willEnds (self : SIPApplication) : Nat :=
  self.notifications.count .willEnd + self.stops + (if self.control.any Task.owesWillEnd then 1 else 0) +
    if self.reactorThread = .willEnd then 1 else 0

structure Orderly (app : SIPApplication) : Prop where
  willEnds : app.willEnds ≤ 1
  ending : app.state.rank < 2 → app.willEnds = 0
  waiting : ∀ task ∈ app.waiting, task.owesWillEnd = false
  control : app.control ≠ none → app.reactorThread = .reactor
  /-- Before the reactor runs, only the reactor thread moves the state. -/
  early : app.reactorThread = .willStart ∨ app.reactorThread = .checkPending → app.state = .starting
  stopped : app.state = .stopped → app.reactorThread = .didEnd ∨ app.reactorThread = .done
  didEnd : app.notifications.count .didEnd ≤ if app.reactorThread = .done then 1 else 0
  startsFirst : StartsFirst app.notifications

/-- A step moves the state forward and keeps what holds. -/
def Advances (self next : SIPApplication) : Prop := self.state.rank ≤ next.state.rank ∧ next.Orderly

theorem Orderly.not_ended (h : self.Orderly) (hstate : self.state.rank < 2) :
    ApplicationNotification.willEnd ∉ self.notifications := by
  have hends := h.ending hstate
  unfold SIPApplication.willEnds at hends
  exact List.count_eq_zero.mp (by omega)

/-- Only a move to `stopping` owes the notification. -/
theorem Orderly.owed (h : self.Orderly) {next : SIPApplication} (hrank : self.state.rank ≤ next.state.rank)
    (hends : next.willEnds ≤ self.willEnds ∨
      next.willEnds ≤ self.willEnds + 1 ∧ self.state.rank < 2 ∧ next.state = .stopping) :
    next.willEnds ≤ 1 ∧ (next.state.rank < 2 → next.willEnds = 0) := by
  have hwillEnds := h.willEnds
  have hending := h.ending
  rcases hends with hends | ⟨hends, hbefore, hafter⟩
  · exact ⟨by omega, fun hnext => by have := hending (by omega); omega⟩
  · have hnone := hending hbefore
    refine ⟨by omega, fun hnext => ?_⟩
    rw [hafter] at hnext
    exact absurd hnext (by decide)

/-- What runs in the reactor. -/
theorem Orderly.advances (h : self.Orderly) (hreactor : self.reactorThread = .reactor) {next : SIPApplication}
    (hstate : next.state = self.state ∨ self.state.rank < 2 ∧ next.state = .stopping ∨
      self.state = .starting ∧ next.state = .started)
    (hends : next.willEnds ≤ self.willEnds ∨
      next.willEnds ≤ self.willEnds + 1 ∧ self.state.rank < 2 ∧ next.state = .stopping)
    (hwaiting : ∀ task ∈ next.waiting, task ∈ self.waiting ∨ task.owesWillEnd = false)
    (hposted : next.notifications = self.notifications ∨
      next.notifications = self.notifications ++ [.willEnd] ∨
        next.notifications = self.notifications ++ [.didStart] ∧ self.state = .started)
    (hthread : next.reactorThread = self.reactorThread) : self.Advances next := by
  have hnext := hthread.trans hreactor
  have hrunning : self.state ≠ .stopped := by
    intro hstopped
    have hlate := h.stopped hstopped
    rw [hreactor] at hlate
    exact absurd hlate (by decide)
  have hrank : self.state.rank ≤ next.state.rank := by
    rcases hstate with hstate | ⟨hlow, hstate⟩ | ⟨hlow, hstate⟩
    · exact Nat.le_of_eq (by rw [hstate])
    · rw [hstate]
      exact Nat.le_of_lt hlow
    · rw [hstate, hlow]
      decide
  obtain ⟨hwillEnds, hending⟩ := h.owed hrank hends
  have hdidEnd := h.didEnd
  rw [hreactor] at hdidEnd
  refine ⟨hrank, hwillEnds, hending, ?_, fun _ => hnext, ?_, ?_, ?_, ?_⟩
  · exact fun task hmem => (hwaiting task hmem).elim (h.waiting task) id
  · rw [hnext]
    exact fun hearly => absurd hearly (by decide)
  · intro hstopped
    rcases hstate with hstate | ⟨_, hstate⟩ | ⟨_, hstate⟩ <;> rw [hstate] at hstopped
    · exact absurd hstopped hrunning
    · cases hstopped
    · cases hstopped
  · rw [hnext]
    rcases hposted with hposted | hposted | ⟨hposted, _⟩ <;> rw [hposted]
    · exact hdidEnd
    · rw [List.count_append]
      exact hdidEnd
    · rw [List.count_append]
      exact hdidEnd
  · rcases hposted with hposted | hposted | ⟨hposted, hstarted⟩ <;> rw [hposted]
    · exact h.startsFirst
    · exact h.startsFirst.append nofun
    · exact h.startsFirst.append fun _ => h.not_ended (by rw [hstarted]; decide)

/-- What neither writes the state nor posts anything. -/
theorem Orderly.advances_silently (h : self.Orderly) (hreactor : self.reactorThread = .reactor)
    {next : SIPApplication} (hends : next.willEnds ≤ self.willEnds)
    (hwaiting : ∀ task ∈ next.waiting, task ∈ self.waiting ∨ task.owesWillEnd = false)
    (hstate : next.state = self.state) (hposted : next.notifications = self.notifications)
    (hthread : next.reactorThread = self.reactorThread) : self.Advances next :=
  h.advances hreactor (.inl hstate) (.inl hends) hwaiting (.inl hposted) hthread

/-- A greenlet that owes nothing is put with those that wait. -/
theorem mem_waiting {added : Task} (hadded : added.owesWillEnd = false) :
    ∀ task ∈ self.waiting ++ [added], task ∈ self.waiting ∨ task.owesWillEnd = false := by
  intro task hmem
  rcases List.mem_append.mp hmem with hmem | hmem
  · exact .inl hmem
  · rw [List.mem_singleton.mp hmem]
    exact .inr hadded

/-- What the locked section of `stop` does. -/
theorem stop_cases (self : SIPApplication) :
    (self.state = .started ∧ self.stop = ({ self with state := .stopping }, true)) ∨
      ∃ stopPending, self.stop = ({ self with stopPending }, false) := by
  unfold SIPApplication.stop
  split
  next => exact .inr ⟨self.stopPending, rfl⟩
  next => exact .inr ⟨self.stopPending, rfl⟩
  next => exact .inr ⟨true, rfl⟩
  next hstate => exact .inl ⟨hstate, rfl⟩

theorem Orderly.proceed (h : self.Orderly) {task : Task} (hcontrol : self.control = some task)
    {raises waits : Bool} (hinTime : self.InTime (.proceed raises waits)) :
    self.Advances (self.proceed raises waits task) := by
  have hreactor := h.control (by rw [hcontrol]; nofun)
  obtain ⟨hpending, hstart, hdidStart⟩ := hinTime
  have hsame : ∀ task ∈ self.waiting, task ∈ self.waiting ∨ task.owesWillEnd = false := fun _ => .inl
  cases task with
  | initializeSubsystems =>
      simp only [SIPApplication.proceed]
      split
      next hstop =>
        have hstate := hpending hcontrol hstop
        have hlow : self.state.rank < 2 := by
          rw [hstate]
          decide
        refine h.advances hreactor (.inr (.inl ⟨hlow, rfl⟩)) (.inr ⟨?_, hlow, rfl⟩) hsame (.inl rfl) rfl
        simp [SIPApplication.willEnds, hcontrol, Task.owesWillEnd]
        omega
      next =>
        refine h.advances_silently hreactor ?_ hsame rfl rfl rfl
        simp [SIPApplication.willEnds, hcontrol, Task.owesWillEnd]
  | initializeWillEnd =>
      refine h.advances hreactor (.inl rfl) (.inl ?_) hsame (.inr (.inl rfl)) rfl
      simp [SIPApplication.willEnds, post, SIPApplication.proceed, hcontrol, Task.owesWillEnd]
      omega
  | start left =>
      cases left with
      | nil =>
          have hstate := hstart hcontrol
          refine h.advances hreactor (.inr (.inr ⟨hstate, rfl⟩)) (.inl ?_) hsame (.inl rfl) rfl
          simp [SIPApplication.willEnds, SIPApplication.proceed, hcontrol, Task.owesWillEnd, hreactor]
      | cons subsystem left =>
          simp only [SIPApplication.proceed]
          split
          next =>
            refine h.advances_silently hreactor ?_ hsame rfl rfl rfl
            simp [SIPApplication.willEnds, hcontrol, Task.owesWillEnd]
          next =>
            split
            next =>
              refine h.advances_silently hreactor ?_ (mem_waiting rfl) rfl rfl rfl
              simp [SIPApplication.willEnds, hcontrol, Task.owesWillEnd]
            next =>
              refine h.advances_silently hreactor ?_ hsame rfl rfl rfl
              simp [SIPApplication.willEnds, hcontrol, Task.owesWillEnd]
  | didStart stopPending =>
      have hstate : self.state = .started := by
        apply hdidStart
        cases stopPending
        · exact .inr hcontrol
        · exact .inl hcontrol
      refine h.advances hreactor (.inl rfl) (.inl ?_) hsame (.inr (.inr ⟨rfl, hstate⟩)) rfl
      cases stopPending <;> simp [SIPApplication.willEnds, post, SIPApplication.proceed, hcontrol, Task.owesWillEnd]
  | stop =>
      simp only [SIPApplication.proceed]
      rcases stop_cases self with ⟨hstate, heq⟩ | ⟨stopPending, heq⟩
      · have hlow : self.state.rank < 2 := by
          rw [hstate]
          decide
        rw [heq]
        refine h.advances hreactor (.inr (.inl ⟨hlow, rfl⟩)) (.inr ⟨?_, hlow, rfl⟩) hsame (.inl rfl) rfl
        simp [SIPApplication.willEnds, hcontrol, Task.owesWillEnd]
        omega
      · rw [heq]
        refine h.advances_silently hreactor ?_ hsame rfl rfl rfl
        simp [SIPApplication.willEnds, hcontrol, Task.owesWillEnd]
  | stopWillEnd =>
      refine h.advances hreactor (.inl rfl) (.inl ?_) (mem_waiting rfl) (.inr (.inl rfl)) rfl
      simp [SIPApplication.willEnds, post, SIPApplication.proceed, hcontrol, Task.owesWillEnd]
      omega
  | shutdownSubsystems =>
      simp only [SIPApplication.proceed]
      split
      next =>
        refine h.advances_silently hreactor ?_ hsame rfl rfl rfl
        simp [SIPApplication.willEnds, hcontrol, Task.owesWillEnd]
      next =>
        split
        next =>
          refine h.advances_silently hreactor ?_ (mem_waiting rfl) rfl rfl rfl
          simp [SIPApplication.willEnds, hcontrol, Task.owesWillEnd]
        next =>
          refine h.advances_silently hreactor ?_ hsame rfl rfl rfl
          simp [SIPApplication.willEnds, hcontrol, Task.owesWillEnd]
  | shutdownEngine =>
      refine h.advances_silently hreactor ?_ hsame rfl rfl rfl
      cases raises <;> simp [SIPApplication.willEnds, SIPApplication.proceed, hcontrol, Task.owesWillEnd]
  | failWillEnd =>
      refine h.advances hreactor (.inl rfl) (.inl ?_) hsame (.inr (.inl rfl)) rfl
      simp [SIPApplication.willEnds, post, SIPApplication.proceed, hcontrol, Task.owesWillEnd]
      omega
  | stopReactor =>
      refine h.advances_silently hreactor ?_ hsame rfl rfl rfl
      simp [SIPApplication.willEnds, SIPApplication.proceed, hcontrol, Task.owesWillEnd, hreactor]

/-- What leaves the state, the threads and what was posted as they are. -/
theorem Orderly.advances_same (h : self.Orderly) {next : SIPApplication} (hstate : next.state = self.state)
    (hposted : next.notifications = self.notifications) (hthread : next.reactorThread = self.reactorThread)
    (hwaiting : next.waiting = self.waiting) (hcontrol : next.control = self.control)
    (hstops : next.stops = self.stops) : self.Advances next := by
  have hends : next.willEnds = self.willEnds := by
    simp only [SIPApplication.willEnds, hposted, hstops, hcontrol, hthread]
  refine ⟨Nat.le_of_eq (by rw [hstate]), ?_, ?_, ?_, ?_, ?_, ?_, ?_, ?_⟩
  · rw [hends]
    exact h.willEnds
  · rw [hends, hstate]
    exact h.ending
  · rw [hwaiting]
    exact h.waiting
  · rw [hcontrol, hthread]
    exact h.control
  · rw [hthread, hstate]
    exact h.early
  · rw [hthread, hstate]
    exact h.stopped
  · rw [hposted, hthread]
    exact h.didEnd
  · rw [hposted]
    exact h.startsFirst

theorem Orderly.refl (h : self.Orderly) : self.Advances self := ⟨Nat.le_refl _, h⟩

theorem Orderly.stop (h : self.Orderly) : self.Advances (self.step .stop) := by
  unfold step
  rcases stop_cases self with ⟨hstate, heq⟩ | ⟨stopPending, heq⟩
  · have hlow : self.state.rank < 2 := by
      rw [hstate]
      decide
    rw [heq]
    let next : SIPApplication := { self with state := .stopping, stops := self.stops + 1 }
    have howed : next.willEnds ≤ self.willEnds + 1 := by
      simp [next, SIPApplication.willEnds]
      omega
    have hrank : self.state.rank ≤ next.state.rank := Nat.le_of_lt hlow
    obtain ⟨hends, hending⟩ := h.owed hrank (.inr ⟨howed, hlow, rfl⟩)
    refine ⟨Nat.le_of_lt hlow, hends, hending, h.waiting, h.control, ?_, nofun, h.didEnd, h.startsFirst⟩
    intro hearly
    have hstarting := h.early hearly
    rw [hstate] at hstarting
    cases hstarting
  · rw [heq]
    exact h.advances_same rfl rfl rfl rfl rfl rfl

theorem Orderly.stopWillEnd (h : self.Orderly) (inReactor : Bool) :
    self.Advances (self.step (.stopWillEnd inReactor)) := by
  unfold step
  cases hstops : self.stops with
  | zero => exact h.refl
  | succ stops =>
      dsimp only
      have hadvances : ∀ next : SIPApplication, next.state = self.state →
          next.notifications = self.notifications ++ [.willEnd] → next.reactorThread = self.reactorThread →
          (∀ task ∈ next.waiting, task ∈ self.waiting ∨ task.owesWillEnd = false) →
          next.control = self.control → next.stops = stops → self.Advances next := by
        intro next hstate hposted hthread hwaiting hcontrol hnext
        have hends : next.willEnds = self.willEnds := by
          simp only [SIPApplication.willEnds, hposted, hstops, hcontrol, hthread, hnext, List.count_append,
            List.count_singleton_self]
          omega
        refine ⟨Nat.le_of_eq (by rw [hstate]), ?_, ?_, ?_, ?_, ?_, ?_, ?_, ?_⟩
        · rw [hends]
          exact h.willEnds
        · rw [hends, hstate]
          exact h.ending
        · exact fun task hmem => (hwaiting task hmem).elim (h.waiting task) id
        · rw [hcontrol, hthread]
          exact h.control
        · rw [hthread, hstate]
          exact h.early
        · rw [hthread, hstate]
          exact h.stopped
        · rw [hposted, hthread, List.count_append]
          exact h.didEnd
        · rw [hposted]
          exact h.startsFirst.append nofun
      split
      · exact hadvances _ rfl rfl rfl (mem_waiting rfl) rfl rfl
      · exact hadvances _ rfl rfl rfl (fun _ => .inl) rfl rfl

theorem Orderly.engineNotifies (h : self.Orderly) (started : Bool) :
    self.Advances (self.engineNotifies started) := by
  unfold SIPApplication.engineNotifies
  split <;> exact h.advances_same rfl rfl rfl rfl rfl rfl

theorem Orderly.runCall (h : self.Orderly) (hreactor : self.reactorThread = .reactor)
    (hcontrol : self.control = none) : self.Advances self.runCall := by
  unfold SIPApplication.runCall
  split
  next => exact h.refl
  next =>
    refine h.advances_silently hreactor ?_ (mem_waiting rfl) rfl rfl rfl
    simp [SIPApplication.willEnds]
  next =>
    refine h.advances_silently hreactor ?_ (mem_waiting rfl) rfl rfl rfl
    simp [SIPApplication.willEnds]
  next =>
    split
    next => exact h.advances_same rfl rfl rfl rfl rfl rfl
    next hstate =>
      have hlow : self.state.rank < 2 := by
        have hstopped := h.stopped
        rw [hreactor] at hstopped
        cases hself : self.state with
        | starting | started => decide
        | stopping => exact absurd hself hstate
        | stopped => exact absurd (hstopped hself) (by decide)
      refine h.advances hreactor (.inr (.inl ⟨hlow, rfl⟩)) (.inr ⟨?_, hlow, rfl⟩) (fun _ => .inl) (.inl rfl) rfl
      simp [SIPApplication.willEnds, hcontrol, Task.owesWillEnd]
      omega

theorem Orderly.switch (h : self.Orderly) (hreactor : self.reactorThread = .reactor)
    (hcontrol : self.control = none) (i : Nat) : self.Advances (self.switch i) := by
  unfold SIPApplication.switch
  split
  next => exact h.refl
  next task htask =>
    refine h.advances_silently hreactor ?_ ?_ rfl rfl rfl
    · have howes := h.waiting task (List.mem_of_getElem? htask)
      simp [SIPApplication.willEnds, hcontrol, howes]
    · exact fun other hmem => .inl (List.mem_of_mem_eraseIdx hmem)

/-- What the reactor thread does outside the reactor. -/
theorem Orderly.advances_thread (h : self.Orderly) {next : SIPApplication}
    (hrank : self.state.rank ≤ next.state.rank)
    (hends : next.willEnds ≤ self.willEnds ∨
      next.willEnds ≤ self.willEnds + 1 ∧ self.state.rank < 2 ∧ next.state = .stopping)
    (hwaiting : next.waiting = self.waiting) (hcontrol : next.control = none)
    (hearly : next.reactorThread = .willStart ∨ next.reactorThread = .checkPending → next.state = .starting)
    (hstopped : next.state = .stopped → next.reactorThread = .didEnd ∨ next.reactorThread = .done)
    (hdidEnd : next.notifications.count .didEnd ≤ if next.reactorThread = .done then 1 else 0)
    (hposted : next.notifications = self.notifications ∨
      ∃ name, name ≠ ApplicationNotification.didStart ∧ next.notifications = self.notifications ++ [name]) :
    self.Advances next := by
  obtain ⟨hwillEnds, hending⟩ := h.owed hrank hends
  refine ⟨hrank, hwillEnds, hending, ?_, fun hsome => absurd hcontrol hsome, hearly, hstopped, hdidEnd, ?_⟩
  · rw [hwaiting]
    exact h.waiting
  · rcases hposted with hposted | ⟨name, hname, hposted⟩ <;> rw [hposted]
    · exact h.startsFirst
    · exact h.startsFirst.append fun hdidStart => absurd hdidStart hname

theorem Orderly.runReactor (h : self.Orderly) (raises : Bool) : self.Advances (self.runReactor raises) := by
  have hdidEnd := h.didEnd
  have hidle (hthread : self.reactorThread ≠ .reactor) : self.control = none := by
    by_contra hcontrol
    exact hthread (h.control hcontrol)
  have hnot (hthread : self.reactorThread ≠ .didEnd) (hthread' : self.reactorThread ≠ .done) :
      self.state ≠ .stopped := by
    intro hstopped
    exact (h.stopped hstopped).elim hthread hthread'
  unfold SIPApplication.runReactor
  cases hthread : self.reactorThread with
  | willStart =>
      rw [hthread] at hdidEnd hidle hnot
      refine h.advances_thread (Nat.le_refl _) (.inl ?_) rfl (hidle (by decide)) ?_ ?_ ?_ (.inr ⟨_, ?_, rfl⟩)
      · simp [SIPApplication.willEnds, post, hthread]
      · exact fun _ => h.early (.inl hthread)
      · exact fun hstopped => absurd hstopped (hnot (by decide) (by decide))
      · simpa [post] using hdidEnd
      · decide
  | checkPending =>
      rw [hthread] at hdidEnd hidle hnot
      have hlow : self.state.rank < 2 := by
        rw [h.early (.inr hthread)]
        decide
      dsimp only
      split
      next =>
        refine h.advances_thread ?_ (.inr ⟨?_, ?_, rfl⟩) rfl (hidle (by decide)) ?_ nofun hdidEnd (.inl rfl)
        · exact Nat.le_of_lt hlow
        · simp [SIPApplication.willEnds, hthread]
        · exact hlow
        · exact fun hearly => absurd hearly (by simp)
      next =>
        refine h.advances_thread (Nat.le_refl _) (.inl ?_) rfl (hidle (by decide)) ?_ ?_ hdidEnd (.inl rfl)
        · simp [SIPApplication.willEnds, hthread]
        · exact fun hearly => absurd hearly (by simp)
        · exact fun hstopped => absurd hstopped (hnot (by decide) (by decide))
  | willEnd =>
      rw [hthread] at hdidEnd hidle hnot
      refine h.advances_thread (Nat.le_refl _) (.inl ?_) rfl (hidle (by decide)) ?_ ?_ ?_ (.inr ⟨_, ?_, rfl⟩)
      · simp [SIPApplication.willEnds, post, hthread]
        omega
      · exact fun hearly => absurd hearly (by simp)
      · exact fun hstopped => absurd hstopped (hnot (by decide) (by decide))
      · simpa [post] using hdidEnd
      · decide
  | initializeCore =>
      rw [hthread] at hdidEnd hidle hnot
      dsimp only
      split
      next =>
        refine h.advances_thread (Nat.le_refl _) (.inl ?_) rfl (hidle (by decide)) ?_ ?_ ?_ (.inl rfl)
        · simp [SIPApplication.willEnds, hthread]
        · exact fun hearly => absurd hearly (by simp)
        · exact fun _ => .inr rfl
        · exact Nat.le_trans hdidEnd (Nat.zero_le 1)
      next =>
        refine h.advances_thread (Nat.le_refl _) (.inl ?_) rfl (hidle (by decide)) ?_ ?_ hdidEnd (.inl rfl)
        · simp [SIPApplication.willEnds, hthread]
        · exact fun hearly => absurd hearly (by simp)
        · exact fun hstopped => absurd hstopped (hnot (by decide) (by decide))
  | reactor =>
      rw [hthread] at hdidEnd hnot
      dsimp only
      split
      next hends =>
        refine h.advances_thread (Nat.le_refl _) (.inl ?_) rfl hends.2 ?_ ?_ hdidEnd (.inl rfl)
        · simp [SIPApplication.willEnds, hthread]
        · exact fun hearly => absurd hearly (by simp)
        · exact fun hstopped => absurd hstopped (hnot (by decide) (by decide))
      next => exact h.refl
  | stopped =>
      rw [hthread] at hdidEnd hidle
      refine h.advances_thread ?_ (.inl ?_) rfl (hidle (by decide)) ?_ (fun _ => .inl rfl) hdidEnd (.inl rfl)
      · exact self.state.rank_le
      · simp [SIPApplication.willEnds, hthread]
      · exact fun hearly => absurd hearly (by simp)
  | didEnd =>
      rw [hthread] at hdidEnd hidle
      refine h.advances_thread (Nat.le_refl _) (.inl ?_) rfl (hidle (by decide)) ?_ (fun _ => .inr rfl) ?_
        (.inr ⟨_, ?_, rfl⟩)
      · simp [SIPApplication.willEnds, post, hthread]
      · exact fun hearly => absurd hearly (by simp)
      · simpa [post] using hdidEnd
      · decide
  | done => exact h.refl

theorem Orderly.step (h : self.Orderly) {step : ApplicationStep} (hinTime : self.InTime step) :
    self.Advances (self.step step) := by
  cases step with
  | stop => exact h.stop
  | stopWillEnd inReactor => exact h.stopWillEnd inReactor
  | engine started => exact h.engineNotifies started
  | reactorThread raises => exact h.runReactor raises
  | call =>
      unfold SIPApplication.step
      dsimp only
      split
      next hfree => exact h.runCall hfree.1 hfree.2
      next => exact h.refl
  | switch i =>
      unfold SIPApplication.step
      dsimp only
      split
      next hfree => exact h.switch hfree.1 hfree.2 i
      next => exact h.refl
  | proceed raises waits =>
      unfold SIPApplication.step
      dsimp only
      split
      next task hcontrol => exact h.proceed hcontrol hinTime
      next => exact h.refl

/-! ### Runs -/

theorem orderly_start (stopPending : Bool) : ({ stopPending } : SIPApplication).Orderly where
  willEnds := Nat.zero_le 1
  ending _ := rfl
  waiting := nofun
  control hsome := absurd rfl hsome
  early _ := rfl
  stopped := nofun
  didEnd := Nat.le_refl 0
  startsFirst before after hposted := by
    cases before <;> cases hposted

/-- The state at the end of a run is that of its start or a later one. -/
theorem Orderly.run (h : self.Orderly) {steps : List ApplicationStep}
    (hmeets : Runs.Meets SIPApplication.step InTime self steps) :
    self.Advances (Runs.run SIPApplication.step self steps) := by
  induction steps generalizing self with
  | nil => exact h.refl
  | cons step steps ih =>
      obtain ⟨hrank, hnext⟩ := h.step hmeets.1
      obtain ⟨hranks, hlast⟩ := ih hnext hmeets.2
      exact ⟨Nat.le_trans hrank hranks, hlast⟩

/-- **The life cycle** in every run in which `_initialize_subsystems` finds the application starting when it writes
the state, and started when it posts that it did start. -/
theorem life_cycle (stopPending : Bool) (before after : List ApplicationStep)
    (hmeets : Runs.Meets step InTime { stopPending } (before ++ after)) :
    (Runs.run step { stopPending } before).state.rank ≤
        (Runs.run step { stopPending } (before ++ after)).state.rank ∧
      LifeCycle (Runs.run step { stopPending } (before ++ after)).notifications := by
  obtain ⟨hbefore, hafter⟩ := Runs.meets_append.mp hmeets
  obtain ⟨_, hmiddle⟩ := (orderly_start stopPending).run hbefore
  obtain ⟨hrank, hlast⟩ := hmiddle.run hafter
  rw [Runs.run_append]
  refine ⟨hrank, ?_, ?_, hlast.startsFirst⟩
  · have hends := hlast.willEnds
    unfold SIPApplication.willEnds at hends
    omega
  · refine Nat.le_trans hlast.didEnd ?_
    split
    · exact Nat.le_refl 1
    · exact Nat.zero_le 1

/-- The engine starts, and the subsystems up to the accounts. -/
def startsAccounts : List ApplicationStep :=
  [.reactorThread false, .reactorThread false, .reactorThread false, .engine true, .call, .switch 0,
    .proceed false false, .proceed false false, .proceed false false, .proceed false true]

/-- The rest of the subsystems, up to the state `started`. -/
def startsRest : List ApplicationStep :=
  [.switch 0, .proceed false false, .proceed false false, .proceed false false]

/-- The shut-down after `stop` in another thread. -/
def shutsDown : List ApplicationStep :=
  [.stop, .stopWillEnd false, .call, .switch 0, .proceed false true, .switch 0, .proceed false false,
    .proceed false false, .reactorThread false, .reactorThread false, .reactorThread false]

theorem life_cycle_stopped :
    (Runs.run step { stopPending := false } (startsAccounts ++ startsRest)).state.rank ≤
        (Runs.run step { stopPending := false }
          ((startsAccounts ++ startsRest) ++ (.proceed false false :: shutsDown))).state.rank ∧
      LifeCycle (Runs.run step { stopPending := false }
        ((startsAccounts ++ startsRest) ++ (.proceed false false :: shutsDown))).notifications :=
  life_cycle false (startsAccounts ++ startsRest) (.proceed false false :: shutsDown) (by decide)

/-- The engine fails, and the application ends. -/
def engineFails : List ApplicationStep := [.engine false, .call, .proceed false false, .proceed false false]

/-- The engine fails while the accounts start, and the application is started after that; or `stop` comes in before
the application has posted that it did start. -/
theorem not_life_cycle :
    (¬ ∀ stopPending before after,
      (Runs.run step { stopPending } before).state.rank ≤
          (Runs.run step { stopPending } (before ++ after)).state.rank ∧
        LifeCycle (Runs.run step { stopPending } (before ++ after)).notifications) ∧
    ¬ LifeCycle (Runs.run step { stopPending := false }
      (startsAccounts ++ startsRest ++ [.stop, .stopWillEnd false, .proceed false false])).notifications := by
  constructor
  · intro hforward
    have hrank := (hforward false (startsAccounts ++ engineFails) startsRest).1
    exact absurd hrank (by decide)
  · intro hcycle
    exact hcycle.startsFirst [.willStart, .willEnd] [] (by decide) (by decide)

end SIPApplication

end SipSimple.Application
