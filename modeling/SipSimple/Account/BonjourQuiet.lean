import SipSimple.Account.Bonjour

/-!
# Bonjour services after deactivate

The command of `deactivate` closes everything. But the flag that stops the loop is cleared only when the
caller goes on, and until then the loop handles the commands that are queued behind: one that registers or
discovers leaves files or timers for good. Where none is handled in between, the services are quiet from the
return of `deactivate` to the next `activate`.
-/

namespace SipSimple.Account.BonjourServices

open Runs (run Meets)

/-- No open file, no known neighbour, no pending timer. -/
structure Clean (services : BonjourServices) : Prop where
  files : services.files = []
  neighbours : services.neighbours = []
  discoverTimer : services.discoverTimer ≠ .scheduled
  registerTimer : services.registerTimer ≠ .scheduled
  updateTimer : services.updateTimer ≠ .scheduled

/-- The condition on a step: while a caller of `deactivate` whose command was handled has not gone on, the
loop handles no command that has something to register or to discover. -/
def Undisturbed (services : BonjourServices) : Input → Prop
  | .handleCommand system =>
      services.signalled ≠ [] → services.started →
        (services.commandChannel.head? = some .register ∨ services.commandChannel.head? = some .discover) →
          system.supportedTransports = []
  | _ => True

/-! ### Commands -/

namespace Clean

variable {services : BonjourServices}

theorem chUnregister (h : services.Clean) : services.chUnregister.Clean := by
  refine ⟨?_, h.neighbours, h.discoverTimer, nofun, nofun⟩
  rw [BonjourServices.chUnregister, h.files]
  rfl

/-- There is nothing to register. -/
theorem chRegister (h : services.Clean) {system : BonjourSystem} (hnone : system.supportedTransports = []) :
    (services.chRegister system).Clean := by
  rw [BonjourServices.chRegister, hnone]
  exact ⟨h.files, h.neighbours, h.discoverTimer, nofun, h.updateTimer⟩

theorem chUpdateRegistrations (h : services.Clean) (system : BonjourSystem) :
    (services.chUpdateRegistrations system).Clean := by
  rw [BonjourServices.chUpdateRegistrations, h.files]
  exact ⟨rfl, h.neighbours, h.discoverTimer, h.registerTimer, nofun⟩

/-- There is nothing to discover. -/
theorem chDiscover (h : services.Clean) {system : BonjourSystem} (hnone : system.supportedTransports = []) :
    (services.chDiscover system).Clean := by
  have hdiscoverable : system.discoverableTransports = [] := by
    rw [BonjourSystem.discoverableTransports, hnone]
    rfl
  rw [BonjourServices.chDiscover, hdiscoverable, h.files, h.neighbours]
  exact ⟨rfl, rfl, nofun, h.registerTimer, h.updateTimer⟩

/-- A closed file has no callbacks. -/
theorem chProcessResults (h : services.Clean) (system : BonjourSystem) (files : List Nat) :
    services.chProcessResults system files = services := by
  rw [BonjourServices.chProcessResults]
  induction files with
  | nil => rfl
  | cons id files ih =>
      have hnone : services.processFile system id = services := by
        rw [processFile, h.files]
        rfl
      rw [List.foldl_cons, hnone, ih]

end Clean

theorem clean_chStop (services : BonjourServices) (caller : Nat) : (services.chStop caller).Clean :=
  ⟨rfl, rfl, nofun, nofun, nofun⟩

/-! ### Who waits -/

theorem signalled_foldl {κ : Type*} {change : BonjourServices → κ → BonjourServices}
    (hchange : ∀ services item, (change services item).signalled = services.signalled)
    (services : BonjourServices) (items : List κ) :
    (items.foldl change services).signalled = services.signalled := by
  induction items generalizing services with
  | nil => rfl
  | cons item items ih => rw [List.foldl_cons, ih, hchange]

theorem signalled_callback (system : BonjourSystem) (file : BonjourFile) (services : BonjourServices)
    (event : BonjourCallback) : (callback system file services event).signalled = services.signalled := by
  cases event with
  | register error =>
      simp only [callback, registerCb]
      split_ifs <;> rfl
  | browse error service add refused =>
      simp only [callback, browseCb]
      split_ifs <;> first | rfl | (split <;> rfl)
  | resolve error record =>
      cases file with
      | resolution id parent transport service =>
          simp only [callback, resolveCb]
          split_ifs
          · rfl
          · cases record with
            | malformed => rfl
            | record transport own noContact =>
                dsimp only
                split_ifs <;> rfl
      | _ => rfl

/-- Only the command of `deactivate` signals a caller. -/
theorem signalled_handler (services : BonjourServices) (system : BonjourSystem) {command : BonjourCommand}
    (hstop : ∀ caller, command ≠ .stop caller) :
    (services.handler system command).signalled = services.signalled := by
  cases command with
  | register =>
      rw [handler, chRegister]
      split_ifs
      all_goals
        show BonjourServices.signalled (List.foldl _ _ _) = _
        refine signalled_foldl (fun services transport => ?_) _ _
        rw [registerTransport]
        dsimp only
        split_ifs <;> rfl
  | unregister => rfl
  | updateRegistrations =>
      rw [handler, chUpdateRegistrations]
      dsimp only
      split_ifs <;> rfl
  | discover =>
      rw [handler, chDiscover]
      dsimp only
      split_ifs
      all_goals
        show BonjourServices.signalled (List.foldl _ _ _) = _
        refine signalled_foldl (fun services transport => ?_) _ _
        rw [discoverTransport]
        dsimp only
        split_ifs <;> rfl
  | processResults files =>
      rw [handler, chProcessResults]
      refine signalled_foldl (fun services id => ?_) _ _
      rw [processFile]
      split
      · rfl
      · exact signalled_foldl (signalled_callback system _) _ _
  | stop caller => exact absurd rfl (hstop caller)
  | exit => rfl

/-! ### Steps -/

/-- Between the command of `deactivate` and its return. -/
def Stopping (services : BonjourServices) : Prop := services.signalled ≠ [] → services.Clean

/-- What is clean stays so when commands are queued. -/
theorem Clean.send {services : BonjourServices} (h : services.Clean) (command : BonjourCommand) :
    (services.send command).Clean :=
  ⟨h.files, h.neighbours, h.discoverTimer, h.registerTimer, h.updateTimer⟩

theorem Clean.handler {services : BonjourServices} (h : services.Clean) (system : BonjourSystem)
    {command : BonjourCommand}
    (hnone : command = .register ∨ command = .discover → system.supportedTransports = []) :
    (services.handler system command).Clean := by
  cases command with
  | register => exact h.chRegister (hnone (.inl rfl))
  | unregister => exact h.chUnregister
  | updateRegistrations => exact h.chUpdateRegistrations system
  | discover => exact h.chDiscover (hnone (.inr rfl))
  | processResults files =>
      rw [BonjourServices.handler, h.chProcessResults]
      exact h
  | stop caller => exact clean_chStop services caller
  | exit => exact h

theorem Clean.pop {services : BonjourServices} (h : services.Clean) (commands : List BonjourCommand) :
    { services with commandChannel := commands }.Clean :=
  ⟨h.files, h.neighbours, h.discoverTimer, h.registerTimer, h.updateTimer⟩

theorem Stopping.handleCommand {services : BonjourServices} (h : services.Stopping)
    {system : BonjourSystem} (hundisturbed : services.Undisturbed (.handleCommand system)) :
    (services.handleCommand system).Stopping := by
  rw [BonjourServices.handleCommand]
  split_ifs with hloops
  · exact h
  · split
    · exact h
    · rename_i commands heq
      intro hwaiting
      have hclean := (h hwaiting).pop commands
      exact ⟨hclean.files, hclean.neighbours, hclean.discoverTimer, hclean.registerTimer, hclean.updateTimer⟩
    · rename_i command commands hexit heq
      dsimp only
      split_ifs with hstarted
      · intro hwaiting
        by_cases hstop : ∃ caller, command = .stop caller
        · obtain ⟨caller, rfl⟩ := hstop
          exact clean_chStop _ caller
        · rw [signalled_handler _ system (not_exists.mp hstop)] at hwaiting
          refine ((h hwaiting).pop commands).handler system fun hcommand => ?_
          refine hundisturbed hwaiting hstarted ?_
          rw [heq]
          exact hcommand.imp (congrArg some) (congrArg some)
      · exact fun hwaiting => (h hwaiting).pop commands

/-- Apart from the loop nothing opens a file or sets a timer. -/
theorem Clean.step {services : BonjourServices} (h : services.Clean) {input : Input}
    (hinput : ∀ system, input ≠ .handleCommand system) : (services.step input).Clean := by
  cases input with
  | start => exact ⟨h.files, h.neighbours, h.discoverTimer, h.registerTimer, h.updateTimer⟩
  | stopServices => exact ⟨h.files, h.neighbours, h.discoverTimer, h.registerTimer, h.updateTimer⟩
  | activate => exact ⟨h.files, h.neighbours, h.discoverTimer, h.registerTimer, h.updateTimer⟩
  | deactivate => exact ⟨h.files, h.neighbours, h.discoverTimer, h.registerTimer, h.updateTimer⟩
  | deactivated caller =>
      rw [BonjourServices.step, BonjourServices.deactivated]
      split_ifs
      · exact ⟨h.files, h.neighbours, h.discoverTimer, h.registerTimer, h.updateTimer⟩
      · exact h
  | restartDiscovery => exact h.send _
  | restartRegistration => exact (h.send _).send _
  | updateRegistrations => exact h.send _
  | networkConditionsDidChange =>
      rw [BonjourServices.step, BonjourServices.networkConditionsDidChange, if_neg fun hyes => hyes.2 h.files]
      exact h
  | processFiles ready => exact h.send _
  | handleCommand system => exact absurd rfl (hinput system)
  | discoverTimerFires =>
      rw [BonjourServices.step, if_neg h.discoverTimer]
      exact h
  | registerTimerFires =>
      rw [BonjourServices.step, if_neg h.registerTimer]
      exact h
  | updateTimerFires =>
      rw [BonjourServices.step, if_neg h.updateTimer]
      exact h

/-- Apart from the loop nothing signals a caller. -/
theorem signalled_step {services : BonjourServices} {input : Input}
    (hinput : ∀ system, input ≠ .handleCommand system) (hwaiting : (services.step input).signalled ≠ []) :
    services.signalled ≠ [] := by
  cases input with
  | deactivated caller =>
      rintro hnone
      rw [step, deactivated, hnone, if_pos List.not_mem_nil] at hwaiting
      exact hwaiting hnone
  | handleCommand system => exact absurd rfl (hinput system)
  | networkConditionsDidChange =>
      rw [step, networkConditionsDidChange] at hwaiting
      split_ifs at hwaiting <;> exact hwaiting
  | discoverTimerFires =>
      rw [step] at hwaiting
      split_ifs at hwaiting <;> exact hwaiting
  | registerTimerFires =>
      rw [step] at hwaiting
      split_ifs at hwaiting <;> exact hwaiting
  | updateTimerFires =>
      rw [step] at hwaiting
      split_ifs at hwaiting <;> exact hwaiting
  | _ => exact hwaiting

theorem Stopping.step {services : BonjourServices} (h : services.Stopping) {input : Input}
    (hundisturbed : services.Undisturbed input) : (services.step input).Stopping := by
  by_cases hinput : ∃ system, input = .handleCommand system
  · obtain ⟨system, rfl⟩ := hinput
    exact h.handleCommand hundisturbed
  · have hother := not_exists.mp hinput
    exact fun hwaiting => (h (signalled_step hother hwaiting)).step hother

/-- Deactivated, with nothing left, and nothing asked of the responder since. -/
structure Quiet (services : BonjourServices) (requests : List BonjourRequest) : Prop extends
    services.Clean where
  started : services.started = false
  requests : services.requests = requests

/-- The loop drops what it takes. -/
theorem Quiet.handleCommand {services : BonjourServices} {requests : List BonjourRequest}
    (h : services.Quiet requests) (system : BonjourSystem) :
    (services.handleCommand system).Quiet requests := by
  rw [BonjourServices.handleCommand]
  split_ifs with hloops
  · exact h
  · split
    · exact h
    · have hclean := h.toClean
      exact ⟨⟨hclean.files, hclean.neighbours, hclean.discoverTimer, hclean.registerTimer,
        hclean.updateTimer⟩, h.started, h.requests⟩
    · have hstopped : ¬ services.started := by simp [h.started]
      dsimp only
      rw [if_neg hstopped]
      exact ⟨h.toClean.pop _, h.started, h.requests⟩

/-- **Only `activate` ends the quiet.** -/
theorem Quiet.step {services : BonjourServices} {requests : List BonjourRequest}
    (h : services.Quiet requests) {input : Input} (hinput : input ≠ .activate) :
    (services.step input).Quiet requests := by
  by_cases hloop : ∃ system, input = .handleCommand system
  · obtain ⟨system, rfl⟩ := hloop
    exact h.handleCommand system
  · have hclean := h.toClean.step (not_exists.mp hloop)
    suffices hkept : (services.step input).started = false ∧ (services.step input).requests = requests from
      ⟨hclean, hkept.1, hkept.2⟩
    cases input with
    | activate => exact absurd rfl hinput
    | handleCommand system => exact absurd ⟨system, rfl⟩ hloop
    | deactivated caller =>
        rw [BonjourServices.step, BonjourServices.deactivated]
        split_ifs
        · exact ⟨rfl, h.requests⟩
        · exact ⟨h.started, h.requests⟩
    | networkConditionsDidChange =>
        rw [BonjourServices.step, BonjourServices.networkConditionsDidChange]
        split_ifs <;> exact ⟨h.started, h.requests⟩
    | discoverTimerFires =>
        rw [BonjourServices.step]
        split_ifs <;> exact ⟨h.started, h.requests⟩
    | registerTimerFires =>
        rw [BonjourServices.step]
        split_ifs <;> exact ⟨h.started, h.requests⟩
    | updateTimerFires =>
        rw [BonjourServices.step]
        split_ifs <;> exact ⟨h.started, h.requests⟩
    | _ => exact ⟨h.started, h.requests⟩

/-! ### Runs -/

theorem quiet_run {services : BonjourServices} {requests : List BonjourRequest}
    (h : services.Quiet requests) {inputs : List Input} (hinputs : .activate ∉ inputs) :
    (run step services inputs).Quiet requests := by
  induction inputs generalizing services with
  | nil => exact h
  | cons input inputs ih =>
      obtain ⟨hinput, hinputs⟩ := not_or.mp (fun hmem => hinputs (List.mem_cons.mpr hmem))
      exact ih (h.step fun heq => hinput heq.symm) hinputs

/-- **The services are quiet** from the return of `deactivate` to the next `activate`, in every run whose
steps meet the condition: nothing is open, known or pending, and the responder is asked for nothing. -/
theorem quiet_after_deactivate {before after : List Input} {caller : Nat}
    (hundisturbed : Meets step Undisturbed {} (before ++ .deactivated caller :: after))
    (hcaller : caller ∈ (run step {} before).signalled) (hactivate : .activate ∉ after) :
    (run step {} (before ++ .deactivated caller :: after)).Quiet (run step {} before).requests := by
  have hstart : Stopping {} := fun hwaiting => absurd rfl hwaiting
  have hstopping := Runs.invariant_run Stopping (fun _ _ h hundisturbed => h.step hundisturbed) hstart
    (Runs.meets_append.mp hundisturbed).1
  have hclean := hstopping (List.ne_nil_of_mem hcaller)
  rw [Runs.run_append, Runs.run_cons]
  refine quiet_run ⟨hclean.step (by simp), ?_, ?_⟩ hactivate
  · rw [step, deactivated, if_neg (not_not.mpr hcaller)]
  · rw [step, deactivated, if_neg (not_not.mpr hcaller)]

def udpOnly : BonjourSystem := { transportList := [.udp] }

/-- Registered and discovering, then deactivated. -/
theorem quiet_after_deactivate_udp :
    (run step {} ([.start, .activate, .handleCommand udpOnly, .handleCommand udpOnly, .deactivate,
      .handleCommand udpOnly] ++ .deactivated 0 :: [.networkConditionsDidChange])).Quiet
        [.register .udp, .browse .udp] := by
  refine quiet_after_deactivate ?_ (by decide) (by simp)
  refine ⟨trivial, trivial, ?_, ?_, trivial, ?_, trivial, trivial, trivial⟩
  · exact fun hwaiting => absurd rfl hwaiting
  · exact fun hwaiting => absurd rfl hwaiting
  · exact fun hwaiting => absurd rfl hwaiting

/-- A discovery that is queued behind the command of `deactivate` is handled before the caller goes on. -/
theorem not_quiet :
    ¬ ∀ (before after : List Input) (caller : Nat), caller ∈ (run step {} before).signalled →
      .activate ∉ after → (run step {} (before ++ .deactivated caller :: after)).Quiet
        (run step {} before).requests := by
  intro h
  have hquiet := h [.start, .activate, .handleCommand udpOnly, .handleCommand udpOnly, .deactivate,
    .restartDiscovery, .handleCommand udpOnly, .handleCommand udpOnly] [] 0 (by decide) (by simp)
  exact absurd hquiet.files (by decide)

end SipSimple.Account.BonjourServices
