import SipSimple.Library.Runs
import SipSimple.Account.Registration
import SipSimple.Account.RequestLoopRules

/-!
# A deactivated registrar stays unregistered

`deactivate` and `stop` clear the flag that every source of commands asks and queue a command behind what is
there. Once the loop has handled it nothing is registered, and as only `activate` sets the flag again, nothing
that comes later brings a command that registers: the retries, the expiries and the changes of the settings and
the network find the flag cleared.

A REGISTER may still be in flight then: a handler that has sent one takes the news that the registration before
has expired, which waits in the channel, for its answer, and drops the registration. If that REGISTER is
challenged, the core sends it again.
-/

namespace SipSimple.Account

open SipSimple.Core RequestLoop

/-- The handler of a command that registers runs. -/
def LoopPhase.acquiring {Payload : Type} : LoopPhase Payload → Bool
  | .lookup _ _ | .awaiting _ _ _ => true
  | _ => false

namespace RequestLoop

variable {Env Request Etag Success Saved Payload Call : Type}
  {kind : RequestKind Env Request Etag Success Saved Payload}
  {loop : RequestLoop Request Etag Success Saved Payload Call}

/-! ### What is kept goes with the holder -/

/-- Nothing is kept without a holder, and a handler that registers has one. -/
structure Kept (loop : RequestLoop Request Etag Success Saved Payload Call) : Prop where
  saved : loop.holder = none → loop.saved = none
  holder : loop.phase.acquiring → loop.holder.isSome

theorem kept_signal (h : loop.Kept) (event : Nat) : (loop.signal event).Kept := by
  rw [RequestLoop.signal]
  split
  · refine ⟨h.saved, fun hsubscribed => ?_⟩
    cases hsubscribed
  · exact ⟨h.saved, h.holder⟩

theorem keeping : HandlerRule (fun loop : RequestLoop Request Etag Success Saved Payload Call =>
    loop.holder = none → loop.saved = none) Kept where
  read := fun _ hsaved => hsaved
  waits := fun _ _ _ hsaved => hsaved
  transmit := by
    intro loop id holder request ending _ hnone
    cases hnone
  notTransmitted := by
    intro loop id holder _ hnone
    cases hnone
  fail := fun _ _ _ => ⟨fun _ => rfl, nofun⟩
  die := fun _ hsaved => ⟨hsaved, nofun⟩
  block := fun _ _ _ hsaved hholder => ⟨hsaved, fun _ => hholder⟩
  succeed := by
    intro loop event saved _ hholder
    apply kept_signal
    refine ⟨fun hnone => ?_, nofun⟩
    have hnone : loop.holder = none := hnone
    simp [hnone] at hholder
  leave := by
    intro loop event hsaved _
    apply kept_signal
    exact ⟨hsaved, nofun⟩

theorem kept_released (hsaved : loop.holder = none → loop.saved = none) (event : Nat) (terminate : Bool) :
    (loop.released event terminate).Kept := by
  apply kept_signal
  refine ⟨hsaved, ?_⟩
  cases terminate <;> nofun

theorem kept_awaitEnd (hsaved : loop.holder = none → loop.saved = none) {event : Nat} {terminate : Bool}
    {channel : List (RequestAnswer Success)} : (loop.awaitEnd event terminate channel).Kept := by
  induction channel with
  | nil => exact ⟨hsaved, nofun⟩
  | cons answer channel ih =>
      cases answer with
      | didSucceed data => exact ih
      | didEnd | didFail | didNotEnd =>
          apply kept_released
          exact fun _ => rfl

theorem kept_release (hsaved : loop.holder = none → loop.saved = none) {sends terminate : Bool}
    {event : Nat} : (loop.release kind sends event terminate).Kept := by
  unfold RequestLoop.release
  split
  · apply kept_released
    exact hsaved
  · split
    · split
      · apply kept_awaitEnd
        exact hsaved
      · split
        · apply kept_awaitEnd
          intro hnone
          cases hnone
        · apply kept_awaitEnd
          intro hnone
          cases hnone
    · apply kept_released
      exact fun _ => rfl

theorem Kept.acquire (h : loop.Kept) {interval event : Nat} {payload : Payload}
    {refreshInterval : Option Nat} : (loop.acquire kind interval payload refreshInterval event).Kept := by
  unfold RequestLoop.acquire
  split
  · exact kept_signal h event
  · split
    next => exact ⟨nofun, fun _ => rfl⟩
    next found hfound =>
      refine ⟨h.saved, fun _ => ?_⟩
      show loop.holder.isSome
      rw [hfound]
      rfl

theorem Kept.take (h : loop.Kept) {interval : Nat} {sends : Bool} : (loop.take kind interval sends).Kept := by
  unfold RequestLoop.take
  split
  next command commands _ _ =>
    have htaken : ({ loop with commandChannel := commands } :
        RequestLoop Request Etag Success Saved Payload Call).Kept := ⟨h.saved, h.holder⟩
    dsimp only
    split
    · exact htaken.acquire
    · exact kept_release htaken.saved
    · exact kept_release htaken.saved
  next => exact h

theorem Kept.wake (h : loop.Kept) {env : Env} {sends : Route → Bool} : (loop.wake kind env sends).Kept := by
  unfold RequestLoop.wake
  split
  next payload event routes hphase =>
    apply keeping.readAnswer h.saved
    · exact h.holder (by rw [hphase]; rfl)
    · exact fun _ => keeping.tryRoutes h.saved
  next => exact kept_awaitEnd h.saved
  next => exact h

/-! ### What a handler leaves alone -/

/-- The flag and the commands that are queued. -/
def Leaves (active : Bool) (commands : List (LoopCommand Payload))
    (loop : RequestLoop Request Etag Success Saved Payload Call) : Prop :=
  loop.active = active ∧ loop.commandChannel = commands

variable {active : Bool} {commands : List (LoopCommand Payload)}

theorem leaves_signal (h : loop.Leaves active commands) (event : Nat) :
    (loop.signal event).Leaves active commands := by
  rw [RequestLoop.signal]
  split <;> exact h

theorem leaving : HandlerRule
    (fun loop : RequestLoop Request Etag Success Saved Payload Call => loop.Leaves active commands)
    fun loop => loop.Leaves active commands where
  read := fun _ h => h
  waits := fun _ _ _ h => h
  transmit := fun _ _ _ _ h => h
  notTransmitted := fun _ _ h => h
  fail := fun _ _ h => h
  die := fun _ h => h
  block := fun _ _ _ h _ => h
  succeed := by
    intro loop event saved h _
    apply leaves_signal
    exact h
  leave := by
    intro loop event h _
    apply leaves_signal
    exact h

/-- After a handler that gives up what is held: it waits for the end, or nothing is left. -/
structure GivenUp (active : Bool) (commands : List (LoopCommand Payload))
    (loop : RequestLoop Request Etag Success Saved Payload Call) : Prop where
  leaves : loop.Leaves active commands
  timer : loop.timer = none
  held : loop.held = false
  phase : (∃ event terminate, loop.phase = .releasing event terminate) ∨
    loop.holder = none ∧ loop.saved = none ∧
      (loop.phase = .idle ∨ loop.phase = .off ∨ loop.phase = .dead)

theorem givenUp_signal (hleaves : loop.Leaves active commands) (htimer : loop.timer = none)
    (hheld : loop.held = false) (hholder : loop.holder = none) (hsaved : loop.saved = none)
    (hphase : loop.phase = .idle ∨ loop.phase = .off) (event : Nat) :
    (loop.signal event).GivenUp active commands := by
  unfold RequestLoop.signal
  split
  · exact ⟨hleaves, htimer, hheld, .inr ⟨hholder, hsaved, .inr (.inr rfl)⟩⟩
  · exact ⟨hleaves, htimer, hheld, .inr ⟨hholder, hsaved, hphase.imp_right .inl⟩⟩

theorem givenUp_released (hleaves : loop.Leaves active commands) (htimer : loop.timer = none)
    (hheld : loop.held = false) (hholder : loop.holder = none) (hsaved : loop.saved = none) (event : Nat)
    (terminate : Bool) : (loop.released event terminate).GivenUp active commands := by
  unfold RequestLoop.released
  apply givenUp_signal <;> first | assumption | skip
  cases terminate with
  | true => exact .inr rfl
  | false => exact .inl rfl

theorem givenUp_awaitEnd (hleaves : loop.Leaves active commands) (htimer : loop.timer = none)
    (hheld : loop.held = false) {event : Nat} {terminate : Bool} {channel : List (RequestAnswer Success)} :
    (loop.awaitEnd event terminate channel).GivenUp active commands := by
  induction channel with
  | nil => exact ⟨hleaves, htimer, hheld, .inl ⟨event, terminate, rfl⟩⟩
  | cons answer channel ih =>
      cases answer with
      | didSucceed data => exact ih
      | didEnd | didFail | didNotEnd => apply givenUp_released <;> first | assumption | rfl

theorem givenUp_release (hleaves : loop.Leaves active commands)
    (hsaved : loop.holder = none → loop.saved = none) {sends terminate : Bool} {event : Nat} :
    (loop.release kind sends event terminate).GivenUp active commands := by
  unfold RequestLoop.release
  split
  next hnone => apply givenUp_released <;> first | exact hsaved hnone | assumption | rfl
  next id holder _ =>
    split
    · split
      · apply givenUp_awaitEnd <;> first | assumption | rfl
      · split <;> apply givenUp_awaitEnd <;> first | assumption | rfl
    · apply givenUp_released <;> first | assumption | rfl

theorem sent_signal (event : Nat) : (loop.signal event).sent = loop.sent := by
  unfold RequestLoop.signal
  split <;> rfl

theorem phase_signal (event : Nat) :
    (loop.signal event).phase = .dead ∨ (loop.signal event).phase = loop.phase := by
  unfold RequestLoop.signal
  split
  · exact .inl rfl
  · exact .inr rfl

/-- Without a holder nothing is sent. -/
theorem sent_release (hholder : loop.holder = none) {sends terminate : Bool} {event : Nat} :
    (loop.release kind sends event terminate).sent = loop.sent := by
  unfold RequestLoop.release
  split
  next => exact sent_signal event
  next id holder hsome =>
    rw [hholder] at hsome
    cases hsome

theorem leaves_acquire (h : loop.Leaves active commands) {interval event : Nat} {payload : Payload}
    {refreshInterval : Option Nat} :
    (loop.acquire kind interval payload refreshInterval event).Leaves active commands := by
  unfold RequestLoop.acquire
  split
  · exact leaves_signal h event
  · split <;> exact h

theorem leaves_wake (h : loop.Leaves active commands) (hholder : loop.phase.acquiring → loop.holder.isSome)
    {env : Env} {sends : Route → Bool} : (loop.wake kind env sends).Leaves active commands := by
  unfold RequestLoop.wake
  split
  next payload event routes hphase =>
    apply leaving.readAnswer h
    · exact hholder (by rw [hphase]; rfl)
    · exact fun _ => leaving.tryRoutes h
  next event terminate hphase =>
    generalize loop.dataChannel = channel
    induction channel with
    | nil => exact h
    | cons answer channel ih =>
        cases answer with
        | didSucceed data => exact ih
        | didEnd | didFail | didNotEnd =>
            apply leaves_signal
            exact h
  next => exact h

end RequestLoop

namespace Registrar

variable {self : Registrar} {input : RegistrarInput}

/-! ### The inputs that are not a handler's -/

/-- No command that registers is queued. -/
def NoAcquire (commands : List (LoopCommand Unit)) : Prop :=
  ∀ command ∈ commands, ∀ payload refreshInterval, command.name ≠ .acquire payload refreshInterval

theorem noAcquire_nil : NoAcquire [] := nofun

theorem NoAcquire.append {commands more : List (LoopCommand Unit)} (h : NoAcquire commands)
    (hmore : NoAcquire more) : NoAcquire (commands ++ more) :=
  fun command hmem => (List.mem_append.mp hmem).elim (h command) (hmore command)

theorem noAcquire_single {name : CommandName Unit} (hname : name = .release ∨ name = .terminate) (event : Nat) :
    NoAcquire [{ name, event }] := by
  intro command hmem payload refreshInterval heq
  rw [List.mem_singleton.mp hmem] at heq
  rcases hname with rfl | rfl <;> cases heq

/-- What the core sends again for an input. -/
def renews (self : Registrar) : RegistrarInput → List RegisterRequest
  | .requestDidFail request code _ _ =>
      if request.needAuth ∧ code ∈ [401, 407] then
        if request ∈ self.wire ∧ request ∉ self.cancelled then [request.withAuth] else []
      else []
  | _ => []

/-- What an input may change while no handler runs: a loop may start, the timer may fire, and the core may send a
request again. -/
structure Beside (again : List RegisterRequest) (loop other : Registrar) : Prop where
  phase : other.phase = loop.phase ∨ loop.phase = .off ∧ other.phase = .idle
  holder : other.holder.isSome = loop.holder.isSome
  saved : other.saved = loop.saved
  held : other.held = loop.held
  timer : RequestLoop.timer loop = none → RequestLoop.timer other = none
  sent : other.sent = again ++ loop.sent

/-- The inputs that a handler takes or goes on with. -/
def runsHandler : RegistrarInput → Bool
  | .take _ _ | .lookedUp _ _ _ | .wake _ _ => true
  | _ => false

/-- What `Beside` looks at. -/
def standing (loop : Registrar) :=
  (loop.phase, loop.holder.isSome, loop.saved, loop.held, RequestLoop.timer loop, loop.sent)

theorem beside_of_standing {other : Registrar} (h : standing other = standing self) : Beside [] self other := by
  obtain ⟨hphase, hholder, hsaved, hheld, htimer, hsent⟩ := by
    simpa only [standing, Prod.mk.injEq] using h
  exact ⟨.inl hphase, hholder, hsaved, hheld, fun hnone => htimer.trans hnone, hsent⟩

theorem beside_activate : Beside [] self self.activate := by
  unfold activate
  split <;> exact beside_of_standing rfl

theorem beside_deactivate : Beside [] self self.deactivate := by
  unfold deactivate
  split <;> exact beside_of_standing rfl

theorem beside_reregister : Beside [] self self.reregister := by
  unfold reregister
  split <;> exact beside_of_standing rfl

theorem beside_answered {request : RegisterRequest}
    {handle : Registration → Registration × List (RequestAnswer RegistrationSuccess)} :
    Beside [] self (self.answered request handle) := by
  unfold RequestLoop.answered
  split
  · split
    next => exact beside_of_standing rfl
    next id holder hholder =>
      refine ⟨.inl rfl, ?_, rfl, rfl, fun h => h, rfl⟩
      rw [hholder]
      rfl
  · exact beside_of_standing rfl

/-- A challenged request is sent again. -/
theorem beside_challenged {request again : RegisterRequest} :
    Beside (if request ∈ self.wire ∧ request ∉ self.cancelled then [again] else []) self
      (self.challenged request again) := by
  unfold RequestLoop.challenged
  split
  · exact ⟨.inl rfl, Option.isSome_map, rfl, rfl, fun h => h, rfl⟩
  · exact beside_of_standing rfl

theorem beside_timer : Beside [] self self.timer := by
  unfold timer
  split
  · unfold RequestLoop.retry
    split
    next => exact beside_of_standing rfl
    next => exact ⟨.inl rfl, rfl, rfl, rfl, fun _ => rfl, rfl⟩
  · exact ⟨.inl rfl, rfl, rfl, rfl, fun _ => rfl, rfl⟩

theorem beside_runCall : Beside [] self self.runCall := by
  unfold runCall
  split
  next => exact beside_of_standing rfl
  next sender answer reactor _ =>
    unfold RequestLoop.deliver
    split <;> exact beside_of_standing rfl
  next => split <;> exact beside_of_standing rfl

theorem beside_handle (hinput : runsHandler input = false) :
    Beside (self.renews input) self (self.handle input) := by
  cases input with
  | take registerInterval sends => cases hinput
  | lookedUp env sends result => cases hinput
  | wake env sends => cases hinput
  | start register =>
      simp only [handle, start, activate]
      split
      next hoff => split_ifs <;> exact ⟨.inr ⟨hoff.2, rfl⟩, rfl, rfl, rfl, fun h => h, rfl⟩
      next => exact beside_of_standing rfl
  | stop =>
      simp only [handle, RequestLoop.stop]
      split <;> exact beside_of_standing rfl
  | activate => exact beside_activate
  | deactivate => exact beside_deactivate
  | reregister => exact beside_reregister
  | networkConditionsDidChange => exact beside_reregister
  | settingsDidChange modified register =>
      simp only [handle, settingsDidChange]
      split_ifs
      · exact beside_of_standing rfl
      · exact beside_activate
      · exact beside_deactivate
      · exact beside_reregister
      · exact beside_of_standing rfl
  | timer => exact beside_timer
  | tick seconds => exact beside_of_standing rfl
  | runCall => exact beside_runCall
  | requestDidSucceed request data => exact beside_answered
  | requestDidFail request code reason minExpires =>
      rw [handle, renews]
      by_cases hauth : request.needAuth ∧ code ∈ [401, 407]
      · rw [if_pos hauth, if_pos hauth]
        exact beside_challenged
      · rw [if_neg hauth, if_neg hauth]
        exact beside_answered
  | requestWillExpire request =>
      simp only [handle, RequestLoop.expiring]
      split
      · exact beside_of_standing rfl
      · split <;> exact beside_of_standing rfl
  | requestDidEnd request =>
      simp only [handle, RequestLoop.expired]
      split
      next => exact beside_of_standing rfl
      next id holder hholder =>
        refine ⟨.inl rfl, ?_, rfl, rfl, fun h => h, rfl⟩
        rw [hholder]
        rfl

/-! ### What a registrar keeps -/

theorem Beside.kept {again : List RegisterRequest} {other : Registrar} (h : Beside again self other) (hkept : self.Kept) : other.Kept where
  saved := by
    intro hnone
    rw [h.saved]
    apply hkept.saved
    rw [← Option.isNone_iff_eq_none, ← Option.not_isSome, ← h.holder, hnone]
    rfl
  holder := by
    intro hacquiring
    rw [h.holder]
    apply hkept.holder
    rcases h.phase with hphase | ⟨_, hphase⟩
    · rw [← hphase]
      exact hacquiring
    · rw [hphase] at hacquiring
      cases hacquiring

theorem kept_handle (h : self.Kept) (input : RegistrarInput) : (self.handle input).Kept := by
  cases hinput : runsHandler input with
  | false => exact (beside_handle hinput).kept h
  | true =>
      cases input with
      | take registerInterval sends => exact h.take
      | lookedUp env sends result => exact keeping.lookedUp h.saved h
      | wake env sends => exact h.wake
      | _ => cases hinput

theorem kept_step (h : self.Kept) (input : RegistrarInput) : (self.step input).Kept := by
  have hfresh : RequestLoop.Kept ({ self with failed := none } : Registrar) := ⟨h.saved, h.holder⟩
  exact kept_handle hfresh input

theorem kept_run (inputs : List RegistrarInput) : (Runs.run step {} inputs).Kept := by
  have hstart : ({} : Registrar).Kept := ⟨fun _ => rfl, nofun⟩
  exact Runs.always_run RequestLoop.Kept (fun _ input h => kept_step h input) hstart inputs

/-- The inputs that set the flag. -/
def activates (self : Registrar) : RegistrarInput → Bool
  | .activate => self.started
  | .start register => !self.started && self.phase = .off && register
  | .settingsDidChange modified register =>
      self.started && "enabled" ∉ modified && "sip.register" ∈ modified && register
  | _ => false

/-- The inputs that clear the flag and queue `unregister` or `terminate`. -/
def deactivates (self : Registrar) : RegistrarInput → Bool
  | .deactivate | .stop => self.started
  | .settingsDidChange modified register =>
      self.started && "enabled" ∉ modified && "sip.register" ∈ modified && !register
  | _ => false

/-- What is queued while no handler runs, with the flag cleared. -/
structure Aside (loop other : Registrar) : Prop where
  active : other.active = false
  commands : ∃ more, NoAcquire more ∧ other.commandChannel = loop.commandChannel ++ more

theorem aside_same {other : Registrar} (hactive : other.active = false)
    (hcommands : other.commandChannel = self.commandChannel) : Aside self other :=
  ⟨hactive, [], noAcquire_nil, by rw [hcommands, List.append_nil]⟩

theorem aside_deactivate (hactive : self.active = false) : Aside self self.deactivate := by
  unfold deactivate
  split
  · exact ⟨rfl, _, noAcquire_single (.inl rfl) self.serial, rfl⟩
  · exact aside_same hactive rfl

theorem aside_reregister (hactive : self.active = false) : Aside self self.reregister := by
  unfold reregister
  rw [hactive]
  exact aside_same hactive rfl

theorem aside_answered (hactive : self.active = false) {request : RegisterRequest}
    {handle : Registration → Registration × List (RequestAnswer RegistrationSuccess)} :
    Aside self (self.answered request handle) := by
  unfold RequestLoop.answered
  split
  · split <;> exact aside_same hactive rfl
  · exact aside_same hactive rfl

theorem aside_challenged (hactive : self.active = false) {request again : RegisterRequest} :
    Aside self (self.challenged request again) := by
  unfold RequestLoop.challenged
  split <;> exact aside_same hactive rfl

/-- Without the flag no command that registers is queued. -/
theorem aside_handle (hactive : self.active = false) (hinput : runsHandler input = false)
    (hquiet : self.activates input = false) : Aside self (self.handle input) := by
  cases input with
  | take registerInterval sends => cases hinput
  | lookedUp env sends result => cases hinput
  | wake env sends => cases hinput
  | start register =>
      simp only [handle, start]
      split
      next hoff =>
        have hregister : register = false := by simpa [activates, hoff.1, hoff.2] using hquiet
        rw [hregister]
        exact aside_same hactive rfl
      next => exact aside_same hactive rfl
  | stop =>
      simp only [handle, RequestLoop.stop]
      split
      · exact ⟨rfl, _, noAcquire_single (.inr rfl) self.serial, rfl⟩
      · exact aside_same hactive rfl
  | activate =>
      have hstarted : self.started = false := hquiet
      simp only [handle, activate, hstarted]
      exact aside_same hactive rfl
  | deactivate => exact aside_deactivate hactive
  | reregister => exact aside_reregister hactive
  | networkConditionsDidChange => exact aside_reregister hactive
  | settingsDidChange modified register =>
      simp only [handle, settingsDidChange]
      split_ifs with hoff hsip hregister
      · exact aside_same hactive rfl
      · simp_all [activates]
      · exact aside_deactivate hactive
      · exact aside_reregister hactive
      · exact aside_same hactive rfl
  | timer =>
      simp only [handle, timer, hactive]
      exact aside_same rfl rfl
  | tick seconds => exact aside_same hactive rfl
  | runCall =>
      simp only [handle, runCall]
      split
      next => exact aside_same hactive rfl
      next sender answer reactor _ =>
        unfold RequestLoop.deliver
        split <;> exact aside_same hactive rfl
      next =>
        rw [hactive]
        exact aside_same rfl rfl
  | requestDidSucceed request data => exact aside_answered hactive
  | requestDidFail request code reason minExpires =>
      rw [handle]
      split
      · exact aside_challenged hactive
      · exact aside_answered hactive
  | requestWillExpire request =>
      simp only [handle, RequestLoop.expiring]
      split
      · exact aside_same hactive rfl
      · split <;> exact aside_same hactive rfl
  | requestDidEnd request =>
      simp only [handle, RequestLoop.expired]
      split <;> exact aside_same hactive rfl

/-! ### After a deactivation -/

/-- Nothing is registered, kept or about to be tried again. -/
structure Unregistered (loop : Registrar) : Prop where
  held : loop.held = false
  holder : loop.holder = none
  timer : RequestLoop.timer loop = none
  saved : loop.saved = none

/-- The command with the event is handled: no handler runs, and it is not queued. -/
def Handled (event : Nat) (loop : Registrar) : Prop :=
  (loop.phase = .idle ∨ loop.phase = .off) ∧ ∀ command ∈ loop.commandChannel, command.event ≠ event

/-- The command that unregisters is queued, and none that registers behind it. -/
def Queued (event : Nat) (loop : Registrar) : Prop :=
  loop.active = false ∧ ∃ before command after,
    loop.commandChannel = before ++ command :: after ∧ command.event = event ∧
      NoAcquire (command :: after)

/-- What is registered has been given up. -/
def Quiet (loop : Registrar) : Prop :=
  ∃ commands, loop.GivenUp false commands ∧ NoAcquire commands

theorem quiet_release {loop : Registrar} (hactive : loop.active = false)
    (hcommands : NoAcquire loop.commandChannel) (hsaved : loop.holder = none → loop.saved = none)
    {sends terminate : Bool} {event : Nat} : Quiet (RequestLoop.release kind sends event terminate loop) :=
  ⟨loop.commandChannel, givenUp_release ⟨hactive, rfl⟩ hsaved, hcommands⟩

theorem quiet_take (hquiet : Quiet self) {registerInterval : Nat} {sends : Bool} :
    Quiet (RequestLoop.take kind registerInterval sends self) := by
  obtain ⟨commands, hgiven, hcommands⟩ := hquiet
  unfold RequestLoop.take
  split
  next command rest hphase hchannel =>
    have hqueued : commands = command :: rest := hgiven.leaves.2.symm.trans hchannel
    rw [hqueued] at hcommands
    have hrest : NoAcquire rest := fun other hmem => hcommands other (List.mem_cons_of_mem command hmem)
    have hsaved : self.holder = none → self.saved = none := by
      intro _
      rcases hgiven.phase with ⟨event, terminate, hreleasing⟩ | ⟨_, hsaved, _⟩
      · rw [hreleasing] at hphase
        cases hphase
      · exact hsaved
    dsimp only
    split
    next payload refreshInterval hname =>
      exact absurd hname (hcommands command List.mem_cons_self payload refreshInterval)
    all_goals
      apply quiet_release
      · exact hgiven.leaves.1
      · exact hrest
      · exact hsaved
  next => exact ⟨commands, hgiven, hcommands⟩

theorem quiet_aside {again : List RegisterRequest} {other : Registrar} (hquiet : Quiet self)
    (hbeside : Beside again self other)
    (haside : Aside self other) : Quiet other := by
  obtain ⟨commands, hgiven, hcommands⟩ := hquiet
  obtain ⟨more, hmore, hqueued⟩ := haside.commands
  rw [hgiven.leaves.2] at hqueued
  refine ⟨commands ++ more, ⟨⟨haside.active, hqueued⟩, hbeside.timer hgiven.timer,
    hbeside.held.trans hgiven.held, ?_⟩, hcommands.append hmore⟩
  rcases hgiven.phase with ⟨event, terminate, hreleasing⟩ | ⟨hholder, hsaved, hphase⟩
  · left
    rcases hbeside.phase with hsame | ⟨hoff, _⟩
    · exact ⟨event, terminate, hsame.trans hreleasing⟩
    · rw [hreleasing] at hoff
      cases hoff
  · right
    refine ⟨?_, hbeside.saved.trans hsaved, ?_⟩
    · rw [← Option.isNone_iff_eq_none, ← Option.not_isSome, hbeside.holder, hholder]
      rfl
    · rcases hbeside.phase with hsame | ⟨_, hidle⟩
      · rw [hsame]
        exact hphase
      · exact .inl hidle

theorem quiet_handle (hquiet : Quiet self) (hinput : self.activates input = false) :
    Quiet (self.handle input) := by
  have hactive : self.active = false := by
    obtain ⟨commands, hgiven, _⟩ := hquiet
    exact hgiven.leaves.1
  cases hruns : runsHandler input with
  | false => exact quiet_aside hquiet (beside_handle hruns) (aside_handle hactive hruns hinput)
  | true =>
      cases input with
      | take registerInterval sends => exact quiet_take hquiet
      | lookedUp env sends result =>
          obtain ⟨commands, hgiven, hcommands⟩ := hquiet
          simp only [handle, RequestLoop.lookedUp]
          rcases hgiven.phase with ⟨event, terminate, hphase⟩ | ⟨_, _, hphase | hphase | hphase⟩ <;>
            rw [hphase] <;> exact ⟨commands, hgiven, hcommands⟩
      | wake env sends =>
          obtain ⟨commands, hgiven, hcommands⟩ := hquiet
          simp only [handle, RequestLoop.wake]
          rcases hgiven.phase with ⟨event, terminate, hphase⟩ | ⟨_, _, hphase | hphase | hphase⟩ <;>
            rw [hphase]
          · exact ⟨commands, givenUp_awaitEnd hgiven.leaves hgiven.timer hgiven.held, hcommands⟩
          all_goals exact ⟨commands, hgiven, hcommands⟩
      | _ => cases hruns

/-- The handler of another command leaves the queued one where it is. -/
theorem queued_of_leaves {event : Nat} {before after : List (LoopCommand Unit)} {command : LoopCommand Unit}
    (hleaves : self.Leaves false (before ++ command :: after)) (hevent : command.event = event)
    (hafter : NoAcquire (command :: after)) : Queued event self :=
  ⟨hleaves.1, before, command, after, hleaves.2, hevent, hafter⟩

theorem queued_take {event : Nat} (h : Queued event self) (hkept : self.Kept) {registerInterval : Nat}
    {sends : Bool} :
    Queued event (RequestLoop.take kind registerInterval sends self) ∨
      Quiet (RequestLoop.take kind registerInterval sends self) := by
  obtain ⟨hactive, before, command, after, hchannel, hevent, hafter⟩ := h
  unfold RequestLoop.take
  split
  next first rest hphase htaken =>
    cases before with
    | nil =>
        obtain ⟨rfl, rfl⟩ := List.cons.inj (hchannel.symm.trans htaken)
        right
        have hrest : NoAcquire after := fun other hmem => hafter other (List.mem_cons_of_mem command hmem)
        dsimp only
        split
        next payload refreshInterval hname =>
          exact absurd hname (hafter command List.mem_cons_self payload refreshInterval)
        all_goals
          apply quiet_release
          · exact hactive
          · exact hrest
          · exact hkept.saved
    | cons other before =>
        obtain ⟨rfl, rfl⟩ := List.cons.inj (hchannel.symm.trans htaken)
        left
        have hleaves : RequestLoop.Leaves false (before ++ command :: after)
            ({ self with commandChannel := before ++ command :: after } : Registrar) := ⟨hactive, rfl⟩
        dsimp only
        split
        · exact queued_of_leaves (leaves_acquire hleaves) hevent hafter
        · exact queued_of_leaves (givenUp_release hleaves hkept.saved).leaves hevent hafter
        · exact queued_of_leaves (givenUp_release hleaves hkept.saved).leaves hevent hafter
  next => exact .inl ⟨hactive, before, command, after, hchannel, hevent, hafter⟩

theorem queued_handle {event : Nat} (h : Queued event self) (hkept : self.Kept)
    (hinput : self.activates input = false) :
    Queued event (self.handle input) ∨ Quiet (self.handle input) := by
  cases hruns : runsHandler input with
  | false =>
      obtain ⟨hactive, before, command, after, hchannel, hevent, hafter⟩ := h
      have haside := aside_handle hactive hruns hinput
      obtain ⟨more, hmore, hqueued⟩ := haside.commands
      rw [hchannel, List.append_assoc, List.cons_append] at hqueued
      exact .inl (queued_of_leaves ⟨haside.active, hqueued⟩ hevent
        (List.cons_append ▸ hafter.append hmore))
  | true =>
      cases input with
      | take registerInterval sends => exact queued_take h hkept
      | lookedUp env sends result =>
          obtain ⟨hactive, before, command, after, hchannel, hevent, hafter⟩ := h
          have hleaves : self.Leaves false (before ++ command :: after) := ⟨hactive, hchannel⟩
          exact .inl (queued_of_leaves (leaving.lookedUp hleaves hleaves) hevent hafter)
      | wake env sends =>
          obtain ⟨hactive, before, command, after, hchannel, hevent, hafter⟩ := h
          exact .inl (queued_of_leaves (leaves_wake ⟨hactive, hchannel⟩ hkept.holder) hevent hafter)
      | _ => cases hruns

/-- Nothing is left to give up. -/
def Still (loop : Registrar) : Prop := ∀ event terminate, loop.phase ≠ .releasing event terminate

theorem Quiet.unregistered (hquiet : Quiet self) (hstill : Still self) : Unregistered self := by
  obtain ⟨commands, hgiven, _⟩ := hquiet
  rcases hgiven.phase with ⟨event, terminate, hphase⟩ | ⟨hholder, hsaved, _⟩
  · exact absurd hphase (hstill event terminate)
  · exact ⟨hgiven.held, hholder, hgiven.timer, hsaved⟩

theorem still_released {event : Nat} {terminate : Bool} : Still (RequestLoop.released self event terminate) := by
  intro other again hphase
  unfold RequestLoop.released at hphase
  rcases phase_signal event with hdead | hsame
  · exact nomatch hdead.symm.trans hphase
  · cases terminate <;> exact nomatch hsame.symm.trans hphase

theorem still_release {loop : Registrar} (hholder : loop.holder = none) {sends terminate : Bool} {event : Nat} :
    Still (RequestLoop.release kind sends event terminate loop) ∧
      (RequestLoop.release kind sends event terminate loop).sent = loop.sent := by
  refine ⟨?_, sent_release hholder⟩
  unfold RequestLoop.release
  split
  next => exact still_released
  next id holder hsome =>
    rw [hholder] at hsome
    cases hsome

theorem still_handle (hquiet : Quiet self) (hstill : Still self) :
    Still (self.handle input) ∧ (self.handle input).sent = self.renews input ++ self.sent := by
  have hunregistered := hquiet.unregistered hstill
  obtain ⟨commands, hgiven, hcommands⟩ := hquiet
  cases hruns : runsHandler input with
  | false =>
      have hbeside : Beside (self.renews input) self (self.handle input) := beside_handle hruns
      refine ⟨fun event terminate hphase => ?_, hbeside.sent⟩
      rcases hbeside.phase with hsame | ⟨_, hidle⟩
      · exact hstill event terminate (hsame.symm.trans hphase)
      · rw [hidle] at hphase
        cases hphase
  | true =>
      cases input with
      | take registerInterval sends =>
          simp only [handle, RequestLoop.take]
          split
          next command rest hphase hchannel =>
            rw [← hgiven.leaves.2, hchannel] at hcommands
            split
            next payload refreshInterval hname =>
              exact absurd hname (hcommands command List.mem_cons_self payload refreshInterval)
            all_goals
              apply still_release
              exact hunregistered.holder
          next => exact ⟨hstill, rfl⟩
      | lookedUp env sends result =>
          simp only [handle, RequestLoop.lookedUp]
          rcases hgiven.phase with ⟨event, terminate, hphase⟩ | ⟨_, _, hphase | hphase | hphase⟩ <;>
            rw [hphase] <;> exact ⟨hstill, rfl⟩
      | wake env sends =>
          simp only [handle, RequestLoop.wake]
          rcases hgiven.phase with ⟨event, terminate, hphase⟩ | ⟨_, _, hphase | hphase | hphase⟩
          · exact absurd hphase (hstill event terminate)
          all_goals
            rw [hphase]
            exact ⟨hstill, rfl⟩
      | _ => cases hruns

/-! ### Runs -/

theorem quiet_step (hquiet : Quiet self) (hinput : self.activates input = false) : Quiet (self.step input) := by
  have hfresh : Quiet { self with failed := none } := by
    obtain ⟨commands, hgiven, hcommands⟩ := hquiet
    exact ⟨commands, ⟨hgiven.leaves, hgiven.timer, hgiven.held, hgiven.phase⟩, hcommands⟩
  exact quiet_handle hfresh hinput

theorem still_step (hquiet : Quiet self) (hstill : Still self) :
    Still (self.step input) ∧ (self.step input).sent = self.renews input ++ self.sent := by
  have hfresh : Quiet { self with failed := none } := by
    obtain ⟨commands, hgiven, hcommands⟩ := hquiet
    exact ⟨commands, ⟨hgiven.leaves, hgiven.timer, hgiven.held, hgiven.phase⟩, hcommands⟩
  exact still_handle hfresh hstill

variable {event : Nat} {later : List RegistrarInput}

/-- What holds from the deactivation on, until the next activation. -/
def Deactivated (event : Nat) (self : Registrar) : Prop :=
  self.Kept ∧ (Queued event self ∨ Quiet self)

theorem deactivated_step (h : Deactivated event self) (hinput : self.activates input = false) :
    Deactivated event (self.step input) := by
  obtain ⟨hkept, hpending⟩ := h
  refine ⟨kept_step hkept input, ?_⟩
  rcases hpending with hqueued | hquiet
  · exact queued_handle hqueued ⟨hkept.saved, hkept.holder⟩ hinput
  · exact .inr (quiet_step hquiet hinput)

theorem deactivated_of_deactivates (hkept : self.Kept) (hinput : self.deactivates input) :
    Deactivated self.serial (self.step input) := by
  refine ⟨kept_step hkept input, .inl ?_⟩
  cases input with
  | deactivate =>
      have hstarted : self.started = true := hinput
      simp only [step, handle, deactivate, hstarted]
      exact ⟨rfl, self.commandChannel, _, [], rfl, rfl, noAcquire_single (.inl rfl) self.serial⟩
  | stop =>
      have hstarted : self.started = true := hinput
      simp only [step, handle, RequestLoop.stop, hstarted]
      exact ⟨rfl, self.commandChannel, _, [], rfl, rfl, noAcquire_single (.inr rfl) self.serial⟩
  | settingsDidChange modified register =>
      obtain ⟨⟨⟨hstarted, henabled⟩, hsip⟩, hregister⟩ : ((self.started = true ∧ "enabled" ∉ modified) ∧
          "sip.register" ∈ modified) ∧ register = false := by
        simpa [deactivates] using hinput
      simp only [step, handle, settingsDidChange, hstarted, henabled, hsip, hregister, deactivate]
      exact ⟨rfl, self.commandChannel, _, [], rfl, rfl, noAcquire_single (.inl rfl) self.serial⟩
  | _ => cases hinput

/-- The condition on an input: no REGISTER that would register is sent again. -/
def Unchallenged (self : Registrar) (input : RegistrarInput) : Prop :=
  ∀ request ∈ self.renews input, request.expires = 0

instance (input : RegistrarInput) : Decidable (Unchallenged self input) :=
  inferInstanceAs (Decidable (∀ request ∈ self.renews input, request.expires = 0))

/-- Once it is handled, nothing is registered, and what is sent is what is sent again. -/
theorem stays_run (hquiet : Quiet self) (hstill : Still self)
    (hmeets : Runs.Meets step (fun self input => self.activates input = false) self later) :
    Unregistered (Runs.run step self later) ∧
      ∃ more, (Runs.run step self later).sent = more ++ self.sent ∧
        (Runs.Meets step Unchallenged self later ↔ ∀ request ∈ more, request.expires = 0) := by
  induction later generalizing self with
  | nil => exact ⟨hquiet.unregistered hstill, [], rfl, iff_of_true trivial nofun⟩
  | cons input later ih =>
      obtain ⟨hnext, hsent⟩ : Still (self.step input) ∧ _ := still_step hquiet hstill
      obtain ⟨hunregistered, more, hmore, hchallenged⟩ := ih (quiet_step hquiet hmeets.1) hnext hmeets.2
      refine ⟨hunregistered, more ++ self.renews input, ?_, ?_⟩
      · rw [Runs.run_cons, hmore, hsent, List.append_assoc]
      · rw [Runs.Meets, hchallenged, List.forall_mem_append, and_comm]
        rfl

theorem deactivated_run (h : Deactivated event self)
    (hmeets : Runs.Meets step (fun self input => self.activates input = false) self later) :
    Deactivated event (Runs.run step self later) :=
  Runs.invariant_run (Deactivated event) (fun _ _ h hinput => deactivated_step h hinput) h hmeets

theorem Deactivated.quiet (h : Deactivated event self) (hhandled : Handled event self) :
    Quiet self ∧ Still self := by
  refine ⟨?_, ?_⟩
  · rcases h.2 with ⟨_, before, command, after, hchannel, hevent, _⟩ | hquiet
    · have hmem : command ∈ self.commandChannel := by
        rw [hchannel]
        exact List.mem_append_right before List.mem_cons_self
      exact absurd hevent (hhandled.2 command hmem)
    · exact hquiet
  · intro other terminate hphase
    rcases hhandled.1 with hidle | hoff
    · exact nomatch hidle.symm.trans hphase
    · exact nomatch hoff.symm.trans hphase

/-- **A deactivated registrar stays unregistered.** Once the command is handled that a deactivation or a stop
has queued, and until the next activation, nothing is registered, kept or about to be tried again, and no
REGISTER that would register is sent exactly if none that was left in flight is challenged. -/
theorem stays_unregistered {before after later : List RegistrarInput} {input : RegistrarInput}
    (hdeactivates : (Runs.run step {} before).deactivates input)
    (hmeets : Runs.Meets step (fun self input => self.activates input = false)
      (Runs.run step {} (before ++ [input])) (after ++ later))
    (hhandled : Handled (Runs.run step {} before).serial (Runs.run step {} (before ++ [input] ++ after))) :
    Unregistered (Runs.run step {} (before ++ [input] ++ after ++ later)) ∧
      ∃ more, (Runs.run step {} (before ++ [input] ++ after ++ later)).sent =
          more ++ (Runs.run step {} (before ++ [input] ++ after)).sent ∧
        (Runs.Meets step Unchallenged (Runs.run step {} (before ++ [input] ++ after)) later ↔
          ∀ request ∈ more, request.expires = 0) := by
  obtain ⟨hafter, hlater⟩ := Runs.meets_append.mp hmeets
  rw [← Runs.run_append] at hlater
  have hqueued : Deactivated (Runs.run step {} before).serial (Runs.run step {} (before ++ [input])) := by
    rw [Runs.run_append]
    exact deactivated_of_deactivates (kept_run before) hdeactivates
  have hdone := deactivated_run hqueued hafter
  rw [← Runs.run_append] at hdone
  obtain ⟨hquiet, hstill⟩ := hdone.quiet hhandled
  rw [Runs.run_append step {} (before ++ [input] ++ after)]
  exact stays_run hquiet hstill hlater

/-! ### Runs that are deactivated during a lookup -/

def lookupRoute : Route := { address := "192.0.2.1", port := 5060, transport := "udp" }

def lookupEnv : RegistrarEnv :=
  { contact := fun _ => some "sip:1@192.0.2.2", registerInterval := 600, instanceId := [], parseUri := .uri }

/-- The lookup of the first registration fails. -/
theorem stays_unregistered_lookup :
    let before : List RegistrarInput := [.start true, .take 600 true]
    let after : List RegistrarInput :=
      [.reregister, .lookedUp lookupEnv (fun _ => true) (.error (.dnsLookupError "NXDOMAIN")), .take 600 true]
    let later : List RegistrarInput := [.timer, .networkConditionsDidChange, .take 600 true]
    Unregistered (Runs.run step {} (before ++ [.deactivate] ++ after ++ later)) ∧
      ∃ more, (Runs.run step {} (before ++ [.deactivate] ++ after ++ later)).sent =
          more ++ (Runs.run step {} (before ++ [.deactivate] ++ after)).sent ∧
        (Runs.Meets step Unchallenged (Runs.run step {} (before ++ [.deactivate] ++ after)) later ↔
          ∀ request ∈ more, request.expires = 0) := by
  intro before after later
  apply stays_unregistered
  · decide
  · decide
  · refine ⟨by decide, ?_⟩
    intro command hmem
    exact nomatch hmem

/-- A REGISTER of a registration that expires while the routes of its refresh are looked up. -/
def registered : RegisterRequest :=
  { id := 2, contactHeader := "sip:1@192.0.2.2", routeHeader := lookupRoute, callId := 2, cseq := 1, expires := 600 }

/-- The REGISTER of the refresh. -/
def refreshed : RegisterRequest :=
  { id := 5, contactHeader := "sip:1@192.0.2.2", routeHeader := lookupRoute, callId := 5, cseq := 1, expires := 600 }

def expiresInLookup : List RegistrarInput :=
  [.start true, .take 600 true, .lookedUp lookupEnv (fun _ => true) (.ok [lookupRoute]),
    .requestDidSucceed registered { code := 200, reason := "OK", contactHeaderList := [], expiresIn := 600 },
    .runCall, .wake lookupEnv fun _ => true, .requestWillExpire registered, .runCall, .take 600 true,
    .requestDidEnd registered, .runCall]

/-- The handler sends the REGISTER of the refresh and takes the news of the expiry for its answer, the command that
unregisters finds nothing to do, and the REGISTER is challenged. -/
theorem not_stays_unregistered : ¬ ∀ (before after later : List RegistrarInput) (input : RegistrarInput),
    (Runs.run step {} before).deactivates input →
    Runs.Meets step (fun self input => self.activates input = false)
      (Runs.run step {} (before ++ [input])) (after ++ later) →
    Handled (Runs.run step {} before).serial (Runs.run step {} (before ++ [input] ++ after)) →
    ∃ more, (Runs.run step {} (before ++ [input] ++ after ++ later)).sent =
        more ++ (Runs.run step {} (before ++ [input] ++ after)).sent ∧
      ∀ request ∈ more, request.expires = 0 := by
  intro h
  obtain ⟨more, hsent, hzero⟩ := h expiresInLookup
    [.lookedUp lookupEnv (fun _ => true) (.ok [lookupRoute]), .take 600 true]
    [.requestDidFail refreshed 401 "Unauthorized" none] .deactivate (by decide) (by decide)
    ⟨by decide, by decide⟩
  have hmore : more = [refreshed.withAuth] :=
    List.append_cancel_right (hsent.symm.trans (by decide : _ = [refreshed.withAuth] ++ _))
  exact absurd (hzero refreshed.withAuth (by rw [hmore]; exact List.mem_singleton_self _)) (by decide)

end Registrar

end SipSimple.Account
