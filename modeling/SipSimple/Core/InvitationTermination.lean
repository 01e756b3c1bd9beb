import SipSimple.Core.Invitation

/-!
# When a disconnect is final

Once `disconnected` is posted only two things can still post a change: a state timer that was scheduled
before, since `_cb_state` does not look at the state it finds, and the API call during whose pjsip
calls `_fail` posted the disconnect. `Settled` is the condition on a step that leaves both out, and it
is about the pending timers and the callbacks the step is given. A run whose steps are settled stays
`Live`, with no disconnect posted, until one step makes it `Ended`, and it is `Ended` from then on.
-/

namespace SipSimple.Core

namespace Invitation

/-- The state change an event announces. -/
@[simp] def change? : Event → Option StateChange
  | .changedState change => some change
  | .gotSDPUpdate _ => none
  | .transferNewOutgoing => none
  | .transferDidFail => none

/-- The state changes posted so far. -/
abbrev changes (invitation : Invitation) : List StateChange := invitation.events.filterMap change?

/-- `disconnected` has been posted. -/
def Posted (invitation : Invitation) : Prop :=
  ∃ change ∈ invitation.changes, change.state = .disconnected

instance (invitation : Invitation) : Decidable invitation.Posted :=
  inferInstanceAs (Decidable (∃ change ∈ invitation.changes, _))

/-- No state timer, or one for `disconnected`. -/
def quiet : Timer → Bool
  | .state timer => timer.state = .disconnected
  | _ => true

/-- Every state timer still to run is for `disconnected`. -/
def OnlyDisconnects (pending : List Timer) : Prop := ∀ timer ∈ pending, quiet timer

instance (pending : List Timer) : Decidable (OnlyDisconnects pending) :=
  inferInstanceAs (Decidable (∀ timer ∈ pending, quiet timer))

theorem OnlyDisconnects.state {pending : List Timer} (honly : OnlyDisconnects pending)
    {timer : StateTimer} (hmem : Timer.state timer ∈ pending) : timer.state = .disconnected := by
  simpa [quiet] using honly (.state timer) hmem

/-! ### The condition -/

/-- The callback's timer cannot be scheduled, and `_fail` runs. -/
def Fails (invitation : Invitation) (callback : Callback) : Prop :=
  invitation.attached = true ∧ (invitation.callbackTimer callback.kind).isSome ∧
    callback.schedules = false

instance (invitation : Invitation) (callback : Callback) :
    Decidable (invitation.Fails callback) :=
  inferInstanceAs (Decidable (_ ∧ _ ∧ _))

/-- A callback fails only when no other state change is pending. -/
def CallbackSettled (invitation : Invitation) (callback : Callback) : Prop :=
  invitation.Fails callback → invitation.state ≠ some .disconnected →
    OnlyDisconnects invitation.pending

instance (invitation : Invitation) (callback : Callback) :
    Decidable (invitation.CallbackSettled callback) :=
  inferInstanceAs (Decidable (_ → _ → _))

/-- The callbacks of an API call that posts nothing itself. -/
def CallSettled (invitation : Invitation) (pjCall : PjCall) : Prop :=
  Runs.Meets callback CallbackSettled invitation pjCall.callbacks

instance (invitation : Invitation) (pjCall : PjCall) :
    Decidable (invitation.CallSettled pjCall) :=
  Runs.decidableMeets _ _ _ _

/-- None of the callbacks of an API call fails. -/
def NoneFails (invitation : Invitation) (pjCall : PjCall) : Prop :=
  Runs.Meets callback (fun invitation callback => ¬ invitation.Fails callback) invitation
    pjCall.callbacks

instance (invitation : Invitation) (pjCall : PjCall) : Decidable (invitation.NoneFails pjCall) :=
  Runs.decidableMeets _ _ _ _

/-- The callbacks of an API call that posts a change itself when its pjsip calls succeed. -/
def PostingCallSettled (invitation : Invitation) (pjCall : PjCall) : Prop :=
  invitation.CallSettled pjCall ∧ (pjCall.ok = true → invitation.NoneFails pjCall)

instance (invitation : Invitation) (pjCall : PjCall) :
    Decidable (invitation.PostingCallSettled pjCall) :=
  inferInstanceAs (Decidable (_ ∧ (_ → _)))

def EndSettled (invitation : Invitation) (timeout : Option Int) (pjCall : PjCall) : Prop :=
  invitation.endChecks timeout = none → invitation.PostingCallSettled pjCall

instance (invitation : Invitation) (timeout : Option Int) (pjCall : PjCall) :
    Decidable (invitation.EndSettled timeout pjCall) :=
  inferInstanceAs (Decidable (_ → _))

/-- A state timer disconnects only when the timers behind it do nothing else, and the `end` that
`_cb_state` makes is settled. -/
def TimerSettled (invitation : Invitation) (uaRunning : Bool) (endCall : PjCall) : Prop :=
  match invitation.pending with
  | .state timer :: rest =>
      uaRunning = true →
        (timer.state = .disconnected → invitation.inviteSession = true →
          invitation.state ≠ some .disconnected → OnlyDisconnects rest) ∧
        (timer.state = .connected → invitation.state = some .connecting →
          invitation.sdpNegotiated = false →
            { invitation with pending := rest }.EndSettled none endCall)
  | _ => True

instance (invitation : Invitation) (uaRunning : Bool) (endCall : PjCall) :
    Decidable (invitation.TimerSettled uaRunning endCall) := by
  unfold TimerSettled
  split <;> infer_instance

/-- The condition on a step, given the state before it. -/
def Settled (invitation : Invitation) : Step → Prop
  | .callback callback => invitation.CallbackSettled callback
  | .sendInvite timeout outcome =>
      invitation.sendInviteChecks timeout = none →
        match outcome with
        | .noSession => True
        | .failed pjCall _ | .sent pjCall => invitation.created.CallSettled pjCall
  | .sendResponse code sdp argumentsOk pjCall _ =>
      invitation.sendResponseChecks code sdp argumentsOk = none → invitation.CallSettled pjCall
  | .sendReinvite argumentsOk pjCall _ =>
      invitation.sendReinviteChecks argumentsOk = none → invitation.PostingCallSettled pjCall
  | .cancelReinvite pjCall =>
      invitation.cancelReinviteChecks = none → invitation.CallSettled pjCall
  | .transfer created pjCall =>
      invitation.transferChecks created = none →
        { invitation with transferUsage := true }.CallSettled pjCall
  | .endSession timeout pjCall => invitation.EndSettled timeout pjCall
  | .runTimer uaRunning _ endCall => invitation.TimerSettled uaRunning endCall
  | .disconnectTimer pjCall =>
      invitation.timer = true → { invitation with timer := false }.CallSettled pjCall
  | .transferActivity _ => True

instance (invitation : Invitation) (input : Step) : Decidable (invitation.Settled input) := by
  cases input with
  | sendInvite timeout outcome => cases outcome <;> unfold Settled <;> infer_instance
  | _ => unfold Settled; infer_instance

/-! ### The invariant -/

/-- Nothing has been posted about a disconnect, and a timer for `disconnected` has no sub-state. -/
structure Live (invitation : Invitation) : Prop where
  subState : invitation.state = some .disconnected → invitation.subState = none
  pending : ∀ timer, Timer.state timer ∈ invitation.pending → timer.state = .disconnected →
    timer.subState = none
  changes : ∀ change ∈ invitation.changes, change.state ≠ .disconnected

/-- The last change posted is `disconnected`, and nothing is left that posts another. -/
structure Ended (invitation : Invitation) : Prop where
  state : invitation.state = some .disconnected
  subState : invitation.subState = none
  attached : invitation.attached = false
  pending : ∀ timer, Timer.state timer ∈ invitation.pending → timer.state = .disconnected ∧
    timer.subState = none
  changes : ∃ earlier change, invitation.changes = earlier ++ [change] ∧
    change.state = .disconnected ∧ ∀ change ∈ earlier, change.state ≠ .disconnected

def Sound (invitation : Invitation) : Prop := invitation.Live ∨ invitation.Ended

/-! ### What the pieces do -/

section Pieces

variable {invitation : Invitation}

theorem changes_addEvent (change : StateChange) :
    (invitation.addEvent (.changedState change)).changes = invitation.changes ++ [change] := by
  simp [changes, addEvent]

/-- Two invitations that agree on what the invariant reads. -/
structure Agrees (invitation other : Invitation) : Prop where
  state : other.state = invitation.state
  subState : other.subState = invitation.subState
  pending : other.pending = invitation.pending
  changes : other.changes = invitation.changes

theorem Live.of_agrees {other : Invitation} (hlive : invitation.Live)
    (hagrees : invitation.Agrees other) : other.Live where
  subState := by
    rw [hagrees.state, hagrees.subState]
    exact hlive.subState
  pending := by
    rw [hagrees.pending]
    exact hlive.pending
  changes := by
    rw [hagrees.changes]
    exact hlive.changes

theorem Ended.of_agrees {other : Invitation} (hended : invitation.Ended)
    (hagrees : invitation.Agrees other) (hattached : other.attached = false) : other.Ended where
  state := by rw [hagrees.state, hended.state]
  subState := by rw [hagrees.subState, hended.subState]
  attached := hattached
  pending := by
    rw [hagrees.pending]
    exact hended.pending
  changes := by
    rw [hagrees.changes]
    exact hended.changes

/-- A disconnect posted by a live invitation ends it, when only disconnects are pending. -/
theorem Live.disconnect {other : Invitation} (hlive : invitation.Live)
    (honly : OnlyDisconnects invitation.pending) (hstate : other.state = some .disconnected)
    (hsubState : other.subState = none) (hattached : other.attached = false)
    (hpending : ∀ timer, Timer.state timer ∈ other.pending → Timer.state timer ∈ invitation.pending)
    (hchanges : ∃ change, other.changes = invitation.changes ++ [change] ∧
      change.state = .disconnected) : other.Ended where
  state := hstate
  subState := hsubState
  attached := hattached
  pending timer hmem :=
    have hearlier := hpending timer hmem
    ⟨honly.state hearlier, hlive.pending timer hearlier (honly.state hearlier)⟩
  changes := by
    obtain ⟨change, hchanges, hdisconnected⟩ := hchanges
    exact ⟨invitation.changes, change, hchanges, hdisconnected, hlive.changes⟩

@[simp] theorem failTransfer_state : invitation.failTransfer.state = invitation.state := by
  unfold failTransfer
  split <;> rfl

@[simp] theorem failTransfer_subState :
    invitation.failTransfer.subState = invitation.subState := by
  unfold failTransfer
  split <;> rfl

@[simp] theorem failTransfer_pending : invitation.failTransfer.pending = invitation.pending := by
  unfold failTransfer
  split <;> rfl

@[simp] theorem failTransfer_changes :
    invitation.failTransfer.events.filterMap change? = invitation.changes := by
  unfold failTransfer
  split
  · simp [addEvent]
  · rfl

/-- `_fail` posts the disconnect, unless the state is already `disconnected`. -/
theorem sound_fail (hlive : invitation.Live)
    (honly : invitation.state ≠ some .disconnected → OnlyDisconnects invitation.pending) :
    invitation.fail.Sound := by
  unfold fail
  split
  · exact .inl (hlive.of_agrees ⟨rfl, rfl, rfl, rfl⟩)
  · simp only [failTransfer_state]
    split
    · rename_i hstate
      right
      apply hlive.disconnect (honly hstate) rfl rfl rfl
      · simp [addEvent, schedule]
      · exact ⟨_, (changes_addEvent _).trans (congrArg (· ++ [_]) failTransfer_changes), rfl⟩
    · rename_i hstate
      left
      constructor
      · simpa [schedule] using hlive.subState
      · simpa [schedule] using hlive.pending
      · show ∀ change ∈ invitation.failTransfer.changes, _
        rw [changes, failTransfer_changes]
        exact hlive.changes

theorem stateTimer_subState {pjState : PjState} {event : StateEvent} {timer : StateTimer}
    (htimer : invitation.stateTimer pjState event = some timer)
    (hstate : timer.state = .disconnected) : timer.subState = none := by
  have hconfirmed : pjState.name = .disconnected → pjState ≠ .confirmed := by
    cases pjState <;> simp [PjState.name]
  unfold stateTimer at htimer
  cases event <;> grind

theorem callbackTimer_subState {kind : CallbackKind} {timer : StateTimer}
    (htimer : invitation.callbackTimer kind = some (.state timer))
    (hstate : timer.state = .disconnected) : timer.subState = none := by
  cases kind with
  | state pjState event =>
      have hsome : invitation.stateTimer pjState event = some timer := by
        simpa [callbackTimer] using htimer
      exact stateTimer_subState hsome hstate
  | sdpDone succeeded => cases htimer
  | rxReinvite rdata offer answered =>
      have hsome : reinviteTimer rdata offer answered = some timer := by
        simpa [callbackTimer] using htimer
      unfold reinviteTimer at hsome
      split at hsome <;> cases hsome
      cases hstate
  | tsxStateChanged event =>
      have hsome : invitation.tsxTimer event = some timer := by
        simpa [callbackTimer] using htimer
      unfold tsxTimer at hsome
      split at hsome
      · cases hsome
        cases hstate
      · split at hsome <;> cases hsome
        rfl

theorem live_schedule (hlive : invitation.Live) {timer : Timer}
    (htimer : ∀ stateTimer, timer = .state stateTimer → stateTimer.state = .disconnected →
      stateTimer.subState = none) : (invitation.schedule timer).Live where
  subState := hlive.subState
  pending stateTimer hmem := by
    rcases List.mem_append.mp hmem with hearlier | hnew
    · exact hlive.pending stateTimer hearlier
    · exact htimer stateTimer (List.mem_singleton.mp hnew).symm
  changes := hlive.changes

/-- A callback that does not fail leaves a live invitation live, in the state it was in. -/
theorem live_callback (hlive : invitation.Live) {callback : Callback}
    (hfails : ¬ invitation.Fails callback) :
    (invitation.callback callback).Live ∧
      (invitation.callback callback).state = invitation.state := by
  rw [Invitation.callback.eq_def]
  split
  · exact ⟨hlive, rfl⟩
  · split
    · exact ⟨hlive, rfl⟩
    · rename_i timer htimer
      rw [if_pos (by simp_all [Fails])]
      refine ⟨live_schedule hlive ?_, rfl⟩
      rintro stateTimer rfl
      exact callbackTimer_subState htimer

theorem sound_callback (hsound : invitation.Sound) {callback : Callback}
    (hsettled : invitation.CallbackSettled callback) : (invitation.callback callback).Sound := by
  rcases hsound with hlive | hended
  · by_cases hfails : invitation.Fails callback
    · obtain ⟨hattached, htimer, hschedules⟩ := id hfails
      obtain ⟨timer, htimer⟩ := Option.isSome_iff_exists.mp htimer
      have hfail : invitation.callback callback = invitation.fail := by
        simp [Invitation.callback, hattached, htimer, hschedules]
      rw [hfail]
      exact sound_fail hlive (hsettled hfails)
    · exact .inl (live_callback hlive hfails).1
  · have hsame : invitation.callback callback = invitation := by
      simp [Invitation.callback, hended.attached]
    rw [hsame]
    exact .inr hended

theorem sound_call (hsound : invitation.Sound) {pjCall : PjCall}
    (hsettled : invitation.CallSettled pjCall) : (invitation.call pjCall).Sound := by
  show (Runs.run callback invitation pjCall.callbacks).Sound
  exact Runs.invariant_run Sound (fun _ _ hsound => sound_callback hsound) hsound hsettled

theorem live_call (hlive : invitation.Live) {pjCall : PjCall}
    (hnone : invitation.NoneFails pjCall) :
    (invitation.call pjCall).Live ∧ (invitation.call pjCall).state = invitation.state := by
  have hstep : ∀ (other : Invitation) (input : Callback), (other.Live ∧ other.state = invitation.state) →
      ¬ other.Fails input →
      (other.callback input).Live ∧ (other.callback input).state = invitation.state := by
    intro other input hother hfails
    obtain ⟨hlive, hstate⟩ := live_callback hother.1 hfails
    exact ⟨hlive, hstate.trans hother.2⟩
  exact Runs.invariant_run (fun other => other.Live ∧ other.state = invitation.state) hstep
    ⟨hlive, rfl⟩ hnone

/-- A session that has ended makes no more callbacks. -/
theorem call_of_ended (hended : invitation.Ended) (pjCall : PjCall) :
    invitation.call pjCall = invitation := by
  have hsame : ∀ callback, invitation.callback callback = invitation := by
    simp [callback, hended.attached]
  rw [call]
  induction pjCall.callbacks with
  | nil => rfl
  | cons callback callbacks ih => rw [List.foldl_cons, hsame, ih]

/-! ### API calls -/

theorem Sound.of_agrees {other : Invitation} (hsound : invitation.Sound)
    (hagrees : invitation.Agrees other)
    (hattached : invitation.attached = false → other.attached = false) : other.Sound :=
  hsound.elim (fun hlive => .inl (hlive.of_agrees hagrees))
    fun hended => .inr (hended.of_agrees hagrees (hattached hended.attached))

theorem sound_sendInvite (hsound : invitation.Sound) {timeout : Option Int}
    {outcome : InviteOutcome} (hsettled : invitation.Settled (.sendInvite timeout outcome)) :
    (invitation.sendInvite timeout outcome).1.Sound := by
  unfold sendInvite
  split
  · exact hsound
  · rename_i hchecks
    have hlive : invitation.Live := by
      rcases hsound with hlive | hended
      · exact hlive
      · simp [sendInviteChecks, hended.state] at hchecks
    have hcreated : invitation.created.Sound := .inl (hlive.of_agrees ⟨rfl, rfl, rfl, rfl⟩)
    have hcall := hsettled hchecks
    cases outcome with
    | noSession => exact .inl (hlive.of_agrees ⟨rfl, rfl, rfl, rfl⟩)
    | failed pjCall addressNotAvailable =>
        have hafter := sound_call hcreated hcall
        cases addressNotAvailable with
        | true => exact hafter.of_agrees ⟨rfl, rfl, rfl, rfl⟩ id
        | false => exact hafter.of_agrees ⟨rfl, rfl, rfl, rfl⟩ fun _ => rfl
    | sent pjCall => exact (sound_call hcreated hcall).of_agrees ⟨rfl, rfl, rfl, rfl⟩ id

theorem sound_sendResponse (hsound : invitation.Sound) {code : Nat} {sdp argumentsOk : Bool}
    {pjCall : PjCall} {unreachable : Bool}
    (hsettled : invitation.Settled (.sendResponse code sdp argumentsOk pjCall unreachable)) :
    (invitation.sendResponse code sdp argumentsOk pjCall unreachable).1.Sound := by
  unfold sendResponse
  split
  · exact hsound
  · rename_i hchecks
    have hafter := sound_call hsound (hsettled hchecks)
    dsimp only
    split_ifs
    · exact hafter.of_agrees ⟨rfl, rfl, rfl, rfl⟩ id
    · exact hafter.of_agrees ⟨rfl, rfl, rfl, rfl⟩ id
    · exact hafter

/-- A change to another state that is posted while the session is live. -/
theorem live_addEvent (hlive : invitation.Live) {change : StateChange}
    (hchange : change.state ≠ .disconnected) :
    (invitation.addEvent (.changedState change)).Live where
  subState := hlive.subState
  pending := hlive.pending
  changes := by
    rw [changes_addEvent]
    intro other hmem
    rcases List.mem_append.mp hmem with hearlier | hnew
    · exact hlive.changes other hearlier
    · rw [List.mem_singleton.mp hnew]
      exact hchange

theorem sound_sendReinvite (hsound : invitation.Sound) {argumentsOk : Bool} {pjCall : PjCall}
    {session : InviteSession}
    (hsettled : invitation.Settled (.sendReinvite argumentsOk pjCall session)) :
    (invitation.sendReinvite argumentsOk pjCall session).1.Sound := by
  unfold sendReinvite
  split
  · exact hsound
  · rename_i hchecks
    obtain ⟨hcall, hnone⟩ := hsettled hchecks
    have hafter := sound_call hsound hcall
    have hconnected : invitation.state = some .connected := by
      unfold sendReinviteChecks at hchecks
      split at hchecks
      · cases hchecks
      · rename_i hstate
        exact not_not.mp hstate
    dsimp only
    split_ifs with hok hsession
    · exact hafter
    · exact hafter.of_agrees ⟨rfl, rfl, rfl, rfl⟩ id
    · left
      have hlive : invitation.Live := by
        rcases hsound with hlive | hended
        · exact hlive
        · rw [hended.state] at hconnected
          cases hconnected
      obtain ⟨hlive, hstate⟩ := live_call hlive (hnone (by simpa using hok))
      apply live_addEvent _ (by simp)
      exact
        { subState := by simp [hstate, hconnected]
          pending := hlive.pending
          changes := hlive.changes }

theorem sound_cancelReinvite (hsound : invitation.Sound) {pjCall : PjCall}
    (hsettled : invitation.Settled (.cancelReinvite pjCall)) :
    (invitation.cancelReinvite pjCall).1.Sound := by
  unfold cancelReinvite
  split
  · exact hsound
  · rename_i hchecks
    exact sound_call hsound (hsettled hchecks)

theorem sound_transfer (hsound : invitation.Sound) {created : Bool} {pjCall : PjCall}
    (hsettled : invitation.Settled (.transfer created pjCall)) :
    (invitation.transfer created pjCall).1.Sound := by
  unfold transfer
  split
  · exact hsound
  · rename_i hchecks
    have husage : { invitation with transferUsage := true }.Sound :=
      hsound.of_agrees ⟨rfl, rfl, rfl, rfl⟩ id
    have hafter := sound_call husage (hsettled hchecks)
    dsimp only
    split_ifs
    · exact hafter.of_agrees ⟨rfl, rfl, rfl, by simp [changes, addEvent]⟩ id
    · exact hafter

theorem sound_endSession (hsound : invitation.Sound) {timeout : Option Int} {pjCall : PjCall}
    (hsettled : invitation.EndSettled timeout pjCall) :
    (invitation.endSession timeout pjCall).1.Sound := by
  unfold endSession
  split
  · exact hsound
  · rename_i hchecks
    obtain ⟨hcall, hnone⟩ := hsettled hchecks
    dsimp only
    split_ifs with hok
    · exact sound_call hsound hcall
    · left
      have hlive : invitation.Live := by
        rcases hsound with hlive | hended
        · exact hlive
        · simp [endChecks, hended.state] at hchecks
      obtain ⟨hlive, -⟩ := live_call hlive (hnone (by simpa using hok))
      apply live_addEvent _ (by simp)
      exact
        { subState := by simp
          pending := hlive.pending
          changes := hlive.changes }

/-! ### Timers -/

theorem agrees_applySubState (timer : StateTimer) (session : InviteSession) :
    invitation.Agrees (invitation.applySubState timer session) := by
  unfold applySubState
  split
  · exact ⟨rfl, rfl, rfl, rfl⟩
  · split
    · exact ⟨rfl, rfl, rfl, rfl⟩
    · exact ⟨rfl, rfl, rfl, rfl⟩
    · exact ⟨rfl, rfl, rfl, rfl⟩
    · split <;> exact ⟨rfl, rfl, rfl, rfl⟩

/-- A state timer for `disconnected` posts it, if there is a session to detach from. -/
theorem sound_applyState_disconnected (hlive : invitation.Live) {timer : StateTimer}
    {session : InviteSession} {pjsipError : Bool} (hstate : timer.state = .disconnected)
    (hsubState : timer.subState = none)
    (honly : invitation.inviteSession = true → OnlyDisconnects invitation.pending) :
    (invitation.applyState timer session pjsipError).Sound := by
  have hsame : invitation.applySubState timer session = invitation :=
    if_pos (by simp [hstate])
  unfold applyState
  simp only [hsame, hstate, if_true]
  cases hsession : invitation.inviteSession with
  | true =>
      right
      apply hlive.disconnect (honly hsession) rfl hsubState rfl
      · simp [addEvent]
      · refine ⟨_, (changes_addEvent _).trans (congrArg (· ++ [_]) failTransfer_changes), ?_⟩
        exact hstate
  | false =>
      left
      apply hlive.of_agrees
      exact ⟨failTransfer_state, failTransfer_subState, failTransfer_pending, failTransfer_changes⟩

/-- A state timer for another state leaves a live invitation live. -/
theorem live_applyState (hlive : invitation.Live) {timer : StateTimer} {session : InviteSession}
    {pjsipError : Bool} (hstate : timer.state ≠ .disconnected) :
    (invitation.applyState timer session pjsipError).Live := by
  have hlive' : (invitation.applySubState timer session).Live :=
    hlive.of_agrees (agrees_applySubState timer session)
  have happlied : ∀ other : Invitation, other.Live →
      (if other.crashed then other
        else { other with state := some timer.state, subState := timer.subState }.addEvent
          (.changedState (invitation.stateChange timer session pjsipError))).Live := by
    intro other hother
    split
    · exact hother
    · apply live_addEvent _ hstate
      exact
        { subState := fun hdisconnected => absurd (Option.some.inj hdisconnected) hstate
          pending := hother.pending
          changes := hother.changes }
  unfold applyState
  simp only [hstate, if_false]
  split
  · exact happlied _ (hlive'.of_agrees ⟨rfl, rfl, rfl, rfl⟩)
  · exact happlied _ hlive'

/-- A state timer that runs on a live invitation. -/
theorem sound_cbState (hlive : invitation.Live) {timer : StateTimer} {uaRunning : Bool}
    {session : InviteSession} {endCall : PjCall}
    (hsubState : timer.state = .disconnected → timer.subState = none)
    (honly : uaRunning = true → timer.state = .disconnected → invitation.inviteSession = true →
      invitation.state ≠ some .disconnected → OnlyDisconnects invitation.pending)
    (hend : uaRunning = true → timer.state = .connected → invitation.state = some .connecting →
      invitation.sdpNegotiated = false → invitation.EndSettled none endCall) :
    (invitation.cbState timer uaRunning session endCall).Sound := by
  unfold cbState
  split
  · exact .inl
      { subState := fun _ => rfl
        pending := hlive.pending
        changes := hlive.changes }
  rename_i hrunning
  replace hrunning : uaRunning = true := by simpa using hrunning
  split
  · exact .inl hlive
  rename_i hdifferent
  split
  · rename_i hnegotiation
    obtain ⟨hconnected, hconnecting, hsdp⟩ := hnegotiation
    exact sound_endSession (.inl hlive) (hend hrunning hconnected hconnecting (by simpa using hsdp))
  by_cases hstate : timer.state = .disconnected
  · -- a timer for the state and the sub-state the invitation is in has been left out above
    have hother : invitation.state ≠ some .disconnected := by
      intro hdisconnected
      apply hdifferent
      refine ⟨by simp [hstate], by rw [hstate, hdisconnected], ?_⟩
      rw [hsubState hstate, hlive.subState hdisconnected]
    have honly := fun hsession => honly hrunning hstate hsession hother
    split
    · split
      · exact .inl hlive
      · split
        · refine sound_applyState_disconnected ?_ hstate (hsubState hstate) honly
          apply live_addEvent _ (by simp)
          exact
            { subState := by simp
              pending := hlive.pending
              changes := hlive.changes }
        · exact sound_applyState_disconnected hlive hstate (hsubState hstate) honly
    · exact sound_applyState_disconnected hlive hstate (hsubState hstate) honly
  · rw [if_neg fun hdisconnects => hstate hdisconnects.1]
    exact .inl (live_applyState hlive hstate)

/-- A state timer left over when the session has ended finds the state it is for. -/
theorem ended_cbState (hended : invitation.Ended) {timer : StateTimer} {uaRunning : Bool}
    {session : InviteSession} {endCall : PjCall} (hstate : timer.state = .disconnected)
    (hsubState : timer.subState = none) :
    (invitation.cbState timer uaRunning session endCall).Ended ∧
      (invitation.cbState timer uaRunning session endCall).changes = invitation.changes := by
  unfold cbState
  split
  · refine ⟨hended.of_agrees ⟨?_, ?_, rfl, rfl⟩ hended.attached, rfl⟩
    · exact hended.state.symm
    · exact hended.subState.symm
  · rw [if_pos ⟨by simp [hstate], by rw [hstate, hended.state], by rw [hsubState, hended.subState]⟩]
    exact ⟨hended, rfl⟩

theorem agrees_cbSdpDone (succeeded : Bool) :
    invitation.Agrees (invitation.cbSdpDone succeeded) := by
  unfold cbSdpDone
  split
  · exact ⟨rfl, rfl, rfl, rfl⟩
  · dsimp only
    split
    · exact ⟨rfl, rfl, rfl, rfl⟩
    · exact ⟨rfl, rfl, rfl, by simp [changes, addEvent]⟩

theorem attached_cbSdpDone (succeeded : Bool) :
    (invitation.cbSdpDone succeeded).attached = invitation.attached := by
  unfold cbSdpDone
  split
  · rfl
  · dsimp only
    split <;> rfl

theorem agrees_cbPostpollFail : invitation.Agrees invitation.cbPostpollFail := by
  unfold cbPostpollFail
  split <;> exact ⟨rfl, rfl, rfl, rfl⟩

theorem attached_cbPostpollFail (hattached : invitation.attached = false) :
    invitation.cbPostpollFail.attached = false := by
  unfold cbPostpollFail
  split
  · rfl
  · exact hattached

theorem sound_runTimer (hlive : invitation.Live) {uaRunning : Bool} {session : InviteSession}
    {endCall : PjCall} (hsettled : invitation.TimerSettled uaRunning endCall) :
    (invitation.runTimer uaRunning session endCall).Sound := by
  unfold TimerSettled at hsettled
  unfold runTimer
  split
  · exact .inl hlive
  · rename_i timer rest hpending
    have hrest : { invitation with pending := rest }.Live :=
      { subState := hlive.subState
        pending := fun timer hmem => hlive.pending timer (hpending ▸ List.mem_cons_of_mem _ hmem)
        changes := hlive.changes }
    rw [hpending] at hsettled
    cases timer with
    | state timer =>
        apply sound_cbState hrest
        · exact hlive.pending timer (hpending ▸ List.mem_cons_self)
        · exact fun hrunning => (hsettled hrunning).1
        · exact fun hrunning => (hsettled hrunning).2
    | sdpDone succeeded => exact .inl (hrest.of_agrees (agrees_cbSdpDone succeeded))
    | postpollFail =>
        left
        show (if uaRunning = true then _ else _ : Invitation).Live
        split
        · exact hrest.of_agrees agrees_cbPostpollFail
        · exact hrest

theorem ended_runTimer (hended : invitation.Ended) (uaRunning : Bool) (session : InviteSession)
    (endCall : PjCall) :
    (invitation.runTimer uaRunning session endCall).Ended ∧
      (invitation.runTimer uaRunning session endCall).changes = invitation.changes := by
  unfold runTimer
  split
  · exact ⟨hended, rfl⟩
  · rename_i timer rest hpending
    have hrest : { invitation with pending := rest }.Ended :=
      { hended with
        pending := fun timer hmem => hended.pending timer (hpending ▸ List.mem_cons_of_mem _ hmem) }
    cases timer with
    | state timer =>
        obtain ⟨hstate, hsubState⟩ := hended.pending timer (hpending ▸ List.mem_cons_self)
        exact ended_cbState hrest hstate hsubState
    | sdpDone succeeded =>
        have hagrees : { invitation with pending := rest }.Agrees _ := agrees_cbSdpDone succeeded
        refine ⟨hrest.of_agrees hagrees ?_, hagrees.changes⟩
        rw [attached_cbSdpDone]
        exact hrest.attached
    | postpollFail =>
        show (if uaRunning = true then _ else _ : Invitation).Ended ∧
          (if uaRunning = true then _ else _ : Invitation).changes = _
        split
        · have hagrees : { invitation with pending := rest }.Agrees _ := agrees_cbPostpollFail
          exact ⟨hrest.of_agrees hagrees (attached_cbPostpollFail hrest.attached), hagrees.changes⟩
        · exact ⟨hrest, rfl⟩

/-! ### Steps and runs -/

/-- **One step**: a settled step of a live invitation leaves it live, or ends it. -/
theorem sound_step (hlive : invitation.Live) {input : Step} (hsettled : invitation.Settled input) :
    (invitation.step input).Sound := by
  unfold step
  split
  · exact .inl hlive
  · cases input with
    | callback callback => exact sound_callback (.inl hlive) hsettled
    | sendInvite timeout outcome => exact sound_sendInvite (.inl hlive) hsettled
    | sendResponse code sdp argumentsOk pjCall unreachable =>
        exact sound_sendResponse (.inl hlive) hsettled
    | sendReinvite argumentsOk pjCall session => exact sound_sendReinvite (.inl hlive) hsettled
    | cancelReinvite pjCall => exact sound_cancelReinvite (.inl hlive) hsettled
    | transfer created pjCall => exact sound_transfer (.inl hlive) hsettled
    | endSession timeout pjCall => exact sound_endSession (.inl hlive) hsettled
    | runTimer uaRunning session endCall => exact sound_runTimer hlive hsettled
    | disconnectTimer pjCall =>
        dsimp only
        split
        · rename_i htimer
          apply sound_call _ (hsettled htimer)
          exact .inl (hlive.of_agrees ⟨rfl, rfl, rfl, rfl⟩)
        · exact .inl hlive
    | transferActivity usage => exact .inl (hlive.of_agrees ⟨rfl, rfl, rfl, rfl⟩)

/-- A step of a session that has ended posts no change. -/
theorem ended_step (hended : invitation.Ended) (input : Step) :
    (invitation.step input).Ended ∧ (invitation.step input).changes = invitation.changes := by
  have hstate := hended.state
  have hsubState := hended.subState
  unfold step
  split
  · exact ⟨hended, rfl⟩
  · cases input with
    | callback callback =>
        have hsame : invitation.callback callback = invitation := by
          simp [Invitation.callback, hended.attached]
        show (invitation.callback callback).Ended ∧ (invitation.callback callback).changes = _
        rw [hsame]
        exact ⟨hended, rfl⟩
    | sendInvite timeout outcome =>
        simp only [sendInvite, sendInviteChecks, hstate]
        exact ⟨hended, rfl⟩
    | sendResponse code sdp argumentsOk pjCall unreachable =>
        simp only [sendResponse, sendResponseChecks, hstate]
        exact ⟨hended, rfl⟩
    | sendReinvite argumentsOk pjCall session =>
        simp only [sendReinvite, sendReinviteChecks, hstate]
        exact ⟨hended, rfl⟩
    | cancelReinvite pjCall =>
        simp only [cancelReinvite, cancelReinviteChecks, hsubState]
        exact ⟨hended, rfl⟩
    | transfer created pjCall =>
        simp only [transfer, transferChecks, hstate]
        exact ⟨hended, rfl⟩
    | endSession timeout pjCall =>
        simp only [endSession, endChecks, hstate]
        exact ⟨hended, rfl⟩
    | runTimer uaRunning session endCall => exact ended_runTimer hended uaRunning session endCall
    | disconnectTimer pjCall =>
        dsimp only
        split
        · have hcancelled : { invitation with timer := false }.Ended :=
            hended.of_agrees ⟨rfl, rfl, rfl, rfl⟩ hended.attached
          rw [call_of_ended hcancelled]
          exact ⟨hcancelled, rfl⟩
        · exact ⟨hended, rfl⟩
    | transferActivity usage =>
        exact ⟨hended.of_agrees ⟨rfl, rfl, rfl, rfl⟩ hended.attached, rfl⟩

end Pieces

/-- A new invitation, or the one of a received INVITE. -/
def Fresh (invitation : Invitation) : Prop :=
  invitation = new ∨ ∃ offer message, invitation = initIncoming offer message

theorem Fresh.live {invitation : Invitation} (hfresh : invitation.Fresh) : invitation.Live := by
  rcases hfresh with rfl | ⟨offer, message, rfl⟩
  · exact { subState := by simp [new], pending := by simp [new], changes := by simp [new] }
  · exact
      { subState := by simp [initIncoming, new, addEvent]
        pending := by simp [initIncoming, new, addEvent]
        changes := by simp [initIncoming, new, addEvent, changes] }

/-- What is left to do when a session has ended posts nothing, whatever the steps are. -/
theorem ended_run {invitation : Invitation} (hended : invitation.Ended) (inputs : List Step) :
    (Runs.run step invitation inputs).Ended ∧
      (Runs.run step invitation inputs).changes = invitation.changes := by
  induction inputs generalizing invitation with
  | nil => exact ⟨hended, rfl⟩
  | cons input inputs ih =>
      obtain ⟨hnext, hchanges⟩ := ended_step hended input
      obtain ⟨hend, hlater⟩ := ih hnext
      exact ⟨hend, hlater.trans hchanges⟩

/-- **A disconnect is final in a settled run**: it is posted once, as the last change, and the state
is `disconnected` from then on. -/
theorem disconnected_final {start : Invitation} (hfresh : start.Fresh) {before after : List Step}
    (hsettled : Runs.Meets step Settled start (before ++ after))
    (hposted : (Runs.run step start before).Posted) :
    (Runs.run step start before).state = some .disconnected ∧
      (Runs.run step start (before ++ after)).state = some .disconnected ∧
      (Runs.run step start (before ++ after)).changes = (Runs.run step start before).changes ∧
      ∃ earlier change, (Runs.run step start before).changes = earlier ++ [change] ∧
        change.state = .disconnected ∧ ∀ change ∈ earlier, change.state ≠ .disconnected := by
  have hsound : (Runs.run step start before).Sound := by
    apply Runs.invariant_run Sound _ (.inl hfresh.live) (Runs.meets_append.mp hsettled).1
    intro invitation input hsound hsettled
    rcases hsound with hlive | hended
    · exact sound_step hlive hsettled
    · exact .inr (ended_step hended input).1
  have hended : (Runs.run step start before).Ended := by
    rcases hsound with hlive | hended
    · obtain ⟨change, hmem, hdisconnected⟩ := hposted
      exact absurd hdisconnected (hlive.changes change hmem)
    · exact hended
  obtain ⟨hend, hchanges⟩ := ended_run hended after
  rw [Runs.run_append]
  exact ⟨hended.state, hend.state, hchanges, hended.changes⟩

/-! ### A disconnect that is not final -/

/-- The session as pjsip has it during a re-INVITE transaction of the remote party. -/
def reinviteSession : InviteSession :=
  { cancelling := false, cause := 200, causeText := "OK", inviteTsx := some 1, neg := .remoteOffer }

/-- An INVITE is accepted, and the remote party sends a re-INVITE. -/
def acceptedThenReinvited : List Step :=
  let message (code : Option Nat) : Message := ⟨code, none, none⟩
  let accepted : PjCall :=
    { callbacks :=
        [⟨.sdpDone true, true⟩, ⟨.state .connecting (.tsxSent (message (some 200)) true), true⟩]
      ok := true }
  let noCall : PjCall := ⟨[], true⟩
  [.sendResponse 200 true true accepted false,
    .runTimer true reinviteSession noCall, .runTimer true reinviteSession noCall,
    .callback ⟨.state .confirmed (.received (message none)), true⟩,
    .runTimer true reinviteSession noCall,
    .callback ⟨.rxReinvite (message none) true true, true⟩,
    .runTimer true reinviteSession noCall]

/-- The BYE that ends the session is received, and its timer runs. -/
def receivedBye : List Step :=
  [.callback ⟨.state .disconnected (.tsxReceived ⟨none, none, none⟩ true), true⟩,
    .runTimer true reinviteSession ⟨[], true⟩]

theorem disconnected_final_bye :
    let start := initIncoming true ⟨none, none, none⟩
    let before := acceptedThenReinvited ++ receivedBye
    let after := [Step.endSession none ⟨[], true⟩]
    (Runs.run step start before).Posted ∧
      (Runs.run step start (before ++ after)).state = some .disconnected := by
  have hposted : (Runs.run step (initIncoming true ⟨none, none, none⟩)
      (acceptedThenReinvited ++ receivedBye)).Posted := by decide
  exact ⟨hposted, (disconnected_final (.inr ⟨_, _, rfl⟩) (by decide) hposted).2.1⟩

/-- The BYE is received, and the re-INVITE is rejected before the timer of the BYE runs. -/
def rejectedAfterBye : List Step :=
  [.callback ⟨.state .disconnected (.tsxReceived ⟨none, none, none⟩ true), true⟩,
    .sendResponse 488 false true
      { callbacks :=
          [⟨.tsxStateChanged
            { tsx := 1, rdata := none, tdata := some ⟨some 488, none, none⟩, finished := true
              neg := some .remoteOffer, isCancel := false }, true⟩]
        ok := true } false,
    .runTimer true reinviteSession ⟨[], true⟩]

/-- The timer of the rejected re-INVITE posts `connected` after `disconnected`. -/
theorem disconnected_not_final :
    let start := initIncoming true ⟨none, none, none⟩
    let before := acceptedThenReinvited ++ rejectedAfterBye
    let after := [Step.runTimer true reinviteSession ⟨[], true⟩]
    (Runs.run step start before).Posted ∧
      (Runs.run step start before).state = some .disconnected ∧
      (Runs.run step start (before ++ after)).state = some .connected ∧
      (Runs.run step start (before ++ after)).changes ≠ (Runs.run step start before).changes := by
  decide

end Invitation

end SipSimple.Core
