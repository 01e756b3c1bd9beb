import SipSimple.Library.Runs

/-!
# The core INVITE session

`Invitation` of `core/_core.invitation.pxi` with the pjsip invite-session callbacks that feed it. A
callback does not change the state: it schedules a timer with no delay, and the timer's function
(`_cb_state`, `_cb_sdp_done`) applies the change after the poll. The API calls change the state at
once, and so does `_fail`, when a callback cannot schedule its timer.

What pjsip decides is input: the callbacks it makes, the status of every call, the fields of
`pjsip_inv_session` and the negotiator state that the code reads. A pjsip call may make callbacks
before it returns. A read through a NULL session ends the process. Of the transfer half of the class
only the usage is kept, which `_cb_state`, `_fail` and `transfer` touch; of the messages the fields the
state code reads.
-/

namespace SipSimple.Core

inductive InvitationState where
  | incoming | outgoing | early | connecting | connected | disconnecting | disconnected
  deriving DecidableEq, Repr

inductive SubState where
  | normal | receivedProposal | sentProposal | receivedProposalRequest
  deriving DecidableEq, Repr

inductive Direction where
  | incoming | outgoing
  deriving DecidableEq, Repr

/-- `'local'` and `'remote'`. -/
inductive Originator where
  | localSide | remoteSide
  deriving DecidableEq, Repr

/-- A received or sent message: the code of a response with its reason, and the text of a Reason
header. -/
structure Message where
  code : Option Nat
  reason : Option String
  reasonText : Option String
  deriving DecidableEq, Repr

/-- The data of `SIPInvitationChangedState`. -/
structure StateChange where
  prevState : Option InvitationState
  state : InvitationState
  prevSubState : Option SubState
  subState : Option SubState
  originator : Option Originator
  code : Option Nat
  reason : Option String
  disconnectReason : Option String
  deriving DecidableEq, Repr

/-- The notifications posted with `_add_event`. -/
inductive Event where
  | changedState (change : StateChange)
  | gotSDPUpdate (succeeded : Bool)
  | transferNewOutgoing
  | transferDidFail
  deriving DecidableEq, Repr

/-- `StateCallbackTimer`. -/
structure StateTimer where
  state : InvitationState
  subState : Option SubState
  rdata : Option Message
  tdata : Option Message
  originator : Option Originator
  deriving DecidableEq, Repr

/-- The timers scheduled with no delay. -/
inductive Timer where
  | state (timer : StateTimer)
  | sdpDone (succeeded : Bool)
  | postpollFail
  deriving DecidableEq, Repr

inductive NegState where
  | localOffer | remoteOffer | done | other
  deriving DecidableEq, Repr

/-- What the code reads through `_invite_session`. -/
structure InviteSession where
  cancelling : Bool
  cause : Nat
  causeText : String
  inviteTsx : Option Nat
  neg : NegState
  deriving DecidableEq, Repr

structure Invitation where
  state : Option InvitationState
  subState : Option SubState
  direction : Option Direction
  /-- `_invite_session` is not NULL. -/
  inviteSession : Bool
  /-- `_invite_session.mod_data` leads back to the invitation. -/
  attached : Bool
  reinviteTransaction : Option Nat
  transferUsage : Bool
  /-- `_sdp_neg_status` is 0. -/
  sdpNegotiated : Bool
  failedResponse : Bool
  /-- `sdp.proposed_remote` is not None. -/
  proposedRemote : Bool
  /-- `_timer` is scheduled. -/
  timer : Bool
  /-- The timers with no delay, in the order they were scheduled. -/
  pending : List Timer
  /-- The notifications posted so far. -/
  events : List Event
  /-- The process was ended by a read through NULL. -/
  crashed : Bool
  deriving DecidableEq, Repr

/-- `Invitation()`. -/
def Invitation.new : Invitation where
  state := none
  subState := none
  direction := none
  inviteSession := false
  attached := false
  reinviteTransaction := none
  transferUsage := false
  sdpNegotiated := false
  failedResponse := false
  proposedRemote := false
  timer := false
  pending := []
  events := []
  crashed := false

namespace Invitation

def addEvent (invitation : Invitation) (event : Event) : Invitation :=
  { invitation with events := invitation.events ++ [event] }

def schedule (invitation : Invitation) (timer : Timer) : Invitation :=
  { invitation with pending := invitation.pending ++ [timer] }

/-- `event_dict["prev_sub_state"]`, present when the previous state is `connected`. -/
def prevSubState (invitation : Invitation) : Option SubState :=
  if invitation.state = some .connected then invitation.subState else none

/-! ### Callbacks -/

/-- The end of the transfer with the session, in `_fail` and `_cb_state`. -/
def failTransfer (invitation : Invitation) : Invitation :=
  if invitation.transferUsage then
    { invitation with transferUsage := false }.addEvent .transferDidFail
  else invitation

/-- `_fail`: the state change that could not be scheduled is replaced by a disconnect, at once. -/
def fail (invitation : Invitation) : Invitation :=
  if !invitation.inviteSession then { invitation with crashed := true }
  else
    let invitation := { invitation.failTransfer with attached := false }
    let invitation :=
      if invitation.state ≠ some .disconnected then
        { invitation with state := some .disconnected, subState := none }.addEvent
          (.changedState ⟨invitation.state, .disconnected, invitation.prevSubState, none,
            some .localSide, some 0, some "internal error", some "internal error"⟩)
      else invitation
    invitation.schedule .postpollFail

/-- The states pjsip reports to `on_state_changed`; `PJSIP_INV_STATE_NULL` is never reported. -/
inductive PjState where
  | calling | incoming | early | connecting | confirmed | disconnected
  deriving DecidableEq, Repr

def PjState.name : PjState → InvitationState
  | .calling => .outgoing
  | .incoming => .incoming
  | .early => .early
  | .connecting => .connecting
  | .confirmed => .connected
  | .disconnected => .disconnected

/-- The event of a state callback. -/
inductive StateEvent where
  /-- A transaction sent a message. -/
  | tsxSent (tdata : Message) (isResponse : Bool)
  | received (rdata : Message)
  /-- A transaction received a message. -/
  | tsxReceived (rdata : Message) (isRequest : Bool)
  /-- A transport error of a client transaction. -/
  | transportError
  | other
  deriving DecidableEq, Repr

/-- The event of a transaction callback. -/
structure TsxEvent where
  tsx : Nat
  rdata : Option Message
  tdata : Option Message
  /-- The transaction is TERMINATED or COMPLETED. -/
  finished : Bool
  neg : Option NegState
  /-- The received message is a CANCEL request. -/
  isCancel : Bool
  deriving DecidableEq, Repr

/-- The callbacks of the invite session, with the data they are given. -/
inductive CallbackKind where
  | state (state : PjState) (event : StateEvent)
  | sdpDone (succeeded : Bool)
  | rxReinvite (rdata : Message) (offer : Bool) (answered : Bool)
  | tsxStateChanged (event : TsxEvent)
  deriving DecidableEq, Repr

/-- A callback, and whether the timer it makes can be scheduled. -/
structure Callback where
  kind : CallbackKind
  schedules : Bool
  deriving DecidableEq, Repr

/-- The timer of `_Invitation_cb_state`. -/
def stateTimer (invitation : Invitation) (pjState : PjState) (event : StateEvent) :
    Option StateTimer :=
  if pjState = .incoming then none
  else
    let subState := if pjState = .confirmed then some SubState.normal else none
    let timer (rdata tdata : Option Message) (originator : Option Originator) : StateTimer :=
      ⟨pjState.name, subState, rdata, tdata, originator⟩
    match event with
    | .tsxSent tdata isResponse =>
        if isResponse ∧ tdata.code = some 487 ∧ pjState.name = .disconnected ∧
            (invitation.state = some .incoming ∨ invitation.state = some .early) then none
        else some (timer none (some tdata) (some .localSide))
    | .received rdata => some (timer (some rdata) none (some .remoteSide))
    | .tsxReceived rdata isRequest =>
        if pjState ≠ .confirmed ∨ isRequest then some (timer (some rdata) none (some .remoteSide))
        else some (timer none none none)
    | .transportError =>
        some (timer (some ⟨some 408, some "Transport Error", none⟩) none (some .localSide))
    | .other => some (timer none none none)

/-- The timer of `_Invitation_cb_tsx_state_changed`, less the REFER and OPTIONS requests. -/
def tsxTimer (invitation : Invitation) (event : TsxEvent) : Option StateTimer :=
  if event.finished ∧ (event.neg = some .remoteOffer ∨ event.neg = some .done) ∧
      invitation.reinviteTransaction = some event.tsx then
    let originator :=
      if event.tdata.isSome then some Originator.localSide
      else if event.rdata.isSome then some .remoteSide
      else none
    some ⟨.connected, some .normal, event.rdata, event.tdata, originator⟩
  else if (invitation.state = some .incoming ∨ invitation.state = some .early) ∧
      invitation.direction = some .incoming ∧ event.rdata.isSome ∧ event.isCancel then
    some ⟨.disconnected, none, event.rdata, none, some .remoteSide⟩
  else none

/-- The timer of `_Invitation_cb_rx_reinvite`, made when the re-INVITE could be given its initial
answer. -/
def reinviteTimer (rdata : Message) (offer answered : Bool) : Option StateTimer :=
  if answered then
    let subState := if offer then SubState.receivedProposal else .receivedProposalRequest
    some ⟨.connected, some subState, some rdata, none, some .remoteSide⟩
  else none

/-- The timer a callback makes, if it makes one. -/
def callbackTimer (invitation : Invitation) : CallbackKind → Option Timer
  | .state pjState event => (invitation.stateTimer pjState event).map .state
  | .sdpDone succeeded => some (.sdpDone succeeded)
  | .rxReinvite rdata offer answered => (reinviteTimer rdata offer answered).map .state
  | .tsxStateChanged event => (invitation.tsxTimer event).map .state

/-- A callback reaches the invitation only while the session leads back to it. -/
def callback (invitation : Invitation) (callback : Callback) : Invitation :=
  if !invitation.attached then invitation
  else
    match invitation.callbackTimer callback.kind with
    | none => invitation
    | some timer => if callback.schedules then invitation.schedule timer else invitation.fail

/-- The pjsip calls of one API call: the callbacks they make before they return, and whether they all
return status 0. -/
structure PjCall where
  callbacks : List Callback
  ok : Bool
  deriving DecidableEq, Repr

def call (invitation : Invitation) (pjCall : PjCall) : Invitation :=
  pjCall.callbacks.foldl callback invitation

/-! ### API calls

An API call checks its arguments and the state, then makes its pjsip calls. It raises or returns; the
invitation it leaves is the same kind of result either way. -/

inductive ApiError where
  | invalidState | coreError | pjsipError | valueError
  deriving DecidableEq, Repr

abbrev ApiResult := Invitation × Option ApiError

/-- Where `send_invite` gets to: no session, a session that could not be used, or the INVITE. -/
inductive InviteOutcome where
  | noSession
  | failed (pjCall : PjCall) (addressNotAvailable : Bool)
  | sent (pjCall : PjCall)
  deriving DecidableEq, Repr

def sendInviteChecks (invitation : Invitation) (timeout : Option Int) : Option ApiError :=
  if invitation.state ≠ none then some .invalidState
  else if timeout.any (· ≤ 0) then some .valueError
  else none

/-- The invitation once `send_invite` has created the session. -/
def created (invitation : Invitation) : Invitation :=
  { invitation with direction := some .outgoing, inviteSession := true, attached := true }

def sendInvite (invitation : Invitation) (timeout : Option Int) (outcome : InviteOutcome) :
    ApiResult :=
  match invitation.sendInviteChecks timeout with
  | some error => (invitation, some error)
  | none =>
      match outcome with
      | .noSession => ({ invitation with direction := some .outgoing }, some .pjsipError)
      | .failed pjCall addressNotAvailable =>
          let invitation := invitation.created.call pjCall
          -- only the session that is terminated here stops making callbacks
          if addressNotAvailable then ({ invitation with inviteSession := false }, some .pjsipError)
          else ({ invitation with inviteSession := false, attached := false }, some .pjsipError)
      | .sent pjCall => ({ invitation.created.call pjCall with timer := timeout.isSome }, none)

/-- `argumentsOk`: the contact header could be set. -/
def sendResponseChecks (invitation : Invitation) (code : Nat) (sdp argumentsOk : Bool) :
    Option ApiError :=
  if invitation.state ≠ some .incoming ∧ invitation.state ≠ some .early ∧
      invitation.state ≠ some .connected then some .invalidState
  else if invitation.state = some .early ∧ invitation.direction ≠ some .incoming then
    some .invalidState
  else if invitation.state = some .connected ∧ invitation.subState ≠ some .receivedProposal ∧
      invitation.subState ≠ some .receivedProposalRequest then some .invalidState
  else if !argumentsOk then some .coreError
  else if 200 ≤ code ∧ code < 300 ∧ !sdp then some .coreError
  else if 300 ≤ code ∧ sdp then some .coreError
  else none

/-- `unreachable`: the errno of a failed send is EADDRNOTAVAIL or ENETUNREACH. -/
def sendResponse (invitation : Invitation) (code : Nat) (sdp argumentsOk : Bool) (pjCall : PjCall)
    (unreachable : Bool) : ApiResult :=
  match invitation.sendResponseChecks code sdp argumentsOk with
  | some error => (invitation, some error)
  | none =>
      let invitation := invitation.call pjCall
      if pjCall.ok then ({ invitation with failedResponse := false }, none)
      else if sdp ∧ invitation.proposedRemote ∧ unreachable then
        ({ invitation with failedResponse := true }, some .pjsipError)
      else (invitation, some .pjsipError)

def sendReinviteChecks (invitation : Invitation) (argumentsOk : Bool) : Option ApiError :=
  if invitation.state ≠ some .connected then some .coreError
  else if invitation.subState ≠ some .normal then some .coreError
  else if !argumentsOk then some .coreError
  else none

def sendReinvite (invitation : Invitation) (argumentsOk : Bool) (pjCall : PjCall)
    (session : InviteSession) : ApiResult :=
  match invitation.sendReinviteChecks argumentsOk with
  | some error => (invitation, some error)
  | none =>
      let invitation := invitation.call pjCall
      if !pjCall.ok then (invitation, some .pjsipError)
      else if !invitation.inviteSession then ({ invitation with crashed := true }, none)
      else
        ({ invitation with
            failedResponse := false
            reinviteTransaction := session.inviteTsx
            subState := some .sentProposal }.addEvent
          (.changedState ⟨some .connected, .connected, some .normal, some .sentProposal,
            some .localSide, none, none, none⟩), none)

def cancelReinviteChecks (invitation : Invitation) : Option ApiError :=
  if invitation.subState ≠ some .sentProposal then some .coreError
  else if !invitation.inviteSession then some .coreError
  else if invitation.reinviteTransaction = none then some .coreError
  else none

def cancelReinvite (invitation : Invitation) (pjCall : PjCall) : ApiResult :=
  match invitation.cancelReinviteChecks with
  | some error => (invitation, some error)
  | none => (invitation.call pjCall, if pjCall.ok then none else some .pjsipError)

/-- `created`: the REFER usage could be created. -/
def transferChecks (invitation : Invitation) (created : Bool) : Option ApiError :=
  if invitation.state ≠ some .connected then some .coreError
  else if invitation.transferUsage then some .coreError
  else if !created then some .pjsipError
  else none

def transfer (invitation : Invitation) (created : Bool) (pjCall : PjCall) : ApiResult :=
  match invitation.transferChecks created with
  | some error => (invitation, some error)
  | none =>
      let invitation := { invitation with transferUsage := true }.call pjCall
      if pjCall.ok then (invitation.addEvent .transferNewOutgoing, none)
      else (invitation, some .pjsipError)

/-- The checks of `end`, which returns without an error when the session is disconnected. -/
def endChecks (invitation : Invitation) (timeout : Option Int) : Option (Option ApiError) :=
  if invitation.state = some .disconnected then some none
  else if invitation.state = some .disconnecting then some (some .coreError)
  else if !invitation.inviteSession then some (some .coreError)
  else if invitation.state ≠ some .outgoing ∧ invitation.state ≠ some .early ∧
      invitation.state ≠ some .connecting ∧ invitation.state ≠ some .connected then
    some (some .coreError)
  else if invitation.state = some .early ∧ invitation.direction ≠ some .outgoing then
    some (some .coreError)
  else if timeout.any (· ≤ 0) then some (some .valueError)
  else none

/-- `end`. Ending the transfer is the first of its pjsip calls. -/
def endSession (invitation : Invitation) (timeout : Option Int) (pjCall : PjCall) : ApiResult :=
  match invitation.endChecks timeout with
  | some result => (invitation, result)
  | none =>
      let invitation := invitation.call pjCall
      if !pjCall.ok then (invitation, some .pjsipError)
      else
        ({ invitation with
            timer := timeout.isSome
            state := some .disconnecting
            subState := none }.addEvent
          (.changedState ⟨invitation.state, .disconnecting, invitation.prevSubState, none,
            some .localSide, none, none, none⟩), none)

/-! ### Timers -/

/-- `_check_ua` when the user agent is gone. -/
def uaGone (invitation : Invitation) : Invitation :=
  { invitation with
    state := some .disconnected
    subState := none
    inviteSession := false
    reinviteTransaction := none }

/-- `event_dict["disconnect_reason"]`. -/
def disconnectReason (invitation : Invitation) (timer : StateTimer) (session : InviteSession)
    (pjsipError : Bool) : String :=
  let reason := if pjsipError then "internal error" else "user request"
  if !session.cancelling ∧ timer.rdata = none ∧ 0 < session.cause then
    if session.cause = 408 then
      if invitation.direction = some .incoming ∧ invitation.state = some .connecting then
        "missing ACK"
      else "timeout"
    else session.causeText
  else if session.cancelling ∧ timer.rdata = none ∧ session.cause = 408 ∧
      invitation.state = some .disconnecting then "timeout"
  else
    match timer.rdata.bind Message.reasonText with
    | some text => if text ≠ "" then text else reason
    | none => reason

/-- The change a state timer announces, from the state it finds. -/
def stateChange (invitation : Invitation) (timer : StateTimer) (session : InviteSession)
    (pjsipError : Bool) : StateChange :=
  let message := timer.tdata.or timer.rdata
  let timedOut := timer.state = .connected ∧ timer.subState = some .normal ∧
    invitation.subState ∈ [some .receivedProposal, some .sentProposal,
      some .receivedProposalRequest] ∧ message = none
  let disconnected := timer.state = .disconnected
  { prevState := invitation.state
    state := timer.state
    prevSubState := invitation.prevSubState
    subState := if timer.state = .connected then timer.subState else none
    originator := timer.originator
    code :=
      if disconnected then some session.cause
      else if timedOut then some 408
      else message.bind Message.code
    reason :=
      if disconnected then some (if 0 < session.cause then session.causeText else "")
      else if timedOut then some "Request Timeout"
      else message.bind Message.reason
    disconnectReason :=
      if disconnected then some (invitation.disconnectReason timer session pjsipError) else none }

/-- The change of sub-state: the re-INVITE transaction and the remote offer that come with it. -/
def applySubState (invitation : Invitation) (timer : StateTimer) (session : InviteSession) :
    Invitation :=
  if timer.state ≠ .connected then invitation
  else
    match timer.subState with
    | some .receivedProposal =>
        { invitation with
          reinviteTransaction := session.inviteTsx
          proposedRemote := invitation.proposedRemote || session.neg = .remoteOffer
          crashed := !invitation.inviteSession }
    | some .sentProposal => { invitation with crashed := !invitation.inviteSession }
    | some .receivedProposalRequest =>
        { invitation with
          reinviteTransaction := session.inviteTsx
          crashed := !invitation.inviteSession }
    | _ =>
        if invitation.subState = some .receivedProposal ∨ invitation.subState = some .sentProposal ∨
            invitation.subState = some .receivedProposalRequest then
          { invitation with reinviteTransaction := none, crashed := !invitation.inviteSession }
        else invitation

/-- The end of `_cb_state`: the change is applied and posted. -/
def applyState (invitation : Invitation) (timer : StateTimer) (session : InviteSession)
    (pjsipError : Bool) : Invitation :=
  let change := invitation.stateChange timer session pjsipError
  let invitation := invitation.applySubState timer session
  let invitation :=
    if timer.state = .disconnected then
      { invitation.failTransfer with
        attached := false
        inviteSession := false
        timer := false
        crashed := !invitation.inviteSession }
    else if timer.state = .early ∨ timer.state = .connecting then { invitation with timer := false }
    else invitation
  if invitation.crashed then invitation
  else
    { invitation with state := some timer.state, subState := timer.subState }.addEvent
      (.changedState change)

/-- `_cb_state`. -/
def cbState (invitation : Invitation) (timer : StateTimer) (uaRunning : Bool)
    (session : InviteSession) (endCall : PjCall) : Invitation :=
  if !uaRunning then invitation.uaGone
  else if timer.state ≠ .early ∧ some timer.state = invitation.state ∧
      timer.subState = invitation.subState then invitation
  else if timer.state = .connected ∧ invitation.state = some .connecting ∧
      !invitation.sdpNegotiated then (invitation.endSession none endCall).1
  else if timer.state = .disconnected ∧ invitation.state ≠ some .disconnecting then
    -- the invite session may have been destroyed if it failed
    if !invitation.inviteSession then invitation
    else if session.cancelling ∨
        ((invitation.state = some .incoming ∨ invitation.state = some .early) ∧
          invitation.direction = some .incoming ∧ timer.rdata = none) then
      ({ invitation with state := some .disconnecting }.addEvent
        (.changedState ⟨invitation.state, .disconnecting, none, none, some .localSide, none, none,
          none⟩)).applyState timer session true
    else invitation.applyState timer session false
  else invitation.applyState timer session false

/-- `_cb_sdp_done`. -/
def cbSdpDone (invitation : Invitation) (succeeded : Bool) : Invitation :=
  if invitation.failedResponse then invitation
  else
    let invitation := { invitation with sdpNegotiated := succeeded, proposedRemote := false }
    if invitation.state = some .disconnecting ∨ invitation.state = some .disconnected then invitation
    else invitation.addEvent (.gotSDPUpdate succeeded)

/-- `_cb_postpoll_fail`. -/
def cbPostpollFail (invitation : Invitation) : Invitation :=
  if invitation.inviteSession then
    { invitation with
      attached := false
      inviteSession := false
      reinviteTransaction := none
      timer := false }
  else { invitation with timer := false }

/-- The first timer with no delay runs. -/
def runTimer (invitation : Invitation) (uaRunning : Bool) (session : InviteSession)
    (endCall : PjCall) : Invitation :=
  match invitation.pending with
  | [] => invitation
  | timer :: rest =>
      let invitation := { invitation with pending := rest }
      match timer with
      | .state timer => invitation.cbState timer uaRunning session endCall
      | .sdpDone succeeded => invitation.cbSdpDone succeeded
      | .postpollFail => if uaRunning then invitation.cbPostpollFail else invitation

/-! ### Runs -/

inductive Step where
  | callback (callback : Callback)
  | sendInvite (timeout : Option Int) (outcome : InviteOutcome)
  | sendResponse (code : Nat) (sdp argumentsOk : Bool) (pjCall : PjCall) (unreachable : Bool)
  | sendReinvite (argumentsOk : Bool) (pjCall : PjCall) (session : InviteSession)
  | cancelReinvite (pjCall : PjCall)
  | transfer (created : Bool) (pjCall : PjCall)
  | endSession (timeout : Option Int) (pjCall : PjCall)
  | runTimer (uaRunning : Bool) (session : InviteSession) (endCall : PjCall)
  /-- `_cb_timer_disconnect`, with the callbacks `pjsip_inv_terminate` makes. -/
  | disconnectTimer (pjCall : PjCall)
  /-- The transfer usage was created or is gone, by a REFER or one of the transfer timers. -/
  | transferActivity (usage : Bool)
  deriving DecidableEq, Repr

def step (invitation : Invitation) (input : Step) : Invitation :=
  if invitation.crashed then invitation
  else
    match input with
    | .callback callback => invitation.callback callback
    | .sendInvite timeout outcome => (invitation.sendInvite timeout outcome).1
    | .sendResponse code sdp argumentsOk pjCall unreachable =>
        (invitation.sendResponse code sdp argumentsOk pjCall unreachable).1
    | .sendReinvite argumentsOk pjCall session =>
        (invitation.sendReinvite argumentsOk pjCall session).1
    | .cancelReinvite pjCall => (invitation.cancelReinvite pjCall).1
    | .transfer created pjCall => (invitation.transfer created pjCall).1
    | .endSession timeout pjCall => (invitation.endSession timeout pjCall).1
    | .runTimer uaRunning session endCall => invitation.runTimer uaRunning session endCall
    | .disconnectTimer pjCall =>
        if invitation.timer then { invitation with timer := false }.call pjCall else invitation
    | .transferActivity usage => { invitation with transferUsage := usage }

/-- The invitation `init_incoming` leaves, for an INVITE with an SDP offer or without. -/
def initIncoming (offer : Bool) (message : Message) : Invitation :=
  { new with
    state := some .incoming
    direction := some .incoming
    inviteSession := true
    attached := true
    proposedRemote := offer }.addEvent
    (.changedState ⟨none, .incoming, none, none, some .remoteSide, message.code, message.reason,
      none⟩)

end Invitation

end SipSimple.Core
