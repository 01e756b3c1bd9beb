import SipSimple.Core.SIPURI
import SipSimple.Library.Patterns
import SipSimple.Library.Runs

/-!
# Call transfers on an invitation

The REFER subscription of an `Invitation` in `core/_core.invitation.pxi`, as the side that sends the REFER and as the
one that gets it. PJSIP tells the invitation what happens to the subscription as long as it has one; what it tells is
put into a timer without delay, and these timers run one after the other. The two timers with a delay run when their
time has come. What becomes of the calls to PJSIP is input; the messages are left out but for the text that the transfer
is reported with.
-/

namespace SipSimple.Core

/-- `_transfer_usage_role` -/
inductive TransferRole where
  | uac | uas
  deriving DecidableEq, Repr

/-- `transfer_state`: the states of a subscription, and that of a REFER that is looked at. -/
inductive TransferState where
  | incoming | null | sent | accepted | pending | active | terminated | unknown
  deriving DecidableEq, Repr

/-- The timers without delay. -/
inductive TransferTimer where
  /-- `TransferStateCallbackTimer` -/
  | state (state : TransferState) (code : Nat) (reason : Option Str)
  /-- `TransferResponseCallbackTimer` -/
  | response
  /-- `TransferRequestCallbackTimer`, with what the Subscription-State header says of the expiry. -/
  | notify (expires : Option Nat)
  | serverTimeout
  | terminate
  | startIncoming
  deriving DecidableEq, Repr

inductive TransferNotification where
  | newIncoming | newOutgoing
  | didStart
  | changedState (previous : Option TransferState) (state : TransferState)
  | gotNotify
  | didEnd
  | didFail (code : Nat) (reason : Option Str)
  deriving DecidableEq, Repr

/-- Whether the calls to PJSIP succeed, and the text of the status of the one that does not. -/
structure TransferEnv where
  create : Bool := true
  initiate : Bool := true
  send : Bool := true
  /-- `pjsip_dlg_create_response`, for the answer to a REFER. -/
  respond : Bool := true
  /-- `pjsip_dlg_modify_response`, for an answer that could not be sent. -/
  modify : Bool := true
  /-- `pjsip_inv_end_session` with `pjsip_inv_send_msg`. -/
  finish : Bool := true
  status : Str := []
  deriving DecidableEq, Repr

structure InvitationTransfer where
  /-- The invitation is in state `connected`. -/
  connected : Bool := true
  /-- `_transfer_usage`, with its role. -/
  usage : Option TransferRole := none
  state : Option TransferState := none
  /-- `_sipfrag_payload` -/
  sipfragPayload : Option Str := none
  /-- The delay of `_transfer_timeout_timer` where it is scheduled. -/
  timeoutTimer : Option Nat := none
  refreshTimer : Option Nat := none
  timers : List TransferTimer := []
  posted : List TransferNotification := []
  deriving DecidableEq

inductive TransferInput where
  | transfer (env : TransferEnv)
  /-- A REFER, whose Refer-To header can be read or not. -/
  | refer (readable : Bool) (env : TransferEnv)
  | notifyTransferProgress (code : Int) (reason : Str) (env : TransferEnv)
  /-- `_Invitation_transfer_cb_state` -/
  | evsubState (state : TransferState) (code : Nat) (reason : Option Str)
  /-- `_Invitation_transfer_cb_tsx`, for a REFER or SUBSCRIBE that is accepted. -/
  | evsubResponse
  | evsubNotify (expires : Option Nat)
  /-- `_Invitation_transfer_in_cb_rx_refresh` -/
  | rxRefresh (expires : Option Nat)
  | serverTimeout
  /-- `_Invitation_transfer_in_cb_tsx` -/
  | notifyAnswered (code : Nat) (reason : Str)
  | runTimer (env : TransferEnv)
  | timeoutFires
  | refreshFires (env : TransferEnv)
  /-- What `end` does to a transfer; where it raises the invitation stays as it is. -/
  | endDialog (env : TransferEnv)
  /-- What `_cb_state` does to a transfer when the invitation is disconnected. -/
  | dialogEnded
  /-- `_fail` -/
  | fail
  deriving DecidableEq

namespace InvitationTransfer

/-! ### The text of a report -/

def isReasonChar (char : Char) : Bool := char == ' ' || char == '_' || char == '-' || char.isAlphanum

def isSpace (char : Char) : Bool := [' ', '\t', '\n', '\x0b', '\x0c', '\r'].contains char

/-- `^SIP/2\.0\s+(?P<code>\d{3})\s+(?P<reason>[ a-zA-Z0-9_-]+)` -/
def sipfragPattern : Pattern (Nat × Str) := do
  Pattern.literal "SIP/2.0".toList
  let _ ← Pattern.greedyOne isSpace
  let code ← Pattern.between Char.isDigit 3 3
  let _ ← Pattern.greedyOne isSpace
  let reason ← Pattern.greedyOne isReasonChar
  return (code.foldl (fun number digit => 10 * number + (digit.toNat - 48)) 0, reason)

/-- `"SIP/2.0 %d %s\r\n" % (code, status)` -/
def sipfragText (code : Int) (status : Str) : Str :=
  "SIP/2.0 ".toList ++ (toString code).toList ++ ' ' :: status ++ "\r\n".toList

/-! ### The parts of the methods -/

def post (call : InvitationTransfer) (notification : TransferNotification) : InvitationTransfer :=
  { call with posted := call.posted ++ [notification] }

/-- `_set_transfer_state` -/
def setState (call : InvitationTransfer) (state : TransferState) : InvitationTransfer :=
  let changed : InvitationTransfer := { call with state := some state }
  if call.state = some state then changed else changed.post (.changedState call.state state)

def schedule (call : InvitationTransfer) (timer : TransferTimer) : InvitationTransfer :=
  { call with timers := call.timers ++ [timer] }

/-- The timers with a delay are cancelled. -/
def cancelTimers (call : InvitationTransfer) : InvitationTransfer :=
  { call with timeoutTimer := none, refreshTimer := none }

def release (call : InvitationTransfer) : InvitationTransfer :=
  { call.cancelTimers with usage := none }

/-- The argument of `PJSIPError`. -/
def errorText (message : String) (env : TransferEnv) : Str := message.toList ++ ": ".toList ++ env.status

/-- `_send_notify` comes to its end. -/
def notifies (env : TransferEnv) : Bool := env.create && env.send

/-- `_terminate_transfer_uas`: it ends early where the NOTIFY cannot be sent, or the report cannot be read back. -/
def terminateTransferUas (call : InvitationTransfer) (env : TransferEnv) : InvitationTransfer :=
  if call.state = some .terminated then call
  else
    let call := call.setState .terminated
    if notifies env then
      match call.sipfragPayload.bind sipfragPattern.run with
      | some (code, reason) => call.schedule (.state .terminated code (some reason))
      | none => call
    else call

/-- `_terminate_transfer_uac`: a SUBSCRIBE that ends the subscription, and a second to wait for the end. -/
def terminateTransferUac (call : InvitationTransfer) (env : TransferEnv) : InvitationTransfer :=
  if env.initiate && env.send then { call.cancelTimers with timeoutTimer := some 1 }
  else
    let message := if env.initiate then "Could not send SUBSCRIBE message" else "Could not create SUBSCRIBE message"
    call.schedule (.state .terminated 0 (some (errorText message env)))

/-- `_terminate_transfer` -/
def terminateTransfer (call : InvitationTransfer) (env : TransferEnv) : InvitationTransfer :=
  match call.usage with
  | none => call
  | some .uac => call.terminateTransferUac env
  | some .uas => call.terminateTransferUas env

/-- `_terminate_transfer` comes to its end. -/
def terminateReturns (call : InvitationTransfer) (env : TransferEnv) : Bool :=
  if call.usage = some .uas ∧ call.state ≠ some .terminated then
    notifies env && (call.sipfragPayload.bind sipfragPattern.run).isSome
  else true

/-- The transfer ends with the dialog, or with an internal error. -/
def abandon (call : InvitationTransfer) (reason : String) : InvitationTransfer :=
  let ended : InvitationTransfer := { call with connected := false }
  if call.usage.isSome then ended.release.post (.didFail 0 (some reason.toList)) else ended

/-! ### The methods -/

/-- `transfer`: where the REFER cannot be sent the subscription stays. -/
def transfer (call : InvitationTransfer) (env : TransferEnv) : InvitationTransfer :=
  if call.connected = false ∨ call.usage.isSome ∨ env.create = false then call
  else
    let begun : InvitationTransfer := { call with usage := some .uac }
    if env.initiate && env.send then { begun.post .newOutgoing with timeoutTimer := some 90 }
    else begun

/-- `error_message` where a REFER cannot be accepted. -/
def referError (env : TransferEnv) : String :=
  if env.create = false then "Could not create incoming REFER session"
  else if env.respond = false then "Could not create response for incoming REFER"
  else if env.modify then "Could not send response"
  else "Could not modify response"

/-- `process_incoming_transfer`: with a transfer under way the answer is 480, without a readable header 400. -/
def processIncomingTransfer (call : InvitationTransfer) (readable : Bool) (env : TransferEnv) : InvitationTransfer :=
  if call.usage.isSome ∨ readable = false then call
  else
    let call := (call.setState .incoming).post .newIncoming
    let failed : TransferTimer := .state .terminated 0 (some (errorText (referError env) env))
    if env.create then
      let call : InvitationTransfer := { call with usage := some .uas }
      if env.respond && env.send then ((call.setState .active).post .didStart).schedule .startIncoming
      else call.schedule failed
    else call.schedule failed

/-- `notify_transfer_progress` -/
def notifyTransferProgress (call : InvitationTransfer) (code : Int) (reason : Str) (env : TransferEnv) :
    InvitationTransfer :=
  if call.usage = some .uas then
    let call : InvitationTransfer := { call with sipfragPayload := some (sipfragText code reason) }
    if 200 ≤ code ∧ code < 700 then call.terminateTransferUas env else call
  else call

/-! ### The callbacks -/

/-- `_transfer_cb_state` -/
def cbState (call : InvitationTransfer) (state : TransferState) (code : Nat) (reason : Option Str) :
    InvitationTransfer :=
  let changed := call.setState state
  if state = .accepted ∧ call.state = some .sent then changed.post .didStart
  else if state = .terminated then
    changed.release.post (if code / 100 = 2 then .didEnd else .didFail code reason)
  else changed

/-- `max(1, expires - self.expire_warning_time, expires/2)` -/
def refreshDelay (expires : Nat) : Nat := max 1 (max (expires - 30) (expires / 2))

/-- `_transfer_cb_notify` -/
def cbNotify (call : InvitationTransfer) (expires : Option Nat) : InvitationTransfer :=
  let call : InvitationTransfer :=
    match expires with
    | some expires =>
        if call.state ≠ some .terminated ∧ 0 < expires then { call with refreshTimer := some (refreshDelay expires) }
        else call
    | none => call
  call.post .gotNotify

/-- `_start_incoming_transfer` -/
def startIncomingTransfer (call : InvitationTransfer) : InvitationTransfer :=
  { call with sipfragPayload := some (sipfragText 100 "Trying".toList) }

def runCallback (call : InvitationTransfer) (env : TransferEnv) : TransferTimer → InvitationTransfer
  | .state state code reason => call.cbState state code reason
  | .response => { call with timeoutTimer := none }
  | .notify expires => call.cbNotify expires
  | .serverTimeout => call.terminateTransfer env
  | .terminate => call.terminateTransfer env
  | .startIncoming => call.startIncomingTransfer

/-- The callbacks of a subscription: PJSIP finds the invitation as long as it has one, in the role they are for. -/
def scheduleFor (call : InvitationTransfer) (role : TransferRole) (timer : TransferTimer) : InvitationTransfer :=
  if call.usage = some role then call.schedule timer else call

/-- The answer to a NOTIFY after which PJSIP drops the subscription. -/
def Drops (code : Nat) : Prop := code = 408 ∨ code = 481 ∨ code / 100 = 7

instance (code : Nat) : Decidable (Drops code) := by
  unfold Drops
  infer_instance

def step (call : InvitationTransfer) : TransferInput → InvitationTransfer
  | .transfer env => call.transfer env
  | .refer readable env => call.processIncomingTransfer readable env
  | .notifyTransferProgress code reason env => call.notifyTransferProgress code reason env
  | .evsubState state code reason => call.scheduleFor .uac (.state state code reason)
  | .evsubResponse => call.scheduleFor .uac .response
  | .evsubNotify expires => call.scheduleFor .uac (.notify expires)
  | .rxRefresh expires => if expires = some 0 then call.scheduleFor .uas .terminate else call
  | .serverTimeout => call.scheduleFor .uas .serverTimeout
  | .notifyAnswered code reason =>
      if Drops code then call.scheduleFor .uas (.state .terminated code (some reason)) else call
  | .runTimer env =>
      match call.timers with
      | [] => call
      | timer :: timers =>
          let rest : InvitationTransfer := { call with timers }
          rest.runCallback env timer
  | .timeoutFires =>
      if call.timeoutTimer.isSome then
        let fired : InvitationTransfer := { call with timeoutTimer := none }
        if fired.usage.isSome then fired.schedule (.state .terminated 408 (some "Request Timeout".toList)) else fired
      else call
  | .refreshFires env =>
      if call.refreshTimer.isSome then
        let fired : InvitationTransfer := { call with refreshTimer := none }
        fired.terminateTransfer env
      else call
  | .endDialog env =>
      if call.connected then
        { call.terminateTransfer env with connected := !(call.terminateReturns env && env.finish) }
      else call
  | .dialogEnded => call.abandon "invite dialog ended"
  | .fail => call.abandon "internal error"

end InvitationTransfer

end SipSimple.Core
