import Mathlib.Data.List.Count
import SipSimple.Library.Runs

/-!
# Incoming subscriptions and referrals

`IncomingSubscription` and `IncomingReferral` are driven by the application and by the callbacks of a
pjsip subscription usage, all under the lock of the dialog. The two classes share the state, the usage
and the NOTIFY requests; they differ in how they are accepted, in what they send, and in what happens
when the last NOTIFY cannot be sent.

What pjsip decides is input: whether a response or a NOTIFY goes out, the callbacks it makes, and whether
it tells of the completed transaction before the call that sends the response returns. A callback reaches
the object as long as the usage refers to it.
-/

namespace SipSimple.Core

inductive NotifierState where
  | incoming | pending | active | terminated
  deriving DecidableEq, Repr

/-- The content type with its subtype, and the content. -/
structure NotifyBody where
  contentType : String
  contentSubtype : String
  content : String
  deriving DecidableEq, Repr

/-- The notifications of both classes. `sentNotify` has the subscription state in the NOTIFY with its
reason, and the state of the object. -/
inductive NotifierEvent where
  | changedState (prevState state : NotifierState)
  | sentNotify (subscriptionState : NotifierState) (reason : Option String) (body : Option NotifyBody)
      (state : NotifierState)
  | notifyDidSucceed
  | notifyDidFail
  | gotUnsubscribe
  | gotRefreshingSubscribe
  | answered
  | didTimeout
  | didEnd
  deriving DecidableEq, Repr

inductive NotifierError where
  | invalidState | valueError | pjsipError | notRunning
  deriving DecidableEq, Repr

/-- Whether a response goes out, and then whether pjsip has made the callback for it. -/
inductive Sending where
  | failed
  | sent (completed : Bool)
  deriving DecidableEq, Repr

/-- What became of a NOTIFY: a response with its code, or no response. -/
inductive NotifyResult where
  | completed (received : Bool) (code : Nat)
  | terminated (code : Nat)
  deriving DecidableEq, Repr

/-- pjsip will end the subscription, and the object does too. -/
def NotifyResult.isFatal : NotifyResult → Bool
  | .completed received code =>
      !(received && code / 100 == 2) && (code == 408 || code == 481 || code / 100 == 7)
  | .terminated code => code == 408

/-- What `_cb_tsx` posts for the result of a NOTIFY. -/
def NotifyResult.events : NotifyResult → List NotifierEvent
  | .completed received code =>
      if received && code / 100 == 2 then [.notifyDidSucceed] else [.notifyDidFail]
  | .terminated code => if code == 408 then [.notifyDidFail] else []

/-! ### What the classes share -/

/-- `obj` is the usage that refers to the object. The last event comes first. -/
structure Notifier where
  state : NotifierState := .incoming
  obj : Bool := true
  engine : Bool := true
  events : List NotifierEvent := []

namespace Notifier

def post (notifier : Notifier) (event : NotifierEvent) : Notifier :=
  { notifier with events := event :: notifier.events }

def setState (notifier : Notifier) (state : NotifierState) : Notifier :=
  if notifier.state = state then notifier
  else { notifier with state := state }.post (.changedState notifier.state state)

/-- The usage refers to the object no more. -/
def release (notifier : Notifier) : Notifier := { notifier with obj := false }

/-- `_get_ua` -/
def getUa (notifier : Notifier) : Notifier :=
  if notifier.engine then notifier else notifier.release.setState .terminated

/-- The subscription state of a NOTIFY. -/
def subscriptionState (notifier : Notifier) : NotifierState :=
  match notifier.state with
  | .pending => .pending
  | .active => .active
  | _ => .terminated

/-- `_send_notify`, with the reason and the body that it puts in. -/
def sendNotify (notifier : Notifier) (reason : Option String) (body : Option NotifyBody)
    (sent : Bool) : Notifier × Option NotifierError :=
  if sent then
    (notifier.post (.sentNotify notifier.subscriptionState
      (if notifier.subscriptionState = .terminated then reason else none) body notifier.state), none)
  else (notifier, some .pjsipError)

/-- `_cb_tsx` for the transaction of the request that is answered. -/
def answered (notifier : Notifier) : Notifier :=
  let notifier := notifier.post .answered
  if notifier.state = .terminated then notifier.release else notifier

/-- `_send_initial_response`; the code is not looked at any further. -/
def sendInitialResponse (notifier : Notifier) : Sending → Notifier × Option NotifierError
  | .failed => (notifier, some .pjsipError)
  | .sent true => (notifier.answered, none)
  | .sent false => (notifier, none)

/-- The rest of `reject`, once the response is sent. -/
def rejected (notifier : Notifier) : Notifier := (notifier.release.setState .terminated).post .didEnd

/-- `reject` -/
def reject (notifier : Notifier) (code : Nat) (response : Sending) :
    Notifier × Option NotifierError :=
  let notifier := notifier.getUa
  if !notifier.engine then (notifier, some .notRunning)
  else if notifier.state ≠ .incoming then (notifier, some .invalidState)
  else if ¬ (300 ≤ code ∧ code < 700) then (notifier, some .valueError)
  else
    match notifier.sendInitialResponse response with
    | (notifier, some error) => (notifier, some error)
    | (notifier, none) => (notifier.rejected, none)

end Notifier

/-! ### `IncomingSubscription` -/

structure IncomingSubscription extends Notifier where
  expires : Int
  content : Option NotifyBody := none

namespace IncomingSubscription

/-- The characters of `_re_content_type`. -/
def isContentTypeChar (c : Char) : Bool := c.isAlphanum || c ∈ "-.!%*_+`'~".toList

/-- The groups of `_re_content_type`, whose `$` also matches before a newline at the end. -/
def contentTypeMatch (contentType : String) : Option (String × String) :=
  let (type, rest) := contentType.toList.span isContentTypeChar
  match rest with
  | '/' :: rest =>
      let (subtype, rest) := rest.span isContentTypeChar
      if type ≠ [] ∧ subtype ≠ [] ∧ (rest = [] ∨ rest = ['\n']) then
        some (String.ofList type, String.ofList subtype)
      else none
  | _ => none

def sendNotify (subscription : IncomingSubscription) (reason : Option String) (sent : Bool) :
    IncomingSubscription × Option NotifierError :=
  let body := if subscription.state = .active then subscription.content else none
  let (notifier, error) := subscription.toNotifier.sendNotify reason body sent
  ({ subscription with toNotifier := notifier }, error)

/-- An exception of `_send_notify` is caught. -/
def terminate (subscription : IncomingSubscription) (reason : Option String) (doCleanup : Bool)
    (sent : Bool) : IncomingSubscription :=
  let terminated : IncomingSubscription :=
    { subscription with toNotifier := subscription.setState .terminated }
  let notified := (terminated.sendNotify reason sent).1
  { notified with
    toNotifier := (if doCleanup then notified.release else notified.toNotifier).post .didEnd }

/-- The end of `accept_pending` and `accept`. -/
def accepted (subscription : IncomingSubscription) (state : NotifierState) (sent : Bool) :
    IncomingSubscription × Option NotifierError :=
  let subscription := { subscription with toNotifier := subscription.setState state }
  if 0 < subscription.expires then subscription.sendNotify none sent
  else (subscription.terminate (some "timeout") false sent, none)

def acceptPending (subscription : IncomingSubscription) (response : Sending) (sent : Bool) :
    IncomingSubscription × Option NotifierError :=
  let subscription := { subscription with toNotifier := subscription.getUa }
  if !subscription.engine then (subscription, some .notRunning)
  else if subscription.state ≠ .incoming then (subscription, some .invalidState)
  else
    match subscription.sendInitialResponse response with
    | (notifier, some error) => ({ subscription with toNotifier := notifier }, some error)
    | (notifier, none) => accepted { subscription with toNotifier := notifier } .pending sent

/-- The check of the arguments of `accept`, with the content from then on. -/
def acceptedContent (subscription : IncomingSubscription) :
    Option String → Option String → Option (Option NotifyBody)
  | none, none => some subscription.content
  | some contentType, some content =>
      (contentTypeMatch contentType).map fun (type, subtype) => some ⟨type, subtype, content⟩
  | _, _ => none

def accept (subscription : IncomingSubscription) (contentType content : Option String)
    (response : Sending) (sent : Bool) : IncomingSubscription × Option NotifierError :=
  let subscription := { subscription with toNotifier := subscription.getUa }
  if !subscription.engine then (subscription, some .notRunning)
  else if subscription.state ≠ .incoming ∧ subscription.state ≠ .pending then
    (subscription, some .invalidState)
  else
    match subscription.acceptedContent contentType content with
    | none => (subscription, some .valueError)
    | some content =>
        let subscription := { subscription with content := content }
        if subscription.state = .incoming then
          match subscription.sendInitialResponse response with
          | (notifier, some error) => ({ subscription with toNotifier := notifier }, some error)
          | (notifier, none) => accepted { subscription with toNotifier := notifier } .active sent
        else accepted subscription .active sent

def pushContent (subscription : IncomingSubscription) (contentType content : String) (sent : Bool) :
    IncomingSubscription × Option NotifierError :=
  let subscription := { subscription with toNotifier := subscription.getUa }
  if !subscription.engine then (subscription, some .notRunning)
  else if subscription.state ≠ .active then (subscription, some .invalidState)
  else
    match contentTypeMatch contentType with
    | none => (subscription, some .valueError)
    | some (type, subtype) =>
        { subscription with content := some ⟨type, subtype, content⟩ }.sendNotify none sent

/-- `end` -/
def finish (subscription : IncomingSubscription) (reason : Option String) (sent : Bool) :
    IncomingSubscription × Option NotifierError :=
  let subscription := { subscription with toNotifier := subscription.getUa }
  if subscription.state = .terminated then (subscription, none)
  else if subscription.state = .incoming then (subscription, some .invalidState)
  else (subscription.terminate reason true sent, none)

/-- `_cb_rx_refresh`, with the Expires header. -/
def cbRxRefresh (subscription : IncomingSubscription) (expires : Option Int) (sent : Bool) :
    IncomingSubscription :=
  if expires = some 0 then
    terminate { subscription with toNotifier := subscription.post .gotUnsubscribe } none false sent
  else
    let refreshed : IncomingSubscription :=
      { subscription with
        toNotifier := subscription.post .gotRefreshingSubscribe
        expires := expires.elim 3600 (min · 3600) }
    match refreshed.sendNotify none sent with
    | (subscription, none) => subscription
    | (subscription, some _) => { subscription with toNotifier := subscription.post .notifyDidFail }

def cbServerTimeout (subscription : IncomingSubscription) (sent : Bool) : IncomingSubscription :=
  terminate { subscription with toNotifier := subscription.post .didTimeout } (some "timeout") true sent

/-- `_cb_tsx` for the transaction of a NOTIFY. -/
def cbTsx (subscription : IncomingSubscription) (result : NotifyResult) (sent : Bool) :
    IncomingSubscription :=
  let subscription := { subscription with toNotifier := result.events.foldl .post subscription.toNotifier }
  if result.isFatal then subscription.terminate none true sent else subscription

end IncomingSubscription

/-! ### `IncomingReferral` -/

structure IncomingReferral extends Notifier where
  createSubscription : Bool
  content : Option String := none

namespace IncomingReferral

def sendNotify (referral : IncomingReferral) (sent : Bool) :
    IncomingReferral × Option NotifierError :=
  let body :=
    if referral.state = .active ∨ referral.state = .terminated then
      referral.content.map fun content => ⟨"message", "sipfrag", content⟩
    else none
  let (notifier, error) := referral.toNotifier.sendNotify (some "noresource") body sent
  ({ referral with toNotifier := notifier }, error)

/-- An exception of `_send_notify` is not caught. -/
def terminate (referral : IncomingReferral) (doCleanup : Bool) (sent : Bool) :
    IncomingReferral × Option NotifierError :=
  let terminated : IncomingReferral :=
    { referral with toNotifier := referral.setState .terminated }
  match terminated.sendNotify sent with
  | (referral, some error) => (referral, some error)
  | (referral, none) =>
      ({ referral with
        toNotifier := (if doCleanup then referral.release else referral.toNotifier).post .didEnd }, none)

/-- `sip_status_messages` is a parameter: it has the reason of a code, or `"Unknown"`. -/
def setContent (statusMessages : Nat → String) (referral : IncomingReferral) (code : Nat)
    (reason : Option String) : IncomingReferral :=
  { referral with
    content := some ("SIP/2.0 " ++ toString code ++ " " ++ reason.getD (statusMessages code) ++ "\r\n") }

def accept (statusMessages : Nat → String) (referral : IncomingReferral) (response : Sending)
    (sent : Bool) : IncomingReferral × Option NotifierError :=
  let referral := { referral with toNotifier := referral.getUa }
  if !referral.engine then (referral, some .notRunning)
  else if referral.state ≠ .incoming then (referral, some .invalidState)
  else
    match referral.sendInitialResponse response with
    | (notifier, some error) => ({ referral with toNotifier := notifier }, some error)
    | (notifier, none) =>
        let active : IncomingReferral := { referral with toNotifier := notifier.setState .active }
        if active.createSubscription then (active.setContent statusMessages 100 "Trying").sendNotify sent
        else ({ active with toNotifier := active.rejected }, none)

/-- `send_notify` of the application. -/
def notify (statusMessages : Nat → String) (referral : IncomingReferral) (code : Nat)
    (status : Option String) (sent : Bool) : IncomingReferral × Option NotifierError :=
  let referral := { referral with toNotifier := referral.getUa }
  if !referral.engine then (referral, some .notRunning)
  else if referral.state ≠ .active then (referral, some .invalidState)
  else (referral.setContent statusMessages code status).sendNotify sent

/-- `end` -/
def finish (statusMessages : Nat → String) (referral : IncomingReferral) (code : Nat)
    (status : Option String) (sent : Bool) : IncomingReferral × Option NotifierError :=
  let referral := { referral with toNotifier := referral.getUa }
  if referral.state = .terminated then (referral, none)
  else if referral.state = .incoming then (referral, some .invalidState)
  else (referral.setContent statusMessages code status).terminate true sent

/-- `_cb_rx_refresh` -/
def cbRxRefresh (referral : IncomingReferral) (expires : Option Int) (sent : Bool) :
    IncomingReferral :=
  if expires = some 0 then
    (terminate { referral with toNotifier := referral.post .gotUnsubscribe } false sent).1
  else (sendNotify { referral with toNotifier := referral.post .gotRefreshingSubscribe } sent).1

def cbServerTimeout (referral : IncomingReferral) (sent : Bool) : IncomingReferral :=
  (referral.terminate true sent).1

/-- `_cb_tsx` for the transaction of a NOTIFY. -/
def cbTsx (referral : IncomingReferral) (result : NotifyResult) (sent : Bool) : IncomingReferral :=
  let referral := { referral with toNotifier := result.events.foldl .post referral.toNotifier }
  if result.isFatal then (referral.terminate true sent).1 else referral

end IncomingReferral

/-! ### The inputs -/

/-- A callback of the usage. `answered` is the end of the transaction of a SUBSCRIBE, or for a referral of
the REFER: the SUBSCRIBE that refreshes a referral is not looked at. -/
inductive NotifierCallback where
  | rxRefresh (expires : Option Int)
  | serverTimeout
  | answered
  | notifyResult (result : NotifyResult)
  deriving DecidableEq, Repr

/-- What happens to a subscription; `sent` says whether a NOTIFY of the step goes out. -/
inductive SubscriptionInput where
  | stopEngine
  | acceptPending (response : Sending) (sent : Bool)
  | accept (contentType content : Option String) (response : Sending) (sent : Bool)
  | reject (code : Nat) (response : Sending)
  | pushContent (contentType content : String) (sent : Bool)
  | finish (reason : Option String) (sent : Bool)
  | callback (callback : NotifierCallback) (sent : Bool)
  deriving DecidableEq, Repr

inductive ReferralInput where
  | stopEngine
  | accept (response : Sending) (sent : Bool)
  | reject (code : Nat) (response : Sending)
  | notify (code : Nat) (status : Option String) (sent : Bool)
  | finish (code : Nat) (status : Option String) (sent : Bool)
  | callback (callback : NotifierCallback) (sent : Bool)
  deriving DecidableEq, Repr

namespace IncomingSubscription

/-- `init` has succeeded. -/
def new (expires : Int) : IncomingSubscription := { expires := expires }

def callback (subscription : IncomingSubscription) (sent : Bool) :
    NotifierCallback → IncomingSubscription
  | .rxRefresh expires => subscription.cbRxRefresh expires sent
  | .serverTimeout => subscription.cbServerTimeout sent
  | .answered => { subscription with toNotifier := subscription.answered }
  | .notifyResult result => subscription.cbTsx result sent

def step (subscription : IncomingSubscription) : SubscriptionInput → IncomingSubscription
  | .stopEngine => { subscription with engine := false }
  | .acceptPending response sent => (subscription.acceptPending response sent).1
  | .accept contentType content response sent =>
      (subscription.accept contentType content response sent).1
  | .reject code response =>
      { subscription with toNotifier := (subscription.reject code response).1 }
  | .pushContent contentType content sent => (subscription.pushContent contentType content sent).1
  | .finish reason sent => (subscription.finish reason sent).1
  | .callback cb sent =>
      if subscription.engine ∧ subscription.obj then subscription.callback sent cb else subscription

end IncomingSubscription

namespace IncomingReferral

/-- `init` has succeeded; the Ref-Sub header may be `false`. -/
def new (createSubscription : Bool) : IncomingReferral := { createSubscription := createSubscription }

def callback (referral : IncomingReferral) (sent : Bool) : NotifierCallback → IncomingReferral
  | .rxRefresh expires => referral.cbRxRefresh expires sent
  | .serverTimeout => referral.cbServerTimeout sent
  | .answered => { referral with toNotifier := referral.answered }
  | .notifyResult result => referral.cbTsx result sent

def step (statusMessages : Nat → String) (referral : IncomingReferral) :
    ReferralInput → IncomingReferral
  | .stopEngine => { referral with engine := false }
  | .accept response sent => (referral.accept statusMessages response sent).1
  | .reject code response => { referral with toNotifier := (referral.reject code response).1 }
  | .notify code status sent => (referral.notify statusMessages code status sent).1
  | .finish code status sent => (referral.finish statusMessages code status sent).1
  | .callback cb sent =>
      if referral.engine ∧ referral.obj then referral.callback sent cb else referral

end IncomingReferral

end SipSimple.Core
