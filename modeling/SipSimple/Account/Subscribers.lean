import SipSimple.Library.Runs
import SipSimple.Account.SubscriptionLoop

/-!
# Subscriber and ConferenceHandler

The subscription loop of the accounts, `Subscriber` of `account/subscription.py`, and the one of a session with a
conference focus, `ConferenceHandler` of `session.py`. The first tests the sender of an event when it queues it,
the second when it takes it. The settings that a subclass of `Subscriber` looks at come to `activate`,
`deactivate` and `resubscribe`.
-/

namespace SipSimple.Account

open SipSimple.Core

/-! ### Subscriber -/

abbrev Subscriber := SubscriptionLoop

inductive SubscriberInput (Notify : Type) where
  /-- With the setting that the subclass activates on. -/
  | start (enabled : Bool)
  | stop
  | activate
  | deactivate
  /-- `resubscribe`, the settings that need another subscription, and `NetworkConditionsDidChange`. -/
  | resubscribe
  /-- The loop takes a command, with `account.sip.subscribe_interval`. -/
  | take (interval : Nat)
  | resume (interval : Nat)
  | thrown (sendError : Option String)
  | lookedUp (env : SubscriptionEnv) (sends : Route → Bool) (result : Except String (List Route))
  | wake (env : SubscriptionEnv) (sends : Route → Bool)
  | timer
  | tick (seconds : Nat)
  /-- The Twisted thread handles the first notification that waits for it. -/
  | runCall
  | callback (sender : Nat) (callback : SubscriptionCallback Notify)

namespace Subscriber

variable {Notify : Type}

def verdict (env : SubscriptionEnv) (_ : Nat) (failure : SubscriptionFailure) : SubscriptionVerdict :=
  if failure.code = 407 then .raise { error := "Authentication failed", retryAfter := (60, 120) }
  else if failure.code = 423 then
    let refreshInterval := failure.minExpires.filter (env.subscribeInterval < ·)
    .raise { error := "Interval too short", retryAfter := (60, 120), refreshInterval }
  else if failure.code ∈ [405, 406, 489] then
    .raise { error := "Method or event not supported", retryAfter := (3600, 3600) }
  else if failure.code = 1400 then
    .raise { error := failure.reason.getD "None", retryAfter := (3600, 3600) }
  else .nextRoute

def kind : SubscriptionKind Notify where
  queues := fun subscription sender => subscription = some sender
  minds := fun _ _ => true
  refresh := fun refreshInterval interval _ =>
    match refreshInterval with
    | some (seconds + 1) => seconds + 1
    | _ => interval
  verdict
  followsEnd := fun active => active
  followsFailure := fun active => active
  terminates := true
  posts := fun _ => true

def activate (self : Subscriber Notify) : Subscriber Notify :=
  if self.started then { self with active := true }.enqueue (.subscribe none) else self

def deactivate (self : Subscriber Notify) : Subscriber Notify :=
  if self.started then { self with active := false }.enqueue .unsubscribe else self

/-- `stop` returns when its command is done, and until then the object is not started again. -/
def start (self : Subscriber Notify) (enabled : Bool) : Subscriber Notify :=
  if self.started = false ∧ self.command = .off then
    let loop := { self with started := true, command := .idle }
    if enabled then activate loop else loop
  else self

def stop (self : Subscriber Notify) : Subscriber Notify :=
  if self.started then { self with started := false, active := false }.enqueue .terminate else self

def timer (self : Subscriber Notify) : Subscriber Notify :=
  match SubscriptionLoop.timer self with
  | none => self
  | some (refreshInterval, _) =>
      let loop := { self with timer := none }
      if self.active then loop.enqueue (.subscribe refreshInterval) else loop

def step (self : Subscriber Notify) : SubscriberInput Notify → Subscriber Notify
  | .start enabled => self.start enabled
  | .stop => self.stop
  | .activate => self.activate
  | .deactivate => self.deactivate
  | .resubscribe => self.resubscribe
  | .take interval => SubscriptionLoop.take kind interval self
  | .resume interval => SubscriptionLoop.resume self interval
  | .thrown sendError => SubscriptionLoop.thrown kind sendError self
  | .lookedUp env sends result => SubscriptionLoop.lookedUp kind env sends result self
  | .wake env sends => SubscriptionLoop.wake kind env sends self
  | .timer => self.timer
  | .tick seconds => { self with clock := self.clock + seconds }
  | .runCall => SubscriptionLoop.runCall kind self
  | .callback sender callback => SubscriptionLoop.callback self sender callback

end Subscriber

/-! ### ConferenceHandler -/

/-- What a NOTIFY of a conference carries. -/
structure ConferenceNotify where
  event : String
  body : Option String
  /-- `ConferenceDocument.parse` takes the body. -/
  parses : Bool
  deriving DecidableEq, Repr

abbrev ConferenceHandler := SubscriptionLoop ConferenceNotify

inductive ConferenceInput where
  /-- `SIPSessionDidStart` and `SIPSessionDidRenegotiateStreams`, with `session.remote_focus`. -/
  | sessionDidStart (remoteFocus : Bool)
  | sessionDidRenegotiateStreams (remoteFocus : Bool)
  /-- `SIPSessionDidFail` and `SIPSessionDidEnd` -/
  | sessionDidEnd
  | networkConditionsDidChange
  | take (interval : Nat)
  | resume (interval : Nat)
  | thrown (sendError : Option String)
  /-- For a Bonjour account the interval is 600. -/
  | lookedUp (env : SubscriptionEnv) (sends : Route → Bool) (result : Except String (List Route))
  | wake (env : SubscriptionEnv) (sends : Route → Bool)
  | timer
  | tick (seconds : Nat)
  | runCall
  | callback (sender : Nat) (callback : SubscriptionCallback ConferenceNotify)

namespace ConferenceHandler

def verdict (_ : SubscriptionEnv) (refresh : Nat) (failure : SubscriptionFailure) : SubscriptionVerdict :=
  if failure.code = 407 then .raise { error := "Authentication failed", retryAfter := (60, 120) }
  else if failure.code = 423 then
    let refreshInterval := failure.minExpires.filter (refresh < ·)
    .raise { error := "Interval too short", retryAfter := (60, 120), refreshInterval }
  else if failure.code ∈ [405, 406, 489, 1400] then .leave
  else .nextRoute

/-- Only the conference info of a NOTIFY is posted. -/
def posts : SubscriptionPost ConferenceNotify → Bool
  | .gotNotify _ data => data.event = "conference" && data.body.any (· ≠ "") && data.parses
  | _ => false

def kind : SubscriptionKind ConferenceNotify where
  queues := fun _ _ => true
  minds := fun subscription sender => subscription = some sender
  refresh := fun refreshInterval _ default => refreshInterval.getD default
  verdict
  followsEnd := fun _ => false
  followsFailure := fun _ => true
  terminates := false
  posts

/-- `ConferenceHandler.__init__` -/
def init : ConferenceHandler := { started := true, command := .idle }

def activate (self : ConferenceHandler) : ConferenceHandler :=
  { self with active := true }.enqueue (.subscribe none)

def deactivate (self : ConferenceHandler) : ConferenceHandler :=
  { self with active := false }.enqueue .unsubscribe

/-- Afterwards the session is no longer observed. -/
def terminate (self : ConferenceHandler) : ConferenceHandler :=
  if self.started then { self.deactivate with started := false }.enqueue .terminate else self

/-- The delayed call sends its command whether the handler is active or not. -/
def timer (self : ConferenceHandler) : ConferenceHandler :=
  match SubscriptionLoop.timer self with
  | none => self
  | some (refreshInterval, _) => { self with timer := none }.enqueue (.subscribe refreshInterval)

def step (self : ConferenceHandler) : ConferenceInput → ConferenceHandler
  | .sessionDidStart remoteFocus => if self.started && remoteFocus then self.activate else self
  | .sessionDidRenegotiateStreams remoteFocus =>
      if self.started && remoteFocus && !self.active then self.activate
      else if self.started && !remoteFocus && self.active then self.deactivate
      else self
  | .sessionDidEnd => self.terminate
  | .networkConditionsDidChange => if self.started then self.resubscribe else self
  | .take interval => SubscriptionLoop.take kind interval self
  | .resume interval => SubscriptionLoop.resume self interval
  | .thrown sendError => SubscriptionLoop.thrown kind sendError self
  | .lookedUp env sends result => SubscriptionLoop.lookedUp kind env sends result self
  | .wake env sends => SubscriptionLoop.wake kind env sends self
  | .timer => self.timer
  | .tick seconds => { self with clock := self.clock + seconds }
  | .runCall => SubscriptionLoop.runCall kind self
  | .callback sender callback => SubscriptionLoop.callback self sender callback

end ConferenceHandler

end SipSimple.Account
