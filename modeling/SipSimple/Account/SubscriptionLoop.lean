import SipSimple.Core.Subscription
import SipSimple.Account.RequestLoop

/-!
# The subscription loop of Subscriber and ConferenceHandler

`Subscriber` of `account/subscription.py` and `ConferenceHandler` of `session.py` run a command loop, and the
loop runs at most one subscription handler at a time: a green thread that tries the routes, each with a core
`Subscription` of its own, and then takes the events of the one that has started. A `subscribe` command
interrupts the handler that is there and an `unsubscribe` terminates it, with an exception that reaches the
handler at the wait it is in. The events come from another thread as calls of the Twisted thread and go from
there to `_data_channel`, which outlives the handlers. `SubscriptionKind` says what the two classes do
differently.

A wait that finds an event in the channel is a step of its own here, so more can come in between than in the
program. What the callers of a command learn from its event is left out, and so are the headers and the URIs of
a request that no decision depends on.
-/

namespace SipSimple.Account

open SipSimple.Core

inductive SubscriptionCommand where
  | subscribe (refreshInterval : Option Nat)
  | unsubscribe
  | terminate
  deriving DecidableEq, Repr

/-- `InterruptSubscription` and `TerminateSubscription`. -/
inductive Kill where
  | interrupt | terminate
  deriving DecidableEq, Repr

inductive CommandPhase where
  /-- No loop runs: not started, or ended by `terminate`. -/
  | off
  | idle
  /-- Waits for the handler that the command has killed. -/
  | waiting (command : SubscriptionCommand)
  deriving DecidableEq, Repr

inductive HandlerPhase where
  /-- There is no handler. -/
  | none
  /-- Waits for the routes, with the interval of the command and the one of the account at the start. -/
  | lookup (refreshInterval : Option Nat) (interval : Nat)
  /-- Waits for the start of the subscription, with the routes that are left. -/
  | starting (refresh : Nat) (routes : List Route)
  | subscribed
  /-- Waits for the end of the subscription. -/
  | ending
  deriving DecidableEq, Repr

/-- The handler takes events from the data channel. -/
def HandlerPhase.takes : HandlerPhase → Bool
  | .starting _ _ | .subscribed | .ending => true
  | _ => false

/-- What the handlers of the account are told: `...SubscriptionDidStart`, `...GotNotify`, `...DidEnd` and
`...DidFail`, with the core subscription that has sent the NOTIFY. -/
inductive SubscriptionPost (Notify : Type) where
  | didStart
  | gotNotify (sender : Nat) (data : Notify)
  | didEnd
  | didFail
  deriving DecidableEq, Repr

/-- What a subscription comes to that has failed before it has started. -/
inductive SubscriptionVerdict where
  | nextRoute
  | raise (error : LoopError)
  | leave
  deriving DecidableEq, Repr

/-- What a subscription handler finds. -/
structure SubscriptionEnv where
  /-- `account.contact[NoGRUU, route]`, or none for `KeyError`. -/
  contact : Route → Option String
  subscribeInterval : Nat

/-- What `Subscriber` and `ConferenceHandler` do differently. -/
structure SubscriptionKind (Notify : Type) where
  /-- The test of the sender before an event is queued, with the current subscription. -/
  queues : Option Nat → Nat → Bool
  /-- The test of the sender when a notification is taken. An exception has no sender. -/
  minds : Option Nat → Nat → Bool
  /-- From the interval of the command and those of the account at the start and after the lookup. -/
  refresh : Option Nat → Nat → Nat → Nat
  verdict : SubscriptionEnv → Nat → SubscriptionFailure → SubscriptionVerdict
  /-- With `active`: the subscription that has ended, or failed, is followed by another one. -/
  followsEnd : Bool → Bool
  followsFailure : Bool → Bool
  /-- `terminate` ends the handler before it ends the loop. -/
  terminates : Bool
  posts : SubscriptionPost Notify → Bool

structure SubscriptionLoop (Notify : Type) where
  started : Bool := false
  active : Bool := false
  subscribed : Bool := false
  commandChannel : List SubscriptionCommand := []
  /-- The events with their senders. -/
  dataChannel : List (Nat × SubscriptionEvent Notify) := []
  /-- `_subscription`, by its position in `objects`. -/
  subscription : Option Nat := none
  /-- The core subscriptions in the order of their creation. -/
  objects : List Subscription := []
  /-- The subscriptions whose notifications are observed. -/
  observed : List Nat := []
  /-- The notifications that the Twisted thread has yet to handle. -/
  reactor : List (Nat × SubscriptionEvent Notify) := []
  /-- The delayed call of a failed subscription: its interval and the bounds of its delay. -/
  timer : Option (Option Nat × (Nat × Nat)) := none
  command : CommandPhase := .off
  handler : HandlerPhase := .none
  /-- The exception that is on its way to the handler. -/
  killed : Option Kill := none
  clock : Nat := 0
  deadline : Nat := 0
  /-- What is posted, the last one first. -/
  posted : List (SubscriptionPost Notify) := []
  /-- The events that handlers have taken, each sender with the subscription that the handler had created last;
  the last one first. -/
  taken : List (Option Nat × Nat) := []

namespace SubscriptionLoop

variable {Notify : Type}

def enqueue (self : SubscriptionLoop Notify) (command : SubscriptionCommand) : SubscriptionLoop Notify :=
  { self with commandChannel := self.commandChannel ++ [command] }

def post (kind : SubscriptionKind Notify) (self : SubscriptionLoop Notify) (post : SubscriptionPost Notify) :
    SubscriptionLoop Notify :=
  if kind.posts post then { self with posted := post :: self.posted } else self

/-! ### The core subscriptions -/

/-- What an object posts reaches the Twisted thread while it is observed. -/
def notify (self : SubscriptionLoop Notify) (sender : Nat)
    (result : Subscription × List (SubscriptionEvent Notify)) : SubscriptionLoop Notify :=
  { self with
    objects := self.objects.set sender result.1
    reactor := self.reactor ++ if sender ∈ self.observed then result.2.map (sender, ·) else [] }

def callback (self : SubscriptionLoop Notify) (sender : Nat) (callback : SubscriptionCallback Notify) :
    SubscriptionLoop Notify :=
  match self.objects[sender]? with
  | none => self
  | some object => self.notify sender (object.callback callback)

def removeObserver (self : SubscriptionLoop Notify) (sender : Nat) : SubscriptionLoop Notify :=
  { self with observed := self.observed.filter (· ≠ sender) }

def endObject (self : SubscriptionLoop Notify) (sender : Nat) (sendError : Option String) :
    SubscriptionLoop Notify :=
  match self.objects[sender]? with
  | none => self
  | some object => self.notify sender (object.endSubscription sendError)

/-! ### `_subscription_handler` -/

/-- What a handler does last. An exception that was on its way finds it dead. -/
def finish (self : SubscriptionLoop Notify) : SubscriptionLoop Notify :=
  { self with subscribed := false, subscription := none, handler := .none, killed := none }

/-- The handler of `SubscriptionError`. -/
def fail (kind : SubscriptionKind Notify) (self : SubscriptionLoop Notify) (error : LoopError) :
    SubscriptionLoop Notify :=
  ({ self with timer := some (error.refreshInterval, error.retryAfter) }.post kind .didFail).finish

/-- The loop over the routes, up to the next wait. `sends` tells whether PJSIP takes the SUBSCRIBE. -/
def tryRoutes (kind : SubscriptionKind Notify) (env : SubscriptionEnv) (sends : Route → Bool)
    (refresh : Nat) : List Route → SubscriptionLoop Notify → SubscriptionLoop Notify
  | [], self => self.fail kind { error := "No more routes to try", retryAfter := (60, 180) }
  | route :: routes, self =>
      if self.clock < self.deadline then
        match env.contact route with
        | none => tryRoutes kind env sends refresh routes self
        | some contactHeader =>
            let sender := self.objects.length
            let object : Subscription := { contactHeader, routeHeader := route, refresh }
            if sends route then
              { self with
                objects := self.objects ++ [{ object with state := .sent }]
                observed := sender :: self.observed
                subscription := some sender
                handler := .starting refresh routes }
            else
              { self with objects := self.objects ++ [object] }.fail kind
                { error := "Internal error", retryAfter := (5, 5) }
      else tryRoutes kind env sends refresh routes self

/-- The handler from the result of the lookup on. -/
def lookedUp (kind : SubscriptionKind Notify) (env : SubscriptionEnv) (sends : Route → Bool)
    (result : Except String (List Route)) (self : SubscriptionLoop Notify) : SubscriptionLoop Notify :=
  match self.handler, result with
  | .lookup _ _, .error error =>
      self.fail kind { error := "DNS lookup failed: " ++ error, retryAfter := (15, 30) }
  | .lookup refreshInterval interval, .ok routes =>
      tryRoutes kind env sends (kind.refresh refreshInterval interval env.subscribeInterval) routes
        { self with deadline := self.clock + 30 }
  | _, _ => self

/-- An event that is taken while the subscription starts. -/
def takeStarting (kind : SubscriptionKind Notify) (env : SubscriptionEnv) (sends : Route → Bool)
    (refresh : Nat) (routes : List Route) (sender : Nat) (self : SubscriptionLoop Notify) :
    SubscriptionEvent Notify → SubscriptionLoop Notify
  | .didStart =>
      if kind.minds self.subscription sender then
        { self with subscribed := true, handler := .subscribed }.post kind .didStart
      else self
  | .didFail failure =>
      let loop := { self with
        observed := self.observed.filter (some · ≠ self.subscription), subscription := none }
      match kind.verdict env refresh failure with
      | .nextRoute => tryRoutes kind env sends refresh routes loop
      | .raise error => loop.fail kind error
      | .leave => loop.finish
  | .didEnd | .gotNotify _ => self

/-- The end of the handler of a subscription that had started. -/
def leave (self : SubscriptionLoop Notify) (follows : Bool) : SubscriptionLoop Notify :=
  let loop := if follows then self.enqueue (.subscribe none) else self
  { loop with observed := loop.observed.filter (some · ≠ loop.subscription) }.finish

/-- An event that is taken from a subscription that has started. -/
def takeSubscribed (kind : SubscriptionKind Notify) (sender : Nat) (self : SubscriptionLoop Notify) :
    SubscriptionEvent Notify → SubscriptionLoop Notify
  | .gotNotify data =>
      if kind.minds self.subscription sender then self.post kind (.gotNotify sender data) else self
  | .didEnd =>
      if kind.minds self.subscription sender then
        (self.post kind .didEnd).leave (kind.followsEnd self.active)
      else self
  | .didFail _ => (self.post kind .didFail).leave (kind.followsFailure self.active)
  | .didStart => self

/-- An event that is taken while the subscription ends. -/
def takeEnding (kind : SubscriptionKind Notify) (sender : Nat) (self : SubscriptionLoop Notify) :
    SubscriptionEvent Notify → SubscriptionLoop Notify
  | .didEnd =>
      if kind.minds self.subscription sender then (self.post kind .didEnd).leave false else self
  | .didFail _ => (self.post kind .didEnd).leave false
  | .didStart | .gotNotify _ => self

/-- The handler takes the next event. -/
def wake (kind : SubscriptionKind Notify) (env : SubscriptionEnv) (sends : Route → Bool)
    (self : SubscriptionLoop Notify) : SubscriptionLoop Notify :=
  match self.dataChannel with
  | [] => self
  | (sender, event) :: dataChannel =>
      let loop := { self with dataChannel, taken := (self.subscription, sender) :: self.taken }
      match self.handler with
      | .starting refresh routes => loop.takeStarting kind env sends refresh routes sender event
      | .subscribed => loop.takeSubscribed kind sender event
      | .ending => loop.takeEnding kind sender event
      | _ => self

/-- The exception reaches the handler. -/
def thrown (kind : SubscriptionKind Notify) (sendError : Option String) (self : SubscriptionLoop Notify) :
    SubscriptionLoop Notify :=
  match self.killed, self.subscription with
  | none, _ => self
  | some _, none => self.finish
  | some .interrupt, some sender =>
      (((self.removeObserver sender).endObject sender sendError).post kind .didEnd).finish
  | some .terminate, some sender =>
      { self.endObject sender sendError with handler := .ending, killed := none }

/-! ### The commands -/

def spawn (self : SubscriptionLoop Notify) (refreshInterval : Option Nat) (interval : Nat) :
    SubscriptionLoop Notify :=
  { self with command := .idle, handler := .lookup refreshInterval interval }

/-- The command once there is no handler. -/
def perform (self : SubscriptionLoop Notify) (interval : Nat) :
    SubscriptionCommand → SubscriptionLoop Notify
  | .subscribe refreshInterval => self.spawn refreshInterval interval
  | .unsubscribe => { self with command := .idle }
  | .terminate => { self with command := .off }

/-- `_run` takes the next command, with the interval of the account. -/
def take (kind : SubscriptionKind Notify) (interval : Nat) (self : SubscriptionLoop Notify) :
    SubscriptionLoop Notify :=
  match self.command, self.commandChannel with
  | .idle, command :: commandChannel =>
      let loop := { self with commandChannel }
      if command = .terminate ∧ kind.terminates = false then { loop with command := .off }
      else
        let loop := { loop with timer := none }
        if self.handler = .none then loop.perform interval command
        else
          let kill : Kill := match command with
            | .subscribe _ => .interrupt
            | _ => .terminate
          { loop with command := .waiting command, killed := some kill }
  | _, _ => self

/-- `_run` goes on when the handler that it has killed is gone. -/
def resume (self : SubscriptionLoop Notify) (interval : Nat) : SubscriptionLoop Notify :=
  match self.command, self.handler with
  | .waiting command, .none => self.perform interval command
  | _, _ => self

/-- `resubscribe` of `Subscriber` and every handler that asks `active`. -/
def resubscribe (self : SubscriptionLoop Notify) : SubscriptionLoop Notify :=
  if self.active then self.enqueue (.subscribe none) else self

/-! ### What comes from the other thread -/

/-- The Twisted thread handles the first notification that waits for it. -/
def runCall (kind : SubscriptionKind Notify) (self : SubscriptionLoop Notify) : SubscriptionLoop Notify :=
  match self.reactor with
  | [] => self
  | (sender, event) :: reactor =>
      if kind.queues self.subscription sender then
        { self with reactor, dataChannel := self.dataChannel ++ [(sender, event)] }
      else { self with reactor }

end SubscriptionLoop

end SipSimple.Account
