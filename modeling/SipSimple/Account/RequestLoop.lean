import SipSimple.Core.Primitives

/-!
# The command loop of Registrar and Publisher

`Registrar` of `account/registration.py` and `Publisher` of `account/publication.py` are the same loop over a
`Registration` or a `Publication`. It takes commands from `_command_channel`; a command that registers or
publishes looks up the routes and tries them in turn, and one that unregisters or unpublishes ends what it
holds. The answers come from another thread as calls of the Twisted thread and go from there to
`_data_channel`, where a handler waits for them. `RequestKind` says what the two do differently.

A loop runs until it has to wait, so what a handler does between two waits is one step, with what it finds
there (whether the socket takes a request, the routes, the settings) as input. An exception that no handler
catches ends the loop: `LoopPhase.dead`. What a method logs or announces is left out.
-/

namespace SipSimple.Account

open SipSimple.Core

/-- `RegistrationError`, `PublicationError`: with the bounds of the random delay. -/
structure LoopError where
  error : String
  retryAfter : Nat × Nat
  refreshInterval : Option Nat := none
  deriving DecidableEq, Repr

inductive CommandName (Payload : Type) where
  /-- `register`, `publish` -/
  | acquire (payload : Payload) (refreshInterval : Option Nat)
  /-- `unregister`, `unpublish` -/
  | release
  | terminate
  deriving DecidableEq, Repr

/-- A command with the event that its caller may wait for. -/
structure LoopCommand (Payload : Type) where
  name : CommandName Payload
  event : Nat
  deriving DecidableEq, Repr

/-- The delayed call of a failed command, which hands on the command's event. -/
structure RetryTimer where
  event : Nat
  refreshInterval : Option Nat
  delay : Nat × Nat
  deriving DecidableEq, Repr

/-- A call that waits for the Twisted thread. -/
inductive ReactorCall (Success Call : Type) where
  | answer (sender : Nat) (answer : RequestAnswer Success)
  | willExpire (sender : Nat)
  | call (call : Call)
  deriving DecidableEq, Repr

inductive LoopPhase (Payload : Type) where
  /-- No loop runs: not started, or ended by `terminate`. -/
  | off
  | idle
  | lookup (payload : Payload) (event : Nat)
  /-- Waits for the answer of a request, with the routes that are left. -/
  | awaiting (payload : Payload) (event : Nat) (routes : List Route)
  | releasing (event : Nat) (terminate : Bool)
  | dead
  deriving DecidableEq, Repr

/-- What `lookup_sip_proxy` raises: `DNSLookupError`, or the `ValueError` of a route that cannot be made. -/
inductive LookupError where
  | dnsLookupError (error : String)
  | valueError
  deriving DecidableEq, Repr

/-- The command that failed. -/
inductive FailedCommand where
  | acquire | release
  deriving DecidableEq, Repr

/-- What trying a route comes to before anything is sent. -/
inductive Attempt (Request : Type) where
  | skip
  | send (request : Request)
  | stop (error : LoopError)
  /-- The command is signalled and its handler returns. -/
  | leave
  | escape
  deriving DecidableEq, Repr

inductive Verdict where
  | nextRoute
  | raise (error : LoopError)
  | escape
  deriving DecidableEq, Repr

/-- What `Registrar` and `Publisher` do differently. -/
structure RequestKind (Env Request Etag Success Saved Payload : Type) where
  noEtag : Etag
  /-- The command has nothing to do, with or without a holder. -/
  ignores : Payload → Bool → Bool
  /-- What is read before the first route is tried can be read. -/
  prepares : Payload → Bool
  attempt : Env → Payload → Route → RequestHolder Request Etag → Nat → Attempt Request
  /-- What becomes of a request that cannot be sent: it is raised, or posted as a failure. -/
  sendError : Except LoopError RequestFailure
  /-- What is read from the data of a success and kept, or none for an exception. -/
  read : Env → Success → Option Saved
  verdict : Env → RequestFailure → Verdict
  expired : LoopError
  endRequest : RequestHolder Request Etag → Request → Nat → Request
  leave_last : ∀ {env payload route holder serial},
    attempt env payload route holder serial = .leave → holder.lastRequest.isSome
  verdict_sendError : ∀ {env failure}, sendError = .ok failure → verdict env failure = .nextRoute

structure RequestLoop (Request Etag Success Saved Payload Call : Type) where
  started : Bool := false
  active : Bool := false
  /-- `registered`, `publishing` -/
  held : Bool := false
  /-- `_registration`, `_publication`, with the number of the object. -/
  holder : Option (Nat × RequestHolder Request Etag) := none
  /-- The next number of an object, a request or an event. -/
  serial : Nat := 0
  /-- What is kept from the last success. -/
  saved : Option Saved := none
  commandChannel : List (LoopCommand Payload) := []
  dataChannel : List (RequestAnswer Success) := []
  /-- The calls from other threads that the Twisted thread has yet to run. -/
  reactor : List (ReactorCall Success Call) := []
  timer : Option RetryTimer := none
  dnsWait : Nat := 1
  /-- `_register_wait`, `_publish_wait` -/
  wait : Nat := 1
  phase : LoopPhase Payload := .off
  clock : Nat := 0
  /-- `register_timeout`, `publish_timeout` -/
  deadline : Nat := 0
  /-- The events that are sent; to send one again raises. -/
  signalled : List Nat := []
  /-- The requests that are sent and not answered. -/
  wire : List Request := []
  /-- The requests that are ended before they are answered. -/
  cancelled : List Request := []
  /-- Every request that is sent, the last one first. -/
  sent : List Request := []
  /-- The command that the last step ended in failure. -/
  failed : Option FailedCommand := none

namespace RequestLoop

variable {Env Request Etag Success Saved Payload Call : Type} [DecidableEq Request]

/-! ### The channels -/

def enqueue (self : RequestLoop Request Etag Success Saved Payload Call) (name : CommandName Payload) :
    RequestLoop Request Etag Success Saved Payload Call :=
  { self with
    commandChannel := self.commandChannel ++ [{ name, event := self.serial }]
    serial := self.serial + 1 }

def die (self : RequestLoop Request Etag Success Saved Payload Call) :
    RequestLoop Request Etag Success Saved Payload Call :=
  { self with phase := .dead }

/-- `command.signal()` as the last thing that a handler does. -/
def signal (self : RequestLoop Request Etag Success Saved Payload Call) (event : Nat) :
    RequestLoop Request Etag Success Saved Payload Call :=
  if event ∈ self.signalled then self.die else { self with signalled := event :: self.signalled }

/-- An answer that is posted in the Twisted thread is in the channel at once. -/
def receive (self : RequestLoop Request Etag Success Saved Payload Call) (answer : RequestAnswer Success) :
    RequestLoop Request Etag Success Saved Payload Call :=
  { self with dataChannel := self.dataChannel ++ [answer] }

/-! ### `_CH_register`, `_CH_publish` -/

/-- The handler of the command's own error. -/
def fail (self : RequestLoop Request Etag Success Saved Payload Call) (event : Nat) (error : LoopError) :
    RequestLoop Request Etag Success Saved Payload Call :=
  { self with
    held := false, holder := none, saved := none, phase := .idle, failed := some .acquire
    timer := some { event, refreshInterval := error.refreshInterval, delay := error.retryAfter } }

def succeed (self : RequestLoop Request Etag Success Saved Payload Call) (event : Nat) (saved : Saved) :
    RequestLoop Request Etag Success Saved Payload Call :=
  { self with held := true, saved := some saved, wait := 1, phase := .idle }.signal event

/-- The wait for an answer: it takes what is in the channel at once. -/
def readAnswer (kind : RequestKind Env Request Etag Success Saved Payload) (env : Env) (payload : Payload)
    (event : Nat) (routes : List Route)
    (next : RequestLoop Request Etag Success Saved Payload Call → RequestLoop Request Etag Success Saved Payload Call)
    (self : RequestLoop Request Etag Success Saved Payload Call) :
    RequestLoop Request Etag Success Saved Payload Call :=
  match self.dataChannel with
  | [] => { self with phase := .awaiting payload event routes }
  | .didSucceed data :: channel =>
      match kind.read env data with
      | some saved => { self with dataChannel := channel }.succeed event saved
      | none => { self with dataChannel := channel, held := true }.die
  | .didFail failure :: channel =>
      match kind.verdict env failure with
      | .nextRoute => next { self with dataChannel := channel }
      | .raise error => { self with dataChannel := channel }.fail event error
      | .escape => { self with dataChannel := channel }.die
  | .didEnd _ :: channel => { self with dataChannel := channel }.fail event kind.expired
  | .didNotEnd _ _ :: channel => { self with dataChannel := channel }.die

def transmit (self : RequestLoop Request Etag Success Saved Payload Call) (id : Nat)
    (holder : RequestHolder Request Etag) (request : Request) (ending : Bool) :
    RequestLoop Request Etag Success Saved Payload Call :=
  { self with
    serial := self.serial + 1
    holder := some (id, holder.sent request ending)
    wire := request :: self.wire
    cancelled := holder.currentRequest.toList ++ self.cancelled
    sent := request :: self.sent }

def notTransmitted (self : RequestLoop Request Etag Success Saved Payload Call) (id : Nat)
    (holder : RequestHolder Request Etag) : RequestLoop Request Etag Success Saved Payload Call :=
  { self with
    serial := self.serial + 1
    holder := some (id, holder.notSent)
    cancelled := holder.currentRequest.toList ++ self.cancelled }

/-- The loop over the routes. -/
def tryRoutes (kind : RequestKind Env Request Etag Success Saved Payload) (env : Env) (sends : Route → Bool)
    (payload : Payload) (event : Nat) :
    List Route → RequestLoop Request Etag Success Saved Payload Call →
      RequestLoop Request Etag Success Saved Payload Call
  | [], self =>
      { self with wait := min (2 * self.wait) 30 }.fail event
        { error := "No more routes to try", retryAfter := (self.wait, 2 * self.wait) }
  | route :: routes, self =>
      if self.clock < self.deadline then
        match self.holder with
        | none => self.die
        | some (id, holder) =>
            match kind.attempt env payload route holder self.serial with
            | .skip => tryRoutes kind env sends payload event routes self
            | .leave => { self with phase := .idle }.signal event
            | .stop error => self.fail event error
            | .escape => self.die
            | .send request =>
                let next := fun loop => tryRoutes kind env sends payload event routes loop
                if sends route then
                  (self.transmit id holder request false).readAnswer kind env payload event routes next
                else
                  match kind.sendError with
                  | .error error => (self.notTransmitted id holder).fail event error
                  | .ok failure =>
                      (self.notTransmitted id holder |>.receive (.didFail failure)).readAnswer kind env
                        payload event routes next
      else tryRoutes kind env sends payload event routes self

/-- The handler up to the lookup of the routes. -/
def acquire (kind : RequestKind Env Request Etag Success Saved Payload) (interval : Nat) (payload : Payload)
    (refreshInterval : Option Nat) (event : Nat)
    (self : RequestLoop Request Etag Success Saved Payload Call) :
    RequestLoop Request Etag Success Saved Payload Call :=
  if kind.ignores payload self.holder.isSome then self.signal event
  else
    match self.holder with
    | none =>
        let duration := match refreshInterval with
          | some (seconds + 1) => seconds + 1
          | _ => interval
        { self with
          timer := none
          serial := self.serial + 1
          holder := some (self.serial, { duration, lastEtag := kind.noEtag })
          phase := .lookup payload event }
    | some _ => { self with timer := none, phase := .lookup payload event }

/-- The handler from the result of the lookup on. -/
def lookedUp (kind : RequestKind Env Request Etag Success Saved Payload) (env : Env) (sends : Route → Bool)
    (result : Except LookupError (List Route)) (self : RequestLoop Request Etag Success Saved Payload Call) :
    RequestLoop Request Etag Success Saved Payload Call :=
  match self.phase, result with
  | .lookup _ _, .error .valueError => self.die
  | .lookup _ event, .error (.dnsLookupError error) =>
      { self with dnsWait := min (2 * self.dnsWait) 30 }.fail event
        { error := "DNS lookup failed: " ++ error, retryAfter := (self.dnsWait, 2 * self.dnsWait) }
  | .lookup payload event, .ok routes =>
      if kind.prepares payload then
        tryRoutes kind env sends payload event routes
          { self with dnsWait := 1, deadline := self.clock + 30 }
      else { self with dnsWait := 1 }.die
  | _, _ => self

/-! ### `_CH_unregister`, `_CH_unpublish`, `_CH_terminate` -/

/-- `terminate` ends the loop with `ProcExit` once the command is signalled. -/
def released (self : RequestLoop Request Etag Success Saved Payload Call) (event : Nat) (terminate : Bool) :
    RequestLoop Request Etag Success Saved Payload Call :=
  { self with phase := if terminate then .off else .idle }.signal event

/-- The wait for the end: a success is read over. -/
def awaitEnd (event : Nat) (terminate : Bool) :
    List (RequestAnswer Success) → RequestLoop Request Etag Success Saved Payload Call →
      RequestLoop Request Etag Success Saved Payload Call
  | [], self => { self with dataChannel := [], phase := .releasing event terminate }
  | .didSucceed _ :: channel, self => awaitEnd event terminate channel self
  | .didEnd _ :: channel, self =>
      { self with dataChannel := channel, holder := none, saved := none }.released event terminate
  | .didFail _ :: channel, self | .didNotEnd _ _ :: channel, self =>
      { self with
        dataChannel := channel, holder := none, saved := none, failed := some .release }.released event terminate

/-- `sends` tells whether the socket takes the request of `end`. -/
def release (kind : RequestKind Env Request Etag Success Saved Payload) (sends : Bool) (event : Nat)
    (terminate : Bool) (self : RequestLoop Request Etag Success Saved Payload Call) :
    RequestLoop Request Etag Success Saved Payload Call :=
  let loop := { self with timer := none, held := false }
  match self.holder with
  | none => loop.released event terminate
  | some (id, holder) =>
      if self.held then
        match holder.lastRequest with
        -- `end` returns at once, and the loop waits for what is on its way.
        | none => loop.awaitEnd event terminate loop.dataChannel
        | some last =>
            if sends then
              (loop.transmit id holder (kind.endRequest holder last self.serial) true).awaitEnd event
                terminate loop.dataChannel
            else
              let loop := (loop.notTransmitted id holder).receive (.didNotEnd 0 "Could not send request")
              loop.awaitEnd event terminate loop.dataChannel
      else { loop with holder := none, saved := none }.released event terminate

/-! ### The loop -/

/-- `_run` takes the next command. -/
def take (kind : RequestKind Env Request Etag Success Saved Payload) (interval : Nat) (sends : Bool)
    (self : RequestLoop Request Etag Success Saved Payload Call) :
    RequestLoop Request Etag Success Saved Payload Call :=
  match self.phase, self.commandChannel with
  | .idle, command :: commands =>
      let loop := { self with commandChannel := commands }
      match command.name with
      | .acquire payload refreshInterval =>
          loop.acquire kind interval payload refreshInterval command.event
      | .release => loop.release kind sends command.event false
      | .terminate => loop.release kind sends command.event true
  | _, _ => self

/-- A handler that waits for an answer goes on when there is one. -/
def wake (kind : RequestKind Env Request Etag Success Saved Payload) (env : Env) (sends : Route → Bool)
    (self : RequestLoop Request Etag Success Saved Payload Call) :
    RequestLoop Request Etag Success Saved Payload Call :=
  match self.phase with
  | .awaiting payload event routes =>
      self.readAnswer kind env payload event routes (tryRoutes kind env sends payload event routes)
  | .releasing event terminate => self.awaitEnd event terminate self.dataChannel
  | _ => self

def spawn (self : RequestLoop Request Etag Success Saved Payload Call) :
    RequestLoop Request Etag Success Saved Payload Call :=
  { self with started := true, phase := .idle }

def stop (self : RequestLoop Request Etag Success Saved Payload Call) :
    RequestLoop Request Etag Success Saved Payload Call :=
  if self.started then { self with started := false, active := false }.enqueue .terminate else self

/-- The delayed call of a failed command while the object is active. -/
def retry (payload : Payload) (self : RequestLoop Request Etag Success Saved Payload Call) :
    RequestLoop Request Etag Success Saved Payload Call :=
  match self.timer with
  | none => self
  | some timer =>
      { self with
        timer := none
        commandChannel := self.commandChannel ++
          [{ name := .acquire payload timer.refreshInterval, event := timer.event }] }

/-- The delayed call of a failed command once the object is not active: it signals the command. -/
def giveUp (self : RequestLoop Request Etag Success Saved Payload Call) :
    RequestLoop Request Etag Success Saved Payload Call :=
  match self.timer with
  | none => self
  | some timer =>
      if timer.event ∈ self.signalled then self
      else { self with timer := none, signalled := timer.event :: self.signalled }

/-! ### What comes from the other thread -/

/-- The answers of the holder are calls of the Twisted thread. -/
def post (self : RequestLoop Request Etag Success Saved Payload Call) (id : Nat)
    (result : RequestHolder Request Etag × List (RequestAnswer Success)) :
    RequestLoop Request Etag Success Saved Payload Call :=
  { self with
    holder := some (id, result.1)
    reactor := self.reactor ++ result.2.map (.answer id) }

/-- A request on the wire is answered: `handle` is the holder's method for it. -/
def answered (request : Request)
    (handle : RequestHolder Request Etag → RequestHolder Request Etag × List (RequestAnswer Success))
    (self : RequestLoop Request Etag Success Saved Payload Call) :
    RequestLoop Request Etag Success Saved Payload Call :=
  if request ∈ self.wire then
    match self.holder with
    | none => { self with wire := self.wire.erase request }
    | some (id, holder) => { self with wire := self.wire.erase request }.post id (handle holder)
  else self

/-- A request on the wire is challenged, and the core sends it again: whoever holds it, if anybody does. -/
def challenged (request again : Request) (self : RequestLoop Request Etag Success Saved Payload Call) :
    RequestLoop Request Etag Success Saved Payload Call :=
  if request ∈ self.wire ∧ request ∉ self.cancelled then
    { self with
      holder := self.holder.map fun found => (found.1, found.2.renewed request again)
      wire := again :: self.wire.erase request
      sent := again :: self.sent }
  else self

/-- An answered request has expired; a request that is in flight is cancelled then. -/
def expired (handle : RequestHolder Request Etag → RequestHolder Request Etag × List (RequestAnswer Success))
    (self : RequestLoop Request Etag Success Saved Payload Call) :
    RequestLoop Request Etag Success Saved Payload Call :=
  match self.holder with
  | none => self
  | some (id, holder) =>
      { self with
        cancelled :=
          if (handle holder).1.currentRequest.isNone then holder.currentRequest.toList ++ self.cancelled
          else self.cancelled }.post id (handle holder)

/-- An answered request will expire soon. -/
def expiring (request : Request) (self : RequestLoop Request Etag Success Saved Payload Call) :
    RequestLoop Request Etag Success Saved Payload Call :=
  match self.holder with
  | none => self
  | some (id, holder) =>
      if holder.lastRequest = some request then
        { self with reactor := self.reactor ++ [.willExpire id] }
      else self

/-- The Twisted thread runs the notification: what another object has posted is ignored. -/
def deliver (sender : Nat) (answer : RequestAnswer Success)
    (self : RequestLoop Request Etag Success Saved Payload Call) :
    RequestLoop Request Etag Success Saved Payload Call :=
  if self.holder.map (·.1) = some sender then self.receive answer else self

end RequestLoop

end SipSimple.Account
