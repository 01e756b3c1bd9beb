import Mathlib.Data.Rat.Floor
import SipSimple.Configuration.Settings
import SipSimple.Core.SIPURI
import SipSimple.Library.Runs

/-!
# Request

The `Request` of `core/_core.request.pxi` with the PJSIP objects that belong to it: the client transaction that it is
attached to, and the timer entry that first holds the timeout of the request and then its expiry. What PJSIP decides is
input. A timer runs when it is due: its entry is taken from the heap, and only a call from another thread can come before
its callback. An INVITE is sent by an `Invitation`, so that the transaction is one
of another method. A message that PJSIP fails to send makes no callback. Times are milliseconds.
-/

namespace SipSimple.Core

/-- `self.state` -/
inductive RequestState where
  | init | inProgress | expiring | terminated
  deriving DecidableEq, Repr

/-- The states of a client transaction that a request sees. -/
inductive TransactionState where
  | null | calling | proceeding | completed | terminated
  deriving DecidableEq, Repr

structure Answer where
  code : Nat
  reason : String
  deriving DecidableEq, Repr

/-- `pjsip_transaction` -/
structure Transaction where
  state : TransactionState := .null
  status : Answer := ⟨0, ""⟩

/-- `pj_timer_entry`: an entry that fires is no longer in the heap. -/
inductive TimerEntry where
  | idle
  | scheduled (due : Nat)
  | firing
  deriving DecidableEq, Repr

inductive RequestNotification where
  | gotProvisionalResponse (answer : Answer)
  | didSucceed (answer : Option Answer) (expires : Int)
  | didFail (answer : Option Answer)
  | willExpire (expires : Int)
  | didEnd
  deriving DecidableEq, Repr

/-- A Contact header of a response; the star has no URI. -/
structure ResponseContact where
  uri : Option SIPURI
  expires : Option Int

/-- The headers of a response that `_cb_tsx_state` reads. -/
structure ResponseHeaders where
  expires : Option Int := none
  contacts : List ResponseContact := []

/-- `rdata` -/
structure Response where
  answer : Answer
  /-- The To header can be read. -/
  toHeader : Bool := true
  /-- What `_pjsip_msg_to_dict` reads, unless it raises. -/
  headers : Option ResponseHeaders := some {}

/-- What becomes of the calls to PJSIP: the text of the status where one fails. -/
structure RequestEnv where
  reinit : Option String := none
  create : Option String := none
  send : Option String := none
  timeoutAccepted : Bool := true
  expiryAccepted : Bool := true

structure Request where
  state : RequestState := .init
  tsx : Option Transaction := some {}
  needAuth : Bool
  contactHeader : Option (Option SIPURI)
  extraHeaders : List (String × Str)
  timeout : Option Rat := none
  timer : TimerEntry := .idle
  timerActive : Bool := false
  expireRest : Int := 0
  /-- PJSIP refused to schedule the timer when it was last asked to. -/
  refused : Bool := false
  /-- `end` was called. -/
  ended : Bool := false
  now : Nat := 0
  posted : List (Nat × RequestNotification) := []

namespace Request

def expireWarningTime : Int := 30

/-- `__init__` -/
def new (credentials : Bool) (contactHeader : Option (Option SIPURI)) (extraHeaders : List (String × Str)) : Request :=
  { needAuth := credentials, contactHeader, extraHeaders }

/-- `_add_event` -/
def post (self : Request) (notification : RequestNotification) : Request :=
  { self with posted := self.posted ++ [(self.now, notification)] }

/-- The state is `TERMINATED` when the end is posted. -/
def finish (self : Request) : Request := { self with state := .terminated }.post .didEnd

/-- A failure is posted with the end. -/
def fail (self : Request) (answer : Option Answer) : Request := (self.post (.didFail answer)).finish

/-- `pjsip_endpt_schedule_timer`; an entry that is in the heap is refused. -/
def schedule (self : Request) (accepted : Bool) (delay : Nat) : Request :=
  match accepted, self.timer with
  | true, .idle | true, .firing => { self with timer := .scheduled (self.now + delay), refused := false }
  | _, _ => { self with refused := true }

/-- `pjsip_endpt_cancel_timer` -/
def cancel (self : Request) : Request :=
  match self.timer with
  | .scheduled _ => { self with timer := .idle }
  | _ => self

/-- The timer is cancelled if it is active. -/
def cancelActive (self : Request) : Request :=
  if self.timerActive then { self.cancel with timerActive := false } else self

/-- The milliseconds of `timeout_pj` -/
def timeoutDelay (timeout : Rat) : Nat := timeout.floor.toNat * 1000 + ((timeout * 1000).floor % 1000).toNat

/-- An assignment to a C `int`, which raises `OverflowError` for other values. -/
def cInt (value : Int) : Option Int := if -2 ^ 31 ≤ value ∧ value < 2 ^ 31 then some value else none

/-- `==` of two URIs, where the star has none. -/
def sameURI : Option SIPURI → Option SIPURI → Bool
  | none, none => true
  | some uri, some other => uri.eq other
  | _, _ => false

/-- The expiry that the response grants, or that was asked for. -/
def grantedExpires (self : Request) (headers : ResponseHeaders) : Option Int := do
  let expires ← match headers.expires, self.contactHeader with
    | some value, _ => cInt value
    | none, none => some (-1)
    | none, some own => headers.contacts.foldlM (fun expires contact =>
        match contact.expires with
        | some value => if sameURI contact.uri own then cInt value else some expires
        | none => some expires) (-1)
  if expires = -1 then
    match self.extraHeaders.find? fun header => header.1 == "Expires" with
    | none => return 0
    | some header =>
        match Configuration.intUnicode header.2 with
        | none => return 0
        | some value => cInt value
  else return expires

/-- `max(1, expires - self.expire_warning_time, expires/2)` -/
def expiryDelay (expires : Int) : Int := max 1 (max (expires - expireWarningTime) (expires / 2))

/-- `_expire_rest` -/
def expiryRest (expires : Int) : Int := max 1 (expires - expiryDelay expires)

/-- After the outcome is posted. -/
def startExpiry (self : Request) (expires : Int) (env : RequestEnv) : Request :=
  if expires = 0 then self.finish
  else
    let self := self.schedule env.expiryAccepted ((expiryDelay expires).toNat * 1000)
    if self.refused then self.finish
    else { self with timerActive := true, state := .expiring, expireRest := expiryRest expires }

/-- The timeout of a request that is sent; without one there is nothing to schedule. -/
def startTimeout (self : Request) (env : RequestEnv) : Request :=
  match self.timeout with
  | none => self
  | some timeout =>
      let self := self.schedule env.timeoutAccepted (timeoutDelay timeout)
      if self.refused then self else { self with timerActive := true }

/-- The request is sent again with credentials. -/
def authenticate (self : Request) (env : RequestEnv) : Request :=
  let self : Request := { self with needAuth := false }
  match env.reinit with
  | some text => self.fail (some ⟨0, "Could not add auth data to request " ++ text⟩)
  | none =>
      match env.create with
      | some text => self.fail (some ⟨0, "Could not create transaction for request with auth " ++ text⟩)
      | none =>
          -- callbacks of the transaction before find no request from here on
          match env.send with
          | some text =>
              { self with tsx := some {} }.fail (some ⟨0, "Could not send request with auth " ++ text⟩)
          | none => { self with tsx := some { state := .calling } }.startTimeout env

/-- `_cb_tsx_state` with `PJSIP_TSX_STATE_COMPLETED` -/
def cbCompleted (self : Request) (tsx : Transaction) (rdata : Option Response) (env : RequestEnv) : Request :=
  let self := self.cancelActive
  if self.needAuth ∧ (tsx.status.code = 401 ∨ tsx.status.code = 407) then self.authenticate env
  else
    match rdata with
    | none =>
        if tsx.status.code / 100 = 2 then (self.post (.didSucceed none (-1))).startExpiry (-1) env
        else (self.post (.didFail none)).startExpiry 0 env
    | some response =>
        match response.headers with
        | none => self
        | some headers =>
            if tsx.status.code / 100 = 2 then
              match self.grantedExpires headers with
              | none => self
              | some expires => (self.post (.didSucceed (some response.answer) expires)).startExpiry expires env
            else (self.post (.didFail (some response.answer))).startExpiry 0 env

/-- `_cb_tsx_state` with `PJSIP_TSX_STATE_TERMINATED` -/
def cbTerminated (self : Request) (tsx : Transaction) : Request :=
  let self := if self.state = .inProgress then self.cancelActive.fail (some tsx.status) else self
  { self with tsx := none }

/-- `_cb_tsx_state`; what it raises is logged. -/
def cbTsxState (self : Request) (tsx : Transaction) (rdata : Option Response) (env : RequestEnv) : Request :=
  if rdata.any fun response => !response.toHeader then self
  else
    match tsx.state, rdata with
    | .proceeding, some response =>
        if response.headers.isSome then self.post (.gotProvisionalResponse response.answer) else self
    | .completed, rdata => self.cbCompleted tsx rdata env
    | .terminated, _ => self.cbTerminated tsx
    | _, _ => self

/-- `pjsip_tsx_terminate` of the transaction, which calls back. -/
def tsxTerminate (self : Request) (status : Answer) : Request :=
  match self.tsx with
  | none => self
  | some tsx =>
      if tsx.state = .terminated then self
      else
        let tsx := { tsx with state := .terminated, status }
        { self with tsx := some tsx }.cbTsxState tsx none {}

def requestTimeout : Answer := ⟨408, "Request Timeout"⟩

/-- `send`; PJSIP calls back with the state `CALLING` only. -/
def send (self : Request) (timeout : Option Rat) (env : RequestEnv) : Request :=
  if self.state ≠ .init ∨ timeout.any (· ≤ 0) then self
  else
    let self : Request := { self with timeout }
    if env.send.isSome then self
    else
      let self : Request := { self with tsx := self.tsx.map fun tsx => { tsx with state := .calling } }
      let self := self.startTimeout env
      -- without a timeout the status is still that of sending
      { self with timerActive := self.timerActive || timeout.isNone, state := .inProgress }

/-- `end` -/
def endRequest (self : Request) : Request :=
  match self.state with
  | .inProgress => self.tsxTerminate requestTimeout
  | .expiring => { self.cancel with timerActive := false }.finish
  | _ => self

/-- `_cb_timer` -/
def cbTimer (self : Request) (env : RequestEnv) : Request :=
  match self.state with
  | .inProgress => self.tsxTerminate requestTimeout
  | .expiring =>
      if 0 < self.expireRest then
        let expires := self.expireRest
        let self := self.post (.willExpire expires)
        let self := { self with expireRest := 0 }.schedule env.expiryAccepted (expires.toNat * 1000)
        if self.refused then self.finish else { self with timerActive := true }
      else self.finish
  | _ => self

end Request

/-! ### Steps -/

inductive RequestInput where
  | send (timeout : Option Rat) (env : RequestEnv)
  | endRequest
  /-- A response that the transaction gets. -/
  | received (response : Response) (env : RequestEnv)
  /-- The transaction times out or its transport fails; one that is completed is over. -/
  | tsxTerminated (status : Answer)
  | elapse (milliseconds : Nat)
  /-- The timer is taken from the heap when it is due. -/
  | pollTimer
  | timerCallback (env : RequestEnv)

/-- The transaction waits for a final response. -/
def Transaction.waits (tsx : Transaction) : Bool := tsx.state == .calling || tsx.state == .proceeding

namespace Request

/-- `tsx_on_state_proceeding_uac`; a response after the final one is dropped. -/
def received (self : Request) (response : Response) (env : RequestEnv) : Request :=
  match self.tsx with
  | none => self
  | some tsx =>
      if tsx.waits then
        let state : TransactionState := if response.answer.code < 200 then .proceeding else .completed
        { self with tsx := some ⟨state, response.answer⟩ }.cbTsxState ⟨state, response.answer⟩ (some response) env
      else self

/-- The transaction is terminated with the status, or with that of its final response. -/
def transactionTerminated (self : Request) (status : Answer) : Request :=
  match self.tsx with
  | none => self
  | some tsx =>
      if tsx.waits then self.tsxTerminate status
      else if tsx.state = .completed then self.tsxTerminate tsx.status
      else self

/-- Time does not go on past a timer. -/
def elapse (self : Request) (milliseconds : Nat) : Request :=
  match self.timer with
  | .idle => { self with now := self.now + milliseconds }
  | .scheduled due => if self.now + milliseconds ≤ due then { self with now := self.now + milliseconds } else self
  | .firing => self

def pollTimer (self : Request) : Request :=
  match self.timer with
  | .scheduled due => if due ≤ self.now then { self with timer := .firing } else self
  | _ => self

/-- `_Request_cb_timer` -/
def timerCallback (self : Request) (env : RequestEnv) : Request :=
  match self.timer with
  | .firing => { self with timer := .idle, timerActive := false }.cbTimer env
  | _ => self

/-- While a timer fires the thread that polls does nothing else. -/
def step (self : Request) : RequestInput → Request
  | .send timeout env => self.send timeout env
  | .endRequest => { self.endRequest with ended := true }
  | .received response env => if self.timer = .firing then self else self.received response env
  | .tsxTerminated status => if self.timer = .firing then self else self.transactionTerminated status
  | .elapse milliseconds => self.elapse milliseconds
  | .pollTimer => self.pollTimer
  | .timerCallback env => self.timerCallback env

end Request

end SipSimple.Core
