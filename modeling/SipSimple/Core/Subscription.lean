import SipSimple.Core.Primitives

/-!
# Subscription

The `Subscription` of `core/_core.subscription.pxi`: what it posts on the callbacks of PJSIP, the timeout and
`end`. The data of the callbacks and whether PJSIP sends a request are input. Once the state is `TERMINATED`
PJSIP no longer knows the object, so that no callback finds it. The notifications that nothing in the
subscription handlers takes (`WillStart`, `WillEnd`, `ChangedState`) and the timers' own state are left out.
-/

namespace SipSimple.Core

inductive SubscriptionState where
  | null | sent | accepted | pending | active | terminated
  deriving DecidableEq, Repr

/-- The data of `SIPSubscriptionDidFail`. -/
structure SubscriptionFailure where
  code : Nat
  reason : Option String
  minExpires : Option Nat
  deriving DecidableEq, Repr

/-- `SIPSubscriptionDidStart`, `...DidEnd`, `...DidFail` and `...GotNotify`. -/
inductive SubscriptionEvent (Notify : Type) where
  | didStart
  | didEnd
  | didFail (data : SubscriptionFailure)
  | gotNotify (data : Notify)
  deriving DecidableEq, Repr

/-- After it the subscription posts nothing. -/
def SubscriptionEvent.isLast {Notify : Type} : SubscriptionEvent Notify → Bool
  | .didEnd | .didFail _ => true
  | .didStart | .gotNotify _ => false

structure Subscription where
  contactHeader : String
  routeHeader : Route
  refresh : Nat
  state : SubscriptionState := .null
  wantEnd : Bool := false
  termCode : Nat := 0
  termReason : Option String := none
  deriving DecidableEq, Repr

/-- What `_cb_state` reads of the message behind a change of the state. -/
structure StateHeaders where
  contact : Bool := false
  expires : Option Nat := none
  minExpires : Option Nat := none
  /-- The reason of a `Subscription-State` that is terminated. -/
  terminatedReason : Option (Option String) := none
  deriving DecidableEq, Repr

inductive SubscriptionCallback (Notify : Type) where
  /-- `sendError` is what becomes of the request that ends a subscription with an `Expires` of 0. -/
  | state (state : SubscriptionState) (code : Nat) (reason : Option String) (headers : StateHeaders)
      (sendError : Option String)
  /-- With the event and the content type that the subscription is for. -/
  | notify (data : Notify)
  | timeout
  | refreshTimer (sendError : Option String)
  deriving DecidableEq, Repr

namespace Subscription

variable {Notify : Type}

/-- `_cb_state` with the state `TERMINATED`. -/
def terminated (self : Subscription) (code : Nat) (reason : Option String) (headers : StateHeaders) :
    Subscription × List (SubscriptionEvent Notify) :=
  ({ self with state := .terminated },
    if self.wantEnd then [.didEnd]
    else
      let minExpires := headers.minExpires
      match self.termReason with
      | some termReason => [.didFail { code := self.termCode, reason := some termReason, minExpires }]
      | none => [.didFail { code, reason := headers.terminatedReason.getD reason, minExpires }])

/-- `pjsip_evsub_terminate`, which comes back as a callback. -/
def evsubTerminate (self : Subscription) : Subscription × List (SubscriptionEvent Notify) :=
  self.terminated 0 none {}

/-- The request that ends the subscription; `sendError` is none where it is sent. -/
def sendEnd (self : Subscription) (sendError : Option String) :
    Subscription × List (SubscriptionEvent Notify) :=
  let self := { self with wantEnd := true }
  match sendError with
  | none => (self, [])
  | some reason => { self with termReason := some reason }.evsubTerminate

def cbState (self : Subscription) (state : SubscriptionState) (code : Nat) (reason : Option String)
    (headers : StateHeaders) (sendError : Option String) : Subscription × List (SubscriptionEvent Notify) :=
  if state = .terminated then self.terminated code reason headers
  else if state = .accepted ∧ self.state = .sent then
    let self := { self with state }
    if headers.contact = false then
      { self with termCode := 1400, termReason := some "Contact header missing" }.evsubTerminate
    else if headers.expires = some 0 then
      let (self, events) := self.sendEnd sendError
      (self, .didStart :: events)
    else (self, [.didStart])
  else ({ self with state }, [])

def cbTimeoutTimer (self : Subscription) : Subscription × List (SubscriptionEvent Notify) :=
  { self with termCode := 408, termReason := some "Request Timeout" }.evsubTerminate

def cbRefreshTimer (self : Subscription) (sendError : Option String) :
    Subscription × List (SubscriptionEvent Notify) :=
  match sendError with
  | none => (self, [])
  | some reason => { self with termReason := some reason }.evsubTerminate

/-- A callback of an object that PJSIP still knows. -/
def callback (self : Subscription) (callback : SubscriptionCallback Notify) :
    Subscription × List (SubscriptionEvent Notify) :=
  if self.state = .terminated then (self, [])
  else
    match callback with
    | .state state code reason headers sendError => self.cbState state code reason headers sendError
    | .notify data => (self, [.gotNotify data])
    | .timeout => self.cbTimeoutTimer
    | .refreshTimer sendError => self.cbRefreshTimer sendError

/-- `end`, which is called once `subscribe` has returned and the state is not `NULL`. -/
def endSubscription (self : Subscription) (sendError : Option String) :
    Subscription × List (SubscriptionEvent Notify) :=
  if self.state = .terminated then (self, []) else self.sendEnd sendError

/-! ### The end is the last thing posted -/

/-- What is posted at once ends with the end, and with it the object is terminated. -/
structure Closes (result : Subscription × List (SubscriptionEvent Notify)) : Prop where
  last : result.2.Pairwise fun event _ => event.isLast = false
  terminated : ∀ event ∈ result.2, event.isLast → result.1.state = .terminated

theorem closes_nil (self : Subscription) :
    Closes ((self, []) : Subscription × List (SubscriptionEvent Notify)) :=
  ⟨.nil, nofun⟩

theorem closes_terminated (self : Subscription) (code : Nat) (reason : Option String)
    (headers : StateHeaders) :
    Closes (self.terminated code reason headers : Subscription × List (SubscriptionEvent Notify)) := by
  refine ⟨?_, fun _ _ _ => rfl⟩
  unfold terminated
  split
  · exact List.pairwise_singleton _ _
  · dsimp only
    split <;> exact List.pairwise_singleton _ _

theorem closes_sendEnd (self : Subscription) (sendError : Option String) :
    Closes (self.sendEnd sendError : Subscription × List (SubscriptionEvent Notify)) := by
  cases sendError with
  | none => exact closes_nil { self with wantEnd := true }
  | some reason => exact closes_terminated _ 0 none {}

theorem Closes.didStart {result : Subscription × List (SubscriptionEvent Notify)} (h : Closes result) :
    Closes (result.1, .didStart :: result.2) := by
  refine ⟨List.pairwise_cons.mpr ⟨fun _ _ => rfl, h.last⟩, ?_⟩
  intro event hmem hlast
  rcases List.mem_cons.mp hmem with rfl | hmem
  · cases hlast
  · exact h.terminated event hmem hlast

theorem closes_cbState (self : Subscription) (state : SubscriptionState) (code : Nat)
    (reason : Option String) (headers : StateHeaders) (sendError : Option String) :
    Closes (self.cbState state code reason headers sendError :
      Subscription × List (SubscriptionEvent Notify)) := by
  unfold cbState
  split
  · exact closes_terminated self code reason headers
  · split
    · dsimp only
      split
      · exact closes_terminated _ 0 none {}
      · split
        · exact (closes_sendEnd { self with state } sendError).didStart
        · exact (closes_nil { self with state }).didStart
    · exact closes_nil { self with state }

theorem closes_callback (self : Subscription) (callback : SubscriptionCallback Notify) :
    Closes (self.callback callback) := by
  unfold Subscription.callback
  split
  · exact closes_nil self
  · cases callback with
    | state state code reason headers sendError =>
        exact closes_cbState self state code reason headers sendError
    | notify data => exact ⟨List.pairwise_singleton _ _, by simp [SubscriptionEvent.isLast]⟩
    | timeout => exact closes_terminated _ 0 none {}
    | refreshTimer sendError =>
        cases sendError with
        | none => exact closes_nil self
        | some reason => exact closes_terminated _ 0 none {}

theorem closes_endSubscription (self : Subscription) (sendError : Option String) :
    Closes (self.endSubscription sendError : Subscription × List (SubscriptionEvent Notify)) := by
  unfold endSubscription
  split
  · exact closes_nil self
  · exact closes_sendEnd self sendError

theorem callback_of_terminated {self : Subscription} (h : self.state = .terminated)
    (callback : SubscriptionCallback Notify) : self.callback callback = (self, []) :=
  if_pos h

theorem endSubscription_of_terminated {self : Subscription} (h : self.state = .terminated)
    (sendError : Option String) :
    (self.endSubscription sendError : Subscription × List (SubscriptionEvent Notify)) = (self, []) :=
  if_pos h

end Subscription

end SipSimple.Core
