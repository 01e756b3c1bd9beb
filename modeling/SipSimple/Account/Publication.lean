import SipSimple.Account.RequestLoopInputs

/-!
# Publisher

`Publisher` of `account/publication.py` with its two classes, which differ in the event and the type of their
documents: the command loop over a `Publication`. A command carries a copy of the state, or says that it is the
same, which refreshes what is published. The setter of `state` holds a lock while it compares the documents and
calls `_publish`; from another thread the call waits for the Twisted thread.
-/

namespace SipSimple.Account

open SipSimple.Core

/-- What the classes know of their documents: how they compare, and which of them `toxml` can write. -/
structure DocumentType (Document : Type) where
  equal : Document → Document → Bool
  builds : Document → Bool

namespace DocumentType

variable {Document : Type}

/-- `state == old_state` -/
def same (docs : DocumentType Document) : Option Document → Option Document → Bool
  | none, none => true
  | some document, some old => docs.equal document old
  | _, _ => false

end DocumentType

/-- The state that a command carries. -/
inductive PublishState (Document : Type) where
  | none
  /-- `SameState` -/
  | same
  | document (document : Document)
  deriving DecidableEq, Repr

def PublishState.ofState {Document : Type} : Option Document → PublishState Document
  | .none => .none
  | .some state => .document state

structure PublisherEnv (Document : Type) where
  /-- `self.state` while the handler runs. -/
  state : Option Document
  publishInterval : Nat

abbrev PublisherLoop (Document : Type) :=
  RequestLoop (PublishRequest Document) (Option String) PublicationSuccess Unit (PublishState Document)
    (Option Document)

structure Publisher (Document : Type) where
  loop : PublisherLoop Document := {}
  state : Option Document := none

namespace Publisher

variable {Document : Type} [DecidableEq Document] (docs : DocumentType Document)

/-- The documents of the states that are published. -/
def ignores : PublishState Document → Bool → Bool
  | .none, _ => true
  | .same, hasPublication => !hasPublication
  | .document _, _ => false

def prepares : PublishState Document → Bool
  | .document document => docs.builds document
  | _ => true

/-- `Publication.publish` with the body of the command, and without one when the entity tag is lost with the
current state. -/
def attempt (env : PublisherEnv Document) (state : PublishState Document) (route : Route)
    (publication : Publication Document) (serial : Nat) : Attempt (PublishRequest Document) :=
  match state with
  | .document document => .send (publication.makeRequest serial (some document) route true)
  | _ =>
      match publication.lastRequest, publication.lastEtag with
      | none, _ => .stop { error := "Need body for initial PUBLISH", retryAfter := (0, 0) }
      | some _, some _ => .send (publication.makeRequest serial none route true)
      | some _, none =>
          match env.state with
          | none => .leave
          | some document =>
              if docs.builds document then .send (publication.makeRequest serial (some document) route true)
              else .escape

def verdict (env : PublisherEnv Document) (failure : RequestFailure) : Verdict :=
  if failure.code = 407 then .raise { error := "Authentication failed", retryAfter := (60, 120) }
  else if failure.code = 412 then .raise { error := "Conditional request failed", retryAfter := (0, 0) }
  else if failure.code = 423 then
    match failure.minExpires with
    | none => .escape
    | some minExpires =>
        let refreshInterval := minExpires.filter (env.publishInterval < ·)
        .raise { error := "Interval too short", retryAfter := (60, 120), refreshInterval }
  else if failure.code ∈ [405, 406, 489] then
    .raise { error := "Method or event not supported", retryAfter := (3600, 3600) }
  else .nextRoute

def kind : RequestKind (PublisherEnv Document) (PublishRequest Document) (Option String)
    PublicationSuccess Unit (PublishState Document) where
  noEtag := none
  ignores
  prepares := prepares docs
  attempt := attempt docs
  sendError := .error { error := "Internal error", retryAfter := (5, 5) }
  read := fun _ _ => some ()
  verdict
  expired := { error := "Publication expired", retryAfter := (0, 0) }
  endRequest := fun publication last serial =>
    Publication.makeRequest publication serial none last.routeHeader false
  leave_last := by
    intro env state route publication serial hleave
    unfold attempt at hleave
    split at hleave
    · cases hleave
    · split at hleave
      next => cases hleave
      next => cases hleave
      next hlast _ => rw [hlast]; rfl
  verdict_sendError := by
    rintro env failure ⟨⟩

end Publisher

inductive PublisherInput (Document : Type) where
  /-- With `account.presence.enabled`. -/
  | start (enabled : Bool)
  | stop
  | activate
  | deactivate
  | setState (inTwistedThread : Bool) (state : Option Document)
  /-- `CFGSettingsObjectDidChange` with the names of the settings, and `account.presence.enabled`. -/
  | settingsDidChange (modified : List String) (enabled : Bool)
  | networkConditionsDidChange
  /-- The loop takes a command, with `account.sip.publish_interval` and whether the socket takes a request. -/
  | take (publishInterval : Nat) (sends : Bool)
  | lookedUp (publishInterval : Nat) (sends : Route → Bool) (result : Except LookupError (List Route))
  | wake (publishInterval : Nat) (sends : Route → Bool)
  | timer
  | tick (seconds : Nat)
  /-- The Twisted thread runs the first call that waits for it. -/
  | runCall
  | requestDidSucceed (request : PublishRequest Document) (etag : Option String) (data : PublicationSuccess)
  | requestDidFail (request : PublishRequest Document) (code : Nat) (reason : String)
  | requestWillExpire (request : PublishRequest Document)
  | requestDidEnd (request : PublishRequest Document)

namespace Publisher

variable {Document : Type} [DecidableEq Document] (docs : DocumentType Document)

/-- `_publish` in the Twisted thread. -/
def publish (self : Publisher Document) (state : PublishState Document) : Publisher Document :=
  if self.loop.active then
    match state with
    | .none => { self with loop := self.loop.enqueue .release }
    | state => { self with loop := self.loop.enqueue (.acquire state none) }
  else self

/-- The setter of `state`. -/
def setState (self : Publisher Document) (inTwistedThread : Bool) (state : Option Document) :
    Publisher Document :=
  if docs.same state self.state then { self with state }
  else if inTwistedThread then publish { self with state } (.ofState state)
  else { state, loop := { self.loop with reactor := self.loop.reactor ++ [.call state] } }

def activate (self : Publisher Document) : Publisher Document :=
  if self.loop.started then
    { self with loop := { self.loop with active := true }.enqueue (.acquire (.ofState self.state) none) }
  else self

def deactivate (self : Publisher Document) : Publisher Document :=
  if self.loop.started then
    { self with loop := { self.loop with active := false }.enqueue .release }
  else self

/-- `_NH_NetworkConditionsDidChange` -/
def republish (self : Publisher Document) : Publisher Document :=
  if self.loop.active then
    { self with
      loop := (self.loop.enqueue .release).enqueue (.acquire (.ofState self.state) none) }
  else self

/-- `start` and `_NH_PresencePublisherDidStart`, `_NH_DialogPublisherDidStart`. -/
def start (self : Publisher Document) (enabled : Bool) : Publisher Document :=
  if self.loop.started = false ∧ self.loop.phase = .off then
    if enabled then activate { self with loop := self.loop.spawn } else { self with loop := self.loop.spawn }
  else self

def settingsDidChange (self : Publisher Document) (modified : List String) (enabled : Bool) :
    Publisher Document :=
  if self.loop.started = false ∨ "enabled" ∈ modified then self
  else if "presence.enabled" ∈ modified then
    if enabled then self.activate else self.deactivate
  else if ∃ name ∈ ["__id__", "auth.password", "auth.username", "sip.outbound_proxy", "sip.transport_list",
      "sip.publish_interval"], name ∈ modified then self.republish
  else self

/-- The delayed call reads the state when it fires; when the object is not active, it signals the command. -/
def timer (self : Publisher Document) : Publisher Document :=
  if self.loop.active then { self with loop := self.loop.retry (.ofState self.state) }
  else { self with loop := self.loop.giveUp }

def runCall (self : Publisher Document) : Publisher Document :=
  match self.loop.reactor with
  | [] => self
  | .answer sender answer :: reactor =>
      { self with loop := { self.loop with reactor }.deliver sender answer }
  | .willExpire sender :: reactor =>
      let publisher := { self with loop := { self.loop with reactor } }
      if self.loop.holder.map (·.1) = some sender then publisher.publish .same else publisher
  | .call state :: reactor =>
      publish { self with loop := { self.loop with reactor } } (.ofState state)

def handle (self : Publisher Document) : PublisherInput Document → Publisher Document
  | .start enabled => self.start enabled
  | .stop => { self with loop := self.loop.stop }
  | .activate => self.activate
  | .deactivate => self.deactivate
  | .setState inTwistedThread state => setState docs self inTwistedThread state
  | .settingsDidChange modified enabled => self.settingsDidChange modified enabled
  | .networkConditionsDidChange => self.republish
  | .take publishInterval sends =>
      { self with loop := self.loop.take (kind docs) publishInterval sends }
  | .lookedUp publishInterval sends result =>
      { self with
        loop := self.loop.lookedUp (kind docs) { state := self.state, publishInterval } sends result }
  | .wake publishInterval sends =>
      { self with loop := self.loop.wake (kind docs) { state := self.state, publishInterval } sends }
  | .timer => self.timer
  | .tick seconds => { self with loop := { self.loop with clock := self.loop.clock + seconds } }
  | .runCall => self.runCall
  | .requestDidSucceed request etag data =>
      { self with loop := self.loop.answered request fun publication =>
          Publication.requestDidSucceed publication request etag data }
  | .requestDidFail request code reason =>
      if request.needAuth ∧ code ∈ [401, 407] then
        { self with loop := self.loop.challenged request request.withAuth }
      else
        { self with loop := self.loop.answered request fun publication =>
            Publication.requestDidFail publication request code reason }
  | .requestWillExpire request => { self with loop := self.loop.expiring request }
  | .requestDidEnd request =>
      { self with loop := self.loop.expired fun publication =>
          Publication.requestDidEnd publication request }

def step (self : Publisher Document) (input : PublisherInput Document) : Publisher Document :=
  handle docs { self with loop := { self.loop with failed := none } } input

end Publisher

end SipSimple.Account
