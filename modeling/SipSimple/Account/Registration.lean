import SipSimple.Account.RequestLoopInputs

/-!
# Registrar

`Registrar` of `account/registration.py`: the command loop over a `Registration`. What the class adds are the
contact of a route, the answers to a failure and the GRUUs that are read from the contacts of a success. The
routes, the settings and how `SIPURI.parse` reads a GRUU are input.
-/

namespace SipSimple.Account

open SipSimple.Core

/-- What `SIPURI.parse` comes to: a port above 65535 raises `ValueError`. -/
inductive ParsedUri where
  | uri (uri : List Char)
  | sipCoreError
  | valueError
  deriving DecidableEq, Repr

/-- What the handler of a command finds. -/
structure RegistrarEnv where
  /-- `account.contact[NoGRUU, route]`, or none for `KeyError`. -/
  contact : Route → Option String
  registerInterval : Nat
  instanceId : List Char
  parseUri : List Char → ParsedUri

/-- `text.strip(characters)` -/
def strip (characters text : List Char) : List Char :=
  ((text.dropWhile (· ∈ characters)).reverse.dropWhile (· ∈ characters)).reverse

/-- The contact of this instance; a parameter without a value raises `AttributeError`. -/
def findInstance (instanceId : List Char) : List ContactHeader → Except Unit (Option ContactHeader)
  | [] => .ok none
  | header :: headers =>
      match header.parameters.lookup "+sip.instance" with
      | some none => .error ()
      | some (some value) =>
          if strip ['"', '<', '>'] value = instanceId then .ok (some header)
          else findInstance instanceId headers
      | none => if instanceId = [] then .ok (some header) else findInstance instanceId headers

/-- Without a value the `AttributeError` of `strip` is caught. -/
def parseGruu (parseUri : List Char → ParsedUri) :
    Option (Option (List Char)) → Except Unit (Option (List Char))
  | some (some value) =>
      match parseUri (strip ['"'] value) with
      | .uri uri => .ok (some uri)
      | .sipCoreError => .ok none
      | .valueError => .error ()
  | _ => .ok none

/-- The public and the temporary GRUU that are saved from a success. -/
def saveGruu (env : RegistrarEnv) (data : RegistrationSuccess) :
    Except Unit (Option (List Char) × Option (List Char)) := do
  match ← findInstance env.instanceId data.contactHeaderList with
  | none => return (none, none)
  | some header =>
      let publicGruu ← parseGruu env.parseUri (header.parameters.lookup "pub-gruu")
      let temporaryGruu ← parseGruu env.parseUri (header.parameters.lookup "temp-gruu")
      return (publicGruu, temporaryGruu)

namespace Registrar

def attempt (env : RegistrarEnv) (_ : Unit) (route : Route) (registration : Registration) (serial : Nat) :
    Attempt RegisterRequest :=
  match env.contact route with
  | none => .skip
  | some contact => .send (registration.makeRequest serial contact route true)

def verdict (env : RegistrarEnv) (failure : RequestFailure) : Verdict :=
  if failure.code = 401 then .raise { error := "Authentication failed", retryAfter := (60, 120) }
  else if failure.code = 423 then
    match failure.minExpires with
    | none => .escape
    | some minExpires =>
        let refreshInterval := minExpires.filter (env.registerInterval < ·)
        .raise { error := "Interval too short", retryAfter := (60, 120), refreshInterval }
  else .nextRoute

/-- `Registration.register` posts the failure of a request that it cannot send. -/
def kind : RequestKind RegistrarEnv RegisterRequest Unit RegistrationSuccess
    (Option (List Char) × Option (List Char)) Unit where
  noEtag := ()
  ignores := fun _ _ => false
  prepares := fun _ => true
  attempt
  sendError := .ok (Registration.registerFailure "Could not send request")
  read := fun env data => (saveGruu env data).toOption
  verdict
  expired := { error := "Registration expired", retryAfter := (0, 0) }
  endRequest := fun registration last serial =>
    Registration.makeRequest registration serial last.contactHeader last.routeHeader false
  leave_last := by
    intro env payload route holder serial hleave
    unfold attempt at hleave
    split at hleave <;> cases hleave
  verdict_sendError := by
    rintro env failure ⟨rfl⟩
    rfl

end Registrar

/-- What is kept from a success are the public and the temporary GRUU of the account's contact. -/
abbrev Registrar := RequestLoop RegisterRequest Unit RegistrationSuccess
  (Option (List Char) × Option (List Char)) Unit Empty

inductive RegistrarInput where
  /-- With `account.sip.register`. -/
  | start (register : Bool)
  | stop
  | activate
  | deactivate
  | reregister
  /-- `CFGSettingsObjectDidChange` with the names of the settings, and `account.sip.register`. -/
  | settingsDidChange (modified : List String) (register : Bool)
  | networkConditionsDidChange
  /-- The loop takes a command, with `account.sip.register_interval` and whether the socket takes a request. -/
  | take (registerInterval : Nat) (sends : Bool)
  | lookedUp (env : RegistrarEnv) (sends : Route → Bool) (result : Except LookupError (List Route))
  | wake (env : RegistrarEnv) (sends : Route → Bool)
  | timer
  | tick (seconds : Nat)
  /-- The Twisted thread runs the first call that waits for it. -/
  | runCall
  | requestDidSucceed (request : RegisterRequest) (data : RegistrationSuccess)
  | requestDidFail (request : RegisterRequest) (code : Nat) (reason : String) (minExpires : Option Nat)
  | requestWillExpire (request : RegisterRequest)
  | requestDidEnd (request : RegisterRequest)

namespace Registrar

def activate (self : Registrar) : Registrar :=
  if self.started then { self with active := true }.enqueue (.acquire () none) else self

def deactivate (self : Registrar) : Registrar :=
  if self.started then { self with active := false }.enqueue .release else self

/-- `reregister` and `_NH_NetworkConditionsDidChange` -/
def reregister (self : Registrar) : Registrar :=
  if self.active then (self.enqueue .release).enqueue (.acquire () none) else self

/-- `stop` returns when its command is signalled, and until then the object is not started again. -/
def start (self : Registrar) (register : Bool) : Registrar :=
  if self.started = false ∧ self.phase = .off then
    if register then activate self.spawn else self.spawn
  else self

def settingsDidChange (self : Registrar) (modified : List String) (register : Bool) : Registrar :=
  if self.started = false ∨ "enabled" ∈ modified then self
  else if "sip.register" ∈ modified then
    if register then self.activate else self.deactivate
  else if ∃ name ∈ ["__id__", "auth.password", "auth.username", "nat_traversal.use_ice", "sip.outbound_proxy",
      "sip.transport_list", "sip.register_interval"], name ∈ modified then self.reregister
  else self

def timer (self : Registrar) : Registrar :=
  if self.active then self.retry () else { self with timer := none }

/-- The notification of an expiry is not asked whose it is. -/
def runCall (self : Registrar) : Registrar :=
  match self.reactor with
  | [] => self
  | .answer sender answer :: reactor => { self with reactor }.deliver sender answer
  | .willExpire _ :: reactor =>
      if self.active then { self with reactor }.enqueue (.acquire () none) else { self with reactor }

def handle (self : Registrar) : RegistrarInput → Registrar
  | .start register => self.start register
  | .stop => RequestLoop.stop self
  | .activate => self.activate
  | .deactivate => self.deactivate
  | .reregister | .networkConditionsDidChange => self.reregister
  | .settingsDidChange modified register => self.settingsDidChange modified register
  | .take registerInterval sends => RequestLoop.take kind registerInterval sends self
  | .lookedUp env sends result => RequestLoop.lookedUp kind env sends result self
  | .wake env sends => RequestLoop.wake kind env sends self
  | .timer => self.timer
  | .tick seconds => { self with clock := self.clock + seconds }
  | .runCall => self.runCall
  | .requestDidSucceed request data =>
      self.answered request fun registration => Registration.requestDidSucceed registration request data
  | .requestDidFail request code reason minExpires =>
      if request.needAuth ∧ code ∈ [401, 407] then self.challenged request request.withAuth
      else
        self.answered request fun registration =>
          Registration.requestDidFail registration request code reason minExpires
  | .requestWillExpire request => self.expiring request
  | .requestDidEnd request =>
      self.expired fun registration => Registration.requestDidEnd registration request

def step (self : Registrar) (input : RegistrarInput) : Registrar :=
  handle { self with failed := none } input

end Registrar

end SipSimple.Account
