import Mathlib.Data.List.Basic

/-!
# Registration and Publication

The objects of `core/_primitives.py` that send REGISTER and PUBLISH requests. Both keep the request in
flight, the request whose answer is valid until it expires and the direction of the last one sent, and both
post what becomes of a request; a publication also keeps the entity tag of the server. What they share is
`RequestHolder`, and each method of the two is a method of it at the class's own values.

Requests are told apart by their number. They are made with the account's credentials: the core sends a request
that is challenged once more, and `needAuth` says that it has not done so. The extra headers and the notifications
that say that something will end are left out.
-/

namespace SipSimple.Core

structure Route where
  address : String
  port : Nat
  transport : String
  deriving DecidableEq, Repr

/-- The data of a failure; `minExpires` is `none` where the notification has no such field. -/
structure RequestFailure where
  code : Nat
  reason : String
  minExpires : Option (Option Nat) := none
  deriving DecidableEq, Repr

/-- The notifications that answer a request: `...DidSucceed`, `...DidFail`, `...DidEnd` and `...DidNotEnd`. -/
inductive RequestAnswer (Success : Type) where
  | didSucceed (data : Success)
  | didFail (data : RequestFailure)
  | didEnd (expired : Bool)
  | didNotEnd (code : Nat) (reason : String)
  deriving DecidableEq, Repr

def RequestAnswer.isEnd {Success : Type} : RequestAnswer Success → Bool
  | .didEnd _ => true
  | _ => false

structure RequestHolder (Request Etag : Type) where
  duration : Nat
  lastEtag : Etag
  currentRequest : Option Request := none
  lastRequest : Option Request := none
  /-- `_unregistering`, `_unpublishing` -/
  ending : Bool := false

namespace RequestHolder

variable {Request Etag Success : Type} [DecidableEq Request]

/-- With the entity tag after a request that ends the registration or publication, and after one that does not. -/
def requestDidSucceed (self : RequestHolder Request Etag) (request : Request) (ended begun : Etag)
    (data : Success) : RequestHolder Request Etag × List (RequestAnswer Success) :=
  if self.currentRequest = some request then
    if self.ending then
      -- What the last request posts when it ends is ignored from here on.
      ({ self with currentRequest := none, lastRequest := none, lastEtag := ended }, [.didEnd false])
    else
      ({ self with currentRequest := none, lastRequest := some request, lastEtag := begun },
        [.didSucceed data])
  else (self, [])

def requestDidFail (self : RequestHolder Request Etag) (request : Request) (etag : Etag)
    (data : RequestFailure) : RequestHolder Request Etag × List (RequestAnswer Success) :=
  if self.currentRequest = some request then
    ({ self with currentRequest := none, lastEtag := etag },
      [if self.ending then .didNotEnd data.code data.reason else .didFail data])
  else (self, [])

def requestDidEnd (self : RequestHolder Request Etag) (request : Request) (etag : Etag) :
    RequestHolder Request Etag × List (RequestAnswer Success) :=
  if self.lastRequest = some request then
    ({ self with currentRequest := none, lastRequest := none, lastEtag := etag }, [.didEnd true])
  else (self, [])

/-- `_make_and_send_request` once the request is sent. -/
def sent (self : RequestHolder Request Etag) (request : Request) (ending : Bool) :
    RequestHolder Request Etag :=
  { self with currentRequest := some request, ending }

/-- `_make_and_send_request` when sending raises: the request before is cancelled already. -/
def notSent (self : RequestHolder Request Etag) : RequestHolder Request Etag :=
  { self with currentRequest := none }

/-- The request in flight is sent again. -/
def renewed (self : RequestHolder Request Etag) (request again : Request) : RequestHolder Request Etag :=
  { self with currentRequest := if self.currentRequest = some request then some again else self.currentRequest }

end RequestHolder

/-! ### Registration -/

/-- A Contact header of an answer: a parameter without a value has `none` for it. -/
structure ContactHeader where
  uri : String
  parameters : List (String × Option (List Char))
  deriving DecidableEq, Repr

structure RegisterRequest where
  id : Nat
  contactHeader : String
  routeHeader : Route
  callId : Nat
  cseq : Nat
  expires : Nat
  /-- `_need_auth` -/
  needAuth : Bool := true
  deriving DecidableEq, Repr

/-- The request as `_cb_tsx_state` sends it again, with the credentials. -/
def RegisterRequest.withAuth (request : RegisterRequest) : RegisterRequest :=
  { request with cseq := request.cseq + 1, needAuth := false }

structure RegistrationSuccess where
  code : Nat
  reason : String
  contactHeaderList : List ContactHeader
  expiresIn : Nat
  deriving DecidableEq, Repr

/-- A registration has no entity tag. -/
abbrev Registration := RequestHolder RegisterRequest Unit

namespace Registration

/-- The request of `_make_and_send_request`; a new call ID is the request's own number. -/
def makeRequest (self : Registration) (id : Nat) (contactHeader : String) (routeHeader : Route)
    (doRegister : Bool) : RegisterRequest :=
  let prevRequest := self.currentRequest.or self.lastRequest
  { id, contactHeader, routeHeader
    callId := (prevRequest.map (·.callId)).getD id
    cseq := (prevRequest.map (·.cseq + 1)).getD 1
    expires := if doRegister then self.duration else 0 }

/-- The failure that `register` posts when sending raises. -/
def registerFailure (reason : String) : RequestFailure := { code := 0, reason }

/-- The data that `_NH_SIPRequestDidFail` posts, from the headers of the answer if there is one. -/
def didFailData (code : Nat) (reason : String) (minExpires : Option Nat) : RequestFailure :=
  { code, reason, minExpires := some minExpires }

def requestDidSucceed (self : Registration) (request : RegisterRequest) (data : RegistrationSuccess) :
    Registration × List (RequestAnswer RegistrationSuccess) :=
  RequestHolder.requestDidSucceed self request () () data

def requestDidFail (self : Registration) (request : RegisterRequest) (code : Nat) (reason : String)
    (minExpires : Option Nat) : Registration × List (RequestAnswer RegistrationSuccess) :=
  RequestHolder.requestDidFail self request () (didFailData code reason minExpires)

def requestDidEnd (self : Registration) (request : RegisterRequest) :
    Registration × List (RequestAnswer RegistrationSuccess) :=
  RequestHolder.requestDidEnd self request ()

end Registration

/-! ### Publication -/

/-- A PUBLISH request; the content type is sent with the body. -/
structure PublishRequest (Document : Type) where
  id : Nat
  body : Option Document
  routeHeader : Route
  expires : Nat
  /-- The SIP-If-Match header. -/
  ifMatch : Option String
  /-- `_need_auth` -/
  needAuth : Bool := true
  deriving DecidableEq, Repr

/-- The request as `_cb_tsx_state` sends it again, with the credentials. -/
def PublishRequest.withAuth {Document : Type} (request : PublishRequest Document) : PublishRequest Document :=
  { request with needAuth := false }

structure PublicationSuccess where
  code : Nat
  reason : String
  expiresIn : Nat
  deriving DecidableEq, Repr

abbrev Publication (Document : Type) := RequestHolder (PublishRequest Document) (Option String)

namespace Publication

variable {Document : Type} [DecidableEq Document]

/-- The request of `_make_and_send_request`. -/
def makeRequest (self : Publication Document) (id : Nat) (body : Option Document) (routeHeader : Route)
    (doPublish : Bool) : PublishRequest Document :=
  { id, body, routeHeader
    expires := if doPublish then self.duration else 0
    ifMatch := self.lastEtag }

/-- The data that `_NH_SIPRequestDidFail` posts: it has no `min_expires`. -/
def didFailData (code : Nat) (reason : String) : RequestFailure := { code, reason }

def requestDidSucceed (self : Publication Document) (request : PublishRequest Document)
    (etag : Option String) (data : PublicationSuccess) :
    Publication Document × List (RequestAnswer PublicationSuccess) :=
  RequestHolder.requestDidSucceed self request none etag data

def requestDidFail (self : Publication Document) (request : PublishRequest Document) (code : Nat)
    (reason : String) : Publication Document × List (RequestAnswer PublicationSuccess) :=
  RequestHolder.requestDidFail self request (if code = 412 then none else self.lastEtag)
    (didFailData code reason)

def requestDidEnd (self : Publication Document) (request : PublishRequest Document) :
    Publication Document × List (RequestAnswer PublicationSuccess) :=
  RequestHolder.requestDidEnd self request none

end Publication

end SipSimple.Core
