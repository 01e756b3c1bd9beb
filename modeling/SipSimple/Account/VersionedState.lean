import SipSimple.Account.SubscriptionEvents

/-!
# The versions of the account's state

`Account` of `account/__init__.py` takes the watcher info and the presence and dialog state from four subscribers.
Each document carries a version, and the account keeps the last one of a subscription: a document that is not
newer is dropped, and a partial one that does not follow the last one asks for another subscription. The
version is forgotten when the subscriber says that the subscription has ended or failed. The four handlers are one
with their own way to find the document.
-/

namespace SipSimple.Account

open SipSimple.Core SubscriptionLoop

/-! ### The documents -/

/-- The version of a document and whether it is not full. -/
structure StateDocument where
  version : Nat
  isPartial : Bool
  deriving DecidableEq, Repr

/-- What `WatcherInfoDocument.parse` reads: the watcher lists are the packages by their resources. -/
structure WatcherInfoDocument where
  version : Nat
  /-- `state` is `'partial'` and not `'full'`. -/
  isPartial : Bool
  watcherLists : List (String × String)
  deriving DecidableEq, Repr

structure RLSNotify where
  uri : String
  version : Nat
  fullState : Bool
  deriving DecidableEq, Repr

/-- The data of a NOTIFY: `parsed` is none for `ParserError`. -/
structure NotifyData (Document : Type) where
  body : Option String
  contentType : Option String
  parsed : Option Document
  deriving DecidableEq, Repr

/-- The document of a NOTIFY with a body and the content type. -/
def NotifyData.document {Document : Type} (contentType : String) (data : NotifyData Document) :
    Option Document :=
  if data.body.any (· ≠ "") ∧ data.contentType = some contentType then data.parsed else none

/-- The watcher info of a resource in a package. -/
def watcherInfo (package uri : String) (data : NotifyData WatcherInfoDocument) : Option StateDocument := do
  let watcherInfo ← data.document "application/watcherinfo+xml"
  let listPackage ← watcherInfo.watcherLists.lookup uri
  if listPackage = package then
    return { version := watcherInfo.version, isPartial := watcherInfo.isPartial }
  else none

/-- The state of the resource lists behind the URI. -/
def listState (uri : String) (data : NotifyData RLSNotify) : Option StateDocument := do
  let rlsNotify ← data.document "multipart/related"
  if rlsNotify.uri = uri then
    return { version := rlsNotify.version, isPartial := !rlsNotify.fullState }
  else none

/-! ### The handlers -/

/-- A document that was handled: whether it was posted and whether it asked for another subscription. -/
structure StateEntry where
  /-- The core subscription that has sent it. -/
  sender : Nat
  document : StateDocument
  posted : Bool
  resubscribes : Bool
  deriving DecidableEq, Repr

/-- A subscriber with the version that the account keeps for it. -/
structure VersionedState (Notify : Type) where
  subscriber : Subscriber Notify := {}
  version : Option Nat := none
  /-- The documents that were handled, the last one first. -/
  log : List StateEntry := []

namespace VersionedState

variable {Notify : Type}

/-- The body of the four handlers of a NOTIFY, once the document is found. -/
def gotDocument (self : VersionedState Notify) (sender : Nat) (document : StateDocument) :
    VersionedState Notify :=
  let accept (resubscribes : Bool) : VersionedState Notify :=
    { subscriber := if resubscribes then self.subscriber.resubscribe else self.subscriber
      version := some document.version
      log := { sender, document, posted := true, resubscribes } :: self.log }
  match self.version with
  | none => accept document.isPartial
  | some version =>
      if document.version ≤ version then
        { self with log := { sender, document, posted := false, resubscribes := false } :: self.log }
      else accept (document.isPartial && version + 1 < document.version)

/-- The account is told by the subscriber. -/
def handle (document : Notify → Option StateDocument) (self : VersionedState Notify) :
    SubscriptionPost Notify → VersionedState Notify
  | .didStart => self
  | .gotNotify sender data =>
      match document data with
      | none => self
      | some found => self.gotDocument sender found
  | .didEnd | .didFail => { self with version := none }

/-- A step of the subscriber, after which the account has handled what was posted. `uri` is what the account finds
its document by at the time. -/
def step (document : String → Notify → Option StateDocument) (self : VersionedState Notify)
    (input : String × SubscriberInput Notify) : VersionedState Notify :=
  let subscriber := Subscriber.step { self.subscriber with posted := [] } input.2
  subscriber.posted.foldr (fun post self => self.handle (document input.1) post) { self with subscriber }

end VersionedState

/-- `_NH_PresenceWinfoSubscription...` with the URI of the account. -/
abbrev presenceWinfo := VersionedState.step (watcherInfo "presence")

/-- `_NH_DialogWinfoSubscription...` -/
abbrev dialogWinfo := VersionedState.step (watcherInfo "dialog")

/-- `_NH_PresenceSubscription...` with `xcap_manager.rls_presence_uri`. -/
abbrev presenceState := VersionedState.step listState

/-- `_NH_DialogSubscription...` with `xcap_manager.rls_dialog_uri`. -/
abbrev dialogState := VersionedState.step listState

end SipSimple.Account
