import SipSimple.Payloads.ResourceLists

/-!
# The objects of the XCAP manager

What the XCAP manager takes and gives are plain objects, not XML elements. A collection of them is an
ordered dictionary by ID, so that two collections with the same items in another order are different.
An operation is what the journal holds. Its attributes are those of the dictionary of changes; the
changes of the shared attributes are the rest of that dictionary.
-/

namespace SipSimple.Account.Xcap

open Payloads (PolicyValue Attributes)

/-- `ItemCollection`, an `OrderedDict` by the ID of the items. -/
structure ItemCollection {α : Type} (id : α → String) where
  items : List α
  distinct : KeyedList.Distinct id items

instance {α : Type} [DecidableEq α] {id : α → String} : DecidableEq (ItemCollection id) :=
  fun left right =>
    decidable_of_iff (left.items = right.items) (by cases left; cases right; simp)

namespace ItemCollection

variable {α : Type} {id : α → String}

def empty : ItemCollection id := ⟨[], List.nodup_nil⟩

/-- Assignment to the key of the item. -/
def add (collection : ItemCollection id) (item : α) : ItemCollection id :=
  ⟨KeyedList.assign id item collection.items, KeyedList.distinct_assign collection.distinct⟩

def ofList (items : List α) : ItemCollection id := items.foldl add empty

def get (collection : ItemCollection id) (key : String) : Option α :=
  KeyedList.find id key collection.items

def ids (collection : ItemCollection id) : List String := collection.items.map id

end ItemCollection

structure ContactURI where
  id : String
  uri : String
  type : Option String
  attributes : Attributes
  deriving DecidableEq

structure ContactURIList extends ItemCollection ContactURI.id where
  default : Option String
  deriving DecidableEq

structure EventHandling where
  policy : PolicyValue
  subscribe : Bool
  deriving DecidableEq

structure Contact where
  id : String
  name : String
  uris : ContactURIList
  dialog : EventHandling
  presence : EventHandling
  attributes : Attributes
  deriving DecidableEq

structure Group where
  id : String
  name : String
  contacts : ItemCollection Contact.id
  attributes : Attributes
  deriving DecidableEq

/-- `Group.__eq__`, which compares the IDs of the members only. -/
def Group.same (left right : Group) : Bool :=
  left.id = right.id && left.name = right.name && left.contacts.ids = right.contacts.ids
    && left.attributes = right.attributes

structure Policy where
  id : String
  uri : String
  name : String
  dialog : EventHandling
  presence : EventHandling
  attributes : Attributes
  deriving DecidableEq

structure Addressbook where
  contacts : ItemCollection Contact.id
  groups : ItemCollection Group.id
  policies : ItemCollection Policy.id

/-- Two dictionaries of groups are the same if the groups are, in their order. -/
def sameGroups : List Group → List Group → Bool
  | [], [] => true
  | left :: lefts, right :: rights => left.same right && sameGroups lefts rights
  | _, _ => false

/-- `Addressbook.__eq__` -/
def Addressbook.same (left right : Addressbook) : Bool :=
  left.contacts = right.contacts && sameGroups left.groups.items right.groups.items
    && left.policies = right.policies

/-! ### `Addressbook.from_payload` -/

/-- `payload.attributes or {}` -/
def payloadAttributes (attributes : Option Payloads.ElementAttributes) : Attributes :=
  (attributes.map (·.attributes)).getD .empty

def payloadToContactURI (uri : Payloads.ContactURI) : ContactURI :=
  ⟨uri.id, uri.uri, uri.type, payloadAttributes uri.attributes⟩

def payloadToHandling (handling : Payloads.Handling) : EventHandling :=
  ⟨handling.policy.value, handling.subscribe.value⟩

def payloadToContact (payload : Payloads.Contact) : Contact where
  id := payload.id
  name := payload.name.value
  uris :=
    { items := payload.uris.items.map payloadToContactURI
      distinct := KeyedList.distinct_map (fun _ => rfl) payload.uris.distinct
      default := payload.uris.default }
  dialog := payloadToHandling payload.dialog
  presence := payloadToHandling payload.presence
  attributes := payloadAttributes payload.attributes

def payloadToPolicy (payload : Payloads.Policy) : Policy where
  id := payload.id
  uri := payload.uri
  name := payload.name.value
  dialog := payloadToHandling payload.dialog
  presence := payloadToHandling payload.presence
  attributes := payloadAttributes payload.attributes

/-! ### Operations -/

structure HandlingAttributes where
  policy : Option PolicyValue := none
  subscribe : Option Bool := none
  deriving DecidableEq

structure ContactAttributes where
  name : Option String := none
  urisDefault : Option (Option String) := none
  presence : HandlingAttributes := {}
  dialog : HandlingAttributes := {}
  attributes : Attributes := .empty
  deriving DecidableEq

structure ContactURIAttributes where
  uri : Option String := none
  type : Option (Option String) := none
  attributes : Attributes := .empty
  deriving DecidableEq

structure GroupAttributes where
  name : Option String := none
  attributes : Attributes := .empty
  deriving DecidableEq

structure PolicyAttributes where
  uri : Option String := none
  name : Option String := none
  presence : HandlingAttributes := {}
  dialog : HandlingAttributes := {}
  attributes : Attributes := .empty
  deriving DecidableEq

/-- The last four change other documents than the resource lists; what they carry is left out. -/
inductive Operation
  | normalize
  | addContact (contact : Contact)
  | updateContact (contact : Contact) (attributes : ContactAttributes)
  | removeContact (contact : Contact)
  | addContactURI (contact : Contact) (uri : ContactURI)
  | updateContactURI (contact : Contact) (uri : ContactURI) (attributes : ContactURIAttributes)
  | removeContactURI (contact : Contact) (uri : ContactURI)
  | addGroup (group : Group)
  | updateGroup (group : Group) (attributes : GroupAttributes)
  | removeGroup (group : Group)
  | addGroupMember (group : Group) (contact : Contact)
  | removeGroupMember (group : Group) (contact : Contact)
  | addPolicy (policy : Policy)
  | updatePolicy (policy : Policy) (attributes : PolicyAttributes)
  | removePolicy (policy : Policy)
  | setDefaultPresencePolicy
  | setDefaultDialogPolicy
  | setStatusIcon
  | setOfflineStatus

end SipSimple.Account.Xcap
