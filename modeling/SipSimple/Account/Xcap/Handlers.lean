import SipSimple.Account.Xcap.Objects

/-!
# The operation handlers on the resource lists

The handlers of `XCAPManager` change the XML elements of the held resource-lists content in place. A
handler that raises leaves what it has changed so far. All but `_OH_NormalizeOperation` work on the
list `sipsimple_addressbook`; the handlers of the last four operations leave the resource lists alone.

The four pairs of sets of URIs behind the six derived lists are computed twice by the source, with the
same code, here and before every upload.
-/

namespace SipSimple.Account.Xcap

open Payloads (ResourceList ResourceLists ListName XMLList XMLItem SimpleElement ElementAttributes
  Handling Outcome)

/-- The exceptions that the handlers and a reload can raise. -/
inductive PyError
  | attributeError
  | keyError
  | typeError
  | valueError
  deriving DecidableEq, Repr

/-! ### Contacts -/

def xmlContactURI (uri : ContactURI) : Payloads.ContactURI where
  id := uri.id
  uri := uri.uri
  type := uri.type
  attributes := some { attributes := uri.attributes }

def xmlHandling (handling : EventHandling) : Handling := .new handling.policy handling.subscribe

def xmlContactURIList (uris : ContactURIList) : Payloads.ContactURIList :=
  { XMLList.update .empty (uris.items.map xmlContactURI) with default := uris.default }

def xmlContact (contact : Contact) : Payloads.Contact where
  id := contact.id
  name := { value := contact.name }
  uris := xmlContactURIList contact.uris
  dialog := xmlHandling contact.dialog
  presence := xmlHandling contact.presence
  attributes := some { attributes := contact.attributes }

def addContact (contact : Contact) (book : ResourceList) : ResourceList :=
  { book with contacts := book.contacts.add (xmlContact contact) }

def updateHandling (attributes : HandlingAttributes) (handling : Handling) : Handling :=
  let handling := attributes.policy.elim handling handling.setPolicy
  attributes.subscribe.elim handling handling.setSubscribe

def updateXmlContact (attributes : ContactAttributes) (contact : Payloads.Contact) :
    Payloads.Contact :=
  let contact := attributes.name.elim contact contact.setName
  let contact := attributes.urisDefault.elim contact fun default =>
    { contact with uris := contact.uris.setDefault default }
  let contact := { contact with presence := updateHandling attributes.presence contact.presence }
  let contact := { contact with dialog := updateHandling attributes.dialog contact.dialog }
  contact.updateAttributes attributes.attributes

theorem id_updateXmlContact (attributes : ContactAttributes) (contact : Payloads.Contact) :
    XMLItem.xmlId (updateXmlContact attributes contact) = XMLItem.xmlId contact := by
  obtain ⟨name, urisDefault, presence, dialog, shared⟩ := attributes
  cases name <;> cases urisDefault <;> rfl

def updateContact (contact : Contact) (attributes : ContactAttributes) (book : ResourceList) :
    ResourceList :=
  { book with
    contacts :=
      book.contacts.modify contact.id (updateXmlContact attributes) (id_updateXmlContact attributes) }

/-- The contact goes out of the groups that have it, then out of the addressbook. -/
def removeContact (contact : Contact) (book : ResourceList) : ResourceList :=
  let groups := book.groups.map (fun group =>
    { group with contacts := (group.contacts.remove contact.id).getD group.contacts }) fun _ => rfl
  { book with groups := groups, contacts := (book.contacts.remove contact.id).getD book.contacts }

/-! ### Contact URIs -/

def modifyContactURIs (contact : Contact)
    (f : XMLList Payloads.ContactURI → XMLList Payloads.ContactURI) (book : ResourceList) :
    ResourceList :=
  { book with
    contacts := book.contacts.modify contact.id
      (fun contact => { contact with uris := { f contact.uris.toXMLList with
        default := contact.uris.default } }) fun _ => rfl }

def addContactURI (contact : Contact) (uri : ContactURI) : ResourceList → ResourceList :=
  modifyContactURIs contact fun uris => uris.add (xmlContactURI uri)

def updateXmlContactURI (attributes : ContactURIAttributes) (uri : Payloads.ContactURI) :
    Payloads.ContactURI :=
  let uri := attributes.uri.elim uri uri.setUri
  let uri := attributes.type.elim uri uri.setType
  uri.updateAttributes attributes.attributes

theorem id_updateXmlContactURI (attributes : ContactURIAttributes) (uri : Payloads.ContactURI) :
    XMLItem.xmlId (updateXmlContactURI attributes uri) = XMLItem.xmlId uri := by
  obtain ⟨newUri, type, shared⟩ := attributes
  cases newUri <;> cases type <;> rfl

def updateContactURI (contact : Contact) (uri : ContactURI) (attributes : ContactURIAttributes) :
    ResourceList → ResourceList :=
  modifyContactURIs contact fun uris =>
    uris.modify uri.id (updateXmlContactURI attributes) (id_updateXmlContactURI attributes)

def removeContactURI (contact : Contact) (uri : ContactURI) : ResourceList → ResourceList :=
  modifyContactURIs contact fun uris => (uris.remove uri.id).getD uris

/-! ### Groups -/

def xmlGroup (group : Group) : Payloads.Group where
  id := group.id
  name := { value := group.name }
  contacts := group.contacts.ids.foldl Payloads.ContactList.add {}
  attributes := some { attributes := group.attributes }

def addGroup (group : Group) (book : ResourceList) : ResourceList :=
  { book with groups := book.groups.add (xmlGroup group) }

def updateXmlGroup (attributes : GroupAttributes) (group : Payloads.Group) : Payloads.Group :=
  let group := attributes.name.elim group group.setName
  group.updateAttributes attributes.attributes

theorem id_updateXmlGroup (attributes : GroupAttributes) (group : Payloads.Group) :
    XMLItem.xmlId (updateXmlGroup attributes group) = XMLItem.xmlId group := by
  obtain ⟨name, shared⟩ := attributes
  cases name <;> rfl

def updateGroup (group : Group) (attributes : GroupAttributes) (book : ResourceList) :
    ResourceList :=
  { book with
    groups := book.groups.modify group.id (updateXmlGroup attributes) (id_updateXmlGroup attributes) }

def removeGroup (group : Group) (book : ResourceList) : ResourceList :=
  { book with groups := (book.groups.remove group.id).getD book.groups }

def addGroupMember (group : Group) (contact : Contact) (book : ResourceList) : ResourceList :=
  { book with
    groups := book.groups.modify group.id (fun group =>
      if contact.id ∈ group.contacts.ids then group
      else { group with contacts := group.contacts.add contact.id })
        fun _ => by split_ifs <;> rfl }

def removeGroupMember (group : Group) (contact : Contact) (book : ResourceList) : ResourceList :=
  { book with
    groups := book.groups.modify group.id (fun group =>
      { group with contacts := (group.contacts.remove contact.id).getD group.contacts })
        fun _ => rfl }

/-! ### Policies -/

def xmlPolicy (policy : Policy) : Payloads.Policy where
  id := policy.id
  uri := policy.uri
  name := { value := policy.name }
  dialog := xmlHandling policy.dialog
  presence := xmlHandling policy.presence
  attributes := some { attributes := policy.attributes }

def addPolicy (policy : Policy) (book : ResourceList) : ResourceList :=
  { book with policies := book.policies.add (xmlPolicy policy) }

def updateXmlPolicy (attributes : PolicyAttributes) (policy : Payloads.Policy) : Payloads.Policy :=
  let policy := attributes.uri.elim policy policy.setUri
  let policy := attributes.name.elim policy policy.setName
  let policy := { policy with presence := updateHandling attributes.presence policy.presence }
  let policy := { policy with dialog := updateHandling attributes.dialog policy.dialog }
  policy.updateAttributes attributes.attributes

theorem id_updateXmlPolicy (attributes : PolicyAttributes) (policy : Payloads.Policy) :
    XMLItem.xmlId (updateXmlPolicy attributes policy) = XMLItem.xmlId policy := by
  obtain ⟨uri, name, presence, dialog, shared⟩ := attributes
  cases uri <;> cases name <;> rfl

def updatePolicy (policy : Policy) (attributes : PolicyAttributes) (book : ResourceList) :
    ResourceList :=
  { book with
    policies :=
      book.policies.modify policy.id (updateXmlPolicy attributes) (id_updateXmlPolicy attributes) }

def removePolicy (policy : Policy) (book : ResourceList) : ResourceList :=
  { book with policies := (book.policies.remove policy.id).getD book.policies }

/-! ### The derived lists -/

/-- The two events that a contact or policy has a handling for. -/
inductive Event
  | presence
  | dialog
  deriving DecidableEq, Repr

inductive Kind
  | granted
  | blocked
  | rls
  deriving DecidableEq, Repr

/-- One of the six lists that are derived from the contacts and policies. -/
structure Derived where
  event : Event
  kind : Kind
  deriving DecidableEq, Repr

def Event.ofContact : Event → Payloads.Contact → Handling
  | presence => Payloads.Contact.presence
  | dialog => Payloads.Contact.dialog

def Event.ofPolicy : Event → Payloads.Policy → Handling
  | presence => Payloads.Policy.presence
  | dialog => Payloads.Policy.dialog

/-- `set(uri.uri for contact in contacts for uri in contact.uris if ...)` -/
def contactUris (contacts : List Payloads.Contact) (p : Payloads.Contact → Bool) : List String :=
  ((contacts.filter p).flatMap fun contact => contact.uris.items.map (·.uri)).dedup

/-- `set(policy.uri for policy in policies if ...)` -/
def policyUris (policies : List Payloads.Policy) (p : Payloads.Policy → Bool) : List String :=
  ((policies.filter p).map (·.uri)).dedup

/-- The difference of two sets. -/
def minus (left right : List String) : List String := left.filter (· ∉ right)

/-- Equality of two sets. -/
def sameSet (left right : List String) : Bool :=
  left.all (· ∈ right) && right.all (· ∈ left)

namespace Derived

def all : List Derived :=
  [⟨.presence, .granted⟩, ⟨.presence, .blocked⟩, ⟨.dialog, .granted⟩, ⟨.dialog, .blocked⟩,
    ⟨.presence, .rls⟩, ⟨.dialog, .rls⟩]

def listName : Derived → ListName
  | ⟨.presence, .granted⟩ => .omaGrantedcontacts
  | ⟨.presence, .blocked⟩ => .omaBlockedcontacts
  | ⟨.dialog, .granted⟩ => .dialogGrantedcontacts
  | ⟨.dialog, .blocked⟩ => .dialogBlockedcontacts
  | ⟨.presence, .rls⟩ => .sipsimplePresenceRls
  | ⟨.dialog, .rls⟩ => .sipsimpleDialogRls

/-- `allowed_presence_uris`, `blocked_presence_uris`, ..., `subscribe_dialog_uris` -/
def uris (derived : Derived) (contacts : List Payloads.Contact) (policies : List Payloads.Policy) :
    List String :=
  let ofContact := derived.event.ofContact
  let ofPolicy := derived.event.ofPolicy
  let allContactUris := contactUris contacts fun _ => true
  match derived.kind with
  | .granted =>
      let contactAllow := contactUris contacts fun contact => (ofContact contact).policy.value = .allow
      let contactBlock := contactUris contacts fun contact => (ofContact contact).policy.value = .block
      let policyAllow := policyUris policies fun policy => (ofPolicy policy).policy.value = .allow
      let policyBlock := policyUris policies fun policy => (ofPolicy policy).policy.value = .block
      minus contactAllow contactBlock ∪ minus (minus policyAllow policyBlock) allContactUris
  | .blocked =>
      let contactBlock := contactUris contacts fun contact => (ofContact contact).policy.value = .block
      let policyBlock := policyUris policies fun policy => (ofPolicy policy).policy.value = .block
      contactBlock ∪ minus policyBlock allContactUris
  | .rls =>
      let contactSubscribe := contactUris contacts fun contact => (ofContact contact).subscribe.value
      let policySubscribe := policyUris policies fun policy => (ofPolicy policy).subscribe.value
      contactSubscribe ∪ minus policySubscribe allContactUris

end Derived

/-- A derived list is filled again if its set of URIs is another one. -/
def updateDerived (list : ResourceList) (uris : List String) : Option ResourceList :=
  list.uris?.map fun old =>
    if sameSet uris old then list
    else { list.clear with entries := list.clear.entries.update (uris.map fun uri => { uri := uri }) }

/-- The derived lists one after the other, up to one whose items raise. -/
def updateDerivedLists (contacts : List Payloads.Contact) (policies : List Payloads.Policy) :
    List Derived → ResourceLists → Outcome ResourceLists PyError
  | [], content => (content, none)
  | derived :: rest, content =>
      match content.lists derived.listName with
      | none => (content, some .keyError)
      | some list =>
          match updateDerived list (derived.uris contacts policies) with
          | none => (content, some .attributeError)
          | some list =>
              updateDerivedLists contacts policies rest (content.set derived.listName list)

/-- The members of a group that are not in the addressbook go out of the group. -/
def removeMissing (contacts : List Payloads.Contact) (group : Payloads.Group) : Payloads.Group :=
  let missing := group.contacts.ids.filter (· ∉ contacts.map (·.id))
  { group with
    contacts := missing.foldl (fun contacts id => (contacts.remove id).getD contacts) group.contacts }

def pruneGroups (book : ResourceList) : ResourceList :=
  { book with groups := book.groups.map (removeMissing book.contacts.items) fun _ => rfl }

/-! ### `_OH_NormalizeOperation` -/

def ensureList (name : ListName) (list : ResourceList) (content : ResourceLists) : ResourceLists :=
  if (content.lists name).isSome then content else content.addList name list

/-- `oma_allcontacts` refers to three other lists by their address under the URL of the document. -/
def omaAllcontacts (url : String) : ResourceList :=
  { others := [.omaBuddylist, .omaGrantedcontacts, .omaBlockedcontacts].map fun name =>
      some (url ++ "/~~" ++ ResourceLists.getXpath name) }

def ensureLists (url : String) (content : ResourceLists) : ResourceLists :=
  let content := ensureList .omaBuddylist {} content
  let content := ensureList .omaGrantedcontacts {} content
  let content := ensureList .omaBlockedcontacts {} content
  let content := ensureList .omaAllcontacts (omaAllcontacts url) content
  let content := ensureList .dialogGrantedcontacts {} content
  let content := ensureList .dialogBlockedcontacts {} content
  let content := ensureList .sipsimplePresenceRls {} content
  let content := ensureList .sipsimpleDialogRls {} content
  ensureList .sipsimpleAddressbook {} content

/-- Only contacts, groups and policies stay in the addressbook. -/
def normalizeAddressbook (book : ResourceList) : ResourceList :=
  { book.deleteOthers with entries := book.entries.clear }

/-- Only entries stay in a derived list. -/
def normalizeDerived (list : ResourceList) : ResourceList :=
  { list.deleteOthers with
    contacts := list.contacts.clear
    groups := list.groups.clear
    policies := list.policies.clear }

def normalizeTypes (content : ResourceLists) : ResourceLists where
  lists name :=
    if name = .sipsimpleAddressbook then (content.lists name).map normalizeAddressbook
    else if name ∈ Derived.all.map Derived.listName then (content.lists name).map normalizeDerived
    else content.lists name
  dirty := content.dirty

/-- The part of the handler that normalizes the resource lists. -/
def normalize (url : String) (content : Option ResourceLists) : Outcome ResourceLists PyError :=
  let content := normalizeTypes (ensureLists url (content.getD {}))
  match content.lists .sipsimpleAddressbook with
  | none => (content, some .keyError)
  | some book =>
      let book := pruneGroups book
      updateDerivedLists book.contacts.items book.policies.items Derived.all
        (content.set .sipsimpleAddressbook book)

/-! ### All handlers -/

/-- What a handler does to the addressbook, for the operations that change it. -/
def Operation.edit : Operation → Option (ResourceList → ResourceList)
  | .addContact contact => some (Xcap.addContact contact)
  | .updateContact contact attributes => some (Xcap.updateContact contact attributes)
  | .removeContact contact => some (Xcap.removeContact contact)
  | .addContactURI contact uri => some (Xcap.addContactURI contact uri)
  | .updateContactURI contact uri attributes => some (Xcap.updateContactURI contact uri attributes)
  | .removeContactURI contact uri => some (Xcap.removeContactURI contact uri)
  | .addGroup group => some (Xcap.addGroup group)
  | .updateGroup group attributes => some (Xcap.updateGroup group attributes)
  | .removeGroup group => some (Xcap.removeGroup group)
  | .addGroupMember group contact => some (Xcap.addGroupMember group contact)
  | .removeGroupMember group contact => some (Xcap.removeGroupMember group contact)
  | .addPolicy policy => some (Xcap.addPolicy policy)
  | .updatePolicy policy attributes => some (Xcap.updatePolicy policy attributes)
  | .removePolicy policy => some (Xcap.removePolicy policy)
  | .normalize => none
  | .setDefaultPresencePolicy => none
  | .setDefaultDialogPolicy => none
  | .setStatusIcon => none
  | .setOfflineStatus => none

/-- `self.resource_lists.content['sipsimple_addressbook']`, and what a handler does with it. -/
def editAddressbook (edit : ResourceList → ResourceList) :
    Option ResourceLists → Outcome (Option ResourceLists) PyError
  | none => (none, some .typeError)
  | some content =>
      match content.lists .sipsimpleAddressbook with
      | none => (some content, some .keyError)
      | some book => (some (content.set .sipsimpleAddressbook (edit book)), none)

/-- The handler of an operation on the held content of the resource lists. -/
def Operation.handle (url : String) (operation : Operation) (content : Option ResourceLists) :
    Outcome (Option ResourceLists) PyError :=
  match operation with
  | .normalize => ((Xcap.normalize url content).1, (Xcap.normalize url content).2)
  | operation =>
      match operation.edit with
      | some edit => editAddressbook edit content
      | none => (content, none)

end SipSimple.Account.Xcap
