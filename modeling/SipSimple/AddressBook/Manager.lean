import SipSimple.AddressBook.Objects
import SipSimple.Account.Xcap.Handlers
import SipSimple.Library.LiveStore
import SipSimple.Library.Loops

/-!
# The addressbook manager

The manager holds the live contacts, groups and policies by ID, beside what the configuration has stored
of them. An object is live from when it is made, and in the dictionaries of the manager from its first
save on; an ID is free again when its object is not alive anymore. Which URI objects the program keeps
alive outside of the contacts is up to it. Everything runs on the thread `file-io`, and an object that was
deleted is not kept alive. The migration of the old contacts at the first reload is left out.

The shared settings come with the extensions that a program registers: for every name its default, and
what its type makes of a value, in its unicode form, or none if the type does not take it.
-/

namespace SipSimple.AddressBook

open Payloads (PolicyValue Attributes Outcome)
open Account.Xcap (PyError)

/-! ### Shared settings -/

structure SharedType where
  default : Option String
  convert : Option String → Option (Option String)

/-- The shared settings of a class by name. -/
abbrev SharedTypes := SortedDict.Dict String SharedType

structure Extensions where
  contact : SharedTypes
  uri : SharedTypes
  group : SharedTypes
  policy : SharedTypes

/-- The settings of a new object. -/
def SharedTypes.new (types : SharedTypes) : SharedSettings :=
  types.filterMap fun type => some (.clean type.default)

/-- `setattr` of a remote attribute, if it is registered. -/
def SharedTypes.setOne (types : SharedTypes) (attributes : Attributes) (settings : SharedSettings)
    (name : String) : Outcome SharedSettings PyError :=
  match types.get name, attributes.get name with
  | some type, some value =>
      match type.convert value with
      | some value' => (settings.assign name value', none)
      | none => (settings, some .valueError)
  | _, _ => (settings, none)

/-- The attributes are set in the order of their dictionary. -/
def SharedTypes.setAll (types : SharedTypes) (order : HashOrder String) (attributes : Attributes)
    (settings : SharedSettings) : Outcome SharedSettings PyError :=
  forEach (types.setOne attributes) (order.order attributes.keys) settings

/-! ### New objects -/

def EventSettings.new : EventSettings := ⟨.clean .default, .clean false⟩

def ContactURI.new (types : SharedTypes) (id : String) : ContactURI :=
  ⟨id, .clean "", .clean none, types.new, false⟩

def ContactURIList.empty : ContactURIList :=
  ⟨[], .clean none, List.nodup_nil, fun _ h => nomatch h⟩

def Contact.new (types : SharedTypes) (id : String) : Contact where
  id := id
  name := .clean ""
  uris := .empty
  dialog := .new
  presence := .new
  attributes := types.new
  localDirty := false
  runtimeDirty := false
  state := .new
  xcapContact := none

def Group.new (types : SharedTypes) (id : String) : Group where
  id := id
  name := .clean ""
  contacts := []
  oldContacts := []
  distinct := List.nodup_nil
  attributes := types.new
  localDirty := false
  runtimeDirty := false
  state := .new
  xcapGroup := none

def Policy.new (types : SharedTypes) (id : String) : Policy where
  id := id
  uri := .clean ""
  name := .clean ""
  dialog := .new
  presence := .new
  attributes := types.new
  localDirty := false
  runtimeDirty := false
  state := .new
  xcapPolicy := none

/-! ### The manager -/

abbrev Contacts := LiveStore Contact.id Account.Xcap.Contact.id
abbrev Groups := LiveStore Group.id Account.Xcap.Group.id
abbrev Policies := LiveStore Policy.id Account.Xcap.Policy.id

def Contact.active (contact : Contact) : Bool := contact.state = .active
def Group.active (group : Group) : Bool := group.state = .active
def Policy.active (policy : Policy) : Bool := policy.state = .active

structure Manager where
  contacts : Contacts := .empty
  groups : Groups := .empty
  policies : Policies := .empty
  keptURIs : List String := []
  xcapAddressbook : Option Account.Xcap.Addressbook := none

/-- A URI of the ID is in a contact, or was at its last save. -/
def Contact.holds (contact : Contact) (id : String) : Bool :=
  (KeyedList.find URIEntry.id id contact.uris.entries).any fun entry => entry.present || entry.saved

namespace Manager

/-- A URI object of the ID is in another contact. -/
def holdsURIElsewhere (manager : Manager) (contact id : String) : Bool :=
  manager.contacts.live.items.any fun other => other.id ≠ contact && other.holds id

/-- A URI object of the ID is alive outside of the contact. -/
def holdsURI (manager : Manager) (contact id : String) : Bool :=
  id ∈ manager.keptURIs || manager.holdsURIElsewhere contact id

/-- What a group takes of a contact. -/
def member (manager : Manager) (id : String) : Option Account.Xcap.Contact :=
  (manager.contacts.live.get id).bind (·.xcapContact)

end Manager

/-- The members of a group refer to the contact that was saved. -/
def Group.refresh (saved : Option Account.Xcap.Contact) (group : Group) : Group :=
  saved.elim group fun contact => group.edit (.contactSaved contact)

theorem Group.id_refresh (saved : Option Account.Xcap.Contact) (group : Group) :
    (group.refresh saved).id = group.id := by
  cases saved <;> rfl

namespace Manager

/-- A save, as far as the configuration and the other objects see it. -/
def saveContact (manager : Manager) (contact : Contact) : Manager :=
  let saved := (contact.save .same).1
  { manager with
    contacts :=
      manager.contacts.saveIf (contact.state = .new || contact.isModified) saved contact.toxcap
    groups := manager.groups.map (Group.refresh saved.xcapContact) (Group.id_refresh _) }

def saveGroup (groups : Groups) (group : Group) : Groups :=
  groups.saveIf (group.state = .new || group.isModified) (group.save .same).1 group.toxcap

def savePolicy (policies : Policies) (policy : Policy) : Policies :=
  policies.saveIf (policy.state = .new || policy.isModified) policy.save.1 policy.toxcap

/-- The contact goes out of a group that has it. -/
def dropMember (contact : String) (groups : Groups) (id : String) : Groups :=
  match groups.live.get id with
  | some group =>
      if group.active then
        if contact ∈ group.contacts.map (·.id) then saveGroup groups (group.edit (.removeContact contact))
        else groups
      else groups.put (group.edit (.contactDeleted contact))
  | none => groups

/-- `Contact._internal_delete` -/
def deleteContact (manager : Manager) (id : String) : Manager :=
  { manager with
    groups := manager.groups.live.keys.foldl (dropMember id) manager.groups
    contacts := manager.contacts.delete id }

def deleteGroup (manager : Manager) (id : String) : Manager :=
  { manager with groups := manager.groups.delete id }

def deletePolicy (manager : Manager) (id : String) : Manager :=
  { manager with policies := manager.policies.delete id }

end Manager

/-! ### `_NH_XCAPManagerDidReloadData` -/

/-- What a remote handling sets. -/
def EventSettings.assign (settings : EventSettings) (remote : Account.Xcap.EventHandling) :
    EventSettings :=
  ⟨settings.policy.set remote.policy, settings.subscribe.set remote.subscribe⟩

namespace ContactURIList

/-- The settings of a URI that the contact has. -/
def assignURI (types : SharedTypes) (order : HashOrder String) (remote : Account.Xcap.ContactURI)
    (uris : ContactURIList) : Outcome ContactURIList PyError :=
  match KeyedList.find URIEntry.id remote.id uris.entries with
  | some entry =>
      let (attributes, raised) := types.setAll order remote.attributes entry.uri.attributes
      (uris.modify remote.id (fun uri =>
        { uri with
          uri := uri.uri.set remote.uri
          type := uri.type.set remote.type
          attributes := attributes }) fun _ => rfl, raised)
  | none => (uris, none)

/-- One URI of the remote contact. The ID of a new object must not be in use: DuplicateIDError. -/
def reloadURI (types : SharedTypes) (order : HashOrder String) (held : String → Bool)
    (uris : ContactURIList) (remote : Account.Xcap.ContactURI) : Outcome ContactURIList PyError :=
  if uris.present remote.id then uris.assignURI types order remote
  else if held remote.id || (KeyedList.find URIEntry.id remote.id uris.entries).any (·.saved) then
    (uris, none)
  else if remote.id = "default" then (uris, some .valueError)
  else (uris.put (.new types remote.id)).assignURI types order remote

/-- The loop over them. The object that the variable `uri` refers to is alive as well. -/
def nextURI (types : SharedTypes) (order : HashOrder String) (held : String → Bool)
    (state : ContactURIList × Option String) (remote : Account.Xcap.ContactURI) :
    Outcome (ContactURIList × Option String) PyError :=
  let (uris, raised) :=
    state.1.reloadURI types order (fun id => held id || state.2 = some id) remote
  ((uris, if uris.present remote.id then some remote.id else state.2), raised)

/-- The URIs that the remote contact lacks. -/
def gone (uris : ContactURIList) (remote : Account.Xcap.ContactURIList) : List String :=
  (uris.items.map (·.id)).filter (· ∉ remote.ids)

/-- They are removed, and the default URI is set. -/
def finishReload (uris : ContactURIList) (remote : Account.Xcap.ContactURIList) : ContactURIList :=
  let uris := (uris.gone remote).foldl remove uris
  uris.setDefault (remote.default.filter uris.present)

end ContactURIList

namespace Manager

/-- A contact that is not saved: one that is new is gone with the exception. -/
def abandonContact (manager : Manager) (contact : Contact) : Manager :=
  if contact.active then { manager with contacts := manager.contacts.put contact } else manager

/-- The variable `uri` stays as it is from one contact to the next. The URIs are removed in the order of
their IDs, so that it refers to the one with the greatest ID then. -/
def reloadContact (extensions : Extensions) (order : HashOrder String)
    (state : Manager × Option String) (remote : Account.Xcap.Contact) :
    Outcome (Manager × Option String) PyError :=
  let (manager, uri) := state
  match manager.contacts.obtain Contact.active (.new extensions.contact) remote.id with
  | none => ((manager, uri), none)
  | some contact =>
      let contact :=
        { contact with
          name := contact.name.set remote.name
          presence := contact.presence.assign remote.presence
          dialog := contact.dialog.assign remote.dialog }
      match extensions.contact.setAll order remote.attributes contact.attributes with
      | (attributes, some error) =>
          ((manager.abandonContact { contact with attributes := attributes }, uri), some error)
      | (attributes, none) =>
          let contact := { contact with attributes := attributes }
          match forEach (ContactURIList.nextURI extensions.uri order (manager.holdsURI contact.id))
              remote.uris.items (contact.uris, uri) with
          | ((uris, uri), some error) =>
              ((manager.abandonContact { contact with uris := uris }, uri), some error)
          | ((uris, uri), none) =>
              ((manager.saveContact { contact with uris := uris.finishReload remote.uris },
                (uris.gone remote.uris).max?.or uri), none)

/-- The members that a group lacks; a contact that the manager does not have raises KeyError. -/
def addMembers (manager : Manager) (ids : List String) (group : Group) : Outcome Group PyError :=
  forEach (fun group id =>
      match manager.member id with
      | some contact => (group.edit (.addContact contact), none)
      | none => (group, some .keyError))
    ids group

def abandonGroup (manager : Manager) (group : Group) : Manager :=
  if group.active then { manager with groups := manager.groups.put group } else manager

def reloadGroup (extensions : Extensions) (order : HashOrder String) (manager : Manager)
    (remote : Account.Xcap.Group) : Outcome Manager PyError :=
  match manager.groups.obtain Group.active (.new extensions.group) remote.id with
  | none => (manager, none)
  | some group =>
      let group := { group with name := group.name.set remote.name }
      match extensions.group.setAll order remote.attributes group.attributes with
      | (attributes, some error) =>
          (manager.abandonGroup { group with attributes := attributes }, some error)
      | (attributes, none) =>
          let group := { group with attributes := attributes }
          let old := group.contacts.map (·.id)
          let added := order.order (remote.contacts.ids.filter (· ∉ old))
          match manager.addMembers added group with
          | (group, some error) => (manager.abandonGroup group, some error)
          | (group, none) =>
              let gone := order.order (old.filter (· ∉ remote.contacts.ids))
              let group := gone.foldl (fun group id => group.edit (.removeContact id)) group
              ({ manager with groups := saveGroup manager.groups group }, none)

def abandonPolicy (manager : Manager) (policy : Policy) : Manager :=
  if policy.active then { manager with policies := manager.policies.put policy } else manager

def reloadPolicy (extensions : Extensions) (order : HashOrder String) (manager : Manager)
    (remote : Account.Xcap.Policy) : Outcome Manager PyError :=
  match manager.policies.obtain Policy.active (.new extensions.policy) remote.id with
  | none => (manager, none)
  | some policy =>
      let policy :=
        { policy with
          uri := policy.uri.set remote.uri
          name := policy.name.set remote.name
          presence := policy.presence.assign remote.presence
          dialog := policy.dialog.assign remote.dialog }
      match extensions.policy.setAll order remote.attributes policy.attributes with
      | (attributes, some error) =>
          (manager.abandonPolicy { policy with attributes := attributes }, some error)
      | (attributes, none) =>
          ({ manager with
            policies := savePolicy manager.policies { policy with attributes := attributes } }, none)

/-- The stored objects that the remote addressbook lacks. -/
def deleteMissing (manager : Manager) (remote : Account.Xcap.Addressbook) : Manager :=
  let policies := ((manager.policies.live.items.filter (·.active)).map (·.id)).filter
    (· ∉ remote.policies.ids)
  let groups := ((manager.groups.live.items.filter (·.active)).map (·.id)).filter
    (· ∉ remote.groups.ids)
  let contacts := ((manager.contacts.live.items.filter (·.active)).map (·.id)).filter
    (· ∉ remote.contacts.ids)
  contacts.foldl deleteContact (groups.foldl deleteGroup (policies.foldl deletePolicy manager))

/-- The remote addressbook is merged unless it is the one of the last reload. An exception ends it. -/
def reload (extensions : Extensions) (order : HashOrder String) (manager : Manager)
    (remote : Account.Xcap.Addressbook) : Manager :=
  if manager.xcapAddressbook.any remote.same then manager
  else
    let manager := { manager with xcapAddressbook := some remote }
    match forEach (reloadContact extensions order) remote.contacts.items (manager, none) with
    | ((manager, _), some _) => manager
    | ((manager, _), none) =>
        match forEach (reloadGroup extensions order) remote.groups.items manager with
        | (manager, some _) => manager
        | (manager, none) =>
            match forEach (reloadPolicy extensions order) remote.policies.items manager with
            | (manager, some _) => manager
            | (manager, none) => manager.deleteMissing remote

/-! ### Runs -/

/-- A contact takes only URI objects that no other contact has, and a group only contacts that were
saved. -/
inductive Input
  | newContact (id : String)
  | newGroup (id : String)
  | newPolicy (id : String)
  | dropContact (id : String)
  | dropGroup (id : String)
  | dropPolicy (id : String)
  | editContact (id : String) (edit : ContactEdit)
  | editGroup (id : String) (edit : GroupEdit)
  | editPolicy (id : String) (edit : PolicyEdit)
  | saveContact (id : String)
  | saveGroup (id : String)
  | savePolicy (id : String)
  | deleteContact (id : String)
  | deleteGroup (id : String)
  | deletePolicy (id : String)
  | keepURIs (ids : List String)
  | reload (order : HashOrder String) (remote : Account.Xcap.Addressbook)

/-- The edit of a contact with the URI objects that it is about. -/
def resolveContact (extensions : Extensions) (manager : Manager) (id : String) :
    ContactEdit → Option ContactEdit
  | .addURI uri =>
      if manager.holdsURIElsewhere id uri.id then none else some (.addURI (.new extensions.uri uri.id))
  | .setURIs uris =>
      if uris.any fun uri => manager.holdsURIElsewhere id uri.id then none
      else some (.setURIs (uris.map fun uri => .new extensions.uri uri.id))
  | edit => some edit

/-- The edit of a group with the contacts that it is about. -/
def resolveGroup (manager : Manager) : GroupEdit → Option GroupEdit
  | .addContact contact => (manager.member contact.id).map .addContact
  | .setContacts contacts =>
      some (.setContacts (contacts.filterMap fun contact => manager.member contact.id))
  | .contactSaved _ => none
  | .contactDeleted _ => none
  | edit => some edit

def editContact (extensions : Extensions) (manager : Manager) (id : String) (edit : ContactEdit) :
    Manager :=
  match manager.contacts.live.get id, manager.resolveContact extensions id edit with
  | some contact, some edit => { manager with contacts := manager.contacts.put (contact.edit edit) }
  | _, _ => manager

def editGroup (manager : Manager) (id : String) (edit : GroupEdit) : Manager :=
  match manager.groups.live.get id, manager.resolveGroup edit with
  | some group, some edit => { manager with groups := manager.groups.put (group.edit edit) }
  | _, _ => manager

def editPolicy (manager : Manager) (id : String) (edit : PolicyEdit) : Manager :=
  match manager.policies.live.get id with
  | some policy => { manager with policies := manager.policies.put (policy.edit edit) }
  | none => manager

def step (extensions : Extensions) (manager : Manager) : Input → Manager
  | .newContact id =>
      { manager with contacts := manager.contacts.make (.new extensions.contact) id }
  | .newGroup id => { manager with groups := manager.groups.make (.new extensions.group) id }
  | .newPolicy id =>
      { manager with policies := manager.policies.make (.new extensions.policy) id }
  | .dropContact id => { manager with contacts := manager.contacts.drop Contact.active id }
  | .dropGroup id => { manager with groups := manager.groups.drop Group.active id }
  | .dropPolicy id => { manager with policies := manager.policies.drop Policy.active id }
  | .editContact id edit => manager.editContact extensions id edit
  | .editGroup id edit => manager.editGroup id edit
  | .editPolicy id edit => manager.editPolicy id edit
  | .saveContact id => (manager.contacts.live.get id).elim manager manager.saveContact
  | .saveGroup id =>
      (manager.groups.live.get id).elim manager fun group =>
        { manager with groups := saveGroup manager.groups group }
  | .savePolicy id =>
      (manager.policies.live.get id).elim manager fun policy =>
        { manager with policies := savePolicy manager.policies policy }
  | .deleteContact id =>
      if (manager.contacts.live.get id).any Contact.active then manager.deleteContact id else manager
  | .deleteGroup id =>
      if (manager.groups.live.get id).any Group.active then manager.deleteGroup id else manager
  | .deletePolicy id =>
      if (manager.policies.live.get id).any Policy.active then manager.deletePolicy id else manager
  | .keepURIs ids => { manager with keptURIs := ids }
  | .reload order remote => manager.reload extensions order remote

end Manager

end SipSimple.AddressBook
