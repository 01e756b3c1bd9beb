import Mathlib.Data.Finset.Basic
import SipSimple.AddressBook.Objects
import SipSimple.Account.Xcap.Handlers
import SipSimple.Library.Loops
import SipSimple.Library.Runs

/-!
# Contacts and groups in memory and in the configuration

`addressbook.py` on the thread `file-io`, as far as it decides which contacts and groups are in the configuration,
in the maps of the manager and in the groups. The program may put any contact in a group, also one that was never
saved, and may keep a deleted object: one object at a time has an ID. Of the other settings it matters whether one
was modified, and only for groups: a contact that was saved is in the configuration whatever its settings are.
-/

namespace SipSimple.AddressBook

open Account.Xcap (PyError)
open Payloads (Outcome)
open SortedDict (Dict)

/-- A `Group`. A `ContactList` is given by its IDs; `modified` is about settings that are not runtime settings. -/
structure GroupObject where
  state : ObjectState
  contacts : Finset String
  oldContacts : Finset String
  modified : Bool := false
  runtimeModified : Bool := false

structure LocalStore where
  /-- The objects in memory. A contact has its `__xcapcontact__` from its first save on. -/
  contacts : Dict String ObjectState := .empty
  groups : Dict String GroupObject := .empty
  /-- `AddressbookManager.contacts` and `AddressbookManager.groups` -/
  contactMap : Finset String := ∅
  groupMap : Finset String := ∅
  /-- What the configuration has: the contacts, and the groups with the IDs of their contacts. -/
  storedContacts : Finset String := ∅
  storedGroups : Dict String (Finset String) := .empty

inductive LocalOperation where
  | newContact (id : String)
  | newGroup (id : String)
  | dropContact (id : String)
  | dropGroup (id : String)
  | addMember (group contact : String)
  | removeMember (group contact : String)
  | setMembers (group : String) (contacts : Finset String)
  | undoMembers (group : String)
  | modifyGroup (group : String) (runtime : Bool)
  | saveContact (id : String)
  | saveGroup (id : String)
  | deleteContact (order : HashOrder String) (id : String)
  | deleteGroup (id : String)

namespace LocalStore

/-- The contacts that are not deleted. -/
def undeleted (self : LocalStore) (contacts : Finset String) : Finset String :=
  contacts.filter fun id => self.contacts.get id ≠ some .deleted

/-! ### New objects -/

/-- `Contact(id)`: an ID that is taken raises `DuplicateIDError`, and one that is stored is activated. -/
def newContact (self : LocalStore) (id : String) : LocalStore :=
  if (self.contacts.get id).isSome then self
  else if id ∈ self.storedContacts then
    { self with contacts := self.contacts.set id .active, contactMap := insert id self.contactMap }
  else { self with contacts := self.contacts.set id .new }

/-- `Group(id)`; `ContactList.__setstate__` takes the IDs that the manager does not have out of the stored list. -/
def newGroup (self : LocalStore) (id : String) : LocalStore :=
  if (self.groups.get id).isSome then self
  else
    match self.storedGroups.get id with
    | some ids =>
        let contacts := ids.filter (· ∈ self.contactMap)
        { self with
          groups := self.groups.set id { state := .active, contacts, oldContacts := contacts }
          groupMap := insert id self.groupMap
          storedGroups := self.storedGroups.set id contacts }
    | none => { self with groups := self.groups.set id { state := .new, contacts := ∅, oldContacts := ∅ } }

/-- An object that nothing refers to leaves the memory. -/
def dropContact (self : LocalStore) (id : String) : LocalStore :=
  if id ∈ self.contactMap ∨
      ∃ entry ∈ self.groups.items, id ∈ entry.2.contacts ∨ id ∈ entry.2.oldContacts then self
  else { self with contacts := self.contacts.erase id }

def dropGroup (self : LocalStore) (id : String) : LocalStore :=
  if id ∈ self.groupMap then self else { self with groups := self.groups.erase id }

/-! ### Changes in memory -/

/-- What is done to a group, if it is in memory. -/
def editGroup (self : LocalStore) (id : String) (f : GroupObject → GroupObject) : LocalStore :=
  match self.groups.get id with
  | some group => { self with groups := self.groups.set id (f group) }
  | none => self

/-- `ContactList.add`, of a contact that is in memory. -/
def addMember (self : LocalStore) (contact : String) (group : GroupObject) : GroupObject :=
  match self.contacts.get contact with
  | none | some .deleted => group
  | some _ => { group with contacts := insert contact group.contacts }

/-- `ContactList.remove` -/
def removeMember (contact : String) (group : GroupObject) : GroupObject :=
  { group with contacts := group.contacts.erase contact }

/-- `ContactListDescriptor.__set__` of contacts, which it copies. The `ContactList` of another group, which it keeps,
is not assigned: every group has a list of its own. -/
def setMembers (self : LocalStore) (contacts : Finset String) (group : GroupObject) : GroupObject :=
  { group with contacts := self.undeleted (contacts.filter fun id => self.contacts.get id ≠ none) }

/-- `ContactListDescriptor.undo` -/
def undoMembers (self : LocalStore) (group : GroupObject) : GroupObject :=
  { group with contacts := self.undeleted group.oldContacts }

/-- Another setting is modified. -/
def modifyGroup (runtime : Bool) (group : GroupObject) : GroupObject :=
  if runtime then { group with runtimeModified := true } else { group with modified := true }

/-! ### Saving -/

/-- `Contact._internal_save` -/
def saveContact (self : LocalStore) (id : String) : LocalStore :=
  match self.contacts.get id with
  | some .new =>
      { self with
        contacts := self.contacts.set id .active
        contactMap := insert id self.contactMap
        storedContacts := insert id self.storedContacts }
  | _ => self

/-- `Group._internal_save`. A contact without `__xcapcontact__` raises `AttributeError` in `__toxcap__`, after
`get_modified` has made the new values the old ones. -/
def saveGroup (self : LocalStore) (id : String) (group : GroupObject) : Outcome LocalStore PyError :=
  if group.state = .deleted then (self, none)
  else
    let contacts := self.undeleted group.contacts
    let synced : GroupObject := { state := group.state, contacts, oldContacts := contacts }
    let contactsModified : Bool := contacts ≠ group.oldContacts
    if group.state ≠ .new ∧ !(contactsModified || group.modified || group.runtimeModified) then
      ({ self with groups := self.groups.set id synced }, none)
    else if ∃ contact ∈ contacts, self.contacts.get contact = some .new then
      ({ self with groups := self.groups.set id synced }, some .attributeError)
    else if group.state = .new then
      ({ self with
        groups := self.groups.set id { synced with state := .active }
        groupMap := insert id self.groupMap
        storedGroups := self.storedGroups.set id contacts }, none)
    else if contactsModified || group.modified then
      ({ self with
        groups := self.groups.set id synced
        storedGroups := self.storedGroups.set id contacts }, none)
    -- Only runtime settings were modified.
    else ({ self with groups := self.groups.set id synced }, none)

/-! ### Deletion -/

/-- A contact that is deleted goes out of a group of the manager that has it. -/
def dropMember (contact : String) (self : LocalStore) (id : String) : Outcome LocalStore PyError :=
  match self.groups.get id with
  | some group =>
      if contact ∈ group.contacts then self.saveGroup id (removeMember contact group) else (self, none)
  | none => (self, none)

/-- `AddressbookManager.get_groups`, in the order of the dictionary. -/
def getGroups (self : LocalStore) (order : HashOrder String) : List String :=
  order.order (self.groups.keys.filter (· ∈ self.groupMap))

/-- `Contact._internal_delete`. The manager is told if no group raises; it removes the contact if it has it. -/
def deleteContact (self : LocalStore) (order : HashOrder String) (id : String) : LocalStore :=
  match self.contacts.get id with
  | none | some .deleted => self
  | some _ =>
      let deleted :=
        { self with contacts := self.contacts.set id .deleted, storedContacts := self.storedContacts.erase id }
      match forEach (dropMember id) (deleted.getGroups order) deleted with
      | (dropped, some _) => dropped
      | (dropped, none) => { dropped with contactMap := dropped.contactMap.erase id }

/-- `Group._internal_delete` -/
def deleteGroup (self : LocalStore) (id : String) : LocalStore :=
  match self.groups.get id with
  | none => self
  | some group =>
      if group.state = .deleted then self
      else
        { self with
          groups := self.groups.set id { group with state := .deleted }
          storedGroups := self.storedGroups.erase id
          groupMap := self.groupMap.erase id }

/-! ### Runs -/

def step (self : LocalStore) : LocalOperation → LocalStore
  | .newContact id => self.newContact id
  | .newGroup id => self.newGroup id
  | .dropContact id => self.dropContact id
  | .dropGroup id => self.dropGroup id
  | .addMember group contact => self.editGroup group (self.addMember contact)
  | .removeMember group contact => self.editGroup group (removeMember contact)
  | .setMembers group contacts => self.editGroup group (self.setMembers contacts)
  | .undoMembers group => self.editGroup group self.undoMembers
  | .modifyGroup group runtime => self.editGroup group (modifyGroup runtime)
  | .saveContact id => self.saveContact id
  | .saveGroup id =>
      match self.groups.get id with
      | some group => (self.saveGroup id group).1
      | none => self
  | .deleteContact order id => self.deleteContact order id
  | .deleteGroup id => self.deleteGroup id

/-- `AddressbookManager.load` -/
def load (contacts : List String) (groups : Dict String (Finset String)) : LocalStore :=
  let stored : LocalStore := { storedContacts := contacts.toFinset, storedGroups := groups }
  groups.keys.foldl newGroup (contacts.foldl newContact stored)

end LocalStore

end SipSimple.AddressBook
