import Mathlib.Data.List.Sort
import SipSimple.Account.Xcap.Objects

/-!
# The objects of the local addressbook

A contact, group or policy keeps every setting with its value at the last save. Saving compares the two,
makes the XCAP object of the new values, and schedules operations for what is different. URIs and group
members are referred to by ID: one live object has an ID, so a URI that was removed from its contact and
is added again is the same object, with the values it had. What a shared setting holds is its unicode
form. Settings of extensions that are not shared go nowhere but the configuration file; of these it is
only kept whether one was modified, separately for the runtime settings, which are not saved at all.
-/

namespace SipSimple.AddressBook

open Payloads (PolicyValue Attributes)
open Account.Xcap (EventHandling HandlingAttributes ContactAttributes ContactURIAttributes
  GroupAttributes PolicyAttributes Operation)

/-! ### Settings -/

structure Setting (α : Type) [DecidableEq α] where
  value : α
  old : α
  dirty : Bool
  dirty_eq : dirty = decide (value ≠ old)

namespace Setting

variable {α : Type} [DecidableEq α]

/-- A setting with nothing to save. -/
def clean (value : α) : Setting α := ⟨value, value, false, by simp⟩

/-- `__set__` -/
def set (setting : Setting α) (value : α) : Setting α :=
  ⟨value, setting.old, decide (value ≠ setting.old), rfl⟩

/-- The new value in the result of `get_modified`. -/
def modified (setting : Setting α) : Option α := if setting.dirty then some setting.value else none

/-- The effect of `get_modified`. -/
def sync (setting : Setting α) : Setting α := clean setting.value

theorem modified_getD (setting : Setting α) : setting.modified.getD setting.old = setting.value := by
  obtain ⟨value, old, dirty, rfl⟩ := setting
  by_cases heq : value = old
  · simp [modified, heq]
  · simp [modified, heq]

end Setting

/-- The `SharedSetting` attributes of an object by name. -/
abbrev SharedSettings := SortedDict.Dict String (Setting (Option String))

namespace SharedSettings

def values (settings : SharedSettings) : Attributes := settings.filterMap fun setting =>
  some setting.value

def oldValues (settings : SharedSettings) : Attributes := settings.filterMap fun setting =>
  some setting.old

def modified (settings : SharedSettings) : Attributes := settings.filterMap Setting.modified

def sync (settings : SharedSettings) : SharedSettings := settings.filterMap fun setting =>
  some setting.sync

/-- Setting an attribute, which has to be one of the registered ones. -/
def assign (settings : SharedSettings) (name : String) (value : Option String) : SharedSettings :=
  match settings.get name with
  | some setting => settings.set name (setting.set value)
  | none => settings

end SharedSettings

/-- The order in which Python goes through a set or dictionary. -/
structure HashOrder (α : Type) where
  order : List α → List α
  perm : ∀ items, (order items).Perm items

def HashOrder.same {α : Type} : HashOrder α := ⟨id, fun _ => .refl _⟩

inductive ObjectState
  | new
  | active
  | deleted
  deriving DecidableEq, Repr

/-- `PresenceSettings` and `DialogSettings` -/
structure EventSettings where
  policy : Setting PolicyValue
  subscribe : Setting Bool

namespace EventSettings

def toxcap (settings : EventSettings) : EventHandling :=
  ⟨settings.policy.value, settings.subscribe.value⟩

def modified (settings : EventSettings) : HandlingAttributes where
  policy := settings.policy.modified
  subscribe := settings.subscribe.modified

def sync (settings : EventSettings) : EventSettings :=
  ⟨settings.policy.sync, settings.subscribe.sync⟩

end EventSettings

/-! ### Contact URIs -/

structure ContactURI where
  id : String
  uri : Setting String
  type : Setting (Option String)
  attributes : SharedSettings
  localDirty : Bool

namespace ContactURI

def toxcap (uri : ContactURI) : Account.Xcap.ContactURI where
  id := uri.id
  uri := uri.uri.value
  type := uri.type.value
  attributes := uri.attributes.values

/-- `XCAPContactURI.get_modified` of what `get_modified` gives. -/
def modified (uri : ContactURI) : ContactURIAttributes where
  uri := uri.uri.modified
  type := uri.type.modified
  attributes := uri.attributes.modified

/-- The dictionary that `get_modified` gives has a key. -/
def isModified (uri : ContactURI) : Bool := uri.modified ≠ {} || uri.localDirty

def sync (uri : ContactURI) : ContactURI where
  id := uri.id
  uri := uri.uri.sync
  type := uri.type.sync
  attributes := uri.attributes.sync
  localDirty := false

end ContactURI

/-- A URI object that a contact has or had at its last save: whether it is in `_item_map`, and whether
it is in `_item_map.old`. -/
structure URIEntry where
  uri : ContactURI
  present : Bool
  saved : Bool

namespace URIEntry

def id (entry : URIEntry) : String := entry.uri.id

def drop (entry : URIEntry) : URIEntry := { entry with present := false }

def sync (entry : URIEntry) : URIEntry := ⟨entry.uri.sync, true, true⟩

theorem id_drop {key : String} (entry : URIEntry) (h : entry.id = key) : entry.drop.id = key := h

@[simp] theorem id_sync (entry : URIEntry) : entry.sync.id = entry.id := rfl

end URIEntry

structure ContactURIList where
  entries : List URIEntry
  default : Setting (Option String)
  distinct : KeyedList.Distinct URIEntry.id entries
  default_present : ∀ id, default.value = some id →
    (KeyedList.find URIEntry.id id entries).any (·.present) = true

namespace ContactURIList

/-- `id in contact.uris` -/
def present (uris : ContactURIList) (id : String) : Bool :=
  (KeyedList.find URIEntry.id id uris.entries).any (·.present)

def items (uris : ContactURIList) : List ContactURI :=
  (uris.entries.filter (·.present)).map (·.uri)

/-- Changes of the entry of an ID that keep it in the list. -/
def modifyEntry (uris : ContactURIList) (id : String) (f : URIEntry → URIEntry)
    (hid : ∀ entry, (f entry).id = entry.id) (hpresent : ∀ entry, (f entry).present = entry.present) :
    ContactURIList where
  entries := KeyedList.modify URIEntry.id id f uris.entries
  default := uris.default
  distinct := KeyedList.distinct_modify (fun entry hkey => (hid entry).trans hkey) uris.distinct
  default_present id' hdefault := by
    have hold := uris.default_present id' hdefault
    rw [KeyedList.find_modify fun entry hkey => (hid entry).trans hkey]
    split_ifs with heq
    · rw [Option.any_map]
      simpa [Function.comp, hpresent] using hold
    · exact hold

/-- A setting of a URI object. -/
def modify (uris : ContactURIList) (id : String) (f : ContactURI → ContactURI)
    (hid : ∀ uri, (f uri).id = uri.id) : ContactURIList :=
  uris.modifyEntry id (fun entry => { entry with uri := f entry.uri }) (fun _ => hid _) fun _ => rfl

/-- The entry of an object that is added: an object of the ID that is still alive is this object. -/
def entryFor (uris : ContactURIList) (uri : ContactURI) : URIEntry :=
  match KeyedList.find URIEntry.id uri.id uris.entries with
  | some old => if old.present || old.saved then { old with present := true } else ⟨uri, true, false⟩
  | none => ⟨uri, true, false⟩

theorem present_entryFor (uris : ContactURIList) (uri : ContactURI) :
    (uris.entryFor uri).present = true := by
  rw [entryFor]
  split
  · split_ifs <;> rfl
  · rfl

/-- `add` of an ID that is not reserved. -/
def put (uris : ContactURIList) (uri : ContactURI) : ContactURIList where
  entries := KeyedList.assign URIEntry.id (uris.entryFor uri) uris.entries
  default := uris.default
  distinct := KeyedList.distinct_assign uris.distinct
  default_present id hdefault := by
    rw [KeyedList.find_assign]
    split_ifs
    · exact uris.present_entryFor uri
    · exact uris.default_present id hdefault

/-- The ID must not be the name of a setting of the list: ValueError. -/
def add (uris : ContactURIList) (uri : ContactURI) : ContactURIList :=
  if uri.id = "default" then uris else uris.put uri

/-- The default URI is reset if it is the one that goes. -/
def remove (uris : ContactURIList) (id : String) : ContactURIList where
  entries := KeyedList.modify URIEntry.id id URIEntry.drop uris.entries
  default := if uris.default.value = some id then uris.default.set none else uris.default
  distinct := KeyedList.distinct_modify URIEntry.id_drop uris.distinct
  default_present id' hdefault := by
    split_ifs at hdefault with heq
    · cases hdefault
    · rw [KeyedList.find_modify URIEntry.id_drop, if_neg]
      · exact uris.default_present id' hdefault
      · exact fun hid => heq (hid ▸ hdefault)

/-- Assignment to `uris`, which raises ValueError for the reserved ID. -/
def setItems (uris : ContactURIList) (items : List ContactURI) : ContactURIList :=
  let dropped := (uris.items.map (·.id)).filter (· ∉ items.map (·.id))
  if "default" ∈ items.map (·.id) then uris else items.foldl add (dropped.foldl remove uris)

/-- `__set__` of the default URI, which has to be one of the contact. -/
def setDefault (uris : ContactURIList) (default : Option String) : ContactURIList :=
  if hdefault : ∀ id, default = some id →
      (KeyedList.find URIEntry.id id uris.entries).any (·.present) = true then
    { uris with default := uris.default.set default, default_present := hdefault }
  else uris

/-- `__get__` of the default URI. -/
def getDefault (uris : ContactURIList) : Option String := uris.default.value.filter uris.present

def added (uris : ContactURIList) : List ContactURI :=
  (uris.entries.filter fun entry => entry.present && !entry.saved).map (·.uri)

def removed (uris : ContactURIList) : List ContactURI :=
  (uris.entries.filter fun entry => !entry.present && entry.saved).map (·.uri)

def modified (uris : ContactURIList) : List ContactURI :=
  (uris.entries.filter fun entry => entry.present && entry.saved && entry.uri.isModified).map (·.uri)

def isModified (uris : ContactURIList) : Bool :=
  !uris.added.isEmpty || !uris.removed.isEmpty || !uris.modified.isEmpty

theorem distinct_items (uris : ContactURIList) : KeyedList.Distinct ContactURI.id uris.items := by
  exact KeyedList.distinct_map (fun _ => rfl) (KeyedList.distinct_filter uris.distinct _)

/-- `sorted(self._item_map.values(), key=attrgetter('id'))` -/
def sorted (uris : ContactURIList) : List ContactURI :=
  uris.items.insertionSort fun left right => left.id ≤ right.id

def toxcap (uris : ContactURIList) : Account.Xcap.ContactURIList where
  items := uris.sorted.map ContactURI.toxcap
  distinct := by
    have hsorted : KeyedList.Distinct ContactURI.id uris.sorted :=
      ((List.perm_insertionSort _ uris.items).map ContactURI.id).nodup_iff.mpr uris.distinct_items
    exact KeyedList.distinct_map (fun _ => rfl) hsorted
  default := uris.getDefault

/-- The effect of `get_modified`. -/
def sync (uris : ContactURIList) : ContactURIList where
  entries := (uris.entries.filter (·.present)).map URIEntry.sync
  default := uris.default.sync
  distinct := KeyedList.distinct_map URIEntry.id_sync (KeyedList.distinct_filter uris.distinct _)
  default_present id hdefault := by
    have hpresent := uris.default_present id hdefault
    rw [KeyedList.find_map URIEntry.id_sync, KeyedList.find_filter uris.distinct]
    cases hfind : KeyedList.find URIEntry.id id uris.entries with
    | none => simp [hfind] at hpresent
    | some entry =>
        rw [hfind, Option.any_some] at hpresent
        simp [Option.filter, hpresent, URIEntry.sync]

end ContactURIList

/-! ### Contacts -/

structure Contact where
  id : String
  name : Setting String
  uris : ContactURIList
  dialog : EventSettings
  presence : EventSettings
  attributes : SharedSettings
  localDirty : Bool
  runtimeDirty : Bool
  state : ObjectState
  xcapContact : Option Account.Xcap.Contact

inductive ContactEdit
  | name (value : String)
  | presencePolicy (value : PolicyValue)
  | presenceSubscribe (value : Bool)
  | dialogPolicy (value : PolicyValue)
  | dialogSubscribe (value : Bool)
  | shared (name : String) (value : Option String)
  | extension (runtime : Bool)
  | addURI (uri : ContactURI)
  | removeURI (id : String)
  | setURIs (uris : List ContactURI)
  | uriURI (id : String) (value : String)
  | uriType (id : String) (value : Option String)
  | uriAttribute (id name : String) (value : Option String)
  | uriExtension (id : String)
  | defaultURI (id : Option String)

namespace Contact

def edit (contact : Contact) : ContactEdit → Contact
  | .name value => { contact with name := contact.name.set value }
  | .presencePolicy value =>
      { contact with
        presence := { contact.presence with policy := contact.presence.policy.set value } }
  | .presenceSubscribe value =>
      { contact with
        presence := { contact.presence with subscribe := contact.presence.subscribe.set value } }
  | .dialogPolicy value =>
      { contact with dialog := { contact.dialog with policy := contact.dialog.policy.set value } }
  | .dialogSubscribe value =>
      { contact with
        dialog := { contact.dialog with subscribe := contact.dialog.subscribe.set value } }
  | .shared name value =>
      { contact with attributes := contact.attributes.assign name value }
  | .extension true => { contact with runtimeDirty := true }
  | .extension false => { contact with localDirty := true }
  | .addURI uri => { contact with uris := contact.uris.add uri }
  | .removeURI id => { contact with uris := contact.uris.remove id }
  | .setURIs uris => { contact with uris := contact.uris.setItems uris }
  | .uriURI id value =>
      { contact with
        uris := contact.uris.modify id (fun uri => { uri with uri := uri.uri.set value }) fun _ => rfl }
  | .uriType id value =>
      { contact with
        uris :=
          contact.uris.modify id (fun uri => { uri with type := uri.type.set value }) fun _ => rfl }
  | .uriAttribute id name value =>
      { contact with
        uris := contact.uris.modify id
          (fun uri => { uri with attributes := uri.attributes.assign name value }) fun _ => rfl }
  | .uriExtension id =>
      { contact with
        uris := contact.uris.modify id (fun uri => { uri with localDirty := true }) fun _ => rfl }
  | .defaultURI id => { contact with uris := contact.uris.setDefault id }

/-- `__toxcap__` -/
def toxcap (contact : Contact) : Account.Xcap.Contact where
  id := contact.id
  name := contact.name.value
  uris := contact.uris.toxcap
  dialog := contact.dialog.toxcap
  presence := contact.presence.toxcap
  attributes := contact.attributes.values

/-- `XCAPContact.get_modified` of what `get_modified` gives. -/
def modified (contact : Contact) : ContactAttributes where
  name := contact.name.modified
  urisDefault := if contact.uris.default.dirty then some contact.uris.getDefault else none
  presence := contact.presence.modified
  dialog := contact.dialog.modified
  attributes := contact.attributes.modified

/-- A setting that is not a `RuntimeSetting` is modified. -/
def isModified (contact : Contact) : Bool :=
  contact.modified ≠ {} || contact.uris.isModified || contact.localDirty

/-- The effect of `get_modified`. -/
def sync (contact : Contact) : Contact :=
  { contact with
    name := contact.name.sync
    uris := contact.uris.sync
    dialog := contact.dialog.sync
    presence := contact.presence.sync
    attributes := contact.attributes.sync
    localDirty := false
    runtimeDirty := false }

/-- The operations for what was modified: URIs added, removed and changed, then the contact itself. -/
def operations (order : HashOrder ContactURI) (contact : Contact) : List Operation :=
  ((order.order contact.uris.added).map fun uri => .addContactURI contact.toxcap uri.toxcap)
    ++ ((order.order contact.uris.removed).map fun uri =>
      .removeContactURI contact.toxcap uri.toxcap)
    ++ ((order.order contact.uris.modified).map fun uri =>
      .updateContactURI contact.toxcap uri.toxcap uri.modified)
    ++ if contact.modified = {} then [] else [.updateContact contact.toxcap contact.modified]

/-- `_internal_save(Local)`: the contact afterwards, and what is scheduled for an account. -/
def save (order : HashOrder ContactURI) (contact : Contact) : Contact × List Operation :=
  let saved := { contact.sync with xcapContact := some contact.toxcap }
  match contact.state with
  | .deleted => (contact, [])
  | .new => ({ saved with state := .active }, [.addContact contact.toxcap])
  | .active =>
      if contact.isModified then
        (saved, if contact.xcapContact = some contact.toxcap then [] else contact.operations order)
      else if contact.runtimeDirty then (saved, [])
      else (contact, [])

end Contact

/-! ### Groups -/

/-- A contact as a group refers to it: its `__xcapcontact__`, and whether it was deleted. Both change
when the contact is saved or deleted. -/
structure GroupMember where
  contact : Account.Xcap.Contact
  deleted : Bool

namespace GroupMember

def id (member : GroupMember) : String := member.contact.id

def delete (member : GroupMember) : GroupMember := { member with deleted := true }

theorem id_delete {key : String} (member : GroupMember) (h : member.id = key) :
    member.delete.id = key := h

def saved (contact : Account.Xcap.Contact) (member : GroupMember) : GroupMember :=
  { member with contact := contact }

theorem id_saved {contact : Account.Xcap.Contact} (member : GroupMember)
    (_ : member.id = contact.id) : (member.saved contact).id = contact.id := rfl

end GroupMember

/-- The old value of `contacts` is in `oldContacts`. -/
structure Group where
  id : String
  name : Setting String
  contacts : List GroupMember
  oldContacts : List GroupMember
  distinct : KeyedList.Distinct GroupMember.id contacts
  attributes : SharedSettings
  localDirty : Bool
  runtimeDirty : Bool
  state : ObjectState
  xcapGroup : Option Account.Xcap.Group

inductive GroupEdit
  | name (value : String)
  | shared (name : String) (value : Option String)
  | extension (runtime : Bool)
  | addContact (contact : Account.Xcap.Contact)
  | removeContact (id : String)
  | setContacts (contacts : List Account.Xcap.Contact)
  | contactSaved (contact : Account.Xcap.Contact)
  | contactDeleted (id : String)

namespace Group

def addMember (group : Group) (member : GroupMember) : Group :=
  { group with
    contacts := KeyedList.assign GroupMember.id member group.contacts
    distinct := KeyedList.distinct_assign group.distinct }

def edit (group : Group) : GroupEdit → Group
  | .name value => { group with name := group.name.set value }
  | .shared name value => { group with attributes := group.attributes.assign name value }
  | .extension true => { group with runtimeDirty := true }
  | .extension false => { group with localDirty := true }
  | .addContact contact => group.addMember ⟨contact, false⟩
  | .removeContact id =>
      { group with
        contacts := KeyedList.erase GroupMember.id id group.contacts
        distinct := KeyedList.distinct_erase group.distinct }
  | .setContacts contacts =>
      (contacts.map fun contact => ⟨contact, false⟩).foldl addMember
        { group with contacts := [], distinct := List.nodup_nil }
  | .contactSaved contact =>
      { group with
        contacts := KeyedList.modify GroupMember.id contact.id (.saved contact) group.contacts
        oldContacts := KeyedList.modify GroupMember.id contact.id (.saved contact) group.oldContacts
        distinct := KeyedList.distinct_modify GroupMember.id_saved group.distinct }
  | .contactDeleted id =>
      { group with
        contacts := KeyedList.modify GroupMember.id id GroupMember.delete group.contacts
        oldContacts := KeyedList.modify GroupMember.id id GroupMember.delete group.oldContacts
        distinct := KeyedList.distinct_modify GroupMember.id_delete group.distinct }

/-- The members that were not deleted are those a save is about. -/
def members (group : Group) : List GroupMember := group.contacts.filter fun member => !member.deleted

def sorted (group : Group) : List GroupMember :=
  group.members.insertionSort fun left right => left.id ≤ right.id

theorem distinct_members (group : Group) : KeyedList.Distinct GroupMember.id group.members :=
  KeyedList.distinct_filter group.distinct _

/-- `__toxcap__`, after the deleted contacts were removed. -/
def toxcap (group : Group) : Account.Xcap.Group where
  id := group.id
  name := group.name.value
  contacts :=
    ⟨group.sorted.map (·.contact), by
      have hsorted : KeyedList.Distinct GroupMember.id group.sorted :=
        ((List.perm_insertionSort _ group.members).map GroupMember.id).nodup_iff.mpr
          group.distinct_members
      exact KeyedList.distinct_map (fun _ => rfl) hsorted⟩
  attributes := group.attributes.values

def modified (group : Group) : GroupAttributes where
  name := group.name.modified
  attributes := group.attributes.modified

def added (group : Group) : List GroupMember :=
  group.members.filter fun member => member.id ∉ group.oldContacts.map GroupMember.id

def removed (group : Group) : List GroupMember :=
  group.oldContacts.filter fun member => member.id ∉ group.members.map GroupMember.id

def isModified (group : Group) : Bool :=
  group.modified ≠ {} || !group.added.isEmpty || !group.removed.isEmpty || group.localDirty

def sync (group : Group) : Group :=
  { group with
    name := group.name.sync
    contacts := group.members
    oldContacts := group.members
    distinct := group.distinct_members
    attributes := group.attributes.sync
    localDirty := false
    runtimeDirty := false }

/-- The operations for what was modified: members added and removed, then the group itself. -/
def operations (order : HashOrder GroupMember) (group : Group) : List Operation :=
  ((order.order group.added).map fun member => .addGroupMember group.toxcap member.contact)
    ++ ((order.order group.removed).map fun member => .removeGroupMember group.toxcap member.contact)
    ++ if group.modified = {} then [] else [.updateGroup group.toxcap group.modified]

/-- `_internal_save(Local)` -/
def save (order : HashOrder GroupMember) (group : Group) : Group × List Operation :=
  let saved := { group.sync with xcapGroup := some group.toxcap }
  match group.state with
  | .deleted => (group, [])
  | .new => ({ saved with state := .active }, [.addGroup group.toxcap])
  | .active =>
      if group.isModified then
        (saved,
          if group.xcapGroup.any group.toxcap.same then [] else group.operations order)
      else if group.runtimeDirty then (saved, [])
      else ({ group with contacts := group.members, distinct := group.distinct_members }, [])

end Group

/-! ### Policies -/

structure Policy where
  id : String
  uri : Setting String
  name : Setting String
  dialog : EventSettings
  presence : EventSettings
  attributes : SharedSettings
  localDirty : Bool
  runtimeDirty : Bool
  state : ObjectState
  xcapPolicy : Option Account.Xcap.Policy

inductive PolicyEdit
  | uri (value : String)
  | name (value : String)
  | presencePolicy (value : PolicyValue)
  | presenceSubscribe (value : Bool)
  | dialogPolicy (value : PolicyValue)
  | dialogSubscribe (value : Bool)
  | shared (name : String) (value : Option String)
  | extension (runtime : Bool)

namespace Policy

def edit (policy : Policy) : PolicyEdit → Policy
  | .uri value => { policy with uri := policy.uri.set value }
  | .name value => { policy with name := policy.name.set value }
  | .presencePolicy value =>
      { policy with presence := { policy.presence with policy := policy.presence.policy.set value } }
  | .presenceSubscribe value =>
      { policy with
        presence := { policy.presence with subscribe := policy.presence.subscribe.set value } }
  | .dialogPolicy value =>
      { policy with dialog := { policy.dialog with policy := policy.dialog.policy.set value } }
  | .dialogSubscribe value =>
      { policy with
        dialog := { policy.dialog with subscribe := policy.dialog.subscribe.set value } }
  | .shared name value => { policy with attributes := policy.attributes.assign name value }
  | .extension true => { policy with runtimeDirty := true }
  | .extension false => { policy with localDirty := true }

def toxcap (policy : Policy) : Account.Xcap.Policy where
  id := policy.id
  uri := policy.uri.value
  name := policy.name.value
  dialog := policy.dialog.toxcap
  presence := policy.presence.toxcap
  attributes := policy.attributes.values

def modified (policy : Policy) : PolicyAttributes where
  uri := policy.uri.modified
  name := policy.name.modified
  presence := policy.presence.modified
  dialog := policy.dialog.modified
  attributes := policy.attributes.modified

def isModified (policy : Policy) : Bool := policy.modified ≠ {} || policy.localDirty

def sync (policy : Policy) : Policy :=
  { policy with
    uri := policy.uri.sync
    name := policy.name.sync
    dialog := policy.dialog.sync
    presence := policy.presence.sync
    attributes := policy.attributes.sync
    localDirty := false
    runtimeDirty := false }

/-- `_internal_save(Local)`. The one operation is scheduled even if its dictionary is empty. -/
def save (policy : Policy) : Policy × List Operation :=
  let saved := { policy.sync with xcapPolicy := some policy.toxcap }
  match policy.state with
  | .deleted => (policy, [])
  | .new => ({ saved with state := .active }, [.addPolicy policy.toxcap])
  | .active =>
      if policy.isModified then
        (saved,
          if policy.xcapPolicy = some policy.toxcap then []
          else [.updatePolicy policy.toxcap policy.modified])
      else if policy.runtimeDirty then (saved, [])
      else (policy, [])

end Policy

end SipSimple.AddressBook
