import SipSimple.Payloads.AddressBook

/-!
# The resource-lists document

A `List` element keeps its items by class and ID. The lists the library uses have fixed names: the
addressbook, four presence and dialog lists of granted and blocked URIs, two lists of subscribed URIs,
and the two lists of the OMA scheme. Other lists of a document are never read or changed, and neither
are the display names.
-/

namespace SipSimple.Payloads

/-- A change that can raise: what is left after it, and the exception. -/
abbrev Outcome (σ ε : Type) := σ × Option ε

structure Entry where
  uri : String
  dirty : Bool := true

instance : XMLItem Entry where
  xmlId := Entry.uri
  isDirty := Entry.dirty
  mark entry := { entry with dirty := true }
  clean entry := { entry with dirty := false }
  same left right := left.uri = right.uri

/-- `resourcelists.List`. The flag of the list itself is set if the flag of one of its parts is. The
`others` are `EntryRef`, `External` and `List` items, of which a `List` may have no ID. -/
structure ResourceList where
  entries : XMLList Entry := .empty
  contacts : XMLList Contact := .empty
  groups : XMLList Group := .empty
  policies : XMLList Policy := .empty
  others : List (Option String) := []
  othersDirty : Bool := true

namespace ResourceList

def isDirty (list : ResourceList) : Bool :=
  list.entries.isDirty || list.contacts.isDirty || list.groups.isDirty || list.policies.isDirty
    || list.othersDirty

def clean (list : ResourceList) : ResourceList where
  entries := list.entries.clean
  contacts := list.contacts.clean
  groups := list.groups.clean
  policies := list.policies.clean
  others := list.others
  othersDirty := false

/-- `del list[cls, All]` for the classes of the other items: the ones with an ID go. -/
def deleteOthers (list : ResourceList) : ResourceList :=
  if list.others.any (·.isSome) then
    { list with others := list.others.filter (·.isNone), othersDirty := true }
  else list

/-- `set(entry.uri for entry in list)`. Only entries and policies have a `uri`; another item raises
AttributeError. -/
def uris? (list : ResourceList) : Option (List String) :=
  if list.contacts.items.isEmpty && list.groups.items.isEmpty && list.others.isEmpty then
    some (list.entries.items.map (·.uri) ++ list.policies.items.map (·.uri))
  else none

/-- `XMLListMixin.clear` -/
def clear (list : ResourceList) : ResourceList :=
  { entries := list.entries.clear
    contacts := list.contacts.clear
    groups := list.groups.clear
    policies := list.policies.clear
    others := []
    othersDirty := !list.others.isEmpty || list.othersDirty }

end ResourceList

inductive ListName
  | omaBuddylist
  | omaGrantedcontacts
  | omaBlockedcontacts
  | omaAllcontacts
  | dialogGrantedcontacts
  | dialogBlockedcontacts
  | sipsimplePresenceRls
  | sipsimpleDialogRls
  | sipsimpleAddressbook
  deriving DecidableEq, Repr

namespace ListName

def all : List ListName :=
  [omaBuddylist, omaGrantedcontacts, omaBlockedcontacts, omaAllcontacts, dialogGrantedcontacts,
    dialogBlockedcontacts, sipsimplePresenceRls, sipsimpleDialogRls, sipsimpleAddressbook]

def toString : ListName → String
  | omaBuddylist => "oma_buddylist"
  | omaGrantedcontacts => "oma_grantedcontacts"
  | omaBlockedcontacts => "oma_blockedcontacts"
  | omaAllcontacts => "oma_allcontacts"
  | dialogGrantedcontacts => "dialog_grantedcontacts"
  | dialogBlockedcontacts => "dialog_blockedcontacts"
  | sipsimplePresenceRls => "sipsimple_presence_rls"
  | sipsimpleDialogRls => "sipsimple_dialog_rls"
  | sipsimpleAddressbook => "sipsimple_addressbook"

end ListName

/-- The root element, with its lists by name. -/
structure ResourceLists where
  lists : ListName → Option ResourceList := fun _ => none
  dirty : Bool := true

namespace ResourceLists

def isDirty (content : ResourceLists) : Bool :=
  content.dirty || ListName.all.any fun name => (content.lists name).any (·.isDirty)

def clean (content : ResourceLists) : ResourceLists :=
  ⟨fun name => (content.lists name).map .clean, false⟩

/-- Changes of a list, which is a reference into the document. -/
def set (content : ResourceLists) (name : ListName) (list : ResourceList) : ResourceLists :=
  { content with lists := Function.update content.lists name (some list) }

@[simp] theorem set_lists_self (content : ResourceLists) (name : ListName) (list : ResourceList) :
    (content.set name list).lists name = some list := by
  simp [set]

theorem set_lists_of_ne (content : ResourceLists) {name name' : ListName} (list : ResourceList)
    (hne : name' ≠ name) : (content.set name list).lists name' = content.lists name' := by
  simp [set, hne]

/-- `content.add(list)` of a list of a new name. -/
def addList (content : ResourceLists) (name : ListName) (list : ResourceList) : ResourceLists :=
  { content.set name list with dirty := true }

/-- `get_xpath` of a list at the top level. -/
def getXpath (name : ListName) : String :=
  "/resource-lists/list[@name=\"" ++ name.toString ++ "\"]"

end ResourceLists

end SipSimple.Payloads
