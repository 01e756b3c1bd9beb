import Mathlib.Data.String.Basic
import SipSimple.Library.KeyedList
import SipSimple.Library.SortedDict

/-!
# The XML elements of the addressbook

An XML element is a record of its attributes and children with the `__dirty__` flag of its own. A new
element is dirty. Setting an attribute or a child to a different value marks the element, setting it to
an equal value leaves every flag as it was, and an element counts as dirty when it or anything below it
is. Setting the flag of an element to false sets every flag below it; setting it to true does not.

The lists of elements are those of `XMLListMixin`: at most one item of an ID, replaced at the end of
the list when another one of the ID is added.
-/

namespace SipSimple.Payloads

inductive PolicyValue
  | allow
  | block
  | default
  deriving DecidableEq, Repr

/-- The dictionary of an `ElementAttributes`. -/
abbrev Attributes := SortedDict.Dict String (Option String)

/-! ### `XMLSimpleElement` and `XMLElementChild` -/

structure SimpleElement (α : Type) where
  value : α
  dirty : Bool := true

namespace SimpleElement

variable {α : Type}

def clean (element : SimpleElement α) : SimpleElement α := { element with dirty := false }

/-- `XMLElementChild.__set__`: a new element, with the flag of the old one if they are equal. -/
def assign [DecidableEq α] (element : SimpleElement α) (value : α) : SimpleElement α :=
  ⟨value, if value = element.value then element.dirty else true⟩

end SimpleElement

/-! ### `XMLListMixin` -/

/-- What a list of elements uses of its items. -/
class XMLItem (α : Type) where
  xmlId : α → String
  isDirty : α → Bool
  /-- `__set_dirty__(True)` -/
  mark : α → α
  /-- `__set_dirty__(False)` -/
  clean : α → α
  /-- `XMLElement.__eq__` -/
  same : α → α → Bool
  xmlId_mark : ∀ item, xmlId (mark item) = xmlId item := by intros; rfl
  xmlId_clean : ∀ item, xmlId (clean item) = xmlId item := by intros; rfl

/-- A list of elements, with at most one item of an ID. -/
structure XMLList (α : Type) [XMLItem α] where
  items : List α
  distinct : KeyedList.Distinct XMLItem.xmlId items
  dirty : Bool

namespace XMLList

variable {α : Type} [XMLItem α]

/-- A new element. -/
def empty : XMLList α := ⟨[], List.nodup_nil, true⟩

def isDirty (list : XMLList α) : Bool := list.items.any XMLItem.isDirty || list.dirty

/-- Changes of the items, which are references into the list; the IDs are immutable. -/
def map (list : XMLList α) (f : α → α) (hid : ∀ item, XMLItem.xmlId (f item) = XMLItem.xmlId item) :
    XMLList α where
  items := list.items.map f
  distinct := KeyedList.distinct_map hid list.distinct
  dirty := list.dirty

/-- Changes of the item of an ID. -/
def modify (list : XMLList α) (id : String) (f : α → α)
    (hid : ∀ item, XMLItem.xmlId (f item) = XMLItem.xmlId item) : XMLList α where
  items := KeyedList.modify XMLItem.xmlId id f list.items
  distinct := KeyedList.distinct_modify (fun item hkey => (hid item).trans hkey) list.distinct
  dirty := list.dirty

def clean (list : XMLList α) : XMLList α :=
  { list.map XMLItem.clean XMLItem.xmlId_clean with dirty := false }

def find (list : XMLList α) (id : String) : Option α := KeyedList.find XMLItem.xmlId id list.items

/-- The item goes to the end, in the place of an item of its ID. -/
def put (list : XMLList α) (item : α) (dirty : Bool) : XMLList α :=
  ⟨KeyedList.put XMLItem.xmlId item list.items, KeyedList.distinct_put list.distinct, dirty⟩

/-- An item that equals the one it replaces takes over its dirty flag. -/
def add (list : XMLList α) (item : α) : XMLList α :=
  match list.find (XMLItem.xmlId item) with
  | some old =>
      if XMLItem.same item old then
        list.put (if XMLItem.isDirty old then XMLItem.mark item else XMLItem.clean item) list.dirty
      else list.put item true
  | none => list.put item true

/-- `__delitem__` of an ID, which raises KeyError if there is no such item. -/
def remove (list : XMLList α) (id : String) : Option (XMLList α) :=
  (list.find id).map fun _ =>
    ⟨KeyedList.erase XMLItem.xmlId id list.items, KeyedList.distinct_erase list.distinct, true⟩

def update (list : XMLList α) (items : List α) : XMLList α := items.foldl add list

def clear (list : XMLList α) : XMLList α := if list.items.isEmpty then list else empty

end XMLList

/-! ### Extensions -/

structure ElementAttributes where
  attributes : Attributes
  dirty : Bool := true

namespace ElementAttributes

def clean (element : ElementAttributes) : ElementAttributes := { element with dirty := false }

def update (element : ElementAttributes) (attributes : Attributes) : ElementAttributes :=
  ⟨element.attributes.update attributes, !attributes.items.isEmpty || element.dirty⟩

/-- How every update handler changes the attributes of an element: they are created if missing. -/
def updateChild (child : Option ElementAttributes) (attributes : Attributes) : ElementAttributes :=
  update (child.getD { attributes := .empty }) attributes

end ElementAttributes

/-! ### `PresenceHandling` and `DialogHandling` -/

structure Handling where
  policy : SimpleElement PolicyValue
  subscribe : SimpleElement Bool
  dirty : Bool := true

namespace Handling

def new (policy : PolicyValue) (subscribe : Bool) : Handling where
  policy := { value := policy }
  subscribe := { value := subscribe }

def isDirty (handling : Handling) : Bool :=
  handling.dirty || handling.policy.dirty || handling.subscribe.dirty

def clean (handling : Handling) : Handling :=
  ⟨handling.policy.clean, handling.subscribe.clean, false⟩

def same (left right : Handling) : Bool :=
  left.policy.value = right.policy.value && left.subscribe.value = right.subscribe.value

def setPolicy (handling : Handling) (policy : PolicyValue) : Handling :=
  { handling with
    policy := handling.policy.assign policy
    dirty := policy ≠ handling.policy.value || handling.dirty }

def setSubscribe (handling : Handling) (subscribe : Bool) : Handling :=
  { handling with
    subscribe := handling.subscribe.assign subscribe
    dirty := subscribe ≠ handling.subscribe.value || handling.dirty }

end Handling

/-! ### `ContactURI` and `ContactURIList` -/

structure ContactURI where
  id : String
  uri : String
  type : Option String
  attributes : Option ElementAttributes
  dirty : Bool := true

namespace ContactURI

def isDirty (uri : ContactURI) : Bool := uri.dirty || uri.attributes.any (·.dirty)

def clean (uri : ContactURI) : ContactURI :=
  { uri with attributes := uri.attributes.map .clean, dirty := false }

/-- Two `ElementAttributes` always compare equal: they have no XML attributes and no children. -/
def same (left right : ContactURI) : Bool :=
  left.id = right.id && left.uri = right.uri && left.type = right.type
    && left.attributes.isSome = right.attributes.isSome

def setUri (contactUri : ContactURI) (uri : String) : ContactURI :=
  { contactUri with uri := uri, dirty := uri ≠ contactUri.uri || contactUri.dirty }

def setType (uri : ContactURI) (type : Option String) : ContactURI :=
  { uri with type := type, dirty := type ≠ uri.type || uri.dirty }

def updateAttributes (uri : ContactURI) (attributes : Attributes) : ContactURI :=
  { uri with
    attributes := some (.updateChild uri.attributes attributes)
    dirty := uri.attributes.isNone || uri.dirty }

instance : XMLItem ContactURI where
  xmlId := id
  isDirty := isDirty
  mark uri := { uri with dirty := true }
  clean := clean
  same := same

end ContactURI

structure ContactURIList extends XMLList ContactURI where
  default : Option String := none

namespace ContactURIList

def empty : ContactURIList := { XMLList.empty with }

def clean (uris : ContactURIList) : ContactURIList := { uris.toXMLList.clean with default := uris.default }

def same (left right : ContactURIList) : Bool :=
  left.default = right.default && left.items.length = right.items.length
    && (left.items.zip right.items).all fun pair => pair.1.same pair.2

def setDefault (uris : ContactURIList) (default : Option String) : ContactURIList :=
  { uris with default := default, dirty := default ≠ uris.default || uris.dirty }

end ContactURIList

/-! ### `Contact` -/

structure Contact where
  id : String
  name : SimpleElement String
  uris : ContactURIList
  dialog : Handling
  presence : Handling
  attributes : Option ElementAttributes
  dirty : Bool := true

namespace Contact

def isDirty (contact : Contact) : Bool :=
  contact.dirty || contact.name.dirty || contact.uris.isDirty || contact.dialog.isDirty
    || contact.presence.isDirty || contact.attributes.any (·.dirty)

def clean (contact : Contact) : Contact where
  id := contact.id
  name := contact.name.clean
  uris := contact.uris.clean
  dialog := contact.dialog.clean
  presence := contact.presence.clean
  attributes := contact.attributes.map .clean
  dirty := false

def same (left right : Contact) : Bool :=
  left.id = right.id && left.name.value = right.name.value && left.uris.same right.uris
    && left.dialog.same right.dialog && left.presence.same right.presence
    && left.attributes.isSome = right.attributes.isSome

def setName (contact : Contact) (name : String) : Contact :=
  { contact with
    name := contact.name.assign name
    dirty := name ≠ contact.name.value || contact.dirty }

def updateAttributes (contact : Contact) (attributes : Attributes) : Contact :=
  { contact with
    attributes := some (.updateChild contact.attributes attributes)
    dirty := contact.attributes.isNone || contact.dirty }

instance : XMLItem Contact where
  xmlId := id
  isDirty := isDirty
  mark contact := { contact with dirty := true }
  clean := clean
  same := same

end Contact

/-! ### `Policy` -/

structure Policy where
  id : String
  uri : String
  name : SimpleElement String
  dialog : Handling
  presence : Handling
  attributes : Option ElementAttributes
  dirty : Bool := true

namespace Policy

def isDirty (policy : Policy) : Bool :=
  policy.dirty || policy.name.dirty || policy.dialog.isDirty || policy.presence.isDirty
    || policy.attributes.any (·.dirty)

def clean (policy : Policy) : Policy where
  id := policy.id
  uri := policy.uri
  name := policy.name.clean
  dialog := policy.dialog.clean
  presence := policy.presence.clean
  attributes := policy.attributes.map .clean
  dirty := false

def same (left right : Policy) : Bool :=
  left.id = right.id && left.uri = right.uri && left.name.value = right.name.value
    && left.dialog.same right.dialog && left.presence.same right.presence
    && left.attributes.isSome = right.attributes.isSome

def setUri (policy : Policy) (uri : String) : Policy :=
  { policy with uri := uri, dirty := uri ≠ policy.uri || policy.dirty }

def setName (policy : Policy) (name : String) : Policy :=
  { policy with
    name := policy.name.assign name
    dirty := name ≠ policy.name.value || policy.dirty }

def updateAttributes (policy : Policy) (attributes : Attributes) : Policy :=
  { policy with
    attributes := some (.updateChild policy.attributes attributes)
    dirty := policy.attributes.isNone || policy.dirty }

instance : XMLItem Policy where
  xmlId := id
  isDirty := isDirty
  mark policy := { policy with dirty := true }
  clean := clean
  same := same

end Policy

/-! ### `ContactList` and `Group` -/

/-- The `ContactID` items have no XML ID, so a list may hold one twice. -/
structure ContactList where
  items : List (SimpleElement String) := []
  dirty : Bool := true

namespace ContactList

def isDirty (contacts : ContactList) : Bool := contacts.items.any (·.dirty) || contacts.dirty

def clean (contacts : ContactList) : ContactList := ⟨contacts.items.map .clean, false⟩

/-- `__iter__`, which gives the values of the items. -/
def ids (contacts : ContactList) : List String := contacts.items.map (·.value)

def add (contacts : ContactList) (id : String) : ContactList :=
  ⟨contacts.items ++ [{ value := id }], true⟩

/-- The first item of the value goes; KeyError if there is none. -/
def remove (contacts : ContactList) (id : String) : Option ContactList :=
  if id ∈ contacts.ids then some ⟨contacts.items.eraseP (·.value = id), true⟩ else none

end ContactList

structure Group where
  id : String
  name : SimpleElement String
  contacts : ContactList
  attributes : Option ElementAttributes
  dirty : Bool := true

namespace Group

def isDirty (group : Group) : Bool :=
  group.dirty || group.name.dirty || group.contacts.isDirty || group.attributes.any (·.dirty)

def clean (group : Group) : Group where
  id := group.id
  name := group.name.clean
  contacts := group.contacts.clean
  attributes := group.attributes.map .clean
  dirty := false

def same (left right : Group) : Bool :=
  left.id = right.id && left.name.value = right.name.value
    && left.contacts.ids = right.contacts.ids
    && left.attributes.isSome = right.attributes.isSome

def setName (group : Group) (name : String) : Group :=
  { group with
    name := group.name.assign name
    dirty := name ≠ group.name.value || group.dirty }

def updateAttributes (group : Group) (attributes : Attributes) : Group :=
  { group with
    attributes := some (.updateChild group.attributes attributes)
    dirty := group.attributes.isNone || group.dirty }

instance : XMLItem Group where
  xmlId := id
  isDirty := isDirty
  mark group := { group with dirty := true }
  clean := clean
  same := same

end Group

end SipSimple.Payloads
