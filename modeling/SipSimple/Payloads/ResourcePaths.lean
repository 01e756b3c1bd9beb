import SipSimple.Library.XMLText

/-!
# Paths of resource lists

`ResourceLists.find_parent` and `ResourceLists.get_xpath` of `payloads/resourcelists.py`. An object of a
document is known by its place, the indexes on the way to it, and the empty place is that of the document
itself. The search compares a child with the element by identity, which is the place here. It keeps the
lists it has seen in a set and in the keys of a dictionary, which compare by the hash of the ID and by value;
an object without an ID is hashed by identity.
-/

namespace SipSimple.Payloads.ResourcePaths

abbrev Str := List Char

abbrev Place := List Nat

/-- The items of a list. The items of an extension are contacts, groups and policies; of these the URI, the
presence of attributes, and what else they are compared by. -/
inductive Item where
  | entry (uri : Str) (attributes : Bool)
  | entryRef (ref : Str)
  | external (anchor : Str)
  | list (name : Option Str) (items : List Item)
  | extension (id : Str) (uri : Option Str) (attributes : Bool) (value : Nat)

/-- The classes of the items. -/
inductive Kind where
  | entry
  | entryRef
  | external
  | list
  | extension
deriving DecidableEq

def Kind.tag : Kind → Str
  | entry => "entry".toList
  | entryRef => "entry-ref".toList
  | external => "external".toList
  | list => "list".toList
  | extension => "extension".toList

theorem Kind.tag_injective (left right : Kind) : left.tag = right.tag → left = right := by
  cases left <;> cases right <;> decide

namespace Item

def kind : Item → Kind
  | entry .. => .entry
  | entryRef .. => .entryRef
  | external .. => .external
  | list .. => .list
  | extension .. => .extension

def tag (item : Item) : Str := item.kind.tag

def isList (item : Item) : Bool := item.kind == .list

def isExtension (item : Item) : Bool := item.kind == .extension

def items : Item → List Item
  | list _ items => items
  | _ => []

/-- `_xml_id` -/
def xmlId : Item → Option Str
  | entry uri _ => some uri
  | entryRef ref => some ref
  | external anchor => some anchor
  | list name _ => name
  | extension id .. => some id

mutual

/-- `XMLElement.__eq__`: the attributes and children of the left one are those of the right one, so an entry
also equals a policy of its URI. Lists are equal if their items are. -/
def equal : Item → Item → Bool
  | entry uri attributes, entry uri' attributes' => uri == uri' && attributes == attributes'
  | entry uri attributes, extension _ (some uri') attributes' _ => uri == uri' && attributes == attributes'
  | entryRef ref, entryRef ref' => ref == ref'
  | external anchor, external anchor' => anchor == anchor'
  | list name items, list name' items' => name == name' && equalItems items items'
  | extension id uri attributes value, extension id' uri' attributes' value' =>
      id == id' && uri == uri' && attributes == attributes' && value == value'
  | _, _ => false

def equalItems : List Item → List Item → Bool
  | [], [] => true
  | item :: items, item' :: items' => equal item item' && equalItems items items'
  | _, _ => false

end

mutual

/-- The number of items, with this one. -/
def size : Item → Nat
  | list _ items => sizeItems items + 1
  | _ => 1

def sizeItems : List Item → Nat
  | [] => 0
  | item :: items => size item + sizeItems items

end

/-- The item at a place below this one. -/
def at? (item : Item) : Place → Option Item
  | [] => some item
  | i :: place => item.items[i]?.bind fun child => child.at? place

end Item

/-- A document. The IDs of the items of one class in a list are different. -/
structure ResourceLists where
  lists : List Item
  all_lists : ∀ item ∈ lists, item.isList = true
  unique : ∀ place item, (Item.list none lists).at? place = some item →
    (item.items.filterMap fun child => child.xmlId.map fun id => (child.tag, id)).Nodup

namespace ResourceLists

variable (doc : ResourceLists)

/-- The document, which is hashed by its identity as a list without a name is. -/
def root : Item := .list none doc.lists

def at? (place : Place) : Option Item := doc.root.at? place

/-- A stored key is the one that is looked for. -/
def isKey (stored place : Place) : Bool :=
  stored == place ||
    match doc.at? stored, doc.at? place with
    | some item, some sought => item.xmlId.isSome && item.xmlId == sought.xmlId && item.equal sought
    | _, _ => false

/-- `dict[key] = value`. A key that is there stays, and its value is replaced. -/
def assign (parents : List (Place × Place)) (key value : Place) : List (Place × Place) :=
  match parents with
  | [] => [(key, value)]
  | entry :: parents =>
      if doc.isKey entry.1 key then (entry.1, value) :: parents else entry :: assign parents key value

def lookup (parents : List (Place × Place)) (key : Place) : Option Place :=
  (parents.find? fun entry => doc.isKey entry.1 key).map Prod.snd

/-! ### The search -/

structure Search where
  notexpanded : List Place
  visited : List Place
  parents : List (Place × Place)

/-- The loop over the children of a list. -/
def visit (element : Option Place) (list : Place) : List (Place × Item) → Search → Search × Bool
  | [], search => (search, false)
  | (place, child) :: rest, search =>
      if some place = element then
        ({ search with notexpanded := [], parents := doc.assign search.parents place list }, true)
      else if child.isList && !search.visited.any (doc.isKey · place) then
        visit element list rest
          { notexpanded := search.notexpanded ++ [place]
            visited := search.visited ++ [place]
            parents := doc.assign search.parents place list }
      else visit element list rest search

/-- The children of the list at a place, with their places. -/
def children (place : Place) : List (Place × Item) :=
  ((doc.at? place).elim [] Item.items).zipIdx.map fun child => (place ++ [child.2], child.1)

/-- `while notexpanded`: the list with the element, and the parents found by then. -/
def expand (element : Option Place) : Nat → Search → Option (Place × List (Place × Place))
  | 0, _ => none
  | fuel + 1, search =>
      match search.notexpanded with
      | [] => none
      | list :: notexpanded =>
          match doc.visit element list (doc.children list) { search with notexpanded } with
          | (search, true) => some (list, search.parents)
          | (search, false) => expand element fuel search

/-- Every list of the document is expanded once at most. -/
def search (element : Option Place) : Option (Place × List (Place × Place)) :=
  doc.expand element doc.root.size ⟨[[]], [[]], [([], [])]⟩

/-! ### The path -/

/-- `'/%s[@%s=%s]' % (name, xmlname, quoteattr(value))` -/
def byAttribute (name xmlname : String) (value : Str) : Str :=
  '/' :: (name.toList ++ "[@".toList ++ xmlname.toList ++ '=' :: (XMLText.quoteattr value ++ [']']))

/-- `'/%s[%d]' % (name, position)` -/
def byPosition (name : String) (position : Nat) : Str :=
  '/' :: (name.toList ++ '[' :: (Nat.toDigits 10 position ++ [']']))

/-- `siblings.index(obj)` -/
def index (place parent : Place) : Nat :=
  ((doc.children parent).filter fun sibling => sibling.2.isList).findIdx fun sibling =>
    sibling.1 == place || (doc.at? place).any fun item => sibling.2.equal item

/-- The component of an element; one of an extension has none. -/
def component (place parent : Place) : Option Str :=
  (doc.at? place).map fun
    | .list (some name) _ => byAttribute "list" "name" name
    | .list none _ => byPosition "list" (doc.index place parent + 1)
    | .entry uri _ => byAttribute "entry" "uri" uri
    | .entryRef ref => byAttribute "entry-ref" "ref" ref
    | .external anchor => byAttribute "external" "anchor" anchor
    | .extension .. => []

/-- `while obj is not self`, with the components in the order of the path. -/
def components (parents : List (Place × Place)) : Nat → Place → Option Str
  | _, [] => some []
  | 0, _ :: _ => none
  | fuel + 1, i :: place => do
      let parent ← doc.lookup parents (i :: place)
      let text ← doc.component (i :: place) parent
      let rest ← components parents fuel parent
      return rest ++ text

end ResourceLists

/-! ### The methods -/

/-- An object is one of the document, or another one. -/
inductive Element where
  | inside (place : Place)
  | outside (item : Item)

inductive Error where
  | valueError
  | keyError

variable (doc : ResourceLists)

def Element.place : Element → Option Place
  | .inside place => some place
  | .outside _ => none

/-- `isinstance(element, (List, Entry, EntryRef, External))` -/
def Element.isItem : Element → Bool
  | .inside [] => false
  | .inside place => (doc.at? place).any fun item => !item.isExtension
  | .outside item => !item.isExtension

/-- `ResourceLists.find_parent` -/
def findParent (element : Element) : Except Error (Option Place) :=
  if element.isItem doc then return (doc.search element.place).map Prod.fst else throw .valueError

/-- `ResourceLists.get_xpath` -/
def getXpath (element : Element) : Except Error (Option Str) :=
  match element.place with
  | some [] => return some "/resource-lists".toList
  | place =>
      if element.isItem doc then
        match doc.search place with
        | none => return none
        | some found =>
            match doc.components found.2 (place.elim 0 List.length) (place.getD []) with
            | some text => return some ("/resource-lists".toList ++ text)
            | none => throw .keyError
      else throw .valueError

end SipSimple.Payloads.ResourcePaths
