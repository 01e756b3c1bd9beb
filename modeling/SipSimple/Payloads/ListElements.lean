import SipSimple.Library.KeyedList
import SipSimple.Library.OrderedForest

/-!
# XML list elements

The classes for list elements keep the objects of their items in two dictionaries next to the XML tree:
`_element_map` by the node of the item and `_xmlid_map` by its class and ID. An object is the object of
one node, so `_element_map` is the list of its keys here. `lxml` moves a node that is inserted out of the
children of the node it was a child of before; it refuses to insert a node below itself, which is the
parameter `refuses`. The dirty flags are left out, and with them the comparison of an added item with the
one it replaces.
-/

namespace SipSimple.Payloads.ListElements

open OrderedForest

structure Node where
  tag : String
  index : Nat
deriving DecidableEq

/-- What the element classes of a document declare, by the names of the classes. -/
structure Declarations where
  qname : String → String
  /-- The class has an `XMLElementID`. -/
  hasId : String → Bool
  isList : String → Bool
  /-- The class may be an item of the list class. -/
  items : String → String → Bool
  /-- The class is `Validity`, which has a node for each end of an item. -/
  intervals : String → Bool
  childrenOrder : String → List (Option String × Nat)

def maxint : Nat := 9223372036854775807

def Declarations.order (decl : Declarations) (cls : String) (node : Node) : Nat :=
  let order := decl.childrenOrder cls
  (order.lookup (some node.tag)).getD ((order.lookup none).getD maxint)

/-- `_element_map` and `_xmlid_map`. -/
structure Maps where
  elementMap : List Node := []
  xmlidMap : List ((String × String) × Node) := []
deriving DecidableEq

namespace Maps

def lookup (maps : Maps) (key : String × String) : Option Node :=
  (KeyedList.find Prod.fst key maps.xmlidMap).map Prod.snd

def register (maps : Maps) (key : Option (String × String)) (item : Node) : Maps where
  elementMap := if item ∈ maps.elementMap then maps.elementMap else maps.elementMap ++ [item]
  xmlidMap := match key with
    | some key => KeyedList.assign Prod.fst (key, item) maps.xmlidMap
    | none => maps.xmlidMap

def deleteId (maps : Maps) (key : String × String) : Maps :=
  { maps with xmlidMap := KeyedList.erase Prod.fst key maps.xmlidMap }

def deleteElement (maps : Maps) (item : Node) : Maps := { maps with elementMap := maps.elementMap.erase item }

end Maps

/-- An `XMLElement` or, if there is a second node, a `ValidityInterval`. The `id` is what
`XMLElementID.values` holds, where nothing is held before the ID was set or read. -/
structure Element where
  cls : String
  id : Option (Option String)
  validUntil : Option Node
  maps : Option Maps
deriving DecidableEq

def Element.nodes (element : Element) (node : Node) : List Node := node :: element.validUntil.toList

/-- `_xml_id` -/
def Element.xmlId (element : Element) : Option String := element.id.join

/-- An `XMLElement` of a class with an ID. -/
def Element.identified (decl : Declarations) (element : Element) : Bool :=
  decl.hasId element.cls && element.validUntil.isNone

/-- The key in `_xmlid_map`. -/
def Element.key (element : Element) : Option (String × String) := element.xmlId.map fun id => (element.cls, id)

/-- The objects by their nodes, the number of nodes of the documents, and the number of all nodes. -/
structure State where
  forest : Forest Node
  objects : Node → Option Element
  documents : Nat
  next : Nat

inductive Error
  | typeError
  | valueError
  | keyError
  | attributeError
deriving DecidableEq

abbrev Result := State × Option Error

def Result.andThen (result : Result) (f : State → Result) : Result :=
  match result with
  | (s, none) => f s
  | (s, some error) => (s, some error)

namespace State

variable (decl : Declarations) (refuses : Forest Node → Node → Node → Bool)

def setObject (s : State) (node : Node) (element : Element) : State :=
  { s with objects := Function.update s.objects node (some element) }

theorem objects_setObject (s : State) (node other : Node) (element : Element) :
    (s.setObject node element).objects other = if other = node then some element else s.objects other :=
  Function.update_apply ..

def maps (s : State) (list : Node) : Maps := ((s.objects list).bind (·.maps)).getD {}

def setMaps (s : State) (list : Node) (maps : Maps) : State :=
  match s.objects list with
  | some element => s.setObject list { element with maps := some maps }
  | none => s

def detach (s : State) (node : Node) : State := { s with forest := s.forest.detach node }

/-- `XMLAttribute.__get__` of the ID, which stores the default. -/
def readId (s : State) (item : Node) : State :=
  match s.objects item with
  | some element =>
      if element.identified decl && element.id.isNone then s.setObject item { element with id := some none } else s
  | none => s

def key (s : State) (item : Node) : Option (String × String) := (s.objects item).bind Element.key

/-- `XMLElement._insert_element` -/
def insertElement (s : State) (list : Node) (cls : String) (node : Node) : Result :=
  if s.forest.parent node = some list then (s, none)
  else if refuses s.forest list node then (s, some .valueError)
  else
    let position := slot (decl.order cls) node (s.forest.children list)
    ({ s with forest := s.forest.insert list position node }, none)

/-- `self.element.remove(node)` -/
def removeElement (s : State) (list node : Node) : Result :=
  if s.forest.parent node = some list then (s.detach node, none) else (s, some .valueError)

def deleteId (s : State) (list : Node) : Option (String × String) → Result
  | none => (s, none)
  | some key =>
      if ((s.maps list).lookup key).isSome then (s.setMaps list ((s.maps list).deleteId key), none)
      else (s, some .keyError)

def deleteElement (s : State) (list item : Node) : Result :=
  if item ∈ (s.maps list).elementMap then (s.setMaps list ((s.maps list).deleteElement item), none)
  else (s, some .keyError)

def register (s : State) (list : Node) (key : Option (String × String)) (item : Node) : Result :=
  (s.setMaps list ((s.maps list).register key item), none)

/-- The class of the item is one of those of the list. -/
def accepts (cls : String) (item : Element) : Bool :=
  if decl.intervals cls then item.validUntil.isSome else item.validUntil.isNone && decl.items cls item.cls

/-! ### Adding and removing -/

/-- The item that is registered under the ID goes. -/
def replace (s : State) (list : Node) (key : Option (String × String)) : Option Node → Result
  | none => (s, none)
  | some old =>
      ((s.removeElement list old).andThen fun s => s.deleteId list key).andThen fun s => s.deleteElement list old

/-- `XMLListMixin.add` -/
def addElement (s : State) (list : Node) (cls : String) (item : Node) : Result :=
  let s := s.readId decl item
  let key := s.key item
  let old := key.bind (s.maps list).lookup
  if old = some item then (s, none)
  else
    ((s.replace list key old).andThen fun s => s.insertElement decl refuses list cls item).andThen
      fun s => s.register list key item

/-- `Validity.add` -/
def addInterval (s : State) (list : Node) (cls : String) (item validUntil : Node) : Result :=
  ((s.insertElement decl refuses list cls item).andThen
    fun s => s.insertElement decl refuses list cls validUntil).andThen fun s => s.register list none item

/-- `add` of the class of the list. The classes that have their own make an item of a text, or remove
other items, and then do this. -/
def add (s : State) (list item : Node) : Result :=
  match s.objects list, s.objects item with
  | some element, some added =>
      if element.maps.isNone then (s, some .attributeError)
      else if accepts decl element.cls added then
        match added.validUntil with
        | none => s.addElement decl refuses list element.cls item
        | some validUntil => s.addInterval decl refuses list element.cls item validUntil
      else (s, some .typeError)
  | _, _ => (s, some .attributeError)

/-- `XMLListMixin.remove` -/
def removeItem (s : State) (list item : Node) : Result :=
  (s.removeElement list item).andThen fun s =>
    let s := s.readId decl item
    (s.deleteId list (s.key item)).andThen fun s => s.deleteElement list item

/-- `Validity.remove` -/
def removeInterval (s : State) (list item validUntil : Node) : Result :=
  ((s.removeElement list item).andThen fun s => s.removeElement list validUntil).andThen
    fun s => s.deleteElement list item

/-- `remove` of the class of the list. The items of the one kind lack the attributes of the other. -/
def remove (s : State) (list item : Node) : Result :=
  match s.objects list, s.objects item with
  | some element, some removed =>
      if element.maps.isNone then (s, some .attributeError)
      else
        match decl.intervals element.cls, removed.validUntil with
        | false, none => s.removeItem decl list item
        | true, some validUntil => s.removeInterval list item validUntil
        | _, _ => (s, some .attributeError)
  | _, _ => (s, some .attributeError)

def removeAll (s : State) (list : Node) : List Node → Result
  | [] => (s, none)
  | item :: items => (s.remove decl list item).andThen fun s => s.removeAll list items

/-- `XMLListMixin.clear` -/
def clear (s : State) (list : Node) : Result := s.removeAll decl list (s.maps list).elementMap

/-- `del list[cls, id]` -/
def delitem (s : State) (list : Node) (cls id : String) : Result :=
  match (s.maps list).lookup (cls, id) with
  | some item => s.remove decl list item
  | none => (s, some .keyError)

/-- `del list[cls, All]` -/
def delitems (s : State) (list : Node) (cls : String) : Result :=
  s.removeAll decl list (((s.maps list).xmlidMap.filter fun entry => entry.1.1 = cls).map Prod.snd)

/-- `XMLElementID.__set__`. An ID that is held cannot be changed. -/
def setId (s : State) (item : Node) (id : Option String) : Result :=
  match s.objects item with
  | some element =>
      if element.identified decl then
        if element.id.isSome then (s, some .attributeError)
        else if id.isNone then (s, none)
        else (s.setObject item { element with id := some id }, none)
      else (s, some .attributeError)
  | none => (s, some .attributeError)

/-! ### New elements -/

def newElement (cls : String) (id : Option String) : Element where
  cls := cls
  id := if decl.hasId cls then id.map some else none
  validUntil := none
  maps := if decl.isList cls then some {} else none

/-- `XMLElement.__init__`, with the ID that the constructor sets. -/
def create (s : State) (cls : String) (id : Option String) : State :=
  { s with next := s.next + 1 }.setObject ⟨decl.qname cls, s.next⟩ (newElement decl cls id)

/-- `ValidityInterval(from_timestamp, until_timestamp)` -/
def createInterval (s : State) : State :=
  { s with next := s.next + 2 }.setObject ⟨decl.qname "ValidFrom", s.next⟩
    ⟨"ValidityInterval", none, some ⟨decl.qname "ValidUntil", s.next + 1⟩, none⟩

/-- A child in `XMLListMixin._parse_element`. There is no object of it if it was not valid. -/
def parseChild (cls : String) (parsed : State × Maps) (child : Node) : State × Maps :=
  match parsed.1.objects child with
  | some element =>
      if accepts decl cls element then
        let s := parsed.1.readId decl child
        let key := s.key child
        if (key.bind parsed.2.lookup).isSome then (s.detach child, parsed.2)
        else (s, parsed.2.register key child)
      else parsed
  | none => parsed

/-- A node of a document is parsed once, before its parent. -/
def isNext (s : State) (node : Node) : Bool :=
  node.index < s.documents && (s.objects node).isNone &&
    match s.forest.parent node with
    | some top => top ≠ node && (s.objects top).isNone
    | none => true

/-- `XMLElement.from_element`, after the children were parsed. The class is the one that the document has
for the tag, or the one that the parent declares for it. A parsed `Validity` element is never valid: its
`check_validity` raises. -/
def parse (s : State) (node : Node) (cls : String) (id : Option String) (valid : Bool) : State :=
  if !s.isNext node || decl.intervals cls then s
  else
    let parsed :=
      if decl.isList cls then (s.forest.children node).foldl (parseChild decl cls) (s, {}) else (s, {})
    if valid then
      parsed.1.setObject node
        { newElement decl cls id with maps := if decl.isList cls then some parsed.2 else none }
    else parsed.1

/-- `__iter__` -/
def iterate (s : State) (list : Node) : List Node :=
  (s.forest.children list).filter fun node => node ∈ (s.maps list).elementMap

end State

/-! ### Runs -/

inductive Operation
  | create (cls : String) (id : Option String)
  | createInterval
  | parse (node : Node) (cls : String) (id : Option String) (valid : Bool)
  | add (list item : Node)
  | remove (list item : Node)
  | clear (list : Node)
  | delitem (list : Node) (cls id : String)
  | delitems (list : Node) (cls : String)
  | setId (item : Node) (id : Option String)

variable (decl : Declarations) (refuses : Forest Node → Node → Node → Bool)

def step (s : State) : Operation → State
  | .create cls id => s.create decl cls id
  | .createInterval => s.createInterval decl
  | .parse node cls id valid => s.parse decl node cls id valid
  | .add list item => (s.add decl refuses list item).1
  | .remove list item => (s.remove decl list item).1
  | .clear list => (s.clear decl list).1
  | .delitem list cls id => (s.delitem decl list cls id).1
  | .delitems list cls => (s.delitems decl list cls).1
  | .setId item id => (s.setId decl item id).1

/-- The documents that are parsed later, and nothing else. -/
structure Documents where
  forest : Forest Node
  size : Nat
  bounded : ∀ node top, forest.parent node = some top → node.index < size ∧ top.index < size

def start (documents : Documents) : State := ⟨documents.forest, fun _ => none, documents.size, documents.size⟩

end SipSimple.Payloads.ListElements
