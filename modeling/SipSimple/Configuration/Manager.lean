import SipSimple.Configuration.FileBackend

/-!
# The configuration manager

The stored configuration is a tree of dictionaries. A settings object is stored at a path of names; what
it stores is a tree as well, in which a value may be the marker `DefaultValue`, and a dictionary the
marker `ItemContainer`. The items of a dictionary that is read come in any order, with distinct keys.
-/

namespace SipSimple.Configuration

open SortedDict (insert lookup erase insertAll)

/-- A name on a path. The name of an object with a dynamic ID is a `PersistentKey`. -/
structure Key where
  name : Unicode
  persistent : Bool := false
  deriving DecidableEq

/-- A value that is not a dictionary. -/
inductive Plain
  | none
  | unicode (value : Unicode)
  | list (items : List Unicode)
  deriving DecidableEq

def Plain.data : Plain → Data
  | .none => .none
  | .unicode value => .unicode value
  | .list items => .list items

/-- What an object stores. -/
inductive State
  | plain (value : Plain)
  | default
  | dict (items : List (Unicode × State))
  | container (items : List (Unicode × State))

abbrev StateItems := List (Unicode × State)

mutual

/-- The keys of every dictionary are distinct. -/
def State.Distinct : State → Prop
  | .plain _ | .default => True
  | .dict items | .container items => (items.map Prod.fst).Nodup ∧ StateItemsDistinct items

def StateItemsDistinct : StateItems → Prop
  | [] => True
  | item :: items => StateItemDistinct item ∧ StateItemsDistinct items

def StateItemDistinct : Unicode × State → Prop
  | (_, state) => state.Distinct

end

/-! ### Dictionaries in the tree -/

/-- `not data` for a value of the tree. -/
def Data.falsy : Data → Bool
  | .none => true
  | .unicode value => value.isEmpty
  | .list items => items.isEmpty
  | .dict items => items.isEmpty

/-- The dictionary under a key, or an empty one if there is none. -/
def subtree (key : Unicode) (data : Items) : Items :=
  match lookup key data with
  | some (.dict items) => items
  | _ => []

/-- A dictionary is put back under its key unless it got empty. -/
def putSubtree (key : Key) (items data : Items) : Items :=
  if !key.persistent && items.isEmpty then erase key.name data
  else insert key.name (.dict items) data

/-! ### `update` -/

mutual

/-- `_update_dict` -/
def updateDict (data : Items) : StateItems → Items
  | [] => data
  | item :: items => updateDict (updateItem data item) items

def updateItem (data : Items) : Unicode × State → Items
  | (key, state) => updateKey data key state

def updateKey (data : Items) (key : Unicode) : State → Items
  | .default => erase key data
  | .plain value => insert key value.data data
  | .container items =>
      let kept := (subtree key data).filter fun item => item.1 ∈ items.map Prod.fst
      putSubtree ⟨key, false⟩ (updateDict kept items) data
  | .dict items => putSubtree ⟨key, false⟩ (updateDict (subtree key data) items) data

end

/-- `_update`; none if it raises, since a value that is not a dictionary is on the path. -/
def update (data : Items) : List Key → StateItems → Option Items
  | [], _ => none
  | [key], state =>
      match lookup key.name data with
      | none => some (putSubtree key (updateDict [] state) data)
      | some (.dict items) => some (putSubtree key (updateDict items state) data)
      | some other =>
          if state.isEmpty then
            some (if !key.persistent && other.falsy then erase key.name data else data)
          else none
  | key :: path, state =>
      match lookup key.name data with
      | none => (update [] path state).map fun items => putSubtree key items data
      | some (.dict items) => (update items path state).map fun items => putSubtree key items data
      | some _ => none

/-! ### `get`, `rename`, `delete` -/

/-- `_get` -/
def Data.get? : Data → List Unicode → Option Data
  | data, [] => some data
  | .dict items, key :: path =>
      match lookup key items with
      | some data => data.get? path
      | .none => .none
  | _, _ :: _ => .none

/-- `_pop`; none if it raises `KeyError`. -/
def pop (data : Items) : List Key → Option (Data × Items)
  | [] => none
  | [key] => (lookup key.name data).map fun popped => (popped, erase key.name data)
  | key :: path =>
      match lookup key.name data with
      | some (.dict items) =>
          (pop items path).map fun result => (result.1, putSubtree key result.2 data)
      | _ => none

/-- `_insert`, which adds to the dictionary that is there; none if it raises. -/
def insertAt (data : Items) : List Key → Data → Option Items
  | [], _ => none
  | [key], inserted =>
      match lookup key.name data, inserted with
      | none, .dict items => some (insert key.name (.dict (insertAll items [])) data)
      | some (.dict old), .dict items => some (insert key.name (.dict (insertAll items old)) data)
      | _, _ => none
  | key :: path, inserted =>
      match lookup key.name data with
      | none => (insertAt [] path inserted).map fun items => insert key.name (.dict items) data
      | some (.dict old) =>
          (insertAt old path inserted).map fun items => insert key.name (.dict items) data
      | some _ => none

def rename (data : Items) (oldKey newKey : List Key) : Option Items :=
  match pop data oldKey with
  | some (popped, data) => insertAt data newKey popped
  | none => none

def delete (data : Items) (key : List Key) : Items :=
  match pop data key with
  | some (_, data) => data
  | none => data

end SipSimple.Configuration
