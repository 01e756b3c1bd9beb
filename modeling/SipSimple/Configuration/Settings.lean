import SipSimple.Configuration.MergeSemantics
import Mathlib.Data.List.Basic

/-!
# Settings objects

An object is a tree of settings, groups and collections of items. A setting has an explicit value or else
the default of its class; with it goes the value of the last save and a flag. A collection has the items
that are in it and those that were in it at the last save; an item that was removed is kept until the next
save, and no other item gets its ID meanwhile. A class is given by its new object.

The item of a collection is found by the ID that it was added with. Assigning a list of items to a
collection is to remove all items and to add these.

Values are what `==` takes for equal: a bool that an integer setting is given is the 0 or 1 here, which
`unicode` writes in another way.
-/

namespace SipSimple.Configuration

open SortedDict (insert lookup)

variable {V : Type} [DecidableEq V]

/-! ### Types of settings -/

/-- A type with its own state. What it reads it has written. -/
structure ValueType (V : Type) where
  isinstance : V → Bool
  getstate : V → Plain
  setstate : Plain → Option V
  made : ∀ plain value, setstate plain = some value → isinstance value = true
  roundtrip : ∀ value, isinstance value = true →
    getstate value ≠ .none ∧ setstate (getstate value) = some value

inductive Kind (V : Type)
  | bool
  | int
  | str
  | unicode
  | other (type : ValueType V)

inductive Value (V : Type)
  | bool (value : Bool)
  | int (value : Int)
  | str (value : List UInt8)
  | text (value : Unicode)
  | other (value : V)
  deriving DecidableEq

def Kind.isinstance : Kind V → Value V → Bool
  | .bool, .bool _ => true
  | .int, .int _ => true
  | .str, .str _ => true
  | .unicode, .text _ => true
  | .other type, .other value => type.isinstance value
  | _, _ => false

/-- `unicode(value)` of an integer. -/
def unicodeInt (value : Int) : Unicode :=
  if value < 0 then '-' :: Nat.toDigits 10 value.natAbs else Nat.toDigits 10 value.natAbs

/-- The digits of an integer. -/
def intDigits (digits : Unicode) : Option Nat :=
  if digits ≠ [] ∧ digits.all Char.isDigit then some (Nat.ofDigitChars 10 digits 0) else none

/-- `int(value)` of a string. -/
def intUnicode (value : Unicode) : Option Int :=
  match (value.dropWhile isspace).rdropWhile isspace with
  | '-' :: digits => (intDigits digits).map Int.negOfNat
  | '+' :: digits => (intDigits digits).map Int.ofNat
  | digits => (intDigits digits).map Int.ofNat

def isAscii (bytes : List UInt8) : Bool := bytes.all (· < 128)

/-- `unicode(value)` of a `str`, which raises if that is not ASCII. -/
def unicodeStr (value : List UInt8) : Unicode := value.map fun byte => Char.ofNat byte.toNat

/-- `str(value)` of a string, which raises a `UnicodeEncodeError`. -/
def strUnicode (value : Unicode) : Option (List UInt8) :=
  if value.all fun char => char.toNat < 128 then
    some (value.map fun char => UInt8.ofNat char.toNat)
  else none

def trueWords : List String := ["true", "yes", "on", "1"]
def falseWords : List String := ["false", "no", "off", "0"]

/-- `unicode(value)` raises. -/
def Value.raises : Value V → Bool
  | .str value => !isAscii value
  | _ => false

/-- What is written of a value if `unicode(value)` does not raise. -/
def Kind.getstate : Kind V → Value V → Plain
  | .bool, .bool value => .unicode (if value then "true".toList else "false".toList)
  | .int, .int value => .unicode (unicodeInt value)
  | .str, .str value => .unicode (unicodeStr value)
  | .unicode, .text value => .unicode value
  | .other type, .other value => type.getstate value
  | _, _ => .none

/-- None if the stored value is not one of the type. -/
def Kind.setstate : Kind V → Plain → Option (Value V)
  | .bool, .unicode value =>
      let word := String.ofList (value.map Char.toLower)
      if word ∈ trueWords then some (.bool true)
      else if word ∈ falseWords then some (.bool false)
      else none
  | .int, .unicode value => (intUnicode value).map .int
  | .str, .unicode value => (strUnicode value).map .str
  | .unicode, .unicode value => some (.text value)
  | .other type, plain => (type.setstate plain).map .other
  | _, _ => none

/-- `Setting` and `RuntimeSetting` of a class. -/
structure SettingType (V : Type) where
  kind : Kind V
  default : Option (Value V)
  nillable : Bool
  runtime : Bool
  nillable_default : default = none → nillable = true

/-! ### Objects -/

/-- The explicit values: none if there is none, and the value may be `None`. -/
structure Setting (V : Type) where
  value : Option (Option (Value V))
  old : Option (Option (Value V))
  dirty : Bool

def Setting.new : Setting V := ⟨none, none, false⟩

inductive Member (V : Type)
  | setting (type : SettingType V) (setting : Setting V)
  | group (members : List (Unicode × Member V))
  | collection (members : List (Unicode × Member V)) (item : Member V)
      (items : List (Unicode × Member V)) (present old : List Unicode)

abbrev Members (V : Type) := List (Unicode × Member V)

/-! ### `Setting` -/

namespace Setting

/-- `__set__` to `DefaultValue`. -/
def reset (setting : Setting V) : Setting V :=
  if setting.value.isSome then { setting with value := none, dirty := setting.old.isSome }
  else setting

/-- `__set__`, for a value of the type; `None` raises unless the setting is nillable. -/
def set (type : SettingType V) (value : Option (Value V)) (setting : Setting V) : Setting V :=
  if value.elim type.nillable type.kind.isinstance then
    if setting.value = some value then setting
    else { setting with value := some value, dirty := decide (setting.old ≠ some value) }
  else setting

def undo (setting : Setting V) : Setting V := { setting with value := setting.old, dirty := false }

/-- What `get_modified` leaves. -/
def sync (setting : Setting V) : Setting V := ⟨setting.value, setting.value, false⟩

/-- `__getstate__` raises. -/
def raises (type : SettingType V) (setting : Setting V) : Bool :=
  !type.runtime && setting.value.any fun value => value.any Value.raises

def getstate (type : SettingType V) (setting : Setting V) : State :=
  if type.runtime then .default
  else
    match setting.value with
    | none => .default
    | some none => .plain .none
    | some (some value) => .plain (type.kind.getstate value)

end Setting

/-- The value of a stored state; none if it is not read, for a runtime setting or with a `ValueError`. -/
def SettingType.read (type : SettingType V) : Data → Option (Option (Value V))
  | .none => if type.runtime || !type.nillable then none else some none
  | .unicode value =>
      if type.runtime then none else (type.kind.setstate (.unicode value)).map some
  | .list items => if type.runtime then none else (type.kind.setstate (.list items)).map some
  | .dict _ => none

/-- `__setstate__` -/
def Setting.setstate (type : SettingType V) (setting : Setting V) (data : Data) : Setting V :=
  match type.read data with
  | some value => ⟨some value, some value, false⟩
  | none => setting

/-! ### `SettingsState` and `ItemCollection` -/

mutual

/-- `__getstate__` raises. -/
def Member.raises : Member V → Bool
  | .setting type own => own.raises type
  | .group members => membersRaise members
  | .collection members _ items present _ =>
      itemsRaise (fun id => id ∈ present) items || membersRaise members

def membersRaise : Members V → Bool
  | [] => false
  | member :: members => memberRaises member || membersRaise members

def memberRaises : Unicode × Member V → Bool
  | (_, member) => member.raises

def itemsRaise (kept : Unicode → Bool) : Members V → Bool
  | [] => false
  | item :: items => (kept item.1 && memberRaises item) || itemsRaise kept items

end

mutual

/-- What `__getstate__` returns if it does not raise. -/
def Member.getstate : Member V → State
  | .setting type own => own.getstate type
  | .group members => .dict (membersGetstate members)
  | .collection members _ items present _ =>
      .container ((membersGetstate items).filter (fun item => item.1 ∈ present) ++
        membersGetstate members)

def membersGetstate : Members V → StateItems
  | [] => []
  | member :: members => memberGetstate member :: membersGetstate members

def memberGetstate : Unicode × Member V → Unicode × State
  | (name, member) => (name, member.getstate)

end

mutual

/-- `__setstate__` of a new object. -/
def Member.setstate (data : Data) : Member V → Member V
  | .setting type own => .setting type (own.setstate type data)
  | .group members => .group (membersSetstate (childrenOf (some data)) members)
  | .collection members item _ _ _ =>
      let others := (childrenOf (some data)).filter fun item => item.1 ∉ members.map Prod.fst
      .collection (membersSetstate (childrenOf (some data)) members) item
        (others.map fun other => (other.1, item.setstate other.2)) (others.map Prod.fst)
        (others.map Prod.fst)

def membersSetstate (items : Items) : Members V → Members V
  | [] => []
  | member :: members => memberSetstate items member :: membersSetstate items members

def memberSetstate (items : Items) : Unicode × Member V → Unicode × Member V
  | (name, member) =>
      match lookup name items with
      | some data => (name, member.setstate data)
      | none => (name, member)

end

/-! ### `get_modified` -/

mutual

/-- `get_modified` gives something. -/
def Member.isModified : Member V → Bool
  | .setting _ own => own.dirty
  | .group members => membersModified members
  | .collection members _ items present old =>
      membersModified members || present.any (· ∉ old) || old.any (· ∉ present) ||
        (itemsModified (fun id => id ∈ present && id ∈ old) items)

def membersModified : Members V → Bool
  | [] => false
  | member :: members => memberModified member || membersModified members

def memberModified : Unicode × Member V → Bool
  | (_, member) => member.isModified

def itemsModified (kept : Unicode → Bool) : Members V → Bool
  | [] => false
  | item :: items => (kept item.1 && memberModified item) || itemsModified kept items

end

mutual

/-- Something else than runtime settings is modified. -/
def Member.storesModified : Member V → Bool
  | .setting type own => own.dirty && !type.runtime
  | .group members => membersStoresModified members
  | .collection members _ items present old =>
      membersStoresModified members || present.any (· ∉ old) || old.any (· ∉ present) ||
        (itemsModified (fun id => id ∈ present && id ∈ old) items)

def membersStoresModified : Members V → Bool
  | [] => false
  | member :: members => memberStoresModified member || membersStoresModified members

def memberStoresModified : Unicode × Member V → Bool
  | (_, member) => member.storesModified

end

mutual

/-- What `get_modified` leaves. -/
def Member.sync : Member V → Member V
  | .setting type own => .setting type own.sync
  | .group members => .group (membersSync members)
  | .collection members item items present _ =>
      .collection (membersSync members) item
        ((membersSync items).filter fun item => item.1 ∈ present) present present

def membersSync : Members V → Members V
  | [] => []
  | member :: members => memberSync member :: membersSync members

def memberSync : Unicode × Member V → Unicode × Member V
  | (name, member) => (name, member.sync)

end

/-! ### What a program does with an object -/

inductive Edit (V : Type)
  | reset
  | set (value : Option (Value V))
  | undo
  | addItem (id : Unicode) (state : Data)
  | removeItem (id : Unicode)

/-- The member or item of a name is changed. -/
def modifyMember (name : Unicode) (f : Member V → Member V) (members : Members V) : Members V :=
  members.map fun member => if member.1 = name then (member.1, f member.2) else member

/-- An item with the ID is in the collection or was at the last save, else a new one is made of the
state. -/
def addItem (id : Unicode) (new : Member V) (items : Members V) (old : List Unicode) : Members V :=
  if id ∈ old then items else (id, new) :: items.filter fun item => item.1 ≠ id

def Member.edit : Member V → Edit V → Member V
  | .setting type own, .reset => .setting type own.reset
  | .setting type own, .set value => .setting type (own.set type value)
  | .setting type own, .undo => .setting type own.undo
  | .collection members item items present old, .addItem id state =>
      if id ∈ members.map Prod.fst ∨ id ∈ present then .collection members item items present old
      else .collection members item (addItem id (item.setstate state) items old) (id :: present) old
  | .collection members item items present old, .removeItem id =>
      .collection members item items (present.filter (· ≠ id)) old
  | member, _ => member

/-- The edit of the setting or the collection at a path. -/
def Member.editAt (edit : Edit V) : List Unicode → Member V → Member V
  | [], member => member.edit edit
  | name :: path, .group members => .group (modifyMember name (Member.editAt edit path) members)
  | name :: path, .collection members item items present old =>
      if name ∈ members.map Prod.fst then
        .collection (modifyMember name (Member.editAt edit path) members) item items present old
      else
        .collection members item (modifyMember name (Member.editAt edit path) items) present old
  | _ :: _, .setting type own => .setting type own

end SipSimple.Configuration
