import SipSimple.Configuration.SaveReload
import SipSimple.Library.Runs

/-!
# Saving a settings object

A settings object has its settings, an ID and the ID of its last save. It is stored under its ID, in the
group of its class if there is one. The ID is a `PersistentKey` unless the class has a fixed ID.
-/

namespace SipSimple.Configuration

open SortedDict (lookup)

/-- `__state__`; an object that was loaded is active at once. -/
inductive ObjectState
  | new
  | active
  | deleted
  deriving DecidableEq

/-- What the class of an object says; `settings` are those of a new object. -/
structure SettingsClass (V : Type) where
  group : Option Unicode
  persistent : Bool
  settings : Members V

structure SettingsObject (V : Type) where
  id : Unicode
  oldId : Unicode
  idDirty : Bool
  state : ObjectState
  settings : Member V

variable {V : Type}

namespace SettingsClass

/-- The path of the dictionary that the objects are in. -/
def path (cls : SettingsClass V) : List Key := cls.group.toList.map (⟨·, false⟩)

/-- `__key__` and `__oldkey__` -/
def key (cls : SettingsClass V) (id : Unicode) : List Key := cls.path ++ [⟨id, cls.persistent⟩]

/-- The stored data under an ID. -/
def entry (cls : SettingsClass V) (store : Items) (id : Unicode) : Option Data :=
  getAt (some (.dict store)) ((cls.key id).map Key.name)

/-- `__new__` -/
def construct (cls : SettingsClass V) (store : Items) (id : Unicode) : SettingsObject V where
  id := id
  oldId := id
  idDirty := false
  state := if (cls.entry store id).isSome then .active else .new
  settings := (Member.group cls.settings).load (cls.entry store id)

end SettingsClass

/-- The items of the dictionary that `__getstate__` gives. -/
def State.items : State → StateItems
  | .dict items | .container items => items
  | _ => []

namespace SettingsObject

/-- `update` of the configuration; none if it raises, or if `__getstate__` does. The store is as it was
then. -/
def updateStore (cls : SettingsClass V) (store : Items) (object : SettingsObject V) : Option Items :=
  if object.settings.raises then none
  else update store (cls.key object.id) object.settings.getstate.items

/-- `save`. `get_modified` has taken back the flags before anything is stored. -/
def save (cls : SettingsClass V) (store : Items) (object : SettingsObject V) :
    Items × SettingsObject V :=
  if object.state = .deleted then (store, object)
  else
    let synced :=
      { object with oldId := object.id, idDirty := false, settings := object.settings.sync }
    if !object.idDirty && !object.settings.isModified && object.state ≠ .new then (store, synced)
    else if object.state = .new then
      match object.updateStore cls store with
      | some stored => (stored, { synced with state := .active })
      | none => (store, synced)
    else if !object.idDirty && !object.settings.storesModified then (store, synced)
    else
      let renamed :=
        if object.idDirty then rename store (cls.key object.oldId) (cls.key object.id) else some store
      match renamed with
      | some renamed =>
          if object.settings.isModified then ((object.updateStore cls renamed).getD renamed, synced)
          else (renamed, synced)
      | none => (store, synced)

/-- What a program does with an object whose ID stays. -/
inductive Input (V : Type)
  | edit (path : List Unicode) (change : Edit V)
  | save

def step [DecidableEq V] (cls : SettingsClass V) (state : Items × SettingsObject V) :
    Input V → Items × SettingsObject V
  | .edit path change =>
      (state.1, { state.2 with settings := Member.editAt change path state.2.settings })
  | .save => state.2.save cls state.1

def Input.Ordered : Input V → Prop
  | .edit _ change => change.Ordered
  | .save => True

end SettingsObject

/-! ### The entry of an object -/

theorem childrenOf_getAt_itemsAt (data : Items) (path : List Key) :
    childrenOf (getAt (some (.dict data)) (path.map Key.name)) = itemsAt data path := by
  induction path generalizing data with
  | nil => rfl
  | cons key path ih =>
      have hchildren : childrenOf (lookup key.name data) =
          childrenOf (some (.dict (subtree key.name data))) := rfl
      rw [List.map_cons, getAt_cons, itemsAt, ← ih]
      cases path with
      | nil => rw [List.map_nil, getAt_nil, getAt_nil]; exact hchildren
      | cons next path => exact congrArg childrenOf (getAt_congr hchildren (List.cons_ne_nil _ _))

theorem itemsAt_updated (data : Items) (state : StateItems) (path : List Key) :
    itemsAt (updated data state path) path = updateDict (itemsAt data path) state := by
  induction path generalizing data with
  | nil => rfl
  | cons key path ih =>
      have hchildren : subtree key.name (putSubtree key
          (updated (subtree key.name data) state path) data) =
            updated (subtree key.name data) state path := childrenOf_putSubtree key _ data
      rw [itemsAt, updated, hchildren, ih, itemsAt]

/-- After an update, the stored dictionary is the merged one, or there is none if that is empty. -/
theorem childrenOf_updated (data : Items) (state : StateItems) (path : List Key) :
    childrenOf (getAt (some (.dict (updated data state path))) (path.map Key.name)) =
      childrenOf (mergeAt (getAt (some (.dict data)) (path.map Key.name)) (.dict state)) := by
  rw [childrenOf_getAt_itemsAt, itemsAt_updated, mergeAt, childrenOf_bundle,
    childrenOf_getAt_itemsAt]

theorem load_congr {members : Members V} {left right : Option Data}
    (h : childrenOf left = childrenOf right) :
    (Member.group members).load left = (Member.group members).load right := by
  rw [load_group, load_group, h]

theorem subtree_putSubtree (key : Key) (items data : Items) :
    subtree key.name (putSubtree key items data) = items := childrenOf_putSubtree key items data

/-- No value is on a path if only dictionaries are. -/
theorem clear_cons {data : Items} {key : Key} {path : List Key} :
    Clear data (key :: path) ↔
      (∀ found, lookup key.name data = some found → ∃ items, found = .dict items) ∧
        Clear (subtree key.name data) path := by
  rw [Clear, subtree]
  cases hlookup : lookup key.name data with
  | none => simp
  | some found => cases found <;> simp

theorem clear_updated {data : Items} {path : List Key} (h : Clear data path) (state : StateItems) :
    Clear (updated data state path) path := by
  induction path generalizing data with
  | nil => trivial
  | cons key path ih =>
      rw [updated, clear_cons, subtree_putSubtree]
      refine ⟨fun found hfound => ?_, ih (clear_cons.mp h).2⟩
      rw [lookup_putSubtree, if_pos rfl, bundle] at hfound
      split_ifs at hfound <;> exact ⟨_, (Option.some.inj hfound).symm⟩

theorem Ordered.congr {left right : Option Data} (h : Ordered left)
    (hchildren : childrenOf left = childrenOf right) : Ordered right := by
  intro path
  cases path with
  | nil =>
      rw [getAt_nil, ← hchildren]
      exact h.children
  | cons key path =>
      rw [← getAt_congr hchildren (List.cons_ne_nil key path)]
      exact h (key :: path)

theorem Ordered.putSubtree {data items : Items} (h : Ordered (some (.dict data)))
    (hitems : Ordered (some (.dict items))) (key : Key) :
    Ordered (some (.dict (putSubtree key items data))) := by
  rw [ordered_iff]
  refine ⟨sorted_putSubtree h.children key _, fun name => ?_⟩
  rw [childrenOf, lookup_putSubtree]
  split_ifs with hname hpersistent
  · exact hitems
  · exact hitems.congr (childrenOf_bundle _).symm
  · exact h.lookup name

theorem Ordered.updated {data : Items} (h : Ordered (some (.dict data))) {state : StateItems}
    (hdistinct : (State.dict state).Distinct) (path : List Key) :
    Ordered (some (.dict (updated data state path))) := by
  induction path generalizing data with
  | nil => exact (h.mergeAt hdistinct).congr (childrenOf_bundle _)
  | cons key path ih => exact h.putSubtree (ih ((h.lookup key.name).congr rfl)) key

/-! ### What is read of an entry -/

/-- An object that is constructed from the entry has the values of the other, and no item that the other
does not have. -/
structure Reads (cls : SettingsClass V) (data : Option Data) (moment : Moment) (settings : Member V) :
    Prop where
  values : ∀ path, ((Member.group cls.settings).load data).valueAt .now path =
    settings.valueAt moment path
  items : ∀ id path, ((Member.group cls.settings).load data).hasItem .now id path →
    settings.hasItem moment id path

namespace Reads

variable {cls : SettingsClass V} {data : Option Data} {settings : Member V}

theorem congr {data' : Option Data} {moment : Moment} (h : Reads cls data moment settings)
    (hchildren : childrenOf data = childrenOf data') : Reads cls data' moment settings := by
  have hload : (Member.group cls.settings).load data = (Member.group cls.settings).load data' :=
    load_congr hchildren
  exact ⟨hload ▸ h.values, hload ▸ h.items⟩

theorem construct (hcls : Instance (.group cls.settings) (.group cls.settings))
    (data : Option Data) : Reads cls data .saved ((Member.group cls.settings).load data) :=
  ⟨fun path => (valueAt_load_saved hcls data path).symm,
    fun id path h => (hasItem_load_saved hcls data id path).mpr h⟩

theorem editAt [DecidableEq V] (h : Reads cls data .saved settings) (change : Edit V)
    (place : List Unicode) : Reads cls data .saved (Member.editAt change place settings) :=
  ⟨fun path => (h.values path).trans (valueAt_editAt change place settings path).symm,
    fun id path hid => (hasItem_editAt id change place settings path).mpr (h.items id path hid)⟩

theorem sync {first : Member V} (hsettings : Instance first settings)
    (h : Reads cls data .now settings) (moment : Moment) : Reads cls data moment settings.sync :=
  ⟨fun path => (h.values path).trans (valueAt_sync hsettings moment path).symm,
    fun id path hid => (hasItem_sync hsettings moment id path).mpr (h.items id path hid)⟩

theorem of_not_modified {first : Member V} (hsettings : Instance first settings)
    (h : Reads cls data .saved settings)
    (hmodified : settings.isModified = false ∨ settings.storesModified = false) :
    Reads cls data .now settings :=
  ⟨fun path => (h.values path).trans (valueAt_of_not_modified hsettings hmodified path),
    fun id path hid =>
      (hasItem_of_not_modified hsettings hmodified id path).mp (h.items id path hid)⟩

theorem merged (hsettings : Instance (.group cls.settings) settings) (old : Option Data) :
    Reads cls (mergeAt old settings.getstate) .now settings :=
  ⟨valueAt_load_getstate hsettings old,
    fun id path hid => ((hasItem_load_getstate hsettings old id path).mp hid).1⟩

end Reads

/-! ### The object and its entry -/

namespace SettingsClass

theorem key_ne_nil (cls : SettingsClass V) (id : Unicode) : cls.key id ≠ [] :=
  List.append_ne_nil_of_right_ne_nil _ (List.cons_ne_nil _ _)

end SettingsClass

theorem State.dict_items {cls : SettingsClass V} {settings : Member V}
    (h : Instance (.group cls.settings) settings) : .dict settings.getstate.items = settings.getstate := by
  cases h with
  | group _ _ _ => rw [Member.getstate, State.items]

namespace SettingsObject

/-- The values of an object of the class are written. -/
theorem updateStore_eq {cls : SettingsClass V} {first : Member V} (object : SettingsObject V)
    (h : Instance first object.settings) (store : Items) :
    object.updateStore cls store = update store (cls.key object.id) object.settings.getstate.items := by
  rw [updateStore, h.raises, if_neg Bool.false_ne_true]

/-- An object of which everything that was saved is read from its entry. -/
structure Kept (cls : SettingsClass V) (id : Unicode) (state : Items × SettingsObject V) : Prop where
  isInstance : Instance (.group cls.settings) state.2.settings
  id_eq : state.2.id = id
  clean : state.2.idDirty = false
  alive : state.2.state ≠ .deleted
  clear : Clear state.1 (cls.key id)
  ordered : Ordered (some (.dict state.1))
  reads : state.2.state = .active → Reads cls (cls.entry state.1 id) .saved state.2.settings

variable {cls : SettingsClass V} {id : Unicode} {state : Items × SettingsObject V}

theorem kept_construct (hcls : Instance (.group cls.settings) (.group cls.settings)) {store : Items}
    (hclear : Clear store (cls.key id)) (hordered : Ordered (some (.dict store))) :
    Kept cls id (store, cls.construct store id) where
  isInstance := hcls.load fun path => by
    rw [SettingsClass.entry, ← getAt_append]
    exact hordered _
  id_eq := rfl
  clean := rfl
  alive := by
    rw [SettingsClass.construct]
    split_ifs <;> exact fun h => nomatch h
  clear := hclear
  ordered := hordered
  reads _ := Reads.construct hcls _

theorem Kept.editAt [DecidableEq V] (h : Kept cls id state) {change : Edit V}
    (hchange : change.Ordered) (place : List Unicode) :
    Kept cls id (state.1, { state.2 with settings := Member.editAt change place state.2.settings }) :=
  { h with
    isInstance := h.isInstance.editAt hchange place
    reads := fun hactive => (h.reads hactive).editAt change place }

/-- After an update under the key of the object, its values are read. -/
theorem Kept.updated (h : Kept cls id state) : ∃ store,
    state.2.updateStore cls state.1 = some store ∧
      Clear store (cls.key id) ∧ Ordered (some (.dict store)) ∧
        Reads cls (cls.entry store id) .now state.2.settings := by
  have hdict := State.dict_items h.isInstance
  have hdistinct : (State.dict state.2.settings.getstate.items).Distinct :=
    hdict ▸ h.isInstance.distinct_getstate
  refine ⟨_, ?_, clear_updated h.clear _, h.ordered.updated hdistinct _, ?_⟩
  · rw [state.2.updateStore_eq h.isInstance, h.id_eq]
    exact update_eq _ (cls.key_ne_nil id) h.clear
  refine (Reads.merged h.isInstance (cls.entry state.1 id)).congr ?_
  rw [← hdict]
  exact (childrenOf_updated state.1 _ (cls.key id)).symm

/-- **A save leaves the object in its entry.** -/
theorem Kept.save (h : Kept cls id state) : Kept cls id (state.2.save cls state.1) ∧
    Reads cls (cls.entry (state.2.save cls state.1).1 id) .now
      (state.2.save cls state.1).2.settings := by
  obtain ⟨store, hupdate, hclear, hordered, hreads⟩ := h.updated
  -- what is left if nothing has to be written, and what if the settings are
  have hunchanged : state.2.state = .active →
      state.2.settings.isModified = false ∨ state.2.settings.storesModified = false →
        ∀ moment, Reads cls (cls.entry state.1 id) moment state.2.settings.sync :=
    fun hactive hmodified =>
      ((h.reads hactive).of_not_modified h.isInstance hmodified).sync h.isInstance
  have hwritten : ∀ moment, Reads cls (cls.entry store id) moment state.2.settings.sync :=
    hreads.sync h.isInstance
  have hinstance := h.isInstance.sync
  rw [SettingsObject.save, if_neg h.alive, h.id_eq]
  simp only [h.clean, hupdate, Option.getD_some, Bool.not_false, Bool.true_and, Bool.false_eq_true,
    if_false]
  cases hstate : state.2.state with
  | deleted => exact absurd hstate h.alive
  | new =>
      rw [if_neg (by simp), if_pos rfl]
      exact ⟨⟨hinstance, rfl, rfl, fun h => (nomatch h), hclear, hordered,
        fun _ => hwritten .saved⟩, hwritten .now⟩
  | active =>
      cases hmodified : state.2.settings.isModified with
      | false =>
          rw [if_pos (by simp)]
          have hread := hunchanged hstate (Or.inl hmodified)
          exact ⟨⟨hinstance, rfl, rfl, fun h => (nomatch h), h.clear, h.ordered,
            fun _ => hread .saved⟩, hread .now⟩
      | true =>
          rw [if_neg (by simp), if_neg (by simp)]
          cases hstores : state.2.settings.storesModified with
          | false =>
              rw [if_pos (by simp)]
              have hread := hunchanged hstate (Or.inr hstores)
              exact ⟨⟨hinstance, rfl, rfl, fun h => (nomatch h), h.clear,
                h.ordered, fun _ => hread .saved⟩, hread .now⟩
          | true =>
              rw [if_neg (by simp)]
              exact ⟨⟨hinstance, rfl, rfl, fun h => (nomatch h), hclear,
                hordered, fun _ => hwritten .saved⟩, hwritten .now⟩

theorem Kept.step [DecidableEq V] (h : Kept cls id state) {input : Input V} (hinput : input.Ordered) :
    Kept cls id (SettingsObject.step cls state input) := by
  cases input with
  | edit path change => exact h.editAt hinput path
  | save => exact h.save.1

theorem Kept.run [DecidableEq V] (h : Kept cls id state) {inputs : List (Input V)}
    (hinputs : ∀ input ∈ inputs, input.Ordered) : Kept cls id (Runs.run (SettingsObject.step cls) state inputs) := by
  induction inputs generalizing state with
  | nil => exact h
  | cons input inputs ih =>
      obtain ⟨hinput, hinputs⟩ := List.forall_mem_cons.mp hinputs
      exact ih (h.step hinput) hinputs

/-- A setting, and items that have one setting. -/
def contactsClass : SettingsClass Unit where
  group := some ['C']
  persistent := true
  settings := [(['s'], .setting ⟨.bool, some (.bool true), false, false, nofun⟩ .new),
    (['i'], .collection []
      (.group [(['d'], .setting ⟨.bool, some (.bool true), false, false, nofun⟩ .new)]) [] [] [])]

theorem instance_contactsClass :
    Instance (.group contactsClass.settings) (.group contactsClass.settings) := by
  have hsetting : ∀ type : SettingType Unit, Instance (.setting type .new) (.setting type .new) :=
    fun type => .setting (Setting.valid_new type)
  refine instance_group_self (by decide) (List.forall_mem_cons.mpr ⟨hsetting _, ?_⟩)
  refine List.forall_mem_singleton.mpr (instance_collection_self (by decide) nofun ?_)
  exact instance_group_self (by decide) (List.forall_mem_singleton.mpr (hsetting _))

end SettingsObject

end SipSimple.Configuration
