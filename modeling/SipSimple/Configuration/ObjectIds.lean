import SipSimple.Configuration.SettingsObject

/-!
# The IDs of the objects of a class

The objects of a class with a `SettingsObjectID` are in memory together. An ID is not given to an object if
another one has it now or had it at its last save. An object is collected when it is not stored.
-/

namespace SipSimple.Configuration

open SortedDict (lookup Dict)

variable {V : Type}

structure World (V : Type) where
  store : Items
  objects : Dict Nat (SettingsObject V)

/-- What a program does with the objects; an object has a number. -/
inductive Operation (V : Type)
  | create (n : Nat) (id : Unicode)
  | setId (n : Nat) (id : Unicode)
  | undoId (n : Nat)
  | edit (n : Nat) (path : List Unicode) (change : Edit V)
  | save (n : Nat)
  | delete (n : Nat)
  | collect (n : Nat)

namespace SettingsObject

/-- The ID is among the current and the old one. -/
def Has (object : SettingsObject V) (id : Unicode) : Prop := object.id = id ∨ object.oldId = id

instance (object : SettingsObject V) (id : Unicode) : Decidable (object.Has id) :=
  inferInstanceAs (Decidable (_ ∨ _))

/-- `SettingsObjectID.undo` -/
def undoId (object : SettingsObject V) : SettingsObject V :=
  { object with id := object.oldId, idDirty := false }

/-- `delete` -/
def delete (cls : SettingsClass V) (store : Items) (object : SettingsObject V) :
    Items × SettingsObject V :=
  if object.state = .deleted then (store, object)
  else (Configuration.delete store (cls.key object.oldId), { object with state := .deleted })

end SettingsObject

namespace World

/-- Some object has the ID. -/
def Used (world : World V) (id : Unicode) : Prop :=
  ∃ entry ∈ world.objects.items, entry.2.Has id

instance (world : World V) (id : Unicode) : Decidable (world.Used id) :=
  inferInstanceAs (Decidable (∃ entry ∈ _, _))

/-- `SettingsObjectID.__set__` of an object that has an ID. -/
def setId (world : World V) (object : SettingsObject V) (id : Unicode) : SettingsObject V :=
  if object.id = id then object
  else if object.oldId = id then { object with id := object.oldId, idDirty := false }
  else if world.Used id then object
  else { object with id := id, idDirty := true }

/-- The object is replaced. -/
def put (world : World V) (n : Nat) (object : SettingsObject V) : World V :=
  { world with objects := world.objects.set n object }

/-- What is done with the object, if it is there. -/
def on (world : World V) (n : Nat) (f : SettingsObject V → World V) : World V :=
  match world.objects.get n with
  | some object => f object
  | none => world

def step [DecidableEq V] (cls : SettingsClass V) (world : World V) : Operation V → World V
  | .create n id =>
      if (world.objects.get n).isSome ∨ id = [] ∨ world.Used id then world
      else world.put n (cls.construct world.store id)
  | .setId n id => world.on n fun object => world.put n (world.setId object id)
  | .undoId n => world.on n fun object => world.put n object.undoId
  | .edit n path change => world.on n fun object =>
      world.put n { object with settings := Member.editAt change path object.settings }
  | .save n => world.on n fun object =>
      let saved := object.save cls world.store
      ⟨saved.1, world.objects.set n saved.2⟩
  | .delete n => world.on n fun object =>
      let deleted := object.delete cls world.store
      ⟨deleted.1, world.objects.set n deleted.2⟩
  | .collect n => world.on n fun object =>
      if object.state = .active then world else { world with objects := world.objects.erase n }

end World

def Operation.Ordered : Operation V → Prop
  | .edit _ _ change => change.Ordered
  | _ => True

/-! ### The entries of a class -/

theorem insert_ne_nil (key : Unicode) (data : Data) (items : Items) :
    SortedDict.insert key data items ≠ [] := by
  intro hnil
  have hlookup := SortedDict.lookup_insert_self key data items
  rw [hnil] at hlookup
  cases hlookup

theorem Ordered.erase {items : Items} (h : Ordered (some (.dict items))) (id : Unicode) :
    Ordered (some (.dict (SortedDict.erase id items))) := by
  refine ordered_iff.mpr ⟨h.children.filter _, fun name => ?_⟩
  rw [childrenOf, SortedDict.lookup_erase]
  split_ifs
  · exact ordered_none
  · exact h.lookup name

theorem Ordered.insert {items : Items} (h : Ordered (some (.dict items))) (id : Unicode) {data : Data}
    (hdata : Ordered (some data)) : Ordered (some (.dict (SortedDict.insert id data items))) := by
  refine ordered_iff.mpr ⟨SortedDict.sorted_insert h.children id data, fun name => ?_⟩
  rw [childrenOf, SortedDict.lookup_insert]
  split_ifs
  · exact hdata
  · exact h.lookup name

namespace SettingsClass

variable (cls : SettingsClass V)

/-- The dictionary of the objects of the class. -/
def entries (store : Items) : Items := itemsAt store cls.path

/-- The store with another dictionary of the objects. -/
def withEntries (store entries : Items) : Items :=
  match cls.group with
  | none => entries
  | some group => putSubtree ⟨group, false⟩ entries store

theorem entry_eq (store : Items) (id : Unicode) :
    cls.entry store id = lookup id (cls.entries store) := by
  rw [entry, key, List.map_append, entries, List.map_singleton,
    getAt_itemsAt store cls.path (List.cons_ne_nil _ _), getAt_cons, getAt_nil, childrenOf]

theorem entries_withEntries (store entries : Items) :
    cls.entries (cls.withEntries store entries) = entries := by
  rw [SettingsClass.entries, path, withEntries]
  cases cls.group with
  | none => rfl
  | some group => exact subtree_putSubtree ⟨group, false⟩ entries store

theorem updated_key (store : Items) (id : Unicode) (state : StateItems) :
    updated store state (cls.key id) = cls.withEntries store (putSubtree ⟨id, cls.persistent⟩
      (updateDict (subtree id (cls.entries store)) state) (cls.entries store)) := by
  rw [key, entries, path, withEntries]
  cases cls.group <;> rfl

theorem pop_key (store : Items) (id : Unicode) :
    pop store (cls.key id) = (cls.entry store id).map fun data =>
      (data, cls.withEntries store (SortedDict.erase id (cls.entries store))) := by
  rw [entry_eq, key, entries, path, withEntries]
  cases cls.group with
  | none => rfl
  | some group =>
      simp only [Option.toList_some, List.map_singleton, List.singleton_append, pop, itemsAt, subtree]
      cases lookup group store with
      | none => rfl
      | some found =>
          cases found with
          | dict items => simp [Function.comp_def]
          | none | unicode _ | list _ => rfl

theorem insertAt_key {store : Items} (hclear : Clear store cls.path) {id : Unicode}
    (h : cls.entry store id = none) {items : Items} (hsorted : SortedDict.Sorted items) :
    insertAt store (cls.key id) (.dict items) =
      some (cls.withEntries store (SortedDict.insert id (.dict items) (cls.entries store))) := by
  have hcopy : SortedDict.insertAll items [] = items :=
    SortedDict.insertAll_of_perm hsorted (List.Perm.refl items)
  rw [entry_eq, entries, path] at h
  rw [path] at hclear
  rw [key, entries, path, withEntries]
  cases hgroup : cls.group with
  | none =>
      rw [hgroup] at h
      have hlookup : lookup id store = none := h
      simp [insertAt, itemsAt, hlookup, hcopy]
  | some group =>
      rw [hgroup] at h hclear
      have hlookup : lookup id (subtree group store) = none := h
      have hput : ∀ data, putSubtree ⟨group, false⟩ (SortedDict.insert id data
          (subtree group store)) store = SortedDict.insert group
            (.dict (SortedDict.insert id data (subtree group store))) store := by
        intro data
        have hne := insert_ne_nil id data (subtree group store)
        simp [putSubtree, hne]
      have hdict := (clear_cons.mp hclear).1
      simp only [Option.toList_some, List.map_singleton, List.singleton_append, insertAt, itemsAt,
        hput]
      rw [subtree] at hlookup ⊢
      cases hfound : lookup group store with
      | none => simp [lookup, hcopy]
      | some found =>
          obtain ⟨old, rfl⟩ := hdict found hfound
          rw [hfound] at hlookup
          simp [hlookup, hcopy]

/-- Only dictionaries are on the paths of the objects. -/
structure Sound (store : Items) : Prop where
  clear : Clear store cls.path
  ordered : Ordered (some (.dict store))
  dict : ∀ {id data}, cls.entry store id = some data → ∃ items, data = .dict items

/-- The store is sound and has the entries. -/
structure Holds (store : Items) (entries : Unicode → Option Data) : Prop where
  sound : cls.Sound store
  entry_eq : ∀ id, cls.entry store id = entries id

variable {cls} {store : Items}

theorem Sound.holds (h : cls.Sound store) : cls.Holds store (cls.entry store) := ⟨h, fun _ => rfl⟩

theorem Sound.ordered_entries (h : cls.Sound store) : Ordered (some (.dict (cls.entries store))) := by
  have hordered := h.ordered
  rw [entries, path]
  cases cls.group with
  | none => exact hordered
  | some group => exact (hordered.lookup group).congr rfl

theorem Sound.withEntries (h : cls.Sound store) {entries : Items}
    (hordered : Ordered (some (.dict entries)))
    (hdict : ∀ id data, lookup id entries = some data → ∃ items, data = .dict items) :
    cls.Holds (cls.withEntries store entries) fun id => lookup id entries := by
  have hentry : ∀ id, cls.entry (cls.withEntries store entries) id = lookup id entries := by
    intro id
    rw [entry_eq, entries_withEntries]
  refine ⟨⟨?_, ?_, fun {id data} hdata => hdict id data (hentry id ▸ hdata)⟩, hentry⟩
  · rw [path, SettingsClass.withEntries]
    cases cls.group with
    | none => trivial
    | some group =>
        refine clear_cons.mpr ⟨fun found hfound => ?_, trivial⟩
        rw [lookup_putSubtree, if_pos rfl, bundle] at hfound
        split_ifs at hfound <;> exact ⟨_, (Option.some.inj hfound).symm⟩
  · have hstore := h.ordered
    rw [SettingsClass.withEntries]
    cases cls.group with
    | none => exact hordered
    | some group => exact hstore.putSubtree hordered _

theorem Sound.clear_key (h : cls.Sound store) (id : Unicode) : Clear store (cls.key id) := by
  have hdict : ∀ found, lookup id (cls.entries store) = some found → ∃ items, found = .dict items :=
    fun found hfound => h.dict ((cls.entry_eq store id).trans hfound)
  have hclear := h.clear
  rw [entries, path] at hdict
  rw [path] at hclear
  rw [key, path]
  cases hgroup : cls.group with
  | none =>
      rw [hgroup] at hdict
      exact clear_cons.mpr ⟨hdict, trivial⟩
  | some group =>
      rw [hgroup] at hdict hclear
      exact clear_cons.mpr ⟨(clear_cons.mp hclear).1, clear_cons.mpr ⟨hdict, trivial⟩⟩

/-- `update` of an entry of a class whose IDs are persistent. -/
theorem Sound.update (h : cls.Sound store) (hpersistent : cls.persistent = true) (id : Unicode)
    {state : StateItems} (hdistinct : (State.dict state).Distinct) : ∃ store',
      update store (cls.key id) state = some store' ∧ cls.Holds store' fun other =>
        if other = id then some (.dict (updateDict (childrenOf (cls.entry store id)) state))
        else cls.entry store other := by
  have hclear := h.clear_key id
  have hlookup : ∀ other, lookup other (putSubtree ⟨id, cls.persistent⟩
      (updateDict (subtree id (cls.entries store)) state) (cls.entries store)) =
        if other = id then some (.dict (updateDict (childrenOf (cls.entry store id)) state))
        else cls.entry store other := by
    intro other
    rw [lookup_putSubtree, if_pos hpersistent, subtree_eq, ← entry_eq, ← entry_eq]
  have hordered := h.ordered_entries
  refine ⟨_, update_eq state (cls.key_ne_nil id) hclear, ?_⟩
  rw [updated_key, ← funext hlookup]
  refine h.withEntries (hordered.putSubtree ?_ _) fun other data hdata => ?_
  · exact Ordered.updated ((hordered.lookup id).congr rfl) hdistinct []
  · rw [hlookup] at hdata
    split_ifs at hdata
    · exact ⟨_, (Option.some.inj hdata).symm⟩
    · exact h.dict hdata

theorem Sound.erase (h : cls.Sound store) (id : Unicode) :
    cls.Holds (cls.withEntries store (SortedDict.erase id (cls.entries store))) fun other =>
      if other = id then none else cls.entry store other := by
  have hlookup : ∀ other, lookup other (SortedDict.erase id (cls.entries store)) =
      if other = id then none else cls.entry store other := by
    intro other
    rw [SortedDict.lookup_erase, ← entry_eq]
    by_cases hother : other = id <;> simp [hother]
  rw [← funext hlookup]
  refine h.withEntries (h.ordered_entries.erase id) fun other data hdata => ?_
  rw [hlookup] at hdata
  split_ifs at hdata
  exact h.dict hdata

/-- `delete` of an entry. -/
theorem Sound.delete (h : cls.Sound store) (id : Unicode) :
    cls.Holds (delete store (cls.key id)) fun other =>
      if other = id then none else cls.entry store other := by
  rw [Configuration.delete, pop_key]
  cases hentry : cls.entry store id with
  | none =>
      refine ⟨h, fun other => ?_⟩
      by_cases hother : other = id <;> simp [hother, hentry]
  | some data => exact h.erase id

/-- `rename` to an ID that has no entry. -/
theorem Sound.rename (h : cls.Sound store) {old new : Unicode} {data : Data}
    (hold : cls.entry store old = some data) (hnew : cls.entry store new = none) : ∃ store',
      rename store (cls.key old) (cls.key new) = some store' ∧ cls.Holds store' fun other =>
        if other = new then some data else if other = old then none else cls.entry store other := by
  obtain ⟨items, rfl⟩ := h.dict hold
  have hmoved : Ordered (some (.dict items)) := by
    rw [← hold, entry_eq]
    exact h.ordered_entries.lookup old
  obtain ⟨hpopped, hentry⟩ := h.erase old
  have hfree : cls.entry (cls.withEntries store (SortedDict.erase old (cls.entries store))) new =
      none := by
    rw [hentry]
    split_ifs
    · rfl
    · exact hnew
  have hsorted : SortedDict.Sorted items := hmoved.children
  have hinsert := insertAt_key cls hpopped.clear hfree hsorted
  have hrename : Configuration.rename store (cls.key old) (cls.key new) =
      insertAt (cls.withEntries store (SortedDict.erase old (cls.entries store))) (cls.key new)
        (.dict items) := by
    rw [Configuration.rename, pop_key, hold]
    rfl
  have hlookup : ∀ other, lookup other (SortedDict.insert new (.dict items) (cls.entries
      (cls.withEntries store (SortedDict.erase old (cls.entries store))))) =
        if other = new then some (.dict items)
        else if other = old then none else cls.entry store other := by
    intro other
    rw [SortedDict.lookup_insert, ← entry_eq, hentry]
    by_cases hother : other = new <;> simp [hother]
  refine ⟨_, hrename.trans hinsert, ?_⟩
  rw [← funext hlookup]
  refine hpopped.withEntries (hpopped.ordered_entries.insert new hmoved) fun other data hdata => ?_
  rw [hlookup] at hdata
  split_ifs at hdata
  · exact ⟨items, (Option.some.inj hdata).symm⟩
  · exact h.dict hdata

end SettingsClass

/-! ### One object and the entries -/

namespace SettingsObject

/-- An object of the class, and what is stored of it is read from its entry. -/
structure Stored (cls : SettingsClass V) (store : Items) (object : SettingsObject V) : Prop where
  isInstance : Instance (.group cls.settings) object.settings
  dirty : object.idDirty = false ↔ object.id = object.oldId
  entry : object.state = .active → (cls.entry store object.oldId).isSome = true
  reads : object.state = .active → Reads cls (cls.entry store object.oldId) .saved object.settings

variable {cls : SettingsClass V} {store : Items} {object : SettingsObject V}

/-- What a save leaves of the entries. -/
structure Saved (cls : SettingsClass V) (store : Items) (object : SettingsObject V)
    (saved : Items × SettingsObject V) : Prop where
  sound : cls.Sound saved.1
  object_eq : saved.2 = ⟨object.id, object.id, false, .active, object.settings.sync⟩
  entry : (cls.entry saved.1 object.id).isSome = true
  reads : Reads cls (cls.entry saved.1 object.id) .now object.settings
  other : ∀ id, id ≠ object.id →
    cls.entry saved.1 id = if id = object.oldId then none else cls.entry store id
  moved : object.state = .active → object.settings.isModified = false →
    cls.entry saved.1 object.id = cls.entry store object.oldId

/-- The settings are written to a store that has the entry of the object, or none if it is new. -/
theorem Stored.written (h : object.Stored cls store) (hpersistent : cls.persistent = true) {before : Items}
    (hbefore : cls.Sound before)
    (hother : ∀ id, id ≠ object.id →
      cls.entry before id = if id = object.oldId then none else cls.entry store id) :
    ∃ after, object.updateStore cls before = some after ∧
      cls.Sound after ∧ (cls.entry after object.id).isSome = true ∧
        Reads cls (cls.entry after object.id) .now object.settings ∧
          ∀ id, id ≠ object.id →
            cls.entry after id = if id = object.oldId then none else cls.entry store id := by
  have hdict := State.dict_items h.isInstance
  have hdistinct : (State.dict object.settings.getstate.items).Distinct :=
    hdict ▸ h.isInstance.distinct_getstate
  obtain ⟨after, hupdate, hafter, hentry⟩ := hbefore.update hpersistent object.id hdistinct
  refine ⟨after, (object.updateStore_eq h.isInstance before).trans hupdate, hafter,
    by rw [hentry, if_pos rfl]; rfl, ?_, fun id hid => ?_⟩
  · refine (Reads.merged h.isInstance (cls.entry before object.id)).congr ?_
    rw [hentry, if_pos rfl, ← hdict, mergeAt, childrenOf_bundle]
    rfl
  · rw [hentry, if_neg hid, hother id hid]

/-- **One save.** -/
theorem Stored.save (h : object.Stored cls store) (hpersistent : cls.persistent = true)
    (hsound : cls.Sound store) (halive : object.state ≠ .deleted)
    (hnew : object.state = .new → ∀ id, object.Has id → cls.entry store id = none)
    (hfree : object.id ≠ object.oldId → cls.entry store object.id = none) :
    Saved cls store object (object.save cls store) := by
  rw [SettingsObject.save, if_neg halive]
  cases hstate : object.state with
  | deleted => exact absurd hstate halive
  | new =>
      have hnone := hnew hstate
      obtain ⟨after, hupdate, hafter, hentry, hreads, hother⟩ := h.written hpersistent hsound fun id hid => by
        split_ifs with hold
        · exact hnone id (Or.inr hold.symm)
        · rfl
      simp only [ne_eq, not_true_eq_false, decide_false, Bool.and_false, Bool.false_eq_true, if_false,
        if_true, hupdate]
      exact ⟨hafter, rfl, hentry, hreads, hother, fun hactive => by cases hstate.symm.trans hactive⟩
  | active =>
      have hold := h.entry hstate
      have hread := h.reads hstate
      simp only [ne_eq, reduceCtorEq, not_false_eq_true, decide_true, Bool.and_true, if_false]
      cases hdirty : object.idDirty with
      | false =>
          have hsame : object.id = object.oldId := h.dirty.mp hdirty
          have hkept : object.settings.isModified = false ∨ object.settings.storesModified = false →
              Saved cls store object (store, ⟨object.id, object.id, false, .active,
                object.settings.sync⟩) := by
            intro hmodified
            refine ⟨hsound, rfl, hsame ▸ hold, hsame ▸ hread.of_not_modified h.isInstance hmodified,
              fun id hid => ?_, fun _ _ => congrArg _ hsame⟩
            rw [if_neg fun heq => hid (heq.trans hsame.symm)]
          obtain ⟨after, hupdate, hafter, hentry, hreads, hother⟩ := h.written hpersistent hsound fun id hid => by
            rw [if_neg fun heq => hid (heq.trans hsame.symm)]
          cases hmodified : object.settings.isModified with
          | false => simpa using hkept (Or.inl hmodified)
          | true =>
              cases hstores : object.settings.storesModified with
              | false => simpa using hkept (Or.inr hstores)
              | true =>
                  simp only [Bool.not_true, Bool.and_false, Bool.false_eq_true, if_false, if_true,
                    hupdate, Option.getD_some]
                  exact ⟨hafter, rfl, hentry, hreads, hother, fun _ hclean =>
                    by cases hclean.symm.trans hmodified⟩
      | true =>
          have hne : object.id ≠ object.oldId := fun heq =>
            Bool.false_ne_true ((h.dirty.mpr heq).symm.trans hdirty)
          obtain ⟨data, hdata⟩ := Option.isSome_iff_exists.mp hold
          obtain ⟨before, hrename, hbefore⟩ := hsound.rename hdata (hfree hne)
          have hother : ∀ id, id ≠ object.id → cls.entry before id =
              if id = object.oldId then none else cls.entry store id := by
            intro id hid
            rw [hbefore.entry_eq, if_neg hid]
          have hentry : cls.entry before object.id = cls.entry store object.oldId := by
            rw [hbefore.entry_eq, if_pos rfl, hdata]
          obtain ⟨after, hupdate, hafter⟩ := h.written hpersistent hbefore.sound hother
          simp only [Bool.not_true, Bool.false_and, Bool.false_eq_true, if_false, if_true, hrename,
            Option.getD_some, hupdate]
          cases hmodified : object.settings.isModified with
          | true =>
              rw [if_pos rfl]
              exact ⟨hafter.1, rfl, hafter.2.1, hafter.2.2.1, hafter.2.2.2, fun _ hclean =>
                by cases hclean.symm.trans hmodified⟩
          | false =>
              rw [if_neg Bool.false_ne_true]
              exact ⟨hbefore.sound, rfl, hentry ▸ hold,
                hentry ▸ hread.of_not_modified h.isInstance (Or.inl hmodified), hother,
                fun _ _ => hentry⟩

end SettingsObject

/-! ### All objects -/

namespace World

/-- No two objects share an ID, and the entries are those of the objects that are saved. -/
structure Consistent (cls : SettingsClass V) (world : World V) : Prop where
  sound : cls.Sound world.store
  stored : ∀ {n object}, world.objects.get n = some object → object.Stored cls world.store
  apart : ∀ {n m left right}, world.objects.get n = some left → world.objects.get m = some right →
    ∀ id, left.Has id → right.Has id → n = m
  known : ∀ {id}, (cls.entry world.store id).isSome = true → ∃ n object,
    world.objects.get n = some object ∧ object.state = .active ∧ object.oldId = id

variable {cls : SettingsClass V} {world : World V} {n : Nat} {object : SettingsObject V}

theorem construct_active {store : Items} {id : Unicode} :
    (cls.construct store id).state = .active ↔ (cls.entry store id).isSome = true := by
  have hstate : (cls.construct store id).state =
      if (cls.entry store id).isSome = true then ObjectState.active else .new := rfl
  rw [hstate]
  split_ifs with hsome <;> simp [hsome]

theorem used_iff {id : Unicode} :
    world.Used id ↔ ∃ n object, world.objects.get n = some object ∧ object.Has id := by
  constructor
  · rintro ⟨⟨n, object⟩, hmem, hhas⟩
    exact ⟨n, object, Dict.get_eq_some.mpr hmem, hhas⟩
  · rintro ⟨n, object, hget, hhas⟩
    exact ⟨(n, object), Dict.get_eq_some.mp hget, hhas⟩

namespace Consistent

/-- One object is replaced and its entries are written. -/
theorem write (h : world.Consistent cls) {store : Items} (hsound : cls.Sound store)
    (hstored : object.Stored cls store)
    (hapart : ∀ m other, m ≠ n → world.objects.get m = some other →
      ∀ id, object.Has id → ¬other.Has id)
    (hother : ∀ m other, m ≠ n → world.objects.get m = some other →
      cls.entry store other.oldId = cls.entry world.store other.oldId)
    (hknown : ∀ id, (cls.entry store id).isSome = true → object.state = .active ∧ object.oldId = id ∨
      ∃ m other, m ≠ n ∧ world.objects.get m = some other ∧ other.state = .active ∧
        other.oldId = id) :
    Consistent cls ⟨store, world.objects.set n object⟩ where
  sound := hsound
  stored {m other} hget := by
    rw [Dict.get_set] at hget
    split_ifs at hget with hm
    · exact Option.some.inj hget ▸ hstored
    · have hold := h.stored hget
      have hentry := hother m other hm hget
      exact { hold with
        entry := fun hactive => hentry ▸ hold.entry hactive
        reads := fun hactive => hentry ▸ hold.reads hactive }
  apart {m k left right} hleft hright id hhasLeft hhasRight := by
    rw [Dict.get_set] at hleft hright
    split_ifs at hleft hright with hm hk hk
    · exact hm.trans hk.symm
    · exact absurd hhasRight (hapart k right hk hright id (Option.some.inj hleft ▸ hhasLeft))
    · exact absurd hhasLeft (hapart m left hm hleft id (Option.some.inj hright ▸ hhasRight))
    · exact h.apart hleft hright id hhasLeft hhasRight
  known {id} hid := by
    rcases hknown id hid with ⟨hactive, hold⟩ | ⟨m, other, hm, hget, hactive, hold⟩
    · exact ⟨n, object, by rw [Dict.get_set, if_pos rfl], hactive, hold⟩
    · exact ⟨m, other, by rw [Dict.get_set, if_neg hm]; exact hget, hactive, hold⟩

/-- An object is changed in memory. -/
theorem change (h : world.Consistent cls) (hget : world.objects.get n = some object)
    {changed : SettingsObject V} (hstored : changed.Stored cls world.store)
    (hstate : changed.state = object.state) (hold : changed.oldId = object.oldId)
    (hid : ∀ m other, m ≠ n → world.objects.get m = some other → ¬other.Has changed.id) :
    (world.put n changed).Consistent cls := by
  refine h.write h.sound hstored (fun m other hm hother id hhas hhas' => ?_)
    (fun _ _ _ _ => rfl) fun id hid => ?_
  · rcases hhas with rfl | rfl
    · exact hid m other hm hother hhas'
    · exact hm (h.apart hother hget _ hhas' (Or.inr hold.symm))
  · obtain ⟨m, other, hother, hactive, rfl⟩ := h.known hid
    by_cases hm : m = n
    · obtain rfl : other = object := Option.some.inj (hother.symm.trans (hm ▸ hget))
      exact Or.inl ⟨hstate.trans hactive, hold⟩
    · exact Or.inr ⟨m, other, hm, hother, hactive, rfl⟩

theorem not_has_of_ne (h : world.Consistent cls) (hget : world.objects.get n = some object)
    {id : Unicode} (hhas : object.Has id) (m : Nat) (other : SettingsObject V) (hm : m ≠ n)
    (hother : world.objects.get m = some other) : ¬other.Has id := fun hhas' =>
  hm (h.apart hother hget id hhas' hhas)

theorem setId (h : world.Consistent cls) (hget : world.objects.get n = some object)
    (id : Unicode) : (world.put n (world.setId object id)).Consistent cls := by
  have hstored := h.stored hget
  have hkeep : (world.put n object).Consistent cls :=
    h.change hget hstored rfl rfl (h.not_has_of_ne hget (Or.inl rfl))
  rw [World.setId]
  split_ifs with hsame hold hused
  · exact hkeep
  · exact h.change hget { hstored with dirty := ⟨fun _ => rfl, fun _ => rfl⟩ } rfl rfl
      (h.not_has_of_ne hget (Or.inr rfl))
  · exact hkeep
  · refine h.change hget { hstored with dirty := ⟨fun h => (nomatch h), fun heq => ?_⟩ } rfl rfl
      fun m other _ hother hhas => hused (used_iff.mpr ⟨m, other, hother, hhas⟩)
    exact absurd heq.symm hold

theorem undoId (h : world.Consistent cls) (hget : world.objects.get n = some object) :
    (world.put n object.undoId).Consistent cls :=
  h.change hget { h.stored hget with dirty := ⟨fun _ => rfl, fun _ => rfl⟩ } rfl rfl
    (h.not_has_of_ne hget (Or.inr rfl))

theorem edit [DecidableEq V] (h : world.Consistent cls) (hget : world.objects.get n = some object)
    {change : Edit V} (hchange : change.Ordered) (place : List Unicode) :
    (world.put n { object with
      settings := Member.editAt change place object.settings }).Consistent cls := by
  have hstored := h.stored hget
  refine h.change hget ⟨hstored.isInstance.editAt hchange place, hstored.dirty, hstored.entry,
    fun hactive => (hstored.reads hactive).editAt change place⟩ rfl rfl
    (h.not_has_of_ne hget (Or.inl rfl))

theorem create (h : world.Consistent cls)
    (hcls : Instance (.group cls.settings) (.group cls.settings))
    (hnone : world.objects.get n = none) {id : Unicode} (hunused : ¬world.Used id) :
    (world.put n (cls.construct world.store id)).Consistent cls := by
  have hfree : ∀ other, (cls.construct world.store id).Has other → other = id :=
    fun other hhas => hhas.elim Eq.symm Eq.symm
  refine h.write h.sound ⟨hcls.load ?_, ⟨fun _ => rfl, fun _ => rfl⟩, construct_active.mp, fun _ => ?_⟩
    (fun m other _ hother id' hhas hhas' => ?_) (fun _ _ _ _ => rfl) fun id' hid => Or.inr ?_
  · rw [SettingsClass.entry_eq]
    exact h.sound.ordered_entries.lookup id
  · exact Reads.construct hcls _
  · rw [hfree id' hhas] at hhas'
    exact hunused (used_iff.mpr ⟨m, other, hother, hhas'⟩)
  · obtain ⟨m, other, hother, hactive, hold⟩ := h.known hid
    refine ⟨m, other, fun hm => ?_, hother, hactive, hold⟩
    rw [hm, hnone] at hother
    cases hother

/-- An entry under an ID of an object is that of the object. -/
theorem owner (h : world.Consistent cls) (hget : world.objects.get n = some object) {id : Unicode}
    (hhas : object.Has id) (hid : (cls.entry world.store id).isSome = true) :
    object.state = .active ∧ object.oldId = id := by
  obtain ⟨m, other, hother, hactive, hold⟩ := h.known hid
  have hm : m = n := h.apart hother hget id (Or.inr hold) hhas
  obtain rfl : other = object := Option.some.inj (hother.symm.trans (hm ▸ hget))
  exact ⟨hactive, hold⟩

theorem free (h : world.Consistent cls) (hget : world.objects.get n = some object)
    (hne : object.id ≠ object.oldId) : cls.entry world.store object.id = none :=
  Option.not_isSome_iff_eq_none.mp fun hid => hne (h.owner hget (Or.inl rfl) hid).2.symm

/-- **A save of an object.** -/
theorem saved (h : world.Consistent cls) (hpersistent : cls.persistent = true)
    (hget : world.objects.get n = some object) (halive : object.state ≠ .deleted) :
    object.Saved cls world.store (object.save cls world.store) :=
  (h.stored hget).save hpersistent h.sound halive
    (fun hnew _ hhas => Option.not_isSome_iff_eq_none.mp fun hid =>
      nomatch hnew.symm.trans (h.owner hget hhas hid).1)
    (h.free hget)

theorem save (h : world.Consistent cls) (hpersistent : cls.persistent = true)
    (hget : world.objects.get n = some object) :
    Consistent cls ⟨(object.save cls world.store).1,
      world.objects.set n (object.save cls world.store).2⟩ := by
  by_cases halive : object.state = .deleted
  · rw [SettingsObject.save, if_pos halive]
    exact h.change hget (h.stored hget) rfl rfl (h.not_has_of_ne hget (Or.inl rfl))
  · have hsaved := h.saved hpersistent hget halive
    have hstored := h.stored hget
    have hother : ∀ id, ¬object.Has id → cls.entry (object.save cls world.store).1 id =
        cls.entry world.store id := by
      intro id hhas
      obtain ⟨hid, hold⟩ := not_or.mp hhas
      rw [hsaved.other id (Ne.symm hid), if_neg (Ne.symm hold)]
    rw [hsaved.object_eq]
    refine h.write hsaved.sound ⟨hstored.isInstance.sync, ⟨fun _ => rfl, fun _ => rfl⟩,
      fun _ => hsaved.entry, fun _ => hsaved.reads.sync hstored.isInstance .saved⟩
      (fun m other hm hget' id hhas => ?_) (fun m other hm hget' => hother _ fun hhas => ?_)
      fun id hid => ?_
    · exact h.not_has_of_ne hget (Or.inl (hhas.elim (fun h => h) fun h => h)) m other hm hget'
    · exact h.not_has_of_ne hget hhas m other hm hget' (Or.inr rfl)
    · by_cases hnow : id = object.id
      · exact Or.inl ⟨rfl, hnow.symm⟩
      · rw [hsaved.other id hnow] at hid
        by_cases hold : id = object.oldId
        · rw [if_pos hold] at hid
          cases hid
        rw [if_neg hold] at hid
        obtain ⟨m, other, hget', hactive, hold'⟩ := h.known hid
        refine Or.inr ⟨m, other, fun hm => ?_, hget', hactive, hold'⟩
        obtain rfl : other = object := Option.some.inj (hget'.symm.trans (hm ▸ hget))
        exact hold hold'.symm

theorem delete (h : world.Consistent cls) (hget : world.objects.get n = some object) :
    Consistent cls ⟨(object.delete cls world.store).1,
      world.objects.set n (object.delete cls world.store).2⟩ := by
  have hstored := h.stored hget
  rw [SettingsObject.delete]
  split_ifs with hdeleted
  · exact h.change hget hstored rfl rfl (h.not_has_of_ne hget (Or.inl rfl))
  · obtain ⟨hsound, hentry⟩ := h.sound.delete object.oldId
    refine h.write hsound ⟨hstored.isInstance, hstored.dirty, fun h => (nomatch h),
      fun h => (nomatch h)⟩ (fun m other hm hget' id hhas => ?_) (fun m other hm hget' => ?_)
      fun id hid => Or.inr ?_
    · exact h.not_has_of_ne hget hhas m other hm hget'
    · rw [hentry, if_neg fun heq => h.not_has_of_ne hget (Or.inr rfl) m other hm hget' (Or.inr heq)]
    · rw [hentry] at hid
      by_cases hold : id = object.oldId
      · rw [if_pos hold] at hid
        cases hid
      rw [if_neg hold] at hid
      obtain ⟨m, other, hget', hactive, hold'⟩ := h.known hid
      refine ⟨m, other, fun hm => ?_, hget', hactive, hold'⟩
      obtain rfl : other = object := Option.some.inj (hget'.symm.trans (hm ▸ hget))
      exact hold hold'.symm

theorem collect (h : world.Consistent cls) (hget : world.objects.get n = some object)
    (hinactive : object.state ≠ .active) :
    Consistent cls { world with objects := world.objects.erase n } where
  sound := h.sound
  stored {m other} hother := by
    rw [Dict.get_erase] at hother
    split_ifs at hother
    exact h.stored hother
  apart {m k left right} hleft hright := by
    rw [Dict.get_erase] at hleft hright
    split_ifs at hleft hright
    exact h.apart hleft hright
  known {id} hid := by
    obtain ⟨m, other, hother, hactive, hold⟩ := h.known hid
    refine ⟨m, other, ?_, hactive, hold⟩
    rw [Dict.get_erase, if_neg]
    · exact hother
    · rintro rfl
      obtain rfl : other = object := Option.some.inj (hother.symm.trans hget)
      exact hinactive hactive

end Consistent

theorem Consistent.on (h : world.Consistent cls) {f : SettingsObject V → World V}
    (hf : ∀ object, world.objects.get n = some object → (f object).Consistent cls) :
    (world.on n f).Consistent cls := by
  rw [World.on]
  cases hget : world.objects.get n with
  | none => exact h
  | some object => exact hf object hget

theorem Consistent.step [DecidableEq V] (h : world.Consistent cls)
    (hcls : Instance (.group cls.settings) (.group cls.settings)) (hpersistent : cls.persistent = true)
    {operation : Operation V} (hoperation : operation.Ordered) :
    (World.step cls world operation).Consistent cls := by
  cases operation with
  | create n id =>
      rw [World.step]
      split_ifs with hrefused
      · exact h
      · obtain ⟨hnone, hrest⟩ := not_or.mp hrefused
        rw [Bool.not_eq_true, Option.isSome_eq_false_iff, Option.isNone_iff_eq_none] at hnone
        exact h.create hcls hnone (not_or.mp hrest).2
  | setId n id => exact h.on fun object hget => h.setId hget id
  | undoId n => exact h.on fun object hget => h.undoId hget
  | edit n path change => exact h.on fun object hget => h.edit hget hoperation path
  | save n => exact h.on fun object hget => h.save hpersistent hget
  | delete n => exact h.on fun object hget => h.delete hget
  | collect n =>
      refine h.on fun object hget => ?_
      split_ifs with hactive
      · exact h
      · exact h.collect hget hactive

/-- Every entry has a live object, and every live object was constructed. -/
structure Start (cls : SettingsClass V) (world : World V) : Prop where
  sound : cls.Sound world.store
  constructed : ∀ {n object}, world.objects.get n = some object →
    object = cls.construct world.store object.id
  distinct : ∀ {n m left right}, world.objects.get n = some left → world.objects.get m = some right →
    left.id = right.id → n = m
  covered : ∀ {id}, (cls.entry world.store id).isSome = true → ∃ n object,
    world.objects.get n = some object ∧ object.id = id

theorem Start.consistent (h : Start cls world)
    (hcls : Instance (.group cls.settings) (.group cls.settings)) : world.Consistent cls where
  sound := h.sound
  stored {n object} hget := by
    rw [h.constructed hget]
    refine ⟨hcls.load ?_, ⟨fun _ => rfl, fun _ => rfl⟩, construct_active.mp,
      fun _ => Reads.construct hcls _⟩
    rw [SettingsClass.entry_eq]
    exact h.sound.ordered_entries.lookup object.id
  apart {n m left right} hleft hright id hhasLeft hhasRight := by
    refine h.distinct hleft hright ?_
    rw [h.constructed hleft] at hhasLeft
    rw [h.constructed hright] at hhasRight
    have hids : ∀ {other}, (cls.construct world.store other).Has id → other = id :=
      fun hhas => hhas.elim (fun h => h) fun h => h
    exact (hids hhasLeft).trans (hids hhasRight).symm
  known {id} hid := by
    obtain ⟨n, object, hget, rfl⟩ := h.covered hid
    have hobject := h.constructed hget
    refine ⟨n, object, hget, ?_, ?_⟩
    · rw [hobject]
      exact construct_active.mpr hid
    · rw [hobject]
      rfl

theorem Consistent.run [DecidableEq V] (h : world.Consistent cls)
    (hcls : Instance (.group cls.settings) (.group cls.settings)) (hpersistent : cls.persistent = true)
    {operations : List (Operation V)} (hoperations : ∀ operation ∈ operations, operation.Ordered) :
    (Runs.run (World.step cls) world operations).Consistent cls := by
  induction operations generalizing world with
  | nil => exact h
  | cons operation operations ih =>
      obtain ⟨hoperation, hoperations⟩ := List.forall_mem_cons.mp hoperations
      exact ih (h.step hcls hpersistent hoperation) hoperations

/-- A save of the object has moved its entry and no other one. -/
structure Moved (cls : SettingsClass V) (before after : Items) (object : SettingsObject V) : Prop where
  free : cls.entry before object.id = none
  entry : (cls.entry after object.id).isSome = true
  reads : Reads cls (cls.entry after object.id) .now object.settings
  same : object.settings.isModified = false →
    cls.entry after object.id = cls.entry before object.oldId
  old : cls.entry after object.oldId = none
  others : ∀ id, id ≠ object.id → id ≠ object.oldId → cls.entry after id = cls.entry before id

end World

end SipSimple.Configuration
