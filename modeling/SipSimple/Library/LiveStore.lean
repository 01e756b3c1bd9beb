import SipSimple.Library.KeyedList

/-!
# Live objects and what is stored of them

A store holds objects that are changed in memory and the records that were written of some of them. An
object is stored from its first save on; until it is saved again its record is that of the last save.
The store is `Sound` if every object is in step with what is stored under its key and there is no other
record. Making, changing, saving, dropping and deleting an object keep it so.
-/

open KeyedList

variable {object record κ : Type*} [DecidableEq κ]

structure LiveStore (key : object → κ) (recordKey : record → κ) where
  live : Collection key
  stored : Collection recordKey

namespace LiveStore

variable {key : object → κ} {recordKey : record → κ}

def empty : LiveStore key recordKey := ⟨.empty, .empty⟩

/-- A change in memory. -/
def put (store : LiveStore key recordKey) (item : object) : LiveStore key recordKey :=
  { store with live := store.live.set item }

def save (store : LiveStore key recordKey) (item : object) (saved : record) :
    LiveStore key recordKey :=
  ⟨store.live.set item, store.stored.set saved⟩

/-- A save that writes the record only if the object was modified. -/
def saveIf (modified : Bool) (store : LiveStore key recordKey) (item : object) (saved : record) :
    LiveStore key recordKey :=
  if modified then store.save item saved else store.put item

def delete (store : LiveStore key recordKey) (k : κ) : LiveStore key recordKey :=
  ⟨store.live.remove k, store.stored.remove k⟩

/-- A change of all objects in memory. -/
def map (store : LiveStore key recordKey) (f : object → object)
    (hkey : ∀ item, key (f item) = key item) : LiveStore key recordKey :=
  { store with live := store.live.map f hkey }

/-- An object is made unless there is one of the key. -/
def make (new : κ → object) (store : LiveStore key recordKey) (k : κ) : LiveStore key recordKey :=
  if (store.live.get k).isSome then store else store.put (new k)

/-- An object that is not stored is dropped. -/
def drop (active : object → Bool) (store : LiveStore key recordKey) (k : κ) :
    LiveStore key recordKey :=
  if (store.live.get k).any active then store else { store with live := store.live.remove k }

/-- The stored object of the key, or a new one if there is none. -/
def obtain (active : object → Bool) (new : κ → object) (store : LiveStore key recordKey) (k : κ) :
    Option object :=
  match store.live.get k with
  | some item => if active item then some item else none
  | none => some (new k)

/-- The record of the object is that of its last save. -/
structure InStep (active : object → Bool) (Synced : object → record → Prop)
    (store : LiveStore key recordKey) (item : object) : Prop where
  synced : active item = true →
    ∃ saved, store.stored.get (key item) = some saved ∧ Synced item saved
  absent : active item = false → store.stored.get (key item) = none

structure Sound (active : object → Bool) (Valid : object → Prop) (Synced : object → record → Prop)
    (store : LiveStore key recordKey) : Prop where
  valid : ∀ {k item}, store.live.get k = some item → Valid item
  inStep : ∀ {k item}, store.live.get k = some item → store.InStep active Synced item
  known : ∀ {k saved}, store.stored.get k = some saved →
    ∃ item, store.live.get k = some item ∧ active item = true

variable {active : object → Bool} {Valid : object → Prop} {Synced : object → record → Prop}
  {store : LiveStore key recordKey}

theorem sound_empty : (empty : LiveStore key recordKey).Sound active Valid Synced :=
  ⟨fun h => (nomatch h), fun h => (nomatch h), fun h => (nomatch h)⟩

theorem InStep.edit {before after : object} (h : store.InStep active Synced before)
    (hkey : key after = key before) (hactive : active after = active before)
    (hsynced : ∀ saved, Synced before saved → Synced after saved) :
    store.InStep active Synced after where
  synced hafter := by
    obtain ⟨saved, hsaved, hold⟩ := h.synced (hactive ▸ hafter)
    exact ⟨saved, hkey ▸ hsaved, hsynced saved hold⟩
  absent hafter := hkey ▸ h.absent (hactive ▸ hafter)

theorem Sound.inStep_new (h : store.Sound active Valid Synced) {item : object}
    (hinactive : active item = false) (hnone : store.live.get (key item) = none) :
    store.InStep active Synced item where
  synced hactive := by
    rw [hinactive] at hactive
    cases hactive
  absent _ := by
    refine Option.eq_none_iff_forall_ne_some.mpr fun saved hsaved => ?_
    obtain ⟨other, hother, _⟩ := h.known hsaved
    rw [hnone] at hother
    cases hother

theorem Sound.put (h : store.Sound active Valid Synced) {item : object} (hvalid : Valid item)
    (hstep : store.InStep active Synced item) : (store.put item).Sound active Valid Synced where
  valid {k other} hget := by
    rw [LiveStore.put, Collection.get_set] at hget
    split_ifs at hget with hk
    · exact Option.some.inj hget ▸ hvalid
    · exact h.valid hget
  inStep {k other} hget := by
    rw [LiveStore.put, Collection.get_set] at hget
    split_ifs at hget with hk
    · obtain rfl : item = other := Option.some.inj hget
      exact ⟨hstep.synced, hstep.absent⟩
    · exact ⟨(h.inStep hget).synced, (h.inStep hget).absent⟩
  known {k saved} hget := by
    rw [LiveStore.put, Collection.get_set]
    split_ifs with hk
    · refine ⟨item, rfl, ?_⟩
      cases hactive : active item with
      | true => rfl
      | false => exact nomatch (hk ▸ hget).symm.trans (hstep.absent hactive)
    · exact h.known hget

theorem Sound.map (h : store.Sound active Valid Synced) {f : object → object}
    (hkey : ∀ item, key (f item) = key item) (hvalid : ∀ item, Valid item → Valid (f item))
    (hactive : ∀ item, active (f item) = active item)
    (hsynced : ∀ item saved, Synced item saved → Synced (f item) saved) :
    (store.map f hkey).Sound active Valid Synced where
  valid {k other} hget := by
    rw [LiveStore.map, Collection.get_map] at hget
    obtain ⟨item, hitem, rfl⟩ := Option.map_eq_some_iff.mp hget
    exact hvalid item (h.valid hitem)
  inStep {k other} hget := by
    rw [LiveStore.map, Collection.get_map] at hget
    obtain ⟨item, hitem, rfl⟩ := Option.map_eq_some_iff.mp hget
    have hstep := (h.inStep hitem).edit (hkey item) (hactive item) (hsynced item)
    exact ⟨hstep.synced, hstep.absent⟩
  known {k saved} hget := by
    obtain ⟨item, hitem, hstored⟩ := h.known hget
    refine ⟨f item, ?_, (hactive item).trans hstored⟩
    rw [LiveStore.map, Collection.get_map, hitem]
    rfl

/-- A save: the object is in step with its new record. -/
theorem Sound.save (h : store.Sound active Valid Synced) {item : object} {saved : record}
    (hvalid : Valid item) (hactive : active item = true) (hkey : recordKey saved = key item)
    (hsynced : Synced item saved) : (store.save item saved).Sound active Valid Synced where
  valid {k other} hget := by
    rw [LiveStore.save, Collection.get_set] at hget
    split_ifs at hget with hk
    · exact Option.some.inj hget ▸ hvalid
    · exact h.valid hget
  inStep {k other} hget := by
    rw [LiveStore.save, Collection.get_set] at hget
    split_ifs at hget with hk
    · obtain rfl : item = other := Option.some.inj hget
      refine ⟨fun _ => ⟨saved, ?_, hsynced⟩, fun hinactive => ?_⟩
      · rw [LiveStore.save, ← hkey]
        exact Collection.get_set_self _ _
      · rw [hactive] at hinactive
        cases hinactive
    · have hne : key other ≠ recordKey saved := by
        rw [Collection.key_of_get hget, hkey]
        exact hk
      refine ⟨fun hother => ?_, fun hother => ?_⟩
      · obtain ⟨saved', hsaved', hold⟩ := (h.inStep hget).synced hother
        exact ⟨saved', (Collection.get_set_of_ne _ hne).trans hsaved', hold⟩
      · exact (Collection.get_set_of_ne _ hne).trans ((h.inStep hget).absent hother)
  known {k other} hget := by
    rw [LiveStore.save, Collection.get_set] at hget ⊢
    split_ifs with hk
    · exact ⟨item, rfl, hactive⟩
    · rw [if_neg fun heq => hk (heq.trans hkey)] at hget
      exact h.known hget

/-- After a save that may leave the old record, the record shows what a new one would show. -/
theorem Sound.saveIf {ν : Type*} {view : record → ν} {before after : object} {saved : record}
    {modified : Bool} (h : store.Sound active Valid Synced) (hstep : store.InStep active Synced before)
    (hkey : key after = key before) (hrecord : recordKey saved = key before) (hvalid : Valid after)
    (hactive : active after = true) (hsynced : modified = true → Synced after saved)
    (hkept : modified = false → active before = true ∧
      ∀ old, Synced before old → Synced after old ∧ view old = view saved) :
    (store.saveIf modified after saved).Sound active Valid Synced ∧
      ((store.saveIf modified after saved).stored.get (key before)).map view = some (view saved) := by
  cases modified with
  | true =>
      refine ⟨h.save hvalid hactive (hrecord.trans hkey.symm) (hsynced rfl), ?_⟩
      have hget : (store.save after saved).stored.get (recordKey saved) = some saved :=
        Collection.get_set_self _ _
      rw [LiveStore.saveIf, if_pos rfl, ← hrecord, hget]
      rfl
  | false =>
      obtain ⟨hbefore, hold⟩ := hkept rfl
      obtain ⟨old, hget, holdSynced⟩ := hstep.synced hbefore
      refine ⟨h.put hvalid (hstep.edit hkey (hactive.trans hbefore.symm) fun other hother =>
        (hold other hother).1), ?_⟩
      have hsame : (store.saveIf false after saved).stored = store.stored := rfl
      rw [hsame, hget, Option.map_some, (hold old holdSynced).2]

@[simp] theorem live_saveIf (modified : Bool) (item : object) (saved : record) :
    (store.saveIf modified item saved).live = store.live.set item := by
  cases modified <;> rfl

theorem stored_saveIf_of_ne {modified : Bool} {item : object} {saved : record} {k : κ}
    (hne : k ≠ recordKey saved) :
    (store.saveIf modified item saved).stored.get k = store.stored.get k := by
  cases modified with
  | true => exact Collection.get_set_of_ne _ hne
  | false => rfl

theorem Sound.delete (h : store.Sound active Valid Synced) (k : κ) :
    (store.delete k).Sound active Valid Synced where
  valid {k' other} hget := by
    rw [LiveStore.delete, Collection.get_remove] at hget
    split_ifs at hget
    exact h.valid hget
  inStep {k' other} hget := by
    rw [LiveStore.delete, Collection.get_remove] at hget
    split_ifs at hget with hk
    have hne : key other ≠ k := Collection.key_of_get hget ▸ hk
    have hstored : (store.delete k).stored.get (key other) = store.stored.get (key other) := by
      rw [LiveStore.delete, Collection.get_remove, if_neg hne]
    exact ⟨hstored ▸ (h.inStep hget).synced, hstored ▸ (h.inStep hget).absent⟩
  known {k' saved} hget := by
    rw [LiveStore.delete, Collection.get_remove] at hget ⊢
    split_ifs at hget ⊢
    exact h.known hget

theorem Sound.drop (h : store.Sound active Valid Synced) (k : κ) :
    (store.drop active k).Sound active Valid Synced := by
  rw [LiveStore.drop]
  split_ifs with hactive
  · exact h
  · refine ⟨fun {k' other} hget => ?_, fun {k' other} hget => ?_, fun {k' saved} hget => ?_⟩
    · rw [Collection.get_remove] at hget
      split_ifs at hget
      exact h.valid hget
    · rw [Collection.get_remove] at hget
      split_ifs at hget
      exact ⟨(h.inStep hget).synced, (h.inStep hget).absent⟩
    · obtain ⟨other, hother, hstored⟩ := h.known hget
      refine ⟨other, ?_, hstored⟩
      rw [Collection.get_remove, if_neg]
      · exact hother
      · rintro rfl
        exact hactive (by simp [hother, hstored])

theorem Sound.make (h : store.Sound active Valid Synced) {new : κ → object}
    (hkey : ∀ k, key (new k) = k) (hvalid : ∀ k, Valid (new k))
    (hinactive : ∀ k, active (new k) = false) (k : κ) :
    (store.make new k).Sound active Valid Synced := by
  rw [LiveStore.make]
  split_ifs with hsome
  · exact h
  · refine h.put (hvalid k) (h.inStep_new (hinactive k) ?_)
    rw [hkey]
    simpa using hsome

/-- What `obtain` gives. -/
theorem Sound.obtain (h : store.Sound active Valid Synced) {new : κ → object}
    (hkey : ∀ k, key (new k) = k) (hvalid : ∀ k, Valid (new k))
    (hinactive : ∀ k, active (new k) = false) {k : κ} {item : object}
    (hitem : store.obtain active new k = some item) :
    key item = k ∧ Valid item ∧ store.InStep active Synced item := by
  rw [LiveStore.obtain] at hitem
  cases hget : store.live.get k with
  | none =>
      rw [hget] at hitem
      obtain rfl : new k = item := Option.some.inj hitem
      exact ⟨hkey k, hvalid k, h.inStep_new (hinactive k) (by rw [hkey, hget])⟩
  | some old =>
      rw [hget] at hitem
      dsimp only at hitem
      split_ifs at hitem
      obtain rfl : old = item := Option.some.inj hitem
      exact ⟨Collection.key_of_get hget, h.valid hget, h.inStep hget⟩

theorem get_foldl_delete (ks : List κ) (store : LiveStore key recordKey) (k : κ) :
    (ks.foldl LiveStore.delete store).live.get k = (if k ∈ ks then none else store.live.get k) ∧
      (ks.foldl LiveStore.delete store).stored.get k =
        if k ∈ ks then none else store.stored.get k := by
  induction ks generalizing store with
  | nil => simp
  | cons head ks ih =>
      obtain ⟨hlive, hstored⟩ := ih (store.delete head)
      rw [List.foldl_cons, hlive, hstored, LiveStore.delete, Collection.get_remove,
        Collection.get_remove]
      by_cases hk : k = head <;> by_cases hmem : k ∈ ks <;> simp [hk, hmem]

/-- The stored objects of other keys. -/
def missing (active : object → Bool) (store : LiveStore key recordKey) (ks : List κ) : List κ :=
  ((store.live.items.filter active).map key).filter (· ∉ ks)

theorem mem_missing {ks : List κ} {k : κ} :
    k ∈ store.missing active ks ↔
      k ∉ ks ∧ ∃ item, store.live.get k = some item ∧ active item = true := by
  rw [missing, List.mem_filter, List.mem_map, and_comm, decide_eq_true_eq]
  refine and_congr_right fun _ => ⟨?_, ?_⟩
  · rintro ⟨item, hitem, rfl⟩
    obtain ⟨hmem, hactive⟩ := List.mem_filter.mp hitem
    exact ⟨item, Collection.get_of_mem hmem, hactive⟩
  · rintro ⟨item, hget, hactive⟩
    exact ⟨item, List.mem_filter.mpr ⟨Collection.mem_of_get hget, hactive⟩,
      Collection.key_of_get hget⟩

/-- Once the stored objects of other keys are deleted, the records are those of the keys. -/
theorem Sound.stored_delete_missing {ν ι : Type*} {id : ι → κ} {items : List ι} {view : record → ν}
    {goal : ι → ν} (h : store.Sound active Valid Synced)
    (hdone : ∀ item ∈ items, (store.stored.get (id item)).map view = some (goal item)) (k : κ) :
    (((store.missing active (items.map id)).foldl LiveStore.delete store).stored.get k).map view =
      (find id k items).map goal := by
  rw [(get_foldl_delete _ store k).2]
  cases hfind : find id k items with
  | some item =>
      obtain ⟨hmem, rfl⟩ := mem_of_find hfind
      have hkept : id item ∉ store.missing active (items.map id) := fun hmissing =>
        (mem_missing.mp hmissing).1 (List.mem_map_of_mem hmem)
      rw [if_neg hkept, hdone item hmem]
      rfl
  | none =>
      have hnot := find_eq_none.mp hfind
      split_ifs with hmissing
      · rfl
      · cases hget : store.stored.get k with
        | none => rfl
        | some saved => exact absurd (mem_missing.mpr ⟨hnot, h.known hget⟩) hmissing

end LiveStore
