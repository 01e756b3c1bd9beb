import Mathlib.Data.Finset.Basic
import SipSimple.AddressBook.LocalStore

/-!
# Referential integrity

A deleted contact is taken out of the groups that have it in memory. The stored groups follow if a group in memory
has every contact that it is stored with, and if no save of a group raises.
-/

namespace SipSimple.AddressBook

open Account.Xcap (PyError)
open Payloads (Outcome)
open SortedDict (Dict)

namespace LocalStore

variable {self : LocalStore} {id : String} {group : GroupObject}

/-! ### The condition -/

/-- Every contact of the group was saved or deleted. -/
def Saveable (self : LocalStore) (group : GroupObject) : Prop :=
  ∀ contact ∈ group.contacts, self.contacts.get contact ≠ some .new

instance (group : GroupObject) : Decidable (self.Saveable group) :=
  inferInstanceAs (Decidable (∀ contact ∈ _, _))

/-- A contact is deleted when no active group has removed it without a save, and when the groups that have it can be
saved without it. -/
def Deletable (self : LocalStore) (id : String) : Prop :=
  ∀ entry ∈ self.groups.items, entry.2.state = .active →
    (id ∈ entry.2.oldContacts → id ∈ entry.2.contacts) ∧
      (id ∈ entry.2.contacts → self.Saveable (removeMember id entry.2))

instance (id : String) : Decidable (self.Deletable id) :=
  inferInstanceAs (Decidable (∀ entry ∈ _, _))

def Careful (self : LocalStore) : LocalOperation → Prop
  | .saveGroup id => ∀ group ∈ self.groups.get id, group.state ≠ .deleted → self.Saveable group
  | .deleteContact _ id => self.contacts.get id ≠ some .deleted → self.Deletable id
  | _ => True

instance (operation : LocalOperation) : Decidable (self.Careful operation) := by
  cases operation <;> unfold Careful <;> infer_instance

/-! ### What holds between the operations -/

/-- The group has the contact, or was saved with it. -/
def Refers (group : GroupObject) (contact : String) : Prop :=
  contact ∈ group.contacts ∨ contact ∈ group.oldContacts

/-- Between the groups in memory, the map of the manager and the configuration. -/
structure Linked (store : LocalStore) : Prop where
  groupMap : ∀ id, id ∈ store.groupMap ↔ ∃ group, store.groups.get id = some group ∧ group.state = .active
  stored : ∀ id, id ∈ store.groupMap ↔ (store.storedGroups.get id).isSome
  agree : ∀ id group, store.groups.get id = some group → group.state = .active →
    store.storedGroups.get id = some group.oldContacts
  live : ∀ id group, store.groups.get id = some group →
    ∀ contact, Refers group contact → store.contacts.get contact ≠ none

/-- **Referential integrity**, and the maps of the manager. -/
structure Integrity (store : LocalStore) : Prop where
  members : ∀ group ids, store.storedGroups.get group = some ids → ids ⊆ store.storedContacts
  contacts : ∀ id, id ∈ store.contactMap ↔ store.contacts.get id = some .active
  contactIds : store.contactMap = store.storedContacts
  groups : ∀ id, id ∈ store.groupMap ↔ ∃ group, store.groups.get id = some group ∧ group.state = .active
  groupIds : ∀ id, id ∈ store.groupMap ↔ (store.storedGroups.get id).isSome

structure Sound (store : LocalStore) : Prop where
  linked : store.Linked
  contactMap : ∀ id, id ∈ store.contactMap ↔ store.contacts.get id = some .active
  contactIds : store.contactMap = store.storedContacts
  members : ∀ group ids, store.storedGroups.get group = some ids → ids ⊆ store.storedContacts

theorem Sound.integrity (h : self.Sound) : self.Integrity :=
  ⟨h.members, h.contactMap, h.contactIds, h.linked.groupMap, h.linked.stored⟩

theorem mem_undeleted {contacts : Finset String} {contact : String} :
    contact ∈ self.undeleted contacts ↔ contact ∈ contacts ∧ self.contacts.get contact ≠ some .deleted := by
  rw [undeleted, Finset.mem_filter]

/-! ### Saving a group -/

/-- What a save that does not raise leaves: the group in memory, in the map and in the configuration. -/
theorem saveGroup_eq (hstate : group.state ≠ .deleted) (hsaveable : self.Saveable group)
    (hactive : group.state = .active → id ∈ self.groupMap ∧ self.storedGroups.get id = some group.oldContacts) :
    ∃ saved groupMap storedGroups,
      self.saveGroup id group = ({ self with groups := self.groups.set id saved, groupMap, storedGroups }, none) ∧
        saved.state = .active ∧ saved.contacts = self.undeleted group.contacts ∧
        saved.oldContacts = self.undeleted group.contacts ∧
        (∀ key, key ∈ groupMap ↔ key = id ∨ key ∈ self.groupMap) ∧
        ∀ key, storedGroups.get key =
          if key = id then some (self.undeleted group.contacts) else self.storedGroups.get key := by
  have hsaved : ¬ ∃ contact ∈ self.undeleted group.contacts, self.contacts.get contact = some .new := by
    rintro ⟨contact, hmem, hnew⟩
    exact hsaveable contact (mem_undeleted.mp hmem).1 hnew
  have hkeep (hnow : group.state = .active) : ∀ key, key ∈ self.groupMap ↔ key = id ∨ key ∈ self.groupMap := by
    intro key
    refine ⟨.inr, ?_⟩
    rintro (rfl | hmem)
    · exact (hactive hnow).1
    · exact hmem
  have hset : ∀ key, (self.storedGroups.set id (self.undeleted group.contacts)).get key =
      if key = id then some (self.undeleted group.contacts) else self.storedGroups.get key :=
    fun key => SortedDict.Dict.get_set self.storedGroups key id _
  have hsame (hnow : group.state = .active) (hcontacts : self.undeleted group.contacts = group.oldContacts) :
      ∀ key, self.storedGroups.get key =
        if key = id then some (self.undeleted group.contacts) else self.storedGroups.get key := by
    intro key
    split
    next heq => rw [heq, hcontacts, (hactive hnow).2]
    next => rfl
  unfold saveGroup
  rw [if_neg hstate]
  dsimp only
  cases hnow : group.state with
  | deleted => exact absurd hnow hstate
  | new =>
      rw [if_neg (by simp), if_neg hsaved, if_pos rfl]
      exact ⟨_, _, _, rfl, rfl, rfl, rfl, fun key => Finset.mem_insert, hset⟩
  | active =>
      split
      next hunmodified =>
        have hcontacts : self.undeleted group.contacts = group.oldContacts := by
          simp at hunmodified
          exact hunmodified.1.1
        exact ⟨_, _, _, rfl, rfl, rfl, rfl, hkeep hnow, hsame hnow hcontacts⟩
      next =>
        rw [if_neg (by simp)]
        split
        next => exact ⟨_, _, _, rfl, rfl, rfl, rfl, hkeep hnow, hset⟩
        next hruntime =>
          have hcontacts : self.undeleted group.contacts = group.oldContacts := by
            simp at hruntime
            exact hruntime.1
          exact ⟨_, _, _, rfl, rfl, rfl, rfl, hkeep hnow, hsame hnow hcontacts⟩

/-- What is put in for a group that was saved keeps the links. -/
theorem Linked.saved (h : self.Linked) {saved : GroupObject} {groupMap : Finset String}
    {storedGroups : Dict String (Finset String)} (hstate : saved.state = .active)
    (hlive : ∀ contact, Refers saved contact → self.contacts.get contact ≠ none)
    (hmap : ∀ key, key ∈ groupMap ↔ key = id ∨ key ∈ self.groupMap)
    (hstored : ∀ key, storedGroups.get key = if key = id then some saved.oldContacts else self.storedGroups.get key) :
    ({ self with groups := self.groups.set id saved, groupMap, storedGroups } : LocalStore).Linked := by
  have hget : ∀ key, (self.groups.set id saved).get key = if key = id then some saved else self.groups.get key :=
    fun key => SortedDict.Dict.get_set self.groups key id saved
  refine ⟨?_, ?_, ?_, ?_⟩
  · intro key
    show key ∈ groupMap ↔ ∃ group, (self.groups.set id saved).get key = some group ∧ group.state = .active
    rw [hmap, hget]
    split
    next heq => exact iff_of_true (.inl heq) ⟨saved, rfl, hstate⟩
    next hne => rw [← h.groupMap, or_iff_right hne]
  · intro key
    show key ∈ groupMap ↔ (storedGroups.get key).isSome
    rw [hmap, hstored]
    split
    next heq => exact iff_of_true (.inl heq) rfl
    next hne => rw [← h.stored, or_iff_right hne]
  · intro key group hgroup hactive
    show storedGroups.get key = some group.oldContacts
    have hfound : (self.groups.set id saved).get key = some group := hgroup
    rw [hget] at hfound
    rw [hstored]
    split at hfound
    next heq => rw [if_pos heq, Option.some.inj hfound]
    next hne =>
      rw [if_neg hne]
      exact h.agree key group hfound hactive
  · intro key group hgroup
    have hfound : (self.groups.set id saved).get key = some group := hgroup
    rw [hget] at hfound
    split at hfound
    next =>
      rw [← Option.some.inj hfound]
      exact hlive
    next => exact h.live key group hfound

/-- An object is put in for a group without a change of its state and of what it was saved with. -/
theorem Linked.put (h : self.Linked) (hget : self.groups.get id = some group) {changed : GroupObject}
    (hstate : changed.state = group.state) (hold : changed.oldContacts = group.oldContacts)
    (hlive : ∀ contact, Refers changed contact → self.contacts.get contact ≠ none) :
    ({ self with groups := self.groups.set id changed } : LocalStore).Linked := by
  refine ⟨?_, h.stored, ?_, ?_⟩
  · intro key
    show key ∈ self.groupMap ↔ ∃ found, (self.groups.set id changed).get key = some found ∧ found.state = .active
    rw [h.groupMap, SortedDict.Dict.get_set]
    split
    next heq => simp [heq, hget, hstate]
    next => rfl
  · intro key found hfound hactive
    have hfound : (self.groups.set id changed).get key = some found := hfound
    rw [SortedDict.Dict.get_set] at hfound
    split at hfound
    next heq =>
      rw [← Option.some.inj hfound] at hactive ⊢
      rw [heq, hold]
      exact h.agree id group hget (hstate ▸ hactive)
    next => exact h.agree key found hfound hactive
  · intro key found hfound
    have hfound : (self.groups.set id changed).get key = some found := hfound
    rw [SortedDict.Dict.get_set] at hfound
    split at hfound
    next =>
      rw [← Option.some.inj hfound]
      exact hlive
    next => exact h.live key found hfound

/-- What a group was saved with, and that the manager has it. -/
theorem Linked.active (h : self.Linked) (hget : self.groups.get id = some group) (hactive : group.state = .active) :
    id ∈ self.groupMap ∧ self.storedGroups.get id = some group.oldContacts :=
  ⟨(h.groupMap id).mpr ⟨group, hget, hactive⟩, h.agree id group hget hactive⟩

/-- The contacts of a group that can be saved are active, but for those that are deleted. -/
theorem Sound.undeleted_subset (h : self.Sound)
    (hlive : ∀ contact, Refers group contact → self.contacts.get contact ≠ none)
    (hsaveable : self.Saveable group) : self.undeleted group.contacts ⊆ self.storedContacts := by
  intro contact hmem
  obtain ⟨hmem, hdeleted⟩ := mem_undeleted.mp hmem
  rw [← h.contactIds, h.contactMap]
  cases hget : self.contacts.get contact with
  | none => exact absurd hget (hlive contact (.inl hmem))
  | some state =>
      cases state with
      | active => rfl
      | new => exact absurd hget (hsaveable contact hmem)
      | deleted => exact absurd hget hdeleted

theorem Sound.saveGroup (h : self.Sound) (hget : self.groups.get id = some group)
    (hsaveable : group.state ≠ .deleted → self.Saveable group) : (self.saveGroup id group).1.Sound := by
  by_cases hstate : group.state = .deleted
  · unfold LocalStore.saveGroup
    rw [if_pos hstate]
    exact h
  · have hlive := h.linked.live id group hget
    obtain ⟨saved, groupMap, storedGroups, heq, hactive, hcontacts, hold, hmap, hstored⟩ :=
      saveGroup_eq hstate (hsaveable hstate) (h.linked.active hget)
    rw [heq]
    refine ⟨h.linked.saved hactive (fun contact hrefers => ?_) hmap ?_, h.contactMap, h.contactIds, ?_⟩
    · rw [Refers, hcontacts, hold, or_self] at hrefers
      exact hlive contact (.inl (mem_undeleted.mp hrefers).1)
    · rw [hold]
      exact hstored
    · intro key ids hids
      have hids : storedGroups.get key = some ids := hids
      rw [hstored] at hids
      split at hids
      next =>
        rw [← Option.some.inj hids]
        exact h.undeleted_subset hlive (hsaveable hstate)
      next => exact h.members key ids hids

/-! ### Deleting a contact -/

/-- While a contact is taken out of the groups: those that are done are not stored with it, and the others are as
they were. -/
structure Dropping (before store : LocalStore) (contact : String) (done : List String) : Prop where
  linked : store.Linked
  contacts : store.contacts = before.contacts.set contact .deleted
  contactMap : store.contactMap = before.contactMap
  storedContacts : store.storedContacts = before.storedContacts.erase contact
  dropped : ∀ key ∈ done, ∀ ids, store.storedGroups.get key = some ids → ids ⊆ store.storedContacts
  rest : ∀ key, key ∉ done → store.groups.get key = before.groups.get key ∧
    store.storedGroups.get key = before.storedGroups.get key
  groupMap : ∀ key, key ∈ store.groupMap ↔ key ∈ before.groupMap

theorem Dropping.rest_append {before : LocalStore} {contact key other : String} {done : List String}
    (h : Dropping before self contact done) (hother : other ∉ done ++ [key]) :
    other ≠ key ∧ self.groups.get other = before.groups.get other ∧
      self.storedGroups.get other = before.storedGroups.get other := by
  rw [List.mem_append, List.mem_singleton] at hother
  obtain ⟨hdone, hne⟩ := not_or.mp hother
  exact ⟨hne, h.rest other hdone⟩

/-- What a group is stored with without the contact was active before, and is not the contact. -/
theorem Dropping.undeleted_subset {before : LocalStore} {contact key : String} {done : List String}
    (h : Dropping before self contact done) (hsound : before.Sound) {group : GroupObject}
    (hgroup : before.groups.get key = some group) (hsaveable : before.Saveable (removeMember contact group)) :
    self.undeleted (removeMember contact group).contacts ⊆ self.storedContacts := by
  intro other hother
  obtain ⟨hin, hundeleted⟩ := mem_undeleted.mp hother
  obtain ⟨hne, hin⟩ := Finset.mem_erase.mp hin
  rw [h.storedContacts, Finset.mem_erase, ← hsound.contactIds, hsound.contactMap]
  refine ⟨hne, ?_⟩
  rw [h.contacts, SortedDict.Dict.get_set, if_neg hne] at hundeleted
  have hsaved := hsaveable other (Finset.mem_erase.mpr ⟨hne, hin⟩)
  cases hfound : before.contacts.get other with
  | none => exact absurd hfound (hsound.linked.live key group hgroup other (.inl hin))
  | some state =>
      rw [hfound] at hundeleted hsaved
      cases state with
      | active => rfl
      | new => exact absurd rfl hsaved
      | deleted => exact absurd rfl hundeleted

/-- A group that was saved without the contact is done. -/
theorem Dropping.skip {before : LocalStore} {contact key : String} {done : List String}
    (h : Dropping before self contact done) (hsound : before.Sound) {group : GroupObject}
    (hgroup : before.groups.get key = some group) (hactive : group.state = .active) (hnew : key ∉ done)
    (hout : contact ∉ group.oldContacts) : Dropping before self contact (done ++ [key]) := by
  refine ⟨h.linked, h.contacts, h.contactMap, h.storedContacts, ?_, ?_, h.groupMap⟩
  · intro other hother ids hids
    rcases List.mem_append.mp hother with hdone | hlast
    · exact h.dropped other hdone ids hids
    · rw [List.mem_singleton.mp hlast, (h.rest key hnew).2] at hids
      have hold := hsound.linked.agree key group hgroup hactive
      rw [hids] at hold
      have hsubset := hsound.members key ids hids
      rw [h.storedContacts]
      refine Finset.subset_erase.mpr ⟨hsubset, fun hin => hout ?_⟩
      rw [← Option.some.inj hold]
      exact hin
  · intro other hother
    exact (h.rest_append hother).2

theorem Dropping.dropMember {before : LocalStore} {contact key : String} {done : List String}
    (h : Dropping before self contact done) (hsound : before.Sound) (hdeletable : before.Deletable contact)
    (hkey : key ∈ before.groupMap) (hnew : key ∉ done) :
    (dropMember contact self key).2 = none ∧
      Dropping before (dropMember contact self key).1 contact (done ++ [key]) := by
  obtain ⟨group, hgroup, hactive⟩ := (hsound.linked.groupMap key).mp hkey
  have hget : self.groups.get key = some group := (h.rest key hnew).1.trans hgroup
  obtain ⟨hpending, hsaveable⟩ := hdeletable (key, group) (SortedDict.Dict.get_eq_some.mp hgroup) hactive
  unfold LocalStore.dropMember
  simp only [hget]
  split
  next hmem =>
    have hlive := hsound.linked.live key group hgroup
    have hbefore : before.Saveable (removeMember contact group) := hsaveable hmem
    have hnow : self.Saveable (removeMember contact group) := by
      intro other hother
      rw [h.contacts, SortedDict.Dict.get_set]
      split
      · decide
      · exact hbefore other hother
    have hundeleted : (removeMember contact group).state ≠ .deleted := by
      rw [show (removeMember contact group).state = group.state from rfl, hactive]
      decide
    have hlinked : (removeMember contact group).state = .active →
        key ∈ self.groupMap ∧ self.storedGroups.get key = some (removeMember contact group).oldContacts := by
      intro _
      have hlink := h.linked.active hget hactive
      exact hlink
    obtain ⟨saved, groupMap, storedGroups, heq, hstate, hcontacts, hold, hmap, hstored⟩ :=
      saveGroup_eq hundeleted hnow hlinked
    rw [heq]
    refine ⟨rfl, h.linked.saved hstate (fun other hother => ?_) hmap ?_, h.contacts, h.contactMap, h.storedContacts, ?_,
      ?_, ?_⟩
    · rw [Refers, hcontacts, hold, or_self] at hother
      have hin := (Finset.mem_erase.mp (mem_undeleted.mp hother).1).2
      rw [h.contacts, SortedDict.Dict.get_set]
      split
      · nofun
      · exact hlive other (.inl hin)
    · rw [hold]
      exact hstored
    · intro other hother ids hids
      have hids : storedGroups.get other = some ids := hids
      rw [hstored] at hids
      split at hids
      next =>
        rw [← Option.some.inj hids]
        exact h.undeleted_subset hsound hgroup hbefore
      next hne =>
        have hdone : other ∈ done := (List.mem_append.mp hother).resolve_right (by simpa using hne)
        exact h.dropped other hdone ids hids
    · intro other hother
      obtain ⟨hne, hsame, hsameStored⟩ := h.rest_append hother
      refine ⟨?_, ?_⟩
      · show (self.groups.set key saved).get other = before.groups.get other
        rw [SortedDict.Dict.get_set, if_neg hne]
        exact hsame
      · show storedGroups.get other = before.storedGroups.get other
        rw [hstored, if_neg hne]
        exact hsameStored
    · intro other
      show other ∈ groupMap ↔ other ∈ before.groupMap
      rw [hmap, h.groupMap]
      refine ⟨?_, .inr⟩
      rintro (rfl | hother)
      · exact hkey
      · exact hother
  next hmem =>
    exact ⟨rfl, h.skip hsound hgroup hactive hnew fun hin => hmem (hpending hin)⟩

theorem Sound.deleteContact (h : self.Sound) (order : HashOrder String)
    (hcareful : self.contacts.get id ≠ some .deleted → self.Deletable id) : (self.deleteContact order id).Sound := by
  unfold LocalStore.deleteContact
  split
  next => exact h
  next => exact h
  next state hundeleted hget =>
    have hdeletable : self.Deletable id := by
      apply hcareful
      intro hdeleted
      exact hundeleted (Option.some.inj (hget.symm.trans hdeleted))
    let deleted : LocalStore :=
      { self with contacts := self.contacts.set id .deleted, storedContacts := self.storedContacts.erase id }
    have hlive : ∀ key group, self.groups.get key = some group →
        ∀ contact, Refers group contact → deleted.contacts.get contact ≠ none := by
      intro key group hgroup contact hmem
      show (self.contacts.set id .deleted).get contact ≠ none
      rw [SortedDict.Dict.get_set]
      split
      · exact Option.some_ne_none _
      · exact h.linked.live key group hgroup contact hmem
    have hstart : Dropping self deleted id [] :=
      ⟨⟨h.linked.groupMap, h.linked.stored, h.linked.agree, hlive⟩, rfl, rfl, rfl,
        fun _ hmem => absurd hmem List.not_mem_nil, fun _ _ => ⟨rfl, rfl⟩, fun _ => Iff.rfl⟩
    have hgroups : ∀ key, key ∈ deleted.getGroups order ↔ key ∈ self.groupMap := by
      intro key
      rw [getGroups, (order.perm _).mem_iff, List.mem_filter, decide_eq_true_iff]
      refine ⟨And.right, fun hkey => ⟨?_, hkey⟩⟩
      obtain ⟨group, hgroup, _⟩ := (h.linked.groupMap key).mp hkey
      exact SortedDict.isSome_lookup.mp (Option.isSome_iff_exists.mpr ⟨group, hgroup⟩)
    have hnodup : (deleted.getGroups order).Nodup := by
      rw [getGroups, (order.perm _).nodup_iff]
      exact (SortedDict.Sorted.nodup self.groups.sorted).filter _
    have hstep : ∀ done key rest store, done ++ key :: rest = deleted.getGroups order →
        Dropping self store id done →
          (dropMember id store key).2 = none ∧ Dropping self (dropMember id store key).1 id (done ++ [key]) := by
      intro done key rest store hsplit hdone
      have hkey : key ∈ self.groupMap := (hgroups key).mp (by rw [← hsplit]; simp)
      rw [← hsplit] at hnodup
      refine hdone.dropMember h hdeletable hkey fun hmem => ?_
      exact (List.nodup_append.mp hnodup).2.2 key hmem key List.mem_cons_self rfl
    obtain ⟨hraised, hdropped⟩ := Loops.forEach_completes (fun done store => Dropping self store id done) hstep hstart
    dsimp only
    split
    next dropped error heq => cases hraised.symm.trans (congrArg Prod.snd heq)
    next dropped heq =>
      have hfst : (forEach (dropMember id) (deleted.getGroups order) deleted).1 = dropped := congrArg Prod.fst heq
      rw [hfst] at hdropped
      refine ⟨⟨hdropped.linked.groupMap, hdropped.linked.stored, hdropped.linked.agree, hdropped.linked.live⟩, ?_, ?_,
        ?_⟩
      · intro contact
        show contact ∈ dropped.contactMap.erase id ↔ dropped.contacts.get contact = some .active
        rw [hdropped.contactMap, hdropped.contacts, SortedDict.Dict.get_set, Finset.mem_erase, h.contactMap]
        split
        next hsame => simp [hsame]
        next hne => simp [hne]
      · show dropped.contactMap.erase id = dropped.storedContacts
        rw [hdropped.contactMap, hdropped.storedContacts, h.contactIds]
      · intro key ids hids
        have hids : dropped.storedGroups.get key = some ids := hids
        have hkey : key ∈ dropped.groupMap := (hdropped.linked.stored key).mpr (by rw [hids]; rfl)
        exact hdropped.dropped key ((hgroups key).mpr ((hdropped.groupMap key).mp hkey)) ids hids

/-! ### The other operations -/

theorem Sound.newContact (h : self.Sound) (id : String) : (self.newContact id).Sound := by
  unfold LocalStore.newContact
  split
  next => exact h
  next hfree =>
    have hnone : self.contacts.get id = none := by simpa using hfree
    have hlive (state : ObjectState) : ∀ key group, self.groups.get key = some group →
        ∀ contact, Refers group contact → (self.contacts.set id state).get contact ≠ none := by
      intro key group hgroup contact hmem
      rw [SortedDict.Dict.get_set]
      split
      · exact Option.some_ne_none _
      · exact h.linked.live key group hgroup contact hmem
    split
    next hstored =>
      rw [← h.contactIds, h.contactMap, hnone] at hstored
      cases hstored
    next =>
      refine ⟨⟨h.linked.groupMap, h.linked.stored, h.linked.agree, hlive .new⟩, ?_, h.contactIds, h.members⟩
      intro contact
      show contact ∈ self.contactMap ↔ (self.contacts.set id .new).get contact = some .active
      rw [SortedDict.Dict.get_set, h.contactMap]
      split
      next heq => simp [heq, hnone]
      next => rfl

theorem Sound.saveContact (h : self.Sound) (id : String) : (self.saveContact id).Sound := by
  unfold LocalStore.saveContact
  split
  next hnew =>
    refine ⟨⟨h.linked.groupMap, h.linked.stored, h.linked.agree, ?_⟩, ?_, ?_, ?_⟩
    · intro key group hgroup contact hmem
      show (self.contacts.set id .active).get contact ≠ none
      rw [SortedDict.Dict.get_set]
      split
      · exact Option.some_ne_none _
      · exact h.linked.live key group hgroup contact hmem
    · intro contact
      show contact ∈ insert id self.contactMap ↔ (self.contacts.set id .active).get contact = some .active
      rw [SortedDict.Dict.get_set, Finset.mem_insert, h.contactMap]
      split
      next heq => simp [heq]
      next hne => simp [hne]
    · show insert id self.contactMap = insert id self.storedContacts
      rw [h.contactIds]
    · exact fun key ids hids => (h.members key ids hids).trans (Finset.subset_insert id self.storedContacts)
  next => exact h

theorem Sound.dropContact (h : self.Sound) (id : String) : (self.dropContact id).Sound := by
  unfold LocalStore.dropContact
  split
  next => exact h
  next hkept =>
    obtain ⟨hmap, hgroups⟩ := not_or.mp hkept
    refine ⟨⟨h.linked.groupMap, h.linked.stored, h.linked.agree, ?_⟩, ?_, h.contactIds, h.members⟩
    · intro key group hgroup contact hmem
      show (self.contacts.erase id).get contact ≠ none
      rw [SortedDict.Dict.get_erase]
      split
      next heq => exact absurd ⟨(key, group), SortedDict.Dict.get_eq_some.mp hgroup, heq ▸ hmem⟩ hgroups
      next => exact h.linked.live key group hgroup contact hmem
    · intro contact
      show contact ∈ self.contactMap ↔ (self.contacts.erase id).get contact = some .active
      rw [SortedDict.Dict.get_erase]
      split
      next heq => simp [heq, hmap]
      next => exact h.contactMap contact

theorem Sound.newGroup (h : self.Sound) (id : String) : (self.newGroup id).Sound := by
  unfold LocalStore.newGroup
  split
  next => exact h
  next hfree =>
    have hnone : self.groups.get id = none := by simpa using hfree
    have hunmapped : id ∉ self.groupMap := by
      rw [h.linked.groupMap]
      rintro ⟨group, hget, _⟩
      rw [hnone] at hget
      cases hget
    split
    next ids hstored =>
      refine absurd ?_ hunmapped
      rw [h.linked.stored, hstored]
      rfl
    next =>
      refine ⟨⟨?_, h.linked.stored, ?_, ?_⟩, h.contactMap, h.contactIds, h.members⟩
      · intro key
        show key ∈ self.groupMap ↔ ∃ group, (self.groups.set id { state := .new, contacts := ∅, oldContacts := ∅ }).get
          key = some group ∧ group.state = .active
        rw [SortedDict.Dict.get_set]
        split
        next heq => simp [heq, hunmapped]
        next => exact h.linked.groupMap key
      · intro key group hget hactive
        have hget : (self.groups.set id { state := .new, contacts := ∅, oldContacts := ∅ }).get key = some group := hget
        rw [SortedDict.Dict.get_set] at hget
        split at hget
        next =>
          rw [← Option.some.inj hget] at hactive
          cases hactive
        next => exact h.linked.agree key group hget hactive
      · intro key group hget
        have hget : (self.groups.set id { state := .new, contacts := ∅, oldContacts := ∅ }).get key = some group := hget
        rw [SortedDict.Dict.get_set] at hget
        split at hget
        next =>
          rw [← Option.some.inj hget]
          rintro contact (hmem | hmem) <;> exact absurd hmem (Finset.notMem_empty contact)
        next => exact h.linked.live key group hget

/-- A group that the manager does not have leaves the memory, or a group is deleted. -/
theorem Sound.dropGroup (h : self.Sound) (id : String) : (self.dropGroup id).Sound := by
  unfold LocalStore.dropGroup
  split
  next => exact h
  next hmap =>
    have hget : ∀ key group, (self.groups.erase id).get key = some group → self.groups.get key = some group := by
      intro key group hget
      rw [SortedDict.Dict.get_erase] at hget
      split at hget
      · cases hget
      · exact hget
    refine ⟨⟨?_, h.linked.stored, fun key group hgroup => h.linked.agree key group (hget key group hgroup),
      fun key group hgroup => h.linked.live key group (hget key group hgroup)⟩, h.contactMap, h.contactIds, h.members⟩
    intro key
    show key ∈ self.groupMap ↔ ∃ group, (self.groups.erase id).get key = some group ∧ group.state = .active
    rw [SortedDict.Dict.get_erase]
    split
    next heq => simp [heq, hmap]
    next => exact h.linked.groupMap key

theorem Sound.deleteGroup (h : self.Sound) (id : String) : (self.deleteGroup id).Sound := by
  unfold LocalStore.deleteGroup
  split
  next => exact h
  next group hgroup =>
    split
    next => exact h
    next hstate =>
      have hget : ∀ key found, (self.groups.set id { group with state := .deleted }).get key = some found →
          (key = id ∧ found.state = .deleted ∧ Refers found = Refers group) ∨
            key ≠ id ∧ self.groups.get key = some found := by
        intro key found hfound
        rw [SortedDict.Dict.get_set] at hfound
        split at hfound
        next heq =>
          rw [← Option.some.inj hfound]
          exact .inl ⟨heq, rfl, rfl⟩
        next hne => exact .inr ⟨hne, hfound⟩
      refine ⟨⟨?_, ?_, ?_, ?_⟩, h.contactMap, h.contactIds, ?_⟩
      · intro key
        show key ∈ self.groupMap.erase id ↔ ∃ found, (self.groups.set id { group with state := .deleted }).get key =
          some found ∧ found.state = .active
        rw [SortedDict.Dict.get_set, Finset.mem_erase, h.linked.groupMap]
        split
        next heq => simp [heq]
        next hne => simp [hne]
      · intro key
        show key ∈ self.groupMap.erase id ↔ ((self.storedGroups.erase id).get key).isSome
        rw [SortedDict.Dict.get_erase, Finset.mem_erase, h.linked.stored]
        split
        next heq => simp [heq]
        next hne => simp [hne]
      · intro key found hfound hactive
        show (self.storedGroups.erase id).get key = some found.oldContacts
        rcases hget key found hfound with ⟨_, hdeleted, _⟩ | ⟨hne, hfound⟩
        · rw [hdeleted] at hactive
          cases hactive
        · rw [SortedDict.Dict.get_erase, if_neg hne]
          exact h.linked.agree key found hfound hactive
      · intro key found hfound
        rcases hget key found hfound with ⟨_, _, hrefers⟩ | ⟨_, hfound⟩
        · rw [hrefers]
          exact h.linked.live id group hgroup
        · exact h.linked.live key found hfound
      · intro key ids hids
        have hids : (self.storedGroups.erase id).get key = some ids := hids
        rw [SortedDict.Dict.get_erase] at hids
        split at hids
        · cases hids
        · exact h.members key ids hids

/-- A change of a group that is not saved. -/
theorem Sound.editGroup (h : self.Sound) (id : String) {f : GroupObject → GroupObject}
    (hstate : ∀ group, (f group).state = group.state) (hold : ∀ group, (f group).oldContacts = group.oldContacts)
    (hlive : ∀ group contact, contact ∈ (f group).contacts → Refers group contact ∨ self.contacts.get contact ≠ none) :
    (self.editGroup id f).Sound := by
  unfold LocalStore.editGroup
  split
  next group hget =>
    refine ⟨h.linked.put hget (hstate group) (hold group) ?_, h.contactMap, h.contactIds, h.members⟩
    rintro contact (hmem | hmem)
    · exact (hlive group contact hmem).elim (h.linked.live id group hget contact) fun hlive => hlive
    · exact h.linked.live id group hget contact (.inr (hold group ▸ hmem))
  next => exact h

theorem sound_step (h : self.Sound) {operation : LocalOperation} (hcareful : self.Careful operation) :
    (self.step operation).Sound := by
  cases operation with
  | newContact id => exact h.newContact id
  | newGroup id => exact h.newGroup id
  | dropContact id => exact h.dropContact id
  | dropGroup id => exact h.dropGroup id
  | addMember id contact =>
      refine h.editGroup id (fun group => ?_) (fun group => ?_) fun group other hmem => ?_
      · unfold addMember
        split <;> rfl
      · unfold addMember
        split <;> rfl
      · unfold addMember at hmem
        split at hmem
        next => exact .inl (.inl hmem)
        next => exact .inl (.inl hmem)
        next hcontact =>
          rcases Finset.mem_insert.mp hmem with rfl | hmem
          · rw [hcontact]
            exact .inr nofun
          · exact .inl (.inl hmem)
  | removeMember id contact =>
      exact h.editGroup id (fun _ => rfl) (fun _ => rfl) fun _ _ hmem => .inl (.inl (Finset.mem_of_mem_erase hmem))
  | setMembers id contacts =>
      refine h.editGroup id (fun _ => rfl) (fun _ => rfl) fun _ _ hmem => .inr ?_
      exact (Finset.mem_filter.mp (mem_undeleted.mp hmem).1).2
  | undoMembers id =>
      exact h.editGroup id (fun _ => rfl) (fun _ => rfl) fun _ _ hmem => .inl (.inr (mem_undeleted.mp hmem).1)
  | modifyGroup id runtime =>
      refine h.editGroup id (fun group => ?_) (fun group => ?_) fun group other hmem => .inl (.inl ?_)
      · cases runtime <;> rfl
      · cases runtime <;> rfl
      · cases runtime <;> exact hmem
  | saveContact id => exact h.saveContact id
  | saveGroup id =>
      unfold step
      dsimp only
      split
      next group hget => exact h.saveGroup hget (hcareful group hget)
      next => exact h
  | deleteContact order id => exact h.deleteContact order hcareful
  | deleteGroup id => exact h.deleteGroup id

/-! ### Loading -/

/-- While the contacts are loaded. -/
structure LoadingContacts (store : LocalStore) (names : List String) : Prop where
  contactMap : ∀ id, id ∈ store.contactMap ↔ store.contacts.get id = some .active
  active : ∀ id, store.contacts.get id ≠ none → store.contacts.get id = some .active
  stored : ∀ id, id ∈ store.storedContacts ↔ id ∈ store.contactMap ∨ id ∈ names
  groups : store.groups = .empty ∧ store.groupMap = ∅

theorem LoadingContacts.newContact {names : List String} (h : self.LoadingContacts (id :: names)) :
    (self.newContact id).LoadingContacts names ∧ (self.newContact id).storedGroups = self.storedGroups := by
  unfold LocalStore.newContact
  split
  next htaken =>
    have hmem : id ∈ self.contactMap :=
      (h.contactMap id).mpr (h.active id (Option.isSome_iff_ne_none.mp htaken))
    refine ⟨⟨h.contactMap, h.active, fun other => ?_, h.groups⟩, rfl⟩
    rw [h.stored, List.mem_cons]
    constructor
    · rintro (hmap | rfl | hnames)
      · exact .inl hmap
      · exact .inl hmem
      · exact .inr hnames
    · exact fun hmem => hmem.imp_right .inr
  next hfree =>
    rw [if_pos ((h.stored id).mpr (.inr List.mem_cons_self))]
    refine ⟨⟨?_, ?_, ?_, h.groups⟩, rfl⟩
    · intro other
      show other ∈ insert id self.contactMap ↔ (self.contacts.set id .active).get other = some .active
      rw [SortedDict.Dict.get_set, Finset.mem_insert, h.contactMap]
      split
      next heq => simp [heq]
      next hne => simp [hne]
    · intro other hother
      have hother : (self.contacts.set id .active).get other ≠ none := hother
      show (self.contacts.set id .active).get other = some .active
      rw [SortedDict.Dict.get_set] at hother ⊢
      split at hother
      next heq => rw [if_pos heq]
      next hne =>
        rw [if_neg hne]
        exact h.active other hother
    · intro other
      show other ∈ self.storedContacts ↔ other ∈ insert id self.contactMap ∨ other ∈ names
      rw [h.stored, Finset.mem_insert, List.mem_cons, or_left_comm, or_assoc]

theorem LoadingContacts.foldl {names : List String} (h : self.LoadingContacts names) :
    (names.foldl LocalStore.newContact self).LoadingContacts [] ∧
      (names.foldl LocalStore.newContact self).storedGroups = self.storedGroups := by
  induction names generalizing self with
  | nil => exact ⟨h, rfl⟩
  | cons id names ih =>
      obtain ⟨hnext, hsame⟩ := h.newContact
      obtain ⟨hlast, hgroups⟩ := ih hnext
      exact ⟨hlast, hgroups.trans hsame⟩

/-- While the groups are loaded. -/
structure LoadingGroups (store : LocalStore) (names : List String) : Prop where
  contactMap : ∀ id, id ∈ store.contactMap ↔ store.contacts.get id = some .active
  contactIds : store.contactMap = store.storedContacts
  groupMap : ∀ id, id ∈ store.groupMap ↔ ∃ group, store.groups.get id = some group ∧ group.state = .active
  active : ∀ id group, store.groups.get id = some group → group.state = .active ∧
    group.contacts = group.oldContacts ∧ store.storedGroups.get id = some group.oldContacts ∧
      group.oldContacts ⊆ store.contactMap
  stored : ∀ id, (store.storedGroups.get id).isSome ↔ id ∈ store.groupMap ∨ id ∈ names

theorem LoadingGroups.newGroup {names : List String} (h : self.LoadingGroups (id :: names)) :
    (self.newGroup id).LoadingGroups names := by
  unfold LocalStore.newGroup
  split
  next htaken =>
    obtain ⟨group, hget⟩ := Option.isSome_iff_exists.mp htaken
    have hmem : id ∈ self.groupMap := (h.groupMap id).mpr ⟨group, hget, (h.active id group hget).1⟩
    refine ⟨h.contactMap, h.contactIds, h.groupMap, h.active, fun other => ?_⟩
    rw [h.stored, List.mem_cons]
    constructor
    · rintro (hmap | rfl | hnames)
      · exact .inl hmap
      · exact .inl hmem
      · exact .inr hnames
    · exact fun hmem => hmem.imp_right .inr
  next hfree =>
    obtain ⟨ids, hids⟩ := Option.isSome_iff_exists.mp ((h.stored id).mpr (.inr List.mem_cons_self))
    simp only [hids]
    let contacts := ids.filter (· ∈ self.contactMap)
    let group : GroupObject := { state := .active, contacts, oldContacts := contacts }
    have hget : ∀ other, (self.groups.set id group).get other = if other = id then some group else self.groups.get other :=
      fun other => SortedDict.Dict.get_set self.groups other id group
    have hstored : ∀ other, (self.storedGroups.set id contacts).get other =
        if other = id then some contacts else self.storedGroups.get other :=
      fun other => SortedDict.Dict.get_set self.storedGroups other id contacts
    refine ⟨h.contactMap, h.contactIds, ?_, ?_, ?_⟩
    · intro other
      show other ∈ insert id self.groupMap ↔
        ∃ found, (self.groups.set id group).get other = some found ∧ found.state = .active
      rw [hget, Finset.mem_insert, h.groupMap]
      split
      next heq => exact iff_of_true (.inl heq) ⟨group, rfl, rfl⟩
      next hne => rw [or_iff_right hne]
    · intro other found hfound
      have hfound : (self.groups.set id group).get other = some found := hfound
      show found.state = .active ∧ found.contacts = found.oldContacts ∧
        (self.storedGroups.set id contacts).get other = some found.oldContacts ∧ found.oldContacts ⊆ self.contactMap
      rw [hget] at hfound
      rw [hstored]
      split at hfound
      next heq =>
        rw [if_pos heq, ← Option.some.inj hfound]
        exact ⟨rfl, rfl, rfl, fun contact hmem => (Finset.mem_filter.mp hmem).2⟩
      next hne =>
        rw [if_neg hne]
        exact h.active other found hfound
    · intro other
      show ((self.storedGroups.set id contacts).get other).isSome ↔ other ∈ insert id self.groupMap ∨ other ∈ names
      rw [hstored, Finset.mem_insert]
      split
      next heq => exact iff_of_true rfl (.inl (.inl heq))
      next hne => rw [h.stored, List.mem_cons, or_iff_right hne, or_iff_right hne]

theorem LoadingGroups.foldl {names : List String} (h : self.LoadingGroups names) :
    (names.foldl LocalStore.newGroup self).LoadingGroups [] := by
  induction names generalizing self with
  | nil => exact h
  | cons id names ih => exact ih h.newGroup

theorem LoadingGroups.sound (h : self.LoadingGroups []) : self.Sound := by
  have hstored : ∀ id, id ∈ self.groupMap ↔ (self.storedGroups.get id).isSome := by
    intro id
    rw [h.stored, or_iff_left List.not_mem_nil]
  refine ⟨⟨h.groupMap, hstored, fun id group hget _ => (h.active id group hget).2.2.1, ?_⟩, h.contactMap, h.contactIds,
    ?_⟩
  · intro id group hget contact hrefers
    obtain ⟨_, hsame, _, hsubset⟩ := h.active id group hget
    rw [Refers, hsame, or_self] at hrefers
    rw [(h.contactMap contact).mp (hsubset hrefers)]
    nofun
  · intro id ids hids
    obtain ⟨group, hget, _⟩ := (h.groupMap id).mp ((hstored id).mpr (by rw [hids]; rfl))
    obtain ⟨_, _, hold, hsubset⟩ := h.active id group hget
    rw [Option.some.inj (hids.symm.trans hold), ← h.contactIds]
    exact hsubset

theorem sound_load (contacts : List String) (groups : Dict String (Finset String)) : (load contacts groups).Sound := by
  have hstart : LoadingContacts { storedContacts := contacts.toFinset, storedGroups := groups } contacts := by
    refine ⟨fun id => iff_of_false (Finset.notMem_empty id) nofun, fun id hsome => absurd rfl hsome, fun id => ?_,
      ⟨rfl, rfl⟩⟩
    rw [List.mem_toFinset, or_iff_right (Finset.notMem_empty id)]
  obtain ⟨hcontacts, hgroups⟩ := hstart.foldl
  apply LoadingGroups.sound
  apply LoadingGroups.foldl
  obtain ⟨hnone, hmap⟩ := hcontacts.groups
  refine ⟨hcontacts.contactMap, ?_, ?_, ?_, ?_⟩
  · ext id
    rw [hcontacts.stored, or_iff_left List.not_mem_nil]
  · intro id
    rw [hnone, hmap]
    exact iff_of_false (Finset.notMem_empty id) (by rintro ⟨_, hget, _⟩; cases hget)
  · intro id group hget
    rw [hnone] at hget
    cases hget
  · intro id
    rw [hgroups, hmap, or_iff_right (Finset.notMem_empty id)]
    exact SortedDict.isSome_lookup

/-! ### Runs -/

end LocalStore

end SipSimple.AddressBook
