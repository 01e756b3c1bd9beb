import SipSimple.AddressBook.Manager
import SipSimple.AddressBook.Snapshots

/-!
# The invariant of the addressbook manager

Whatever the program and the reloads do, every stored object is what its live object was at its last
save, and the live objects have the shared settings of their classes.
-/

namespace SipSimple.AddressBook

open Payloads (PolicyValue Attributes)
open Account.Xcap (PyError)
open KeyedList (Collection)

/-! ### Shared settings -/

/-- An object has the shared settings of its class. -/
def SharedTypes.Fits (types : SharedTypes) (settings : SharedSettings) : Prop :=
  ∀ name, (settings.get name).isSome = (types.get name).isSome

namespace SharedTypes

variable {types : SharedTypes}

theorem fits_new (types : SharedTypes) : types.Fits types.new := fun name => by
  rw [new, SortedDict.Dict.get_filterMap]
  cases types.get name <;> rfl

theorem Fits.assign {settings : SharedSettings} (h : types.Fits settings) (name : String)
    (value : Option String) : types.Fits (settings.assign name value) := fun key => by
  rw [SharedSettings.assign, ← h key]
  cases hget : settings.get name with
  | none => rfl
  | some setting =>
      rw [SortedDict.Dict.get_set]
      split_ifs with hkey
      · rw [hkey, hget]
        rfl
      · rfl

theorem Fits.sync {settings : SharedSettings} (h : types.Fits settings) : types.Fits settings.sync :=
  fun key => by
    rw [SharedSettings.sync, SortedDict.Dict.get_filterMap, ← h key]
    cases settings.get key <;> rfl

/-- What `setattr` of remote attributes keeps, also if it raises. -/
theorem setAll_keeps (order : HashOrder String) (attributes : Attributes) {settings : SharedSettings}
    (h : types.Fits settings) :
    types.Fits (types.setAll order attributes settings).1 ∧
      (types.setAll order attributes settings).1.oldValues = settings.oldValues := by
  refine Loops.forEach_keeps (fun other => types.Fits other ∧ other.oldValues = settings.oldValues)
    (fun other name hother => ?_) _ ⟨h, rfl⟩
  rw [setOne]
  split
  next type value _ _ =>
    cases type.convert value with
    | none => exact hother
    | some value' =>
        exact ⟨hother.1.assign name value',
          (SharedSettings.oldValues_assign other name value').trans hother.2⟩
  next => exact hother

end SharedTypes

/-! ### URIs -/

/-- The URI objects of a contact have the shared settings of their class. -/
def ContactURIList.Fits (types : SharedTypes) (uris : ContactURIList) : Prop :=
  ∀ id entry, KeyedList.find URIEntry.id id uris.entries = some entry →
    types.Fits entry.uri.attributes

namespace ContactURIList

variable {types : SharedTypes} {uris : ContactURIList}

theorem Fits.modify (h : uris.Fits types) (id : String) {f : ContactURI → ContactURI}
    (hid : ∀ uri, (f uri).id = uri.id)
    (hf : ∀ entry, KeyedList.find URIEntry.id id uris.entries = some entry →
      types.Fits (f entry.uri).attributes) : (uris.modify id f hid).Fits types := by
  intro id' entry' hfind
  rw [uris.find_modify id hid] at hfind
  split_ifs at hfind with hid'
  · obtain ⟨entry, hentry, rfl⟩ := Option.map_eq_some_iff.mp hfind
    exact hf entry (hid' ▸ hentry)
  · exact h _ _ hfind

theorem Fits.put (h : uris.Fits types) {uri : ContactURI} (huri : types.Fits uri.attributes) :
    (uris.put uri).Fits types := by
  have hentry : types.Fits (uris.entryFor uri).uri.attributes := by
    rw [entryFor]
    split
    next old hold =>
      split_ifs
      · exact h _ old hold
      · exact huri
    next => exact huri
  intro id entry hfind
  rw [ContactURIList.put, KeyedList.find_assign] at hfind
  split_ifs at hfind
  · exact Option.some.inj hfind ▸ hentry
  · exact h _ _ hfind

theorem Fits.add (h : uris.Fits types) {uri : ContactURI} (huri : types.Fits uri.attributes) :
    (uris.add uri).Fits types := by
  rw [ContactURIList.add]
  split_ifs
  · exact h
  · exact h.put huri

theorem Fits.remove (h : uris.Fits types) (id : String) : (uris.remove id).Fits types := by
  intro id' entry' hfind
  rw [ContactURIList.remove, KeyedList.find_modify URIEntry.id_drop] at hfind
  split_ifs at hfind
  · obtain ⟨entry, hentry, rfl⟩ := Option.map_eq_some_iff.mp hfind
    exact h _ entry hentry
  · exact h _ _ hfind

theorem Fits.foldl_remove (h : uris.Fits types) (ids : List String) :
    (ids.foldl ContactURIList.remove uris).Fits types := by
  induction ids generalizing uris with
  | nil => exact h
  | cons id ids ih => exact ih (h.remove id)

theorem Fits.setItems (h : uris.Fits types) {items : List ContactURI}
    (hitems : ∀ uri ∈ items, types.Fits uri.attributes) : (uris.setItems items).Fits types := by
  have hadd : ∀ (items : List ContactURI) (uris : ContactURIList), uris.Fits types →
      (∀ uri ∈ items, types.Fits uri.attributes) →
        (items.foldl ContactURIList.add uris).Fits types := by
    intro items
    induction items with
    | nil => exact fun uris huris _ => huris
    | cons uri items ih =>
        exact fun uris huris hall => ih _ (huris.add (hall uri List.mem_cons_self))
          fun other hmem => hall other (List.mem_cons_of_mem _ hmem)
  simp only [ContactURIList.setItems]
  split_ifs
  · exact h
  · exact hadd items _ (h.foldl_remove _) hitems

theorem Fits.setDefault (h : uris.Fits types) (id : Option String) :
    (uris.setDefault id).Fits types := by
  rw [ContactURIList.setDefault]
  split_ifs
  · exact h
  · exact h

theorem Fits.sync (h : uris.Fits types) : uris.sync.Fits types := by
  intro id entry' hfind
  rw [ContactURIList.sync, KeyedList.find_map URIEntry.id_sync,
    KeyedList.find_filter uris.distinct] at hfind
  obtain ⟨entry, hentry, rfl⟩ := Option.map_eq_some_iff.mp hfind
  exact (h _ entry (Option.filter_eq_some_iff.mp hentry).1).sync

end ContactURIList

/-! ### Contacts -/

/-- What holds of a live contact by itself. -/
structure Contact.Shaped (extensions : Extensions) (contact : Contact) : Prop where
  state : contact.state ≠ .deleted
  xcap : ∀ saved, contact.xcapContact = some saved → saved.id = contact.id
  known : contact.active = true → contact.xcapContact.isSome = true
  attributes : extensions.contact.Fits contact.attributes
  uris : contact.uris.Fits extensions.uri

/-- The URI objects that an edit brings have the shared settings of their class. -/
def ContactEdit.Fits (types : SharedTypes) : ContactEdit → Prop
  | .addURI uri => types.Fits uri.attributes
  | .setURIs uris => ∀ uri ∈ uris, types.Fits uri.attributes
  | _ => True

namespace Contact

variable {extensions : Extensions} {contact : Contact}

theorem shaped_new (extensions : Extensions) (id : String) :
    (Contact.new extensions.contact id).Shaped extensions where
  state h := nomatch h
  xcap _ h := nomatch h
  known h := nomatch h
  attributes := extensions.contact.fits_new
  uris _ _ h := nomatch h

theorem Shaped.edit (h : contact.Shaped extensions) {edit : ContactEdit}
    (hedit : edit.Fits extensions.uri) : (contact.edit edit).Shaped extensions := by
  cases edit with
  | shared name value => exact { h with attributes := h.attributes.assign name value }
  | extension runtime => cases runtime <;> exact { h with }
  | addURI uri => exact { h with uris := h.uris.add hedit }
  | removeURI id => exact { h with uris := h.uris.remove id }
  | setURIs uris => exact { h with uris := h.uris.setItems hedit }
  | uriURI id value => exact { h with uris := h.uris.modify id _ (h.uris id) }
  | uriType id value => exact { h with uris := h.uris.modify id _ (h.uris id) }
  | uriAttribute id name value =>
      exact { h with
        uris := h.uris.modify id _ fun entry hentry => (h.uris id entry hentry).assign name value }
  | uriExtension id => exact { h with uris := h.uris.modify id _ (h.uris id) }
  | defaultURI id => exact { h with uris := h.uris.setDefault id }
  | _ => exact { h with }

/-- A contact after its save. -/
theorem save_cases (h : contact.state ≠ .deleted) (order : HashOrder ContactURI) :
    (contact.save order).1 =
        { contact.sync with state := .active, xcapContact := some contact.toxcap } ∨
      (contact.save order).1 = contact ∧ contact.active = true ∧ contact.isModified = false := by
  rw [save]
  cases hstate : contact.state with
  | deleted => exact absurd hstate h
  | new => exact .inl rfl
  | active =>
      have hsaved : { contact.sync with xcapContact := some contact.toxcap } =
          { contact.sync with state := .active, xcapContact := some contact.toxcap } := by
        rw [← hstate]
        rfl
      dsimp only
      by_cases hmodified : contact.isModified = true
      · rw [if_pos hmodified]
        exact .inl hsaved
      · rw [if_neg hmodified]
        split_ifs
        · exact .inl hsaved
        · exact .inr ⟨rfl, by simp [active, hstate], by simpa using hmodified⟩

theorem Shaped.save (h : contact.Shaped extensions) (order : HashOrder ContactURI) :
    (contact.save order).1.Shaped extensions := by
  rcases save_cases h.state order with hsaved | ⟨hsaved, _, _⟩
  · rw [hsaved]
    exact {
      state := fun hstate => nomatch hstate
      xcap := fun saved hsaved => Option.some.inj hsaved ▸ rfl
      known := fun _ => rfl
      attributes := h.attributes.sync
      uris := h.uris.sync }
  · rw [hsaved]
    exact h

/-- Of a contact that is not modified, the card of the last save is the current one. -/
theorem card_of_not_modified {card : ContactCard} (hsynced : contact.Synced card)
    (h : contact.isModified = false) : card = xcapCard contact.toxcap := by
  have hfold := foldl_operations hsynced .same
  rwa [operations_of_not_modified h] at hfold

theorem SyncedXcap.sync_of_not_modified {old : Account.Xcap.Contact} (hsynced : contact.SyncedXcap old)
    (h : contact.isModified = false) : contact.sync.SyncedXcap old :=
  ⟨hsynced.1, card_of_not_modified hsynced.2 h ▸ contact.synced_sync⟩

end Contact

/-! ### Groups -/

/-- What holds of a live group by itself. A stored group has no deleted members. -/
structure Group.Shaped (extensions : Extensions) (group : Group) : Prop where
  state : group.state ≠ .deleted
  members : group.active = true → ∀ member ∈ group.contacts, member.deleted = false
  attributes : extensions.group.Fits group.attributes

/-- An edit other than that a member was deleted. -/
def GroupEdit.Local : GroupEdit → Prop
  | .contactDeleted _ => False
  | _ => True

namespace Group

variable {extensions : Extensions} {group : Group}

theorem shaped_new (extensions : Extensions) (id : String) :
    (Group.new extensions.group id).Shaped extensions where
  state h := nomatch h
  members h := nomatch h
  attributes := extensions.group.fits_new

theorem addMember_kept {group : Group} {member : GroupMember} (hmember : member.deleted = false)
    (h : ∀ member ∈ group.contacts, member.deleted = false) :
    ∀ other ∈ (group.addMember member).contacts, other.deleted = false := by
  intro other hother
  rcases KeyedList.mem_assign hother with rfl | hmem
  · exact hmember
  · exact h other hmem

theorem foldl_addMember_kept (contacts : List Account.Xcap.Contact) {group : Group}
    (h : ∀ member ∈ group.contacts, member.deleted = false) :
    ∀ other ∈ ((contacts.map fun contact => ⟨contact, false⟩).foldl addMember group).contacts,
      other.deleted = false := by
  induction contacts generalizing group with
  | nil => exact h
  | cons contact contacts ih =>
      rw [List.map_cons, List.foldl_cons]
      exact ih (addMember_kept rfl h)

theorem Shaped.edit (h : group.Shaped extensions) {edit : GroupEdit}
    (hedit : edit.Local ∨ group.active = false) : (group.edit edit).Shaped extensions := by
  cases edit with
  | shared name value => exact { h with attributes := h.attributes.assign name value }
  | extension runtime => cases runtime <;> exact { h with }
  | addContact contact =>
      exact { h with members := fun hactive => addMember_kept rfl (h.members hactive) }
  | removeContact id =>
      exact { h with
        members := fun hactive member hmember =>
          h.members hactive member (List.mem_of_mem_filter hmember) }
  | setContacts contacts =>
      obtain ⟨contacts', hdistinct, hadded⟩ := foldl_addMember
        (contacts.map fun contact => ⟨contact, false⟩)
        { group with contacts := [], distinct := List.nodup_nil }
      have hempty : ∀ member ∈ ({ group with
          contacts := [], distinct := List.nodup_nil } : Group).contacts, member.deleted = false :=
        fun _ h => nomatch h
      have hkept := foldl_addMember_kept contacts hempty
      rw [hadded] at hkept
      rw [Group.edit, hadded]
      exact { h with members := fun _ => hkept }
  | contactSaved contact =>
      refine { h with members := fun hactive member hmember => ?_ }
      obtain ⟨old, hold, heq | ⟨_, heq⟩⟩ := KeyedList.mem_modify hmember
      · exact heq ▸ h.members hactive old hold
      · exact heq ▸ h.members hactive old hold
  | contactDeleted id =>
      refine { h with members := fun hactive => ?_ }
      have hinactive : group.active = false := hedit.resolve_left False.elim
      exact absurd (hinactive.symm.trans hactive) (by decide)
  | name value => exact { h with }

theorem members_kept (group : Group) : ∀ member ∈ group.members, member.deleted = false := by
  intro member hmember
  simpa using (List.mem_filter.mp hmember).2

/-- A group after its save. -/
theorem save_cases (h : group.state ≠ .deleted) (order : HashOrder GroupMember) :
    (group.save order).1 = { group.sync with state := .active, xcapGroup := some group.toxcap } ∨
      (group.save order).1 =
          { group with contacts := group.members, distinct := group.distinct_members } ∧
        group.active = true ∧ group.isModified = false := by
  rw [save]
  cases hstate : group.state with
  | deleted => exact absurd hstate h
  | new => exact .inl rfl
  | active =>
      have hsaved : { group.sync with xcapGroup := some group.toxcap } =
          { group.sync with state := .active, xcapGroup := some group.toxcap } := by
        rw [← hstate]
        rfl
      dsimp only
      by_cases hmodified : group.isModified = true
      · rw [if_pos hmodified]
        exact .inl hsaved
      · rw [if_neg hmodified]
        split_ifs
        · exact .inl hsaved
        · exact .inr ⟨by simp [← hstate], by simp [active, hstate], by simpa using hmodified⟩

theorem Shaped.save (h : group.Shaped extensions) (order : HashOrder GroupMember) :
    (group.save order).1.Shaped extensions := by
  rcases save_cases h.state order with hsaved | ⟨hsaved, _, _⟩
  · rw [hsaved]
    exact ⟨fun hstate => (nomatch hstate), fun _ => members_kept group, h.attributes.sync⟩
  · rw [hsaved]
    exact { h with members := fun _ => members_kept group }

/-- Of a group that is not modified, the card of the last save is the current one. -/
theorem card_of_not_modified {old : Account.Xcap.Group} (hsynced : group.Synced old)
    (h : group.isModified = false) : xcapGroupCard old = xcapGroupCard group.toxcap := by
  have hfold := foldl_operations hsynced .same
  rwa [operations_of_not_modified h] at hfold

theorem Synced.sync_of_not_modified {old : Account.Xcap.Group} (hsynced : group.Synced old)
    (h : group.isModified = false) : group.sync.Synced old := by
  have hcard := card_of_not_modified hsynced h
  have hsync := group.synced_sync
  exact
    { id := hsynced.id
      name := (congrArg GroupCard.name hcard).trans hsync.name
      members := fun id =>
        (Set.ext_iff.mp (congrArg GroupCard.members hcard) id).trans (hsync.members id)
      attributes := (congrArg GroupCard.attributes hcard).trans hsync.attributes }

end Group

/-! ### Policies -/

structure Policy.Shaped (extensions : Extensions) (policy : Policy) : Prop where
  state : policy.state ≠ .deleted
  attributes : extensions.policy.Fits policy.attributes

namespace Policy

variable {extensions : Extensions} {policy : Policy}

theorem shaped_new (extensions : Extensions) (id : String) :
    (Policy.new extensions.policy id).Shaped extensions where
  state h := nomatch h
  attributes := extensions.policy.fits_new

theorem Shaped.edit (h : policy.Shaped extensions) (edit : PolicyEdit) :
    (policy.edit edit).Shaped extensions := by
  cases edit with
  | shared name value => exact { h with attributes := h.attributes.assign name value }
  | extension runtime => cases runtime <;> exact { h with }
  | _ => exact { h with }

/-- A policy after its save. -/
theorem save_cases (h : policy.state ≠ .deleted) :
    policy.save.1 = { policy.sync with state := .active, xcapPolicy := some policy.toxcap } ∨
      policy.save.1 = policy ∧ policy.active = true ∧ policy.isModified = false := by
  rw [save]
  cases hstate : policy.state with
  | deleted => exact absurd hstate h
  | new => exact .inl rfl
  | active =>
      have hsaved : { policy.sync with xcapPolicy := some policy.toxcap } =
          { policy.sync with state := .active, xcapPolicy := some policy.toxcap } := by
        rw [← hstate]
        rfl
      dsimp only
      by_cases hmodified : policy.isModified = true
      · rw [if_pos hmodified]
        exact .inl hsaved
      · rw [if_neg hmodified]
        split_ifs
        · exact .inl hsaved
        · exact .inr ⟨rfl, by simp [active, hstate], by simpa using hmodified⟩

theorem Shaped.save (h : policy.Shaped extensions) : policy.save.1.Shaped extensions := by
  rcases save_cases h.state with hsaved | ⟨hsaved, _, _⟩
  · rw [hsaved]
    exact ⟨fun hstate => (nomatch hstate), h.attributes.sync⟩
  · rw [hsaved]
    exact h

/-- Of a policy that is not modified, what was saved last is the current one. -/
theorem eq_of_not_modified {old : Account.Xcap.Policy} (hsynced : policy.Synced old)
    (h : policy.isModified = false) : old = policy.toxcap := by
  have hempty : policy.modified = {} := by
    simp only [isModified, Bool.or_eq_false_iff, decide_eq_false_iff_not, not_not] at h
    exact h.1
  rw [← update_modified hsynced, hempty]
  rfl

end Policy

/-! ### The manager -/

structure Manager.Sound (extensions : Extensions) (manager : Manager) : Prop where
  contacts : manager.contacts.Sound Contact.active (Contact.Shaped extensions) Contact.SyncedXcap
  groups : manager.groups.Sound Group.active (Group.Shaped extensions) Group.Synced
  policies : manager.policies.Sound Policy.active (Policy.Shaped extensions) Policy.Synced

namespace Manager

variable {extensions : Extensions} {manager : Manager}

theorem sound_empty (extensions : Extensions) : ({} : Manager).Sound extensions :=
  ⟨LiveStore.sound_empty, LiveStore.sound_empty, LiveStore.sound_empty⟩

theorem modified_false {state : ObjectState} {modified : Bool}
    (h : (decide (state = .new) || modified) = false) (hdeleted : state ≠ .deleted) :
    state = .active ∧ modified = false := by
  cases state <;> simp_all

theorem sound_savePolicy {policies : Policies}
    (h : policies.Sound Policy.active (Policy.Shaped extensions) Policy.Synced) {policy : Policy}
    (hshaped : policy.Shaped extensions)
    (hstep : policies.InStep Policy.active Policy.Synced policy) :
    (savePolicy policies policy).Sound Policy.active (Policy.Shaped extensions) Policy.Synced ∧
      ((savePolicy policies policy).stored.get policy.id).map id = some policy.toxcap := by
  have hsaved := Policy.save_cases hshaped.state
  refine h.saveIf hstep ?_ rfl hshaped.save ?_ ?_ ?_
  · rcases hsaved with heq | ⟨heq, _, _⟩ <;> exact (congrArg Policy.id heq).trans rfl
  · rcases hsaved with heq | ⟨heq, hactive, _⟩
    · rw [heq]
      rfl
    · rw [heq, hactive]
  · intro hmodified
    rcases hsaved with heq | ⟨heq, hactive, hunmodified⟩
    · rw [heq]
      exact { policy.synced_sync with }
    · simp_all [Policy.active]
  · intro hmodified
    obtain ⟨hactive, hunmodified⟩ := modified_false hmodified hshaped.state
    refine ⟨by simp [Policy.active, hactive], fun old hold => ?_⟩
    have heq := Policy.eq_of_not_modified hold hunmodified
    refine ⟨?_, heq⟩
    rcases hsaved with hafter | ⟨hafter, _, _⟩
    · rw [hafter, heq]
      exact { policy.synced_sync with }
    · rw [hafter]
      exact hold

theorem sound_saveGroup {groups : Groups}
    (h : groups.Sound Group.active (Group.Shaped extensions) Group.Synced) {group : Group}
    (hshaped : group.Shaped extensions) (hstep : groups.InStep Group.active Group.Synced group) :
    (saveGroup groups group).Sound Group.active (Group.Shaped extensions) Group.Synced ∧
      ((saveGroup groups group).stored.get group.id).map xcapGroupCard =
        some (xcapGroupCard group.toxcap) := by
  have hsaved := Group.save_cases hshaped.state .same
  refine h.saveIf hstep ?_ rfl (hshaped.save .same) ?_ ?_ ?_
  · rcases hsaved with heq | ⟨heq, _, _⟩ <;> exact (congrArg Group.id heq).trans rfl
  · rcases hsaved with heq | ⟨heq, hactive, _⟩
    · rw [heq]
      rfl
    · rw [heq]
      exact hactive
  · intro hmodified
    rcases hsaved with heq | ⟨heq, hactive, hunmodified⟩
    · rw [heq]
      exact { group.synced_sync with }
    · simp_all [Group.active]
  · intro hmodified
    obtain ⟨hactive, hunmodified⟩ := modified_false hmodified hshaped.state
    refine ⟨by simp [Group.active, hactive], fun old hold => ?_⟩
    refine ⟨?_, Group.card_of_not_modified hold hunmodified⟩
    rcases hsaved with hafter | ⟨hafter, _, _⟩
    · rw [hafter]
      exact { hold.sync_of_not_modified hunmodified with }
    · rw [hafter]
      exact { hold with }

theorem sound_saveContacts {contacts : Contacts}
    (h : contacts.Sound Contact.active (Contact.Shaped extensions) Contact.SyncedXcap)
    {contact : Contact} (hshaped : contact.Shaped extensions)
    (hstep : contacts.InStep Contact.active Contact.SyncedXcap contact) :
    let contacts' := contacts.saveIf (contact.state = .new || contact.isModified)
      (contact.save .same).1 contact.toxcap
    contacts'.Sound Contact.active (Contact.Shaped extensions) Contact.SyncedXcap ∧
      (contacts'.stored.get contact.id).map xcapCard = some (xcapCard contact.toxcap) := by
  have hsaved := Contact.save_cases hshaped.state .same
  refine h.saveIf hstep ?_ rfl (hshaped.save .same) ?_ ?_ ?_
  · rcases hsaved with heq | ⟨heq, _, _⟩ <;> exact (congrArg Contact.id heq).trans rfl
  · rcases hsaved with heq | ⟨heq, hactive, _⟩
    · rw [heq]
      rfl
    · rw [heq, hactive]
  · intro hmodified
    rcases hsaved with heq | ⟨heq, hactive, hunmodified⟩
    · rw [heq]
      exact ⟨rfl, { contact.synced_sync with }⟩
    · simp_all [Contact.active]
  · intro hmodified
    obtain ⟨hactive, hunmodified⟩ := modified_false hmodified hshaped.state
    refine ⟨by simp [Contact.active, hactive], fun old hold => ?_⟩
    refine ⟨?_, Contact.card_of_not_modified hold.2 hunmodified⟩
    rcases hsaved with hafter | ⟨hafter, _, _⟩
    · rw [hafter]
      obtain ⟨hid, hsync⟩ := hold.sync_of_not_modified hunmodified
      exact ⟨hid, { hsync with }⟩
    · rw [hafter]
      exact hold

theorem sound_refresh {groups : Groups}
    (h : groups.Sound Group.active (Group.Shaped extensions) Group.Synced)
    (saved : Option Account.Xcap.Contact) :
    (groups.map (Group.refresh saved) (Group.id_refresh saved)).Sound Group.active
      (Group.Shaped extensions) Group.Synced := by
  refine h.map _ (fun group hshaped => ?_) (fun group => ?_) fun group old hsynced => ?_
  · cases saved with
    | none => exact hshaped
    | some contact =>
        have hedit : (GroupEdit.contactSaved contact).Local := trivial
        exact hshaped.edit (.inl hedit)
  · cases saved <;> rfl
  · cases saved with
    | none => exact hsynced
    | some contact => exact Group.synced_edit hsynced (.contactSaved contact)

theorem Sound.saveContact (h : manager.Sound extensions) {contact : Contact}
    (hshaped : contact.Shaped extensions)
    (hstep : manager.contacts.InStep Contact.active Contact.SyncedXcap contact) :
    (manager.saveContact contact).Sound extensions where
  contacts := (sound_saveContacts h.contacts hshaped hstep).1
  groups := sound_refresh h.groups _
  policies := h.policies

/-! ### Deletions -/

theorem sound_dropMember {groups : Groups}
    (h : groups.Sound Group.active (Group.Shaped extensions) Group.Synced) (contact id : String) :
    (dropMember contact groups id).Sound Group.active (Group.Shaped extensions) Group.Synced := by
  rw [dropMember]
  split
  next group hget =>
      have hedit : ∀ edit, (groups.InStep Group.active Group.Synced (group.edit edit)) := by
        intro edit
        obtain ⟨hid, hstate, _⟩ := group.edit_frame edit
        exact (h.inStep hget).edit hid (by rw [Group.active, Group.active, hstate])
          fun _ hold => Group.synced_edit hold edit
      split_ifs with hactive
      · have hshaped : (group.edit (.removeContact contact)).Shaped extensions :=
          (h.valid hget).edit (.inl trivial)
        exact (sound_saveGroup h hshaped (hedit _)).1
      · exact h
      · exact h.put ((h.valid hget).edit (.inr (by simpa using hactive))) (hedit _)
  next => exact h

theorem Sound.deleteContact (h : manager.Sound extensions) (id : String) :
    (manager.deleteContact id).Sound extensions where
  contacts := h.contacts.delete id
  groups := by
    have hfold : ∀ (ids : List String) (groups : Groups),
        groups.Sound Group.active (Group.Shaped extensions) Group.Synced →
          (ids.foldl (dropMember id) groups).Sound Group.active (Group.Shaped extensions)
            Group.Synced := by
      intro ids
      induction ids with
      | nil => exact fun groups hgroups => hgroups
      | cons other ids ih => exact fun groups hgroups => ih _ (sound_dropMember hgroups id other)
    exact hfold _ _ h.groups
  policies := h.policies

theorem Sound.deleteMissing (h : manager.Sound extensions) (remote : Account.Xcap.Addressbook) :
    (manager.deleteMissing remote).Sound extensions := by
  have hfold : ∀ (delete : Manager → String → Manager),
      (∀ {manager : Manager}, manager.Sound extensions → ∀ id, (delete manager id).Sound extensions) →
        ∀ (ids : List String) {manager : Manager}, manager.Sound extensions →
          (ids.foldl delete manager).Sound extensions := by
    intro delete hdelete ids
    induction ids with
    | nil => exact fun h => h
    | cons id ids ih => exact fun h => ih (hdelete h id)
  have hpolicies := hfold deletePolicy (fun h id => ⟨h.contacts, h.groups, h.policies.delete id⟩)
  have hgroups := hfold deleteGroup (fun h id => ⟨h.contacts, h.groups.delete id, h.policies⟩)
  exact hfold Manager.deleteContact (fun h id => h.deleteContact id) _ (hgroups _ (hpolicies _ h))

end Manager

/-! ### A reload -/

section Reload

variable {extensions : Extensions} {types : SharedTypes} {order : HashOrder String}

theorem ContactURIList.assignURI_keeps (remote : Account.Xcap.ContactURI) {uris : ContactURIList}
    (h : uris.Fits types) : (uris.assignURI types order remote).1.Fits types ∧
      KeepsSaved uris (uris.assignURI types order remote).1 := by
  rw [assignURI]
  split
  next entry hentry =>
      obtain ⟨hfits, hold⟩ := types.setAll_keeps order remote.attributes (h _ entry hentry)
      refine ⟨h.modify _ _ fun _ _ => hfits, ?_⟩
      refine ⟨rfl, fun id' => ?_⟩
      rw [uris.find_modify]
      split_ifs with hid
      · rw [hid, hentry]
        simp only [Option.map_some, Option.bind_some, URIEntry.savedURI, ContactURI.oldXcap,
          Setting.old_set, hold]
      · rfl
  next => exact ⟨h, .refl uris⟩

theorem ContactURIList.reloadURI_keeps (held : String → Bool) (remote : Account.Xcap.ContactURI)
    {uris : ContactURIList} (h : uris.Fits types) :
    (uris.reloadURI types order held remote).1.Fits types ∧
      KeepsSaved uris (uris.reloadURI types order held remote).1 := by
  rw [reloadURI]
  split_ifs
  · exact assignURI_keeps remote h
  · exact ⟨h, .refl uris⟩
  · exact ⟨h, .refl uris⟩
  · have hnew : (uris.put (.new types remote.id)).Fits types := h.put types.fits_new
    obtain ⟨hfits, hkeeps⟩ := assignURI_keeps remote hnew
    exact ⟨hfits, (keepsSaved_put uris _).trans hkeeps⟩

theorem ContactURIList.reloadURIs_keeps (order : HashOrder String) (held : String → Bool)
    (remote : List Account.Xcap.ContactURI) (uri : Option String) {uris : ContactURIList}
    (h : uris.Fits types) :
    (forEach (ContactURIList.nextURI types order held) remote (uris, uri)).1.1.Fits types ∧
      KeepsSaved uris
        (forEach (ContactURIList.nextURI types order held) remote (uris, uri)).1.1 := by
  refine Loops.forEach_keeps
    (fun state : ContactURIList × Option String => state.1.Fits types ∧ KeepsSaved uris state.1)
    (fun state item hstate => ?_) remote ⟨h, .refl uris⟩
  obtain ⟨hfits, hkeeps⟩ := ContactURIList.reloadURI_keeps
    (fun id => held id || state.2 = some id) item hstate.1
  exact ⟨hfits, hstate.2.trans hkeeps⟩

theorem ContactURIList.finishReload_keeps (remote : Account.Xcap.ContactURIList)
    {uris : ContactURIList} (h : uris.Fits types) :
    (uris.finishReload remote).Fits types ∧ KeepsSaved uris (uris.finishReload remote) :=
  ⟨(h.foldl_remove _).setDefault _,
    (keepsSaved_foldl keepsSaved_remove _ _).trans (keepsSaved_setDefault _ _)⟩

/-- A contact as a reload changes it. -/
theorem Contact.reload_keeps {contact : Contact} (hshaped : contact.Shaped extensions)
    (remote : Account.Xcap.Contact) {attributes : SharedSettings} {uris : ContactURIList}
    (hattributes : extensions.contact.Fits attributes ∧
      attributes.oldValues = contact.attributes.oldValues)
    (huris : uris.Fits extensions.uri ∧ KeepsSaved contact.uris uris) :
    let after : Contact :=
      { contact with
        name := contact.name.set remote.name
        presence := contact.presence.assign remote.presence
        dialog := contact.dialog.assign remote.dialog
        attributes := attributes
        uris := uris }
    after.Shaped extensions ∧ ∀ old, contact.SyncedXcap old → after.SyncedXcap old := by
  refine ⟨{ hshaped with attributes := hattributes.1, uris := huris.1 }, fun old hold => ?_⟩
  obtain ⟨hid, hsynced⟩ := hold
  exact ⟨hid, { hsynced with
    attributes := hsynced.attributes.trans hattributes.2.symm
    uri := fun id => (hsynced.uri id).trans (huris.2.2 id).symm
    default := hsynced.default.trans huris.2.1.symm }⟩

namespace Manager

variable {manager : Manager}

theorem Sound.abandonContact (h : manager.Sound extensions) {contact : Contact}
    (hshaped : contact.Shaped extensions)
    (hstep : manager.contacts.InStep Contact.active Contact.SyncedXcap contact) :
    (manager.abandonContact contact).Sound extensions := by
  rw [Manager.abandonContact]
  split_ifs
  · exact ⟨h.contacts.put hshaped hstep, h.groups, h.policies⟩
  · exact h

theorem Sound.reloadContact (h : manager.Sound extensions) (uri : Option String)
    (remote : Account.Xcap.Contact) :
    (Manager.reloadContact extensions order (manager, uri) remote).1.1.Sound extensions := by
  simp only [Manager.reloadContact]
  split
  next => exact h
  next contact hcontact =>
      obtain ⟨hkey, hshaped, hstep⟩ := h.contacts.obtain (fun _ => rfl)
        (Contact.shaped_new extensions) (fun _ => rfl) hcontact
      obtain ⟨hfits, hold⟩ :=
        extensions.contact.setAll_keeps order remote.attributes hshaped.attributes
      have hafter : ∀ {uris}, uris.Fits extensions.uri ∧ KeepsSaved contact.uris uris → _ :=
        fun huris => Contact.reload_keeps hshaped remote ⟨hfits, hold⟩ huris
      have hinStep : ∀ {after : Contact}, after.id = contact.id → after.state = contact.state →
          (∀ old, contact.SyncedXcap old → after.SyncedXcap old) →
            manager.contacts.InStep Contact.active Contact.SyncedXcap after :=
        fun hid hstate hsynced =>
          hstep.edit hid (by rw [Contact.active, Contact.active, hstate]) hsynced
      split
      next attributes error heq =>
          rw [heq] at hafter
          obtain ⟨hshaped', hsynced'⟩ := hafter ⟨hshaped.uris, .refl _⟩
          exact h.abandonContact hshaped' (hinStep rfl rfl hsynced')
      next attributes heq =>
          rw [heq] at hafter
          have huris := ContactURIList.reloadURIs_keeps order (manager.holdsURI contact.id)
            remote.uris.items uri hshaped.uris
          split
          next uris uri' error heq' =>
              rw [heq'] at huris
              obtain ⟨hshaped', hsynced'⟩ := hafter huris
              exact h.abandonContact hshaped' (hinStep rfl rfl hsynced')
          next uris uri' heq' =>
              rw [heq'] at huris
              obtain ⟨hfits', hkeeps'⟩ := ContactURIList.finishReload_keeps remote.uris huris.1
              obtain ⟨hshaped', hsynced'⟩ := hafter ⟨hfits', huris.2.trans hkeeps'⟩
              exact h.saveContact hshaped' (hinStep rfl rfl hsynced')

end Manager

/-- What changes of a live group keep. -/
structure Group.Keeps (extensions : Extensions) (before after : Group) : Prop where
  id : after.id = before.id
  active : after.active = before.active
  shaped : after.Shaped extensions
  synced : ∀ old, before.Synced old → after.Synced old

theorem Group.Keeps.edit {before after : Group} (h : before.Keeps extensions after)
    (edit : GroupEdit) (hlocal : edit.Local) : before.Keeps extensions (after.edit edit) := by
  obtain ⟨hid, hstate, _⟩ := after.edit_frame edit
  exact ⟨hid.trans h.id, by rw [← h.active, Group.active, Group.active, hstate],
    h.shaped.edit (.inl hlocal), fun old hold => Group.synced_edit (h.synced old hold) edit⟩

namespace Manager

variable {manager : Manager}

theorem addMembers_keeps (manager : Manager) {before : Group} (ids : List String) {group : Group}
    (h : before.Keeps extensions group) :
    before.Keeps extensions (manager.addMembers ids group).1 := by
  refine Loops.forEach_keeps (before.Keeps extensions) (fun other id hother => ?_) ids h
  cases manager.member id with
  | none => exact hother
  | some contact => exact hother.edit (.addContact contact) trivial

theorem removeMembers_keeps {before : Group} (ids : List String) {group : Group}
    (h : before.Keeps extensions group) :
    before.Keeps extensions (ids.foldl (fun group id => group.edit (.removeContact id)) group) := by
  induction ids generalizing group with
  | nil => exact h
  | cons id ids ih => exact ih (h.edit (.removeContact id) trivial)

theorem Sound.abandonGroup (h : manager.Sound extensions) {before after : Group}
    (hstep : manager.groups.InStep Group.active Group.Synced before)
    (hkeeps : before.Keeps extensions after) : (manager.abandonGroup after).Sound extensions := by
  rw [Manager.abandonGroup]
  split_ifs
  · exact ⟨h.contacts, h.groups.put hkeeps.shaped
      (hstep.edit hkeeps.id hkeeps.active hkeeps.synced), h.policies⟩
  · exact h

theorem Sound.reloadGroup (h : manager.Sound extensions) (remote : Account.Xcap.Group) :
    (manager.reloadGroup extensions order remote).1.Sound extensions := by
  rw [Manager.reloadGroup]
  split
  next => exact h
  next group hgroup =>
      obtain ⟨hkey, hshaped, hstep⟩ := h.groups.obtain (fun _ => rfl)
        (Group.shaped_new extensions) (fun _ => rfl) hgroup
      obtain ⟨hfits, hold⟩ := extensions.group.setAll_keeps order remote.attributes hshaped.attributes
      have hset : ∀ {attributes : SharedSettings}, extensions.group.Fits attributes →
          attributes.oldValues = group.attributes.oldValues → group.Keeps extensions
            { group with name := group.name.set remote.name, attributes := attributes } :=
        fun hfits hold => ⟨rfl, rfl, { hshaped with attributes := hfits }, fun old hsynced =>
          { hsynced with attributes := hsynced.attributes.trans hold.symm }⟩
      dsimp only
      split
      next attributes error heq =>
          rw [heq] at hfits hold
          exact h.abandonGroup hstep (hset hfits hold)
      next attributes heq =>
          rw [heq] at hfits hold
          have hadded := addMembers_keeps manager
            (order.order (remote.contacts.ids.filter (· ∉ group.contacts.map (·.id))))
            (hset hfits hold)
          split
          next added error heq' =>
              rw [heq'] at hadded
              exact h.abandonGroup hstep hadded
          next added heq' =>
              rw [heq'] at hadded
              have hremoved := removeMembers_keeps (order.order
                ((group.contacts.map (·.id)).filter (· ∉ remote.contacts.ids))) hadded
              exact ⟨h.contacts, (sound_saveGroup h.groups hremoved.shaped
                (hstep.edit hremoved.id hremoved.active hremoved.synced)).1, h.policies⟩

theorem Sound.reloadPolicy (h : manager.Sound extensions) (remote : Account.Xcap.Policy) :
    (manager.reloadPolicy extensions order remote).1.Sound extensions := by
  rw [Manager.reloadPolicy]
  split
  next => exact h
  next policy hpolicy =>
      obtain ⟨hkey, hshaped, hstep⟩ := h.policies.obtain (fun _ => rfl)
        (Policy.shaped_new extensions) (fun _ => rfl) hpolicy
      obtain ⟨hfits, hold⟩ :=
        extensions.policy.setAll_keeps order remote.attributes hshaped.attributes
      have hset : ∀ {attributes : SharedSettings}, extensions.policy.Fits attributes →
          attributes.oldValues = policy.attributes.oldValues →
            let after : Policy :=
              { policy with
                uri := policy.uri.set remote.uri
                name := policy.name.set remote.name
                presence := policy.presence.assign remote.presence
                dialog := policy.dialog.assign remote.dialog
                attributes := attributes }
            after.Shaped extensions ∧ manager.policies.InStep Policy.active Policy.Synced after :=
        fun hfits hold => ⟨{ hshaped with attributes := hfits }, hstep.edit rfl rfl
          fun old hsynced => { hsynced with attributes := hsynced.attributes.trans hold.symm }⟩
      dsimp only
      split
      next attributes error heq =>
          rw [heq] at hfits hold
          rw [Manager.abandonPolicy]
          split_ifs
          · exact ⟨h.contacts, h.groups, h.policies.put (hset hfits hold).1 (hset hfits hold).2⟩
          · exact h
      next attributes heq =>
          rw [heq] at hfits hold
          exact ⟨h.contacts, h.groups,
            (sound_savePolicy h.policies (hset hfits hold).1 (hset hfits hold).2).1⟩

/-- **A reload keeps the invariant**, wherever it ends. -/
theorem Sound.reload (h : manager.Sound extensions) (order : HashOrder String)
    (remote : Account.Xcap.Addressbook) : (manager.reload extensions order remote).Sound extensions := by
  have hloop : ∀ {α : Type} (f : Manager → α → Manager × Option PyError),
      (∀ manager item, manager.Sound extensions → (f manager item).1.Sound extensions) →
        ∀ (items : List α) {manager : Manager}, manager.Sound extensions →
          (forEach f items manager).1.Sound extensions :=
    fun f hf items _ h => Loops.forEach_keeps (Manager.Sound extensions) hf items h
  rw [Manager.reload]
  split_ifs
  · exact h
  · have hstart : ({ manager with xcapAddressbook := some remote } : Manager).Sound extensions :=
      ⟨h.contacts, h.groups, h.policies⟩
    have hcontacts : (forEach (Manager.reloadContact extensions order) remote.contacts.items
        ({ manager with xcapAddressbook := some remote }, none)).1.1.Sound extensions :=
      Loops.forEach_keeps (fun state : Manager × Option String => state.1.Sound extensions)
        (fun state item h => h.reloadContact state.2 item) remote.contacts.items hstart
    dsimp only
    split
    next first uri error heq =>
        rw [heq] at hcontacts
        exact hcontacts
    next first uri heq =>
        rw [heq] at hcontacts
        have hgroups := hloop (Manager.reloadGroup extensions order)
          (fun _ item h => h.reloadGroup item) remote.groups.items hcontacts
        split
        next second error heq' =>
            rw [heq'] at hgroups
            exact hgroups
        next second heq' =>
            rw [heq'] at hgroups
            have hpolicies := hloop (Manager.reloadPolicy extensions order)
              (fun _ item h => h.reloadPolicy item) remote.policies.items hgroups
            split
            next third error heq'' =>
                rw [heq''] at hpolicies
                exact hpolicies
            next third heq'' =>
                rw [heq''] at hpolicies
                exact hpolicies.deleteMissing remote

end Manager

end Reload

/-! ### Runs -/

namespace Manager

variable {extensions : Extensions} {manager : Manager}

theorem fits_resolveContact {id : String} {edit resolved : ContactEdit}
    (h : manager.resolveContact extensions id edit = some resolved) :
    resolved.Fits extensions.uri := by
  cases edit with
  | addURI uri =>
      rw [resolveContact] at h
      split_ifs at h
      exact Option.some.inj h ▸ extensions.uri.fits_new
  | setURIs uris =>
      rw [resolveContact] at h
      split_ifs at h
      rw [← Option.some.inj h]
      intro uri huri
      obtain ⟨old, _, rfl⟩ := List.mem_map.mp huri
      exact extensions.uri.fits_new
  | _ => exact Option.some.inj h ▸ trivial

theorem local_resolveGroup {edit resolved : GroupEdit}
    (h : manager.resolveGroup edit = some resolved) : resolved.Local := by
  cases edit with
  | addContact contact =>
      obtain ⟨_, _, rfl⟩ := Option.map_eq_some_iff.mp h
      trivial
  | contactSaved contact => cases h
  | contactDeleted id => cases h
  | _ => exact Option.some.inj h ▸ trivial

theorem Sound.editContact (h : manager.Sound extensions) (id : String) (edit : ContactEdit) :
    (manager.editContact extensions id edit).Sound extensions := by
  rw [Manager.editContact]
  split
  next contact resolved hget hresolved =>
      obtain ⟨hid, hstate, _⟩ := contact.edit_frame resolved
      have hstep : manager.contacts.InStep Contact.active Contact.SyncedXcap (contact.edit resolved) :=
        (h.contacts.inStep hget).edit hid (by rw [Contact.active, Contact.active, hstate])
          fun old hold => ⟨hold.1.trans hid.symm, Contact.synced_edit hold.2 resolved⟩
      exact ⟨h.contacts.put ((h.contacts.valid hget).edit (fits_resolveContact hresolved)) hstep,
        h.groups, h.policies⟩
  next => exact h

theorem Sound.editGroup (h : manager.Sound extensions) (id : String) (edit : GroupEdit) :
    (manager.editGroup id edit).Sound extensions := by
  rw [Manager.editGroup]
  split
  next group resolved hget hresolved =>
      obtain ⟨hid, hstate, _⟩ := group.edit_frame resolved
      have hstep : manager.groups.InStep Group.active Group.Synced (group.edit resolved) :=
        (h.groups.inStep hget).edit hid (by rw [Group.active, Group.active, hstate])
          fun old hold => Group.synced_edit hold resolved
      have hlocal : resolved.Local := local_resolveGroup hresolved
      exact ⟨h.contacts, h.groups.put ((h.groups.valid hget).edit (.inl hlocal)) hstep, h.policies⟩
  next => exact h

theorem Sound.editPolicy (h : manager.Sound extensions) (id : String) (edit : PolicyEdit) :
    (manager.editPolicy id edit).Sound extensions := by
  rw [Manager.editPolicy]
  split
  next policy hget =>
      obtain ⟨hid, hactive⟩ : (policy.edit edit).id = policy.id ∧
          (policy.edit edit).active = policy.active := by
        cases edit with
        | extension runtime => cases runtime <;> exact ⟨rfl, rfl⟩
        | _ => exact ⟨rfl, rfl⟩
      have hstep : manager.policies.InStep Policy.active Policy.Synced (policy.edit edit) :=
        (h.policies.inStep hget).edit hid hactive fun old hold => Policy.synced_edit hold edit
      exact ⟨h.contacts, h.groups, h.policies.put ((h.policies.valid hget).edit edit) hstep⟩
  next => exact h

/-- **Every step keeps the invariant.** -/
theorem Sound.step (h : manager.Sound extensions) (input : Input) :
    (manager.step extensions input).Sound extensions := by
  cases input with
  | newContact id =>
      exact ⟨h.contacts.make (fun _ => rfl) (Contact.shaped_new extensions) (fun _ => rfl) id,
        h.groups, h.policies⟩
  | newGroup id =>
      exact ⟨h.contacts,
        h.groups.make (fun _ => rfl) (Group.shaped_new extensions) (fun _ => rfl) id, h.policies⟩
  | newPolicy id =>
      exact ⟨h.contacts, h.groups,
        h.policies.make (fun _ => rfl) (Policy.shaped_new extensions) (fun _ => rfl) id⟩
  | dropContact id => exact ⟨h.contacts.drop id, h.groups, h.policies⟩
  | dropGroup id => exact ⟨h.contacts, h.groups.drop id, h.policies⟩
  | dropPolicy id => exact ⟨h.contacts, h.groups, h.policies.drop id⟩
  | editContact id edit => exact h.editContact id edit
  | editGroup id edit => exact h.editGroup id edit
  | editPolicy id edit => exact h.editPolicy id edit
  | saveContact id =>
      rw [Manager.step]
      cases hget : manager.contacts.live.get id with
      | none => exact h
      | some contact => exact h.saveContact (h.contacts.valid hget) (h.contacts.inStep hget)
  | saveGroup id =>
      rw [Manager.step]
      cases hget : manager.groups.live.get id with
      | none => exact h
      | some group =>
          exact ⟨h.contacts,
            (sound_saveGroup h.groups (h.groups.valid hget) (h.groups.inStep hget)).1, h.policies⟩
  | savePolicy id =>
      rw [Manager.step]
      cases hget : manager.policies.live.get id with
      | none => exact h
      | some policy =>
          exact ⟨h.contacts, h.groups,
            (sound_savePolicy h.policies (h.policies.valid hget) (h.policies.inStep hget)).1⟩
  | deleteContact id =>
      rw [Manager.step]
      split_ifs
      · exact h.deleteContact id
      · exact h
  | deleteGroup id =>
      rw [Manager.step]
      split_ifs
      · exact ⟨h.contacts, h.groups.delete id, h.policies⟩
      · exact h
  | deletePolicy id =>
      rw [Manager.step]
      split_ifs
      · exact ⟨h.contacts, h.groups, h.policies.delete id⟩
      · exact h
  | keepURIs ids => exact ⟨h.contacts, h.groups, h.policies⟩
  | reload order remote => exact h.reload order remote

end Manager

end SipSimple.AddressBook
