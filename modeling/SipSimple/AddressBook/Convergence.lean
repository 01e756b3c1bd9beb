import SipSimple.AddressBook.ReloadConvergence
import SipSimple.Library.Runs

/-!
# Convergence in every run

What is stored and not in the remote addressbook is deleted at the end of a reload. No stored group has a
deleted contact then, so that no group is saved again. With this the stored addressbook is the remote one.
-/

namespace SipSimple.AddressBook

open Account.Xcap (PyError)
open KeyedList (Collection)

namespace Manager

variable {extensions : Extensions} {order : HashOrder String} {manager : Manager}

/-- The stored addressbook is the remote one. -/
structure Converged (extensions : Extensions) (manager : Manager)
    (remote : Account.Xcap.Addressbook) : Prop where
  contacts : ∀ id, (manager.contacts.stored.get id).map xcapCard =
    (remote.contacts.get id).map fun contact => xcapCard (completeContact extensions contact)
  groups : ∀ id, (manager.groups.stored.get id).map xcapGroupCard =
    (remote.groups.get id).map fun group => xcapGroupCard (completeGroup extensions group)
  policies : ∀ id, manager.policies.stored.get id =
    (remote.policies.get id).map (completePolicy extensions)

/-! ### Deletions -/

/-- The stored groups have only contacts of these IDs. -/
def MembersIn (ids : List String) (groups : Groups) : Prop :=
  ∀ id group, groups.live.get id = some group → group.active = true →
    ∀ member ∈ group.contacts.map GroupMember.id, member ∈ ids

theorem dropMember_keeps {ids : List String} {contact : String} (hnot : contact ∉ ids)
    {groups : Groups} (h : MembersIn ids groups) (id : String) :
    MembersIn ids (dropMember contact groups id) ∧
      (dropMember contact groups id).stored = groups.stored := by
  rw [dropMember]
  split
  next group hget =>
      split_ifs with hactive hmember
      · exact absurd (h id group hget hactive contact hmember) hnot
      · exact ⟨h, rfl⟩
      · refine ⟨fun id' group' hget' hactive' => ?_, rfl⟩
        rw [LiveStore.put, Collection.get_set] at hget'
        split_ifs at hget' with hid
        · rw [← Option.some.inj hget'] at hactive'
          exact absurd hactive' hactive
        · exact h id' group' hget' hactive'
  next => exact ⟨h, rfl⟩

theorem dropMembers_keeps {ids : List String} {contact : String} (hnot : contact ∉ ids)
    (keys : List String) {groups : Groups} (h : MembersIn ids groups) :
    MembersIn ids (keys.foldl (dropMember contact) groups) ∧
      (keys.foldl (dropMember contact) groups).stored = groups.stored := by
  induction keys generalizing groups with
  | nil => exact ⟨h, rfl⟩
  | cons key keys ih =>
      obtain ⟨hmembers, hstored⟩ := dropMember_keeps hnot h key
      obtain ⟨hmembers', hstored'⟩ := ih hmembers
      exact ⟨hmembers', hstored'.trans hstored⟩

/-- Deleting contacts that no stored group has. -/
theorem foldl_deleteContact (manager : Manager) {ids gone : List String} (hgone : ∀ id ∈ gone, id ∉ ids)
    (h : MembersIn ids manager.groups) :
    (gone.foldl deleteContact manager).contacts = gone.foldl LiveStore.delete manager.contacts ∧
      (gone.foldl deleteContact manager).groups.stored = manager.groups.stored ∧
      (gone.foldl deleteContact manager).policies = manager.policies := by
  induction gone generalizing manager with
  | nil => exact ⟨rfl, rfl, rfl⟩
  | cons id gone ih =>
      obtain ⟨hmembers, hstored⟩ :=
        dropMembers_keeps (hgone id List.mem_cons_self) manager.groups.live.keys h
      obtain ⟨hcontacts, hgroups, hpolicies⟩ := ih (manager.deleteContact id)
        (fun other hother => hgone other (List.mem_cons_of_mem _ hother)) hmembers
      exact ⟨hcontacts, hgroups.trans hstored, hpolicies⟩

theorem foldl_deleteGroup (gone : List String) (manager : Manager) :
    gone.foldl deleteGroup manager =
      { manager with groups := gone.foldl LiveStore.delete manager.groups } := by
  induction gone generalizing manager with
  | nil => rfl
  | cons id gone ih => exact ih (manager.deleteGroup id)

theorem foldl_deletePolicy (gone : List String) (manager : Manager) :
    gone.foldl deletePolicy manager =
      { manager with policies := gone.foldl LiveStore.delete manager.policies } := by
  induction gone generalizing manager with
  | nil => rfl
  | cons id gone ih => exact ih (manager.deletePolicy id)

/-- What is deleted at the end leaves the remote objects. -/
theorem deleteMissing_converged (h : manager.Sound extensions) {remote : Account.Xcap.Addressbook}
    (hconsistent : Consistent remote)
    (hcontacts : ∀ contact ∈ remote.contacts.items,
      (manager.contacts.stored.get contact.id).map xcapCard =
        some (xcapCard (completeContact extensions contact)))
    (hgroups : ∀ group ∈ remote.groups.items,
      (manager.groups.stored.get group.id).map xcapGroupCard =
        some (xcapGroupCard (completeGroup extensions group)))
    (hpolicies : ∀ policy ∈ remote.policies.items,
      manager.policies.stored.get policy.id = some (completePolicy extensions policy))
    (hmembers : ∀ group ∈ remote.groups.items, ∃ saved,
      manager.groups.live.get group.id = some saved ∧
        ∀ id, id ∈ saved.contacts.map GroupMember.id ↔ id ∈ group.contacts.ids) :
    Converged extensions (manager.deleteMissing remote) remote := by
  have hmissing : MembersIn remote.contacts.ids
      ((manager.groups.missing Group.active remote.groups.ids).foldl LiveStore.delete
        manager.groups) := by
    intro id group hget hactive member hmember
    rw [(LiveStore.get_foldl_delete _ manager.groups id).1] at hget
    split_ifs at hget with hgone
    by_cases hin : id ∈ remote.groups.ids
    · obtain ⟨other, hother, rfl⟩ := List.mem_map.mp hin
      obtain ⟨saved, hsaved, hids⟩ := hmembers other hother
      obtain rfl : saved = group := Option.some.inj (hsaved.symm.trans hget)
      exact hconsistent.members other hother member ((hids member).mp hmember)
    · exact absurd (LiveStore.mem_missing.mpr ⟨hin, group, hget, hactive⟩) hgone
  have hdeleted : ∀ id ∈ manager.contacts.missing Contact.active remote.contacts.ids,
      id ∉ remote.contacts.ids := fun id hid => (LiveStore.mem_missing.mp hid).1
  obtain ⟨before, hbefore⟩ : ∃ before : Manager, { manager with
      policies := (manager.policies.missing Policy.active remote.policies.ids).foldl
        LiveStore.delete manager.policies
      groups := (manager.groups.missing Group.active remote.groups.ids).foldl
        LiveStore.delete manager.groups } = before := ⟨_, rfl⟩
  have hfinal : manager.deleteMissing remote =
      (manager.contacts.missing Contact.active remote.contacts.ids).foldl deleteContact before := by
    rw [deleteMissing, ← hbefore]
    simp only [foldl_deletePolicy, foldl_deleteGroup]
    rfl
  have hin : MembersIn remote.contacts.ids before.groups := hbefore ▸ hmissing
  obtain ⟨hcontacts', hgroups', hpolicies'⟩ := foldl_deleteContact before hdeleted hin
  rw [hfinal]
  refine ⟨fun id => ?_, fun id => ?_, fun id => ?_⟩
  · rw [hcontacts', ← hbefore]
    exact h.contacts.stored_delete_missing hcontacts id
  · rw [hgroups', ← hbefore]
    exact h.groups.stored_delete_missing hgroups id
  · have hview := h.policies.stored_delete_missing
      (fun policy hmem => Option.map_id'.trans (hpolicies policy hmem)) id
    rw [Option.map_id'] at hview
    rw [hpolicies', ← hbefore]
    exact hview

/-! ### A reload -/

/-- The contacts that were reloaded are members that a group can take. -/
theorem ContactsDone.member {start : Manager} {done : List Account.Xcap.Contact}
    {last : Option String} (h : ContactsDone extensions start done manager last) {contact : Account.Xcap.Contact}
    (hmem : contact ∈ done) :
    ∃ saved, manager.member contact.id = some saved ∧ saved.id = contact.id := by
  obtain ⟨own, hlive, hactive, _⟩ := h.live contact hmem
  have hshaped := h.sound.contacts.valid hlive
  obtain ⟨saved, hsaved⟩ := Option.isSome_iff_exists.mp (hshaped.known hactive)
  refine ⟨saved, ?_, (hshaped.xcap saved hsaved).trans (Collection.key_of_get hlive)⟩
  rw [Manager.member, hlive]
  exact hsaved

/-- What was asked of a group at the start still holds once the contacts are done. -/
theorem ContactsDone.group {start : Manager} {done : List Account.Xcap.Contact}
    {last : Option String} (h : ContactsDone extensions start done manager last) {group : Account.Xcap.Group}
    (hstart : (start.groups.live.get group.id).all Group.active = true ∧
      extensions.group.takes ((start.groups.live.get group.id).map (·.attributes))
        group.attributes = true) :
    (manager.groups.live.get group.id).all Group.active = true ∧
      extensions.group.takes ((manager.groups.live.get group.id).map (·.attributes))
        group.attributes = true := by
  have hfacts := h.groupsLive group.id
  cases hafter : manager.groups.live.get group.id with
  | none =>
      rw [hafter, Option.map_none, eq_comm, Option.map_eq_none_iff] at hfacts
      rw [hfacts] at hstart
      exact hstart
  | some after =>
      rw [hafter, Option.map_some, eq_comm, Option.map_eq_some_iff] at hfacts
      obtain ⟨before, hbefore, hsame⟩ := hfacts
      rw [hbefore] at hstart
      have hactive : before.active = after.active := congrArg Prod.fst hsame
      have hattributes : before.attributes = after.attributes := congrArg Prod.snd hsame
      rw [Option.map_some] at hstart ⊢
      rw [← hattributes]
      exact ⟨hactive.symm.trans hstart.1, hstart.2⟩

theorem urisFree_remember (remote : Option Account.Xcap.Addressbook) (done : List String)
    (last : Option String) (contacts : List Account.Xcap.Contact) :
    ({ manager with xcapAddressbook := remote } : Manager).urisFree done last contacts =
      manager.urisFree done last contacts := by
  induction contacts generalizing done last with
  | nil => rfl
  | cons contact contacts ih =>
      rw [urisFree, urisFree, ih]
      rfl

/-- **A reload that merges the remote addressbook gets to it.** -/
theorem reload_converged (order : HashOrder String) (h : manager.Sound extensions)
    {remote : Account.Xcap.Addressbook}
    (hconsistent : Consistent remote) (hnew : manager.xcapAddressbook.any remote.same = false)
    (hreloadable : Reloadable extensions manager remote) :
    Converged extensions (manager.reload extensions order remote) remote := by
  obtain ⟨start, hstart⟩ : ∃ start : Manager,
      { manager with xcapAddressbook := some remote } = start := ⟨_, rfl⟩
  have hsound : start.Sound extensions := hstart ▸ ⟨h.contacts, h.groups, h.policies⟩
  have hstartReloadable : Reloadable extensions start remote := by
    subst hstart
    refine { hreloadable with free := ?_ }
    rw [urisFree_remember]
    exact hreloadable.free
  obtain ⟨hraised, hcontacts⟩ :=
    reloadContacts_done order hsound hconsistent hstartReloadable
  obtain ⟨first, last, hfirst⟩ : ∃ first last,
      forEach (reloadContact extensions order) remote.contacts.items (start, none) =
        ((first, last), none) :=
    ⟨_, _, Prod.ext rfl hraised⟩
  rw [hfirst] at hcontacts
  have hmembers : ∀ group ∈ remote.groups.items, ∀ id ∈ group.contacts.ids,
      ∃ contact, first.member id = some contact ∧ contact.id = id := by
    intro group hgroup id hid
    obtain ⟨contact, hcontact, rfl⟩ := List.mem_map.mp (hconsistent.members group hgroup id hid)
    exact hcontacts.member hcontact
  obtain ⟨hraised, hgroups⟩ := reloadGroups_done order hcontacts.sound hmembers
    fun group hgroup => hcontacts.group (hstartReloadable.groups group hgroup)
  obtain ⟨second, hsecond⟩ : ∃ second,
      forEach (reloadGroup extensions order) remote.groups.items first = (second, none) :=
    ⟨_, Prod.ext rfl hraised⟩
  rw [hsecond] at hgroups
  have hpoliciesKept : second.policies = start.policies :=
    hgroups.policies.trans hcontacts.policies
  obtain ⟨hraised, hpolicies⟩ := reloadPolicies_done order hgroups.sound
    fun policy hpolicy => by
      rw [hpoliciesKept]
      exact hstartReloadable.policies policy hpolicy
  obtain ⟨third, hthird⟩ : ∃ third,
      forEach (reloadPolicy extensions order) remote.policies.items second = (third, none) :=
    ⟨_, Prod.ext rfl hraised⟩
  rw [hthird] at hpolicies
  have hreload : manager.reload extensions order remote = third.deleteMissing remote := by
    rw [reload, hnew, if_neg Bool.false_ne_true]
    dsimp only
    rw [hstart, hfirst]
    dsimp only
    rw [hsecond]
    dsimp only
    rw [hthird]
  rw [hreload]
  refine deleteMissing_converged hpolicies.sound hconsistent (fun contact hcontact => ?_)
    (fun group hgroup => ?_) hpolicies.stored fun group hgroup => ?_
  · rw [hpolicies.contacts, hgroups.contacts]
    exact hcontacts.stored contact hcontact
  · rw [hpolicies.groups]
    exact hgroups.stored group hgroup
  · obtain ⟨saved, hsaved, _, hids⟩ := hgroups.live group hgroup
    exact ⟨saved, by rw [hpolicies.groups, hsaved], hids⟩

theorem sound_run (extensions : Extensions) (inputs : List Input) :
    (Runs.run (step extensions) {} inputs).Sound extensions :=
  Runs.always_run (Manager.Sound extensions) (fun _ input h => h.step input)
    (sound_empty extensions) inputs

/-! ### A repeated addressbook -/

theorem card_of_same {left right : Account.Xcap.Group} (h : left.same right = true) :
    xcapGroupCard (completeGroup extensions left) = xcapGroupCard (completeGroup extensions right) := by
  simp only [Account.Xcap.Group.same, Bool.and_eq_true, decide_eq_true_eq] at h
  obtain ⟨⟨⟨-, hname⟩, hids⟩, hattributes⟩ := h
  refine GroupCard.ext hname (congrArg (fun ids => {id | id ∈ ids}) hids) ?_
  exact congrArg extensions.group.complete hattributes

theorem find_of_sameGroups {lefts rights : List Account.Xcap.Group}
    (h : Account.Xcap.sameGroups lefts rights = true) (id : String) :
    (KeyedList.find Account.Xcap.Group.id id lefts).map
        (fun group => xcapGroupCard (completeGroup extensions group)) =
      (KeyedList.find Account.Xcap.Group.id id rights).map
        fun group => xcapGroupCard (completeGroup extensions group) := by
  induction lefts generalizing rights with
  | nil =>
      cases rights with
      | nil => rfl
      | cons right rights => cases h
  | cons left lefts ih =>
      cases rights with
      | nil => cases h
      | cons right rights =>
          rw [Account.Xcap.sameGroups, Bool.and_eq_true] at h
          have hid : left.id = right.id := by
            have hsame := h.1
            simp only [Account.Xcap.Group.same, Bool.and_eq_true, decide_eq_true_eq] at hsame
            exact hsame.1.1.1
          rw [KeyedList.find_cons, KeyedList.find_cons, hid]
          split_ifs
          · exact congrArg some (card_of_same h.1)
          · exact ih h.2

/-- A group that is the same has the same members. -/
theorem mem_of_sameGroups {lefts rights : List Account.Xcap.Group}
    (h : Account.Xcap.sameGroups lefts rights = true) {right : Account.Xcap.Group}
    (hmem : right ∈ rights) : ∃ left ∈ lefts, left.contacts.ids = right.contacts.ids := by
  induction lefts generalizing rights with
  | nil =>
      cases rights with
      | nil => cases hmem
      | cons other rights => cases h
  | cons left lefts ih =>
      cases rights with
      | nil => cases h
      | cons other rights =>
          rw [Account.Xcap.sameGroups, Bool.and_eq_true] at h
          rcases List.mem_cons.mp hmem with rfl | hmem
          · have hsame := h.1
            simp only [Account.Xcap.Group.same, Bool.and_eq_true, decide_eq_true_eq] at hsame
            exact ⟨left, List.mem_cons_self, hsame.1.2⟩
          · obtain ⟨left', hleft, hids⟩ := ih h.2 hmem
            exact ⟨left', List.mem_cons_of_mem _ hleft, hids⟩

section Same

variable {remote earlier : Account.Xcap.Addressbook}

theorem same_iff : remote.same earlier = true ↔ remote.contacts = earlier.contacts ∧
    Account.Xcap.sameGroups remote.groups.items earlier.groups.items = true ∧
      remote.policies = earlier.policies := by
  simp only [Account.Xcap.Addressbook.same, Bool.and_eq_true, decide_eq_true_eq, and_assoc]

theorem Consistent.of_same (h : Consistent remote) (hsame : remote.same earlier = true) :
    Consistent earlier := by
  obtain ⟨hcontacts, hgroups, -⟩ := same_iff.mp hsame
  refine ⟨fun group hgroup id hid => ?_, hcontacts ▸ h.defaults, hcontacts ▸ h.uris⟩
  obtain ⟨other, hother, hids⟩ := mem_of_sameGroups hgroups hgroup
  rw [← hcontacts]
  exact h.members other hother id (hids ▸ hid)

/-- The same objects are stored in both managers. -/
structure StoredAs (manager other : Manager) : Prop where
  contacts : manager.contacts.stored = other.contacts.stored
  groups : manager.groups.stored = other.groups.stored
  policies : manager.policies.stored = other.policies.stored

theorem Converged.repeated {other : Manager} (h : Converged extensions other earlier)
    (hstored : manager.StoredAs other) (hsame : remote.same earlier = true) :
    Converged extensions manager remote := by
  obtain ⟨hcontacts, hgroups, hpolicies⟩ := same_iff.mp hsame
  refine ⟨fun id => ?_, fun id => ?_, fun id => ?_⟩
  · rw [hstored.contacts, hcontacts]
    exact h.contacts id
  · rw [hstored.groups]
    exact (h.groups id).trans (find_of_sameGroups hgroups id).symm
  · rw [hstored.policies, hpolicies]
    exact h.policies id

end Same

/-- After a run, the remote addressbook can be merged, or it is the same as one that could be when it
came, and what is stored is what that reload stored. -/
inductive Admissible (extensions : Extensions) (inputs : List Input)
    (remote : Account.Xcap.Addressbook) : Prop
  | merged
      (hnew : (Runs.run (step extensions) {} inputs).xcapAddressbook.any remote.same = false)
      (hreloadable : Reloadable extensions (Runs.run (step extensions) {} inputs) remote)
  | repeated (before later : List Input) (order : HashOrder String)
      (earlier : Account.Xcap.Addressbook)
      (hinputs : inputs = before ++ .reload order earlier :: later)
      (hrepeated : (Runs.run (step extensions) {} inputs).xcapAddressbook.any remote.same = true)
      (hsame : remote.same earlier = true)
      (hnew : (Runs.run (step extensions) {} before).xcapAddressbook.any earlier.same = false)
      (hreloadable : Reloadable extensions (Runs.run (step extensions) {} before) earlier)
      (hstored : (Runs.run (step extensions) {} inputs).StoredAs
        (Runs.run (step extensions) {} (before ++ [.reload order earlier])))

/-- Remote contacts with the URIs of the given IDs, without groups and policies. -/
def remoteContacts (contacts : List (String × List String)) : Account.Xcap.Addressbook where
  contacts := .ofList (contacts.map fun contact =>
    { id := contact.1
      name := ""
      uris :=
        { Account.Xcap.ItemCollection.ofList
            (contact.2.map fun id => ⟨id, "sip:bob@example.com", none, .empty⟩) with
          default := none }
      dialog := ⟨.default, false⟩
      presence := ⟨.default, false⟩
      attributes := .empty })
  groups := .empty
  policies := .empty

end Manager

end SipSimple.AddressBook
