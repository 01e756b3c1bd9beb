import SipSimple.AddressBook.SaveOperations

/-!
# A save comes out as the snapshot

The members of a group are a set: the element has them in the order in which they were added, while
`__toxcap__` sorts them. With the groups, what a save schedules for any of the three kinds of objects
makes the element of the last save that of the new snapshot.
-/

namespace SipSimple.AddressBook

open Payloads (PolicyValue Attributes ResourceList ResourceLists XMLList XMLItem Handling SimpleElement)
open Account.Xcap

/-! ### What a group says -/

@[ext] structure GroupCard where
  name : String
  members : Set String
  attributes : Attributes

/-- The element and the group differ at most in the order of the members. -/
structure GroupAgrees (element : Payloads.Group) (group : Account.Xcap.Group) : Prop where
  id : element.id = group.id
  name : element.name.value = group.name
  members : element.contacts.ids.Perm group.contacts.ids
  attributes : payloadAttributes element.attributes = group.attributes

def xcapGroupCard (group : Account.Xcap.Group) : GroupCard :=
  ⟨group.name, { id | id ∈ group.contacts.ids }, group.attributes⟩

def groupElementCard (element : Payloads.Group) : GroupCard :=
  ⟨element.name.value, { id | id ∈ element.contacts.ids }, payloadAttributes element.attributes⟩

theorem groupAgrees_iff {element : Payloads.Group} {group : Account.Xcap.Group} :
    GroupAgrees element group ↔ element.id = group.id ∧ element.contacts.ids.Nodup ∧
      groupElementCard element = xcapGroupCard group := by
  have hdistinct : group.contacts.ids.Nodup := group.contacts.distinct
  constructor
  · intro h
    refine ⟨h.id, h.members.nodup_iff.mpr hdistinct, GroupCard.ext h.name ?_ h.attributes⟩
    exact Set.ext fun id => h.members.mem_iff
  · intro ⟨hid, hnodup, hcard⟩
    refine ⟨hid, congrArg GroupCard.name hcard, ?_, congrArg GroupCard.attributes hcard⟩
    exact (List.perm_ext_iff_of_nodup hnodup hdistinct).mpr fun id =>
      Set.ext_iff.mp (congrArg GroupCard.members hcard) id

/-- What an operation makes of the card of its group. -/
def editGroupCard (card : GroupCard) : Operation → GroupCard
  | .addGroupMember _ contact => { card with members := insert contact.id card.members }
  | .removeGroupMember _ contact => { card with members := card.members \ {contact.id} }
  | .updateGroup _ attributes =>
      { card with
        name := attributes.name.getD card.name
        attributes := card.attributes.update attributes.attributes }
  | _ => card

/-- The group that an operation is about, for the operations of a save. -/
def aboutGroup (id : String) : Operation → Prop
  | .addGroupMember group _ => group.id = id
  | .removeGroupMember group _ => group.id = id
  | .updateGroup group _ => group.id = id
  | _ => False

/-! ### What the handlers make of an element -/

/-- What the handler of an operation does to the element of its group. -/
def editGroupElement (operation : Operation) (element : Payloads.Group) : Payloads.Group :=
  match operation with
  | .addGroupMember _ contact =>
      if contact.id ∈ element.contacts.ids then element
      else { element with contacts := element.contacts.add contact.id }
  | .removeGroupMember _ contact =>
      { element with contacts := (element.contacts.remove contact.id).getD element.contacts }
  | .updateGroup _ attributes => updateXmlGroup attributes element
  | _ => element

theorem id_editGroupElement (operation : Operation) (element : Payloads.Group) :
    XMLItem.xmlId (editGroupElement operation element) = XMLItem.xmlId element := by
  cases operation with
  | addGroupMember group contact =>
      rw [editGroupElement]
      split_ifs <;> rfl
  | updateGroup group attributes => exact id_updateXmlGroup _ _
  | _ => rfl

theorem ids_remove (contacts : Payloads.ContactList) (id : String) :
    ((contacts.remove id).getD contacts).ids = contacts.ids.erase id := by
  rw [Payloads.ContactList.remove]
  split_ifs with hmem
  · have herase : contacts.ids.erase id = (contacts.items.eraseP (·.value = id)).map (·.value) := by
      rw [List.erase_eq_eraseP, Payloads.ContactList.ids, List.eraseP_map]
      congr 2
      funext item
      simp [eq_comm, beq_eq_decide]
    exact herase.symm
  · exact (List.erase_of_not_mem hmem).symm

/-- **The handlers act on the element as the operations act on the card.** -/
theorem groupElementCard_edit (operation : Operation) {element : Payloads.Group}
    (hnodup : element.contacts.ids.Nodup) :
    (editGroupElement operation element).contacts.ids.Nodup ∧
      groupElementCard (editGroupElement operation element) =
        editGroupCard (groupElementCard element) operation := by
  cases operation with
  | addGroupMember group contact =>
      rw [editGroupElement]
      split_ifs with hmem
      · refine ⟨hnodup, GroupCard.ext rfl ?_ rfl⟩
        exact (Set.insert_eq_of_mem (s := { id | id ∈ element.contacts.ids }) hmem).symm
      · have hids : (element.contacts.add contact.id).ids = element.contacts.ids ++ [contact.id] := by
          simp [Payloads.ContactList.add, Payloads.ContactList.ids]
        refine ⟨?_, GroupCard.ext rfl (Set.ext fun id => ?_) rfl⟩
        · rw [hids]
          exact List.nodup_append.mpr ⟨hnodup, List.nodup_singleton _, fun other hother last hlast heq =>
            hmem (List.mem_singleton.mp hlast ▸ heq ▸ hother)⟩
        · simp [groupElementCard, editGroupCard, hids, or_comm]
  | removeGroupMember group contact =>
      have hids := ids_remove element.contacts contact.id
      refine ⟨?_, GroupCard.ext rfl (Set.ext fun id => ?_) rfl⟩
      · exact hids ▸ hnodup.erase _
      · simp [groupElementCard, editGroupCard, editGroupElement, hids, hnodup.mem_erase_iff, and_comm]
  | updateGroup group attributes =>
      obtain ⟨name, shared⟩ := attributes
      have hupdate : ∀ element : Payloads.Group,
          (updateXmlGroup ⟨name, shared⟩ element).contacts = element.contacts ∧
            groupElementCard (updateXmlGroup ⟨name, shared⟩ element) =
              { groupElementCard element with
                name := name.getD element.name.value
                attributes :=
                  payloadAttributes (some (.updateChild element.attributes shared)) } := by
        intro element
        cases name <;> exact ⟨rfl, rfl⟩
      rw [editGroupElement, (hupdate element).1, (hupdate element).2, payloadAttributes_update]
      exact ⟨hnodup, rfl⟩
  | _ => exact ⟨hnodup, rfl⟩

theorem groupElementCard_foldl (operations : List Operation) {element : Payloads.Group}
    (hnodup : element.contacts.ids.Nodup) :
    (operations.foldl (fun element operation => editGroupElement operation element)
        element).contacts.ids.Nodup ∧
      groupElementCard (operations.foldl (fun element operation => editGroupElement operation element)
        element) = operations.foldl editGroupCard (groupElementCard element) := by
  induction operations generalizing element with
  | nil => exact ⟨hnodup, rfl⟩
  | cons operation operations ih =>
      obtain ⟨hnext, hcard⟩ := groupElementCard_edit operation hnodup
      rw [List.foldl_cons, List.foldl_cons, ← hcard]
      exact ih hnext

/-- An operation about a group, on the addressbook. -/
theorem editBook_group {operation : Operation} {id : String} (habout : aboutGroup id operation)
    (book : ResourceList) :
    (editBook book operation).groups.find id =
        (book.groups.find id).map (editGroupElement operation) ∧
      SameExcept none (some id) none book (editBook book operation) := by
  have hmodify : ∀ group : Account.Xcap.Group, group.id = id → _ := fun group hgroup =>
    modify_frame book.groups hgroup (id_editGroupElement operation)
  cases operation with
  | addGroupMember group contact =>
      obtain ⟨hself, hother⟩ := hmodify group habout
      exact ⟨hself, fun _ _ => rfl, hother, fun _ _ => rfl, rfl, rfl⟩
  | removeGroupMember group contact =>
      obtain ⟨hself, hother⟩ := hmodify group habout
      exact ⟨hself, fun _ _ => rfl, hother, fun _ _ => rfl, rfl, rfl⟩
  | updateGroup group attributes =>
      obtain ⟨hself, hother⟩ := hmodify group habout
      exact ⟨hself, fun _ _ => rfl, hother, fun _ _ => rfl, rfl, rfl⟩
  | _ => exact habout.elim

theorem isSome_edit_of_aboutGroup {id : String} {operation : Operation}
    (h : aboutGroup id operation) : operation.edit.isSome = true := by
  cases operation <;> first | rfl | exact h.elim

/-! ### Edits and saves keep what was saved -/

namespace Group

/-- The XCAP object is what the group was at its last save. -/
structure Synced (group : Group) (old : Account.Xcap.Group) : Prop where
  id : old.id = group.id
  name : old.name = group.name.old
  members : ∀ id, id ∈ old.contacts.ids ↔ id ∈ group.oldContacts.map GroupMember.id
  attributes : old.attributes = group.attributes.oldValues

theorem map_id_modify {key : String} {f : GroupMember → GroupMember}
    (hf : ∀ member, member.id = key → (f member).id = key) (members : List GroupMember) :
    (KeyedList.modify GroupMember.id key f members).map GroupMember.id =
      members.map GroupMember.id := by
  rw [KeyedList.modify, List.map_map]
  refine List.map_congr_left fun member _ => ?_
  by_cases hkey : member.id = key
  · simp [hkey, hf member hkey]
  · simp [hkey]

/-- Adding members changes the members only. -/
theorem foldl_addMember (members : List GroupMember) (group : Group) : ∃ contacts distinct,
    members.foldl addMember group = { group with contacts := contacts, distinct := distinct } := by
  induction members generalizing group with
  | nil => exact ⟨group.contacts, group.distinct, rfl⟩
  | cons member members ih => exact ih (group.addMember member)

theorem synced_edit {group : Group} {old : Account.Xcap.Group} (h : group.Synced old)
    (edit : GroupEdit) : (group.edit edit).Synced old := by
  cases edit with
  | shared name value =>
      exact { h with
        attributes := h.attributes.trans (SharedSettings.oldValues_assign _ name value).symm }
  | extension runtime => cases runtime <;> exact { h with }
  | setContacts contacts =>
      obtain ⟨contacts', hdistinct, hadded⟩ := foldl_addMember
        (contacts.map fun contact => ⟨contact, false⟩)
        { group with contacts := [], distinct := List.nodup_nil }
      rw [Group.edit, hadded]
      exact { h with }
  | contactSaved contact =>
      refine { h with members := fun id => ?_ }
      simp only [Group.edit, map_id_modify GroupMember.id_saved]
      exact h.members id
  | contactDeleted id =>
      refine { h with members := fun id' => ?_ }
      simp only [Group.edit, map_id_modify GroupMember.id_delete]
      exact h.members id'
  | _ => exact { h with }

theorem edit_frame (group : Group) (edit : GroupEdit) :
    (group.edit edit).id = group.id ∧ (group.edit edit).state = group.state ∧
      (group.edit edit).xcapGroup = group.xcapGroup := by
  cases edit with
  | extension runtime => cases runtime <;> exact ⟨rfl, rfl, rfl⟩
  | setContacts contacts =>
      obtain ⟨contacts', hdistinct, hadded⟩ := foldl_addMember
        (contacts.map fun contact => ⟨contact, false⟩)
        { group with contacts := [], distinct := List.nodup_nil }
      rw [Group.edit, hadded]
      exact ⟨rfl, rfl, rfl⟩
  | _ => exact ⟨rfl, rfl, rfl⟩

/-- The members of `__toxcap__`. -/
theorem ids_toxcap (group : Group) :
    group.toxcap.contacts.ids.Perm (group.members.map GroupMember.id) := by
  have hids : group.toxcap.contacts.ids = group.sorted.map GroupMember.id := by
    simp [toxcap, ItemCollection.ids, Function.comp_def, GroupMember.id]
  rw [hids]
  exact (List.perm_insertionSort _ group.members).map GroupMember.id

theorem synced_sync (group : Group) : group.sync.Synced group.toxcap where
  id := rfl
  name := rfl
  members _ := group.ids_toxcap.mem_iff
  attributes := (SharedSettings.oldValues_sync group.attributes).symm

def act (group : Group) : Action GroupEdit (HashOrder GroupMember) → Group
  | .edit edit => group.edit edit
  | .save order => (group.save order).1

/-- A group that was just made, or was just loaded from the configuration. -/
def Initial (group : Group) : Prop :=
  (group.state = .new ∧ group.xcapGroup = none) ∨
    (group.state = .active ∧ group.xcapGroup = some group.toxcap ∧ group.sync = group)

abbrev Tracked : Group → Prop := AddressBook.Tracked state xcapGroup Synced

theorem Initial.tracked {group : Group} (h : group.Initial) : group.Tracked := by
  rcases h with ⟨hnew, hnone⟩ | ⟨hactive, hxcap, hclean⟩
  · exact tracked_new hnew hnone
  · have hsynced := group.synced_sync
    rw [hclean] at hsynced
    exact tracked_save hactive hxcap hsynced

theorem tracked_act (group : Group) (action : Action GroupEdit (HashOrder GroupMember))
    (h : group.Tracked) : (group.act action).Tracked := by
  cases action with
  | edit edit =>
      obtain ⟨_, hstate, hxcap⟩ := group.edit_frame edit
      exact tracked_edit h hstate hxcap fun _ hold => synced_edit hold edit
  | save order =>
      have hsaved : ∀ state, state = .active → ({ group.sync with
          state := state, xcapGroup := some group.toxcap } : Group).Tracked :=
        fun _ hactive => tracked_save hactive rfl { group.synced_sync with }
      simp only [act, save]
      split
      next hdeleted => exact absurd hdeleted h.1
      next => exact hsaved _ rfl
      next hactive =>
          by_cases hmodified : group.isModified = true
          · rw [if_pos hmodified]
            exact hsaved group.state hactive
          · rw [if_neg hmodified]
            split_ifs
            · exact hsaved group.state hactive
            · exact tracked_edit h rfl rfl fun _ hold => { hold with }

/-! ### The operations on the card -/

theorem foldl_added (group : Account.Xcap.Group) (members : List GroupMember) (card : GroupCard) :
    (members.map fun member => Operation.addGroupMember group member.contact).foldl editGroupCard
        card = { card with members := card.members ∪ { id | id ∈ members.map GroupMember.id } } := by
  induction members generalizing card with
  | nil => simp
  | cons member members ih =>
      rw [List.map_cons, List.foldl_cons, ih]
      refine GroupCard.ext rfl (Set.ext fun id => ?_) rfl
      simp [editGroupCard, GroupMember.id, or_assoc, or_left_comm]

theorem foldl_removed (group : Account.Xcap.Group) (members : List GroupMember) (card : GroupCard) :
    (members.map fun member => Operation.removeGroupMember group member.contact).foldl editGroupCard
        card = { card with members := card.members \ { id | id ∈ members.map GroupMember.id } } := by
  induction members generalizing card with
  | nil => simp
  | cons member members ih =>
      rw [List.map_cons, List.foldl_cons, ih]
      refine GroupCard.ext rfl (Set.ext fun id => ?_) rfl
      simp [editGroupCard, GroupMember.id, and_assoc]

/-- **The operations make the card of the last save that of `__toxcap__`.** -/
theorem foldl_operations {group : Group} {old : Account.Xcap.Group} (h : group.Synced old)
    (order : HashOrder GroupMember) :
    (group.operations order).foldl editGroupCard (xcapGroupCard old) = xcapGroupCard group.toxcap := by
  have hlast : ∀ card : GroupCard,
      (if group.modified = {} then [] else
        [Operation.updateGroup group.toxcap group.modified]).foldl editGroupCard card =
          editGroupCard card (.updateGroup group.toxcap group.modified) := by
    intro card
    split_ifs with hempty
    · rw [hempty]
      rfl
    · rfl
  have horder : ∀ (members : List GroupMember) (id : String),
      id ∈ (order.order members).map GroupMember.id ↔ id ∈ members.map GroupMember.id :=
    fun members id => ((order.perm members).map GroupMember.id).mem_iff
  rw [operations, List.foldl_append, List.foldl_append, hlast, foldl_added, foldl_removed]
  refine GroupCard.ext ?_ (Set.ext fun id => ?_) ?_
  · exact (congrArg group.name.modified.getD h.name).trans group.name.modified_getD
  · have hnew : id ∈ (xcapGroupCard group.toxcap).members ↔
        id ∈ group.members.map GroupMember.id := group.ids_toxcap.mem_iff
    have hadded : id ∈ group.added.map GroupMember.id ↔ id ∈ group.members.map GroupMember.id ∧
        id ∉ group.oldContacts.map GroupMember.id := by
      simp only [added, List.mem_map, List.mem_filter, decide_eq_true_eq]
      grind
    have hremoved : id ∈ group.removed.map GroupMember.id ↔
        id ∈ group.oldContacts.map GroupMember.id ∧ id ∉ group.members.map GroupMember.id := by
      simp only [removed, List.mem_map, List.mem_filter, decide_eq_true_eq]
      grind
    have hcard : id ∈ ((xcapGroupCard old).members ∪
          { id | id ∈ (order.order group.added).map GroupMember.id }) \
          { id | id ∈ (order.order group.removed).map GroupMember.id } ↔
        (id ∈ group.oldContacts.map GroupMember.id ∨ id ∈ group.added.map GroupMember.id) ∧
          id ∉ group.removed.map GroupMember.id := by
      simp only [Set.mem_sdiff, Set.mem_union, Set.mem_ofPred_eq, horder, ← h.members id]
      rfl
    rw [hnew]
    refine hcard.trans ?_
    rw [hadded, hremoved]
    tauto
  · exact (congrArg (·.update group.attributes.modified) h.attributes).trans
      group.attributes.update_modified

theorem aboutGroup_operations (group : Group) (order : HashOrder GroupMember) :
    ∀ operation ∈ group.operations order, aboutGroup group.id operation := by
  intro operation hmem
  simp only [operations, List.mem_append, List.mem_map] at hmem
  rcases hmem with (⟨_, _, rfl⟩ | ⟨_, _, rfl⟩) | hmem
  · rfl
  · rfl
  · split_ifs at hmem
    · cases hmem
    · rw [List.mem_singleton.mp hmem]
      rfl

theorem operations_of_not_modified {group : Group} (h : group.isModified = false)
    (order : HashOrder GroupMember) : group.operations order = [] := by
  simp only [isModified, Bool.or_eq_false_iff, decide_eq_false_iff_not, not_not,
    Bool.not_eq_false', List.isEmpty_iff] at h
  obtain ⟨⟨⟨hmodified, hadded⟩, hremoved⟩, _⟩ := h
  simp [operations, hmodified, hadded, hremoved, HashOrder.order_nil]

/-- What is scheduled for a group that was saved before is as good as all its operations. -/
theorem foldl_save {group : Group} {old : Account.Xcap.Group} (hactive : group.state = .active)
    (hold : group.xcapGroup = some old) (hsynced : group.Synced old)
    (order : HashOrder GroupMember) :
    (group.save order).2.foldl editGroupCard (xcapGroupCard old) = xcapGroupCard group.toxcap ∧
      ∀ operation ∈ (group.save order).2, aboutGroup group.id operation := by
  have hall := foldl_operations hsynced order
  simp only [save, hactive]
  by_cases hmodified : group.isModified = true
  · rw [if_pos hmodified]
    by_cases hsame : group.xcapGroup.any group.toxcap.same = true
    · have hcard : xcapGroupCard old = xcapGroupCard group.toxcap := by
        rw [hold, Option.any_some] at hsame
        simp only [Account.Xcap.Group.same, Bool.and_eq_true, decide_eq_true_eq] at hsame
        obtain ⟨⟨⟨_, hname⟩, hids⟩, hattributes⟩ := hsame
        exact GroupCard.ext hname.symm (by rw [xcapGroupCard, xcapGroupCard, hids]) hattributes.symm
      simp only [if_pos hsame]
      exact ⟨hcard, by simp⟩
    · simp only [if_neg hsame]
      exact ⟨hall, group.aboutGroup_operations order⟩
  · rw [if_neg hmodified]
    rw [operations_of_not_modified (by simpa using hmodified)] at hall
    split_ifs
    · exact ⟨hall, by simp⟩
    · exact ⟨hall, by simp⟩

/-- **The operations of the save of a group.** -/
theorem applyOperations_save (url : String) {content : ResourceLists} {book : ResourceList}
    (hbook : content.lists .sipsimpleAddressbook = some book) {group : Group}
    {old : Account.Xcap.Group} (htracked : group.Tracked) (hold : group.xcapGroup = some old)
    (order : HashOrder GroupMember) {element : Payloads.Group}
    (helement : book.groups.find group.id = some element) (hagrees : GroupAgrees element old) :
    ∃ after element', applyOperations url (group.save order).2 (some content) =
        some (content.set .sipsimpleAddressbook after) ∧
      after.groups.find group.id = some element' ∧
      GroupAgrees element' group.toxcap ∧
      SameExcept none (some group.id) none book after := by
  obtain ⟨hactive, hsynced⟩ := htracked.2 old hold
  obtain ⟨hcard, habout⟩ := foldl_save hactive hold hsynced order
  obtain ⟨hfind, hsame⟩ := foldl_editBook (fun book => book.groups.find group.id)
    (fun operation => editBook_group) habout book
  rw [helement, Option.map_some] at hfind
  obtain ⟨_, hnodup, hstart⟩ := groupAgrees_iff.mp hagrees
  obtain ⟨hnodup', hfold⟩ := groupElementCard_foldl (group.save order).2 hnodup
  rw [hstart, hcard] at hfold
  refine ⟨_, _, applyOperations_eq url
    (fun operation hmem => isSome_edit_of_aboutGroup (habout operation hmem)) hbook, hfind, ?_,
    hsame⟩
  exact groupAgrees_iff.mpr ⟨(KeyedList.mem_of_find hfind).2, hnodup', hfold⟩

end Group

/-! ### Any object, after any edits and saves -/

def newSettings : EventSettings := ⟨.clean .default, .clean false⟩

def newURI (id uri : String) : ContactURI := ⟨id, .clean uri, .clean none, .empty, false⟩

theorem default_present_clean (id : String) (h : (Setting.clean (none : Option String)).value = some id) :
    (KeyedList.find URIEntry.id id []).any (·.present) = true := by
  cases h

def newContact : Contact where
  id := "a"
  name := .clean "Alice"
  uris := ⟨[], .clean none, List.nodup_nil, default_present_clean⟩
  dialog := newSettings
  presence := newSettings
  attributes := .empty
  localDirty := false
  runtimeDirty := false
  state := .new
  xcapContact := none

/-- The contact is saved with one URI, and another one, which comes first, is added. -/
def contactActions : List (Action ContactEdit (HashOrder ContactURI)) :=
  [.edit (.addURI (newURI "b" "sip:alice@example.org")), .save .same,
    .edit (.addURI (newURI "a" "sip:alice@example.net"))]

def savedContact : Account.Xcap.Contact :=
  ⟨"a", "Alice", ⟨⟨[⟨"b", "sip:alice@example.org", none, .empty⟩], by decide⟩, none⟩,
    ⟨.default, false⟩, ⟨.default, false⟩, .empty⟩

def newGroup : Group where
  id := "g"
  name := .clean "Friends"
  contacts := []
  oldContacts := []
  distinct := List.nodup_nil
  attributes := .empty
  localDirty := false
  runtimeDirty := false
  state := .new
  xcapGroup := none

def groupActions : List (Action GroupEdit (HashOrder GroupMember)) :=
  [.edit (.addContact savedContact), .save .same, .edit (.removeContact "a"), .edit (.name "Others")]

def savedGroup : Account.Xcap.Group := ⟨"g", "Friends", ⟨[savedContact], by decide⟩, .empty⟩

def newPolicy : Policy where
  id := "p"
  uri := .clean "sip:mallory@example.com"
  name := .clean "Mallory"
  dialog := newSettings
  presence := newSettings
  attributes := .empty
  localDirty := false
  runtimeDirty := false
  state := .new
  xcapPolicy := none

def policyActions : List (Action PolicyEdit Unit) := [.save (), .edit (.presencePolicy .block)]

def savedPolicy : Account.Xcap.Policy :=
  ⟨"p", "sip:mallory@example.com", "Mallory", ⟨.default, false⟩, ⟨.default, false⟩, .empty⟩

/-- What the handlers of the first saves make of an empty addressbook. -/
def savedBook : ResourceList := addPolicy savedPolicy (addGroup savedGroup (addContact savedContact {}))

def savedContent : ResourceLists := ({} : ResourceLists).set .sipsimpleAddressbook savedBook

end SipSimple.AddressBook
