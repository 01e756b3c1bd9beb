import SipSimple.AddressBook.ContactCards
import SipSimple.Library.Runs

/-!
# The operations of a save

A save of a contact, group or policy that was saved before schedules operations for what was modified.
Applied to a document with the element of the last save, they make the element of the new values and
change nothing else, up to the order of the URIs of a contact and of the members of a group.
-/

namespace SipSimple.AddressBook

open Payloads (PolicyValue Attributes ResourceList ResourceLists XMLList XMLItem Handling SimpleElement)
open Account.Xcap

/-! ### The handlers on the document -/

/-- The handlers of the operations, one after the other. -/
def applyOperations (url : String) (operations : List Operation) (content : Option ResourceLists) :
    Option ResourceLists :=
  operations.foldl (fun content operation => (operation.handle url content).1) content

/-- What an operation does to the addressbook. -/
def editBook (book : ResourceList) (operation : Operation) : ResourceList :=
  (operation.edit.getD id) book

theorem handle_of_edit {operation : Operation} {edit : ResourceList → ResourceList}
    (hedit : operation.edit = some edit) (url : String) {content : ResourceLists}
    {book : ResourceList} (hbook : content.lists .sipsimpleAddressbook = some book) :
    (operation.handle url (some content)).1 =
      some (content.set .sipsimpleAddressbook (editBook book operation)) := by
  cases operation <;> cases hedit <;>
    simp [Operation.handle, Operation.edit, editAddressbook, hbook, editBook]

theorem applyOperations_eq (url : String) {operations : List Operation}
    (hedit : ∀ operation ∈ operations, operation.edit.isSome = true) {content : ResourceLists}
    {book : ResourceList} (hbook : content.lists .sipsimpleAddressbook = some book) :
    applyOperations url operations (some content) =
      some (content.set .sipsimpleAddressbook (operations.foldl editBook book)) := by
  induction operations generalizing content book with
  | nil =>
      have hset : content.set .sipsimpleAddressbook book = content := by
        rw [ResourceLists.set, ← hbook, Function.update_eq_self]
      rw [List.foldl_nil, hset]
      rfl
  | cons operation operations ih =>
      obtain ⟨edit, hedit'⟩ := Option.isSome_iff_exists.mp (hedit operation List.mem_cons_self)
      have hrest := ih (fun other hmem => hedit other (List.mem_cons_of_mem _ hmem))
        (ResourceLists.set_lists_self content .sipsimpleAddressbook (editBook book operation))
      rw [applyOperations, List.foldl_cons, handle_of_edit hedit' url hbook]
      refine hrest.trans ?_
      simp [ResourceLists.set]

/-- Only the named elements may differ. -/
structure SameExcept (contact group policy : Option String) (before after : ResourceList) :
    Prop where
  contacts : ∀ id, some id ≠ contact → after.contacts.find id = before.contacts.find id
  groups : ∀ id, some id ≠ group → after.groups.find id = before.groups.find id
  policies : ∀ id, some id ≠ policy → after.policies.find id = before.policies.find id
  entries : after.entries = before.entries
  others : after.others = before.others

theorem SameExcept.refl (contact group policy : Option String) (book : ResourceList) :
    SameExcept contact group policy book book :=
  ⟨fun _ _ => rfl, fun _ _ => rfl, fun _ _ => rfl, rfl, rfl⟩

theorem SameExcept.trans {contact group policy : Option String} {first second third : ResourceList}
    (hleft : SameExcept contact group policy first second)
    (hright : SameExcept contact group policy second third) :
    SameExcept contact group policy first third :=
  ⟨fun id hid => (hright.contacts id hid).trans (hleft.contacts id hid),
    fun id hid => (hright.groups id hid).trans (hleft.groups id hid),
    fun id hid => (hright.policies id hid).trans (hleft.policies id hid),
    hright.entries.trans hleft.entries, hright.others.trans hleft.others⟩

theorem modify_frame {α : Type} [XMLItem α] (list : XMLList α) {key id : String} (hkey : key = id)
    {f : α → α} (hid : ∀ item, XMLItem.xmlId (f item) = XMLItem.xmlId item) :
    (list.modify key f hid).find id = (list.find id).map f ∧
      ∀ id', some id' ≠ some id → (list.modify key f hid).find id' = list.find id' := by
  refine ⟨?_, fun id' hne => ?_⟩
  · rw [find_modify, if_pos hkey.symm]
  · rw [find_modify, if_neg fun heq => hne (by rw [heq, hkey])]

/-- An operation about a contact, on the addressbook. -/
theorem editBook_contact {id : String} {operation : Operation} (habout : aboutContact id operation)
    (book : ResourceList) :
    (editBook book operation).contacts.find id =
        (book.contacts.find id).map (editElement operation) ∧
      SameExcept (some id) none none book (editBook book operation) := by
  have hmodify : ∀ contact : Account.Xcap.Contact, contact.id = id → _ := fun contact hcontact =>
    modify_frame book.contacts hcontact (id_editElement operation)
  cases operation with
  | addContactURI contact uri =>
      obtain ⟨hself, hother⟩ := hmodify contact habout
      exact ⟨hself, hother, fun _ _ => rfl, fun _ _ => rfl, rfl, rfl⟩
  | removeContactURI contact uri =>
      obtain ⟨hself, hother⟩ := hmodify contact habout
      exact ⟨hself, hother, fun _ _ => rfl, fun _ _ => rfl, rfl, rfl⟩
  | updateContactURI contact uri attributes =>
      obtain ⟨hself, hother⟩ := hmodify contact habout
      exact ⟨hself, hother, fun _ _ => rfl, fun _ _ => rfl, rfl, rfl⟩
  | updateContact contact attributes =>
      obtain ⟨hself, hother⟩ := hmodify contact habout
      exact ⟨hself, hother, fun _ _ => rfl, fun _ _ => rfl, rfl, rfl⟩
  | _ => exact habout.elim

/-- Operations that are all about one element. -/
theorem foldl_editBook {α : Type} (element : ResourceList → Option α) {about : Operation → Prop}
    {edit : Operation → α → α} {contact group policy : Option String}
    (hedit : ∀ operation, about operation → ∀ book : ResourceList,
      element (editBook book operation) = (element book).map (edit operation) ∧
        SameExcept contact group policy book (editBook book operation))
    {operations : List Operation} (habout : ∀ operation ∈ operations, about operation)
    (book : ResourceList) :
    element (operations.foldl editBook book) =
        (element book).map (fun item => operations.foldl (fun item operation => edit operation item) item) ∧
      SameExcept contact group policy book (operations.foldl editBook book) := by
  induction operations generalizing book with
  | nil => exact ⟨by simp, SameExcept.refl _ _ _ _⟩
  | cons operation operations ih =>
      obtain ⟨hself, hother⟩ := hedit operation (habout operation List.mem_cons_self) book
      obtain ⟨hself', hother'⟩ := ih (fun other hmem => habout other (List.mem_cons_of_mem _ hmem))
        (editBook book operation)
      refine ⟨?_, hother.trans hother'⟩
      rw [List.foldl_cons, hself', hself, Option.map_map]
      rfl

theorem elementCard_foldl (operations : List Operation) (element : Payloads.Contact) :
    elementCard (operations.foldl (fun element operation => editElement operation element) element)
      = operations.foldl editCard (elementCard element) := by
  induction operations generalizing element with
  | nil => rfl
  | cons operation operations ih =>
      rw [List.foldl_cons, List.foldl_cons, ih, elementCard_edit]

theorem isSome_edit_of_aboutContact {id : String} {operation : Operation}
    (h : aboutContact id operation) : operation.edit.isSome = true := by
  cases operation <;> first | rfl | exact h.elim

/-! ### Objects over edits and saves -/

/-- What happens to a local object; a save comes with what it goes through its sets in. -/
inductive Action (edit order : Type)
  | edit (edit : edit)
  | save (order : order)

section Tracked

variable {object xcap : Type} (state : object → ObjectState) (saved : object → Option xcap)
  (Synced : object → xcap → Prop)

/-- An object that has an XCAP object of its last save tracks it. -/
def Tracked (item : object) : Prop :=
  state item ≠ .deleted ∧ ∀ old, saved item = some old → state item = .active ∧ Synced item old

variable {state saved Synced}

theorem tracked_edit {before after : object} (h : Tracked state saved Synced before)
    (hstate : state after = state before) (hsaved : saved after = saved before)
    (hsynced : ∀ old, Synced before old → Synced after old) : Tracked state saved Synced after := by
  refine ⟨hstate ▸ h.1, fun old hold => ?_⟩
  obtain ⟨hactive, hold'⟩ := h.2 old (hsaved.symm.trans hold)
  exact ⟨hstate.trans hactive, hsynced old hold'⟩

theorem tracked_save {after : object} {new : xcap} (hstate : state after = .active)
    (hsaved : saved after = some new) (hsynced : Synced after new) :
    Tracked state saved Synced after := by
  refine ⟨by rw [hstate]; decide, fun old hold => ?_⟩
  obtain rfl : new = old := Option.some.inj (hsaved.symm.trans hold)
  exact ⟨hstate, hsynced⟩

theorem tracked_new {new : object} (hstate : state new = .new) (hsaved : saved new = none) :
    Tracked state saved Synced new :=
  ⟨by rw [hstate]; decide, fun old hold => by rw [hsaved] at hold; cases hold⟩

end Tracked

/-! ### Contacts -/

/-- The two contacts differ at most in the order of their URIs. -/
structure ContactAgrees (left right : Account.Xcap.Contact) : Prop where
  id : left.id = right.id
  name : left.name = right.name
  uris : left.uris.items.Perm right.uris.items
  default : left.uris.default = right.uris.default
  dialog : left.dialog = right.dialog
  presence : left.presence = right.presence
  attributes : left.attributes = right.attributes

theorem contactAgrees_iff {left right : Account.Xcap.Contact} :
    ContactAgrees left right ↔ left.id = right.id ∧ xcapCard left = xcapCard right := by
  constructor
  · intro h
    refine ⟨h.id, ContactCard.ext h.name (funext fun id => ?_) h.default h.dialog h.presence
      h.attributes⟩
    exact KeyedList.find_perm left.uris.distinct h.uris id
  · intro ⟨hid, hcard⟩
    have huri : ∀ id, (xcapCard left).uri id = (xcapCard right).uri id := fun id => by rw [hcard]
    exact ⟨hid, congrArg ContactCard.name hcard,
      KeyedList.perm_of_find left.uris.distinct right.uris.distinct huri,
      congrArg ContactCard.default hcard, congrArg ContactCard.dialog hcard,
      congrArg ContactCard.presence hcard, congrArg ContactCard.attributes hcard⟩

@[simp] theorem Setting.old_sync {α : Type} [DecidableEq α] (setting : Setting α) :
    setting.sync.old = setting.value := rfl

theorem SharedSettings.oldValues_sync (settings : SharedSettings) :
    settings.sync.oldValues = settings.values := by
  refine SortedDict.Dict.ext_get fun key => ?_
  simp only [SharedSettings.sync, SharedSettings.values, SharedSettings.oldValues,
    SortedDict.Dict.get_filterMap]
  cases settings.get key <;> rfl

theorem ContactURI.oldXcap_sync (uri : ContactURI) : uri.sync.oldXcap = uri.toxcap := by
  simp only [ContactURI.oldXcap, ContactURI.sync, ContactURI.toxcap, Setting.old_sync,
    SharedSettings.oldValues_sync]

/-- **A save makes the card of `__toxcap__` the one that later edits keep.** -/
theorem Contact.synced_sync (contact : Contact) : contact.sync.Synced (xcapCard contact.toxcap) where
  name := rfl
  uri id := by
    rw [xcapCard_uri, sync, ContactURIList.sync, KeyedList.find_map URIEntry.id_sync,
      KeyedList.find_filter contact.uris.distinct]
    cases KeyedList.find URIEntry.id id contact.uris.entries with
    | none => rfl
    | some entry =>
        obtain ⟨uri, present, saved⟩ := entry
        cases present with
        | false => rfl
        | true => exact congrArg some (ContactURI.oldXcap_sync uri).symm
  default := contact.uris.getDefault_eq
  dialog := rfl
  presence := rfl
  attributes := (SharedSettings.oldValues_sync contact.attributes).symm

/-- The operations of a contact are about it. -/
theorem Contact.aboutContact_operations (contact : Contact) (order : HashOrder ContactURI) :
    ∀ operation ∈ contact.operations order, aboutContact contact.id operation := by
  intro operation hmem
  simp only [operations, List.mem_append, List.mem_map] at hmem
  rcases hmem with ((⟨_, _, rfl⟩ | ⟨_, _, rfl⟩) | ⟨_, _, rfl⟩) | hmem
  · rfl
  · rfl
  · rfl
  · split_ifs at hmem
    · cases hmem
    · rw [List.mem_singleton.mp hmem]
      rfl

theorem HashOrder.order_nil {α : Type} (order : HashOrder α) : order.order [] = [] :=
  (order.perm []).eq_nil

theorem Contact.operations_of_not_modified {contact : Contact} (h : contact.isModified = false)
    (order : HashOrder ContactURI) : contact.operations order = [] := by
  simp only [isModified, ContactURIList.isModified, Bool.or_eq_false_iff, decide_eq_false_iff_not,
    not_not, Bool.not_eq_false', List.isEmpty_iff] at h
  obtain ⟨⟨hmodified, ⟨hadded, hremoved⟩, huris⟩, _⟩ := h
  simp [operations, hmodified, hadded, hremoved, huris, HashOrder.order_nil]

/-- What is scheduled for a contact that was saved before is as good as all its operations. -/
theorem Contact.foldl_save {contact : Contact} {old : Account.Xcap.Contact}
    (hactive : contact.state = .active) (hold : contact.xcapContact = some old)
    (hsynced : contact.Synced (xcapCard old)) (order : HashOrder ContactURI) :
    (contact.save order).2.foldl editCard (xcapCard old) = xcapCard contact.toxcap ∧
      ∀ operation ∈ (contact.save order).2, aboutContact contact.id operation := by
  have hall := Contact.foldl_operations hsynced order
  simp only [save, hactive]
  by_cases hmodified : contact.isModified = true
  · rw [if_pos hmodified]
    by_cases hsame : contact.xcapContact = some contact.toxcap
    · have holdEq : old = contact.toxcap := Option.some.inj (hold.symm.trans hsame)
      simp [hsame, holdEq]
    · simp only [if_neg hsame]
      exact ⟨hall, contact.aboutContact_operations order⟩
  · rw [if_neg hmodified]
    rw [operations_of_not_modified (by simpa using hmodified)] at hall
    split_ifs
    · exact ⟨hall, by simp⟩
    · exact ⟨hall, by simp⟩

def Contact.act (contact : Contact) : Action ContactEdit (HashOrder ContactURI) → Contact
  | .edit edit => contact.edit edit
  | .save order => (contact.save order).1

/-- A contact that was just made, or was just loaded from the configuration. -/
def Contact.Initial (contact : Contact) : Prop :=
  (contact.state = .new ∧ contact.xcapContact = none) ∨
    (contact.state = .active ∧ contact.xcapContact = some contact.toxcap ∧ contact.sync = contact)

/-- The XCAP object is what the contact was at its last save. -/
def Contact.SyncedXcap (contact : Contact) (old : Account.Xcap.Contact) : Prop :=
  old.id = contact.id ∧ contact.Synced (xcapCard old)

abbrev Contact.Tracked : Contact → Prop := AddressBook.Tracked state xcapContact SyncedXcap

theorem Contact.Initial.tracked {contact : Contact} (h : contact.Initial) : contact.Tracked := by
  rcases h with ⟨hnew, hnone⟩ | ⟨hactive, hxcap, hclean⟩
  · exact tracked_new hnew hnone
  · have hsynced := contact.synced_sync
    rw [hclean] at hsynced
    exact tracked_save hactive hxcap ⟨rfl, hsynced⟩

theorem Contact.tracked_act (contact : Contact) (action : Action ContactEdit (HashOrder ContactURI))
    (h : contact.Tracked) : (contact.act action).Tracked := by
  cases action with
  | edit edit =>
      obtain ⟨hid, hstate, hxcap⟩ := contact.edit_frame edit
      exact tracked_edit h hstate hxcap fun old hold =>
        ⟨hold.1.trans hid.symm, Contact.synced_edit hold.2 edit⟩
  | save order =>
      have hsaved : ∀ state, state = .active → ({ contact.sync with
          state := state, xcapContact := some contact.toxcap } : Contact).Tracked :=
        fun _ hactive => tracked_save hactive rfl ⟨rfl, { contact.synced_sync with }⟩
      simp only [act, save]
      split
      next hdeleted => exact absurd hdeleted h.1
      next => exact hsaved _ rfl
      next hactive =>
          by_cases hmodified : contact.isModified = true
          · rw [if_pos hmodified]
            exact hsaved contact.state hactive
          · rw [if_neg hmodified]
            split_ifs
            · exact hsaved contact.state hactive
            · exact h

/-- **The operations of the save of a contact.** -/
theorem Contact.applyOperations_save (url : String) {content : ResourceLists} {book : ResourceList}
    (hbook : content.lists .sipsimpleAddressbook = some book) {contact : Contact}
    {old : Account.Xcap.Contact} (htracked : contact.Tracked)
    (hold : contact.xcapContact = some old) (order : HashOrder ContactURI)
    {element : Payloads.Contact} (helement : book.contacts.find contact.id = some element)
    (hagrees : ContactAgrees (payloadToContact element) old) :
    ∃ after element', applyOperations url (contact.save order).2 (some content) =
        some (content.set .sipsimpleAddressbook after) ∧
      after.contacts.find contact.id = some element' ∧
      ContactAgrees (payloadToContact element') contact.toxcap ∧
      SameExcept (some contact.id) none none book after := by
  obtain ⟨hactive, hid, hsynced⟩ := htracked.2 old hold
  obtain ⟨hcard, habout⟩ := foldl_save hactive hold hsynced order
  obtain ⟨hfind, hsame⟩ := foldl_editBook (fun book => book.contacts.find contact.id)
    (fun operation => editBook_contact) habout book
  rw [helement, Option.map_some] at hfind
  refine ⟨_, _, applyOperations_eq url
    (fun operation hmem => isSome_edit_of_aboutContact (habout operation hmem)) hbook, hfind, ?_,
    hsame⟩
  have hfold := elementCard_foldl (contact.save order).2 element
  have hstart : elementCard element = xcapCard old := (contactAgrees_iff.mp hagrees).2
  rw [hstart, hcard] at hfold
  exact contactAgrees_iff.mpr ⟨(KeyedList.mem_of_find hfind).2, hfold⟩

/-! ### Policies -/

/-- The XCAP object is what the policy was at its last save. -/
structure Policy.Synced (policy : Policy) (old : Account.Xcap.Policy) : Prop where
  id : old.id = policy.id
  uri : old.uri = policy.uri.old
  name : old.name = policy.name.old
  dialog : old.dialog = policy.dialog.oldXcap
  presence : old.presence = policy.presence.oldXcap
  attributes : old.attributes = policy.attributes.oldValues

theorem Policy.synced_sync (policy : Policy) : policy.sync.Synced policy.toxcap where
  id := rfl
  uri := rfl
  name := rfl
  dialog := rfl
  presence := rfl
  attributes := (SharedSettings.oldValues_sync policy.attributes).symm

theorem Policy.synced_edit {policy : Policy} {old : Account.Xcap.Policy} (h : policy.Synced old)
    (edit : PolicyEdit) : (policy.edit edit).Synced old := by
  cases edit with
  | shared name value =>
      exact { h with
        attributes := h.attributes.trans (SharedSettings.oldValues_assign _ name value).symm }
  | extension runtime => cases runtime <;> exact { h with }
  | _ => exact { h with }

def Policy.act (policy : Policy) : Action PolicyEdit Unit → Policy
  | .edit edit => policy.edit edit
  | .save _ => policy.save.1

/-- A policy that was just made, or was just loaded from the configuration. -/
def Policy.Initial (policy : Policy) : Prop :=
  (policy.state = .new ∧ policy.xcapPolicy = none) ∨
    (policy.state = .active ∧ policy.xcapPolicy = some policy.toxcap ∧ policy.sync = policy)

abbrev Policy.Tracked : Policy → Prop := AddressBook.Tracked state xcapPolicy Synced

theorem Policy.Initial.tracked {policy : Policy} (h : policy.Initial) : policy.Tracked := by
  rcases h with ⟨hnew, hnone⟩ | ⟨hactive, hxcap, hclean⟩
  · exact tracked_new hnew hnone
  · have hsynced := policy.synced_sync
    rw [hclean] at hsynced
    exact tracked_save hactive hxcap hsynced

theorem Policy.tracked_act (policy : Policy) (action : Action PolicyEdit Unit)
    (h : policy.Tracked) : (policy.act action).Tracked := by
  cases action with
  | edit edit =>
      have hframe : (policy.edit edit).state = policy.state ∧
          (policy.edit edit).xcapPolicy = policy.xcapPolicy := by
        cases edit with
        | extension runtime => cases runtime <;> exact ⟨rfl, rfl⟩
        | _ => exact ⟨rfl, rfl⟩
      exact tracked_edit h hframe.1 hframe.2 fun _ hold => Policy.synced_edit hold edit
  | save order =>
      have hsaved : ∀ state, state = .active → ({ policy.sync with
          state := state, xcapPolicy := some policy.toxcap } : Policy).Tracked :=
        fun _ hactive => tracked_save hactive rfl { policy.synced_sync with }
      simp only [act, save]
      split
      next hdeleted => exact absurd hdeleted h.1
      next => exact hsaved _ rfl
      next hactive =>
          by_cases hmodified : policy.isModified = true
          · rw [if_pos hmodified]
            exact hsaved policy.state hactive
          · rw [if_neg hmodified]
            split_ifs
            · exact hsaved policy.state hactive
            · exact h

def updatePolicy (attributes : PolicyAttributes) (policy : Account.Xcap.Policy) :
    Account.Xcap.Policy where
  id := policy.id
  uri := attributes.uri.getD policy.uri
  name := attributes.name.getD policy.name
  dialog := updateEventHandling attributes.dialog policy.dialog
  presence := updateEventHandling attributes.presence policy.presence
  attributes := policy.attributes.update attributes.attributes

theorem payloadToPolicy_update (attributes : PolicyAttributes) (policy : Payloads.Policy) :
    payloadToPolicy (updateXmlPolicy attributes policy) =
      updatePolicy attributes (payloadToPolicy policy) := by
  obtain ⟨uri, name, presence, dialog, shared⟩ := attributes
  have hpolicy : payloadToPolicy (updateXmlPolicy ⟨uri, name, presence, dialog, shared⟩ policy) =
      { id := policy.id
        uri := uri.getD policy.uri
        name := name.getD policy.name.value
        dialog := payloadToHandling (updateHandling dialog policy.dialog)
        presence := payloadToHandling (updateHandling presence policy.presence)
        attributes := payloadAttributes (some (.updateChild policy.attributes shared)) } := by
    cases uri <;> cases name <;> rfl
  rw [hpolicy, payloadToHandling_update, payloadToHandling_update, payloadAttributes_update]
  rfl

theorem Policy.update_modified {policy : Policy} {old : Account.Xcap.Policy}
    (h : policy.Synced old) : updatePolicy policy.modified old = policy.toxcap := by
  simp only [updatePolicy, modified, toxcap, h.id, h.uri, h.name, h.dialog, h.presence, h.attributes,
    policy.uri.modified_getD, policy.name.modified_getD, policy.dialog.update_modified,
    policy.presence.update_modified, policy.attributes.update_modified]

/-- **The operation of the save of a policy.** -/
theorem Policy.applyOperations_save (url : String) {content : ResourceLists} {book : ResourceList}
    (hbook : content.lists .sipsimpleAddressbook = some book) {policy : Policy}
    {old : Account.Xcap.Policy} (htracked : policy.Tracked)
    (hold : policy.xcapPolicy = some old) {element : Payloads.Policy}
    (helement : book.policies.find policy.id = some element)
    (hagrees : payloadToPolicy element = old) :
    ∃ after element', applyOperations url policy.save.2 (some content) =
        some (content.set .sipsimpleAddressbook after) ∧
      after.policies.find policy.id = some element' ∧
      payloadToPolicy element' = policy.toxcap ∧
      SameExcept none none (some policy.id) book after := by
  obtain ⟨hactive, hsynced⟩ := htracked.2 old hold
  have hupdate := update_modified hsynced
  have hnone : old = policy.toxcap → policy.save.2 = [] → ∃ after element',
      applyOperations url policy.save.2 (some content) =
          some (content.set .sipsimpleAddressbook after) ∧
        after.policies.find policy.id = some element' ∧
        payloadToPolicy element' = policy.toxcap ∧
        SameExcept none none (some policy.id) book after := fun heq hops =>
    ⟨book, element, by rw [hops]; exact applyOperations_eq url (by simp) hbook, helement,
      hagrees.trans heq, SameExcept.refl _ _ _ _⟩
  by_cases hmodified : policy.isModified = true
  · by_cases hsame : policy.xcapPolicy = some policy.toxcap
    · exact hnone (Option.some.inj (hold.symm.trans hsame))
        (by simp [save, hactive, hmodified, hsame])
    · have hops : policy.save.2 = [.updatePolicy policy.toxcap policy.modified] := by
        simp [save, hactive, hmodified, hsame]
      obtain ⟨hself, hother⟩ :=
        modify_frame book.policies rfl (id_updateXmlPolicy policy.modified)
      refine ⟨{ book with
        policies := book.policies.modify policy.id (updateXmlPolicy policy.modified)
          (id_updateXmlPolicy policy.modified) }, updateXmlPolicy policy.modified element,
        ?_, ?_, ?_, ?_⟩
      · rw [hops]
        exact applyOperations_eq url (by simp [Operation.edit]) hbook
      · rw [hself, helement]
        rfl
      · rw [payloadToPolicy_update, hagrees, hupdate]
      · exact ⟨fun _ _ => rfl, fun _ _ => rfl, hother, rfl, rfl⟩
  · have hempty : policy.modified = {} := by
      simp only [isModified, Bool.or_eq_true, decide_eq_true_eq, not_or, not_not] at hmodified
      exact hmodified.1
    refine hnone ?_ ?_
    · rw [← hupdate, hempty]
      rfl
    · simp only [save, hactive, if_neg hmodified]
      split_ifs <;> rfl

end SipSimple.AddressBook
