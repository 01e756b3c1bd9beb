import SipSimple.AddressBook.Objects
import SipSimple.Account.Xcap.Handlers

/-!
# What a contact says

What an element or an XCAP object says of a contact is put on a card, in which the URIs have no order:
the operations of a save add URIs at the end, while `__toxcap__` sorts them by ID. The handlers act on
elements as the operations act on cards. A local contact keeps the values of its last save through every
edit, and its operations lead from the card of these to the card of the new values.
-/

namespace SipSimple.AddressBook

open Payloads (PolicyValue Attributes ResourceList ResourceLists XMLList XMLItem Handling SimpleElement)
open Account.Xcap

/-! ### Settings -/

section Settings

variable {α : Type} [DecidableEq α]

@[simp] theorem Setting.old_set (setting : Setting α) (value : α) :
    (setting.set value).old = setting.old := rfl

theorem SharedSettings.oldValues_assign (settings : SharedSettings) (name : String)
    (value : Option String) : (settings.assign name value).oldValues = settings.oldValues := by
  rw [SharedSettings.assign]
  cases hget : settings.get name with
  | none => rfl
  | some setting =>
      refine SortedDict.Dict.ext_get fun key => ?_
      rw [SharedSettings.oldValues, SharedSettings.oldValues, SortedDict.Dict.get_filterMap,
        SortedDict.Dict.get_filterMap, SortedDict.Dict.get_set]
      split_ifs with hkey
      · rw [hkey, hget]
        rfl
      · rfl

/-- Updating the attributes of the last save with what was modified. -/
theorem SharedSettings.update_modified (settings : SharedSettings) :
    settings.oldValues.update settings.modified = settings.values := by
  refine SortedDict.Dict.ext_get fun key => ?_
  simp only [SharedSettings.oldValues, SharedSettings.modified, SharedSettings.values,
    SortedDict.Dict.get_update, SortedDict.Dict.get_filterMap]
  cases settings.get key with
  | none => rfl
  | some setting =>
      have hvalue := setting.modified_getD
      cases hmodified : setting.modified with
      | none =>
          rw [hmodified, Option.getD_none] at hvalue
          simp [hmodified, hvalue]
      | some value =>
          rw [hmodified, Option.getD_some] at hvalue
          simp [hmodified, hvalue]

/-- The handling of the last save, updated with what was modified. -/
def updateEventHandling (attributes : HandlingAttributes) (handling : EventHandling) :
    EventHandling :=
  ⟨attributes.policy.getD handling.policy, attributes.subscribe.getD handling.subscribe⟩

def EventSettings.oldXcap (settings : EventSettings) : EventHandling :=
  ⟨settings.policy.old, settings.subscribe.old⟩

theorem EventSettings.update_modified (settings : EventSettings) :
    updateEventHandling settings.modified settings.oldXcap = settings.toxcap := by
  rw [updateEventHandling]
  exact congrArg₂ EventHandling.mk settings.policy.modified_getD settings.subscribe.modified_getD

theorem payloadToHandling_update (attributes : HandlingAttributes) (handling : Handling) :
    payloadToHandling (updateHandling attributes handling) =
      updateEventHandling attributes (payloadToHandling handling) := by
  obtain ⟨policy, subscribe⟩ := attributes
  cases policy <;> cases subscribe <;> rfl

theorem payloadAttributes_update (child : Option Payloads.ElementAttributes)
    (attributes : Attributes) :
    payloadAttributes (some (.updateChild child attributes)) =
      (payloadAttributes child).update attributes := by
  cases child <;> rfl

end Settings

/-! ### Cards -/

/-- What a contact says, with its URIs by ID. -/
@[ext] structure ContactCard where
  name : String
  uri : String → Option Account.Xcap.ContactURI
  default : Option String
  dialog : EventHandling
  presence : EventHandling
  attributes : Attributes

def xcapCard (contact : Account.Xcap.Contact) : ContactCard where
  name := contact.name
  uri id := KeyedList.find Account.Xcap.ContactURI.id id contact.uris.items
  default := contact.uris.default
  dialog := contact.dialog
  presence := contact.presence
  attributes := contact.attributes

def elementCard (element : Payloads.Contact) : ContactCard := xcapCard (payloadToContact element)

def updateURI (attributes : ContactURIAttributes) (uri : Account.Xcap.ContactURI) :
    Account.Xcap.ContactURI where
  id := uri.id
  uri := attributes.uri.getD uri.uri
  type := attributes.type.getD uri.type
  attributes := uri.attributes.update attributes.attributes

/-- What an operation makes of the card of its contact. -/
def editCard (card : ContactCard) : Operation → ContactCard
  | .addContactURI _ uri => { card with uri := Function.update card.uri uri.id (some uri) }
  | .removeContactURI _ uri => { card with uri := Function.update card.uri uri.id none }
  | .updateContactURI _ uri attributes =>
      { card with
        uri := Function.update card.uri uri.id ((card.uri uri.id).map (updateURI attributes)) }
  | .updateContact _ attributes =>
      { card with
        name := attributes.name.getD card.name
        default := attributes.urisDefault.getD card.default
        dialog := updateEventHandling attributes.dialog card.dialog
        presence := updateEventHandling attributes.presence card.presence
        attributes := card.attributes.update attributes.attributes }
  | _ => card

/-- The contact that an operation is about, for the operations of a save. -/
def aboutContact (id : String) : Operation → Prop
  | .addContactURI contact _ => contact.id = id
  | .removeContactURI contact _ => contact.id = id
  | .updateContactURI contact _ _ => contact.id = id
  | .updateContact contact _ => contact.id = id
  | _ => False

/-! ### What the handlers make of an element -/

theorem find_elementCard (element : Payloads.Contact) (id : String) :
    (elementCard element).uri id = (element.uris.find id).map payloadToContactURI :=
  KeyedList.find_map (fun _ => rfl) element.uris.items id

/-- Adding an item, as far as a view of the items does not see the flags. -/
theorem find_add {α β : Type} [XMLItem α] {view : α → β}
    (hmark : ∀ item : α, view (XMLItem.mark item) = view item)
    (hclean : ∀ item : α, view (XMLItem.clean item) = view item) (list : XMLList α) (item : α)
    (id : String) : ((list.add item).find id).map view =
      if id = XMLItem.xmlId item then some (view item) else (list.find id).map view := by
  have hput : ∀ (other : α) (dirty : Bool), XMLItem.xmlId other = XMLItem.xmlId item →
      view other = view item → ((list.put other dirty).find id).map view =
        if id = XMLItem.xmlId item then some (view item) else (list.find id).map view := by
    intro other dirty hid hview
    have hfind : (list.put other dirty).find id =
      if id = XMLItem.xmlId other then some other else list.find id := KeyedList.find_put id other _
    rw [hfind, hid]
    split_ifs
    · rw [Option.map_some, hview]
    · rfl
  rw [XMLList.add]
  split
  next old hold =>
    by_cases hsame : XMLItem.same item old = true
    · rw [if_pos hsame]
      by_cases hdirty : XMLItem.isDirty old = true
      · rw [if_pos hdirty]
        exact hput _ _ (XMLItem.xmlId_mark item) (hmark item)
      · rw [if_neg hdirty]
        exact hput _ _ (XMLItem.xmlId_clean item) (hclean item)
    · rw [if_neg hsame]
      exact hput _ _ rfl rfl
  next => exact hput _ _ rfl rfl

theorem find_remove {α : Type} [XMLItem α] (list : XMLList α) (id id' : String) :
    ((list.remove id').getD list).find id = if id = id' then none else list.find id := by
  rw [XMLList.remove]
  cases hfind : list.find id' with
  | none =>
      rw [Option.map_none, Option.getD_none]
      split_ifs with hid
      · rw [hid, hfind]
      · rfl
  | some old => exact KeyedList.find_erase id id' list.items

theorem find_modify {α : Type} [XMLItem α] (list : XMLList α) (id id' : String) {f : α → α}
    (hid : ∀ item, XMLItem.xmlId (f item) = XMLItem.xmlId item) :
    (list.modify id' f hid).find id = if id = id' then (list.find id).map f else list.find id :=
  KeyedList.find_modify (fun item hkey => (hid item).trans hkey) id list.items

theorem payloadToContactURI_clean (uri : Payloads.ContactURI) :
    payloadToContactURI (XMLItem.clean uri) = payloadToContactURI uri := by
  obtain ⟨id, value, type, attributes, dirty⟩ := uri
  cases attributes <;> rfl

theorem payloadToContactURI_update (attributes : ContactURIAttributes) (uri : Payloads.ContactURI) :
    payloadToContactURI (updateXmlContactURI attributes uri) =
      updateURI attributes (payloadToContactURI uri) := by
  obtain ⟨newUri, type, shared⟩ := attributes
  obtain ⟨id, value, type', attributes', dirty⟩ := uri
  cases newUri <;> cases type <;> cases attributes' <;> rfl

/-- What the handler of an operation does to the element of its contact. -/
def editElement (operation : Operation) (element : Payloads.Contact) : Payloads.Contact :=
  let withURIs (uris : XMLList Payloads.ContactURI) : Payloads.Contact :=
    { element with uris := { uris with default := element.uris.default } }
  match operation with
  | .addContactURI _ uri => withURIs (element.uris.add (xmlContactURI uri))
  | .removeContactURI _ uri => withURIs ((element.uris.remove uri.id).getD element.uris.toXMLList)
  | .updateContactURI _ uri attributes =>
      withURIs (element.uris.modify uri.id (updateXmlContactURI attributes)
        (id_updateXmlContactURI attributes))
  | .updateContact _ attributes => updateXmlContact attributes element
  | _ => element

theorem id_editElement (operation : Operation) (element : Payloads.Contact) :
    XMLItem.xmlId (editElement operation element) = XMLItem.xmlId element := by
  cases operation <;> first | rfl | exact id_updateXmlContact _ _

/-- **The handlers act on the element as the operations act on the card.** -/
theorem elementCard_edit (operation : Operation) (element : Payloads.Contact) :
    elementCard (editElement operation element) = editCard (elementCard element) operation := by
  have huris : ∀ (uris : XMLList Payloads.ContactURI) (lookup : String → Option _),
      (∀ id, (uris.find id).map payloadToContactURI = lookup id) →
        elementCard { element with uris := { uris with default := element.uris.default } } =
          { elementCard element with uri := lookup } := by
    intro uris lookup hfind
    have hlookup : (elementCard { element with
        uris := { uris with default := element.uris.default } }).uri = lookup :=
      funext fun id => (find_elementCard _ id).trans (hfind id)
    rw [← hlookup]
    rfl
  cases operation with
  | addContactURI contact uri =>
      refine huris _ _ fun id => ?_
      rw [find_add (fun _ => rfl) payloadToContactURI_clean, Function.update_apply,
        find_elementCard]
      rfl
  | removeContactURI contact uri =>
      refine huris _ _ fun id => ?_
      rw [find_remove, Function.update_apply, find_elementCard]
      split_ifs <;> rfl
  | updateContactURI contact uri attributes =>
      refine huris _ _ fun id => ?_
      rw [find_modify, Function.update_apply, find_elementCard, find_elementCard]
      split_ifs with hid
      · subst hid
        rw [Option.map_map, Option.map_map]
        exact congrArg (Option.map · _) (funext fun uri => payloadToContactURI_update attributes uri)
      · rfl
  | updateContact contact attributes =>
      obtain ⟨name, urisDefault, presence, dialog, shared⟩ := attributes
      have hcard : ∀ element : Payloads.Contact,
          elementCard (updateXmlContact ⟨name, urisDefault, presence, dialog, shared⟩ element) =
            { name := name.getD element.name.value
              uri := (elementCard element).uri
              default := urisDefault.getD element.uris.default
              dialog := payloadToHandling (updateHandling dialog element.dialog)
              presence := payloadToHandling (updateHandling presence element.presence)
              attributes := payloadAttributes (some (.updateChild element.attributes shared)) } := by
        intro element
        cases name <;> cases urisDefault <;> rfl
      rw [editElement, hcard, payloadToHandling_update, payloadToHandling_update,
        payloadAttributes_update]
      rfl
  | _ => rfl

/-! ### Edits keep what was saved -/

def ContactURI.oldXcap (uri : ContactURI) : Account.Xcap.ContactURI where
  id := uri.id
  uri := uri.uri.old
  type := uri.type.old
  attributes := uri.attributes.oldValues

/-- The URI that an entry had at the last save. -/
def URIEntry.savedURI (entry : URIEntry) : Option Account.Xcap.ContactURI :=
  if entry.saved then some entry.uri.oldXcap else none

/-- The card says what the contact was at its last save. -/
structure Contact.Synced (contact : Contact) (card : ContactCard) : Prop where
  name : card.name = contact.name.old
  uri : ∀ id, card.uri id =
    (KeyedList.find URIEntry.id id contact.uris.entries).bind URIEntry.savedURI
  default : card.default = contact.uris.default.old
  dialog : card.dialog = contact.dialog.oldXcap
  presence : card.presence = contact.presence.oldXcap
  attributes : card.attributes = contact.attributes.oldValues

/-- What a change of the URIs has to keep. -/
def KeepsSaved (before after : ContactURIList) : Prop :=
  after.default.old = before.default.old ∧ ∀ id,
    (KeyedList.find URIEntry.id id after.entries).bind URIEntry.savedURI =
      (KeyedList.find URIEntry.id id before.entries).bind URIEntry.savedURI

theorem KeepsSaved.trans {first second third : ContactURIList} (hleft : KeepsSaved first second)
    (hright : KeepsSaved second third) : KeepsSaved first third :=
  ⟨hright.1.trans hleft.1, fun id => (hright.2 id).trans (hleft.2 id)⟩

theorem ContactURIList.find_modify (uris : ContactURIList) (id : String)
    {f : ContactURI → ContactURI} (hid : ∀ uri, (f uri).id = uri.id) (id' : String) :
    KeyedList.find URIEntry.id id' (uris.modify id f hid).entries =
      if id' = id then
        (KeyedList.find URIEntry.id id' uris.entries).map fun entry => { entry with uri := f entry.uri }
      else KeyedList.find URIEntry.id id' uris.entries :=
  KeyedList.find_modify (fun entry hkey => (hid entry.uri).trans hkey) id' uris.entries

theorem keepsSaved_modify (uris : ContactURIList) (id : String) {f : ContactURI → ContactURI}
    (hid : ∀ uri, (f uri).id = uri.id) (hold : ∀ uri, (f uri).oldXcap = uri.oldXcap) :
    KeepsSaved uris (uris.modify id f hid) := by
  refine ⟨rfl, fun id' => ?_⟩
  rw [uris.find_modify id hid]
  split_ifs
  · rw [Option.bind_map]
    refine congrArg (Option.bind _) (funext fun entry => ?_)
    simp only [Function.comp, URIEntry.savedURI, hold]
  · rfl

theorem entryFor_saved (uris : ContactURIList) (uri : ContactURI) :
    (uris.entryFor uri).id = uri.id ∧ (uris.entryFor uri).savedURI =
      (KeyedList.find URIEntry.id uri.id uris.entries).bind URIEntry.savedURI := by
  rw [ContactURIList.entryFor]
  cases hfind : KeyedList.find URIEntry.id uri.id uris.entries with
  | none => exact ⟨rfl, rfl⟩
  | some old =>
      dsimp only
      by_cases hold : (old.present || old.saved) = true
      · rw [if_pos hold]
        exact ⟨(KeyedList.mem_of_find hfind).2, rfl⟩
      · rw [if_neg hold]
        have hsaved : old.saved = false := by simp_all
        exact ⟨rfl, by simp [URIEntry.savedURI, hsaved]⟩

theorem KeepsSaved.refl (uris : ContactURIList) : KeepsSaved uris uris := ⟨rfl, fun _ => rfl⟩

theorem keepsSaved_put (uris : ContactURIList) (uri : ContactURI) :
    KeepsSaved uris (uris.put uri) := by
  refine ⟨rfl, fun id => ?_⟩
  obtain ⟨hid, hsaved⟩ := entryFor_saved uris uri
  rw [ContactURIList.put, KeyedList.find_assign, hid]
  split_ifs with heq
  · rw [heq, Option.bind_some, hsaved]
  · rfl

theorem keepsSaved_add (uris : ContactURIList) (uri : ContactURI) :
    KeepsSaved uris (uris.add uri) := by
  rw [ContactURIList.add]
  split_ifs
  · exact .refl uris
  · exact keepsSaved_put uris uri

theorem keepsSaved_remove (uris : ContactURIList) (id : String) :
    KeepsSaved uris (uris.remove id) := by
  refine ⟨?_, fun id' => ?_⟩
  · rw [ContactURIList.remove]
    dsimp only
    split_ifs <;> rfl
  · rw [ContactURIList.remove, KeyedList.find_modify URIEntry.id_drop]
    split_ifs
    · rw [Option.bind_map]
      rfl
    · rfl

theorem keepsSaved_foldl {α : Type} {f : ContactURIList → α → ContactURIList}
    (hf : ∀ uris item, KeepsSaved uris (f uris item)) (items : List α) (uris : ContactURIList) :
    KeepsSaved uris (items.foldl f uris) := by
  induction items generalizing uris with
  | nil => exact .refl uris
  | cons item items ih => exact (hf uris item).trans (ih _)

theorem keepsSaved_setItems (uris : ContactURIList) (items : List ContactURI) :
    KeepsSaved uris (uris.setItems items) := by
  simp only [ContactURIList.setItems]
  split_ifs
  · exact .refl uris
  · exact (keepsSaved_foldl keepsSaved_remove _ _).trans (keepsSaved_foldl keepsSaved_add _ _)

theorem keepsSaved_setDefault (uris : ContactURIList) (id : Option String) :
    KeepsSaved uris (uris.setDefault id) := by
  rw [ContactURIList.setDefault]
  split_ifs
  · exact ⟨rfl, fun _ => rfl⟩
  · exact .refl uris

theorem Contact.Synced.setURIs {contact : Contact} {card : ContactCard} (h : contact.Synced card)
    {uris : ContactURIList} (hkeeps : KeepsSaved contact.uris uris) :
    { contact with uris := uris }.Synced card :=
  { h with
    uri := fun id => (h.uri id).trans (hkeeps.2 id).symm
    default := h.default.trans hkeeps.1.symm }

/-- **An edit keeps what was saved.** -/
theorem Contact.synced_edit {contact : Contact} {card : ContactCard} (h : contact.Synced card)
    (edit : ContactEdit) : (contact.edit edit).Synced card := by
  cases edit with
  | name value => exact { h with }
  | presencePolicy value => exact { h with }
  | presenceSubscribe value => exact { h with }
  | dialogPolicy value => exact { h with }
  | dialogSubscribe value => exact { h with }
  | shared name value =>
      exact { h with
        attributes := h.attributes.trans (SharedSettings.oldValues_assign _ name value).symm }
  | extension runtime => cases runtime <;> exact { h with }
  | addURI uri => exact h.setURIs (keepsSaved_add _ uri)
  | removeURI id => exact h.setURIs (keepsSaved_remove _ id)
  | setURIs uris => exact h.setURIs (keepsSaved_setItems _ uris)
  | uriURI id value => exact h.setURIs (keepsSaved_modify _ id _ fun _ => rfl)
  | uriType id value => exact h.setURIs (keepsSaved_modify _ id _ fun _ => rfl)
  | uriAttribute id name value =>
      refine h.setURIs (keepsSaved_modify _ id _ fun uri => ?_)
      simp only [ContactURI.oldXcap, SharedSettings.oldValues_assign]
  | uriExtension id => exact h.setURIs (keepsSaved_modify _ id _ fun _ => rfl)
  | defaultURI id => exact h.setURIs (keepsSaved_setDefault _ id)

theorem Contact.edit_frame (contact : Contact) (edit : ContactEdit) :
    (contact.edit edit).id = contact.id ∧ (contact.edit edit).state = contact.state ∧
      (contact.edit edit).xcapContact = contact.xcapContact := by
  cases edit with
  | extension runtime => cases runtime <;> exact ⟨rfl, rfl, rfl⟩
  | _ => exact ⟨rfl, rfl, rfl⟩

/-! ### The operations on the card -/

/-- Operations for different URIs, each of which changes what the card has for its URI. -/
theorem foldl_uris {operation : ContactURI → Operation}
    {g : ContactURI → Option Account.Xcap.ContactURI → Option Account.Xcap.ContactURI}
    (hop : ∀ card uri, editCard card (operation uri) =
      { card with uri := Function.update card.uri uri.id (g uri (card.uri uri.id)) })
    (uris : List ContactURI) (hdistinct : KeyedList.Distinct ContactURI.id uris)
    (card : ContactCard) :
    (uris.map operation).foldl editCard card = { card with
      uri := fun id => match KeyedList.find ContactURI.id id uris with
        | some uri => g uri (card.uri id)
        | none => card.uri id } := by
  induction uris generalizing card with
  | nil => rfl
  | cons head uris ih =>
      obtain ⟨hnew, hrest⟩ := List.nodup_cons.mp hdistinct
      rw [List.map_cons, List.foldl_cons, ih hrest, hop]
      have hlookup : (fun id => match KeyedList.find ContactURI.id id uris with
            | some uri => g uri (Function.update card.uri head.id (g head (card.uri head.id)) id)
            | none => Function.update card.uri head.id (g head (card.uri head.id)) id) =
          fun id => match KeyedList.find ContactURI.id id (head :: uris) with
            | some uri => g uri (card.uri id)
            | none => card.uri id := by
        funext id
        rw [KeyedList.find_cons, Function.update_apply]
        by_cases hid : id = head.id
        · have hnone : KeyedList.find ContactURI.id id uris = none :=
            KeyedList.find_eq_none.mpr (hid ▸ hnew)
          rw [hnone, if_pos hid, if_pos hid.symm, hid]
        · rw [if_neg hid, if_neg (Ne.symm hid)]
      rw [← hlookup]

theorem find_entries (uris : ContactURIList) (p : URIEntry → Bool) (id : String) :
    KeyedList.find ContactURI.id id ((uris.entries.filter p).map (·.uri)) =
      ((KeyedList.find URIEntry.id id uris.entries).filter p).map (·.uri) := by
  have hkey : ∀ entry : URIEntry, ContactURI.id entry.uri = entry.id := fun _ => rfl
  rw [KeyedList.find_map hkey]
  rw [KeyedList.find_filter uris.distinct]

theorem distinct_entries (uris : ContactURIList) (p : URIEntry → Bool) :
    KeyedList.Distinct ContactURI.id ((uris.entries.filter p).map (·.uri)) :=
  KeyedList.distinct_map (fun _ => rfl) (KeyedList.distinct_filter uris.distinct p)

theorem find_order (order : HashOrder ContactURI) {uris : List ContactURI}
    (hdistinct : KeyedList.Distinct ContactURI.id uris) (id : String) :
    KeyedList.find ContactURI.id id (order.order uris) = KeyedList.find ContactURI.id id uris :=
  (KeyedList.find_perm hdistinct (order.perm uris).symm id).symm

theorem distinct_order (order : HashOrder ContactURI) {uris : List ContactURI}
    (hdistinct : KeyedList.Distinct ContactURI.id uris) :
    KeyedList.Distinct ContactURI.id (order.order uris) :=
  ((order.perm uris).map ContactURI.id).nodup_iff.mpr hdistinct

/-- An object that is not modified has the values of the last save. -/
theorem ContactURI.update_modified (uri : ContactURI) :
    updateURI uri.modified uri.oldXcap = uri.toxcap := by
  simp only [updateURI, ContactURI.modified, ContactURI.oldXcap, ContactURI.toxcap,
    uri.uri.modified_getD, uri.type.modified_getD, uri.attributes.update_modified]

theorem updateURI_empty (uri : Account.Xcap.ContactURI) : updateURI {} uri = uri := rfl

theorem ContactURI.toxcap_of_not_modified {uri : ContactURI} (h : uri.isModified = false) :
    uri.toxcap = uri.oldXcap := by
  simp only [isModified, Bool.or_eq_false_iff, decide_eq_false_iff_not, not_not] at h
  rw [← uri.update_modified, h.1, updateURI_empty]

/-- The URIs of `__toxcap__`. -/
theorem xcapCard_uri (contact : Contact) (id : String) :
    (xcapCard contact.toxcap).uri id =
      ((KeyedList.find URIEntry.id id contact.uris.entries).filter (·.present)).map
        (·.uri.toxcap) := by
  have hsorted : contact.uris.items.Perm contact.uris.sorted :=
    (List.perm_insertionSort _ contact.uris.items).symm
  have hmap : (xcapCard contact.toxcap).uri id =
      (KeyedList.find ContactURI.id id contact.uris.sorted).map ContactURI.toxcap :=
    KeyedList.find_map (fun _ => rfl) contact.uris.sorted id
  rw [hmap, ← KeyedList.find_perm contact.uris.distinct_items hsorted, ContactURIList.items,
    find_entries, Option.map_map]
  rfl

theorem ContactURIList.getDefault_eq (uris : ContactURIList) :
    uris.getDefault = uris.default.value := by
  rw [getDefault]
  cases hdefault : uris.default.value with
  | none => rfl
  | some id =>
      have hpresent : uris.present id = true := uris.default_present id hdefault
      simp [Option.filter, hpresent]

/-- **The operations make the card of the last save that of `__toxcap__`.** -/
theorem Contact.foldl_operations {contact : Contact} {card : ContactCard}
    (h : contact.Synced card) (order : HashOrder ContactURI) :
    (contact.operations order).foldl editCard card = xcapCard contact.toxcap := by
  have hlast : ∀ card : ContactCard,
      (if contact.modified = {} then [] else
        [Operation.updateContact contact.toxcap contact.modified]).foldl editCard card =
          editCard card (.updateContact contact.toxcap contact.modified) := by
    intro card
    split_ifs with hempty
    · rw [hempty]
      rfl
    · rfl
  have hadded : KeyedList.Distinct ContactURI.id contact.uris.added := distinct_entries _ _
  have hremoved : KeyedList.Distinct ContactURI.id contact.uris.removed := distinct_entries _ _
  have hmodified : KeyedList.Distinct ContactURI.id contact.uris.modified := distinct_entries _ _
  rw [operations, List.foldl_append, List.foldl_append, List.foldl_append, hlast,
    foldl_uris (g := fun uri _ => some uri.toxcap) (fun _ _ => rfl) _ (distinct_order order hadded),
    foldl_uris (g := fun _ _ => none) (fun _ _ => rfl) _ (distinct_order order hremoved),
    foldl_uris (g := fun uri old => old.map (updateURI uri.modified)) (fun _ _ => rfl) _
      (distinct_order order hmodified)]
  have hdefault : (if contact.uris.default.dirty = true then some contact.uris.getDefault
      else none).getD contact.uris.default.old = contact.uris.getDefault := by
    rw [ContactURIList.getDefault_eq]
    exact contact.uris.default.modified_getD
  refine ContactCard.ext ?_ (funext fun id => ?_) ?_ ?_ ?_ ?_
  · exact h.name ▸ contact.name.modified_getD
  · rw [xcapCard_uri]
    simp only [editCard]
    rw [find_order order hadded, find_order order hremoved, find_order order hmodified, h.uri id]
    simp only [ContactURIList.added, ContactURIList.removed, ContactURIList.modified, find_entries]
    cases hentry : KeyedList.find URIEntry.id id contact.uris.entries with
    | none => rfl
    | some entry =>
        obtain ⟨uri, present, saved⟩ := entry
        cases present <;> cases saved <;> cases hdirty : uri.isModified <;>
          simp [Option.filter, URIEntry.savedURI, hdirty, uri.update_modified,
            ContactURI.toxcap_of_not_modified]
  · exact h.default ▸ hdefault
  · exact h.dialog ▸ contact.dialog.update_modified
  · exact h.presence ▸ contact.presence.update_modified
  · exact h.attributes ▸ contact.attributes.update_modified

end SipSimple.AddressBook
