import SipSimple.Account.Xcap.DerivedLists

/-!
# What the handlers leave dirty

Whatever a handler changes of what the rules see of a contact or policy, it leaves that contact or
policy dirty, unless it removes it. The steps go up with the elements: a handling, a URI, a list of
URIs, a contact, the addressbook.
-/

namespace SipSimple.Account.Xcap

open Payloads (PolicyValue ResourceList ResourceLists XMLList XMLItem Handling SimpleElement Attributes)
open KeyedList (Tracks)

/-! ### Lists of elements -/

section Lists

variable {α β : Type} [XMLItem α] {view : α → β}

/-- What `XMLItem` promises about a view, besides the ID. -/
structure Lawful (view : α → β) : Prop where
  dirty_mark : ∀ item : α, XMLItem.isDirty (XMLItem.mark item) = true
  view_clean : ∀ item : α, view (XMLItem.clean item) = view item
  view_same : ∀ left right : α, XMLItem.same left right = true → view left = view right

/-- Adding a new element, which is dirty, unless it equals the one it replaces. -/
theorem tracks_add (hview : Lawful view) (list : XMLList α) {item : α}
    (hnew : XMLItem.isDirty item = true) :
    Tracks XMLItem.isDirty view list.items (list.add item).items := by
  have hput : ∀ dirty, Tracks XMLItem.isDirty view list.items (list.put item dirty).items :=
    fun dirty => KeyedList.tracks_put (fun hclean => absurd hclean (by simp [hnew])) list.distinct
  rw [XMLList.add]
  split
  case h_1 old hfind =>
    split_ifs with hsame hold
    · refine KeyedList.tracks_put (fun hclean => ?_) list.distinct
      exact absurd hclean (by simp [hview.dirty_mark])
    · refine KeyedList.tracks_put (fun _ => ⟨old, ?_, by simpa using hold, ?_⟩) list.distinct
      · rw [XMLItem.xmlId_clean]
        exact hfind
      · rw [hview.view_clean, hview.view_same _ _ hsame]
    · exact hput true
  case h_2 => exact hput true

/-- A list with its own flag: clean afterwards only if it was clean and shows the same. -/
def ListTracks (view : α → β) (before after : XMLList α) : Prop :=
  after.isDirty = false →
    before.isDirty = false ∧ ∀ v, v ∈ after.items.map view ↔ v ∈ before.items.map view

theorem listTracks_of_tracks {before after : XMLList α}
    (htracks : Tracks XMLItem.isDirty view before.items after.items)
    (hflag : after.dirty = false → before.dirty = false) : ListTracks view before after := by
  intro hclean
  simp only [XMLList.isDirty, Bool.or_eq_false_iff, List.any_eq_false, Bool.not_eq_true] at hclean ⊢
  obtain ⟨hitems, hviews⟩ := htracks hclean.1
  exact ⟨⟨hitems, hflag hclean.2⟩, hviews⟩

theorem listTracks_add (hview : Lawful view) (list : XMLList α) {item : α}
    (hnew : XMLItem.isDirty item = true) : ListTracks view list (list.add item) := by
  refine listTracks_of_tracks (tracks_add hview list hnew) fun hclean => ?_
  rw [XMLList.add] at hclean
  split at hclean
  · split_ifs at hclean
    · exact hclean
    · exact hclean
    · cases hclean
  · cases hclean

theorem listTracks_modify (list : XMLList α) (id : String) {f : α → α}
    (hid : ∀ item, XMLItem.xmlId (f item) = XMLItem.xmlId item)
    (hf : ∀ item, XMLItem.isDirty (f item) = false →
      XMLItem.isDirty item = false ∧ view (f item) = view item) :
    ListTracks view list (list.modify id f hid) :=
  listTracks_of_tracks (KeyedList.tracks_modify hf id list.items) fun hclean => hclean

/-- A removal marks the list it is from. -/
theorem listTracks_remove (list : XMLList α) (id : String) :
    ListTracks view list ((list.remove id).getD list) := by
  rw [XMLList.remove]
  cases list.find id with
  | none => exact fun hclean => ⟨hclean, fun _ => Iff.rfl⟩
  | some old => exact fun hclean => absurd hclean (by simp [XMLList.isDirty])

end Lists

/-! ### Handlings -/

theorem assign_clean {α : Type} [DecidableEq α] {element : SimpleElement α} {value : α}
    (hclean : (element.assign value).dirty = false) :
    element.dirty = false ∧ value = element.value := by
  simp only [SimpleElement.assign] at hclean
  split_ifs at hclean with heq
  exact ⟨hclean, heq⟩

@[simp] theorem assign_self {α : Type} [DecidableEq α] (element : SimpleElement α) :
    element.assign element.value = element := by
  simp [SimpleElement.assign]

theorem setPolicy_clean {handling : Handling} {value : PolicyValue}
    (hclean : (handling.setPolicy value).isDirty = false) :
    handling.setPolicy value = handling ∧ handling.isDirty = false := by
  simp only [Handling.isDirty, Handling.setPolicy, Bool.or_eq_false_iff, decide_eq_false_iff_not,
    not_not] at hclean ⊢
  obtain ⟨⟨⟨rfl, hdirty⟩, hpolicy⟩, hsubscribe⟩ := hclean
  exact ⟨by simp, ⟨hdirty, (assign_clean hpolicy).1⟩, hsubscribe⟩

theorem setSubscribe_clean {handling : Handling} {value : Bool}
    (hclean : (handling.setSubscribe value).isDirty = false) :
    handling.setSubscribe value = handling ∧ handling.isDirty = false := by
  simp only [Handling.isDirty, Handling.setSubscribe, Bool.or_eq_false_iff, decide_eq_false_iff_not,
    not_not] at hclean ⊢
  obtain ⟨⟨⟨rfl, hdirty⟩, hpolicy⟩, hsubscribe⟩ := hclean
  exact ⟨by simp, ⟨hdirty, hpolicy⟩, (assign_clean hsubscribe).1⟩

/-- A change that leaves a handling clean has not changed it. -/
theorem updateHandling_clean {attributes : HandlingAttributes} {handling : Handling}
    (hclean : (updateHandling attributes handling).isDirty = false) :
    updateHandling attributes handling = handling ∧ handling.isDirty = false := by
  obtain ⟨policy, subscribe⟩ := attributes
  cases policy with
  | none =>
      cases subscribe with
      | none => exact ⟨rfl, hclean⟩
      | some value => exact setSubscribe_clean hclean
  | some value =>
      cases subscribe with
      | none => exact setPolicy_clean hclean
      | some value' =>
          obtain ⟨hsubscribe, hclean'⟩ := setSubscribe_clean hclean
          obtain ⟨hpolicy, hclean''⟩ := setPolicy_clean hclean'
          exact ⟨hsubscribe.trans hpolicy, hclean''⟩

@[simp] theorem isDirty_xmlHandling (handling : EventHandling) :
    (xmlHandling handling).isDirty = true := rfl

/-! ### URIs and contacts -/

theorem lawful_uri : Lawful (fun uri : Payloads.ContactURI => uri.uri) where
  dirty_mark _ := rfl
  view_clean _ := rfl
  view_same left right hsame := by
    simp only [XMLItem.same, Payloads.ContactURI.same, Bool.and_eq_true, decide_eq_true_eq] at hsame
    exact hsame.1.1.2

theorem updateXmlContactURI_clean {attributes : ContactURIAttributes} {uri : Payloads.ContactURI}
    (hclean : XMLItem.isDirty (updateXmlContactURI attributes uri) = false) :
    XMLItem.isDirty uri = false ∧ (updateXmlContactURI attributes uri).uri = uri.uri := by
  obtain ⟨newUri, type, shared⟩ := attributes
  obtain ⟨id, uri, type', shared', dirty⟩ := uri
  cases newUri <;> cases type <;> cases shared' <;>
    simp_all [updateXmlContactURI, XMLItem.isDirty, Payloads.ContactURI.isDirty,
      Payloads.ContactURI.setUri, Payloads.ContactURI.setType, Payloads.ContactURI.updateAttributes,
      Payloads.ElementAttributes.updateChild, Payloads.ElementAttributes.update]

theorem items_uri_eq {left right : List Payloads.ContactURI} (hlength : left.length = right.length)
    (hsame : (left.zip right).all (fun pair => pair.1.same pair.2) = true) :
    left.map (·.uri) = right.map (·.uri) := by
  induction left generalizing right with
  | nil =>
      cases right with
      | nil => rfl
      | cons head right => cases hlength
  | cons head left ih =>
      cases right with
      | nil => cases hlength
      | cons head' right =>
          simp only [List.zip_cons_cons, List.all_cons, Bool.and_eq_true] at hsame
          rw [List.map_cons, List.map_cons, lawful_uri.view_same _ _ hsame.1,
            ih (Nat.succ.inj hlength) hsame.2]

theorem handling_same {left right : Handling} (hsame : left.same right = true) :
    left.policy.value = right.policy.value ∧ left.subscribe.value = right.subscribe.value := by
  simpa [Handling.same] using hsame

theorem lawful_contact : Lawful contactView where
  dirty_mark _ := rfl
  view_clean contact := by
    have huris : (XMLItem.clean contact : Payloads.Contact).uris.items.map (·.uri) =
        contact.uris.items.map (·.uri) := by
      change (contact.uris.items.map XMLItem.clean).map (·.uri) = _
      rw [List.map_map]
      rfl
    simp only [contactView, huris, ContactView.mk.injEq, true_and]
    exact ⟨funext fun event => by cases event <;> rfl, funext fun event => by cases event <;> rfl⟩
  view_same left right hsame := by
    simp only [XMLItem.same, Payloads.Contact.same, Payloads.ContactURIList.same, Bool.and_eq_true,
      decide_eq_true_eq] at hsame
    obtain ⟨⟨⟨⟨_, ⟨_, hlength⟩, huris⟩, hdialog⟩, hpresence⟩, _⟩ := hsame
    simp only [contactView, items_uri_eq hlength huris, ContactView.mk.injEq, true_and]
    constructor
    all_goals
      funext event
      cases event
    · exact (handling_same hpresence).1
    · exact (handling_same hdialog).1
    · exact (handling_same hpresence).2
    · exact (handling_same hdialog).2

/-- What the rules see of a contact is in its URIs and handlings. -/
theorem contactView_eq {left right : Payloads.Contact}
    (huris : ∀ uri, uri ∈ left.uris.items.map (·.uri) ↔ uri ∈ right.uris.items.map (·.uri))
    (hdialog : left.dialog = right.dialog) (hpresence : left.presence = right.presence) :
    contactView left = contactView right := by
  have hhandling : ∀ event : Event, event.ofContact left = event.ofContact right := by
    intro event
    cases event with
    | presence => exact hpresence
    | dialog => exact hdialog
  simp only [contactView, hhandling, ContactView.mk.injEq, and_true]
  exact Set.ext huris

theorem isDirty_contact {contact : Payloads.Contact} : XMLItem.isDirty contact = false ↔
    contact.dirty = false ∧ contact.name.dirty = false ∧ contact.uris.isDirty = false ∧
      contact.dialog.isDirty = false ∧ contact.presence.isDirty = false ∧
        contact.attributes.any (·.dirty) = false := by
  simp only [XMLItem.isDirty, Payloads.Contact.isDirty, Bool.or_eq_false_iff, and_assoc]

theorem updateAttributes_clean (attributes : Attributes)
    {child : Option Payloads.ElementAttributes} (hsome : child.isNone = false)
    (hclean : (Payloads.ElementAttributes.updateChild child attributes).dirty = false) :
    child.any (·.dirty) = false := by
  cases child with
  | none => cases hsome
  | some element =>
      simp only [Payloads.ElementAttributes.updateChild, Payloads.ElementAttributes.update,
        Bool.or_eq_false_iff] at hclean
      exact hclean.2

theorem updateXmlContact_clean {attributes : ContactAttributes} {contact : Payloads.Contact}
    (hclean : XMLItem.isDirty (updateXmlContact attributes contact) = false) :
    XMLItem.isDirty contact = false ∧
      contactView (updateXmlContact attributes contact) = contactView contact := by
  rw [isDirty_contact] at hclean
  obtain ⟨hdirty, hname, huris, hdialog, hpresence, hattributes⟩ := hclean
  obtain ⟨newName, urisDefault, presence, dialog, shared⟩ := attributes
  have hpresence' : updateHandling presence contact.presence = contact.presence ∧
      contact.presence.isDirty = false := by
    cases newName <;> cases urisDefault <;> exact updateHandling_clean hpresence
  have hdialog' : updateHandling dialog contact.dialog = contact.dialog ∧
      contact.dialog.isDirty = false := by
    cases newName <;> cases urisDefault <;> exact updateHandling_clean hdialog
  have hown : contact.attributes.isNone = false ∧ contact.dirty = false ∧
      contact.name.dirty = false ∧ contact.uris.isDirty = false := by
    cases newName <;> cases urisDefault <;>
      simp_all [updateXmlContact, Payloads.Contact.updateAttributes, Payloads.Contact.setName,
        Payloads.ContactURIList.setDefault, XMLList.isDirty, SimpleElement.assign]
  refine ⟨isDirty_contact.mpr ⟨hown.2.1, hown.2.2.1, hown.2.2.2, hdialog'.2, hpresence'.2, ?_⟩, ?_⟩
  · refine updateAttributes_clean shared hown.1 ?_
    cases newName <;> cases urisDefault <;> exact hattributes
  · refine contactView_eq (fun uri => ?_) ?_ ?_
    · cases newName <;> cases urisDefault <;> exact Iff.rfl
    · cases newName <;> cases urisDefault <;> exact hdialog'.1
    · cases newName <;> cases urisDefault <;> exact hpresence'.1

theorem contactURIs_clean {contact : Payloads.Contact} {uris : XMLList Payloads.ContactURI}
    (huris : ListTracks (fun uri : Payloads.ContactURI => uri.uri) contact.uris.toXMLList uris)
    (hclean : XMLItem.isDirty { contact with
      uris := { uris with default := contact.uris.default } } = false) :
    XMLItem.isDirty contact = false ∧
      contactView { contact with uris := { uris with default := contact.uris.default } } =
        contactView contact := by
  rw [isDirty_contact] at hclean
  obtain ⟨hdirty, hname, hlist, hhandlings⟩ := hclean
  obtain ⟨hbefore, hviews⟩ := huris hlist
  exact ⟨isDirty_contact.mpr ⟨hdirty, hname, hbefore, hhandlings⟩, contactView_eq hviews rfl rfl⟩

/-! ### Policies -/

theorem lawful_policy : Lawful policyView where
  dirty_mark _ := rfl
  view_clean policy := by
    simp only [policyView, PolicyView.mk.injEq]
    exact ⟨rfl, funext fun event => by cases event <;> rfl,
      funext fun event => by cases event <;> rfl⟩
  view_same left right hsame := by
    simp only [XMLItem.same, Payloads.Policy.same, Bool.and_eq_true, decide_eq_true_eq] at hsame
    obtain ⟨⟨⟨⟨⟨_, huri⟩, _⟩, hdialog⟩, hpresence⟩, _⟩ := hsame
    simp only [policyView, huri, PolicyView.mk.injEq, true_and]
    constructor
    all_goals
      funext event
      cases event
    · exact (handling_same hpresence).1
    · exact (handling_same hdialog).1
    · exact (handling_same hpresence).2
    · exact (handling_same hdialog).2

theorem policyView_eq {left right : Payloads.Policy} (huri : left.uri = right.uri)
    (hdialog : left.dialog = right.dialog) (hpresence : left.presence = right.presence) :
    policyView left = policyView right := by
  have hhandling : ∀ event : Event, event.ofPolicy left = event.ofPolicy right := by
    intro event
    cases event with
    | presence => exact hpresence
    | dialog => exact hdialog
  simp only [policyView, hhandling, huri]

theorem isDirty_policy {policy : Payloads.Policy} : XMLItem.isDirty policy = false ↔
    policy.dirty = false ∧ policy.name.dirty = false ∧ policy.dialog.isDirty = false ∧
      policy.presence.isDirty = false ∧ policy.attributes.any (·.dirty) = false := by
  simp only [XMLItem.isDirty, Payloads.Policy.isDirty, Bool.or_eq_false_iff, and_assoc]

theorem updateXmlPolicy_clean {attributes : PolicyAttributes} {policy : Payloads.Policy}
    (hclean : XMLItem.isDirty (updateXmlPolicy attributes policy) = false) :
    XMLItem.isDirty policy = false ∧
      policyView (updateXmlPolicy attributes policy) = policyView policy := by
  rw [isDirty_policy] at hclean
  obtain ⟨hdirty, hname, hdialog, hpresence, hattributes⟩ := hclean
  obtain ⟨newUri, newName, presence, dialog, shared⟩ := attributes
  have hpresence' : updateHandling presence policy.presence = policy.presence ∧
      policy.presence.isDirty = false := by
    cases newUri <;> cases newName <;> exact updateHandling_clean hpresence
  have hdialog' : updateHandling dialog policy.dialog = policy.dialog ∧
      policy.dialog.isDirty = false := by
    cases newUri <;> cases newName <;> exact updateHandling_clean hdialog
  have hown : policy.attributes.isNone = false ∧ policy.dirty = false ∧ policy.name.dirty = false ∧
      newUri.getD policy.uri = policy.uri := by
    cases newUri <;> cases newName <;>
      simp_all [updateXmlPolicy, Payloads.Policy.updateAttributes, Payloads.Policy.setName,
        Payloads.Policy.setUri, SimpleElement.assign]
  refine ⟨isDirty_policy.mpr ⟨hown.2.1, hown.2.2.1, hdialog'.2, hpresence'.2, ?_⟩, ?_⟩
  · refine updateAttributes_clean shared hown.1 ?_
    cases newUri <;> cases newName <;> exact hattributes
  · refine policyView_eq ?_ ?_ ?_
    · refine Eq.trans ?_ hown.2.2.2
      cases newUri <;> cases newName <;> rfl
    · cases newUri <;> cases newName <;> exact hdialog'.1
    · cases newUri <;> cases newName <;> exact hpresence'.1

/-! ### The handlers -/

/-- The operation takes a contact or policy out of the addressbook. -/
def Operation.removes (book : ResourceList) : Operation → Bool
  | .removeContact contact => (book.contacts.find contact.id).isSome
  | .removePolicy policy => (book.policies.find policy.id).isSome
  | _ => false

/-- The contacts and the policies of two addressbooks, as the rules see them. -/
def BookTracks (before after : ResourceList) : Prop :=
  Tracks XMLItem.isDirty contactView before.contacts.items after.contacts.items ∧
    Tracks XMLItem.isDirty policyView before.policies.items after.policies.items

theorem bookTracks_modifyContactURIs {contact : Contact}
    {f : XMLList Payloads.ContactURI → XMLList Payloads.ContactURI}
    (hf : ∀ uris, ListTracks (fun uri : Payloads.ContactURI => uri.uri) uris (f uris))
    (book : ResourceList) : BookTracks book (modifyContactURIs contact f book) :=
  ⟨KeyedList.tracks_modify (fun contact hclean => contactURIs_clean (hf contact.uris.toXMLList) hclean)
    _ _, Tracks.refl _⟩

/-- **Every handler leaves dirty what it changes**, but for what it removes. -/
theorem Operation.bookTracks {operation : Operation} {edit : ResourceList → ResourceList}
    (hedit : operation.edit = some edit) {book : ResourceList}
    (hkeeps : operation.removes book = false) : BookTracks book (edit book) := by
  have hunchanged : BookTracks book book := ⟨Tracks.refl _, Tracks.refl _⟩
  cases operation with
  | addContact contact =>
      cases hedit
      exact ⟨tracks_add lawful_contact _ rfl, Tracks.refl _⟩
  | updateContact contact attributes =>
      cases hedit
      exact ⟨KeyedList.tracks_modify (fun _ hclean => updateXmlContact_clean hclean) _ _,
        Tracks.refl _⟩
  | removeContact contact =>
      cases hedit
      have hnone : book.contacts.find contact.id = none := by simpa [removes] using hkeeps
      have hcontacts : (Xcap.removeContact contact book).contacts = book.contacts := by
        simp [Xcap.removeContact, XMLList.remove, hnone]
      exact ⟨hcontacts ▸ Tracks.refl _, Tracks.refl _⟩
  | addContactURI contact uri =>
      cases hedit
      exact bookTracks_modifyContactURIs (fun uris => listTracks_add lawful_uri uris rfl) book
  | updateContactURI contact uri attributes =>
      cases hedit
      exact bookTracks_modifyContactURIs (fun uris => listTracks_modify uris _ _
        fun _ hclean => updateXmlContactURI_clean hclean) book
  | removeContactURI contact uri =>
      cases hedit
      exact bookTracks_modifyContactURIs (fun uris => listTracks_remove uris _) book
  | addPolicy policy =>
      cases hedit
      exact ⟨Tracks.refl _, tracks_add lawful_policy _ rfl⟩
  | updatePolicy policy attributes =>
      cases hedit
      exact ⟨Tracks.refl _,
        KeyedList.tracks_modify (fun _ hclean => updateXmlPolicy_clean hclean) _ _⟩
  | removePolicy policy =>
      cases hedit
      have hnone : book.policies.find policy.id = none := by simpa [removes] using hkeeps
      have hpolicies : (Xcap.removePolicy policy book).policies = book.policies := by
        simp [Xcap.removePolicy, XMLList.remove, hnone]
      exact ⟨Tracks.refl _, hpolicies ▸ Tracks.refl _⟩
  | addGroup group => cases hedit; exact hunchanged
  | updateGroup group attributes => cases hedit; exact hunchanged
  | removeGroup group => cases hedit; exact hunchanged
  | addGroupMember group contact => cases hedit; exact hunchanged
  | removeGroupMember group contact => cases hedit; exact hunchanged
  | normalize => cases hedit
  | setDefaultPresencePolicy => cases hedit
  | setDefaultDialogPolicy => cases hedit
  | setStatusIcon => cases hedit
  | setOfflineStatus => cases hedit

end SipSimple.Account.Xcap
