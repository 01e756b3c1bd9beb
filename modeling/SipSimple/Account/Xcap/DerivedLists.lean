import SipSimple.Account.Xcap.Document
import SipSimple.Library.Runs
import Mathlib.Data.Set.Basic

/-!
# The derived lists at every upload

The six derived lists say who may see the presence and the dialogs of the user, and whose are
subscribed to. What they should hold is stated on sets, from what is visible of the contacts and
policies. `ResourceListsDocument.update` computes it only if a contact or policy of the addressbook is
dirty. Every handler that changes what is visible leaves such an item, but for the removal of a contact
or policy: the item that goes takes its flag along. So the lists are current at an upload if nothing
was removed since they were computed last, or if another contact or policy is dirty.
-/

namespace SipSimple.Account.Xcap

open Payloads (PolicyValue ResourceList ResourceLists ListName XMLList XMLItem Handling)

/-! ### What the derived lists should hold -/

/-- What the rules see of a contact: its URIs, and a policy and a subscription for each event. -/
structure ContactView where
  uris : Set String
  policy : Event → PolicyValue
  subscribe : Event → Bool

structure PolicyView where
  uri : String
  policy : Event → PolicyValue
  subscribe : Event → Bool

def ofContacts (contacts : Set ContactView) (p : ContactView → Prop) : Set String :=
  {uri | ∃ contact ∈ contacts, p contact ∧ uri ∈ contact.uris}

def ofPolicies (policies : Set PolicyView) (p : PolicyView → Prop) : Set String :=
  {uri | ∃ policy ∈ policies, p policy ∧ uri = policy.uri}

/-- What the rules make of the contacts and policies. A contact goes before the policies for its URIs,
and blocking before allowing. -/
def Derived.reference (derived : Derived) (contacts : Set ContactView) (policies : Set PolicyView) :
    Set String :=
  let allContactUris := ofContacts contacts fun _ => True
  match derived.kind with
  | .granted =>
      (ofContacts contacts (fun contact => contact.policy derived.event = .allow)
          \ ofContacts contacts (fun contact => contact.policy derived.event = .block))
        ∪ ((ofPolicies policies (fun policy => policy.policy derived.event = .allow)
          \ ofPolicies policies (fun policy => policy.policy derived.event = .block))
            \ allContactUris)
  | .blocked =>
      ofContacts contacts (fun contact => contact.policy derived.event = .block)
        ∪ (ofPolicies policies (fun policy => policy.policy derived.event = .block)
          \ allContactUris)
  | .rls =>
      ofContacts contacts (fun contact => contact.subscribe derived.event = true)
        ∪ (ofPolicies policies (fun policy => policy.subscribe derived.event = true)
          \ allContactUris)

section Rules

variable {contacts : Set ContactView} {policies : Set PolicyView}

theorem ofContacts_subset {p : ContactView → Prop} :
    ofContacts contacts p ⊆ ofContacts contacts fun _ => True :=
  fun _ ⟨contact, hmem, _, huri⟩ => ⟨contact, hmem, trivial, huri⟩

/-- **No URI is both granted and blocked.** -/
theorem granted_disjoint_blocked (event : Event) {uri : String}
    (hgranted : uri ∈ Derived.reference ⟨event, .granted⟩ contacts policies) :
    uri ∉ Derived.reference ⟨event, .blocked⟩ contacts policies := by
  intro hblocked
  rcases hgranted with ⟨hallow, hnot⟩ | ⟨⟨_, hnot⟩, hforeign⟩
  · rcases hblocked with hblock | ⟨_, hforeign⟩
    · exact hnot hblock
    · exact hforeign (ofContacts_subset hallow)
  · rcases hblocked with hblock | ⟨hblock, _⟩
    · exact hforeign (ofContacts_subset hblock)
    · exact hnot hblock

/-- **Every URI of a derived list is one of a contact or policy.** -/
theorem reference_subset (derived : Derived) {uri : String}
    (huri : uri ∈ derived.reference contacts policies) :
    (∃ contact ∈ contacts, uri ∈ contact.uris) ∨ ∃ policy ∈ policies, uri = policy.uri := by
  have hcontact : ∀ {p}, uri ∈ ofContacts contacts p → ∃ contact ∈ contacts, uri ∈ contact.uris :=
    fun ⟨contact, hmem, _, huri⟩ => ⟨contact, hmem, huri⟩
  have hpolicy : ∀ {p}, uri ∈ ofPolicies policies p → ∃ policy ∈ policies, uri = policy.uri :=
    fun ⟨policy, hmem, _, huri⟩ => ⟨policy, hmem, huri⟩
  obtain ⟨event, kind⟩ := derived
  cases kind with
  | granted => exact huri.imp (fun h => hcontact h.1) fun h => hpolicy h.1.1
  | blocked => exact huri.imp hcontact fun h => hpolicy h.1
  | rls => exact huri.imp hcontact fun h => hpolicy h.1

end Rules

/-! ### The sets of the source -/

def contactView (contact : Payloads.Contact) : ContactView where
  uris := {uri | uri ∈ contact.uris.items.map (·.uri)}
  policy event := (event.ofContact contact).policy.value
  subscribe event := (event.ofContact contact).subscribe.value

def policyView (policy : Payloads.Policy) : PolicyView where
  uri := policy.uri
  policy event := (event.ofPolicy policy).policy.value
  subscribe event := (event.ofPolicy policy).subscribe.value

/-- What the rules see of an addressbook. -/
def contactViews (book : ResourceList) : Set ContactView :=
  {view | view ∈ book.contacts.items.map contactView}

def policyViews (book : ResourceList) : Set PolicyView :=
  {view | view ∈ book.policies.items.map policyView}

@[simp] theorem mem_minus {uri : String} {left right : List String} :
    uri ∈ minus left right ↔ uri ∈ left ∧ uri ∉ right := by
  simp [minus]

theorem sameSet_iff {left right : List String} :
    sameSet left right = true ↔ ∀ uri, uri ∈ left ↔ uri ∈ right := by
  simp only [sameSet, Bool.and_eq_true, List.all_eq_true, decide_eq_true_eq]
  exact ⟨fun h uri => ⟨h.1 uri, h.2 uri⟩, fun h => ⟨fun uri => (h uri).mp, fun uri => (h uri).mpr⟩⟩

theorem mem_contactUris {uri : String} {book : ResourceList} {p : Payloads.Contact → Bool}
    {q : ContactView → Prop} (hpq : ∀ contact, p contact = true ↔ q (contactView contact)) :
    uri ∈ contactUris book.contacts.items p ↔ uri ∈ ofContacts (contactViews book) q := by
  simp only [contactUris, List.mem_dedup, List.mem_flatMap, List.mem_filter, ofContacts,
    contactViews, Set.mem_ofPred_eq, List.mem_map]
  constructor
  · rintro ⟨contact, ⟨hmem, hp⟩, huri⟩
    exact ⟨contactView contact, ⟨contact, hmem, rfl⟩, (hpq contact).mp hp,
      List.mem_map.mpr huri⟩
  · rintro ⟨_, ⟨contact, hmem, rfl⟩, hq, huri⟩
    exact ⟨contact, ⟨hmem, (hpq contact).mpr hq⟩, List.mem_map.mp huri⟩

theorem mem_policyUris {uri : String} {book : ResourceList} {p : Payloads.Policy → Bool}
    {q : PolicyView → Prop} (hpq : ∀ policy, p policy = true ↔ q (policyView policy)) :
    uri ∈ policyUris book.policies.items p ↔ uri ∈ ofPolicies (policyViews book) q := by
  simp only [policyUris, List.mem_dedup, List.mem_filter, ofPolicies, policyViews,
    Set.mem_ofPred_eq, List.mem_map]
  constructor
  · rintro ⟨policy, ⟨hmem, hp⟩, rfl⟩
    exact ⟨policyView policy, ⟨policy, hmem, rfl⟩, (hpq policy).mp hp, rfl⟩
  · rintro ⟨_, ⟨policy, hmem, rfl⟩, hq, rfl⟩
    exact ⟨policy, ⟨hmem, (hpq policy).mpr hq⟩, rfl⟩

/-- **The sets of the source are the ones of the rules.** -/
theorem Derived.mem_uris (derived : Derived) (book : ResourceList) (uri : String) :
    uri ∈ derived.uris book.contacts.items book.policies.items ↔
      uri ∈ derived.reference (contactViews book) (policyViews book) := by
  obtain ⟨event, kind⟩ := derived
  have hall : uri ∈ contactUris book.contacts.items (fun _ => true) ↔
      uri ∈ ofContacts (contactViews book) fun _ => True := mem_contactUris fun _ => by simp
  have hcontact (value : PolicyValue) : uri ∈ contactUris book.contacts.items
        (fun contact => (event.ofContact contact).policy.value = value) ↔
      uri ∈ ofContacts (contactViews book) fun contact => contact.policy event = value :=
    mem_contactUris fun _ => decide_eq_true_iff
  have hpolicy (value : PolicyValue) : uri ∈ policyUris book.policies.items
        (fun policy => (event.ofPolicy policy).policy.value = value) ↔
      uri ∈ ofPolicies (policyViews book) fun policy => policy.policy event = value :=
    mem_policyUris fun _ => decide_eq_true_iff
  cases kind with
  | granted =>
      simp only [uris, reference, List.mem_union_iff, mem_minus, Set.mem_union, Set.mem_sdiff, hall,
        hcontact, hpolicy]
  | blocked =>
      simp only [uris, reference, List.mem_union_iff, mem_minus, Set.mem_union, Set.mem_sdiff, hall,
        hcontact, hpolicy]
  | rls =>
      have hsubscribe : uri ∈ contactUris book.contacts.items
            (fun contact => (event.ofContact contact).subscribe.value) ↔
          uri ∈ ofContacts (contactViews book) fun contact => contact.subscribe event = true :=
        mem_contactUris fun _ => Iff.rfl
      have hsubscribe' : uri ∈ policyUris book.policies.items
            (fun policy => (event.ofPolicy policy).subscribe.value) ↔
          uri ∈ ofPolicies (policyViews book) fun policy => policy.subscribe event = true :=
        mem_policyUris fun _ => Iff.rfl
      simp only [uris, reference, List.mem_union_iff, mem_minus, Set.mem_union, Set.mem_sdiff, hall,
        hsubscribe, hsubscribe']

/-! ### One computation of the derived lists -/

/-- The list holds entries only. -/
def Plain (list : ResourceList) : Prop :=
  list.contacts.items = [] ∧ list.groups.items = [] ∧ list.policies.items = [] ∧ list.others = []

theorem Plain.uris? {list : ResourceList} (h : Plain list) :
    list.uris? = some (list.entries.items.map (·.uri)) := by
  obtain ⟨hcontacts, hgroups, hpolicies, hothers⟩ := h
  simp [ResourceList.uris?, hcontacts, hgroups, hpolicies, hothers]

/-- The list of the name holds entries only, and they are those of the set. -/
def Lists (content : ResourceLists) (name : ListName) (uris : String → Prop) : Prop :=
  ∃ list, content.lists name = some list ∧ Plain list ∧
    ∀ uri, uri ∈ list.entries.items.map (·.uri) ↔ uris uri

theorem mem_put_entries {list : XMLList Payloads.Entry} {entry : Payloads.Entry} {dirty : Bool}
    {uri : String} : uri ∈ (list.put entry dirty).items.map (·.uri) ↔
      uri ∈ list.items.map (·.uri) ∨ uri = entry.uri := by
  have hput : (list.put entry dirty).items =
    list.items.filter (fun other => other.uri ≠ entry.uri) ++ [entry] := rfl
  simp only [hput, List.map_append, List.mem_append, List.mem_map, List.mem_filter,
    decide_eq_true_eq, List.map_singleton, List.mem_singleton]
  constructor
  · rintro (⟨other, ⟨hmem, _⟩, rfl⟩ | rfl)
    · exact Or.inl ⟨other, hmem, rfl⟩
    · exact Or.inr rfl
  · rintro (⟨other, hmem, rfl⟩ | rfl)
    · by_cases heq : other.uri = entry.uri
      · exact Or.inr heq
      · exact Or.inl ⟨other, ⟨hmem, heq⟩, rfl⟩
    · exact Or.inr rfl

theorem mem_add_entries {list : XMLList Payloads.Entry} {entry : Payloads.Entry} {uri : String} :
    uri ∈ (list.add entry).items.map (·.uri) ↔ uri ∈ list.items.map (·.uri) ∨ uri = entry.uri := by
  rw [XMLList.add]
  split
  · split_ifs
    · exact mem_put_entries
    · exact mem_put_entries
    · exact mem_put_entries
  · exact mem_put_entries

theorem mem_update_entries {list : XMLList Payloads.Entry} {uris : List String} {uri : String} :
    uri ∈ (list.update (uris.map fun uri => { uri := uri })).items.map (·.uri) ↔
      uri ∈ list.items.map (·.uri) ∨ uri ∈ uris := by
  induction uris generalizing list with
  | nil => simp [XMLList.update]
  | cons head uris ih =>
      have hstep : list.update ((head :: uris).map fun uri => { uri := uri }) =
        (list.add { uri := head }).update (uris.map fun uri => { uri := uri }) := rfl
      rw [hstep, ih, mem_add_entries, List.mem_cons, or_assoc]

theorem items_clear {α : Type} [XMLItem α] (list : XMLList α) : list.clear.items = [] := by
  rw [XMLList.clear]
  split_ifs with hempty
  · simpa using hempty
  · rfl

/-- A list of entries is filled with the set, whether it was clear before or not. -/
theorem updateDerived_plain {list : ResourceList} (h : Plain list) (uris : List String) :
    ∃ list', updateDerived list uris = some list' ∧ Plain list' ∧
      ∀ uri, uri ∈ list'.entries.items.map (·.uri) ↔ uri ∈ uris := by
  simp only [updateDerived, h.uris?, Option.map_some]
  split_ifs with hsame
  · exact ⟨list, rfl, h, fun uri => (sameSet_iff.mp hsame uri).symm⟩
  · refine ⟨_, rfl, ⟨items_clear _, items_clear _, items_clear _, rfl⟩, fun uri => ?_⟩
    rw [mem_update_entries]
    simp [ResourceList.clear, items_clear]

theorem Derived.listName_injective : Function.Injective Derived.listName := by
  rintro ⟨event, kind⟩ ⟨event', kind'⟩ h
  cases event <;> cases kind <;> cases event' <;> cases kind' <;> first | rfl | cases h

theorem Derived.mem_all (derived : Derived) : derived ∈ Derived.all := by
  obtain ⟨event, kind⟩ := derived
  cases event <;> cases kind <;> decide

/-- **The computation of the derived lists**, from lists of entries. -/
theorem updateDerivedLists_spec (contacts : List Payloads.Contact) (policies : List Payloads.Policy)
    (all : List Derived) (hnodup : all.Nodup) {content : ResourceLists}
    (hplain : ∀ derived ∈ all, ∃ list, content.lists derived.listName = some list ∧ Plain list) :
    ∃ content', updateDerivedLists contacts policies all content = (content', none) ∧
      (∀ derived ∈ all,
        Lists content' derived.listName (· ∈ derived.uris contacts policies)) ∧
      ∀ name, name ∉ all.map Derived.listName → content'.lists name = content.lists name := by
  induction all generalizing content with
  | nil => exact ⟨content, rfl, by simp, fun _ _ => rfl⟩
  | cons derived all ih =>
      obtain ⟨hnew, hnodup⟩ := List.nodup_cons.mp hnodup
      obtain ⟨list, hlist, hplist⟩ := hplain derived List.mem_cons_self
      obtain ⟨list', hupdate, hplist', hmem⟩ :=
        updateDerived_plain hplist (derived.uris contacts policies)
      have hother : ∀ other ∈ all, other.listName ≠ derived.listName := fun other hother heq =>
        hnew (Derived.listName_injective heq ▸ hother)
      have hplain' : ∀ other ∈ all, ∃ list,
          (content.set derived.listName list').lists other.listName = some list ∧ Plain list := by
        intro other hmem'
        rw [ResourceLists.set_lists_of_ne _ _ (hother other hmem')]
        exact hplain other (List.mem_cons_of_mem _ hmem')
      obtain ⟨content', hrest, hlists, hframe⟩ := ih hnodup hplain'
      refine ⟨content', ?_, fun other hmem' => ?_, fun name hname => ?_⟩
      · simp only [updateDerivedLists, hlist, hupdate, hrest]
      · rcases List.mem_cons.mp hmem' with rfl | hmem'
        · have hname : other.listName ∉ all.map Derived.listName := by
            intro hin
            obtain ⟨other', hin', heq⟩ := List.mem_map.mp hin
            exact hother other' hin' heq
          exact ⟨list', by rw [hframe _ hname, ResourceLists.set_lists_self], hplist', hmem⟩
        · exact hlists other hmem'
      · rw [List.map_cons, List.mem_cons, not_or] at hname
        rw [hframe name hname.2, ResourceLists.set_lists_of_ne _ _ hname.1]

end SipSimple.Account.Xcap
