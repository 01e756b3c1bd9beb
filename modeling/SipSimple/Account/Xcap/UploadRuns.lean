import SipSimple.Account.Xcap.DirtyTracking

/-!
# Runs of handlers and uploads

The state is the resource-lists document with what was sent of it so far. A run starts after an
`_OH_NormalizeOperation` that did not raise; its steps are the operation handlers, more of these
operations among them, and the uploads with any answer of the server. `removed` is the history that
the condition is about: a contact or policy was removed since the derived lists were computed last.
-/

namespace SipSimple.Account.Xcap

open Payloads (ResourceList ResourceLists ListName XMLList XMLItem)

structure Held where
  document : Document ResourceLists
  uploads : List ResourceLists := []
  removed : Bool := false

namespace Held

inductive Input
  | handle (operation : Operation)
  | update (response : Response)

def addressbook (content : Option ResourceLists) : Option ResourceList :=
  content.bind fun content => content.lists .sipsimpleAddressbook

/-- A contact or policy of the addressbook is dirty, so that an upload computes the derived lists. -/
def recomputes (content : Option ResourceLists) : Bool :=
  (addressbook content).any fun book =>
    book.contacts.items.any XMLItem.isDirty || book.policies.items.any XMLItem.isDirty

/-- `_CH_update` calls `update` of the document. -/
def uploading (held : Held) : Bool := held.document.isDirty && held.document.supported

def handle (url : String) (held : Held) (operation : Operation) : Held :=
  let result := operation.handle url held.document.content
  { held with
    document := { held.document with content := result.1 }
    removed :=
      match operation with
      | .normalize => held.removed && result.2.isSome
      | operation =>
          held.removed || (addressbook held.document.content).any fun book => operation.removes book }

/-- An upload. After a 412 the documents that are still dirty are reset. -/
def update (held : Held) (response : Response) : Held :=
  if held.uploading then
    match prepare held.document with
    | (document, some _) => { held with document := document }
    | (document, none) =>
        let result := document.update response
        { document :=
            if result.2 = some .fetchRequiredError then result.1.reset else result.1
          uploads := held.uploads ++ if document.isDirty then document.content.toList else []
          removed := held.removed && !recomputes held.document.content }
  else held

def step (url : String) (held : Held) : Input → Held
  | .handle operation => held.handle url operation
  | .update response => held.update response

/-- The document after a normalization. -/
def start (url : String) (document : Document ResourceLists) : Held where
  document := { document with content := some (normalize url document.content).1 }

/-- At every upload, some contact or policy is dirty if one was removed. -/
def Condition (held : Held) : Input → Prop
  | .handle _ => True
  | .update _ =>
      held.uploading = true → held.removed = true → recomputes held.document.content = true

instance (held : Held) (input : Input) : Decidable (held.Condition input) := by
  cases input <;> unfold Condition <;> infer_instance

end Held

/-! ### What is current -/

/-- The derived lists hold what the rules make of the addressbook. -/
def Current (content : ResourceLists) : Prop :=
  ∃ book, content.lists .sipsimpleAddressbook = some book ∧ ∀ derived : Derived,
    Lists content derived.listName (· ∈ derived.reference (contactViews book) (policyViews book))

/-- The lists that `update` needs are there, and the derived lists hold entries only. -/
def Arranged (content : ResourceLists) : Prop :=
  ∃ book, content.lists .sipsimpleAddressbook = some book ∧ ∀ derived : Derived,
    ∃ list, content.lists derived.listName = some list ∧ Plain list

theorem Current.arranged {content : ResourceLists} (h : Current content) : Arranged content := by
  obtain ⟨book, hbook, hlists⟩ := h
  refine ⟨book, hbook, fun derived => ?_⟩
  obtain ⟨list, hlist, hplain, _⟩ := hlists derived
  exact ⟨list, hlist, hplain⟩

theorem listName_ne_addressbook (derived : Derived) :
    derived.listName ≠ .sipsimpleAddressbook := by
  obtain ⟨event, kind⟩ := derived
  cases event <;> cases kind <;> decide

/-- A computation of the derived lists makes them current. -/
theorem updateDerivedLists_current {content : ResourceLists} (book : ResourceList)
    (hbook : content.lists .sipsimpleAddressbook = some book)
    (hlists : ∀ derived : Derived,
      ∃ list, content.lists derived.listName = some list ∧ Plain list) :
    ∃ content', updateDerivedLists book.contacts.items book.policies.items Derived.all content =
      (content', none) ∧ Current content' := by
  obtain ⟨content', hupdate, hall, hframe⟩ := updateDerivedLists_spec
    book.contacts.items book.policies.items Derived.all (by decide)
    fun derived _ => hlists derived
  refine ⟨content', hupdate, book, ?_, fun derived => ?_⟩
  · rw [hframe _ (by decide), hbook]
  · obtain ⟨list, hlist, hplain, hmem⟩ := hall derived derived.mem_all
    exact ⟨list, hlist, hplain, fun uri => (hmem uri).trans (derived.mem_uris book uri)⟩

/-- Only what the rules see of the addressbook matters. -/
theorem Current.set_addressbook {content : ResourceLists} {book book' : ResourceList}
    (h : Current content) (hbook : content.lists .sipsimpleAddressbook = some book)
    (hcontacts : contactViews book' = contactViews book)
    (hpolicies : policyViews book' = policyViews book) :
    Current (content.set .sipsimpleAddressbook book') := by
  obtain ⟨book'', hbook'', hlists⟩ := h
  cases hbook.symm.trans hbook''
  refine ⟨book', ResourceLists.set_lists_self _ _ _, fun derived => ?_⟩
  rw [Lists, ResourceLists.set_lists_of_ne _ _ (listName_ne_addressbook derived), hcontacts,
    hpolicies]
  exact hlists derived

theorem Arranged.set_addressbook {content : ResourceLists} (h : Arranged content)
    (book : ResourceList) : Arranged (content.set .sipsimpleAddressbook book) := by
  obtain ⟨_, _, hlists⟩ := h
  refine ⟨book, ResourceLists.set_lists_self _ _ _, fun derived => ?_⟩
  rw [ResourceLists.set_lists_of_ne _ _ (listName_ne_addressbook derived)]
  exact hlists derived

/-! ### Normalization -/

theorem ensureList_lists (name name' : ListName) (list : ResourceList) (content : ResourceLists) :
    (ensureList name list content).lists name' =
      if name' = name then some ((content.lists name).getD list) else content.lists name' := by
  rw [ensureList]
  cases hlist : content.lists name with
  | none =>
      rw [if_neg (by simp)]
      split_ifs with hname
      · simp [hname, ResourceLists.addList]
      · exact ResourceLists.set_lists_of_ne _ _ hname
  | some old =>
      rw [if_pos Option.isSome_some]
      split_ifs with hname
      · rw [hname, hlist, Option.getD_some]
      · rfl

theorem ensureLists_lists (url : String) (content : ResourceLists) {name : ListName}
    (hname : name ≠ .omaAllcontacts) :
    (ensureLists url content).lists name = some ((content.lists name).getD {}) := by
  cases name <;> first | contradiction | simp [ensureLists, ensureList_lists]

/-- The content before the derived lists are computed. -/
def normalized (url : String) (content : Option ResourceLists) : ResourceLists :=
  normalizeTypes (ensureLists url (content.getD {}))

theorem normalized_addressbook (url : String) (content : Option ResourceLists) :
    ∃ book, (normalized url content).lists .sipsimpleAddressbook = some book := by
  simp [normalized, normalizeTypes, ensureLists_lists]

theorem normalized_derived (url : String) (content : Option ResourceLists) (derived : Derived) :
    (normalized url content).lists derived.listName =
      some (normalizeDerived (((content.getD {}).lists derived.listName).getD {})) := by
  have hmem : derived.listName ∈ Derived.all.map Derived.listName :=
    List.mem_map_of_mem derived.mem_all
  have hall : derived.listName ≠ .omaAllcontacts := by
    obtain ⟨event, kind⟩ := derived
    cases event <;> cases kind <;> decide
  simp only [normalized, normalizeTypes, if_neg (listName_ne_addressbook derived), if_pos hmem,
    ensureLists_lists url _ hall, Option.map_some]

theorem deleteOthers_others (list : ResourceList) :
    list.deleteOthers.others = list.others.filter (·.isNone) := by
  rw [ResourceList.deleteOthers]
  split_ifs with hany
  · rfl
  · refine (List.filter_eq_self.mpr fun other hother => ?_).symm
    simp only [List.any_eq_true, not_exists, not_and] at hany
    simpa using hany other hother

/-- What is left in a derived list beside the entries has no ID. -/
theorem plain_normalizeDerived {list : ResourceList} :
    Plain (normalizeDerived list) ↔ list.others.filter (·.isNone) = [] := by
  rw [← deleteOthers_others]
  exact ⟨fun h => h.2.2.2, fun h => ⟨items_clear _, items_clear _, items_clear _, h⟩⟩

theorem normalize_eq {url : String} {content : Option ResourceLists} {book : ResourceList}
    (hbook : (normalized url content).lists .sipsimpleAddressbook = some book) :
    normalize url content =
      updateDerivedLists (pruneGroups book).contacts.items (pruneGroups book).policies.items
        Derived.all ((normalized url content).set .sipsimpleAddressbook (pruneGroups book)) := by
  unfold normalize
  dsimp only
  rw [← normalized, hbook]

/-- A computation that raises nothing has found a set of URIs in every list. -/
theorem uris?_of_updateDerivedLists {contacts : List Payloads.Contact}
    {policies : List Payloads.Policy} (all : List Derived) (hnodup : all.Nodup)
    {content : ResourceLists} (hok : (updateDerivedLists contacts policies all content).2 = none)
    {derived : Derived} (hmem : derived ∈ all) {list : ResourceList}
    (hlist : content.lists derived.listName = some list) : list.uris?.isSome = true := by
  induction all generalizing content with
  | nil => cases hmem
  | cons head all ih =>
      obtain ⟨hnew, hnodup⟩ := List.nodup_cons.mp hnodup
      rw [updateDerivedLists] at hok
      split at hok
      · cases hok
      next list' hlist' =>
        split at hok
        · cases hok
        next list'' hupdate =>
          rcases List.mem_cons.mp hmem with rfl | hmem
          · cases hlist.symm.trans hlist'
            rw [updateDerived, Option.map_eq_some_iff] at hupdate
            obtain ⟨uris, huris, _⟩ := hupdate
            rw [huris]
            rfl
          · refine ih hnodup hok hmem ?_
            rw [ResourceLists.set_lists_of_ne]
            · exact hlist
            · exact fun heq => hnew (Derived.listName_injective heq ▸ hmem)

/-- **Normalization makes the derived lists current**, unless it raises. -/
theorem normalize_current {url : String} {content : Option ResourceLists}
    (hok : (normalize url content).2 = none) : Current (normalize url content).1 := by
  obtain ⟨book, hbook⟩ := normalized_addressbook url content
  rw [normalize_eq hbook] at hok ⊢
  obtain ⟨content', hupdate, hcurrent⟩ := updateDerivedLists_current (pruneGroups book)
    (ResourceLists.set_lists_self (normalized url content) .sipsimpleAddressbook _) fun derived => by
      have hlist := ResourceLists.set_lists_of_ne (normalized url content) (pruneGroups book)
        (listName_ne_addressbook derived)
      rw [normalized_derived] at hlist
      have huris := uris?_of_updateDerivedLists Derived.all (by decide) hok derived.mem_all hlist
      refine ⟨_, hlist, plain_normalizeDerived.mpr ?_⟩
      rw [← deleteOthers_others]
      have hempty : (normalizeDerived (((content.getD {}).lists derived.listName).getD {})).others
          = [] := by
        by_contra hne
        rw [ResourceList.uris?, if_neg (by simp [hne])] at huris
        cases huris
      exact hempty
  rw [hupdate]
  exact hcurrent

/-- It does not raise on the content it has left, nor without content. -/
theorem normalize_ok {url : String} {content : Option ResourceLists}
    (harranged : ∀ old, content = some old → Arranged old) : (normalize url content).2 = none := by
  obtain ⟨book, hbook⟩ := normalized_addressbook url content
  rw [normalize_eq hbook]
  obtain ⟨content', hupdate, _⟩ := updateDerivedLists_current (pruneGroups book)
    (ResourceLists.set_lists_self (normalized url content) .sipsimpleAddressbook _) fun derived => by
      rw [ResourceLists.set_lists_of_ne _ _ (listName_ne_addressbook derived), normalized_derived]
      refine ⟨_, rfl, plain_normalizeDerived.mpr ?_⟩
      cases content with
      | none => rfl
      | some old =>
          obtain ⟨_, _, hlists⟩ := harranged old rfl
          obtain ⟨list, hlist, _, _, _, hothers⟩ := hlists derived
          simp [hlist, hothers]
  rw [hupdate]

/-! ### Uploads -/

/-- No contact and no policy of the addressbook is dirty. -/
def Clean (content : ResourceLists) : Prop :=
  ∀ book, content.lists .sipsimpleAddressbook = some book →
    (∀ contact ∈ book.contacts.items, XMLItem.isDirty contact = false) ∧
      ∀ policy ∈ book.policies.items, XMLItem.isDirty policy = false

theorem recomputes_eq_false {content : ResourceLists} :
    Held.recomputes (some content) = false ↔ Clean content := by
  cases hbook : content.lists .sipsimpleAddressbook with
  | none => simp [Held.recomputes, Held.addressbook, Clean, hbook]
  | some book => simp [Held.recomputes, Held.addressbook, Clean, hbook]

/-- **The lists are current before an upload** if they are computed, or were current. -/
theorem refresh_current {content : ResourceLists} (harranged : Arranged content)
    (h : Held.recomputes (some content) = true ∨ Current content) :
    (refresh content).2 = none ∧ Current (refresh content).1 := by
  obtain ⟨book, hbook, hlists⟩ := harranged
  have hset := ResourceLists.set_lists_self content .sipsimpleAddressbook (pruneGroups book)
  have hlists' : ∀ derived : Derived, ∃ list,
      (content.set .sipsimpleAddressbook (pruneGroups book)).lists derived.listName = some list ∧
        Plain list := by
    intro derived
    rw [ResourceLists.set_lists_of_ne _ _ (listName_ne_addressbook derived)]
    exact hlists derived
  simp only [refresh, hbook]
  split_ifs with hdirty hall
  · obtain ⟨content', hupdate, hcurrent⟩ := updateDerivedLists_current _ hset hlists'
    rw [hupdate]
    exact ⟨rfl, hcurrent⟩
  · refine absurd (List.all_eq_true.mpr fun derived _ => ?_) hall
    obtain ⟨list, hlist, _⟩ := hlists' derived
    simp [hlist]
  · refine ⟨rfl, (h.resolve_left fun hrec => hdirty ?_).set_addressbook hbook rfl rfl⟩
    simpa [Held.recomputes, Held.addressbook, hbook, pruneGroups] using hrec

theorem map_items_clean {α β : Type} [XMLItem α] {view : α → β} (hview : Lawful view)
    (list : XMLList α) : list.clean.items.map view = list.items.map view := by
  have hitems : list.clean.items = list.items.map XMLItem.clean := rfl
  rw [hitems, List.map_map]
  exact List.map_congr_left fun item _ => hview.view_clean item

theorem lawful_entry : Lawful (fun entry : Payloads.Entry => entry.uri) where
  dirty_mark _ := rfl
  view_clean _ := rfl
  view_same left right hsame := by simpa [XMLItem.same] using hsame

/-- A successful upload clears the flags and leaves the lists. -/
theorem Current.clean {content : ResourceLists} (h : Current content) : Current content.clean := by
  obtain ⟨book, hbook, hlists⟩ := h
  refine ⟨book.clean, by simp [ResourceLists.clean, hbook], fun derived => ?_⟩
  obtain ⟨list, hlist, ⟨hcontacts, hgroups, hpolicies, hothers⟩, hmem⟩ := hlists derived
  refine ⟨list.clean, by simp [ResourceLists.clean, hlist], ?_, fun uri => ?_⟩
  · have hempty : ∀ {α : Type} [XMLItem α] {list : XMLList α}, list.items = [] →
        list.clean.items = [] := fun h => List.map_eq_nil_iff.mpr h
    exact ⟨hempty hcontacts, hempty hgroups, hempty hpolicies, hothers⟩
  · have hcontactViews : contactViews book.clean = contactViews book :=
      Set.ext fun view => by
        change view ∈ book.contacts.clean.items.map contactView ↔ _
        rw [map_items_clean lawful_contact]
        exact Iff.rfl
    have hpolicyViews : policyViews book.clean = policyViews book :=
      Set.ext fun view => by
        change view ∈ book.policies.clean.items.map policyView ↔ _
        rw [map_items_clean lawful_policy]
        exact Iff.rfl
    change uri ∈ list.entries.clean.items.map (·.uri) ↔ _
    rw [map_items_clean lawful_entry, hmem, hcontactViews, hpolicyViews]

theorem content_update (document : Document ResourceLists) (response : Response) :
    (document.update response).1.content = document.content ∨
      (document.update response).1.content = document.content.map .clean := by
  cases hdirty : document.isDirty with
  | false =>
      unfold Document.update
      rw [hdirty]
      exact Or.inl rfl
  | true =>
      unfold Document.update
      rw [if_pos hdirty]
      cases response with
      | ok etag => exact Or.inr rfl
      | notFound =>
          cases hcontent : document.content with
          | none => exact Or.inl (by simp [Document.clean])
          | some content => exact Or.inl (by simp [hcontent])
      | preconditionFailed => exact Or.inl rfl
      | error => exact Or.inl rfl

/-! ### The invariant -/

/-- The lists are current unless something is dirty or was removed, and were at every upload. -/
structure Held.Inv (held : Held) : Prop where
  arranged : ∀ content, held.document.content = some content → Arranged content
  current : ∀ content, held.document.content = some content → held.removed = false →
    Clean content → Current content
  uploads : ∀ content ∈ held.uploads, Current content

theorem Held.inv_of_current {held : Held}
    (hcontent : ∀ content, held.document.content = some content → Current content)
    (huploads : ∀ content ∈ held.uploads, Current content) : held.Inv where
  arranged content hsome := (hcontent content hsome).arranged
  current content hsome _ _ := hcontent content hsome
  uploads := huploads

theorem Held.handle_of_ne {operation : Operation} (hne : operation ≠ .normalize) (url : String)
    (held : Held) :
    held.handle url operation =
      { held with
        document := { held.document with
          content := match operation.edit with
            | some edit => (editAddressbook edit held.document.content).1
            | none => held.document.content }
        removed := held.removed ||
          (addressbook held.document.content).any fun book => operation.removes book } := by
  cases operation <;> first | exact absurd rfl hne | rfl

/-- **One handler.** -/
theorem Held.inv_handle {held : Held} (h : held.Inv) (url : String) (operation : Operation) :
    (held.handle url operation).Inv := by
  by_cases hne : operation = .normalize
  · subst hne
    refine inv_of_current (fun content hsome => ?_) h.uploads
    cases hsome
    exact normalize_current (normalize_ok h.arranged)
  rw [handle_of_ne hne]
  cases hcontent : held.document.content with
  | none =>
      refine inv_of_current (fun content hsome => ?_) h.uploads
      cases hedit : operation.edit <;> simp [hedit, editAddressbook] at hsome
  | some content =>
      obtain ⟨book, hbook, hlists⟩ := h.arranged content hcontent
      cases hedit : operation.edit with
      | none =>
          refine ⟨fun content' hsome => ?_, fun content' hsome hkept hclean => ?_, h.uploads⟩
          · cases hsome
            exact h.arranged content hcontent
          · cases hsome
            exact h.current content hcontent (Bool.or_eq_false_iff.mp hkept).1 hclean
      | some edit =>
          simp only [editAddressbook, hbook]
          refine ⟨fun content' hsome => ?_, fun content' hsome hkept hclean => ?_, h.uploads⟩
          · cases hsome
            exact Arranged.set_addressbook ⟨book, hbook, hlists⟩ _
          · cases hsome
            obtain ⟨hremoved, hkeeps⟩ := Bool.or_eq_false_iff.mp hkept
            simp only [addressbook, Option.bind_some, hbook, Option.any_some] at hkeeps
            obtain ⟨hcontacts, hpolicies⟩ := hclean (edit book) (ResourceLists.set_lists_self _ _ _)
            obtain ⟨htracks, htracks'⟩ := Operation.bookTracks hedit hkeeps
            obtain ⟨hcontacts', hviews⟩ := htracks hcontacts
            obtain ⟨hpolicies', hviews'⟩ := htracks' hpolicies
            have hcurrent : Current content := h.current content hcontent hremoved fun book' hbook' =>
              by cases hbook.symm.trans hbook'; exact ⟨hcontacts', hpolicies'⟩
            exact hcurrent.set_addressbook hbook (Set.ext hviews) (Set.ext hviews')

/-- **One upload.** -/
theorem Held.inv_update {held : Held} (h : held.Inv) (response : Response)
    (hcondition : held.Condition (.update response)) : (held.update response).Inv := by
  rw [update]
  split_ifs with huploading
  · cases hcontent : held.document.content with
    | none =>
        have hprepare : prepare held.document = (held.document, none) := by
          simp only [prepare, hcontent]
        rw [hprepare]
        refine inv_of_current (fun content hsome => ?_) fun content hmem => ?_
        · rcases content_update held.document response with heq | heq <;>
            · dsimp only at hsome
              split_ifs at hsome
              · cases hsome
              · rw [heq, hcontent] at hsome
                cases hsome
        · simp only [hcontent, Option.toList_none, ite_self, List.append_nil] at hmem
          exact h.uploads content hmem
    | some content =>
        have hready : recomputes (some content) = true ∨ Current content := by
          cases hrecomputes : recomputes (some content) with
          | true => exact Or.inl rfl
          | false =>
              have hremoved : held.removed = false := by
                rw [Bool.eq_false_iff]
                intro hremoved
                have hdirty := hcondition huploading hremoved
                rw [hcontent, hrecomputes] at hdirty
                cases hdirty
              exact Or.inr (h.current content hcontent hremoved (recomputes_eq_false.mp hrecomputes))
        obtain ⟨hok, hcurrent⟩ := refresh_current (h.arranged content hcontent) hready
        have hprepare : prepare held.document =
            ({ held.document with content := some (refresh content).1 }, none) := by
          simp only [prepare, hcontent, hok]
        rw [hprepare]
        refine inv_of_current (fun content' hsome => ?_) fun content' hmem => ?_
        · dsimp only at hsome
          split_ifs at hsome
          · cases hsome
          · rcases content_update { held.document with content := some (refresh content).1 }
              response with heq | heq
            · cases heq.symm.trans hsome
              exact hcurrent
            · cases heq.symm.trans hsome
              exact hcurrent.clean
        · rcases List.mem_append.mp hmem with hmem | hmem
          · exact h.uploads content' hmem
          · split_ifs at hmem
            · rw [List.mem_singleton.mp hmem]
              exact hcurrent
            · cases hmem
  · exact h

theorem Held.inv_step (url : String) (held : Held) (input : Input) (h : held.Inv)
    (hcondition : held.Condition input) : (held.step url input).Inv := by
  cases input with
  | handle operation => exact inv_handle h url operation
  | update response => exact inv_update h response hcondition

/-- The URIs of a derived list. -/
def listed (content : ResourceLists) (derived : Derived) : List String :=
  ((content.lists derived.listName).map fun list => list.entries.items.map (·.uri)).getD []

theorem Lists.mem_listed {content : ResourceLists} {derived : Derived} {uris : String → Prop}
    (h : Lists content derived.listName uris) (uri : String) :
    uri ∈ listed content derived ↔ uris uri := by
  obtain ⟨list, hlist, _, hmem⟩ := h
  simp only [listed, hlist, Option.map_some, Option.getD_some]
  exact hmem uri

/-- **The derived lists are current whenever they are sent**: after a normalization, in every run in
which no upload finds all contacts and policies clean after one was removed. No URI is granted and
blocked, and every URI is one of a contact or policy that is there. -/
theorem Held.uploads_current (url : String) (document : Document ResourceLists)
    (hnormalize : (normalize url document.content).2 = none) (inputs : List Input)
    (hmeets : Runs.Meets (step url) Condition (start url document) inputs) :
    ∀ content ∈ (Runs.run (step url) (start url document) inputs).uploads,
      Current content ∧
        (∀ event uri, uri ∈ listed content ⟨event, .granted⟩ →
          uri ∉ listed content ⟨event, .blocked⟩) ∧
        ∃ book, content.lists .sipsimpleAddressbook = some book ∧
          ∀ derived, ∀ uri ∈ listed content derived,
            (∃ contact ∈ book.contacts.items, uri ∈ contact.uris.items.map (·.uri)) ∨
              uri ∈ book.policies.items.map (·.uri) := by
  have hstart : (start url document).Inv := inv_of_current (fun content hsome => by
    cases hsome
    exact normalize_current hnormalize) (by simp [start])
  have hend := Runs.invariant_run Inv (fun held input => inv_step url held input) hstart hmeets
  intro content hmem
  have hcurrent := hend.uploads content hmem
  obtain ⟨book, hbook, hlists⟩ := hcurrent
  refine ⟨⟨book, hbook, hlists⟩, fun event uri hgranted hblocked => ?_, book, hbook,
    fun derived uri huri => ?_⟩
  · exact granted_disjoint_blocked event (((hlists _).mem_listed uri).mp hgranted)
      (((hlists _).mem_listed uri).mp hblocked)
  · rcases reference_subset derived (((hlists derived).mem_listed uri).mp huri) with
      ⟨view, hview, hin⟩ | ⟨view, hview, rfl⟩
    · obtain ⟨contact, hcontact, rfl⟩ := List.mem_map.mp hview
      exact Or.inl ⟨contact, hcontact, hin⟩
    · obtain ⟨policy, hpolicy, rfl⟩ := List.mem_map.mp hview
      exact Or.inr (List.mem_map_of_mem (f := fun policy : Payloads.Policy => policy.uri) hpolicy)

/-! ### A removed contact -/

def alice : Contact where
  id := "a"
  name := "Alice"
  uris := ⟨⟨[⟨"b", "sip:alice@example.com", none, .empty⟩], by decide⟩, none⟩
  dialog := ⟨.default, false⟩
  presence := ⟨.allow, true⟩
  attributes := .empty

/-- The contact is added and uploaded, then removed and uploaded. -/
def aliceInputs : List Held.Input :=
  [.handle (.addContact alice), .update (.ok "a"), .handle (.removeContact alice), .update (.ok "b")]

/-- Without the last upload, the condition is met. -/
theorem Held.uploads_current_alice :
    (Runs.run (step "http://example.com/index")
        (start "http://example.com/index" { supported := true }) (aliceInputs.take 3)).uploads ≠ [] ∧
      ∀ content ∈ (Runs.run (step "http://example.com/index")
        (start "http://example.com/index" { supported := true }) (aliceInputs.take 3)).uploads,
      Current content ∧
        (∀ event uri, uri ∈ listed content ⟨event, .granted⟩ →
          uri ∉ listed content ⟨event, .blocked⟩) ∧
        ∃ book, content.lists .sipsimpleAddressbook = some book ∧
          ∀ derived, ∀ uri ∈ listed content derived,
            (∃ contact ∈ book.contacts.items, uri ∈ contact.uris.items.map (·.uri)) ∨
              uri ∈ book.policies.items.map (·.uri) :=
  ⟨by decide +kernel, uploads_current "http://example.com/index" { supported := true }
    (by decide +kernel) (aliceInputs.take 3) (by decide +kernel)⟩

/-- **The last upload still grants the presence to the contact that was removed.** -/
theorem Held.not_uploads_current :
    ¬ ∀ (url : String) (document : Document ResourceLists) (inputs : List Input),
      (normalize url document.content).2 = none →
        ∀ content ∈ (Runs.run (step url) (start url document) inputs).uploads, Current content := by
  intro h
  have hstale : ((Runs.run (step "http://example.com/index")
      (start "http://example.com/index" { supported := true }) aliceInputs).uploads.any
        fun content => decide ("sip:alice@example.com" ∈ listed content ⟨.presence, .granted⟩) &&
          (addressbook (some content)).any fun book =>
            book.contacts.items.isEmpty && book.policies.items.isEmpty) = true := by
    decide +kernel
  obtain ⟨content, hmem, hcontent⟩ := List.any_eq_true.mp hstale
  obtain ⟨book, hbook, hlists⟩ := h "http://example.com/index" { supported := true } aliceInputs
    (by decide +kernel) content hmem
  simp only [addressbook, Option.bind_some, hbook, Option.any_some, Bool.and_eq_true,
    decide_eq_true_eq, List.isEmpty_iff] at hcontent
  obtain ⟨hlisted, hcontacts, hpolicies⟩ := hcontent
  rcases reference_subset _ (((hlists _).mem_listed _).mp hlisted) with ⟨_, hin, _⟩ | ⟨_, hin, _⟩
  · simp [contactViews, hcontacts] at hin
  · simp [policyViews, hpolicies] at hin

end SipSimple.Account.Xcap
