import SipSimple.AddressBook.ManagerInvariant

/-!
# A reload makes the stored addressbook the remote one

A remote object may lack shared settings that are registered here; it then stands for an object with
their defaults. The stored addressbook has converged if it has the remote objects, completed so, and no
others. A reload gets there if it is not taken for a repeated one, no object that it has to make has an ID
that is in use, and no setting of a local object is left over or changed by its type.
-/

namespace SipSimple.AddressBook

open Payloads (PolicyValue Attributes)
open Account.Xcap (PyError)
open KeyedList (Collection)

/-! ### Shared settings -/

namespace SharedTypes

variable {types : SharedTypes}

/-- The attributes of a remote object, with the defaults of the settings that it lacks. -/
def complete (types : SharedTypes) (attributes : Attributes) : Attributes :=
  types.mapWithKey fun name type => (attributes.get name).getD type.default

/-- The remote values are left as they are by the types, and what the remote object lacks has its default
in the local object, if there is one. -/
def takes (types : SharedTypes) (settings : Option SharedSettings) (attributes : Attributes) : Bool :=
  types.items.all fun item => match attributes.get item.1 with
    | some value => item.2.convert value = some value
    | none => (settings.bind (·.get item.1)).all (·.value = item.2.default)

theorem takes_iff {settings : Option SharedSettings} {attributes : Attributes} :
    types.takes settings attributes = true ↔ ∀ name type, types.get name = some type →
      (∀ value, attributes.get name = some value → type.convert value = some value) ∧
        (attributes.get name = none → ∀ setting, settings.bind (·.get name) = some setting →
          setting.value = type.default) := by
  rw [takes, List.all_eq_true, Prod.forall]
  refine forall₂_congr fun name type => imp_congr SortedDict.Dict.get_eq_some.symm ?_
  cases attributes.get name with
  | none => cases settings.bind (·.get name) <;> simp
  | some value => simp

/-- A new object has the defaults. -/
theorem takes_new {attributes : Attributes} (h : types.takes none attributes = true) :
    types.takes (some types.new) attributes = true := by
  rw [takes_iff] at h ⊢
  refine fun name type htype => ⟨(h name type htype).1, fun _ setting hsetting => ?_⟩
  rw [Option.bind_some, new, SortedDict.Dict.get_filterMap, htype] at hsetting
  exact Option.some.inj hsetting ▸ rfl

theorem get_assign (settings : SharedSettings) (name key : String) (value : Option String) :
    (settings.assign name value).get key =
      if key = name then (settings.get name).map (·.set value) else settings.get key := by
  rw [SharedSettings.assign]
  cases hget : settings.get name with
  | none =>
      split_ifs with hkey
      · rw [hkey, hget]
        rfl
      · rfl
  | some setting => rw [SortedDict.Dict.get_set, Option.map_some]

theorem setAll_takes (order : HashOrder String) {attributes : Attributes} {settings : SharedSettings}
    (hfits : types.Fits settings) (h : types.takes (some settings) attributes = true) :
    (types.setAll order attributes settings).2 = none ∧
      (types.setAll order attributes settings).1.values = types.complete attributes := by
  rw [takes_iff] at h
  have hnone : ∀ {name}, types.get name = none → settings.get name = none := by
    intro name htype
    have hname := hfits name
    rw [htype] at hname
    simpa using hname
  have hkeys : ∀ {name}, name ∈ order.order attributes.keys ↔
      ∃ value, attributes.get name = some value := by
    intro name
    rw [(order.perm _).mem_iff, SortedDict.Dict.keys, List.mem_map]
    constructor
    · rintro ⟨⟨name', value⟩, hmem, rfl⟩
      exact ⟨value, SortedDict.Dict.get_eq_some.mpr hmem⟩
    · rintro ⟨value, hvalue⟩
      exact ⟨(name, value), SortedDict.Dict.get_eq_some.mp hvalue, rfl⟩
  have hloop : (types.setAll order attributes settings).2 = none ∧ ∀ name,
      (types.setAll order attributes settings).1.get name =
        if name ∈ order.order attributes.keys then
          (settings.get name).map (·.set ((attributes.get name).getD none))
        else settings.get name := by
    refine Loops.forEach_completes (fun done (other : SharedSettings) => ∀ name, other.get name =
      if name ∈ done then (settings.get name).map (·.set ((attributes.get name).getD none))
      else settings.get name) (fun done item rest other hitems hother => ?_) fun name => by simp
    obtain ⟨value, hvalue⟩ : ∃ value, attributes.get item = some value :=
      hkeys.mp (hitems ▸ List.mem_append_right _ List.mem_cons_self)
    rw [setOne, hvalue]
    cases htype : types.get item with
    | none =>
        refine ⟨rfl, fun name => ?_⟩
        rw [hother name]
        by_cases hname : name = item
        · rw [hname, hnone htype]
          simp
        · simp [hname]
    | some type =>
        simp only [(h item type htype).1 value hvalue]
        refine ⟨trivial, fun name => ?_⟩
        rw [get_assign, hother item, hother name]
        by_cases hname : name = item
        · rw [if_pos hname, hname, hvalue]
          cases settings.get item <;> by_cases hmem : item ∈ done <;> simp [hmem, Setting.set]
        · simp [hname]
  refine ⟨hloop.1, SortedDict.Dict.ext_get fun name => ?_⟩
  rw [SharedSettings.values, SortedDict.Dict.get_filterMap, hloop.2 name, complete,
    SortedDict.Dict.get_mapWithKey]
  cases htype : types.get name with
  | none => simp [hnone htype]
  | some type =>
      have hsome := hfits name
      rw [htype] at hsome
      obtain ⟨setting, hsetting⟩ := Option.isSome_iff_exists.mp hsome
      rw [hsetting]
      cases hvalue : attributes.get name with
      | some value =>
          rw [if_pos (hkeys.mpr ⟨value, hvalue⟩)]
          rfl
      | none =>
          rw [if_neg fun hmem => by simpa [hvalue] using hkeys.mp hmem]
          exact congrArg some ((h name type htype).2 hvalue setting hsetting)

theorem setAll_completes (order : HashOrder String) {attributes : Attributes} {settings : SharedSettings}
    (hfits : types.Fits settings) (h : types.takes (some settings) attributes = true) :
    ∃ taken, types.setAll order attributes settings = (taken, none) ∧
      taken.values = types.complete attributes ∧ types.Fits taken ∧ taken.oldValues = settings.oldValues := by
  obtain ⟨hraised, hvalues⟩ := types.setAll_takes order hfits h
  exact ⟨_, Prod.ext rfl hraised, hvalues, types.setAll_keeps order attributes hfits⟩

/-- The saved object of an id, or a new one where there is none, takes the attributes. -/
theorem takes_obtain {object record : Type} {key : object → String} {recordKey : record → String}
    {store : LiveStore key recordKey} (active : object → Bool) (create : String → object)
    {attributesOf : object → SharedSettings} (hcreate : ∀ id, attributesOf (create id) = types.new) {id : String}
    {attributes : Attributes} (hsaved : (store.live.get id).all active = true)
    (htakes : types.takes ((store.live.get id).map attributesOf) attributes = true) :
    ∃ item, store.obtain active create id = some item ∧ types.takes (some (attributesOf item)) attributes = true ∧
      (store.live.get id = none ∧ item = create id ∨ store.live.get id = some item ∧ active item = true) := by
  rw [LiveStore.obtain]
  cases hget : store.live.get id with
  | none =>
      rw [hget] at htakes
      exact ⟨_, rfl, hcreate id ▸ takes_new htakes, Or.inl ⟨rfl, rfl⟩⟩
  | some item =>
      rw [hget] at hsaved htakes
      exact ⟨item, by simpa using hsaved, htakes, Or.inr ⟨rfl, by simpa using hsaved⟩⟩

end SharedTypes

/-! ### The URIs of a contact -/

def completeURI (types : SharedTypes) (uri : Account.Xcap.ContactURI) : Account.Xcap.ContactURI :=
  { uri with attributes := types.complete uri.attributes }

namespace ContactURIList

variable {types : SharedTypes} {order : HashOrder String} {held : String → Bool}

/-- `uris[id]` -/
def get (uris : ContactURIList) (id : String) : Option ContactURI :=
  ((KeyedList.find URIEntry.id id uris.entries).filter (·.present)).map (·.uri)

/-- A URI that the local contact can take from the remote one: it has it already, or its ID is free. -/
def Takes (types : SharedTypes) (held : String → Bool) (uris : ContactURIList)
    (remote : Account.Xcap.ContactURI) : Prop :=
  types.takes ((uris.get remote.id).map (·.attributes)) remote.attributes = true ∧
    remote.id ≠ "default" ∧ (uris.present remote.id = true ∨ held remote.id = false ∧
      (KeyedList.find URIEntry.id remote.id uris.entries).any (·.saved) = false)

theorem assignURI_takes (order : HashOrder String) (remote : Account.Xcap.ContactURI)
    {uris : ContactURIList} {entry : URIEntry}
    (hentry : KeyedList.find URIEntry.id remote.id uris.entries = some entry)
    (hpresent : entry.present = true) (hfits : types.Fits entry.uri.attributes)
    (htakes : types.takes (some entry.uri.attributes) remote.attributes = true) :
    (uris.assignURI types order remote).2 = none ∧
      (uris.assignURI types order remote).1.default = uris.default ∧
      ((uris.assignURI types order remote).1.get remote.id).map ContactURI.toxcap =
        some (completeURI types remote) ∧
      ∀ id ≠ remote.id,
        KeyedList.find URIEntry.id id (uris.assignURI types order remote).1.entries =
          KeyedList.find URIEntry.id id uris.entries := by
  obtain ⟨hraised, hvalues⟩ := types.setAll_takes order hfits htakes
  have hkey : entry.uri.id = remote.id := (KeyedList.mem_of_find hentry).2
  rw [assignURI, hentry]
  refine ⟨hraised, rfl, ?_, fun id hne => ?_⟩
  · rw [get, uris.find_modify, if_pos rfl, hentry]
    simp only [Option.map_some, Option.filter_some, hpresent, if_true]
    rw [completeURI, ← hvalues]
    simp only [ContactURI.toxcap, hkey, Setting.set]
  · rw [uris.find_modify, if_neg hne]

theorem get_of_find {uris : ContactURIList} {id : String} {entry : URIEntry}
    (hentry : KeyedList.find URIEntry.id id uris.entries = some entry) (hpresent : entry.present = true) :
    uris.get id = some entry.uri := by
  rw [get, hentry]
  simp [hpresent]

theorem reloadURI_takes (order : HashOrder String) {remote : Account.Xcap.ContactURI} {uris : ContactURIList}
    (hfits : uris.Fits types) (h : uris.Takes types held remote) :
    (uris.reloadURI types order held remote).2 = none ∧
      (uris.reloadURI types order held remote).1.default = uris.default ∧
      ((uris.reloadURI types order held remote).1.get remote.id).map ContactURI.toxcap =
        some (completeURI types remote) ∧
      ∀ id ≠ remote.id,
        KeyedList.find URIEntry.id id (uris.reloadURI types order held remote).1.entries =
          KeyedList.find URIEntry.id id uris.entries := by
  obtain ⟨htakes, hname, hfree⟩ := h
  rw [reloadURI]
  by_cases hpresent : uris.present remote.id = true
  · rw [if_pos hpresent]
    rw [ContactURIList.present] at hpresent
    obtain ⟨entry, hentry, hentryPresent⟩ := (Option.any_eq_true _ _).mp hpresent
    rw [get_of_find hentry hentryPresent] at htakes
    exact assignURI_takes order remote hentry hentryPresent (hfits _ entry hentry) htakes
  · obtain ⟨hheld, hsaved⟩ := hfree.resolve_left hpresent
    rw [if_neg hpresent, hheld, hsaved, if_neg (by simp), if_neg hname]
    have hentry : uris.entryFor (.new types remote.id) = ⟨.new types remote.id, true, false⟩ := by
      rw [entryFor]
      split
      next old hold =>
        have hdead : (old.present || old.saved) = false := by
          rw [ContactURIList.present] at hpresent
          have hold' : KeyedList.find URIEntry.id remote.id uris.entries = some old := hold
          rw [hold'] at hpresent hsaved
          simp_all
        rw [hdead]
        rfl
      next => rfl
    have hnone : uris.get remote.id = none := by
      rw [get, Option.map_eq_none_iff]
      rw [ContactURIList.present] at hpresent
      cases hfind : KeyedList.find URIEntry.id remote.id uris.entries with
      | none => rfl
      | some old =>
          rw [hfind] at hpresent
          simpa using hpresent
    rw [hnone] at htakes
    have hput : ∀ id, KeyedList.find URIEntry.id id (uris.put (.new types remote.id)).entries =
        if id = remote.id then some ⟨.new types remote.id, true, false⟩
        else KeyedList.find URIEntry.id id uris.entries := by
      intro id
      rw [put, KeyedList.find_assign, hentry]
      rfl
    obtain ⟨hraised, hdefault, hget, hother⟩ := assignURI_takes order remote
      ((hput remote.id).trans (if_pos rfl)) rfl types.fits_new (SharedTypes.takes_new htakes)
    exact ⟨hraised, hdefault, hget,
      fun id hne => (hother id hne).trans ((hput id).trans (if_neg hne))⟩

theorem get_congr {left right : ContactURIList} {id : String}
    (h : KeyedList.find URIEntry.id id left.entries = KeyedList.find URIEntry.id id right.entries) :
    left.get id = right.get id := by
  rw [get, get, h]

theorem present_iff {uris : ContactURIList} {id : String} :
    uris.present id = true ↔ (uris.get id).isSome = true := by
  rw [present, get]
  cases hfind : KeyedList.find URIEntry.id id uris.entries with
  | none => simp
  | some entry => cases hpresent : entry.present <;> simp [hpresent]

/-- A URI whose ID the variable `uri` does not keep in use. -/
theorem nextURI_takes (order : HashOrder String) {remote : Account.Xcap.ContactURI}
    {uris : ContactURIList} {last : Option String} (hfits : uris.Fits types)
    (h : uris.Takes types held remote) (hlast : uris.present remote.id = true ∨ last ≠ some remote.id) :
    ∃ after : ContactURIList,
      nextURI types order held (uris, last) remote = ((after, some remote.id), none) ∧
        after.Fits types ∧ (after.get remote.id).map ContactURI.toxcap =
          some (completeURI types remote) ∧
        ∀ id ≠ remote.id, KeyedList.find URIEntry.id id after.entries =
          KeyedList.find URIEntry.id id uris.entries := by
  have htakes : uris.Takes types (fun id => held id || last = some id) remote := by
    obtain ⟨hattributes, hname, hfree⟩ := h
    refine ⟨hattributes, hname, ?_⟩
    rcases hlast with hpresent | hne
    · exact .inl hpresent
    · exact hfree.imp_right fun hboth => ⟨by simp [hboth.1, hne], hboth.2⟩
  obtain ⟨hraised, _, hget, hkept⟩ := reloadURI_takes order hfits htakes
  obtain ⟨after, hafter⟩ : ∃ after,
      uris.reloadURI types order (fun id => held id || last = some id) remote = (after, none) :=
    ⟨_, Prod.ext rfl hraised⟩
  have hfits' : (uris.reloadURI types order (fun id => held id || last = some id) remote).1.Fits
      types := (reloadURI_keeps _ remote hfits).1
  rw [hafter] at hget hkept hfits'
  have hpresent : after.present remote.id = true := by
    rw [present_iff]
    exact Option.isSome_iff_exists.mpr ⟨_, (Option.map_eq_some_iff.mp hget).choose_spec.1⟩
  refine ⟨after, ?_, hfits', hget, hkept⟩
  rw [nextURI, hafter]
  simp only [hpresent, if_true]

/-- What the variable `uri` refers to after the loop over the URIs. -/
def lastOf (remote : List Account.Xcap.ContactURI) (last : Option String) : Option String :=
  (remote.getLast?.map (·.id)).or last

/-- All URIs of the remote contact. Only for the first one does it matter what the variable `uri` refers
to before the loop. -/
theorem reloadURIs_takes (order : HashOrder String) {remote : List Account.Xcap.ContactURI}
    (hdistinct : KeyedList.Distinct Account.Xcap.ContactURI.id remote) {uris : ContactURIList}
    {last : Option String} (hfits : uris.Fits types) (h : ∀ uri ∈ remote, uris.Takes types held uri)
    (hlast : ∀ uri, remote.head? = some uri → uris.present uri.id = true ∨ last ≠ some uri.id) :
    ∃ after : ContactURIList,
      forEach (nextURI types order held) remote (uris, last) = ((after, lastOf remote last), none) ∧
        (∀ uri ∈ remote,
          (after.get uri.id).map ContactURI.toxcap = some (completeURI types uri)) ∧
        ∀ id ∉ remote.map Account.Xcap.ContactURI.id, after.get id = uris.get id := by
  have hloop : (forEach (nextURI types order held) remote (uris, last)).2 = none ∧ _ :=
    Loops.forEach_completes (fun done (state : ContactURIList × Option String) =>
        state.1.Fits types ∧ state.2 = lastOf done last ∧
          (∀ uri ∈ done, (state.1.get uri.id).map ContactURI.toxcap = some (completeURI types uri)) ∧
          ∀ id ∉ done.map Account.Xcap.ContactURI.id,
            KeyedList.find URIEntry.id id state.1.entries = KeyedList.find URIEntry.id id uris.entries)
      (fun done item rest state hitems hstate => by
        obtain ⟨other, uri⟩ := state
        obtain ⟨hfits', rfl, hdone, hrest⟩ := hstate
        have hnew : item.id ∉ done.map Account.Xcap.ContactURI.id := by
          rw [KeyedList.Distinct, ← hitems, List.map_append, List.map_cons] at hdistinct
          exact fun hmem => (List.nodup_append.mp hdistinct).2.2 _ hmem _ List.mem_cons_self rfl
        have hfind := hrest item.id hnew
        have htakes : other.Takes types held item := by
          have hitem := h item (hitems ▸ List.mem_append_right _ List.mem_cons_self)
          rw [Takes, present, ← hfind, ← get_congr hfind] at hitem
          exact hitem
        -- the URIs that are done have other IDs
        have hfree : other.present item.id = true ∨ lastOf done last ≠ some item.id := by
          cases hdoneLast : done.getLast? with
          | none =>
              rw [List.getLast?_eq_none_iff] at hdoneLast
              subst hdoneLast
              rw [present, hfind]
              exact hlast item (by rw [← hitems]; rfl)
          | some before =>
              refine .inr fun heq => hnew ?_
              rw [lastOf, hdoneLast] at heq
              exact List.mem_map.mpr ⟨before, List.mem_of_getLast? hdoneLast, Option.some.inj heq⟩
        obtain ⟨after, hafter, hfits'', hget, hkept⟩ := nextURI_takes order hfits' htakes hfree
        rw [hafter]
        refine ⟨rfl, hfits'', by simp [lastOf], fun uri huri => ?_, fun id hid => ?_⟩
        · rcases List.mem_append.mp huri with huri | huri
          · have hne : uri.id ≠ item.id := fun heq => hnew (heq ▸ List.mem_map_of_mem huri)
            rw [get_congr (hkept uri.id hne)]
            exact hdone uri huri
          · rw [List.mem_singleton.mp huri]
            exact hget
        · rw [List.map_append, List.mem_append, not_or] at hid
          exact (hkept id fun heq => hid.2 (by simp [heq])).trans (hrest id hid.1))
      ⟨hfits, rfl, by simp, fun _ _ => rfl⟩
  obtain ⟨hraised, _, hlast', hgot, hrest⟩ := hloop
  exact ⟨_, Prod.ext (Prod.ext rfl hlast') hraised, hgot, fun id hid => get_congr (hrest id hid)⟩

theorem get_remove (uris : ContactURIList) (id id' : String) :
    (uris.remove id').get id = if id = id' then none else uris.get id := by
  rw [get, get, remove, KeyedList.find_modify URIEntry.id_drop]
  split_ifs
  · cases KeyedList.find URIEntry.id id uris.entries <;> simp [URIEntry.drop]
  · rfl

theorem get_foldl_remove (ids : List String) (uris : ContactURIList) (id : String) :
    (ids.foldl remove uris).get id = if id ∈ ids then none else uris.get id := by
  induction ids generalizing uris with
  | nil => simp
  | cons head ids ih =>
      rw [List.foldl_cons, ih, get_remove]
      by_cases hid : id = head <;> by_cases hmem : id ∈ ids <;> simp [hid, hmem]

theorem mem_ids {uris : ContactURIList} {id : String} :
    id ∈ uris.items.map (·.id) ↔ (uris.get id).isSome = true := by
  have hfind : uris.get id = KeyedList.find ContactURI.id id uris.items := (find_entries uris _ id).symm
  rw [hfind]
  constructor
  · intro hmem
    exact Option.isSome_iff_ne_none.mpr fun hnone => KeyedList.find_eq_none.mp hnone hmem
  · intro hsome
    by_contra hnot
    rw [KeyedList.find_eq_none.mpr hnot] at hsome
    cases hsome

theorem mem_gone {uris : ContactURIList} {remote : Account.Xcap.ContactURIList} {id : String} :
    id ∈ uris.gone remote ↔ (uris.get id).isSome = true ∧ id ∉ remote.ids := by
  rw [gone, List.mem_filter, mem_ids, decide_eq_true_eq]

/-- The greatest ID is the same for lists of the same IDs. -/
theorem max?_congr {left right : List String} (h : ∀ id, id ∈ left ↔ id ∈ right) :
    left.max? = right.max? := by
  refine Option.ext fun id => ?_
  rw [List.max?_eq_some_iff, List.max?_eq_some_iff, h]
  simp only [h]

theorem setDefault_of_present {uris : ContactURIList} {default : Option String}
    (h : ∀ id, default = some id → uris.present id = true) :
    (uris.setDefault default).entries = uris.entries ∧
      (uris.setDefault default).default.value = default := by
  unfold setDefault
  split
  · exact ⟨rfl, rfl⟩
  · exact absurd h ‹_›

/-- After the loop, the URIs that are gone and the default. -/
theorem finishReload_takes {remote : Account.Xcap.ContactURIList} {uris : ContactURIList}
    (hdefault : ∀ id, remote.default = some id → id ∈ remote.ids)
    (h : ∀ uri ∈ remote.items, (uris.get uri.id).map ContactURI.toxcap = some (completeURI types uri)) :
    (∀ id, ((uris.finishReload remote).get id).map ContactURI.toxcap =
        (KeyedList.find Account.Xcap.ContactURI.id id remote.items).map (completeURI types)) ∧
      (uris.finishReload remote).default.value = remote.default := by
  have hgone : ∀ id, (((uris.gone remote).foldl remove uris).get id).map ContactURI.toxcap =
        (KeyedList.find Account.Xcap.ContactURI.id id remote.items).map (completeURI types) := by
    intro id
    rw [get_foldl_remove]
    cases hfind : KeyedList.find Account.Xcap.ContactURI.id id remote.items with
    | none =>
        have hnot : id ∉ remote.ids := KeyedList.find_eq_none.mp hfind
        split_ifs with hmem
        · rfl
        · have hget : uris.get id = none := by
            by_contra hne
            exact hmem (mem_gone.mpr ⟨Option.isSome_iff_ne_none.mpr hne, hnot⟩)
          rw [hget]
          rfl
    | some uri =>
        obtain ⟨hmem, hid⟩ := KeyedList.mem_of_find hfind
        rw [if_neg fun hgone => (mem_gone.mp hgone).2 (List.mem_map.mpr ⟨uri, hmem, hid⟩), ← hid]
        exact h uri hmem
  simp only [finishReload]
  generalize (uris.gone remote).foldl remove uris = cleared at hgone ⊢
  have hpresent : ∀ id, remote.default = some id → cleared.present id = true := by
    intro id hid
    obtain ⟨uri, huri, hkey⟩ := List.mem_map.mp (hdefault id hid)
    have hget := hgone id
    rw [(KeyedList.find_eq_some_iff remote.distinct).mpr ⟨huri, hkey⟩] at hget
    rw [present_iff]
    exact Option.isSome_iff_exists.mpr ⟨_, (Option.map_eq_some_iff.mp hget).choose_spec.1⟩
  have hset : remote.default.filter cleared.present = remote.default := by
    cases hid : remote.default with
    | none => rfl
    | some id => rw [Option.filter_some, hpresent id hid, if_pos rfl]
  obtain ⟨hentries, hvalue⟩ := setDefault_of_present hpresent
  rw [hset]
  refine ⟨fun id => ?_, hvalue⟩
  rw [get, hentries]
  exact hgone id

end ContactURIList

/-! ### Contacts -/

def completeContact (extensions : Extensions) (contact : Account.Xcap.Contact) :
    Account.Xcap.Contact :=
  { contact with
    uris :=
      { items := contact.uris.items.map (completeURI extensions.uri)
        distinct := KeyedList.distinct_map (fun _ => rfl) contact.uris.distinct
        default := contact.uris.default }
    attributes := extensions.contact.complete contact.attributes }

namespace Manager

variable {extensions : Extensions} {order : HashOrder String} {manager : Manager}

def localURIs (manager : Manager) (id : String) : ContactURIList :=
  ((manager.contacts.live.get id).map Contact.uris).getD .empty

/-- What the variable `uri` refers to after a remote contact. -/
def lastURI (manager : Manager) (last : Option String) (contact : Account.Xcap.Contact) :
    Option String :=
  ((manager.localURIs contact.id).gone contact.uris).max?.or
    (ContactURIList.lastOf contact.uris.items last)

/-- The manager can take the remote contact as it is, when the variable `uri` refers to the given ID. -/
structure TakesContact (extensions : Extensions) (manager : Manager) (last : Option String)
    (remote : Account.Xcap.Contact) : Prop where
  saved : (manager.contacts.live.get remote.id).all Contact.active = true
  attributes : extensions.contact.takes
    ((manager.contacts.live.get remote.id).map (·.attributes)) remote.attributes = true
  uris : ∀ uri ∈ remote.uris.items,
    (manager.localURIs remote.id).Takes extensions.uri (manager.holdsURI remote.id) uri
  last : ∀ uri, remote.uris.items.head? = some uri →
    (manager.localURIs remote.id).present uri.id = true ∨ last ≠ some uri.id

/-- The loop over the remote URIs takes them all. -/
theorem TakesContact.uris_taken {remote : Account.Xcap.Contact} {last : Option String}
    (htakes : manager.TakesContact extensions last remote) (order : HashOrder String) {contact : Contact}
    (hkey : contact.id = remote.id) (huris : manager.localURIs remote.id = contact.uris)
    (hfits : contact.uris.Fits extensions.uri) :
    ∃ uris, forEach (ContactURIList.nextURI extensions.uri order (manager.holdsURI contact.id))
        remote.uris.items (contact.uris, last) =
          ((uris, ContactURIList.lastOf remote.uris.items last), none) ∧
      (∀ uri ∈ remote.uris.items,
        (uris.get uri.id).map ContactURI.toxcap = some (completeURI extensions.uri uri)) ∧
      (∀ id ∉ remote.uris.ids, uris.get id = contact.uris.get id) ∧
      uris.Fits extensions.uri ∧ KeepsSaved contact.uris uris := by
  have hall := htakes.uris
  have hfirst := htakes.last
  rw [huris] at hfirst
  rw [huris, ← hkey] at hall
  obtain ⟨uris, hloop, hgot, hrest⟩ := ContactURIList.reloadURIs_takes order
    remote.uris.distinct hfits hall hfirst
  have hkeeps := ContactURIList.reloadURIs_keeps order (manager.holdsURI contact.id)
    remote.uris.items last hfits
  rw [hloop] at hkeeps
  exact ⟨uris, hloop, hgot, hrest, hkeeps⟩

/-- What a remote contact makes of the local one before it is saved. -/
theorem reloadContact_takes (order : HashOrder String) (h : manager.Sound extensions)
    {remote : Account.Xcap.Contact} {last : Option String}
    (hdefault : ∀ id, remote.uris.default = some id → id ∈ remote.uris.ids)
    (htakes : manager.TakesContact extensions last remote) :
    ∃ contact : Contact,
      reloadContact extensions order (manager, last) remote =
          ((manager.saveContact contact, manager.lastURI last remote), none) ∧
        contact.id = remote.id ∧ contact.Shaped extensions ∧
        manager.contacts.InStep Contact.active Contact.SyncedXcap contact ∧
        xcapCard contact.toxcap = xcapCard (completeContact extensions remote) ∧
        ∀ id, (contact.uris.get id).isSome = true → id ∈ remote.uris.ids := by
  obtain ⟨contact, hcontact, hattributes, hlive⟩ :=
    SharedTypes.takes_obtain Contact.active (.new extensions.contact) (fun _ => rfl) htakes.saved htakes.attributes
  have huris : manager.localURIs remote.id = contact.uris := by
    rw [localURIs]
    rcases hlive with ⟨hget, rfl⟩ | ⟨hget, -⟩
    · rw [hget]
      rfl
    · rw [hget]
      rfl
  obtain ⟨hkey, hshaped, hstep⟩ := h.contacts.obtain (fun _ => rfl)
    (Contact.shaped_new extensions) (fun _ => rfl) hcontact
  obtain ⟨attributes, hset, hvalues, hkeeps⟩ :=
    extensions.contact.setAll_completes order hshaped.attributes hattributes
  obtain ⟨uris, hloop, hgot, hrest, hfits, hkept⟩ := htakes.uris_taken order hkey huris hshaped.uris
  have hgone : (uris.gone remote.uris).max? = (contact.uris.gone remote.uris).max? := by
    refine ContactURIList.max?_congr fun id => ?_
    rw [ContactURIList.mem_gone, ContactURIList.mem_gone]
    exact and_congr_left fun hnot => by rw [hrest id hnot]
  obtain ⟨hfinal, hvalue⟩ := ContactURIList.finishReload_takes hdefault hgot
  obtain ⟨hfits', hkept'⟩ := ContactURIList.finishReload_keeps remote.uris hfits
  obtain ⟨hshaped', hsynced'⟩ :=
    Contact.reload_keeps hshaped remote hkeeps ⟨hfits', hkept.trans hkept'⟩
  refine ⟨{ contact with
    name := contact.name.set remote.name
    presence := contact.presence.assign remote.presence
    dialog := contact.dialog.assign remote.dialog
    attributes := attributes
    uris := uris.finishReload remote.uris }, ?_, hkey, hshaped', hstep.edit rfl rfl hsynced', ?_,
    fun id hsome => ?_⟩
  · simp only [reloadContact, hcontact, hset, hloop]
    rw [hgone, lastURI, huris]
  · refine ContactCard.ext rfl (funext fun id => ?_) ?_ rfl rfl hvalues
    · rw [xcapCard_uri]
      have hcomplete : (xcapCard (completeContact extensions remote)).uri id =
          (KeyedList.find Account.Xcap.ContactURI.id id remote.uris.items).map
            (completeURI extensions.uri) :=
        KeyedList.find_map (fun _ => rfl) remote.uris.items id
      rw [hcomplete, ← hfinal id, ContactURIList.get, Option.map_map]
      rfl
    · exact (ContactURIList.getDefault_eq _).trans hvalue
  · have hget := hfinal id
    cases hfind : KeyedList.find Account.Xcap.ContactURI.id id remote.uris.items with
    | none =>
        rw [hfind, Option.map_none, Option.map_eq_none_iff] at hget
        have hsome' : ((uris.finishReload remote.uris).get id).isSome = true := hsome
        rw [hget] at hsome'
        cases hsome'
    | some uri =>
        obtain ⟨hmem, hid⟩ := KeyedList.mem_of_find hfind
        exact List.mem_map.mpr ⟨uri, hmem, hid⟩

/-- After a save, the contact holds only the URIs that it has. -/
theorem holds_save {contact : Contact} (h : contact.state ≠ .deleted) {id : String}
    (hholds : (contact.save .same).1.holds id = true) : (contact.uris.get id).isSome = true := by
  rcases Contact.save_cases h .same with hsaved | ⟨hsaved, _, hmodified⟩
  · rw [hsaved, Contact.holds] at hholds
    have hfind : KeyedList.find URIEntry.id id contact.sync.uris.entries =
        ((KeyedList.find URIEntry.id id contact.uris.entries).filter (·.present)).map
          URIEntry.sync := by
      rw [Contact.sync, ContactURIList.sync, KeyedList.find_map URIEntry.id_sync,
        KeyedList.find_filter contact.uris.distinct]
    obtain ⟨entry, hentry, _⟩ := (Option.any_eq_true _ _).mp hholds
    rw [hfind] at hentry
    obtain ⟨old, hold, _⟩ := Option.map_eq_some_iff.mp hentry
    rw [ContactURIList.get, hold]
    rfl
  · rw [hsaved, Contact.holds] at hholds
    obtain ⟨entry, hentry, hkept⟩ := (Option.any_eq_true _ _).mp hholds
    have hremoved : contact.uris.removed = [] := by
      simp only [Contact.isModified, ContactURIList.isModified, Bool.or_eq_false_iff,
        Bool.not_eq_false', List.isEmpty_iff] at hmodified
      exact hmodified.1.2.1.2
    rw [ContactURIList.get, hentry]
    cases hpresent : entry.present with
    | true => simp [hpresent]
    | false =>
        have hgone : entry.uri ∈ contact.uris.removed :=
          List.mem_map_of_mem (List.mem_filter.mpr ⟨(KeyedList.mem_of_find hentry).1, by
            simpa [hpresent] using hkept⟩)
        rw [hremoved] at hgone
        cases hgone

theorem id_save {contact : Contact} (h : contact.state ≠ .deleted) :
    (contact.save .same).1.id = contact.id ∧ (contact.save .same).1.active = true := by
  rcases Contact.save_cases h .same with hsaved | ⟨hsaved, hactive, _⟩
  · rw [hsaved]
    exact ⟨rfl, rfl⟩
  · rw [hsaved]
    exact ⟨rfl, hactive⟩

/-- Everything but the contact is as it was, and the groups refer to what was saved. -/
theorem saveContact_frame (manager : Manager) {contact : Contact} (h : contact.state ≠ .deleted) {id : String}
    (hne : id ≠ contact.id) :
    (manager.saveContact contact).contacts.live.get id = manager.contacts.live.get id ∧
      (manager.saveContact contact).contacts.stored.get id = manager.contacts.stored.get id := by
  refine ⟨?_, LiveStore.stored_saveIf_of_ne hne⟩
  have hlive : (manager.saveContact contact).contacts.live =
      manager.contacts.live.set (contact.save .same).1 := LiveStore.live_saveIf _ _ _
  rw [hlive, Collection.get_set_of_ne]
  rwa [(id_save h).1]

/-! ### The loop over the remote contacts -/

/-- What a group is to the later part of a reload: whether it is stored, and its settings. -/
def groupFacts (group : Group) : Bool × SharedSettings := (group.active, group.attributes)

/-- After the remote contacts that are done, when the variable `uri` refers to the given ID. -/
structure ContactsDone (extensions : Extensions) (start : Manager) (done : List Account.Xcap.Contact)
    (manager : Manager) (last : Option String) : Prop where
  last : last = done.foldl start.lastURI none
  sound : manager.Sound extensions
  policies : manager.policies = start.policies
  keptURIs : manager.keptURIs = start.keptURIs
  groupsStored : manager.groups.stored = start.groups.stored
  groupsLive : ∀ id, (manager.groups.live.get id).map groupFacts =
    (start.groups.live.get id).map groupFacts
  stored : ∀ contact ∈ done, (manager.contacts.stored.get contact.id).map xcapCard =
    some (xcapCard (completeContact extensions contact))
  live : ∀ contact ∈ done, ∃ saved, manager.contacts.live.get contact.id = some saved ∧
    saved.active = true ∧ ∀ uri, saved.holds uri = true → uri ∈ contact.uris.ids
  rest : ∀ id ∉ done.map Account.Xcap.Contact.id,
    manager.contacts.live.get id = start.contacts.live.get id ∧
      manager.contacts.stored.get id = start.contacts.stored.get id

theorem ContactsDone.next (order : HashOrder String) {start : Manager} {done : List Account.Xcap.Contact}
    {remote : Account.Xcap.Contact} {last : Option String}
    (h : ContactsDone extensions start done manager last)
    (hnew : remote.id ∉ done.map Account.Xcap.Contact.id)
    (hdefault : ∀ id, remote.uris.default = some id → id ∈ remote.uris.ids)
    (htakes : manager.TakesContact extensions last remote) :
    ∃ after uri, reloadContact extensions order (manager, last) remote = ((after, uri), none) ∧
      ContactsDone extensions start (done ++ [remote]) after uri := by
  obtain ⟨contact, hreload, hid, hshaped, hstep, hcard, huris⟩ :=
    reloadContact_takes order h.sound hdefault htakes
  have hlive : (manager.saveContact contact).contacts.live.get remote.id =
      some (contact.save .same).1 := by
    have hset : (manager.saveContact contact).contacts.live =
        manager.contacts.live.set (contact.save .same).1 := LiveStore.live_saveIf _ _ _
    rw [hset, ← hid, ← (id_save hshaped.state).1, Collection.get_set_self]
  have hstored : ((manager.saveContact contact).contacts.stored.get remote.id).map xcapCard =
      some (xcapCard (completeContact extensions remote)) := by
    rw [← hcard, ← hid]
    exact (sound_saveContacts h.sound.contacts hshaped hstep).2
  have hframe : ∀ {id}, id ≠ remote.id → _ := fun hne =>
    saveContact_frame manager hshaped.state (hid ▸ hne)
  have hlocal : manager.localURIs remote.id = start.localURIs remote.id := by
    rw [localURIs, localURIs, (h.rest remote.id hnew).1]
  refine ⟨_, _, hreload, ?_, h.sound.saveContact hshaped hstep, h.policies, h.keptURIs,
    h.groupsStored, ?_, ?_, ?_, ?_⟩
  · rw [List.foldl_append, ← h.last]
    simp only [lastURI, hlocal, List.foldl_cons, List.foldl_nil]
  · intro id
    have hgroups : (manager.saveContact contact).groups.live.get id =
        (manager.groups.live.get id).map (Group.refresh (contact.save .same).1.xcapContact) :=
      Collection.get_map _ (Group.id_refresh _) id
    rw [hgroups, Option.map_map, ← h.groupsLive id]
    refine congrArg (Option.map · _) (funext fun group => ?_)
    cases (contact.save .same).1.xcapContact <;> rfl
  · intro other hother
    rcases List.mem_append.mp hother with hmem | hmem
    · have hne : other.id ≠ remote.id := fun heq => hnew (heq ▸ List.mem_map_of_mem hmem)
      rw [(hframe hne).2]
      exact h.stored other hmem
    · rw [List.mem_singleton.mp hmem]
      exact hstored
  · intro other hother
    rcases List.mem_append.mp hother with hmem | hmem
    · have hne : other.id ≠ remote.id := fun heq => hnew (heq ▸ List.mem_map_of_mem hmem)
      rw [(hframe hne).1]
      exact h.live other hmem
    · rw [List.mem_singleton.mp hmem]
      exact ⟨_, hlive, (id_save hshaped.state).2,
        fun uri hholds => huris uri (holds_save hshaped.state hholds)⟩
  · intro id hnot
    rw [List.map_append, List.mem_append, not_or] at hnot
    have hne : id ≠ remote.id := fun heq => hnot.2 (by simp [heq])
    obtain ⟨hlive', hstored'⟩ := hframe hne
    obtain ⟨hlive'', hstored''⟩ := h.rest id hnot.1
    exact ⟨hlive'.trans hlive'', hstored'.trans hstored''⟩

end Manager

/-! ### What is asked of the remote addressbook and of the manager -/

namespace Manager

variable {extensions : Extensions} {order : HashOrder String} {manager : Manager}

/-- Every URI of the remote contacts is one that the local contact has, or its ID is not in use, except
in a contact that comes earlier. The first URI of a contact is not the one that the variable `uri` refers
to, unless the local contact has it. -/
def urisFree (manager : Manager) : List String → Option String → List Account.Xcap.Contact → Bool
  | _, _, [] => true
  | done, last, contact :: rest =>
      (contact.uris.items.all fun uri => (manager.localURIs contact.id).present uri.id ||
        (uri.id ∉ manager.keptURIs &&
          manager.contacts.live.items.all fun other => !other.holds uri.id || other.id ∈ done)) &&
      (contact.uris.items.head?.all fun uri =>
        (manager.localURIs contact.id).present uri.id || last ≠ some uri.id) &&
      manager.urisFree (done ++ [contact.id]) (manager.lastURI last contact) rest

theorem urisFree_append {before : List String} {last : Option String}
    {done rest : List Account.Xcap.Contact} {contact : Account.Xcap.Contact}
    (h : manager.urisFree before last (done ++ contact :: rest) = true) :
    (∀ uri ∈ contact.uris.items, (manager.localURIs contact.id).present uri.id = true ∨
      uri.id ∉ manager.keptURIs ∧ ∀ other ∈ manager.contacts.live.items, other.holds uri.id = true →
        other.id ∈ before ++ done.map Account.Xcap.Contact.id) ∧
      ∀ uri, contact.uris.items.head? = some uri →
        (manager.localURIs contact.id).present uri.id = true ∨
          done.foldl manager.lastURI last ≠ some uri.id := by
  induction done generalizing before last with
  | nil =>
      rw [List.nil_append, urisFree, Bool.and_eq_true, Bool.and_eq_true, List.all_eq_true] at h
      obtain ⟨⟨hall, hfirst⟩, -⟩ := h
      refine ⟨fun uri huri => ?_, fun uri huri => ?_⟩
      swap
      · rw [huri] at hfirst
        simpa using hfirst
      have hfree := hall uri huri
      simp only [Bool.or_eq_true, Bool.and_eq_true, decide_eq_true_eq, List.all_eq_true,
        Bool.not_eq_true'] at hfree
      refine hfree.imp_right fun ⟨hkept, hothers⟩ => ⟨hkept, fun other hother hholds => ?_⟩
      rcases hothers other hother with hnot | hmem
      · rw [hholds] at hnot
        cases hnot
      · simpa using hmem
  | cons head done ih =>
      rw [List.cons_append, urisFree, Bool.and_eq_true] at h
      obtain ⟨hfree, hfirst⟩ := ih h.2
      refine ⟨fun uri huri => ?_, hfirst⟩
      have hboth := hfree uri huri
      simpa using hboth

/-- The references inside a remote addressbook lead somewhere, and its IDs are unique. -/
structure Consistent (remote : Account.Xcap.Addressbook) : Prop where
  members : ∀ group ∈ remote.groups.items, ∀ id ∈ group.contacts.ids, id ∈ remote.contacts.ids
  defaults : ∀ contact ∈ remote.contacts.items, ∀ id, contact.uris.default = some id →
    id ∈ contact.uris.ids
  uris : (remote.contacts.items.flatMap fun contact => contact.uris.ids).Nodup

/-- No remote object has an ID that is in use for something else, and the shared settings can be taken. -/
structure Reloadable (extensions : Extensions) (manager : Manager)
    (remote : Account.Xcap.Addressbook) : Prop where
  contacts : ∀ contact ∈ remote.contacts.items,
    (manager.contacts.live.get contact.id).all Contact.active = true ∧
      extensions.contact.takes ((manager.contacts.live.get contact.id).map (·.attributes))
        contact.attributes = true
  uris : ∀ contact ∈ remote.contacts.items, ∀ uri ∈ contact.uris.items, uri.id ≠ "default" ∧
    extensions.uri.takes (((manager.localURIs contact.id).get uri.id).map (·.attributes))
      uri.attributes = true
  free : manager.urisFree [] none remote.contacts.items = true
  groups : ∀ group ∈ remote.groups.items,
    (manager.groups.live.get group.id).all Group.active = true ∧
      extensions.group.takes ((manager.groups.live.get group.id).map (·.attributes))
        group.attributes = true
  policies : ∀ policy ∈ remote.policies.items,
    (manager.policies.live.get policy.id).all Policy.active = true ∧
      extensions.policy.takes ((manager.policies.live.get policy.id).map (·.attributes))
        policy.attributes = true

theorem holds_of_saved {contact : Contact} {id : String}
    (h : (KeyedList.find URIEntry.id id contact.uris.entries).any (·.saved) = true) :
    contact.holds id = true := by
  obtain ⟨entry, hentry, hsaved⟩ := (Option.any_eq_true _ _).mp h
  rw [Contact.holds, hentry]
  simp [hsaved]

/-- In the loop, what is asked at the start still holds of the contacts to come. -/
theorem ContactsDone.takes {start : Manager} {remote : Account.Xcap.Addressbook}
    (hconsistent : Consistent remote) (hreloadable : Reloadable extensions start remote)
    {done rest : List Account.Xcap.Contact} {contact : Account.Xcap.Contact}
    (hitems : done ++ contact :: rest = remote.contacts.items) {last : Option String}
    (hdone : ContactsDone extensions start done manager last) :
    contact.id ∉ done.map Account.Xcap.Contact.id ∧
      manager.TakesContact extensions last contact := by
  have hmem : contact ∈ remote.contacts.items := hitems ▸ List.mem_append_right _ List.mem_cons_self
  have hnew : contact.id ∉ done.map Account.Xcap.Contact.id := by
    have hdistinct := remote.contacts.distinct
    rw [KeyedList.Distinct, ← hitems, List.map_append, List.map_cons] at hdistinct
    exact fun hin => (List.nodup_append.mp hdistinct).2.2 _ hin _ List.mem_cons_self rfl
  obtain ⟨hlive, _⟩ := hdone.rest contact.id hnew
  have hlocal : manager.localURIs contact.id = start.localURIs contact.id := by
    rw [localURIs, localURIs, hlive]
  obtain ⟨hallFree, hfirst⟩ := urisFree_append (hitems ▸ hreloadable.free)
  refine ⟨hnew, ?_, ?_, fun uri huri => ?_, fun uri huri => ?_⟩
  · rw [hlive]
    exact (hreloadable.contacts contact hmem).1
  · rw [hlive]
    exact (hreloadable.contacts contact hmem).2
  swap
  · rw [hlocal, hdone.last]
    exact hfirst uri huri
  · obtain ⟨hname, htakes⟩ := hreloadable.uris contact hmem uri huri
    refine ⟨hlocal ▸ htakes, hname, ?_⟩
    rw [hlocal]
    refine (hallFree uri huri).imp_right fun hboth => ?_
    obtain ⟨hkept, hothers⟩ := hboth
    refine ⟨?_, ?_⟩
    · rw [holdsURI, hdone.keptURIs, Bool.or_eq_false_iff, decide_eq_false_iff_not]
      refine ⟨hkept, ?_⟩
      rw [holdsURIElsewhere, List.any_eq_false]
      intro other hother
      simp only [Bool.and_eq_true, decide_eq_true_eq, not_and]
      intro hne hholds
      have hget := Collection.get_of_mem hother
      by_cases hin : other.id ∈ done.map Account.Xcap.Contact.id
      · obtain ⟨earlier, hearlier, hid⟩ := List.mem_map.mp hin
        obtain ⟨saved, hsaved, _, huris⟩ := hdone.live earlier hearlier
        rw [hid, hget] at hsaved
        have hin' := huris uri.id (Option.some.inj hsaved ▸ hholds)
        have hunique := hconsistent.uris
        rw [← hitems, List.flatMap_append, List.flatMap_cons] at hunique
        exact (List.nodup_append.mp hunique).2.2 _ (List.mem_flatMap.mpr ⟨earlier, hearlier, hin'⟩) _
          (List.mem_append_left _ (List.mem_map_of_mem huri)) rfl
      · rw [(hdone.rest other.id hin).1] at hget
        exact hin (by simpa using hothers other (Collection.mem_of_get hget) hholds)
    · cases hlocalGet : start.contacts.live.get contact.id with
      | none =>
          rw [localURIs, hlocalGet]
          rfl
      | some own =>
          have huris : start.localURIs contact.id = own.uris := by
            rw [localURIs, hlocalGet]
            rfl
          rw [huris]
          cases hsaved : (KeyedList.find URIEntry.id uri.id own.uris.entries).any (·.saved) with
          | false => rfl
          | true =>
              have hin := hothers own (Collection.mem_of_get hlocalGet) (holds_of_saved hsaved)
              rw [Collection.key_of_get hlocalGet] at hin
              exact absurd (by simpa using hin) hnew

/-- **All remote contacts.** -/
theorem reloadContacts_done (order : HashOrder String) (h : manager.Sound extensions)
    {remote : Account.Xcap.Addressbook}
    (hconsistent : Consistent remote) (hreloadable : Reloadable extensions manager remote) :
    (forEach (reloadContact extensions order) remote.contacts.items (manager, none)).2 = none ∧
      ContactsDone extensions manager remote.contacts.items
        (forEach (reloadContact extensions order) remote.contacts.items (manager, none)).1.1
        (forEach (reloadContact extensions order) remote.contacts.items (manager, none)).1.2 := by
  refine Loops.forEach_completes
    (fun done (state : Manager × Option String) =>
      ContactsDone extensions manager done state.1 state.2)
    (fun done contact rest state hitems hdone => ?_)
    ⟨rfl, h, rfl, rfl, rfl, fun _ => rfl, by simp, by simp, fun _ _ => ⟨rfl, rfl⟩⟩
  obtain ⟨other, last⟩ := state
  obtain ⟨hnew, htakes⟩ := hdone.takes hconsistent hreloadable hitems
  obtain ⟨after, uri, hreload, hnext⟩ := hdone.next order hnew
    (hconsistent.defaults contact (hitems ▸ List.mem_append_right _ List.mem_cons_self)) htakes
  rw [hreload]
  exact ⟨rfl, hnext⟩

end Manager

/-! ### Groups -/

def completeGroup (extensions : Extensions) (group : Account.Xcap.Group) : Account.Xcap.Group :=
  { group with attributes := extensions.group.complete group.attributes }

namespace Manager

variable {extensions : Extensions} {order : HashOrder String} {manager : Manager}

/-- Adding members that the manager has. -/
theorem addMembers_completes (group : Group) {ids : List String}
    (hmembers : ∀ id ∈ ids, ∃ contact, manager.member id = some contact ∧ contact.id = id)
    (hkept : ∀ member ∈ group.contacts, member.deleted = false) :
    ∃ contacts distinct, manager.addMembers ids group =
        ({ group with contacts := contacts, distinct := distinct }, none) ∧
      (∀ member ∈ contacts, member.deleted = false) ∧
      ∀ id, id ∈ contacts.map GroupMember.id ↔ id ∈ group.contacts.map GroupMember.id ∨ id ∈ ids := by
  have hloop : (manager.addMembers ids group).2 = none ∧
      ∃ contacts, ∃ distinct : KeyedList.Distinct GroupMember.id contacts,
        (manager.addMembers ids group).1 = { group with contacts := contacts, distinct := distinct } ∧
        (∀ member ∈ contacts, member.deleted = false) ∧
        ∀ id, id ∈ contacts.map GroupMember.id ↔
          id ∈ group.contacts.map GroupMember.id ∨ id ∈ ids := by
    unfold addMembers
    refine Loops.forEach_completes
      (fun done other => ∃ contacts, ∃ distinct : KeyedList.Distinct GroupMember.id contacts,
        other = { group with contacts := contacts, distinct := distinct } ∧
          (∀ member ∈ contacts, member.deleted = false) ∧
          ∀ id, id ∈ contacts.map GroupMember.id ↔
            id ∈ group.contacts.map GroupMember.id ∨ id ∈ done)
      (fun done item rest other hitems hother => ?_) ⟨group.contacts, group.distinct, rfl, hkept, by simp⟩
    obtain ⟨contacts, hdistinct, rfl, hkept', hids⟩ := hother
    obtain ⟨contact, hcontact, hid⟩ :=
      hmembers item (hitems ▸ List.mem_append_right _ List.mem_cons_self)
    rw [hcontact]
    refine ⟨rfl, _, _, rfl, Group.addMember_kept rfl hkept', fun id => ?_⟩
    rw [KeyedList.mem_keys_assign, hids, List.mem_append, List.mem_singleton, GroupMember.id, hid]
    tauto
  obtain ⟨hraised, contacts, hdistinct, heq, hrest⟩ := hloop
  exact ⟨contacts, hdistinct, Prod.ext heq hraised, hrest⟩

theorem removeMembers_eq (ids : List String) (group : Group)
    (hkept : ∀ member ∈ group.contacts, member.deleted = false) : ∃ contacts distinct,
    ids.foldl (fun group id => group.edit (.removeContact id)) group =
        { group with contacts := contacts, distinct := distinct } ∧
      (∀ member ∈ contacts, member.deleted = false) ∧
      ∀ id, id ∈ contacts.map GroupMember.id ↔ id ∈ group.contacts.map GroupMember.id ∧ id ∉ ids := by
  induction ids generalizing group with
  | nil => exact ⟨group.contacts, group.distinct, rfl, hkept, by simp⟩
  | cons head ids ih =>
      obtain ⟨contacts, hdistinct, heq, hkept', hids⟩ := ih (group.edit (.removeContact head))
        fun member hmember => hkept member (List.mem_of_mem_filter hmember)
      refine ⟨contacts, hdistinct, heq, hkept', fun id => ?_⟩
      have herase : id ∈ (group.edit (.removeContact head)).contacts.map GroupMember.id ↔
          id ≠ head ∧ id ∈ group.contacts.map GroupMember.id := KeyedList.mem_keys_erase
      rw [hids, herase, List.mem_cons]
      tauto

/-- The manager can take the remote group as it is. -/
structure TakesGroup (extensions : Extensions) (manager : Manager) (remote : Account.Xcap.Group) :
    Prop where
  saved : (manager.groups.live.get remote.id).all Group.active = true
  attributes : extensions.group.takes
    ((manager.groups.live.get remote.id).map (·.attributes)) remote.attributes = true
  members : ∀ id ∈ remote.contacts.ids, ∃ contact, manager.member id = some contact ∧ contact.id = id

theorem reloadGroup_takes (order : HashOrder String) (h : manager.Sound extensions)
    {remote : Account.Xcap.Group}
    (htakes : manager.TakesGroup extensions remote) :
    ∃ group : Group, manager.reloadGroup extensions order remote =
        ({ manager with groups := saveGroup manager.groups group }, none) ∧
      group.id = remote.id ∧ group.Shaped extensions ∧
      manager.groups.InStep Group.active Group.Synced group ∧
      xcapGroupCard group.toxcap = xcapGroupCard (completeGroup extensions remote) ∧
      (∀ member ∈ group.contacts, member.deleted = false) ∧
      ∀ id, id ∈ group.contacts.map GroupMember.id ↔ id ∈ remote.contacts.ids := by
  obtain ⟨group, hgroup, hattributes, hlive⟩ :=
    SharedTypes.takes_obtain Group.active (.new extensions.group) (fun _ => rfl) htakes.saved htakes.attributes
  have hkept : ∀ member ∈ group.contacts, member.deleted = false := by
    rcases hlive with ⟨-, rfl⟩ | ⟨hget, hactive⟩
    · exact fun _ hmember => absurd hmember List.not_mem_nil
    · exact (h.groups.valid hget).members hactive
  obtain ⟨hkey, hshaped, hstep⟩ := h.groups.obtain (fun _ => rfl)
    (Group.shaped_new extensions) (fun _ => rfl) hgroup
  obtain ⟨attributes, hset, hvalues, hfits, hold⟩ :=
    extensions.group.setAll_completes order hshaped.attributes hattributes
  have hadd : ∀ id ∈ order.order
      (remote.contacts.ids.filter (· ∉ group.contacts.map (·.id))), ∃ contact,
        manager.member id = some contact ∧ contact.id = id := fun id hid =>
    htakes.members id (List.mem_of_mem_filter ((order.perm _).mem_iff.mp hid))
  obtain ⟨contacts, hdistinct, hadded, hkept', hids⟩ := addMembers_completes
    { group with name := group.name.set remote.name, attributes := attributes } hadd hkept
  obtain ⟨contacts', hdistinct', hremoved, hkept'', hids'⟩ := removeMembers_eq
    (order.order ((group.contacts.map (·.id)).filter (· ∉ remote.contacts.ids)))
    { group with
      name := group.name.set remote.name
      attributes := attributes
      contacts := contacts
      distinct := hdistinct } hkept'
  have hmembers : ∀ id, id ∈ contacts'.map GroupMember.id ↔ id ∈ remote.contacts.ids := by
    intro id
    rw [hids', hids, (order.perm _).mem_iff, (order.perm _).mem_iff, List.mem_filter,
      List.mem_filter]
    simp only [decide_not, Bool.not_eq_true', decide_eq_false_iff_not]
    have hsame : id ∈ group.contacts.map (·.id) ↔ id ∈ group.contacts.map GroupMember.id := Iff.rfl
    tauto
  refine ⟨{ group with
    name := group.name.set remote.name
    attributes := attributes
    contacts := contacts'
    distinct := hdistinct' }, ?_, hkey, ⟨hshaped.state, fun _ => hkept'', hfits⟩,
    hstep.edit rfl rfl fun old hsynced =>
      { hsynced with attributes := hsynced.attributes.trans hold.symm }, ?_, hkept'', hmembers⟩
  · rw [reloadGroup, hgroup]
    dsimp only
    rw [hset]
    dsimp only
    rw [hadded]
    dsimp only
    rw [hremoved]
  · refine GroupCard.ext rfl (Set.ext fun id => ?_) hvalues
    refine (Group.ids_toxcap _).mem_iff.trans ?_
    refine Iff.trans ?_ (hmembers id)
    rw [Group.members, List.filter_eq_self.mpr fun member hmember => by simp [hkept'' member hmember]]

/-- After a save, a group has its members. -/
theorem save_group {group : Group} (h : group.Shaped extensions)
    (hkept : ∀ member ∈ group.contacts, member.deleted = false) :
    (group.save .same).1.id = group.id ∧ (group.save .same).1.active = true ∧
      (group.save .same).1.contacts = group.contacts := by
  have hmembers : group.members = group.contacts :=
    List.filter_eq_self.mpr fun member hmember => by simp [hkept member hmember]
  rcases Group.save_cases h.state .same with hsaved | ⟨hsaved, hactive, _⟩
  · rw [hsaved]
    exact ⟨rfl, rfl, hmembers⟩
  · rw [hsaved]
    exact ⟨rfl, hactive, hmembers⟩

/-- After the remote groups that are done. -/
structure GroupsDone (extensions : Extensions) (start : Manager) (done : List Account.Xcap.Group)
    (manager : Manager) : Prop where
  sound : manager.Sound extensions
  contacts : manager.contacts = start.contacts
  policies : manager.policies = start.policies
  stored : ∀ group ∈ done, (manager.groups.stored.get group.id).map xcapGroupCard =
    some (xcapGroupCard (completeGroup extensions group))
  live : ∀ group ∈ done, ∃ saved, manager.groups.live.get group.id = some saved ∧
    saved.active = true ∧ ∀ id, id ∈ saved.contacts.map GroupMember.id ↔ id ∈ group.contacts.ids
  rest : ∀ id ∉ done.map Account.Xcap.Group.id,
    manager.groups.live.get id = start.groups.live.get id ∧
      manager.groups.stored.get id = start.groups.stored.get id

theorem GroupsDone.next {start : Manager} {done : List Account.Xcap.Group}
    {remote : Account.Xcap.Group} (h : GroupsDone extensions start done manager)
    (hnew : remote.id ∉ done.map Account.Xcap.Group.id)
    (htakes : manager.TakesGroup extensions remote) :
    (manager.reloadGroup extensions order remote).2 = none ∧
      GroupsDone extensions start (done ++ [remote])
        (manager.reloadGroup extensions order remote).1 := by
  obtain ⟨group, hreload, hid, hshaped, hstep, hcard, hkept, hmembers⟩ :=
    reloadGroup_takes order h.sound htakes
  obtain ⟨hsavedId, hsavedActive, hsavedContacts⟩ := save_group hshaped hkept
  obtain ⟨hsound, hstored⟩ := sound_saveGroup h.sound.groups hshaped hstep
  have hlive : (saveGroup manager.groups group).live =
      manager.groups.live.set (group.save .same).1 := LiveStore.live_saveIf _ _ _
  have hframe : ∀ id ≠ remote.id,
      (saveGroup manager.groups group).live.get id = manager.groups.live.get id ∧
        (saveGroup manager.groups group).stored.get id = manager.groups.stored.get id := by
    intro id hne
    rw [← hid] at hne
    refine ⟨?_, LiveStore.stored_saveIf_of_ne hne⟩
    rw [hlive, Collection.get_set_of_ne]
    rwa [hsavedId]
  rw [hreload]
  refine ⟨rfl, ⟨h.sound.contacts, hsound, h.sound.policies⟩, h.contacts, h.policies, ?_, ?_, ?_⟩
  · intro other hother
    rcases List.mem_append.mp hother with hmem | hmem
    · have hne : other.id ≠ remote.id := fun heq => hnew (heq ▸ List.mem_map_of_mem hmem)
      rw [(hframe other.id hne).2]
      exact h.stored other hmem
    · rw [List.mem_singleton.mp hmem, ← hcard, ← hid]
      exact hstored
  · intro other hother
    rcases List.mem_append.mp hother with hmem | hmem
    · have hne : other.id ≠ remote.id := fun heq => hnew (heq ▸ List.mem_map_of_mem hmem)
      rw [(hframe other.id hne).1]
      exact h.live other hmem
    · rw [List.mem_singleton.mp hmem]
      refine ⟨(group.save .same).1, ?_, hsavedActive, fun id => ?_⟩
      · rw [hlive, ← hid, ← hsavedId, Collection.get_set_self]
      · rw [hsavedContacts]
        exact hmembers id
  · intro id hnot
    rw [List.map_append, List.mem_append, not_or] at hnot
    obtain ⟨hlive', hstored'⟩ := hframe id fun heq => hnot.2 (by simp [heq])
    obtain ⟨hlive'', hstored''⟩ := h.rest id hnot.1
    exact ⟨hlive'.trans hlive'', hstored'.trans hstored''⟩

/-- **All remote groups.** -/
theorem reloadGroups_done (order : HashOrder String) (h : manager.Sound extensions)
    {remote : Account.Xcap.Addressbook}
    (hmembers : ∀ group ∈ remote.groups.items, ∀ id ∈ group.contacts.ids,
      ∃ contact, manager.member id = some contact ∧ contact.id = id)
    (hgroups : ∀ group ∈ remote.groups.items,
      (manager.groups.live.get group.id).all Group.active = true ∧
        extensions.group.takes ((manager.groups.live.get group.id).map (·.attributes))
          group.attributes = true) :
    (forEach (reloadGroup extensions order) remote.groups.items manager).2 = none ∧
      GroupsDone extensions manager remote.groups.items
        (forEach (reloadGroup extensions order) remote.groups.items manager).1 := by
  refine Loops.forEach_completes (GroupsDone extensions manager)
    (fun done group rest other hitems hdone => ?_)
    ⟨h, rfl, rfl, by simp, by simp, fun _ _ => ⟨rfl, rfl⟩⟩
  have hmem : group ∈ remote.groups.items := hitems ▸ List.mem_append_right _ List.mem_cons_self
  have hnew : group.id ∉ done.map Account.Xcap.Group.id := by
    have hdistinct := remote.groups.distinct
    rw [KeyedList.Distinct, ← hitems, List.map_append, List.map_cons] at hdistinct
    exact fun hin => (List.nodup_append.mp hdistinct).2.2 _ hin _ List.mem_cons_self rfl
  obtain ⟨hlive, _⟩ := hdone.rest group.id hnew
  refine hdone.next hnew ⟨?_, ?_, fun id hid => ?_⟩
  · rw [hlive]
    exact (hgroups group hmem).1
  · rw [hlive]
    exact (hgroups group hmem).2
  · rw [member, hdone.contacts]
    exact hmembers group hmem id hid

end Manager

/-! ### Policies -/

def completePolicy (extensions : Extensions) (policy : Account.Xcap.Policy) : Account.Xcap.Policy :=
  { policy with attributes := extensions.policy.complete policy.attributes }

namespace Manager

variable {extensions : Extensions} {order : HashOrder String} {manager : Manager}

theorem reloadPolicy_takes (order : HashOrder String) (h : manager.Sound extensions)
    {remote : Account.Xcap.Policy}
    (hsaved : (manager.policies.live.get remote.id).all Policy.active = true)
    (hattributes : extensions.policy.takes
      ((manager.policies.live.get remote.id).map (·.attributes)) remote.attributes = true) :
    ∃ policy : Policy, manager.reloadPolicy extensions order remote =
        ({ manager with policies := savePolicy manager.policies policy }, none) ∧
      policy.id = remote.id ∧ policy.Shaped extensions ∧
      manager.policies.InStep Policy.active Policy.Synced policy ∧
      policy.toxcap = completePolicy extensions remote := by
  obtain ⟨policy, hpolicy, hattributes, -⟩ :=
    SharedTypes.takes_obtain Policy.active (.new extensions.policy) (fun _ => rfl) hsaved hattributes
  obtain ⟨hkey, hshaped, hstep⟩ := h.policies.obtain (fun _ => rfl)
    (Policy.shaped_new extensions) (fun _ => rfl) hpolicy
  obtain ⟨attributes, hset, hvalues, hfits, hold⟩ :=
    extensions.policy.setAll_completes order hshaped.attributes hattributes
  refine ⟨{ policy with
    uri := policy.uri.set remote.uri
    name := policy.name.set remote.name
    presence := policy.presence.assign remote.presence
    dialog := policy.dialog.assign remote.dialog
    attributes := attributes }, ?_, hkey, { hshaped with attributes := hfits },
    hstep.edit rfl rfl fun old hsynced =>
      { hsynced with attributes := hsynced.attributes.trans hold.symm }, ?_⟩
  · rw [reloadPolicy, hpolicy]
    dsimp only
    rw [hset]
  · rw [completePolicy, ← hvalues]
    simp only [Policy.toxcap, hkey, Setting.set, EventSettings.toxcap, EventSettings.assign]

/-- After the remote policies that are done. -/
structure PoliciesDone (extensions : Extensions) (start : Manager) (done : List Account.Xcap.Policy)
    (manager : Manager) : Prop where
  sound : manager.Sound extensions
  contacts : manager.contacts = start.contacts
  groups : manager.groups = start.groups
  stored : ∀ policy ∈ done,
    manager.policies.stored.get policy.id = some (completePolicy extensions policy)
  rest : ∀ id ∉ done.map Account.Xcap.Policy.id,
    manager.policies.live.get id = start.policies.live.get id ∧
      manager.policies.stored.get id = start.policies.stored.get id

theorem PoliciesDone.next {start : Manager} {done : List Account.Xcap.Policy}
    {remote : Account.Xcap.Policy} (h : PoliciesDone extensions start done manager)
    (hnew : remote.id ∉ done.map Account.Xcap.Policy.id)
    (hsaved : (manager.policies.live.get remote.id).all Policy.active = true)
    (hattributes : extensions.policy.takes
      ((manager.policies.live.get remote.id).map (·.attributes)) remote.attributes = true) :
    (manager.reloadPolicy extensions order remote).2 = none ∧
      PoliciesDone extensions start (done ++ [remote])
        (manager.reloadPolicy extensions order remote).1 := by
  obtain ⟨policy, hreload, hid, hshaped, hstep, htoxcap⟩ :=
    reloadPolicy_takes order h.sound hsaved hattributes
  obtain ⟨hsound, hstored⟩ := sound_savePolicy h.sound.policies hshaped hstep
  rw [Option.map_id, id, htoxcap, hid] at hstored
  have hsavedId : policy.save.1.id = policy.id := by
    rcases Policy.save_cases hshaped.state with hsaved | ⟨hsaved, _, _⟩ <;>
      exact (congrArg Policy.id hsaved).trans rfl
  have hframe : ∀ id ≠ remote.id,
      (savePolicy manager.policies policy).live.get id = manager.policies.live.get id ∧
        (savePolicy manager.policies policy).stored.get id = manager.policies.stored.get id := by
    intro id hne
    rw [← hid] at hne
    refine ⟨?_, LiveStore.stored_saveIf_of_ne hne⟩
    have hlive : (savePolicy manager.policies policy).live =
        manager.policies.live.set policy.save.1 := LiveStore.live_saveIf _ _ _
    rw [hlive, Collection.get_set_of_ne]
    rwa [hsavedId]
  rw [hreload]
  refine ⟨rfl, ⟨h.sound.contacts, h.sound.groups, hsound⟩, h.contacts, h.groups, ?_, ?_⟩
  · intro other hother
    rcases List.mem_append.mp hother with hmem | hmem
    · have hne : other.id ≠ remote.id := fun heq => hnew (heq ▸ List.mem_map_of_mem hmem)
      rw [(hframe other.id hne).2]
      exact h.stored other hmem
    · rw [List.mem_singleton.mp hmem]
      exact hstored
  · intro id hnot
    rw [List.map_append, List.mem_append, not_or] at hnot
    obtain ⟨hlive', hstored'⟩ := hframe id fun heq => hnot.2 (by simp [heq])
    obtain ⟨hlive'', hstored''⟩ := h.rest id hnot.1
    exact ⟨hlive'.trans hlive'', hstored'.trans hstored''⟩

/-- **All remote policies.** -/
theorem reloadPolicies_done (order : HashOrder String) (h : manager.Sound extensions)
    {remote : Account.Xcap.Addressbook}
    (hpolicies : ∀ policy ∈ remote.policies.items,
      (manager.policies.live.get policy.id).all Policy.active = true ∧
        extensions.policy.takes ((manager.policies.live.get policy.id).map (·.attributes))
          policy.attributes = true) :
    (forEach (reloadPolicy extensions order) remote.policies.items manager).2 = none ∧
      PoliciesDone extensions manager remote.policies.items
        (forEach (reloadPolicy extensions order) remote.policies.items manager).1 := by
  refine Loops.forEach_completes (PoliciesDone extensions manager)
    (fun done policy rest other hitems hdone => ?_)
    ⟨h, rfl, rfl, by simp, fun _ _ => ⟨rfl, rfl⟩⟩
  have hmem : policy ∈ remote.policies.items := hitems ▸ List.mem_append_right _ List.mem_cons_self
  have hnew : policy.id ∉ done.map Account.Xcap.Policy.id := by
    have hdistinct := remote.policies.distinct
    rw [KeyedList.Distinct, ← hitems, List.map_append, List.map_cons] at hdistinct
    exact fun hin => (List.nodup_append.mp hdistinct).2.2 _ hin _ List.mem_cons_self rfl
  obtain ⟨hlive, _⟩ := hdone.rest policy.id hnew
  exact hdone.next hnew (hlive ▸ (hpolicies policy hmem).1) (hlive ▸ (hpolicies policy hmem).2)

end Manager

end SipSimple.AddressBook
