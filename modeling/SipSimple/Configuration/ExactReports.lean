import SipSimple.Configuration.ModifiedReports

/-!
# `get_modified` is an exact difference

In every run the flags of the settings and the IDs that the collections keep are right for the snapshot of
the last call. So what is reported is the difference to it, an object reports nothing exactly if it is as
it was then, and an undo gives the value of then.
-/

namespace SipSimple.Configuration

open SortedDict (lookup)

variable {V : Type} [DecidableEq V]

/-! ### An object and its last snapshot -/

/-- The flags and the IDs that an object keeps are right for the snapshot. An item that was not in it has
one of its own. -/
inductive Tracks : Snapshot V → Member V → Prop
  | setting {type : SettingType V} {own : Setting V} {old : Option (Option (Value V))}
      (hold : own.old = old) (hdirty : own.dirty = decide (own.value ≠ old)) :
      Tracks (.setting type old) (.setting type own)
  | group {saved : Snapshots V} {members : Members V}
      (hnames : saved.map Prod.fst = members.map Prod.fst)
      (hdistinct : (members.map Prod.fst).Nodup)
      (hmembers : ∀ name before member, lookup name saved = some before →
        lookup name members = some member → Tracks before member) :
      Tracks (.group saved) (.group members)
  | collection {saved savedItems : Snapshots V} {members : Members V} {item : Member V}
      {items : Members V} {present old : List Unicode} (own : Unicode → Snapshot V)
      (hnames : saved.map Prod.fst = members.map Prod.fst)
      (hdistinct : (members.map Prod.fst).Nodup)
      (hmembers : ∀ name before member, lookup name saved = some before →
        lookup name members = some member → Tracks before member)
      (hids : savedItems.map Prod.fst = old)
      (hpresent : ∀ id ∈ present, id ∈ items.map Prod.fst)
      (hold : ∀ id ∈ old, id ∈ items.map Prod.fst)
      (hitems : ∀ id member, lookup id items = some member → Tracks (own id) member)
      (hown : ∀ id before, lookup id savedItems = some before → before = own id)
      (hoverlap : ∀ id ∈ items.map Prod.fst, id ∉ members.map Prod.fst) :
      Tracks (.collection saved savedItems) (.collection members item items present old)

/-- There is a member for what was saved. -/
theorem lookup_of_names {α β : Type} {left : List (Unicode × α)} {right : List (Unicode × β)}
    (hnames : left.map Prod.fst = right.map Prod.fst) {name : Unicode} {item : α}
    (hitem : lookup name left = some item) : ∃ other, lookup name right = some other := by
  rw [← Option.isSome_iff_exists, SortedDict.isSome_lookup, ← hnames, ← SortedDict.isSome_lookup,
    hitem]
  rfl

/-- **`get_modified` reports the difference.** -/
theorem Tracks.report_eq {saved : Snapshot V} {now : Member V} (h : Tracks saved now) :
    now.report = saved.diff now.snapshot := by
  have hstatic : ∀ {saved : Snapshots V} {members : Members V},
      saved.map Prod.fst = members.map Prod.fst → (members.map Prod.fst).Nodup →
      (∀ name before member, lookup name saved = some before → lookup name members = some member →
        member.report = before.diff member.snapshot) →
      membersReport members = membersDiff saved (membersSnapshot members) := by
    intro saved members hnames hdistinct ih
    rw [membersReport_eq, membersDiff_eq, membersSnapshot_eq, List.flatMap_map]
    refine List.flatMap_congr fun member hmember => ?_
    have hlookup := SortedDict.lookup_of_mem hdistinct hmember
    obtain ⟨before, hbefore⟩ := lookup_of_names hnames.symm hlookup
    rw [memberDiff, hbefore]
    exact congrArg (entriesOf member.1) (ih member.1 before member.2 hbefore hlookup)
  induction h with
  | @setting type own old hold hdirty =>
      rw [Member.report, Setting.report, Member.snapshot, Snapshot.diff, hdirty, hold]
      by_cases hsame : own.value = old
      · simp [hsame]
      · simp [hsame, Ne.symm hsame]
  | group hnames hdistinct hmembers ih =>
      rw [Member.report, Member.snapshot, Snapshot.diff, hstatic hnames hdistinct ih]
  | @collection saved savedItems members item items present old own hnames hdistinct hmembers hids
      hpresent hold hitems hown hoverlap ih ihItems =>
      have hnow : ∀ ids : List Unicode, (∀ id ∈ ids, id ∈ items.map Prod.fst) →
          pick (ids.filter (· ∈ old)) (itemReports items) =
            itemsDiff savedItems (pick ids (membersSnapshot items)) := by
        intro ids hin
        rw [itemsDiff_eq]
        induction ids with
        | nil => rfl
        | cons id ids ihIds =>
            have htail := ihIds fun other hother => hin other (List.mem_cons_of_mem id hother)
            have hid := SortedDict.isSome_lookup.mpr (hin id List.mem_cons_self)
            obtain ⟨member, hmember⟩ := Option.isSome_iff_exists.mp hid
            have hpick : pick (id :: ids) (membersSnapshot items) =
                (id, member.snapshot) :: pick ids (membersSnapshot items) := by
              rw [pick, List.filterMap_cons, lookup_membersSnapshot, hmember]
              rfl
            rw [hpick, List.filterMap_cons, ← htail, itemDiff]
            by_cases hsaved : id ∈ old
            · have hsome := SortedDict.isSome_lookup.mpr (hids ▸ hsaved)
              obtain ⟨before, hbefore⟩ := Option.isSome_iff_exists.mp hsome
              have hreport := ihItems id member hmember
              rw [← hown id before hbefore] at hreport
              rw [List.filter_cons_of_pos (by simpa using hsaved), pick, List.filterMap_cons,
                lookup_itemReports, hmember, hbefore]
              simp only [Option.map_some, hreport]
              rfl
            · have hnone : lookup id savedItems = none :=
                SortedDict.lookup_eq_none.mpr (hids ▸ hsaved)
              rw [List.filter_cons_of_neg (by simpa using hsaved), hnone]
      have hkeys : (pick present (membersSnapshot items)).map Prod.fst = present :=
        map_fst_pick (by rwa [map_fst_membersSnapshot])
      rw [Member.report, Member.snapshot, Snapshot.diff, hkeys, hids,
        hstatic hnames hdistinct ih, hnow present hpresent]

/-! ### What keeps track of the snapshot -/

/-- **After `get_modified` an object keeps what it is.** -/
theorem Tracks.sync {saved : Snapshot V} {now : Member V} (h : Tracks saved now) :
    Tracks now.snapshot now.sync := by
  have hstatic : ∀ {saved : Snapshots V} {members : Members V},
      saved.map Prod.fst = members.map Prod.fst →
      (∀ name before member, lookup name saved = some before → lookup name members = some member →
        Tracks member.snapshot member.sync) →
      ∀ name before member, lookup name (membersSnapshot members) = some before →
        lookup name (membersSync members) = some member → Tracks before member := by
    intro saved members hnames ih name before member hbefore hmember
    rw [lookup_membersSnapshot] at hbefore
    rw [lookup_membersSync] at hmember
    obtain ⟨now, hnow, rfl⟩ := Option.map_eq_some_iff.mp hmember
    obtain ⟨first, hfirst⟩ := lookup_of_names hnames.symm hnow
    rw [hnow, Option.map_some] at hbefore
    exact Option.some.inj hbefore ▸ ih name first now hfirst hnow
  induction h with
  | @setting type own old hold hdirty =>
      rw [Member.snapshot, Member.sync]
      exact .setting rfl (by simp [Setting.sync])
  | @group saved members hnames hdistinct hmembers ih =>
      rw [Member.snapshot, Member.sync]
      refine .group ?_ ?_ (hstatic hnames ih)
      · rw [map_fst_membersSnapshot, map_fst_membersSync]
      · rwa [map_fst_membersSync]
  | @collection saved savedItems members item items present old own hnames hdistinct hmembers hids
      hpresent hold hitems hown hoverlap ih ihItems =>
      have hkeys : (pick present (membersSnapshot items)).map Prod.fst = present :=
        map_fst_pick (by rwa [map_fst_membersSnapshot])
      have hkept : ∀ id ∈ present,
          id ∈ ((membersSync items).filter fun item => item.1 ∈ present).map Prod.fst := by
        intro id hid
        rw [← SortedDict.isSome_lookup, lookup_sync_items, if_pos hid, Option.isSome_map,
          SortedDict.isSome_lookup]
        exact hpresent id hid
      rw [Member.snapshot, Member.sync]
      refine .collection (fun id => (lookup id items).elim (own id) Member.snapshot) ?_ ?_
        (hstatic hnames ih) hkeys hkept hkept (fun id member hmember => ?_)
        (fun id before hbefore => ?_) (fun id hid => ?_)
      · rw [map_fst_membersSnapshot, map_fst_membersSync]
      · rwa [map_fst_membersSync]
      · rw [lookup_sync_items] at hmember
        split_ifs at hmember
        obtain ⟨now, hnow, rfl⟩ := Option.map_eq_some_iff.mp hmember
        simpa only [hnow, Option.elim_some] using ihItems id now hnow
      · rw [lookup_pick, lookup_membersSnapshot] at hbefore
        split_ifs at hbefore
        obtain ⟨now, hnow, rfl⟩ := Option.map_eq_some_iff.mp hbefore
        simp only [hnow, Option.elim_some]
      · rw [map_fst_membersSync]
        obtain ⟨item, hitem, rfl⟩ := List.mem_map.mp hid
        refine hoverlap item.1 ?_
        rw [← map_fst_membersSync]
        exact List.mem_map_of_mem (List.mem_of_mem_filter hitem)

/-- What is done to a part of an object keeps track if it does of the part. -/
theorem Tracks.changeAt {f : Member V → Member V}
    (hf : ∀ {saved : Snapshot V} {now : Member V}, Tracks saved now → Tracks saved (f now))
    {saved : Snapshot V} {now : Member V} (h : Tracks saved now) (path : List Unicode) :
    Tracks saved (now.changeAt f path) := by
  induction path generalizing saved now with
  | nil => exact hf h
  | cons name path ih =>
      have hbelow : ∀ {saved : Snapshots V} {members : Members V},
          (∀ name before member, lookup name saved = some before →
            lookup name members = some member → Tracks before member) →
          ∀ other before member, lookup other saved = some before →
            lookup other (modifyMember name (Member.changeAt f path) members) = some member →
              Tracks before member := by
        intro saved members hmembers other before member hbefore hmember
        rw [lookup_modifyMember] at hmember
        split_ifs at hmember
        · obtain ⟨now, hnow, rfl⟩ := Option.map_eq_some_iff.mp hmember
          exact ih (hmembers other before now hbefore hnow)
        · exact hmembers other before member hbefore hmember
      cases h with
      | setting hold hdirty => exact .setting hold hdirty
      | group hnames hdistinct hmembers =>
          rw [Member.changeAt]
          refine .group ?_ ?_ (hbelow hmembers)
          · rwa [map_fst_modifyMember]
          · rwa [map_fst_modifyMember]
      | collection own hnames hdistinct hmembers hids hpresent hold hitems hown hoverlap =>
          rw [Member.changeAt]
          split_ifs with hin
          · refine .collection own ?_ ?_ (hbelow hmembers) hids hpresent hold hitems hown ?_
            · rwa [map_fst_modifyMember]
            · rwa [map_fst_modifyMember]
            · rwa [map_fst_modifyMember]
          · refine .collection own hnames hdistinct hmembers hids ?_ ?_ (fun id member hmember => ?_) hown ?_
            · rwa [map_fst_modifyMember]
            · rwa [map_fst_modifyMember]
            · rw [lookup_modifyMember] at hmember
              split_ifs at hmember
              · obtain ⟨now, hnow, rfl⟩ := Option.map_eq_some_iff.mp hmember
                exact ih (hitems id now hnow)
              · exact hitems id member hmember
            · rwa [map_fst_modifyMember]

theorem Tracks.edit {saved : Snapshot V} {now : Member V} (h : Tracks saved now) {change : Edit V}
    (hchange : ∀ id state, change ≠ .addItem id state) : Tracks saved (now.edit change) := by
  cases h with
  | @setting type own old hold hdirty =>
      cases change with
      | reset =>
          refine .setting (own.old_reset.trans hold) ?_
          rw [Setting.reset]
          split_ifs with hsome
          · cases old <;> simp [hold]
          · exact hdirty
      | set value =>
          refine .setting ((own.old_set type value).trans hold) ?_
          rw [Setting.set]
          split_ifs
          · exact hdirty
          · simp only [hold, ne_comm]
          · exact hdirty
      | undo => exact .setting hold (by simp [Setting.undo, hold])
      | addItem id state => exact absurd rfl (hchange id state)
      | removeItem id => exact .setting hold hdirty
  | group hnames hdistinct hmembers => cases change <;> exact .group hnames hdistinct hmembers
  | collection own hnames hdistinct hmembers hids hpresent hold hitems hown hoverlap =>
      cases change with
      | reset | set value | undo =>
          exact .collection own hnames hdistinct hmembers hids hpresent hold hitems hown hoverlap
      | addItem id state => exact absurd rfl (hchange id state)
      | removeItem id =>
          exact .collection own hnames hdistinct hmembers hids
            (fun other hother => hpresent other (List.mem_of_mem_filter hother)) hold hitems hown hoverlap

theorem Tracks.add {saved savedItem : Snapshot V} {now item : Member V} (h : Tracks saved now)
    (hitem : Tracks savedItem item) (id : Unicode) : Tracks saved (Member.add id item now) := by
  cases h with
  | setting hold hdirty => exact .setting hold hdirty
  | group hnames hdistinct hmembers => exact .group hnames hdistinct hmembers
  | @collection saved savedItems members cls items present old own hnames hdistinct hmembers hids
      hpresent hold hitems hown hoverlap =>
      rw [Member.add]
      split_ifs with hused
      · exact .collection own hnames hdistinct hmembers hids hpresent hold hitems hown hoverlap
      · obtain ⟨hname, _⟩ := not_or.mp hused
        have hkeys : ∀ other, other ∈ (addItem id item items old).map Prod.fst ↔
            other = id ∨ other ∈ items.map Prod.fst := fun other => map_fst_addItem hold
        refine .collection (fun other => if id ∉ old ∧ other = id then savedItem else own other)
          hnames hdistinct hmembers hids (fun other hother => (hkeys other).mpr ?_)
          (fun other hother => (hkeys other).mpr (Or.inr (hold other hother)))
          (fun other member hmember => ?_) (fun other before hbefore => ?_) (fun other hother => ?_)
        · exact (List.mem_cons.mp hother).imp_right (hpresent other)
        · rw [lookup_addItem] at hmember
          split_ifs at hmember with hnew
          · simp only [if_pos hnew]
            exact Option.some.inj hmember ▸ hitem
          · simp only [if_neg hnew]
            exact hitems other member hmember
        · have hother : other ∈ old := by
            rw [← hids, ← SortedDict.isSome_lookup, hbefore]
            rfl
          have hkept : ¬(id ∉ old ∧ other = id) := fun ⟨hnot, heq⟩ => hnot (heq ▸ hother)
          simp only [if_neg hkept]
          exact hown other before hbefore
        · rcases (hkeys other).mp hother with rfl | hother
          · exact hname
          · exact hoverlap other hother

theorem Tracks.assign {saved : Snapshot V} {now : Member V} (h : Tracks saved now)
    {items : Members V} {savedItems : Unicode → Snapshot V}
    (hnew : ∀ item ∈ items, Tracks (savedItems item.1) item.2) : Tracks saved (now.assign items) := by
  cases h with
  | setting hold hdirty => exact .setting hold hdirty
  | group hnames hdistinct hmembers => exact .group hnames hdistinct hmembers
  | collection own hnames hdistinct hmembers hids hpresent hold hitems hown hoverlap =>
      rw [Member.assign]
      split_ifs
      · exact .collection own hnames hdistinct hmembers hids hpresent hold hitems hown hoverlap
      · have hadd : ∀ (items : Members V) {saved : Snapshot V} (now : Member V), Tracks saved now →
            (∀ item ∈ items, Tracks (savedItems item.1) item.2) →
              Tracks saved (items.foldl (fun after other => Member.add other.1 other.2 after) now) := by
          intro items
          induction items with
          | nil => exact fun now h _ => h
          | cons item items ih =>
              intro saved now h hnew
              exact ih _ (h.add (hnew item List.mem_cons_self) item.1)
                fun other hother => hnew other (List.mem_cons_of_mem item hother)
        exact hadd items _ (.collection own hnames hdistinct hmembers hids nofun hold hitems hown hoverlap)
          hnew

/-- **A call of `get_modified` for a part of an object saves this part.** -/
theorem Tracks.saveAt {saved : Snapshot V} {now : Member V} (h : Tracks saved now)
    (path : List Unicode) : Tracks (now.saveAt path saved) (now.changeAt Member.sync path) := by
  induction path generalizing saved now with
  | nil => exact h.sync
  | cons name path ih =>
      have hbelow : ∀ {saved : Snapshots V} {members : Members V},
          (∀ name before member, lookup name saved = some before →
            lookup name members = some member → Tracks before member) →
          ∀ other before member,
            lookup other (saveMember name (Member.saveAt path) members saved) = some before →
            lookup other (modifyMember name (Member.changeAt Member.sync path) members) =
              some member → Tracks before member := by
        intro saved members hmembers other after member hafter hmember
        rw [lookup_saveMember] at hafter
        rw [lookup_modifyMember] at hmember
        obtain ⟨before, hbefore, rfl⟩ := Option.map_eq_some_iff.mp hafter
        by_cases hname : other = name
        · rw [if_pos hname] at hmember ⊢
          obtain ⟨now, hnow, rfl⟩ := Option.map_eq_some_iff.mp hmember
          rw [hnow, Option.elim_some]
          exact ih (hmembers other before now hbefore hnow)
        · rw [if_neg hname] at hmember ⊢
          exact hmembers other before member hbefore hmember
      cases h with
      | setting hold hdirty => exact .setting hold hdirty
      | group hnames hdistinct hmembers =>
          rw [Member.changeAt, Member.saveAt]
          refine .group ?_ ?_ (hbelow hmembers)
          · rwa [map_fst_modifyMember, map_fst_saveMember]
          · rwa [map_fst_modifyMember]
      | @collection saved savedItems members cls items present old own hnames hdistinct hmembers
          hids hpresent hold hitems hown hoverlap =>
          rw [Member.changeAt, Member.saveAt]
          split_ifs with hin
          · refine .collection own ?_ ?_ (hbelow hmembers) hids hpresent hold hitems hown ?_
            · rwa [map_fst_modifyMember, map_fst_saveMember]
            · rwa [map_fst_modifyMember]
            · rwa [map_fst_modifyMember]
          · refine .collection (fun id => if id = name then
                (lookup id items).elim (own id) fun member => member.saveAt path (own id)
              else own id) hnames hdistinct hmembers ?_ ?_ ?_ (fun id member hmember => ?_)
              (fun id after hafter => ?_) ?_
            · rwa [map_fst_saveMember]
            · rwa [map_fst_modifyMember]
            · rwa [map_fst_modifyMember]
            · rw [lookup_modifyMember] at hmember
              split_ifs at hmember with hname
              · obtain ⟨now, hnow, rfl⟩ := Option.map_eq_some_iff.mp hmember
                simp only [if_pos hname, hnow, Option.elim_some]
                exact ih (hitems id now hnow)
              · simp only [if_neg hname]
                exact hitems id member hmember
            · rw [lookup_saveMember] at hafter
              obtain ⟨before, hbefore, rfl⟩ := Option.map_eq_some_iff.mp hafter
              rw [hown id before hbefore]
            · rwa [map_fst_modifyMember]

/-- A new object, or one that was loaded, has the values of its last save. -/
theorem Tracks.load {first member : Member V} (h : Instance first member) {data : Option Data}
    (hordered : Ordered data) : Tracks (first.load data).snapshot (first.load data) := by
  have hstatic : ∀ {cls : Members V} {items : Items},
      (∀ name first, lookup name cls = some first →
        Tracks (first.load (lookup name items)).snapshot (first.load (lookup name items))) →
      ∀ name before member, lookup name (membersSnapshot (membersSetstate items cls)) = some before →
        lookup name (membersSetstate items cls) = some member → Tracks before member := by
    intro cls items ih name before member hbefore hmember
    rw [lookup_membersSnapshot, hmember, Option.map_some] at hbefore
    rw [lookup_membersSetstate] at hmember
    obtain ⟨first, hfirst, rfl⟩ := Option.map_eq_some_iff.mp hmember
    exact Option.some.inj hbefore ▸ ih name first hfirst
  induction h generalizing data with
  | @setting type own hvalid =>
      rw [load_setting]
      cases data.bind type.read with
      | none => exact .setting rfl rfl
      | some value => exact .setting rfl (by simp)
  | @group cls members hnames hdistinct hmembers ih =>
      rw [load_group, Member.snapshot]
      refine .group (map_fst_membersSnapshot _) ?_ (hstatic fun name first hfirst => ?_)
      · rwa [map_fst_membersSetstate]
      · obtain ⟨member, hmember⟩ := lookup_isSome_congr hnames.symm hfirst
        exact ih name first member hfirst hmember (hordered.lookup name)
  | @collection cls members item items present old hnames hdistinct hmembers hitem hids hitems
      hpresent hold hoverlap ih ihItem _ =>
      have hkeys : ((itemsOf cls data).map fun other => (other.1, item.setstate other.2)).map
          Prod.fst = (itemsOf cls data).map Prod.fst := by rw [List.map_map]; rfl
      rw [load_collection, Member.snapshot]
      refine .collection (fun id => ((lookup id (itemsOf cls data)).elim item item.setstate).snapshot)
        (map_fst_membersSnapshot _) ?_ (hstatic fun name first hfirst => ?_) (map_fst_pick ?_)
        (fun id hid => hkeys ▸ hid) (fun id hid => hkeys ▸ hid) (fun id member hmember => ?_)
        (fun id before hbefore => ?_) (fun id hid => ?_)
      · rwa [map_fst_membersSetstate]
      · obtain ⟨member, hmember⟩ := lookup_isSome_congr hnames.symm hfirst
        exact ih name first member hfirst hmember (hordered.lookup name)
      · exact fun id hid => by rwa [map_fst_membersSnapshot, hkeys]
      · have hlookup := SortedDict.lookup_map (fun _ data => item.setstate data) id (itemsOf cls data)
        rw [hlookup] at hmember
        obtain ⟨stored, hstored, rfl⟩ := Option.map_eq_some_iff.mp hmember
        simp only [hstored, Option.elim_some]
        rw [lookup_itemsOf] at hstored
        split_ifs at hstored
        have hbelow : Ordered (some stored) := hstored ▸ hordered.lookup id
        exact ihItem hbelow
      · have hlookup := SortedDict.lookup_map (fun _ data => item.setstate data) id (itemsOf cls data)
        rw [lookup_pick, lookup_membersSnapshot, hlookup] at hbefore
        split_ifs at hbefore
        obtain ⟨member, hmember, rfl⟩ := Option.map_eq_some_iff.mp hbefore
        obtain ⟨stored, hstored, rfl⟩ := Option.map_eq_some_iff.mp hmember
        simp only [hstored, Option.elim_some]
      · rw [map_fst_membersSetstate]
        rw [hkeys, ← SortedDict.isSome_lookup, lookup_itemsOf] at hid
        split_ifs at hid with hmember
        · cases hid
        · exact hmember

/-- **In every run an object keeps track of what it was at the last call of `get_modified`.** -/
theorem Reached.tracks {saved : Snapshot V} {now : Member V} (h : Reached saved now) :
    Tracks saved now := by
  induction h with
  | start hclass hordered => exact .load hclass hordered
  | edit h path hchange ih => exact ih.changeAt (fun h => h.edit hchange) path
  | add h hitem path id ih ihItem => exact ih.changeAt (fun h => h.add ihItem id) path
  | assign h path hitems ih ihItems => exact ih.changeAt (fun h => h.assign ihItems) path
  | getModified h path ih => exact ih.saveAt path

/-! ### What an object that keeps track says -/

/-- What was saved is still found at its path. -/
theorem Tracks.at {saved : Snapshot V} {now : Member V} (h : Tracks saved now) {path : List Unicode}
    {before : Snapshot V} (hbefore : saved.at path = some before) :
    ∃ member, now.at path = some member ∧ Tracks before member := by
  induction path generalizing saved now with
  | nil =>
      rw [Snapshot.at] at hbefore
      exact ⟨now, rfl, Option.some.inj hbefore ▸ h⟩
  | cons name path ih =>
      cases h with
      | setting hold hdirty => cases hbefore
      | group hnames hdistinct hmembers =>
          rw [Snapshot.at] at hbefore
          rw [Member.at]
          split at hbefore
          · next first hfirst =>
              obtain ⟨member, hmember⟩ := lookup_of_names hnames hfirst
              rw [hmember]
              exact ih (hmembers name first member hfirst hmember) hbefore
          · cases hbefore
      | collection own hnames hdistinct hmembers hids hpresent hold hitems hown hoverlap =>
          rw [Snapshot.at] at hbefore
          rw [Member.at]
          split at hbefore
          · next first hfirst =>
              obtain ⟨member, hmember⟩ := lookup_of_names hnames hfirst
              rw [hmember]
              exact ih (hmembers name first member hfirst hmember) hbefore
          · next hnone =>
              have hmember := SortedDict.lookup_eq_none.mpr
                (hnames ▸ SortedDict.lookup_eq_none.mp hnone)
              rw [hmember]
              split at hbefore
              · next first hfirst =>
                  have hin : name ∈ _ := hold name (by
                    rw [← hids, ← SortedDict.isSome_lookup, hfirst]
                    rfl)
                  obtain ⟨item, hitem⟩ := Option.isSome_iff_exists.mp
                    (SortedDict.isSome_lookup.mpr hin)
                  rw [hitem]
                  have htracks := hitems name item hitem
                  rw [← hown name first hfirst] at htracks
                  exact ih htracks hbefore
              · cases hbefore

omit [DecidableEq V] in
theorem at_changeAt (f : Member V → Member V) {path : List Unicode} {now member : Member V}
    (h : now.at path = some member) : (now.changeAt f path).at path = some (f member) := by
  induction path generalizing now with
  | nil =>
      rw [Member.at] at h
      exact Option.some.inj h ▸ rfl
  | cons name path ih =>
      cases now with
      | setting type own => cases h
      | group members =>
          rw [Member.at] at h
          rw [Member.changeAt, Member.at, lookup_modifyMember, if_pos rfl]
          split at h
          · next first hfirst => rw [hfirst]; exact ih h
          · cases h
      | collection members item items present old =>
          rw [Member.at] at h
          rw [Member.changeAt]
          split at h
          · next first hfirst =>
              have hin : name ∈ members.map Prod.fst := by
                rw [← SortedDict.isSome_lookup, hfirst]
                rfl
              rw [if_pos hin, Member.at, lookup_modifyMember, if_pos rfl, hfirst]
              exact ih h
          · next hnone =>
              rw [if_neg (SortedDict.lookup_eq_none.mp hnone), Member.at, hnone, lookup_modifyMember,
                if_pos rfl]
              split at h
              · next first hfirst => rw [hfirst]; exact ih h
              · cases h

/-! ### When nothing is reported -/

section Same

omit [DecidableEq V] in
theorem Snapshot.at_group (members : Snapshots V) (name : Unicode) (path : List Unicode) :
    (Snapshot.group members).at (name :: path) = (lookup name members).bind (·.at path) := by
  rw [Snapshot.at]
  cases lookup name members <;> rfl

omit [DecidableEq V] in
theorem Snapshot.at_collection (members items : Snapshots V) (name : Unicode) (path : List Unicode) :
    (Snapshot.collection members items).at (name :: path) =
      (lookup name members).elim ((lookup name items).bind (·.at path)) (·.at path) := by
  rw [Snapshot.at]
  cases lookup name members with
  | some member => rfl
  | none => cases lookup name items <;> rfl

omit [DecidableEq V] in
theorem lookup_none_of_names {α β : Type} {left : List (Unicode × α)} {right : List (Unicode × β)}
    (hnames : left.map Prod.fst = right.map Prod.fst) {name : Unicode}
    (hnone : lookup name left = none) : lookup name right = none :=
  SortedDict.lookup_eq_none.mpr (hnames ▸ SortedDict.lookup_eq_none.mp hnone)

omit [DecidableEq V] in
theorem same_group {saved now : Snapshots V} (hnames : saved.map Prod.fst = now.map Prod.fst) :
    (Snapshot.group saved).Same (.group now) ↔
      ∀ name before after, lookup name saved = some before → lookup name now = some after →
        before.Same after := by
  refine ⟨fun h name before after hbefore hafter path => ?_, fun h path => ?_⟩
  · have hpath := h (name :: path)
    rwa [Snapshot.valueAt, Snapshot.valueAt, Snapshot.idsAt, Snapshot.idsAt, Snapshot.at_group,
      Snapshot.at_group, hbefore, hafter] at hpath
  · cases path with
    | nil => exact ⟨rfl, fun id => Iff.rfl⟩
    | cons name path =>
        rw [Snapshot.valueAt, Snapshot.valueAt, Snapshot.idsAt, Snapshot.idsAt, Snapshot.at_group,
          Snapshot.at_group]
        cases hbefore : lookup name saved with
        | none =>
            rw [lookup_none_of_names hnames hbefore]
            exact ⟨rfl, fun id => Iff.rfl⟩
        | some before =>
            obtain ⟨after, hafter⟩ := lookup_of_names hnames hbefore
            rw [hafter]
            exact h name before after hbefore hafter path

omit [DecidableEq V] in
theorem same_collection {saved now savedItems nowItems : Snapshots V}
    (hnames : saved.map Prod.fst = now.map Prod.fst)
    (hoverlap : ∀ id ∈ nowItems.map Prod.fst, id ∉ now.map Prod.fst) :
    (Snapshot.collection saved savedItems).Same (.collection now nowItems) ↔
      (∀ name before after, lookup name saved = some before → lookup name now = some after →
        before.Same after) ∧
      (∀ id, id ∈ savedItems.map Prod.fst ↔ id ∈ nowItems.map Prod.fst) ∧
      ∀ id before after, lookup id savedItems = some before → lookup id nowItems = some after →
        before.Same after := by
  constructor
  · intro h
    refine ⟨fun name before after hbefore hafter path => ?_, (h []).2,
      fun id before after hbefore hafter path => ?_⟩
    · have hpath := h (name :: path)
      rwa [Snapshot.valueAt, Snapshot.valueAt, Snapshot.idsAt, Snapshot.idsAt,
        Snapshot.at_collection, Snapshot.at_collection, hbefore, hafter] at hpath
    · have hnone : lookup id now = none := by
        refine SortedDict.lookup_eq_none.mpr (hoverlap id ?_)
        rw [← SortedDict.isSome_lookup, hafter]
        rfl
      have hpath := h (id :: path)
      rwa [Snapshot.valueAt, Snapshot.valueAt, Snapshot.idsAt, Snapshot.idsAt,
        Snapshot.at_collection, Snapshot.at_collection, hnone,
        lookup_none_of_names hnames.symm hnone, hbefore, hafter] at hpath
  · intro ⟨hmembers, hids, hitems⟩ path
    cases path with
    | nil => exact ⟨rfl, hids⟩
    | cons name path =>
        rw [Snapshot.valueAt, Snapshot.valueAt, Snapshot.idsAt, Snapshot.idsAt,
          Snapshot.at_collection, Snapshot.at_collection]
        cases hbefore : lookup name saved with
        | some before =>
            obtain ⟨after, hafter⟩ := lookup_of_names hnames hbefore
            rw [hafter]
            exact hmembers name before after hbefore hafter path
        | none =>
            rw [lookup_none_of_names hnames hbefore]
            cases hitem : lookup name savedItems with
            | none =>
                have hnone : lookup name nowItems = none := SortedDict.lookup_eq_none.mpr fun hin =>
                  SortedDict.lookup_eq_none.mp hitem ((hids name).mpr hin)
                rw [hnone]
                exact ⟨rfl, fun id => Iff.rfl⟩
            | some before =>
                have hin : name ∈ nowItems.map Prod.fst := (hids name).mp (by
                  rw [← SortedDict.isSome_lookup, hitem]
                  rfl)
                obtain ⟨after, hafter⟩ := Option.isSome_iff_exists.mp
                  (SortedDict.isSome_lookup.mpr hin)
                rw [hafter]
                exact hitems name before after hitem hafter path

omit [DecidableEq V] in
theorem membersReport_eq_nil {members : Members V} (hdistinct : (members.map Prod.fst).Nodup) :
    membersReport members = [] ↔
      ∀ name member, lookup name members = some member → member.report = [] := by
  rw [membersReport_eq, List.flatMap_eq_nil_iff]
  refine ⟨fun h name member hmember => ?_, fun h member hmember => ?_⟩
  · exact List.map_eq_nil_iff.mp (h _ (SortedDict.mem_of_lookup hmember))
  · exact List.map_eq_nil_iff.mpr (h _ _ (SortedDict.lookup_of_mem hdistinct hmember))

omit [DecidableEq V] in
theorem itemMapReport_eq_nil (present old : List Unicode) (reports : List (Unicode × Report V)) :
    itemMapReport present old reports = [] ↔
      (∀ id, id ∈ old ↔ id ∈ present) ∧ ∀ report ∈ reports, report.2 = [] := by
  have hempty : itemMapReport present old reports = [] ↔ (∀ id ∈ present, id ∈ old) ∧
      (∀ id ∈ old, id ∈ present) ∧ ∀ report ∈ reports, report.2 = [] := by
    simp only [itemMapReport, ite_eq_left_iff, Bool.and_eq_true, List.isEmpty_iff,
      List.filter_eq_nil_iff, decide_eq_true_eq, not_not, Bool.not_eq_true', reduceCtorEq, imp_false,
      Bool.not_eq_false, and_assoc]
  rw [hempty]
  exact ⟨fun ⟨hadded, hremoved, hreports⟩ => ⟨fun id => ⟨hremoved id, hadded id⟩, hreports⟩,
    fun ⟨hsame, hreports⟩ => ⟨fun id => (hsame id).mpr, fun id => (hsame id).mp, hreports⟩⟩

theorem mem_pick {α : Type} {ids : List Unicode} {items : List (Unicode × α)} {item : Unicode × α} :
    item ∈ pick ids items ↔ item.1 ∈ ids ∧ lookup item.1 items = some item.2 := by
  rw [pick, List.mem_filterMap]
  constructor
  · rintro ⟨id, hid, hitem⟩
    obtain ⟨value, hvalue, rfl⟩ := Option.map_eq_some_iff.mp hitem
    exact ⟨hid, hvalue⟩
  · rintro ⟨hid, hitem⟩
    exact ⟨item.1, hid, by rw [hitem]; rfl⟩

end Same

/-- **Nothing is reported exactly if all is as it was.** -/
theorem Tracks.report_eq_nil {saved : Snapshot V} {now : Member V} (h : Tracks saved now) :
    now.report = [] ↔ saved.Same now.snapshot := by
  have hstatic : ∀ {saved : Snapshots V} {members : Members V},
      saved.map Prod.fst = members.map Prod.fst →
      (∀ name before member, lookup name saved = some before → lookup name members = some member →
        (member.report = [] ↔ before.Same member.snapshot)) →
      ((∀ name member, lookup name members = some member → member.report = []) ↔
        ∀ name before after, lookup name saved = some before →
          lookup name (membersSnapshot members) = some after → before.Same after) := by
    intro saved members hnames ih
    refine ⟨fun h name before after hbefore hafter => ?_, fun h name member hmember => ?_⟩
    · rw [lookup_membersSnapshot] at hafter
      obtain ⟨member, hmember, rfl⟩ := Option.map_eq_some_iff.mp hafter
      exact (ih name before member hbefore hmember).mp (h name member hmember)
    · obtain ⟨before, hbefore⟩ := lookup_of_names hnames.symm hmember
      refine (ih name before member hbefore hmember).mpr (h name before _ hbefore ?_)
      rw [lookup_membersSnapshot, hmember, Option.map_some]
  induction h with
  | @setting type own old hold hdirty =>
      rw [Member.report, Setting.report, hdirty, Member.snapshot]
      refine ⟨fun h path => ?_, fun h => ?_⟩
      · have hsame : own.value = old := by
          by_contra hne
          rw [decide_eq_true hne] at h
          cases h
        rw [hsame]
        exact ⟨rfl, fun id => Iff.rfl⟩
      · have hsame : old = own.value := (h []).1
        rw [← hsame, decide_eq_false (not_not.mpr rfl)]
        rfl
  | group hnames hdistinct hmembers ih =>
      rw [Member.report, membersReport_eq_nil hdistinct, Member.snapshot,
        same_group (hnames.trans (map_fst_membersSnapshot _).symm)]
      exact hstatic hnames ih
  | @collection saved savedItems members item items present old own hnames hdistinct hmembers hids
      hpresent hold hitems hown hoverlap ih ihItems =>
      have hkeys : (pick present (membersSnapshot items)).map Prod.fst = present :=
        map_fst_pick (by rwa [map_fst_membersSnapshot])
      have hover : ∀ id ∈ (pick present (membersSnapshot items)).map Prod.fst,
          id ∉ (membersSnapshot members).map Prod.fst := by
        rw [hkeys, map_fst_membersSnapshot]
        exact fun id hid => hoverlap id (hpresent id hid)
      rw [Member.report, List.append_eq_nil_iff, membersReport_eq_nil hdistinct,
        itemMapReport_eq_nil, Member.snapshot,
        same_collection (hnames.trans (map_fst_membersSnapshot _).symm) hover, hkeys, hids,
        hstatic hnames ih]
      refine and_congr_right fun _ => and_congr_right fun hsame => ⟨fun h => ?_, fun h => ?_⟩
      · intro id before after hbefore hafter
        rw [lookup_pick, lookup_membersSnapshot] at hafter
        split_ifs at hafter with hid
        obtain ⟨member, hmember, rfl⟩ := Option.map_eq_some_iff.mp hafter
        rw [hown id before hbefore]
        refine (ihItems id member hmember).mp (h (id, member.report) (mem_pick.mpr ⟨?_, ?_⟩))
        · exact List.mem_filter.mpr ⟨hid, decide_eq_true ((hsame id).mpr hid)⟩
        · rw [lookup_itemReports, hmember, Option.map_some]
      · intro report hreport
        obtain ⟨hin, hlookup⟩ := mem_pick.mp hreport
        obtain ⟨hid, hid'⟩ := List.mem_filter.mp hin
        rw [lookup_itemReports] at hlookup
        obtain ⟨member, hmember, heq⟩ := Option.map_eq_some_iff.mp hlookup
        have hsome := SortedDict.isSome_lookup.mpr (hids ▸ of_decide_eq_true hid')
        obtain ⟨before, hbefore⟩ := Option.isSome_iff_exists.mp hsome
        rw [← heq]
        refine (ihItems report.1 member hmember).mpr
          (hown report.1 before hbefore ▸ h report.1 before member.snapshot hbefore ?_)
        rw [lookup_pick, lookup_membersSnapshot, if_pos hid, hmember, Option.map_some]

theorem pick_congr {α : Type} {ids : List Unicode} {left right : List (Unicode × α)}
    (h : ∀ id ∈ ids, lookup id left = lookup id right) : pick ids left = pick ids right :=
  List.filterMap_congr fun id hid => congrArg (Option.map (Prod.mk id)) (h id hid)

/-- `get_modified` changes nothing but the flags and what is kept for them. -/
theorem Tracks.snapshot_sync {saved : Snapshot V} {now : Member V} (h : Tracks saved now) :
    now.sync.snapshot = now.snapshot := by
  have hstatic : ∀ {saved : Snapshots V} {members : Members V},
      saved.map Prod.fst = members.map Prod.fst → (members.map Prod.fst).Nodup →
      (∀ name before member, lookup name saved = some before → lookup name members = some member →
        member.sync.snapshot = member.snapshot) →
      membersSnapshot (membersSync members) = membersSnapshot members := by
    intro saved members hnames hdistinct ih
    rw [membersSync_eq, membersSnapshot_eq, membersSnapshot_eq, List.map_map]
    refine List.map_congr_left fun member hmember => ?_
    have hlookup := SortedDict.lookup_of_mem hdistinct hmember
    obtain ⟨before, hbefore⟩ := lookup_of_names hnames.symm hlookup
    exact congrArg (Prod.mk member.1) (ih member.1 before member.2 hbefore hlookup)
  induction h with
  | setting hold hdirty => rfl
  | group hnames hdistinct hmembers ih =>
      rw [Member.sync, Member.snapshot, Member.snapshot, hstatic hnames hdistinct ih]
  | @collection saved savedItems members item items present old own hnames hdistinct hmembers hids
      hpresent hold hitems hown hoverlap ih ihItems =>
      rw [Member.sync, Member.snapshot, Member.snapshot, hstatic hnames hdistinct ih]
      refine congrArg (Snapshot.collection _) (pick_congr fun id hid => ?_)
      rw [lookup_membersSnapshot, lookup_sync_items, if_pos hid, lookup_membersSnapshot]
      cases hitem : lookup id items with
      | none => rfl
      | some member => exact congrArg some (ihItems id member hitem)

omit [DecidableEq V] in
theorem Snapshot.same_refl (snapshot : Snapshot V) : snapshot.Same snapshot :=
  fun _ => ⟨rfl, fun _ => Iff.rfl⟩

/-- **Nothing is reported right after a call.** -/
theorem Tracks.report_sync {saved : Snapshot V} {now : Member V} (h : Tracks saved now) :
    now.sync.report = [] := by
  rw [h.sync.report_eq_nil, h.snapshot_sync]
  exact Snapshot.same_refl _

omit [DecidableEq V] in
/-- What `SettingsObject.save` takes for a modification is what is reported. -/
theorem isModified_iff {first now : Member V} (h : Instance first now) :
    now.isModified = true ↔ now.report ≠ [] := by
  have hstatic : ∀ {cls members : Members V}, members.map Prod.fst = cls.map Prod.fst →
      (members.map Prod.fst).Nodup →
      (∀ name first member, lookup name cls = some first → lookup name members = some member →
        (member.isModified = true ↔ member.report ≠ [])) →
      (membersModified members = false ↔ membersReport members = []) := by
    intro cls members hnames hdistinct ih
    rw [membersModified_eq, membersReport_eq_nil hdistinct, List.any_eq_false]
    refine ⟨fun h name member hmember => ?_, fun h member hmember hmodified => ?_⟩
    · obtain ⟨first, hfirst⟩ := lookup_isSome_congr hnames hmember
      by_contra hreport
      exact h _ (SortedDict.mem_of_lookup hmember) ((ih name first member hfirst hmember).mpr hreport)
    · have hlookup := SortedDict.lookup_of_mem hdistinct hmember
      obtain ⟨first, hfirst⟩ := lookup_isSome_congr hnames hlookup
      exact (ih member.1 first member.2 hfirst hlookup).mp hmodified (h member.1 member.2 hlookup)
  rw [← Bool.not_eq_false, not_iff_not]
  induction h with
  | @setting type own hvalid =>
      rw [Member.isModified, Member.report, Setting.report]
      cases own.dirty <;> simp
  | group hnames hdistinct hmembers ih =>
      rw [Member.isModified, Member.report]
      refine hstatic hnames (hnames ▸ hdistinct) fun name first member hfirst hmember => ?_
      rw [← Bool.not_eq_false, not_iff_not]
      exact ih name first member hfirst hmember
  | @collection cls members item items present old hnames hdistinct hmembers hitem hids hitems
      hpresent hold hoverlap ih _ ihItems =>
      have hmember := hstatic hnames (hnames ▸ hdistinct) fun name first member hfirst hmember => by
        rw [← Bool.not_eq_false, not_iff_not]
        exact ih name first member hfirst hmember
      have hpart : itemsModified (fun id => id ∈ present && id ∈ old) items = false ↔
          ∀ report ∈ pick (present.filter (· ∈ old)) (itemReports items), report.2 = [] := by
        rw [itemsModified_eq, List.any_eq_false]
        refine ⟨fun h report hreport => ?_, fun h item hin hmodified => ?_⟩
        · obtain ⟨hkept, hlookup⟩ := mem_pick.mp hreport
          rw [lookup_itemReports] at hlookup
          obtain ⟨now, hnow, heq⟩ := Option.map_eq_some_iff.mp hlookup
          rw [← heq]
          refine (ihItems report.1 now hnow).mp ?_
          have hin := h _ (SortedDict.mem_of_lookup hnow)
          simpa [List.mem_filter.mp hkept] using hin
        · rw [Bool.and_eq_true, Bool.and_eq_true] at hmodified
          obtain ⟨⟨hnow, hsaved⟩, hmodified⟩ := hmodified
          have hlookup := SortedDict.lookup_of_mem hids hin
          have hreport := h (item.1, item.2.report) (mem_pick.mpr
            ⟨List.mem_filter.mpr ⟨of_decide_eq_true hnow, hsaved⟩, by
              rw [lookup_itemReports, hlookup, Option.map_some]⟩)
          rw [(ihItems item.1 item.2 hlookup).mpr hreport] at hmodified
          cases hmodified
      rw [Member.isModified, Member.report, List.append_eq_nil_iff, ← hmember, itemMapReport_eq_nil,
        ← hpart]
      simp only [Bool.or_eq_false_iff, List.any_eq_false, decide_eq_true_eq, not_not]
      constructor
      · rintro ⟨⟨⟨hstatic, hadded⟩, hremoved⟩, hitems⟩
        exact ⟨hstatic, fun id => ⟨hremoved id, hadded id⟩, hitems⟩
      · rintro ⟨hstatic, hsame, hitems⟩
        exact ⟨⟨⟨hstatic, fun id => (hsame id).mpr⟩, fun id => (hsame id).mp⟩, hitems⟩

end SipSimple.Configuration
