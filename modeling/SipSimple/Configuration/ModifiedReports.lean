import SipSimple.Configuration.SaveReload

/-!
# What `get_modified` reports

`get_modified` goes by the flags of the settings and by the IDs that the collections keep. What it should
give is the difference of two snapshots of the object, in which there are values and items only: the one of
now and the one of the last call, where a call for a group or for an item replaces its part of the snapshot.

The key of an entry is the path of the setting or of the collection, that the source joins by dots. An item
belongs to one collection, and its ID is that of no other item for as long as a collection keeps it. What
the management of a collection does to a setting is an assignment of its own.
-/

namespace SipSimple.Configuration

open SortedDict (lookup)

variable {V : Type} [DecidableEq V]

/-! ### Reports -/

/-- `ModifiedValue` and `ModifiedList`. -/
inductive Modified (V : Type)
  | value (old new : Option (Value V))
  | list (added removed : List Unicode) (modified : List (Unicode × List (List Unicode × Modified V)))

abbrev Report (V : Type) := List (List Unicode × Modified V)

def entriesOf (name : Unicode) (report : Report V) : Report V :=
  report.map fun entry => (name :: entry.1, entry.2)

/-- The entries of these IDs. -/
def pick {α : Type} (ids : List Unicode) (items : List (Unicode × α)) : List (Unicode × α) :=
  ids.filterMap fun id => (lookup id items).map (Prod.mk id)

/-- `ItemMap.get_modified`, with what the items report that stay in the collection. -/
def itemMapReport (present old : List Unicode) (reports : List (Unicode × Report V)) : Report V :=
  let added := present.filter (· ∉ old)
  let removed := old.filter (· ∉ present)
  let modified := reports.filter fun report => !report.2.isEmpty
  if added.isEmpty && removed.isEmpty && modified.isEmpty then []
  else [([], .list added removed modified)]

/-- `Setting.get_modified` -/
def Setting.report (type : SettingType V) (setting : Setting V) : Report V :=
  if setting.dirty then
    [([], .value (setting.old.getD type.default) (setting.value.getD type.default))]
  else []

mutual

/-- What `get_modified` returns. -/
def Member.report : Member V → Report V
  | .setting type own => own.report type
  | .group members => membersReport members
  | .collection members _ items present old =>
      membersReport members ++
        itemMapReport present old (pick (present.filter (· ∈ old)) (itemReports items))

def membersReport : Members V → Report V
  | [] => []
  | member :: members => memberReport member ++ membersReport members

def memberReport : Unicode × Member V → Report V
  | (name, member) => entriesOf name member.report

def itemReports : Members V → List (Unicode × Report V)
  | [] => []
  | item :: items => itemReport item :: itemReports items

def itemReport : Unicode × Member V → Unicode × Report V
  | (id, item) => (id, item.report)

end

/-! ### Snapshots -/

/-- The explicit values and the items. -/
inductive Snapshot (V : Type)
  | setting (type : SettingType V) (value : Option (Option (Value V)))
  | group (members : List (Unicode × Snapshot V))
  | collection (members items : List (Unicode × Snapshot V))

abbrev Snapshots (V : Type) := List (Unicode × Snapshot V)

mutual

def Member.snapshot : Member V → Snapshot V
  | .setting type own => .setting type own.value
  | .group members => .group (membersSnapshot members)
  | .collection members _ items present _ =>
      .collection (membersSnapshot members) (pick present (membersSnapshot items))

def membersSnapshot : Members V → Snapshots V
  | [] => []
  | member :: members => memberSnapshot member :: membersSnapshot members

def memberSnapshot : Unicode × Member V → Unicode × Snapshot V
  | (name, member) => (name, member.snapshot)

end

mutual

/-- The difference of two snapshots of an object. -/
def Snapshot.diff : Snapshot V → Snapshot V → Report V
  | .setting _ old, .setting type new =>
      if old ≠ new then [([], .value (old.getD type.default) (new.getD type.default))] else []
  | .group old, .group new => membersDiff old new
  | .collection old oldItems, .collection new newItems =>
      membersDiff old new ++
        itemMapReport (newItems.map Prod.fst) (oldItems.map Prod.fst) (itemsDiff oldItems newItems)
  | _, _ => []
termination_by structural _ new => new

def membersDiff (old : Snapshots V) : Snapshots V → Report V
  | [] => []
  | member :: members => memberDiff old member ++ membersDiff old members
termination_by structural new => new

def memberDiff (old : Snapshots V) : Unicode × Snapshot V → Report V
  | (name, new) =>
      match lookup name old with
      | some before => entriesOf name (before.diff new)
      | none => []
termination_by structural new => new

def itemsDiff (old : Snapshots V) : Snapshots V → List (Unicode × Report V)
  | [] => []
  | item :: items => (itemDiff old item).toList ++ itemsDiff old items
termination_by structural new => new

def itemDiff (old : Snapshots V) : Unicode × Snapshot V → Option (Unicode × Report V)
  | (id, new) =>
      match lookup id old with
      | some before => some (id, before.diff new)
      | none => none
termination_by structural new => new

end

/-- The part of a snapshot at a path. -/
def Snapshot.at : Snapshot V → List Unicode → Option (Snapshot V)
  | snapshot, [] => some snapshot
  | .group members, name :: path =>
      match lookup name members with
      | some member => member.at path
      | none => none
  | .collection members items, name :: path =>
      match lookup name members with
      | some member => member.at path
      | none =>
          match lookup name items with
          | some item => item.at path
          | none => none
  | .setting _ _, _ :: _ => none

/-- The explicit value of a setting. -/
def Snapshot.value : Snapshot V → Option (Option (Value V))
  | .setting _ value => value
  | _ => none

/-- The IDs of the items of a collection. -/
def Snapshot.ids : Snapshot V → List Unicode
  | .collection _ items => items.map Prod.fst
  | _ => []

def Snapshot.valueAt (snapshot : Snapshot V) (path : List Unicode) : Option (Option (Value V)) :=
  (snapshot.at path).bind Snapshot.value

def Snapshot.idsAt (snapshot : Snapshot V) (path : List Unicode) : List Unicode :=
  ((snapshot.at path).map Snapshot.ids).getD []

/-- The values are the same, and so are the sets of items of the collections. -/
def Snapshot.Same (old new : Snapshot V) : Prop :=
  ∀ path, old.valueAt path = new.valueAt path ∧ ∀ id, id ∈ old.idsAt path ↔ id ∈ new.idsAt path

/-! ### Runs -/

/-- The member at a path, also if it is in an item that was removed. -/
def Member.at : Member V → List Unicode → Option (Member V)
  | member, [] => some member
  | .group members, name :: path =>
      match lookup name members with
      | some member => member.at path
      | none => none
  | .collection members _ items _ _, name :: path =>
      match lookup name members with
      | some member => member.at path
      | none =>
          match lookup name items with
          | some item => item.at path
          | none => none
  | .setting _ _, _ :: _ => none

/-- Something is done to the member at a path. -/
def Member.changeAt (f : Member V → Member V) : List Unicode → Member V → Member V
  | [], member => f member
  | name :: path, .group members => .group (modifyMember name (Member.changeAt f path) members)
  | name :: path, .collection members item items present old =>
      if name ∈ members.map Prod.fst then
        .collection (modifyMember name (Member.changeAt f path) members) item items present old
      else
        .collection members item (modifyMember name (Member.changeAt f path) items) present old
  | _ :: _, .setting type own => .setting type own

/-- An item is put into the collection; the ID of one of its settings raises. -/
def Member.add (id : Unicode) (new : Member V) : Member V → Member V
  | .collection members item items present old =>
      if id ∈ members.map Prod.fst ∨ id ∈ present then .collection members item items present old
      else .collection members item (addItem id new items old) (id :: present) old
  | member => member

def Member.clear : Member V → Member V
  | .collection members item items _ old => .collection members item items [] old
  | member => member

/-- A list of items is assigned to the collection. -/
def Member.assign (new : Members V) : Member V → Member V
  | .collection members item items present old =>
      if new.any fun other => other.1 ∈ members.map Prod.fst then
        .collection members item items present old
      else
        new.foldl (fun after other => Member.add other.1 other.2 after)
          (Member.collection members item items present old).clear
  | member => member

def saveMember (name : Unicode) (save : Member V → Snapshot V → Snapshot V) (members : Members V)
    (saved : Snapshots V) : Snapshots V :=
  saved.map fun before =>
    if before.1 = name then
      match lookup name members with
      | some member => (before.1, save member before.2)
      | none => before
    else before

/-- What there is at a path is saved. -/
def Member.saveAt : List Unicode → Member V → Snapshot V → Snapshot V
  | [], member, _ => member.snapshot
  | name :: path, .group members, .group saved =>
      .group (saveMember name (Member.saveAt path) members saved)
  | name :: path, .collection members _ items _ _, .collection saved savedItems =>
      if name ∈ members.map Prod.fst then
        .collection (saveMember name (Member.saveAt path) members saved) savedItems
      else .collection saved (saveMember name (Member.saveAt path) items savedItems)
  | _, _, saved => saved

/-- The objects that a program can have, with what they were at their last calls of `get_modified`, or
else as they were made. -/
inductive Reached : Snapshot V → Member V → Prop
  | start {first : Member V} (hclass : Instance first first) {data : Option Data}
      (hordered : Ordered data) : Reached (first.load data).snapshot (first.load data)
  | edit {saved : Snapshot V} {now : Member V} (h : Reached saved now) (path : List Unicode)
      {change : Edit V} (hchange : ∀ id state, change ≠ .addItem id state) :
      Reached saved (now.changeAt (·.edit change) path)
  | add {saved savedItem : Snapshot V} {now item : Member V} (h : Reached saved now)
      (hitem : Reached savedItem item) (path : List Unicode) (id : Unicode) :
      Reached saved (now.changeAt (Member.add id item) path)
  | assign {saved : Snapshot V} {now : Member V} (h : Reached saved now) (path : List Unicode)
      {items : List (Unicode × Member V)} {savedItems : Unicode → Snapshot V}
      (hitems : ∀ item ∈ items, Reached (savedItems item.1) item.2) :
      Reached saved (now.changeAt (Member.assign items) path)
  | getModified {saved : Snapshot V} {now : Member V} (h : Reached saved now)
      (path : List Unicode) : Reached (now.saveAt path saved) (now.changeAt Member.sync path)

/-! ### Lists of members -/

section Members

omit [DecidableEq V] in
theorem membersReport_eq (members : Members V) :
    membersReport members = members.flatMap fun member => entriesOf member.1 member.2.report := by
  induction members with
  | nil => rfl
  | cons member members ih => rw [membersReport, ih, memberReport, List.flatMap_cons]

omit [DecidableEq V] in
theorem lookup_itemReports (id : Unicode) (items : Members V) :
    lookup id (itemReports items) = (lookup id items).map Member.report := by
  have heq : itemReports items = items.map fun item => (item.1, item.2.report) := by
    induction items with
    | nil => rfl
    | cons item items ih => rw [itemReports, ih, itemReport, List.map_cons]
  rw [heq]
  exact SortedDict.lookup_map (fun _ item => item.report) id items

omit [DecidableEq V] in
theorem membersSnapshot_eq (members : Members V) :
    membersSnapshot members = members.map fun member => (member.1, member.2.snapshot) := by
  induction members with
  | nil => rfl
  | cons member members ih => rw [membersSnapshot, ih, memberSnapshot, List.map_cons]

omit [DecidableEq V] in
theorem lookup_membersSnapshot (name : Unicode) (members : Members V) :
    lookup name (membersSnapshot members) = (lookup name members).map Member.snapshot := by
  rw [membersSnapshot_eq]
  exact SortedDict.lookup_map (fun _ member => member.snapshot) name members

omit [DecidableEq V] in
theorem map_fst_membersSnapshot (members : Members V) :
    (membersSnapshot members).map Prod.fst = members.map Prod.fst := by
  rw [membersSnapshot_eq, List.map_map]
  rfl

theorem membersDiff_eq (old new : Snapshots V) :
    membersDiff old new = new.flatMap (memberDiff old) := by
  induction new with
  | nil => rfl
  | cons member members ih => rw [membersDiff, ih, List.flatMap_cons]

theorem itemsDiff_eq (old new : Snapshots V) :
    itemsDiff old new = new.filterMap (itemDiff old) := by
  induction new with
  | nil => rfl
  | cons item items ih =>
      rw [itemsDiff, ih, List.filterMap_cons]
      cases itemDiff old item <;> rfl

theorem lookup_pick {α : Type} (ids : List Unicode) (items : List (Unicode × α)) (id : Unicode) :
    lookup id (pick ids items) = if id ∈ ids then lookup id items else none := by
  induction ids with
  | nil => rfl
  | cons other ids ih =>
      rw [pick, List.filterMap_cons]
      cases hother : lookup other items with
      | none =>
          rw [Option.map_none]
          refine ih.trans ?_
          by_cases hid : id = other
          · rw [hid, hother, if_pos List.mem_cons_self]
            split_ifs <;> rfl
          · simp only [List.mem_cons, hid, false_or]
      | some item =>
          rw [Option.map_some]
          by_cases hid : other = id
          · rw [lookup, if_pos hid.symm, if_pos (hid ▸ List.mem_cons_self), ← hid, hother]
          · rw [lookup, if_neg (Ne.symm hid)]
            refine ih.trans ?_
            simp only [List.mem_cons, Ne.symm hid, false_or]

theorem map_fst_pick {α : Type} {ids : List Unicode} {items : List (Unicode × α)}
    (h : ∀ id ∈ ids, id ∈ items.map Prod.fst) : (pick ids items).map Prod.fst = ids := by
  induction ids with
  | nil => rfl
  | cons id ids ih =>
      have hid := SortedDict.isSome_lookup.mpr (h id List.mem_cons_self)
      obtain ⟨item, hitem⟩ := Option.isSome_iff_exists.mp hid
      rw [pick, List.filterMap_cons, hitem, Option.map_some, List.map_cons]
      exact congrArg (id :: ·) (ih fun other hother => h other (List.mem_cons_of_mem id hother))

omit [DecidableEq V] in
theorem lookup_saveMember (name other : Unicode) (save : Member V → Snapshot V → Snapshot V)
    (members : Members V) (saved : Snapshots V) :
    lookup other (saveMember name save members saved) =
      (lookup other saved).map fun before =>
        if other = name then (lookup other members).elim before fun member => save member before
        else before := by
  have hsave : saveMember name save members saved = saved.map fun before => (before.1,
      if before.1 = name then
        (lookup before.1 members).elim before.2 fun member => save member before.2
      else before.2) := by
    refine List.map_congr_left fun before _ => ?_
    by_cases hname : before.1 = name
    · rw [if_pos hname, if_pos hname, hname]
      cases lookup name members <;> simp [← hname]
    · rw [if_neg hname, if_neg hname]
  rw [hsave]
  exact SortedDict.lookup_map (fun key before =>
    if key = name then (lookup key members).elim before fun member => save member before
    else before) other saved

omit [DecidableEq V] in
theorem map_fst_saveMember (name : Unicode) (save : Member V → Snapshot V → Snapshot V)
    (members : Members V) (saved : Snapshots V) :
    (saveMember name save members saved).map Prod.fst = saved.map Prod.fst := by
  rw [saveMember, List.map_map]
  refine List.map_congr_left fun before _ => ?_
  simp only [Function.comp_apply]
  split_ifs
  · cases lookup name members <;> rfl
  · rfl

end Members

end SipSimple.Configuration
