import SipSimple.Configuration.ExactReports
import SipSimple.Library.Runs
import Mathlib.Logic.Function.Basic

/-!
# Items in several collections

An item is an object of its own, and a collection has it by reference. So a change of an item is one of
every collection that has it, and `get_modified` of one of them takes back its flags for all.

While no item is put into a second collection, every collection is as if it had its items for itself, and
what it reports is the difference. An item in two collections is reported by the first call alone.
-/

namespace SipSimple.Configuration

variable {V : Type}

/-- An `ItemMap`, with what it was at its last report. The items are numbers of objects. -/
structure ItemMap where
  items : List (Unicode × Nat)
  present : List Unicode
  old : List Unicode

/-- The item objects and the collections of a program, with what the collections were at their last
reports. -/
structure Collections (V : Type) where
  objects : Nat → Member V
  collections : Nat → ItemMap
  saved : Nat → Snapshot V

namespace ItemMap

/-- The collection as an object with its items. -/
def view (item : Member V) (objects : Nat → Member V) (map : ItemMap) : Member V :=
  .collection [] item (map.items.map fun entry => (entry.1, objects entry.2)) map.present map.old

/-- `add` -/
def add (id : Unicode) (n : Nat) (map : ItemMap) : ItemMap :=
  if id ∈ map.present then map
  else
    { map with
      items := if id ∈ map.old then map.items
        else (id, n) :: map.items.filter fun entry => entry.1 ≠ id
      present := id :: map.present }

/-- `remove` -/
def remove (id : Unicode) (map : ItemMap) : ItemMap :=
  { map with present := map.present.filter (· ≠ id) }

/-- What `get_modified` leaves. -/
def sync (map : ItemMap) : ItemMap :=
  ⟨map.items.filter fun entry => entry.1 ∈ map.present, map.present, map.present⟩

end ItemMap

namespace Collections

inductive Input (V : Type)
  | edit (n : Nat) (path : List Unicode) (change : Edit V)
  | add (c : Nat) (id : Unicode) (n : Nat)
  | remove (c : Nat) (id : Unicode)
  | getModified (c : Nat)

def view (item : Member V) (state : Collections V) (c : Nat) : Member V :=
  (state.collections c).view item state.objects

/-- The object is an item that is in the collection. -/
def has (state : Collections V) (c n : Nat) : Bool :=
  (state.collections c).items.any fun entry => entry.1 ∈ (state.collections c).present && entry.2 = n

def step [DecidableEq V] (item : Member V) (state : Collections V) : Input V → Collections V
  | .edit n path change =>
      { state with
        objects := Function.update state.objects n
          ((state.objects n).changeAt (·.edit change) path) }
  | .add c id n =>
      { state with
        collections := Function.update state.collections c ((state.collections c).add id n) }
  | .remove c id =>
      { state with
        collections := Function.update state.collections c ((state.collections c).remove id) }
  | .getModified c =>
      { objects := fun n => if state.has c n then (state.objects n).sync else state.objects n
        collections := Function.update state.collections c (state.collections c).sync
        saved := Function.update state.saved c (state.view item c).snapshot }

/-- New items, and collections without items. -/
def start (item : Member V) : Collections V := ⟨fun _ => item, fun _ => ⟨[], [], []⟩, fun _ => .collection [] []⟩

/-- The item that is added is in no other collection, and has its ID in this one. -/
def Alone (state : Collections V) : Input V → Prop
  | .edit _ _ change => ∀ id made, change ≠ .addItem id made
  | .add c id n => ∀ other entry, entry ∈ (state.collections other).items → entry.2 = n →
      other = c ∧ entry.1 = id
  | _ => True

/-! ### Items in one collection -/

/-- Every collection is reached as if it had its items for itself. -/
structure Separate [DecidableEq V] (item : Member V) (state : Collections V) : Prop where
  objects : ∀ n, ∃ saved, Reached saved (state.objects n)
  reached : ∀ c, Reached (state.saved c) (state.view item c)
  distinct : ∀ c, ((state.collections c).items.map Prod.fst).Nodup
  apart : ∀ c c' entry entry', entry ∈ (state.collections c).items →
    entry' ∈ (state.collections c').items → entry.2 = entry'.2 → c = c' ∧ entry.1 = entry'.1

theorem view_congr {item : Member V} {objects objects' : Nat → Member V} {map : ItemMap}
    (h : ∀ entry ∈ map.items, objects' entry.2 = objects entry.2) :
    map.view item objects' = map.view item objects := by
  have hitems : (map.items.map fun entry => (entry.1, objects' entry.2)) =
      map.items.map fun entry => (entry.1, objects entry.2) :=
    List.map_congr_left fun entry hentry => by rw [h entry hentry]
  rw [ItemMap.view, ItemMap.view, hitems]

theorem view_add {item : Member V} (objects : Nat → Member V) (map : ItemMap) (id : Unicode) (n : Nat) :
    (map.add id n).view item objects = Member.add id (objects n) (map.view item objects) := by
  rw [ItemMap.add, ItemMap.view, ItemMap.view, Member.add]
  by_cases hpresent : id ∈ map.present
  · rw [if_pos hpresent, if_pos (Or.inr hpresent)]
  · have hfree : ¬(id ∈ ([] : Members V).map Prod.fst ∨ id ∈ map.present) := by simpa using hpresent
    rw [if_neg hfree, if_neg hpresent, addItem]
    by_cases hold : id ∈ map.old
    · simp only [if_pos hold]
    · simp only [if_neg hold, List.map_cons, List.filter_map, Function.comp_def]

theorem view_sync {item : Member V} {objects objects' : Nat → Member V} {map : ItemMap}
    (h : ∀ entry ∈ map.items, entry.1 ∈ map.present → objects' entry.2 = (objects entry.2).sync) :
    map.sync.view item objects' = (map.view item objects).sync := by
  have hitems : (map.sync.items.map fun entry => (entry.1, objects' entry.2)) =
      (membersSync (map.items.map fun entry => (entry.1, objects entry.2))).filter
        fun item => item.1 ∈ map.present := by
    rw [membersSync_eq, List.map_map, List.filter_map]
    refine List.map_congr_left fun entry hentry => ?_
    obtain ⟨hmem, hpresent⟩ := List.mem_filter.mp hentry
    rw [h entry hmem (of_decide_eq_true hpresent)]
    rfl
  rw [ItemMap.view, hitems, ItemMap.view, Member.sync]
  rfl

section Run

variable [DecidableEq V] {item : Member V} {state : Collections V}

omit [DecidableEq V] in
/-- The item is changed in the collection that has it. -/
theorem view_edit {objects : Nat → Member V} {map : ItemMap} {f : Member V → Member V}
    {entry : Unicode × Nat} (hentry : entry ∈ map.items) (hdistinct : (map.items.map Prod.fst).Nodup)
    (halone : ∀ other ∈ map.items, other.2 = entry.2 → other.1 = entry.1) (path : List Unicode) :
    map.view item (Function.update objects entry.2 ((objects entry.2).changeAt f path)) =
      (map.view item objects).changeAt f (entry.1 :: path) := by
  have hitems : (map.items.map fun other => (other.1,
      Function.update objects entry.2 ((objects entry.2).changeAt f path) other.2)) =
        modifyMember entry.1 (Member.changeAt f path)
          (map.items.map fun other => (other.1, objects other.2)) := by
    rw [modifyMember, List.map_map]
    refine List.map_congr_left fun other hother => ?_
    rw [Function.comp_apply]
    by_cases hid : other.1 = entry.1
    · obtain rfl : other = entry := List.inj_on_of_nodup_map hdistinct hother hentry hid
      rw [if_pos rfl, Function.update_self]
    · rw [if_neg hid, Function.update_of_ne fun hn => hid (halone other hother hn)]
  rw [ItemMap.view, hitems, ItemMap.view, Member.changeAt, List.map_nil, if_neg List.not_mem_nil]

theorem separate_start (hitem : Instance item item) : Separate item (start item) := by
  have hcollection : Instance (.collection [] item [] [] []) (.collection [] item [] [] []) := by
    refine instance_collection_self ?_ (fun _ h => absurd h List.not_mem_nil) hitem
    rw [List.map_nil]
    exact List.nodup_nil
  have hreached : Reached ((Member.collection [] item [] [] []).load none).snapshot
      ((Member.collection [] item [] [] []).load none) := .start hcollection ordered_none
  have hnew : Reached (item.load none).snapshot (item.load none) := .start hitem ordered_none
  exact ⟨fun _ => ⟨_, hnew⟩, fun _ => hreached, fun _ => List.nodup_nil,
    fun _ _ _ _ h => absurd h List.not_mem_nil⟩

theorem Separate.edit (h : Separate item state) {n : Nat} {path : List Unicode} {change : Edit V}
    (hchange : ∀ id made, change ≠ .addItem id made) :
    Separate item (step item state (.edit n path change)) := by
  refine ⟨fun m => ?_, fun c => ?_, h.distinct, h.apart⟩
  · by_cases hm : m = n
    · obtain ⟨saved, hreached⟩ := h.objects n
      refine ⟨saved, ?_⟩
      dsimp only [step]
      rw [hm, Function.update_self]
      exact hreached.edit path hchange
    · dsimp only [step]
      rw [Function.update_of_ne hm]
      exact h.objects m
  · by_cases hin : ∃ entry ∈ (state.collections c).items, entry.2 = n
    · obtain ⟨entry, hentry, rfl⟩ := hin
      dsimp only [step, view]
      rw [view_edit hentry (h.distinct c)
        fun other hother hn => (h.apart c c other entry hother hentry hn).2]
      exact (h.reached c).edit (entry.1 :: path) hchange
    · dsimp only [step, view]
      rw [view_congr fun entry hentry =>
        Function.update_of_ne (fun hn => hin ⟨entry, hentry, hn⟩) _ _]
      exact h.reached c

/-- A collection takes another item map; the others keep theirs. -/
theorem Separate.update (h : Separate item state) {c : Nat} {map : ItemMap}
    (hreached : Reached (state.saved c) (map.view item state.objects))
    (hdistinct : (map.items.map Prod.fst).Nodup)
    (hitems : ∀ entry ∈ map.items, entry ∈ (state.collections c).items ∨
      ∀ other used, used ∈ (state.collections other).items → used.2 = entry.2 →
        other = c ∧ used.1 = entry.1)
    (hnew : ∀ entry ∈ map.items, ∀ entry' ∈ map.items, entry.2 = entry'.2 → entry.1 = entry'.1) :
    Separate item { state with collections := Function.update state.collections c map } := by
  refine ⟨h.objects, fun c' => ?_, fun c' => ?_, fun left right entry entry' hentry hentry' hn => ?_⟩
  · by_cases hc : c' = c
    · subst hc
      dsimp only [view]
      rw [Function.update_self]
      exact hreached
    · dsimp only [view]
      rw [Function.update_of_ne hc]
      exact h.reached c'
  · dsimp only
    by_cases hc : c' = c
    · rwa [hc, Function.update_self]
    · rw [Function.update_of_ne hc]
      exact h.distinct c'
  · have hother : ∀ entry ∈ map.items, ∀ {c'}, c' ≠ c → ∀ entry' ∈ (state.collections c').items,
        entry.2 ≠ entry'.2 := by
      intro entry hentry c' hc entry' hentry' hn
      rcases hitems entry hentry with hold | halone
      · exact hc (h.apart c c' entry entry' hold hentry' hn).1.symm
      · exact hc (halone c' entry' hentry' hn.symm).1
    dsimp only at hentry hentry'
    by_cases hleft : left = c <;> by_cases hright : right = c
    · rw [hleft, Function.update_self] at hentry
      rw [hright, Function.update_self] at hentry'
      exact ⟨hleft.trans hright.symm, hnew entry hentry entry' hentry' hn⟩
    · rw [hleft, Function.update_self] at hentry
      rw [Function.update_of_ne hright] at hentry'
      exact absurd hn (hother entry hentry hright entry' hentry')
    · rw [Function.update_of_ne hleft] at hentry
      rw [hright, Function.update_self] at hentry'
      exact absurd hn.symm (hother entry' hentry' hleft entry hentry)
    · rw [Function.update_of_ne hleft] at hentry
      rw [Function.update_of_ne hright] at hentry'
      exact h.apart left right entry entry' hentry hentry' hn

theorem Separate.add (h : Separate item state) {c : Nat} {id : Unicode} {n : Nat}
    (halone : Alone state (.add c id n)) : Separate item (step item state (.add c id n)) := by
  have hmem : ∀ entry ∈ ((state.collections c).add id n).items,
      entry ∈ (state.collections c).items ∨ entry = (id, n) := by
    intro entry hentry
    rw [ItemMap.add] at hentry
    split_ifs at hentry with hpresent hold
    · exact Or.inl hentry
    · exact Or.inl hentry
    · exact (List.mem_cons.mp hentry).symm.imp_left List.mem_of_mem_filter
  refine h.update ?_ ?_ (fun entry hentry => ?_) fun entry hentry entry' hentry' hn => ?_
  · rw [view_add]
    obtain ⟨saved, hreached⟩ := h.objects n
    exact (h.reached c).add hreached [] id
  · rw [ItemMap.add]
    split_ifs with hpresent hold
    · exact h.distinct c
    · exact h.distinct c
    · refine List.nodup_cons.mpr ⟨fun hin => ?_, (h.distinct c).sublist (List.filter_sublist.map _)⟩
      obtain ⟨entry, hentry, hid⟩ := List.mem_map.mp hin
      exact of_decide_eq_true (List.mem_filter.mp hentry).2 hid
  · rcases hmem entry hentry with hold | rfl
    · exact Or.inl hold
    · exact Or.inr halone
  · rcases hmem entry hentry with hold | rfl <;> rcases hmem entry' hentry' with hold' | rfl
    · exact (h.apart c c entry entry' hold hold' hn).2
    · exact (halone c entry hold hn).2
    · exact (halone c entry' hold' hn.symm).2.symm
    · rfl

theorem Separate.remove (h : Separate item state) (c : Nat) (id : Unicode) :
    Separate item (step item state (.remove c id)) := by
  have hchange : ∀ id' made, (.removeItem id : Edit V) ≠ .addItem id' made := by
    intro _ _ hadd
    cases hadd
  exact h.update ((h.reached c).edit [] hchange) (h.distinct c) (fun _ => Or.inl)
    fun entry hentry entry' hentry' hn => (h.apart c c entry entry' hentry hentry' hn).2

theorem Separate.getModified (h : Separate item state) (c : Nat) :
    Separate item (step item state (.getModified c)) := by
  refine ⟨fun n => ?_, fun c' => ?_, fun c' => ?_, fun left right entry entry' hentry hentry' hn => ?_⟩
  · obtain ⟨saved, hreached⟩ := h.objects n
    rw [step]
    dsimp only
    split_ifs
    · exact ⟨_, hreached.getModified []⟩
    · exact ⟨saved, hreached⟩
  · by_cases hc : c' = c
    · have hview : (step item state (.getModified c)).view item c = (state.view item c).sync := by
        dsimp only [step, view]
        rw [Function.update_self]
        refine view_sync fun entry hentry hpresent => if_pos ?_
        exact List.any_eq_true.mpr ⟨entry, hentry, by simp [hpresent]⟩
      rw [hc, hview]
      dsimp only [step]
      rw [Function.update_self]
      exact (h.reached c).getModified []
    · have hview : (step item state (.getModified c)).view item c' = state.view item c' := by
        dsimp only [step, view]
        rw [Function.update_of_ne hc]
        refine view_congr fun entry hentry => if_neg fun hhas => ?_
        obtain ⟨other, hother, heq⟩ := List.any_eq_true.mp hhas
        have hn : other.2 = entry.2 := by simpa using (Bool.and_eq_true_iff.mp heq).2
        exact hc (h.apart c' c entry other hentry hother hn.symm).1
      rw [hview]
      dsimp only [step]
      rw [Function.update_of_ne hc]
      exact h.reached c'
  · dsimp only [step]
    by_cases hc : c' = c
    · rw [hc, Function.update_self]
      exact (h.distinct c).sublist (List.filter_sublist.map _)
    · rw [Function.update_of_ne hc]
      exact h.distinct c'
  · have hsub : ∀ {c' entry}, entry ∈ ((step item state (.getModified c)).collections c').items →
        entry ∈ (state.collections c').items := by
      intro c' entry hentry
      dsimp only [step] at hentry
      by_cases hc : c' = c
      · rw [hc, Function.update_self] at hentry
        exact hc ▸ List.mem_of_mem_filter hentry
      · rwa [Function.update_of_ne hc] at hentry
    exact h.apart left right entry entry' (hsub hentry) (hsub hentry') hn

theorem Separate.step (h : Separate item state) {input : Input V} (hinput : Alone state input) :
    Separate item (step item state input) := by
  cases input with
  | edit n path change => exact h.edit hinput
  | add c id n => exact h.add hinput
  | remove c id => exact h.remove c id
  | getModified c => exact h.getModified c

/-- **Collections that share no item report the difference.** -/
theorem report_eq_diff (hitem : Instance item item) {inputs : List (Input V)}
    (h : Runs.Meets (Collections.step item) Alone (start item) inputs) (c : Nat) :
    (view item (Runs.run (Collections.step item) (start item) inputs) c).report =
      ((Runs.run (Collections.step item) (start item) inputs).saved c).diff
        (view item (Runs.run (Collections.step item) (start item) inputs) c).snapshot :=
  ((Runs.invariant_run (Separate item) (fun _ _ hseparate => hseparate.step) (separate_start hitem)
    h).reached c).tracks.report_eq

end Run

/-- An item with a URI. -/
def uriItem : Member Empty :=
  .group [("uri".toList, .setting ⟨.unicode, none, true, false, fun _ => rfl⟩ .new)]

end Collections

end SipSimple.Configuration
