import Mathlib.Data.List.Sort

/-!
# Finite maps as key-sorted item lists

A finite map is kept as the list of its items in strictly increasing key order, so two maps with the
same items are the same list. `insert` is assignment: it replaces the value of a key that is present.
The facts here are the ones a fold of assignments needs: what an assignment does to the keys, that
assignments to distinct keys commute, and that assigning the items of a map to the empty map, in any
order, gives the map back.
-/

namespace SortedDict

variable {κ α : Type*} [LinearOrder κ]

/-- The items are in strictly increasing key order. -/
def Sorted (items : List (κ × α)) : Prop := items.Pairwise fun left right => left.1 < right.1

instance (items : List (κ × α)) : Decidable (Sorted items) :=
  inferInstanceAs (Decidable (items.Pairwise _))

/-- Assignment to a key. -/
def insert (key : κ) (value : α) : List (κ × α) → List (κ × α)
  | [] => [(key, value)]
  | (key', value') :: rest =>
      if key < key' then (key, value) :: (key', value') :: rest
      else if key = key' then (key, value) :: rest
      else (key', value') :: insert key value rest

def lookup (key : κ) : List (κ × α) → Option α
  | [] => none
  | (key', value') :: rest => if key = key' then some value' else lookup key rest

/-- Assignment of several items, from left to right. -/
def insertAll (items : List (κ × α)) (dict : List (κ × α)) : List (κ × α) :=
  items.foldl (fun dict item => insert item.1 item.2 dict) dict

@[simp] theorem insertAll_nil (dict : List (κ × α)) : insertAll [] dict = dict := rfl

@[simp] theorem insertAll_cons (item : κ × α) (items dict : List (κ × α)) :
    insertAll (item :: items) dict = insertAll items (insert item.1 item.2 dict) := rfl

theorem Sorted.tail {item : κ × α} {items : List (κ × α)} (h : Sorted (item :: items)) :
    Sorted items :=
  (List.pairwise_cons.mp h).2

@[simp] theorem lookup_insert_self (key : κ) (value : α) (dict : List (κ × α)) :
    lookup key (insert key value dict) = some value := by
  induction dict with
  | nil => simp [insert, lookup]
  | cons item rest ih =>
      rw [insert]
      split_ifs with hlt heq
      · simp [lookup]
      · simp [lookup]
      · rw [lookup, if_neg heq, ih]

theorem mem_of_lookup {key : κ} {value : α} {dict : List (κ × α)}
    (h : lookup key dict = some value) : (key, value) ∈ dict := by
  induction dict with
  | nil => cases h
  | cons item rest ih =>
      rw [lookup] at h
      split_ifs at h with heq
      · cases h
        exact heq ▸ List.mem_cons_self
      · exact List.mem_cons_of_mem _ (ih h)

theorem insert_insert_self (key : κ) (value value' : α) (dict : List (κ × α)) :
    insert key value (insert key value' dict) = insert key value dict := by
  induction dict with
  | nil => simp [insert]
  | cons item rest ih =>
      simp only [insert]
      split_ifs with hlt heq
      · simp [insert]
      · simp [insert]
      · simp only [insert, if_neg hlt, if_neg heq, ih]

theorem mem_insert {key : κ} {value : α} {dict : List (κ × α)} {item : κ × α}
    (h : item ∈ insert key value dict) : item = (key, value) ∨ item ∈ dict := by
  induction dict with
  | nil => simpa [insert] using h
  | cons head rest ih =>
      rw [insert] at h
      split_ifs at h with hlt heq
      · simpa using h
      · rcases List.mem_cons.mp h with h | h
        · exact Or.inl h
        · exact Or.inr (List.mem_cons_of_mem _ h)
      · rcases List.mem_cons.mp h with h | h
        · exact Or.inr (h ▸ List.mem_cons_self)
        · exact (ih h).imp id (List.mem_cons_of_mem _)

theorem sorted_insert {dict : List (κ × α)} (h : Sorted dict) (key : κ) (value : α) :
    Sorted (insert key value dict) := by
  induction dict with
  | nil => simp [insert, Sorted]
  | cons head rest ih =>
      obtain ⟨hhead, hrest⟩ := List.pairwise_cons.mp h
      rw [insert]
      split_ifs with hlt heq
      · refine List.pairwise_cons.mpr ⟨fun item hitem => ?_, h⟩
        rcases List.mem_cons.mp hitem with rfl | hitem
        · exact hlt
        · exact hlt.trans (hhead item hitem)
      · subst heq
        exact List.pairwise_cons.mpr ⟨hhead, hrest⟩
      · refine List.pairwise_cons.mpr ⟨fun item hitem => ?_, ih hrest⟩
        rcases mem_insert hitem with rfl | hitem
        · exact lt_of_le_of_ne (not_lt.mp hlt) (Ne.symm heq)
        · exact hhead item hitem

/-- A new key adds one item. -/
theorem insert_perm {key : κ} {value : α} {dict : List (κ × α)}
    (hnew : key ∉ dict.map Prod.fst) : (insert key value dict).Perm ((key, value) :: dict) := by
  induction dict with
  | nil => simp [insert]
  | cons head rest ih =>
      simp only [List.map_cons, List.mem_cons, not_or] at hnew
      rw [insert]
      split_ifs with hlt heq
      · exact List.Perm.refl _
      · exact absurd heq hnew.1
      · exact ((ih hnew.2).cons head).trans (List.Perm.swap _ _ _)

theorem sorted_insertAll {items dict : List (κ × α)} (h : Sorted dict) :
    Sorted (insertAll items dict) := by
  induction items generalizing dict with
  | nil => exact h
  | cons item items ih => exact ih (sorted_insert h item.1 item.2)

theorem insertAll_perm {items dict : List (κ × α)}
    (hdistinct : ((items ++ dict).map Prod.fst).Nodup) :
    (insertAll items dict).Perm (items ++ dict) := by
  induction items generalizing dict with
  | nil => exact List.Perm.refl _
  | cons head items ih =>
      have hperm : ((items ++ insert head.1 head.2 dict)).Perm (head :: items ++ dict) := by
        have hnew : head.1 ∉ dict.map Prod.fst := by
          simp only [List.cons_append, List.map_cons, List.map_append, List.nodup_cons,
            List.mem_append, not_or] at hdistinct
          exact hdistinct.1.2
        exact ((insert_perm hnew).append_left items).trans List.perm_middle
      exact (ih ((hperm.map Prod.fst).nodup_iff.mpr hdistinct)).trans hperm

theorem Sorted.nodup {items : List (κ × α)} (h : Sorted items) : (items.map Prod.fst).Nodup := by
  refine List.Pairwise.map _ (fun left right hlt => ?_) h
  exact ne_of_lt hlt

theorem Sorted.eq_of_perm {left right : List (κ × α)} (hleft : Sorted left) (hright : Sorted right)
    (hperm : left.Perm right) : left = right := by
  refine List.Perm.eq_of_pairwise (fun a b _ _ hab hba => ?_) hleft hright hperm
  exact absurd (lt_trans hab hba) (lt_irrefl _)

/-- **Assigning the items of a map to the empty map, in any order, rebuilds the map.** -/
theorem insertAll_of_perm {items dict : List (κ × α)} (hsorted : Sorted dict)
    (hperm : items.Perm dict) : insertAll items [] = dict := by
  have hnodup : ((items ++ []).map Prod.fst).Nodup := by
    simpa using (hperm.map Prod.fst).nodup_iff.mpr hsorted.nodup
  refine Sorted.eq_of_perm (sorted_insertAll List.Pairwise.nil) hsorted ?_
  simpa using (insertAll_perm hnodup).trans (by simpa using hperm)

theorem lookup_insert (key key' : κ) (value : α) (dict : List (κ × α)) :
    lookup key (insert key' value dict) = if key = key' then some value else lookup key dict := by
  by_cases hkey : key = key'
  · rw [hkey, lookup_insert_self, if_pos rfl]
  · rw [if_neg hkey]
    induction dict with
    | nil => simp [insert, lookup, hkey]
    | cons item rest ih =>
        rw [insert]
        split_ifs with hlt heq
        · simp [lookup, hkey]
        · rw [lookup, if_neg hkey, lookup, if_neg (heq ▸ hkey)]
        · rw [lookup, lookup, ih]

theorem Sorted.lookup_eq_some {key : κ} {value : α} {items : List (κ × α)} (h : Sorted items) :
    lookup key items = some value ↔ (key, value) ∈ items := by
  refine ⟨mem_of_lookup, fun hmem => ?_⟩
  induction items with
  | nil => cases hmem
  | cons item rest ih =>
      rcases List.mem_cons.mp hmem with rfl | hrest
      · simp [lookup]
      · have hlt : item.1 < key := (List.pairwise_cons.mp h).1 _ hrest
        rw [lookup, if_neg (ne_of_gt hlt), ih h.tail hrest]

/-! ### Removal -/

def erase (key : κ) (dict : List (κ × α)) : List (κ × α) := dict.filter fun item => item.1 ≠ key

theorem lookup_filter (p : κ → Bool) (key : κ) (dict : List (κ × α)) :
    lookup key (dict.filter fun item => p item.1) = if p key then lookup key dict else none := by
  induction dict with
  | nil => simp [lookup]
  | cons item rest ih =>
      by_cases hkey : key = item.1
      · by_cases hp : p item.1 = true
        · simp [lookup, hkey, hp]
        · rw [List.filter_cons_of_neg (by simpa using hp), ih, if_neg (hkey ▸ hp), if_neg (hkey ▸ hp)]
      · by_cases hp : p item.1 = true
        · rw [List.filter_cons_of_pos (by simpa using hp), lookup, if_neg hkey, ih, lookup, if_neg hkey]
        · rw [List.filter_cons_of_neg (by simpa using hp), ih, lookup, if_neg hkey]

theorem lookup_erase (key key' : κ) (dict : List (κ × α)) :
    lookup key (erase key' dict) = if key = key' then none else lookup key dict := by
  have hfilter := lookup_filter (fun other => decide (other ≠ key')) key dict
  rw [erase, hfilter]
  by_cases hkey : key = key' <;> simp [hkey]

theorem Sorted.filter {items : List (κ × α)} (h : Sorted items) (p : κ × α → Bool) :
    Sorted (items.filter p) :=
  List.Pairwise.filter p h

theorem lookup_eq_none {key : κ} {dict : List (κ × α)} :
    lookup key dict = none ↔ key ∉ dict.map Prod.fst := by
  induction dict with
  | nil => simp [lookup]
  | cons item rest ih =>
      rw [lookup, List.map_cons, List.mem_cons, not_or]
      split_ifs with hkey
      · simp [hkey]
      · simp [hkey, ih]

theorem lookup_map {β : Type*} (f : κ → α → β) (key : κ) (dict : List (κ × α)) :
    lookup key (dict.map fun item => (item.1, f item.1 item.2)) = (lookup key dict).map (f key) := by
  induction dict with
  | nil => rfl
  | cons item dict ih =>
      rw [List.map_cons, lookup, lookup, ih]
      split_ifs with hkey
      · rw [hkey]
        rfl
      · rfl

theorem lookup_of_mem {dict : List (κ × α)} (hdistinct : (dict.map Prod.fst).Nodup) {key : κ}
    {value : α} (hmem : (key, value) ∈ dict) : lookup key dict = some value := by
  induction dict with
  | nil => cases hmem
  | cons item rest ih =>
      obtain ⟨hnew, hrest⟩ := List.nodup_cons.mp hdistinct
      rcases List.mem_cons.mp hmem with rfl | hmem
      · simp [lookup]
      · rw [lookup, if_neg, ih hrest hmem]
        rintro rfl
        exact hnew (List.mem_map.mpr ⟨_, hmem, rfl⟩)

theorem lookup_append (key : κ) (left right : List (κ × α)) :
    lookup key (left ++ right) = (lookup key left).or (lookup key right) := by
  induction left with
  | nil => rfl
  | cons item left ih =>
      rw [List.cons_append, lookup, lookup, ih]
      split_ifs <;> rfl

theorem isSome_lookup {key : κ} {dict : List (κ × α)} :
    (lookup key dict).isSome = true ↔ key ∈ dict.map Prod.fst := by
  rw [Option.isSome_iff_ne_none, ne_eq, lookup_eq_none, not_not]

/-- A finite map, with the order of its items. -/
structure Dict (κ α : Type*) [LinearOrder κ] where
  items : List (κ × α)
  sorted : Sorted items

namespace Dict

instance [DecidableEq α] : DecidableEq (Dict κ α) := fun left right =>
  decidable_of_iff (left.items = right.items) (by cases left; cases right; simp)

def empty : Dict κ α := ⟨[], List.Pairwise.nil⟩

def get (dict : Dict κ α) (key : κ) : Option α := lookup key dict.items

def set (dict : Dict κ α) (key : κ) (value : α) : Dict κ α :=
  ⟨insert key value dict.items, sorted_insert dict.sorted key value⟩

/-- `erase` -/
def erase (dict : Dict κ α) (key : κ) : Dict κ α :=
  ⟨SortedDict.erase key dict.items, dict.sorted.filter _⟩

/-- Assigns the items of `other`. -/
def update (dict other : Dict κ α) : Dict κ α :=
  ⟨insertAll other.items dict.items, sorted_insertAll dict.sorted⟩

/-- The items whose values map to one, with these. -/
def filterMap {β : Type*} (dict : Dict κ α) (f : α → Option β) : Dict κ β where
  items := dict.items.filterMap fun item => (f item.2).map fun value => (item.1, value)
  sorted := by
    refine List.pairwise_filterMap.mpr (dict.sorted.imp ?_)
    intro left right hlt b hb b' hb'
    obtain ⟨_, _, rfl⟩ := Option.map_eq_some_iff.mp hb
    obtain ⟨_, _, rfl⟩ := Option.map_eq_some_iff.mp hb'
    exact hlt

/-- The values, each made from its key and its value. -/
def mapWithKey {β : Type*} (dict : Dict κ α) (f : κ → α → β) : Dict κ β where
  items := dict.items.map fun item => (item.1, f item.1 item.2)
  sorted := List.pairwise_map.mpr (dict.sorted.imp fun hlt => hlt)

def keys (dict : Dict κ α) : List κ := dict.items.map Prod.fst

theorem get_mapWithKey {β : Type*} (dict : Dict κ α) (f : κ → α → β) (key : κ) :
    (dict.mapWithKey f).get key = (dict.get key).map (f key) :=
  lookup_map f key dict.items

theorem ext_get {left right : Dict κ α} (h : ∀ key, left.get key = right.get key) :
    left = right := by
  have hmem : ∀ item, item ∈ left.items ↔ item ∈ right.items := by
    intro item
    rw [← left.sorted.lookup_eq_some, ← right.sorted.lookup_eq_some]
    exact iff_of_eq (congrArg (· = some item.2) (h item.1))
  have hperm : left.items.Perm right.items :=
    (List.perm_ext_iff_of_nodup left.sorted.nodup.of_map right.sorted.nodup.of_map).mpr hmem
  have hitems : left.items = right.items := Sorted.eq_of_perm left.sorted right.sorted hperm
  cases left
  cases right
  simpa using hitems

@[simp] theorem get_empty (key : κ) : (empty : Dict κ α).get key = none := rfl

theorem get_set (dict : Dict κ α) (key key' : κ) (value : α) :
    (dict.set key' value).get key = if key = key' then some value else dict.get key :=
  lookup_insert key key' value dict.items

theorem get_erase (dict : Dict κ α) (key key' : κ) :
    (dict.erase key').get key = if key = key' then none else dict.get key :=
  lookup_erase key key' dict.items

theorem lookup_insertAll {items : List (κ × α)} (hsorted : Sorted items) (dict : List (κ × α))
    (key : κ) : lookup key (insertAll items dict) = (lookup key items).or (lookup key dict) := by
  induction items generalizing dict with
  | nil => rfl
  | cons item rest ih =>
      rw [insertAll_cons, ih hsorted.tail, lookup_insert]
      by_cases hkey : key = item.1
      · have hnone : lookup key rest = none := by
          rw [Option.eq_none_iff_forall_ne_some]
          intro value hvalue
          have hlt := (List.pairwise_cons.mp hsorted).1 _ (mem_of_lookup hvalue)
          exact absurd hkey (ne_of_gt hlt)
        simp [lookup, hkey ▸ hnone, hkey]
      · simp [lookup, hkey]

theorem get_update (dict other : Dict κ α) (key : κ) :
    (dict.update other).get key = (other.get key).or (dict.get key) :=
  lookup_insertAll other.sorted dict.items key

theorem get_eq_some {dict : Dict κ α} {key : κ} {value : α} :
    dict.get key = some value ↔ (key, value) ∈ dict.items :=
  dict.sorted.lookup_eq_some

theorem get_filterMap {β : Type*} (dict : Dict κ α) (f : α → Option β) (key : κ) :
    (dict.filterMap f).get key = (dict.get key).bind f := by
  refine Option.ext fun value => ?_
  rw [get_eq_some, Option.bind_eq_some_iff]
  simp only [filterMap, List.mem_filterMap, Option.map_eq_some_iff, Prod.mk.injEq, Prod.exists]
  constructor
  · rintro ⟨key', value', hmem, _, hf, rfl, rfl⟩
    exact ⟨value', get_eq_some.mpr hmem, hf⟩
  · rintro ⟨value', hget, hf⟩
    exact ⟨key, value', get_eq_some.mp hget, value, hf, rfl, rfl⟩

end Dict

end SortedDict
