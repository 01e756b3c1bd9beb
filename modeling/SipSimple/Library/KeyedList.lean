import Mathlib.Data.List.Dedup

/-!
# Lists of items with a key

An item carries its own key, and a list holds at most one item of a key (`Distinct`). `modify` changes
an item in place, `put` replaces the item of the same key or appends a new one, and `erase` removes.
What a list holds is read by `find`. The second part is about items with a dirty flag: an operation
`Tracks` the views of the items if the views are still the same whenever it leaves no item dirty.
-/

namespace KeyedList

variable {α κ β : Type*} (key : α → κ)

/-- No two items have the same key. -/
def Distinct (items : List α) : Prop := (items.map key).Nodup

section Distinct

variable {key}

theorem distinct_map {key' : β → κ} {f : α → β} (hkey : ∀ item, key' (f item) = key item)
    {items : List α} (h : Distinct key items) : Distinct key' (items.map f) := by
  have hkeys : (items.map f).map key' = items.map key := by
    rw [List.map_map]
    exact List.map_congr_left fun item _ => hkey item
  rw [Distinct, hkeys]
  exact h

theorem distinct_filter {items : List α} (h : Distinct key items) (p : α → Bool) :
    Distinct key (items.filter p) :=
  List.Nodup.sublist (List.filter_sublist.map key) h

theorem distinct_append {item : α} {items : List α} (h : Distinct key items)
    (hnew : key item ∉ items.map key) : Distinct key (items ++ [item]) := by
  rw [Distinct, List.map_append, List.nodup_append]
  refine ⟨h, List.nodup_singleton _, fun k hk k' hk' heq => hnew ?_⟩
  rw [List.map_singleton, List.mem_singleton] at hk'
  exact hk' ▸ heq ▸ hk

end Distinct

variable [DecidableEq κ]

instance (items : List α) : Decidable (Distinct key items) :=
  inferInstanceAs (Decidable (items.map key).Nodup)

def find (k : κ) (items : List α) : Option α := items.find? fun item => key item = k

def modify (k : κ) (f : α → α) (items : List α) : List α :=
  items.map fun item => if key item = k then f item else item

def erase (k : κ) (items : List α) : List α := items.filter fun item => key item ≠ k

/-- The item replaces an item of its key in its place, or is appended. -/
def assign (item : α) (items : List α) : List α :=
  if key item ∈ items.map key then modify key (key item) (fun _ => item) items else items ++ [item]

/-- The item takes the place of an item of its key, at the end. -/
def put (item : α) (items : List α) : List α := erase key (key item) items ++ [item]

variable {key}

theorem mem_of_find {k : κ} {items : List α} {item : α} (h : find key k items = some item) :
    item ∈ items ∧ key item = k :=
  ⟨List.mem_of_find?_eq_some h, by simpa using List.find?_some h⟩

theorem find_eq_none {k : κ} {items : List α} :
    find key k items = none ↔ k ∉ items.map key := by
  simp [find]

@[simp] theorem find_nil (k : κ) : find key k [] = none := rfl

theorem find_cons (k : κ) (item : α) (items : List α) :
    find key k (item :: items) = if key item = k then some item else find key k items := by
  simp only [find, List.find?_cons]
  split <;> simp_all

theorem find_append (k : κ) (left right : List α) :
    find key k (left ++ right) = (find key k left).or (find key k right) := by
  simp only [find, List.find?_append]

theorem find_eq_some_iff {k : κ} {items : List α} {item : α} (hdistinct : Distinct key items) :
    find key k items = some item ↔ item ∈ items ∧ key item = k := by
  refine ⟨mem_of_find, fun hitem => ?_⟩
  induction items with
  | nil => cases hitem.1
  | cons head items ih =>
      obtain ⟨hhead, hrest⟩ := List.nodup_cons.mp hdistinct
      rw [find_cons]
      rcases List.mem_cons.mp hitem.1 with rfl | hmem
      · rw [if_pos hitem.2]
      · rw [if_neg fun heq => hhead (by rw [heq, ← hitem.2]; exact List.mem_map_of_mem hmem)]
        exact ih hrest ⟨hmem, hitem.2⟩

theorem distinct_modify {f : α → α} {k : κ} (hkey : ∀ item, key item = k → key (f item) = k)
    {items : List α} (h : Distinct key items) : Distinct key (modify key k f items) := by
  refine distinct_map (fun item => ?_) h
  split_ifs with hk
  · rw [hkey item hk, hk]
  · rfl

theorem distinct_assign {item : α} {items : List α} (h : Distinct key items) :
    Distinct key (assign key item items) := by
  rw [assign]
  split_ifs with hmem
  · exact distinct_modify (fun _ _ => rfl) h
  · exact distinct_append h hmem

theorem distinct_erase {k : κ} {items : List α} (h : Distinct key items) :
    Distinct key (erase key k items) :=
  distinct_filter h _

theorem find_modify {f : α → α} {k' : κ} (hkey : ∀ item, key item = k' → key (f item) = k')
    (k : κ) (items : List α) :
    find key k (modify key k' f items) =
      if k = k' then (find key k items).map f else find key k items := by
  induction items with
  | nil => simp [modify]
  | cons head items ih =>
      simp only [modify, List.map_cons] at ih ⊢
      rw [find_cons, find_cons, ih]
      by_cases hhead : key head = k'
      · rw [if_pos hhead, hkey head hhead]
        by_cases hk : k = k'
        · simp [hhead, hk]
        · rw [if_neg (Ne.symm hk), if_neg hk, if_neg hk, if_neg (by rw [hhead]; exact Ne.symm hk)]
      · rw [if_neg hhead]
        by_cases hk : k = k'
        · rw [if_pos hk, if_pos hk, hk, if_neg hhead, if_neg hhead]
        · rw [if_neg hk, if_neg hk]

theorem find_erase (k k' : κ) (items : List α) :
    find key k (erase key k' items) = if k = k' then none else find key k items := by
  induction items with
  | nil => simp [erase]
  | cons head items ih =>
      simp only [erase, List.filter_cons] at ih ⊢
      by_cases hhead : key head = k'
      · rw [if_neg (by simpa using hhead), ih, find_cons]
        split_ifs with hk heq
        · rfl
        · exact absurd (heq.symm.trans hhead) hk
        · rfl
      · rw [if_pos (by simpa using hhead), find_cons, ih, find_cons]
        split_ifs with heq hk
        · exact absurd (heq.trans hk) hhead
        all_goals rfl

theorem find_put (k : κ) (item : α) (items : List α) :
    find key k (put key item items) = if k = key item then some item else find key k items := by
  rw [put, find_append, find_erase, find_cons, find_nil]
  split_ifs with hk heq heq
  · rfl
  · exact absurd hk.symm heq
  · exact absurd heq.symm hk
  · exact Option.or_none

theorem find_assign (k : κ) (item : α) (items : List α) :
    find key k (assign key item items) = if k = key item then some item else find key k items := by
  rw [assign]
  split_ifs with hmem hk hk
  · rw [find_modify (fun _ _ => rfl), if_pos hk, hk]
    obtain ⟨old, hold⟩ := Option.ne_none_iff_exists'.mp fun hnone => find_eq_none.mp hnone hmem
    rw [hold]
    rfl
  · rw [find_modify (fun _ _ => rfl), if_neg hk]
  · rw [find_append, find_cons, find_nil, hk, find_eq_none.mpr hmem, if_pos rfl]
    rfl
  · rw [find_append, find_cons, find_nil, if_neg (Ne.symm hk), Option.or_none]

theorem mem_modify {k : κ} {f : α → α} {items : List α} {item : α} (h : item ∈ modify key k f items) :
    ∃ old ∈ items, item = old ∨ key old = k ∧ item = f old := by
  obtain ⟨old, hmem, rfl⟩ := List.mem_map.mp h
  refine ⟨old, hmem, ?_⟩
  by_cases hk : key old = k
  · exact .inr ⟨hk, if_pos hk⟩
  · exact .inl (if_neg hk)

theorem mem_assign {item other : α} {items : List α} (h : other ∈ assign key item items) :
    other = item ∨ other ∈ items := by
  rw [assign] at h
  split_ifs at h
  · obtain ⟨old, hmem, heq | ⟨_, heq⟩⟩ := mem_modify h
    · exact .inr (heq ▸ hmem)
    · exact .inl heq
  · exact (List.mem_append.mp h).symm.imp_left List.mem_singleton.mp

theorem mem_keys_assign {item : α} {items : List α} {k : κ} :
    k ∈ (assign key item items).map key ↔ k = key item ∨ k ∈ items.map key := by
  rw [← not_iff_not, not_or, ← find_eq_none, ← find_eq_none, find_assign]
  split_ifs with hk
  · simp [hk]
  · simp [hk]

theorem mem_keys_erase {items : List α} {k k' : κ} :
    k ∈ (erase key k' items).map key ↔ k ≠ k' ∧ k ∈ items.map key := by
  rw [← not_iff_not, ← find_eq_none, find_erase]
  split_ifs with hk
  · simp [hk]
  · simp [hk, find_eq_none]

theorem distinct_put {item : α} {items : List α} (h : Distinct key items) :
    Distinct key (put key item items) := by
  refine distinct_append (distinct_erase h) fun hmem => ?_
  obtain ⟨other, hother, heq⟩ := List.mem_map.mp hmem
  have hne := (List.mem_filter.mp hother).2
  simp [heq] at hne

theorem find_filter {items : List α} (hdistinct : Distinct key items) (p : α → Bool) (k : κ) :
    find key k (items.filter p) = (find key k items).filter p := by
  refine Option.ext fun item => ?_
  rw [find_eq_some_iff (distinct_filter hdistinct p), Option.filter_eq_some_iff, find_eq_some_iff hdistinct,
    List.mem_filter]
  exact and_right_comm

theorem find_map {key' : β → κ} {f : α → β} (hkey : ∀ item, key' (f item) = key item)
    (items : List α) (k : κ) : find key' k (items.map f) = (find key k items).map f := by
  induction items with
  | nil => rfl
  | cons head items ih =>
      rw [List.map_cons, find_cons, find_cons, ih, hkey]
      split_ifs <;> rfl

/-- Two lists of distinct keys with the same item for every key. -/
theorem perm_of_find {left right : List α} (hleft : Distinct key left) (hright : Distinct key right)
    (h : ∀ k, find key k left = find key k right) : left.Perm right := by
  refine (List.perm_ext_iff_of_nodup hleft.of_map hright.of_map).mpr fun item => ?_
  have hmem := congrArg (· = some item) (h (key item))
  simpa [find_eq_some_iff hleft, find_eq_some_iff hright] using hmem

theorem find_perm {left right : List α} (hleft : Distinct key left) (h : left.Perm right) (k : κ) :
    find key k left = find key k right := by
  have hright : Distinct key right := (h.map key).nodup_iff.mp hleft
  refine Option.ext fun item => ?_
  rw [find_eq_some_iff hleft, find_eq_some_iff hright, h.mem_iff]

/-! ### Collections -/

/-- A dictionary of items by their keys. -/
structure Collection (key : α → κ) where
  items : List α
  distinct : Distinct key items

namespace Collection

variable {key : α → κ}

def empty : Collection key := ⟨[], List.nodup_nil⟩

def get (collection : Collection key) (k : κ) : Option α := find key k collection.items

def set (collection : Collection key) (item : α) : Collection key :=
  ⟨assign key item collection.items, distinct_assign collection.distinct⟩

def remove (collection : Collection key) (k : κ) : Collection key :=
  ⟨erase key k collection.items, distinct_erase collection.distinct⟩

def map (collection : Collection key) (f : α → α) (hkey : ∀ item, key (f item) = key item) :
    Collection key :=
  ⟨collection.items.map f, distinct_map hkey collection.distinct⟩

def keys (collection : Collection key) : List κ := collection.items.map key

@[simp] theorem get_empty (k : κ) : (empty : Collection key).get k = none := rfl

theorem get_set (collection : Collection key) (item : α) (k : κ) :
    (collection.set item).get k = if k = key item then some item else collection.get k :=
  find_assign k item collection.items

@[simp] theorem get_set_self (collection : Collection key) (item : α) :
    (collection.set item).get (key item) = some item := by
  rw [get_set, if_pos rfl]

theorem get_set_of_ne (collection : Collection key) {item : α} {k : κ} (hne : k ≠ key item) :
    (collection.set item).get k = collection.get k := by
  rw [get_set, if_neg hne]

theorem get_remove (collection : Collection key) (k k' : κ) :
    (collection.remove k').get k = if k = k' then none else collection.get k :=
  find_erase k k' collection.items

theorem get_map (collection : Collection key) {f : α → α} (hkey : ∀ item, key (f item) = key item)
    (k : κ) : (collection.map f hkey).get k = (collection.get k).map f :=
  find_map hkey collection.items k

theorem key_of_get {collection : Collection key} {k : κ} {item : α}
    (h : collection.get k = some item) : key item = k := (mem_of_find h).2

theorem mem_of_get {collection : Collection key} {k : κ} {item : α}
    (h : collection.get k = some item) : item ∈ collection.items := (mem_of_find h).1

theorem get_of_mem {collection : Collection key} {item : α} (h : item ∈ collection.items) :
    collection.get (key item) = some item :=
  (find_eq_some_iff collection.distinct).mpr ⟨h, rfl⟩

end Collection

/-! ### Views of items with a dirty flag -/

section Tracks

variable (dirty : α → Bool) (view : α → β)

/-- If no item is dirty afterwards, then none was before and the items show the same views. -/
def Tracks (before after : List α) : Prop :=
  (∀ item ∈ after, dirty item = false) →
    (∀ item ∈ before, dirty item = false) ∧ ∀ v, v ∈ after.map view ↔ v ∈ before.map view

variable {dirty view}

theorem Tracks.refl (items : List α) : Tracks dirty view items items :=
  fun hclean => ⟨hclean, fun _ => Iff.rfl⟩

theorem Tracks.trans {first second third : List α} (hleft : Tracks dirty view first second)
    (hright : Tracks dirty view second third) : Tracks dirty view first third := by
  intro hclean
  obtain ⟨hsecond, hviews⟩ := hright hclean
  obtain ⟨hfirst, hviews'⟩ := hleft hsecond
  exact ⟨hfirst, fun v => (hviews v).trans (hviews' v)⟩

/-- A change of an item that leaves it clean only if it was clean and shows what it showed. -/
theorem tracks_modify {f : α → α}
    (hf : ∀ item, dirty (f item) = false → dirty item = false ∧ view (f item) = view item)
    (k : κ) (items : List α) : Tracks dirty view items (modify key k f items) := by
  intro hclean
  have hitem : ∀ item ∈ items, dirty item = false ∧
      view (if key item = k then f item else item) = view item := by
    intro item hmem
    have hclean' := hclean _ (List.mem_map_of_mem hmem)
    split_ifs at hclean' ⊢ with hk
    · exact hf item hclean'
    · exact ⟨hclean', rfl⟩
  have hviews : (modify key k f items).map view = items.map view := by
    rw [modify, List.map_map]
    exact List.map_congr_left fun item hmem => (hitem item hmem).2
  exact ⟨fun item hmem => (hitem item hmem).1, fun v => by rw [hviews]⟩

/-- An item that is clean only if it replaces a clean item of its key with the same view. -/
theorem tracks_put {item : α} {items : List α}
    (hitem : dirty item = false → ∃ old, find key (key item) items = some old ∧
      dirty old = false ∧ view item = view old)
    (hdistinct : Distinct key items) : Tracks dirty view items (put key item items) := by
  intro hclean
  obtain ⟨old, hfind, hold, hview⟩ := hitem (hclean item (by simp [put]))
  obtain ⟨hmem, hkey⟩ := mem_of_find hfind
  have hother : ∀ other ∈ items, other ∈ erase key (key item) items ∨ other = old := by
    intro other hother
    by_cases heq : key other = key item
    · have := (find_eq_some_iff hdistinct).mpr ⟨hother, heq⟩
      exact Or.inr (Option.some.inj (this.symm.trans hfind))
    · exact Or.inl (List.mem_filter.mpr ⟨hother, by simpa using heq⟩)
  refine ⟨fun other hmem' => ?_, fun v => ⟨fun hv => ?_, fun hv => ?_⟩⟩
  · rcases hother other hmem' with h | rfl
    · exact hclean other (List.mem_append_left _ h)
    · exact hold
  · obtain ⟨other, hother', rfl⟩ := List.mem_map.mp hv
    rcases List.mem_append.mp hother' with h | h
    · exact List.mem_map_of_mem (List.mem_of_mem_filter h)
    · rw [List.mem_singleton.mp h, hview]
      exact List.mem_map_of_mem hmem
  · obtain ⟨other, hother', rfl⟩ := List.mem_map.mp hv
    rcases hother other hother' with h | rfl
    · exact List.mem_map_of_mem (List.mem_append_left _ h)
    · rw [← hview]
      exact List.mem_map_of_mem (by simp [put])

end Tracks

end KeyedList
