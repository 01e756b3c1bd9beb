import SipSimple.Configuration.Manager

/-!
# What an update leaves in the tree

What is found at a path after an update depends on what was there before and on what the state says at
that path only. An update puts no empty dictionary into the tree, except under a `PersistentKey`; one that
was there before stays if the state does not mention it, like everything else.
-/

namespace SipSimple.Configuration

open SortedDict (insert lookup erase insertAll)

/-! ### Paths -/

/-- What is at the path below a value, if there is one. -/
def getAt (data : Option Data) (path : List Unicode) : Option Data := data.bind (·.get? path)

def childrenOf : Option Data → Items
  | some (.dict items) => items
  | _ => []

@[simp] theorem getAt_nil (data : Option Data) : getAt data [] = data := by
  cases data with
  | none => rfl
  | some data => cases data <;> rfl

theorem getAt_cons (data : Option Data) (key : Unicode) (path : List Unicode) :
    getAt data (key :: path) = getAt (lookup key (childrenOf data)) path := by
  cases data with
  | none => rfl
  | some data =>
      cases data with
      | dict items =>
          rw [getAt, Option.bind_some, Data.get?, childrenOf]
          cases lookup key items <;> rfl
      | none => rfl
      | unicode value => rfl
      | list items => rfl

theorem getAt_append (data : Option Data) (path rest : List Unicode) :
    getAt data (path ++ rest) = getAt (getAt data path) rest := by
  induction path generalizing data with
  | nil => rw [List.nil_append, getAt_nil]
  | cons key path ih => rw [List.cons_append, getAt_cons, getAt_cons, ih]

theorem subtree_eq (key : Unicode) (data : Items) :
    subtree key data = childrenOf (lookup key data) := rfl

/-- What the state says at a path. -/
def State.at : State → List Unicode → Option State
  | state, [] => some state
  | .dict items, key :: path | .container items, key :: path =>
      match lookup key items with
      | some state => state.at path
      | none => none
  | _, _ :: _ => none

/-- The path leaves the dictionaries of the state at a key that it does not mention. -/
def State.Untouched : State → List Unicode → Prop
  | .dict items, key :: path =>
      match lookup key items with
      | some state => state.Untouched path
      | none => True
  | .container items, key :: path =>
      match lookup key items with
      | some state => state.Untouched path
      | none => False
  | _, _ => False

/-- A value, or an empty dictionary. -/
def Data.terminal : Data → Bool
  | .dict items => items.isEmpty
  | _ => true

/-- Something of the item is left: a value that it mentions, or what was there and is not mentioned. -/
def State.Keeps (state : State) (old : Option Data) : Prop :=
  (∃ path value, state.at path = some (.plain value)) ∨
    ∃ path data, getAt old path = some data ∧ data.terminal = true ∧ state.Untouched path

/-! ### Below the path of the update -/

/-- A dictionary that is there unless it is empty. -/
def bundle (items : Items) : Option Data := if items.isEmpty then none else some (.dict items)

/-- What an update leaves under a key. -/
def mergeAt (old : Option Data) : State → Option Data
  | .plain value => some value.data
  | .default => none
  | .dict items => bundle (updateDict (childrenOf old) items)
  | .container items =>
      bundle (updateDict ((childrenOf old).filter fun item => item.1 ∈ items.map Prod.fst) items)

theorem childrenOf_bundle (items : Items) : childrenOf (bundle items) = items := by
  cases items <;> rfl

theorem lookup_putSubtree (key : Key) (items data : Items) (k : Unicode) :
    lookup k (putSubtree key items data) =
      if k = key.name then (if key.persistent then some (.dict items) else bundle items)
      else lookup k data := by
  rw [putSubtree, bundle]
  by_cases hpersistent : key.persistent = true <;> by_cases hempty : items.isEmpty = true <;>
    simp [hpersistent, hempty, SortedDict.lookup_insert, SortedDict.lookup_erase]

theorem lookup_updateKey (data : Items) (key : Unicode) (state : State) (k : Unicode) :
    lookup k (updateKey data key state) =
      if k = key then mergeAt (lookup key data) state else lookup k data := by
  cases state with
  | plain value =>
      by_cases hk : k = key <;> simp [updateKey, mergeAt, SortedDict.lookup_insert, hk]
  | default => by_cases hk : k = key <;> simp [updateKey, mergeAt, SortedDict.lookup_erase, hk]
  | dict items => exact lookup_putSubtree ⟨key, false⟩ _ data k
  | container items => exact lookup_putSubtree ⟨key, false⟩ _ data k

/-- **One dictionary of the state.** -/
theorem lookup_updateDict {items : StateItems} (hdistinct : (items.map Prod.fst).Nodup)
    (data : Items) (k : Unicode) :
    lookup k (updateDict data items) =
      match lookup k items with
      | some state => mergeAt (lookup k data) state
      | none => lookup k data := by
  induction items generalizing data with
  | nil => rfl
  | cons item items ih =>
      obtain ⟨key, state⟩ := item
      obtain ⟨hnew, hdistinct⟩ := List.nodup_cons.mp hdistinct
      rw [updateDict, updateItem, ih hdistinct, lookup, lookup_updateKey]
      split_ifs with hk
      · have hnone : lookup k items = none := SortedDict.lookup_eq_none.mpr (hk ▸ hnew)
        rw [hnone, hk]
      · rfl

theorem State.distinct_of_lookup {items : StateItems} (h : StateItemsDistinct items) {key : Unicode}
    {state : State} (hlookup : lookup key items = some state) : state.Distinct := by
  induction items with
  | nil => cases hlookup
  | cons item items ih =>
      rw [StateItemsDistinct] at h
      rw [lookup] at hlookup
      split_ifs at hlookup with hkey
      · obtain rfl : item.2 = state := Option.some.inj hlookup
        obtain ⟨hitem, _⟩ := h
        rwa [StateItemDistinct] at hitem
      · exact ih h.2 hlookup

theorem lookup_mergeAt_dict {items : StateItems} (hdistinct : (State.dict items).Distinct)
    (old : Option Data) (k : Unicode) :
    lookup k (childrenOf (mergeAt old (.dict items))) =
      match lookup k items with
      | some state => mergeAt (lookup k (childrenOf old)) state
      | none => lookup k (childrenOf old) := by
  rw [State.Distinct] at hdistinct
  rw [mergeAt, childrenOf_bundle, lookup_updateDict hdistinct.1]

theorem lookup_mergeAt_container {items : StateItems} (hdistinct : (State.container items).Distinct)
    (old : Option Data) (k : Unicode) :
    lookup k (childrenOf (mergeAt old (.container items))) =
      match lookup k items with
      | some state => mergeAt (lookup k (childrenOf old)) state
      | none => none := by
  rw [State.Distinct] at hdistinct
  have hfilter := SortedDict.lookup_filter (fun key => decide (key ∈ items.map Prod.fst)) k
    (childrenOf old)
  rw [mergeAt, childrenOf_bundle, lookup_updateDict hdistinct.1, hfilter]
  cases hlookup : lookup k items with
  | none => rw [if_neg (by simpa using SortedDict.lookup_eq_none.mp hlookup)]
  | some state =>
      have hmem : k ∈ items.map Prod.fst := by
        by_contra hnot
        rw [SortedDict.lookup_eq_none.mpr hnot] at hlookup
        cases hlookup
      rw [if_pos (by simpa using hmem)]

/-- Where the state says something, only that matters. -/
theorem getAt_mergeAt {state : State} (hdistinct : state.Distinct) {path : List Unicode}
    {said : State} (hsaid : state.at path = some said) (old : Option Data) :
    getAt (mergeAt old state) path = mergeAt (getAt old path) said := by
  induction path generalizing state old with
  | nil =>
      rw [State.at] at hsaid
      rw [getAt_nil, getAt_nil, Option.some.inj hsaid]
  | cons key path ih =>
      rw [getAt_cons, getAt_cons]
      cases state with
      | plain value => cases hsaid
      | default => cases hsaid
      | dict items =>
          rw [lookup_mergeAt_dict hdistinct]
          rw [State.at] at hsaid
          rw [State.Distinct] at hdistinct
          cases hlookup : lookup key items with
          | none =>
              rw [hlookup] at hsaid
              cases hsaid
          | some below =>
              rw [hlookup] at hsaid
              exact ih (State.distinct_of_lookup hdistinct.2 hlookup) hsaid _
      | container items =>
          rw [lookup_mergeAt_container hdistinct]
          rw [State.at] at hsaid
          rw [State.Distinct] at hdistinct
          cases hlookup : lookup key items with
          | none =>
              rw [hlookup] at hsaid
              cases hsaid
          | some below =>
              rw [hlookup] at hsaid
              exact ih (State.distinct_of_lookup hdistinct.2 hlookup) hsaid _

/-- What the state does not mention stays. -/
theorem getAt_untouched {state : State} (hdistinct : state.Distinct) {path : List Unicode}
    (huntouched : state.Untouched path) (old : Option Data) :
    getAt (mergeAt old state) path = getAt old path := by
  induction path generalizing state old with
  | nil => cases state <;> exact huntouched.elim
  | cons key path ih =>
      rw [getAt_cons, getAt_cons]
      cases state with
      | plain value => exact huntouched.elim
      | default => exact huntouched.elim
      | dict items =>
          rw [lookup_mergeAt_dict hdistinct]
          rw [State.Untouched] at huntouched
          rw [State.Distinct] at hdistinct
          cases hlookup : lookup key items with
          | none => rfl
          | some below =>
              rw [hlookup] at huntouched
              exact ih (State.distinct_of_lookup hdistinct.2 hlookup) huntouched _
      | container items =>
          rw [lookup_mergeAt_container hdistinct]
          rw [State.Untouched] at huntouched
          rw [State.Distinct] at hdistinct
          cases hlookup : lookup key items with
          | none =>
              rw [hlookup] at huntouched
              exact huntouched.elim
          | some below =>
              rw [hlookup] at huntouched
              exact ih (State.distinct_of_lookup hdistinct.2 hlookup) huntouched _

theorem bundle_ne_terminal {items : Items} {data : Data} (h : bundle items = some data) :
    data.terminal = false := by
  rw [bundle] at h
  split_ifs at h with hempty
  obtain rfl : Data.dict items = data := Option.some.inj h
  simpa [Data.terminal] using hempty

theorem Plain.terminal_data (value : Plain) : value.data.terminal = true := by
  cases value <;> rfl

/-- **The values and empty dictionaries after an update.** -/
theorem getAt_terminal {state : State} (hdistinct : state.Distinct) {path : List Unicode}
    {old : Option Data} {data : Data} (hterminal : data.terminal = true) :
    getAt (mergeAt old state) path = some data ↔
      (∃ value, state.at path = some (.plain value) ∧ value.data = data) ∨
        getAt old path = some data ∧ state.Untouched path := by
  induction path generalizing state old with
  | nil =>
      rw [getAt_nil, getAt_nil]
      cases state with
      | plain value => simp [mergeAt, State.at, State.Untouched]
      | default => simp [mergeAt, State.at, State.Untouched]
      | dict items =>
          have hne : mergeAt old (.dict items) ≠ some data := fun heq =>
            Bool.false_ne_true ((bundle_ne_terminal heq).symm.trans hterminal)
          simp [hne, State.at, State.Untouched]
      | container items =>
          have hne : mergeAt old (.container items) ≠ some data := fun heq =>
            Bool.false_ne_true ((bundle_ne_terminal heq).symm.trans hterminal)
          simp [hne, State.at, State.Untouched]
  | cons key path ih =>
      rw [getAt_cons, getAt_cons]
      cases state with
      | plain value =>
          have hnone : lookup key (childrenOf (mergeAt old (.plain value))) = none := by
            cases value <;> rfl
          simp [hnone, getAt, State.at, State.Untouched]
      | default => simp [mergeAt, childrenOf, lookup, getAt, State.at, State.Untouched]
      | dict items =>
          rw [lookup_mergeAt_dict hdistinct, State.at, State.Untouched]
          rw [State.Distinct] at hdistinct
          cases hlookup : lookup key items with
          | none => simp
          | some below => exact ih (State.distinct_of_lookup hdistinct.2 hlookup)
      | container items =>
          rw [lookup_mergeAt_container hdistinct, State.at, State.Untouched]
          rw [State.Distinct] at hdistinct
          cases hlookup : lookup key items with
          | none => simp [getAt]
          | some below => exact ih (State.distinct_of_lookup hdistinct.2 hlookup)

/-- Every tree ends in a value or in an empty dictionary. -/
theorem Data.exists_terminal : ∀ data : Data,
    ∃ path found, data.get? path = some found ∧ found.terminal = true
  | .none => ⟨[], .none, rfl, rfl⟩
  | .unicode value => ⟨[], .unicode value, rfl, rfl⟩
  | .list items => ⟨[], .list items, rfl, rfl⟩
  | .dict [] => ⟨[], .dict [], rfl, rfl⟩
  | .dict ((key, below) :: items) => by
      obtain ⟨path, found, hget, hterminal⟩ := below.exists_terminal
      refine ⟨key :: path, found, ?_, hterminal⟩
      rw [Data.get?, lookup, if_pos rfl]
      exact hget

/-- An item is stored if something of it is left. -/
theorem isSome_mergeAt {state : State} (hdistinct : state.Distinct) (old : Option Data) :
    (mergeAt old state).isSome = true ↔ state.Keeps old := by
  constructor
  · intro hsome
    obtain ⟨data, hdata⟩ := Option.isSome_iff_exists.mp hsome
    obtain ⟨path, found, hget, hterminal⟩ := data.exists_terminal
    have hat : getAt (mergeAt old state) path = some found := by
      rw [hdata]
      exact hget
    rcases (getAt_terminal hdistinct hterminal).mp hat with ⟨value, hvalue, _⟩ | ⟨hold, huntouched⟩
    · exact Or.inl ⟨path, value, hvalue⟩
    · exact Or.inr ⟨path, found, hold, hterminal, huntouched⟩
  · intro hkeeps
    obtain ⟨path, data, hat⟩ : ∃ path data, getAt (mergeAt old state) path = some data := by
      rcases hkeeps with ⟨path, value, hvalue⟩ | ⟨path, data, hold, hterminal, huntouched⟩
      · exact ⟨path, value.data,
          (getAt_terminal hdistinct value.terminal_data).mpr (Or.inl ⟨value, hvalue, rfl⟩)⟩
      · exact ⟨path, data, (getAt_terminal hdistinct hterminal).mpr (Or.inr ⟨hold, huntouched⟩)⟩
    cases hmerge : mergeAt old state with
    | none =>
        rw [hmerge] at hat
        cases hat
    | some data => rfl

/-! ### Dictionaries -/

/-- Every dictionary of the tree is in the order of its keys. -/
def Ordered (data : Option Data) : Prop :=
  ∀ path, SortedDict.Sorted (childrenOf (getAt data path))

theorem Ordered.children {data : Option Data} (h : Ordered data) :
    SortedDict.Sorted (childrenOf data) := by
  have hhere := h []
  rwa [getAt_nil] at hhere

theorem Ordered.lookup {data : Option Data} (h : Ordered data) (key : Unicode) :
    Ordered (lookup key (childrenOf data)) := by
  intro path
  rw [← getAt_cons]
  exact h (key :: path)

theorem ordered_iff {data : Option Data} :
    Ordered data ↔ SortedDict.Sorted (childrenOf data) ∧
      ∀ key, Ordered (SortedDict.lookup key (childrenOf data)) := by
  refine ⟨fun h => ⟨h.children, h.lookup⟩, fun ⟨hhere, hbelow⟩ path => ?_⟩
  cases path with
  | nil => rwa [getAt_nil]
  | cons key path =>
      rw [getAt_cons]
      exact hbelow key path

theorem ordered_none : Ordered none := fun path => by
  cases path <;> exact List.Pairwise.nil

theorem sorted_putSubtree {data : Items} (h : SortedDict.Sorted data) (key : Key) (items : Items) :
    SortedDict.Sorted (putSubtree key items data) := by
  rw [putSubtree]
  split_ifs
  · exact h.filter _
  · exact SortedDict.sorted_insert h _ _

theorem sorted_updateDict {data : Items} (h : SortedDict.Sorted data) (items : StateItems) :
    SortedDict.Sorted (updateDict data items) := by
  induction items generalizing data with
  | nil => exact h
  | cons item items ih =>
      obtain ⟨key, state⟩ := item
      rw [updateDict, updateItem]
      refine ih ?_
      cases state with
      | plain value => exact SortedDict.sorted_insert h key _
      | default => exact h.filter _
      | dict below | container below => exact sorted_putSubtree h ⟨key, false⟩ _

theorem Plain.ordered (value : Plain) : Ordered (some value.data) := fun path => by
  cases path <;> cases value <;> exact List.Pairwise.nil

/-- An update keeps the order. -/
theorem Ordered.mergeAt {old : Option Data} (h : Ordered old) {state : State}
    (hdistinct : state.Distinct) : Ordered (mergeAt old state) := by
  intro path
  induction path generalizing old state with
  | nil =>
      rw [getAt_nil]
      cases state with
      | plain value => exact (Plain.ordered value).children
      | default => exact List.Pairwise.nil
      | dict items =>
          rw [Configuration.mergeAt, childrenOf_bundle]
          exact sorted_updateDict h.children items
      | container items =>
          rw [Configuration.mergeAt, childrenOf_bundle]
          exact sorted_updateDict (h.children.filter _) items
  | cons key path ih =>
      cases state with
      | plain value => exact Plain.ordered value (key :: path)
      | default => exact ordered_none (key :: path)
      | dict items =>
          rw [getAt_cons, lookup_mergeAt_dict hdistinct]
          rw [State.Distinct] at hdistinct
          cases hlookup : SortedDict.lookup key items with
          | none => exact h.lookup key path
          | some below => exact ih (h.lookup key) (State.distinct_of_lookup hdistinct.2 hlookup)
      | container items =>
          rw [getAt_cons, lookup_mergeAt_container hdistinct]
          rw [State.Distinct] at hdistinct
          cases hlookup : SortedDict.lookup key items with
          | none => exact ordered_none path
          | some below => exact ih (h.lookup key) (State.distinct_of_lookup hdistinct.2 hlookup)

/-! ### The path of the update -/

/-- No value that is not a dictionary is on the path. -/
def Clear (data : Items) : List Key → Prop
  | [] => True
  | key :: path =>
      match lookup key.name data with
      | none => Clear [] path
      | some (.dict items) => Clear items path
      | some _ => False

/-- The path leaves the other one at some key. -/
def Diverges : List Unicode → List Key → Prop
  | name :: rest, key :: path => name ≠ key.name ∨ Diverges rest path
  | _, _ => False

/-- The beginning of the path that ends with a `PersistentKey`. -/
def PersistentPrefix (names : List Unicode) (path : List Key) : Prop :=
  ∃ before key after, path = before ++ key :: after ∧ key.persistent = true ∧
    names = (before ++ [key]).map Key.name

/-- The dictionary at the path, or an empty one. -/
def itemsAt (data : Items) : List Key → Items
  | [] => data
  | key :: path => itemsAt (subtree key.name data) path

/-- The tree after an update that does not raise. -/
def updated (data : Items) (state : StateItems) : List Key → Items
  | [] => updateDict data state
  | key :: path => putSubtree key (updated (subtree key.name data) state path) data

theorem update_eq {data : Items} {path : List Key} (state : StateItems) (hpath : path ≠ [])
    (hclear : Clear data path) : update data path state = some (updated data state path) := by
  induction path generalizing data with
  | nil => exact absurd rfl hpath
  | cons key path ih =>
      rw [Clear] at hclear
      cases path with
      | nil =>
          rw [update, updated, updated, subtree]
          cases hlookup : lookup key.name data with
          | none => rfl
          | some found =>
              rw [hlookup] at hclear
              cases found with
              | dict items => rfl
              | none => exact hclear.elim
              | unicode value => exact hclear.elim
              | list items => exact hclear.elim
      | cons next path =>
          have hnext : update data (key :: next :: path) state =
              match lookup key.name data with
              | none => (update [] (next :: path) state).map fun items => putSubtree key items data
              | some (.dict items) =>
                  (update items (next :: path) state).map fun items => putSubtree key items data
              | some _ => none := rfl
          rw [hnext, updated, subtree]
          cases hlookup : lookup key.name data with
          | none =>
              rw [hlookup] at hclear
              simp only [ih (List.cons_ne_nil _ _) hclear, Option.map_some]
          | some found =>
              rw [hlookup] at hclear
              cases found with
              | dict items => simp only [ih (List.cons_ne_nil _ _) hclear, Option.map_some]
              | none => exact hclear.elim
              | unicode value => exact hclear.elim
              | list items => exact hclear.elim

theorem getAt_congr {left right : Option Data} (h : childrenOf left = childrenOf right)
    {path : List Unicode} (hpath : path ≠ []) : getAt left path = getAt right path := by
  cases path with
  | nil => exact absurd rfl hpath
  | cons key path => rw [getAt_cons, getAt_cons, h]

theorem childrenOf_putSubtree (key : Key) (items data : Items) :
    childrenOf (lookup key.name (putSubtree key items data)) = items := by
  rw [lookup_putSubtree, if_pos rfl]
  split_ifs
  · rfl
  · exact childrenOf_bundle items

/-- Under the first key of the path there is what the update leaves below it. -/
theorem getAt_updated_cons (data : Items) (state : StateItems) (key : Key) (path : List Key)
    {rest : List Unicode} (hrest : rest ≠ []) :
    getAt (some (.dict (updated data state (key :: path)))) (key.name :: rest) =
      getAt (some (.dict (updated (subtree key.name data) state path))) rest := by
  have hchildren : childrenOf (lookup key.name (putSubtree key
      (updated (subtree key.name data) state path) data)) =
        childrenOf (some (.dict (updated (subtree key.name data) state path))) :=
    childrenOf_putSubtree key _ data
  rw [getAt_cons]
  exact getAt_congr hchildren hrest

theorem getAt_subtree (data : Items) (key : Unicode) {rest : List Unicode} (hrest : rest ≠ []) :
    getAt (some (.dict data)) (key :: rest) = getAt (some (.dict (subtree key data))) rest := by
  have hchildren : childrenOf (lookup key data) = childrenOf (some (.dict (subtree key data))) := rfl
  rw [getAt_cons]
  exact getAt_congr hchildren hrest

/-- Under another key there is what was there. -/
theorem getAt_updated_of_ne (data : Items) (state : StateItems) {key : Key} (path : List Key)
    {name : Unicode} (hname : name ≠ key.name) (rest : List Unicode) :
    getAt (some (.dict (updated data state (key :: path)))) (name :: rest) =
      getAt (some (.dict data)) (name :: rest) := by
  have hlookup := lookup_putSubtree key (updated (subtree key.name data) state path) data name
  rw [if_neg hname] at hlookup
  rw [getAt_cons, getAt_cons, updated, childrenOf, hlookup]
  rfl

/-- Below the path. -/
theorem getAt_updated_below (data : Items) (state : StateItems) (path : List Key)
    {rest : List Unicode} (hrest : rest ≠ []) :
    getAt (some (.dict (updated data state path))) (path.map Key.name ++ rest) =
      getAt (mergeAt (some (.dict (itemsAt data path))) (.dict state)) rest := by
  induction path generalizing data with
  | nil =>
      have hchildren : childrenOf (some (.dict (updateDict data state))) =
          childrenOf (mergeAt (some (.dict data)) (.dict state)) := (childrenOf_bundle _).symm
      exact getAt_congr hchildren hrest
  | cons key path ih =>
      rw [List.map_cons, List.cons_append, itemsAt, ← ih]
      exact getAt_updated_cons data state key path (List.append_ne_nil_of_right_ne_nil _ hrest)

theorem getAt_itemsAt (data : Items) (path : List Key) {rest : List Unicode} (hrest : rest ≠ []) :
    getAt (some (.dict data)) (path.map Key.name ++ rest) =
      getAt (some (.dict (itemsAt data path))) rest := by
  induction path generalizing data with
  | nil => rfl
  | cons key path ih =>
      rw [List.map_cons, List.cons_append, itemsAt, ← ih]
      exact getAt_subtree data key.name (List.append_ne_nil_of_right_ne_nil _ hrest)

theorem Diverges.ne_nil {other : List Unicode} {path : List Key} (h : Diverges other path) :
    other ≠ [] := by
  rintro rfl
  cases path <;> exact h.elim

theorem getAt_updated_elsewhere (data : Items) (state : StateItems) {path : List Key}
    {other : List Unicode} (hdiverges : Diverges other path) :
    getAt (some (.dict (updated data state path))) other = getAt (some (.dict data)) other := by
  induction path generalizing data other with
  | nil => cases other <;> exact hdiverges.elim
  | cons key path ih =>
      cases other with
      | nil => exact hdiverges.elim
      | cons name rest =>
          by_cases hname : name = key.name
          · have hrest : Diverges rest path := Or.resolve_left hdiverges (not_not_intro hname)
            rw [hname, getAt_updated_cons data state key path hrest.ne_nil, ih _ hrest,
              getAt_subtree data key.name hrest.ne_nil]
          · exact getAt_updated_of_ne data state path hname rest

/-- The empty dictionaries. -/
theorem getAt_updated_empty {data : Items} {state : StateItems}
    (hdistinct : (State.dict state).Distinct) {path : List Key} {other : List Unicode}
    (hother : other ≠ [])
    (hempty : getAt (some (.dict (updated data state path))) other = some (.dict [])) :
    PersistentPrefix other path ∨ getAt (some (.dict data)) other = some (.dict []) ∧
      (Diverges other path ∨
        ∃ rest, other = path.map Key.name ++ rest ∧ (State.dict state).Untouched rest) := by
  induction path generalizing data other with
  | nil =>
      have hbelow := getAt_updated_below data state [] hother
      rw [List.map_nil, List.nil_append, hempty, itemsAt, eq_comm] at hbelow
      rcases (getAt_terminal hdistinct rfl).mp hbelow with ⟨value, _, hvalue⟩ | ⟨hold, huntouched⟩
      · cases value <;> cases hvalue
      · exact Or.inr ⟨hold, Or.inr ⟨other, rfl, huntouched⟩⟩
  | cons key path ih =>
      cases other with
      | nil => exact absurd rfl hother
      | cons name rest =>
          by_cases hname : name = key.name
          · by_cases hrest : rest = []
            · rw [hname, hrest, getAt_cons, updated, childrenOf, getAt_nil, lookup_putSubtree,
                if_pos rfl] at hempty
              have hpersistent : key.persistent = true := by
                by_contra hnot
                rw [if_neg hnot] at hempty
                exact Bool.false_ne_true (bundle_ne_terminal hempty).symm
              exact Or.inl ⟨[], key, path, rfl, hpersistent, by simp [hname, hrest]⟩
            · rw [hname, getAt_updated_cons data state key path hrest] at hempty
              rw [hname, getAt_subtree data key.name hrest]
              refine (ih hrest hempty).imp ?_ (And.imp_right (Or.imp Or.inr ?_))
              · rintro ⟨before, last, after, rfl, hpersistent, rfl⟩
                exact ⟨key :: before, last, after, rfl, hpersistent, rfl⟩
              · rintro ⟨below, rfl, huntouched⟩
                exact ⟨below, rfl, huntouched⟩
          · rw [getAt_updated_of_ne data state path hname rest] at hempty
            exact Or.inr ⟨hempty, Or.inl (Or.inl hname)⟩

/-! ### The update -/

/-- What the tree is after an update. -/
structure Merged (data : Items) (path : List Key) (state : StateItems) (data' : Items) : Prop where
  plain : ∀ rest value, (State.dict state).at rest = some (.plain value) →
    getAt (some (.dict data')) (path.map Key.name ++ rest) = some value.data
  default : ∀ rest, (State.dict state).at rest = some .default →
    getAt (some (.dict data')) (path.map Key.name ++ rest) = none
  container : ∀ rest items, (State.dict state).at rest = some (.container items) → ∀ id,
    (getAt (some (.dict data')) (path.map Key.name ++ (rest ++ [id]))).isSome = true ↔
      ∃ item, lookup id items = some item ∧
        item.Keeps (getAt (some (.dict data)) (path.map Key.name ++ (rest ++ [id])))
  untouched : ∀ rest, (State.dict state).Untouched rest →
    getAt (some (.dict data')) (path.map Key.name ++ rest) =
      getAt (some (.dict data)) (path.map Key.name ++ rest)
  elsewhere : ∀ other, Diverges other path →
    getAt (some (.dict data')) other = getAt (some (.dict data)) other
  empty : ∀ other ≠ [], getAt (some (.dict data')) other = some (.dict []) →
    PersistentPrefix other path ∨ getAt (some (.dict data)) other = some (.dict []) ∧
      (Diverges other path ∨
        ∃ rest, other = path.map Key.name ++ rest ∧ (State.dict state).Untouched rest)

theorem State.distinct_at {state : State} (hdistinct : state.Distinct) {path : List Unicode}
    {said : State} (hsaid : state.at path = some said) : said.Distinct := by
  induction path generalizing state with
  | nil => exact Option.some.inj hsaid ▸ hdistinct
  | cons key path ih =>
      cases state with
      | plain value => cases hsaid
      | default => cases hsaid
      | dict items | container items =>
          rw [State.at] at hsaid
          rw [State.Distinct] at hdistinct
          cases hlookup : lookup key items with
          | none =>
              rw [hlookup] at hsaid
              cases hsaid
          | some below =>
              rw [hlookup] at hsaid
              exact ih (State.distinct_of_lookup hdistinct.2 hlookup) hsaid

/-- **The merge semantics of an update.** -/
theorem update_merged (data : Items) {path : List Key} (hpath : path ≠ []) (hclear : Clear data path)
    {state : StateItems} (hdistinct : (State.dict state).Distinct) :
    ∃ data', update data path state = some data' ∧ Merged data path state data' := by
  refine ⟨updated data state path, update_eq state hpath hclear, ?_⟩
  have hnonempty : ∀ {rest said}, (State.dict state).at rest = some said →
      (∀ items, said ≠ .dict items) → rest ≠ [] := by
    rintro rest said hsaid hdict rfl
    exact hdict state (Option.some.inj hsaid).symm
  refine ⟨fun rest value hsaid => ?_, fun rest hsaid => ?_, fun rest items hsaid id => ?_,
    fun rest huntouched => ?_, fun other => getAt_updated_elsewhere data state,
    fun other => getAt_updated_empty hdistinct⟩
  · rw [getAt_updated_below data state path (hnonempty hsaid fun _ h => nomatch h),
      getAt_mergeAt hdistinct hsaid]
    rfl
  · rw [getAt_updated_below data state path (hnonempty hsaid fun _ h => nomatch h),
      getAt_mergeAt hdistinct hsaid]
    rfl
  · have hne : rest ++ [id] ≠ [] := List.append_ne_nil_of_right_ne_nil _ (List.cons_ne_nil _ _)
    have hitems : (State.container items).Distinct := State.distinct_at hdistinct hsaid
    rw [getAt_updated_below data state path hne, getAt_itemsAt data path hne, getAt_append,
      getAt_append, getAt_mergeAt hdistinct hsaid, getAt_cons, getAt_nil,
      lookup_mergeAt_container hitems, getAt_cons, getAt_nil]
    rw [State.Distinct] at hitems
    cases hlookup : lookup id items with
    | none => simp
    | some item =>
        have hkeeps := isSome_mergeAt (State.distinct_of_lookup hitems.2 hlookup)
          (lookup id (childrenOf (getAt (some (.dict (itemsAt data path))) rest)))
        simpa using hkeeps
  · have hne : rest ≠ [] := by
      rintro rfl
      exact huntouched.elim
    rw [getAt_updated_below data state path hne, getAt_itemsAt data path hne,
      getAt_untouched hdistinct huntouched]

/-- An account that gets an item and loses one, and whose only other setting gets its default. -/
theorem update_merged_account : ∃ data',
    update [(['a'], .dict [(['b'], .dict [(['m'], .unicode ['x']), (['s'], .dict [(['1'], .none)])])])]
        [⟨['a'], false⟩, ⟨['b'], true⟩]
        [(['m'], .default), (['s'], .container [(['2'], .dict [(['n'], .plain .none)])])] =
      some data' ∧
    Merged [(['a'], .dict [(['b'], .dict [(['m'], .unicode ['x']), (['s'], .dict [(['1'], .none)])])])]
        [⟨['a'], false⟩, ⟨['b'], true⟩]
        [(['m'], .default), (['s'], .container [(['2'], .dict [(['n'], .plain .none)])])] data' :=
  update_merged _ (by decide) (by simp [Clear, lookup]) (by
    simp [State.Distinct, StateItemsDistinct, StateItemDistinct])

/-- A value on the path makes the update raise, and an empty dictionary that is not mentioned stays. -/
theorem not_update_merged :
    (¬ ∀ (data : Items) (path : List Key) (state : StateItems), path ≠ [] →
      (State.dict state).Distinct → (update data path state).isSome = true) ∧
    ¬ ∀ (data : Items) (path : List Key) (state : StateItems) (data' : Items), path ≠ [] →
      (State.dict state).Distinct → update data path state = some data' → ∀ other ≠ [],
        getAt (some (.dict data')) other = some (.dict []) → PersistentPrefix other path := by
  have hdistinct : (State.dict [(['c'], .plain .none)]).Distinct := by
    simp [State.Distinct, StateItemsDistinct, StateItemDistinct]
  constructor
  · intro hall
    have hraised := hall [(['a'], .unicode ['x'])] [⟨['a'], false⟩, ⟨['b'], false⟩]
      [(['c'], .plain .none)] (by decide) hdistinct
    cases hraised
  · intro hall
    obtain ⟨before, key, after, hpath, hpersistent, _⟩ := hall [(['z'], .dict [])] [⟨['a'], false⟩]
      [(['c'], .plain .none)] _ (by decide) hdistinct rfl [['z']] (by decide) rfl
    cases before with
    | nil =>
        obtain ⟨rfl, _⟩ := List.cons.inj hpath
        cases hpersistent
    | cons head before =>
        obtain ⟨_, hnil⟩ := List.cons.inj hpath
        exact List.append_ne_nil_of_right_ne_nil before (List.cons_ne_nil key after) hnil.symm

end SipSimple.Configuration
