import Mathlib.Data.List.Shortlex
import SipSimple.Payloads.ResourcePaths

/-!
# The search for an element

The search goes through the lists of a document in breadth-first order, which is the shortlex order of their
places. It leaves out a list that a list before it equals, with everything below it. An element whose
enclosing lists no list before them equals is found (`Visiting` is the invariant: what was visited comes
before what is to come, and one of the enclosing lists is still to be expanded). What it notes as the parents
on the way are the lists that contain one another.
-/

namespace SipSimple.Payloads.ResourcePaths

open List (Shortlex)

/-! ### Places -/

namespace Item

theorem at?_append (item : Item) (left right : Place) :
    item.at? (left ++ right) = (item.at? left).bind (·.at? right) := by
  induction left generalizing item with
  | nil => rfl
  | cons i left ih =>
      rw [List.cons_append, at?, at?]
      cases item.items[i]? with
      | none => rfl
      | some child => exact ih child

theorem isList_of_items {item : Item} (h : item.items ≠ []) : item.isList = true := by
  cases item with
  | list => rfl
  | _ => exact absurd rfl h

mutual

theorem size_of_equal : ∀ left right : Item, left.equal right = true → left.size = right.size
  | .entry .., .entry .., _ => rfl
  | .entry .., .extension .., _ => rfl
  | .entryRef .., .entryRef .., _ => rfl
  | .external .., .external .., _ => rfl
  | .extension .., .extension .., _ => rfl
  | .list name items, .list name' items', h => by
      rw [equal, Bool.and_eq_true] at h
      rw [size, size, sizeItems_of_equal items items' h.2]
  | .entry .., .entryRef .., h => by simp [equal] at h
  | .entry .., .external .., h => by simp [equal] at h
  | .entry .., .list .., h => by simp [equal] at h
  | .entryRef .., .entry .., h => by simp [equal] at h
  | .entryRef .., .external .., h => by simp [equal] at h
  | .entryRef .., .list .., h => by simp [equal] at h
  | .entryRef .., .extension .., h => by simp [equal] at h
  | .external .., .entry .., h => by simp [equal] at h
  | .external .., .entryRef .., h => by simp [equal] at h
  | .external .., .list .., h => by simp [equal] at h
  | .external .., .extension .., h => by simp [equal] at h
  | .extension .., .entry .., h => by simp [equal] at h
  | .extension .., .entryRef .., h => by simp [equal] at h
  | .extension .., .external .., h => by simp [equal] at h
  | .extension .., .list .., h => by simp [equal] at h
  | .list .., .entry .., h => by simp [equal] at h
  | .list .., .entryRef .., h => by simp [equal] at h
  | .list .., .external .., h => by simp [equal] at h
  | .list .., .extension .., h => by simp [equal] at h

theorem sizeItems_of_equal : ∀ left right : List Item, equalItems left right = true → sizeItems left = sizeItems right
  | [], [], _ => rfl
  | item :: items, item' :: items', h => by
      rw [equalItems, Bool.and_eq_true] at h
      rw [sizeItems, sizeItems, size_of_equal item item' h.1, sizeItems_of_equal items items' h.2]
  | [], _ :: _, h => by simp [equalItems] at h
  | _ :: _, [], h => by simp [equalItems] at h

end

theorem size_le_sizeItems {items : List Item} {item : Item} (h : item ∈ items) : item.size ≤ sizeItems items := by
  induction items with
  | nil => cases h
  | cons head items ih =>
      rw [sizeItems]
      rcases List.mem_cons.mp h with rfl | hmem
      · omega
      · have := ih hmem
        omega

theorem sizeItems_items (item : Item) : sizeItems item.items < item.size := by
  cases item with
  | list name items =>
      show sizeItems items < (list name items).size
      rw [size]
      omega
  | _ => exact Nat.one_pos

/-- What is below an item is smaller. -/
theorem size_of_at? {item inner : Item} {place : Place} (h : item.at? place = some inner) :
    inner.size ≤ item.size ∧ (place ≠ [] → inner.size < item.size) := by
  induction place generalizing item with
  | nil =>
      obtain rfl := Option.some.inj h
      exact ⟨Nat.le_refl _, fun hne => absurd rfl hne⟩
  | cons i place ih =>
      rw [at?] at h
      obtain ⟨child, hchild, hinner⟩ := Option.bind_eq_some_iff.mp h
      have hle := size_le_sizeItems (List.mem_of_getElem? hchild)
      have hlt := sizeItems_items item
      have := (ih hinner).1
      exact ⟨by omega, fun _ => by omega⟩

end Item

namespace ResourceLists

variable {doc : ResourceLists} {place outer element : Place} {item : Item}

theorem at?_append (left right : Place) : doc.at? (left ++ right) = (doc.at? left).bind (·.at? right) :=
  doc.root.at?_append left right

theorem at?_concat (place : Place) (i : Nat) :
    doc.at? (place ++ [i]) = (doc.at? place).bind fun item => item.items[i]? := by
  rw [at?_append]
  refine congrArg _ (funext fun item => ?_)
  rw [Item.at?]
  cases item.items[i]? <;> rfl

theorem at?_of_front (h : outer <+: place) (hplace : (doc.at? place).isSome) : (doc.at? outer).isSome := by
  obtain ⟨rest, rfl⟩ := h
  rw [at?_append] at hplace
  exact Option.isSome_of_isSome_bind hplace

theorem isKey_self (place : Place) : doc.isKey place place = true := by simp [isKey]

/-- An enclosing list is bigger than what is in it. -/
theorem not_isKey_of_front (h : outer <+: place) (hne : outer ≠ place) (hplace : doc.at? place = some item) :
    doc.isKey outer place = false := by
  obtain ⟨rest, rfl⟩ := h
  have hrest : rest ≠ [] := fun hnil => hne (by rw [hnil, List.append_nil])
  rw [at?_append] at hplace
  obtain ⟨held, hheld, hinner⟩ := Option.bind_eq_some_iff.mp hplace
  have hsize := (Item.size_of_at? hinner).2 hrest
  have hequal : held.equal item = false := by
    by_contra h
    have := held.size_of_equal item (by simpa using h)
    omega
  rw [isKey, hheld, at?_append, hheld, Option.bind_some, hinner]
  simp [hequal, hrest]

/-! ### Dictionaries -/

theorem assign_of_new {parents : List (Place × Place)} {key value : Place}
    (h : ∀ entry ∈ parents, doc.isKey entry.1 key = false) : doc.assign parents key value = parents ++ [(key, value)] := by
  induction parents with
  | nil => rfl
  | cons entry parents ih =>
      rw [assign, if_neg (by rw [h entry List.mem_cons_self]; exact Bool.false_ne_true),
        ih fun other hother => h other (List.mem_cons_of_mem _ hother)]
      rfl

theorem find?_assign_self (parents : List (Place × Place)) (key value : Place) :
    ((doc.assign parents key value).find? fun entry => doc.isKey entry.1 key).map Prod.snd = some value := by
  induction parents with
  | nil => simp [assign, isKey_self]
  | cons entry parents ih =>
      rw [assign]
      split_ifs with hkey
      · simp [hkey]
      · rw [List.find?_cons_of_neg (by simpa using hkey), ih]

/-- The entry of another key is not changed. -/
theorem find?_assign_of_ne {parents : List (Place × Place)} {key value other found : Place}
    (h : parents.find? (fun entry => doc.isKey entry.1 other) = some (other, found)) (hkey : doc.isKey other key = false) :
    (doc.assign parents key value).find? (fun entry => doc.isKey entry.1 other) = some (other, found) := by
  induction parents with
  | nil => cases h
  | cons entry parents ih =>
      rw [assign]
      rw [List.find?_cons] at h
      cases hentry : doc.isKey entry.1 other with
      | true =>
          rw [hentry] at h
          obtain rfl := Option.some.inj h
          rw [if_neg (by rw [hkey]; exact Bool.false_ne_true)]
          exact List.find?_cons_of_pos hentry
      | false =>
          rw [hentry] at h
          split_ifs
          · rw [List.find?_cons_of_neg (by rw [hentry]; exact Bool.false_ne_true)]
            exact h
          · rw [List.find?_cons_of_neg (by rw [hentry]; exact Bool.false_ne_true)]
            exact ih h

/-! ### The order of the search -/

theorem before_concat {left right : Place} (i j : Nat) (h : Shortlex (· < ·) left right) :
    Shortlex (· < ·) (left ++ [i]) (right ++ [j]) := by
  rcases List.shortlex_def.mp h with hlt | ⟨hlength, hlex⟩
  · exact .of_length_lt (by simpa using hlt)
  · refine .of_lex (by simpa using hlength) ?_
    clear h
    induction hlex with
    | nil => simp at hlength
    | rel hlt => exact .rel hlt
    | cons _ ih => exact .cons (ih (by simpa using hlength))

theorem before_child {left right : Place} {i j : Nat} (h : Shortlex (· < ·) left (right ++ [i])) :
    Shortlex (· < ·) left (right ++ [i] ++ [j]) := h.append_right [j]

theorem before_sibling (place : Place) {i j : Nat} (h : i < j) :
    Shortlex (· < ·) (place ++ [i]) (place ++ [j]) :=
  List.Shortlex.append_left ((List.shortlex_singleton_iff i j).mpr h) place

def weight (doc : ResourceLists) (place : Place) : Nat := (doc.at? place).elim 0 Item.size

theorem sizeItems_lt_weight (h : doc.at? outer = some item) :
    Item.sizeItems item.items < doc.weight outer := by
  rw [weight, h]
  exact item.sizeItems_items

/-! ### The number of lists that are expanded -/

/-- What is waiting to be expanded is in the document, and no more than so many items are inside. -/
structure Fuelled (doc : ResourceLists) (fuel : Nat) (waiting : List Place) : Prop where
  inside : ∀ place ∈ waiting, (doc.at? place).isSome
  room : (waiting.map doc.weight).sum ≤ fuel

/-- The lists among the children are added to what is waiting. -/
theorem fuelled_visit (element : Option Place) (list : Place) {fuel : Nat} {rest : List Item} {k : Nat}
    {search : Search} (hrest : ∀ i, doc.at? (list ++ [k + i]) = rest[i]?)
    (hinside : ∀ place ∈ search.notexpanded, (doc.at? place).isSome)
    (hroom : (search.notexpanded.map doc.weight).sum + Item.sizeItems rest ≤ fuel) :
    Fuelled doc fuel (doc.visit element list
      ((rest.zipIdx k).map fun child => (list ++ [child.2], child.1)) search).1.notexpanded := by
  induction rest generalizing k search with
  | nil => exact ⟨hinside, (Nat.le_add_right _ _).trans hroom⟩
  | cons child rest ih =>
      have hchild : doc.at? (list ++ [k]) = some child := hrest 0
      have hnext : ∀ i, doc.at? (list ++ [k + 1 + i]) = rest[i]? := fun i => by
        have := hrest (i + 1)
        rwa [List.getElem?_cons_succ, show k + (i + 1) = k + 1 + i by omega] at this
      rw [Item.sizeItems] at hroom
      rw [List.zipIdx_cons, List.map_cons, ResourceLists.visit]
      split_ifs
      · exact ⟨fun place hplace => absurd hplace List.not_mem_nil, Nat.zero_le fuel⟩
      · refine ih hnext (fun place hplace => ?_) ?_
        · rcases List.mem_append.mp hplace with hmem | hmem
          · exact hinside place hmem
          · rw [List.mem_singleton.mp hmem, hchild]
            rfl
        · have hweight : doc.weight (list ++ [k]) = child.size := by rw [weight, hchild]; rfl
          simp only [List.map_append, List.sum_append, List.map_cons, List.map_nil, List.sum_cons,
            List.sum_nil, hweight]
          omega
      · exact ih hnext hinside (by omega)

/-- **More fuel finds nothing else.** -/
theorem expand_of_fuelled (element : Option Place) {fuel : Nat} {search : Search}
    (h : Fuelled doc fuel search.notexpanded) (more : Nat) :
    doc.expand element (fuel + more) search = doc.expand element fuel search := by
  induction fuel generalizing search with
  | zero =>
      obtain ⟨notexpanded, visited, parents⟩ := search
      cases notexpanded with
      | nil => cases more <;> rfl
      | cons list notexpanded =>
          obtain ⟨item, hitem⟩ := Option.isSome_iff_exists.mp (h.inside list List.mem_cons_self)
          have hroom := h.room
          have hsize := sizeItems_lt_weight hitem
          rw [List.map_cons, List.sum_cons] at hroom
          omega
  | succ fuel ih =>
      obtain ⟨notexpanded, visited, parents⟩ := search
      cases notexpanded with
      | nil => rw [Nat.succ_add]; rfl
      | cons list notexpanded =>
          obtain ⟨item, hitem⟩ := Option.isSome_iff_exists.mp (h.inside list List.mem_cons_self)
          have hnext : Fuelled doc fuel (doc.visit element list (doc.children list)
              ⟨notexpanded, visited, parents⟩).1.notexpanded := by
            refine fuelled_visit element list (fun i => ?_)
              (fun place hplace => h.inside place (List.mem_cons_of_mem _ hplace)) ?_
            · rw [Nat.zero_add, at?_concat, hitem]
              rfl
            · have hroom := h.room
              have hsize := sizeItems_lt_weight hitem
              rw [List.map_cons, List.sum_cons] at hroom
              rw [hitem]
              show (notexpanded.map doc.weight).sum + Item.sizeItems item.items ≤ fuel
              omega
          rw [Nat.succ_add, expand, expand]
          dsimp only
          split
          next => rfl
          next hvisit =>
            rw [hvisit] at hnext
            exact ih hnext

/-- Every list of the document is expanded once at most: the search has enough fuel. -/
theorem search_eq (doc : ResourceLists) (element : Option Place) (more : Nat) :
    doc.search element = doc.expand element (doc.root.size + more) ⟨[[]], [[]], [([], [])]⟩ :=
  (expand_of_fuelled element ⟨fun place hplace => by rw [List.mem_singleton.mp hplace]; rfl,
    by simp [weight, at?, Item.at?]⟩ more).symm

/-! ### The invariant of the search -/

/-- No list before an enclosing list equals it. -/
def Unrepeated (doc : ResourceLists) (element : Place) : Prop :=
  ∀ outer, outer ≠ [] → outer <+: element → outer ≠ element →
    ∀ earlier, Shortlex (· < ·) earlier outer → doc.isKey earlier outer = false

/-- The dictionary notes the list that contains each list visited. -/
structure Noted (doc : ResourceLists) (search : Search) : Prop where
  inside : ∀ place ∈ search.visited, (doc.at? place).isSome
  closed : ∀ place ∈ search.visited, place ≠ [] → place.dropLast ∈ search.visited
  keys : ∀ entry ∈ search.parents, entry.1 ∈ search.visited
  found : ∀ place ∈ search.visited, place ≠ [] →
    search.parents.find? (fun entry => doc.isKey entry.1 place) = some (place, place.dropLast)

/-- While the children of a list are visited, from one of them on. -/
structure Visiting (doc : ResourceLists) (element list : Place) (fuel k : Nat) (rest : List Item) (search : Search) :
    Prop where
  noted : Noted doc search
  expanded : list ∈ search.visited
  queued : ∀ place ∈ search.notexpanded, place ∈ search.visited
  rest_eq : ∀ i, doc.at? (list ++ [k + i]) = rest[i]?
  sorted : search.notexpanded.Pairwise (Shortlex (· < ·))
  head : ∀ place ∈ search.notexpanded, Shortlex (· < ·) list place
  before : ∀ seen ∈ search.visited, ∀ place ∈ search.notexpanded, ∀ i, Shortlex (· < ·) seen (place ++ [i])
  next : ∀ seen ∈ search.visited, ∀ i, k ≤ i → Shortlex (· < ·) seen (list ++ [i])
  way : (∃ outer ∈ search.notexpanded, outer <+: element ∧ outer ≠ element) ∨
    ∃ i, k ≤ i ∧ list ++ [i] <+: element
  room : (search.notexpanded.map doc.weight).sum + Item.sizeItems rest ≤ fuel

variable {list : Place} {fuel k : Nat} {child : Item} {rest : List Item} {search : Search}

theorem Noted.add (h : Noted doc search) (hlist : list ∈ search.visited) (hchild : (doc.at? (list ++ [k])).isSome)
    (hnew : ∀ seen ∈ search.visited, doc.isKey seen (list ++ [k]) = false) (notexpanded : List Place) :
    Noted doc ⟨notexpanded, search.visited ++ [list ++ [k]], doc.assign search.parents (list ++ [k]) list⟩ := by
  have hassign : doc.assign search.parents (list ++ [k]) list = search.parents ++ [(list ++ [k], list)] :=
    assign_of_new fun entry hentry => hnew entry.1 (h.keys entry hentry)
  refine ⟨fun place hplace => ?_, fun place hplace hne => ?_, fun entry hentry => ?_, fun place hplace hne => ?_⟩
  · rcases List.mem_append.mp hplace with hmem | hmem
    · exact h.inside place hmem
    · rw [List.mem_singleton.mp hmem]
      exact hchild
  · rcases List.mem_append.mp hplace with hmem | hmem
    · exact List.mem_append_left _ (h.closed place hmem hne)
    · rw [List.mem_singleton.mp hmem, List.dropLast_concat]
      exact List.mem_append_left _ hlist
  · rw [hassign] at hentry
    rcases List.mem_append.mp hentry with hmem | hmem
    · exact List.mem_append_left _ (h.keys entry hmem)
    · rw [List.mem_singleton.mp hmem]
      exact List.mem_append_right _ List.mem_cons_self
  · rw [hassign, List.find?_append]
    rcases List.mem_append.mp hplace with hmem | hmem
    · rw [h.found place hmem hne]
      rfl
    · rw [List.mem_singleton.mp hmem, List.find?_eq_none.mpr fun entry hentry => by
        rw [hnew entry.1 (h.keys entry hentry)]; exact Bool.false_ne_true, List.dropLast_concat]
      simp [isKey_self]

theorem Visiting.child_at (h : Visiting doc element list fuel k (child :: rest) search) :
    doc.at? (list ++ [k]) = some child := h.rest_eq 0

theorem Visiting.rest_succ (h : Visiting doc element list fuel k (child :: rest) search) (i : Nat) :
    doc.at? (list ++ [k + 1 + i]) = rest[i]? := by
  have := h.rest_eq (i + 1)
  rwa [List.getElem?_cons_succ, show k + (i + 1) = k + 1 + i by omega] at this

/-- A list that no visited one equals is added. -/
theorem Visiting.add (h : Visiting doc element list fuel k (child :: rest) search)
    (hne : list ++ [k] ≠ element) (hnew : ∀ seen ∈ search.visited, doc.isKey seen (list ++ [k]) = false) :
    Visiting doc element list fuel (k + 1) rest
      ⟨search.notexpanded ++ [list ++ [k]], search.visited ++ [list ++ [k]],
        doc.assign search.parents (list ++ [k]) list⟩ where
  noted := h.noted.add h.expanded (by rw [h.child_at]; rfl) hnew _
  expanded := List.mem_append_left _ h.expanded
  queued place hplace := by
    rcases List.mem_append.mp hplace with hmem | hmem
    · exact List.mem_append_left _ (h.queued place hmem)
    · exact List.mem_append_right _ hmem
  rest_eq := h.rest_succ
  sorted := by
    refine List.pairwise_append.mpr ⟨h.sorted, List.pairwise_singleton _ _, fun place hplace new hnew => ?_⟩
    rw [List.mem_singleton.mp hnew]
    exact h.next place (h.queued place hplace) k (Nat.le_refl k)
  head place hplace := by
    rcases List.mem_append.mp hplace with hmem | hmem
    · exact h.head place hmem
    · rw [List.mem_singleton.mp hmem]
      exact .of_length_lt (by simp)
  before seen hseen place hplace i := by
    rcases List.mem_append.mp hseen with hold | hnew <;> rcases List.mem_append.mp hplace with hqueue | hchild
    · exact h.before seen hold place hqueue i
    · rw [List.mem_singleton.mp hchild]
      exact before_child (h.next seen hold k (Nat.le_refl k))
    · rw [List.mem_singleton.mp hnew]
      exact before_concat k i (h.head place hqueue)
    · rw [List.mem_singleton.mp hnew, List.mem_singleton.mp hchild]
      exact .of_length_lt (by simp)
  next seen hseen i hi := by
    rcases List.mem_append.mp hseen with hold | hnew
    · exact h.next seen hold i (by omega)
    · rw [List.mem_singleton.mp hnew]
      exact before_sibling list (by omega)
  way := by
    rcases h.way with ⟨outer, houter, hway⟩ | ⟨i, hi, hway⟩
    · exact .inl ⟨outer, List.mem_append_left _ houter, hway⟩
    · rcases Nat.eq_or_lt_of_le hi with rfl | hlt
      · exact .inl ⟨list ++ [k], List.mem_append_right _ List.mem_cons_self, hway, hne⟩
      · exact .inr ⟨i, hlt, hway⟩
  room := by
    have hroom := h.room
    have hweight : doc.weight (list ++ [k]) = child.size := by rw [weight, h.child_at]; rfl
    rw [Item.sizeItems] at hroom
    simp only [List.map_append, List.sum_append, List.map_cons, List.map_nil, List.sum_cons, List.sum_nil, hweight]
    omega

/-- A child that is no list, or a list that a visited one equals, is not on the way. -/
theorem Visiting.skip (h : Visiting doc element list fuel k (child :: rest) search)
    (hskip : ¬ list ++ [k] <+: element) : Visiting doc element list fuel (k + 1) rest search :=
  { h with
    rest_eq := h.rest_succ
    next := fun seen hseen i hi => h.next seen hseen i (by omega)
    way := h.way.imp_right fun ⟨i, hi, hway⟩ =>
      ⟨i, (Nat.eq_or_lt_of_le hi).resolve_left fun heq => hskip (heq ▸ hway), hway⟩
    room := by
      have hroom := h.room
      rw [Item.sizeItems] at hroom
      omega }

theorem isList_of_front (hway : outer <+: element) (hne : outer ≠ element) (helement : (doc.at? element).isSome)
    (houter : doc.at? outer = some child) : child.isList = true := by
  obtain ⟨below, rfl⟩ := hway
  obtain ⟨i, below, rfl⟩ := List.exists_cons_of_ne_nil fun hnil : below = [] => hne (by rw [hnil, List.append_nil])
  rw [at?_append, houter, Option.bind_some, Item.at?] at helement
  refine Item.isList_of_items fun hnil => ?_
  rw [hnil] at helement
  simp at helement

/-- The loop finds the element, or goes on to the next list. -/
theorem Visiting.visit (helement : (doc.at? element).isSome) (hclear : Unrepeated doc element) :
    ∀ {rest : List Item} {k : Nat} {search : Search}, Visiting doc element list fuel k rest search →
      (∃ final, doc.visit (some element) list ((rest.zipIdx k).map fun child => (list ++ [child.2], child.1)) search =
          (final, true) ∧ element.dropLast = list ∧ element ≠ [] ∧
            ∃ before, Noted doc before ∧ list ∈ before.visited ∧
              final.parents = doc.assign before.parents element list) ∨
        ∃ final last, doc.visit (some element) list ((rest.zipIdx k).map fun child => (list ++ [child.2], child.1)) search =
          (final, false) ∧ Visiting doc element list fuel last [] final := by
  intro rest
  induction rest with
  | nil => exact fun {k search} h => .inr ⟨search, k, rfl, h⟩
  | cons child rest ih =>
      intro k search h
      rw [List.zipIdx_cons, List.map_cons, ResourceLists.visit]
      by_cases hfound : list ++ [k] = element
      · refine .inl ⟨_, if_pos (congrArg some hfound), ?_, ?_, search, h.noted, h.expanded, ?_⟩
        · rw [← hfound, List.dropLast_concat]
        · rw [← hfound]
          simp
        · rw [hfound]
      · rw [if_neg fun heq => hfound (Option.some.inj heq)]
        by_cases hnew : child.isList = true ∧ ∀ seen ∈ search.visited, doc.isKey seen (list ++ [k]) = false
        · rw [if_pos (by simpa using hnew)]
          exact ih (h.add hfound hnew.2)
        · rw [if_neg fun htrue => hnew (by simpa using htrue)]
          refine ih (h.skip fun hway => hnew ⟨?_, fun seen hseen => ?_⟩)
          · exact isList_of_front hway hfound helement h.child_at
          · exact hclear _ (by simp) hway hfound seen (h.next seen hseen k (Nat.le_refl k))

/-- Between two lists: the next one is taken from the front. -/
structure Waiting (doc : ResourceLists) (element : Place) (fuel : Nat) (search : Search) : Prop where
  noted : Noted doc search
  queued : ∀ place ∈ search.notexpanded, place ∈ search.visited
  sorted : search.notexpanded.Pairwise (Shortlex (· < ·))
  before : ∀ seen ∈ search.visited, ∀ place ∈ search.notexpanded, ∀ i, Shortlex (· < ·) seen (place ++ [i])
  way : ∃ outer ∈ search.notexpanded, outer <+: element ∧ outer ≠ element
  room : (search.notexpanded.map doc.weight).sum ≤ fuel

theorem Visiting.waiting (h : Visiting doc element list fuel k [] search) (helement : (doc.at? element).isSome) :
    Waiting doc element fuel search where
  noted := h.noted
  queued := h.queued
  sorted := h.sorted
  before := h.before
  way := by
    refine h.way.resolve_right fun ⟨i, hi, hway⟩ => ?_
    have hinside := at?_of_front hway helement
    have hend := h.rest_eq (i - k)
    rw [show k + (i - k) = i by omega] at hend
    rw [hend] at hinside
    exact Bool.false_ne_true hinside
  room := by simpa [Item.sizeItems] using h.room

theorem Waiting.visiting {notexpanded visited : List Place} {parents : List (Place × Place)}
    (h : Waiting doc element (fuel + 1) ⟨list :: notexpanded, visited, parents⟩)
    (helement : (doc.at? element).isSome) :
    Visiting doc element list fuel 0 ((doc.at? list).elim [] Item.items) ⟨notexpanded, visited, parents⟩ := by
  obtain ⟨hhead, hsorted⟩ := List.pairwise_cons.mp h.sorted
  obtain ⟨item, hitem⟩ := Option.isSome_iff_exists.mp (h.noted.inside list (h.queued list List.mem_cons_self))
  refine ⟨⟨h.noted.inside, h.noted.closed, h.noted.keys, h.noted.found⟩, h.queued list List.mem_cons_self,
    fun place hplace => h.queued place (List.mem_cons_of_mem _ hplace), fun i => ?_, hsorted, hhead,
    fun seen hseen place hplace => h.before seen hseen place (List.mem_cons_of_mem _ hplace),
    fun seen hseen i _ => h.before seen hseen list List.mem_cons_self i, ?_, ?_⟩
  · rw [at?_concat, hitem, Nat.zero_add]
    rfl
  · obtain ⟨outer, houter, hway, hne⟩ := h.way
    rcases List.mem_cons.mp houter with rfl | hmem
    · obtain ⟨below, rfl⟩ := hway
      obtain ⟨i, below, rfl⟩ := List.exists_cons_of_ne_nil fun hnil : below = [] => hne (by rw [hnil, List.append_nil])
      exact .inr ⟨i, Nat.zero_le i, ⟨below, by simp⟩⟩
    · exact .inl ⟨outer, hmem, hway, hne⟩
  · have hroom := h.room
    have hsize := sizeItems_lt_weight hitem
    rw [List.map_cons, List.sum_cons] at hroom
    rw [hitem]
    show (notexpanded.map doc.weight).sum + Item.sizeItems item.items ≤ fuel
    omega

/-- **The search finds an element** whose enclosing lists no list before them equals. -/
theorem Waiting.expand (helement : (doc.at? element).isSome) (hclear : Unrepeated doc element) :
    ∀ {fuel : Nat} {search : Search}, Waiting doc element fuel search →
      ∃ parents before, doc.expand (some element) fuel search = some (element.dropLast, parents) ∧ element ≠ [] ∧
        Noted doc before ∧ element.dropLast ∈ before.visited ∧
          parents = doc.assign before.parents element element.dropLast := by
  intro fuel
  induction fuel with
  | zero =>
      intro search h
      obtain ⟨notexpanded, visited, parents⟩ := search
      obtain ⟨outer, houter, -⟩ := h.way
      obtain ⟨list, notexpanded, rfl⟩ := List.exists_cons_of_ne_nil (List.ne_nil_of_mem houter)
      obtain ⟨item, hitem⟩ := Option.isSome_iff_exists.mp (h.noted.inside list (h.queued list List.mem_cons_self))
      have hroom := h.room
      have hsize := sizeItems_lt_weight hitem
      rw [List.map_cons, List.sum_cons] at hroom
      omega
  | succ fuel ih =>
      intro search h
      obtain ⟨notexpanded, visited, parents⟩ := search
      obtain ⟨outer, houter, -⟩ := h.way
      obtain ⟨list, notexpanded, rfl⟩ := List.exists_cons_of_ne_nil (List.ne_nil_of_mem houter)
      rw [ResourceLists.expand]
      rcases (h.visiting helement).visit helement hclear with
        ⟨final, hvisit, hparent, hne, before, hnoted, hmem, hparents⟩ | ⟨final, last, hvisit, hvisiting⟩
      · refine ⟨final.parents, before, ?_, hne, hnoted, hparent ▸ hmem, hparent ▸ hparents⟩
        simp only [children, hvisit, hparent]
      · simp only [children, hvisit]
        exact ih (hvisiting.waiting helement)

theorem waiting_start (hne : element ≠ []) :
    Waiting doc element doc.root.size ⟨[[]], [[]], [([], [])]⟩ where
  noted := {
    inside := fun place hplace => by rw [List.mem_singleton.mp hplace]; rfl
    closed := fun place hplace hne => absurd (List.mem_singleton.mp hplace) hne
    keys := fun entry hentry => by rw [List.mem_singleton.mp hentry]; exact List.mem_cons_self
    found := fun place hplace hne => absurd (List.mem_singleton.mp hplace) hne }
  queued _ h := h
  sorted := List.pairwise_singleton _ _
  before seen hseen place hplace i := by
    rw [List.mem_singleton.mp hseen, List.mem_singleton.mp hplace]
    exact .of_length_lt (Nat.one_pos)
  way := ⟨[], List.mem_cons_self, List.nil_prefix, hne.symm⟩
  room := by simp [weight, at?, Item.at?]

end ResourceLists

end SipSimple.Payloads.ResourcePaths
