import Mathlib.Data.List.Induction
import Mathlib.Data.List.Nodup
import SipSimple.Payloads.NodeSelectors

/-!
# Finding elements by their paths

`find_parent` returns the list that contains an element, and the path of `get_xpath` selects the element and
nothing else, where no enclosing list equals a list before it, no list without a name on the way equals a
list before it among its siblings, and the URI is written as it is.
-/

namespace SipSimple.Payloads.ResourcePaths

open List (Shortlex)

namespace ResourceLists

variable {doc : ResourceLists} {place outer element list : Place} {item child : Item} {search : Search} {i : Nat}

/-! ### The way to the root -/

theorem Noted.mem_of_front (h : Noted doc search) (hplace : place ∈ search.visited) (hway : outer <+: place) :
    outer ∈ search.visited := by
  induction place using List.reverseRecOn with
  | nil => rwa [List.prefix_nil.mp hway]
  | append_singleton front i ih =>
      rcases List.prefix_concat_iff.mp hway with rfl | hfront
      · exact hplace
      · refine ih ?_ hfront
        have := h.closed _ hplace (by simp)
        rwa [List.dropLast_concat] at this

/-- What the dictionary has for the element and what encloses it. -/
theorem lookup_of_front (h : Noted doc search) (hparent : element.dropLast ∈ search.visited)
    (helement : doc.at? element = some item) (hne : outer ≠ []) (hway : outer <+: element) :
    doc.lookup (doc.assign search.parents element element.dropLast) outer = some outer.dropLast := by
  by_cases heq : outer = element
  · rw [heq]
    exact find?_assign_self _ _ _
  · have houter : outer ∈ search.visited := by
      refine h.mem_of_front hparent ?_
      rcases List.eq_nil_or_concat' element with rfl | ⟨front, i, rfl⟩
      · exact absurd (List.prefix_nil.mp hway) hne
      · rw [List.dropLast_concat]
        exact (List.prefix_concat_iff.mp hway).resolve_left heq
    rw [lookup, find?_assign_of_ne (h.found outer houter hne) (not_isKey_of_front hway heq helement)]
    rfl

/-! ### The steps of a path -/

/-- The step for the last element of a place. -/
def step (doc : ResourceLists) (place : Place) : Step :=
  match doc.at? place with
  | some (.list (some name) _) => .byAttribute "list".toList "name".toList name
  | some (.entry uri _) => .byAttribute "entry".toList "uri".toList uri
  | some (.entryRef ref) => .byAttribute "entry-ref".toList "ref".toList ref
  | some (.external anchor) => .byAttribute "external".toList "anchor".toList anchor
  | _ => .byPosition "list".toList (doc.index place place.dropLast + 1)

def steps (doc : ResourceLists) (front back : Place) : List Step :=
  (List.range back.length).map fun n => doc.step (front ++ back.take (n + 1))

theorem step_named (doc : ResourceLists) (place : Place) : (doc.step place).Named := by
  rw [step]
  split
  · exact ⟨by decide, by decide⟩
  · exact ⟨by decide, by decide⟩
  · exact ⟨by decide, by decide⟩
  · exact ⟨by decide, by decide⟩
  · show List.all _ _ = true
    decide

theorem component_eq (hitem : doc.at? place = some item) (hextension : item.isExtension = false) :
    doc.component place place.dropLast = some (doc.step place).text := by
  rw [component, step, hitem, Option.map_some]
  cases item with
  | list name items => cases name <;> simp [byAttribute, byPosition, Step.text]
  | extension => exact absurd hextension (by simp [Item.isExtension, Item.kind])
  | _ => simp [byAttribute, Step.text]

theorem steps_concat (front : Place) (i : Nat) :
    doc.steps [] (front ++ [i]) = doc.steps [] front ++ [doc.step (front ++ [i])] := by
  rw [steps, steps, List.length_append, List.length_singleton, List.range_succ, List.map_append]
  refine congrArg₂ _ (List.map_congr_left fun n hn => ?_) ?_
  · rw [List.take_append_of_le_length (by have := List.mem_range.mp hn; omega)]
  · simp [List.take_of_length_le]

theorem steps_cons (front : Place) (i : Nat) (back : Place) :
    doc.steps front (i :: back) = doc.step (front ++ [i]) :: doc.steps (front ++ [i]) back := by
  rw [steps, steps, List.length_cons, List.range_succ_eq_map, List.map_cons, List.map_map]
  refine congrArg₂ _ (by simp) (List.map_congr_left fun n _ => ?_)
  simp

theorem components_eq {parents : List (Place × Place)} (helement : doc.at? element = some item)
    (hextension : item.isExtension = false)
    (hlookup : ∀ outer, outer ≠ [] → outer <+: element → doc.lookup parents outer = some outer.dropLast) :
    ∀ place, place <+: element → doc.components parents place.length place = some ((doc.steps [] place).flatMap Step.text) := by
  intro place
  induction place using List.reverseRecOn with
  | nil => exact fun _ => rfl
  | append_singleton front i ih =>
      intro hway
      have hcomponent : doc.component (front ++ [i]) front = some (doc.step (front ++ [i])).text := by
        obtain ⟨held, hheld⟩ := Option.isSome_iff_exists.mp (at?_of_front hway (by rw [helement]; rfl))
        have heq := component_eq hheld (by
          by_cases hne : front ++ [i] = element
          · rw [hne, helement] at hheld
            exact Option.some.inj hheld ▸ hextension
          · have hlist := isList_of_front hway hne (by rw [helement]; rfl) hheld
            cases held with
            | list => rfl
            | _ => exact absurd hlist Bool.false_ne_true)
        rwa [List.dropLast_concat] at heq
      have hparent := hlookup (front ++ [i]) (by simp) hway
      rw [List.dropLast_concat] at hparent
      have hrest := ih ((List.prefix_append front [i]).trans hway)
      obtain ⟨head, rest, hcons⟩ := List.exists_cons_of_ne_nil (show front ++ [i] ≠ [] by simp)
      rw [steps_concat, List.length_append, List.length_singleton]
      rw [hcons] at hparent hcomponent ⊢
      rw [components, hparent]
      simp only [Option.bind_eq_bind, Option.bind_some, hcomponent, hrest]
      simp

/-! ### What a step selects -/

theorem pairwise_zipIdx (items : List Item) : items.zipIdx.Pairwise fun left right => left.2 < right.2 := by
  have h : (items.zipIdx.map Prod.snd).Pairwise (· < ·) := by
    rw [List.zipIdx_map_snd]
    exact List.pairwise_lt_range'
  exact List.pairwise_map.mp h

theorem filter_zipIdx_eq {items : List Item} {p : Item × Nat → Bool} (hchild : items[i]? = some child)
    (hp : p (child, i) = true) (hunique : ∀ other j, items[j]? = some other → p (other, j) = true → j = i) :
    items.zipIdx.filter p = [(child, i)] := by
  have hnodup : (items.zipIdx.filter p).Nodup :=
    ((pairwise_zipIdx items).imp fun {left right} hlt heq => by rw [heq] at hlt; omega).filter p
  refine List.perm_singleton.mp ((List.perm_ext_iff_of_nodup hnodup (List.nodup_singleton _)).mpr fun entry => ?_)
  obtain ⟨other, j⟩ := entry
  rw [List.mem_filter, List.mem_zipIdx_iff_getElem?, List.mem_singleton]
  constructor
  · rintro ⟨hother, hpother⟩
    obtain rfl := hunique other j hother hpother
    exact Prod.ext (Option.some.inj (hother.symm.trans hchild)) rfl
  · intro heq
    obtain ⟨rfl, rfl⟩ := Prod.mk.inj heq
    exact ⟨hchild, hp⟩

/-- Two items of a list with the same class and ID are the same. -/
theorem index_unique (hlist : doc.at? list = some item) {left right : Item} {j : Nat} {id : Str}
    (hleft : item.items[i]? = some left) (hright : item.items[j]? = some right) (htag : right.tag = left.tag)
    (hidLeft : left.xmlId = some id) (hidRight : right.xmlId = some id) : j = i := by
  have hpairwise := List.pairwise_filterMap.mp (doc.unique list item hlist)
  have hkey : ∀ {found : Item}, found.tag = left.tag → found.xmlId = some id →
      (found.xmlId.map fun id => (found.tag, id)) = some (left.tag, id) := fun htag hid => by
    rw [hid, Option.map_some, htag]
  obtain ⟨hi, hleft⟩ := List.getElem?_eq_some_iff.mp hleft
  obtain ⟨hj, hright⟩ := List.getElem?_eq_some_iff.mp hright
  rcases Nat.lt_trichotomy i j with hlt | heq | hgt
  · exact absurd rfl (List.pairwise_iff_getElem.mp hpairwise i j hi hj hlt _ (by rw [hleft]; exact hkey rfl hidLeft) _
      (by rw [hright]; exact hkey htag hidRight))
  · exact heq.symm
  · exact absurd rfl (List.pairwise_iff_getElem.mp hpairwise j i hj hi hgt _ (by rw [hright]; exact hkey htag hidRight) _
      (by rw [hleft]; exact hkey rfl hidLeft))

theorem select_byAttribute {items : List Item} {name xmlname value : Str} (hchild : items[i]? = some child)
    (htag : child.tag = name) (hvalue : child.xmlAttribute xmlname = some value)
    (hunique : ∀ other j, items[j]? = some other → other.tag = name → other.xmlAttribute xmlname = some value → j = i) :
    (Step.byAttribute name xmlname value).select items = [i] := by
  have hfilter : (items.zipIdx.filter fun child => decide (child.1.tag = name ∧ child.1.xmlAttribute xmlname = some value)) =
      [(child, i)] :=
    filter_zipIdx_eq hchild (decide_eq_true ⟨htag, hvalue⟩) fun other j hother hp =>
      hunique other j hother (of_decide_eq_true hp).1 (of_decide_eq_true hp).2
  rw [Step.select, hfilter]
  rfl

theorem tag_eq_list (item : Item) : item.tag = "list".toList ↔ item.isList = true := by
  rw [Item.isList, beq_iff_eq]
  exact ⟨Kind.tag_injective item.kind .list, fun h => by rw [Item.tag, h]; rfl⟩

/-- The position of a list that no list before it among its siblings equals. -/
theorem select_byPosition {items : List Item} (hlist : doc.at? list = some item) (hitems : item.items = items)
    (hchild : items[i]? = some child) (hisList : child.isList = true)
    (hfirst : ∀ j < i, ∀ sibling, items[j]? = some sibling → sibling.isList = true → sibling.equal child = false) :
    (Step.byPosition "list".toList (doc.index (list ++ [i]) list + 1)).select items = [i] := by
  have hsiblings : (doc.children list).filter (fun sibling => sibling.2.isList) =
      (items.zipIdx.filter fun child => child.1.isList).map fun child => (list ++ [child.2], child.1) := by
    rw [children, hlist, ← hitems, List.filter_map]
    rfl
  have hfilter : (items.zipIdx.filter fun child => child.1.tag = "list".toList) =
      items.zipIdx.filter fun child => child.1.isList :=
    List.filter_congr fun entry _ => by rw [Bool.eq_iff_iff, decide_eq_true_eq, tag_eq_list]
  have hat : doc.at? (list ++ [i]) = some child := by rw [at?_concat, hlist, Option.bind_some, hitems, hchild]
  -- the siblings before the list are neither it nor equal to it
  have hmem : (child, i) ∈ items.zipIdx.filter fun child => child.1.isList :=
    List.mem_filter.mpr ⟨List.mem_zipIdx_iff_getElem?.mpr hchild, hisList⟩
  obtain ⟨front, back, hsplit⟩ := List.append_of_mem hmem
  have hpairwise : (front ++ (child, i) :: back).Pairwise fun left right => left.2 < right.2 :=
    hsplit ▸ (pairwise_zipIdx items).filter _
  have hfront : ∀ entry ∈ front, ((list ++ [entry.2] == list ++ [i]) || entry.1.equal child) = false := by
    intro entry hentry
    have hlt := (List.pairwise_append.mp hpairwise).2.2 entry hentry (child, i) List.mem_cons_self
    have hentry' := List.mem_filter.mp (hsplit ▸ List.mem_append_left _ hentry)
    have hequal := hfirst entry.2 hlt entry.1 (List.mem_zipIdx_iff_getElem?.mp hentry'.1) hentry'.2
    have hne : entry.2 ≠ i := by
      intro heq
      rw [heq] at hlt
      exact Nat.lt_irrefl i hlt
    simp [hequal, hne]
  have hindex : doc.index (list ++ [i]) list = front.length := by
    rw [index, hsiblings, List.findIdx_map, hsplit, hat, List.findIdx_append]
    have hnone : front.findIdx ((fun sibling : Place × Item => sibling.1 == list ++ [i] ||
        (some child).any fun item => sibling.2.equal item) ∘ fun child => (list ++ [child.2], child.1)) = front.length :=
      List.findIdx_eq_length.mpr fun entry hentry => by simpa using hfront entry hentry
    rw [hnone, if_neg (Nat.lt_irrefl _), List.findIdx_cons]
    simp
  rw [Step.select, hfilter, hsplit, hindex]
  simp

/-- The ID of an element is the value of the attribute in its step, as long as the URI is written as it is. -/
theorem select_step (hlist : doc.at? list = some item) (hchild : item.items[i]? = some child)
    (hextension : child.isExtension = false) (hsafe : ∀ uri ∈ child.uri?, ∀ char ∈ uri, isSafe char = true)
    (hfirst : ∀ items, child = .list none items → ∀ j < i, ∀ sibling, item.items[j]? = some sibling →
      sibling.isList = true → sibling.equal child = false) :
    (doc.step (list ++ [i])).select item.items = [i] := by
  have hat : doc.at? (list ++ [i]) = some child := by rw [at?_concat, hlist, Option.bind_some, hchild]
  rw [step, hat]
  cases child with
  | extension => exact absurd hextension (by simp [Item.isExtension, Item.kind])
  | entry uri attributes =>
      refine select_byAttribute hchild rfl (congrArg some (xmlbuild_of_safe (hsafe uri rfl))) fun other j hother htag hvalue => ?_
      refine index_unique hlist hchild hother htag rfl ?_
      cases other with
      | entry other _ => exact congrArg some (eq_of_xmlbuild (Option.some.inj hvalue) (hsafe uri rfl))
      | _ => exact nomatch Kind.tag_injective _ Kind.entry htag
  | entryRef ref =>
      refine select_byAttribute hchild rfl (congrArg some (xmlbuild_of_safe (hsafe ref rfl))) fun other j hother htag hvalue => ?_
      refine index_unique hlist hchild hother htag rfl ?_
      cases other with
      | entryRef other => exact congrArg some (eq_of_xmlbuild (Option.some.inj hvalue) (hsafe ref rfl))
      | _ => exact nomatch Kind.tag_injective _ Kind.entryRef htag
  | external anchor =>
      refine select_byAttribute hchild rfl (congrArg some (xmlbuild_of_safe (hsafe anchor rfl))) fun other j hother htag hvalue => ?_
      refine index_unique hlist hchild hother htag rfl ?_
      cases other with
      | external other => exact congrArg some (eq_of_xmlbuild (Option.some.inj hvalue) (hsafe anchor rfl))
      | _ => exact nomatch Kind.tag_injective _ Kind.external htag
  | list name items =>
      cases name with
      | none =>
          simp only [List.dropLast_concat]
          exact select_byPosition hlist rfl hchild rfl (hfirst items rfl)
      | some name =>
          refine select_byAttribute hchild rfl rfl fun other j hother htag hvalue => ?_
          refine index_unique hlist hchild hother htag rfl ?_
          cases other with
          | list other _ => exact hvalue
          | _ => exact nomatch Kind.tag_injective _ Kind.list htag

/-- The conditions on an element. -/
structure Clear (doc : ResourceLists) (element : Place) : Prop where
  /-- No list before an enclosing list equals it. -/
  unrepeated : Unrepeated doc element
  /-- No sibling before a list without a name on the way equals it. -/
  first : ∀ list i items, list ++ [i] <+: element → doc.at? (list ++ [i]) = some (.list none items) →
    ∀ j < i, ∀ sibling, doc.at? (list ++ [j]) = some sibling → sibling.isList = true →
      sibling.equal (.list none items) = false
  /-- The URI is written as it is. -/
  safe : ∀ item, doc.at? element = some item → ∀ uri ∈ item.uri?, ∀ char ∈ uri, isSafe char = true

theorem select_steps (hclear : doc.Clear element) (helement : doc.at? element = some child)
    (hextension : child.isExtension = false) :
    ∀ back front item, front ++ back = element → doc.at? front = some item → select item (doc.steps front back) = [back] := by
  intro back
  induction back with
  | nil => exact fun _ _ _ _ => rfl
  | cons i back ih =>
      intro front item heq hfront
      have hway : front ++ [i] <+: element := ⟨back, by rw [← heq]; simp⟩
      obtain ⟨held, hheld⟩ := Option.isSome_iff_exists.mp (at?_of_front hway (by rw [helement]; rfl))
      have hchild : item.items[i]? = some held := by
        rwa [at?_concat, hfront, Option.bind_some] at hheld
      have hinner : front ++ [i] ≠ element → held.isList = true := fun hne =>
        isList_of_front hway hne (by rw [helement]; rfl) hheld
      have hkind : held.isExtension = false ∧ ∀ uri ∈ held.uri?, ∀ char ∈ uri, isSafe char = true := by
        by_cases hend : front ++ [i] = element
        · rw [hend, helement] at hheld
          exact Option.some.inj hheld ▸ ⟨hextension, hclear.safe child helement⟩
        · have hlist := hinner hend
          cases held with
          | list => exact ⟨rfl, fun _ h => (nomatch h)⟩
          | _ => exact nomatch hlist
      have hstep : (doc.step (front ++ [i])).select item.items = [i] := by
        refine select_step hfront hchild hkind.1 hkind.2 fun items hitems j hj sibling hsibling => ?_
        refine hitems ▸ hclear.first front i items hway (hitems ▸ hheld) j hj sibling ?_
        rw [at?_concat, hfront, Option.bind_some, hsibling]
      rw [steps_cons, select, hstep, List.flatMap_singleton, hchild]
      show (select held (doc.steps (front ++ [i]) back)).map (i :: ·) = _
      rw [ih (front ++ [i]) held (by rw [← heq]; simp) hheld]
      rfl

/-! ### Elements that are not in the document -/

theorem visit_none (doc : ResourceLists) (list : Place) (children : List (Place × Item)) :
    ∀ search, (doc.visit none list children search).2 = false := by
  induction children with
  | nil => exact fun _ => rfl
  | cons child children ih =>
      intro search
      rw [visit, if_neg (Option.some_ne_none _)]
      split_ifs
      · exact ih _
      · exact ih _

theorem search_none (doc : ResourceLists) : doc.search none = none := by
  have hexpand : ∀ fuel search, doc.expand none fuel search = none := by
    intro fuel
    induction fuel with
    | zero => exact fun _ => rfl
    | succ fuel ih =>
        intro search
        rw [expand]
        split
        next => rfl
        next list notexpanded _ =>
          have hvisit := visit_none doc list (doc.children list) ⟨notexpanded, search.visited, search.parents⟩
          split
          next hfound =>
            rw [hfound] at hvisit
            exact absurd hvisit Bool.noConfusion
          next => exact ih _
  exact hexpand _ _

end ResourceLists

open ResourcePaths.ResourceLists

variable {doc : ResourceLists} {place : Place} {item : Item}

/-- What both methods return for an element whose enclosing lists no list before them equals. -/
theorem found_of_unrepeated (hitem : (Element.inside place).isItem doc = true) (hunrepeated : Unrepeated doc place) :
    findParent doc (.inside place) = .ok (some place.dropLast) ∧
      getXpath doc (.inside place) = .ok (some ("/resource-lists".toList ++ (doc.steps [] place).flatMap Step.text)) := by
  obtain ⟨i, rest, rfl⟩ : ∃ i rest, place = i :: rest :=
    List.exists_cons_of_ne_nil fun hnil => absurd hitem (by rw [hnil]; exact Bool.false_ne_true)
  obtain ⟨item, hat, hkind⟩ := (Option.any_eq_true _ _).mp hitem
  have hextension : item.isExtension = false := by simpa using hkind
  obtain ⟨parents, before, hsearch, -, hnoted, hparent, rfl⟩ :=
    (waiting_start (by simp)).expand (by rw [hat]; rfl) hunrepeated
  have htext := components_eq hat hextension
    (fun outer hne hway => lookup_of_front hnoted hparent hat hne hway) (i :: rest) (List.prefix_refl _)
  constructor
  · rw [findParent, if_pos hitem]
    exact congrArg (fun found => Except.ok (Option.map Prod.fst found)) hsearch
  · have hfound : doc.search (some (i :: rest)) = some ((i :: rest).dropLast, _) := hsearch
    simp only [getXpath, Element.place]
    rw [if_pos hitem, hfound]
    simp only [Option.elim_some, Option.getD_some, htext]
    rfl

/-- Two lists without a name in one with a name, with equal entries. -/
def nested : ResourceLists where
  lists := [.list (some "friends".toList)
    [.list none [.entry "alice".toList false], .list none [.entry "alice".toList false]]]
  all_lists item hitem := by rw [List.mem_singleton.mp hitem]; rfl
  unique place item hplace := by
    match place, hplace with
    | [], hplace => exact Option.some.inj hplace ▸ by decide
    | [0], hplace => exact Option.some.inj hplace ▸ by decide
    | [0, 0], hplace => exact Option.some.inj hplace ▸ by decide
    | [0, 0, 0], hplace => exact Option.some.inj hplace ▸ by decide
    | [0, 1], hplace => exact Option.some.inj hplace ▸ by decide
    | [0, 1, 0], hplace => exact Option.some.inj hplace ▸ by decide

theorem nested_clear : nested.Clear [0, 0, 0] where
  unrepeated outer hne hway houter earlier hearlier := by
    have houter : outer = [0] ∨ outer = [0, 0] := by
      rcases List.prefix_concat_iff.mp (show outer <+: [0, 0] ++ [0] from hway) with heq | hway
      · exact absurd heq houter
      · rcases List.prefix_concat_iff.mp (show outer <+: [0] ++ [0] from hway) with heq | hway
        · exact .inr heq
        · exact .inl ((List.prefix_concat_iff.mp (show outer <+: [] ++ [0] from hway)).resolve_right fun hnil =>
            hne (List.prefix_nil.mp hnil))
    rcases houter with rfl | rfl
    · rcases earlier with - | ⟨i, earlier⟩
      · decide
      · rcases List.shortlex_def.mp hearlier with hlt | ⟨hlength, hlex⟩
        · simp at hlt
        · cases hlex with
          | rel hlt => exact absurd hlt (Nat.not_lt_zero i)
          | cons hlex => cases hlex
    · -- a list without a name is looked for by identity
      have hfirst : earlier ≠ [0, 0] := by
        rintro rfl
        simp [List.shortlex_def] at hearlier
      have hunnamed : nested.at? [0, 0] = some (.list none [.entry "alice".toList false]) := rfl
      rw [isKey, hunnamed]
      cases nested.at? earlier with
      | none => simpa using hfirst
      | some stored =>
          have hid : (stored.xmlId.isSome && stored.xmlId == none) = false := by cases stored.xmlId <;> rfl
          show (earlier == [0, 0] || ((stored.xmlId.isSome && stored.xmlId == none) && _)) = false
          rw [hid]
          simpa using hfirst
  first list i items hway hlist j hj sibling hsibling := by
    obtain rfl : i = 0 := by
      obtain ⟨rest, heq⟩ := hway
      have hmem : i ∈ [0, 0, 0] := heq ▸ by simp
      simpa using hmem
    exact absurd hj (Nat.not_lt_zero j)
  safe item hitem uri huri := by
    obtain rfl := Option.some.inj hitem
    obtain rfl := Option.some.inj huri
    exact List.all_eq_true.mp (by decide)

/-- One entry, whose URI is escaped in the document. -/
def escaped : ResourceLists where
  lists := [.list (some "friends".toList) [.entry "sip:alice".toList false]]
  all_lists item hitem := by rw [List.mem_singleton.mp hitem]; rfl
  unique place item hplace := by
    match place, hplace with
    | [], hplace => exact Option.some.inj hplace ▸ by decide
    | [0], hplace => exact Option.some.inj hplace ▸ by decide
    | [0, 0], hplace => exact Option.some.inj hplace ▸ by decide

end SipSimple.Payloads.ResourcePaths
