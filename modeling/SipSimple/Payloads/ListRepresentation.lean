import SipSimple.Library.Runs
import SipSimple.Payloads.ListElements

/-!
# The representation of XML list elements

The dictionaries of a list element hold the objects whose nodes are children of it, under their classes and
IDs, and the children stand in the order of the class, as long as no item is added that is an item of
another list: `lxml` moves the node of such an item, and the other list still holds the object.

While an operation changes the nodes of an item, the clause about the children is open for this item. What
a list holds about the other items is not touched, since a node belongs to one object (`Kept.frame`).
-/

namespace SipSimple.Payloads.ListElements

open OrderedForest

variable (decl : Declarations)

/-- The object is of a class for items, and its nodes are children of the list. -/
def Holds (s : State) (list : Node) (cls : String) (item : Node) : Prop :=
  ∃ object, s.objects item = some object ∧ State.accepts decl cls object = true ∧
    ∀ node ∈ object.nodes item, s.forest.parent node = some list

/-- What a list keeps, where the clause about the children is open for the pending items. -/
structure Kept (pending : Node → Prop) (s : State) (list : Node) (cls : String) (maps : Maps) : Prop where
  exact : ∀ item, ¬ pending item → (item ∈ maps.elementMap ↔ Holds decl s list cls item)
  nodup : maps.elementMap.Nodup
  registered : ∀ key item, maps.lookup key = some item ↔ item ∈ maps.elementMap ∧ s.key item = some key
  frozen : ∀ item ∈ maps.elementMap, ∃ object, s.objects item = some object ∧
    (object.identified decl = true → object.id ≠ none)
  ordered : Ranked (decl.order cls) (s.forest.children list)

structure Sound (pending : Node → Prop) (s : State) : Prop where
  fresh : ∀ node top, s.forest.parent node = some top → node.index < s.next ∧ top.index < s.next
  small : ∀ item object, s.objects item = some object → ∀ node ∈ object.nodes item, node.index < s.next
  documents : s.documents ≤ s.next
  second : ∀ item object node, s.objects item = some object → object.validUntil = some node →
    s.documents ≤ node.index ∧ node ≠ item
  owner : ∀ left right node leftObject rightObject, s.objects left = some leftObject →
    s.objects right = some rightObject → node ∈ leftObject.nodes left → node ∈ rightObject.nodes right → left = right
  plain : ∀ item object, s.objects item = some object → object.identified decl = false → object.id = none
  lists : ∀ list element maps, s.objects list = some element → element.maps = some maps →
    Kept decl pending s list element.cls maps

/-- No item is pending. -/
def idle : Node → Prop := fun _ => False

variable {decl} {refuses : Forest Node → Node → Node → Bool} {pending : Node → Prop} {s s' : State}
  {list item node : Node} {cls : String} {maps : Maps} {element object : Element}

/-! ### Objects -/

/-- The same object, but for its dictionaries and an ID that was not set or read. -/
inductive Follows (decl : Declarations) : Option Element → Option Element → Prop
  | refl (old : Option Element) : Follows decl old old
  | maps (old : Element) (maps : Option Maps) : Follows decl (some old) (some { old with maps := maps })
  | id (old : Element) (id : Option String) (hid : old.id = none) (h : old.identified decl = true) :
      Follows decl (some old) (some { old with id := some id })

theorem Follows.of_right {old new : Option Element} (h : Follows decl old new) (hnew : new = some object) :
    ∃ before, old = some before ∧ before.cls = object.cls ∧ before.validUntil = object.validUntil := by
  cases h with
  | refl => exact ⟨object, hnew, rfl, rfl⟩
  | maps before => obtain rfl := Option.some.inj hnew; exact ⟨before, rfl, rfl, rfl⟩
  | id before => obtain rfl := Option.some.inj hnew; exact ⟨before, rfl, rfl, rfl⟩

theorem Follows.of_left {old new : Option Element} (h : Follows decl old new) (hold : old = some object) :
    ∃ after, new = some after ∧ object.cls = after.cls ∧ object.validUntil = after.validUntil ∧
      (object.id = none ∧ object.identified decl = true ∧ after.id ≠ none ∨ after.id = object.id) := by
  cases h with
  | refl => exact ⟨object, hold, rfl, rfl, .inr rfl⟩
  | maps before => obtain rfl := Option.some.inj hold; exact ⟨_, rfl, rfl, rfl, .inr rfl⟩
  | id before id hid hident =>
      obtain rfl := Option.some.inj hold
      exact ⟨_, rfl, rfl, rfl, .inl ⟨hid, hident, Option.some_ne_none _⟩⟩

theorem identified_congr {left right : Element} (hcls : left.cls = right.cls)
    (huntil : left.validUntil = right.validUntil) : left.identified decl = right.identified decl := by
  rw [Element.identified, Element.identified, hcls, huntil]

theorem accepts_congr {left right : Element} (hcls : left.cls = right.cls)
    (huntil : left.validUntil = right.validUntil) : State.accepts decl cls left = State.accepts decl cls right := by
  rw [State.accepts, State.accepts, hcls, huntil]

theorem nodes_congr {left right : Element} (huntil : left.validUntil = right.validUntil) (node : Node) :
    left.nodes node = right.nodes node := by
  rw [Element.nodes, Element.nodes, huntil]

@[simp] theorem Element.mem_nodes_self (element : Element) (node : Node) : node ∈ element.nodes node :=
  List.mem_cons_self

/-! ### The frame of a list -/

theorem Kept.frame (h : Kept decl pending s list cls maps)
    (hobjects : ∀ item, item ∈ maps.elementMap ∨ s'.forest.parent item = some list →
      Follows decl (s.objects item) (s'.objects item))
    (hparent : ∀ item object, s.objects item = some object → ¬ pending item →
      ∀ node ∈ object.nodes item, (s'.forest.parent node = some list ↔ s.forest.parent node = some list))
    (hordered : Ranked (decl.order cls) (s'.forest.children list)) : Kept decl pending s' list cls maps where
  exact item hpending := by
    rw [h.exact item hpending]
    constructor
    · rintro ⟨object, hobject, haccepts, hnodes⟩
      have hfollows := hobjects item (.inr ((hparent item object hobject hpending item (by simp)).mpr
        (hnodes item (by simp))))
      obtain ⟨after, hafter, hcls, huntil, -⟩ := hfollows.of_left hobject
      refine ⟨after, hafter, accepts_congr hcls huntil ▸ haccepts, fun node hnode => ?_⟩
      rw [← nodes_congr huntil] at hnode
      exact (hparent item object hobject hpending node hnode).mpr (hnodes node hnode)
    · rintro ⟨object, hobject, haccepts, hnodes⟩
      obtain ⟨before, hbefore, hcls, huntil⟩ := (hobjects item (.inr (hnodes item (by simp)))).of_right hobject
      refine ⟨before, hbefore, (accepts_congr hcls huntil).trans haccepts, fun node hnode => ?_⟩
      refine (hparent item before hbefore hpending node hnode).mp (hnodes node ?_)
      exact nodes_congr huntil item ▸ hnode
  nodup := h.nodup
  registered key item := by
    rw [h.registered]
    refine and_congr_right fun hitem => ?_
    obtain ⟨object, hobject, hfrozen⟩ := h.frozen item hitem
    obtain ⟨after, hafter, hcls, -, ⟨hnone, hident, -⟩ | hid⟩ := (hobjects item (.inl hitem)).of_left hobject
    · exact absurd hnone (hfrozen hident)
    · rw [State.key, State.key, hobject, hafter, Option.bind_some, Option.bind_some, Element.key, Element.key,
        Element.xmlId, Element.xmlId, hcls, hid]
  frozen item hitem := by
    obtain ⟨object, hobject, hfrozen⟩ := h.frozen item hitem
    obtain ⟨after, hafter, hcls, huntil, ⟨-, -, hsome⟩ | hid⟩ := (hobjects item (.inl hitem)).of_left hobject
    · exact ⟨after, hafter, fun _ => hsome⟩
    · refine ⟨after, hafter, fun hident => ?_⟩
      rw [hid]
      exact hfrozen ((identified_congr hcls huntil).trans hident)
  ordered := hordered

/-! ### Dictionaries -/

theorem Maps.lookup_register (maps : Maps) (key : Option (String × String)) (item : Node) (other : String × String) :
    (maps.register key item).lookup other = if key = some other then some item else maps.lookup other := by
  cases key with
  | none => rw [if_neg (by simp)]; rfl
  | some key =>
      rw [Maps.lookup, Maps.register, KeyedList.find_assign]
      by_cases heq : other = key
      · rw [if_pos heq, if_pos (by rw [heq])]
        rfl
      · rw [if_neg heq, if_neg (fun h => heq (Option.some.inj h).symm)]
        rfl

theorem Maps.lookup_deleteId (maps : Maps) (key other : String × String) :
    (maps.deleteId key).lookup other = if key = other then none else maps.lookup other := by
  rw [Maps.lookup, Maps.deleteId, KeyedList.find_erase]
  by_cases heq : other = key
  · rw [if_pos heq, if_pos heq.symm, Option.map_none]
  · rw [if_neg heq, if_neg (Ne.symm heq), Maps.lookup]

@[simp] theorem Maps.mem_register {key : Option (String × String)} {other : Node} :
    other ∈ (maps.register key item).elementMap ↔ other ∈ maps.elementMap ∨ other = item := by
  change other ∈ (if item ∈ maps.elementMap then maps.elementMap else maps.elementMap ++ [item]) ↔ _
  split_ifs with hmem
  · exact ⟨.inl, fun h => h.elim id fun heq => heq ▸ hmem⟩
  · simp

/-- Both entries of an item are deleted. -/
def Maps.delete (maps : Maps) (key : Option (String × String)) (item : Node) : Maps :=
  (match key with
    | some key => maps.deleteId key
    | none => maps).deleteElement item

theorem Maps.lookup_delete (maps : Maps) (key : Option (String × String)) (item : Node) (other : String × String) :
    (maps.delete key item).lookup other = if key = some other then none else maps.lookup other := by
  cases key with
  | none => rw [if_neg (by simp)]; rfl
  | some key => exact (Maps.lookup_deleteId maps key other).trans (by simp only [Option.some.injEq])

theorem Maps.elementMap_delete (maps : Maps) (key : Option (String × String)) (item : Node) :
    (maps.delete key item).elementMap = maps.elementMap.erase item := by
  cases key <;> rfl

theorem Kept.register {key : Option (String × String)} (h : Kept decl pending s list cls maps) (hpending : pending item)
    (hobject : s.objects item = some object) (hfrozen : object.identified decl = true → object.id ≠ none)
    (hkey : s.key item = key) (hnone : ∀ other, key = some other → maps.lookup other = none) :
    Kept decl pending s list cls (maps.register key item) where
  exact other hother := by
    rw [Maps.mem_register, or_iff_left fun heq : other = item => hother (heq ▸ hpending)]
    exact h.exact other hother
  nodup := by
    change (if item ∈ maps.elementMap then maps.elementMap else maps.elementMap ++ [item]).Nodup
    split_ifs with hmem
    · exact h.nodup
    · exact List.nodup_append.mpr ⟨h.nodup, List.nodup_singleton _, fun other hother item hitem heq =>
        hmem (List.mem_singleton.mp hitem ▸ heq ▸ hother)⟩
  registered other node := by
    rw [Maps.lookup_register, Maps.mem_register]
    split_ifs with heq
    · constructor
      · intro hitem
        obtain rfl := Option.some.inj hitem
        exact ⟨.inr rfl, hkey.trans heq⟩
      · rintro ⟨hmem | rfl, hnode⟩
        · have hlookup := (h.registered other node).mpr ⟨hmem, hnode⟩
          rw [hnone other heq] at hlookup
          exact absurd hlookup.symm (Option.some_ne_none _)
        · rfl
    · rw [h.registered]
      refine and_congr_left fun hnode => ⟨.inl, fun hmem => hmem.resolve_right fun hitem => heq ?_⟩
      rw [← hkey, ← hitem]
      exact hnode
  frozen other hother := by
    rcases Maps.mem_register.mp hother with hmem | rfl
    · exact h.frozen other hmem
    · exact ⟨object, hobject, hfrozen⟩
  ordered := h.ordered

theorem Kept.delete (h : Kept decl (· = item) s list cls maps) (hitem : item ∈ maps.elementMap) :
    Kept decl (· = item) s list cls (maps.delete (s.key item) item) where
  exact other hother := by
    rw [Maps.elementMap_delete, h.nodup.mem_erase_iff, and_iff_right hother]
    exact h.exact other hother
  nodup := by
    rw [Maps.elementMap_delete]
    exact h.nodup.erase item
  registered key other := by
    rw [Maps.lookup_delete, Maps.elementMap_delete, h.nodup.mem_erase_iff]
    split_ifs with heq
    · refine ⟨fun hnone => (nomatch hnone), fun ⟨⟨hne, hmem⟩, hkey⟩ => absurd ?_ hne⟩
      have hother := (h.registered key other).mpr ⟨hmem, hkey⟩
      rw [(h.registered key item).mpr ⟨hitem, heq⟩] at hother
      exact (Option.some.inj hother).symm
    · rw [h.registered, and_assoc]
      exact ⟨fun hother => ⟨fun hne => heq (hne ▸ hother.2), hother⟩, And.right⟩
  frozen other hother := h.frozen other (List.mem_of_mem_erase (Maps.elementMap_delete maps _ item ▸ hother))
  ordered := h.ordered

/-! ### States -/

theorem Sound.follows (h : Sound decl pending s) (hforest : s'.forest = s.forest) (hnext : s'.next = s.next)
    (hdocuments : s'.documents = s.documents) (hobjects : ∀ item, Follows decl (s.objects item) (s'.objects item))
    (hlists : ∀ list element maps, s'.objects list = some element → element.maps = some maps →
      Kept decl pending s list element.cls maps) : Sound decl pending s' where
  fresh := by rw [hforest, hnext]; exact h.fresh
  small item object hobject node hnode := by
    obtain ⟨before, hbefore, -, huntil⟩ := (hobjects item).of_right hobject
    rw [hnext]
    exact h.small item before hbefore node (nodes_congr huntil item ▸ hnode)
  documents := by rw [hdocuments, hnext]; exact h.documents
  second item object node hobject hnode := by
    obtain ⟨before, hbefore, -, huntil⟩ := (hobjects item).of_right hobject
    rw [hdocuments]
    exact h.second item before node hbefore (huntil.trans hnode)
  owner left right node leftObject rightObject hleft hright hnodeLeft hnodeRight := by
    obtain ⟨oldLeft, holdLeft, -, huntilLeft⟩ := (hobjects left).of_right hleft
    obtain ⟨oldRight, holdRight, -, huntilRight⟩ := (hobjects right).of_right hright
    exact h.owner left right node oldLeft oldRight holdLeft holdRight (nodes_congr huntilLeft left ▸ hnodeLeft)
      (nodes_congr huntilRight right ▸ hnodeRight)
  plain item object hobject hident := by
    obtain ⟨before, hbefore, hcls, huntil⟩ := (hobjects item).of_right hobject
    have hold := h.plain item before hbefore ((identified_congr hcls huntil).trans hident)
    obtain ⟨after, hafter, hcls', huntil', ⟨-, hident', -⟩ | hid⟩ := (hobjects item).of_left hbefore
    · rw [identified_congr hcls huntil, hident] at hident'
      exact absurd hident' Bool.false_ne_true
    · rw [hobject] at hafter
      obtain rfl := Option.some.inj hafter
      rw [hid, hold]
  lists list element maps helement hmaps :=
    (hlists list element maps helement hmaps).frame (fun item _ => hobjects item)
      (fun _ _ _ _ _ _ => by rw [hforest]) (by rw [hforest]; exact (hlists list element maps helement hmaps).ordered)

theorem Sound.assignId (h : Sound decl pending s) (hobject : s.objects item = some object) (hid : object.id = none)
    (hident : object.identified decl = true) (id : Option String) :
    Sound decl pending (s.setObject item { object with id := some id }) := by
  refine h.follows rfl rfl rfl (fun other => ?_) (fun list element maps helement hmaps => ?_)
  · rw [State.objects_setObject]
    split_ifs with heq
    · rw [heq, hobject]
      exact .id object id hid hident
    · exact .refl _
  · rw [State.objects_setObject] at helement
    split_ifs at helement with heq
    · obtain rfl := Option.some.inj helement
      exact heq ▸ h.lists item object maps hobject hmaps
    · exact h.lists list element maps helement hmaps

theorem Sound.readId (h : Sound decl pending s) (item : Node) : Sound decl pending (s.readId decl item) := by
  rw [State.readId]
  split
  next object hobject =>
    split_ifs with hread
    · simp only [Bool.and_eq_true, Option.isNone_iff_eq_none] at hread
      exact h.assignId hobject hread.2 hread.1 none
    · exact h
  next => exact h

theorem Sound.setId (h : Sound decl pending s) (item : Node) (id : Option String) :
    Sound decl pending (s.setId decl item id).1 := by
  rw [State.setId]
  split
  next object hobject =>
    split_ifs with hident hid
    · exact h
    · exact h
    · exact h.assignId hobject (by simpa using hid) hident id
    · exact h
  next => exact h

theorem maps_of_object (hlist : s.objects list = some element) (hmaps : element.maps = some maps) :
    s.maps list = maps := by
  rw [State.maps, hlist, Option.bind_some, hmaps]
  rfl

theorem maps_setObject {other : Node} (hobject : s.objects item = some object) (hmaps : element.maps = object.maps) :
    (s.setObject item element).maps other = s.maps other := by
  rw [State.maps, State.objects_setObject]
  split_ifs with heq
  · rw [heq, State.maps, hobject, Option.bind_some, Option.bind_some, hmaps]
  · rfl

@[simp] theorem maps_readId (other : Node) : (s.readId decl item).maps other = s.maps other := by
  rw [State.readId]
  split
  next object hobject =>
    split_ifs
    · exact maps_setObject hobject rfl
    · rfl
  next => rfl

@[simp] theorem forest_readId : (s.readId decl item).forest = s.forest := by
  rw [State.readId]
  split
  next => split_ifs <;> rfl
  next => rfl

theorem objects_readId (decl : Declarations) (h : s.objects item = some object) :
    ∃ id, (s.readId decl item).objects item = some { object with id := id } ∧
      (object.identified decl = true → id ≠ none) := by
  rw [State.readId, h]
  simp only
  split_ifs with hread
  · exact ⟨some none, by rw [State.objects_setObject, if_pos rfl], fun _ => Option.some_ne_none _⟩
  · refine ⟨object.id, h, fun hident hid => hread ?_⟩
    rw [hident, hid]
    rfl

theorem objects_readId_ne {other : Node} (h : other ≠ item) : (s.readId decl item).objects other = s.objects other := by
  rw [State.readId]
  split
  next =>
    split_ifs
    · rw [State.objects_setObject, if_neg h]
    · rfl
  next => rfl

/-- An ID that was read before is only looked up. -/
theorem readId_eq (h : s.objects item = some object) (hfrozen : object.identified decl = true → object.id ≠ none) :
    s.readId decl item = s := by
  rw [State.readId, h]
  refine if_neg fun hread => ?_
  simp only [Bool.and_eq_true, Option.isNone_iff_eq_none] at hread
  exact hfrozen hread.1 hread.2

theorem objects_setMaps (maps : Maps) (other : Node) (hlist : s.objects list = some element) :
    (s.setMaps list maps).objects other =
      if other = list then some { element with maps := some maps } else s.objects other := by
  rw [State.setMaps, hlist]
  exact State.objects_setObject ..

theorem maps_setMaps (maps : Maps) (other : Node) (hlist : s.objects list = some element) :
    (s.setMaps list maps).maps other = if other = list then maps else s.maps other := by
  rw [State.maps, objects_setMaps maps other hlist]
  split_ifs <;> rfl

@[simp] theorem forest_setMaps (maps : Maps) : (s.setMaps list maps).forest = s.forest := by
  rw [State.setMaps]
  split <;> rfl

theorem key_setMaps (maps : Maps) (other : Node) (hlist : s.objects list = some element) :
    (s.setMaps list maps).key other = s.key other := by
  rw [State.key, objects_setMaps maps other hlist]
  split_ifs with heq
  · rw [heq, State.key, hlist]
    rfl
  · rfl

theorem setMaps_setMaps (left right : Maps) (hlist : s.objects list = some element) :
    (s.setMaps list left).setMaps list right = s.setMaps list right := by
  have hleft := objects_setMaps left list hlist
  rw [if_pos rfl] at hleft
  rw [State.setMaps, hleft]
  simp only [State.setMaps, hlist, State.setObject, Function.update_idem]

theorem Sound.setMaps (h : Sound decl pending s) (hlist : s.objects list = some element)
    (hkept : Kept decl pending s list element.cls maps) : Sound decl pending (s.setMaps list maps) := by
  have hobjects := fun other => objects_setMaps maps other hlist
  have hnext : (s.setMaps list maps).next = s.next ∧ (s.setMaps list maps).documents = s.documents := by
    rw [State.setMaps, hlist]
    exact ⟨rfl, rfl⟩
  refine h.follows (forest_setMaps maps) hnext.1 hnext.2 (fun other => ?_) fun other found held hfound hheld => ?_
  · rw [hobjects]
    split_ifs with heq
    · rw [heq, hlist]
      exact .maps element _
    · exact .refl _
  · rw [hobjects] at hfound
    split_ifs at hfound with heq
    · obtain rfl := Option.some.inj hfound
      obtain rfl := Option.some.inj hheld
      exact heq ▸ hkept
    · exact h.lists other found held hfound hheld

/-! ### Nodes of pending items -/

theorem Sound.moved {forest : Forest Node} (h : Sound decl pending s)
    (hfresh : ∀ node top, forest.parent node = some top →
      s.forest.parent node = some top ∨ node.index < s.next ∧ top.index < s.next)
    (hparent : ∀ item object, s.objects item = some object → ¬ pending item →
      ∀ node ∈ object.nodes item, ∀ list, s.objects list ≠ none →
        (forest.parent node = some list ↔ s.forest.parent node = some list))
    (hordered : ∀ list element, s.objects list = some element →
      Ranked (decl.order element.cls) (s.forest.children list) →
        Ranked (decl.order element.cls) (forest.children list)) :
    Sound decl pending { s with forest := forest } where
  fresh node top htop := (hfresh node top htop).elim (h.fresh node top) id
  small := h.small
  documents := h.documents
  second := h.second
  owner := h.owner
  plain := h.plain
  lists list element maps hlist hmaps := by
    have hkept := h.lists list element maps hlist hmaps
    exact hkept.frame (fun _ _ => .refl _) (fun item object hobject hpending node hnode =>
      hparent item object hobject hpending node hnode list (by rw [hlist]; exact Option.some_ne_none _))
      (hordered list element hlist hkept.ordered)

theorem ranked_erase {rank : Node → Nat} {nodes : List Node} (h : Ranked rank nodes) (node : Node) :
    Ranked rank (nodes.erase node) :=
  List.Pairwise.sublist List.erase_sublist h

theorem Sound.detach (h : Sound decl pending s) (hobject : s.objects item = some object)
    (hnode : node ∈ object.nodes item) (hpending : pending item) : Sound decl pending (s.detach node) := by
  refine h.moved (fun other top htop => .inl ?_) (fun other found hfound hother part hpart list _ => ?_)
    fun list element _ hranked => ?_
  · rw [Forest.parent_detach] at htop
    split_ifs at htop
    exact htop
  · have hne : part ≠ node := fun heq => hother
      (h.owner item other node object found hobject hfound hnode (heq ▸ hpart) ▸ hpending)
    rw [Forest.parent_detach, if_neg hne]
  · exact ranked_erase hranked node

theorem Sound.insert (h : Sound decl pending s) (hobject : s.objects item = some object)
    (hnode : node ∈ object.nodes item) (hpending : pending item) (hlist : s.objects list = some element)
    (hparent : s.forest.parent node ≠ some list) :
    Sound decl pending { s with
      forest := s.forest.insert list (slot (decl.order element.cls) node (s.forest.children list)) node } := by
  refine h.moved (fun other top htop => ?_) (fun other found hfound hother part hpart list _ => ?_)
    fun other found hfound hranked => ?_
  · rw [Forest.parent_insert] at htop
    split_ifs at htop with heq
    · obtain rfl := Option.some.inj htop
      exact .inr ⟨heq ▸ h.small item object hobject node hnode, h.small list element hlist list (by simp)⟩
    · exact .inl htop
  · have hne : part ≠ node := fun heq => hother
      (h.owner item other node object found hobject hfound hnode (heq ▸ hpart) ▸ hpending)
    rw [Forest.parent_insert, if_neg hne]
  · by_cases heq : other = list
    · rw [heq, hlist] at hfound
      obtain rfl := Option.some.inj hfound
      rw [heq, Forest.children_insert_self _ _ hparent]
      exact ranked_insertAt_slot node (heq ▸ hranked)
    · rw [Forest.children_insert_ne _ _ heq]
      exact ranked_erase hranked node

/-- The clause about the children is opened for any items. -/
theorem Sound.opened (h : Sound decl idle s) (pending : Node → Prop) : Sound decl pending s :=
  { h with
    lists := fun list element maps hlist hmaps =>
      { h.lists list element maps hlist hmaps with
        exact := fun item _ => (h.lists list element maps hlist hmaps).exact item (nomatch ·) } }

theorem Sound.closed (h : Sound decl (· = item) s)
    (hexact : ∀ list element maps, s.objects list = some element → element.maps = some maps →
      (item ∈ maps.elementMap ↔ Holds decl s list element.cls item)) : Sound decl idle s :=
  { h with
    lists := fun list element maps hlist hmaps =>
      { h.lists list element maps hlist hmaps with
        exact := fun other _ => by
          by_cases heq : other = item
          · exact heq ▸ hexact list element maps hlist hmaps
          · exact (h.lists list element maps hlist hmaps).exact other heq } }

theorem object_of_mem (h : item ∈ (s.maps list).elementMap) :
    ∃ element, s.objects list = some element ∧ element.maps = some (s.maps list) := by
  cases hlist : s.objects list with
  | none =>
      rw [State.maps, hlist] at h
      cases h
  | some element =>
      cases hmaps : element.maps with
      | none =>
          rw [State.maps, hlist, Option.bind_some, hmaps] at h
          cases h
      | some maps => exact ⟨element, rfl, by rw [maps_of_object hlist hmaps, hmaps]⟩

theorem Sound.holds_of_mem (h : Sound decl idle s) (hitem : item ∈ (s.maps list).elementMap) :
    ∃ element, s.objects list = some element ∧ Holds decl s list element.cls item := by
  obtain ⟨element, hlist, hmaps⟩ := object_of_mem hitem
  exact ⟨element, hlist, ((h.lists list element _ hlist hmaps).exact item id).mp hitem⟩

theorem Sound.parent_of_mem (h : Sound decl idle s) (hitem : item ∈ (s.maps list).elementMap) :
    s.forest.parent item = some list := by
  obtain ⟨element, -, object, -, -, hnodes⟩ := h.holds_of_mem hitem
  exact hnodes item (by simp)

/-- A node that is no child of a list, and no item of one. -/
theorem Sound.closed_out (h : Sound decl (· = item) s)
    (hparent : ∀ list element, s.objects list = some element → ¬ Holds decl s list element.cls item)
    (hout : ∀ list, item ∉ (s.maps list).elementMap) : Sound decl idle s :=
  h.closed fun list element _ hlist hmaps =>
    iff_of_false (maps_of_object hlist hmaps ▸ hout list) (hparent list element hlist)

theorem not_holds_of_parent (h : s.forest.parent item ≠ some list) : ¬ Holds decl s list cls item :=
  fun ⟨_, _, _, hnodes⟩ => h (hnodes item (by simp))

/-! ### Removing -/

theorem delete_eq (hlist : s.objects list = some element) (hmaps : element.maps = some maps)
    (hkept : Kept decl (· = item) s list cls maps) (hitem : item ∈ maps.elementMap) :
    (s.deleteId list (s.key item)).andThen (fun s => s.deleteElement list item) =
      (s.setMaps list (maps.delete (s.key item) item), none) := by
  have hheld := maps_of_object hlist hmaps
  cases hkey : s.key item with
  | none =>
      rw [State.deleteId, Result.andThen, State.deleteElement, hheld, if_pos hitem]
      rfl
  | some key =>
      have hlookup := (hkept.registered key item).mpr ⟨hitem, hkey⟩
      rw [State.deleteId, hheld, hlookup, Option.isSome_some, if_pos rfl, Result.andThen, State.deleteElement,
        maps_setMaps _ _ hlist, if_pos rfl, if_pos (show item ∈ (maps.deleteId key).elementMap from hitem),
        setMaps_setMaps _ _ hlist]
      rfl

theorem delete_fails (hout : item ∉ (s.maps list).elementMap)
    (hnone : ∀ key, s.key item = some key → (s.maps list).lookup key = none) :
    (s.deleteId list (s.key item)).andThen (fun s => s.deleteElement list item) = (s, some .keyError) := by
  cases hkey : s.key item with
  | none => rw [State.deleteId, Result.andThen, State.deleteElement, if_neg hout]
  | some key =>
      rw [State.deleteId, hnone key hkey]
      rfl

theorem Sound.deleted (h : Sound decl (· = item) s) (hlist : s.objects list = some element)
    (hmaps : element.maps = some maps) (hitem : item ∈ maps.elementMap) (hparent : s.forest.parent item = none)
    (hout : ∀ other, other ≠ list → item ∉ (s.maps other).elementMap) :
    Sound decl idle (s.setMaps list (maps.delete (s.key item) item)) := by
  have hkept := h.lists list element maps hlist hmaps
  refine (h.setMaps hlist (hkept.delete hitem)).closed_out (fun other found _ => ?_) fun other => ?_
  · refine not_holds_of_parent ?_
    rw [forest_setMaps, hparent]
    exact (Option.some_ne_none _).symm
  · rw [maps_setMaps _ _ hlist]
    split_ifs with heq
    · rw [Maps.elementMap_delete]
      exact hkept.nodup.not_mem_erase
    · exact hout other heq

theorem Sound.out_of_parent (h : Sound decl idle s) (hparent : s.forest.parent item = some list) (other : Node)
    (hne : other ≠ list) : item ∉ (s.maps other).elementMap := fun hmem =>
  hne (Option.some.inj ((h.parent_of_mem hmem).symm.trans hparent))

theorem key_eq (hobject : s.objects item = some object) : s.key item = object.key := by
  rw [State.key, hobject, Option.bind_some]

theorem cls_of_key {key : String × String} (h : s.key item = some key) (hobject : s.objects item = some object) :
    object.cls = key.1 := by
  rw [key_eq hobject, Element.key] at h
  obtain ⟨id, -, rfl⟩ := Option.map_eq_some_iff.mp h
  rfl

theorem accepts_item (hintervals : decl.intervals cls = false) :
    State.accepts decl cls object = true ↔ object.validUntil = none ∧ decl.items cls object.cls = true := by
  simp [State.accepts, hintervals]

/-- An item of the class of this one is in the dictionary, so this one would be too. -/
theorem Kept.lookup_none (h : Kept decl idle s list cls maps) (hintervals : decl.intervals cls = false)
    (hobject : s.objects item = some object) (huntil : object.validUntil = none)
    (hparent : s.forest.parent item = some list) (hitem : item ∉ maps.elementMap) {key : String × String}
    (hkey : object.cls = key.1) : maps.lookup key = none := by
  refine Option.eq_none_iff_forall_ne_some.mpr fun other hlookup => hitem ?_
  obtain ⟨hother, hsame⟩ := (h.registered key other).mp hlookup
  obtain ⟨found, hfound, haccepts, -⟩ := (h.exact other id).mp hother
  refine (h.exact item id).mpr ⟨object, hobject, ?_, fun node hnode => ?_⟩
  · rw [accepts_item hintervals] at haccepts ⊢
    rw [hkey, ← cls_of_key hsame hfound]
    exact ⟨huntil, haccepts.2⟩
  · rw [Element.nodes, huntil] at hnode
    exact List.mem_singleton.mp hnode ▸ hparent

theorem Sound.removeItem (h : Sound decl idle s) (hlist : s.objects list = some element)
    (hmaps : element.maps = some maps) (hintervals : decl.intervals element.cls = false)
    (hobject : s.objects item = some object) (huntil : object.validUntil = none) :
    Sound decl idle (s.removeItem decl list item).1 := by
  have hkept := h.lists list element maps hlist hmaps
  have hheld := maps_of_object hlist hmaps
  rw [State.removeItem, State.removeElement]
  split_ifs with hparent
  · have hdetached := (h.opened (· = item)).detach hobject (object.mem_nodes_self item) rfl
    have hgone : (s.detach item).forest.parent item = none := by
      rw [State.detach, Forest.parent_detach, if_pos rfl]
    rw [Result.andThen]
    by_cases hitem : item ∈ maps.elementMap
    · obtain ⟨found, hfound, hfrozen⟩ := hkept.frozen item hitem
      have hread : (s.detach item).readId decl item = s.detach item := readId_eq hfound hfrozen
      simp only [hread]
      rw [delete_eq (s := s.detach item) hlist hmaps (hdetached.lists list element maps hlist hmaps) hitem]
      exact hdetached.deleted hlist hmaps hitem hgone (h.out_of_parent hparent)
    · have hobject' : (s.detach item).objects item = some object := hobject
      obtain ⟨id, hid, -⟩ := objects_readId decl hobject'
      have hmapsRead : ((s.detach item).readId decl item).maps list = maps := by
        rw [maps_readId]
        exact hheld
      simp only
      rw [delete_fails (by rw [hmapsRead]; exact hitem) fun key hkey => by
        have hcls := cls_of_key hkey hid
        rw [hmapsRead]
        exact hkept.lookup_none hintervals hobject huntil hparent hitem hcls]
      refine (hdetached.readId item).closed_out (fun other _ _ => not_holds_of_parent ?_) fun other hmem => ?_
      · rw [forest_readId, hgone]
        exact (Option.some_ne_none _).symm
      · rw [maps_readId] at hmem
        by_cases heq : other = list
        · exact hitem (hheld ▸ heq ▸ hmem)
        · exact h.out_of_parent hparent other heq hmem
  · exact h

theorem Sound.key_interval (h : Sound decl pending s) (hobject : s.objects item = some object)
    (huntil : object.validUntil = some node) : s.key item = none := by
  have hid := h.plain item object hobject (by simp [Element.identified, huntil])
  rw [key_eq hobject, Element.key, Element.xmlId, hid]
  rfl

theorem Sound.removeInterval (h : Sound decl idle s) (hlist : s.objects list = some element)
    (hmaps : element.maps = some maps) (hobject : s.objects item = some object)
    (huntil : object.validUntil = some node) : Sound decl idle (s.removeInterval list item node).1 := by
  have hkept := h.lists list element maps hlist hmaps
  have hheld := maps_of_object hlist hmaps
  have hnode : node ∈ object.nodes item := by simp [Element.nodes, huntil]
  have hne := (h.second item object node hobject huntil).2
  rw [State.removeInterval, State.removeElement]
  split_ifs with hparent
  · have hout := h.out_of_parent hparent
    have hfirst := (h.opened (· = item)).detach hobject (object.mem_nodes_self item) rfl
    have hgone : (s.detach item).forest.parent item = none := by
      rw [State.detach, Forest.parent_detach, if_pos rfl]
    rw [Result.andThen, State.removeElement]
    split_ifs with hsecond
    · have hboth := hfirst.detach (s := s.detach item) hobject hnode rfl
      have hgoneBoth : ((s.detach item).detach node).forest.parent item = none := by
        rw [State.detach, Forest.parent_detach, if_neg hne.symm, hgone]
      have hkey : ((s.detach item).detach node).key item = none := hboth.key_interval hobject huntil
      rw [Result.andThen]
      by_cases hitem : item ∈ maps.elementMap
      · have hdelete := delete_eq (s := (s.detach item).detach node) hlist hmaps (hboth.lists list element maps hlist hmaps) hitem
        rw [hkey, State.deleteId, Result.andThen] at hdelete
        simp only [hdelete]
        have hdeleted := hboth.deleted hlist hmaps hitem hgoneBoth hout
        rw [hkey] at hdeleted
        exact hdeleted
      · have hfails := delete_fails (s := (s.detach item).detach node) (hheld ▸ hitem)
          fun key hsome => absurd (hkey.symm.trans hsome) (Option.some_ne_none _).symm
        rw [hkey, State.deleteId, Result.andThen] at hfails
        simp only [hfails]
        refine hboth.closed_out (fun other _ _ => not_holds_of_parent ?_) fun other hmem => ?_
        · rw [hgoneBoth]
          exact (Option.some_ne_none _).symm
        · by_cases heq : other = list
          · exact hitem (hheld ▸ heq ▸ hmem)
          · exact hout other heq hmem
    · refine hfirst.closed_out (fun other _ _ => not_holds_of_parent ?_) fun other hmem => ?_
      · rw [hgone]
        exact (Option.some_ne_none _).symm
      · by_cases heq : other = list
        · obtain ⟨_, _, found, hfound, -, hnodes⟩ := h.holds_of_mem (heq ▸ hmem)
          rw [hobject] at hfound
          obtain rfl := Option.some.inj hfound
          refine hsecond ?_
          rw [State.detach, Forest.parent_detach, if_neg hne]
          exact hnodes node hnode
        · exact hout other heq hmem
  · exact h

theorem Sound.remove (h : Sound decl idle s) (list item : Node) : Sound decl idle (s.remove decl list item).1 := by
  rw [State.remove]
  split
  next element object hlist hobject =>
    split_ifs with hmaps
    · exact h
    · obtain ⟨maps, hmaps⟩ := Option.ne_none_iff_exists'.mp fun hnone : element.maps = none =>
        hmaps (by rw [hnone]; rfl)
      split
      next hintervals huntil => exact h.removeItem hlist hmaps hintervals hobject huntil
      next node _ huntil => exact h.removeInterval hlist hmaps hobject huntil
      next => exact h
  next => exact h

theorem Result.andThen_fst {invariant : State → Prop} {result : Result} {f : State → Result} (h : invariant result.1)
    (hf : ∀ s, invariant s → invariant (f s).1) : invariant (result.andThen f).1 := by
  obtain ⟨s, error⟩ := result
  cases error with
  | none => exact hf s h
  | some => exact h

theorem Sound.removeAll (list : Node) (items : List Node) :
    ∀ {s : State}, Sound decl idle s → Sound decl idle (s.removeAll decl list items).1 := by
  induction items with
  | nil => exact id
  | cons item items ih => exact fun h => Result.andThen_fst (h.remove list item) fun _ => ih

theorem Sound.clear (h : Sound decl idle s) (list : Node) : Sound decl idle (s.clear decl list).1 :=
  h.removeAll list _

theorem Sound.delitem (h : Sound decl idle s) (list : Node) (cls id : String) :
    Sound decl idle (s.delitem decl list cls id).1 := by
  rw [State.delitem]
  split
  next item _ => exact h.remove list item
  next => exact h

theorem Sound.delitems (h : Sound decl idle s) (list : Node) (cls : String) :
    Sound decl idle (s.delitems decl list cls).1 :=
  h.removeAll list _

/-! ### Adding -/

theorem replace_eq (h : Sound decl idle s) (hlist : s.objects list = some element) (hmaps : element.maps = some maps)
    {key : String × String} {old : Node} (hold : maps.lookup key = some old) :
    s.replace list (some key) (some old) = ((s.detach old).setMaps list (maps.delete (some key) old), none) ∧
      Sound decl idle ((s.detach old).setMaps list (maps.delete (some key) old)) := by
  have hkept := h.lists list element maps hlist hmaps
  obtain ⟨hmem, hkey⟩ := (hkept.registered key old).mp hold
  obtain ⟨object, hobject, -, hnodes⟩ := (hkept.exact old id).mp hmem
  have hparent := hnodes old (by simp)
  have hdetached := (h.opened (· = old)).detach hobject (object.mem_nodes_self old) rfl
  have hdelete := delete_eq (s := s.detach old) hlist hmaps (hdetached.lists list element maps hlist hmaps) hmem
  have hdeleted := hdetached.deleted hlist hmaps hmem
    (by rw [State.detach, Forest.parent_detach, if_pos rfl]) (h.out_of_parent hparent)
  rw [show (s.detach old).key old = some key from hkey] at hdelete hdeleted
  refine ⟨?_, hdeleted⟩
  rw [State.replace, State.removeElement, if_pos hparent, Result.andThen]
  exact hdelete

/-- What an insertion of a node does. -/
structure Inserted (s : State) (list node : Node) (result : Result) : Prop where
  objects : result.1.objects = s.objects
  done : result.2 = none → result.1.forest.parent node = some list
  refused : result.2 ≠ none → result.1 = s ∧ s.forest.parent node ≠ some list
  others : ∀ other, other ≠ node → result.1.forest.parent other = s.forest.parent other

theorem insertElement_inserted : Inserted s list node (s.insertElement decl refuses list cls node) := by
  rw [State.insertElement]
  split_ifs with hparent hrefuses
  · exact ⟨rfl, fun _ => hparent, fun h => absurd rfl h, fun _ _ => rfl⟩
  · exact ⟨rfl, fun h => (nomatch h), fun _ => ⟨rfl, hparent⟩, fun _ _ => rfl⟩
  · exact ⟨rfl, fun _ => by rw [Forest.parent_insert, if_pos rfl], fun h => absurd rfl h,
      fun other hother => by rw [Forest.parent_insert, if_neg hother]⟩

theorem Sound.insertElement (h : Sound decl (· = item) s) (hlist : s.objects list = some element)
    (hobject : s.objects item = some object) (hnode : node ∈ object.nodes item) :
    Sound decl (· = item) (s.insertElement decl refuses list element.cls node).1 := by
  rw [State.insertElement]
  split_ifs with hparent
  · exact h
  · exact h
  · exact h.insert hobject hnode rfl hlist hparent

theorem Sound.register {key : Option (String × String)} (h : Sound decl (· = item) s)
    (hlist : s.objects list = some element) (hmaps : element.maps = some maps)
    (hobject : s.objects item = some object) (haccepts : State.accepts decl element.cls object = true)
    (hnodes : ∀ node ∈ object.nodes item, s.forest.parent node = some list)
    (hfrozen : object.identified decl = true → object.id ≠ none) (hkey : s.key item = key)
    (hnone : ∀ other, key = some other → maps.lookup other = none)
    (hout : ∀ other, other ≠ list → item ∉ (s.maps other).elementMap) :
    Sound decl idle (s.register list key item).1 := by
  have hkept := h.lists list element maps hlist hmaps
  have hset := h.setMaps hlist (hkept.register rfl hobject hfrozen hkey hnone)
  rw [State.register, maps_of_object hlist hmaps]
  refine hset.closed fun other found held hfound hheld => ?_
  have hmem := maps_of_object hfound hheld
  rw [maps_setMaps _ _ hlist] at hmem
  by_cases heq : other = list
  · rw [if_pos heq] at hmem
    rw [heq, objects_setMaps _ _ hlist, if_pos rfl] at hfound
    obtain rfl := Option.some.inj hfound
    refine iff_of_true (hmem ▸ Maps.mem_register.mpr (.inr rfl)) ?_
    by_cases hself : item = list
    · refine ⟨{ element with maps := some (maps.register key item) }, ?_, ?_⟩
      · rw [objects_setMaps _ _ hlist, if_pos hself]
      · rw [hself, hlist] at hobject
        obtain rfl := Option.some.inj hobject
        exact ⟨haccepts, by rw [forest_setMaps, heq]; exact hnodes⟩
    · refine ⟨object, ?_, haccepts, by rw [forest_setMaps, heq]; exact hnodes⟩
      rw [objects_setMaps _ _ hlist, if_neg hself, hobject]
  · rw [if_neg heq] at hmem
    refine iff_of_false (hmem ▸ hout other heq) (not_holds_of_parent ?_)
    rw [forest_setMaps, hnodes item (by simp)]
    exact fun h => heq (Option.some.inj h).symm

theorem Sound.insertRegister {key : Option (String × String)} (h : Sound decl idle s)
    (hlist : s.objects list = some element) (hcls : element.cls = cls) (hmaps : element.maps = some maps)
    (hobject : s.objects item = some object) (huntil : object.validUntil = none)
    (haccepts : State.accepts decl cls object = true)
    (hfrozen : object.identified decl = true → object.id ≠ none) (hkey : s.key item = key)
    (hnone : ∀ other, key = some other → maps.lookup other = none)
    (hout : ∀ other, other ≠ list → item ∉ (s.maps other).elementMap) :
    Sound decl idle ((s.insertElement decl refuses list cls item).andThen
      fun s => s.register list key item).1 := by
  subst hcls
  have hinserted : Inserted s list item (s.insertElement decl refuses list element.cls item) :=
    insertElement_inserted
  have hsound : Sound decl (· = item) (s.insertElement decl refuses list element.cls item).1 :=
    (h.opened (· = item)).insertElement hlist hobject (object.mem_nodes_self item)
  generalize s.insertElement decl refuses list element.cls item = result at hinserted hsound
  obtain ⟨next, error⟩ := result
  cases error with
  | some error =>
      rw [Result.andThen, (hinserted.refused (Option.some_ne_none _)).1]
      exact h
  | none =>
      have hobjects : next.objects = s.objects := hinserted.objects
      refine hsound.register (by rw [hobjects]; exact hlist) hmaps (by rw [hobjects]; exact hobject) haccepts
        (fun node hnode => ?_) hfrozen ?_ hnone fun other hother => ?_
      · rw [Element.nodes, huntil] at hnode
        exact List.mem_singleton.mp hnode ▸ hinserted.done rfl
      · rw [State.key, hobjects]
        exact hkey
      · rw [State.maps, hobjects]
        exact hout other hother

/-- Reading an ID keeps everything else of every object. -/
theorem objects_readId_some (decl : Declarations) (item : Node) (h : s.objects node = some object) :
    ∃ id, (s.readId decl item).objects node = some { object with id := id } := by
  by_cases heq : node = item
  · obtain ⟨id, hid, -⟩ := objects_readId decl (heq ▸ h)
    exact ⟨id, heq ▸ hid⟩
  · exact ⟨object.id, by rw [objects_readId_ne heq, h]⟩

theorem objects_setMaps_some (maps : Maps) (hlist : s.objects list = some element) (h : s.objects node = some object) :
    ∃ held, (s.setMaps list maps).objects node = some { object with maps := held } := by
  rw [objects_setMaps _ _ hlist]
  by_cases heq : node = list
  · rw [heq, hlist] at h
    obtain rfl := Option.some.inj h
    exact ⟨some maps, if_pos heq⟩
  · exact ⟨object.maps, by rw [if_neg heq, h]⟩

theorem Sound.addElement (h : Sound decl idle s) (hlist : s.objects list = some element)
    (hmaps : element.maps = some maps) (hobject : s.objects item = some object) (huntil : object.validUntil = none)
    (haccepts : State.accepts decl element.cls object = true)
    (hout : ∀ other, other ≠ list → item ∉ (s.maps other).elementMap) :
    Sound decl idle (s.addElement decl refuses list element.cls item).1 := by
  have hread := h.readId item
  obtain ⟨id, hitem, hfrozen⟩ := objects_readId decl hobject
  obtain ⟨listId, hlist'⟩ := objects_readId_some decl item hlist
  have hheld : (s.readId decl item).maps list = maps := by rw [maps_readId, maps_of_object hlist hmaps]
  have hout' : ∀ other, other ≠ list → item ∉ ((s.readId decl item).maps other).elementMap := fun other hother => by
    rw [maps_readId]
    exact hout other hother
  rw [State.addElement]
  simp only [hheld]
  generalize s.readId decl item = t at hread hitem hlist' hheld hout'
  split_ifs with hold
  · exact hread
  · cases hkey : t.key item with
    | none =>
        rw [Option.bind_none, State.replace, Result.andThen]
        exact hread.insertRegister hlist' rfl hmaps hitem huntil haccepts hfrozen hkey (fun _ h => (nomatch h)) hout'
    | some key =>
        rw [Option.bind_some]
        cases hlookup : maps.lookup key with
        | none =>
            rw [State.replace, Result.andThen]
            exact hread.insertRegister hlist' rfl hmaps hitem huntil haccepts hfrozen hkey
              (fun other heq => Option.some.inj heq ▸ hlookup) hout'
        | some old =>
            obtain ⟨heq, hreplaced⟩ := replace_eq hread hlist' hmaps hlookup
            rw [heq, Result.andThen]
            have hlistEnd := objects_setMaps (s := t.detach old) (maps.delete (some key) old) list hlist'
            rw [if_pos rfl] at hlistEnd
            obtain ⟨held, hitemEnd⟩ := objects_setMaps_some (s := t.detach old) (maps.delete (some key) old) hlist' hitem
            refine hreplaced.insertRegister hlistEnd rfl rfl hitemEnd huntil haccepts hfrozen ?_ (fun other heq => ?_)
              fun other hother => ?_
            · rw [key_setMaps (s := t.detach old) _ _ hlist']
              exact hkey
            · rw [Maps.lookup_delete, if_pos heq]
            · rw [maps_setMaps (s := t.detach old) _ _ hlist', if_neg hother]
              exact hout' other hother

theorem Sound.addInterval (h : Sound decl idle s) (hlist : s.objects list = some element)
    (hmaps : element.maps = some maps) (hobject : s.objects item = some object)
    (huntil : object.validUntil = some node) (haccepts : State.accepts decl element.cls object = true)
    (hout : ∀ other, other ≠ list → item ∉ (s.maps other).elementMap) :
    Sound decl idle (s.addInterval decl refuses list element.cls item node).1 := by
  have hnode : node ∈ object.nodes item := by simp [Element.nodes, huntil]
  have hne := (h.second item object node hobject huntil).2
  have hfirst : Inserted s list item (s.insertElement decl refuses list element.cls item) := insertElement_inserted
  have hsound : Sound decl (· = item) (s.insertElement decl refuses list element.cls item).1 :=
    (h.opened (· = item)).insertElement hlist hobject (object.mem_nodes_self item)
  rw [State.addInterval]
  generalize s.insertElement decl refuses list element.cls item = result at hfirst hsound
  obtain ⟨t, error⟩ := result
  cases error with
  | some error =>
      obtain ⟨rfl, -⟩ := hfirst.refused (Option.some_ne_none _)
      exact h
  | none =>
      have hobjects : t.objects = s.objects := hfirst.objects
      have hsecond : Inserted t list node (t.insertElement decl refuses list element.cls node) := insertElement_inserted
      have hboth : Sound decl (· = item) (t.insertElement decl refuses list element.cls node).1 :=
        hsound.insertElement (by rw [hobjects]; exact hlist) (by rw [hobjects]; exact hobject) hnode
      simp only [Result.andThen]
      generalize t.insertElement decl refuses list element.cls node = result at hsecond hboth
      obtain ⟨u, error⟩ := result
      cases error with
      | some error =>
          obtain ⟨rfl, hparent⟩ := hsecond.refused (Option.some_ne_none _)
          -- the second node was no child of the list before, so the item was not in the dictionary
          refine hsound.closed_out (fun other found hfound => ?_) fun other hmem => ?_
          · by_cases heq : other = list
            · rintro ⟨held, hheld, -, hnodes⟩
              obtain rfl := Option.some.inj (hheld.symm.trans ((congrFun hobjects item).trans hobject))
              exact hparent (heq ▸ hnodes node hnode)
            · refine not_holds_of_parent fun h => heq (Option.some.inj ?_)
              exact h.symm.trans (hfirst.done rfl)
          · rw [State.maps, hobjects, ← State.maps] at hmem
            by_cases heq : other = list
            · obtain ⟨_, _, held, hheld, -, hnodes⟩ := h.holds_of_mem (heq ▸ hmem)
              rw [hobject] at hheld
              obtain rfl := Option.some.inj hheld
              exact hparent (by rw [hfirst.others node hne]; exact hnodes node hnode)
            · exact hout other heq hmem
      | none =>
          have hobjects' : u.objects = s.objects := hsecond.objects.trans hobjects
          refine hboth.register (by rw [hobjects']; exact hlist) hmaps (by rw [hobjects']; exact hobject) haccepts
            (fun part hpart => ?_) (fun hident => ?_) ?_ (fun _ h => (nomatch h)) fun other hother => ?_
          · rw [Element.nodes, huntil, Option.toList_some, List.mem_cons, List.mem_singleton] at hpart
            rcases hpart with rfl | rfl
            · rw [hsecond.others part hne.symm]
              exact hfirst.done rfl
            · exact hsecond.done rfl
          · simp [Element.identified, huntil] at hident
          · rw [State.key, hobjects', ← State.key]
            exact h.key_interval hobject huntil
          · rw [State.maps, hobjects']
            exact hout other hother

theorem Sound.add (h : Sound decl idle s)
    (hout : ∀ other, s.forest.parent item = some other → other ≠ list → item ∉ (s.maps other).elementMap) :
    Sound decl idle (s.add decl refuses list item).1 := by
  have hout' : ∀ other, other ≠ list → item ∉ (s.maps other).elementMap := fun other hother hmem =>
    hout other (h.parent_of_mem hmem) hother hmem
  rw [State.add]
  split
  next element object hlist hobject =>
    split_ifs with hmaps haccepts
    · exact h
    · obtain ⟨maps, hmaps⟩ := Option.ne_none_iff_exists'.mp fun hnone : element.maps = none =>
        hmaps (by rw [hnone]; rfl)
      split
      next huntil => exact h.addElement hlist hmaps hobject huntil haccepts hout'
      next node huntil => exact h.addInterval hlist hmaps hobject huntil haccepts hout'
    · exact h
  next => exact h

end SipSimple.Payloads.ListElements
