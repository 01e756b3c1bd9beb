import SipSimple.Payloads.ListRepresentation

/-!
# Runs of XML list elements

New objects, parsing, and what holds after any operations in which no item of a list is added to another
one and the parsed children of a list stand in the order of its class.
-/

namespace SipSimple.Payloads.ListElements

open OrderedForest

variable {decl : Declarations} {refuses : Forest Node → Node → Node → Bool} {pending : Node → Prop} {s t : State}
  {list item node : Node} {cls : String} {maps : Maps} {element object : Element}

/-! ### New objects -/

theorem Sound.newObject {next : Nat} (h : Sound decl idle s) (hnext : s.next ≤ next)
    (hsmall : ∀ part ∈ object.nodes node, part.index < next)
    (hsecond : ∀ part, object.validUntil = some part → s.documents ≤ part.index ∧ part ≠ node)
    (howner : ∀ item other part, s.objects item = some other → part ∈ object.nodes node → part ∉ other.nodes item)
    (hplain : object.identified decl = false → object.id = none)
    (hparent : ∀ list element, s.objects list = some element → s.forest.parent node ≠ some list)
    (hkept : ∀ maps, object.maps = some maps →
      Kept decl idle ({ s with next := next }.setObject node object) node object.cls maps) :
    Sound decl idle ({ s with next := next }.setObject node object) := by
  have hobjects : ∀ other, ({ s with next := next }.setObject node object).objects other =
      if other = node then some object else s.objects other :=
    fun other => State.objects_setObject { s with next := next } node other object
  refine ⟨fun other top htop => ?_, fun item found hfound part hpart => ?_, Nat.le_trans h.documents hnext,
    fun item found part hfound hpart => ?_, fun left right part leftObject rightObject hleft hright hmem hmem' => ?_,
    fun item found hfound hident => ?_, fun list element maps hlist hmaps => ?_⟩
  · have := h.fresh other top htop
    exact ⟨Nat.lt_of_lt_of_le this.1 hnext, Nat.lt_of_lt_of_le this.2 hnext⟩
  · rw [hobjects] at hfound
    split_ifs at hfound with heq
    · obtain rfl := Option.some.inj hfound
      exact hsmall part (heq ▸ hpart)
    · exact Nat.lt_of_lt_of_le (h.small item found hfound part hpart) hnext
  · rw [hobjects] at hfound
    split_ifs at hfound with heq
    · obtain rfl := Option.some.inj hfound
      exact heq ▸ hsecond part hpart
    · exact h.second item found part hfound hpart
  · rw [hobjects] at hleft hright
    split_ifs at hleft hright with heqLeft heqRight heqRight
    · exact heqLeft.trans heqRight.symm
    · obtain rfl := Option.some.inj hleft
      exact absurd hmem' (howner right rightObject part hright (heqLeft ▸ hmem))
    · obtain rfl := Option.some.inj hright
      exact absurd hmem (howner left leftObject part hleft (heqRight ▸ hmem'))
    · exact h.owner left right part leftObject rightObject hleft hright hmem hmem'
  · rw [hobjects] at hfound
    split_ifs at hfound with heq
    · obtain rfl := Option.some.inj hfound
      exact hplain hident
    · exact h.plain item found hfound hident
  · rw [hobjects] at hlist
    split_ifs at hlist with heq
    · obtain rfl := Option.some.inj hlist
      exact heq ▸ hkept maps hmaps
    · have hold := h.lists list element maps hlist hmaps
      refine hold.frame (fun item hitem => ?_) (fun _ _ _ _ _ _ => Iff.rfl) hold.ordered
      have hchild : s.forest.parent item = some list := by
        refine hitem.elim (fun hmem => ?_) id
        obtain ⟨_, -, -, hnodes⟩ := (hold.exact item id).mp hmem
        exact hnodes item (by simp)
      rw [hobjects, if_neg fun heq : item = node => hparent list element hlist (heq ▸ hchild)]
      exact .refl _

theorem Sound.unused (h : Sound decl pending s) (hnode : s.next ≤ node.index) :
    (∀ item other, s.objects item = some other → node ∉ other.nodes item) ∧
      (∀ top, s.forest.parent node ≠ some top) ∧ ∀ item, s.forest.parent item ≠ some node := by
  refine ⟨fun item other hother hmem => ?_, fun top htop => ?_, fun item hitem => ?_⟩
  · have := h.small item other hother node hmem
    omega
  · have := (h.fresh node top htop).1
    omega
  · have := (h.fresh item node hitem).2
    omega

theorem kept_empty (h : ∀ item, s.forest.parent item ≠ some list) : Kept decl idle s list cls {} where
  exact item _ := iff_of_false List.not_mem_nil (not_holds_of_parent (h item))
  nodup := List.nodup_nil
  registered _ _ := ⟨fun hlookup => (nomatch hlookup), fun hmem => absurd hmem.1 List.not_mem_nil⟩
  frozen _ hmem := absurd hmem List.not_mem_nil
  ordered := by
    rw [List.eq_nil_iff_forall_not_mem.mpr fun item hitem => h item ((s.forest.mem_children item list).mp hitem)]
    exact List.Pairwise.nil

theorem newElement_plain (cls : String) (id : Option String) (h : (State.newElement decl cls id).identified decl = false) :
    (State.newElement decl cls id).id = none := by
  have hident : decl.hasId cls = false := by simpa [Element.identified, State.newElement] using h
  simp [State.newElement, hident]

theorem Sound.create (h : Sound decl idle s) (cls : String) (id : Option String) :
    Sound decl idle (s.create decl cls id) := by
  obtain ⟨howner, hparent, hchild⟩ := h.unused (show s.next ≤ (⟨decl.qname cls, s.next⟩ : Node).index from Nat.le_refl _)
  refine h.newObject (Nat.le_succ _) (fun part hpart => ?_) (fun _ hpart => (nomatch hpart))
    (fun item other part hother hpart => ?_) (newElement_plain cls id) (fun list _ _ => hparent list) fun maps hmaps => ?_
  · obtain rfl := List.mem_singleton.mp hpart
    exact Nat.lt_succ_self _
  · obtain rfl := List.mem_singleton.mp hpart
    exact howner item other hother
  · have hempty : (if decl.isList cls then some ({} : Maps) else none) = some maps := hmaps
    split_ifs at hempty
    obtain rfl := Option.some.inj hempty
    exact kept_empty hchild

theorem Sound.createInterval (h : Sound decl idle s) : Sound decl idle (s.createInterval decl) := by
  obtain ⟨howner, hparent, -⟩ := h.unused (show s.next ≤ (⟨decl.qname "ValidFrom", s.next⟩ : Node).index from Nat.le_refl _)
  obtain ⟨howner', -, -⟩ := h.unused
    (show s.next ≤ (⟨decl.qname "ValidUntil", s.next + 1⟩ : Node).index from Nat.le_succ _)
  refine h.newObject (Nat.le_add_right _ 2) (fun part hpart => ?_) (fun part hpart => ?_)
    (fun item other part hother hpart => ?_) (fun _ => rfl) (fun list _ _ => hparent list) fun maps hmaps => (nomatch hmaps)
  · rcases List.mem_pair.mp hpart with rfl | rfl <;> simp
  · obtain rfl := Option.some.inj hpart
    exact ⟨Nat.le_trans h.documents (Nat.le_succ _), by simp⟩
  · rcases List.mem_pair.mp hpart with rfl | rfl
    · exact howner item other hother
    · exact howner' item other hother

/-! ### Parsing -/

theorem follows_readId (decl : Declarations) (s : State) (item other : Node) : Follows decl (s.objects other) ((s.readId decl item).objects other) := by
  rw [State.readId]
  split
  next object hobject =>
    split_ifs with hread
    · simp only [Bool.and_eq_true, Option.isNone_iff_eq_none] at hread
      rw [State.objects_setObject]
      split_ifs with heq
      · rw [heq, hobject]
        exact .id object none hread.2 hread.1
      · exact .refl _
    · exact .refl _
  next => exact .refl _

theorem Kept.readId (h : Kept decl pending s list cls maps) (item : Node) :
    Kept decl pending (s.readId decl item) list cls maps :=
  h.frame (fun other _ => follows_readId decl _ item other) (fun _ _ _ _ _ _ => by rw [forest_readId])
    (by rw [forest_readId]; exact h.ordered)

theorem Kept.narrow {fewer : Node → Prop} (h : Kept decl pending s list cls maps)
    (hexact : ∀ item, pending item → ¬ fewer item → (item ∈ maps.elementMap ↔ Holds decl s list cls item)) :
    Kept decl fewer s list cls maps :=
  { h with
    exact := fun item hitem => by
      by_cases hpending : pending item
      · exact hexact item hpending hitem
      · exact h.exact item hpending }

/-- The children that are still to be parsed are the pending ones of the new list. -/
structure Parsing (decl : Declarations) (node : Node) (cls : String) (s : State) (maps : Maps) (rest : List Node) :
    Prop where
  sound : Sound decl idle s
  isNext : s.isNext node = true
  kept : Kept decl (· ∈ rest) s node cls maps
  children : ∀ child ∈ rest, s.forest.parent child = some node
  nodup : rest.Nodup
  unparsed : ∀ item ∈ maps.elementMap, item ∉ rest

theorem isNext_iff : s.isNext node = true ↔ node.index < s.documents ∧ s.objects node = none ∧
    ∀ top, s.forest.parent node = some top → top ≠ node ∧ s.objects top = none := by
  rw [State.isNext]
  cases s.forest.parent node with
  | none => simp
  | some top => simp [and_assoc]

theorem isNext_congr (hobjects : ∀ item, t.objects item = none ↔ s.objects item = none)
    (hdocuments : t.documents = s.documents) (hparent : t.forest.parent node = s.forest.parent node)
    (h : s.isNext node = true) : t.isNext node = true := by
  rw [isNext_iff] at h ⊢
  rw [hdocuments, hparent, hobjects]
  exact ⟨h.1, h.2.1, fun top htop => ⟨(h.2.2 top htop).1, (hobjects top).mpr (h.2.2 top htop).2⟩⟩

@[simp] theorem documents_readId : (s.readId decl item).documents = s.documents := by
  rw [State.readId]
  split
  next => split_ifs <;> rfl
  next => rfl

theorem objects_readId_none (other : Node) : (s.readId decl item).objects other = none ↔ s.objects other = none := by
  have hfollows := follows_readId decl s item other
  constructor
  · intro hnone
    by_contra hsome
    obtain ⟨object, hobject⟩ := Option.ne_none_iff_exists'.mp hsome
    obtain ⟨after, hafter, -⟩ := hfollows.of_left hobject
    rw [hnone] at hafter
    exact nomatch hafter
  · intro hnone
    by_contra hsome
    obtain ⟨object, hobject⟩ := Option.ne_none_iff_exists'.mp hsome
    obtain ⟨before, hbefore, -⟩ := hfollows.of_right hobject
    rw [hnone] at hbefore
    exact nomatch hbefore

theorem Parsing.readId {rest : List Node} (h : Parsing decl node cls s maps rest) (item : Node) :
    Parsing decl node cls (s.readId decl item) maps rest where
  sound := h.sound.readId item
  isNext := isNext_congr objects_readId_none documents_readId (by rw [forest_readId]) h.isNext
  kept := h.kept.readId item
  children child hchild := by
    rw [forest_readId]
    exact h.children child hchild
  nodup := h.nodup
  unparsed := h.unparsed

/-- A child without an object, or of another class. -/
theorem Parsing.skip {child : Node} {rest : List Node} (h : Parsing decl node cls s maps (child :: rest))
    (hskip : ∀ object, s.objects child = some object → State.accepts decl cls object = false) :
    Parsing decl node cls s maps rest where
  sound := h.sound
  isNext := h.isNext
  kept := h.kept.narrow fun item hitem hrest => by
    obtain rfl := (List.mem_cons.mp hitem).resolve_right hrest
    refine iff_of_false (fun hmem => h.unparsed item hmem hitem) fun ⟨object, hobject, haccepts, _⟩ => ?_
    rw [hskip object hobject] at haccepts
    exact Bool.false_ne_true haccepts
  children item hitem := h.children item (List.mem_cons_of_mem _ hitem)
  nodup := (List.nodup_cons.mp h.nodup).2
  unparsed item hitem hrest := h.unparsed item hitem (List.mem_cons_of_mem _ hrest)

theorem Parsing.register {child : Node} {rest : List Node} {key : Option (String × String)}
    (h : Parsing decl node cls s maps (child :: rest)) (hobject : s.objects child = some object)
    (haccepts : State.accepts decl cls object = true) (huntil : object.validUntil = none)
    (hfrozen : object.identified decl = true → object.id ≠ none) (hkey : s.key child = key)
    (hnone : ∀ other, key = some other → maps.lookup other = none) :
    Parsing decl node cls s (maps.register key child) rest where
  sound := h.sound
  isNext := h.isNext
  kept := (h.kept.register List.mem_cons_self hobject hfrozen hkey hnone).narrow fun item hitem hrest => by
    obtain rfl := (List.mem_cons.mp hitem).resolve_right hrest
    refine iff_of_true (Maps.mem_register.mpr (.inr rfl)) ⟨object, hobject, haccepts, fun part hpart => ?_⟩
    rw [Element.nodes, huntil] at hpart
    exact List.mem_singleton.mp hpart ▸ h.children item hitem
  children item hitem := h.children item (List.mem_cons_of_mem _ hitem)
  nodup := (List.nodup_cons.mp h.nodup).2
  unparsed item hitem hrest := by
    rcases Maps.mem_register.mp hitem with hmem | rfl
    · exact h.unparsed item hmem (List.mem_cons_of_mem _ hrest)
    · exact (List.nodup_cons.mp h.nodup).1 hrest

/-- A child with the ID of another one is taken out. -/
theorem Parsing.detach {child : Node} {rest : List Node} (h : Parsing decl node cls s maps (child :: rest))
    (hobject : s.objects child = some object) : Parsing decl node cls (s.detach child) maps rest := by
  obtain ⟨hindex, hnone, htop⟩ := isNext_iff.mp h.isNext
  have hchild := h.children child List.mem_cons_self
  have hne : node ≠ child := fun heq => (htop node (by rw [← heq] at hchild; exact hchild)).1 rfl
  have hgone : (s.detach child).forest.parent child = none := by
    rw [State.detach, Forest.parent_detach, if_pos rfl]
  have hothers : ∀ other, other ≠ child → (s.detach child).forest.parent other = s.forest.parent other :=
    fun other hother => by rw [State.detach, Forest.parent_detach, if_neg hother]
  refine ⟨?_, ?_, ?_, fun item hitem => ?_, (List.nodup_cons.mp h.nodup).2, fun item hitem hrest =>
    h.unparsed item hitem (List.mem_cons_of_mem _ hrest)⟩
  · refine ((h.sound.opened (· = child)).detach hobject (object.mem_nodes_self child) rfl).closed_out
      (fun list _ _ => not_holds_of_parent ?_) fun list hmem => ?_
    · rw [hgone]
      exact (Option.some_ne_none _).symm
    · -- the new list is no object yet
      obtain ⟨_, hlist, -⟩ := h.sound.holds_of_mem hmem
      have heq := Option.some.inj ((h.sound.parent_of_mem hmem).symm.trans hchild)
      rw [heq, hnone] at hlist
      cases hlist
  · exact isNext_congr (s := s) (fun _ => Iff.rfl) rfl (hothers node hne) h.isNext
  · have hframe : Kept decl (· ∈ child :: rest) (s.detach child) node cls maps := by
      refine h.kept.frame (fun _ _ => .refl _) (fun item found hfound hitem part hpart => ?_) ?_
      · rw [hothers part fun heq => hitem ?_]
        rw [h.sound.owner item child child found object hfound hobject (heq ▸ hpart) (object.mem_nodes_self child)]
        exact List.mem_cons_self
      · exact ranked_erase h.kept.ordered child
    refine hframe.narrow fun item hitem hrest => ?_
    obtain rfl := (List.mem_cons.mp hitem).resolve_right hrest
    refine iff_of_false (fun hmem => h.unparsed item hmem hitem) (not_holds_of_parent ?_)
    rw [hgone]
    exact (Option.some_ne_none _).symm
  · have hitemNe : item ≠ child := fun heq => (List.nodup_cons.mp h.nodup).1 (heq ▸ hitem)
    rw [hothers item hitemNe]
    exact h.children item (List.mem_cons_of_mem _ hitem)

theorem Parsing.parseChild {child : Node} {rest : List Node} (h : Parsing decl node cls s maps (child :: rest))
    (hintervals : decl.intervals cls = false) :
    Parsing decl node cls (State.parseChild decl cls (s, maps) child).1 (State.parseChild decl cls (s, maps) child).2 rest := by
  cases hobject : s.objects child with
  | none =>
      simp only [State.parseChild, hobject]
      exact h.skip fun found hfound => absurd (hobject.symm.trans hfound) (Option.some_ne_none _).symm
  | some object =>
      simp only [State.parseChild, hobject]
      by_cases haccepts : State.accepts decl cls object = true
      · obtain ⟨id, hread, hfrozen⟩ := objects_readId decl hobject
        have huntil := ((accepts_item hintervals).mp haccepts).1
        rw [if_pos haccepts]
        split_ifs with hduplicate
        · exact (h.readId child).detach hread
        · refine (h.readId child).register hread haccepts huntil hfrozen rfl fun other hkey => ?_
          simpa [hkey] using hduplicate
      · rw [if_neg haccepts]
        refine h.skip fun found hfound => ?_
        obtain rfl := Option.some.inj (hobject.symm.trans hfound)
        simpa using haccepts

theorem Parsing.foldl (hintervals : decl.intervals cls = false) (rest : List Node) :
    ∀ {s : State} {maps : Maps}, Parsing decl node cls s maps rest →
      Parsing decl node cls (rest.foldl (State.parseChild decl cls) (s, maps)).1
        (rest.foldl (State.parseChild decl cls) (s, maps)).2 [] := by
  induction rest with
  | nil => exact id
  | cons child rest ih => exact fun h => ih (h.parseChild hintervals)

theorem Sound.parsing (h : Sound decl idle s) (hnext : s.isNext node = true)
    (hordered : Ranked (decl.order cls) (s.forest.children node)) :
    Parsing decl node cls s {} (s.forest.children node) where
  sound := h
  isNext := hnext
  kept := {
    exact := fun item hitem => iff_of_false List.not_mem_nil
      (not_holds_of_parent fun hparent => hitem ((s.forest.mem_children item node).mpr hparent))
    nodup := List.nodup_nil
    registered := fun _ _ => ⟨fun hlookup => (nomatch hlookup), fun hmem => absurd hmem.1 List.not_mem_nil⟩
    frozen := fun _ hmem => absurd hmem List.not_mem_nil
    ordered := hordered }
  children child hchild := (s.forest.mem_children child node).mp hchild
  nodup := s.forest.nodup node
  unparsed _ hmem := absurd hmem List.not_mem_nil

theorem Sound.parsed (h : Sound decl idle s) (hnext : s.isNext node = true) (id : Option String) {held : Option Maps}
    (hkept : ∀ maps, held = some maps → Kept decl idle s node cls maps) :
    Sound decl idle (s.setObject node { State.newElement decl cls id with maps := held }) := by
  obtain ⟨hindex, hnone, htop⟩ := isNext_iff.mp hnext
  have hnodes : ∀ part, part ∈ ({ State.newElement decl cls id with maps := held } : Element).nodes node → part = node :=
    fun part hpart => List.mem_singleton.mp hpart
  refine h.newObject (Nat.le_refl _) (fun part hpart => ?_) (fun _ hpart => (nomatch hpart))
    (fun item other part hother hpart hmem => ?_) (newElement_plain cls id) (fun list element hlist hparent => ?_)
    fun maps hmaps => ?_
  · rw [hnodes part hpart]
    exact Nat.lt_of_lt_of_le hindex h.documents
  · rw [hnodes part hpart] at hmem
    rcases List.mem_cons.mp hmem with heq | hsecond
    · rw [← heq, hnone] at hother
      exact nomatch hother
    · have := (h.second item other node hother (by simpa using hsecond)).1
      omega
  · rw [(htop list hparent).2] at hlist
    exact nomatch hlist
  · refine (hkept maps hmaps).frame (fun item hitem => ?_) (fun _ _ _ _ _ _ => Iff.rfl) (hkept maps hmaps).ordered
    have hchild : s.forest.parent item = some node := by
      refine hitem.elim (fun hmem => ?_) fun hparent => hparent
      obtain ⟨_, -, -, hparts⟩ := ((hkept maps hmaps).exact item not_false).mp hmem
      exact hparts item (by simp)
    rw [State.objects_setObject, if_neg fun heq : item = node => (htop node (by rw [heq] at hchild; exact hchild)).1 rfl]
    exact .refl _

theorem Sound.parse (h : Sound decl idle s) (id : Option String) (valid : Bool)
    (hordered : decl.isList cls = true → Ranked (decl.order cls) (s.forest.children node)) :
    Sound decl idle (s.parse decl node cls id valid) := by
  rw [State.parse]
  split
  next => exact h
  next hparses =>
    obtain ⟨hnext, hintervals⟩ : s.isNext node = true ∧ decl.intervals cls = false := by
      simpa using hparses
    by_cases hlist : decl.isList cls = true
    · have hparsing := (h.parsing hnext (hordered hlist)).foldl hintervals (s.forest.children node)
      simp only [if_pos hlist]
      cases valid with
      | true =>
          refine hparsing.sound.parsed hparsing.isNext id fun maps hmaps => ?_
          obtain rfl := Option.some.inj hmaps
          exact hparsing.kept.narrow fun item hitem => absurd hitem List.not_mem_nil
      | false => exact hparsing.sound
    · simp only [if_neg hlist]
      cases valid with
      | true => exact h.parsed hnext id fun _ hmaps => absurd hmaps (by simp)
      | false => exact h

/-! ### Runs -/

/-- No item of a list is added to another list, and the children of a parsed list are in the order of its
class. -/
def Careful (decl : Declarations) (s : State) : Operation → Prop
  | .parse node cls _ _ => decl.isList cls = true → Ranked (decl.order cls) (s.forest.children node)
  | .add list item =>
      ∀ other, s.forest.parent item = some other → other ≠ list → item ∉ (s.maps other).elementMap
  | _ => True

theorem Sound.step {operation : Operation} (h : Sound decl idle s) (hcareful : Careful decl s operation) :
    Sound decl idle (step decl refuses s operation) := by
  cases operation with
  | create cls id => exact h.create cls id
  | createInterval => exact h.createInterval
  | parse node cls id valid => exact h.parse id valid hcareful
  | add list item => exact h.add hcareful
  | remove list item => exact h.remove list item
  | clear list => exact h.clear list
  | delitem list cls id => exact h.delitem list cls id
  | delitems list cls => exact h.delitems list cls
  | setId item id => exact h.setId item id

theorem sound_start (decl : Declarations) (documents : Documents) : Sound decl idle (start documents) where
  fresh := documents.bounded
  small _ _ h := nomatch h
  documents := Nat.le_refl _
  second _ _ _ h := nomatch h
  owner _ _ _ _ _ h := nomatch h
  plain _ _ h := nomatch h
  lists _ _ _ h := nomatch h

/-- The dictionaries of a list are those of the objects whose nodes are children of it. -/
structure Represents (decl : Declarations) (s : State) (list : Node) (element : Element) (maps : Maps) : Prop where
  children : ∀ item, item ∈ maps.elementMap ↔ Holds decl s list element.cls item
  registered : ∀ cls id item, maps.lookup (cls, id) = some item ↔ item ∈ maps.elementMap ∧
    ∃ object, s.objects item = some object ∧ object.cls = cls ∧ object.xmlId = some id
  unique : ∀ left ∈ maps.elementMap, ∀ right ∈ maps.elementMap, ∀ leftObject rightObject,
    s.objects left = some leftObject → s.objects right = some rightObject → leftObject.cls = rightObject.cls →
      leftObject.xmlId ≠ none → leftObject.xmlId = rightObject.xmlId → left = right
  iterates : (s.iterate list).Perm maps.elementMap ∧ (s.iterate list).Sublist (s.forest.children list)
  ordered : Ranked (decl.order element.cls) (s.forest.children list)

theorem key_eq_some_iff {id : String} :
    s.key item = some (cls, id) ↔
      ∃ object, s.objects item = some object ∧ object.cls = cls ∧ object.xmlId = some id := by
  cases hobject : s.objects item with
  | none => simp [State.key, hobject]
  | some object =>
      rw [key_eq hobject, Element.key, Option.map_eq_some_iff]
      simp [and_comm]

theorem Sound.represents (h : Sound decl idle s) (hlist : s.objects list = some element)
    (hmaps : element.maps = some maps) : Represents decl s list element maps := by
  have hkept := h.lists list element maps hlist hmaps
  have hregistered : ∀ cls id item, maps.lookup (cls, id) = some item ↔ item ∈ maps.elementMap ∧
      ∃ object, s.objects item = some object ∧ object.cls = cls ∧ object.xmlId = some id := fun cls id item => by
    rw [hkept.registered, key_eq_some_iff]
  refine ⟨fun item => hkept.exact item id, hregistered, ?_, ⟨?_, List.filter_sublist⟩, hkept.ordered⟩
  · intro left hleft right hright leftObject rightObject hleftObject hrightObject hcls hsome hid
    obtain ⟨id, hsome⟩ := Option.ne_none_iff_exists'.mp hsome
    have hlookup := (hregistered leftObject.cls id left).mpr ⟨hleft, leftObject, hleftObject, rfl, hsome⟩
    rw [(hregistered leftObject.cls id right).mpr
      ⟨hright, rightObject, hrightObject, hcls.symm, hid.symm.trans hsome⟩] at hlookup
    exact (Option.some.inj hlookup).symm
  · refine (List.perm_ext_iff_of_nodup ((s.forest.nodup list).filter _) hkept.nodup).mpr fun item => ?_
    simp only [List.mem_filter, maps_of_object hlist hmaps, decide_eq_true_eq]
    refine and_iff_right_of_imp fun hitem => (s.forest.mem_children item list).mpr ?_
    obtain ⟨_, -, -, hnodes⟩ := (hkept.exact item id).mp hitem
    exact hnodes item (by simp)

/-- **The representation**: whatever documents are parsed and whatever is done, the dictionaries of every
list element are right, if no item is moved from a list to another one. -/
theorem lists_represented (decl : Declarations) (refuses : Forest Node → Node → Node → Bool) (documents : Documents)
    (operations : List Operation)
    (hcareful : Runs.Meets (step decl refuses) (Careful decl) (start documents) operations)
    (list : Node) (element : Element) (maps : Maps)
    (hlist : (Runs.run (step decl refuses) (start documents) operations).objects list = some element)
    (hmaps : element.maps = some maps) :
    Represents decl (Runs.run (step decl refuses) (start documents) operations) list element maps :=
  (Runs.invariant_run (Sound decl idle) (fun _ _ h hcareful => h.step hcareful) (sound_start decl documents)
    hcareful).represents hlist hmaps

/-- The classes of resource lists, without their namespace. -/
def resourcelists : Declarations where
  qname cls := cls
  hasId cls := cls ∈ ["entry", "entry-ref", "external", "list"]
  isList cls := cls ∈ ["list", "resource-lists"]
  items cls item :=
    if cls = "resource-lists" then item = "list" else item ∈ ["entry", "entry-ref", "external", "list"]
  intervals _ := false
  childrenOrder cls :=
    if cls = "resource-lists" then [(some "list", 0)]
    else [(some "display-name", 0), (some "entry", 1), (some "entry-ref", 1), (some "external", 1), (some "list", 1)]

/-- A `list` element with one `entry`. -/
def oneEntry : Documents where
  forest := {
    parent := fun node => if node = ⟨"entry", 0⟩ then some ⟨"list", 1⟩ else none
    children := fun node => if node = ⟨"list", 1⟩ then [⟨"entry", 0⟩] else []
    nodup := fun node => by split_ifs <;> simp
    mem_children := fun node top => by split_ifs <;> simp_all [eq_comm] }
  size := 2
  bounded node top h := by
    simp only at h
    split_ifs at h with hnode
    obtain rfl := Option.some.inj h
    exact ⟨hnode ▸ Nat.zero_lt_two, Nat.one_lt_two⟩

/-- The entry is removed from the list that was parsed, and added to another one. -/
def removing : List Operation :=
  [.parse ⟨"entry", 0⟩ "entry" (some "sip:c") true, .parse ⟨"list", 1⟩ "list" (some "a") true, .create "list" (some "b"),
    .remove ⟨"list", 1⟩ ⟨"entry", 0⟩, .add ⟨"list", 2⟩ ⟨"entry", 0⟩]

theorem removing_careful :
    Runs.Meets (step resourcelists fun _ _ _ => false) (Careful resourcelists) (start oneEntry) removing := by
  refine ⟨fun _ => ?_, fun _ => ?_, trivial, trivial, fun other hother => ?_, trivial⟩
  · exact List.Pairwise.nil
  · exact List.pairwise_singleton _ _
  · exact nomatch hother

theorem removing_represented : ∃ element maps,
    (Runs.run (step resourcelists fun _ _ _ => false) (start oneEntry) removing).objects ⟨"list", 2⟩ = some element ∧
      element.maps = some maps ∧ maps.elementMap = [⟨"entry", 0⟩] ∧
        Represents resourcelists (Runs.run (step resourcelists fun _ _ _ => false) (start oneEntry) removing)
          ⟨"list", 2⟩ element maps := by
  have hobject : (Runs.run (step resourcelists fun _ _ _ => false) (start oneEntry) removing).objects ⟨"list", 2⟩ =
      some ⟨"list", some (some "b"), none, some ⟨[⟨"entry", 0⟩], [(("entry", "sip:c"), ⟨"entry", 0⟩)]⟩⟩ := by decide
  exact ⟨_, _, hobject, rfl, rfl, lists_represented _ _ _ _ removing_careful _ _ _ hobject rfl⟩

/-- `first.add(entry)` and then `second.add(entry)`. -/
def moving : List Operation :=
  [.create "list" (some "a"), .create "list" (some "b"), .create "entry" (some "sip:c"),
    .add ⟨"list", 2⟩ ⟨"entry", 4⟩, .add ⟨"list", 3⟩ ⟨"entry", 4⟩]

def moved : State := Runs.run (step resourcelists fun _ _ _ => false) (start oneEntry) moving

/-- The entry is a child of the second list, and both lists hold it. -/
theorem moved_not_represented : ∃ element maps, moved.objects ⟨"list", 2⟩ = some element ∧
    element.maps = some maps ∧ ¬ Represents resourcelists moved ⟨"list", 2⟩ element maps := by
  refine ⟨⟨"list", some (some "a"), none, some (moved.maps ⟨"list", 2⟩)⟩, _, rfl, rfl, fun h => ?_⟩
  obtain ⟨object, -, -, hnodes⟩ := (h.children ⟨"entry", 4⟩).mp (by decide)
  have hparent := hnodes ⟨"entry", 4⟩ (by simp)
  have hsecond : moved.forest.parent ⟨"entry", 4⟩ = some ⟨"list", 3⟩ := by decide
  rw [hsecond] at hparent
  exact absurd hparent (by decide)

end SipSimple.Payloads.ListElements
