import SipSimple.Audio.Forest

/-!
# The steps of the mesh

Every operation of a container and every slot change keeps the connections of the mixer the edges of the
forest.
-/

namespace SipSimple.Audio

open SipSimple.Core (AudioMixer AudioSystem)
open TreePaths (Stop Edge Path Grounded ancestor)

namespace AudioTree

/-! ### New containers -/

theorem Joined.congr {tree tree' : AudioTree} (hparent : tree'.parent = tree.parent)
    (hslots : ∀ σ τ, Edge tree.parent σ τ → tree'.slotOf σ = tree.slotOf σ ∧ tree'.slotOf τ = tree.slotOf τ)
    (src dst : Nat) : tree'.Joined src dst ↔ tree.Joined src dst := by
  constructor
  · rintro ⟨σ, τ, hedge, hsrc, hdst⟩
    rw [hparent] at hedge
    obtain ⟨hσ, hτ⟩ := hslots σ τ hedge
    exact ⟨σ, τ, hedge, hσ ▸ hsrc, hτ ▸ hdst⟩
  · rintro ⟨σ, τ, hedge, hsrc, hdst⟩
    obtain ⟨hσ, hτ⟩ := hslots σ τ hedge
    exact ⟨σ, τ, hparent ▸ hedge, hσ.trans hsrc, hτ.trans hdst⟩

theorem parent_congr {tree tree' : AudioTree} (h : tree.Forest)
    (member : ∀ bridge, ∀ port ∈ tree'.ports bridge, bridge ∈ tree'.created)
    (hports : tree'.ports = tree.ports) : tree'.parent = tree.parent := by
  funext port
  refine Option.ext fun bridge => ?_
  have single : ∀ bridge bridge' port, port ∈ tree'.ports bridge → port ∈ tree'.ports bridge' →
      bridge = bridge' := by
    rw [hports]
    exact h.single
  rw [Forest.parent_eq member single, h.parent_iff, hports]

/-- A node that is not there has no edges. -/
theorem Forest.edge_created {tree : AudioTree} (h : tree.Forest) {node : AudioNode}
    (hnew : node ∉ tree.created) (hnode : ∀ index, node ≠ .port index) {σ τ : Stop AudioNode}
    (hedge : Edge tree.parent σ τ) : σ.node ≠ node ∧ τ.node ≠ node := by
  have hchild : ∀ {x y}, tree.parent x = some y → x ≠ node ∧ y ≠ node := by
    intro x y hparent
    obtain ⟨hcreated, -, hport⟩ := h.member y x (h.parent_iff.mp hparent)
    refine ⟨?_, ?_⟩
    · rintro rfl
      rcases hport with ⟨index, heq⟩ | hport
      · exact hnode index heq
      · exact hnew hport
    · rintro rfl
      exact hnew hcreated
  cases hedge with
  | climb hparent => exact hchild hparent
  | cross hx hy _ => exact ⟨(hchild hx).1, (hchild hy).1⟩
  | descend hparent => exact (hchild hparent).symm

theorem Forest.create {tree : AudioTree} (h : tree.Forest) (tree' : AudioTree) {node : AudioNode}
    (hnew : node ∉ tree.created) (hnode : ∀ index, node ≠ .port index)
    (hcreated : tree'.created = tree.created ++ [node]) (hports : tree'.ports = tree.ports) :
    tree'.Forest ∧ tree'.parent = tree.parent := by
  have hmember : ∀ bridge, ∀ port ∈ tree'.ports bridge, bridge ∈ tree'.created := by
    intro bridge port hport
    rw [hports] at hport
    rw [hcreated]
    exact List.mem_append_left _ (h.member bridge port hport).1
  have hparent := parent_congr h hmember hports
  refine ⟨⟨?_, ?_, ?_, ?_, ?_, ?_⟩, hparent⟩
  · rw [hcreated]
    refine List.nodup_append.mpr ⟨h.nodup, by simp, ?_⟩
    rintro other hother _ hmem rfl
    exact hnew (List.mem_singleton.mp hmem ▸ hother)
  · intro bridge hbridge
    rw [hcreated] at hbridge
    rcases List.mem_append.mp hbridge with hbridge | hbridge
    · exact h.container bridge hbridge
    · rw [List.mem_singleton.mp hbridge]
      exact hnode
  · rw [hports]
    exact h.membersNodup
  · intro bridge port hport
    refine ⟨hmember bridge port hport, ?_⟩
    rw [hports] at hport
    obtain ⟨-, hkind, hthere⟩ := h.member bridge port hport
    refine ⟨hkind, hthere.imp_right fun hthere => ?_⟩
    rw [hcreated]
    exact List.mem_append_left _ hthere
  · rw [hports]
    exact h.single
  · rw [hparent]
    exact h.grounded

namespace Valid

variable {tree : AudioTree}

theorem newRootBridge (h : tree.Valid) {index : Nat} (hnew : .rootBridge index ∉ tree.created) :
    (RootAudioBridge.new tree index).Valid := by
  obtain ⟨hforest, hparent⟩ := h.create (RootAudioBridge.new tree index) hnew nofun rfl rfl
  refine ⟨hforest, ⟨h.root, h.owner, h.inMixer⟩, h.connectedNodup, fun src dst => ?_⟩
  rw [Joined.congr hparent fun _ _ _ => ⟨rfl, rfl⟩]
  exact h.linked src dst

theorem newBridge (h : tree.Valid) (system : AudioSystem) {index multiplexer demultiplexer : Nat}
    (hnew : .bridge index ∉ tree.created) (hne : multiplexer ≠ demultiplexer)
    (hmultiplexer : tree.Free (.bridge index) multiplexer)
    (hdemultiplexer : tree.Free (.bridge index) demultiplexer) :
    (AudioBridge.new tree system index multiplexer demultiplexer).Valid := by
  obtain ⟨hforest, hparent⟩ := h.create
    (AudioBridge.new tree system index multiplexer demultiplexer) hnew nofun rfl rfl
  refine ⟨hforest, ⟨fun other => ?_, fun hσ hτ => ?_, fun other slot hslot => ?_⟩, ?_, fun src dst => ?_⟩
  · exact h.root other
  · refine owner_setSlots h.toSlotted ?_ (.inr ?_) hσ hτ
    · rintro slot (hslot | hslot)
      · exact Option.some.inj hslot ▸ hdemultiplexer
      · exact Option.some.inj hslot ▸ hmultiplexer
    · intro slot hslot heq
      exact hne (Option.some.inj (heq.trans hslot.symm))
  · show slot ∈ ((tree.mixer.addPort system multiplexer).addPort system demultiplexer).slots
    rw [AudioMixer.slots_addPort, AudioMixer.slots_addPort]
    by_cases hindex : other = index
    · subst hindex
      rcases hslot with hslot | hslot
      · rw [← Option.some.inj ((slotOf_setSlots_down ..).symm.trans hslot)]
        exact List.mem_cons_self
      · rw [← Option.some.inj ((slotOf_setSlots_up ..).symm.trans hslot)]
        exact List.mem_cons_of_mem _ List.mem_cons_self
    · have hother : AudioNode.bridge other ≠ .bridge index := by simpa using hindex
      refine List.mem_cons_of_mem _ (List.mem_cons_of_mem _ (h.inMixer other slot ?_))
      rcases hslot with hslot | hslot
      · exact .inl ((Function.update_of_ne hother ..).symm.trans hslot)
      · exact .inr ((Function.update_of_ne hother ..).symm.trans hslot)
  · show ((tree.mixer.addPort system multiplexer).addPort system demultiplexer).connectedSlots.Nodup
    rw [AudioMixer.connectedSlots_addPort, AudioMixer.connectedSlots_addPort]
    exact h.connectedNodup
  · rw [Joined.congr hparent, ← h.linked]
    · show _ ∈ ((tree.mixer.addPort system multiplexer).addPort system demultiplexer).connectedSlots ↔ _
      rw [AudioMixer.connectedSlots_addPort, AudioMixer.connectedSlots_addPort]
    · intro σ τ hedge
      obtain ⟨hσ, hτ⟩ := h.edge_created hnew nofun hedge
      exact ⟨slotOf_setSlots tree _ _ hσ, slotOf_setSlots tree _ _ hτ⟩

end Valid

/-! ### Adding and removing -/

theorem add_eq (tree : AudioTree) {bridge : AudioNode} (hbridge : ∀ index, bridge ≠ .port index)
    (port : AudioNode) :
    tree.add bridge port = tree.addWith (tree.peers bridge (tree.ports bridge)) bridge port := by
  cases bridge with
  | port index => exact absurd rfl (hbridge index)
  | bridge index => rfl
  | rootBridge index => rfl

theorem remove_eq (tree : AudioTree) {bridge : AudioNode} (hbridge : ∀ index, bridge ≠ .port index)
    (port : AudioNode) :
    tree.remove bridge port = tree.removeWith (tree.peers bridge (tree.ports bridge)) bridge port := by
  cases bridge with
  | port index => exact absurd rfl (hbridge index)
  | bridge index => rfl
  | rootBridge index => rfl

/-- A port without a container joins one that is not below it. -/
theorem Forest.add {tree : AudioTree} (h : tree.Forest) (tree' : AudioTree) {bridge port : AudioNode}
    (hbridge : bridge ∈ tree.created) (hkind : port.isAudioPort)
    (hport : (∃ index, port = .port index) ∨ port ∈ tree.created) (hfree : tree.parent port = none)
    (hbelow : ∀ n, ancestor tree.parent n bridge ≠ some port) (hcreated : tree'.created = tree.created)
    (hports : tree'.ports = Function.update tree.ports bridge (tree.ports bridge ++ [port])) :
    tree'.Forest ∧ ∀ other, other ≠ port → tree'.parent other = tree.parent other := by
  have hout : ∀ other, port ∉ tree.ports other := by
    intro other hmem
    cases hfree.symm.trans (h.parent_iff.mpr hmem)
  have hmem : ∀ {other member}, member ∈ tree'.ports other ↔
      member ∈ tree.ports other ∨ other = bridge ∧ member = port := by
    intro other member
    rw [hports]
    by_cases heq : other = bridge
    · subst heq
      rw [Function.update_self]
      simp
    · rw [Function.update_of_ne heq]
      simp [heq]
  have hmember : ∀ other, ∀ member ∈ tree'.ports other, other ∈ tree'.created := by
    intro other member hin
    rw [hcreated]
    rcases hmem.mp hin with hin | ⟨rfl, -⟩
    · exact (h.member other member hin).1
    · exact hbridge
  have hsingle : ∀ other other' member, member ∈ tree'.ports other → member ∈ tree'.ports other' →
      other = other' := by
    intro other other' member hin hin'
    rcases hmem.mp hin with hin | ⟨rfl, rfl⟩ <;> rcases hmem.mp hin' with hin' | ⟨rfl, heq⟩
    · exact h.single other other' member hin hin'
    · exact absurd (heq ▸ hin) (hout other)
    · exact absurd hin' (hout other')
    · rfl
  have hother : ∀ other, other ≠ port → tree'.parent other = tree.parent other := by
    intro other hne
    refine Option.ext fun container => ?_
    rw [parent_eq hmember hsingle, h.parent_iff, hmem]
    simp [hne]
  refine ⟨⟨?_, ?_, ?_, ?_, hsingle, ?_⟩, hother⟩
  · rw [hcreated]
    exact h.nodup
  · rw [hcreated]
    exact h.container
  · intro other
    rw [hports]
    by_cases heq : other = bridge
    · subst heq
      rw [Function.update_self]
      refine List.nodup_append.mpr ⟨h.membersNodup other, by simp, ?_⟩
      rintro member hin _ hlast rfl
      exact hout other (List.mem_singleton.mp hlast ▸ hin)
    · rw [Function.update_of_ne heq]
      exact h.membersNodup other
  · intro other member hin
    refine ⟨hmember other member hin, ?_⟩
    rw [hcreated]
    rcases hmem.mp hin with hin | ⟨-, rfl⟩
    · exact (h.member other member hin).2
    · exact ⟨hkind, hport⟩
  · exact h.grounded.join ((parent_eq hmember hsingle).mpr (hmem.mpr (.inr ⟨rfl, rfl⟩))) hother hbelow

/-- Nodes leave their containers. -/
theorem Forest.leave {tree : AudioTree} (h : tree.Forest) (tree' : AudioTree) (gone : AudioNode → Prop)
    (hcreated : tree'.created = tree.created) (hnodup : ∀ bridge, (tree'.ports bridge).Nodup)
    (hmem : ∀ bridge port, port ∈ tree'.ports bridge ↔ port ∈ tree.ports bridge ∧ ¬ gone port) :
    tree'.Forest ∧ ∀ σ τ, Edge tree'.parent σ τ ↔
      Edge tree.parent σ τ ∧ ∀ port, gone port → σ ≠ .up port ∧ τ ≠ .down port := by
  have hmember : ∀ bridge, ∀ port ∈ tree'.ports bridge, bridge ∈ tree'.created := by
    intro bridge port hin
    rw [hcreated]
    exact (h.member bridge port ((hmem bridge port).mp hin).1).1
  have hsingle : ∀ bridge bridge' port, port ∈ tree'.ports bridge → port ∈ tree'.ports bridge' →
      bridge = bridge' := by
    intro bridge bridge' port hin hin'
    exact h.single bridge bridge' port ((hmem _ _).mp hin).1 ((hmem _ _).mp hin').1
  have hgone : ∀ port, gone port → tree'.parent port = none := by
    intro port hyes
    refine Option.eq_none_iff_forall_ne_some.mpr fun bridge hparent => ?_
    exact ((hmem bridge port).mp ((parent_eq hmember hsingle).mp hparent)).2 hyes
  have hstay : ∀ port, ¬ gone port → tree'.parent port = tree.parent port := by
    intro port hnot
    refine Option.ext fun bridge => ?_
    rw [parent_eq hmember hsingle, h.parent_iff, hmem]
    simp [hnot]
  refine ⟨⟨?_, ?_, hnodup, ?_, hsingle, ?_⟩, fun σ τ => TreePaths.edge_leave hgone hstay⟩
  · rw [hcreated]
    exact h.nodup
  · rw [hcreated]
    exact h.container
  · intro bridge port hin
    obtain ⟨-, hkind⟩ := h.member bridge port ((hmem bridge port).mp hin).1
    refine ⟨hmember bridge port hin, ?_⟩
    rw [hcreated]
    exact hkind
  · refine h.grounded.leave fun port => ?_
    by_cases hyes : gone port
    · exact .inr (hgone port hyes)
    · exact .inl (hstay port hyes)

theorem ordered_portCalls_connect (tree : AudioTree) (peers : List (Option Nat × Option Nat))
    (port : AudioNode) :
    (∀ src dst, .disconnect src dst ∉ tree.portCalls .connect peers port) ∧
      Ordered (tree.portCalls .connect peers port) := by
  have hnone : ∀ call ∈ tree.portCalls .connect peers port, ∃ src dst, call = .connect src dst := by
    intro call hcall
    simp only [portCalls, List.mem_flatMap, List.mem_append, mem_callIf] at hcall
    obtain ⟨peer, -, ⟨s, t, -, -, rfl⟩ | ⟨s, t, -, -, rfl⟩⟩ := hcall
    exacts [⟨s, t, rfl⟩, ⟨s, t, rfl⟩]
  have hno : ∀ src dst, .disconnect src dst ∉ tree.portCalls .connect peers port := by
    intro src dst hmem
    obtain ⟨s, t, heq⟩ := hnone _ hmem
    cases heq
  refine ⟨hno, List.pairwise_of_forall_mem_list fun _ _ call hcall src dst _ heq => ?_⟩
  exact hno src dst (heq ▸ hcall)

/-- No call of a list connects. -/
theorem ordered_of_disconnect {calls : List SlotCall} (hno : ∀ src dst, .connect src dst ∉ calls) :
    Ordered calls :=
  List.pairwise_of_forall_mem_list fun _ hcall _ _ src dst heq => absurd (heq ▸ hcall) (hno src dst)

theorem connect_mem_portCalls_disconnect (tree : AudioTree) (peers : List (Option Nat × Option Nat))
    (port : AudioNode) (src dst : Nat) : .connect src dst ∉ tree.portCalls .disconnect peers port := by
  intro hmem
  simp only [portCalls, List.mem_flatMap, List.mem_append, mem_callIf] at hmem
  obtain ⟨peer, -, ⟨s, t, -, -, heq⟩ | ⟨s, t, -, -, heq⟩⟩ := hmem
  · cases heq
  · cases heq

namespace Valid

variable {tree : AudioTree}

theorem add (h : tree.Valid) {bridge port : AudioNode} (hbridge : bridge ∈ tree.created)
    (hport : (∃ index, port = .port index) ∨ port ∈ tree.created)
    (hfree : tree.parent port = none ∨ tree.parent port = some bridge)
    (hbelow : ∀ n, ancestor tree.parent n bridge ≠ some port) : (tree.add bridge port).Valid := by
  have hcontainer := h.container bridge hbridge
  rw [add_eq tree hcontainer, addWith]
  split_ifs with hguard
  · exact h
  · obtain ⟨hkind, hout⟩ := not_or.mp hguard
    have hkind : port.isAudioPort := by simpa using hkind
    have hfree : tree.parent port = none := hfree.resolve_right fun hparent =>
      hout (h.parent_iff.mp hparent)
    generalize hcalls : tree.portCalls .connect _ port = calls
    obtain ⟨hno, hordered⟩ : (∀ src dst, .disconnect src dst ∉ calls) ∧ Ordered calls := by
      rw [← hcalls]
      exact ordered_portCalls_connect ..
    generalize htree' : (tree.callAll calls).setPorts bridge (tree.ports bridge ++ [port]) = tree'
    obtain ⟨hforest, hother⟩ := h.toForest.add tree' hbridge hkind hport hfree hbelow
      (by rw [← htree']; rfl) (by rw [← htree']; rfl)
    have hslots : tree'.slotOf = tree.slotOf := by
      rw [← htree']
      rfl
    have hmixer : tree'.mixer = calls.foldl callSlots tree.mixer := by
      rw [← htree']
      rfl
    have hports : tree'.ports bridge = tree.ports bridge ++ [port] := by
      rw [← htree']
      exact Function.update_self ..
    refine ⟨hforest, ⟨?_, ?_, ?_⟩, ?_, ?_⟩
    · rw [← htree']
      exact h.root
    · rw [hslots]
      exact h.owner
    · rw [hmixer, slots_callAll, ← htree']
      exact h.inMixer
    · rw [hmixer]
      exact nodup_callAll h.connectedNodup calls
    · intro src dst
      -- the calls are the new edges of the port
      have hothers : (tree.ports bridge ++ [port]).filter (· ≠ port) = tree.ports bridge := by
        rw [List.filter_append, List.filter_eq_self.mpr]
        · simp
        · intro other hmem
          simpa using fun heq : other = port => hout (heq ▸ hmem)
      have hnew : .connect src dst ∈ calls ↔ ∃ σ τ, Edge tree'.parent σ τ ∧
          (True ∧ σ = .up port ∨ True ∧ τ = .down port) ∧
            tree.slotOf σ = some src ∧ tree.slotOf τ = some dst := by
        rw [joined_peers hforest tree.slotOf (hports ▸ List.mem_append_right _ List.mem_cons_self), hports,
          hothers, ← hcalls, mem_portCalls (by simp), heard_iff h.toSlotted hcontainer,
          hearing_iff h.toSlotted hcontainer]
        simp only [true_and]
        rfl
      have hedges : ∀ σ τ, Edge tree.parent σ τ ↔ Edge tree'.parent σ τ ∧
          ∀ other, other = port → σ ≠ .up other ∧ τ ≠ .down other := by
        intro σ τ
        refine TreePaths.edge_leave ?_ fun other hne => (hother other hne).symm
        rintro other rfl
        exact hfree
      rw [hmixer, mem_callAll h.connectedNodup hordered, hnew, h.linked]
      simp only [hno, not_false_eq_true, and_true, Joined, hslots, hedges, forall_eq]
      constructor
      · rintro (⟨σ, τ, hedge, -, hsrc, hdst⟩ | ⟨σ, τ, ⟨hedge, -⟩, hsrc, hdst⟩)
        · exact ⟨σ, τ, hedge, hsrc, hdst⟩
        · exact ⟨σ, τ, hedge, hsrc, hdst⟩
      · rintro ⟨σ, τ, hedge, hsrc, hdst⟩
        by_cases htouches : σ = .up port ∨ τ = .down port
        · exact .inl ⟨σ, τ, hedge, by simpa using htouches, hsrc, hdst⟩
        · exact .inr ⟨σ, τ, ⟨hedge, not_or.mp htouches⟩, hsrc, hdst⟩

theorem remove (h : tree.Valid) (bridge port : AudioNode) : (tree.remove bridge port).Valid := by
  by_cases hbridge : ∃ index, bridge = .port index
  · obtain ⟨index, rfl⟩ := hbridge
    exact h
  · have hcontainer : ∀ index, bridge ≠ .port index := not_exists.mp hbridge
    rw [remove_eq tree hcontainer, removeWith]
    split_ifs with hin
    · generalize hcalls : tree.portCalls .disconnect _ port = calls
      have hno : ∀ src dst, .connect src dst ∉ calls := by
        intro src dst
        rw [← hcalls]
        exact connect_mem_portCalls_disconnect _ _ _ _ _
      generalize htree' : (tree.callAll calls).setPorts bridge ((tree.ports bridge).erase port) = tree'
      have hslots : tree'.slotOf = tree.slotOf := by
        rw [← htree']
        rfl
      have hmixer : tree'.mixer = calls.foldl callSlots tree.mixer := by
        rw [← htree']
        rfl
      have hports : tree'.ports = Function.update tree.ports bridge ((tree.ports bridge).erase port) := by
        rw [← htree']
        rfl
      obtain ⟨hforest, hedges⟩ : tree'.Forest ∧ _ := by
        refine h.toForest.leave tree' (· = port) (by rw [← htree']; rfl) (fun other => ?_)
          fun other member => ?_
        · rw [hports]
          by_cases heq : other = bridge
          · subst heq
            rw [Function.update_self]
            exact (h.membersNodup other).erase port
          · rw [Function.update_of_ne heq]
            exact h.membersNodup other
        · rw [hports]
          by_cases heq : other = bridge
          · subst heq
            rw [Function.update_self, (h.membersNodup other).mem_erase_iff, and_comm]
          · rw [Function.update_of_ne heq, iff_self_and]
            rintro hmem rfl
            exact heq (h.single other bridge member hmem hin)
      refine ⟨hforest, ⟨?_, ?_, ?_⟩, ?_, ?_⟩
      · rw [← htree']
        exact h.root
      · rw [hslots]
        exact h.owner
      · rw [hmixer, slots_callAll, ← htree']
        exact h.inMixer
      · rw [hmixer]
        exact nodup_callAll h.connectedNodup calls
      · intro src dst
        have hcall : .disconnect src dst ∈ calls ↔
            tree.Heard bridge (tree.ports bridge) src ∧ tree.slotOf (.down port) = some dst ∨
              tree.slotOf (.up port) = some src ∧ tree.Hearing bridge (tree.ports bridge) dst := by
          rw [← hcalls, mem_portCalls (by simp), heard_iff h.toSlotted hcontainer,
            hearing_iff h.toSlotted hcontainer]
          rfl
        -- the calls are the edges of the port, and the port with itself
        have hgone : (∃ σ τ, Edge tree.parent σ τ ∧ (True ∧ σ = .up port ∨ True ∧ τ = .down port) ∧
            tree.slotOf σ = some src ∧ tree.slotOf τ = some dst) → .disconnect src dst ∈ calls := by
          intro hedge
          rw [hcall]
          rcases (joined_peers h.toForest tree.slotOf hin True True _ _).mp hedge with
            ⟨-, hsrc | ⟨other, hmem, hsrc⟩, hdst⟩ | ⟨-, hsrc, hdst | ⟨other, hmem, hdst⟩⟩
          · exact .inl ⟨.inl hsrc, hdst⟩
          · exact .inl ⟨.inr ⟨other, List.mem_of_mem_filter hmem, hsrc⟩, hdst⟩
          · exact .inr ⟨hsrc, .inl hdst⟩
          · exact .inr ⟨hsrc, .inr ⟨other, List.mem_of_mem_filter hmem, hdst⟩⟩
        rw [hmixer, mem_callAll h.connectedNodup (ordered_of_disconnect hno), h.linked]
        simp only [hno, false_or, Joined, hslots, hedges, forall_eq]
        constructor
        · rintro ⟨⟨σ, τ, hedge, hsrc, hdst⟩, hnot⟩
          refine ⟨σ, τ, ⟨hedge, ?_⟩, hsrc, hdst⟩
          refine not_or.mp fun htouches => hnot (hgone ⟨σ, τ, hedge, by simpa using htouches, hsrc, hdst⟩)
        · rintro ⟨σ, τ, ⟨hedge, hup, hdown⟩, hsrc, hdst⟩
          refine ⟨⟨σ, τ, hedge, hsrc, hdst⟩, fun hdisconnect => ?_⟩
          rcases hcall.mp hdisconnect with ⟨-, hport⟩ | ⟨hport, -⟩
          · exact hdown (h.target_unique hedge ((h.edge_down hin).mpr (.inl rfl)) hdst hport)
          · exact hup (h.source_unique hedge ((h.edge_up hin).mpr (.inl rfl)) hsrc hport)
    · exact h

end Valid

/-! ### Stopping -/

theorem connect_mem_stopCalls (tree : AudioTree) (ports : List AudioNode) (src dst : Nat) :
    .connect src dst ∉ AudioBridge.stopCalls tree ports := by
  intro hmem
  simp only [AudioBridge.stopCalls, List.mem_flatMap, List.mem_append, mem_callIf] at hmem
  obtain ⟨port1, -, port2, -, ⟨s, t, -, -, heq⟩ | ⟨s, t, -, -, heq⟩⟩ := hmem
  · cases heq
  · cases heq

theorem disconnect_mem_stopCalls {tree : AudioTree} {ports : List AudioNode} {src dst : Nat} :
    .disconnect src dst ∈ AudioBridge.stopCalls tree ports ↔ ∃ port1 ∈ ports, ∃ port2 ∈ ports,
      port1 ≠ port2 ∧ tree.slotOf (.up port1) = some src ∧ tree.slotOf (.down port2) = some dst := by
  simp only [AudioBridge.stopCalls, List.mem_flatMap, List.mem_append, mem_callIf, List.mem_filter]
  constructor
  · rintro ⟨port1, hport1, port2, ⟨hport2, hne⟩, ⟨s, t, hs, ht, heq⟩ | ⟨s, t, hs, ht, heq⟩⟩
    · cases heq
      exact ⟨port1, hport1, port2, hport2, Ne.symm (by simpa using hne), hs, ht⟩
    · cases heq
      exact ⟨port2, hport2, port1, hport1, by simpa using hne, hs, ht⟩
  · rintro ⟨port1, hport1, port2, hport2, hne, hs, ht⟩
    exact ⟨port1, hport1, port2, ⟨hport2, by simpa using hne.symm⟩, .inl ⟨src, dst, hs, ht, rfl⟩⟩

theorem mem_removePort {mixer : AudioMixer} {slot : Nat} (hslot : slot ∈ mixer.slots) {src dst : Nat} :
    (src, dst) ∈ (mixer.removePort slot).connectedSlots ↔
      (src, dst) ∈ mixer.connectedSlots ∧ src ≠ slot ∧ dst ≠ slot := by
  rw [AudioMixer.connectedSlots_removePort hslot, List.mem_filter]
  simp only [Bool.and_eq_true, decide_eq_true_eq]
  exact and_congr_right fun _ => and_congr ne_comm ne_comm

theorem mem_stopPort {mixer : AudioMixer} {slot : Option Nat}
    (hslot : ∀ taken, slot = some taken → taken ∈ mixer.slots) {src dst : Nat} :
    (src, dst) ∈ (AudioBridge.stopPort mixer slot).connectedSlots ↔
      (src, dst) ∈ mixer.connectedSlots ∧ slot ≠ some src ∧ slot ≠ some dst := by
  cases slot with
  | none => simp [AudioBridge.stopPort]
  | some taken =>
      rw [AudioBridge.stopPort, Option.elim_some, mem_removePort (hslot taken rfl)]
      simp [eq_comm]

theorem nodup_stopPort {mixer : AudioMixer} (h : mixer.connectedSlots.Nodup) (slot : Option Nat) :
    (AudioBridge.stopPort mixer slot).connectedSlots.Nodup := by
  cases slot with
  | none => exact h
  | some taken =>
      rw [AudioBridge.stopPort, Option.elim_some]
      by_cases hslot : taken ∈ mixer.slots
      · rw [AudioMixer.connectedSlots_removePort hslot]
        exact h.filter _
      · rw [AudioMixer.removePort, if_pos hslot]
        exact h

/-- The other slots stay in the mixer. -/
theorem slots_stopPort {mixer : AudioMixer} {slot : Option Nat} {kept : Nat} (hne : slot ≠ some kept)
    (hkept : kept ∈ mixer.slots) : kept ∈ (AudioBridge.stopPort mixer slot).slots := by
  cases slot with
  | none => exact hkept
  | some taken =>
      rw [AudioBridge.stopPort, Option.elim_some, AudioMixer.slots_removePort]
      exact (List.mem_erase_of_ne (by simpa [eq_comm] using hne)).mpr hkept

section Stop

variable {tree : AudioTree} {index : Nat} {σ τ : Stop AudioNode} {slot src dst : Nat}

theorem mixer_stop (tree : AudioTree) (index : Nat) : (AudioBridge.stop tree index).mixer =
    AudioBridge.stopPort (AudioBridge.stopPort
      ((AudioBridge.stopCalls tree (tree.ports (.bridge index))).foldl callSlots tree.mixer)
      (tree.slotOf (.up (.bridge index)))) (tree.slotOf (.down (.bridge index))) := rfl

theorem slotOf_stop (hne : σ.node ≠ .bridge index) :
    (AudioBridge.stop tree index).slotOf σ = tree.slotOf σ :=
  slotOf_setSlots tree none none hne

theorem node_of_slotOf_stop (h : (AudioBridge.stop tree index).slotOf σ = some slot) :
    σ.node ≠ .bridge index := by
  intro hnode
  have hslot : (tree.setSlots (.bridge index) none none).slotOf σ = some slot := h
  rcases σ with node | node <;> obtain rfl : node = .bridge index := hnode
  · cases (slotOf_setSlots_up ..).symm.trans hslot
  · cases (slotOf_setSlots_down ..).symm.trans hslot

/-- The slots of the mixer ports are no other node's. -/
theorem Slotted.apart_bridge (h : tree.Slotted) (hne : σ.node ≠ .bridge index)
    (hslot : tree.slotOf σ = some slot) :
    tree.slotOf (.up (.bridge index)) ≠ some slot ∧ tree.slotOf (.down (.bridge index)) ≠ some slot := by
  refine ⟨fun heq => hne ?_, fun heq => hne ?_⟩
  · exact h.owner_node hslot heq
  · exact h.owner_node hslot heq

theorem Forest.stop (h : tree.Forest) (index : Nat) : (AudioBridge.stop tree index).Forest ∧
    ∀ σ τ, Edge (AudioBridge.stop tree index).parent σ τ ↔ Edge tree.parent σ τ ∧
      ∀ port ∈ tree.ports (.bridge index), σ ≠ .up port ∧ τ ≠ .down port := by
  have hports : (AudioBridge.stop tree index).ports = Function.update tree.ports (.bridge index) [] := rfl
  refine h.leave _ (· ∈ tree.ports (.bridge index)) rfl (fun other => ?_) fun other member => ?_
  · rw [hports]
    by_cases heq : other = .bridge index
    · subst heq
      rw [Function.update_self]
      exact .nil
    · rw [Function.update_of_ne heq]
      exact h.membersNodup other
  · rw [hports]
    by_cases heq : other = .bridge index
    · subst heq
      rw [Function.update_self]
      simp
    · rw [Function.update_of_ne heq, iff_self_and]
      intro hmem hgone
      exact heq (h.single other _ member hmem hgone)

theorem Slotted.stop (h : tree.Slotted) (index : Nat) : (AudioBridge.stop tree index).Slotted := by
  refine ⟨h.root, fun {σ τ slot} hσ hτ => ?_, fun other slot hslot => ?_⟩
  · refine owner_setSlots h ?_ (.inr ?_) hσ hτ
    · simp
    · simp
  · obtain ⟨σ, hnode, hσ⟩ : ∃ σ : Stop AudioNode, σ.node = .bridge other ∧
        (AudioBridge.stop tree index).slotOf σ = some slot := by
      rcases hslot with hslot | hslot
      · exact ⟨.down (.bridge other), rfl, hslot⟩
      · exact ⟨.up (.bridge other), rfl, hslot⟩
    have hne := node_of_slotOf_stop hσ
    rw [slotOf_stop hne] at hσ
    obtain ⟨hup, hdown⟩ := h.apart_bridge hne hσ
    rw [mixer_stop]
    refine slots_stopPort hdown (slots_stopPort hup ?_)
    rw [slots_callAll]
    refine h.inMixer other slot ?_
    rcases σ with node | node <;> obtain rfl : node = .bridge other := hnode
    · exact .inr hσ
    · exact .inl hσ

/-- What is left in the mixer: what joins neither two ports of the bridge nor a mixer port. -/
theorem Valid.mem_stop (h : tree.Valid) :
    (src, dst) ∈ (AudioBridge.stop tree index).mixer.connectedSlots ↔
      (((tree.Joined src dst ∧ ¬ ∃ port1 ∈ tree.ports (.bridge index), ∃ port2 ∈ tree.ports (.bridge index),
          port1 ≠ port2 ∧ tree.slotOf (.up port1) = some src ∧ tree.slotOf (.down port2) = some dst) ∧
        tree.slotOf (.up (.bridge index)) ≠ some src ∧ tree.slotOf (.up (.bridge index)) ≠ some dst) ∧
      tree.slotOf (.down (.bridge index)) ≠ some src ∧ tree.slotOf (.down (.bridge index)) ≠ some dst) := by
  have hno := connect_mem_stopCalls tree (tree.ports (.bridge index))
  have hup : ∀ taken, tree.slotOf (.up (.bridge index)) = some taken →
      taken ∈ ((AudioBridge.stopCalls tree (tree.ports (.bridge index))).foldl callSlots tree.mixer).slots := by
    intro taken htaken
    rw [slots_callAll]
    exact h.inMixer index taken (.inr htaken)
  have hdown : ∀ taken, tree.slotOf (.down (.bridge index)) = some taken →
      taken ∈ (AudioBridge.stopPort
        ((AudioBridge.stopCalls tree (tree.ports (.bridge index))).foldl callSlots tree.mixer)
        (tree.slotOf (.up (.bridge index)))).slots := by
    intro taken htaken
    refine slots_stopPort (fun heq => ?_) ?_
    · rcases h.owner heq htaken with hstop | ⟨other, hnode, -⟩
      · cases hstop
      · cases hnode
    · rw [slots_callAll]
      exact h.inMixer index taken (.inl htaken)
  rw [mixer_stop, mem_stopPort hdown, mem_stopPort hup,
    mem_callAll h.connectedNodup (ordered_of_disconnect hno), h.linked]
  simp only [hno, false_or, disconnect_mem_stopCalls]

theorem Valid.stop (h : tree.Valid) (index : Nat) : (AudioBridge.stop tree index).Valid := by
  obtain ⟨hforest, hedges⟩ := h.toForest.stop index
  refine ⟨hforest, h.toSlotted.stop index, ?_, fun src dst => ?_⟩
  · rw [mixer_stop]
    exact nodup_stopPort (nodup_stopPort (nodup_callAll h.connectedNodup _) _) _
  · rw [h.mem_stop]
    constructor
    · rintro ⟨⟨⟨⟨σ, τ, hedge, hsrc, hdst⟩, hsiblings⟩, hup, hup'⟩, hdown, hdown'⟩
      have hσ : σ.node ≠ .bridge index := by
        rintro hnode
        rcases σ with node | node <;> obtain rfl : node = .bridge index := hnode
        · exact hup hsrc
        · exact hdown hsrc
      have hτ : τ.node ≠ .bridge index := by
        rintro hnode
        rcases τ with node | node <;> obtain rfl : node = .bridge index := hnode
        · exact hup' hdst
        · exact hdown' hdst
      refine ⟨σ, τ, (hedges σ τ).mpr ⟨hedge, fun port hport => ⟨?_, ?_⟩⟩, ?_, ?_⟩
      · rintro rfl
        rcases (h.edge_up hport).mp hedge with rfl | ⟨other, hother, hne, rfl⟩
        · exact hτ rfl
        · exact hsiblings ⟨port, hport, other, hother, hne.symm, hsrc, hdst⟩
      · rintro rfl
        rcases (h.edge_down hport).mp hedge with rfl | ⟨other, hother, hne, rfl⟩
        · exact hσ rfl
        · exact hsiblings ⟨other, hother, port, hport, hne, hsrc, hdst⟩
      · rw [slotOf_stop hσ, hsrc]
      · rw [slotOf_stop hτ, hdst]
    · rintro ⟨σ, τ, hedge, hsrc, hdst⟩
      obtain ⟨hedge, hgone⟩ := (hedges σ τ).mp hedge
      have hσ := node_of_slotOf_stop hsrc
      have hτ := node_of_slotOf_stop hdst
      rw [slotOf_stop hσ] at hsrc
      rw [slotOf_stop hτ] at hdst
      obtain ⟨hup, hdown⟩ := h.apart_bridge hσ hsrc
      obtain ⟨hup', hdown'⟩ := h.apart_bridge hτ hdst
      refine ⟨⟨⟨⟨σ, τ, hedge, hsrc, hdst⟩, ?_⟩, hup, hup'⟩, hdown, hdown'⟩
      rintro ⟨port, hport, -, -, -, hport_src, -⟩
      have hclimb := (h.edge_up hport).mpr (.inl rfl)
      exact (hgone port hport).1 (h.source_unique hedge hclimb hsrc hport_src)

end Stop

/-! ### Slot changes -/

theorem Forest.callAll {tree : AudioTree} (h : tree.Forest) (calls : List SlotCall) :
    (tree.callAll calls).Forest :=
  ⟨h.nodup, h.container, h.membersNodup, h.member, h.single, h.grounded⟩

/-- What a notification says of a slot: that it did not change, or which it was, but a slot that left the
mixer need not be told. -/
def Reported (changed : Bool) (old reported : Option Nat) (removed : List Nat) : Prop :=
  if changed then reported = old ∨ reported = none ∧ ∃ slot ∈ removed, old = some slot
  else ∀ slot ∈ removed, old ≠ some slot

theorem mem_removePorts {mixer : AudioMixer} {removed : List Nat} (hnodup : removed.Nodup)
    (hremoved : ∀ slot ∈ removed, slot ∈ mixer.slots) {src dst : Nat} :
    (src, dst) ∈ (removed.foldl AudioMixer.removePort mixer).connectedSlots ↔
      (src, dst) ∈ mixer.connectedSlots ∧ src ∉ removed ∧ dst ∉ removed := by
  induction removed generalizing mixer with
  | nil => simp
  | cons slot removed ih =>
      obtain ⟨hfresh, hnodup⟩ := List.nodup_cons.mp hnodup
      obtain ⟨hslot, hremoved⟩ := List.forall_mem_cons.mp hremoved
      rw [List.foldl_cons, ih hnodup, mem_removePort hslot]
      · simp only [List.mem_cons, not_or]
        tauto
      · intro other hother
        rw [AudioMixer.slots_removePort]
        exact (List.mem_erase_of_ne (by rintro rfl; exact hfresh hother)).mpr (hremoved other hother)

theorem nodup_removePorts {mixer : AudioMixer} (h : mixer.connectedSlots.Nodup) (removed : List Nat) :
    (removed.foldl AudioMixer.removePort mixer).connectedSlots.Nodup := by
  induction removed generalizing mixer with
  | nil => exact h
  | cons slot removed ih => exact ih (nodup_stopPort h (some slot))

theorem slots_removePorts {mixer : AudioMixer} {removed : List Nat} {kept : Nat} (hkept : kept ∉ removed)
    (hslot : kept ∈ mixer.slots) : kept ∈ (removed.foldl AudioMixer.removePort mixer).slots := by
  induction removed generalizing mixer with
  | nil => exact hslot
  | cons slot removed ih =>
      obtain ⟨hne, hkept⟩ := not_or.mp (fun h => hkept (List.mem_cons.mpr h))
      refine ih hkept ?_
      rw [AudioMixer.slots_removePort]
      exact (List.mem_erase_of_ne hne).mpr hslot

theorem addPorts (mixer : AudioMixer) (system : AudioSystem) (added : List Nat) :
    (added.foldl (fun mixer slot => mixer.addPort system slot) mixer).connectedSlots =
      mixer.connectedSlots ∧
    ∀ slot ∈ mixer.slots, slot ∈ (added.foldl (fun mixer slot => mixer.addPort system slot) mixer).slots := by
  induction added generalizing mixer with
  | nil => exact ⟨rfl, fun _ => id⟩
  | cons slot added ih =>
      obtain ⟨hconnected, hslots⟩ := ih (mixer.addPort system slot)
      refine ⟨hconnected.trans (AudioMixer.connectedSlots_addPort ..), fun kept hkept => ?_⟩
      refine hslots kept ?_
      rw [AudioMixer.slots_addPort]
      exact List.mem_cons_of_mem _ hkept

theorem handleNotification_eq (tree : AudioTree) {bridge : AudioNode}
    (hbridge : ∀ index, bridge ≠ .port index) (sender : AudioNode) (data : SlotsChange) :
    tree.handleNotification sender data bridge =
      if sender ∉ tree.ports bridge then []
      else notificationCalls (tree.peers bridge ((tree.ports bridge).filter (· ≠ sender))) data := by
  cases bridge with
  | port index => exact absurd rfl (hbridge index)
  | bridge index => rfl
  | rootBridge index => rfl

/-- Peers have different slots. -/
def Apart (peer other : Option Nat × Option Nat) : Prop :=
  (∀ slot, peer.1 = some slot → other.1 ≠ some slot) ∧ ∀ slot, peer.2 = some slot → other.2 ≠ some slot

theorem Slotted.apart {tree : AudioTree} (h : tree.Slotted) (σ τ σ' τ' : Stop AudioNode)
    (hσ : σ.node ≠ σ'.node) (hτ : τ.node ≠ τ'.node) :
    Apart (tree.slotOf σ, tree.slotOf τ) (tree.slotOf σ', tree.slotOf τ') :=
  ⟨fun _ hslot hslot' => hσ (h.owner_node hslot hslot'), fun _ hslot hslot' => hτ (h.owner_node hslot hslot')⟩

theorem peers_apart {tree : AudioTree} (hforest : tree.Forest) (hslotted : tree.Slotted)
    (bridge sender : AudioNode) :
    (tree.peers bridge ((tree.ports bridge).filter (· ≠ sender))).Pairwise Apart := by
  have hports : (tree.slots ((tree.ports bridge).filter (· ≠ sender))).Pairwise Apart := by
    refine List.pairwise_map.mpr (((hforest.membersNodup bridge).filter _).imp fun {port other} hne => ?_)
    exact hslotted.apart (.up port) (.down port) (.up other) (.down other) hne hne
  cases bridge with
  | port index => exact hports
  | rootBridge index => exact hports
  | bridge index =>
      refine List.pairwise_cons.mpr ⟨fun peer hpeer => ?_, hports⟩
      obtain ⟨port, hport, rfl⟩ := List.mem_map.mp hpeer
      have hparent := hforest.parent_iff.mpr (List.mem_of_mem_filter hport)
      have hne := hforest.grounded.edge_ne (.climb hparent)
      exact hslotted.apart (.down (.bridge index)) (.up (.bridge index)) (.up port) (.down port) hne.symm
        hne.symm

theorem ordered_handleNotification {tree : AudioTree} (hforest : tree.Forest) (hslotted : tree.Slotted)
    {sender : AudioNode} {data : SlotsChange}
    (hold : data.producerSlotChanged → ∀ σ slot, tree.slotOf σ = some slot →
      data.oldProducerSlot = some slot → σ.node = sender) :
    Ordered (tree.created.flatMap (tree.handleNotification sender data)) := by
  have hcalls : ∀ bridge ∈ tree.created, ∀ call ∈ tree.handleNotification sender data bridge,
      sender ∈ tree.ports bridge := by
    intro bridge hbridge call hcall
    by_contra hout
    rw [handleNotification_eq tree (hforest.container bridge hbridge), if_pos hout] at hcall
    cases hcall
  refine List.pairwise_flatMap.mpr ⟨fun bridge hbridge => ?_, ?_⟩
  · rw [handleNotification_eq tree (hforest.container bridge hbridge)]
    split_ifs with hin
    · have hapart := peers_apart hforest hslotted bridge sender
      refine ordered_notificationCalls (hapart.imp And.left) (hapart.imp And.right) ?_
      intro hchanged peer hpeer slot hslot hleft
      have hheard := (heard_iff hslotted (hforest.container bridge hbridge)).mp
        ⟨peer.2, by rw [← hslot]; exact hpeer⟩
      rcases hheard with hdown | ⟨other, hother, hup⟩
      · have hnode := hold hchanged _ slot hdown hleft
        have hclimb := hforest.grounded.edge_ne (.climb (hforest.parent_iff.mpr hin))
        exact hclimb hnode.symm
      · obtain ⟨-, hne⟩ := List.mem_filter.mp hother
        have heq : other = sender := hold hchanged _ slot hup hleft
        exact absurd heq (by simpa using hne)
    · exact .nil
  · refine hforest.nodup.imp_of_mem fun {bridge bridge'} hbridge hbridge' hne call hcall other hother => ?_
    exact absurd (hforest.single _ _ sender (hcalls bridge hbridge call hcall)
      (hcalls bridge' hbridge' other hother)) hne

/-- The assumptions on a notification: the slots that leave the mixer are the port's, those it takes no
other node's, and it tells what changed. -/
structure ChangeAllowed (tree : AudioTree) (port : AudioNode) (removed : List Nat) (data : SlotsChange) :
    Prop where
  once : removed.Nodup
  own : ∀ slot ∈ removed, slot ∈ tree.mixer.slots ∧
    (tree.consumerSlot port = some slot ∨ tree.producerSlot port = some slot)
  consumer : Reported data.consumerSlotChanged (tree.consumerSlot port) data.oldConsumerSlot removed
  producer : Reported data.producerSlotChanged (tree.producerSlot port) data.oldProducerSlot removed
  newConsumer : data.consumerSlotChanged → ∀ slot, data.newConsumerSlot = some slot → tree.Free port slot
  newProducer : data.producerSlotChanged → ∀ slot, data.newProducerSlot = some slot → tree.Free port slot

/-- The edges whose connections a notification changes. -/
def Changed (port : AudioNode) (data : SlotsChange) (σ τ : Stop AudioNode) : Prop :=
  data.producerSlotChanged ∧ σ = .up port ∨ data.consumerSlotChanged ∧ τ = .down port

/-- What the containers do with the slots of the sender that are given, old or new, is done along its
edges. -/
theorem joined_handle {tree : AudioTree} (hforest : tree.Forest) (hslotted : tree.Slotted)
    (sender : AudioNode) (data : SlotsChange) (consumer producer : Option Nat) {src dst : Nat} :
    (∃ bridge ∈ tree.created, sender ∈ tree.ports bridge ∧
      (data.consumerSlotChanged ∧ (∃ hearing, (some src, hearing) ∈
          tree.peers bridge ((tree.ports bridge).filter (· ≠ sender))) ∧ consumer = some dst ∨
        data.producerSlotChanged ∧ (∃ heard, (heard, some dst) ∈
          tree.peers bridge ((tree.ports bridge).filter (· ≠ sender))) ∧ producer = some src)) ↔
    ∃ σ τ, Edge tree.parent σ τ ∧ Changed sender data σ τ ∧
      (tree.setSlots sender consumer producer).slotOf σ = some src ∧
      (tree.setSlots sender consumer producer).slotOf τ = some dst := by
  have hpeers : ∀ {bridge}, sender ∈ tree.ports bridge →
      ((∃ hearing, (some src, hearing) ∈ tree.peers bridge ((tree.ports bridge).filter (· ≠ sender))) ↔
        (tree.setSlots sender consumer producer).slotOf (.down bridge) = some src ∨
          ∃ other ∈ (tree.ports bridge).filter (· ≠ sender),
            (tree.setSlots sender consumer producer).slotOf (.up other) = some src) ∧
      ((∃ heard, (heard, some dst) ∈ tree.peers bridge ((tree.ports bridge).filter (· ≠ sender))) ↔
        (tree.setSlots sender consumer producer).slotOf (.up bridge) = some dst ∨
          ∃ other ∈ (tree.ports bridge).filter (· ≠ sender),
            (tree.setSlots sender consumer producer).slotOf (.down other) = some dst) := by
    intro bridge hin
    have hbridge : bridge ≠ sender :=
      (hforest.grounded.edge_ne (.climb (hforest.parent_iff.mpr hin))).symm
    have hcontainer := hforest.container bridge (hforest.member bridge sender hin).1
    have hup : ∀ {other}, other ≠ sender →
        (tree.setSlots sender consumer producer).slotOf (.up other) = tree.slotOf (.up other) :=
      fun hne => slotOf_setSlots tree consumer producer hne
    have hdown : ∀ {other}, other ≠ sender →
        (tree.setSlots sender consumer producer).slotOf (.down other) = tree.slotOf (.down other) :=
      fun hne => slotOf_setSlots tree consumer producer hne
    have hothers : ∀ {other}, other ∈ (tree.ports bridge).filter (· ≠ sender) → other ≠ sender := by
      intro other hother
      simpa using (List.mem_filter.mp hother).2
    rw [heard_iff hslotted hcontainer, hearing_iff hslotted hcontainer, hup hbridge, hdown hbridge]
    refine ⟨or_congr Iff.rfl ?_, or_congr Iff.rfl ?_⟩
    · refine exists_congr fun other => and_congr_right fun hother => ?_
      rw [hup (hothers hother)]
    · refine exists_congr fun other => and_congr_right fun hother => ?_
      rw [hdown (hothers hother)]
  have hbridge : ∀ {bridge}, sender ∈ tree.ports bridge →
      ((data.consumerSlotChanged ∧ (∃ hearing, (some src, hearing) ∈
          tree.peers bridge ((tree.ports bridge).filter (· ≠ sender))) ∧ consumer = some dst ∨
        data.producerSlotChanged ∧ (∃ heard, (heard, some dst) ∈
          tree.peers bridge ((tree.ports bridge).filter (· ≠ sender))) ∧ producer = some src) ↔
      ∃ σ τ, Edge tree.parent σ τ ∧ Changed sender data σ τ ∧
        (tree.setSlots sender consumer producer).slotOf σ = some src ∧
        (tree.setSlots sender consumer producer).slotOf τ = some dst) := by
    intro bridge hin
    have hjoined := joined_peers hforest (tree.setSlots sender consumer producer).slotOf hin
      data.producerSlotChanged data.consumerSlotChanged src dst
    rw [slotOf_setSlots_up, slotOf_setSlots_down, ← (hpeers hin).1, ← (hpeers hin).2] at hjoined
    refine Iff.trans ?_ hjoined.symm
    rw [and_comm (a := producer = some src)]
  constructor
  · rintro ⟨bridge, -, hin, hcase⟩
    exact (hbridge hin).mp hcase
  · rintro ⟨σ, τ, hedge, hchanged, hslots⟩
    obtain ⟨bridge, hparent⟩ : ∃ bridge, tree.parent sender = some bridge := by
      rcases hchanged with ⟨-, rfl⟩ | ⟨-, rfl⟩
      · cases hedge with
        | climb hparent => exact ⟨_, hparent⟩
        | cross hparent => exact ⟨_, hparent⟩
      · cases hedge with
        | cross _ hparent => exact ⟨_, hparent⟩
        | descend hparent => exact ⟨_, hparent⟩
    have hin := hforest.parent_iff.mp hparent
    exact ⟨bridge, (hforest.member bridge sender hin).1, hin,
      (hbridge hin).mpr ⟨σ, τ, hedge, hchanged, hslots⟩⟩

/-- The calls of all containers are those along the edges of the sender. -/
theorem mem_handleNotifications {tree : AudioTree} (hforest : tree.Forest) (hslotted : tree.Slotted)
    (sender : AudioNode) (data : SlotsChange) {src dst : Nat} :
    (.connect src dst ∈ tree.created.flatMap (tree.handleNotification sender data) ↔
      ∃ σ τ, Edge tree.parent σ τ ∧ Changed sender data σ τ ∧
        (tree.setSlots sender data.newConsumerSlot data.newProducerSlot).slotOf σ = some src ∧
        (tree.setSlots sender data.newConsumerSlot data.newProducerSlot).slotOf τ = some dst) ∧
    (.disconnect src dst ∈ tree.created.flatMap (tree.handleNotification sender data) ↔
      ∃ σ τ, Edge tree.parent σ τ ∧ Changed sender data σ τ ∧
        (tree.setSlots sender data.oldConsumerSlot data.oldProducerSlot).slotOf σ = some src ∧
        (tree.setSlots sender data.oldConsumerSlot data.oldProducerSlot).slotOf τ = some dst) := by
  have hcalls : ∀ call, call ∈ tree.created.flatMap (tree.handleNotification sender data) ↔
      ∃ bridge ∈ tree.created, sender ∈ tree.ports bridge ∧
        call ∈ notificationCalls (tree.peers bridge ((tree.ports bridge).filter (· ≠ sender))) data := by
    intro call
    rw [List.mem_flatMap]
    refine exists_congr fun bridge => and_congr_right fun hbridge => ?_
    rw [handleNotification_eq tree (hforest.container bridge hbridge)]
    by_cases hin : sender ∈ tree.ports bridge
    · simp [hin]
    · simp [hin]
  rw [hcalls, hcalls, ← joined_handle hforest hslotted, ← joined_handle hforest hslotted]
  simp only [connect_mem_notificationCalls, disconnect_mem_notificationCalls, and_self]

/-- The port has its new slots and the mixer its new ports, and no container has been told yet. -/
structure Moved (tree : AudioTree) (port : AudioNode) (removed : List Nat) (data : SlotsChange)
    (moved : AudioTree) : Prop where
  up : moved.slotOf (.up port) =
    if data.producerSlotChanged then data.newProducerSlot else tree.slotOf (.up port)
  down : moved.slotOf (.down port) =
    if data.consumerSlotChanged then data.newConsumerSlot else tree.slotOf (.down port)
  kept : ∀ {σ}, σ.node ≠ port → moved.slotOf σ = tree.slotOf σ
  parent : moved.parent = tree.parent
  forest : moved.Forest
  slotted : moved.Slotted
  nodup : moved.mixer.connectedSlots.Nodup
  linked : ∀ src dst, (src, dst) ∈ moved.mixer.connectedSlots ↔
    tree.Joined src dst ∧ src ∉ removed ∧ dst ∉ removed

section Moved

variable {tree moved : AudioTree} {index : Nat} {removed : List Nat} {data : SlotsChange}
  {σ τ : Stop AudioNode} {src dst : Nat}

theorem ChangeAllowed.owner (hallowed : tree.ChangeAllowed (.port index) removed data) (h : tree.Slotted)
    {slot : Nat} (hleft : slot ∈ removed) (hslot : tree.slotOf σ = some slot) : σ.node = .port index := by
  rcases (hallowed.own slot hleft).2 with hconsumer | hproducer
  · have howned : tree.slotOf (.down (.port index)) = some slot := hconsumer
    exact h.owner_node hslot howned
  · have howned : tree.slotOf (.up (.port index)) = some slot := hproducer
    exact h.owner_node hslot howned

/-- The slots of a port are free for it, those that it has and those that it takes. -/
theorem ChangeAllowed.free (hallowed : tree.ChangeAllowed (.port index) removed data) (h : tree.Slotted)
    {slot : Nat}
    (hslot : (if data.consumerSlotChanged then data.newConsumerSlot else tree.consumerSlot (.port index)) = some slot ∨
      (if data.producerSlotChanged then data.newProducerSlot else tree.producerSlot (.port index)) = some slot) :
    tree.Free (.port index) slot := by
  have hkeep : ∀ {σ}, σ.node = .port index → tree.slotOf σ = some slot → tree.Free (.port index) slot := by
    intro σ hnode hslot other hne
    refine ⟨fun hother => hne ?_, fun hother => hne ?_⟩
    · have hother : tree.slotOf (.down other) = some slot := hother
      exact (h.owner_node hother hslot).trans hnode
    · have hother : tree.slotOf (.up other) = some slot := hother
      exact (h.owner_node hother hslot).trans hnode
  rcases hslot with hslot | hslot
  · split_ifs at hslot with hchanged
    · exact hallowed.newConsumer hchanged slot hslot
    · have hown : tree.slotOf (.down (.port index)) = some slot := hslot
      exact hkeep rfl hown
  · split_ifs at hslot with hchanged
    · exact hallowed.newProducer hchanged slot hslot
    · have hown : tree.slotOf (.up (.port index)) = some slot := hslot
      exact hkeep rfl hown

theorem Valid.move (h : tree.Valid) (system : AudioSystem) (added : List Nat)
    (hallowed : tree.ChangeAllowed (.port index) removed data) :
    tree.Moved (.port index) removed data
      ({ tree with
          mixer := added.foldl (fun mixer slot => mixer.addPort system slot)
            (removed.foldl AudioMixer.removePort tree.mixer) }.setSlots (.port index)
        (if data.consumerSlotChanged then data.newConsumerSlot else tree.consumerSlot (.port index))
        (if data.producerSlotChanged then data.newProducerSlot else tree.producerSlot (.port index))) := by
  have hkept : ∀ {consumer producer : Option Nat} {σ : Stop AudioNode}, σ.node ≠ .port index →
      ({ tree with
          mixer := added.foldl (fun mixer slot => mixer.addPort system slot)
            (removed.foldl AudioMixer.removePort tree.mixer) }.setSlots (.port index) consumer producer).slotOf σ =
        tree.slotOf σ := fun hne => slotOf_setSlots tree _ _ hne
  refine {
    up := slotOf_setSlots_up ..
    down := slotOf_setSlots_down ..
    kept := hkept
    parent := rfl
    forest := ⟨h.nodup, h.container, h.membersNodup, h.member, h.single, h.grounded⟩
    slotted := ⟨h.root, fun {σ τ slot} hσ hτ => ?_, fun other slot hslot => ?_⟩
    nodup := ?_
    linked := fun src dst => ?_ }
  · exact owner_setSlots h.toSlotted (fun slot hslot => hallowed.free h.toSlotted hslot) (.inl ⟨index, rfl⟩) hσ hτ
  · -- the mixer ports of a bridge are none of those that leave
    have hin : ∀ σ : Stop AudioNode, σ.node = .bridge other → tree.slotOf σ = some slot →
        slot ∈ (added.foldl (fun mixer slot => mixer.addPort system slot)
          (removed.foldl AudioMixer.removePort tree.mixer)).slots := by
      intro σ hnode hσ
      have hleft : slot ∉ removed := fun hleft => by
        cases hnode.symm.trans (hallowed.owner h.toSlotted hleft hσ)
      refine (addPorts ..).2 slot (slots_removePorts hleft (h.inMixer other slot ?_))
      rcases σ with node | node <;> obtain rfl : node = .bridge other := hnode
      · exact .inr hσ
      · exact .inl hσ
    rcases hslot with hslot | hslot
    · exact hin (.down (.bridge other)) rfl ((hkept AudioNode.noConfusion).symm.trans hslot)
    · exact hin (.up (.bridge other)) rfl ((hkept AudioNode.noConfusion).symm.trans hslot)
  · show (AudioMixer.connectedSlots (List.foldl _ _ added)).Nodup
    rw [(addPorts ..).1]
    exact nodup_removePorts h.connectedNodup removed
  · show (src, dst) ∈ AudioMixer.connectedSlots (List.foldl _ _ added) ↔ _
    rw [(addPorts ..).1, mem_removePorts hallowed.once, h.linked]
    exact fun slot hslot => (hallowed.own slot hslot).1

namespace Moved

/-- An edge of which nothing is told keeps its slots. -/
theorem same (hmoved : tree.Moved (.port index) removed data moved) (h : tree.Forest)
    (hedge : Edge tree.parent σ τ) (hnot : ¬ Changed (.port index) data σ τ) :
    moved.slotOf σ = tree.slotOf σ ∧ moved.slotOf τ = tree.slotOf τ := by
  obtain ⟨hσ, hτ⟩ := not_or.mp hnot
  refine ⟨?_, ?_⟩
  · by_cases hnode : σ.node = .port index
    · rcases σ with node | node <;> obtain rfl : node = .port index := hnode
      · rw [hmoved.up, if_neg fun hchanged => hσ ⟨hchanged, rfl⟩]
      · exact absurd hedge h.source
    · exact hmoved.kept hnode
  · by_cases hnode : τ.node = .port index
    · rcases τ with node | node <;> obtain rfl : node = .port index := hnode
      · exact absurd hedge h.target
      · rw [hmoved.down, if_neg fun hchanged => hτ ⟨hchanged, rfl⟩]
    · exact hmoved.kept hnode

/-- An edge of which something is told has the slots that are told. -/
theorem told (hmoved : tree.Moved (.port index) removed data moved) (hedge : Edge moved.parent σ τ)
    (hchanged : Changed (.port index) data σ τ) :
    (moved.setSlots (.port index) data.newConsumerSlot data.newProducerSlot).slotOf σ = moved.slotOf σ ∧
      (moved.setSlots (.port index) data.newConsumerSlot data.newProducerSlot).slotOf τ = moved.slotOf τ := by
  have hne := hmoved.forest.grounded.edge_ne hedge
  rcases hchanged with ⟨hchanged, rfl⟩ | ⟨hchanged, rfl⟩
  · have hτ : τ.node ≠ .port index := Ne.symm hne
    rw [slotOf_setSlots_up, slotOf_setSlots moved _ _ hτ, hmoved.up, if_pos hchanged]
    exact ⟨rfl, rfl⟩
  · have hσ : σ.node ≠ .port index := hne
    rw [slotOf_setSlots_down, slotOf_setSlots moved _ _ hσ, hmoved.down, if_pos hchanged]
    exact ⟨rfl, rfl⟩

theorem ordered (hmoved : tree.Moved (.port index) removed data moved) (h : tree.Slotted)
    (hallowed : tree.ChangeAllowed (.port index) removed data) :
    Ordered (moved.created.flatMap (moved.handleNotification (.port index) data)) := by
  refine ordered_handleNotification hmoved.forest hmoved.slotted fun hchanged σ slot hslot hold => ?_
  have hreported := hallowed.producer
  rw [Reported, if_pos hchanged, hold] at hreported
  rcases hreported with htold | ⟨hnone, -⟩
  · have hown : tree.slotOf (.up (.port index)) = some slot := htold.symm
    by_contra hne
    exact hne (h.owner_node ((hmoved.kept hne).symm.trans hslot) hown)
  · cases hnone

/-- What was connected along a changed edge is disconnected, unless a slot left the mixer. -/
theorem disconnects (hmoved : tree.Moved (.port index) removed data moved) (h : tree.Forest)
    (hallowed : tree.ChangeAllowed (.port index) removed data) (hedge : Edge tree.parent σ τ)
    (hchanged : Changed (.port index) data σ τ) (hsrc_kept : src ∉ removed) (hdst_kept : dst ∉ removed)
    (hsrc : tree.slotOf σ = some src) (hdst : tree.slotOf τ = some dst) :
    .disconnect src dst ∈ moved.created.flatMap (moved.handleNotification (.port index) data) := by
  have hne := h.grounded.edge_ne hedge
  refine (mem_handleNotifications hmoved.forest hmoved.slotted (.port index) data).2.mpr
    ⟨σ, τ, hmoved.parent ▸ hedge, hchanged, ?_⟩
  rcases hchanged with ⟨hchanged, rfl⟩ | ⟨hchanged, rfl⟩
  · have hreported := hallowed.producer
    have hown : tree.producerSlot (.port index) = some src := hsrc
    rw [Reported, if_pos hchanged, hown] at hreported
    have hτ : τ.node ≠ .port index := Ne.symm hne
    rw [slotOf_setSlots_up, slotOf_setSlots moved _ _ hτ, hmoved.kept hτ]
    rcases hreported with htold | ⟨-, slot, hslot, heq⟩
    · exact ⟨htold, hdst⟩
    · exact absurd (Option.some.inj heq ▸ hslot) hsrc_kept
  · have hreported := hallowed.consumer
    have hown : tree.consumerSlot (.port index) = some dst := hdst
    rw [Reported, if_pos hchanged, hown] at hreported
    have hσ : σ.node ≠ .port index := hne
    rw [slotOf_setSlots_down, slotOf_setSlots moved _ _ hσ, hmoved.kept hσ]
    rcases hreported with htold | ⟨-, slot, hslot, heq⟩
    · exact ⟨hsrc, htold⟩
    · exact absurd (Option.some.inj heq ▸ hslot) hdst_kept

/-- Nothing is disconnected along an edge that is not changed. -/
theorem not_disconnects (hmoved : tree.Moved (.port index) removed data moved) (h : tree.Valid)
    (hallowed : tree.ChangeAllowed (.port index) removed data) (hedge : Edge tree.parent σ τ)
    (hnot : ¬ Changed (.port index) data σ τ) (hsrc : tree.slotOf σ = some src)
    (hdst : tree.slotOf τ = some dst) :
    .disconnect src dst ∉ moved.created.flatMap (moved.handleNotification (.port index) data) := by
  intro hdisconnect
  obtain ⟨σ', τ', hedge', hchanged, hsrc', hdst'⟩ :=
    (mem_handleNotifications hmoved.forest hmoved.slotted (.port index) data).2.mp hdisconnect
  rw [hmoved.parent] at hedge'
  refine hnot ?_
  rcases hchanged with ⟨hchanged, rfl⟩ | ⟨hchanged, rfl⟩
  · have hreported := hallowed.producer
    rw [slotOf_setSlots_up] at hsrc'
    rw [Reported, if_pos hchanged, hsrc'] at hreported
    rcases hreported with htold | ⟨hnone, -⟩
    · exact .inl ⟨hchanged, h.source_unique hedge hedge' hsrc htold.symm⟩
    · cases hnone
  · have hreported := hallowed.consumer
    rw [slotOf_setSlots_down] at hdst'
    rw [Reported, if_pos hchanged, hdst'] at hreported
    rcases hreported with htold | ⟨hnone, -⟩
    · exact .inr ⟨hchanged, h.target_unique hedge hedge' hdst htold.symm⟩
    · cases hnone

end Moved

/-- A slot leaves the mixer only if a changed edge had it. -/
theorem ChangeAllowed.kept (hallowed : tree.ChangeAllowed (.port index) removed data) (h : tree.Valid)
    (hedge : Edge tree.parent σ τ) (hnot : ¬ Changed (.port index) data σ τ)
    (hsrc : tree.slotOf σ = some src) (hdst : tree.slotOf τ = some dst) : src ∉ removed ∧ dst ∉ removed := by
  refine ⟨fun hleft => ?_, fun hleft => ?_⟩
  · have hnode := hallowed.owner h.toSlotted hleft hsrc
    rcases σ with node | node <;> obtain rfl : node = .port index := hnode
    · have hreported := hallowed.producer
      rw [Reported, if_neg fun hyes => hnot (.inl ⟨hyes, rfl⟩)] at hreported
      exact hreported src hleft hsrc
    · exact h.source hedge
  · have hnode := hallowed.owner h.toSlotted hleft hdst
    rcases τ with node | node <;> obtain rfl : node = .port index := hnode
    · exact h.target hedge
    · have hreported := hallowed.consumer
      rw [Reported, if_neg fun hyes => hnot (.inr ⟨hyes, rfl⟩)] at hreported
      exact hreported dst hleft hdst

theorem Valid.changeSlots (h : tree.Valid) (index : Nat) (system : AudioSystem) (added : List Nat)
    (hallowed : tree.ChangeAllowed (.port index) removed data) :
    (tree.changeSlots (.port index) system removed added data).Valid := by
  have hmoved := h.move system added hallowed
  rw [AudioTree.changeSlots]
  generalize AudioTree.setSlots _ (.port index) _ _ = moved at hmoved ⊢
  have hcalls := fun src dst =>
    @mem_handleNotifications moved hmoved.forest hmoved.slotted (.port index) data src dst
  refine ⟨hmoved.forest.callAll _, ⟨hmoved.slotted.root, hmoved.slotted.owner, ?_⟩,
    nodup_callAll hmoved.nodup _, fun src dst => ?_⟩
  · show ∀ index slot, _ → slot ∈ (List.foldl callSlots moved.mixer _).slots
    rw [slots_callAll]
    exact hmoved.slotted.inMixer
  · show (src, dst) ∈ (List.foldl callSlots moved.mixer _).connectedSlots ↔ moved.Joined src dst
    rw [mem_callAll hmoved.nodup (hmoved.ordered h.toSlotted hallowed), hmoved.linked]
    constructor
    · rintro (hconnect | ⟨⟨⟨σ, τ, hedge, hsrc, hdst⟩, hsrc_kept, hdst_kept⟩, hnot⟩)
      · obtain ⟨σ, τ, hedge, hchanged, hsrc, hdst⟩ := (hcalls src dst).1.mp hconnect
        obtain ⟨hσ, hτ⟩ := hmoved.told hedge hchanged
        exact ⟨σ, τ, hedge, hσ ▸ hsrc, hτ ▸ hdst⟩
      · have hunchanged : ¬ Changed (.port index) data σ τ := fun hchanged =>
          hnot (hmoved.disconnects h.toForest hallowed hedge hchanged hsrc_kept hdst_kept hsrc hdst)
        obtain ⟨hσ, hτ⟩ := hmoved.same h.toForest hedge hunchanged
        exact ⟨σ, τ, hmoved.parent ▸ hedge, hσ.trans hsrc, hτ.trans hdst⟩
    · rintro ⟨σ, τ, hedge, hsrc, hdst⟩
      by_cases hchanged : Changed (.port index) data σ τ
      · obtain ⟨hσ, hτ⟩ := hmoved.told hedge hchanged
        exact .inl ((hcalls src dst).1.mpr ⟨σ, τ, hedge, hchanged, hσ.trans hsrc, hτ.trans hdst⟩)
      · rw [hmoved.parent] at hedge
        obtain ⟨hσ, hτ⟩ := hmoved.same h.toForest hedge hchanged
        rw [hσ] at hsrc
        rw [hτ] at hdst
        exact .inr ⟨⟨⟨σ, τ, hedge, hsrc, hdst⟩, hallowed.kept h hedge hchanged hsrc hdst⟩,
          hmoved.not_disconnects h hallowed hedge hchanged hsrc hdst⟩

end Moved

end AudioTree

end SipSimple.Audio
