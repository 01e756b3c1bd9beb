import SipSimple.Library.TreePaths
import SipSimple.Audio.Bridge

/-!
# The forest of the containers

What a list of calls leaves connected, the forest that the containers and their ports make, and the
invariant: the connections of the mixer are the edges of the forest. The producer of a node is connected to
the multiplexer of its container and to the consumers of its siblings, the demultiplexer of a container to
the consumers of its members.
-/

namespace SipSimple.Audio

open SipSimple.Core (AudioMixer AudioSystem)
open TreePaths (Stop Edge Path Grounded ancestor)

/-! ### Calls -/

/-- No call is undone by a later one. -/
def Ordered (calls : List SlotCall) : Prop :=
  calls.Pairwise fun call later => ∀ src dst, call = .connect src dst → later ≠ .disconnect src dst

theorem nodup_callAll {mixer : AudioMixer} (h : mixer.connectedSlots.Nodup) (calls : List SlotCall) :
    (calls.foldl callSlots mixer).connectedSlots.Nodup := by
  induction calls generalizing mixer with
  | nil => exact h
  | cons call calls ih =>
      cases call with
      | connect src dst => exact ih (AudioMixer.nodup_connectSlots h src dst)
      | disconnect src dst => exact ih (AudioMixer.nodup_disconnectSlots h src dst)

theorem mem_callAll {mixer : AudioMixer} (h : mixer.connectedSlots.Nodup) {calls : List SlotCall}
    (hordered : Ordered calls) {src dst : Nat} :
    (src, dst) ∈ (calls.foldl callSlots mixer).connectedSlots ↔
      .connect src dst ∈ calls ∨ (src, dst) ∈ mixer.connectedSlots ∧ .disconnect src dst ∉ calls := by
  induction calls generalizing mixer with
  | nil => simp
  | cons call calls ih =>
      obtain ⟨hlater, hrest⟩ := List.pairwise_cons.mp hordered
      rw [List.foldl_cons]
      cases call with
      | connect a b =>
          rw [callSlots, ih (AudioMixer.nodup_connectSlots h a b) hrest, AudioMixer.mem_connectSlots]
          by_cases heq : (src, dst) = (a, b)
          · obtain ⟨rfl, rfl⟩ := Prod.mk.inj heq
            have hkept : .disconnect src dst ∉ calls := fun hmem => hlater _ hmem src dst rfl rfl
            simp [hkept]
          · have hne : SlotCall.connect src dst ≠ .connect a b := by
              simpa using heq
            simp [heq, hne]
      | disconnect a b =>
          rw [callSlots, ih (AudioMixer.nodup_disconnectSlots h a b) hrest, AudioMixer.mem_disconnectSlots h]
          by_cases heq : (src, dst) = (a, b)
          · obtain ⟨rfl, rfl⟩ := Prod.mk.inj heq
            simp
          · have hne : SlotCall.disconnect src dst ≠ .disconnect a b := by
              simpa using heq
            simp [heq, hne]

theorem slots_callAll (mixer : AudioMixer) (calls : List SlotCall) :
    (calls.foldl callSlots mixer).slots = mixer.slots := by
  induction calls generalizing mixer with
  | nil => rfl
  | cons call calls ih =>
      rw [List.foldl_cons, ih]
      cases call with
      | connect src dst =>
          rw [callSlots, AudioMixer.connectSlots]
          split_ifs <;> rfl
      | disconnect src dst =>
          rw [callSlots, AudioMixer.disconnectSlots]
          split_ifs <;> rfl

theorem mem_callIf {call : Nat → Nat → SlotCall} {src dst : Option Nat} {made : SlotCall} :
    made ∈ callIf call src dst ↔ ∃ s t, src = some s ∧ dst = some t ∧ made = call s t := by
  unfold callIf
  split
  · simp
  · constructor
    · nofun
    · rintro ⟨s, t, rfl, rfl, -⟩
      simp_all

/-- Disconnects and connects one item after the other. -/
theorem ordered_changes {κ : Type*} (items : List κ) {disconnects connects : κ → List SlotCall}
    (hdisconnects : ∀ item, ∃ src dst, disconnects item = callIf .disconnect src dst)
    (hconnects : ∀ item, ∃ src dst, connects item = callIf .connect src dst)
    (hapart : items.Pairwise fun item later => ∀ src dst, .connect src dst ∈ connects item →
      .disconnect src dst ∉ disconnects later) :
    Ordered (items.flatMap fun item => disconnects item ++ connects item) := by
  have hno_connect : ∀ item src dst, .connect src dst ∉ disconnects item := by
    intro item src dst hmem
    obtain ⟨a, b, heq⟩ := hdisconnects item
    obtain ⟨s, t, -, -, hcall⟩ := mem_callIf.mp (heq ▸ hmem)
    cases hcall
  have hno_disconnect : ∀ item src dst, .disconnect src dst ∉ connects item := by
    intro item src dst hmem
    obtain ⟨a, b, heq⟩ := hconnects item
    obtain ⟨s, t, -, -, hcall⟩ := mem_callIf.mp (heq ▸ hmem)
    cases hcall
  refine List.pairwise_flatMap.mpr ⟨fun item _ => ?_, hapart.imp fun {item later} hapart => ?_⟩
  · refine List.pairwise_append.mpr ⟨?_, ?_, ?_⟩
    · refine List.pairwise_of_forall_mem_list fun call hcall _ _ src dst heq => ?_
      exact absurd (heq ▸ hcall) (hno_connect item src dst)
    · refine List.pairwise_of_forall_mem_list fun _ _ call hcall src dst _ heq => ?_
      exact hno_disconnect item src dst (heq ▸ hcall)
    · intro call hcall _ _ src dst heq
      exact absurd (heq ▸ hcall) (hno_connect item src dst)
  · rintro call hcall undo hundo src dst rfl rfl
    rcases List.mem_append.mp hcall with hcall | hcall
    · exact hno_connect item src dst hcall
    · rcases List.mem_append.mp hundo with hundo | hundo
      · exact hapart src dst hcall hundo
      · exact hno_disconnect later src dst hundo

namespace AudioTree

/-! ### The forest of the containers -/

def parent (tree : AudioTree) (node : AudioNode) : Option AudioNode :=
  tree.created.find? fun bridge => node ∈ tree.ports bridge

/-- The slot of an upper stop is that of the producer, of a lower stop that of the consumer. -/
def slotOf (tree : AudioTree) : Stop AudioNode → Option Nat
  | .up node => tree.producerSlot node
  | .down node => tree.consumerSlot node

/-- Ports and containers make a forest, with ports as its leaves. -/
structure Forest (tree : AudioTree) : Prop where
  nodup : tree.created.Nodup
  container : ∀ bridge ∈ tree.created, ∀ index, bridge ≠ .port index
  membersNodup : ∀ bridge, (tree.ports bridge).Nodup
  member : ∀ bridge, ∀ port ∈ tree.ports bridge,
    bridge ∈ tree.created ∧ port.isAudioPort ∧ ((∃ index, port = .port index) ∨ port ∈ tree.created)
  single : ∀ bridge bridge' port, port ∈ tree.ports bridge → port ∈ tree.ports bridge' → bridge = bridge'
  grounded : Grounded tree.parent

namespace Forest

variable {tree : AudioTree}

theorem parent_eq (member : ∀ bridge, ∀ port ∈ tree.ports bridge, bridge ∈ tree.created)
    (single : ∀ bridge bridge' port, port ∈ tree.ports bridge → port ∈ tree.ports bridge' →
      bridge = bridge') {port bridge : AudioNode} :
    tree.parent port = some bridge ↔ port ∈ tree.ports bridge := by
  constructor
  · intro hparent
    simpa using List.find?_some hparent
  · intro hmem
    cases hfound : tree.parent port with
    | none =>
        have hnone := List.find?_eq_none.mp hfound bridge (member bridge port hmem)
        exact absurd hmem (by simpa using hnone)
    | some bridge' =>
        have hmem' : port ∈ tree.ports bridge' := by simpa using List.find?_some hfound
        rw [single bridge bridge' port hmem hmem']

theorem parent_iff (h : tree.Forest) {port bridge : AudioNode} :
    tree.parent port = some bridge ↔ port ∈ tree.ports bridge :=
  parent_eq (fun bridge port hport => (h.member bridge port hport).1) h.single

theorem ports_port (h : tree.Forest) (index : Nat) : tree.ports (.port index) = [] := by
  refine List.eq_nil_iff_forall_not_mem.mpr fun port hport => ?_
  exact h.container _ (h.member _ port hport).1 index rfl

theorem parent_rootBridge (h : tree.Forest) (index : Nat) : tree.parent (.rootBridge index) = none := by
  refine Option.eq_none_iff_forall_ne_some.mpr fun bridge hparent => ?_
  cases (h.member bridge _ (h.parent_iff.mp hparent)).2.1

/-- The lower stop of a port is no source. -/
theorem source (h : tree.Forest) {index : Nat} {τ : Stop AudioNode} :
    ¬ Edge tree.parent (.down (.port index)) τ := by
  intro hedge
  cases hedge with
  | descend hparent =>
      have hmem := h.parent_iff.mp hparent
      rw [h.ports_port] at hmem
      cases hmem

/-- The upper stop of a port is no target. -/
theorem target (h : tree.Forest) {index : Nat} {σ : Stop AudioNode} :
    ¬ Edge tree.parent σ (.up (.port index)) := by
  intro hedge
  cases hedge with
  | climb hparent =>
      have hmem := h.parent_iff.mp hparent
      rw [h.ports_port] at hmem
      cases hmem

theorem edge_up (h : tree.Forest) {port bridge : AudioNode} (hmem : port ∈ tree.ports bridge)
    {τ : Stop AudioNode} :
    Edge tree.parent (.up port) τ ↔
      τ = .up bridge ∨ ∃ other ∈ tree.ports bridge, other ≠ port ∧ τ = .down other := by
  have hport := h.parent_iff.mpr hmem
  constructor
  · intro hedge
    cases hedge with
    | climb hparent => exact .inl (by rw [Option.some.inj (hparent.symm.trans hport)])
    | cross hparent hother hne =>
        rw [Option.some.inj (hparent.symm.trans hport)] at hother
        exact .inr ⟨_, h.parent_iff.mp hother, hne.symm, rfl⟩
  · rintro (rfl | ⟨other, hother, hne, rfl⟩)
    · exact .climb hport
    · exact .cross hport (h.parent_iff.mpr hother) hne.symm

theorem edge_down (h : tree.Forest) {port bridge : AudioNode} (hmem : port ∈ tree.ports bridge)
    {σ : Stop AudioNode} :
    Edge tree.parent σ (.down port) ↔
      σ = .down bridge ∨ ∃ other ∈ tree.ports bridge, other ≠ port ∧ σ = .up other := by
  have hport := h.parent_iff.mpr hmem
  constructor
  · intro hedge
    cases hedge with
    | descend hparent => exact .inl (by rw [Option.some.inj (hparent.symm.trans hport)])
    | cross hother hparent hne =>
        rw [Option.some.inj (hparent.symm.trans hport)] at hother
        exact .inr ⟨_, h.parent_iff.mp hother, hne, rfl⟩
  · rintro (rfl | ⟨other, hother, hne, rfl⟩)
    · exact .descend hport
    · exact .cross (h.parent_iff.mpr hother) hport hne

end Forest

/-! ### Peers -/

/-- What a container connects a port with, the ports apart from it given. -/
def peers (tree : AudioTree) : AudioNode → List AudioNode → List (Option Nat × Option Nat)
  | .bridge index, ports => AudioBridge.peers tree index ports
  | .rootBridge _, ports => tree.slots ports
  | .port _, ports => tree.slots ports

/-- A root bridge has no mixer ports, and no two nodes have the same slot, but the producer of a port may
be its consumer. -/
structure Slotted (tree : AudioTree) : Prop where
  root : ∀ index, tree.consumerSlot (.rootBridge index) = none ∧ tree.producerSlot (.rootBridge index) = none
  owner : ∀ {σ τ : Stop AudioNode} {slot : Nat}, tree.slotOf σ = some slot → tree.slotOf τ = some slot →
    σ = τ ∨ ∃ index, σ.node = .port index ∧ τ.node = .port index
  inMixer : ∀ index slot, tree.consumerSlot (.bridge index) = some slot ∨
    tree.producerSlot (.bridge index) = some slot → slot ∈ tree.mixer.slots

/-- The peers that a port hears. -/
def Heard (tree : AudioTree) (bridge : AudioNode) (ports : List AudioNode) (slot : Nat) : Prop :=
  tree.slotOf (.down bridge) = some slot ∨ ∃ port ∈ ports, tree.slotOf (.up port) = some slot

/-- The peers that hear a port. -/
def Hearing (tree : AudioTree) (bridge : AudioNode) (ports : List AudioNode) (slot : Nat) : Prop :=
  tree.slotOf (.up bridge) = some slot ∨ ∃ port ∈ ports, tree.slotOf (.down port) = some slot

theorem heard_iff {tree : AudioTree} (h : tree.Slotted) {bridge : AudioNode}
    (hbridge : ∀ index, bridge ≠ .port index) {ports : List AudioNode} {slot : Nat} :
    (∃ consumer, (some slot, consumer) ∈ tree.peers bridge ports) ↔ tree.Heard bridge ports slot := by
  cases bridge with
  | port index => exact absurd rfl (hbridge index)
  | bridge index =>
      simp only [peers, AudioBridge.peers, List.mem_cons, exists_or, Prod.mk.injEq, exists_and_left,
        exists_eq, and_true]
      simp [slots, Heard, slotOf, eq_comm]
  | rootBridge index => simp [peers, slots, Heard, slotOf, (h.root index).1, eq_comm]

theorem hearing_iff {tree : AudioTree} (h : tree.Slotted) {bridge : AudioNode}
    (hbridge : ∀ index, bridge ≠ .port index) {ports : List AudioNode} {slot : Nat} :
    (∃ producer, (producer, some slot) ∈ tree.peers bridge ports) ↔ tree.Hearing bridge ports slot := by
  cases bridge with
  | port index => exact absurd rfl (hbridge index)
  | bridge index =>
      simp only [peers, AudioBridge.peers, List.mem_cons, exists_or, Prod.mk.injEq, exists_and_right,
        exists_eq, true_and]
      simp [slots, Hearing, slotOf, eq_comm]
  | rootBridge index => simp [peers, slots, Hearing, slotOf, (h.root index).2, eq_comm]

theorem mem_portCalls {tree : AudioTree} {call : Nat → Nat → SlotCall}
    (hcall : ∀ s t s' t', call s t = call s' t' → s = s' ∧ t = t')
    {peers : List (Option Nat × Option Nat)} {port : AudioNode} {src dst : Nat} :
    call src dst ∈ tree.portCalls call peers port ↔
      (∃ consumer, (some src, consumer) ∈ peers) ∧ tree.consumerSlot port = some dst ∨
      tree.producerSlot port = some src ∧ ∃ producer, (producer, some dst) ∈ peers := by
  simp only [portCalls, List.mem_flatMap, List.mem_append, mem_callIf, Prod.exists]
  constructor
  · rintro ⟨producer, consumer, hpeer, ⟨s, t, rfl, ht, heq⟩ | ⟨s, t, hs, rfl, heq⟩⟩
    · obtain ⟨rfl, rfl⟩ := hcall _ _ _ _ heq
      exact .inl ⟨⟨consumer, hpeer⟩, ht⟩
    · obtain ⟨rfl, rfl⟩ := hcall _ _ _ _ heq
      exact .inr ⟨hs, producer, hpeer⟩
  · rintro (⟨⟨consumer, hpeer⟩, hdst⟩ | ⟨hsrc, producer, hpeer⟩)
    · exact ⟨_, _, hpeer, .inl ⟨src, dst, rfl, hdst, rfl⟩⟩
    · exact ⟨_, _, hpeer, .inr ⟨src, dst, hsrc, rfl, rfl⟩⟩

theorem connect_mem_notificationCalls {peers : List (Option Nat × Option Nat)} {data : SlotsChange}
    {src dst : Nat} :
    .connect src dst ∈ notificationCalls peers data ↔
      data.consumerSlotChanged ∧ (∃ consumer, (some src, consumer) ∈ peers) ∧
        data.newConsumerSlot = some dst ∨
      data.producerSlotChanged ∧ (∃ producer, (producer, some dst) ∈ peers) ∧
        data.newProducerSlot = some src := by
  cases hconsumer : data.consumerSlotChanged <;> cases hproducer : data.producerSlotChanged <;>
    simp [notificationCalls, mem_callIf, hconsumer, hproducer]

theorem disconnect_mem_notificationCalls {peers : List (Option Nat × Option Nat)} {data : SlotsChange}
    {src dst : Nat} :
    .disconnect src dst ∈ notificationCalls peers data ↔
      data.consumerSlotChanged ∧ (∃ consumer, (some src, consumer) ∈ peers) ∧
        data.oldConsumerSlot = some dst ∨
      data.producerSlotChanged ∧ (∃ producer, (producer, some dst) ∈ peers) ∧
        data.oldProducerSlot = some src := by
  cases hconsumer : data.consumerSlotChanged <;> cases hproducer : data.producerSlotChanged <;>
    simp [notificationCalls, mem_callIf, hconsumer, hproducer]

/-- The peers have different slots, and none the slot that the sender leaves. -/
theorem ordered_notificationCalls {peers : List (Option Nat × Option Nat)} {data : SlotsChange}
    (hproducers : peers.Pairwise fun peer other => ∀ slot, peer.1 = some slot → other.1 ≠ some slot)
    (hconsumers : peers.Pairwise fun peer other => ∀ slot, peer.2 = some slot → other.2 ≠ some slot)
    (hold : data.producerSlotChanged → ∀ peer ∈ peers, ∀ slot, peer.1 = some slot →
      data.oldProducerSlot ≠ some slot) :
    Ordered (notificationCalls peers data) := by
  refine List.pairwise_append.mpr ⟨?_, ?_, ?_⟩
  · split_ifs
    · refine ordered_changes peers (fun peer => ⟨_, _, rfl⟩) (fun peer => ⟨_, _, rfl⟩) ?_
      refine hproducers.imp fun {peer other} hapart src dst hconnect hdisconnect => ?_
      obtain ⟨s, t, hs, -, heq⟩ := mem_callIf.mp hconnect
      obtain ⟨s', t', hs', -, heq'⟩ := mem_callIf.mp hdisconnect
      cases heq
      cases heq'
      exact hapart _ hs hs'
    · exact .nil
  · split_ifs
    · refine ordered_changes peers (fun peer => ⟨_, _, rfl⟩) (fun peer => ⟨_, _, rfl⟩) ?_
      refine hconsumers.imp fun {peer other} hapart src dst hconnect hdisconnect => ?_
      obtain ⟨s, t, -, ht, heq⟩ := mem_callIf.mp hconnect
      obtain ⟨s', t', -, ht', heq'⟩ := mem_callIf.mp hdisconnect
      cases heq
      cases heq'
      exact hapart _ ht ht'
    · exact .nil
  · rintro call hcall later hlater src dst rfl rfl
    have hconnect : ∃ peer ∈ peers, peer.1 = some src := by
      split_ifs at hcall
      · obtain ⟨peer, hpeer, hcall⟩ := List.mem_flatMap.mp hcall
        rcases List.mem_append.mp hcall with hcall | hcall
        · obtain ⟨s, t, -, -, heq⟩ := mem_callIf.mp hcall
          cases heq
        · obtain ⟨s, t, hs, -, heq⟩ := mem_callIf.mp hcall
          cases heq
          exact ⟨peer, hpeer, hs⟩
      · cases hcall
    obtain ⟨peer, hpeer, hsrc⟩ := hconnect
    split_ifs at hlater with hchanged
    · obtain ⟨other, -, hlater⟩ := List.mem_flatMap.mp hlater
      rcases List.mem_append.mp hlater with hlater | hlater
      · obtain ⟨s, t, hs, -, heq⟩ := mem_callIf.mp hlater
        cases heq
        exact hold hchanged peer hpeer _ hsrc hs
      · obtain ⟨s, t, -, -, heq⟩ := mem_callIf.mp hlater
        cases heq
    · cases hlater

/-! ### The invariant -/

def Joined (tree : AudioTree) (src dst : Nat) : Prop :=
  ∃ σ τ, Edge tree.parent σ τ ∧ tree.slotOf σ = some src ∧ tree.slotOf τ = some dst

/-- **The connections are the edges of the forest.** -/
structure Valid (tree : AudioTree) : Prop extends tree.Forest, tree.Slotted where
  connectedNodup : tree.mixer.connectedSlots.Nodup
  linked : ∀ src dst, (src, dst) ∈ tree.mixer.connectedSlots ↔ tree.Joined src dst

theorem Slotted.owner_node {tree : AudioTree} (h : tree.Slotted) {σ τ : Stop AudioNode} {slot : Nat}
    (hσ : tree.slotOf σ = some slot) (hτ : tree.slotOf τ = some slot) : σ.node = τ.node := by
  rcases h.owner hσ hτ with rfl | ⟨index, hleft, hright⟩
  · rfl
  · rw [hleft, hright]

namespace Valid

variable {tree : AudioTree}

/-- A slot is that of one source. -/
theorem source_unique (h : tree.Valid) {σ σ' τ τ' : Stop AudioNode} {slot : Nat}
    (hedge : Edge tree.parent σ τ) (hedge' : Edge tree.parent σ' τ')
    (hσ : tree.slotOf σ = some slot) (hσ' : tree.slotOf σ' = some slot) : σ = σ' := by
  rcases h.owner hσ hσ' with heq | ⟨index, hnode, hnode'⟩
  · exact heq
  · cases σ with
    | down node =>
        obtain rfl : node = .port index := hnode
        exact absurd hedge h.source
    | up node =>
        cases σ' with
        | down node' =>
            obtain rfl : node' = .port index := hnode'
            exact absurd hedge' h.source
        | up node' =>
            obtain rfl : node = .port index := hnode
            obtain rfl : node' = .port index := hnode'
            rfl

/-- A slot is that of one target. -/
theorem target_unique (h : tree.Valid) {σ σ' τ τ' : Stop AudioNode} {slot : Nat}
    (hedge : Edge tree.parent σ τ) (hedge' : Edge tree.parent σ' τ')
    (hτ : tree.slotOf τ = some slot) (hτ' : tree.slotOf τ' = some slot) : τ = τ' := by
  rcases h.owner hτ hτ' with heq | ⟨index, hnode, hnode'⟩
  · exact heq
  · cases τ with
    | up node =>
        obtain rfl : node = .port index := hnode
        exact absurd hedge h.target
    | down node =>
        cases τ' with
        | up node' =>
            obtain rfl : node' = .port index := hnode'
            exact absurd hedge' h.target
        | down node' =>
            obtain rfl : node = .port index := hnode
            obtain rfl : node' = .port index := hnode'
            rfl

end Valid

/-- The edges of a port with its peers. -/
theorem joined_peers {tree : AudioTree} (h : tree.Forest) (slot : Stop AudioNode → Option Nat)
    {port bridge : AudioNode} (hmem : port ∈ tree.ports bridge) (producer consumer : Prop)
    (src dst : Nat) :
    (∃ σ τ, Edge tree.parent σ τ ∧ (producer ∧ σ = .up port ∨ consumer ∧ τ = .down port) ∧
      slot σ = some src ∧ slot τ = some dst) ↔
    consumer ∧ (slot (.down bridge) = some src ∨
      ∃ other ∈ (tree.ports bridge).filter (· ≠ port), slot (.up other) = some src) ∧
        slot (.down port) = some dst ∨
    producer ∧ slot (.up port) = some src ∧ (slot (.up bridge) = some dst ∨
      ∃ other ∈ (tree.ports bridge).filter (· ≠ port), slot (.down other) = some dst) := by
  constructor
  · rintro ⟨σ, τ, hedge, ⟨hproducer, rfl⟩ | ⟨hconsumer, rfl⟩, hsrc, hdst⟩
    · rcases (h.edge_up hmem).mp hedge with rfl | ⟨other, hother, hne, rfl⟩
      · exact .inr ⟨hproducer, hsrc, .inl hdst⟩
      · exact .inr ⟨hproducer, hsrc, .inr ⟨other, List.mem_filter.mpr ⟨hother, by simpa using hne⟩, hdst⟩⟩
    · rcases (h.edge_down hmem).mp hedge with rfl | ⟨other, hother, hne, rfl⟩
      · exact .inl ⟨hconsumer, .inl hsrc, hdst⟩
      · exact .inl ⟨hconsumer, .inr ⟨other, List.mem_filter.mpr ⟨hother, by simpa using hne⟩, hsrc⟩, hdst⟩
  · rintro (⟨hconsumer, hsrc | ⟨other, hother, hsrc⟩, hdst⟩ | ⟨hproducer, hsrc, hdst | ⟨other, hother, hdst⟩⟩)
    · exact ⟨_, _, (h.edge_down hmem).mpr (.inl rfl), .inr ⟨hconsumer, rfl⟩, hsrc, hdst⟩
    · obtain ⟨hother, hne⟩ := List.mem_filter.mp hother
      exact ⟨_, _, (h.edge_down hmem).mpr (.inr ⟨other, hother, by simpa using hne, rfl⟩),
        .inr ⟨hconsumer, rfl⟩, hsrc, hdst⟩
    · exact ⟨_, _, (h.edge_up hmem).mpr (.inl rfl), .inl ⟨hproducer, rfl⟩, hsrc, hdst⟩
    · obtain ⟨hother, hne⟩ := List.mem_filter.mp hother
      exact ⟨_, _, (h.edge_up hmem).mpr (.inr ⟨other, hother, by simpa using hne, rfl⟩),
        .inl ⟨hproducer, rfl⟩, hsrc, hdst⟩

/-! ### Slots -/

/-- No other node has the slot. -/
def Free (tree : AudioTree) (node : AudioNode) (slot : Nat) : Prop :=
  ∀ other, other ≠ node → tree.consumerSlot other ≠ some slot ∧ tree.producerSlot other ≠ some slot

@[simp] theorem parent_setSlots (tree : AudioTree) (node : AudioNode) (consumer producer : Option Nat) :
    (tree.setSlots node consumer producer).parent = tree.parent := rfl

@[simp] theorem slotOf_setSlots_up (tree : AudioTree) (node : AudioNode) (consumer producer : Option Nat) :
    (tree.setSlots node consumer producer).slotOf (.up node) = producer :=
  Function.update_self ..

@[simp] theorem slotOf_setSlots_down (tree : AudioTree) (node : AudioNode)
    (consumer producer : Option Nat) :
    (tree.setSlots node consumer producer).slotOf (.down node) = consumer :=
  Function.update_self ..

theorem slotOf_setSlots (tree : AudioTree) {node : AudioNode} (consumer producer : Option Nat)
    {σ : Stop AudioNode} (hne : σ.node ≠ node) :
    (tree.setSlots node consumer producer).slotOf σ = tree.slotOf σ := by
  cases σ with
  | up other => exact Function.update_of_ne hne ..
  | down other => exact Function.update_of_ne hne ..

theorem Free.slotOf {tree : AudioTree} {node : AudioNode} {slot : Nat} (h : tree.Free node slot)
    {σ : Stop AudioNode} (hσ : tree.slotOf σ = some slot) : σ.node = node := by
  by_contra hne
  cases σ with
  | up other => exact (h other hne).2 hσ
  | down other => exact (h other hne).1 hσ

theorem owner_setSlots {tree : AudioTree} (h : tree.Slotted) {node : AudioNode}
    {consumer producer : Option Nat}
    (hfree : ∀ slot, consumer = some slot ∨ producer = some slot → tree.Free node slot)
    (hkind : (∃ index, node = .port index) ∨ ∀ slot, consumer = some slot → producer ≠ some slot)
    {σ τ : Stop AudioNode} {slot : Nat}
    (hσ : (tree.setSlots node consumer producer).slotOf σ = some slot)
    (hτ : (tree.setSlots node consumer producer).slotOf τ = some slot) :
    σ = τ ∨ ∃ index, σ.node = .port index ∧ τ.node = .port index := by
  have htaken : ∀ {σ : Stop AudioNode}, σ.node = node →
      (tree.setSlots node consumer producer).slotOf σ = some slot → tree.Free node slot := by
    rintro (other | other) rfl hslot
    · exact hfree slot (.inr ((slotOf_setSlots_up ..).symm.trans hslot))
    · exact hfree slot (.inl ((slotOf_setSlots_down ..).symm.trans hslot))
  by_cases hσnode : σ.node = node
  · have hτnode : τ.node = node := by
      by_contra hne
      exact hne ((htaken hσnode hσ).slotOf ((slotOf_setSlots tree consumer producer hne).symm.trans hτ))
    rcases hkind with ⟨index, rfl⟩ | hapart
    · exact .inr ⟨index, hσnode, hτnode⟩
    · rcases σ with other | other <;> rcases τ with other' | other' <;>
        obtain rfl : other = node := hσnode <;> obtain rfl : other' = other := hτnode
      · exact .inl rfl
      · exact absurd ((slotOf_setSlots_up ..).symm.trans hσ)
          (hapart slot ((slotOf_setSlots_down ..).symm.trans hτ))
      · exact absurd ((slotOf_setSlots_up ..).symm.trans hτ)
          (hapart slot ((slotOf_setSlots_down ..).symm.trans hσ))
      · exact .inl rfl
  · rw [slotOf_setSlots tree consumer producer hσnode] at hσ
    have hτnode : τ.node ≠ node := fun heq => hσnode ((htaken heq hτ).slotOf hσ)
    rw [slotOf_setSlots tree consumer producer hτnode] at hτ
    exact h.owner hσ hτ

end AudioTree

end SipSimple.Audio
