import SipSimple.Library.Runs
import SipSimple.Audio.MeshSteps

/-!
# The mesh of the bridges

In every state of a run the connections are the edges of the forest of the containers, so between two ports
of a tree there is the one path that the tree has. A bridge that was stopped connects nothing any more, so
the bridges on the path must not have been stopped.
-/

namespace SipSimple.Audio

open SipSimple.Core (AudioMixer AudioSystem)
open TreePaths (Stop Edge Path Grounded ancestor)
open Runs (run Meets)

namespace AudioTree

/-! ### Runs -/

/-- Before any bridge. -/
def start (system : AudioSystem) (input output : Option String) (ecTailLength : Int) : AudioTree :=
  { mixer := AudioMixer.new system input output ecTailLength }

/-- The assumptions on a step: nodes have distinct slots, a node is in one container, and no bridge is added
under itself. -/
def Allowed (tree : AudioTree) : Input → Prop
  | .newBridge _ index multiplexer demultiplexer =>
      .bridge index ∉ tree.created ∧ multiplexer ≠ demultiplexer ∧
        tree.Free (.bridge index) multiplexer ∧ tree.Free (.bridge index) demultiplexer
  | .newRootBridge index => .rootBridge index ∉ tree.created
  | .add bridge port =>
      bridge ∈ tree.created ∧ ((∃ index, port = .port index) ∨ port ∈ tree.created) ∧
        (tree.parent port = none ∨ tree.parent port = some bridge) ∧
        ∀ n, ancestor tree.parent n bridge ≠ some port
  | .remove _ _ => True
  | .stop _ => True
  | .changeSlots index _ removed _ data => tree.ChangeAllowed (.port index) removed data

theorem valid_start (system : AudioSystem) (input output : Option String) (ecTailLength : Int) :
    (start system input output ecTailLength).Valid := by
  have hnone : ∀ node, (start system input output ecTailLength).parent node = none := fun _ => rfl
  have hconnected : (start system input output ecTailLength).mixer.connectedSlots = [] := by
    show (AudioMixer.new system input output ecTailLength).connectedSlots = []
    rw [AudioMixer.new]
    split_ifs
    · exact (AudioMixer.connections_startWith ..).1
    · exact (AudioMixer.connections_startWith ..).1
  have hnew : ∀ node, node ∉ (start system input output ecTailLength).created := fun _ => List.not_mem_nil
  have hempty : ∀ bridge port, port ∉ (start system input output ecTailLength).ports bridge :=
    fun _ _ => List.not_mem_nil
  refine ⟨⟨.nil, fun bridge hbridge => absurd hbridge (hnew bridge), fun _ => .nil,
    fun bridge port hport => absurd hport (hempty bridge port),
    fun bridge _ port hport => absurd hport (hempty bridge port), fun node => ⟨1, ?_⟩⟩,
    ⟨fun _ => ⟨rfl, rfl⟩, ?_, ?_⟩, ?_, ?_⟩
  · rw [ancestor, hnone, Option.bind_none]
  · rintro (node | node) τ slot hσ -
    · cases hσ
    · cases hσ
  · rintro index slot (hslot | hslot)
    · cases hslot
    · cases hslot
  · rw [hconnected]
    exact .nil
  · intro src dst
    rw [hconnected]
    constructor
    · exact fun hmem => absurd hmem List.not_mem_nil
    · rintro ⟨(node | node), τ, -, hsrc, -⟩
      · cases hsrc
      · cases hsrc

theorem Valid.step {tree : AudioTree} (h : tree.Valid) {input : Input} (hallowed : tree.Allowed input) :
    (tree.step input).Valid := by
  cases input with
  | newBridge system index multiplexer demultiplexer =>
      obtain ⟨hnew, hne, hmultiplexer, hdemultiplexer⟩ := hallowed
      exact h.newBridge system hnew hne hmultiplexer hdemultiplexer
  | newRootBridge index => exact h.newRootBridge hallowed
  | add bridge port =>
      obtain ⟨hbridge, hport, hfree, hbelow⟩ := hallowed
      exact h.add hbridge hport hfree hbelow
  | remove bridge port => exact h.remove bridge port
  | stop index => exact h.stop index
  | changeSlots index system removed added data => exact h.changeSlots index system added hallowed

theorem valid_run {system : AudioSystem} {input output : Option String} {ecTailLength : Int}
    {inputs : List Input}
    (hallowed : Meets step Allowed (start system input output ecTailLength) inputs) :
    (run step (start system input output ecTailLength) inputs).Valid :=
  Runs.invariant_run Valid (fun _ _ h hallowed => h.step hallowed) (valid_start ..) hallowed

/-! ### Paths of slots -/

/-- The slot of a mixer port, which passes on what it hears. -/
def MixerSlot (tree : AudioTree) (slot : Nat) : Prop :=
  ∃ index, tree.consumerSlot (.bridge index) = some slot ∨ tree.producerSlot (.bridge index) = some slot

/-- The slots between two slots. -/
def SlotPath (tree : AudioTree) : Nat → Nat → List Nat → Prop
  | src, dst, [] => (src, dst) ∈ tree.mixer.connectedSlots
  | src, dst, slot :: slots =>
      (src, slot) ∈ tree.mixer.connectedSlots ∧ tree.MixerSlot slot ∧ tree.SlotPath slot dst slots

def Under (tree : AudioTree) (node root : AudioNode) : Prop :=
  ∃ n, ancestor tree.parent n node = some root

/-- No bridge between the node and its root was stopped. -/
def Running (tree : AudioTree) (node : AudioNode) : Prop :=
  ∀ n bridge, ancestor tree.parent (n + 1) node = some bridge → tree.parent bridge ≠ none →
    tree.consumerSlot bridge ≠ none ∧ tree.producerSlot bridge ≠ none

/-- A stop that a connection may start from: any but the lower one of a port. -/
def Source (σ : Stop AudioNode) : Prop := ∀ index, σ ≠ .down (.port index)

namespace Valid

variable {tree : AudioTree}

theorem source_eq (h : tree.Valid) {σ σ' τ : Stop AudioNode} {slot : Nat} (hsource : Source σ)
    (hedge : Edge tree.parent σ' τ) (hσ : tree.slotOf σ = some slot) (hσ' : tree.slotOf σ' = some slot) :
    σ = σ' := by
  rcases h.owner hσ hσ' with heq | ⟨index, hnode, hnode'⟩
  · exact heq
  · rcases σ with node | node <;> obtain rfl : node = .port index := hnode
    · rcases σ' with node' | node' <;> obtain rfl : node' = .port index := hnode'
      · rfl
      · exact absurd hedge h.source
    · exact absurd rfl (hsource index)

theorem target_eq (h : tree.Valid) {σ τ : Stop AudioNode} {node : AudioNode} {slot : Nat}
    (hedge : Edge tree.parent σ τ) (hnode : tree.slotOf (.down node) = some slot)
    (hτ : tree.slotOf τ = some slot) : .down node = τ := by
  rcases h.owner hnode hτ with heq | ⟨index, hleft, hright⟩
  · exact heq
  · obtain rfl : node = .port index := hleft
    rcases τ with other | other <;> obtain rfl : other = .port index := hright
    · exact absurd hedge h.target
    · rfl

/-- A path of slots is one of stops. -/
theorem path_of_slotPath (h : tree.Valid) {slots : List Nat} {src dst : Nat} {σ : Stop AudioNode}
    (hsource : Source σ) (hσ : tree.slotOf σ = some src) (hpath : tree.SlotPath src dst slots) :
    ∃ τ stops, Path tree.parent σ τ stops ∧ tree.slotOf τ = some dst ∧
      stops.map tree.slotOf = slots.map some ∧ ∃ σ', Edge tree.parent σ' τ := by
  induction slots generalizing src σ with
  | nil =>
      obtain ⟨σ', τ, hedge, hsrc, hdst⟩ := (h.linked src dst).mp hpath
      obtain rfl := h.source_eq hsource hedge hσ hsrc
      exact ⟨τ, [], hedge, hdst, rfl, σ, hedge⟩
  | cons slot slots ih =>
      obtain ⟨hconnected, ⟨index, hmixer⟩, hrest⟩ := hpath
      obtain ⟨σ', stop, hedge, hsrc, hslot⟩ := (h.linked src slot).mp hconnected
      obtain rfl := h.source_eq hsource hedge hσ hsrc
      have hnode : stop.node = .bridge index := by
        rcases hmixer with hmixer | hmixer
        · have hmixer : tree.slotOf (.down (.bridge index)) = some slot := hmixer
          exact h.owner_node hslot hmixer
        · have hmixer : tree.slotOf (.up (.bridge index)) = some slot := hmixer
          exact h.owner_node hslot hmixer
      have hnext : Source stop := by
        rintro other rfl
        cases hnode
      obtain ⟨τ, stops, hpath, hdst, hslots, hlast⟩ := ih hnext hslot hrest
      exact ⟨τ, stop :: stops, ⟨hedge, hpath⟩, hdst, by simp [hslot, hslots], hlast⟩

/-- A path of stops that are mixer ports is one of slots. -/
theorem slotPath_of_path (h : tree.Valid) {stops : List (Stop AudioNode)} {src dst : Nat}
    {σ τ : Stop AudioNode} (hpath : Path tree.parent σ τ stops) (hσ : tree.slotOf σ = some src)
    (hτ : tree.slotOf τ = some dst)
    (hstops : ∀ stop ∈ stops, ∃ slot, tree.slotOf stop = some slot ∧ tree.MixerSlot slot) :
    ∃ slots, tree.SlotPath src dst slots := by
  induction stops generalizing σ src with
  | nil => exact ⟨[], (h.linked src dst).mpr ⟨σ, τ, hpath, hσ, hτ⟩⟩
  | cons stop stops ih =>
      obtain ⟨hedge, hrest⟩ := hpath
      obtain ⟨⟨slot, hslot, hmixer⟩, hstops⟩ := List.forall_mem_cons.mp hstops
      obtain ⟨slots, hslots⟩ := ih hrest hslot hstops
      exact ⟨slot :: slots, (h.linked src slot).mpr ⟨σ, stop, hedge, hσ, hslot⟩, hmixer, hslots⟩

/-- No port is above another node. -/
theorem not_above_port (h : tree.Valid) {node : AudioNode} {index : Nat} (hne : node ≠ .port index)
    (n : Nat) : ancestor tree.parent n node ≠ some (.port index) := by
  intro habove
  cases n with
  | zero => exact hne (Option.some.inj habove)
  | succ n =>
      cases hchild : ancestor tree.parent n node with
      | none => cases (TreePaths.ancestor_none hchild (Nat.le_succ n)).symm.trans habove
      | some child =>
          have hmem := h.parent_iff.mp ((TreePaths.ancestor_succ hchild).symm.trans habove)
          rw [h.ports_port] at hmem
          cases hmem

/-- A node above another one that is in a container is a bridge. -/
theorem bridge_of_between (h : tree.Valid) {n : Nat} {node above : AudioNode}
    (habove : ancestor tree.parent (n + 1) node = some above) (hparent : tree.parent above ≠ none) :
    ∃ index, above = .bridge index := by
  cases above with
  | port index =>
      have hself : node = .port index := by
        by_contra hne
        exact h.not_above_port hne _ habove
      exact absurd (hself ▸ habove) (h.grounded.acyclic _ n)
  | bridge index => exact ⟨index, rfl⟩
  | rootBridge index => exact absurd (h.parent_rootBridge index) hparent

/-- A path between ports ends at the lower stop. -/
theorem path_ports (h : tree.Valid) {a b src dst : Nat} {slots : List Nat}
    (hsrc : tree.producerSlot (.port a) = some src) (hdst : tree.consumerSlot (.port b) = some dst)
    (hpath : tree.SlotPath src dst slots) :
    ∃ stops, Path tree.parent (.up (.port a)) (.down (.port b)) stops ∧
      stops.map tree.slotOf = slots.map some := by
  have hsource : Source (.up (.port a)) := nofun
  obtain ⟨τ, stops, hstops, hτ, hslots, σ, hlast⟩ := h.path_of_slotPath hsource hsrc hpath
  have hdst : tree.slotOf (.down (.port b)) = some dst := hdst
  obtain rfl := h.target_eq hlast hdst hτ
  exact ⟨stops, hstops, hslots⟩

end Valid

/-! ### The mesh -/

/-- There is exactly one path from every port to every other port under the same root. -/
def FullMesh (tree : AudioTree) (between : AudioNode → Prop) : Prop :=
  ∀ a b root src dst, a ≠ b → tree.Under (.port a) root → tree.Under (.port b) root →
    between (.port a) → between (.port b) → tree.producerSlot (.port a) = some src →
    tree.consumerSlot (.port b) = some dst → ∃! slots, tree.SlotPath src dst slots

theorem Valid.fullMesh {tree : AudioTree} (h : tree.Valid) : tree.FullMesh tree.Running := by
  rintro a b root src dst hne ⟨i, ha⟩ ⟨j, hb⟩ hruna hrunb hsrc hdst
  have hab : AudioNode.port b ≠ .port a := by simpa using hne.symm
  have hba : AudioNode.port a ≠ .port b := by simpa using hne
  obtain ⟨stops, hpath, hbetween⟩ :=
    TreePaths.path_exists ha hb (h.not_above_port hab) (h.not_above_port hba)
  have hmixer : ∀ stop ∈ stops, ∃ slot, tree.slotOf stop = some slot ∧ tree.MixerSlot slot := by
    intro stop hstop
    have hstop := hbetween stop hstop
    rcases stop with above | above
    · obtain ⟨n, habove, hparent⟩ := hstop
      obtain ⟨index, rfl⟩ := h.bridge_of_between habove hparent
      obtain ⟨slot, hslot⟩ := Option.ne_none_iff_exists'.mp (hruna n _ habove hparent).2
      exact ⟨slot, hslot, index, .inr hslot⟩
    · obtain ⟨n, habove, hparent⟩ := hstop
      obtain ⟨index, rfl⟩ := h.bridge_of_between habove hparent
      obtain ⟨slot, hslot⟩ := Option.ne_none_iff_exists'.mp (hrunb n _ habove hparent).1
      exact ⟨slot, hslot, index, .inl hslot⟩
  obtain ⟨slots, hslots⟩ := h.slotPath_of_path hpath hsrc hdst hmixer
  refine ⟨slots, hslots, fun slots' hslots' => ?_⟩
  obtain ⟨stops₁, hpath₁, hmap₁⟩ := h.path_ports hsrc hdst hslots
  obtain ⟨stops₂, hpath₂, hmap₂⟩ := h.path_ports hsrc hdst hslots'
  obtain rfl := TreePaths.path_unique h.grounded hpath₁ hpath₂
  exact List.map_injective_iff.mpr (fun _ _ => Option.some.inj) (hmap₂.symm.trans hmap₁)

/-- **The mesh.** No node is connected to itself, not even over mixer ports if it is a port; a node in no
container is heard by none and hears none. -/
structure Meshed (tree : AudioTree) : Prop where
  path : tree.FullMesh tree.Running
  noSelf : ∀ node src dst, tree.producerSlot node = some src → tree.consumerSlot node = some dst →
    (src, dst) ∉ tree.mixer.connectedSlots
  noLoop : ∀ a src dst slots, tree.producerSlot (.port a) = some src →
    tree.consumerSlot (.port a) = some dst → ¬ tree.SlotPath src dst slots
  removedProducer : ∀ node src dst, (∀ bridge, node ∉ tree.ports bridge) →
    tree.producerSlot node = some src → (src, dst) ∉ tree.mixer.connectedSlots
  removedConsumer : ∀ node src dst, (∀ bridge, node ∉ tree.ports bridge) →
    tree.consumerSlot node = some dst → (src, dst) ∉ tree.mixer.connectedSlots

theorem Valid.meshed {tree : AudioTree} (h : tree.Valid) : tree.Meshed := by
  have hnone : ∀ {node}, (∀ bridge, node ∉ tree.ports bridge) → tree.parent node = none := by
    intro node hout
    exact Option.eq_none_iff_forall_ne_some.mpr fun bridge hparent => hout bridge (h.parent_iff.mp hparent)
  refine ⟨h.fullMesh, ?_, ?_, ?_, ?_⟩
  · intro node src dst hsrc hdst hconnected
    obtain ⟨σ, τ, hedge, hσ, hτ⟩ := (h.linked src dst).mp hconnected
    have hsrc : tree.slotOf (.up node) = some src := hsrc
    have hdst : tree.slotOf (.down node) = some dst := hdst
    exact h.grounded.edge_ne hedge ((h.owner_node hσ hsrc).trans (h.owner_node hτ hdst).symm)
  · intro a src dst slots hsrc hdst hpath
    obtain ⟨stops, hstops, -⟩ := h.path_ports hsrc hdst hpath
    exact h.grounded.no_loop hstops
  · intro node src dst hout hsrc hconnected
    obtain ⟨σ, τ, hedge, hσ, hτ⟩ := (h.linked src dst).mp hconnected
    have hsource : Source (.up node) := nofun
    have hsrc : tree.slotOf (.up node) = some src := hsrc
    obtain rfl := h.source_eq hsource hedge hsrc hσ
    cases hedge with
    | climb hparent => cases (hnone hout).symm.trans hparent
    | cross hparent => cases (hnone hout).symm.trans hparent
  · intro node src dst hout hdst hconnected
    obtain ⟨σ, τ, hedge, hσ, hτ⟩ := (h.linked src dst).mp hconnected
    have hdst : tree.slotOf (.down node) = some dst := hdst
    obtain rfl := h.target_eq hedge hdst hτ
    cases hedge with
    | cross _ hparent => cases (hnone hout).symm.trans hparent
    | descend hparent => cases (hnone hout).symm.trans hparent

/-- Connecting and disconnecting are idempotent, and removing a port drops exactly its connections. -/
structure Exact (mixer : AudioMixer) : Prop where
  connect : ∀ src dst, (mixer.connectSlots src dst).connectSlots src dst = mixer.connectSlots src dst
  disconnect : ∀ src dst,
    (mixer.disconnectSlots src dst).disconnectSlots src dst = mixer.disconnectSlots src dst
  remove : ∀ slot ∈ mixer.slots, ∀ src dst, (src, dst) ∈ (mixer.removePort slot).connectedSlots ↔
    (src, dst) ∈ mixer.connectedSlots ∧ src ≠ slot ∧ dst ≠ slot

/-- **In every state of a run there is a full mesh without self connections**, as far as the bridges on the
way have not been stopped. -/
theorem meshed_run {system : AudioSystem} {input output : Option String} {ecTailLength : Int}
    {inputs : List Input}
    (hallowed : Meets step Allowed (start system input output ecTailLength) inputs) :
    (run step (start system input output ecTailLength) inputs).Meshed ∧
      Exact (run step (start system input output ecTailLength) inputs).mixer := by
  have h := valid_run hallowed
  refine ⟨h.meshed, ?_, ?_, ?_⟩
  · exact AudioMixer.connectSlots_idem _
  · exact AudioMixer.disconnectSlots_idem h.connectedNodup
  · intro slot hslot src dst
    exact mem_removePort hslot

/-! ### Runs on two ports -/

theorem Free.setSlots {tree : AudioTree} {node other : AudioNode} {slot : Nat}
    {consumer producer : Option Nat} (h : tree.Free node slot) (hconsumer : consumer ≠ some slot)
    (hproducer : producer ≠ some slot) : (tree.setSlots other consumer producer).Free node slot := by
  intro third hne
  by_cases heq : third = other
  · subst heq
    exact ⟨(slotOf_setSlots_down ..).trans_ne hconsumer, (slotOf_setSlots_up ..).trans_ne hproducer⟩
  · have hup : (tree.setSlots other consumer producer).slotOf (.up third) = tree.slotOf (.up third) :=
      slotOf_setSlots tree consumer producer heq
    have hdown : (tree.setSlots other consumer producer).slotOf (.down third) =
        tree.slotOf (.down third) := slotOf_setSlots tree consumer producer heq
    exact ⟨hdown.trans_ne (h third hne).1, hup.trans_ne (h third hne).2⟩

theorem not_below {tree : AudioTree} {node other : AudioNode} (hparent : tree.parent node = none)
    (hne : node ≠ other) (n : Nat) : ancestor tree.parent n node ≠ some other := by
  cases n with
  | zero => exact fun heq => hne (Option.some.inj heq)
  | succ n =>
      rw [ancestor, hparent, Option.bind_none]
      exact (Option.some_ne_none other).symm

def silent : AudioSystem := ⟨[], [], "", ""⟩

/-- A port that takes one slot for both directions. -/
def opened (index slot : Nat) : Input :=
  .changeSlots index silent [] [slot]
    { consumerSlotChanged := true, producerSlotChanged := true
      newConsumerSlot := some slot, newProducerSlot := some slot }

def nested : List Input :=
  [opened 0 1, opened 1 2, .newRootBridge 0, .newBridge silent 0 3 4, .add (.rootBridge 0) (.bridge 0),
    .add (.rootBridge 0) (.port 1)]

theorem allowed_nested : Meets step Allowed (start silent none none 0) nested := by
  have hfree : ∀ node slot, (start silent none none 0).Free node slot := fun _ _ _ _ => ⟨nofun, nofun⟩
  have hopened : ∀ {tree : AudioTree} {index slot : Nat}, tree.Free (.port index) slot →
      tree.consumerSlot (.port index) = none → tree.producerSlot (.port index) = none →
      tree.Allowed (opened index slot) := by
    intro tree index slot hslot hconsumer hproducer
    refine ⟨.nil, nofun, .inl hconsumer.symm, .inl hproducer.symm, fun _ other heq => ?_,
      fun _ other heq => ?_⟩
    · cases heq
      exact hslot
    · cases heq
      exact hslot
  refine ⟨hopened (hfree _ _) rfl rfl, hopened ((hfree _ _).setSlots (by decide) (by decide)) rfl rfl,
    ?_, ⟨by decide, by decide, ?_, ?_⟩, ⟨by decide, .inr (by decide), .inl (by decide), ?_⟩,
    ⟨by decide, .inl ⟨1, rfl⟩, .inl (by decide), ?_⟩, trivial⟩
  · show AudioNode.rootBridge 0 ∉ (_ : List AudioNode)
    decide
  · exact ((hfree _ _).setSlots (by decide) (by decide)).setSlots (by decide) (by decide)
  · exact ((hfree _ _).setSlots (by decide) (by decide)).setSlots (by decide) (by decide)
  · exact not_below (by decide) (by decide)
  · exact not_below (by decide) (by decide)

/-- A port in the inner bridge hears the other one over its demultiplexer. -/
theorem meshed_run_nested :
    (run step (start silent none none 0) (nested ++ [.add (.bridge 0) (.port 0)])).SlotPath 2 1 [4] ∧
      (run step (start silent none none 0) (nested ++ [.add (.bridge 0) (.port 0)])).Meshed := by
  have hadd : Meets step Allowed (run step (start silent none none 0) nested)
      [.add (.bridge 0) (.port 0)] :=
    ⟨⟨by decide, .inl ⟨0, rfl⟩, .inl (by decide),
      (valid_run allowed_nested).not_above_port (by decide)⟩, trivial⟩
  exact ⟨⟨by decide, ⟨0, .inl (by decide)⟩, (by decide : (4, 1) ∈ _)⟩,
    (meshed_run (Runs.meets_append.mpr ⟨allowed_nested, hadd⟩)).1⟩

/-- A port that is added to the inner bridge after that was stopped is connected with no other. -/
theorem not_fullMesh :
    ¬ ∀ inputs, Meets step Allowed (start silent none none 0) inputs →
      (run step (start silent none none 0) inputs).FullMesh fun _ => True := by
  intro hmesh
  have hstopped : Meets step Allowed (run step (start silent none none 0) nested)
      [.stop 0, .add (.bridge 0) (.port 0)] :=
    ⟨trivial, ⟨by decide, .inl ⟨0, rfl⟩, .inl (by decide),
      ((valid_run allowed_nested).stop 0).not_above_port (by decide)⟩, trivial⟩
  have hrun := hmesh _ (Runs.meets_append.mpr ⟨allowed_nested, hstopped⟩)
  have hconnected : (run step (start silent none none 0)
      (nested ++ [.stop 0, .add (.bridge 0) (.port 0)])).mixer.connectedSlots = [] := by
    decide
  obtain ⟨slots, hpath, -⟩ := hrun 0 1 (.rootBridge 0) 1 2 (by decide) ⟨2, by decide⟩ ⟨1, by decide⟩
    trivial trivial (by decide) (by decide)
  cases slots with
  | nil =>
      rw [SlotPath, hconnected] at hpath
      cases hpath
  | cons slot slots =>
      rw [SlotPath, hconnected] at hpath
      cases hpath.1

end AudioTree

end SipSimple.Audio
