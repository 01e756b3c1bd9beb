import SipSimple.Core.AudioMixer

/-!
# Audio bridges

`AudioBridge` and `RootAudioBridge` of `audio.py`: containers of audio ports over one mixer. A bridge is an
audio port itself, with its demultiplexer as the consumer and its multiplexer as the producer, and may be
in another bridge; a root bridge has no mixer ports. All ports of a container are connected with each other
and with its mixer ports. When the slots of a port change, the port posts a notification that all
containers observe.

The order of the ports in a container is the one in which they were added.
-/

namespace SipSimple.Audio

open SipSimple.Core (AudioMixer AudioSystem)

inductive AudioNode where
  | port (index : Nat)
  | bridge (index : Nat)
  | rootBridge (index : Nat)
  deriving DecidableEq, Repr

/-- `IAudioPort.providedBy`. -/
def AudioNode.isAudioPort : AudioNode → Bool
  | .rootBridge _ => false
  | _ => true

structure AudioTree where
  mixer : AudioMixer
  created : List AudioNode := []
  ports : AudioNode → List AudioNode := fun _ => []
  /-- Of a bridge the slot of its demultiplexer. -/
  consumerSlot : AudioNode → Option Nat := fun _ => none
  /-- Of a bridge the slot of its multiplexer. -/
  producerSlot : AudioNode → Option Nat := fun _ => none

/-- The data of `AudioPortDidChangeSlots`. -/
structure SlotsChange where
  consumerSlotChanged : Bool := false
  producerSlotChanged : Bool := false
  oldConsumerSlot : Option Nat := none
  newConsumerSlot : Option Nat := none
  oldProducerSlot : Option Nat := none
  newProducerSlot : Option Nat := none
  deriving DecidableEq, Repr

inductive SlotCall where
  | connect (src dst : Nat)
  | disconnect (src dst : Nat)
  deriving DecidableEq, Repr

/-- A call that is made if both slots are there. -/
def callIf (call : Nat → Nat → SlotCall) : Option Nat → Option Nat → List SlotCall
  | some src, some dst => [call src dst]
  | _, _ => []

def callSlots (mixer : AudioMixer) : SlotCall → AudioMixer
  | .connect src dst => mixer.connectSlots src dst
  | .disconnect src dst => mixer.disconnectSlots src dst

namespace AudioTree

def callAll (tree : AudioTree) (calls : List SlotCall) : AudioTree :=
  { tree with mixer := calls.foldl callSlots tree.mixer }

def setPorts (tree : AudioTree) (bridge : AudioNode) (ports : List AudioNode) : AudioTree :=
  { tree with ports := Function.update tree.ports bridge ports }

def setSlots (tree : AudioTree) (node : AudioNode) (consumer producer : Option Nat) : AudioTree :=
  { tree with
    consumerSlot := Function.update tree.consumerSlot node consumer
    producerSlot := Function.update tree.producerSlot node producer }

/-! ### Adding and removing ports -/

/-- The slots of ports, the producer first. -/
def slots (tree : AudioTree) (ports : List AudioNode) : List (Option Nat × Option Nat) :=
  ports.map fun port => (tree.producerSlot port, tree.consumerSlot port)

/-- What `add` connects and `remove` disconnects: the port with its peers. -/
def portCalls (tree : AudioTree) (call : Nat → Nat → SlotCall) (peers : List (Option Nat × Option Nat))
    (port : AudioNode) : List SlotCall :=
  peers.flatMap fun (producer, consumer) =>
    callIf call producer (tree.consumerSlot port) ++ callIf call (tree.producerSlot port) consumer

def addWith (tree : AudioTree) (peers : List (Option Nat × Option Nat)) (bridge port : AudioNode) :
    AudioTree :=
  if !port.isAudioPort ∨ port ∈ tree.ports bridge then tree
  else
    (tree.callAll (tree.portCalls .connect peers port)).setPorts bridge (tree.ports bridge ++ [port])

def removeWith (tree : AudioTree) (peers : List (Option Nat × Option Nat)) (bridge port : AudioNode) :
    AudioTree :=
  if port ∉ tree.ports bridge then tree
  else
    (tree.callAll (tree.portCalls .disconnect peers port)).setPorts bridge ((tree.ports bridge).erase port)

/-! ### Slot changes -/

/-- `handle_notification`, with the peers of the sender. -/
def notificationCalls (peers : List (Option Nat × Option Nat)) (data : SlotsChange) : List SlotCall :=
  (if data.consumerSlotChanged then
    peers.flatMap fun (producer, _) =>
      callIf .disconnect producer data.oldConsumerSlot ++ callIf .connect producer data.newConsumerSlot
  else []) ++
  if data.producerSlotChanged then
    peers.flatMap fun (_, consumer) =>
      callIf .disconnect data.oldProducerSlot consumer ++ callIf .connect data.newProducerSlot consumer
  else []

end AudioTree

/-! ### The two containers -/

namespace AudioBridge

open AudioTree

/-- `__init__`; the mixer gives its ports their slots. -/
def new (tree : AudioTree) (system : AudioSystem) (index multiplexer demultiplexer : Nat) : AudioTree :=
  { tree with
      mixer := (tree.mixer.addPort system multiplexer).addPort system demultiplexer
      created := tree.created ++ [AudioNode.bridge index] }.setSlots (.bridge index) demultiplexer multiplexer

/-- The mixer ports are one more peer of a port: it hears the demultiplexer and the multiplexer hears it. -/
def peers (tree : AudioTree) (index : Nat) (ports : List AudioNode) : List (Option Nat × Option Nat) :=
  (tree.consumerSlot (.bridge index), tree.producerSlot (.bridge index)) :: tree.slots ports

def add (tree : AudioTree) (index : Nat) (port : AudioNode) : AudioTree :=
  tree.addWith (peers tree index (tree.ports (.bridge index))) (.bridge index) port

def remove (tree : AudioTree) (index : Nat) (port : AudioNode) : AudioTree :=
  tree.removeWith (peers tree index (tree.ports (.bridge index))) (.bridge index) port

def stopCalls (tree : AudioTree) (ports : List AudioNode) : List SlotCall :=
  ports.flatMap fun port1 => (ports.filter (· ≠ port1)).flatMap fun port2 =>
    callIf .disconnect (tree.producerSlot port1) (tree.consumerSlot port2) ++
      callIf .disconnect (tree.producerSlot port2) (tree.consumerSlot port1)

/-- `MixerPort.stop`: a port that has no slot is not removed. -/
def stopPort (mixer : AudioMixer) (slot : Option Nat) : AudioMixer :=
  slot.elim mixer mixer.removePort

def stop (tree : AudioTree) (index : Nat) : AudioTree :=
  let tree := (tree.callAll (stopCalls tree (tree.ports (.bridge index)))).setPorts (.bridge index) []
  let mixer := stopPort tree.mixer (tree.producerSlot (.bridge index))
  { tree with mixer := stopPort mixer (tree.consumerSlot (.bridge index)) }.setSlots (.bridge index)
    none none

def handleNotification (tree : AudioTree) (index : Nat) (sender : AudioNode) (data : SlotsChange) :
    List SlotCall :=
  if sender ∉ tree.ports (.bridge index) then []
  else notificationCalls (peers tree index ((tree.ports (.bridge index)).filter (· ≠ sender))) data

end AudioBridge

namespace RootAudioBridge

open AudioTree

def new (tree : AudioTree) (index : Nat) : AudioTree :=
  { tree with created := tree.created ++ [AudioNode.rootBridge index] }

def add (tree : AudioTree) (index : Nat) (port : AudioNode) : AudioTree :=
  tree.addWith (tree.slots (tree.ports (.rootBridge index))) (.rootBridge index) port

def remove (tree : AudioTree) (index : Nat) (port : AudioNode) : AudioTree :=
  tree.removeWith (tree.slots (tree.ports (.rootBridge index))) (.rootBridge index) port

def handleNotification (tree : AudioTree) (index : Nat) (sender : AudioNode) (data : SlotsChange) :
    List SlotCall :=
  if sender ∉ tree.ports (.rootBridge index) then []
  else notificationCalls (tree.slots ((tree.ports (.rootBridge index)).filter (· ≠ sender))) data

end RootAudioBridge

/-! ### Runs -/

namespace AudioTree

inductive Input where
  | newBridge (system : AudioSystem) (index multiplexer demultiplexer : Nat)
  | newRootBridge (index : Nat)
  | add (bridge port : AudioNode)
  | remove (bridge port : AudioNode)
  | stop (index : Nat)
  /-- A port leaves slots of the mixer, takes others, and tells of it. -/
  | changeSlots (index : Nat) (system : AudioSystem) (removed added : List Nat) (data : SlotsChange)
  deriving DecidableEq, Repr

def add (tree : AudioTree) : AudioNode → AudioNode → AudioTree
  | .bridge index, port => AudioBridge.add tree index port
  | .rootBridge index, port => RootAudioBridge.add tree index port
  | .port _, _ => tree

def remove (tree : AudioTree) : AudioNode → AudioNode → AudioTree
  | .bridge index, port => AudioBridge.remove tree index port
  | .rootBridge index, port => RootAudioBridge.remove tree index port
  | .port _, _ => tree

def handleNotification (tree : AudioTree) (sender : AudioNode) (data : SlotsChange) :
    AudioNode → List SlotCall
  | .bridge index => AudioBridge.handleNotification tree index sender data
  | .rootBridge index => RootAudioBridge.handleNotification tree index sender data
  | .port _ => []

/-- The slots of the port are those of the notification, which the containers handle one after the other. -/
def changeSlots (tree : AudioTree) (port : AudioNode) (system : AudioSystem) (removed added : List Nat)
    (data : SlotsChange) : AudioTree :=
  let mixer := removed.foldl AudioMixer.removePort tree.mixer
  let tree :=
    { tree with mixer := added.foldl (fun mixer slot => mixer.addPort system slot) mixer }.setSlots port
      (if data.consumerSlotChanged then data.newConsumerSlot else tree.consumerSlot port)
      (if data.producerSlotChanged then data.newProducerSlot else tree.producerSlot port)
  tree.callAll (tree.created.flatMap (tree.handleNotification port data))

def step (tree : AudioTree) : Input → AudioTree
  | .newBridge system index multiplexer demultiplexer =>
      AudioBridge.new tree system index multiplexer demultiplexer
  | .newRootBridge index => RootAudioBridge.new tree index
  | .add bridge port => tree.add bridge port
  | .remove bridge port => tree.remove bridge port
  | .stop index => AudioBridge.stop tree index
  | .changeSlots index system removed added data =>
      tree.changeSlots (.port index) system removed added data

end AudioTree

end SipSimple.Audio
