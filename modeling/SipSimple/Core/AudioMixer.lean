import SipSimple.Library.Runs

/-!
# The audio mixer

`AudioMixer` of `core/_core.sound.pxi` is a conference bridge that a sound port or a master port drives.
A device that cannot be opened makes it fall back to the other one, and without any device to the master
port. As long as no slot is in use the sound port is closed; a timer with no delay closes it after the last
port is removed.

The devices of the machine and the outcome of opening them are input; all other calls of pjmedia succeed.
The volumes, the memory pools and the lock are left out.
-/

namespace SipSimple.Core

structure DeviceInfo where
  name : String
  inputCount : Nat
  outputCount : Nat
  deriving DecidableEq, Repr

/-- What `pjmedia_snd_port_create2` returns. -/
inductive Opening where
  | success | noPlayback | noRecording
  deriving DecidableEq, Repr

/-- What a start of the sound device finds: the devices, the outcomes one after the other (success when
there are no more), and the devices that the stream has when the defaults are opened. -/
structure AudioSystem where
  devices : List DeviceInfo
  openings : List Opening := []
  recording : String := ""
  playback : String := ""
  deriving DecidableEq, Repr

structure AudioMixer where
  snd : Bool := false
  masterPort : Bool := false
  usedSlotCount : Nat := 0
  /-- The slots of the ports that the bridge has. -/
  slots : List Nat := []
  inputDevice : Option String := none
  outputDevice : Option String := none
  realInputDevice : Option String := none
  realOutputDevice : Option String := none
  ecTailLength : Int := 0
  /-- How many timers for `_cb_postpoll_stop_sound` are pending. -/
  timers : Nat := 0
  connectedSlots : List (Nat × Nat) := []
  deriving DecidableEq, Repr

namespace AudioMixer

/-! ### The sound device -/

/-- `input_device_i` is the default one: by the request, or because no device of the name is there. -/
def isDefault (devices : List DeviceInfo) (count : DeviceInfo → Nat) : Option String → Bool
  | none => false
  | some name => name = "system_default" || !devices.any fun info => 0 < count info && info.name = name

/-- The end of `_start_sound_device`: what is opened is kept. -/
def started (mixer : AudioMixer) (system : AudioSystem) (input output : Option String)
    (ecTailLength : Int) : AudioMixer :=
  { mixer with
    realInputDevice :=
      if isDefault system.devices (·.inputCount) input then some system.recording else input
    realOutputDevice :=
      if isDefault system.devices (·.outputCount) output then some system.playback else output
    inputDevice := input
    outputDevice := output
    ecTailLength := ecTailLength }

/-- `_start_sound_device` from its outcomes on. -/
def startWith (system : AudioSystem) (ecTailLength : Int) (mixer : AudioMixer) :
    List Opening → Option String → Option String → AudioMixer
  | openings, input, output =>
      let input := if system.devices.isEmpty then none else input
      let output := if system.devices.isEmpty then none else output
      if input = none ∧ output = none then
        { mixer with masterPort := true }.started system input output ecTailLength
      else
        match openings with
        | .noPlayback :: openings => startWith system ecTailLength mixer openings input none
        | .noRecording :: openings => startWith system ecTailLength mixer openings none output
        | _ => { mixer with snd := true }.started system input output ecTailLength

def startSoundDevice (mixer : AudioMixer) (system : AudioSystem) (input output : Option String)
    (ecTailLength : Int) : AudioMixer :=
  mixer.startWith system ecTailLength system.openings input output

def stopSoundDevice (mixer : AudioMixer) : AudioMixer :=
  { mixer with snd := false, masterPort := false }

/-- `__init__`; the checks of its numbers are left out. -/
def new (system : AudioSystem) (input output : Option String) (ecTailLength : Int) : AudioMixer :=
  let mixer := startSoundDevice {} system input output ecTailLength
  if input = none ∧ output = none then mixer else mixer.stopSoundDevice

/-- A negative tail length raises ValueError. -/
def setSoundDevices (mixer : AudioMixer) (system : AudioSystem) (input output : Option String)
    (ecTailLength : Int) : AudioMixer :=
  if ecTailLength < 0 then mixer
  else
    let mixer := mixer.stopSoundDevice.startSoundDevice system input output ecTailLength
    if mixer.usedSlotCount = 0 ∧ ¬ (input = none ∧ output = none) then mixer.stopSoundDevice else mixer

/-! ### Ports -/

/-- pjmedia gives the port a slot. -/
def addPort (mixer : AudioMixer) (system : AudioSystem) (slot : Nat) : AudioMixer :=
  let mixer :=
    { mixer with slots := slot :: mixer.slots, usedSlotCount := mixer.usedSlotCount + 1 }
  if mixer.usedSlotCount = 1 ∧ ¬ (mixer.inputDevice = none ∧ mixer.outputDevice = none) ∧
      !mixer.snd then
    mixer.startSoundDevice system mixer.inputDevice mixer.outputDevice mixer.ecTailLength
  else mixer

/-- pjmedia only removes a port that is there. -/
def removePort (mixer : AudioMixer) (slot : Nat) : AudioMixer :=
  if slot ∉ mixer.slots then mixer
  else
    let mixer :=
      { mixer with
        slots := mixer.slots.erase slot
        connectedSlots := mixer.connectedSlots.filter fun (src, dst) => slot ≠ src && slot ≠ dst
        usedSlotCount := mixer.usedSlotCount - 1 }
    if mixer.usedSlotCount = 0 ∧ ¬ (mixer.inputDevice = none ∧ mixer.outputDevice = none) then
      { mixer with timers := mixer.timers + 1 }
    else mixer

def cbPostpollStopSound (mixer : AudioMixer) : AudioMixer :=
  if mixer.usedSlotCount = 0 then mixer.stopSoundDevice else mixer

/-! ### Connections -/

def connectSlots (mixer : AudioMixer) (src dst : Nat) : AudioMixer :=
  if (src, dst) ∈ mixer.connectedSlots then mixer
  else { mixer with connectedSlots := mixer.connectedSlots ++ [(src, dst)] }

def disconnectSlots (mixer : AudioMixer) (src dst : Nat) : AudioMixer :=
  if (src, dst) ∈ mixer.connectedSlots then
    { mixer with connectedSlots := mixer.connectedSlots.erase (src, dst) }
  else mixer

theorem connections_startWith (system : AudioSystem) (ecTailLength : Int) (mixer : AudioMixer)
    (openings : List Opening) (input output : Option String) :
    (mixer.startWith system ecTailLength openings input output).connectedSlots = mixer.connectedSlots ∧
      (mixer.startWith system ecTailLength openings input output).slots = mixer.slots := by
  induction openings generalizing input output with
  | nil =>
      unfold startWith
      dsimp only
      split_ifs <;> exact ⟨rfl, rfl⟩
  | cons opening openings ih =>
      unfold startWith
      dsimp only
      generalize (if system.devices.isEmpty then none else input) = input'
      generalize (if system.devices.isEmpty then none else output) = output'
      split_ifs
      · exact ⟨rfl, rfl⟩
      · cases opening with
        | noPlayback => exact ih input' none
        | noRecording => exact ih none output'
        | success => exact ⟨rfl, rfl⟩

@[simp] theorem connectedSlots_addPort (mixer : AudioMixer) (system : AudioSystem) (slot : Nat) :
    (mixer.addPort system slot).connectedSlots = mixer.connectedSlots := by
  rw [addPort]
  dsimp only
  split_ifs
  · exact (connections_startWith ..).1
  · rfl

@[simp] theorem slots_addPort (mixer : AudioMixer) (system : AudioSystem) (slot : Nat) :
    (mixer.addPort system slot).slots = slot :: mixer.slots := by
  rw [addPort]
  dsimp only
  split_ifs
  · exact (connections_startWith ..).2
  · rfl

theorem mem_connectSlots {mixer : AudioMixer} {src dst : Nat} {connection : Nat × Nat} :
    connection ∈ (mixer.connectSlots src dst).connectedSlots ↔
      connection = (src, dst) ∨ connection ∈ mixer.connectedSlots := by
  rw [connectSlots]
  split_ifs with hthere
  · constructor
    · exact .inr
    · rintro (rfl | hmem)
      exacts [hthere, hmem]
  · simp [or_comm]

theorem nodup_connectSlots {mixer : AudioMixer} (h : mixer.connectedSlots.Nodup) (src dst : Nat) :
    (mixer.connectSlots src dst).connectedSlots.Nodup := by
  rw [connectSlots]
  split_ifs with hthere
  · exact h
  · refine List.nodup_append.mpr ⟨h, by simp, ?_⟩
    intro connection hmem other hother heq
    rw [List.mem_singleton.mp hother] at heq
    exact hthere (heq ▸ hmem)

theorem mem_disconnectSlots {mixer : AudioMixer} (h : mixer.connectedSlots.Nodup) {src dst : Nat}
    {connection : Nat × Nat} :
    connection ∈ (mixer.disconnectSlots src dst).connectedSlots ↔
      connection ≠ (src, dst) ∧ connection ∈ mixer.connectedSlots := by
  rw [disconnectSlots]
  split_ifs with hthere
  · exact h.mem_erase_iff
  · constructor
    · intro hmem
      exact ⟨fun heq => hthere (heq ▸ hmem), hmem⟩
    · exact And.right

theorem nodup_disconnectSlots {mixer : AudioMixer} (h : mixer.connectedSlots.Nodup) (src dst : Nat) :
    (mixer.disconnectSlots src dst).connectedSlots.Nodup := by
  rw [disconnectSlots]
  split_ifs
  · exact h.erase _
  · exact h

/-- **Connecting is idempotent.** -/
theorem connectSlots_idem (mixer : AudioMixer) (src dst : Nat) :
    (mixer.connectSlots src dst).connectSlots src dst = mixer.connectSlots src dst := by
  have hthere : (src, dst) ∈ (mixer.connectSlots src dst).connectedSlots := mem_connectSlots.mpr (.inl rfl)
  generalize mixer.connectSlots src dst = connected at hthere
  rw [connectSlots, if_pos hthere]

/-- **Disconnecting is idempotent.** -/
theorem disconnectSlots_idem {mixer : AudioMixer} (h : mixer.connectedSlots.Nodup) (src dst : Nat) :
    (mixer.disconnectSlots src dst).disconnectSlots src dst = mixer.disconnectSlots src dst := by
  have hgone : (src, dst) ∉ (mixer.disconnectSlots src dst).connectedSlots := fun hmem =>
    ((mem_disconnectSlots h).mp hmem).1 rfl
  generalize mixer.disconnectSlots src dst = disconnected at hgone
  rw [disconnectSlots, if_neg hgone]

/-- **Removing a port drops exactly its connections.** -/
theorem connectedSlots_removePort {mixer : AudioMixer} {slot : Nat} (hslot : slot ∈ mixer.slots) :
    (mixer.removePort slot).connectedSlots =
      mixer.connectedSlots.filter fun (src, dst) => slot ≠ src && slot ≠ dst := by
  rw [removePort, if_neg (not_not.mpr hslot)]
  dsimp only
  split_ifs <;> rfl

theorem slots_removePort (mixer : AudioMixer) (slot : Nat) :
    (mixer.removePort slot).slots = mixer.slots.erase slot := by
  rw [removePort]
  dsimp only
  split_ifs with hslot
  · rfl
  · rfl
  · exact (List.erase_of_not_mem hslot).symm

/-! ### Runs -/

inductive Input where
  | setSoundDevices (system : AudioSystem) (input output : Option String) (ecTailLength : Int)
  | addPort (system : AudioSystem) (slot : Nat)
  | removePort (slot : Nat)
  | timerFires
  deriving DecidableEq, Repr

def step (mixer : AudioMixer) : Input → AudioMixer
  | .setSoundDevices system input output ecTailLength =>
      mixer.setSoundDevices system input output ecTailLength
  | .addPort system slot => mixer.addPort system slot
  | .removePort slot => mixer.removePort slot
  | .timerFires =>
      if mixer.timers = 0 then mixer
      else { mixer with timers := mixer.timers - 1 }.cbPostpollStopSound

/-! ### The clock -/

/-- Exactly one of the ports drives the bridge while slots are in use, and there are never both. -/
structure Clocked (mixer : AudioMixer) : Prop where
  notBoth : ¬ (mixer.snd ∧ mixer.masterPort)
  driven : 0 < mixer.usedSlotCount → mixer.snd ∨ mixer.masterPort

/-- What the source relies on: a master port stands for no device, and without a port to drive the bridge
no slot is in use. -/
structure Consistent (mixer : AudioMixer) : Prop extends mixer.Clocked where
  master : mixer.masterPort → mixer.inputDevice = none ∧ mixer.outputDevice = none

/-- The condition on a step: the first port is not added to a mixer that nothing drives and that is set to
no device. -/
def Driven (mixer : AudioMixer) : Input → Prop
  | .addPort _ _ =>
      ¬ (mixer.usedSlotCount = 0 ∧ !mixer.snd ∧ !mixer.masterPort ∧
        mixer.inputDevice = none ∧ mixer.outputDevice = none)
  | _ => True

/-- **A start leaves exactly one port**, the master port if it ends with no device. -/
theorem startWith_spec (system : AudioSystem) (ecTailLength : Int) {mixer : AudioMixer}
    (hsnd : mixer.snd = false) (hmaster : mixer.masterPort = false) (openings : List Opening)
    (input output : Option String) :
    let started := mixer.startWith system ecTailLength openings input output
    started.usedSlotCount = mixer.usedSlotCount ∧
      ((started.snd = true ∧ started.masterPort = false) ∨
        (started.snd = false ∧ started.masterPort = true ∧ started.inputDevice = none ∧
          started.outputDevice = none)) := by
  induction openings generalizing input output with
  | nil =>
      unfold startWith
      dsimp only
      generalize (if system.devices.isEmpty then none else input) = input'
      generalize (if system.devices.isEmpty then none else output) = output'
      by_cases hnone : input' = none ∧ output' = none
      · rw [if_pos hnone]
        exact ⟨rfl, .inr ⟨hsnd, rfl, hnone.1, hnone.2⟩⟩
      · rw [if_neg hnone]
        exact ⟨rfl, .inl ⟨rfl, hmaster⟩⟩
  | cons opening openings ih =>
      unfold startWith
      dsimp only
      generalize (if system.devices.isEmpty then none else input) = input'
      generalize (if system.devices.isEmpty then none else output) = output'
      by_cases hnone : input' = none ∧ output' = none
      · rw [if_pos hnone]
        exact ⟨rfl, .inr ⟨hsnd, rfl, hnone.1, hnone.2⟩⟩
      · rw [if_neg hnone]
        cases opening with
        | noPlayback => exact ih input' none
        | noRecording => exact ih none output'
        | success => exact ⟨rfl, .inl ⟨rfl, hmaster⟩⟩

theorem consistent_start (system : AudioSystem) (ecTailLength : Int) {mixer : AudioMixer}
    (hsnd : mixer.snd = false) (hmaster : mixer.masterPort = false) (input output : Option String) :
    (mixer.startSoundDevice system input output ecTailLength).Consistent := by
  obtain ⟨-, ⟨hstarted, hnot⟩ | ⟨hnot, hstarted, hdevices⟩⟩ :=
    startWith_spec system ecTailLength hsnd hmaster system.openings input output
  · refine ⟨⟨fun hboth => ?_, fun _ => .inl hstarted⟩, fun hyes => ?_⟩
    · exact absurd hboth.2 (by rw [startSoundDevice, hnot]; decide)
    · exact absurd hyes (by rw [startSoundDevice, hnot]; decide)
  · refine ⟨⟨fun hboth => ?_, fun _ => .inr hstarted⟩, fun _ => hdevices⟩
    exact absurd hboth.1 (by rw [startSoundDevice, hnot]; decide)

theorem usedSlotCount_start (system : AudioSystem) (ecTailLength : Int) {mixer : AudioMixer}
    (hsnd : mixer.snd = false) (hmaster : mixer.masterPort = false) (input output : Option String) :
    (mixer.startSoundDevice system input output ecTailLength).usedSlotCount = mixer.usedSlotCount :=
  (startWith_spec system ecTailLength hsnd hmaster system.openings input output).1

/-- An idle mixer may be left without a port. -/
theorem consistent_stop {mixer : AudioMixer} (hidle : mixer.usedSlotCount = 0) :
    mixer.stopSoundDevice.Consistent := by
  refine ⟨⟨fun hboth => ?_, fun hused => ?_⟩, fun hyes => ?_⟩
  · cases hboth.1
  · exact absurd hused (by rw [show mixer.stopSoundDevice.usedSlotCount = 0 from hidle]; omega)
  · cases hyes

theorem consistent_new (system : AudioSystem) (input output : Option String) (ecTailLength : Int) :
    (new system input output ecTailLength).Consistent := by
  rw [new]
  split_ifs
  · exact consistent_start system ecTailLength rfl rfl input output
  · exact consistent_stop (usedSlotCount_start system ecTailLength rfl rfl input output)

namespace Consistent

variable {mixer : AudioMixer}

theorem setSoundDevices {ecTailLength : Int} (hec : 0 ≤ ecTailLength) (system : AudioSystem)
    (input output : Option String) :
    (mixer.setSoundDevices system input output ecTailLength).Consistent := by
  have hstarted : (mixer.stopSoundDevice.startSoundDevice system input output ecTailLength).Consistent :=
    consistent_start system ecTailLength rfl rfl input output
  rw [AudioMixer.setSoundDevices, if_neg (by omega)]
  dsimp only
  split_ifs with hidle
  · exact consistent_stop hidle.1
  · exact hstarted

/-- A port that comes to an idle mixer finds it driven, or has it started. -/
theorem addPort (h : mixer.Consistent) (system : AudioSystem) (slot : Nat)
    (hdriven : mixer.Driven (.addPort system slot)) : (mixer.addPort system slot).Consistent := by
  rw [AudioMixer.addPort]
  dsimp only
  split_ifs with hstart
  · obtain ⟨hfirst, hdevices, hsnd⟩ := hstart
    have hmaster : mixer.masterPort = false := by
      by_contra hyes
      exact hdevices (h.master (by simpa using hyes))
    refine consistent_start system _ ?_ ?_ _ _
    · simpa using hsnd
    · exact hmaster
  · refine ⟨⟨h.notBoth, fun _ => ?_⟩, h.master⟩
    by_cases hused : 0 < mixer.usedSlotCount
    · exact h.driven hused
    · have hzero : mixer.usedSlotCount = 0 := by omega
      by_contra hundriven
      simp only [Driven, hzero] at hdriven hstart
      simp only [not_or, Bool.not_eq_true] at hundriven
      simp_all

theorem removePort (h : mixer.Consistent) (slot : Nat) : (mixer.removePort slot).Consistent := by
  have hstill : 0 < mixer.usedSlotCount - 1 → mixer.snd ∨ mixer.masterPort := by
    intro hused
    exact h.driven (by omega)
  rw [AudioMixer.removePort]
  dsimp only
  split_ifs with hslot hidle
  · exact ⟨⟨h.notBoth, hstill⟩, h.master⟩
  · exact ⟨⟨h.notBoth, hstill⟩, h.master⟩
  · exact h

theorem timerFires (h : mixer.Consistent) : (mixer.step .timerFires).Consistent := by
  rw [step]
  split_ifs
  · exact h
  · rw [cbPostpollStopSound]
    split_ifs with hidle
    · exact consistent_stop hidle
    · exact ⟨⟨h.notBoth, h.driven⟩, h.master⟩

theorem step (h : mixer.Consistent) {input : Input} (hdriven : mixer.Driven input) :
    (mixer.step input).Consistent := by
  cases input with
  | setSoundDevices system input output ecTailLength =>
      by_cases hec : 0 ≤ ecTailLength
      · exact setSoundDevices hec system input output
      · rw [AudioMixer.step, AudioMixer.setSoundDevices, if_pos (by omega)]
        exact h
  | addPort system slot => exact h.addPort system slot hdriven
  | removePort slot => exact h.removePort slot
  | timerFires => exact h.timerFires

end Consistent

/-- The step that breaks the condition leaves a bridge that nothing drives. -/
theorem not_clocked_of_not_driven {mixer : AudioMixer} {input : Input}
    (hdriven : ¬ mixer.Driven input) : ¬ (mixer.step input).Clocked := by
  cases input with
  | addPort system slot =>
      obtain ⟨hidle, hsnd, hmaster, hdevices⟩ := not_not.mp hdriven
      intro hclocked
      have hstep : mixer.step (.addPort system slot) =
          { mixer with slots := slot :: mixer.slots, usedSlotCount := 1 } := by
        rw [step, addPort]
        simp [hidle, hdevices]
      rw [hstep] at hclocked
      have hport := hclocked.driven Nat.one_pos
      simp_all
  | _ => exact absurd trivial hdriven

open Runs (run Meets)

/-- **The mixer has a clock while it is in use**, in exactly the runs in which no first port is added to a
mixer that nothing drives and that is set to no device. -/
theorem clocked_iff (system : AudioSystem) (input output : Option String) (ecTailLength : Int)
    (inputs : List Input) :
    (∀ before after, inputs = before ++ after →
      (run step (new system input output ecTailLength) before).Clocked) ↔
      Meets step Driven (new system input output ecTailLength) inputs := by
  have hnew := consistent_new system input output ecTailLength
  generalize new system input output ecTailLength = mixer at hnew
  constructor
  · intro hclocked
    induction inputs generalizing mixer with
    | nil => trivial
    | cons first inputs ih =>
        have hdriven : mixer.Driven first := by
          by_contra hnot
          exact not_clocked_of_not_driven hnot (hclocked [first] inputs rfl)
        refine ⟨hdriven, ih _ (hnew.step hdriven) fun before after heq => ?_⟩
        exact hclocked (first :: before) after (by rw [heq, List.cons_append])
  · rintro hmeets before after rfl
    have hconsistent := Runs.invariant_run Consistent (fun _ _ h hdriven => h.step hdriven) hnew
      (Runs.meets_append.mp hmeets).1
    exact hconsistent.toClocked

/-- No device is there when the mixer is made, and the first port finds it stopped; and the devices are set
to none before the timer closes the sound port. -/
theorem not_clocked :
    ¬ (run step (new ⟨[], [], "", ""⟩ (some "system_default") (some "system_default") 0)
      [.addPort ⟨[], [], "", ""⟩ 1]).Clocked ∧
    ¬ (run step (new ⟨[⟨"card", 1, 1⟩], [], "", ""⟩ (some "card") (some "card") 0)
      [.addPort ⟨[⟨"card", 1, 1⟩], [], "", ""⟩ 1, .removePort 1,
        .setSoundDevices ⟨[⟨"card", 1, 1⟩], [], "", ""⟩ none none 0, .timerFires,
        .addPort ⟨[⟨"card", 1, 1⟩], [], "", ""⟩ 1]).Clocked := by
  refine ⟨fun h => ?_, fun h => ?_⟩
  · exact absurd (h.driven (by decide)) (by decide)
  · exact absurd (h.driven (by decide)) (by decide)

end AudioMixer

end SipSimple.Core
