import SipSimple.Core.BaudotSignal
import SipSimple.Library.Runs
import Mathlib.Algebra.BigOperators.Group.List.Basic
import Mathlib.Algebra.Group.Action.Defs
import Mathlib.Data.Rat.Floor
import Mathlib.Data.List.TakeWhile
import Mathlib.Data.Nat.Factorial.Basic

/-!
# The TTY modulator

`TTYModulator` of `core/_core.sound.pxi`. `send_text` modulates a text to its end and keeps the bytes; the
player reads a buffer of fixed size round and round and asks for more whenever it gets to the end. The
buffer is to be cleared with `memset`, whose last two arguments are exchanged, so that it keeps what stood
in it. `Playback` says what is to be heard.
-/

namespace SipSimple.Core

open Baudot

/-- `2*8000*5`, the bytes of the player's buffer. -/
def bufferSize : Nat := 80000

/-- `memset` of the C library. -/
def memset (memory : Bytes) (value count : Nat) : Bytes :=
  List.replicate count (UInt8.ofNat value) ++ memory.drop count

/-- The bytes of a `short`, the low one first. -/
def packet (sample : Int) : Bytes :=
  [UInt8.ofNat ((sample % 65536).toNat % 256), UInt8.ofNat ((sample % 65536).toNat / 256)]

/-- `played` holds every filling of the buffer that was handed to the player. -/
structure TTYModulator where
  obl : OBL
  buffer : Bytes
  bytesToSend : Bytes
  played : List Bytes

inductive TTYInput
  | sendText (text : Bytes)
  | playerNeedsMoreData

namespace TTYModulator

/-- `__cinit__` and `start`, with the memory that `malloc` has returned. -/
def start (memory : Bytes) : TTYModulator :=
  let buffer := memset memory bufferSize 0
  ⟨.init, buffer, [], [buffer]⟩

variable (machine : Machine)

/-- The loop of `send_text`. A sample of the local buffer that was not written is what was in memory. -/
def modulateAll : Nat → OBL → Bytes → Option (OBL × Bytes)
  | 0, _, _ => none
  | fuel + 1, obl, bytes =>
      let (obl, buffer, n) := obl.oblModulate machine 1024
      if n > 0 then
        modulateAll fuel obl
          (bytes ++ (buffer.take n).flatMap fun sample => packet (sample.getD machine.unwritten))
      else some (obl, bytes)

/-- More rounds than there are samples in the codes of the ring. -/
def rounds (obl : OBL) : Nat :=
  obl.modBuffer.count * (samplesPerBit * (nbits + 1) + numStopSamples) + holdSamples + 1

def sendText (self : TTYModulator) (text : Bytes) : Option TTYModulator :=
  let obl := self.obl.txQueue machine text
  (modulateAll machine (rounds obl) obl self.bytesToSend).map fun (obl, bytes) =>
    { self with obl := obl, bytesToSend := bytes }

def playerNeedsMoreData (self : TTYModulator) : TTYModulator :=
  let buffer := memset self.buffer bufferSize 0
  let data := self.bytesToSend.take bufferSize
  let buffer := data ++ buffer.drop data.length
  { self with
    buffer := buffer
    bytesToSend := self.bytesToSend.drop bufferSize
    played := self.played ++ [buffer] }

/-- A text whose loop ran out of rounds would leave the modulator as it is. -/
def step (self : TTYModulator) : TTYInput → TTYModulator
  | .sendText text => (self.sendText machine text).getD self
  | .playerNeedsMoreData => self.playerNeedsMoreData

end TTYModulator

/-- What is to be heard: the signal of the texts, as much of it as fits into each buffer, and silence
where there is no more of it. -/
structure Playback where
  coding : Coding
  phase : Nat
  pending : Bytes
  played : List Bytes

namespace Playback

def silence (n : Nat) : Bytes := List.replicate n 0

def start : Playback := ⟨.reset, 0, [], [silence bufferSize]⟩

variable (machine : Machine)

def step (self : Playback) : TTYInput → Playback
  | .sendText text =>
      let codes := encodeAll machine self.coding (characters 0 text)
      let signal := samplesOf machine self.phase (textTones codes.2)
      { self with
        coding := codes.1
        phase := signal.2
        pending := self.pending ++ signal.1.flatMap packet }
  | .playerNeedsMoreData =>
      let data := self.pending.take bufferSize
      { self with
        pending := self.pending.drop bufferSize
        played := self.played ++ [data ++ silence (bufferSize - data.length)] }

end Playback

namespace TTYModulator

/-- What the player was handed is what is to be heard. -/
def PlaysExactly (machine : Machine) (memory : Bytes) (inputs : List TTYInput) : Prop :=
  (Runs.run (step machine) (start memory) inputs).played =
    (Runs.run (Playback.step machine) .start inputs).played

/-- The codes of the text fit into the ring, and a filling has no old sound to leave in the buffer. -/
def Sound (machine : Machine) (self : TTYModulator) : TTYInput → Prop
  | .sendText text =>
      0 ∉ text ∧ (encodeAll machine self.obl.coding (characters 0 text)).2.length ≤ textBuf
  | .playerNeedsMoreData => ∀ byte ∈ self.buffer.drop self.bytesToSend.length, byte = 0

variable {machine : Machine}

/-! ## The samples of a text -/

/-- What one block adds: the samples that are not idle, which are the first of the block. -/
theorem oblModulate_eq {obl : OBL} (hworking : obl.Working) (hmodulating : obl.modulating = true)
    (samples : Nat) :
    ∃ after buffer n, obl.oblModulate machine samples = (after, buffer, n) ∧
      OBL.Transmitted machine obl (obl.tonesLeft.take samples) after ∧
      n = (obl.tonesLeft.take samples).length ∧
      ((buffer.take n).flatMap fun sample => packet (sample.getD machine.unwritten)) =
        (samplesOf machine obl.modPhase (obl.tonesLeft.take samples)).1.flatMap packet := by
  obtain ⟨hblock, hsamples⟩ := @OBL.transmitted_steps machine samples obl hworking
  have hlength := @OBL.length_samplesOf machine obl.modPhase (obl.tonesLeft.take samples)
  have hcount : ((OBL.steps machine samples obl).2.filter Option.isSome).length =
      (obl.tonesLeft.take samples).length := by
    rw [hsamples, List.filter_append, List.length_append, List.filter_map]
    simp [Function.comp_def, hlength]
  refine ⟨_, (OBL.steps machine samples obl).2, _, ?_, hblock, hcount, ?_⟩
  · rw [OBL.oblModulate, if_pos hmodulating]
  · rw [hcount, hsamples, ← hlength, List.take_append_of_le_length (by simp), ← List.length_map some,
      List.take_length, List.flatMap_map]
    rfl

/-- The loop of `send_text` comes to its end, with the samples of all that was left to transmit. -/
theorem modulateAll_eq {fuel : Nat} {obl : OBL} {bytes : Bytes} (hworking : obl.Working)
    (hmodulating : obl.modulating = true) (hfuel : obl.tonesLeft.length < fuel) :
    ∃ after, OBL.Transmitted machine obl obl.tonesLeft after ∧
      modulateAll machine fuel obl bytes =
        some (after, bytes ++ (samplesOf machine obl.modPhase obl.tonesLeft).1.flatMap packet) := by
  induction fuel generalizing obl bytes with
  | zero => omega
  | succ fuel ih =>
      obtain ⟨next, buffer, n, hmodulate, hblock, hn, hdata⟩ :=
        @oblModulate_eq machine obl hworking hmodulating 1024
      have hsplit : obl.tonesLeft = obl.tonesLeft.take 1024 ++ next.tonesLeft := hblock.left
      have hlength := congrArg List.length hsplit
      rw [List.length_append] at hlength
      rw [modulateAll, hmodulate]
      show ∃ after, _ ∧ (if n > 0 then modulateAll machine fuel next (bytes ++ _) else some (next, bytes)) = _
      by_cases hpos : n > 0
      · obtain ⟨after, hafter, hrest⟩ := @ih next
          (bytes ++ (samplesOf machine obl.modPhase (obl.tonesLeft.take 1024)).1.flatMap packet)
          hblock.working (hblock.modulating.trans hmodulating) (by omega)
        have happend := @OBL.samplesOf_append machine obl.modPhase
          (obl.tonesLeft.take 1024) next.tonesLeft
        rw [← hsplit, ← hblock.phase] at happend
        refine ⟨after, ⟨hafter.working, ?_, ?_, hafter.coding.trans hblock.coding,
          hafter.modulating.trans hblock.modulating⟩, ?_⟩
        · rw [List.self_eq_append_right.mp hafter.left, List.append_nil]
        · rw [happend]
          exact hafter.phase
        · rw [if_pos hpos, hdata, hrest, happend, List.flatMap_append, List.append_assoc]
      · have hempty : obl.tonesLeft = [] := by
          cases htones : obl.tonesLeft with
          | nil => rfl
          | cons tone rest =>
              rw [htones, List.take_succ_cons, List.length_cons] at hn
              omega
        rw [if_neg hpos]
        rw [hempty, List.take_nil] at hblock
        rw [hempty]
        exact ⟨next, hblock, by simp [samplesOf]⟩

/-! ## The run -/

/-- Between two calls nothing is being transmitted, and what is kept is what is pending. -/
structure Agrees (modulator : TTYModulator) (playback : Playback) : Prop where
  working : modulator.obl.Working
  idle : modulator.obl.tonesLeft = []
  coding : modulator.obl.coding = playback.coding
  phase : modulator.obl.modPhase = playback.phase
  pending : modulator.bytesToSend = playback.pending
  played : modulator.played = playback.played
  size : modulator.buffer.length = bufferSize

theorem length_linkedTones (codes : List Nat) :
    (linkedTones codes).length =
      codes.length * (samplesPerBit * (nbits + 1) + numStopSamples) + holdSamples := by
  have hcode : ∀ code, (codeTones code).length = samplesPerBit * (nbits + 1) + numStopSamples := by
    intro code
    have hbits : (bitTones code 0).length = samplesPerBit * nbits := by
      simp only [bitTones, List.length_flatMap, List.length_replicate, List.map_const',
        List.length_range', List.sum_replicate, smul_eq_mul, Nat.sub_zero, Nat.mul_comm]
    rw [codeTones, List.length_append, List.length_append, hbits, stopTones, List.length_replicate,
      List.length_replicate, Nat.mul_succ]
    omega
  rw [linkedTones, List.length_append, List.length_flatMap]
  simp only [hcode, List.map_const', List.sum_replicate, smul_eq_mul, holdTones, List.length_replicate]

/-- **A text whose codes fit is kept sample by sample.** -/
theorem agrees_sendText {self : TTYModulator} {playback : Playback} (h : Agrees self playback)
    {text : Bytes} (hsound : Sound machine self (.sendText text)) :
    Agrees (self.step machine (.sendText text)) (playback.step machine (.sendText text)) := by
  obtain ⟨hzero, hroom⟩ := hsound
  have hqueues := @OBL.queues_txQueue machine self.obl h.working h.idle text hzero hroom
  set codes := encodeAll machine self.obl.coding (characters 0 text) with hencode
  have hrounds : (self.obl.txQueue machine text).tonesLeft.length <
      rounds (self.obl.txQueue machine text) := by
    rw [hqueues.tones, rounds, hqueues.count, textTones]
    split_ifs
    · exact Nat.succ_pos _
    · rw [length_linkedTones]
      omega
  obtain ⟨after, hafter, hdone⟩ := @modulateAll_eq machine _ _ self.bytesToSend
    hqueues.working hqueues.modulating hrounds
  have hsend : self.step machine (.sendText text) =
      { self with
        obl := after
        bytesToSend := self.bytesToSend ++ (samplesOf machine self.obl.modPhase
          (textTones codes.2)).1.flatMap packet } := by
    rw [step, sendText, hdone, hqueues.tones, hqueues.phase]
    rfl
  have hplayback : playback.step machine (.sendText text) =
      { playback with
        coding := codes.1
        phase := (samplesOf machine self.obl.modPhase (textTones codes.2)).2
        pending := self.bytesToSend ++ (samplesOf machine self.obl.modPhase
          (textTones codes.2)).1.flatMap packet } := by
    rw [hencode, h.coding, h.phase, h.pending]
    rfl
  rw [hsend, hplayback]
  have hphase := hafter.phase
  rw [hqueues.tones, hqueues.phase] at hphase
  refine ⟨hafter.working, ?_, ?_, hphase, rfl, h.played, h.size⟩
  · exact List.self_eq_append_right.mp hafter.left
  · exact hafter.coding.trans hqueues.coding

theorem memset_zero (memory : Bytes) (value : Nat) : memset memory value 0 = memory := rfl

theorem buffer_sendText (self : TTYModulator) (text : Bytes) :
    (self.step machine (.sendText text)).buffer = self.buffer := by
  show ((self.sendText machine text).getD self).buffer = self.buffer
  rw [sendText]
  cases modulateAll machine (rounds (self.obl.txQueue machine text)) (self.obl.txQueue machine text)
    self.bytesToSend <;> rfl

/-- **A filling is exact** where the rest of the buffer is silent already. -/
theorem agrees_playerNeedsMoreData {self : TTYModulator} {playback : Playback}
    (h : Agrees self playback) (hsound : Sound machine self .playerNeedsMoreData) :
    Agrees (self.step machine .playerNeedsMoreData) (playback.step machine .playerNeedsMoreData) := by
  have hfilling : self.bytesToSend.take bufferSize ++
        self.buffer.drop (self.bytesToSend.take bufferSize).length =
      playback.pending.take bufferSize ++
        Playback.silence (bufferSize - (playback.pending.take bufferSize).length) := by
    rw [← h.pending]
    congr 1
    refine List.eq_replicate_iff.mpr ⟨by rw [List.length_drop, h.size], fun byte hbyte => ?_⟩
    rw [List.length_take] at hbyte
    by_cases hfull : bufferSize ≤ self.bytesToSend.length
    · rw [min_eq_left hfull, ← h.size, List.drop_length] at hbyte
      cases hbyte
    · rw [min_eq_right (by omega)] at hbyte
      exact hsound byte hbyte
  have hlength : (self.bytesToSend.take bufferSize ++
      self.buffer.drop (self.bytesToSend.take bufferSize).length).length = bufferSize := by
    rw [List.length_append, List.length_drop, h.size, List.length_take]
    omega
  refine ⟨h.working, h.idle, h.coding, h.phase, ?_, ?_, hlength⟩
  · show self.bytesToSend.drop bufferSize = playback.pending.drop bufferSize
    rw [h.pending]
  · show self.played ++ [_] = playback.played ++ [_]
    rw [h.played, memset_zero, hfilling]

theorem agrees_start {memory : Bytes} (hmemory : memory = Playback.silence bufferSize) :
    Agrees (start memory) .start := by
  refine ⟨OBL.working_init, rfl, rfl, rfl, rfl, ?_, ?_⟩
  · rw [hmemory]
    rfl
  · rw [hmemory]
    exact List.length_replicate

/-- **What is played is exactly what was sent**, where the memory was silent at first, the codes of every
text fit into the ring and every filling meets silence. -/
theorem playsExactly_of_sound (machine : Machine) {memory : Bytes} {inputs : List TTYInput}
    (hmemory : memory = Playback.silence bufferSize)
    (hsound : Runs.Meets (step machine) (Sound machine) (start memory) inputs) :
    PlaysExactly machine memory inputs := by
  have hrun : ∀ inputs self playback, Agrees self playback →
      Runs.Meets (step machine) (Sound machine) self inputs →
      Agrees (Runs.run (step machine) self inputs) (Runs.run (Playback.step machine) playback inputs) := by
    intro inputs
    induction inputs with
    | nil => exact fun _ _ h _ => h
    | cons input inputs ih =>
        intro self playback h hmeets
        refine ih _ _ ?_ hmeets.2
        cases input with
        | sendText text => exact agrees_sendText h hmeets.1
        | playerNeedsMoreData => exact agrees_playerNeedsMoreData h hmeets.1
  exact (hrun inputs _ _ (agrees_start hmemory) hsound).played

/-- The sine as the sum of the first terms of its series. -/
def sineSum (x : ℚ) : ℚ :=
  ((List.range 24).map fun k => (-1) ^ k * x ^ (2 * k + 1) / (2 * k + 1).factorial).sum

/-- The tones of `__cinit__`, with `PI` as the modem has it. -/
def tty : Machine where
  sinLut := fun i =>
    let value := 32767 * sineSum (2 * (3141593 / 1000000) * i / 16384)
    if 0 ≤ value then ⌊value⌋ else -⌊-value⌋
  wOne := 11124
  wZero := 14155
  outside := fun _ => 0x0b
  unwritten := 0

/-- A text, and a filling with the signal of it. -/
theorem letter_playsExactly :
    Runs.Meets (step tty) (Sound tty) (start (Playback.silence bufferSize))
        [.sendText [69], .playerNeedsMoreData] ∧
      PlaysExactly tty (Playback.silence bufferSize) [.sendText [69], .playerNeedsMoreData] := by
  have hsound : Runs.Meets (step tty) (Sound tty) (start (Playback.silence bufferSize))
      [.sendText [69], .playerNeedsMoreData] := by
    refine ⟨⟨by decide, by decide⟩, ?_, trivial⟩
    show ∀ byte ∈ (step tty _ _).buffer.drop _, byte = 0
    rw [buffer_sendText]
    exact fun byte hbyte => List.eq_of_mem_replicate (List.mem_of_mem_drop hbyte)
  exact ⟨hsound, playsExactly_of_sound tty rfl hsound⟩

/-- The memory that `malloc` returns is played before anything was sent. -/
theorem unclear_memory_played :
    ¬ PlaysExactly tty (List.replicate bufferSize 1) [] := by
  intro hplayed
  have hbuffer : List.replicate bufferSize 1 = Playback.silence bufferSize :=
    List.head_eq_of_cons_eq hplayed
  have hbyte : (1 : UInt8) = 0 := by
    refine List.eq_of_mem_replicate (n := bufferSize) ?_
    show 1 ∈ Playback.silence bufferSize
    rw [← hbuffer]
    exact List.mem_replicate.mpr ⟨by decide, rfl⟩
  exact absurd hbyte (by decide)

end TTYModulator

end SipSimple.Core
