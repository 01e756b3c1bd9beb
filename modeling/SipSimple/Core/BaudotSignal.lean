import Mathlib.Data.List.TakeWhile
import SipSimple.Core.Baudot

/-!
# What the modem transmits

A text stands for a list of codes, and the codes for the bits that are on the line at each sample: a zero
to start, five bits, ones to stop, and ones to hold after the last. `tonesLeft` is what the modulator has
still to transmit. Every turn takes the first off it, and when it is empty the modulator is idle.
-/

namespace SipSimple.Core.Baudot

/-- The codes of the characters, however many they are. -/
def encodeAll (machine : Machine) : Coding → List Nat → Coding × List Nat
  | coding, [] => (coding, [])
  | coding, c :: rest =>
      let first := encodeChar machine coding c
      let others := encodeAll machine first.1 rest
      (others.1, first.2 ++ others.2)

/-- The bits of a code from the `n`th on, each as long as it is on the line. -/
def bitTones (code n : Nat) : List Bool :=
  (List.range' n (nbits - n)).flatMap fun n => List.replicate samplesPerBit (code.testBit n)

def stopTones : List Bool := List.replicate numStopSamples true

def codeTones (code : Nat) : List Bool :=
  List.replicate samplesPerBit false ++ (bitTones code 0 ++ stopTones)

def holdTones : List Bool := List.replicate holdSamples true

/-- What is transmitted for codes once the transmission goes on. -/
def linkedTones (codes : List Nat) : List Bool := codes.flatMap codeTones ++ holdTones

/-- What is transmitted for the codes of a text. -/
def textTones (codes : List Nat) : List Bool := if codes = [] then [] else linkedTones codes

/-- The samples of a list of tones, and the phase after them. -/
def samplesOf (machine : Machine) : Nat → List Bool → List Int × Nat
  | phase, [] => ([], phase)
  | phase, bit :: rest =>
      let phase := OBL.nextPhase machine phase bit
      let others := samplesOf machine phase rest
      (OBL.sampleAt machine phase :: others.1, others.2)

theorem samplesPerBit_pos : 0 < samplesPerBit := by decide

theorem one_lt_samplesPerBit : 1 < samplesPerBit := by decide

theorem numStopSamples_pos : 0 < numStopSamples := by decide

theorem holdSamples_pos : 0 < holdSamples := by decide

theorem nbits_pos : 0 < nbits := by decide

theorem bitTones_of_lt {code n : Nat} (h : n < nbits) :
    bitTones code n = List.replicate samplesPerBit (code.testBit n) ++ bitTones code (n + 1) := by
  have hleft : nbits - n = nbits - (n + 1) + 1 := by omega
  rw [bitTones, hleft, List.range'_succ, List.flatMap_cons]
  rfl

theorem bitTones_nbits (code : Nat) : bitTones code nbits = [] := rfl

theorem replicate_sub {n k : Nat} (h : n < k) (bit : Bool) :
    List.replicate (k - n) bit = bit :: List.replicate (k - (n + 1)) bit := by
  rw [show k - n = k - (n + 1) + 1 by omega, List.replicate_succ]

namespace OBL

/-- The codes that wait in the ring. -/
def codes (self : OBL) : List Nat := self.modBuffer.contents textBuf

def tonesLeft (self : OBL) : List Bool :=
  match self.modState with
  | .idle => textTones self.codes
  | .start =>
      match self.codes with
      | [] => []
      | code :: rest =>
          List.replicate (samplesPerBit - self.modSample) false ++
            (bitTones code 0 ++ (stopTones ++ linkedTones rest))
  | .bit =>
      List.replicate (samplesPerBit - self.modSample) self.modBit ++
        (bitTones self.modBaudot (self.modNbit + 1) ++ (stopTones ++ linkedTones self.codes))
  | .stop => List.replicate (numStopSamples - self.modSample) true ++ linkedTones self.codes
  | .hold =>
      if self.codes = [] then List.replicate (holdSamples - self.modSample) true
      else true :: linkedTones self.codes

/-- What the modulator can rely on in each of its states. -/
structure Working (obl : OBL) : Prop where
  ring : obl.modBuffer.Valid textBuf
  start : obl.modState = .start → obl.codes ≠ [] ∧ obl.modSample < samplesPerBit
  bit : obl.modState = .bit → obl.modSample < samplesPerBit ∧ obl.modNbit < nbits ∧
    obl.modBit = obl.modBaudot.testBit obl.modNbit
  stop : obl.modState = .stop → obl.modSample < numStopSamples
  hold : obl.modState = .hold → obl.modSample < holdSamples

variable {machine : Machine}

/-- One turn transmits the tone and leaves the rest. -/
structure Transmits (machine : Machine) (before : OBL) (tone : Bool) (rest : List Bool) (after : OBL) :
    Prop where
  step : before.step machine = (after, some (sampleAt machine (nextPhase machine before.modPhase tone)))
  working : after.Working
  left : after.tonesLeft = rest
  phase : after.modPhase = nextPhase machine before.modPhase tone
  coding : after.coding = before.coding
  modulating : after.modulating = before.modulating

theorem count_eq_zero {self : OBL} : self.modBuffer.count = 0 ↔ self.codes = [] :=
  RingQueue.contents_eq_nil.symm

theorem linkedTones_cons (code : Nat) (rest : List Nat) :
    linkedTones (code :: rest) =
      List.replicate samplesPerBit false ++ (bitTones code 0 ++ (stopTones ++ linkedTones rest)) := by
  simp only [linkedTones, List.flatMap_cons, codeTones, List.append_assoc]

/-- The start bit goes on, or is over and the first code is taken out of the ring. -/
theorem transmits_start {self : OBL} (hworking : self.Working) (hstate : self.modState = .start)
    {code : Nat} {codes : List Nat} (hcodes : self.codes = code :: codes) :
    ∃ after, Transmits machine self false
      (List.replicate (samplesPerBit - (self.modSample + 1)) false ++
        (bitTones code 0 ++ (stopTones ++ linkedTones codes))) after := by
  have hsample := (hworking.start hstate).2
  by_cases hlast : self.modSample + 1 = samplesPerBit
  · have hfront : self.modBuffer.front = code := RingQueue.front_of_contents hworking.ring hcodes
    have hcount : 0 < self.modBuffer.count := by
      refine Nat.pos_of_ne_zero fun hzero => ?_
      rw [count_eq_zero.mp hzero] at hcodes
      cases hcodes
    refine ⟨{ self with
      modPhase := nextPhase machine self.modPhase false
      modBaudot := code
      modBuffer := self.modBuffer.pop textBuf
      modNbit := 0
      modBit := code.testBit 0
      modSample := 0
      modState := .bit }, ?_, ?_, ?_, rfl, rfl, rfl⟩
    · simp [step, hstate, modulate, hlast, hfront]
    · exact ⟨hworking.ring.pop hcount, nofun, fun _ => ⟨samplesPerBit_pos, nbits_pos, rfl⟩, nofun, nofun⟩
    · have hrest : (self.modBuffer.pop textBuf).contents textBuf = codes :=
        RingQueue.contents_pop hworking.ring hcodes
      rw [hlast, Nat.sub_self, bitTones_of_lt (by decide), List.append_assoc]
      show List.replicate (samplesPerBit - 0) (code.testBit 0) ++ (bitTones code (0 + 1) ++
        (stopTones ++ linkedTones ((self.modBuffer.pop textBuf).contents textBuf))) = _
      rw [hrest]
      rfl
  · refine ⟨{ self with
      modPhase := nextPhase machine self.modPhase false
      modSample := self.modSample + 1 }, ?_, ?_, ?_, rfl, rfl, rfl⟩
    · simp [step, hstate, modulate, hlast]
    · refine ⟨hworking.ring, fun _ => ⟨(hworking.start hstate).1, ?_⟩, ?_, ?_, ?_⟩
      · show self.modSample + 1 < samplesPerBit
        omega
      all_goals simp [hstate]
    · simp only [tonesLeft, hstate, OBL.codes] at hcodes ⊢
      rw [hcodes]

/-- A data bit goes on, or is over and the next bit or the stop bit follows. -/
theorem transmits_bit {self : OBL} (hworking : self.Working) (hstate : self.modState = .bit) :
    ∃ after, Transmits machine self self.modBit
      (List.replicate (samplesPerBit - (self.modSample + 1)) self.modBit ++
        (bitTones self.modBaudot (self.modNbit + 1) ++ (stopTones ++ linkedTones self.codes))) after := by
  obtain ⟨hsample, hnbit, hbit⟩ := hworking.bit hstate
  by_cases hlast : self.modSample + 1 = samplesPerBit
  · by_cases hdone : self.modNbit + 1 = nbits
    · refine ⟨{ self with
        modPhase := nextPhase machine self.modPhase self.modBit
        modSample := 0
        modNbit := self.modNbit + 1
        modBit := self.modBaudot.testBit (self.modNbit + 1)
        modState := .stop }, ?_, ?_, ?_, rfl, rfl, rfl⟩
      · simp [step, hstate, modulate, hlast, hdone]
      · exact ⟨hworking.ring, nofun, nofun, fun _ => numStopSamples_pos, nofun⟩
      · rw [hlast, hdone, Nat.sub_self, bitTones_nbits]
        rfl
    · refine ⟨{ self with
        modPhase := nextPhase machine self.modPhase self.modBit
        modSample := 0
        modNbit := self.modNbit + 1
        modBit := self.modBaudot.testBit (self.modNbit + 1)
        modState := .bit }, ?_, ?_, ?_, rfl, rfl, rfl⟩
      · simp [step, hstate, modulate, hlast, hdone]
      · have hnext : self.modNbit + 1 < nbits := by omega
        exact ⟨hworking.ring, nofun, fun _ => ⟨samplesPerBit_pos, hnext, rfl⟩, nofun, nofun⟩
      · rw [hlast, Nat.sub_self, bitTones_of_lt (by omega), List.append_assoc]
        rfl
  · refine ⟨{ self with
      modPhase := nextPhase machine self.modPhase self.modBit
      modSample := self.modSample + 1 }, ?_, ?_, ?_, rfl, rfl, rfl⟩
    · simp [step, hstate, modulate, hlast]
    · refine ⟨hworking.ring, ?_, fun _ => ⟨?_, hnbit, hbit⟩, ?_, ?_⟩
      · simp [hstate]
      · show self.modSample + 1 < samplesPerBit
        omega
      all_goals simp [hstate]
    · simp only [tonesLeft, hstate, codes]

/-- The stop bit goes on, or is over and the next code or the hold tone follows. -/
theorem transmits_stop {self : OBL} (hworking : self.Working) (hstate : self.modState = .stop) :
    ∃ after, Transmits machine self true
      (List.replicate (numStopSamples - (self.modSample + 1)) true ++ linkedTones self.codes) after := by
  have hsample := hworking.stop hstate
  by_cases hlast : self.modSample + 1 = numStopSamples
  · by_cases hempty : self.codes = []
    · have hcount := count_eq_zero.mpr hempty
      refine ⟨{ self with
        modPhase := nextPhase machine self.modPhase true
        modSample := 0
        modState := .hold }, ?_, ?_, ?_, rfl, rfl, rfl⟩
      · simp [step, hstate, modulate, hlast, hcount]
      · exact ⟨hworking.ring, nofun, nofun, nofun, fun _ => holdSamples_pos⟩
      · rw [hlast, Nat.sub_self, hempty]
        exact if_pos hempty
    · have hcount : self.modBuffer.count ≠ 0 := fun hzero => hempty (count_eq_zero.mp hzero)
      refine ⟨{ self with
        modPhase := nextPhase machine self.modPhase true
        modSample := 0
        modState := .start }, ?_, ?_, ?_, rfl, rfl, rfl⟩
      · simp [step, hstate, modulate, hlast, hcount]
      · exact ⟨hworking.ring, fun _ => ⟨hempty, samplesPerBit_pos⟩, nofun, nofun, nofun⟩
      · obtain ⟨code, rest, hcodes⟩ := List.exists_cons_of_ne_nil hempty
        rw [hlast, Nat.sub_self, hcodes, linkedTones_cons]
        simp only [tonesLeft, codes] at hcodes ⊢
        rw [hcodes]
        rfl
  · refine ⟨{ self with
      modPhase := nextPhase machine self.modPhase true
      modSample := self.modSample + 1 }, ?_, ?_, ?_, rfl, rfl, rfl⟩
    · simp [step, hstate, modulate, hlast]
    · refine ⟨hworking.ring, ?_, ?_, fun _ => ?_, ?_⟩
      · simp [hstate]
      · simp [hstate]
      · show self.modSample + 1 < numStopSamples
        omega
      · simp [hstate]
    · simp only [tonesLeft, hstate, codes]

/-- The hold tone goes on, or is over, or a code has come. -/
theorem transmits_hold {self : OBL} (hworking : self.Working) (hstate : self.modState = .hold) :
    ∃ after, Transmits machine self true
      (if self.codes = [] then List.replicate (holdSamples - (self.modSample + 1)) true
        else linkedTones self.codes) after := by
  have hsample := hworking.hold hstate
  by_cases hempty : self.codes = []
  · have hcount := count_eq_zero.mpr hempty
    rw [if_pos hempty]
    by_cases hlast : self.modSample + 1 = holdSamples
    · refine ⟨{ self with
        modPhase := nextPhase machine self.modPhase true
        modSample := 0
        modState := .idle }, ?_, ?_, ?_, rfl, rfl, rfl⟩
      · simp [step, hstate, modulate, hlast, hcount]
      · exact ⟨hworking.ring, nofun, nofun, nofun, nofun⟩
      · rw [hlast, Nat.sub_self]
        exact if_pos hempty
    · refine ⟨{ self with
        modPhase := nextPhase machine self.modPhase true
        modSample := self.modSample + 1 }, ?_, ?_, ?_, rfl, rfl, rfl⟩
      · simp [step, hstate, modulate, hlast, hcount]
      · refine ⟨hworking.ring, ?_, ?_, ?_, fun _ => ?_⟩
        · simp [hstate]
        · simp [hstate]
        · simp [hstate]
        · show self.modSample + 1 < holdSamples
          omega
      · simp only [tonesLeft, hstate]
        exact if_pos hempty
  · have hcount : self.modBuffer.count ≠ 0 := fun hzero => hempty (count_eq_zero.mp hzero)
    rw [if_neg hempty]
    refine ⟨{ self with
      modPhase := nextPhase machine self.modPhase true
      modSample := 0
      modState := .start }, ?_, ?_, ?_, rfl, rfl, rfl⟩
    · simp [step, hstate, modulate, hcount]
    · exact ⟨hworking.ring, fun _ => ⟨hempty, samplesPerBit_pos⟩, nofun, nofun, nofun⟩
    · obtain ⟨code, rest, hcodes⟩ := List.exists_cons_of_ne_nil hempty
      rw [hcodes, linkedTones_cons]
      simp only [tonesLeft, codes] at hcodes ⊢
      rw [hcodes]
      rfl

theorem tonesLeft_idle {self : OBL} (hstate : self.modState = .idle) {code : Nat} {codes : List Nat}
    (hcodes : self.codes = code :: codes) :
    self.tonesLeft = false :: (List.replicate (samplesPerBit - 1) false ++
      (bitTones code 0 ++ (stopTones ++ linkedTones codes))) := by
  have hleft : self.tonesLeft = linkedTones (code :: codes) := by
    simp [tonesLeft, hstate, textTones, hcodes]
  rw [hleft, linkedTones_cons]
  rfl

/-- A transmission begins with the first sample of its start bit. -/
theorem transmits_idle {self : OBL} (hworking : self.Working) (hstate : self.modState = .idle)
    {code : Nat} {codes : List Nat} (hcodes : self.codes = code :: codes) :
    ∃ after, Transmits machine self false
      (List.replicate (samplesPerBit - 1) false ++
        (bitTones code 0 ++ (stopTones ++ linkedTones codes))) after := by
  have hempty : self.codes ≠ [] := by
    rw [hcodes]
    exact List.cons_ne_nil _ _
  have hcount : self.modBuffer.count ≠ 0 := fun hzero => hempty (count_eq_zero.mp hzero)
  refine ⟨{ self with
    modPhase := nextPhase machine self.modPhase false
    modSample := 1
    modState := .start }, ?_, ?_, ?_, rfl, rfl, rfl⟩
  · simp [step, hstate, modulate, hcount]
  · exact ⟨hworking.ring, fun _ => ⟨hempty, one_lt_samplesPerBit⟩, nofun, nofun, nofun⟩
  · simp only [tonesLeft, OBL.codes] at hcodes ⊢
    rw [hcodes]

/-- **Every turn transmits the first of the tones that are left.** -/
theorem transmits_of_cons {self : OBL} (hworking : self.Working) {tone : Bool} {rest : List Bool}
    (htones : self.tonesLeft = tone :: rest) : ∃ after, Transmits machine self tone rest after := by
  cases hstate : self.modState with
  | idle =>
      cases hcodes : self.codes with
      | nil => simp [tonesLeft, hstate, textTones, hcodes] at htones
      | cons code codes =>
          rw [tonesLeft_idle hstate hcodes, List.cons.injEq] at htones
          rw [← htones.1, ← htones.2]
          exact transmits_idle hworking hstate hcodes
  | start =>
      obtain ⟨hne, hsample⟩ := hworking.start hstate
      obtain ⟨code, codes, hcodes⟩ := List.exists_cons_of_ne_nil hne
      simp only [tonesLeft, hstate, hcodes, replicate_sub hsample, List.cons_append,
        List.cons.injEq] at htones
      rw [← htones.1, ← htones.2]
      exact transmits_start hworking hstate hcodes
  | bit =>
      simp only [tonesLeft, hstate, replicate_sub (hworking.bit hstate).1, List.cons_append,
        List.cons.injEq] at htones
      rw [← htones.1, ← htones.2]
      exact transmits_bit hworking hstate
  | stop =>
      simp only [tonesLeft, hstate, replicate_sub (hworking.stop hstate), List.cons_append,
        List.cons.injEq] at htones
      rw [← htones.1, ← htones.2]
      exact transmits_stop hworking hstate
  | hold =>
      have hleft : self.tonesLeft = true ::
          if self.codes = [] then List.replicate (holdSamples - (self.modSample + 1)) true
          else linkedTones self.codes := by
        simp only [tonesLeft, hstate, replicate_sub (hworking.hold hstate)]
        split_ifs <;> rfl
      rw [hleft, List.cons.injEq] at htones
      rw [← htones.1, ← htones.2]
      exact transmits_hold hworking hstate

/-- With nothing left the modulator is idle, and turns change nothing. -/
theorem idle_of_nil {self : OBL} (hworking : self.Working) (htones : self.tonesLeft = []) :
    self.modState = .idle ∧ self.codes = [] ∧ self.step machine = (self, none) := by
  cases hstate : self.modState with
  | idle =>
      cases hcodes : self.codes with
      | nil => exact ⟨rfl, rfl, by simp [step, hstate, count_eq_zero.mpr hcodes]⟩
      | cons code codes =>
          rw [tonesLeft_idle hstate hcodes] at htones
          exact absurd htones (List.cons_ne_nil _ _)
  | start =>
      obtain ⟨hne, hsample⟩ := hworking.start hstate
      obtain ⟨code, codes, hcodes⟩ := List.exists_cons_of_ne_nil hne
      simp [tonesLeft, hstate, hcodes, replicate_sub hsample] at htones
  | bit => simp [tonesLeft, hstate, replicate_sub (hworking.bit hstate).1] at htones
  | stop => simp [tonesLeft, hstate, replicate_sub (hworking.stop hstate)] at htones
  | hold =>
      simp only [tonesLeft, hstate, replicate_sub (hworking.hold hstate)] at htones
      split_ifs at htones

/-! ## A block of samples -/

theorem samplesOf_append (phase : Nat) (before after : List Bool) :
    samplesOf machine phase (before ++ after) =
      ((samplesOf machine phase before).1 ++
          (samplesOf machine (samplesOf machine phase before).2 after).1,
        (samplesOf machine (samplesOf machine phase before).2 after).2) := by
  induction before generalizing phase with
  | nil => rfl
  | cons bit before ih => rw [List.cons_append, samplesOf, ih]; rfl

theorem length_samplesOf (phase : Nat) (tones : List Bool) :
    (samplesOf machine phase tones).1.length = tones.length := by
  induction tones generalizing phase with
  | nil => rfl
  | cons bit tones ih => exact congrArg Nat.succ (ih _)

/-- What is the same before and after any number of turns, and what is transmitted in between. -/
structure Transmitted (machine : Machine) (before : OBL) (tones : List Bool) (after : OBL) : Prop where
  working : after.Working
  left : before.tonesLeft = tones ++ after.tonesLeft
  phase : after.modPhase = (samplesOf machine before.modPhase tones).2
  coding : after.coding = before.coding
  modulating : after.modulating = before.modulating

theorem transmitted_steps (n : Nat) {self : OBL} (hworking : self.Working) :
    Transmitted machine self (self.tonesLeft.take n) (steps machine n self).1 ∧
      (steps machine n self).2 =
        (samplesOf machine self.modPhase (self.tonesLeft.take n)).1.map some ++
          List.replicate (n - self.tonesLeft.length) none := by
  induction n generalizing self with
  | zero =>
      rw [List.take_zero]
      exact ⟨⟨hworking, rfl, rfl, rfl, rfl⟩, by simp [steps, samplesOf]⟩
  | succ n ih =>
      cases htones : self.tonesLeft with
      | nil =>
          have hstep := (@idle_of_nil machine self hworking htones).2.2
          obtain ⟨hrest, hsamples⟩ := ih hworking
          rw [htones, List.take_nil] at hrest hsamples
          rw [List.take_nil, steps, hstep]
          refine ⟨hrest, ?_⟩
          show none :: (steps machine n self).2 = _
          rw [hsamples]
          simp [samplesOf, List.replicate_succ]
      | cons tone rest =>
          obtain ⟨after, hafter⟩ := @transmits_of_cons machine self hworking tone rest htones
          obtain ⟨hrest, hsamples⟩ := ih hafter.working
          rw [hafter.left] at hrest hsamples
          rw [List.take_succ_cons, steps, hafter.step]
          refine ⟨⟨hrest.working, ?_, ?_, hrest.coding.trans hafter.coding,
            hrest.modulating.trans hafter.modulating⟩, ?_⟩
          · rw [htones]
            exact congrArg (tone :: ·) (hafter.left.symm.trans hrest.left)
          · rw [hrest.phase, hafter.phase]
            rfl
          · show some _ :: (steps machine n after).2 = _
            rw [hsamples, hafter.phase, List.length_cons, Nat.add_sub_add_right]
            rfl

/-! ## The codes of a text -/

theorem encodeChar_length_pos (coding : Coding) (c : Nat) : 0 < (encodeChar machine coding c).2.length := by
  show 0 < (_ ++ [_]).length
  rw [List.length_append]
  exact Nat.succ_pos _

/-- As long as the ring has room for all the codes, every one of them is put into it. -/
theorem queueAll_codes {chars : List Nat} {self : OBL} (hring : self.modBuffer.Valid textBuf)
    (hroom : self.modBuffer.count + (encodeAll machine self.coding chars).2.length ≤ textBuf) :
    ∃ ring : RingQueue Nat, ring.Valid textBuf ∧
      ring.contents textBuf = self.codes ++ (encodeAll machine self.coding chars).2 ∧
      queueAll machine chars self =
        { self with coding := (encodeAll machine self.coding chars).1, modBuffer := ring } := by
  induction chars generalizing self with
  | nil => exact ⟨self.modBuffer, hring, (List.append_nil _).symm, rfl⟩
  | cons c rest ih =>
      rw [encodeAll, List.length_append] at hroom
      have hpos := @encodeChar_length_pos machine self.coding c
      obtain ⟨hvalid, hcontents⟩ := RingQueue.contents_foldl_push hring
        (show self.modBuffer.count + (encodeChar machine self.coding c).2.length ≤ textBuf by omega)
      have hcount := congrArg List.length hcontents
      rw [RingQueue.length_contents, List.length_append, RingQueue.length_contents] at hcount
      have hleft : (List.foldl (RingQueue.push textBuf) self.modBuffer
            (encodeChar machine self.coding c).2).count +
          (encodeAll machine (encodeChar machine self.coding c).1 rest).2.length ≤ textBuf := by
        omega
      obtain ⟨ring, hring', hcodes, hqueue⟩ := @ih
        { self with
          coding := (encodeChar machine self.coding c).1
          modBuffer := (encodeChar machine self.coding c).2.foldl (RingQueue.push textBuf) self.modBuffer }
        hvalid hleft
      refine ⟨ring, hring', ?_, ?_⟩
      · rw [hcodes]
        show (List.foldl _ _ _ : RingQueue Nat).contents textBuf ++ _ = _
        rw [hcontents, List.append_assoc]
        rfl
      · rw [queueAll, if_pos (by omega)]
        exact hqueue

theorem working_init : OBL.init.Working := by
  refine ⟨⟨by decide, rfl, by decide⟩, ?_, ?_, ?_, ?_⟩ <;> rintro ⟨⟩

/-- What the modem is after a text was queued whose codes are these, and the coding after them. -/
structure Queues (before : OBL) (codes : Coding × List Nat) (after : OBL) : Prop where
  working : after.Working
  tones : after.tonesLeft = textTones codes.2
  coding : after.coding = codes.1
  phase : after.modPhase = before.modPhase
  modulating : after.modulating = true
  count : after.modBuffer.count = codes.2.length

/-- **A text is queued whole** by an idle modem that has room for its codes. -/
theorem queues_txQueue {self : OBL} (hworking : self.Working) (hidle : self.tonesLeft = []) {text : Bytes}
    (hzero : 0 ∉ text) (hroom : (encodeAll machine self.coding (characters 0 text)).2.length ≤ textBuf) :
    Queues self (encodeAll machine self.coding (characters 0 text)) (self.txQueue machine text) := by
  obtain ⟨hstate, hcodes, -⟩ := @idle_of_nil machine self hworking hidle
  have htext : text.takeWhile (· ≠ 0) = text := by
    rw [List.takeWhile_eq_self_iff]
    exact fun byte hbyte => decide_eq_true fun heq => hzero (heq ▸ hbyte)
  have hfits : self.modBuffer.count + (encodeAll machine self.coding (characters 0 text)).2.length ≤ textBuf := by
    rw [count_eq_zero.mpr hcodes, Nat.zero_add]
    exact hroom
  obtain ⟨ring, hring, hcontents, hqueue⟩ := @queueAll_codes machine (characters 0 text)
    { self with modulating := true } hworking.ring hfits
  have hqueued : self.txQueue machine text =
      { self with
        modulating := true
        coding := (encodeAll machine self.coding (characters 0 text)).1
        modBuffer := ring } := by
    rw [txQueue, htext]
    exact hqueue
  have hleft : ring.contents textBuf = (encodeAll machine self.coding (characters 0 text)).2 := by
    rw [hcontents]
    show self.codes ++ _ = _
    rw [hcodes, List.nil_append]
  rw [hqueued]
  refine ⟨⟨hring, ?_, ?_, ?_, ?_⟩, ?_, rfl, rfl, rfl, ?_⟩
  · simp [hstate]
  · simp [hstate]
  · simp [hstate]
  · simp [hstate]
  · rw [tonesLeft, hstate]
    show textTones (ring.contents textBuf) = _
    rw [hleft]
  · show ring.count = _
    rw [← hleft, RingQueue.length_contents]

end OBL

end SipSimple.Core.Baudot
