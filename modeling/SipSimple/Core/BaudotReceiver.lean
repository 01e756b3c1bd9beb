import Mathlib.Algebra.Order.Group.Abs
import Mathlib.Algebra.Order.Group.Int
import Mathlib.Data.Nat.Bitwise
import SipSimple.Core.BaudotSignal
import SipSimple.Library.SerialLine

/-!
# The Baudot receiver

The receiving half of the modem in `openbaudot/src/obl.c`, as `TTYDemodulator` of `core/_core.sound.pxi` uses
it: `demod_dsp` filters the two tones out of the samples in fixed point, and `obl_demodulate` takes the bits
of a character from what the filter shows. The factors of the filter come from floating point numbers and are
parameters here. The estimate of the speed, which nothing reads, is left out.

The receiver runs at 47 baud, and takes the characters of lines at 45, 47 and 50 baud: `run_frame` is for
all the lines whose timing fits.
-/

namespace SipSimple.Core.Baudot

/-! ### The filter -/

/-- `c1`, `c2` and `c3` -/
structure Factors where
  one : Int
  decay : Int
  zero : Int

/-- The value that a `short` keeps of an integer. -/
def short (value : Int) : Int := Int.bmod value 65536

/-- The last results of the two tones' filters, and the last inputs of the two sums, the oldest first. -/
structure Filter where
  demOne : Int × Int
  demZero : Int × Int
  demLpfIn : List Int
  demLpf : Int
  demTotalIn : List Int
  demTotal : Int

/-- `dem_lpf` and `dem_total` after a sample. -/
structure Reading where
  lpf : Int
  total : Int
  deriving DecidableEq

namespace Filter

/-- `OBL_LPF` -/
def order : Nat := 20

def reset : Filter := ⟨(0, 0), (0, 0), List.replicate order 0, 0, List.replicate order 0, 0⟩

/-- One resonator: the sample with the last two results. -/
def resonate (factor decay sample : Int) (last : Int × Int) : Int × Int :=
  let value := short (sample + factor * last.1 / 32768)
  (short (value - decay * last.2 / 32768), last.1)

/-- `demod_dsp` -/
def demodDsp (factors : Factors) (self : Filter) (sample : Int) : Filter :=
  let sample := short sample / 32
  let one := resonate factors.one factors.decay sample self.demOne
  let zero := resonate factors.zero factors.decay sample self.demZero
  let x := short (|one.1| - |zero.1|)
  let energy := short |sample|
  { demOne := one
    demZero := zero
    demLpf := self.demLpf - self.demLpfIn.headD 0 + x
    demLpfIn := self.demLpfIn.tail ++ [x]
    demTotal := self.demTotal - self.demTotalIn.headD 0 + energy
    demTotalIn := self.demTotalIn.tail ++ [energy] }

def reading (self : Filter) : Reading := ⟨self.demLpf, self.demTotal⟩

/-- What the filter shows after each of the samples. -/
def readings (factors : Factors) : Filter → List Int → List Reading
  | _, [] => []
  | self, sample :: samples =>
      (self.demodDsp factors sample).reading :: readings factors (self.demodDsp factors sample) samples

end Filter

/-! ### The receiver -/

/-- `FS/DEM_BAUD`, `FS/OBL_BAUD_45` and `MIN_THRESH` -/
def demPeriod : Int := 170
def dropOutSamples : Nat := 177
def minThresh : Int := 3

inductive DemState
  | waitStart
  | sample
  | waitStop
  deriving DecidableEq

/-- What the receiver calls back with. -/
inductive DemEvent
  | case (figures : Bool)
  | char (ascii : Nat)
  deriving DecidableEq

/-- The receiver's part of `OBL`; `posted` holds the calls of the callback. -/
structure Receiver where
  demState : DemState
  demSample : Int
  demBaudot : Nat
  demBit : Nat
  demMinSigTimeout : Nat
  /-- `dem_letters_figures` is `FIGURES`. -/
  figures : Bool
  posted : List DemEvent

namespace Receiver

/-- `obl_init` and `obl_reset` -/
def reset : Receiver := ⟨.waitStart, 0, 0, 0, 0, false, []⟩

/-- `baudot_to_ascii` -/
def toAscii (figures : Bool) (code : Nat) : Nat := (if figures then figureRow else letterRow).getD code 0

/-- What a complete code does. -/
def complete (self : Receiver) (code : Nat) : Receiver :=
  if code = letr then { self with figures := false, posted := self.posted ++ [.case false] }
  else if code = figr then { self with figures := true, posted := self.posted ++ [.case true] }
  else { self with posted := self.posted ++ [.char (toAscii self.figures code)] }

/-- The bit is taken when the counter has come to zero. -/
def takeBit (self : Receiver) (reading : Reading) : Receiver :=
  if self.demSample - 1 = 0 then
    let baudot := if 0 < reading.lpf then self.demBaudot ||| 1 <<< self.demBit else self.demBaudot
    let taken : Receiver :=
      { self with demBaudot := baudot, demBit := self.demBit + 1, demSample := demPeriod }
    if self.demBit + 1 = nbits then { taken.complete baudot with demState := .waitStop } else taken
  else { self with demSample := self.demSample - 1 }

/-- A signal that is weak for long enough is lost. -/
def checkDropOut (self : Receiver) (reading : Reading) : Receiver :=
  if |reading.lpf| < minThresh * reading.total ∨ reading.total = 0 then
    let timeout := self.demMinSigTimeout + 1
    { self with
      demMinSigTimeout := timeout
      demState := if dropOutSamples < timeout then .waitStart else self.demState }
  else { self with demMinSigTimeout := 0 }

/-- One turn of the loop of `obl_demodulate`, after the filter. -/
def receive (self : Receiver) (reading : Reading) : Receiver :=
  match self.demState with
  | .waitStart =>
      if reading.lpf < -minThresh * reading.total ∧ reading.total ≠ 0 then
        { self with
          demSample := demPeriod + demPeriod / 2
          demBaudot := 0
          demBit := 0
          demState := .sample }
      else self
  | .sample => (self.takeBit reading).checkDropOut reading
  | .waitStop =>
      let counted : Receiver := { self with demSample := self.demSample - 1 }
      if counted.demSample = 0 then { counted with demState := .waitStart } else counted

end Receiver

/-- The receiving modem. -/
structure Demodulator where
  filter : Filter
  receiver : Receiver

namespace Demodulator

def reset : Demodulator := ⟨.reset, .reset⟩

/-- `obl_demodulate` of one sample, of a modem that does not transmit. -/
def step (factors : Factors) (self : Demodulator) (sample : Int) : Demodulator :=
  let filter := self.filter.demodDsp factors sample
  ⟨filter, self.receiver.receive filter.reading⟩

def demodulate (factors : Factors) (self : Demodulator) (samples : List Int) : Demodulator :=
  samples.foldl (step factors) self

end Demodulator

namespace Receiver

/-! ### One reading -/

/-- The filter shows the tone: not weak, and on the right side. -/
def Sure : Bool → Reading → Prop
  | true, reading => 0 < reading.total ∧ minThresh * reading.total ≤ reading.lpf
  | false, reading => 0 < reading.total ∧ reading.lpf < -minThresh * reading.total

instance : ∀ tone reading, Decidable (Sure tone reading)
  | true, _ => inferInstanceAs (Decidable (_ ∧ _))
  | false, _ => inferInstanceAs (Decidable (_ ∧ _))

theorem Sure.total {tone : Bool} {reading : Reading} (h : Sure tone reading) : 0 < reading.total := by
  cases tone with
  | false => exact h.1
  | true => exact h.1

theorem Sure.lpf_pos_iff {tone : Bool} {reading : Reading} (h : Sure tone reading) :
    0 < reading.lpf ↔ tone = true := by
  cases tone with
  | false =>
      obtain ⟨htotal, hlpf⟩ := h
      simp only [minThresh] at hlpf
      simp only [Bool.false_eq_true, iff_false]
      omega
  | true =>
      obtain ⟨htotal, hlpf⟩ := h
      simp only [minThresh] at hlpf
      simp only [iff_true]
      omega

/-- What is sure is not weak. -/
theorem Sure.not_weak {tone : Bool} {reading : Reading} (h : Sure tone reading) :
    ¬ (|reading.lpf| < minThresh * reading.total ∨ reading.total = 0) := by
  cases tone with
  | false =>
      obtain ⟨htotal, hlpf⟩ := h
      rw [abs_lt]
      simp only [minThresh] at hlpf ⊢
      omega
  | true =>
      obtain ⟨htotal, hlpf⟩ := h
      rw [abs_lt]
      simp only [minThresh] at hlpf ⊢
      omega

/-- The reading starts no character. -/
def Quiet (reading : Reading) : Prop := ¬ (reading.lpf < -minThresh * reading.total ∧ reading.total ≠ 0)

instance (reading : Reading) : Decidable (Quiet reading) := inferInstanceAs (Decidable (¬ _))

theorem Sure.quiet {reading : Reading} (h : Sure true reading) : Quiet reading := by
  obtain ⟨htotal, hlpf⟩ := h
  simp only [Quiet, minThresh] at hlpf ⊢
  omega

theorem Sure.starts {reading : Reading} (h : Sure false reading) : ¬ Quiet reading := by
  obtain ⟨htotal, hlpf⟩ := h
  simp only [Quiet, minThresh] at hlpf ⊢
  omega

/-- The receiver waits for a start bit. -/
structure Waiting (receiver : Receiver) : Prop where
  demState : receiver.demState = .waitStart
  demMinSigTimeout : receiver.demMinSigTimeout = 0

theorem receive_quiet {self : Receiver} (h : self.Waiting) {reading : Reading} (hquiet : Quiet reading) :
    self.receive reading = self := by
  rw [receive, h.demState]
  exact if_neg hquiet

theorem run_unstarted {self : Receiver} (h : self.Waiting) {readings : List Reading}
    (hquiet : ∀ reading ∈ readings, Quiet reading) : readings.foldl receive self = self := by
  induction readings with
  | nil => rfl
  | cons reading readings ih =>
      rw [List.foldl_cons, receive_quiet h (hquiet reading List.mem_cons_self)]
      exact ih fun other hother => hquiet other (List.mem_cons_of_mem _ hother)

/-- The receiver has taken the first `bits` bits of the code, and takes the next in `left` samples. -/
structure Sampling (before : Receiver) (code bits : Nat) (left : Int) (receiver : Receiver) : Prop where
  demState : receiver.demState = .sample
  demBit : receiver.demBit = bits
  demSample : receiver.demSample = left
  demBaudot : ∀ bit, receiver.demBaudot.testBit bit = (decide (bit < bits) && code.testBit bit)
  figures : receiver.figures = before.figures
  posted : receiver.posted = before.posted

theorem receive_start {self : Receiver} (h : self.Waiting) {reading : Reading} (hstart : ¬ Quiet reading)
    (code : Nat) :
    Sampling self code 0 255 (self.receive reading) ∧ (self.receive reading).demMinSigTimeout = 0 := by
  have hreceive : self.receive reading =
      { self with demSample := 255, demBaudot := 0, demBit := 0, demState := .sample } := by
    rw [receive, h.demState]
    exact if_pos (not_not.mp hstart)
  rw [hreceive]
  exact ⟨⟨rfl, rfl, rfl, fun bit => by simp, rfl, rfl⟩, h.demMinSigTimeout⟩

theorem receive_sampling {self : Receiver} (h : self.demState = .sample) (reading : Reading) :
    self.receive reading = (self.takeBit reading).checkDropOut reading := by
  simp only [receive, h]

/-- Between two bits only the counters change. -/
theorem receive_between {before self : Receiver} {code bits : Nat} {left : Int}
    (h : Sampling before code bits left self) (hleft : left ≠ 1) (htimeout : self.demMinSigTimeout < 177)
    (reading : Reading) :
    Sampling before code bits (left - 1) (self.receive reading) ∧
      (self.receive reading).demMinSigTimeout ≤ self.demMinSigTimeout + 1 ∧
      ∀ tone, Sure tone reading → (self.receive reading).demMinSigTimeout = 0 := by
  have htake : self.takeBit reading = { self with demSample := self.demSample - 1 } := by
    rw [takeBit]
    exact if_neg (by rw [h.demSample]; omega)
  rw [receive_sampling h.demState, htake, checkDropOut]
  split_ifs with hweak
  · have hkept : ¬ dropOutSamples < self.demMinSigTimeout + 1 := by
      unfold dropOutSamples
      omega
    refine ⟨⟨?_, h.demBit, ?_, h.demBaudot, h.figures, h.posted⟩, le_rfl, fun tone hsure => ?_⟩
    · exact (if_neg hkept).trans h.demState
    · exact congrArg (· - 1) h.demSample
    · exact absurd hweak hsure.not_weak
  · exact ⟨⟨h.demState, h.demBit, congrArg (· - 1) h.demSample, h.demBaudot, h.figures, h.posted⟩, by simp,
      fun _ _ => rfl⟩

/-- Any readings between two bits, as long as they are too few for the signal to be lost. -/
theorem run_between {before self : Receiver} {code bits : Nat} {left : Int}
    (h : Sampling before code bits left self) {readings : List Reading} (hleft : readings.length < left)
    (htimeout : self.demMinSigTimeout + readings.length ≤ 177) :
    Sampling before code bits (left - readings.length) (readings.foldl receive self) ∧
      (readings.foldl receive self).demMinSigTimeout ≤ self.demMinSigTimeout + readings.length := by
  induction readings generalizing self left with
  | nil => simpa using h
  | cons reading readings ih =>
      rw [List.length_cons] at hleft htimeout
      obtain ⟨hnext, hcount, -⟩ := receive_between h (by omega) (by omega) reading
      obtain ⟨hlast, htotal⟩ := ih hnext (by omega) (by omega)
      rw [List.foldl_cons, List.length_cons]
      refine ⟨?_, by omega⟩
      rwa [show left - ↑(readings.length + 1) = left - 1 - ↑readings.length by omega]

/-- Any number of sure readings between two bits. -/
theorem run_sure_between {before self : Receiver} {code bits : Nat} {left : Int}
    (h : Sampling before code bits left self) {tone : Bool} {readings : List Reading}
    (hleft : readings.length < left) (htimeout : self.demMinSigTimeout < 177)
    (hsure : ∀ reading ∈ readings, Sure tone reading) :
    Sampling before code bits (left - readings.length) (readings.foldl receive self) ∧
      (readings.foldl receive self).demMinSigTimeout =
        if readings = [] then self.demMinSigTimeout else 0 := by
  induction readings generalizing self left with
  | nil => exact ⟨by simpa using h, rfl⟩
  | cons reading readings ih =>
      rw [List.length_cons] at hleft
      obtain ⟨hnext, -, hzero⟩ := receive_between h (by omega) htimeout reading
      have hzero := hzero tone (hsure reading List.mem_cons_self)
      obtain ⟨hlast, htotal⟩ := ih hnext (by omega) (by omega)
        fun other hother => hsure other (List.mem_cons_of_mem _ hother)
      rw [List.foldl_cons, List.length_cons, if_neg (List.cons_ne_nil _ _), htotal, hzero]
      refine ⟨?_, by simp⟩
      rwa [show left - ↑(readings.length + 1) = left - 1 - ↑readings.length by omega]

/-! ### One bit -/

/-- The bits taken so far with the next one. -/
theorem testBit_take {code baudot bits : Nat}
    (h : ∀ bit, baudot.testBit bit = (decide (bit < bits) && code.testBit bit)) (bit : Nat) :
    (if code.testBit bits then baudot ||| 1 <<< bits else baudot).testBit bit =
      (decide (bit < bits + 1) && code.testBit bit) := by
  have hone : (1 <<< bits).testBit bit = decide (bits = bit) := by
    rw [Nat.one_shiftLeft, Nat.testBit_two_pow]
  by_cases hbit : bit = bits
  · subst hbit
    cases hcode : code.testBit bit with
    | false => simp [h, hcode]
    | true => simp [hone]
  · have hlt : decide (bit < bits + 1) = decide (bit < bits) := by
      rw [decide_eq_decide]
      omega
    have hne : decide (bits = bit) = false := decide_eq_false (Ne.symm hbit)
    rw [hlt, ← h]
    split_ifs with hcode
    · rw [Nat.testBit_or, hone, hne, Bool.or_false]
    · rfl

/-- All the bits of a code are the code. -/
theorem eq_of_testBit {code baudot : Nat} (hcode : code < 32)
    (h : ∀ bit, baudot.testBit bit = (decide (bit < nbits) && code.testBit bit)) : baudot = code := by
  apply Nat.eq_of_testBit_eq
  intro bit
  rw [h]
  by_cases hbit : bit < nbits
  · rw [decide_eq_true hbit, Bool.true_and]
  · have hpow : 2 ^ nbits ≤ 2 ^ bit := Nat.pow_le_pow_right (by omega) (by omega)
    have hbig : code < 2 ^ bit := lt_of_lt_of_le hcode hpow
    rw [Nat.testBit_lt_two_pow hbig, Bool.and_false]

/-- What a code means, with the case that holds, and the case that holds then. -/
def decode (figures : Bool) (code : Nat) : Bool × DemEvent :=
  if code = letr then (false, .case false)
  else if code = figr then (true, .case true)
  else (figures, .char (toAscii figures code))

theorem complete_eq (self : Receiver) (code : Nat) :
    self.complete code =
      { self with
        figures := (decode self.figures code).1
        posted := self.posted ++ [(decode self.figures code).2] } := by
  unfold complete decode
  split_ifs <;> rfl

/-- A bit that is not the last, read while the tone is sure. -/
theorem receive_bit {before self : Receiver} {code bits : Nat} (h : Sampling before code bits 1 self)
    (hbits : bits + 1 < nbits) {reading : Reading} (hsure : Sure (code.testBit bits) reading) :
    Sampling before code (bits + 1) 170 (self.receive reading) ∧
      (self.receive reading).demMinSigTimeout = 0 := by
  have hzero : self.demSample - 1 = 0 := by
    rw [h.demSample]
    omega
  have hmore : ¬ self.demBit + 1 = nbits := by
    rw [h.demBit]
    omega
  rw [receive_sampling h.demState, checkDropOut, if_neg hsure.not_weak, takeBit, if_pos hzero, if_neg hmore]
  refine ⟨⟨h.demState, congrArg (· + 1) h.demBit, rfl, fun bit => ?_, h.figures, h.posted⟩, rfl⟩
  rw [← testBit_take h.demBaudot bit, h.demBit]
  simp only [hsure.lpf_pos_iff]

/-- The code has been taken, and what it means has been posted. -/
structure Completed (before : Receiver) (code : Nat) (receiver : Receiver) : Prop where
  demMinSigTimeout : receiver.demMinSigTimeout = 0
  figures : receiver.figures = (decode before.figures code).1
  posted : receiver.posted = before.posted ++ [(decode before.figures code).2]

/-- The receiver waits in the stop bit. -/
structure Stopping (before : Receiver) (code : Nat) (left : Int) (receiver : Receiver) : Prop where
  demState : receiver.demState = .waitStop
  demSample : receiver.demSample = left
  completed : Completed before code receiver

/-- The last bit. -/
theorem receive_last {before self : Receiver} {code bits : Nat} (h : Sampling before code bits 1 self)
    (hbits : bits + 1 = nbits) (hcode : code < 32) {reading : Reading}
    (hsure : Sure (code.testBit bits) reading) : Stopping before code 170 (self.receive reading) := by
  have hzero : self.demSample - 1 = 0 := by
    rw [h.demSample]
    omega
  have hlast : self.demBit + 1 = nbits := by
    rw [h.demBit]
    omega
  have hbaudot : (if 0 < reading.lpf then self.demBaudot ||| 1 <<< self.demBit else self.demBaudot) = code := by
    refine eq_of_testBit hcode fun bit => ?_
    rw [← hbits, ← testBit_take h.demBaudot bit, h.demBit]
    simp only [hsure.lpf_pos_iff]
  rw [receive_sampling h.demState, checkDropOut, if_neg hsure.not_weak, takeBit, if_pos hzero, if_pos hlast,
    hbaudot, complete_eq]
  refine ⟨rfl, rfl, rfl, ?_, ?_⟩
  · show (decode self.figures code).1 = _
    rw [h.figures]
  · show self.posted ++ [(decode self.figures code).2] = _
    rw [h.figures, h.posted]

theorem receive_stopping {before self : Receiver} {code : Nat} {left : Int} (h : Stopping before code left self)
    (hleft : left ≠ 1) (reading : Reading) : Stopping before code (left - 1) (self.receive reading) := by
  have hcount : self.demSample - 1 = left - 1 := congrArg (· - 1) h.demSample
  have hreceive : self.receive reading = { self with demSample := self.demSample - 1 } := by
    simp only [receive, h.demState]
    exact if_neg (by omega)
  rw [hreceive]
  exact ⟨h.demState, hcount, h.completed.demMinSigTimeout, h.completed.figures, h.completed.posted⟩

theorem run_stopping {before self : Receiver} {code : Nat} {left : Int} (h : Stopping before code left self)
    {readings : List Reading} (hleft : readings.length < left) :
    Stopping before code (left - readings.length) (readings.foldl receive self) := by
  induction readings generalizing self left with
  | nil => simpa using h
  | cons reading readings ih =>
      rw [List.length_cons] at hleft
      rw [List.foldl_cons, List.length_cons, show left - ↑(readings.length + 1) = left - 1 - ↑readings.length by omega]
      exact ih (receive_stopping h (by omega) reading) (by omega)

/-- In the middle of the stop bit the receiver waits for the next character. -/
theorem receive_stopped {before self : Receiver} {code : Nat} (h : Stopping before code 1 self)
    (reading : Reading) :
    (self.receive reading).demState = .waitStart ∧ Completed before code (self.receive reading) := by
  have hzero : self.demSample - 1 = 0 := by
    rw [h.demSample]
    omega
  have hreceive : self.receive reading =
      { self with demSample := self.demSample - 1, demState := .waitStart } := by
    simp only [receive, h.demState]
    exact if_pos hzero
  rw [hreceive]
  exact ⟨rfl, h.completed.demMinSigTimeout, h.completed.figures, h.completed.posted⟩

/-! ### One segment of the line -/

/-- A settled segment around one of its sure readings. -/
theorem split_settled {tone : Bool} {slack n : Nat} {segment : List Reading}
    (h : SerialLine.Settles Sure slack tone segment) (hslack : slack ≤ n) (hn : n < segment.length) :
    ∃ noise between reading rest, segment = noise ++ between ++ reading :: rest ∧ noise.length = slack ∧
      between.length = n - slack ∧ rest.length = segment.length - (n + 1) ∧
      (∀ other ∈ between, Sure tone other) ∧ Sure tone reading ∧ ∀ other ∈ rest, Sure tone other := by
  have hdrop : (segment.drop slack).drop (n - slack) = segment[n] :: segment.drop (n + 1) := by
    rw [List.drop_drop, show slack + (n - slack) = n by omega, List.drop_eq_getElem_cons hn]
  have hrest : segment[n] :: segment.drop (n + 1) ⊆ segment.drop slack := by
    rw [← hdrop]
    exact List.drop_subset _ _
  refine ⟨segment.take slack, (segment.drop slack).take (n - slack), segment[n], segment.drop (n + 1), ?_, ?_,
    ?_, ?_, ?_, ?_, ?_⟩
  · rw [List.append_assoc, ← hdrop, List.take_append_drop, List.take_append_drop]
  · rw [List.length_take]
    omega
  · rw [List.length_take, List.length_drop]
    omega
  · rw [List.length_drop]
  · exact fun other hother => h other (List.take_subset _ _ hother)
  · exact h _ (hrest List.mem_cons_self)
  · exact fun other hother => h other (hrest (List.mem_cons_of_mem _ hother))

/-- The receiver comes to the reading at which it takes the next bit. -/
theorem run_to_bit {before self : Receiver} {code bits slack left : Nat} {tone : Bool}
    (h : Sampling before code bits left self) (htimeout : self.demMinSigTimeout = 0) (hslack : slack ≤ 176)
    {noise between : List Reading} (hnoise : noise.length = slack) (hleft : slack + between.length + 1 = left)
    (hsure : ∀ other ∈ between, Sure tone other) :
    Sampling before code bits 1 ((noise ++ between).foldl receive self) := by
  obtain ⟨hquiet, hcount⟩ := run_between h (show (noise.length : Int) < left by omega) (by omega)
  obtain ⟨hnext, -⟩ := run_sure_between hquiet (by omega) (by omega) hsure
  rw [List.foldl_append]
  rwa [show (left : Int) - ↑noise.length - ↑between.length = 1 by omega] at hnext

/-- A bit that is not the last: one segment of its tone. -/
theorem run_bit {before self : Receiver} {code bits slack left : Nat}
    (h : Sampling before code bits left self) (htimeout : self.demMinSigTimeout = 0) (hslack : slack ≤ 176)
    (hbits : bits + 1 < nbits) {segment : List Reading}
    (hsegment : SerialLine.Settles Sure slack (code.testBit bits) segment) (hearly : slack < left)
    (hlate : left ≤ segment.length) (hnext : segment.length < left + 170) :
    Sampling before code (bits + 1) (left + 170 - segment.length : Nat) (segment.foldl receive self) ∧
      (segment.foldl receive self).demMinSigTimeout = 0 := by
  obtain ⟨noise, between, reading, rest, hsplit, hnoise, hbetween, hrest, hsure, hreading, hafter⟩ :=
    split_settled hsegment (show slack ≤ left - 1 by omega) (by omega)
  have hto := run_to_bit h htimeout hslack hnoise (by omega) hsure
  obtain ⟨htaken, hzero⟩ := receive_bit hto hbits hreading
  obtain ⟨hlast, hcount⟩ := run_sure_between htaken (by omega) (by omega) hafter
  have hfold : segment.foldl receive self =
      rest.foldl receive (((noise ++ between).foldl receive self).receive reading) := by
    rw [hsplit, List.foldl_append, List.foldl_cons]
  rw [hfold]
  refine ⟨?_, ?_⟩
  · rwa [show ((left + 170 - segment.length : Nat) : Int) = 170 - ↑rest.length by omega]
  · rw [hcount, hzero, ite_self]

/-- The segment of the last bit. -/
theorem run_last {before self : Receiver} {code bits slack left : Nat}
    (h : Sampling before code bits left self) (htimeout : self.demMinSigTimeout = 0) (hslack : slack ≤ 176)
    (hbits : bits + 1 = nbits) (hcode : code < 32) {segment : List Reading}
    (hsegment : SerialLine.Settles Sure slack (code.testBit bits) segment) (hearly : slack < left)
    (hlate : left ≤ segment.length) (hnext : segment.length < left + 170) :
    Stopping before code (left + 170 - segment.length : Nat) (segment.foldl receive self) := by
  obtain ⟨noise, between, reading, rest, hsplit, hnoise, hbetween, hrest, hsure, hreading, hafter⟩ :=
    split_settled hsegment (show slack ≤ left - 1 by omega) (by omega)
  have hto := run_to_bit h htimeout hslack hnoise (by omega) hsure
  have htaken := receive_last hto hbits hcode hreading
  have hlast := run_stopping htaken (show (rest.length : Int) < 170 by omega)
  have hfold : segment.foldl receive self =
      rest.foldl receive (((noise ++ between).foldl receive self).receive reading) := by
    rw [hsplit, List.foldl_append, List.foldl_cons]
  rw [hfold]
  rwa [show ((left + 170 - segment.length : Nat) : Int) = 170 - ↑rest.length by omega]

/-- The segment of the stop bit. -/
theorem run_stop {before self : Receiver} {code slack left : Nat} (h : Stopping before code left self)
    {segment : List Reading} (hsegment : SerialLine.Settles Sure slack true segment) (hearly : slack < left)
    (hlate : left ≤ segment.length) :
    (segment.foldl receive self).Waiting ∧ Completed before code (segment.foldl receive self) := by
  obtain ⟨noise, between, reading, rest, hsplit, hnoise, hbetween, hrest, hsure, hreading, hafter⟩ :=
    split_settled hsegment (show slack ≤ left - 1 by omega) (by omega)
  have hto := run_stopping h (show ((noise ++ between).length : Int) < left by
    rw [List.length_append]
    omega)
  rw [List.length_append, show (left : Int) - ↑(noise.length + between.length) = 1 by omega] at hto
  obtain ⟨hstate, hcompleted⟩ := receive_stopped hto reading
  have hwaiting : (receive ((noise ++ between).foldl receive self) reading).Waiting :=
    ⟨hstate, hcompleted.demMinSigTimeout⟩
  rw [hsplit, List.foldl_append, List.foldl_cons,
    run_unstarted hwaiting fun other hother => (hafter other hother).quiet]
  exact ⟨hwaiting, hcompleted⟩

/-- The first of the readings that start a character. -/
theorem exists_first {noise : List Reading} {reading : Reading} {rest : List Reading}
    (hreading : ¬ Quiet reading) :
    ∃ before first after, noise ++ reading :: rest = before ++ first :: after ∧ ¬ Quiet first ∧
      (∀ other ∈ before, Quiet other) ∧ before.length ≤ noise.length := by
  induction noise with
  | nil => exact ⟨[], reading, rest, rfl, hreading, by simp, le_rfl⟩
  | cons other noise ih =>
      by_cases hother : Quiet other
      · obtain ⟨before, first, after, hsplit, hfirst, hbefore, hlength⟩ := ih
        refine ⟨other :: before, first, after, by rw [List.cons_append, hsplit]; rfl, hfirst, ?_, ?_⟩
        · exact List.forall_mem_cons.mpr ⟨hother, hbefore⟩
        · rw [List.length_cons, List.length_cons]
          omega
      · exact ⟨[], other, noise ++ reading :: rest, rfl, hother, by simp, Nat.zero_le _⟩

/-- The segment of the start bit: it is found at most as late as it settles. -/
theorem run_start {self : Receiver} (h : self.Waiting) {slack : Nat} (hslack : slack ≤ 176) (code : Nat)
    {segment : List Reading} (hsegment : SerialLine.Settles Sure slack false segment)
    (hlong : slack < segment.length) (hshort : segment.length ≤ 255) :
    ∃ late ≤ slack, Sampling self code 0 (255 + late + 1 - segment.length : Nat) (segment.foldl receive self) ∧
      (segment.foldl receive self).demMinSigTimeout = 0 := by
  obtain ⟨noise, between, reading, rest, hsplit, hnoise, hbetween, hrest, -, hreading, -⟩ :=
    split_settled hsegment le_rfl hlong
  obtain ⟨before, first, after, hfound, hfirst, hbefore, hlate⟩ :=
    @exists_first (noise ++ between) reading rest hreading.starts
  rw [← hsplit] at hfound
  rw [List.length_append] at hlate
  have hlength := congrArg List.length hfound
  rw [List.length_append, List.length_cons] at hlength
  have hsure : ∀ other ∈ after.drop (slack - (before.length + 1)), Sure false other := by
    refine fun other hother => hsegment other ?_
    rw [hfound, List.drop_append, List.mem_append]
    refine .inr ?_
    by_cases hlast : before.length = slack
    · rw [show slack - before.length = 0 by omega]
      exact List.mem_cons_of_mem _ (List.drop_subset _ _ hother)
    · rwa [show slack - before.length = slack - (before.length + 1) + 1 by omega, List.drop_succ_cons]
  obtain ⟨hstarted, hzero⟩ := receive_start h hfirst code
  obtain ⟨hnoisy, hcount⟩ := @run_between _ _ _ _ _ hstarted (after.take (slack - (before.length + 1)))
    (by rw [List.length_take]; omega) (by rw [List.length_take]; omega)
  obtain ⟨hsettled, hend⟩ := run_sure_between hnoisy (by rw [List.length_take, List.length_drop]; omega)
    (by rw [List.length_take] at hcount; omega) hsure
  rw [← List.foldl_append, List.take_append_drop] at hsettled hend
  have hfold : segment.foldl receive self = after.foldl receive (self.receive first) := by
    rw [hfound, List.foldl_append, List.foldl_cons, run_unstarted h hbefore]
  refine ⟨before.length, by omega, ?_, ?_⟩
  · rw [hfold]
    rw [List.length_take, List.length_drop] at hsettled
    rwa [show ((255 + before.length + 1 - segment.length : Nat) : Int) =
      255 - ↑(min (slack - (before.length + 1)) after.length) -
        ↑(after.length - (slack - (before.length + 1))) by omega]
  · rw [hfold, hend]
    split_ifs with hempty
    · rw [List.drop_eq_nil_iff] at hempty
      rw [List.length_take] at hcount
      omega
    · rfl

/-! ### One character -/

/-- A line that the receiver can read: its bits and its stop bit are as long as said, and the filter is sure of
a tone after `slack` samples. -/
abbrev Readable (bitLength stopLength slack : Nat) : Prop :=
  SerialLine.Timing nbits bitLength stopLength 255 170 slack

theorem Readable.slack_le {bitLength stopLength slack : Nat} (timing : Readable bitLength stopLength slack) :
    slack ≤ 176 := by
  have hstart := timing.start
  have hearly := timing.early 0 (Nat.zero_le _)
  omega

/-- The data bits from one of them on. -/
theorem run_data {bitLength stopLength slack : Nat} (timing : Readable bitLength stopLength slack)
    {before : Receiver} {code late : Nat} (hcode : code < 32) (hlate : late ≤ slack) {count : Nat} {bits : Nat}
    (hbits : bits + (count + 1) = nbits) {self : Receiver}
    (h : Sampling before code bits (255 + 170 * bits + late + 1 - bitLength * (bits + 1) : Nat) self)
    (htimeout : self.demMinSigTimeout = 0) {held : Bool} {age : Nat} {tones : List Bool}
    {readings : List Reading}
    (hfollows : SerialLine.Follows Sure slack held age
      (SerialLine.dataTones bitLength code bits (count + 1) ++ tones) readings) :
    ∃ heard rest, readings = heard ++ rest ∧
      Stopping before code (255 + 170 * nbits + late + 1 - bitLength * (nbits + 1) : Nat)
        (heard.foldl receive self) ∧
      ∃ tone, SerialLine.Follows Sure slack tone bitLength tones rest := by
  have hslack := timing.slack_le
  have hpos : 0 < bitLength := lt_of_le_of_lt (Nat.zero_le _) timing.start
  have hearly := timing.early bits (by omega)
  have hnext := timing.early (bits + 1) (by omega)
  have hbit := timing.late bits (by omega)
  have hlong : bitLength * (bits + 2) = bitLength * (bits + 1) + bitLength := Nat.mul_succ _ _
  have hlater : bitLength * (bits + 1 + 1) = bitLength * (bits + 1) + bitLength := Nat.mul_succ _ _
  induction count generalizing bits self held age readings with
  | zero =>
      rw [SerialLine.dataTones_succ, List.append_assoc] at hfollows
      obtain ⟨segment, rest, rfl, hlength, hsettles, hrest⟩ := hfollows.split hpos
      have hlast := run_last h htimeout hslack hbits hcode hsettles (by omega) (by omega) (by omega)
      refine ⟨segment, rest, rfl, ?_, _, hrest⟩
      rw [hlength] at hlast
      rwa [show 255 + 170 * nbits + late + 1 - bitLength * (nbits + 1) =
        255 + 170 * bits + late + 1 - bitLength * (bits + 1) + 170 - bitLength by
          rw [show nbits = bits + 1 from hbits.symm]
          omega]
  | succ count ih =>
      rw [SerialLine.dataTones_succ, List.append_assoc] at hfollows
      obtain ⟨segment, rest, rfl, hlength, hsettles, hrest⟩ := hfollows.split hpos
      obtain ⟨htaken, hzero⟩ :=
        run_bit h htimeout hslack (by omega) hsettles (by omega) (by omega) (by omega)
      have hmore := timing.early (bits + 1 + 1) (by omega)
      have hbit' := timing.late (bits + 1) (by omega)
      have hleft : 255 + 170 * (bits + 1) + late + 1 - bitLength * (bits + 1 + 1) =
          255 + 170 * bits + late + 1 - bitLength * (bits + 1) + 170 - segment.length := by
        omega
      rw [← hleft] at htaken
      obtain ⟨heard, rest, rfl, hstopping, hfollows⟩ := ih (by omega) htaken hzero hrest hnext hmore hbit'
        (Nat.mul_succ _ _) (Nat.mul_succ _ _)
      refine ⟨segment ++ heard, rest, (List.append_assoc _ _ _).symm, ?_, hfollows⟩
      rwa [List.foldl_append]

/-- **A character on the line is taken, and the receiver waits for the next one.** -/
theorem run_frame {bitLength stopLength slack : Nat} (timing : Readable bitLength stopLength slack)
    {self : Receiver} (h : self.Waiting) {code : Nat} (hcode : code < 32) {held : Bool} {age : Nat}
    {tones : List Bool} {readings : List Reading}
    (hfollows : SerialLine.Follows Sure slack held age
      (SerialLine.frame nbits bitLength stopLength code ++ tones) readings) :
    ∃ heard rest, readings = heard ++ rest ∧ (heard.foldl receive self).Waiting ∧
      Completed self code (heard.foldl receive self) ∧
      SerialLine.Follows Sure slack true stopLength tones rest := by
  have hslack := timing.slack_le
  have hpos : 0 < bitLength := lt_of_le_of_lt (Nat.zero_le _) timing.start
  have hearly := timing.early 0 (Nat.zero_le _)
  have hend := timing.early nbits le_rfl
  have hstop := timing.stop
  rw [SerialLine.frame, List.append_assoc, List.append_assoc] at hfollows
  obtain ⟨start, rest, rfl, hlength, hsettles, hrest⟩ := hfollows.split hpos
  obtain ⟨late, hlate, hsampling, hzero⟩ :=
    run_start h hslack code hsettles (by rw [hlength]; exact timing.start) (by omega)
  rw [hlength] at hsampling
  obtain ⟨data, rest, rfl, hstopping, tone, hrest⟩ := @run_data _ _ _ timing _ _ _ hcode hlate 4 0 rfl _
    (by simpa using hsampling) hzero _ _ _ _ hrest
  obtain ⟨stop, rest, rfl, hstopLength, hsettled, hrest⟩ := hrest.split (by omega)
  obtain ⟨hwaiting, hcompleted⟩ := run_stop hstopping hsettled (by omega) (by omega)
  refine ⟨start ++ (data ++ stop), rest, by simp only [List.append_assoc], ?_, ?_, hrest⟩
  · rw [List.foldl_append, List.foldl_append]
    exact hwaiting
  · rw [List.foldl_append, List.foldl_append]
    exact hcompleted

/-! ### The characters of a text -/

/-- What a list of codes means. -/
def decodeAll : Bool → List Nat → Bool × List DemEvent
  | figures, [] => (figures, [])
  | figures, code :: codes =>
      let rest := decodeAll (decode figures code).1 codes
      (rest.1, (decode figures code).2 :: rest.2)

/-- The codes have been taken. -/
structure Received (before : Receiver) (codes : List Nat) (receiver : Receiver) : Prop where
  waiting : receiver.Waiting
  figures : receiver.figures = (decodeAll before.figures codes).1
  posted : receiver.posted = before.posted ++ (decodeAll before.figures codes).2

/-- Characters one after another, and then a tone that holds the line. -/
theorem run_frames {bitLength stopLength slack : Nat} (timing : Readable bitLength stopLength slack)
    {codes : List Nat} (hcodes : ∀ code ∈ codes, code < 32) {hold : Nat} {self : Receiver} (h : self.Waiting)
    {age : Nat} (hage : slack ≤ age) {readings : List Reading}
    (hfollows : SerialLine.Follows Sure slack true age
      (codes.flatMap (SerialLine.frame nbits bitLength stopLength) ++ List.replicate hold true) readings) :
    Received self codes (readings.foldl receive self) := by
  induction codes generalizing self age readings with
  | nil =>
      have hquiet := hfollows.sure_of_held hage
      rw [run_unstarted h fun reading hreading => (hquiet reading hreading).quiet]
      exact ⟨h, rfl, (List.append_nil _).symm⟩
  | cons code codes ih =>
      rw [List.flatMap_cons, List.append_assoc] at hfollows
      obtain ⟨heard, rest, rfl, hwaiting, hcompleted, hrest⟩ :=
        run_frame timing h (hcodes code List.mem_cons_self) hfollows
      have hend := timing.early nbits le_rfl
      have hstop := timing.stop
      have hreceived := ih (fun other hother => hcodes other (List.mem_cons_of_mem _ hother)) hwaiting
        (by omega) hrest
      rw [List.foldl_append]
      refine ⟨hreceived.waiting, ?_, ?_⟩
      · rw [hreceived.figures, hcompleted.figures]
        rfl
      · rw [hreceived.posted, hcompleted.figures, hcompleted.posted, List.append_assoc]
        rfl

/-- `DEM_BAUD` works for lines at 45, 47 and 50 baud, with one and a half stop bits: as long as the filter is
sure of a tone after the samples given here. -/
theorem readable_speeds : Readable 177 265 43 ∧ Readable 170 255 84 ∧ Readable 160 240 24 := by
  have hbits : nbits = 5 := rfl
  refine ⟨⟨by omega, ?_, ?_, by omega⟩, ⟨by omega, ?_, ?_, by omega⟩, ⟨by omega, ?_, ?_, by omega⟩⟩
  all_goals
    intro n hn
    omega

end Receiver

end SipSimple.Core.Baudot
