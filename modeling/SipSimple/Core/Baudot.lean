import SipSimple.Library.RingQueue
import SipSimple.Util.Sha1

/-!
# The Baudot modem

The transmitting half of the modem in `openbaudot/src/obl.c`. `obl_tx_queue` turns a text into Baudot
codes and puts them into a ring of 1024 places; `obl_modulate` goes through the bits of the codes, one
sample at a step. The sine table and the phase steps come from floating point numbers and are parameters
here, and so is what stands in memory outside the table of codes.
-/

namespace SipSimple.Core.Baudot

/-- `OBL_TEXT_BUF`, `NBITS`, the samples of one bit at 45 baud, of one and a half stop bits and of the
hold tone. -/
def textBuf : Nat := 1024
def nbits : Nat := 5
def samplesPerBit : Nat := 177
def numStopSamples : Nat := 265
def holdSamples : Nat := 1600

def letflag : Nat := 64
def figflag : Nat := 32
def letr : Nat := 0x1f
def figr : Nat := 0x1b

/-- `baudot_to_ascii`, the two rows of the table. -/
def letterRow : List Nat :=
  [0x08, 69, 10, 65, 32, 83, 73, 85, 13, 68, 82, 74, 78, 70, 67, 75, 84, 90, 76, 87, 72, 89, 80, 81,
    79, 66, 71, 94, 77, 88, 86, 94]

def figureRow : List Nat :=
  [0x08, 51, 10, 45, 32, 44, 56, 55, 13, 36, 52, 39, 44, 33, 58, 40, 53, 34, 41, 50, 61, 54, 48, 49,
    57, 63, 43, 94, 46, 47, 59, 94]

/-- `ascii_to_baudot`, an apostrophe for what is in neither row. -/
def asciiToBaudot (c : Nat) : Nat :=
  match letterRow.findIdx? (· = c), figureRow.findIdx? (· = c) with
  | some i, some _ => letflag ||| i ||| figflag
  | some i, none => letflag ||| i
  | none, some i => figflag ||| i
  | none, none => figflag ||| 0x0b

def toupper (c : Nat) : Nat := if 97 ≤ c ∧ c ≤ 122 then c - 32 else c

/-- How many bytes the character has that starts with this one. -/
def increment (b : Nat) : Nat :=
  if 0xF0 ≤ b then 4 else if 0xE0 ≤ b then 3 else if 0xC0 ≤ b then 2 else 1

/-- The characters of a text, with an apostrophe for one of several bytes; `skip` bytes belong to the
character before. -/
def characters : Nat → Bytes → List Nat
  | _, [] => []
  | skip + 1, _ :: rest => characters skip rest
  | 0, b :: rest =>
      (if increment b.toNat = 1 then b.toNat else 39) :: characters (increment b.toNat - 1) rest

inductive CharCase
  | noCase
  | letters
  | figures
  | whitespace
  deriving DecidableEq

/-- What `obl_tx_queue` remembers from one character to the next. -/
structure Coding where
  modCase : CharCase
  modCharsWithoutCase : Nat
  modCharsWithoutCrlf : Nat

def Coding.reset : Coding := ⟨.noCase, 0, 0⟩

/-- The parts of the program that are not fixed by its text. -/
structure Machine where
  sinLut : Nat → Int
  wOne : Nat
  wZero : Nat
  /-- The code read for a byte from 128 on, which is outside the table. -/
  outside : Nat → Nat
  /-- The samples in a buffer that nothing has written to. -/
  unwritten : Int

variable (machine : Machine)

def baudotOf (c : Nat) : Nat := if c < 128 then asciiToBaudot (toupper c) else machine.outside c

/-- One round of the loop of `obl_tx_queue`: the codes of a character, with the case, the carriage return
and the line feed that go before it. -/
def encodeChar (coding : Coding) (ascii : Nat) : Coding × List Nat :=
  let baudot := baudotOf machine ascii
  let linebreak : Bool := ascii = 0x0d ∨ ascii = 0x0a
  let charCase : CharCase :=
    if ascii = 32 ∨ linebreak = true then .whitespace
    else if baudot &&& figflag ≠ 0 then .figures
    else .letters
  let coding := if linebreak then { coding with modCharsWithoutCrlf := 0 } else coding
  let shifted : Coding × List Nat :=
    if charCase = .whitespace then
      ({ coding with modCase := .whitespace }, if coding.modCase = .noCase then [letr] else [])
    else if charCase ≠ coding.modCase then
      ({ coding with modCase := charCase, modCharsWithoutCase := 0 },
        [if charCase = .letters then letr else figr])
    else (coding, [])
  let coding := shifted.1
  let again : Coding × List Nat :=
    if coding.modCharsWithoutCase > 70 then
      ({ coding with modCharsWithoutCase := 0 },
        [if coding.modCase = .whitespace ∨ coding.modCase = .letters then letr else figr])
    else (coding, [])
  let coding := again.1
  let broken : Coding × List Nat :=
    if (coding.modCharsWithoutCrlf > 59 ∧ coding.modCase = .whitespace) ∨
        coding.modCharsWithoutCrlf > 70 then
      ({ coding with modCharsWithoutCrlf := 0 },
        [baudotOf machine 0x0d &&& 0x1f, baudotOf machine 0x0a &&& 0x1f])
    else (coding, [])
  let coding := broken.1
  ({ coding with
      modCharsWithoutCase := coding.modCharsWithoutCase + 1
      modCharsWithoutCrlf := coding.modCharsWithoutCrlf + 1 },
    shifted.2 ++ again.2 ++ broken.2 ++ [baudot &&& 0x1f])

inductive ModState
  | idle
  | start
  | bit
  | stop
  | hold
  deriving DecidableEq

/-- The modulator's part of `OBL`. -/
structure OBL where
  modBuffer : RingQueue Nat
  coding : Coding
  modState : ModState
  modBaudot : Nat
  modNbit : Nat
  modBit : Bool
  modSample : Nat
  modPhase : Nat
  /-- `top_state` is `TOP_STATE_MOD`. -/
  modulating : Bool

namespace OBL

/-- `obl_init` and `obl_reset`. -/
def init : OBL where
  modBuffer := ⟨fun _ => 0, 0, 0, 0⟩
  coding := .reset
  modState := .idle
  modBaudot := 0
  modNbit := 0
  modBit := false
  modSample := 0
  modPhase := 0
  modulating := false

/-- The loop of `obl_tx_queue`: it ends early when the ring has no place left, and does not look at the
number of places when it puts the codes of one character. -/
def queueAll : List Nat → OBL → OBL
  | [], self => self
  | c :: rest, self =>
      if self.modBuffer.count < textBuf then
        let (coding, codes) := encodeChar machine self.coding c
        queueAll rest
          { self with coding := coding, modBuffer := codes.foldl (RingQueue.push textBuf) self.modBuffer }
      else self

/-- `obl_tx_queue`, on the text up to its first zero. -/
def txQueue (text : Bytes) (self : OBL) : OBL :=
  queueAll machine (characters 0 (text.takeWhile (· ≠ 0))) { self with modulating := true }

/-- `modulate`: one sample of the tone of a one or a zero. -/
def nextPhase (phase : Nat) (bit : Bool) : Nat :=
  (phase + if bit then machine.wOne else machine.wZero) % 65536

def sampleAt (phase : Nat) : Int := 16384 * machine.sinLut (phase / 4) / 32768

def modulate (self : OBL) (bit : Bool) : OBL × Option Int :=
  let phase := nextPhase machine self.modPhase bit
  ({ self with modPhase := phase, modSample := self.modSample + 1 }, some (sampleAt machine phase))

/-- One turn of the loop of `obl_modulate`, with the sample it writes. -/
def step (self : OBL) : OBL × Option Int :=
  match self.modState with
  | .idle =>
      if self.modBuffer.count ≠ 0 then
        let (self, sample) := { self with modSample := 0 }.modulate machine false
        ({ self with modState := .start }, sample)
      else (self, none)
  | .start =>
      let (self, sample) := self.modulate machine false
      if self.modSample = samplesPerBit then
        let baudot := self.modBuffer.front
        ({ self with
            modBaudot := baudot
            modBuffer := self.modBuffer.pop textBuf
            modNbit := 0
            modBit := baudot.testBit 0
            modSample := 0
            modState := .bit }, sample)
      else (self, sample)
  | .bit =>
      let (self, sample) := self.modulate machine self.modBit
      if self.modSample = samplesPerBit then
        let nbit := self.modNbit + 1
        ({ self with
            modSample := 0
            modNbit := nbit
            modBit := self.modBaudot.testBit nbit
            modState := if nbit = nbits then .stop else .bit }, sample)
      else (self, sample)
  | .stop =>
      let (self, sample) := self.modulate machine true
      if self.modSample = numStopSamples then
        ({ self with
            modSample := 0
            modState := if self.modBuffer.count ≠ 0 then .start else .hold }, sample)
      else (self, sample)
  | .hold =>
      let (self, sample) := self.modulate machine true
      if self.modBuffer.count ≠ 0 then ({ self with modSample := 0, modState := .start }, sample)
      else if self.modSample = holdSamples then
        ({ self with modSample := 0, modState := .idle }, sample)
      else (self, sample)

/-- The loop of `obl_modulate`: what stands in the buffer after it, place by place. -/
def steps : Nat → OBL → OBL × List (Option Int)
  | 0, self => (self, [])
  | n + 1, self =>
      let (self, sample) := self.step machine
      let (self, samples) := steps n self
      (self, sample :: samples)

/-- `obl_modulate`: the buffer and the number of samples in it that are not idle. -/
def oblModulate (samples : Nat) (self : OBL) : OBL × List (Option Int) × Nat :=
  if self.modulating then
    let (self, buffer) := steps machine samples self
    (self, buffer, (buffer.filter Option.isSome).length)
  else (self, [], 0)

end OBL

end SipSimple.Core.Baudot
