import Mathlib.Data.List.Basic
import Mathlib.Data.Nat.Bits

/-!
# A serial line

A zero starts each character on the line, its bits follow with the lowest first, and ones end it. A receiver
is sure of a tone only when the tone has been held for some samples; before that its readings are anything.
It finds the start of a character late by as much, and takes each bit once, at a fixed distance from there.
`Timing` says when these moments are inside the bits.
-/

namespace SerialLine

/-- The bits of a code from the `first`th on, each for as long as it is on the line. -/
def dataTones (bitLength code first count : Nat) : List Bool :=
  (List.range' first count).flatMap fun n => List.replicate bitLength (code.testBit n)

def frame (bits bitLength stopLength code : Nat) : List Bool :=
  List.replicate bitLength false ++ (dataTones bitLength code 0 bits ++ List.replicate stopLength true)

theorem dataTones_succ (bitLength code first count : Nat) :
    dataTones bitLength code first (count + 1) =
      List.replicate bitLength (code.testBit first) ++ dataTones bitLength code (first + 1) count := by
  rw [dataTones, List.range'_succ, List.flatMap_cons]
  rfl

/-! ### Readings of the line -/

section Readings

variable {Reading : Type*} (sure : Bool → Reading → Prop) (slack : Nat)

/-- For how many samples the tone has been held before the sample. -/
def heldFor (held : Bool) (age : Nat) (tone : Bool) : Nat := if tone = held then age else 0

/-- The readings are sure of the tones that have been held for the slack. Before the first of them the line
was at the tone `held`, for `age` samples. -/
def Follows : Bool → Nat → List Bool → List Reading → Prop
  | _, _, [], [] => True
  | held, age, tone :: tones, reading :: readings =>
      (slack ≤ heldFor held age tone → sure tone reading) ∧
        Follows tone (heldFor held age tone + 1) tones readings
  | _, _, _, _ => False

/-- A stretch of one tone, of which all but the beginning is sure. -/
def Settles (tone : Bool) (readings : List Reading) : Prop := ∀ reading ∈ readings.drop slack, sure tone reading

variable {sure slack}

theorem Follows.nil_left {held : Bool} {age : Nat} {readings : List Reading}
    (h : Follows sure slack held age [] readings) : readings = [] := by
  cases readings with
  | nil => rfl
  | cons reading readings => exact h.elim

theorem Follows.cons_left {held : Bool} {age : Nat} {tone : Bool} {tones : List Bool} {readings : List Reading}
    (h : Follows sure slack held age (tone :: tones) readings) :
    ∃ reading rest, readings = reading :: rest ∧ (slack ≤ heldFor held age tone → sure tone reading) ∧
      Follows sure slack tone (heldFor held age tone + 1) tones rest := by
  cases readings with
  | nil => exact h.elim
  | cons reading rest => exact ⟨reading, rest, rfl, h.1, h.2⟩

/-- Less is asked of a line that has held its tone for a shorter time. -/
theorem Follows.younger {held : Bool} {age age' : Nat} (hage : age' ≤ age) {tones : List Bool}
    {readings : List Reading} (h : Follows sure slack held age tones readings) :
    Follows sure slack held age' tones readings := by
  induction tones generalizing held age age' readings with
  | nil =>
      rw [h.nil_left]
      trivial
  | cons tone tones ih =>
      obtain ⟨reading, rest, rfl, hsure, hrest⟩ := h.cons_left
      have hheld : heldFor held age' tone ≤ heldFor held age tone := by
        unfold heldFor
        split_ifs <;> omega
      exact ⟨fun h => hsure (by omega), ih (by omega) hrest⟩

/-- What the line was at before can be forgotten. -/
theorem Follows.fresh {held : Bool} {age : Nat} {tone : Bool} {tones : List Bool} {readings : List Reading}
    (h : Follows sure slack held age (tone :: tones) readings) :
    Follows sure slack tone 0 (tone :: tones) readings := by
  obtain ⟨reading, rest, rfl, hsure, hrest⟩ := h.cons_left
  have hzero : heldFor tone 0 tone = 0 := if_pos rfl
  refine ⟨fun hslack => hsure (by omega), ?_⟩
  rw [hzero]
  exact hrest.younger (by omega)

/-- A stretch of a tone that the line is already at. -/
theorem Follows.split_held {tone : Bool} {age n : Nat} {tones : List Bool} {readings : List Reading}
    (h : Follows sure slack tone age (List.replicate n tone ++ tones) readings) :
    ∃ segment rest, readings = segment ++ rest ∧ segment.length = n ∧
      (∀ reading ∈ segment.drop (slack - age), sure tone reading) ∧
      Follows sure slack tone (age + n) tones rest := by
  induction n generalizing age readings with
  | zero => exact ⟨[], readings, rfl, rfl, by simp, h⟩
  | succ n ih =>
      rw [List.replicate_succ, List.cons_append] at h
      obtain ⟨reading, rest, rfl, hsure, hrest⟩ := h.cons_left
      have hheld : heldFor tone age tone = age := if_pos rfl
      rw [hheld] at hsure hrest
      obtain ⟨segment, rest, rfl, hlength, hsettled, hrest⟩ := ih hrest
      refine ⟨reading :: segment, rest, rfl, by rw [List.length_cons, hlength], ?_, ?_⟩
      · intro other hother
        by_cases hslack : slack ≤ age
        · rw [show slack - age = 0 by omega, List.drop_zero, List.mem_cons] at hother
          rcases hother with rfl | hother
          · exact hsure hslack
          · exact hsettled other (by rwa [show slack - (age + 1) = 0 by omega])
        · rw [show slack - age = slack - (age + 1) + 1 by omega, List.drop_succ_cons] at hother
          exact hsettled other hother
      · rwa [show age + (n + 1) = age + 1 + n by omega]

/-- A stretch of a tone is a segment of the readings that settles. -/
theorem Follows.split {held tone : Bool} {age n : Nat} (hn : 0 < n) {tones : List Bool}
    {readings : List Reading} (h : Follows sure slack held age (List.replicate n tone ++ tones) readings) :
    ∃ segment rest, readings = segment ++ rest ∧ segment.length = n ∧ Settles sure slack tone segment ∧
      Follows sure slack tone n tones rest := by
  obtain ⟨m, rfl⟩ : ∃ m, n = m + 1 := ⟨n - 1, by omega⟩
  rw [List.replicate_succ, List.cons_append] at h
  have hfresh := h.fresh
  rw [← List.cons_append, ← List.replicate_succ] at hfresh
  obtain ⟨segment, rest, hreadings, hlength, hsettled, hrest⟩ := hfresh.split_held
  exact ⟨segment, rest, hreadings, hlength, hsettled, by rwa [Nat.zero_add] at hrest⟩

/-- A tone that goes on after it has been held for the slack is seen in every reading. -/
theorem Follows.sure_of_held {tone : Bool} {age n : Nat} (hage : slack ≤ age) {readings : List Reading}
    (h : Follows sure slack tone age (List.replicate n tone) readings) :
    ∀ reading ∈ readings, sure tone reading := by
  rw [← List.append_nil (List.replicate n tone)] at h
  obtain ⟨segment, rest, rfl, hlength, hsettled, hrest⟩ := h.split_held
  rw [hrest.nil_left, List.append_nil]
  rwa [show slack - age = 0 by omega, List.drop_zero] at hsettled

instance decidableFollows [∀ tone reading, Decidable (sure tone reading)] :
    ∀ (held : Bool) (age : Nat) (tones : List Bool) (readings : List Reading),
      Decidable (Follows sure slack held age tones readings)
  | _, _, [], [] => inferInstanceAs (Decidable True)
  | held, age, tone :: tones, _ :: readings =>
      have := decidableFollows tone (heldFor held age tone + 1) tones readings
      inferInstanceAs (Decidable (_ ∧ Follows sure slack tone _ tones readings))
  | _, _, [], _ :: _ => inferInstanceAs (Decidable False)
  | _, _, _ :: _, [] => inferInstanceAs (Decidable False)

end Readings

/-! ### The moments at which bits are taken -/

/-- A receiver takes the bits at `first` samples and every `period` samples from there on after it has found
the start, which it finds at most `slack` samples late; it looks for the next start after one period more. -/
structure Timing (bits bitLength stopLength first period slack : Nat) : Prop where
  start : slack < bitLength
  early : ∀ n ≤ bits, slack + bitLength * (n + 1) ≤ first + period * n
  late : ∀ n < bits, first + period * n + slack < bitLength * (n + 2)
  stop : first + period * bits + slack < bitLength * (bits + 1) + stopLength

end SerialLine
