import Mathlib.Data.List.TakeDrop

/-!
# Absorbing a stream block by block

A function that absorbs blocks of a fixed size, fed with data of any length: what does not fill a
block waits in a buffer. `update` is the usual implementation, which fills the buffered block first
and then takes whole blocks off the data. It does what absorbing one element at a time does, so how
the data is cut into pieces does not matter.
-/

/-- The state of the absorbed blocks, and the elements still waiting. -/
@[ext] structure BlockStream (σ β : Type*) where
  state : σ
  block : List β
  deriving DecidableEq

namespace BlockStream

variable {σ β : Type*} (absorb : σ → List β → σ) (size : Nat)

/-- Takes the given number of whole blocks off the data and keeps the rest. -/
def blocks : Nat → σ → List β → BlockStream σ β
  | 0, state, data => ⟨state, data⟩
  | count + 1, state, data => blocks count (absorb state (data.take size)) (data.drop size)

def update (stream : BlockStream σ β) (data : List β) : BlockStream σ β :=
  if stream.block ≠ [] then
    let left := size - stream.block.length
    if data.length < left then { stream with block := stream.block ++ data }
    else
      let rest := data.drop left
      blocks absorb size (rest.length / size)
        (absorb stream.state (stream.block ++ data.take left)) rest
  else blocks absorb size (data.length / size) stream.state data

/-- Absorbing one element. -/
def push (stream : BlockStream σ β) (element : β) : BlockStream σ β :=
  if stream.block.length + 1 < size then { stream with block := stream.block ++ [element] }
  else ⟨absorb stream.state (stream.block ++ [element]), []⟩

variable {absorb size}

/-- What does not fill the block is buffered. -/
theorem foldl_push_of_lt (stream : BlockStream σ β) {data : List β}
    (hlt : stream.block.length + data.length < size) :
    data.foldl (push absorb size) stream = { stream with block := stream.block ++ data } := by
  induction data generalizing stream with
  | nil => simp
  | cons element data ih =>
      have hroom : stream.block.length + 1 < size := by
        rw [List.length_cons] at hlt
        omega
      rw [List.foldl_cons, push, if_pos hroom, ih]
      · simp only [List.append_assoc, List.singleton_append]
      · simp only [List.length_append, List.length_cons, List.length_nil] at hlt ⊢
        omega

/-- What fills the block exactly is absorbed with it. -/
theorem foldl_push_of_eq (stream : BlockStream σ β) {data : List β}
    (hblock : stream.block.length < size) (heq : stream.block.length + data.length = size) :
    data.foldl (push absorb size) stream = ⟨absorb stream.state (stream.block ++ data), []⟩ := by
  obtain rfl | ⟨init, last, rfl⟩ := List.eq_nil_or_concat data
  · simp only [List.length_nil] at heq
    omega
  · rw [List.concat_eq_append, List.length_append, List.length_singleton] at heq
    rw [List.concat_eq_append, List.foldl_append, foldl_push_of_lt stream (by omega),
      List.foldl_cons, List.foldl_nil, push, if_neg]
    · simp only [List.append_assoc]
    · rw [List.length_append]
      omega

theorem blocks_eq_foldl (hsize : 0 < size) (count : Nat) (state : σ) {data : List β}
    (hcount : data.length / size = count) :
    blocks absorb size count state data = data.foldl (push absorb size) ⟨state, []⟩ := by
  induction count generalizing state data with
  | zero =>
      have hlt : data.length < size := by
        rcases Nat.div_eq_zero_iff.mp hcount with hzero | hlt
        · omega
        · exact hlt
      rw [blocks, foldl_push_of_lt _ (by simpa using hlt), List.nil_append]
  | succ count ih =>
      have hle : size ≤ data.length := by
        by_contra hlt
        rw [Nat.div_eq_of_lt (by omega)] at hcount
        omega
      have htake : (data.take size).length = size := by
        rw [List.length_take]
        omega
      have hrest : (data.drop size).length / size = count := by
        rw [Nat.div_eq_sub_div hsize hle] at hcount
        rw [List.length_drop]
        omega
      rw [blocks, ih _ hrest]
      conv_rhs => rw [← List.take_append_drop size data, List.foldl_append]
      rw [foldl_push_of_eq ⟨state, []⟩ hsize (by simpa using htake), List.nil_append]

/-- **`update` absorbs the data element by element.** -/
theorem update_eq_foldl (hsize : 0 < size) {stream : BlockStream σ β}
    (hblock : stream.block.length < size) (data : List β) :
    update absorb size stream data = data.foldl (push absorb size) stream := by
  unfold update
  split
  · dsimp only
    split
    · rw [foldl_push_of_lt stream (by omega)]
    · rename_i hleft
      have htake : (data.take (size - stream.block.length)).length = size - stream.block.length := by
        rw [List.length_take]
        omega
      rw [blocks_eq_foldl hsize _ _ rfl]
      conv_rhs => rw [← List.take_append_drop (size - stream.block.length) data, List.foldl_append]
      rw [foldl_push_of_eq stream hblock (by omega)]
  · rename_i hempty
    have hnil : stream = ⟨stream.state, []⟩ := by
      ext1
      · rfl
      · exact not_not.mp hempty
    rw [blocks_eq_foldl hsize _ _ rfl, ← hnil]

theorem push_length_lt (hsize : 0 < size) (stream : BlockStream σ β) (element : β) :
    (push absorb size stream element).block.length < size := by
  unfold push
  split
  · simpa using ‹_›
  · exact hsize

/-- A full block never waits. -/
theorem update_length_lt (hsize : 0 < size) {stream : BlockStream σ β}
    (hblock : stream.block.length < size) (data : List β) :
    (update absorb size stream data).block.length < size := by
  rw [update_eq_foldl hsize hblock]
  induction data generalizing stream with
  | nil => exact hblock
  | cons element data ih => exact ih (push_length_lt hsize stream element)

/-- **Two updates are one with the data put together.** -/
theorem update_append (hsize : 0 < size) {stream : BlockStream σ β}
    (hblock : stream.block.length < size) (first second : List β) :
    update absorb size (update absorb size stream first) second =
      update absorb size stream (first ++ second) := by
  rw [update_eq_foldl hsize (update_length_lt hsize hblock first), update_eq_foldl hsize hblock,
    update_eq_foldl hsize hblock, List.foldl_append]

end BlockStream
