import Mathlib.Logic.Function.Basic
import Mathlib.Data.List.Range

/-!
# Queues in a ring of slots

A write position, a read position and a count over a fixed number of slots. Writing does not look at the
count, so a full ring overwrites its oldest item. As long as no more is written than there are slots, the
ring is a queue.
-/

structure RingQueue (α : Type*) where
  slots : Nat → α
  into : Nat
  out : Nat
  count : Nat

namespace RingQueue

variable {α : Type*} (size : Nat)

/-- The position after another one. -/
def next (position : Nat) : Nat := if position + 1 ≥ size then 0 else position + 1

def push (ring : RingQueue α) (x : α) : RingQueue α where
  slots := Function.update ring.slots ring.into x
  into := next size ring.into
  out := ring.out
  count := ring.count + 1

def front (ring : RingQueue α) : α := ring.slots ring.out

def pop (ring : RingQueue α) : RingQueue α :=
  { ring with out := next size ring.out, count := ring.count - 1 }

/-- The items, oldest first. -/
def contents (ring : RingQueue α) : List α :=
  (List.range ring.count).map fun i => ring.slots ((ring.out + i) % size)

structure Valid (ring : RingQueue α) : Prop where
  out : ring.out < size
  into : ring.into = (ring.out + ring.count) % size
  count : ring.count ≤ size

variable {size}

theorem next_eq {position : Nat} (h : position < size) : next size position = (position + 1) % size := by
  unfold next
  split_ifs with hge
  · rw [show position + 1 = size by omega, Nat.mod_self]
  · rw [Nat.mod_eq_of_lt (by omega)]

@[simp] theorem length_contents (ring : RingQueue α) : (ring.contents size).length = ring.count := by
  simp [contents]

theorem contents_eq_nil {ring : RingQueue α} : ring.contents size = [] ↔ ring.count = 0 := by
  rw [← List.length_eq_zero_iff, length_contents]

theorem Valid.push {ring : RingQueue α} (h : ring.Valid size) (hroom : ring.count < size) (x : α) :
    (ring.push size x).Valid size := by
  have hinto : ring.into < size := h.into ▸ Nat.mod_lt _ (by omega)
  refine ⟨h.out, ?_, hroom⟩
  show next size ring.into = (ring.out + (ring.count + 1)) % size
  rw [next_eq hinto, h.into, Nat.mod_add_mod, Nat.add_assoc]

theorem contents_push {ring : RingQueue α} (h : ring.Valid size) (hroom : ring.count < size) (x : α) :
    (ring.push size x).contents size = ring.contents size ++ [x] := by
  unfold contents
  show (List.range (ring.count + 1)).map _ = _
  rw [List.range_succ, List.map_append, List.map_singleton]
  congr 1
  · refine List.map_congr_left fun i hi => ?_
    rw [List.mem_range] at hi
    show Function.update ring.slots ring.into x ((ring.out + i) % size) = _
    rw [Function.update_of_ne]
    -- Fewer items than slots: no two of them, nor the new one, share a slot.
    rw [h.into]
    intro heq
    have hout := h.out
    have hcases : ∀ n, n < 2 * size → n % size = if n < size then n else n - size := by
      intro n hn
      split_ifs with hlt
      · exact Nat.mod_eq_of_lt hlt
      · rw [Nat.mod_eq_sub_mod (by omega), Nat.mod_eq_of_lt (by omega)]
    rw [hcases _ (by omega), hcases _ (by omega)] at heq
    split_ifs at heq <;> omega
  · show [Function.update ring.slots ring.into x ((ring.out + ring.count) % size)] = [x]
    rw [← h.into, Function.update_self]

/-- Items written one after another, while there is room for all of them. -/
theorem contents_foldl_push {ring : RingQueue α} (h : ring.Valid size) {xs : List α}
    (hroom : ring.count + xs.length ≤ size) :
    (xs.foldl (push size) ring).Valid size ∧
      (xs.foldl (push size) ring).contents size = ring.contents size ++ xs := by
  induction xs generalizing ring with
  | nil => exact ⟨h, (List.append_nil _).symm⟩
  | cons x xs ih =>
      rw [List.length_cons] at hroom
      have hfree : ring.count < size := by omega
      obtain ⟨hvalid, hcontents⟩ := ih (h.push hfree x) (by show ring.count + 1 + _ ≤ size; omega)
      refine ⟨hvalid, hcontents.trans ?_⟩
      rw [contents_push h hfree, List.append_assoc, List.singleton_append]

theorem front_of_contents {ring : RingQueue α} (h : ring.Valid size) {x : α} {rest : List α}
    (hcontents : ring.contents size = x :: rest) : ring.front = x := by
  have hcount : 0 < ring.count := by
    rw [← @length_contents _ size ring, hcontents]
    exact Nat.succ_pos _
  have hhead := congrArg List.head? hcontents
  rw [contents, List.head?_map, List.head?_range, if_neg (by omega)] at hhead
  show ring.slots ring.out = x
  simpa [Nat.mod_eq_of_lt h.out] using hhead

theorem Valid.pop {ring : RingQueue α} (h : ring.Valid size) (hne : 0 < ring.count) :
    (ring.pop size).Valid size := by
  have hcount := h.count
  refine ⟨?_, ?_, ?_⟩
  · show next size ring.out < size
    rw [next_eq h.out]
    exact Nat.mod_lt _ (by omega)
  · show ring.into = (next size ring.out + (ring.count - 1)) % size
    rw [next_eq h.out, Nat.mod_add_mod, h.into]
    congr 1
    omega
  · show ring.count - 1 ≤ size
    omega

theorem contents_pop {ring : RingQueue α} (h : ring.Valid size) {x : α} {rest : List α}
    (hcontents : ring.contents size = x :: rest) : (ring.pop size).contents size = rest := by
  obtain ⟨count, hcount⟩ : ∃ count, ring.count = count + 1 := by
    refine ⟨rest.length, ?_⟩
    rw [← @length_contents _ size ring, hcontents, List.length_cons]
  have htail := congrArg List.tail hcontents
  rw [contents, hcount, List.range_succ_eq_map, List.map_cons, List.map_map, List.tail_cons,
    List.tail_cons] at htail
  rw [← htail, contents]
  show (List.range (ring.count - 1)).map _ = _
  rw [hcount, Nat.add_sub_cancel]
  refine List.map_congr_left fun i _ => ?_
  show ring.slots ((next size ring.out + i) % size) = ring.slots ((ring.out + (i + 1)) % size)
  rw [next_eq h.out, Nat.mod_add_mod, Nat.add_assoc, Nat.add_comm 1]

end RingQueue
