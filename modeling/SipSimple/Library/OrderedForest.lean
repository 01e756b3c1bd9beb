import Mathlib.Data.List.Basic
import Mathlib.Data.List.Nodup
import Mathlib.Data.List.Perm.Basic
import Mathlib.Logic.Function.Basic

/-!
# Forests with ordered children

A node has at most one parent, and the children of a node stand in a list. `detach` takes a node out of
the children of its parent and `insert` puts it at a position of the children of another node, after it
was taken out of where it was. `slot` is the position in front of the first child of a higher rank; a node
inserted there keeps the children in the order of their ranks.
-/

namespace OrderedForest

structure Forest (V : Type*) where
  parent : V → Option V
  children : V → List V
  nodup : ∀ top, (children top).Nodup
  mem_children : ∀ node top, node ∈ children top ↔ parent node = some top

variable {V : Type*}

/-- `list.insert(i, node)` -/
def insertAt (i : Nat) (node : V) (nodes : List V) : List V := nodes.take i ++ node :: nodes.drop i

theorem perm_insertAt (i : Nat) (node : V) (nodes : List V) : (insertAt i node nodes).Perm (node :: nodes) := by
  rw [insertAt]
  refine List.perm_middle.trans ?_
  rw [List.take_append_drop]

@[simp] theorem mem_insertAt {i : Nat} {node other : V} {nodes : List V} :
    other ∈ insertAt i node nodes ↔ other = node ∨ other ∈ nodes := by
  rw [(perm_insertAt i node nodes).mem_iff, List.mem_cons]

theorem nodup_insertAt {i : Nat} {node : V} {nodes : List V} (h : nodes.Nodup) (hnew : node ∉ nodes) :
    (insertAt i node nodes).Nodup :=
  (perm_insertAt i node nodes).nodup_iff.mpr (List.nodup_cons.mpr ⟨hnew, h⟩)

/-! ### Insertion by rank -/

/-- The position in front of the first node of a higher rank. -/
def slot (rank : V → Nat) (node : V) (nodes : List V) : Nat := nodes.findIdx fun other => rank node < rank other

/-- Every node is followed by nodes of the same or a higher rank only. -/
def Ranked (rank : V → Nat) (nodes : List V) : Prop := nodes.Pairwise fun left right => rank left ≤ rank right

theorem ranked_insertAt_slot {rank : V → Nat} {nodes : List V} (node : V) (h : Ranked rank nodes) :
    Ranked rank (insertAt (slot rank node nodes) node nodes) := by
  induction nodes with
  | nil => exact List.pairwise_singleton _ _
  | cons head nodes ih =>
      obtain ⟨hhead, hrest⟩ := List.pairwise_cons.mp h
      by_cases hrank : rank node < rank head
      · have hslot : slot rank node (head :: nodes) = 0 := by simp [slot, List.findIdx_cons, hrank]
        rw [hslot]
        refine List.pairwise_cons.mpr ⟨fun other hother => ?_, h⟩
        rcases List.mem_cons.mp hother with rfl | hmem
        · omega
        · have := hhead other hmem
          omega
      · have hslot : slot rank node (head :: nodes) = slot rank node nodes + 1 := by
          simp [slot, List.findIdx_cons, hrank]
        rw [hslot]
        refine List.pairwise_cons.mpr ⟨fun other hother => ?_, ih hrest⟩
        rcases mem_insertAt.mp hother with rfl | hmem
        · omega
        · exact hhead other hmem

/-! ### Changes of a forest -/

namespace Forest

variable [DecidableEq V]

def detach (forest : Forest V) (node : V) : Forest V where
  parent := Function.update forest.parent node none
  children top := (forest.children top).erase node
  nodup top := (forest.nodup top).erase node
  mem_children other top := by
    rw [(forest.nodup top).mem_erase_iff, forest.mem_children, Function.update_apply]
    split_ifs with heq <;> simp [heq]

def insert (forest : Forest V) (top : V) (i : Nat) (node : V) : Forest V where
  parent := Function.update forest.parent node (some top)
  children other :=
    if other = top then insertAt i node ((forest.children other).erase node)
    else (forest.children other).erase node
  nodup other := by
    split_ifs
    · exact nodup_insertAt ((forest.nodup other).erase node) (forest.nodup other).not_mem_erase
    · exact (forest.nodup other).erase node
  mem_children child other := by
    rw [Function.update_apply]
    split_ifs with htop hchild hchild
    · simp [hchild, htop]
    · simp [hchild, (forest.nodup other).mem_erase_iff, forest.mem_children]
    · simp [hchild, (forest.nodup other).mem_erase_iff, Ne.symm htop]
    · simp [hchild, (forest.nodup other).mem_erase_iff, forest.mem_children]

variable (forest : Forest V) {node other top : V}

theorem parent_detach : (forest.detach node).parent other = if other = node then none else forest.parent other :=
  Function.update_apply ..

theorem parent_insert (i : Nat) :
    (forest.insert top i node).parent other = if other = node then some top else forest.parent other :=
  Function.update_apply ..

@[simp] theorem children_detach : (forest.detach node).children top = (forest.children top).erase node := rfl

theorem children_insert_self (i : Nat) (h : forest.parent node ≠ some top) :
    (forest.insert top i node).children top = insertAt i node (forest.children top) := by
  have hnew : node ∉ forest.children top := fun hmem => h ((forest.mem_children node top).mp hmem)
  simp only [insert, if_pos]
  rw [List.erase_of_not_mem hnew]

theorem children_insert_ne (i : Nat) (h : other ≠ top) :
    (forest.insert top i node).children other = (forest.children other).erase node :=
  if_neg h

end Forest

end OrderedForest
