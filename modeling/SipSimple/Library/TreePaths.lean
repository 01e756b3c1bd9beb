import Mathlib.Data.List.Basic
import Mathlib.Data.Nat.Find

/-!
# Paths through a forest

A forest is given by the parents of its nodes; going up from a node ends somewhere. Every node has two
stops, an upper and a lower one. From the upper stop of a node one climbs to that of its parent or crosses
over to the lower stop of a sibling, from the lower stop one descends to that of a child. Between two nodes
of a tree, neither of which is above the other, there is exactly one such path: up to below the lowest node
above both, across, and down.
-/

namespace TreePaths

variable {V : Type*} (parent : V → Option V)

/-- The node so many steps above. -/
def ancestor : Nat → V → Option V
  | 0, x => some x
  | n + 1, x => (parent x).bind (ancestor n)

/-- Going up from a node ends. -/
def Grounded : Prop := ∀ x, ∃ n, ancestor parent n x = none

inductive Stop (V : Type*) where
  | up (node : V)
  | down (node : V)

def Stop.node : Stop V → V
  | .up node => node
  | .down node => node

inductive Edge : Stop V → Stop V → Prop
  | climb {x y : V} (h : parent x = some y) : Edge (.up x) (.up y)
  | cross {x y z : V} (hx : parent x = some z) (hy : parent y = some z) (hne : x ≠ y) :
      Edge (.up x) (.down y)
  | descend {x y : V} (h : parent y = some x) : Edge (.down x) (.down y)

/-- The stops between two stops. -/
def Path : Stop V → Stop V → List (Stop V) → Prop
  | s, t, [] => Edge parent s t
  | s, t, stop :: stops => Edge parent s stop ∧ Path stop t stops

variable {parent}

/-! ### Ancestors -/

theorem ancestor_add (m n : Nat) (x : V) :
    ancestor parent (m + n) x = (ancestor parent m x).bind (ancestor parent n) := by
  induction m generalizing x with
  | zero => rw [Nat.zero_add, ancestor, Option.bind_some]
  | succ m ih =>
      rw [Nat.add_right_comm, ancestor, ancestor]
      cases parent x with
      | none => rfl
      | some y => exact ih y

theorem ancestor_succ {n : Nat} {x y : V} (h : ancestor parent n x = some y) :
    ancestor parent (n + 1) x = parent y := by
  rw [ancestor_add, h, Option.bind_some, ancestor]
  cases parent y <;> rfl

theorem ancestor_of_le {m n : Nat} {x y : V} (h : ancestor parent m x = some y) (hle : m ≤ n) :
    ancestor parent n x = ancestor parent (n - m) y := by
  have heq : n = m + (n - m) := by omega
  rw [heq, ancestor_add, h, Option.bind_some, Nat.add_sub_cancel_left]

theorem ancestor_none {m n : Nat} {x : V} (h : ancestor parent m x = none) (hle : m ≤ n) :
    ancestor parent n x = none := by
  have heq : n = m + (n - m) := by omega
  rw [heq, ancestor_add, h, Option.bind_none]

/-- **No node is above itself.** -/
theorem Grounded.acyclic (hgrounded : Grounded parent) (x : V) (n : Nat) :
    ancestor parent (n + 1) x ≠ some x := by
  intro hcycle
  obtain ⟨k, hend⟩ := hgrounded x
  have hround : ∀ j, ancestor parent (j * (n + 1)) x = some x := by
    intro j
    induction j with
    | zero => rw [Nat.zero_mul, ancestor]
    | succ j ih => rw [Nat.succ_mul, ancestor_add, ih, Option.bind_some, hcycle]
  have hle : k ≤ k * (n + 1) := Nat.le_mul_of_pos_right k (Nat.succ_pos n)
  cases (hround k).symm.trans (ancestor_none hend hle)

theorem Grounded.ancestor_inj (hgrounded : Grounded parent) {m n : Nat} {x y : V}
    (hm : ancestor parent m x = some y) (hn : ancestor parent n x = some y) : m = n := by
  have hwlog : ∀ {m n}, ancestor parent m x = some y → ancestor parent n x = some y → ¬ m < n := by
    intro m n hm hn hlt
    rw [ancestor_of_le hm (Nat.le_of_lt hlt), show n - m = (n - m - 1) + 1 by omega] at hn
    exact hgrounded.acyclic y _ hn
  have hnot := hwlog hm hn
  have hnot' := hwlog hn hm
  omega

/-- Nodes may leave their parents. -/
theorem Grounded.leave {parent' : V → Option V} (hgrounded : Grounded parent)
    (hleave : ∀ x, parent' x = parent x ∨ parent' x = none) : Grounded parent' := by
  intro x
  obtain ⟨n, hend⟩ := hgrounded x
  refine ⟨n, ?_⟩
  induction n generalizing x with
  | zero => cases hend
  | succ n ih =>
      rw [ancestor] at hend ⊢
      rcases hleave x with hsame | hnone
      · rw [hsame]
        cases hparent : parent x with
        | none => rfl
        | some y =>
            rw [hparent] at hend
            exact ih y hend
      · rw [hnone, Option.bind_none]

theorem ancestor_join {parent' : V → Option V} {child top : V}
    (hother : ∀ x, x ≠ child → parent' x = parent x) {x : V} {n : Nat}
    (hend : ancestor parent n x = none) (htop : ∃ k, ancestor parent' k top = none)
    (hchild : parent' child = some top) : ∃ k, ancestor parent' k x = none := by
  induction n generalizing x with
  | zero => cases hend
  | succ n ih =>
      by_cases heq : x = child
      · obtain ⟨k, htop⟩ := htop
        refine ⟨k + 1, ?_⟩
        rw [ancestor, heq, hchild, Option.bind_some, htop]
      · rw [ancestor] at hend
        cases hparent : parent x with
        | none => exact ⟨1, by rw [ancestor, hother x heq, hparent, Option.bind_none]⟩
        | some y =>
            rw [hparent] at hend
            obtain ⟨k, hk⟩ := ih hend
            exact ⟨k + 1, by rw [ancestor, hother x heq, hparent, Option.bind_some, hk]⟩

/-- A node without a parent may join one that is not below it. -/
theorem Grounded.join {parent' : V → Option V} (hgrounded : Grounded parent) {child top : V}
    (hchild : parent' child = some top) (hother : ∀ x, x ≠ child → parent' x = parent x)
    (hbelow : ∀ n, ancestor parent n top ≠ some child) : Grounded parent' := by
  have htop : ∃ k, ancestor parent' k top = none := by
    obtain ⟨n, hend⟩ := hgrounded top
    refine ⟨n, ?_⟩
    have hsame : ∀ m x, (∀ k, ancestor parent k x ≠ some child) →
        ancestor parent' m x = ancestor parent m x := by
      intro m
      induction m with
      | zero => exact fun _ _ => rfl
      | succ m ih =>
          intro x hx
          have hne : x ≠ child := fun heq => hx 0 (by rw [ancestor, heq])
          rw [ancestor, ancestor, hother x hne]
          cases hparent : parent x with
          | none => rfl
          | some y =>
              refine ih y fun k hk => hx (k + 1) ?_
              rw [ancestor, hparent, Option.bind_some, hk]
    rw [hsame n top hbelow, hend]
  intro x
  obtain ⟨n, hend⟩ := hgrounded x
  exact ancestor_join hother hend htop hchild

/-- Nodes that leave their parents take their edges to and from these and their siblings with them. -/
theorem edge_leave {parent' : V → Option V} {gone : V → Prop} (hgone : ∀ x, gone x → parent' x = none)
    (hstay : ∀ x, ¬ gone x → parent' x = parent x) {σ τ : Stop V} :
    Edge parent' σ τ ↔ Edge parent σ τ ∧ ∀ x, gone x → σ ≠ .up x ∧ τ ≠ .down x := by
  have hkept : ∀ {x y}, parent' x = some y → ¬ gone x ∧ parent x = some y := by
    intro x y hparent
    have hnot : ¬ gone x := fun hyes => by simp [hgone x hyes] at hparent
    exact ⟨hnot, (hstay x hnot).symm.trans hparent⟩
  constructor
  · intro hedge
    cases hedge with
    | climb h =>
        obtain ⟨hnot, h⟩ := hkept h
        exact ⟨.climb h, fun x hx => ⟨fun heq => hnot (by cases heq; exact hx), nofun⟩⟩
    | cross hx hy hne =>
        obtain ⟨hnotx, hx⟩ := hkept hx
        obtain ⟨hnoty, hy⟩ := hkept hy
        exact ⟨.cross hx hy hne, fun x hx => ⟨fun heq => hnotx (by cases heq; exact hx),
          fun heq => hnoty (by cases heq; exact hx)⟩⟩
    | descend h =>
        obtain ⟨hnot, h⟩ := hkept h
        exact ⟨.descend h, fun x hx => ⟨nofun, fun heq => hnot (by cases heq; exact hx)⟩⟩
  · rintro ⟨hedge, hnot⟩
    cases hedge with
    | climb h => exact .climb ((hstay _ fun hx => (hnot _ hx).1 rfl).trans h)
    | cross hx hy hne =>
        exact .cross ((hstay _ fun hx => (hnot _ hx).1 rfl).trans hx)
          ((hstay _ fun hx => (hnot _ hx).2 rfl).trans hy) hne
    | descend h => exact .descend ((hstay _ fun hx => (hnot _ hx).2 rfl).trans h)

theorem Grounded.edge_ne (hgrounded : Grounded parent) {σ τ : Stop V} (h : Edge parent σ τ) :
    σ.node ≠ τ.node := by
  have hne : ∀ {x y}, parent x = some y → x ≠ y := by
    rintro x y hparent rfl
    exact hgrounded.acyclic x 0 (by rw [ancestor, hparent, Option.bind_some, ancestor])
  cases h with
  | climb h => exact hne h
  | cross _ _ h => exact h
  | descend h => exact (hne h).symm

/-! ### The shape of a path -/

/-- The upper stops of so many nodes above a node, from the lowest one on. -/
def climbing (parent : V → Option V) : Nat → V → List (Stop V)
  | 0, _ => []
  | n + 1, x => (parent x).elim [] fun y => .up y :: climbing parent n y

/-- The lower stops of so many nodes above a node, down to the lowest one. -/
def descending (parent : V → Option V) : Nat → V → List (Stop V)
  | 0, _ => []
  | n + 1, x => (ancestor parent (n + 1) x).elim [] fun y => .down y :: descending parent n x

/-- Where a path between two nodes crosses over. -/
structure Crossing (parent : V → Option V) (a b : V) (m n : Nat) (x y z : V) : Prop where
  left : ancestor parent m a = some x
  right : ancestor parent n b = some y
  leftParent : parent x = some z
  rightParent : parent y = some z
  apart : x ≠ y

theorem path_descending {x b : V} {path : List (Stop V)} (h : Path parent (.down x) (.down b) path) :
    ∃ n, ancestor parent (n + 1) b = some x ∧ path = descending parent n b := by
  induction path generalizing x with
  | nil =>
      cases h with
      | descend hparent => exact ⟨0, by rw [ancestor, hparent, Option.bind_some, ancestor], rfl⟩
  | cons stop stops ih =>
      obtain ⟨hedge, hrest⟩ := h
      cases hedge with
      | @descend _ y hparent =>
          obtain ⟨n, hn, rfl⟩ := ih hrest
          refine ⟨n + 1, ?_, ?_⟩
          · rw [ancestor_succ hn, hparent]
          · rw [descending, hn, Option.elim_some]

theorem path_climbing {a b : V} {path : List (Stop V)} (h : Path parent (.up a) (.down b) path) :
    ∃ m n x y z, Crossing parent a b m n x y z ∧
      path = climbing parent m a ++ descending parent n b := by
  induction path generalizing a with
  | nil =>
      cases h with
      | @cross _ _ z hx hy hne => exact ⟨0, 0, a, b, z, ⟨rfl, rfl, hx, hy, hne⟩, rfl⟩
  | cons stop stops ih =>
      obtain ⟨hedge, hrest⟩ := h
      cases hedge with
      | @climb _ y hparent =>
          obtain ⟨m, n, x, y', z, hcrossing, rfl⟩ := ih hrest
          refine ⟨m + 1, n, x, y', z, { hcrossing with left := ?_ }, ?_⟩
          · rw [ancestor, hparent, Option.bind_some, hcrossing.left]
          · rw [climbing, hparent, Option.elim_some, List.cons_append]
      | @cross _ y z hx hy hne =>
          obtain ⟨n, hn, rfl⟩ := path_descending hrest
          refine ⟨0, n + 1, a, y, z, ⟨rfl, hn, hx, hy, hne⟩, ?_⟩
          rw [climbing, List.nil_append, descending, hn, Option.elim_some]

/-- There is one place to cross over. -/
theorem Crossing.unique (hgrounded : Grounded parent) {a b : V} {m n m' n' : Nat}
    {x y z x' y' z' : V} (h : Crossing parent a b m n x y z)
    (h' : Crossing parent a b m' n' x' y' z') : m = m' ∧ n = n' := by
  have hwlog : ∀ {m n m' n' : Nat} {x y z x' y' z' : V}, Crossing parent a b m n x y z →
      Crossing parent a b m' n' x' y' z' → ¬ m < m' := by
    intro m n m' n' x y z x' y' z' h h' hlt
    have hleft : ancestor parent (m + 1) a = some z := (ancestor_succ h.left).trans h.leftParent
    have hright : ancestor parent (n + 1) b = some z := (ancestor_succ h.right).trans h.rightParent
    have hx' : ancestor parent (n + 1 + (m' - (m + 1))) b = some x' := by
      rw [ancestor_add, hright, Option.bind_some, ← ancestor_of_le hleft hlt, h'.left]
    have hz' : ancestor parent (n + 1 + (m' - (m + 1)) + 1) b = some z' :=
      (ancestor_succ hx').trans h'.leftParent
    have hcount := hgrounded.ancestor_inj hz' ((ancestor_succ h'.right).trans h'.rightParent)
    rw [show n + 1 + (m' - (m + 1)) = n' by omega, h'.right] at hx'
    exact h'.apart (Option.some.inj hx').symm
  have hm : m = m' := by
    have hnot := hwlog h h'
    have hnot' := hwlog h' h
    omega
  subst hm
  have hx : x = x' := Option.some.inj (h.left.symm.trans h'.left)
  have hz : z = z' := Option.some.inj (h.leftParent.symm.trans (hx ▸ h'.leftParent))
  have hright := (ancestor_succ h.right).trans h.rightParent
  have hcount := hgrounded.ancestor_inj hright
    ((ancestor_succ h'.right).trans (h'.rightParent.trans (congrArg some hz.symm)))
  exact ⟨rfl, by omega⟩

/-- There is no path from a node back to itself. -/
theorem Grounded.no_loop (hgrounded : Grounded parent) {a : V} {path : List (Stop V)} :
    ¬ Path parent (.up a) (.down a) path := by
  intro hpath
  obtain ⟨m, n, x, y, z, h, -⟩ := path_climbing hpath
  have hleft := (ancestor_succ h.left).trans h.leftParent
  have hright := (ancestor_succ h.right).trans h.rightParent
  have hcount := hgrounded.ancestor_inj hleft hright
  obtain rfl : m = n := by omega
  exact h.apart (Option.some.inj (h.left.symm.trans h.right))

/-- **Two paths between the same nodes are the same.** -/
theorem path_unique (hgrounded : Grounded parent) {a b : V} {path path' : List (Stop V)}
    (h : Path parent (.up a) (.down b) path) (h' : Path parent (.up a) (.down b) path') :
    path = path' := by
  obtain ⟨m, n, x, y, z, hcrossing, rfl⟩ := path_climbing h
  obtain ⟨m', n', x', y', z', hcrossing', rfl⟩ := path_climbing h'
  obtain ⟨rfl, rfl⟩ := hcrossing.unique hgrounded hcrossing'
  rfl

/-! ### The path that is there -/

/-- The nodes of a path are above one of its ends, and below another node. -/
def Between (parent : V → Option V) (a b : V) : Stop V → Prop
  | .up x => ∃ n, ancestor parent (n + 1) a = some x ∧ parent x ≠ none
  | .down x => ∃ n, ancestor parent (n + 1) b = some x ∧ parent x ≠ none

theorem descending_path {b x : V} {n : Nat} (h : ancestor parent (n + 1) b = some x) :
    Path parent (.down x) (.down b) (descending parent n b) := by
  induction n generalizing x with
  | zero =>
      have hself : ancestor parent 0 b = some b := rfl
      exact .descend ((ancestor_succ hself).symm.trans h)
  | succ n ih =>
      cases hy : ancestor parent (n + 1) b with
      | none => cases (ancestor_none hy (Nat.le_succ _)).symm.trans h
      | some y =>
          rw [descending, hy, Option.elim_some]
          exact ⟨.descend ((ancestor_succ hy).symm.trans h), ih hy⟩

theorem between_descending {a b y z : V} {n : Nat} (h : ancestor parent n b = some y)
    (hz : parent y = some z) : ∀ stop ∈ descending parent n b, Between parent a b stop := by
  induction n generalizing y z with
  | zero => simp [descending]
  | succ n ih =>
      cases hx : ancestor parent n b with
      | none => cases (ancestor_none hx (Nat.le_succ _)).symm.trans h
      | some x =>
          have hparent : parent x = some y := (ancestor_succ hx).symm.trans h
          rw [descending, h, Option.elim_some]
          intro stop hstop
          rcases List.mem_cons.mp hstop with rfl | hstop
          · exact ⟨n, h, by simp [hz]⟩
          · exact ih hx hparent stop hstop

theorem crossing_path {a b : V} {m n : Nat} {x y z : V} (h : Crossing parent a b m n x y z) :
    Path parent (.up a) (.down b) (climbing parent m a ++ descending parent n b) := by
  induction m generalizing a with
  | zero =>
      obtain rfl : a = x := Option.some.inj h.left
      cases n with
      | zero =>
          obtain rfl : b = y := Option.some.inj h.right
          exact .cross h.leftParent h.rightParent h.apart
      | succ n =>
          rw [climbing, List.nil_append, descending, h.right, Option.elim_some]
          exact ⟨.cross h.leftParent h.rightParent h.apart, descending_path h.right⟩
  | succ m ih =>
      cases hparent : parent a with
      | none =>
          have hleft := h.left
          rw [ancestor, hparent, Option.bind_none] at hleft
          cases hleft
      | some a' =>
          have hleft := h.left
          rw [ancestor, hparent, Option.bind_some] at hleft
          rw [climbing, hparent, Option.elim_some, List.cons_append]
          exact ⟨.climb hparent, ih { h with left := hleft }⟩

theorem between_climbing {a b x z : V} {m : Nat} (h : ancestor parent m a = some x)
    (hz : parent x = some z) : ∀ stop ∈ climbing parent m a, Between parent a b stop := by
  have hall : ∀ k a', k + m ≥ k → ancestor parent k a = some a' → ∀ m, ancestor parent m a' = some x →
      ∀ stop ∈ climbing parent m a', Between parent a b stop := by
    intro k a' _ hk m hm
    induction m generalizing k a' with
    | zero => simp [climbing]
    | succ m ih =>
        cases hparent : parent a' with
        | none =>
            rw [climbing, hparent, Option.elim_none]
            simp
        | some y =>
            rw [ancestor, hparent, Option.bind_some] at hm
            have hy : ancestor parent (k + 1) a = some y := (ancestor_succ hk).trans hparent
            rw [climbing, hparent, Option.elim_some]
            intro stop hstop
            rcases List.mem_cons.mp hstop with rfl | hstop
            · refine ⟨k, hy, ?_⟩
              cases m with
              | zero =>
                  obtain rfl : y = x := Option.some.inj hm
                  simp [hz]
              | succ m =>
                  intro hnone
                  rw [ancestor, hnone, Option.bind_none] at hm
                  cases hm
            · exact ih (k + 1) y (by omega) hy hm stop hstop
  exact hall 0 a (by omega) rfl m h

/-- **There is a path between two nodes of a tree**, if neither is above the other. -/
theorem path_exists {a b r : V} {i j : Nat} (ha : ancestor parent i a = some r)
    (hb : ancestor parent j b = some r) (hab : ∀ n, ancestor parent n b ≠ some a)
    (hba : ∀ n, ancestor parent n a ≠ some b) :
    ∃ path, Path parent (.up a) (.down b) path ∧ ∀ stop ∈ path, Between parent a b stop := by
  classical
  -- the lowest node above both
  have hcommon : ∃ k z, ancestor parent k a = some z ∧ ∃ l, ancestor parent l b = some z :=
    ⟨i, r, ha, j, hb⟩
  obtain ⟨z, hz, l, hl⟩ := Nat.find_spec hcommon
  obtain ⟨m, hm⟩ : ∃ m, Nat.find hcommon = m + 1 := by
    refine Nat.exists_eq_succ_of_ne_zero fun hzero => ?_
    rw [hzero] at hz
    obtain rfl : a = z := Option.some.inj hz
    exact hab l hl
  obtain ⟨n, rfl⟩ : ∃ n, l = n + 1 := by
    refine Nat.exists_eq_succ_of_ne_zero fun hzero => ?_
    rw [hzero] at hl
    obtain rfl : b = z := Option.some.inj hl
    exact hba _ hz
  rw [hm] at hz
  cases hx : ancestor parent m a with
  | none => cases (ancestor_none hx (Nat.le_succ m)).symm.trans hz
  | some x =>
      cases hy : ancestor parent n b with
      | none => cases (ancestor_none hy (Nat.le_succ n)).symm.trans hl
      | some y =>
          have hxz : parent x = some z := (ancestor_succ hx).symm.trans hz
          have hyz : parent y = some z := (ancestor_succ hy).symm.trans hl
          have hne : x ≠ y := by
            rintro rfl
            have hlt : m < Nat.find hcommon := by omega
            exact Nat.find_min hcommon hlt ⟨x, hx, n, hy⟩
          refine ⟨_, crossing_path ⟨hx, hy, hxz, hyz, hne⟩, fun stop hstop => ?_⟩
          rcases List.mem_append.mp hstop with hstop | hstop
          · exact between_climbing hx hxz stop hstop
          · exact between_descending hy hyz stop hstop

end TreePaths
