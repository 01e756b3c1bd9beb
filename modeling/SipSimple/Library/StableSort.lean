import Mathlib.Data.List.Sort

/-!
# Stable sorting of expanded lists

`List.insertionSort` keeps the order of entries that the relation does not tell apart. Sorting a list whose entries
were each replaced by several, all with the key of the entry, is therefore the same as sorting the entries first and
replacing them afterwards.
-/

namespace StableSort

variable {α β : Type*} {r : α → α → Prop} {s : β → β → Prop} [DecidableRel r] [DecidableRel s]

/-- Inserts the entries, the last one first. -/
def insertAll (s : β → β → Prop) [DecidableRel s] (entries sorted : List β) : List β :=
  entries.foldr (List.orderedInsert s) sorted

theorem insertionSort_append (entries rest : List β) :
    (entries ++ rest).insertionSort s = insertAll s entries (rest.insertionSort s) := by
  induction entries with
  | nil => rfl
  | cons entry entries ih => rw [List.cons_append, List.insertionSort_cons, ih]; rfl

theorem orderedInsert_of_forall {entry : β} {sorted : List β} (h : ∀ other ∈ sorted, s entry other) :
    sorted.orderedInsert s entry = entry :: sorted := by
  cases sorted with
  | nil => rfl
  | cons other sorted => exact List.orderedInsert_cons_of_le s sorted (h other List.mem_cons_self)

theorem orderedInsert_append_of_forall {entry : β} {before after : List β} (h : ∀ other ∈ before, ¬s entry other) :
    (before ++ after).orderedInsert s entry = before ++ after.orderedInsert s entry := by
  induction before with
  | nil => rfl
  | cons other before ih =>
      rw [List.cons_append, List.orderedInsert_of_not_le s _ (h other List.mem_cons_self),
        ih fun entry hmem => h entry (List.mem_cons_of_mem other hmem)]
      rfl

/-- Entries that are below each other and below everything there go to the front. -/
theorem insertAll_front {entries sorted : List β} (hentries : ∀ entry ∈ entries, ∀ other ∈ entries, s entry other)
    (hsorted : ∀ entry ∈ entries, ∀ other ∈ sorted, s entry other) : insertAll s entries sorted = entries ++ sorted := by
  induction entries with
  | nil => rfl
  | cons entry entries ih =>
      have hrest : insertAll s entries sorted = entries ++ sorted :=
        ih (fun entry hentry other hother =>
            hentries entry (List.mem_cons_of_mem _ hentry) other (List.mem_cons_of_mem _ hother))
          fun entry hentry => hsorted entry (List.mem_cons_of_mem _ hentry)
      rw [insertAll, List.foldr_cons, ← insertAll, hrest, orderedInsert_of_forall, List.cons_append]
      intro other hother
      rcases List.mem_append.mp hother with hother | hother
      · exact hentries entry List.mem_cons_self other (List.mem_cons_of_mem _ hother)
      · exact hsorted entry List.mem_cons_self other hother

/-- Entries that are not below the front go behind it. -/
theorem insertAll_behind {entries before after : List β} (h : ∀ entry ∈ entries, ∀ other ∈ before, ¬s entry other) :
    insertAll s entries (before ++ after) = before ++ insertAll s entries after := by
  induction entries with
  | nil => rfl
  | cons entry entries ih =>
      rw [insertAll, List.foldr_cons, ← insertAll, ih fun entry hentry => h entry (List.mem_cons_of_mem _ hentry),
        orderedInsert_append_of_forall (h entry List.mem_cons_self)]
      rfl

section Expansion

variable [IsTrans α r] [Std.Refl r] {expand : α → List β}

theorem insertAll_flatMap (key : α) {sorted : List α} (hsorted : sorted.Pairwise r)
    (hexpand : ∀ left right, ∀ entry ∈ expand left, ∀ other ∈ expand right, s entry other ↔ r left right) :
    insertAll s (expand key) (sorted.flatMap expand) = (sorted.orderedInsert r key).flatMap expand := by
  have hkey : ∀ entry ∈ expand key, ∀ other ∈ expand key, s entry other := fun entry hentry other hother =>
    (hexpand key key entry hentry other hother).mpr (refl_of r key)
  induction sorted with
  | nil =>
      have hnone : ∀ entry ∈ expand key, ∀ other ∈ ([] : List β), s entry other := by simp
      simpa using insertAll_front hkey hnone
  | cons first sorted ih =>
      obtain ⟨hfirst, hsorted⟩ := List.pairwise_cons.mp hsorted
      by_cases hle : r key first
      · rw [List.orderedInsert_cons_of_le r sorted hle]
        show _ = expand key ++ (first :: sorted).flatMap expand
        refine insertAll_front hkey fun entry hentry other hother => ?_
        obtain ⟨right, hright, hother⟩ := List.mem_flatMap.mp hother
        rw [hexpand key right entry hentry other hother]
        rcases List.mem_cons.mp hright with rfl | hright
        · exact hle
        · exact trans_of r hle (hfirst right hright)
      · rw [List.orderedInsert_of_not_le r sorted hle, List.flatMap_cons, List.flatMap_cons, ← ih hsorted]
        refine insertAll_behind fun entry hentry other hother => ?_
        rwa [hexpand key first entry hentry other hother]

/-- Sorting commutes with an expansion whose entries are compared as what they come from. -/
theorem insertionSort_flatMap [Std.Total r] (entries : List α)
    (hexpand : ∀ left right, ∀ entry ∈ expand left, ∀ other ∈ expand right, s entry other ↔ r left right) :
    (entries.flatMap expand).insertionSort s = (entries.insertionSort r).flatMap expand := by
  induction entries with
  | nil => rfl
  | cons entry entries ih =>
      rw [List.flatMap_cons, insertionSort_append, ih, List.insertionSort_cons,
        insertAll_flatMap entry (List.pairwise_insertionSort r entries) hexpand]

end Expansion

end StableSort
