import Mathlib.Data.List.TakeWhile
import Mathlib.Data.List.Infix

/-!
# Searches for a literal and what follows it

An unanchored search takes the first place where its pattern matches. Here the pattern is a literal with
a run of characters of a class after it, which ends where the class ends or at a closing character. A
character that neither the literal nor the class has separates the text: what is found on its left is
found without its right.
-/

namespace TextSearch

variable {α : Type*}

/-- The first place where the pattern matches. -/
def first (pattern : List α → Option (List α)) : List α → Option (List α)
  | [] => pattern []
  | x :: rest => (pattern (x :: rest)).or (first pattern rest)

/-- Words with a separator between them. -/
def join (sep : α) : List (List α) → List α
  | [] => []
  | [word] => word
  | word :: next :: rest => word ++ sep :: join sep (next :: rest)

variable {literal : List α} {p : α → Bool} {sep close : α}

theorem prefix_append_sep (hsep : sep ∉ literal) (text rest : List α) :
    literal <+: text ++ sep :: rest ↔ literal <+: text := by
  constructor
  · intro h
    rcases List.prefix_or_prefix_of_prefix h (List.prefix_append text (sep :: rest)) with hle | ⟨tail, htail⟩
    · exact hle
    · rw [← htail, List.prefix_append_right_inj] at h
      cases tail with
      | nil => exact ⟨[], by rw [← htail, List.append_nil, List.append_nil]⟩
      | cons x tail =>
          obtain ⟨hx, -⟩ := List.cons_prefix_cons.mp h
          exact absurd (by rw [← htail, hx]; simp) hsep
  · intro h
    exact h.trans (List.prefix_append _ _)

theorem takeWhile_append_sep (hp : p sep = false) (text rest : List α) :
    (text ++ sep :: rest).takeWhile p = text.takeWhile p := by
  induction text with
  | nil => simp [hp]
  | cons x text ih =>
      rw [List.cons_append, List.takeWhile_cons, List.takeWhile_cons, ih]

/-- A literal that ends in the closing character does not reach into a text without it. -/
theorem prefix_of_append (hliteral : literal.getLast? = some close) {text rest : List α}
    (hclose : close ∉ rest) (h : literal <+: text ++ rest) : literal <+: text := by
  rcases List.prefix_or_prefix_of_prefix h (List.prefix_append text rest) with hle | ⟨tail, htail⟩
  · exact hle
  · cases tail with
    | nil => exact ⟨[], by rw [← htail, List.append_nil, List.append_nil]⟩
    | cons x tail =>
        rw [← htail, List.prefix_append_right_inj] at h
        rw [← htail, List.getLast?_append_cons] at hliteral
        exact absurd (h.subset (List.mem_of_getLast? hliteral)) hclose

/-- A match at the front is the first. -/
theorem first_of_front {pattern : List α → Option (List α)} {text found : List α}
    (h : pattern text = some found) : first pattern text = some found := by
  cases text with
  | nil => exact h
  | cons x rest => rw [first, h, Option.some_or]

variable [DecidableEq α]

/-- The literal and the longest non-empty run after it. -/
def field (literal : List α) (p : α → Bool) (text : List α) : Option (List α) :=
  if literal <+: text then
    let run := (text.drop literal.length).takeWhile p
    if run = [] then none else some run
  else none

/-- The literal and a non-empty run up to the closing character. -/
def quoted (literal : List α) (close : α) (text : List α) : Option (List α) :=
  if literal <+: text then
    let rest := text.drop literal.length
    let run := rest.takeWhile (· ≠ close)
    if run = [] ∨ run.length = rest.length then none else some run
  else none

theorem field_append_sep (hsep : sep ∉ literal) (hp : p sep = false) (text rest : List α) :
    field literal p (text ++ sep :: rest) = field literal p text := by
  unfold field
  by_cases hstarts : literal <+: text
  · rw [if_pos ((prefix_append_sep hsep text rest).mpr hstarts), if_pos hstarts,
      List.drop_append_of_le_length hstarts.length_le, takeWhile_append_sep hp]
  · rw [if_neg fun h => hstarts ((prefix_append_sep hsep text rest).mp h), if_neg hstarts]

/-- **A search sees the two sides of a separator one after the other.** -/
theorem first_append_sep (hne : literal ≠ []) (hsep : sep ∉ literal) (hp : p sep = false)
    (text rest : List α) :
    first (field literal p) (text ++ sep :: rest) =
      (first (field literal p) text).or (first (field literal p) rest) := by
  have hnil : field literal p [] = none := if_neg fun h => hne (List.prefix_nil.mp h)
  induction text with
  | nil =>
      have hhead := field_append_sep hsep hp [] rest
      rw [List.nil_append, hnil] at hhead
      show (field literal p (sep :: rest)).or _ = (field literal p []).or _
      rw [hhead, hnil]
  | cons x text ih =>
      have hhead := field_append_sep hsep hp (x :: text) rest
      rw [List.cons_append] at hhead ⊢
      rw [first, hhead, ih, first, Option.or_assoc]

theorem first_join (hne : literal ≠ []) (hsep : sep ∉ literal) (hp : p sep = false)
    (words : List (List α)) :
    first (field literal p) (join sep words) = words.findSome? (first (field literal p)) := by
  induction words with
  | nil => exact if_neg fun h => hne (List.prefix_nil.mp h)
  | cons word words ih =>
      cases words with
      | nil => rw [join, List.findSome?_singleton]
      | cons next rest =>
          rw [join, first_append_sep hne hsep hp, ih]
          generalize next :: rest = words
          rw [List.findSome?_cons]
          cases first (field literal p) word <;> rfl

/-- A text that lacks a character of the literal has no match. -/
theorem first_field_eq_none {c : α} (hliteral : c ∈ literal) {text : List α} (hc : c ∉ text) :
    first (field literal p) text = none := by
  induction text with
  | nil =>
      refine if_neg fun h => ?_
      rw [List.prefix_nil.mp h] at hliteral
      cases hliteral
  | cons x text ih =>
      rw [first, ih fun h => hc (List.mem_cons_of_mem _ h), Option.or_none]
      exact if_neg fun h => hc (h.subset hliteral)

theorem field_literal (literal : List α) {run : List α} (hne : run ≠ []) (hrun : ∀ x ∈ run, p x = true) :
    field literal p (literal ++ run) = some run := by
  rw [field, if_pos (List.prefix_append _ _), List.drop_left, List.takeWhile_eq_self_iff.mpr hrun]
  exact if_neg hne

/-- A run that is found is not empty. -/
theorem ne_nil_of_first {text run : List α} (h : first (field literal p) text = some run) : run ≠ [] := by
  have hfield : ∀ text run, field literal p text = some run → run ≠ [] := by
    intro text run hrun
    unfold field at hrun
    split_ifs at hrun with hstarts
    simp only [Option.ite_none_left_eq_some, Option.some.injEq] at hrun
    exact hrun.2 ▸ hrun.1
  induction text with
  | nil => exact hfield [] run h
  | cons x text ih =>
      rw [first, Option.or_eq_some_iff] at h
      exact h.elim (hfield _ run) fun hrest => ih hrest.2

theorem quoted_literal (literal : List α) {run : List α} (hrun : close ∉ run) (rest : List α) :
    quoted literal close (literal ++ (run ++ close :: rest)) = if run = [] then none else some run := by
  have htake : (run ++ close :: rest).takeWhile (· ≠ close) = run := by
    rw [takeWhile_append_sep (by simp), List.takeWhile_eq_self_iff]
    exact fun x hx => decide_eq_true fun heq => hrun (heq ▸ hx)
  have hlength : run.length ≠ (run ++ close :: rest).length := by
    rw [List.length_append, List.length_cons]
    omega
  rw [quoted, if_pos (List.prefix_append _ _), List.drop_left]
  simp only [htake, hlength, or_false]

/-- A closing character that is not there closes nothing. -/
theorem quoted_open {tail : List α} (hclose : close ∉ tail) :
    quoted literal close (literal ++ tail) = none := by
  rw [quoted, if_pos (List.prefix_append _ _), List.drop_left]
  refine if_pos (Or.inr ?_)
  rw [List.takeWhile_eq_self_iff.mpr]
  exact fun x hx => decide_eq_true fun heq => hclose (heq ▸ hx)

theorem quoted_eq_none {text : List α} (hclose : close ∉ text) : quoted literal close text = none := by
  by_cases hstarts : literal <+: text
  · obtain ⟨tail, rfl⟩ := hstarts
    exact quoted_open fun h => hclose (List.mem_append_right _ h)
  · exact if_neg hstarts

theorem first_quoted_eq_none {text : List α} (hclose : close ∉ text) :
    first (quoted literal close) text = none := by
  induction text with
  | nil => exact quoted_eq_none hclose
  | cons x text ih =>
      rw [first, quoted_eq_none hclose, ih fun h => hclose (List.mem_cons_of_mem _ h)]
      rfl

/-- What has no closing character adds nothing to the text before it. -/
theorem quoted_append (hliteral : literal.getLast? = some close) {text rest : List α}
    (hclose : close ∉ rest) : quoted literal close (text ++ rest) = quoted literal close text := by
  by_cases hstarts : literal <+: text
  · obtain ⟨tail, rfl⟩ := hstarts
    by_cases hmem : close ∈ tail
    · obtain ⟨run, after, rfl, hrun⟩ := List.eq_append_cons_of_mem hmem
      rw [List.append_assoc, List.append_assoc, List.cons_append, quoted_literal literal hrun,
        quoted_literal literal hrun]
    · have hboth : close ∉ tail ++ rest := fun h =>
        (List.mem_append.mp h).elim hmem hclose
      rw [List.append_assoc, quoted_open hboth, quoted_open hmem]
  · exact (if_neg fun h => hstarts (prefix_of_append hliteral hclose h)).trans (if_neg hstarts).symm

theorem first_quoted_append (hliteral : literal.getLast? = some close) {rest : List α}
    (hclose : close ∉ rest) (text : List α) :
    first (quoted literal close) (text ++ rest) = first (quoted literal close) text := by
  induction text with
  | nil =>
      have hnil : first (quoted literal close) [] = none := first_quoted_eq_none List.not_mem_nil
      rw [List.nil_append, first_quoted_eq_none hclose, hnil]
  | cons x text ih =>
      have hhead : quoted literal close ((x :: text) ++ rest) = quoted literal close (x :: text) :=
        quoted_append hliteral hclose
      rw [List.cons_append] at hhead ⊢
      rw [first, hhead, ih, first]

end TextSearch
