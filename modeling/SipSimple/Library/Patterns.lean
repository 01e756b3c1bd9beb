import Mathlib.Data.List.Basic

/-!
# Patterns that are matched by backtracking

A pattern is the list of its matches at the start of a text, in the order in which backtracking tries them; a
match is a value and the text after it. The match that is taken is the first. Where a text has one match only, the
order does not matter; where it has several, a repetition that is tried from the shortest on takes the shortest
that lets the rest match.
-/

def Pattern (α : Type) : Type := List Char → List (α × List Char)

namespace Pattern

variable {α β : Type}

/-- The value of the match that is taken. -/
def run (pattern : Pattern α) (text : List Char) : Option α := (pattern text).head?.map Prod.fst

def orElse (first second : Pattern α) : Pattern α := fun text => first text ++ second text

/-- `pattern?` -/
def optional (pattern : Pattern α) : Pattern (Option α) := fun text =>
  (pattern text).map (fun found => (some found.1, found.2)) ++ [(none, text)]

instance : Monad Pattern where
  pure value := fun text => [(value, text)]
  bind pattern next := fun text => (pattern text).flatMap fun found => next found.1 found.2

/-- The characters of the text, one after the other. -/
def literal (word : List Char) : Pattern Unit := fun text =>
  if word.isPrefixOf text then [((), text.drop word.length)] else []

/-- `[class]*`, the longest first. -/
def greedy (accepts : Char → Bool) : Pattern (List Char)
  | [] => [([], [])]
  | char :: text =>
      if accepts char then (greedy accepts text).map (fun found => (char :: found.1, found.2)) ++ [([], char :: text)]
      else [([], char :: text)]

/-- `[class]*?`, the shortest first. -/
def shortest (accepts : Char → Bool) : Pattern (List Char)
  | [] => [([], [])]
  | char :: text =>
      if accepts char then
        ([], char :: text) :: (shortest accepts text).map fun found => (char :: found.1, found.2)
      else [([], char :: text)]

/-- `[class]` -/
def one (accepts : Char → Bool) : Pattern Char
  | [] => []
  | char :: text => if accepts char then [(char, text)] else []

/-- `[class]+` -/
def greedyOne (accepts : Char → Bool) : Pattern (List Char) := do
  let char ← one accepts
  let word ← greedy accepts
  return char :: word

/-- `[class]+?` -/
def shortestOne (accepts : Char → Bool) : Pattern (List Char) := do
  let char ← one accepts
  let word ← shortest accepts
  return char :: word

/-- `[class]{least,most}`, the longest first. -/
def between (accepts : Char → Bool) (least most : Nat) : Pattern (List Char) := fun text =>
  (greedy accepts text).filter fun found => least ≤ found.1.length && found.1.length ≤ most

/-- `(pattern)*` with at most so many turns, the most first. -/
def turns (pattern : Pattern α) : Nat → Pattern (List α)
  | 0 => pure []
  | limit + 1 => orElse (do
      let value ← pattern
      let values ← turns pattern limit
      return value :: values) (pure [])

/-- `(pattern)*` of a pattern that does not match the empty text. -/
def many (pattern : Pattern α) : Pattern (List α) := fun text => turns pattern text.length text

/-- `$` -/
def atEnd : Pattern Unit := fun text => if text = [] ∨ text = ['\n'] then [((), text)] else []

/-! ### Matches -/

@[simp] theorem mem_pure {value : α} {text : List Char} {found : α × List Char} :
    found ∈ (pure value : Pattern α) text ↔ found = (value, text) := List.mem_singleton

@[simp] theorem mem_bind {pattern : Pattern α} {next : α → Pattern β} {text : List Char} {found : β × List Char} :
    found ∈ (pattern >>= next) text ↔ ∃ value rest, (value, rest) ∈ pattern text ∧ found ∈ next value rest := by
  show found ∈ (pattern text).flatMap (fun found => next found.1 found.2) ↔ _
  rw [List.mem_flatMap]
  constructor
  · rintro ⟨⟨value, rest⟩, hmem, hnext⟩
    exact ⟨value, rest, hmem, hnext⟩
  · rintro ⟨value, rest, hmem, hnext⟩
    exact ⟨(value, rest), hmem, hnext⟩

@[simp] theorem mem_orElse {first second : Pattern α} {text : List Char} {found : α × List Char} :
    found ∈ orElse first second text ↔ found ∈ first text ∨ found ∈ second text := List.mem_append

@[simp] theorem mem_optional {pattern : Pattern α} {text rest : List Char} {value : Option α} :
    (value, rest) ∈ optional pattern text ↔
      (∃ given, value = some given ∧ (given, rest) ∈ pattern text) ∨ (value = none ∧ rest = text) := by
  rw [optional, List.mem_append, List.mem_map, List.mem_singleton, Prod.mk.injEq]
  refine or_congr ⟨?_, ?_⟩ Iff.rfl
  · rintro ⟨⟨given, after⟩, hmem, heq⟩
    obtain ⟨rfl, rfl⟩ := Prod.mk.inj heq
    exact ⟨given, rfl, hmem⟩
  · rintro ⟨given, rfl, hmem⟩
    exact ⟨(given, rest), hmem, rfl⟩

@[simp] theorem mem_literal {word text rest : List Char} {value : Unit} :
    (value, rest) ∈ literal word text ↔ text = word ++ rest := by
  rw [literal]
  split
  next hstarts =>
    obtain ⟨after, rfl⟩ := List.isPrefixOf_iff_prefix.mp hstarts
    rw [List.drop_left, List.mem_singleton, Prod.mk.injEq, List.append_cancel_left_eq]
    exact ⟨fun h => h.2.symm, fun h => ⟨rfl, h.symm⟩⟩
  next hstarts =>
    refine ⟨fun h => absurd h List.not_mem_nil, ?_⟩
    rintro rfl
    exact absurd (List.isPrefixOf_iff_prefix.mpr (List.prefix_append word rest)) hstarts

@[simp] theorem mem_one {accepts : Char → Bool} {text rest : List Char} {char : Char} :
    (char, rest) ∈ one accepts text ↔ text = char :: rest ∧ accepts char = true := by
  cases text with
  | nil => simp [one]
  | cons head text =>
      rw [one]
      split
      next haccepts =>
        rw [List.mem_singleton, Prod.mk.injEq, List.cons.injEq]
        constructor
        · rintro ⟨rfl, rfl⟩
          exact ⟨⟨rfl, rfl⟩, haccepts⟩
        · rintro ⟨⟨rfl, rfl⟩, -⟩
          exact ⟨rfl, rfl⟩
      next haccepts =>
        refine ⟨fun h => absurd h List.not_mem_nil, ?_⟩
        rintro ⟨heq, hchar⟩
        exact absurd ((List.cons.inj heq).1 ▸ hchar) haccepts

theorem mem_prepend {char : Char} {matches_ : List (List Char × List Char)} {word rest : List Char} :
    (word, rest) ∈ matches_.map (fun found => (char :: found.1, found.2)) ↔
      ∃ tail, word = char :: tail ∧ (tail, rest) ∈ matches_ := by
  rw [List.mem_map]
  constructor
  · rintro ⟨⟨tail, after⟩, hmem, heq⟩
    obtain ⟨rfl, rfl⟩ := Prod.mk.inj heq
    exact ⟨tail, rfl, hmem⟩
  · rintro ⟨tail, rfl, hmem⟩
    exact ⟨(tail, rest), hmem, rfl⟩

theorem cons_eq_append_iff {char : Char} {accepts : Char → Bool} {text word rest : List Char} :
    (char :: text = word ++ rest ∧ ∀ char ∈ word, accepts char = true) ↔
      (∃ tail, word = char :: tail ∧ accepts char = true ∧ text = tail ++ rest ∧
        ∀ char ∈ tail, accepts char = true) ∨ (word = [] ∧ rest = char :: text) := by
  cases word with
  | nil =>
      rw [List.nil_append]
      constructor
      · rintro ⟨rfl, -⟩
        exact Or.inr ⟨rfl, rfl⟩
      · rintro (⟨tail, hword, -⟩ | ⟨-, rfl⟩)
        · exact absurd hword.symm (List.cons_ne_nil _ _)
        · exact ⟨rfl, List.forall_mem_nil _⟩
  | cons head word =>
      simp only [List.cons_append, List.cons.injEq, List.forall_mem_cons, reduceCtorEq, false_and, or_false]
      constructor
      · rintro ⟨⟨rfl, rfl⟩, hhead, hword⟩
        exact ⟨word, ⟨rfl, rfl⟩, hhead, rfl, hword⟩
      · rintro ⟨tail, ⟨rfl, rfl⟩, hhead, rfl, hword⟩
        exact ⟨⟨rfl, rfl⟩, hhead, hword⟩

@[simp] theorem mem_greedy {accepts : Char → Bool} {text word rest : List Char} :
    (word, rest) ∈ greedy accepts text ↔ text = word ++ rest ∧ ∀ char ∈ word, accepts char = true := by
  induction text generalizing word with
  | nil => simp only [greedy, List.mem_singleton, Prod.mk.injEq, List.nil_eq_append_iff]; aesop
  | cons char text ih =>
      rw [cons_eq_append_iff, greedy]
      split
      next haccepts =>
        rw [List.mem_append, mem_prepend, List.mem_singleton, Prod.mk.injEq]
        simp only [ih, haccepts, true_and]
      next haccepts =>
        rw [List.mem_singleton, Prod.mk.injEq]
        simp [haccepts]

@[simp] theorem mem_shortest {accepts : Char → Bool} {text word rest : List Char} :
    (word, rest) ∈ shortest accepts text ↔ text = word ++ rest ∧ ∀ char ∈ word, accepts char = true := by
  induction text generalizing word with
  | nil => simp only [shortest, List.mem_singleton, Prod.mk.injEq, List.nil_eq_append_iff]; aesop
  | cons char text ih =>
      rw [cons_eq_append_iff, shortest]
      split
      next haccepts =>
        rw [List.mem_cons, mem_prepend, Prod.mk.injEq, or_comm]
        simp only [ih, haccepts, true_and]
      next haccepts =>
        rw [List.mem_singleton, Prod.mk.injEq]
        simp [haccepts]

theorem cons_of_one {accepts : Char → Bool} {text word rest : List Char} :
    (∃ char after, (text = char :: after ∧ accepts char = true) ∧
      ∃ tail remaining, (after = tail ++ remaining ∧ ∀ char ∈ tail, accepts char = true) ∧
        (word, rest) = (char :: tail, remaining)) ↔
      text = word ++ rest ∧ word ≠ [] ∧ ∀ char ∈ word, accepts char = true := by
  constructor
  · rintro ⟨char, after, ⟨rfl, hchar⟩, tail, remaining, ⟨rfl, htail⟩, heq⟩
    obtain ⟨rfl, rfl⟩ := Prod.mk.inj heq
    exact ⟨rfl, List.cons_ne_nil _ _, List.forall_mem_cons.mpr ⟨hchar, htail⟩⟩
  · rintro ⟨rfl, hne, hword⟩
    obtain ⟨char, tail, rfl⟩ := List.exists_cons_of_ne_nil hne
    obtain ⟨hchar, htail⟩ := List.forall_mem_cons.mp hword
    exact ⟨char, tail ++ rest, ⟨rfl, hchar⟩, tail, rest, ⟨rfl, htail⟩, rfl⟩

@[simp] theorem mem_greedyOne {accepts : Char → Bool} {text word rest : List Char} :
    (word, rest) ∈ greedyOne accepts text ↔
      text = word ++ rest ∧ word ≠ [] ∧ ∀ char ∈ word, accepts char = true := by
  simp only [greedyOne, mem_bind, mem_one, mem_greedy, mem_pure]
  exact cons_of_one

@[simp] theorem mem_shortestOne {accepts : Char → Bool} {text word rest : List Char} :
    (word, rest) ∈ shortestOne accepts text ↔
      text = word ++ rest ∧ word ≠ [] ∧ ∀ char ∈ word, accepts char = true := by
  simp only [shortestOne, mem_bind, mem_one, mem_shortest, mem_pure]
  exact cons_of_one

@[simp] theorem mem_between {accepts : Char → Bool} {least most : Nat} {text word rest : List Char} :
    (word, rest) ∈ between accepts least most text ↔
      (text = word ++ rest ∧ ∀ char ∈ word, accepts char = true) ∧ least ≤ word.length ∧ word.length ≤ most := by
  rw [between, List.mem_filter, mem_greedy, Bool.and_eq_true, decide_eq_true_eq, decide_eq_true_eq]

@[simp] theorem mem_atEnd {text rest : List Char} {value : Unit} :
    (value, rest) ∈ atEnd text ↔ rest = text ∧ (text = [] ∨ text = ['\n']) := by
  rw [atEnd]
  split
  next hend =>
    rw [List.mem_singleton, Prod.mk.injEq]
    exact ⟨fun h => ⟨h.2, hend⟩, fun h => ⟨rfl, h.1⟩⟩
  next hend => exact ⟨fun h => absurd h List.not_mem_nil, fun h => absurd h.2 hend⟩

/-- The values are matched one after the other. -/
inductive Star (pattern : Pattern α) : List Char → List α → List Char → Prop
  | nil (text : List Char) : Star pattern text [] text
  | cons {text after rest : List Char} {value : α} {values : List α} :
      (value, after) ∈ pattern text → Star pattern after values rest → Star pattern text (value :: values) rest

theorem mem_turns {pattern : Pattern α} {limit : Nat} {text rest : List Char} {values : List α} :
    (values, rest) ∈ turns pattern limit text ↔ Star pattern text values rest ∧ values.length ≤ limit := by
  induction limit generalizing text values rest with
  | zero =>
      rw [turns, mem_pure, Prod.mk.injEq]
      constructor
      · rintro ⟨rfl, rfl⟩
        exact ⟨.nil _, Nat.le_refl 0⟩
      · rintro ⟨hstar, hlength⟩
        cases hstar with
        | nil => exact ⟨rfl, rfl⟩
        | cons _ _ => exact absurd hlength (by simp)
  | succ limit ih =>
      rw [turns, mem_orElse]
      simp only [mem_bind, mem_pure, Prod.mk.injEq, ih]
      constructor
      · rintro (⟨value, after, hvalue, values, remaining, ⟨hstar, hlength⟩, rfl, rfl⟩ | ⟨rfl, rfl⟩)
        · exact ⟨.cons hvalue hstar, Nat.succ_le_succ hlength⟩
        · exact ⟨.nil _, Nat.zero_le _⟩
      · rintro ⟨hstar, hlength⟩
        cases hstar with
        | nil => exact Or.inr ⟨rfl, rfl⟩
        | cons hvalue hstar => exact Or.inl ⟨_, _, hvalue, _, _, ⟨hstar, Nat.le_of_succ_le_succ hlength⟩, rfl, rfl⟩

theorem Star.length_le {pattern : Pattern α}
    (hshorter : ∀ text value rest, (value, rest) ∈ pattern text → rest.length < text.length) {text rest : List Char}
    {values : List α} (hstar : Star pattern text values rest) : values.length + rest.length ≤ text.length := by
  induction hstar with
  | nil text => simp
  | cons hvalue _ ih =>
      have := hshorter _ _ _ hvalue
      rw [List.length_cons]
      omega

theorem mem_many {pattern : Pattern α}
    (hshorter : ∀ text value rest, (value, rest) ∈ pattern text → rest.length < text.length) {text rest : List Char}
    {values : List α} : (values, rest) ∈ many pattern text ↔ Star pattern text values rest := by
  rw [many, mem_turns]
  refine ⟨And.left, fun hstar => ⟨hstar, ?_⟩⟩
  have := hstar.length_le hshorter
  omega

/-- A text begins in one way with as many characters of a class as there are. -/
theorem append_inj_of_longest {accepts : Char → Bool} {word other rest after : List Char}
    (heq : word ++ rest = other ++ after) (hword : ∀ char ∈ word, accepts char = true)
    (hother : ∀ char ∈ other, accepts char = true) (hrest : ∀ char ∈ rest.head?, accepts char = false)
    (hafter : ∀ char ∈ after.head?, accepts char = false) : word = other ∧ rest = after := by
  induction word generalizing other with
  | nil =>
      cases other with
      | nil => exact ⟨rfl, heq⟩
      | cons char other =>
          rw [List.nil_append] at heq
          have hchar := hrest char (by rw [heq, List.cons_append, List.head?_cons, Option.mem_some_iff])
          exact absurd ((hother char List.mem_cons_self).symm.trans hchar) (by decide)
  | cons char word ih =>
      cases other with
      | nil =>
          rw [List.nil_append] at heq
          have hchar := hafter char (by rw [← heq, List.cons_append, List.head?_cons, Option.mem_some_iff])
          exact absurd ((hword char List.mem_cons_self).symm.trans hchar) (by decide)
      | cons head other =>
          obtain ⟨rfl, htail⟩ := List.cons.inj heq
          obtain ⟨rfl, hend⟩ := ih htail (List.forall_mem_cons.mp hword).2 (List.forall_mem_cons.mp hother).2
          exact ⟨rfl, hend⟩

/-- Texts with a separator between them are the first, and each other one after a separator. -/
theorem intercalate_cons {separator : Char} {first : List Char} {texts : List (List Char)} :
    [separator].intercalate (first :: texts) = first ++ (texts.map (separator :: ·)).flatten := by
  induction texts generalizing first with
  | nil => simp [List.intercalate]
  | cons text texts ih =>
      rw [List.map_cons, List.flatten_cons, List.cons_append, ← @ih text]
      simp [List.intercalate]

theorem mem_intercalate {separator char : Char} {texts : List (List Char)}
    (h : char ∈ [separator].intercalate texts) : char = separator ∨ ∃ text ∈ texts, char ∈ text := by
  cases texts with
  | nil => cases h
  | cons first texts =>
      rw [intercalate_cons, List.mem_append] at h
      rcases h with h | h
      · exact Or.inr ⟨first, List.mem_cons_self, h⟩
      · obtain ⟨part, hpart, hchar⟩ := List.mem_flatten.mp h
        obtain ⟨text, htext, rfl⟩ := List.mem_map.mp hpart
        rcases List.mem_cons.mp hchar with rfl | hchar
        · exact Or.inl rfl
        · exact Or.inr ⟨text, List.mem_cons_of_mem _ htext, hchar⟩

/-! ### The match that is taken -/

theorem run_eq_none {pattern : Pattern α} {text : List Char} :
    pattern.run text = none ↔ ∀ value rest, (value, rest) ∉ pattern text := by
  rw [run, Option.map_eq_none_iff, List.head?_eq_none_iff, List.eq_nil_iff_forall_not_mem]
  exact ⟨fun h value rest => h (value, rest), fun h found => h found.1 found.2⟩

/-- What is taken is a match. -/
theorem mem_of_run {pattern : Pattern α} {text : List Char} {value : α} (h : pattern.run text = some value) :
    ∃ rest, (value, rest) ∈ pattern text := by
  rw [run, Option.map_eq_some_iff] at h
  obtain ⟨found, hfound, rfl⟩ := h
  exact ⟨found.2, List.mem_of_head? hfound⟩

/-- Where all matches have one value it is the value that is taken. -/
theorem run_of_unique {pattern : Pattern α} {text rest : List Char} {value : α} (hmem : (value, rest) ∈ pattern text)
    (hunique : ∀ other after, (other, after) ∈ pattern text → other = value) : pattern.run text = some value := by
  cases hrun : pattern.run text with
  | none => exact absurd hmem (run_eq_none.mp hrun value rest)
  | some other =>
      obtain ⟨after, hafter⟩ := mem_of_run hrun
      rw [hunique other after hafter]

theorem run_eq_none_iff_nil {pattern : Pattern α} {text : List Char} : pattern.run text = none ↔ pattern text = [] := by
  rw [run, Option.map_eq_none_iff, List.head?_eq_none_iff]

/-- What follows one match is taken where there is no other. -/
theorem run_bind_of_single {pattern : Pattern α} {next : α → Pattern β} {text rest : List Char} {value : α}
    (h : pattern text = [(value, rest)]) : (pattern >>= next).run text = (next value).run rest := by
  show ((pattern text).flatMap _).head?.map Prod.fst = _
  rw [h, List.flatMap_singleton]
  rfl

theorem run_bind_pure {pattern : Pattern α} {f : α → β} {text : List Char} :
    (pattern >>= fun value => pure (f value)).run text = (pattern.run text).map f := by
  show ((pattern text).flatMap fun found => [(f found.1, found.2)]).head?.map Prod.fst = _
  rw [run]
  cases pattern text with
  | nil => rfl
  | cons found rest => rfl

theorem run_bind_shortest_cons {accepts : Char → Bool} {next : List Char → Pattern β} {char : Char}
    {text : List Char} : (shortest accepts >>= next).run (char :: text) = ((next []).run (char :: text)).or
      (if accepts char then (shortest accepts >>= fun word => next (char :: word)).run text else none) := by
  show ((shortest accepts (char :: text)).flatMap _).head?.map Prod.fst = _
  rw [shortest]
  split
  next haccepts =>
    rw [List.flatMap_cons, List.head?_append, List.flatMap_map]
    show (Option.or ((next [] (char :: text)).head?) _).map Prod.fst = _
    cases hhead : (next [] (char :: text)).head? with
    | none =>
        rw [run, hhead]
        rfl
    | some found =>
        rw [run, hhead]
        rfl
  next haccepts =>
    rw [List.flatMap_singleton, Option.or_none]
    rfl

theorem run_bind_shortest_nil {accepts : Char → Bool} {next : List Char → Pattern β} :
    (shortest accepts >>= next).run [] = (next []).run [] := run_bind_of_single rfl

/-- A repetition from the shortest on takes the first word after which the rest matches. -/
theorem run_bind_shortest {accepts : Char → Bool} {next : List Char → Pattern β} {text : List Char} {value : β} :
    (shortest accepts >>= next).run text = some value ↔
      ∃ word rest, text = word ++ rest ∧ (∀ char ∈ word, accepts char = true) ∧ (next word).run rest = some value ∧
        ∀ before char after, word = before ++ char :: after → (next before).run (char :: (after ++ rest)) = none := by
  induction text generalizing next with
  | nil =>
      rw [run_bind_shortest_nil]
      constructor
      · intro h
        exact ⟨[], [], rfl, List.forall_mem_nil _, h, fun before char after h => by simp at h⟩
      · rintro ⟨word, rest, htext, -, h, -⟩
        obtain ⟨rfl, rfl⟩ := List.append_eq_nil_iff.mp htext.symm
        exact h
  | cons head text ih =>
      rw [run_bind_shortest_cons]
      constructor
      · intro h
        cases hnow : (next []).run (head :: text) with
        | some found =>
            rw [hnow, Option.some_or] at h
            exact ⟨[], head :: text, rfl, List.forall_mem_nil _, hnow.trans h, fun before char after h => by simp at h⟩
        | none =>
            rw [hnow, Option.none_or] at h
            split at h
            next haccepts =>
              obtain ⟨word, rest, rfl, hword, hrun, hfirst⟩ := ih.mp h
              refine ⟨head :: word, rest, rfl, List.forall_mem_cons.mpr ⟨haccepts, hword⟩, hrun, ?_⟩
              intro before char after heq
              cases before with
              | nil =>
                  obtain ⟨rfl, rfl⟩ := List.cons.inj heq
                  exact hnow
              | cons first before =>
                  rw [List.cons_append, List.cons.injEq] at heq
                  obtain ⟨rfl, heq⟩ := heq
                  exact hfirst before char after heq
            next => cases h
      · rintro ⟨word, rest, htext, hword, hrun, hfirst⟩
        cases word with
        | nil =>
            obtain rfl : rest = head :: text := htext.symm
            rw [hrun, Option.some_or]
        | cons first word =>
            rw [List.cons_append, List.cons.injEq] at htext
            obtain ⟨rfl, rfl⟩ := htext
            obtain ⟨haccepts, hword⟩ := List.forall_mem_cons.mp hword
            rw [hfirst [] head word rfl, Option.none_or, if_pos haccepts]
            exact ih.mpr ⟨word, rest, rfl, hword, hrun, fun before char after heq =>
              hfirst (head :: before) char after (congrArg (head :: ·) heq)⟩

theorem bind_assoc {γ : Type} (pattern : Pattern α) (next : α → Pattern β) (last : β → Pattern γ) :
    (pattern >>= next) >>= last = pattern >>= fun value => next value >>= last := by
  funext text
  show ((pattern text).flatMap _).flatMap _ = (pattern text).flatMap _
  rw [List.flatMap_assoc]
  rfl

theorem pure_bind (value : α) (next : α → Pattern β) : (pure value >>= next) = next value := by
  funext text
  exact List.flatMap_singleton _ _

/-- An optional part is left out where the rest does not match after it. -/
theorem run_bind_optional {pattern : Pattern α} {next : Option α → Pattern β} {text : List Char} :
    (optional pattern >>= next).run text =
      ((pattern >>= fun value => next (some value)).run text).or ((next none).run text) := by
  show ((optional pattern text).flatMap _).head?.map Prod.fst = _
  rw [optional, List.flatMap_append, List.flatMap_map, List.flatMap_singleton, List.head?_append, run, run]
  show (Option.or _ _).map Prod.fst = Option.or (Option.map _ (List.head? (List.flatMap _ _))) _
  cases ((pattern text).flatMap fun found => next (some found.1) found.2).head? with
  | none => rfl
  | some found => rfl

theorem run_bind_eq_none {pattern : Pattern α} {next : α → Pattern β} {text : List Char}
    (h : ∀ value rest, (value, rest) ∈ pattern text → (next value).run rest = none) :
    (pattern >>= next).run text = none := by
  rw [run_eq_none]
  intro value rest hmem
  obtain ⟨given, after, hgiven, hmem⟩ := mem_bind.mp hmem
  exact run_eq_none.mp (h given after hgiven) value rest hmem

/-- A repetition of one or more from the shortest on takes the first word after which the rest matches. -/
theorem run_bind_shortestOne {accepts : Char → Bool} {next : List Char → Pattern β} {text : List Char} {value : β} :
    (shortestOne accepts >>= next).run text = some value ↔
      ∃ word rest, text = word ++ rest ∧ word ≠ [] ∧ (∀ char ∈ word, accepts char = true) ∧
        (next word).run rest = some value ∧
        ∀ before char after, word = before ++ char :: after → before ≠ [] →
          (next before).run (char :: (after ++ rest)) = none := by
  have hone : shortestOne accepts >>= next = one accepts >>= fun char =>
      shortest accepts >>= fun word => next (char :: word) := by
    rw [shortestOne, bind_assoc]
    refine congrArg _ (funext fun char => ?_)
    rw [bind_assoc]
    exact congrArg _ (funext fun word => pure_bind _ _)
  rw [hone]
  cases text with
  | nil =>
      constructor
      · intro h
        cases h
      · rintro ⟨word, rest, heq, hne, -⟩
        exact absurd (List.append_eq_nil_iff.mp heq.symm).1 hne
  | cons head text =>
      by_cases haccepts : accepts head = true
      · have hhead : one accepts (head :: text) = [(head, text)] := if_pos haccepts
        rw [run_bind_of_single hhead, run_bind_shortest]
        constructor
        · rintro ⟨word, rest, rfl, hword, hrun, hfirst⟩
          refine ⟨head :: word, rest, rfl, List.cons_ne_nil _ _, List.forall_mem_cons.mpr ⟨haccepts, hword⟩, hrun, ?_⟩
          intro before char after heq hne
          obtain ⟨first, before, rfl⟩ := List.exists_cons_of_ne_nil hne
          rw [List.cons_append, List.cons.injEq] at heq
          obtain ⟨rfl, heq⟩ := heq
          exact hfirst before char after heq
        · rintro ⟨word, rest, heq, hne, hword, hrun, hfirst⟩
          obtain ⟨first, word, rfl⟩ := List.exists_cons_of_ne_nil hne
          rw [List.cons_append, List.cons.injEq] at heq
          obtain ⟨rfl, rfl⟩ := heq
          exact ⟨word, rest, rfl, (List.forall_mem_cons.mp hword).2, hrun, fun before char after heq =>
            hfirst (head :: before) char after (congrArg (head :: ·) heq) (List.cons_ne_nil _ _)⟩
      · have hhead : one accepts (head :: text) = [] := if_neg haccepts
        constructor
        · intro h
          have hnone : (one accepts >>= fun char => shortest accepts >>= fun word => next (char :: word)).run
              (head :: text) = none := run_bind_eq_none fun value rest hmem => by rw [hhead] at hmem; cases hmem
          rw [hnone] at h
          cases h
        · rintro ⟨word, rest, heq, hne, hword, -⟩
          obtain ⟨first, word, rfl⟩ := List.exists_cons_of_ne_nil hne
          rw [List.cons_append, List.cons.injEq] at heq
          exact absurd (heq.1 ▸ (List.forall_mem_cons.mp hword).1) haccepts

theorem literal_cons {char : Char} {text : List Char} : literal [char] (char :: text) = [((), text)] := by
  simp [literal]

theorem literal_eq_nil {char : Char} {text : List Char} (h : text.head? ≠ some char) : literal [char] text = [] := by
  cases text with
  | nil => rfl
  | cons head text =>
      have hne : head ≠ char := fun heq => h (congrArg some heq)
      simp [literal, Ne.symm hne]

/-- The text of an optional group that begins with a character. -/
def groupText (start : Char) : Option (List Char) → List Char
  | none => []
  | some text => start :: text

/-- An optional group is found where the rest matches after it, and after no shorter one. -/
theorem run_bind_optional_group {start : Char} {accepts : Char → Bool} {next : Option (List Char) → Pattern β}
    {group : Option (List Char)} {rest : List Char}
    (hgroup : ∀ text ∈ group, text ≠ [] ∧ ∀ char ∈ text, accepts char = true)
    (hnone : group = none → rest.head? ≠ some start) (hrun : (next group).run rest ≠ none)
    (hfirst : ∀ text ∈ group, ∀ before char after, text = before ++ char :: after → before ≠ [] →
      (next (some before)).run (char :: (after ++ rest)) = none) :
    (optional (do literal [start]; shortestOne accepts) >>= next).run (groupText start group ++ rest) =
      (next group).run rest := by
  obtain ⟨value, hvalue⟩ := Option.ne_none_iff_exists'.mp hrun
  rw [run_bind_optional, bind_assoc]
  cases group with
  | none =>
      have hfail : (literal [start] >>= fun _ => shortestOne accepts >>= fun text => next (some text)).run rest =
          none := run_bind_eq_none fun value after hmem => by
        rw [literal_eq_nil (hnone rfl)] at hmem
        cases hmem
      rw [groupText, List.nil_append, hfail, Option.none_or]
  | some text =>
      obtain ⟨hne, htext⟩ := hgroup text rfl
      have htaken : (shortestOne accepts >>= fun text => next (some text)).run (text ++ rest) = some value :=
        run_bind_shortestOne.mpr ⟨text, rest, rfl, hne, htext, hvalue, hfirst text rfl⟩
      rw [groupText, List.cons_append, run_bind_of_single literal_cons, htaken, hvalue, Option.some_or]

end Pattern
