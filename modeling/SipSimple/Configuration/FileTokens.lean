import Mathlib.Tactic.IntervalCases
import SipSimple.Configuration.FileBackend

/-!
# What the tokenizer makes of an escaped string

The writer quotes a string when it is empty or holds one of `escape_characters_re`; the tokenizer ends
an unquoted token at any white space, and `unicode.isspace` knows more white space than that class.
`TextPreserved` is what they agree on. An escaped string of that kind is read back as the string,
whatever follows it, and no token of a written line is anything else.
-/

namespace SipSimple.Configuration

/-- A string that comes back as written: one with white space is quoted for some other reason. -/
def TextPreserved (value : Unicode) : Prop :=
  value.any isspace = true → value.any isEscapeCharacter = true

instance (value : Unicode) : Decidable (TextPreserved value) := by
  unfold TextPreserved
  infer_instance

/-! ### Characters the writer leaves alone -/

/-- One character inside the quotes the writer puts. -/
def escapeChar (char : Char) : Unicode :=
  if char = '\\' then ['\\', '\\']
  else if char = '"' then ['\\', '"']
  else if char = '\n' then ['\\', 'n']
  else if char = '\r' then ['\\', 'r']
  else [char]

theorem replace_all (value : Unicode) :
    replace '\r' ['\\', 'r'] (replace '\n' ['\\', 'n']
      (replace '"' ['\\', '"'] (replace '\\' ['\\', '\\'] value))) = value.flatMap escapeChar := by
  induction value with
  | nil => rfl
  | cons char value ih =>
      simp only [replace, List.flatMap_cons, List.flatMap_append] at ih ⊢
      rw [ih]
      congr 1
      rw [escapeChar]
      split_ifs <;> simp_all

theorem escape_quoted {value : Unicode} (h : value = [] ∨ value.any isEscapeCharacter = true) :
    escape value = '"' :: (value.flatMap escapeChar ++ ['"']) := by
  rw [escape]
  split_ifs with hnil hany
  · subst hnil
    rfl
  · rw [replace_all]
    rfl
  · exact absurd h (not_or.mpr ⟨hnil, hany⟩)

theorem escape_plain {value : Unicode} (hnil : value ≠ [])
    (hany : value.any isEscapeCharacter = false) : escape value = value := by
  rw [escape, if_neg hnil, if_neg (by simp [hany])]

theorem not_mem_of_plain {char : Char} (h : isEscapeCharacter char = false) :
    char ≠ '\'' ∧ char ≠ '"' ∧ char ≠ '\\' ∧ char ≠ '#' ∧ char ≠ '\n' := by
  refine ⟨?_, ?_, ?_, ?_, ?_⟩ <;>
    · rintro rfl
      exact absurd h (by decide)

theorem isEscapeCharacter_of_isAsciiSpace {char : Char} (h : isAsciiSpace char = true) :
    isEscapeCharacter char = true := by
  simp only [isAsciiSpace, Bool.or_eq_true, decide_eq_true_eq, Bool.and_eq_true] at h
  rcases h with rfl | ⟨hlow, hhigh⟩
  · decide
  · have hchar : char = Char.ofNat char.toNat := (Char.ofNat_toNat char).symm
    rw [hchar]
    generalize char.toNat = code at hlow hhigh
    interval_cases code <;> decide

/-- Delimiters are escape characters other than the ones the tokenizer itself acts on. -/
def Delimiters (delimiter : Unicode) : Prop :=
  ∀ char ∈ delimiter, isEscapeCharacter char = true ∧ char ≠ '"'

theorem delimiters_name : Delimiters [':', '='] := by
  simp only [Delimiters, List.forall_mem_cons]
  refine ⟨by decide, by decide, by simp⟩

theorem delimiters_value : Delimiters [','] := by
  simp only [Delimiters, List.forall_mem_singleton]
  decide

variable {lineno : Nat} {delimiter : Unicode}

/-! ### Reading an escaped string -/

theorem tokenIterator_plain {char : Char} (hdelimiter : char ∉ delimiter)
    (hescape : isEscapeCharacter char = false) (hspace : isspace char = false) (rest : Unicode) :
    tokenIterator lineno delimiter none (char :: rest)
      = (tokenIterator lineno delimiter none rest).map fun token => (char :: token.1, token.2) := by
  obtain ⟨hquote, hdouble, hslash, hhash, -⟩ := not_mem_of_plain hescape
  rw [tokenIterator.eq_def]
  simp [hdelimiter, hquote, hdouble, hslash, hhash, hspace]

theorem tokenIterator_open (hdelimiter : '"' ∉ delimiter) (rest : Unicode) :
    tokenIterator lineno delimiter none ('"' :: rest)
      = tokenIterator lineno delimiter (some '"') rest := by
  rw [tokenIterator.eq_def]
  simp [hdelimiter]

theorem tokenIterator_close (rest : Unicode) :
    tokenIterator lineno delimiter (some '"') ('"' :: rest)
      = tokenIterator lineno delimiter none rest := by
  rw [tokenIterator.eq_def]
  simp

theorem tokenIterator_escapeChar (char : Char) (rest : Unicode) :
    tokenIterator lineno delimiter (some '"') (escapeChar char ++ rest)
      = (tokenIterator lineno delimiter (some '"') rest).map
          fun token => (char :: token.1, token.2) := by
  rw [escapeChar]
  split_ifs with hslash hquote hnewline hreturn
  · subst hslash
    simp [tokenIterator]
  · subst hquote
    simp [tokenIterator]
  · subst hnewline
    simp [tokenIterator]
  · subst hreturn
    simp [tokenIterator]
  · rw [List.singleton_append, tokenIterator.eq_def]
    simp only [reduceCtorEq, false_and, if_false, Option.some.injEq, hslash]
    by_cases hsingle : char = '\''
    · subst hsingle
      rfl
    · simp [hsingle, hquote]

theorem map_cons_map_append (char : Char) (value : Unicode)
    (result : Except FileParserError (Unicode × Unicode)) :
    (result.map fun token => (value ++ token.1, token.2)).map (fun token => (char :: token.1, token.2))
      = result.map fun token => (char :: value ++ token.1, token.2) := by
  cases result <;> rfl

theorem tokenIterator_quoted (value rest : Unicode) :
    tokenIterator lineno delimiter (some '"') (value.flatMap escapeChar ++ '"' :: rest)
      = (tokenIterator lineno delimiter none rest).map fun token => (value ++ token.1, token.2) := by
  induction value with
  | nil =>
      rw [List.flatMap_nil, List.nil_append, tokenIterator_close]
      cases tokenIterator lineno delimiter none rest <;> rfl
  | cons char value ih =>
      rw [List.flatMap_cons, List.append_assoc, tokenIterator_escapeChar, ih, map_cons_map_append]

/-- **An escaped string is one token.** -/
theorem tokenIterator_escape (hdelimiter : Delimiters delimiter) {value : Unicode}
    (h : TextPreserved value) (rest : Unicode) :
    tokenIterator lineno delimiter none (escape value ++ rest)
      = (tokenIterator lineno delimiter none rest).map fun token => (value ++ token.1, token.2) := by
  by_cases hquoted : value = [] ∨ value.any isEscapeCharacter = true
  · rw [escape_quoted hquoted, List.cons_append, List.append_assoc, List.singleton_append,
      tokenIterator_open (fun hmem => (hdelimiter _ hmem).2 rfl), tokenIterator_quoted]
  · obtain ⟨hnil, hany⟩ := not_or.mp hquoted
    rw [Bool.not_eq_true] at hany
    rw [escape_plain hnil hany]
    have hspace : value.any isspace = false := by
      by_contra hspace
      rw [h (by simpa using hspace)] at hany
      exact absurd hany (by decide)
    clear h hquoted hnil
    induction value with
    | nil => cases hrest : tokenIterator lineno delimiter none rest <;> simp [hrest, Except.map]
    | cons char value ih =>
        simp only [List.any_cons, Bool.or_eq_false_iff] at hany hspace
        rw [List.cons_append, tokenIterator_plain _ hany.1 hspace.1, ih hany.2 hspace.2,
          map_cons_map_append]
        intro hmem
        rw [(hdelimiter _ hmem).1] at hany
        exact absurd hany.1 (by decide)

theorem tokenIterator_escape_end (hdelimiter : Delimiters delimiter) {value : Unicode}
    (h : TextPreserved value) :
    tokenIterator lineno delimiter none (escape value) = .ok (value, []) := by
  have htoken : tokenIterator lineno delimiter none (escape value ++ []) = _ :=
    tokenIterator_escape hdelimiter h []
  rw [List.append_nil] at htoken
  rw [htoken, tokenIterator.eq_def]
  simp [Except.map]

theorem tokenIterator_escape_space (hdelimiter : Delimiters delimiter) (hspace : ' ' ∉ delimiter)
    {value : Unicode} (h : TextPreserved value) (rest : Unicode) :
    tokenIterator lineno delimiter none (escape value ++ ' ' :: rest) = .ok (value, rest) := by
  rw [tokenIterator_escape hdelimiter h, tokenIterator.eq_def]
  simp [hspace, Except.map, show isspace ' ' = true by decide]

theorem tokenIterator_escape_delimiter (hdelimiter : Delimiters delimiter) {value : Unicode}
    (h : TextPreserved value) {char : Char} (hchar : char ∈ delimiter) (rest : Unicode) :
    tokenIterator lineno delimiter none (escape value ++ char :: rest)
      = .ok (value, char :: rest) := by
  rw [tokenIterator_escape hdelimiter h, tokenIterator.eq_def]
  simp [hchar, Except.map]

/-! ### The ends of an escaped string -/

theorem escape_ne_nil (value : Unicode) : escape value ≠ [] := by
  by_cases hquoted : value = [] ∨ value.any isEscapeCharacter = true
  · simp [escape_quoted hquoted]
  · obtain ⟨hnil, hany⟩ := not_or.mp hquoted
    rwa [escape_plain hnil (by simpa using hany)]

theorem advanceToNextToken_escape {value : Unicode} (h : TextPreserved value) (rest : Unicode) :
    advanceToNextToken (escape value ++ rest) = (0, escape value ++ rest) := by
  have hstart {char : Char} {line : Unicode} (hspace : isspace char = false) (hhash : char ≠ '#') :
      advanceToNextToken (char :: line) = (0, char :: line) := by
    simp [advanceToNextToken, hspace, hhash]
  by_cases hquoted : value = [] ∨ value.any isEscapeCharacter = true
  · rw [escape_quoted hquoted]
    exact hstart (by decide) (by decide)
  · obtain ⟨hnil, hany⟩ := not_or.mp hquoted
    rw [escape_plain hnil (by simpa using hany)]
    obtain ⟨char, value, rfl⟩ := List.exists_cons_of_ne_nil hnil
    simp only [List.any_cons, Bool.not_eq_true, Bool.or_eq_false_iff] at hany
    refine hstart ?_ (not_mem_of_plain hany.1).2.2.2.1
    by_contra hspace
    have := h (by simp [hspace])
    simp [hany] at this

theorem advanceToNextToken_spaces (count : Nat) {line : Unicode} {result : Unicode}
    (h : advanceToNextToken line = (0, result)) :
    advanceToNextToken (List.replicate count ' ' ++ line) = (count, result) := by
  have hspace : isspace ' ' = true := by decide
  simp only [advanceToNextToken, Prod.mk.injEq] at h ⊢
  rw [List.takeWhile_append_of_pos (by simp [hspace]), List.dropWhile_append_of_pos (by simp [hspace])]
  refine ⟨?_, h.2⟩
  rw [List.length_append, List.length_replicate, h.1, Nat.add_zero]

/-- An escaped string ends in a character that `rstrip` leaves. -/
theorem escape_last (value : Unicode) :
    ∃ init last, escape value = init ++ [last] ∧ isAsciiSpace last = false := by
  by_cases hquoted : value = [] ∨ value.any isEscapeCharacter = true
  · exact ⟨'"' :: value.flatMap escapeChar, '"', escape_quoted hquoted, by decide⟩
  · obtain ⟨hnil, hany⟩ := not_or.mp hquoted
    refine ⟨value.dropLast, value.getLast hnil, ?_, ?_⟩
    · rw [escape_plain hnil (by simpa using hany), List.dropLast_append_getLast hnil]
    · by_contra hspace
      refine hany (List.any_eq_true.mpr ⟨value.getLast hnil, List.getLast_mem hnil, ?_⟩)
      exact isEscapeCharacter_of_isAsciiSpace (by simpa using hspace)

theorem newline_not_mem_escape (value : Unicode) : '\n' ∉ escape value := by
  by_cases hquoted : value = [] ∨ value.any isEscapeCharacter = true
  · have hchar (char : Char) : '\n' ∉ escapeChar char := by
      rw [escapeChar]
      split_ifs with _ _ hnewline
      · decide
      · decide
      · decide
      · decide
      · simpa using Ne.symm hnewline
    rw [escape_quoted hquoted]
    simp only [List.mem_cons, List.mem_append, List.mem_flatMap, List.not_mem_nil, or_false, not_or,
      not_exists, not_and]
    exact ⟨by decide, fun char _ => hchar char, by decide⟩
  · obtain ⟨hnil, hany⟩ := not_or.mp hquoted
    rw [escape_plain hnil (by simpa using hany)]
    intro hmem
    exact hany (List.any_eq_true.mpr ⟨'\n', hmem, by decide⟩)

end SipSimple.Configuration
