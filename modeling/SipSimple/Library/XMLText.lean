import Mathlib.Data.List.TakeWhile
import SipSimple.Library.UnicodeCodecs

/-!
# Attribute values in XML

`quoteattr` of `xml.sax.saxutils` writes a text as an attribute value: special characters become
references, and the quotes are of the kind that the text does not have. An attribute value is read up to
the closing quote, with the predefined and the decimal references. What is written is read back, whatever
follows it.
-/

namespace XMLText

abbrev Text := List Char

/-! ### Writing -/

/-- The replacements of `escape`, with the three that `quoteattr` adds. -/
def escapeChar (char : Char) : Text :=
  if char = '&' then "&amp;".toList
  else if char = '>' then "&gt;".toList
  else if char = '<' then "&lt;".toList
  else if char = '\n' then "&#10;".toList
  else if char = '\r' then "&#13;".toList
  else if char = '\t' then "&#9;".toList
  else [char]

def escape (text : Text) : Text := text.flatMap escapeChar

def replaceQuote (char : Char) : Text := if char = '"' then "&quot;".toList else [char]

def quoteattr (text : Text) : Text :=
  let data := escape text
  if '"' ∈ data then
    if '\'' ∈ data then '"' :: (data.flatMap replaceQuote ++ ['"'])
    else '\'' :: (data ++ ['\''])
  else '"' :: (data ++ ['"'])

/-! ### Reading -/

def reference (name : Text) : Option Char :=
  if name = "amp".toList then some '&'
  else if name = "gt".toList then some '>'
  else if name = "lt".toList then some '<'
  else if name = "quot".toList then some '"'
  else if name = "apos".toList then some '\''
  else
    match name with
    | '#' :: digits =>
        if digits ≠ [] ∧ digits.all Char.isDigit then some (Char.ofNat (Nat.ofDigitChars 10 digits 0)) else none
    | _ => none

/-- A character or a reference. -/
def readChar : Text → Option (Text × Text)
  | [] => none
  | char :: rest =>
      if char = '&' then
        match rest.dropWhile (· ≠ ';') with
        | [] => none
        | _ :: after => (reference (rest.takeWhile (· ≠ ';'))).map fun char => ([char], after)
      else some ([char], rest)

/-- An attribute value with its quotes. -/
def readAttValue : Text → Option (Text × Text)
  | [] => none
  | quote :: rest =>
      if quote = '"' ∨ quote = '\'' then
        match rest.dropWhile (· ≠ quote) with
        | [] => none
        | _ :: after => (UnicodeCodecs.decodeAll readChar (rest.takeWhile (· ≠ quote))).map (·, after)
      else none

/-! ### What is written is read back -/

theorem readChar_escapeChar (char : Char) (rest : Text) :
    readChar (escapeChar char ++ rest) = some ([char], rest) := by
  rw [escapeChar]
  split_ifs with hamp hgt hlt hline hreturn htab
  · rw [hamp]; rfl
  · rw [hgt]; rfl
  · rw [hlt]; rfl
  · rw [hline]; rfl
  · rw [hreturn]; rfl
  · rw [htab]; rfl
  · exact if_neg hamp

theorem escapeChar_ne_nil (char : Char) : escapeChar char ≠ [] := by
  rw [escapeChar]
  split_ifs <;> simp

theorem replaceQuote_of_not_mem {text : Text} (h : '"' ∉ text) : text.flatMap replaceQuote = text := by
  induction text with
  | nil => rfl
  | cons char text ih =>
      rw [List.flatMap_cons, ih fun hmem => h (List.mem_cons_of_mem _ hmem), replaceQuote,
        if_neg fun heq : char = '"' => h (heq ▸ List.mem_cons_self)]
      rfl

/-- Only the double quote itself is written with one. -/
theorem not_mem_escapeChar {char : Char} (h : char ≠ '"') : '"' ∉ escapeChar char := by
  rw [escapeChar]
  split_ifs <;> simp [Ne.symm h]

theorem escapeChar_replaceQuote (char : Char) :
    (escapeChar char).flatMap replaceQuote = if char = '"' then "&quot;".toList else escapeChar char := by
  split_ifs with h
  · rw [h]; rfl
  · exact replaceQuote_of_not_mem (not_mem_escapeChar h)

theorem not_mem_flatMap_replaceQuote (text : Text) : '"' ∉ text.flatMap replaceQuote := by
  intro hmem
  obtain ⟨char, -, hchar⟩ := List.mem_flatMap.mp hmem
  rw [replaceQuote] at hchar
  split_ifs at hchar with heq
  · simp at hchar
  · exact heq (List.mem_singleton.mp hchar).symm

theorem decodeAll_escape (text : Text) : UnicodeCodecs.decodeAll readChar (escape text) = some text :=
  UnicodeCodecs.decodeAll_singletons (fun char _ => escapeChar_ne_nil char) fun char _ => readChar_escapeChar char

theorem decodeAll_replaceQuote (text : Text) :
    UnicodeCodecs.decodeAll readChar ((escape text).flatMap replaceQuote) = some text := by
  rw [escape, List.flatMap_assoc]
  refine UnicodeCodecs.decodeAll_singletons (fun char _ => ?_) fun char _ rest => ?_
  · rw [escapeChar_replaceQuote]
    split_ifs
    · simp
    · exact escapeChar_ne_nil char
  · rw [escapeChar_replaceQuote]
    split_ifs with h
    · rw [h]; rfl
    · exact readChar_escapeChar char rest

/-- A value without the quote is read up to it. -/
theorem readAttValue_quoted {quote : Char} {data text : Text} (hquote : quote = '"' ∨ quote = '\'') (h : quote ∉ data)
    (hdata : UnicodeCodecs.decodeAll readChar data = some text) (rest : Text) :
    readAttValue (quote :: (data ++ [quote]) ++ rest) = some (text, rest) := by
  have hall : ∀ char ∈ data, decide (char ≠ quote) = true := fun char hchar =>
    decide_eq_true fun heq => h (heq ▸ hchar)
  have happend : data ++ [quote] ++ rest = data ++ quote :: rest := by simp
  have htake : (data ++ quote :: rest).takeWhile (· ≠ quote) = data := by
    rw [List.takeWhile_append_of_pos hall, List.takeWhile_cons_of_neg (by simp), List.append_nil]
  have hdrop : (data ++ quote :: rest).dropWhile (· ≠ quote) = quote :: rest := by
    rw [List.dropWhile_append_of_pos hall, List.dropWhile_cons_of_neg (by simp)]
  rw [List.cons_append, happend, readAttValue, if_pos hquote, hdrop, htake, hdata]
  rfl

/-- **Attribute values round-trip.** -/
theorem readAttValue_quoteattr (text rest : Text) : readAttValue (quoteattr text ++ rest) = some (text, rest) := by
  rw [quoteattr]
  split_ifs with hdouble hsingle
  · exact readAttValue_quoted (.inl rfl) (not_mem_flatMap_replaceQuote _) (decodeAll_replaceQuote text) rest
  · exact readAttValue_quoted (.inr rfl) hsingle (decodeAll_escape text) rest
  · exact readAttValue_quoted (.inl rfl) hdouble (decodeAll_escape text) rest

end XMLText
