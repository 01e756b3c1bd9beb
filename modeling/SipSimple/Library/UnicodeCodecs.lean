import Mathlib.Algebra.Group.Nat.Defs
import Mathlib.Data.List.Basic

/-!
# The text codecs of Python 2

A unicode string is a list of code points, surrogates among them, and a byte string a list of bytes; both
are numbers here. A decoder reads items from the front until none are left, so it undoes an encoder of
single items as soon as it reads back what one item was written as, whatever follows.
-/

namespace UnicodeCodecs

/-- A byte comes back from its character. -/
theorem toNat_ofNat_byte {b : Nat} (h : b < 256) : (Char.ofNat b).toNat = b := by
  have hvalid : b.isValidChar := .inl (by omega)
  rw [Char.ofNat, dif_pos hvalid]
  rfl

/-! ## Decoders that read from the front -/

section readAll

variable {α β γ : Type*} (read : List β → Option (List γ × List β))

/-- What `read` makes of the items, again and again; it fails where `read` fails. -/
def readAll : Nat → List β → Option (List γ)
  | _, [] => some []
  | 0, _ :: _ => none
  | fuel + 1, item :: items =>
      match read (item :: items) with
      | none => none
      | some (values, rest) => (readAll fuel rest).map (values ++ ·)

/-- A `read` that takes at least one item never needs more rounds than there are items. -/
def decodeAll (items : List β) : Option (List γ) := readAll read items.length items

variable {read}

theorem readAll_flatMap {encode : α → List β} {value : α → List γ} {xs : List α}
    (hne : ∀ x ∈ xs, encode x ≠ [])
    (hread : ∀ x ∈ xs, ∀ rest, read (encode x ++ rest) = some (value x, rest)) {fuel : Nat}
    (hfuel : (xs.flatMap encode).length ≤ fuel) :
    readAll read fuel (xs.flatMap encode) = some (xs.flatMap value) := by
  induction xs generalizing fuel with
  | nil => cases fuel <;> rfl
  | cons x xs ih =>
      obtain ⟨item, items, hitems⟩ := List.exists_cons_of_ne_nil (hne x List.mem_cons_self)
      rw [List.flatMap_cons, List.length_append, hitems, List.length_cons] at hfuel
      obtain ⟨fuel, rfl⟩ := Nat.exists_eq_add_of_lt (show 0 < fuel by omega)
      rw [List.flatMap_cons, List.flatMap_cons, hitems, List.cons_append, Nat.zero_add, readAll,
        ← List.cons_append, ← hitems, hread x List.mem_cons_self]
      show (readAll read fuel (xs.flatMap encode)).map (value x ++ ·) = _
      rw [ih (fun y hy => hne y (List.mem_cons_of_mem _ hy))
        (fun y hy => hread y (List.mem_cons_of_mem _ hy)) (by omega)]
      rfl

theorem decodeAll_flatMap {encode : α → List β} {value : α → List γ} {xs : List α}
    (hne : ∀ x ∈ xs, encode x ≠ [])
    (hread : ∀ x ∈ xs, ∀ rest, read (encode x ++ rest) = some (value x, rest)) :
    decodeAll read (xs.flatMap encode) = some (xs.flatMap value) :=
  readAll_flatMap hne hread (Nat.le_refl _)

/-- Items that each stand for themselves are all read back. -/
theorem decodeAll_singletons {read : List β → Option (List α × List β)} {encode : α → List β} {xs : List α}
    (hne : ∀ x ∈ xs, encode x ≠ [])
    (hread : ∀ x ∈ xs, ∀ rest, read (encode x ++ rest) = some ([x], rest)) :
    decodeAll read (xs.flatMap encode) = some xs := by
  have hall := decodeAll_flatMap hne hread
  rwa [List.flatMap_singleton'] at hall

end readAll

/-! ## Hexadecimal digits -/

def hexDigit (n : Nat) : Nat := if n < 10 then 48 + n else 87 + n

def hexValue? (c : Nat) : Option Nat :=
  if 48 ≤ c ∧ c ≤ 57 then some (c - 48)
  else if 97 ≤ c ∧ c ≤ 102 then some (c - 87)
  else if 65 ≤ c ∧ c ≤ 70 then some (c - 55)
  else none

/-- The last digits of a number in base 16, leading zeros among them. -/
def digits16 : Nat → Nat → List Nat
  | 0, _ => []
  | width + 1, n => digits16 width (n / 16) ++ [n % 16]

def hexDigits (width n : Nat) : List Nat := (digits16 width n).map hexDigit

/-- The number that the first so many characters stand for, and what follows them. -/
def readHex (width : Nat) (items : List Nat) : Option (Nat × List Nat) :=
  if width ≤ items.length then
    ((items.take width).mapM hexValue?).map fun digits =>
      (digits.foldl (fun value digit => 16 * value + digit) 0, items.drop width)
  else none

theorem hexValue_hexDigit {n : Nat} (h : n < 16) : hexValue? (hexDigit n) = some n := by
  unfold hexValue? hexDigit
  by_cases hn : n < 10
  · rw [if_pos hn, if_pos (by omega)]
    congr 1
    omega
  · rw [if_neg hn, if_neg (by omega), if_pos (by omega)]
    congr 1
    omega

theorem hexDigit_bounds {n : Nat} (h : n < 16) : 48 ≤ hexDigit n ∧ hexDigit n ≤ 102 := by
  unfold hexDigit
  split_ifs <;> omega

theorem lt_of_mem_digits16 {width n d : Nat} (h : d ∈ digits16 width n) : d < 16 := by
  induction width generalizing n with
  | zero => cases h
  | succ width ih =>
      rcases List.mem_append.mp h with hinit | hlast
      · exact ih hinit
      · rw [List.mem_singleton.mp hlast]
        exact Nat.mod_lt _ (by omega)

theorem hexDigits_bounds {width n c : Nat} (h : c ∈ hexDigits width n) : 48 ≤ c ∧ c ≤ 102 := by
  obtain ⟨d, hd, rfl⟩ := List.mem_map.mp h
  exact hexDigit_bounds (lt_of_mem_digits16 hd)

@[simp] theorem length_digits16 (width n : Nat) : (digits16 width n).length = width := by
  induction width generalizing n with
  | zero => rfl
  | succ width ih => simp [digits16, ih]

@[simp] theorem length_hexDigits (width n : Nat) : (hexDigits width n).length = width := by
  simp [hexDigits]

theorem foldl_digits16 (width n : Nat) :
    (digits16 width n).foldl (fun value digit => 16 * value + digit) 0 = n % 16 ^ width := by
  induction width generalizing n with
  | zero => simp [digits16, Nat.mod_one]
  | succ width ih =>
      rw [digits16, List.foldl_append, ih, List.foldl_cons, List.foldl_nil, Nat.pow_succ, Nat.mul_comm,
        Nat.mul_comm (16 ^ width), Nat.mod_mul, Nat.mul_comm, Nat.add_comm]

theorem mapM_hexDigit {digits : List Nat} (h : ∀ d ∈ digits, d < 16) :
    (digits.map hexDigit).mapM hexValue? = some digits := by
  induction digits with
  | nil => rfl
  | cons d digits ih =>
      rw [List.map_cons, List.mapM_cons, hexValue_hexDigit (h d List.mem_cons_self),
        ih fun e he => h e (List.mem_cons_of_mem _ he)]
      rfl

theorem readHex_hexDigits {width n : Nat} (hn : n < 16 ^ width) (rest : List Nat) :
    readHex width (hexDigits width n ++ rest) = some (n, rest) := by
  have htake : (hexDigits width n ++ rest).take width = hexDigits width n := by simp
  have hdrop : (hexDigits width n ++ rest).drop width = rest := by simp
  rw [readHex, if_pos (by simp), htake, hdrop, hexDigits, mapM_hexDigit fun _ => lt_of_mem_digits16,
    Option.map_some, foldl_digits16, Nat.mod_eq_of_lt hn]

/-! ## UTF-8 -/

def utf8Bytes (c : Nat) : List Nat :=
  if c < 0x80 then [c]
  else if c < 0x800 then [0xC0 + c / 64, 0x80 + c % 64]
  else if c < 0x10000 then [0xE0 + c / 4096, 0x80 + c / 64 % 64, 0x80 + c % 64]
  else [0xF0 + c / 262144, 0x80 + c / 4096 % 64, 0x80 + c / 64 % 64, 0x80 + c % 64]

def IsHighSurrogate (c : Nat) : Prop := 0xD800 ≤ c ∧ c ≤ 0xDBFF

def IsLowSurrogate (c : Nat) : Prop := 0xDC00 ≤ c ∧ c ≤ 0xDFFF

instance (c : Nat) : Decidable (IsHighSurrogate c) := inferInstanceAs (Decidable (_ ∧ _))

instance (c : Nat) : Decidable (IsLowSurrogate c) := inferInstanceAs (Decidable (_ ∧ _))

/-- The encoder takes a pair of surrogates for one code point. -/
def joinSurrogates : List Nat → List Nat
  | [] => []
  | [c] => [c]
  | high :: low :: rest =>
      if IsHighSurrogate high ∧ IsLowSurrogate low then
        (0x10000 + (high - 0xD800) * 0x400 + (low - 0xDC00)) :: joinSurrogates rest
      else high :: joinSurrogates (low :: rest)

def encodeUtf8 (text : List Nat) : List Nat := (joinSurrogates text).flatMap utf8Bytes

def IsContinuation (b : Nat) : Prop := 0x80 ≤ b ∧ b < 0xC0

instance (b : Nat) : Decidable (IsContinuation b) := inferInstanceAs (Decidable (_ ∧ _))

/-- The rest of a code point of two bytes. -/
def readPair (b : Nat) : List Nat → Option (List Nat × List Nat)
  | b₁ :: rest =>
      if IsContinuation b₁ then some ([(b - 0xC0) * 64 + (b₁ - 0x80)], rest) else none
  | _ => none

def readTriple (b : Nat) : List Nat → Option (List Nat × List Nat)
  | b₁ :: b₂ :: rest =>
      if IsContinuation b₁ ∧ IsContinuation b₂ ∧ (b = 0xE0 → 0xA0 ≤ b₁) then
        some ([(b - 0xE0) * 4096 + (b₁ - 0x80) * 64 + (b₂ - 0x80)], rest)
      else none
  | _ => none

def readQuad (b : Nat) : List Nat → Option (List Nat × List Nat)
  | b₁ :: b₂ :: b₃ :: rest =>
      if IsContinuation b₁ ∧ IsContinuation b₂ ∧ IsContinuation b₃ ∧
          (b = 0xF0 → 0x90 ≤ b₁) ∧ (b = 0xF4 → b₁ < 0x90) then
        some ([(b - 0xF0) * 262144 + (b₁ - 0x80) * 4096 + (b₂ - 0x80) * 64 + (b₃ - 0x80)], rest)
      else none
  | _ => none

/-- One code point off the front. Overlong forms and numbers past the last code point are errors,
surrogates are not. -/
def readUtf8 : List Nat → Option (List Nat × List Nat)
  | [] => none
  | b :: rest =>
      if b < 0x80 then some ([b], rest)
      else if b < 0xC2 then none
      else if b < 0xE0 then readPair b rest
      else if b < 0xF0 then readTriple b rest
      else if b < 0xF5 then readQuad b rest
      else none

def decodeUtf8 (bytes : List Nat) : Option (List Nat) := decodeAll readUtf8 bytes

theorem readUtf8_utf8Bytes {c : Nat} (hc : c < 0x110000) (rest : List Nat) :
    readUtf8 (utf8Bytes c ++ rest) = some ([c], rest) := by
  unfold utf8Bytes
  by_cases h1 : c < 0x80
  · rw [if_pos h1, List.singleton_append, readUtf8, if_pos h1]
  rw [if_neg h1]
  by_cases h2 : c < 0x800
  · have hvalue : (0xC0 + c / 64 - 0xC0) * 64 + (0x80 + c % 64 - 0x80) = c := by omega
    rw [if_pos h2, List.cons_append, List.singleton_append, readUtf8, if_neg (by omega),
      if_neg (by omega), if_pos (by omega), readPair, if_pos (by unfold IsContinuation; omega), hvalue]
  rw [if_neg h2]
  by_cases h3 : c < 0x10000
  · have hvalue : (0xE0 + c / 4096 - 0xE0) * 4096 + (0x80 + c / 64 % 64 - 0x80) * 64 +
        (0x80 + c % 64 - 0x80) = c := by omega
    rw [if_pos h3, List.cons_append, List.cons_append, List.singleton_append, readUtf8,
      if_neg (by omega), if_neg (by omega), if_neg (by omega), if_pos (by omega), readTriple,
      if_pos (by unfold IsContinuation; omega), hvalue]
  · have hvalue : (0xF0 + c / 262144 - 0xF0) * 262144 + (0x80 + c / 4096 % 64 - 0x80) * 4096 +
        (0x80 + c / 64 % 64 - 0x80) * 64 + (0x80 + c % 64 - 0x80) = c := by omega
    rw [if_neg h3, List.cons_append, List.cons_append, List.cons_append, List.singleton_append,
      readUtf8, if_neg (by omega), if_neg (by omega), if_neg (by omega), if_neg (by omega),
      if_pos (by omega), readQuad, if_pos (by unfold IsContinuation; omega), hvalue]

theorem utf8Bytes_ne_nil (c : Nat) : utf8Bytes c ≠ [] := by
  unfold utf8Bytes
  split_ifs <;> simp

theorem joinSurrogates_eq {text : List Nat} (h : ∀ c ∈ text, ¬ IsHighSurrogate c) :
    joinSurrogates text = text := by
  induction text using joinSurrogates.induct with
  | case1 => rfl
  | case2 c => rfl
  | case3 high low rest hpair ih => exact absurd hpair.1 (h high List.mem_cons_self)
  | case4 high low rest hpair ih =>
      rw [joinSurrogates, if_neg hpair, ih fun c hc => h c (List.mem_cons_of_mem _ hc)]

/-- No high surrogate stands right before a low one. -/
def Unpaired (text : List Nat) : Prop := text.IsChain fun c d => ¬ (IsHighSurrogate c ∧ IsLowSurrogate d)

instance (text : List Nat) : Decidable (Unpaired text) := inferInstanceAs (Decidable (List.IsChain _ _))

theorem length_joinSurrogates_le (text : List Nat) : (joinSurrogates text).length ≤ text.length := by
  induction text using joinSurrogates.induct with
  | case1 => exact Nat.le_refl _
  | case2 c => exact Nat.le_refl _
  | case3 high low rest hpair ih =>
      rw [joinSurrogates, if_pos hpair]
      simp only [List.length_cons]
      omega
  | case4 high low rest hpair ih =>
      rw [joinSurrogates, if_neg hpair]
      exact Nat.succ_le_succ ih

/-- Only pairs are joined. -/
theorem joinSurrogates_eq_self {text : List Nat} : joinSurrogates text = text ↔ Unpaired text := by
  induction text using joinSurrogates.induct with
  | case1 => exact iff_of_true rfl .nil
  | case2 c => exact iff_of_true rfl (.singleton c)
  | case3 high low rest hpair ih =>
      refine iff_of_false (fun heq => ?_) fun hunpaired => (List.isChain_cons_cons.mp hunpaired).1 hpair
      have hlength := congrArg List.length heq
      have hle := length_joinSurrogates_le rest
      rw [joinSurrogates, if_pos hpair] at hlength
      simp only [List.length_cons] at hlength
      omega
  | case4 high low rest hpair ih =>
      rw [joinSurrogates, if_neg hpair, List.cons_inj_right, ih, Unpaired, Unpaired, List.isChain_cons_cons,
        and_iff_right hpair]

/-- What is joined is past the first 65536 code points. -/
theorem mem_joinSurrogates {text : List Nat} {c : Nat} (h : c ∈ joinSurrogates text) :
    c ∈ text ∨ 0x10000 ≤ c ∧ c < 0x110000 := by
  induction text using joinSurrogates.induct with
  | case1 => exact Or.inl h
  | case2 d => exact Or.inl h
  | case3 high low rest hpair ih =>
      rw [joinSurrogates, if_pos hpair] at h
      rcases List.mem_cons.mp h with heq | h
      · unfold IsHighSurrogate IsLowSurrogate at hpair
        omega
      · exact (ih h).imp_left fun hmem => List.mem_cons_of_mem _ (List.mem_cons_of_mem _ hmem)
  | case4 high low rest hpair ih =>
      rw [joinSurrogates, if_neg hpair] at h
      rcases List.mem_cons.mp h with rfl | h
      · exact Or.inl List.mem_cons_self
      · exact (ih h).imp_left (List.mem_cons_of_mem _)

theorem joinSurrogates_valid {text : List Nat} (h : ∀ c ∈ text, c < 0x110000) :
    ∀ c ∈ joinSurrogates text, c < 0x110000 :=
  fun c hc => (mem_joinSurrogates hc).elim (h c) And.right

theorem joinSurrogates_append {front : List Nat} (h : ∀ c ∈ front, ¬ IsHighSurrogate c) (rest : List Nat) :
    joinSurrogates (front ++ rest) = front ++ joinSurrogates rest := by
  induction front with
  | nil => rfl
  | cons c front ih =>
      rw [List.cons_append, List.cons_append, ← ih fun d hd => h d (List.mem_cons_of_mem _ hd)]
      cases front ++ rest with
      | nil => rfl
      | cons d more => exact if_neg fun hpair => h c List.mem_cons_self hpair.1

/-- **UTF-8 loses nothing but the pairs.** -/
theorem decodeUtf8_encodeUtf8 {text : List Nat} (h : ∀ c ∈ text, c < 0x110000) :
    decodeUtf8 (encodeUtf8 text) = some (joinSurrogates text) :=
  decodeAll_singletons (fun c _ => utf8Bytes_ne_nil c)
    fun c hc rest => readUtf8_utf8Bytes (joinSurrogates_valid h c hc) rest

/-- A byte below 128 stands for itself. -/
theorem mem_of_mem_utf8Bytes {c b : Nat} (h : b ∈ utf8Bytes c) (hb : b < 0x80) : b = c := by
  unfold utf8Bytes at h
  split_ifs at h <;> simp at h <;> omega

theorem lt_of_mem_utf8Bytes {c b : Nat} (hc : c < 0x110000) (h : b ∈ utf8Bytes c) : b < 256 := by
  unfold utf8Bytes at h
  split_ifs at h <;> simp at h <;> omega

/-! ## The unicode escapes -/

/-- The bytes of one code point in `raw-unicode-escape`, which leaves backslashes as they are. -/
def rawEscapeBytes (c : Nat) : List Nat :=
  if c < 0x100 then [c]
  else if c < 0x10000 then 92 :: 117 :: hexDigits 4 c
  else 92 :: 85 :: hexDigits 8 c

def encodeRawUnicodeEscape (text : List Nat) : List Nat := text.flatMap rawEscapeBytes

def IsOctal (c : Nat) : Prop := 48 ≤ c ∧ c ≤ 55

instance (c : Nat) : Decidable (IsOctal c) := inferInstanceAs (Decidable (_ ∧ _))

/-- A code point in so many hexadecimal digits. -/
def readCode (width : Nat) (items : List Nat) : Option (List Nat × List Nat) :=
  match readHex width items with
  | some (c, rest) => if c ≤ 0x10FFFF then some ([c], rest) else none
  | none => none

/-- A name between braces; the names are those of the character database. -/
def readName (names : List Nat → Option Nat) : List Nat → Option (List Nat × List Nat)
  | 123 :: rest =>
      let name := rest.takeWhile (· ≠ 125)
      if name ≠ [] ∧ rest.length ≠ name.length then
        (names name).map fun c => ([c], rest.drop (name.length + 1))
      else none
  | _ => none

/-- What follows a backslash. -/
def readEscape (names : List Nat → Option Nat) : List Nat → Option (List Nat × List Nat)
  | [] => none
  | c :: rest =>
      if c = 10 then some ([], rest)
      else if c = 92 ∨ c = 39 ∨ c = 34 then some ([c], rest)
      else if c = 98 then some ([8], rest)
      else if c = 102 then some ([12], rest)
      else if c = 116 then some ([9], rest)
      else if c = 110 then some ([10], rest)
      else if c = 114 then some ([13], rest)
      else if c = 118 then some ([11], rest)
      else if c = 97 then some ([7], rest)
      else if IsOctal c then
        let digits := ((c :: rest).take 3).takeWhile fun d => decide (IsOctal d)
        some ([digits.foldl (fun value digit => 8 * value + (digit - 48)) 0],
          (c :: rest).drop digits.length)
      else if c = 120 then readCode 2 rest
      else if c = 117 then readCode 4 rest
      else if c = 85 then readCode 8 rest
      else if c = 78 then readName names rest
      else some ([92, c], rest)

/-- One byte, or one escape, off the front. -/
def readUnicodeEscape (names : List Nat → Option Nat) : List Nat → Option (List Nat × List Nat)
  | [] => none
  | c :: rest => if c = 92 then readEscape names rest else some ([c], rest)

def decodeUnicodeEscape (names : List Nat → Option Nat) (bytes : List Nat) : Option (List Nat) :=
  decodeAll (readUnicodeEscape names) bytes

variable {names : List Nat → Option Nat}

theorem readUnicodeEscape_backslash (rest : List Nat) :
    readUnicodeEscape names (92 :: 92 :: rest) = some ([92], rest) := rfl

theorem readCode_hexDigits {width c : Nat} (hc : c < 0x110000) (hwidth : c < 16 ^ width)
    (rest : List Nat) : readCode width (hexDigits width c ++ rest) = some ([c], rest) := by
  rw [readCode, readHex_hexDigits hwidth]
  exact if_pos (by omega)

theorem readUnicodeEscape_code {c : Nat} (hc : c < 0x10000) (rest : List Nat) :
    readUnicodeEscape names (92 :: 117 :: hexDigits 4 c ++ rest) = some ([c], rest) := by
  have hread : ∀ digits, readUnicodeEscape names (92 :: 117 :: digits) = readCode 4 digits := fun _ => rfl
  rw [List.cons_append, List.cons_append, hread]
  exact readCode_hexDigits (by omega) (by omega) rest

theorem readUnicodeEscape_longCode {c : Nat} (hc : c < 0x110000) (rest : List Nat) :
    readUnicodeEscape names (92 :: 85 :: hexDigits 8 c ++ rest) = some ([c], rest) := by
  have hread : ∀ digits, readUnicodeEscape names (92 :: 85 :: digits) = readCode 8 digits := fun _ => rfl
  rw [List.cons_append, List.cons_append, hread]
  exact readCode_hexDigits hc (by omega) rest

theorem readUnicodeEscape_raw {c : Nat} (hc : c < 0x110000) (hplain : c ≠ 92) (rest : List Nat) :
    readUnicodeEscape names (rawEscapeBytes c ++ rest) = some ([c], rest) := by
  unfold rawEscapeBytes
  split_ifs with h1 h2
  · exact if_neg hplain
  · exact readUnicodeEscape_code h2 rest
  · exact readUnicodeEscape_longCode hc rest

theorem rawEscapeBytes_ne_nil (c : Nat) : rawEscapeBytes c ≠ [] := by
  unfold rawEscapeBytes
  split_ifs <;> simp

/-- Code points below 128 are written as they are. -/
theorem encodeRawUnicodeEscape_ascii {text : List Nat} (h : ∀ c ∈ text, c < 0x80) :
    encodeRawUnicodeEscape text = text := by
  induction text with
  | nil => rfl
  | cons c text ih =>
      have hc := h c List.mem_cons_self
      rw [encodeRawUnicodeEscape, List.flatMap_cons, rawEscapeBytes, if_pos (by omega),
        List.singleton_append]
      exact congrArg (c :: ·) (ih fun d hd => h d (List.mem_cons_of_mem _ hd))

end UnicodeCodecs
