import SipSimple.Library.UnicodeCodecs
import SipSimple.Util.Sha1

/-!
# The codec of the CPIM headers

`CPIMCodec` of `streams/msrp/chat.py`. A header is written with its control characters and backslashes
escaped, in UTF-8, and read back through `raw-unicode-escape` and `unicode-escape`. A backslash is always
doubled, so what follows one in the encoded form is never text.
-/

namespace SipSimple.Streams.CPIMCodec

open UnicodeCodecs

/-- What `character_map` translates a code point to. -/
def characterMap (c : Nat) : List Nat :=
  if c < 32 ∨ c = 127 then 92 :: 117 :: hexDigits 4 c
  else if c = 92 then [92, 92]
  else [c]

def encode (input : List Nat) : Bytes :=
  (encodeUtf8 (input.flatMap characterMap)).map UInt8.ofNat

/-- `names` is the character database, which `unicode-escape` looks names up in. -/
def decode (names : List Nat → Option Nat) (input : Bytes) : Option (List Nat) :=
  (decodeUtf8 (input.map UInt8.toNat)).bind fun text =>
    decodeUnicodeEscape names (encodeRawUnicodeEscape text)

/-- The code points of a text, none of which is a surrogate. -/
def codePoints (text : List Char) : List Nat := text.map Char.toNat

theorem codePoints_valid {text : List Char} :
    ∀ c ∈ codePoints text, c < 0x110000 ∧ ¬ IsHighSurrogate c := by
  intro c hc
  obtain ⟨char, -, rfl⟩ := List.mem_map.mp hc
  have hvalid : char.toNat < 0xD800 ∨ 0xDFFF < char.toNat ∧ char.toNat < 0x110000 := char.valid
  unfold IsHighSurrogate
  omega

/-- A translated code point is a printable ASCII character, or the code point itself, which needs no escape. -/
theorem mem_characterMap {c d : Nat} (hd : d ∈ characterMap c) : 32 ≤ d ∧ d < 127 ∨ d = c ∧ 32 ≤ c ∧ c ≠ 127 := by
  unfold characterMap at hd
  split_ifs at hd with hcontrol hbackslash
  · rcases List.mem_cons.mp hd with rfl | hd
    · omega
    rcases List.mem_cons.mp hd with rfl | hd
    · omega
    have := hexDigits_bounds hd
    omega
  · simp only [List.mem_cons, List.not_mem_nil, or_false, or_self] at hd
    omega
  · rw [List.mem_singleton.mp hd]
    omega

theorem characterMap_valid {c d : Nat} (hc : c < 0x110000) (hd : d ∈ characterMap c) : d < 0x110000 := by
  have := mem_characterMap hd
  omega

theorem translated_valid {input : List Nat} (h : ∀ c ∈ input, c < 0x110000) :
    ∀ d ∈ input.flatMap characterMap, d < 0x110000 := by
  intro d hd
  obtain ⟨c, hc, hd⟩ := List.mem_flatMap.mp hd
  exact characterMap_valid (h c hc) hd

/-- Only a surrogate is translated to one, to itself. -/
theorem characterMap_surrogate {c : Nat} (hc : 0xD800 ≤ c) : characterMap c = [c] := by
  rw [characterMap, if_neg (by omega), if_neg (by omega)]

theorem characterMap_plain {c : Nat} (hc : ¬ IsHighSurrogate c) : ∀ d ∈ characterMap c, ¬ IsHighSurrogate d := by
  intro d hd
  unfold IsHighSurrogate at hc ⊢
  have := mem_characterMap hd
  omega

theorem exists_characterMap (c : Nat) : ∃ d rest, characterMap c = d :: rest ∧ (IsLowSurrogate d → d = c) := by
  unfold characterMap
  split_ifs with hcontrol hbackslash
  · refine ⟨_, _, rfl, fun hlow => ?_⟩
    unfold IsLowSurrogate at hlow
    omega
  · refine ⟨_, _, rfl, fun hlow => ?_⟩
    unfold IsLowSurrogate at hlow
    omega
  · exact ⟨_, _, rfl, fun _ => rfl⟩

/-- The translation and the joining of pairs do not touch each other. -/
theorem joinSurrogates_translated (input : List Nat) :
    joinSurrogates (input.flatMap characterMap) = (joinSurrogates input).flatMap characterMap := by
  induction input using joinSurrogates.induct with
  | case1 => rfl
  | case2 c =>
      rw [joinSurrogates, List.flatMap_singleton]
      by_cases hc : IsHighSurrogate c
      · rw [characterMap_surrogate hc.1, joinSurrogates]
      · have happend := joinSurrogates_append (characterMap_plain hc) []
        rwa [List.append_nil, joinSurrogates, List.append_nil] at happend
  | case3 high low rest hpair ih =>
      have hjoined : 0xD800 ≤ 0x10000 + (high - 0xD800) * 0x400 + (low - 0xDC00) := by omega
      rw [joinSurrogates, if_pos hpair, List.flatMap_cons, List.flatMap_cons, List.flatMap_cons,
        characterMap_surrogate hpair.1.1, characterMap_surrogate (by have := hpair.2.1; omega),
        characterMap_surrogate hjoined, ← ih]
      exact if_pos hpair
  | case4 high low rest hpair ih =>
      rw [joinSurrogates, if_neg hpair]
      show joinSurrogates (characterMap high ++ (low :: rest).flatMap characterMap) =
        characterMap high ++ (joinSurrogates (low :: rest)).flatMap characterMap
      rw [← ih]
      by_cases hhigh : IsHighSurrogate high
      · -- what follows begins with a low surrogate only where it did before
        obtain ⟨d, more, hmap, hlow⟩ := exists_characterMap low
        rw [characterMap_surrogate hhigh.1, List.flatMap_cons, hmap]
        have hkept : ¬ (IsHighSurrogate high ∧ IsLowSurrogate d) := by
          rintro ⟨-, hd⟩
          exact hpair ⟨hhigh, hlow hd ▸ hd⟩
        exact if_neg hkept
      · exact joinSurrogates_append (characterMap_plain hhigh) _

/-- What a code point is translated to holds no control character. -/
theorem characterMap_printable {c d : Nat} (hd : d ∈ characterMap c) : 32 ≤ d ∧ d ≠ 127 := by
  have := mem_characterMap hd
  omega

/-- The decoder reads a translated code point back, whatever follows it. -/
theorem read_characterMap {names : List Nat → Option Nat} {c : Nat} (hc : c < 0x110000)
    (rest : List Nat) :
    readUnicodeEscape names (encodeRawUnicodeEscape (characterMap c) ++ rest) = some ([c], rest) := by
  unfold characterMap
  split_ifs with hcontrol hbackslash
  · rw [encodeRawUnicodeEscape_ascii]
    · exact readUnicodeEscape_code (by omega) rest
    · intro d hd
      rcases List.mem_cons.mp hd with rfl | hd
      · omega
      rcases List.mem_cons.mp hd with rfl | hd
      · omega
      have := hexDigits_bounds hd
      omega
  · rw [hbackslash]
    exact readUnicodeEscape_backslash rest
  · rw [encodeRawUnicodeEscape, List.flatMap_singleton]
    exact readUnicodeEscape_raw hc hbackslash rest

theorem encodeRawUnicodeEscape_characterMap_ne_nil (c : Nat) :
    encodeRawUnicodeEscape (characterMap c) ≠ [] := by
  unfold characterMap encodeRawUnicodeEscape
  split_ifs <;> simp [rawEscapeBytes_ne_nil]

/-- The bytes of the encoded form are bytes. -/
theorem map_toNat_encode {input : List Nat} (h : ∀ c ∈ input, c < 0x110000) :
    (encode input).map UInt8.toNat = encodeUtf8 (input.flatMap characterMap) := by
  rw [encode, List.map_map]
  refine (List.map_congr_left fun b hb => ?_).trans (List.map_id _)
  obtain ⟨d, hd, hb⟩ := List.mem_flatMap.mp hb
  have := lt_of_mem_utf8Bytes (joinSurrogates_valid (translated_valid h) d hd) hb
  show (UInt8.ofNat b).toNat = b
  exact UInt8.toNat_ofNat_of_lt' this

/-- What comes back is the text with its pairs of surrogates joined. -/
theorem decode_encode_eq {names : List Nat → Option Nat} {input : List Nat} (h : ∀ c ∈ input, c < 0x110000) :
    decode names (encode input) = some (joinSurrogates input) := by
  rw [decode, map_toNat_encode h, decodeUtf8_encodeUtf8 (translated_valid h), Option.bind_some,
    joinSurrogates_translated, encodeRawUnicodeEscape, List.flatMap_assoc, decodeUnicodeEscape]
  exact decodeAll_singletons (fun c _ => encodeRawUnicodeEscape_characterMap_ne_nil c)
    fun c hc rest => read_characterMap (joinSurrogates_valid h c hc) rest

theorem encode_printable {input : List Nat} (h : ∀ c ∈ input, c < 0x110000) :
    ∀ b ∈ encode input, 32 ≤ b.toNat ∧ b.toNat ≠ 127 := by
  intro b hb
  have hmem : b.toNat ∈ encodeUtf8 (input.flatMap characterMap) := by
    rw [← map_toNat_encode h]
    exact List.mem_map_of_mem hb
  obtain ⟨d, hd, hbytes⟩ := List.mem_flatMap.mp hmem
  by_cases hascii : b.toNat < 0x80
  · rw [mem_of_mem_utf8Bytes hbytes hascii]
    rcases mem_joinSurrogates hd with hd | hd
    · obtain ⟨c, -, hdc⟩ := List.mem_flatMap.mp hd
      exact characterMap_printable hdc
    · omega
  · omega

/-- **A header value survives the codec** unless it has a pair of surrogates, and its encoded form holds no control
character. -/
theorem decode_encode (names : List Nat → Option Nat) {text : List Nat} (hvalid : ∀ c ∈ text, c < 0x110000) :
    (Unpaired text → decode names (encode text) = some text) ∧
      ∀ b ∈ encode text, 32 ≤ b.toNat ∧ b.toNat ≠ 127 := by
  refine ⟨fun hunpaired => ?_, encode_printable hvalid⟩
  rw [decode_encode_eq hvalid, joinSurrogates_eq_self.mpr hunpaired]

/-- A tab, a lone surrogate and a letter. -/
theorem decode_encode_lone : decode (fun _ => none) (encode [9, 0xD800, 0x41]) = some [9, 0xD800, 0x41] :=
  (decode_encode (fun _ => none) (by decide)).1 (by decide)

/-- A high and a low surrogate come back as one code point. -/
theorem not_decode_encode : ¬ ∀ text : List Nat, (∀ c ∈ text, c < 0x110000) →
    decode (fun _ => none) (encode text) = some text := by
  intro hall
  have hvalid : ∀ c ∈ [0xD800, 0xDC00], c < 0x110000 := by decide
  have hpair := (decode_encode_eq hvalid).symm.trans (hall _ hvalid)
  exact absurd (joinSurrogates_eq_self.mp (Option.some.inj hpair)) (by decide)

end SipSimple.Streams.CPIMCodec
