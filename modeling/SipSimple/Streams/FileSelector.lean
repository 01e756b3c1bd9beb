import SipSimple.Library.TextSearch
import SipSimple.Streams.CPIMCodec
import SipSimple.Streams.FileTransfer

/-!
# File selectors

`FileSelector` of `streams/msrp/filetransfer.py`. A selector is written as a line of fields and read back
by four searches over the whole line, none of which knows where its field begins. The name comes first,
between quotes, and may hold anything else: what looks like a later field in it is found before that field.
-/

namespace SipSimple.Streams

open TextSearch UnicodeCodecs

/-- Two hexadecimal digits after a colon, so many times, and perhaps a line end. -/
def isHashTail : Nat → Text → Bool
  | 0, rest => rest = [] ∨ rest = ['\n']
  | n + 1, rest =>
      match rest with
      | ':' :: high :: low :: rest => isHashDigit high && isHashDigit low && isHashTail n rest
      | _ => false
where
  isHashDigit (c : Char) : Bool := c.isDigit || ('A' ≤ c && c ≤ 'F')

/-- `_hash_re` of `FileSelectorHash`. -/
def isHash (value : Text) : Bool :=
  "sha-1".toList.isPrefixOf value && isHashTail 20 (value.drop 5)

/-- A string that `FileSelectorHash` accepts. -/
abbrev FileSelectorHash := { value : Text // isHash value = true }

/-- `FileSelectorHash(value)` of a string. -/
def FileSelectorHash.new (value : Text) : Option FileSelectorHash :=
  let value := if "sha1:".toList.isPrefixOf value then "sha-1".toList ++ value.drop 4 else value
  if h : isHash value = true then some ⟨value, h⟩ else none

/-- The name is a unicode string, given by its code points; the type and what is written are byte
strings, given by characters below 256. -/
structure FileSelector where
  name : Option (List Nat)
  type : Option Text
  size : Option Nat
  hash : Option FileSelectorHash

namespace FileSelector

/-- `os.path.basename`. -/
def basename (path : List Nat) : List Nat := (path.reverse.takeWhile (· ≠ 47)).reverse

/-- `encode('utf-8')` and `decode('utf-8')`. -/
def encodeName (name : List Nat) : Text := (encodeUtf8 name).map Char.ofNat
def decodeName (text : Text) : Option (List Nat) := decodeUtf8 (text.map Char.toNat)

def searchName : Text → Option Text := first (quoted "name:\"".toList '"')
def searchSize : Text → Option Text := first (field "size:".toList Char.isDigit)
def searchType : Text → Option Text := first (field "type:".toList (· ≠ ' '))
def searchHash : Text → Option Text := first (field "hash:".toList (· ≠ ' '))

/-- The items of `sdp_repr`. An empty name is written without quotes. -/
def nameItem (name : List Nat) : Text :=
  "name:".toList ++ if name = [] then [] else '"' :: (encodeName (basename name) ++ ['"'])
def typeItem (type : Text) : Text := "type:".toList ++ type
def sizeItem (size : Nat) : Text := "size:".toList ++ Nat.toDigits 10 size
def hashItem (hash : FileSelectorHash) : Text := "hash:".toList ++ hash.val

def items (self : FileSelector) : List Text :=
  (self.name.map nameItem).toList ++ ((self.type.map typeItem).toList ++
    ((self.size.map sizeItem).toList ++ (self.hash.map hashItem).toList))

def sdpRepr (self : FileSelector) : Text := TextSearch.join ' ' self.items

/-- `name_match and name_match.group(1).decode('utf-8')`. -/
def nameOf : Option Text → Option (Option (List Nat))
  | some name => (decodeName name).map some
  | none => some none

def hashOf : Option Text → Option (Option FileSelectorHash)
  | some hash => (FileSelectorHash.new hash).map some
  | none => some none

/-- `FileSelector.parse`; `none` when the name is not UTF-8 or the hash is not valid. -/
def parse (string : Text) : Option FileSelector :=
  (nameOf (searchName string)).bind fun name =>
    (hashOf (searchHash string)).map fun hash =>
      { name := name
        type := searchType string
        size := (searchSize string).map fun digits => Nat.ofDigitChars 10 digits 0
        hash := hash }

/-- The selector that is read back has the same base name, type, size and hash. -/
def RoundTrips (self : FileSelector) : Prop :=
  ∃ parsed, parse self.sdpRepr = some parsed ∧
    parsed.name.map basename = self.name.map basename ∧ parsed.type = self.type ∧
    parsed.size = self.size ∧ parsed.hash = self.hash

/-- What a search finds in the item of the name, and in the item of the type. -/
def inName (self : FileSelector) (search : Text → Option Text) : Option Text :=
  self.name.bind fun name => search (nameItem name)
def inType (self : FileSelector) (search : Text → Option Text) : Option Text :=
  self.type.bind fun type => search (typeItem type)

/-- Nothing in the items of the name and of the type reads like a later field, unless it says the same as
that field does. -/
structure Unambiguous (selector : FileSelector) : Prop where
  name : selector.name = none → selector.inType searchName = none
  type : selector.type ≠ some [] ∧ ∀ found, selector.inName searchType = some found →
    selector.type = some found
  size : ∀ found, (selector.inName searchSize).or (selector.inType searchSize) = some found →
    selector.size = some (Nat.ofDigitChars 10 found 0)
  hash : ∀ found, (selector.inName searchHash).or (selector.inType searchHash) = some found →
    ∃ hash, FileSelectorHash.new found = some hash ∧ selector.hash = some hash

/-- A path whose base name is not empty and has no double quotes. -/
def IsFileName (name : List Nat) : Prop :=
  (∃ text : List Char, name = CPIMCodec.codePoints text) ∧ basename name ≠ [] ∧ 34 ∉ basename name

/-! ## The characters of the items -/

/-- The characters of a hash. -/
def IsHashChar (c : Char) : Prop :=
  c ∈ "sha-1".toList ∨ c = ':' ∨ isHashTail.isHashDigit c = true ∨ c = '\n'

instance (c : Char) : Decidable (IsHashChar c) := inferInstanceAs (Decidable (_ ∨ _))

theorem isHashChar_of_tail {n : Nat} {rest : Text} (h : isHashTail n rest = true) {c : Char}
    (hc : c ∈ rest) : IsHashChar c := by
  induction n generalizing rest with
  | zero =>
      rcases of_decide_eq_true h with rfl | rfl
      · cases hc
      · exact .inr (.inr (.inr (List.mem_singleton.mp hc)))
  | succ n ih =>
      unfold isHashTail at h
      split at h
      next high low rest =>
          rw [Bool.and_eq_true, Bool.and_eq_true] at h
          rcases List.mem_cons.mp hc with rfl | hc
          · exact .inr (.inl rfl)
          rcases List.mem_cons.mp hc with rfl | hc
          · exact .inr (.inr (.inl h.1.1))
          rcases List.mem_cons.mp hc with rfl | hc
          · exact .inr (.inr (.inl h.1.2))
          · exact ih h.2 hc
      next => cases h

theorem isHashChar_of_mem (hash : FileSelectorHash) {c : Char} (hc : c ∈ hash.val) : IsHashChar c := by
  obtain ⟨value, hvalue⟩ := hash
  rw [isHash, Bool.and_eq_true] at hvalue
  obtain ⟨rest, rfl⟩ := List.isPrefixOf_iff_prefix.mp hvalue.1
  rcases List.mem_append.mp hc with hleft | hright
  · exact .inl hleft
  · exact isHashChar_of_tail hvalue.2 hright

theorem not_mem_hashItem {c : Char} (hliteral : c ∉ "hash:".toList) (hchar : ¬ IsHashChar c)
    (hash : FileSelectorHash) : c ∉ hashItem hash := by
  intro hc
  rcases List.mem_append.mp hc with hleft | hright
  · exact hliteral hleft
  · exact hchar (isHashChar_of_mem hash hright)

theorem not_mem_sizeItem {c : Char} (hliteral : c ∉ "size:".toList) (hdigit : c.isDigit = false)
    (size : Nat) : c ∉ sizeItem size := by
  intro hc
  rcases List.mem_append.mp hc with hleft | hright
  · exact hliteral hleft
  · have := Nat.isDigit_of_mem_toDigits (by decide) (by decide) hright
    rw [hdigit] at this
    cases this

/-! ## What the searches find -/

theorem findSome_optional {β : Type*} (f : β → Text) (search : Text → Option Text) (value : Option β)
    (rest : List Text) :
    ((value.map f).toList ++ rest).findSome? search =
      (value.bind fun x => search (f x)).or (rest.findSome? search) := by
  cases value with
  | none => rfl
  | some x =>
      show (f x :: rest).findSome? search = (search (f x)).or (rest.findSome? search)
      rw [List.findSome?_cons]
      cases search (f x) <;> rfl

theorem search_items (self : FileSelector) (search : Text → Option Text) :
    self.items.findSome? search =
      (self.inName search).or ((self.inType search).or
        ((self.size.bind fun size => search (sizeItem size)).or
          (self.hash.bind fun hash => search (hashItem hash)))) := by
  rw [items, findSome_optional, findSome_optional, findSome_optional]
  congr 3
  cases self.hash with
  | none => rfl
  | some hash =>
      show [hashItem hash].findSome? search = search (hashItem hash)
      rw [List.findSome?_singleton]

theorem searchSize_sdpRepr (self : FileSelector) :
    searchSize self.sdpRepr =
      ((self.inName searchSize).or (self.inType searchSize)).or (self.size.map (Nat.toDigits 10)) := by
  have hjoin : searchSize self.sdpRepr = self.items.findSome? searchSize :=
    first_join (by decide) (by decide) (by decide) self.items
  have hsize : ∀ size, searchSize (sizeItem size) = some (Nat.toDigits 10 size) := fun size =>
    first_of_front (field_literal _ Nat.toDigits_ne_nil fun c hc =>
      Nat.isDigit_of_mem_toDigits (by decide) (by decide) hc)
  have hhash : ∀ hash, searchSize (hashItem hash) = none := fun hash =>
    first_field_eq_none (c := 'z') (by decide) (not_mem_hashItem (by decide) (by decide) hash)
  rw [hjoin, search_items, Option.or_assoc]
  simp only [hsize, hhash]
  cases self.size <;> cases self.hash <;> simp

theorem searchType_sdpRepr (self : FileSelector) (htype : ∀ type ∈ self.type, ' ' ∉ type) :
    searchType self.sdpRepr =
      (self.inName searchType).or (self.type.filter fun type => type ≠ []) := by
  have hjoin : searchType self.sdpRepr = self.items.findSome? searchType :=
    first_join (by decide) (by decide) (by decide) self.items
  have hsize : ∀ size, searchType (sizeItem size) = none := fun size =>
    first_field_eq_none (c := 'y') (by decide) (not_mem_sizeItem (by decide) (by decide) size)
  have hhash : ∀ hash, searchType (hashItem hash) = none := fun hash =>
    first_field_eq_none (c := 'y') (by decide) (not_mem_hashItem (by decide) (by decide) hash)
  have hitem : self.inType searchType = self.type.filter fun type => type ≠ [] := by
    cases hvalue : self.type with
    | none => simp [inType, hvalue]
    | some type =>
        by_cases hempty : type = []
        · rw [inType, hvalue, hempty]
          rfl
        · have hfound : searchType (typeItem type) = some type :=
            first_of_front (field_literal _ hempty fun c hc =>
              decide_eq_true fun heq => htype type hvalue (heq ▸ hc))
          simp [inType, hvalue, hfound, Option.filter, hempty]
  rw [hjoin, search_items, hitem]
  simp only [hsize, hhash]
  cases self.size <;> cases self.hash <;> simp

theorem searchHash_sdpRepr (self : FileSelector) :
    searchHash self.sdpRepr =
      ((self.inName searchHash).or (self.inType searchHash)).or (self.hash.map Subtype.val) := by
  have hjoin : searchHash self.sdpRepr = self.items.findSome? searchHash :=
    first_join (by decide) (by decide) (by decide) self.items
  have hsize : ∀ size, searchHash (sizeItem size) = none := fun size =>
    first_field_eq_none (c := 'h') (by decide) (not_mem_sizeItem (by decide) (by decide) size)
  have hhash : ∀ hash, searchHash (hashItem hash) = some hash.val := by
    intro hash
    refine first_of_front (field_literal _ ?_ fun c hc => decide_eq_true fun heq => ?_)
    · intro hempty
      have hvalid := hash.property
      rw [hempty] at hvalid
      exact absurd hvalid (by decide)
    · rw [heq] at hc
      exact absurd (isHashChar_of_mem hash hc) (by decide)
  rw [hjoin, search_items, Option.or_assoc]
  simp only [hsize, hhash]
  cases self.size <;> cases self.hash <;> simp

/-! ## The name -/

theorem basename_basename (path : List Nat) : basename (basename path) = basename path := by
  have hself : (path.reverse.takeWhile (· ≠ 47)).takeWhile (· ≠ 47) = path.reverse.takeWhile (· ≠ 47) :=
    List.takeWhile_eq_self_iff.mpr fun c hc => List.mem_takeWhile_imp (p := fun c => decide (c ≠ 47)) hc
  rw [basename, basename, List.reverse_reverse, hself]

theorem mem_of_mem_basename {path : List Nat} {c : Nat} (h : c ∈ basename path) : c ∈ path :=
  List.mem_reverse.mp ((List.takeWhile_sublist _).subset (List.mem_reverse.mp h))

section

variable {name : List Nat} (hname : IsFileName name)
include hname

theorem basename_valid : ∀ c ∈ basename name, c < 0x110000 ∧ ¬ IsHighSurrogate c := by
  obtain ⟨⟨text, rfl⟩, -, -⟩ := hname
  exact fun c hc => CPIMCodec.codePoints_valid c (mem_of_mem_basename hc)

theorem mem_encodeUtf8 {b : Nat} (hb : b ∈ encodeUtf8 (basename name)) :
    b < 256 ∧ (b < 0x80 → b ∈ basename name) := by
  have hvalid := basename_valid hname
  rw [encodeUtf8, joinSurrogates_eq fun c hc => (hvalid c hc).2] at hb
  obtain ⟨c, hc, hbytes⟩ := List.mem_flatMap.mp hb
  refine ⟨lt_of_mem_utf8Bytes (hvalid c hc).1 hbytes, fun hascii => ?_⟩
  rw [mem_of_mem_utf8Bytes hbytes hascii]
  exact hc

theorem decodeName_encodeName : decodeName (encodeName (basename name)) = some (basename name) := by
  have hbytes : (encodeName (basename name)).map Char.toNat = encodeUtf8 (basename name) := by
    rw [encodeName, List.map_map]
    exact (List.map_congr_left fun b hb => toNat_ofNat_byte (mem_encodeUtf8 hname hb).1).trans
      (List.map_id _)
  have hvalid := basename_valid hname
  rw [decodeName, hbytes, decodeUtf8_encodeUtf8 fun c hc => (hvalid c hc).1,
    joinSurrogates_eq fun c hc => (hvalid c hc).2]

theorem encodeName_ne_nil : encodeName (basename name) ≠ [] := by
  intro hnil
  have hdecode := decodeName_encodeName hname
  rw [hnil] at hdecode
  exact hname.2.1 (Option.some.inj hdecode).symm

theorem quote_not_mem_encodeName : '"' ∉ encodeName (basename name) := by
  intro hmem
  obtain ⟨b, hb, hquote⟩ := List.mem_map.mp hmem
  obtain ⟨hbyte, hascii⟩ := mem_encodeUtf8 hname hb
  have hvalue : b = 34 := by
    rw [← toNat_ofNat_byte hbyte, hquote]
    rfl
  rw [hvalue] at hascii
  exact hname.2.2 (hascii (by omega))

theorem nameItem_eq : nameItem name =
    "name:\"".toList ++ (encodeName (basename name) ++ '"' :: []) := by
  have hne : name ≠ [] := by
    intro hnil
    apply hname.2.1
    rw [hnil]
    rfl
  rw [nameItem, if_neg hne]
  rfl

end

/-- A name is found where it was written. -/
theorem searchName_of_name {self : FileSelector} {name : List Nat} (hself : self.name = some name)
    (hname : IsFileName name) : searchName self.sdpRepr = some (encodeName (basename name)) := by
  obtain ⟨rest, hrest⟩ : ∃ rest, self.sdpRepr =
      "name:\"".toList ++ (encodeName (basename name) ++ '"' :: rest) := by
    rw [sdpRepr, items, hself]
    generalize (self.type.map typeItem).toList ++
      ((self.size.map sizeItem).toList ++ (self.hash.map hashItem).toList) = others
    show ∃ rest, TextSearch.join ' ' (nameItem name :: others) = _
    cases others with
    | nil => exact ⟨[], nameItem_eq hname⟩
    | cons next items =>
        refine ⟨' ' :: TextSearch.join ' ' (next :: items), ?_⟩
        rw [TextSearch.join, nameItem_eq hname, List.append_assoc, List.append_assoc]
        rfl
  rw [hrest]
  refine first_of_front ((quoted_literal _ (quote_not_mem_encodeName hname) rest).trans ?_)
  exact if_neg (encodeName_ne_nil hname)

theorem not_mem_join {c sep : Char} {words : List Text} (hsep : c ≠ sep) (h : ∀ word ∈ words, c ∉ word) :
    c ∉ TextSearch.join sep words := by
  induction words with
  | nil => exact List.not_mem_nil
  | cons word words ih =>
      have hword := h word List.mem_cons_self
      have hrest := ih fun other hother => h other (List.mem_cons_of_mem _ hother)
      cases words with
      | nil => exact hword
      | cons next words =>
          rw [TextSearch.join]
          intro hmem
          rcases List.mem_append.mp hmem with hleft | hright
          · exact hword hleft
          · exact (List.mem_cons.mp hright).elim hsep hrest

/-- Without a name there is a match only within the type. -/
theorem searchName_of_none {self : FileSelector} (hself : self.name = none) :
    searchName self.sdpRepr = self.inType searchName := by
  have hquotes : ∀ word ∈ (self.size.map sizeItem).toList ++ (self.hash.map hashItem).toList,
      '"' ∉ word := by
    intro word hword
    rcases List.mem_append.mp hword with hsize | hhash
    · obtain ⟨size, -, rfl⟩ := Option.map_eq_some_iff.mp (Option.mem_toList.mp hsize)
      exact not_mem_sizeItem (by decide) (by decide) size
    · obtain ⟨hash, -, rfl⟩ := Option.map_eq_some_iff.mp (Option.mem_toList.mp hhash)
      exact not_mem_hashItem (by decide) (by decide) hash
  rw [sdpRepr, items, hself]
  generalize (self.size.map sizeItem).toList ++ (self.hash.map hashItem).toList = others at hquotes
  show searchName (TextSearch.join ' ' ((self.type.map typeItem).toList ++ others)) = _
  rw [inType]
  cases self.type with
  | none => exact first_quoted_eq_none (not_mem_join (by decide) hquotes)
  | some type =>
      show searchName (TextSearch.join ' ' (typeItem type :: others)) = searchName (typeItem type)
      cases others with
      | nil => rfl
      | cons next others =>
          rw [TextSearch.join]
          refine first_quoted_append (by decide) ?_ _
          intro hmem
          exact (List.mem_cons.mp hmem).elim (by decide) (not_mem_join (by decide) hquotes)

/-! ## The round trip -/

theorem name_iff {self : FileSelector} (hname : ∀ name ∈ self.name, IsFileName name) :
    (∃ name, nameOf (searchName self.sdpRepr) = some name ∧ name.map basename = self.name.map basename) ↔
      (self.name = none → self.inType searchName = none) := by
  cases hself : self.name with
  | some name =>
      have hvalid := hname name hself
      rw [searchName_of_name hself hvalid, nameOf, decodeName_encodeName hvalid]
      refine ⟨fun _ h => (nomatch h), fun _ => ⟨_, rfl, ?_⟩⟩
      rw [Option.map_some, Option.map_some, basename_basename]
  | none =>
      rw [searchName_of_none hself]
      cases self.inType searchName with
      | none => exact ⟨fun _ _ => rfl, fun _ => ⟨none, rfl, rfl⟩⟩
      | some found =>
          refine ⟨?_, fun h => (nomatch h rfl)⟩
          rintro ⟨name, hfound, hmap⟩
          rw [Option.map_none, Option.map_eq_none_iff] at hmap
          rw [hmap, nameOf, Option.map_eq_some_iff] at hfound
          obtain ⟨_, -, h⟩ := hfound
          cases h

theorem type_iff {self : FileSelector} (htype : ∀ type ∈ self.type, ' ' ∉ type) :
    searchType self.sdpRepr = self.type ↔
      self.type ≠ some [] ∧ ∀ found, self.inName searchType = some found → self.type = some found := by
  rw [searchType_sdpRepr self htype]
  cases hfound : self.inName searchType with
  | some found =>
      rw [Option.some_or]
      constructor
      · intro h
        refine ⟨fun hempty => ?_, fun other hother => by rw [← h, Option.some.inj hother]⟩
        obtain ⟨name, -, hname⟩ := Option.bind_eq_some_iff.mp hfound
        exact ne_nil_of_first hname (Option.some.inj (h.trans hempty))
      · exact fun h => (h.2 found rfl).symm
  | none =>
      rw [Option.none_or]
      cases self.type with
      | none => simp
      | some type => by_cases hempty : type = [] <;> simp [Option.filter, hempty]

theorem size_iff (self : FileSelector) :
    (searchSize self.sdpRepr).map (fun digits => Nat.ofDigitChars 10 digits 0) = self.size ↔
      ∀ found, (self.inName searchSize).or (self.inType searchSize) = some found →
        self.size = some (Nat.ofDigitChars 10 found 0) := by
  rw [searchSize_sdpRepr]
  cases (self.inName searchSize).or (self.inType searchSize) with
  | some found =>
      rw [Option.some_or, Option.map_some]
      exact ⟨fun h other hother => by rw [← h, Option.some.inj hother], fun h => (h found rfl).symm⟩
  | none =>
      rw [Option.none_or]
      cases self.size with
      | none => simp
      | some size => simp [Nat.ofDigitChars_ten_toDigits]

theorem new_val (hash : FileSelectorHash) : FileSelectorHash.new hash.val = some hash := by
  have hstarts : ¬ "sha1:".toList.isPrefixOf hash.val = true := by
    have hvalid := hash.property
    rw [isHash, Bool.and_eq_true] at hvalid
    obtain ⟨rest, hrest⟩ := List.isPrefixOf_iff_prefix.mp hvalid.1
    rw [← hrest]
    exact Bool.false_ne_true
  have hvalue : (if "sha1:".toList.isPrefixOf hash.val = true then "sha-1".toList ++ hash.val.drop 4
      else hash.val) = hash.val := if_neg hstarts
  rw [FileSelectorHash.new]
  simp only [hvalue]
  exact dif_pos hash.property

theorem hash_iff (self : FileSelector) :
    hashOf (searchHash self.sdpRepr) = some self.hash ↔
      ∀ found, (self.inName searchHash).or (self.inType searchHash) = some found →
        ∃ hash, FileSelectorHash.new found = some hash ∧ self.hash = some hash := by
  rw [searchHash_sdpRepr]
  cases (self.inName searchHash).or (self.inType searchHash) with
  | some found =>
      rw [Option.some_or, hashOf, Option.map_eq_some_iff]
      constructor
      · rintro ⟨hash, hnew, hself⟩ other hother
        exact ⟨hash, Option.some.inj hother ▸ hnew, hself.symm⟩
      · intro h
        obtain ⟨hash, hnew, hself⟩ := h found rfl
        exact ⟨hash, hnew, hself.symm⟩
  | none =>
      rw [Option.none_or]
      cases self.hash with
      | none => simp [hashOf]
      | some hash => simp [hashOf, new_val]

theorem roundTrips_iff_fields (self : FileSelector) :
    self.RoundTrips ↔
      (∃ name, nameOf (searchName self.sdpRepr) = some name ∧
          name.map basename = self.name.map basename) ∧
        searchType self.sdpRepr = self.type ∧
        (searchSize self.sdpRepr).map (fun digits => Nat.ofDigitChars 10 digits 0) = self.size ∧
        hashOf (searchHash self.sdpRepr) = some self.hash := by
  constructor
  · rintro ⟨parsed, hparsed, hname, htype, hsize, hhash⟩
    obtain ⟨name, hfound, hrest⟩ := Option.bind_eq_some_iff.mp hparsed
    obtain ⟨hash, hhashed, rfl⟩ := Option.map_eq_some_iff.mp hrest
    exact ⟨⟨name, hfound, hname⟩, htype, hsize, hhash ▸ hhashed⟩
  · rintro ⟨⟨name, hfound, hname⟩, htype, hsize, hhash⟩
    refine ⟨⟨name, searchType self.sdpRepr, _, self.hash⟩, ?_, hname, htype, hsize, rfl⟩
    rw [parse, hfound, Option.bind_some, hhash]
    rfl

/-- **A selector survives being written and read** exactly when nothing in its name and type reads like
one of the other fields. -/
theorem unambiguous_iff (self : FileSelector) (hname : ∀ name ∈ self.name, IsFileName name)
    (htype : ∀ type ∈ self.type, ' ' ∉ type) : self.RoundTrips ↔ Unambiguous self := by
  rw [roundTrips_iff_fields, name_iff hname, type_iff htype, size_iff, hash_iff]
  exact ⟨fun ⟨h1, h2, h3, h4⟩ => ⟨h1, h2, h3, h4⟩, fun h => ⟨h.name, h.type, h.size, h.hash⟩⟩

def document : FileSelector where
  name := some (CPIMCodec.codePoints "files/a b.txt".toList)
  type := some "text/plain".toList
  size := some 12
  hash := none

theorem isFileName_document : IsFileName (CPIMCodec.codePoints "files/a b.txt".toList) :=
  ⟨⟨_, rfl⟩, by decide, by decide⟩

theorem document_unambiguous_iff : document.RoundTrips ↔ Unambiguous document :=
  unambiguous_iff document
    (fun name h => Option.some.inj (show some _ = some name from h) ▸ isFileName_document)
    (fun type h => Option.some.inj (show some _ = some type from h) ▸ by decide)

/-- A file whose name has what looks like a size in it. -/
def photo : FileSelector where
  name := some (CPIMCodec.codePoints "photo size:1.jpg".toList)
  type := some "image/jpeg".toList
  size := some 1000
  hash := none

theorem photo_not_roundTrips :
    IsFileName (CPIMCodec.codePoints "photo size:1.jpg".toList) ∧ ' ' ∉ "image/jpeg".toList ∧
      ¬ photo.RoundTrips := by
  refine ⟨⟨⟨_, rfl⟩, by decide, by decide⟩, by decide, fun h => ?_⟩
  have hsize := (size_iff photo).mp ((roundTrips_iff_fields photo).mp h).2.2.1 ['1'] (by decide)
  exact absurd (Option.some.inj hsize) (by decide)

end FileSelector

end SipSimple.Streams
