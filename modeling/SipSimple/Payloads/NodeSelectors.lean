import SipSimple.Payloads.ResourceSearch

/-!
# Selection in the serialised document

What a path of `get_xpath` selects. It is a node selector: after the root, each step names the elements of a
tag with a value of an attribute, or the element of the tag at a position. Attribute values are written as in
XML. In the serialised document the URIs are percent-encoded. The other children of an element, such as
display names, have other tags and are left out.
-/

namespace SipSimple.Payloads.ResourcePaths

inductive Step where
  | byAttribute (name xmlname value : Str)
  | byPosition (name : Str) (position : Nat)

/-! ### The syntax -/

def isNameChar (char : Char) : Bool := char.isAlphanum || char == '-' || char == '.' || char == '_'

def readAttribute (name : Str) (text : Str) : Option (List Step × Str) :=
  match text.dropWhile isNameChar with
  | '=' :: rest =>
      match XMLText.readAttValue rest with
      | some (value, ']' :: rest) => some ([.byAttribute name (text.takeWhile isNameChar) value], rest)
      | _ => none
  | _ => none

def readPosition (name : Str) (text : Str) : Option (List Step × Str) :=
  match text.dropWhile Char.isDigit with
  | ']' :: rest => some ([.byPosition name (Nat.ofDigitChars 10 (text.takeWhile Char.isDigit) 0)], rest)
  | _ => none

def readStep : Str → Option (List Step × Str)
  | '/' :: text =>
      match text.dropWhile isNameChar with
      | '[' :: '@' :: rest => readAttribute (text.takeWhile isNameChar) rest
      | '[' :: rest => readPosition (text.takeWhile isNameChar) rest
      | _ => none
  | _ => none

/-- The steps below the root. -/
def readSelector (text : Str) : Option (List Step) :=
  let root := "/resource-lists".toList
  if root.isPrefixOf text then UnicodeCodecs.decodeAll readStep (text.drop root.length) else none

/-! ### The selection -/

/-- The characters that `urllib.quote` leaves alone. -/
def isSafe (char : Char) : Bool :=
  char.isAlphanum || char == '_' || char == '.' || char == '-' || char == '/'

/-- `'%%%02X' % byte` -/
def escapeByte (byte : Nat) : Str :=
  ['%', (Nat.digitChar (byte / 16)).toUpper, (Nat.digitChar (byte % 16)).toUpper]

/-- `AnyURI.__xmlbuild__` -/
def xmlbuild (uri : Str) : Str :=
  uri.flatMap fun char => if isSafe char then [char] else (UnicodeCodecs.utf8Bytes char.toNat).flatMap escapeByte

namespace Item

def uri? : Item → Option Str
  | entry uri _ => some uri
  | entryRef ref => some ref
  | external anchor => some anchor
  | _ => none

/-- The value of an attribute in the serialised element. -/
def xmlAttribute : Item → Str → Option Str
  | entry uri _, xmlname => if xmlname = "uri".toList then some (xmlbuild uri) else none
  | entryRef ref, xmlname => if xmlname = "ref".toList then some (xmlbuild ref) else none
  | external anchor, xmlname => if xmlname = "anchor".toList then some (xmlbuild anchor) else none
  | list name _, xmlname => if xmlname = "name".toList then name else none
  | extension id .., xmlname => if xmlname = "id".toList then some id else none

end Item

/-- The indexes of the children that a step selects. -/
def Step.select (items : List Item) : Step → List Nat
  | .byAttribute name xmlname value =>
      (items.zipIdx.filter fun child => child.1.tag = name ∧ child.1.xmlAttribute xmlname = some value).map Prod.snd
  | .byPosition name position =>
      ((items.zipIdx.filter fun child => child.1.tag = name)[position - 1]?.map Prod.snd).toList

/-- The places below an element that the steps select. -/
def select (item : Item) : List Step → List Place
  | [] => [[]]
  | step :: steps =>
      (step.select item.items).flatMap fun i =>
        (item.items[i]?).elim [] fun child => (select child steps).map (i :: ·)

def selected (doc : ResourceLists) (text : Str) : Option (List Place) := (readSelector text).map (select doc.root)

/-! ### Serialised URIs -/

theorem xmlbuild_of_safe {uri : Str} (h : ∀ char ∈ uri, isSafe char = true) : xmlbuild uri = uri := by
  induction uri with
  | nil => rfl
  | cons char uri ih =>
      rw [xmlbuild, List.flatMap_cons, if_pos (h char List.mem_cons_self)]
      exact congrArg (char :: ·) (ih fun other hother => h other (List.mem_cons_of_mem _ hother))

theorem utf8Bytes_ne_nil (code : Nat) : UnicodeCodecs.utf8Bytes code ≠ [] := by
  rw [UnicodeCodecs.utf8Bytes]
  split_ifs <;> simp

/-- What is written without an escape is the URI itself. -/
theorem eq_of_xmlbuild {uri value : Str} (h : xmlbuild uri = value) (hvalue : ∀ char ∈ value, isSafe char = true) :
    uri = value := by
  refine (xmlbuild_of_safe fun char hchar => ?_).symm.trans h
  by_contra hunsafe
  obtain ⟨byte, hbyte⟩ := List.exists_mem_of_ne_nil _ (utf8Bytes_ne_nil char.toNat)
  have hpercent : '%' ∈ value := by
    rw [← h, xmlbuild]
    refine List.mem_flatMap.mpr ⟨char, hchar, ?_⟩
    rw [if_neg hunsafe]
    exact List.mem_flatMap.mpr ⟨byte, hbyte, List.mem_cons_self⟩
  exact absurd (hvalue '%' hpercent) (by decide)

/-! ### Steps are read back -/

/-- The text of a step. -/
def Step.text : Step → Str
  | .byAttribute name xmlname value => '/' :: (name ++ '[' :: '@' :: (xmlname ++ '=' :: (XMLText.quoteattr value ++ [']'])))
  | .byPosition name position => '/' :: (name ++ '[' :: (Nat.toDigits 10 position ++ [']']))

/-- The names of a step are names. -/
def Step.Named : Step → Prop
  | .byAttribute name xmlname _ => name.all isNameChar = true ∧ xmlname.all isNameChar = true
  | .byPosition name _ => name.all isNameChar = true

theorem takeWhile_append_stop {p : Char → Bool} {text rest : Str} {stop : Char} (h : text.all p = true)
    (hstop : p stop = false) : (text ++ stop :: rest).takeWhile p = text := by
  rw [List.takeWhile_append_of_pos (List.all_eq_true.mp h), List.takeWhile_cons_of_neg (by simp [hstop]), List.append_nil]

theorem dropWhile_append_stop {p : Char → Bool} {text rest : Str} {stop : Char} (h : text.all p = true)
    (hstop : p stop = false) : (text ++ stop :: rest).dropWhile p = stop :: rest := by
  rw [List.dropWhile_append_of_pos (List.all_eq_true.mp h), List.dropWhile_cons_of_neg (by simp [hstop])]

theorem all_isDigit_toDigits (n : Nat) : (Nat.toDigits 10 n).all Char.isDigit = true :=
  List.all_eq_true.mpr fun _ hchar => Nat.isDigit_of_mem_toDigits (by decide) (by decide) hchar

theorem readStep_text {step : Step} (h : step.Named) (rest : Str) : readStep (step.text ++ rest) = some ([step], rest) := by
  cases step with
  | byAttribute name xmlname value =>
      obtain ⟨hname, hxmlname⟩ := h
      have htext : (Step.byAttribute name xmlname value).text ++ rest =
          '/' :: (name ++ '[' :: '@' :: (xmlname ++ '=' :: (XMLText.quoteattr value ++ ']' :: rest))) := by
        simp [Step.text]
      rw [htext, readStep, dropWhile_append_stop hname (by decide), takeWhile_append_stop hname (by decide)]
      simp only
      rw [readAttribute, dropWhile_append_stop hxmlname (by decide), takeWhile_append_stop hxmlname (by decide)]
      simp only
      rw [XMLText.readAttValue_quoteattr]
      rfl
  | byPosition name position =>
      have hdigits := all_isDigit_toDigits position
      have htext : (Step.byPosition name position).text ++ rest =
          '/' :: (name ++ '[' :: (Nat.toDigits 10 position ++ ']' :: rest)) := by
        simp [Step.text]
      rw [htext, readStep, dropWhile_append_stop h (by decide), takeWhile_append_stop h (by decide)]
      obtain ⟨digit, digits, heq⟩ := List.exists_cons_of_ne_nil (Nat.toDigits_ne_nil : Nat.toDigits 10 position ≠ [])
      have hdigit : digit ≠ '@' := fun hat => by
        have := List.all_eq_true.mp hdigits digit (by rw [heq]; exact List.mem_cons_self)
        rw [hat] at this
        exact absurd this (by decide)
      have hread : readPosition name (Nat.toDigits 10 position ++ ']' :: rest) = some ([.byPosition name position], rest) := by
        rw [readPosition, dropWhile_append_stop hdigits (by decide), takeWhile_append_stop hdigits (by decide),
          Nat.ofDigitChars_ten_toDigits]
        rfl
      rw [← hread, heq]
      simp [hdigit]

theorem readSelector_text {steps : List Step} (h : ∀ step ∈ steps, step.Named) :
    readSelector ("/resource-lists".toList ++ steps.flatMap Step.text) = some steps := by
  have hway : "/resource-lists".toList.isPrefixOf ("/resource-lists".toList ++ steps.flatMap Step.text) = true :=
    List.isPrefixOf_iff_prefix.mpr (List.prefix_append _ _)
  rw [readSelector, if_pos hway, List.drop_left]
  exact UnicodeCodecs.decodeAll_singletons (fun step _ => by cases step <;> simp [Step.text])
    fun step hstep rest => readStep_text (h step hstep) rest

end SipSimple.Payloads.ResourcePaths
