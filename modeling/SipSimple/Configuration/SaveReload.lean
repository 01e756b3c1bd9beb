import SipSimple.Configuration.Settings
import SipSimple.Library.UnicodeCodecs

/-!
# Saving and constructing an object again

The explicit value of every setting, also of those in the items, is a function of the path of the setting.
An object that is constructed from what was stored has the values that the object had at its last save,
and no other items; an item of which no value is stored is not found again.
-/

namespace SipSimple.Configuration

open SortedDict (insert lookup)

variable {V : Type}

/-! ### Values by path -/

/-- What an object is now, and what it was at its last save. -/
inductive Moment
  | now
  | saved

/-- The explicit value that is stored of a setting. -/
def Setting.explicit (type : SettingType V) (moment : Moment) (setting : Setting V) :
    Option (Option (Value V)) :=
  if type.runtime then none
  else
    match moment with
    | .now => setting.value
    | .saved => setting.old

def Moment.ids : Moment → List Unicode → List Unicode → List Unicode
  | .now, present, _ => present
  | .saved, _, old => old

/-- What is observed of the member at a path of names and IDs. -/
def Member.look {α : Type} (moment : Moment) (observe : Member V → α) (absent : α) :
    Member V → List Unicode → α
  | member, [] => observe member
  | .group members, name :: path =>
      match lookup name members with
      | some member => member.look moment observe absent path
      | none => absent
  | .collection members _ items present old, name :: path =>
      match lookup name members with
      | some member => member.look moment observe absent path
      | none =>
          if name ∈ moment.ids present old then
            match lookup name items with
            | some member => member.look moment observe absent path
            | none => absent
          else absent
  | .setting _ _, _ :: _ => absent

def Member.explicit (moment : Moment) : Member V → Option (Option (Value V))
  | .setting type own => own.explicit type moment
  | _ => none

def Member.holds (moment : Moment) (id : Unicode) : Member V → Prop
  | .collection _ _ _ present old => id ∈ moment.ids present old
  | _ => False

/-- The explicit value of the setting at a path. -/
def Member.valueAt (moment : Moment) (member : Member V) (path : List Unicode) :
    Option (Option (Value V)) :=
  member.look moment (Member.explicit moment) none path

/-- There is an item of the ID in the collection at a path. -/
def Member.hasItem (moment : Moment) (id : Unicode) (member : Member V) (path : List Unicode) : Prop :=
  member.look moment (Member.holds moment id) False path

namespace Member

theorem valueAt_setting (moment : Moment) (type : SettingType V) (own : Setting V) :
    (setting type own).valueAt moment [] = own.explicit type moment := rfl

theorem valueAt_group (moment : Moment) (members : Members V) (name : Unicode)
    (path : List Unicode) : (group members).valueAt moment (name :: path) =
      match lookup name members with
      | some member => member.valueAt moment path
      | none => none := rfl

theorem valueAt_collection (moment : Moment) (members items : Members V) (item : Member V)
    (present old : List Unicode) (name : Unicode) (path : List Unicode) :
    (collection members item items present old).valueAt moment (name :: path) =
      match lookup name members with
      | some member => member.valueAt moment path
      | none =>
          if name ∈ moment.ids present old then
            match lookup name items with
            | some member => member.valueAt moment path
            | none => none
          else none := rfl

theorem hasItem_group (moment : Moment) (id : Unicode) (members : Members V) (name : Unicode)
    (path : List Unicode) : (group members).hasItem moment id (name :: path) =
      match lookup name members with
      | some member => member.hasItem moment id path
      | none => False := rfl

theorem hasItem_collection_nil (moment : Moment) (id : Unicode) (members items : Members V)
    (item : Member V) (present old : List Unicode) :
    (collection members item items present old).hasItem moment id [] =
      (id ∈ moment.ids present old) := rfl

theorem hasItem_collection (moment : Moment) (id : Unicode) (members items : Members V)
    (item : Member V) (present old : List Unicode) (name : Unicode) (path : List Unicode) :
    (collection members item items present old).hasItem moment id (name :: path) =
      match lookup name members with
      | some member => member.hasItem moment id path
      | none => name ∈ moment.ids present old ∧
          match lookup name items with
          | some member => member.hasItem moment id path
          | none => False := by
  rw [hasItem, look]
  cases lookup name members with
  | some member => rfl
  | none =>
      cases lookup name items <;> by_cases hin : name ∈ moment.ids present old <;>
        simp [hin, hasItem]

end Member

/-! ### The objects of a class -/

/-- A value that the setting can have and that it writes. -/
def SettingType.Fits (type : SettingType V) (value : Option (Option (Value V))) : Prop :=
  ∀ explicit, value = some explicit → explicit.elim type.nillable type.kind.isinstance = true ∧
    explicit.any Value.raises = false

structure Setting.Valid (type : SettingType V) (setting : Setting V) : Prop where
  value : type.Fits setting.value
  old : type.Fits setting.old
  dirty : setting.dirty = false → setting.value = setting.old

/-- The second is an object of the class whose new object is the first. -/
inductive Instance : Member V → Member V → Prop
  | setting {type : SettingType V} {own : Setting V} (hvalid : own.Valid type) :
      Instance (.setting type .new) (.setting type own)
  | group {cls members : Members V} (hnames : members.map Prod.fst = cls.map Prod.fst)
      (hdistinct : (cls.map Prod.fst).Nodup)
      (hmembers : ∀ name first member, lookup name cls = some first →
        lookup name members = some member → Instance first member) :
      Instance (.group cls) (.group members)
  | collection {cls members : Members V} {item : Member V} {items : Members V}
      {present old : List Unicode} (hnames : members.map Prod.fst = cls.map Prod.fst)
      (hdistinct : (cls.map Prod.fst).Nodup)
      (hmembers : ∀ name first member, lookup name cls = some first →
        lookup name members = some member → Instance first member)
      (hitem : Instance item item) (hids : (items.map Prod.fst).Nodup)
      (hitems : ∀ id member, lookup id items = some member → Instance item member)
      (hpresent : ∀ id ∈ present, id ∈ items.map Prod.fst)
      (hold : ∀ id ∈ old, id ∈ items.map Prod.fst)
      (hoverlap : ∀ id ∈ items.map Prod.fst, id ∉ cls.map Prod.fst) :
      Instance (.collection cls item [] [] []) (.collection members item items present old)

theorem instance_group_self {members : Members V} (hdistinct : (members.map Prod.fst).Nodup)
    (hmembers : ∀ member ∈ members, Instance member.2 member.2) :
    Instance (.group members) (.group members) := by
  refine .group rfl hdistinct fun name first member hfirst hmember => ?_
  obtain rfl : first = member := Option.some.inj (hfirst.symm.trans hmember)
  exact hmembers _ (SortedDict.mem_of_lookup hfirst)

theorem instance_collection_self {members : Members V} {item : Member V}
    (hdistinct : (members.map Prod.fst).Nodup)
    (hmembers : ∀ member ∈ members, Instance member.2 member.2) (hitem : Instance item item) :
    Instance (.collection members item [] [] []) (.collection members item [] [] []) := by
  refine .collection rfl hdistinct (fun name first member hfirst hmember => ?_) hitem List.nodup_nil
    nofun nofun nofun nofun
  obtain rfl : first = member := Option.some.inj (hfirst.symm.trans hmember)
  exact hmembers _ (SortedDict.mem_of_lookup hfirst)

/-! ### Settings -/

namespace Setting

theorem valid_new (type : SettingType V) : (Setting.new : Setting V).Valid type :=
  ⟨fun _ h => (nomatch h), fun _ h => (nomatch h), fun _ => rfl⟩

theorem Valid.reset {type : SettingType V} {setting : Setting V} (h : setting.Valid type) :
    setting.reset.Valid type := by
  rw [Setting.reset]
  split_ifs with hsome
  · refine ⟨fun _ h => (nomatch h), h.old, fun hclean => ?_⟩
    exact (Option.isSome_eq_false_iff.mp hclean |> Option.isNone_iff_eq_none.mp).symm
  · exact h

theorem Valid.set [DecidableEq V] {type : SettingType V} {setting : Setting V} (h : setting.Valid type)
    {value : Option (Value V)} (hvalue : value.any Value.raises = false) :
    (setting.set type value).Valid type := by
  rw [Setting.set]
  split_ifs with hfits hsame
  · exact h
  · refine ⟨fun explicit hexplicit => ?_, h.old, fun hclean => ?_⟩
    · rw [← Option.some.inj hexplicit]
      exact ⟨hfits, hvalue⟩
    · exact (not_not.mp (of_decide_eq_false hclean)).symm
  · exact h

theorem Valid.undo {type : SettingType V} {setting : Setting V} (h : setting.Valid type) :
    setting.undo.Valid type :=
  ⟨h.old, h.old, fun _ => rfl⟩

theorem Valid.sync {type : SettingType V} {setting : Setting V} (h : setting.Valid type) :
    setting.sync.Valid type :=
  ⟨h.value, h.value, fun _ => rfl⟩

@[simp] theorem old_reset (setting : Setting V) : setting.reset.old = setting.old := by
  rw [Setting.reset]
  split_ifs <;> rfl

@[simp] theorem old_set [DecidableEq V] (type : SettingType V) (value : Option (Value V)) (setting : Setting V) :
    (setting.set type value).old = setting.old := by
  rw [Setting.set]
  split_ifs <;> rfl

end Setting

/-! ### Types -/

theorem intDigits_toDigits (value : Nat) : intDigits (Nat.toDigits 10 value) = some value := by
  have hne : Nat.toDigits 10 value ≠ [] := Nat.toDigits_ne_nil
  have hdigits : (Nat.toDigits 10 value).all Char.isDigit = true :=
    List.all_eq_true.mpr fun char hchar => Nat.isDigit_of_mem_toDigits (by decide) (by decide) hchar
  rw [intDigits, if_pos ⟨hne, hdigits⟩, Nat.ofDigitChars_ten_toDigits]

theorem isspace_of_isDigit {char : Char} (h : char.isDigit = true) : isspace char = false := by
  have hcode : 48 ≤ char.toNat ∧ char.toNat ≤ 57 := by
    simpa [Char.isDigit, UInt32.le_iff_toNat_le, ← Char.toNat_val] using h
  simp only [isspace]
  simp
  omega

/-- Digits are not stripped. -/
theorem strip_digits {digits : Unicode} (h : ∀ char ∈ digits, isspace char = false) :
    (digits.dropWhile isspace).rdropWhile isspace = digits := by
  have hleft : digits.dropWhile isspace = digits := by
    rw [List.dropWhile_eq_self_iff]
    exact fun hlength => by simp [h _ (List.getElem_mem _)]
  rw [hleft, List.rdropWhile_eq_self_iff]
  exact fun hne => by simp [h _ (List.getLast_mem hne)]

theorem intUnicode_unicodeInt (value : Int) : intUnicode (unicodeInt value) = some value := by
  have hdigit : ∀ char ∈ Nat.toDigits 10 value.natAbs, char.isDigit = true := fun char hchar =>
    Nat.isDigit_of_mem_toDigits (by decide) (by decide) hchar
  rw [unicodeInt]
  split_ifs with hnegative
  · rw [intUnicode, strip_digits]
    · show (intDigits (Nat.toDigits 10 value.natAbs)).map Int.negOfNat = some value
      rw [intDigits_toDigits, Option.map_some, Option.some.injEq, Int.negOfNat_eq, Int.ofNat_eq_natCast]
      omega
    · intro char hchar
      rcases List.mem_cons.mp hchar with rfl | hchar
      · decide
      · exact isspace_of_isDigit (hdigit char hchar)
  · rw [intUnicode, strip_digits fun char hchar => isspace_of_isDigit (hdigit char hchar)]
    split
    next digits heq =>
      have hminus := hdigit '-' (heq ▸ List.mem_cons_self)
      simp [Char.isDigit] at hminus
    next digits heq =>
      have hplus := hdigit '+' (heq ▸ List.mem_cons_self)
      simp [Char.isDigit] at hplus
    next =>
      simp only [intDigits_toDigits, Option.map_some, Option.some.injEq, Int.ofNat_eq_natCast]
      omega

theorem strUnicode_unicodeStr {value : List UInt8} (h : isAscii value = true) :
    strUnicode (unicodeStr value) = some value := by
  have hcode : ∀ byte ∈ value, (Char.ofNat byte.toNat).toNat = byte.toNat ∧ byte.toNat < 128 := by
    intro byte hbyte
    have hascii : byte.toNat < 128 := by
      simpa [UInt8.lt_iff_toNat_lt] using List.all_eq_true.mp h byte hbyte
    exact ⟨UnicodeCodecs.toNat_ofNat_byte byte.toNat_lt, hascii⟩
  have hall : (unicodeStr value).all (fun char => char.toNat < 128) = true := by
    simp only [unicodeStr, List.all_map, List.all_eq_true, Function.comp_apply, decide_eq_true_eq]
    intro byte hbyte
    rw [(hcode byte hbyte).1]
    exact (hcode byte hbyte).2
  rw [strUnicode, if_pos hall, unicodeStr, List.map_map, Option.some.injEq]
  refine (List.map_congr_left fun byte hbyte => ?_).trans (List.map_id value)
  rw [Function.comp_apply, (hcode byte hbyte).1, UInt8.ofNat_toNat, id]

theorem isAscii_strUnicode {value : Unicode} {bytes : List UInt8}
    (h : strUnicode value = some bytes) : isAscii bytes = true := by
  rw [strUnicode] at h
  split_ifs at h with hascii
  obtain rfl := Option.some.inj h
  simp only [isAscii, List.all_map, List.all_eq_true, Function.comp_apply, decide_eq_true_eq,
    UInt8.lt_iff_toNat_lt] at hascii ⊢
  intro char hchar
  have hcode := hascii char hchar
  rw [UInt8.toNat_ofNat_of_lt' (hcode.trans (by decide))]
  exact hcode

/-- A type reads what it writes. -/
theorem Kind.roundtrip {kind : Kind V} {value : Value V} (h : kind.isinstance value = true)
    (hraises : value.raises = false) :
    kind.getstate value ≠ .none ∧ kind.setstate (kind.getstate value) = some value := by
  cases kind with
  | bool =>
      cases value with
      | bool value => cases value <;> exact ⟨fun h => (nomatch h), rfl⟩
      | int value | str value | text value | other value => cases h
  | int =>
      cases value with
      | int value => exact ⟨fun h => (nomatch h), congrArg (Option.map _) (intUnicode_unicodeInt value)⟩
      | bool value | str value | text value | other value => cases h
  | str =>
      cases value with
      | str value =>
          rw [Value.raises, Bool.not_eq_false'] at hraises
          exact ⟨fun h => (nomatch h), congrArg (Option.map _) (strUnicode_unicodeStr hraises)⟩
      | bool value | int value | text value | other value => cases h
  | unicode =>
      cases value with
      | text value => exact ⟨fun h => (nomatch h), rfl⟩
      | bool value | int value | str value | other value => cases h
  | other type =>
      cases value with
      | other value =>
          obtain ⟨hplain, hread⟩ := type.roundtrip value h
          exact ⟨hplain, congrArg (Option.map _) hread⟩
      | bool value | int value | str value | text value => cases h

theorem Kind.made {kind : Kind V} {plain : Plain} {value : Value V}
    (h : kind.setstate plain = some value) :
    kind.isinstance value = true ∧ value.raises = false := by
  cases kind with
  | bool =>
      cases plain with
      | unicode text =>
          rw [Kind.setstate] at h
          split_ifs at h <;> exact Option.some.inj h ▸ ⟨rfl, rfl⟩
      | none | list items => cases h
  | int =>
      cases plain with
      | unicode text =>
          obtain ⟨number, _, rfl⟩ := Option.map_eq_some_iff.mp h
          exact ⟨rfl, rfl⟩
      | none | list items => cases h
  | str =>
      cases plain with
      | unicode text =>
          obtain ⟨bytes, hbytes, rfl⟩ := Option.map_eq_some_iff.mp h
          exact ⟨rfl, by rw [Value.raises, isAscii_strUnicode hbytes, Bool.not_true]⟩
      | none | list items => cases h
  | unicode =>
      cases plain with
      | unicode text => exact Option.some.inj h ▸ ⟨rfl, rfl⟩
      | none | list items => cases h
  | other type =>
      obtain ⟨made, hmade, rfl⟩ := Option.map_eq_some_iff.mp h
      exact ⟨type.made plain made hmade, rfl⟩

theorem SettingType.fits_read {type : SettingType V} {data : Data} {value : Option (Value V)}
    (h : type.read data = some value) : type.Fits (some value) := by
  intro explicit hexplicit
  obtain rfl : value = explicit := Option.some.inj hexplicit
  have hmap : ∀ plain, (type.kind.setstate plain).map some = some value →
      value.elim type.nillable type.kind.isinstance = true ∧ value.any Value.raises = false := by
    intro plain hplain
    obtain ⟨made, hmade, rfl⟩ := Option.map_eq_some_iff.mp hplain
    exact Kind.made hmade
  cases data with
  | none =>
      rw [SettingType.read] at h
      split_ifs at h with hruntime
      obtain rfl : none = value := Option.some.inj h
      simp only [Bool.or_eq_true, Bool.not_eq_true', not_or, Bool.not_eq_false] at hruntime
      exact ⟨hruntime.2, rfl⟩
  | unicode text =>
      rw [SettingType.read] at h
      split_ifs at h
      exact hmap _ h
  | list items =>
      rw [SettingType.read] at h
      split_ifs at h
      exact hmap _ h
  | dict items => cases h

/-- What was stored of a setting is read again. -/
theorem SettingType.read_getstate {type : SettingType V} {own : Setting V} (h : own.Valid type)
    (old : Option Data) :
    (mergeAt old (own.getstate type)).bind type.read =
      own.explicit type .now := by
  rw [Setting.getstate, Setting.explicit]
  cases hruntime : type.runtime with
  | true => rfl
  | false =>
      simp only [Bool.false_eq_true, if_false]
      cases hvalue : own.value with
      | none => rfl
      | some explicit =>
          have hfits := h.value explicit hvalue
          cases explicit with
          | none =>
              have hnillable : type.nillable = true := hfits.1
              simp [mergeAt, Plain.data, SettingType.read, hruntime, hnillable]
          | some value =>
              have hinstance : type.kind.isinstance value = true := hfits.1
              obtain ⟨hplain, hread⟩ := Kind.roundtrip hinstance hfits.2
              dsimp only
              rw [mergeAt, Option.bind_some]
              cases hstate : type.kind.getstate value with
              | none => exact absurd hstate hplain
              | unicode text =>
                  rw [hstate] at hread
                  simp [Plain.data, SettingType.read, hruntime, hread]
              | list items =>
                  rw [hstate] at hread
                  simp [Plain.data, SettingType.read, hruntime, hread]

/-! ### Members by name -/

theorem membersGetstate_eq (members : Members V) :
    membersGetstate members = members.map fun member => (member.1, member.2.getstate) := by
  induction members with
  | nil => rfl
  | cons member members ih => rw [membersGetstate, ih, memberGetstate, List.map_cons]

theorem membersSetstate_eq (items : Items) (members : Members V) :
    membersSetstate items members =
      members.map fun member =>
        (member.1, (lookup member.1 items).elim member.2 fun data => member.2.setstate data) := by
  induction members with
  | nil => rfl
  | cons member members ih =>
      rw [membersSetstate, ih, memberSetstate, List.map_cons]
      cases lookup member.1 items <;> rfl

theorem membersSync_eq (members : Members V) :
    membersSync members = members.map fun member => (member.1, member.2.sync) := by
  induction members with
  | nil => rfl
  | cons member members ih => rw [membersSync, ih, memberSync, List.map_cons]

theorem lookup_membersGetstate (name : Unicode) (members : Members V) :
    lookup name (membersGetstate members) = (lookup name members).map Member.getstate := by
  rw [membersGetstate_eq]
  exact SortedDict.lookup_map (fun _ member => member.getstate) name members

/-- `__setstate__`, if something is stored. -/
def Member.load (member : Member V) (data : Option Data) : Member V :=
  data.elim member fun data => member.setstate data

theorem lookup_membersSetstate (name : Unicode) (items : Items) (members : Members V) :
    lookup name (membersSetstate items members) =
      (lookup name members).map fun member => member.load (lookup name items) := by
  rw [membersSetstate_eq]
  exact SortedDict.lookup_map (fun name member => member.load (lookup name items)) name members

theorem lookup_membersSync (name : Unicode) (members : Members V) :
    lookup name (membersSync members) = (lookup name members).map Member.sync := by
  rw [membersSync_eq]
  exact SortedDict.lookup_map (fun _ member => member.sync) name members

theorem lookup_modifyMember (name other : Unicode) (f : Member V → Member V) (members : Members V) :
    lookup name (modifyMember other f members) =
      if name = other then (lookup name members).map f else lookup name members := by
  have hmodify : modifyMember other f members =
      members.map fun member => (member.1, if member.1 = other then f member.2 else member.2) := by
    refine List.map_congr_left fun member _ => ?_
    split_ifs <;> rfl
  have hlookup := SortedDict.lookup_map
    (fun key member => if key = other then f member else member) name members
  rw [hmodify]
  refine hlookup.trans ?_
  split_ifs with hname
  · simp [hname]
  · simp

theorem map_fst_modifyMember (other : Unicode) (f : Member V → Member V) (members : Members V) :
    (modifyMember other f members).map Prod.fst = members.map Prod.fst := by
  rw [modifyMember, List.map_map]
  refine List.map_congr_left fun member _ => ?_
  simp only [Function.comp_apply]
  split_ifs <;> rfl

/-- The class has a member of the name if the object has one. -/
theorem lookup_isSome_congr {cls members : Members V}
    (hnames : members.map Prod.fst = cls.map Prod.fst) {name : Unicode} {member : Member V}
    (hmember : lookup name members = some member) : ∃ first, lookup name cls = some first := by
  rw [← Option.isSome_iff_exists, SortedDict.isSome_lookup, ← hnames, ← SortedDict.isSome_lookup,
    hmember]
  rfl

/-! ### Modifications -/

theorem membersModified_eq (members : Members V) :
    membersModified members = members.any fun member => member.2.isModified := by
  induction members with
  | nil => rfl
  | cons member members ih => rw [membersModified, ih, memberModified, List.any_cons]

theorem membersStoresModified_eq (members : Members V) :
    membersStoresModified members = members.any fun member => member.2.storesModified := by
  induction members with
  | nil => rfl
  | cons member members ih => rw [membersStoresModified, ih, memberStoresModified, List.any_cons]

theorem itemsModified_eq (kept : Unicode → Bool) (items : Members V) :
    itemsModified kept items = items.any fun item => kept item.1 && item.2.isModified := by
  induction items with
  | nil => rfl
  | cons item items ih => rw [itemsModified, ih, memberModified, List.any_cons]

theorem any_of_lookup {p : Unicode × Member V → Bool} {members : Members V} {name : Unicode}
    {member : Member V} (h : members.any p = false) (hmember : lookup name members = some member) :
    p (name, member) = false := by
  rw [List.any_eq_false] at h
  simpa using h _ (SortedDict.mem_of_lookup hmember)

/-- **An object that has nothing to store is what it was at its last save.** -/
theorem look_of_not_modified {α : Type} {saved now : Member V → α} (absent : α)
    (hobserve : ∀ {first member : Member V}, Instance first member →
      member.isModified = false ∨ member.storesModified = false → saved member = now member)
    {first member : Member V} (h : Instance first member)
    (hmodified : member.isModified = false ∨ member.storesModified = false) (path : List Unicode) :
    member.look .saved saved absent path = member.look .now now absent path := by
  induction h generalizing path with
  | @setting type own hvalid =>
      cases path with
      | cons name path => rfl
      | nil => exact hobserve (.setting hvalid) hmodified
  | @group cls members hnames hdistinct hmembers ih =>
      cases path with
      | nil => exact hobserve (.group hnames hdistinct hmembers) hmodified
      | cons name path =>
          rw [Member.isModified, membersModified_eq, Member.storesModified,
            membersStoresModified_eq] at hmodified
          rw [Member.look, Member.look]
          cases hmember : lookup name members with
          | none => rfl
          | some member =>
              obtain ⟨first, hfirst⟩ := lookup_isSome_congr hnames hmember
              exact ih name first member hfirst hmember
                (hmodified.imp (any_of_lookup · hmember) (any_of_lookup · hmember)) path
  | @collection cls members item items present old hnames hdistinct hmembers hitem hids hitems
      hpresent hold hoverlap ih _ ihItems =>
      cases path with
      | nil =>
          exact hobserve (.collection hnames hdistinct hmembers hitem hids hitems hpresent hold
            hoverlap) hmodified
      | cons name path =>
          have hclean : (membersModified members = false ∨ membersStoresModified members = false) ∧
              (∀ id ∈ present, id ∈ old) ∧ (∀ id ∈ old, id ∈ present) ∧
                itemsModified (fun id => id ∈ present && id ∈ old) items = false := by
            rw [Member.isModified, Member.storesModified] at hmodified
            simp only [Bool.or_eq_false_iff, List.any_eq_false, decide_eq_true_eq,
              not_not] at hmodified
            tauto
          obtain ⟨hmembersClean, hadded, hremoved, hitemsClean⟩ := hclean
          rw [Member.look, Member.look]
          cases hmember : lookup name members with
          | some member =>
              obtain ⟨first, hfirst⟩ := lookup_isSome_congr hnames hmember
              rw [membersModified_eq, membersStoresModified_eq] at hmembersClean
              exact ih name first member hfirst hmember
                (hmembersClean.imp (any_of_lookup · hmember) (any_of_lookup · hmember)) path
          | none =>
              have hids : name ∈ Moment.saved.ids present old ↔ name ∈ Moment.now.ids present old :=
                ⟨hremoved name, hadded name⟩
              simp only [hids]
              split_ifs with hin
              · cases hfound : lookup name items with
                | none => rfl
                | some found =>
                    rw [itemsModified_eq] at hitemsClean
                    have hfoundClean := any_of_lookup hitemsClean hfound
                    have hkept : name ∈ present ∧ name ∈ old := ⟨hin, hadded name hin⟩
                    simp only [hkept.1, hkept.2, decide_true, Bool.and_self, Bool.true_and]
                      at hfoundClean
                    exact ihItems name found hfound (Or.inl hfoundClean) path
              · rfl

theorem valueAt_of_not_modified {first member : Member V} (h : Instance first member)
    (hmodified : member.isModified = false ∨ member.storesModified = false) (path : List Unicode) :
    member.valueAt .saved path = member.valueAt .now path := by
  refine look_of_not_modified none (fun h hmodified => ?_) h hmodified path
  cases h with
  | @setting type own hvalid =>
      rw [Member.isModified, Member.storesModified] at hmodified
      rw [Member.explicit, Member.explicit, Setting.explicit, Setting.explicit]
      cases hruntime : type.runtime with
      | true => rfl
      | false =>
          have hclean : own.dirty = false := by simpa [hruntime] using hmodified
          simp only [Bool.false_eq_true, if_false, hvalid.dirty hclean]
  | group _ _ _ | collection _ _ _ _ _ _ _ _ _ => rfl

theorem hasItem_of_not_modified {first member : Member V} (h : Instance first member)
    (hmodified : member.isModified = false ∨ member.storesModified = false) (id : Unicode)
    (path : List Unicode) : member.hasItem .saved id path = member.hasItem .now id path := by
  refine look_of_not_modified False (fun h hmodified => ?_) h hmodified path
  cases h with
  | setting _ | group _ _ _ => rfl
  | collection _ _ _ _ _ _ _ _ _ =>
      rw [Member.isModified, Member.storesModified] at hmodified
      simp only [Bool.or_eq_false_iff, List.any_eq_false, decide_eq_true_eq, not_not] at hmodified
      rw [Member.holds, Member.holds, Moment.ids, Moment.ids, eq_iff_iff]
      exact ⟨fun h => by tauto, fun h => by tauto⟩

/-! ### `get_modified` leaves the values -/

theorem map_fst_membersSync (members : Members V) :
    (membersSync members).map Prod.fst = members.map Prod.fst := by
  rw [membersSync_eq, List.map_map]
  rfl

theorem lookup_sync_items (id : Unicode) (items : Members V) (present : List Unicode) :
    lookup id ((membersSync items).filter fun item => item.1 ∈ present) =
      if id ∈ present then (lookup id items).map Member.sync else none := by
  have hfilter := SortedDict.lookup_filter (fun key => decide (key ∈ present)) id (membersSync items)
  rw [hfilter, lookup_membersSync]
  by_cases hid : id ∈ present <;> simp [hid]

theorem Instance.sync {first member : Member V} (h : Instance first member) :
    Instance first member.sync := by
  induction h with
  | setting hvalid => exact .setting hvalid.sync
  | @group cls members hnames hdistinct hmembers ih =>
      refine .group ((map_fst_membersSync members).trans hnames) hdistinct
        fun name first member hfirst hmember => ?_
      rw [lookup_membersSync] at hmember
      obtain ⟨before, hbefore, rfl⟩ := Option.map_eq_some_iff.mp hmember
      exact ih name first before hfirst hbefore
  | @collection cls members item items present old hnames hdistinct hmembers hitem hids hitems
      hpresent hold hoverlap ih _ ihItems =>
      have hkept : ∀ id ∈ present,
          id ∈ ((membersSync items).filter fun item => item.1 ∈ present).map Prod.fst := by
        intro id hid
        rw [← SortedDict.isSome_lookup, lookup_sync_items, if_pos hid, Option.isSome_map,
          SortedDict.isSome_lookup]
        exact hpresent id hid
      have hsub : (((membersSync items).filter fun item => item.1 ∈ present).map Prod.fst).Sublist
          (items.map Prod.fst) := by
        rw [← map_fst_membersSync items]
        exact List.filter_sublist.map _
      refine .collection ((map_fst_membersSync members).trans hnames) hdistinct
        (fun name first member hfirst hmember => ?_) hitem (hids.sublist hsub)
        (fun id found hfound => ?_) hkept hkept (fun id hid => hoverlap id (hsub.subset hid))
      · rw [lookup_membersSync] at hmember
        obtain ⟨before, hbefore, rfl⟩ := Option.map_eq_some_iff.mp hmember
        exact ih name first before hfirst hbefore
      · rw [lookup_sync_items] at hfound
        split_ifs at hfound with hid
        obtain ⟨before, hbefore, rfl⟩ := Option.map_eq_some_iff.mp hfound
        exact ihItems id before hbefore

theorem look_sync {α : Type} {moment : Moment} {synced now : Member V → α} (absent : α)
    (hobserve : ∀ member : Member V, synced member.sync = now member) {first member : Member V}
    (h : Instance first member) (path : List Unicode) :
    member.sync.look moment synced absent path = member.look .now now absent path := by
  induction h generalizing path with
  | @setting type own hvalid =>
      cases path with
      | cons name path => rfl
      | nil => exact hobserve (.setting type own)
  | @group cls members hnames hdistinct hmembers ih =>
      cases path with
      | nil => exact hobserve (.group members)
      | cons name path =>
          rw [Member.sync, Member.look, Member.look, lookup_membersSync]
          cases hmember : lookup name members with
          | none => rfl
          | some member =>
              obtain ⟨first, hfirst⟩ := lookup_isSome_congr hnames hmember
              exact ih name first member hfirst hmember path
  | @collection cls members item items present old hnames hdistinct hmembers hitem hids hitems
      hpresent hold hoverlap ih _ ihItems =>
      cases path with
      | nil => exact hobserve (.collection members item items present old)
      | cons name path =>
          rw [Member.sync, Member.look, Member.look, lookup_membersSync]
          cases hmember : lookup name members with
          | some member =>
              obtain ⟨first, hfirst⟩ := lookup_isSome_congr hnames hmember
              exact ih name first member hfirst hmember path
          | none =>
              have hmoment : moment.ids present present = present := by cases moment <;> rfl
              have hnow : Moment.now.ids present old = present := rfl
              simp only [Option.map_none, hmoment, hnow, lookup_sync_items]
              by_cases hid : name ∈ present
              · simp only [hid, if_true]
                cases hfound : lookup name items with
                | none => rfl
                | some found => exact ihItems name found hfound path
              · simp only [hid, if_false]

theorem valueAt_sync {first member : Member V} (h : Instance first member) (moment : Moment)
    (path : List Unicode) : member.sync.valueAt moment path = member.valueAt .now path := by
  refine look_sync none (fun member => ?_) h path
  cases member with
  | setting type own => rw [Member.sync]; cases moment <;> rfl
  | group members | collection members item items present old => rw [Member.sync]; rfl

theorem hasItem_sync {first member : Member V} (h : Instance first member) (moment : Moment)
    (id : Unicode) (path : List Unicode) :
    member.sync.hasItem moment id path = member.hasItem .now id path := by
  refine look_sync False (fun member => ?_) h path
  cases member with
  | setting type own | group members => rw [Member.sync]; rfl
  | collection members item items present old => rw [Member.sync]; cases moment <;> rfl

/-! ### Loading -/

theorem map_fst_membersSetstate (items : Items) (members : Members V) :
    (membersSetstate items members).map Prod.fst = members.map Prod.fst := by
  rw [membersSetstate_eq, List.map_map]
  rfl

/-- The stored items of a collection are what is not one of its members. -/
def itemsOf (members : Members V) (data : Option Data) : Items :=
  (childrenOf data).filter fun item => item.1 ∉ members.map Prod.fst

theorem lookup_itemsOf (id : Unicode) (members : Members V) (data : Option Data) :
    lookup id (itemsOf members data) =
      if id ∈ members.map Prod.fst then none else lookup id (childrenOf data) := by
  have hfilter := SortedDict.lookup_filter (fun key => decide (key ∉ members.map Prod.fst)) id
    (childrenOf data)
  rw [itemsOf, hfilter]
  by_cases hid : id ∈ members.map Prod.fst <;> simp [hid]

theorem load_setting (type : SettingType V) (own : Setting V) (data : Option Data) :
    (Member.setting type own).load data =
      .setting type ((data.bind type.read).elim own fun value => ⟨some value, some value, false⟩) := by
  cases data with
  | none => rfl
  | some data =>
      rw [Member.load, Option.elim_some, Member.setstate, Setting.setstate, Option.bind_some]
      cases type.read data <;> rfl

theorem membersSetstate_nil (members : Members V) : membersSetstate [] members = members := by
  rw [membersSetstate_eq]
  exact List.map_id' members

theorem load_group (members : Members V) (data : Option Data) :
    (Member.group members).load data = .group (membersSetstate (childrenOf data) members) := by
  cases data with
  | none => exact congrArg Member.group (membersSetstate_nil members).symm
  | some data => rfl

theorem load_collection (members : Members V) (item : Member V) (data : Option Data) :
    (Member.collection members item [] [] []).load data =
      .collection (membersSetstate (childrenOf data) members) item
        ((itemsOf members data).map fun other => (other.1, item.setstate other.2))
        ((itemsOf members data).map Prod.fst) ((itemsOf members data).map Prod.fst) := by
  cases data with
  | none =>
      have hmembers : Member.collection members item [] [] [] =
          .collection (membersSetstate [] members) item [] [] [] := by rw [membersSetstate_nil]
      exact hmembers
  | some data => rfl

theorem setting_valid_load {type : SettingType V} (data : Option Data) :
    ((data.bind type.read).elim Setting.new fun value => ⟨some value, some value, false⟩).Valid
      type := by
  cases hread : data.bind type.read with
  | none => exact Setting.valid_new type
  | some value =>
      obtain ⟨stored, _, hstored⟩ := Option.bind_eq_some_iff.mp hread
      have hfits := SettingType.fits_read hstored
      exact ⟨hfits, hfits, fun _ => rfl⟩

/-- What is constructed is an object of the class. -/
theorem Instance.load {first member : Member V} (h : Instance first member) {data : Option Data}
    (hordered : Ordered data) : Instance first (first.load data) := by
  induction h generalizing data with
  | setting hvalid =>
      rw [load_setting]
      exact .setting (setting_valid_load data)
  | @group cls members hnames hdistinct hmembers ih =>
      rw [load_group]
      refine .group (map_fst_membersSetstate _ _) hdistinct fun name first after hfirst hafter => ?_
      rw [lookup_membersSetstate, hfirst] at hafter
      obtain ⟨member, hmember⟩ := lookup_isSome_congr hnames.symm hfirst
      exact Option.some.inj hafter ▸ ih name first member hfirst hmember (hordered.lookup name)
  | @collection cls members item items present old hnames hdistinct hmembers hitem hids hitems
      hpresent hold hoverlap ih ihItem _ =>
      have hkeys : ((itemsOf cls data).map fun other => (other.1, item.setstate other.2)).map
          Prod.fst = (itemsOf cls data).map Prod.fst := by rw [List.map_map]; rfl
      rw [load_collection]
      refine .collection (map_fst_membersSetstate _ _) hdistinct
        (fun name first after hfirst hafter => ?_) hitem ?_ (fun id found hfound => ?_) ?_ ?_ ?_
      · rw [lookup_membersSetstate, hfirst] at hafter
        obtain ⟨member, hmember⟩ := lookup_isSome_congr hnames.symm hfirst
        exact Option.some.inj hafter ▸ ih name first member hfirst hmember (hordered.lookup name)
      · rw [hkeys]
        exact (hordered.children.filter _).nodup
      · have hlookup := SortedDict.lookup_map (fun _ data => item.setstate data) id (itemsOf cls data)
        rw [hlookup, lookup_itemsOf] at hfound
        obtain ⟨stored, hstored, rfl⟩ := Option.map_eq_some_iff.mp hfound
        split_ifs at hstored
        have hbelow : Ordered (some stored) := hstored ▸ hordered.lookup id
        exact ihItem hbelow
      · exact fun id hid => hkeys ▸ hid
      · exact fun id hid => hkeys ▸ hid
      · intro id hid
        rw [hkeys, ← SortedDict.isSome_lookup, lookup_itemsOf] at hid
        split_ifs at hid with hmember
        · cases hid
        · exact hmember

/-- A new object has no values and no items. -/
theorem valueAt_class {first member : Member V} (h : Instance first member) (moment : Moment)
    (path : List Unicode) : first.valueAt moment path = none := by
  induction h generalizing path with
  | setting hvalid =>
      cases path with
      | nil =>
          rw [Member.valueAt_setting]
          cases moment <;> exact ite_self none
      | cons name path => rfl
  | @group cls members hnames hdistinct hmembers ih =>
      cases path with
      | nil => rfl
      | cons name path =>
          rw [Member.valueAt_group]
          cases hfirst : lookup name cls with
          | none => rfl
          | some first =>
              obtain ⟨member, hmember⟩ := lookup_isSome_congr hnames.symm hfirst
              exact ih name first member hfirst hmember path
  | @collection cls members item items present old hnames hdistinct hmembers hitem hids hitems
      hpresent hold hoverlap ih _ _ =>
      cases path with
      | nil => rfl
      | cons name path =>
          rw [Member.valueAt_collection]
          cases hfirst : lookup name cls with
          | none =>
              have hids : moment.ids [] [] = [] := by cases moment <;> rfl
              simp [hids]
          | some first =>
              obtain ⟨member, hmember⟩ := lookup_isSome_congr hnames.symm hfirst
              exact ih name first member hfirst hmember path

/-- The items and the values of a constructed object are those of its last save. -/
theorem look_load_saved {α : Type} {saved now : Member V → α} (absent : α)
    (hobserve : ∀ {first member : Member V}, Instance first member → ∀ data,
      saved (first.load data) = now (first.load data)) {first member : Member V}
    (h : Instance first member) (data : Option Data) (path : List Unicode) :
    (first.load data).look .saved saved absent path = (first.load data).look .now now absent path := by
  induction h generalizing data path with
  | @setting type own hvalid =>
      cases path with
      | cons name path =>
          rw [load_setting]
          rfl
      | nil =>
          rw [Member.look, Member.look]
          exact hobserve (.setting hvalid) data
  | @group cls members hnames hdistinct hmembers ih =>
      cases path with
      | nil =>
          rw [Member.look, Member.look]
          exact hobserve (.group hnames hdistinct hmembers) data
      | cons name path =>
          rw [load_group, Member.look, Member.look, lookup_membersSetstate]
          cases hfirst : lookup name cls with
          | none => rfl
          | some first =>
              obtain ⟨member, hmember⟩ := lookup_isSome_congr hnames.symm hfirst
              exact ih name first member hfirst hmember _ path
  | @collection cls members item items present old hnames hdistinct hmembers hitem hids hitems
      hpresent hold hoverlap ih ihItem _ =>
      cases path with
      | nil =>
          rw [Member.look, Member.look]
          exact hobserve (.collection hnames hdistinct hmembers hitem hids hitems hpresent hold
            hoverlap) data
      | cons name path =>
          rw [load_collection, Member.look, Member.look, lookup_membersSetstate]
          cases hfirst : lookup name cls with
          | some first =>
              obtain ⟨member, hmember⟩ := lookup_isSome_congr hnames.symm hfirst
              exact ih name first member hfirst hmember _ path
          | none =>
              have hlookup := SortedDict.lookup_map (fun _ data => item.setstate data) name
                (itemsOf cls data)
              have hsaved : ∀ ids, Moment.saved.ids ids ids = Moment.now.ids ids ids := fun _ => rfl
              simp only [Option.map_none, hlookup, hsaved]
              split_ifs with hin
              · cases hstored : lookup name (itemsOf cls data) with
                | none => rfl
                | some stored => exact ihItem (some stored) path
              · rfl

theorem valueAt_load_saved {first member : Member V} (h : Instance first member)
    (data : Option Data) (path : List Unicode) :
    (first.load data).valueAt .saved path = (first.load data).valueAt .now path := by
  refine look_load_saved none (fun h data => ?_) h data path
  cases h with
  | @setting type own hvalid =>
      rw [load_setting, Member.explicit, Member.explicit, Setting.explicit, Setting.explicit]
      cases data.bind type.read <;> rfl
  | group _ _ _ =>
      rw [load_group]
      rfl
  | collection _ _ _ _ _ _ _ _ _ =>
      rw [load_collection]
      rfl

theorem hasItem_load_saved {first member : Member V} (h : Instance first member)
    (data : Option Data) (id : Unicode) (path : List Unicode) :
    (first.load data).hasItem .saved id path = (first.load data).hasItem .now id path := by
  refine look_load_saved False (fun h data => ?_) h data path
  cases h with
  | setting _ =>
      rw [load_setting]
      rfl
  | group _ _ _ =>
      rw [load_group]
      rfl
  | collection _ _ _ _ _ _ _ _ _ =>
      rw [load_collection]
      rfl

/-! ### What is stored of an object -/

theorem stateItemsDistinct_iff {items : StateItems} :
    StateItemsDistinct items ↔ ∀ item ∈ items, item.2.Distinct := by
  induction items with
  | nil => simp [StateItemsDistinct]
  | cons item items ih =>
      obtain ⟨key, state⟩ := item
      rw [StateItemsDistinct, StateItemDistinct, ih, List.forall_mem_cons]

theorem map_fst_membersGetstate (members : Members V) :
    (membersGetstate members).map Prod.fst = members.map Prod.fst := by
  rw [membersGetstate_eq, List.map_map]
  rfl

theorem Setting.distinct_getstate (type : SettingType V) (own : Setting V) :
    (own.getstate type).Distinct := by
  rw [Setting.getstate]
  split_ifs
  · trivial
  · split <;> trivial

theorem Instance.distinct_getstate {first member : Member V} (h : Instance first member) :
    member.getstate.Distinct := by
  induction h with
  | setting hvalid => exact Setting.distinct_getstate _ _
  | @group cls members hnames hdistinct hmembers ih =>
      rw [Member.getstate, State.Distinct, map_fst_membersGetstate, stateItemsDistinct_iff]
      refine ⟨hnames ▸ hdistinct, fun item hitem => ?_⟩
      rw [membersGetstate_eq] at hitem
      obtain ⟨⟨name, member⟩, hmem, rfl⟩ := List.mem_map.mp hitem
      have hmember := SortedDict.lookup_of_mem (hnames ▸ hdistinct) hmem
      obtain ⟨first, hfirst⟩ := lookup_isSome_congr hnames hmember
      exact ih name first member hfirst hmember
  | @collection cls members item items present old hnames hdistinct hmembers hitem hids hitems
      hpresent hold hoverlap ih _ ihItems =>
      rw [Member.getstate, State.Distinct, stateItemsDistinct_iff, List.map_append]
      have hsub : (((membersGetstate items).filter fun item => item.1 ∈ present).map
          Prod.fst).Sublist (items.map Prod.fst) := by
        rw [← map_fst_membersGetstate items]
        exact List.filter_sublist.map _
      refine ⟨List.nodup_append.mpr ⟨hids.sublist hsub, ?_, fun id hid name hname heq => ?_⟩,
        fun entry hentry => ?_⟩
      · rw [map_fst_membersGetstate]
        exact hnames ▸ hdistinct
      · rw [map_fst_membersGetstate, hnames] at hname
        exact hoverlap id (hsub.subset hid) (heq ▸ hname)
      · rcases List.mem_append.mp hentry with hmem | hmem
        · have hmem' := List.mem_of_mem_filter hmem
          rw [membersGetstate_eq] at hmem'
          obtain ⟨⟨id, found⟩, hfound, rfl⟩ := List.mem_map.mp hmem'
          exact ihItems id found (SortedDict.lookup_of_mem hids hfound)
        · rw [membersGetstate_eq] at hmem
          obtain ⟨⟨name, member⟩, hmember', rfl⟩ := List.mem_map.mp hmem
          have hmember := SortedDict.lookup_of_mem (hnames ▸ hdistinct) hmember'
          obtain ⟨first, hfirst⟩ := lookup_isSome_congr hnames hmember
          exact ih name first member hfirst hmember

theorem membersRaise_eq (members : Members V) :
    membersRaise members = members.any fun member => member.2.raises := by
  induction members with
  | nil => rfl
  | cons member members ih => rw [membersRaise, ih, memberRaises, List.any_cons]

theorem itemsRaise_eq (kept : Unicode → Bool) (items : Members V) :
    itemsRaise kept items = items.any fun item => kept item.1 && item.2.raises := by
  induction items with
  | nil => rfl
  | cons item items ih => rw [itemsRaise, ih, memberRaises, List.any_cons]

/-- What an object of the class has is written. -/
theorem Instance.raises {first member : Member V} (h : Instance first member) :
    member.raises = false := by
  have hstatic : ∀ {cls members : Members V}, members.map Prod.fst = cls.map Prod.fst →
      (cls.map Prod.fst).Nodup →
      (∀ name first member, lookup name cls = some first → lookup name members = some member →
        member.raises = false) → membersRaise members = false := by
    intro cls members hnames hdistinct ih
    rw [membersRaise_eq, List.any_eq_false]
    intro member hmem hraises
    have hmember := SortedDict.lookup_of_mem (hnames ▸ hdistinct) hmem
    obtain ⟨first, hfirst⟩ := lookup_isSome_congr hnames hmember
    exact Bool.false_ne_true ((ih member.1 first member.2 hfirst hmember).symm.trans hraises)
  induction h with
  | @setting type own hvalid =>
      rw [Member.raises, Setting.raises]
      cases hvalue : own.value with
      | none => rw [Option.any_none, Bool.and_false]
      | some value => rw [Option.any_some, (hvalid.value value hvalue).2, Bool.and_false]
  | group hnames hdistinct hmembers ih => exact hstatic hnames hdistinct ih
  | @collection cls members item items present old hnames hdistinct hmembers hitem hids hitems
      hpresent hold hoverlap ih _ ihItems =>
      rw [Member.raises, hstatic hnames hdistinct ih, Bool.or_false, itemsRaise_eq, List.any_eq_false]
      intro item hmem hraises
      rw [ihItems item.1 item.2 (SortedDict.lookup_of_mem hids hmem), Bool.and_false] at hraises
      exact Bool.false_ne_true hraises

/-- What a collection stores under a name. -/
theorem lookup_collection_getstate {members items : Members V} {present : List Unicode}
    (hoverlap : ∀ id ∈ items.map Prod.fst, id ∉ members.map Prod.fst) (name : Unicode) :
    lookup name ((membersGetstate items).filter (fun item => item.1 ∈ present) ++
        membersGetstate members) =
      match lookup name members with
      | some member => some member.getstate
      | none => if name ∈ present then (lookup name items).map Member.getstate else none := by
  have hfilter := SortedDict.lookup_filter (fun key => decide (key ∈ present)) name
    (membersGetstate items)
  rw [SortedDict.lookup_append, hfilter, lookup_membersGetstate, lookup_membersGetstate]
  cases hmember : lookup name members with
  | none => by_cases hin : name ∈ present <;> simp [hin]
  | some member =>
      have hnone : lookup name items = none := by
        refine SortedDict.lookup_eq_none.mpr fun hmem => hoverlap name hmem ?_
        rw [← SortedDict.isSome_lookup, hmember]
        rfl
      simp [hnone]

/-- The values in the items that are constructed. -/
theorem valueAt_items {item : Member V} (hitem : Instance item item) (items : Items) (id : Unicode)
    (path : List Unicode) :
    (if id ∈ Moment.now.ids (items.map Prod.fst) (items.map Prod.fst) then
      match lookup id (items.map fun other => (other.1, item.setstate other.2)) with
      | some member => member.valueAt .now path
      | none => none
    else none) = (item.load (lookup id items)).valueAt .now path := by
  have hlookup := SortedDict.lookup_map (fun _ data => item.setstate data) id items
  have hids : Moment.now.ids (items.map Prod.fst) (items.map Prod.fst) = items.map Prod.fst := rfl
  rw [hlookup, hids]
  cases hstored : lookup id items with
  | none =>
      rw [if_neg (SortedDict.lookup_eq_none.mp hstored)]
      exact (valueAt_class hitem .now path).symm
  | some stored =>
      have hin : id ∈ items.map Prod.fst := by
        rw [← SortedDict.isSome_lookup, hstored]
        rfl
      rw [if_pos hin]
      rfl

/-- **Constructing an object from what was stored of it.** -/
theorem valueAt_load_getstate {first member : Member V} (h : Instance first member)
    (old : Option Data) (path : List Unicode) :
    (first.load (mergeAt old member.getstate)).valueAt .now path = member.valueAt .now path := by
  induction h generalizing old path with
  | @setting type own hvalid =>
      cases path with
      | cons name path =>
          rw [load_setting]
          rfl
      | nil =>
          rw [load_setting, Member.getstate, SettingType.read_getstate hvalid, Member.valueAt_setting,
            Member.valueAt_setting, Setting.explicit, Setting.explicit]
          cases type.runtime with
          | true => rfl
          | false => cases own.value <;> rfl
  | @group cls members hnames hdistinct hmembers ih =>
      have hstates : (Member.group members).getstate.Distinct :=
        (Instance.group hnames hdistinct hmembers).distinct_getstate
      rw [load_group]
      cases path with
      | nil => rfl
      | cons name path =>
          rw [Member.getstate] at hstates ⊢
          rw [Member.valueAt_group, Member.valueAt_group, lookup_membersSetstate, lookup_mergeAt_dict hstates,
            lookup_membersGetstate]
          cases hmember : lookup name members with
          | none =>
              have hnone : lookup name cls = none :=
                SortedDict.lookup_eq_none.mpr (hnames ▸ SortedDict.lookup_eq_none.mp hmember)
              rw [hnone]
              rfl
          | some member =>
              obtain ⟨first, hfirst⟩ := lookup_isSome_congr hnames hmember
              rw [hfirst]
              exact ih name first member hfirst hmember _ path
  | @collection cls members item items present old' hnames hdistinct hmembers hitem hids hitems
      hpresent hold hoverlap ih _ ihItems =>
      have hstates : (Member.collection members item items present old').getstate.Distinct :=
        (Instance.collection hnames hdistinct hmembers hitem hids hitems hpresent hold
          hoverlap).distinct_getstate
      rw [load_collection]
      cases path with
      | nil => rfl
      | cons name path =>
          rw [Member.getstate] at hstates ⊢
          rw [Member.valueAt_collection, Member.valueAt_collection, lookup_membersSetstate,
            lookup_mergeAt_container hstates, lookup_collection_getstate (hnames ▸ hoverlap)]
          cases hmember : lookup name members with
          | some member =>
              obtain ⟨first, hfirst⟩ := lookup_isSome_congr hnames hmember
              rw [hfirst]
              exact ih name first member hfirst hmember _ path
          | none =>
              have hnone : lookup name cls = none :=
                SortedDict.lookup_eq_none.mpr (hnames ▸ SortedDict.lookup_eq_none.mp hmember)
              have hstored := lookup_itemsOf name cls (mergeAt old (.container
                ((membersGetstate items).filter (fun item => item.1 ∈ present) ++
                  membersGetstate members)))
              rw [if_neg (SortedDict.lookup_eq_none.mp hnone), lookup_mergeAt_container hstates,
                lookup_collection_getstate (hnames ▸ hoverlap), hmember] at hstored
              rw [hnone]
              refine (valueAt_items hitem _ name path).trans ?_
              rw [hstored]
              have hids : Moment.now.ids present old' = present := rfl
              simp only [hids]
              by_cases hin : name ∈ present
              · simp only [hin, if_true]
                cases hfound : lookup name items with
                | none => exact valueAt_class hitem .now path
                | some found => exact ihItems name found hfound _ path
              · simp only [hin, if_false]
                exact valueAt_class hitem .now path

/-! ### The items of a constructed object -/

theorem hasItem_items {item : Member V} (items : Items) (id name : Unicode) (path : List Unicode) :
    (name ∈ Moment.now.ids (items.map Prod.fst) (items.map Prod.fst) ∧
      match lookup name (items.map fun other => (other.1, item.setstate other.2)) with
      | some member => member.hasItem .now id path
      | none => False) ↔
    ∃ stored, lookup name items = some stored ∧ (item.setstate stored).hasItem .now id path := by
  have hlookup := SortedDict.lookup_map (fun _ data => item.setstate data) name items
  rw [hlookup, Moment.ids, ← SortedDict.isSome_lookup]
  cases lookup name items <;> simp

theorem getAt_none (path : List Unicode) : getAt none path = none := rfl

/-- A constructed object has the items of which something was stored. -/
theorem hasItem_load_getstate {first member : Member V} (h : Instance first member)
    (old : Option Data) (id : Unicode) (path : List Unicode) :
    (first.load (mergeAt old member.getstate)).hasItem .now id path ↔ member.hasItem .now id path ∧
      (getAt (mergeAt old member.getstate) (path ++ [id])).isSome = true := by
  induction h generalizing old path with
  | setting hvalid =>
      rw [load_setting]
      cases path <;> simp [Member.hasItem, Member.look, Member.holds]
  | @group cls members hnames hdistinct hmembers ih =>
      have hstates : (Member.group members).getstate.Distinct :=
        (Instance.group hnames hdistinct hmembers).distinct_getstate
      rw [load_group]
      cases path with
      | nil => simp [Member.hasItem, Member.look, Member.holds]
      | cons name path =>
          rw [Member.getstate] at hstates ⊢
          rw [Member.hasItem_group, Member.hasItem_group, lookup_membersSetstate, List.cons_append,
            getAt_cons, lookup_mergeAt_dict hstates, lookup_membersGetstate]
          cases hmember : lookup name members with
          | none =>
              have hnone : lookup name cls = none :=
                SortedDict.lookup_eq_none.mpr (hnames ▸ SortedDict.lookup_eq_none.mp hmember)
              simp [hnone]
          | some member =>
              obtain ⟨first, hfirst⟩ := lookup_isSome_congr hnames hmember
              rw [hfirst]
              exact ih name first member hfirst hmember _ path
  | @collection cls members item items present old' hnames hdistinct hmembers hitem hids hitems
      hpresent hold hoverlap ih _ ihItems =>
      have hstates : (Member.collection members item items present old').getstate.Distinct :=
        (Instance.collection hnames hdistinct hmembers hitem hids hitems hpresent hold
          hoverlap).distinct_getstate
      rw [Member.getstate] at hstates ⊢
      have hstored : ∀ name, name ∉ cls.map Prod.fst → lookup name (itemsOf cls (mergeAt old
          (.container ((membersGetstate items).filter (fun item => item.1 ∈ present) ++
            membersGetstate members)))) =
          (if name ∈ present then (lookup name items).map Member.getstate else none).bind
            (mergeAt (lookup name (childrenOf old))) := by
        intro name hname
        have hnone : lookup name members = none :=
          SortedDict.lookup_eq_none.mpr (hnames ▸ hname)
        have hsaid : lookup name ((membersGetstate items).filter (fun item => item.1 ∈ present) ++
            membersGetstate members) =
              if name ∈ present then (lookup name items).map Member.getstate else none := by
          refine (lookup_collection_getstate (hnames ▸ hoverlap) name).trans ?_
          simp only [hnone]
        rw [lookup_itemsOf, if_neg hname, lookup_mergeAt_container hstates, ← hsaid]
        split
        next state hstate => rw [hstate, Option.bind_some]
        next hstate => rw [hstate, Option.bind_none]
      have hbelow : ∀ name, name ∉ cls.map Prod.fst → lookup name (childrenOf (mergeAt old
          (.container ((membersGetstate items).filter (fun item => item.1 ∈ present) ++
            membersGetstate members)))) = lookup name (itemsOf cls (mergeAt old
          (.container ((membersGetstate items).filter (fun item => item.1 ∈ present) ++
            membersGetstate members)))) := fun name hname => by rw [lookup_itemsOf, if_neg hname]
      rw [load_collection]
      cases path with
      | nil =>
          rw [Member.hasItem_collection_nil, Member.hasItem_collection_nil, Moment.ids, Moment.ids,
            List.nil_append, getAt_cons, getAt_nil, ← SortedDict.isSome_lookup]
          by_cases hname : id ∈ cls.map Prod.fst
          · have habsent : id ∉ present := fun hin => hoverlap id (hpresent id hin) hname
            rw [lookup_itemsOf, if_pos hname]
            simp [habsent]
          · rw [hbelow id hname, hstored id hname]
            by_cases hin : id ∈ present <;> simp [hin]
      | cons name path =>
          rw [Member.hasItem_collection, Member.hasItem_collection, lookup_membersSetstate,
            List.cons_append, getAt_cons]
          cases hmember : lookup name members with
          | some member =>
              obtain ⟨first, hfirst⟩ := lookup_isSome_congr hnames hmember
              rw [hfirst, lookup_mergeAt_container hstates,
                lookup_collection_getstate (hnames ▸ hoverlap), hmember]
              exact ih name first member hfirst hmember _ path
          | none =>
              have hname : name ∉ cls.map Prod.fst := hnames ▸ SortedDict.lookup_eq_none.mp hmember
              have hnone : lookup name cls = none := SortedDict.lookup_eq_none.mpr hname
              rw [hnone, hbelow name hname, hstored name hname]
              refine (hasItem_items _ id name path).trans ?_
              rw [hstored name hname, Moment.ids]
              by_cases hin : name ∈ present
              · simp only [hin, if_true, true_and]
                cases hfound : lookup name items with
                | none => simp
                | some found =>
                    have hitem' := ihItems name found hfound (lookup name (childrenOf old)) path
                    simp only [Option.map_some, Option.bind_some]
                    cases hdata : mergeAt (lookup name (childrenOf old)) found.getstate with
                    | none => simp [getAt_none]
                    | some stored =>
                        rw [hdata] at hitem'
                        simpa [Member.load] using hitem'
              · simp [hin]

/-- Of two objects of a class, one has the item of the other if it has a value of it. -/
theorem hasItem_of_valueAt {first member other : Member V} (h : Instance first member)
    (hother : Instance first other) {id : Unicode} {path below : List Unicode}
    {value : Option (Value V)} (hitem : member.hasItem .now id path)
    (hvalue : other.valueAt .now (path ++ id :: below) = some value) : other.hasItem .now id path := by
  induction path generalizing first member other with
  | nil =>
      cases h with
      | setting _ | group _ _ _ => exact hitem.elim
      | @collection cls members item items present old hnames _ _ _ _ _ hpresent _ hoverlap =>
          cases hother with
          | @collection _ members' _ items' present' old' hnames' =>
              rw [Member.hasItem_collection_nil, Moment.ids] at hitem ⊢
              have hnone : lookup id members' = none :=
                SortedDict.lookup_eq_none.mpr (hnames' ▸ hoverlap id (hpresent id hitem))
              rw [List.nil_append, Member.valueAt_collection, hnone, Moment.ids] at hvalue
              by_contra hnot
              rw [if_neg hnot] at hvalue
              cases hvalue
  | cons name path ih =>
      cases h with
      | setting _ => exact hitem.elim
      | group hnames hdistinct hmembers =>
          cases hother with
          | group hnames' _ hmembers' =>
              rw [Member.hasItem_group] at hitem ⊢
              rw [List.cons_append, Member.valueAt_group] at hvalue
              split at hitem
              · next member hmember =>
                  obtain ⟨first, hfirst⟩ := lookup_isSome_congr hnames hmember
                  obtain ⟨member', hmember'⟩ := lookup_isSome_congr hnames'.symm hfirst
                  rw [hmember'] at hvalue ⊢
                  exact ih (hmembers name first member hfirst hmember)
                    (hmembers' name first member' hfirst hmember') hitem hvalue
              · exact hitem.elim
      | collection hnames _ hmembers _ _ hitems _ _ _ =>
          cases hother with
          | @collection _ members' _ items' _ _ hnames' _ hmembers' _ _ hitems' _ _ _ =>
              rw [Member.hasItem_collection] at hitem ⊢
              rw [List.cons_append, Member.valueAt_collection] at hvalue
              split at hitem
              · next member hmember =>
                  obtain ⟨first, hfirst⟩ := lookup_isSome_congr hnames hmember
                  obtain ⟨member', hmember'⟩ := lookup_isSome_congr hnames'.symm hfirst
                  rw [hmember'] at hvalue ⊢
                  exact ih (hmembers name first member hfirst hmember)
                    (hmembers' name first member' hfirst hmember') hitem hvalue
              · next hmember =>
                  have hnone : lookup name members' = none := SortedDict.lookup_eq_none.mpr
                    (hnames' ▸ hnames ▸ SortedDict.lookup_eq_none.mp hmember)
                  rw [hnone] at hvalue ⊢
                  obtain ⟨_, hitem⟩ := hitem
                  split at hitem
                  · next found hfound =>
                      split_ifs at hvalue with hin
                      cases hfound' : lookup name items' with
                      | none =>
                          rw [hfound'] at hvalue
                          cases hvalue
                      | some found' =>
                          rw [hfound'] at hvalue
                          exact ⟨hin, ih (hitems name found hfound) (hitems' name found' hfound')
                            hitem hvalue⟩
                  · exact hitem.elim

/-! ### Edits -/

section Edits

variable [DecidableEq V]

omit [DecidableEq V] in
theorem lookup_addItem (id name : Unicode) (new : Member V) (items : Members V) (old : List Unicode) :
    lookup name (addItem id new items old) =
      if id ∉ old ∧ name = id then some new else lookup name items := by
  have hfilter := SortedDict.lookup_filter (fun key => decide (key ≠ id)) name items
  rw [addItem]
  by_cases hold : id ∈ old
  · simp [hold]
  · rw [if_neg hold, lookup, hfilter]
    by_cases hname : name = id <;> simp [hold, hname]

omit [DecidableEq V] in
theorem map_fst_addItem {id name : Unicode} {new : Member V} {items : Members V}
    {old : List Unicode} (hold : ∀ other ∈ old, other ∈ items.map Prod.fst) :
    name ∈ (addItem id new items old).map Prod.fst ↔ name = id ∨ name ∈ items.map Prod.fst := by
  rw [← SortedDict.isSome_lookup, lookup_addItem]
  by_cases hname : name = id
  · subst hname
    by_cases hin : name ∈ old
    · simpa [hin, SortedDict.isSome_lookup] using hold name hin
    · simp [hin]
  · rw [if_neg (fun h => hname h.2), SortedDict.isSome_lookup]
    simp [hname]

omit [DecidableEq V] in
theorem nodup_addItem {id : Unicode} {new : Member V} {items : Members V} {old : List Unicode}
    (hids : (items.map Prod.fst).Nodup) : ((addItem id new items old).map Prod.fst).Nodup := by
  rw [addItem]
  split_ifs
  · exact hids
  · refine List.nodup_cons.mpr ⟨fun hmem => ?_, hids.sublist (List.filter_sublist.map _)⟩
    obtain ⟨item, hitem, hid⟩ := List.mem_map.mp hmem
    exact absurd hid (by simpa using (List.mem_filter.mp hitem).2)

/-- The state that a new item is made of is a dictionary, and a value is no `str` that is not ASCII. -/
def Edit.Ordered : Edit V → Prop
  | .set value => value.any Value.raises = false
  | .addItem _ state => Configuration.Ordered (some state)
  | _ => True

theorem Instance.edit {first member : Member V} (h : Instance first member) {change : Edit V}
    (hordered : change.Ordered) : Instance first (member.edit change) := by
  cases h with
  | @setting type own hvalid =>
      cases change with
      | reset => exact .setting hvalid.reset
      | set value => exact .setting (hvalid.set hordered)
      | undo => exact .setting hvalid.undo
      | addItem id state | removeItem id => exact .setting hvalid
  | group hnames hdistinct hmembers => cases change <;> exact .group hnames hdistinct hmembers
  | @collection cls members item items present old hnames hdistinct hmembers hitem hids hitems
      hpresent hold hoverlap =>
      have hsame : Instance (.collection cls item [] [] [])
          (.collection members item items present old) :=
        .collection hnames hdistinct hmembers hitem hids hitems hpresent hold hoverlap
      cases change with
      | reset | set value | undo => exact hsame
      | removeItem id =>
          exact .collection hnames hdistinct hmembers hitem hids hitems
            (fun other hother => hpresent other (List.mem_of_mem_filter hother)) hold hoverlap
      | addItem id state =>
          rw [Member.edit]
          split_ifs with hused
          · exact hsame
          · obtain ⟨hname, hnew⟩ := not_or.mp hused
            have hkeys : ∀ other, other ∈ (addItem id (item.setstate state) items old).map Prod.fst ↔
                other = id ∨ other ∈ items.map Prod.fst := fun other => map_fst_addItem hold
            refine .collection hnames hdistinct hmembers hitem (nodup_addItem hids)
              (fun other found hfound => ?_) (fun other hother => (hkeys other).mpr ?_)
              (fun other hother => (hkeys other).mpr (Or.inr (hold other hother)))
              (fun other hother => ?_)
            · rw [lookup_addItem] at hfound
              split_ifs at hfound
              · exact Option.some.inj hfound ▸ hitem.load hordered
              · exact hitems other found hfound
            · exact (List.mem_cons.mp hother).imp_right (hpresent other)
            · rcases (hkeys other).mp hother with rfl | hother
              · exact hnames ▸ hname
              · exact hoverlap other hother

/-- What is changed now is not changed for the last save. -/
theorem look_edit {α : Type} (observe : Member V → α) (absent : α) (change : Edit V)
    (member : Member V) (name : Unicode) (path : List Unicode) :
    (member.edit change).look .saved observe absent (name :: path) =
      member.look .saved observe absent (name :: path) := by
  cases member with
  | setting type own => cases change <;> rfl
  | group members => cases change <;> rfl
  | collection members item items present old =>
      cases change with
      | reset | set value | undo | removeItem id => rfl
      | addItem id state =>
          rw [Member.edit]
          split_ifs with hused
          · rfl
          · rw [Member.look, Member.look]
            cases lookup name members with
            | some member => rfl
            | none =>
                have hids : ∀ ids, Moment.saved.ids ids old = old := fun _ => rfl
                simp only [hids, lookup_addItem]
                by_cases hin : name ∈ old
                · have hkept : ¬(id ∉ old ∧ name = id) := fun ⟨hnot, heq⟩ => hnot (heq ▸ hin)
                  simp only [hin, if_true, if_neg hkept]
                · simp only [hin, if_false]

/-- **An edit leaves an object of the class.** -/
theorem Instance.editAt {first member : Member V} (h : Instance first member) {change : Edit V}
    (hordered : change.Ordered) (place : List Unicode) :
    Instance first (Member.editAt change place member) := by
  induction place generalizing first member with
  | nil => exact h.edit hordered
  | cons name below ih =>
      have hbelow : ∀ {cls members : Members V}, (∀ name first member, lookup name cls = some first →
          lookup name members = some member → Instance first member) → ∀ other first member,
            lookup other cls = some first →
              lookup other (modifyMember name (Member.editAt change below) members) = some member →
                Instance first member := by
        intro cls members hmembers other first member hfirst hmember
        rw [lookup_modifyMember] at hmember
        split_ifs at hmember with hname
        · obtain ⟨before, hbefore, rfl⟩ := Option.map_eq_some_iff.mp hmember
          exact ih (hmembers other first before hfirst hbefore)
        · exact hmembers other first member hfirst hmember
      cases h with
      | setting hvalid => exact .setting hvalid
      | @group cls members hnames hdistinct hmembers =>
          exact .group ((map_fst_modifyMember _ _ _).trans hnames) hdistinct (hbelow hmembers)
      | @collection cls members item items present old hnames hdistinct hmembers hitem hids hitems
          hpresent hold hoverlap =>
          rw [Member.editAt]
          split_ifs with hin
          · exact .collection ((map_fst_modifyMember _ _ _).trans hnames) hdistinct
              (hbelow hmembers) hitem hids hitems hpresent hold hoverlap
          · have hkeys := map_fst_modifyMember name (Member.editAt change below) items
            refine .collection hnames hdistinct hmembers hitem (hkeys ▸ hids)
              (fun id found hfound => ?_) (hkeys ▸ hpresent) (hkeys ▸ hold) (hkeys ▸ hoverlap)
            rw [lookup_modifyMember] at hfound
            split_ifs at hfound with hname
            · obtain ⟨before, hbefore, rfl⟩ := Option.map_eq_some_iff.mp hfound
              exact ih (hitems id before hbefore)
            · exact hitems id found hfound

/-- **An edit leaves what was there at the last save.** -/
theorem look_editAt {α : Type} {observe : Member V → α} {absent : α} {change : Edit V}
    (hobserve : ∀ place member, observe (Member.editAt change place member) = observe member)
    (place : List Unicode) (member : Member V) (path : List Unicode) :
    (Member.editAt change place member).look .saved observe absent path =
      member.look .saved observe absent path := by
  induction place generalizing member path with
  | nil =>
      cases path with
      | nil => simpa only [Member.look] using hobserve [] member
      | cons other path => exact look_edit observe absent change member other path
  | cons name below ih =>
      cases path with
      | nil => simpa only [Member.look] using hobserve (name :: below) member
      | cons other path =>
          cases member with
          | setting type own => rfl
          | group members =>
              rw [Member.editAt, Member.look, Member.look, lookup_modifyMember]
              split_ifs with hname
              · cases lookup other members with
                | none => rfl
                | some member => exact ih member path
              · rfl
          | collection members item items present old =>
              rw [Member.editAt]
              split_ifs with hin
              · rw [Member.look, Member.look, lookup_modifyMember]
                by_cases hname : other = name
                · rw [if_pos hname]
                  cases hmember : lookup other members with
                  | none =>
                      have hmem : other ∈ members.map Prod.fst := hname ▸ hin
                      exact absurd hmem (SortedDict.lookup_eq_none.mp hmember)
                  | some member => exact ih member path
                · rw [if_neg hname]
              · rw [Member.look, Member.look]
                cases lookup other members with
                | some member => rfl
                | none =>
                    simp only [lookup_modifyMember]
                    by_cases hname : other = name
                    · simp only [hname, if_true]
                      cases lookup name items with
                      | none => rfl
                      | some found => simp only [Option.map_some, ih found path]
                    · simp only [if_neg hname]

theorem explicit_edit (change : Edit V) (member : Member V) :
    (member.edit change).explicit .saved = member.explicit .saved := by
  cases member with
  | setting type own =>
      have hkeeps : ∀ after : Setting V, after.old = own.old →
          (Member.setting type after).explicit .saved = (Member.setting type own).explicit .saved := by
        intro after hold
        rw [Member.explicit, Member.explicit, Setting.explicit, Setting.explicit, hold]
      cases change with
      | reset => exact hkeeps _ own.old_reset
      | set value => exact hkeeps _ (own.old_set type value)
      | undo => exact hkeeps _ rfl
      | addItem id state | removeItem id => rfl
  | group members => cases change <;> rfl
  | collection members item items present old =>
      cases change with
      | addItem id state => rw [Member.edit]; split_ifs <;> rfl
      | reset | set value | undo | removeItem id => rfl

theorem holds_edit (id : Unicode) (change : Edit V) (member : Member V) :
    (member.edit change).holds .saved id = member.holds .saved id := by
  cases member with
  | setting type own => cases change <;> rfl
  | group members => cases change <;> rfl
  | collection members item items present old =>
      cases change with
      | addItem id state => rw [Member.edit]; split_ifs <;> rfl
      | reset | set value | undo | removeItem id => rfl

theorem valueAt_editAt (change : Edit V) (place : List Unicode) (member : Member V)
    (path : List Unicode) :
    (Member.editAt change place member).valueAt .saved path = member.valueAt .saved path := by
  refine look_editAt (fun place member => ?_) place member path
  cases place with
  | nil => exact explicit_edit change member
  | cons name below =>
      cases member with
      | setting type own | group members => rfl
      | collection members item items present old => rw [Member.editAt]; split_ifs <;> rfl

theorem hasItem_editAt (id : Unicode) (change : Edit V) (place : List Unicode) (member : Member V)
    (path : List Unicode) :
    (Member.editAt change place member).hasItem .saved id path = member.hasItem .saved id path := by
  refine look_editAt (fun place member => ?_) place member path
  cases place with
  | nil => exact holds_edit id change member
  | cons name below =>
      cases member with
      | setting type own | group members => rfl
      | collection members item items present old => rw [Member.editAt]; split_ifs <;> rfl

end Edits

end SipSimple.Configuration
