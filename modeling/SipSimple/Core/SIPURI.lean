import Mathlib.Data.List.Perm.Subperm
import Mathlib.Data.List.Nodup
import Mathlib.Data.List.TakeWhile

/-!
# SIP URIs

The URI classes of `core/_core.helper.pxi` with their dictionaries. A dictionary is the list of its items in the order
in which it iterates over them; Python does not say which order that is, and equal dictionaries may have different
ones. A parameter has a string, an integer or no value.
-/

namespace SipSimple.Core

abbrev Str := List Char

inductive Value where
  | none
  | str (value : Str)
  | int (value : Int)
  deriving DecidableEq, Repr

/-- `dict` and `frozendict` -/
structure Dict where
  items : List (Str × Value)
  nodup : (items.map Prod.fst).Nodup
  deriving DecidableEq, Repr

namespace Dict

def empty : Dict := ⟨[], List.nodup_nil⟩

/-- `dict.get(name, None)` -/
def get (dict : Dict) (name : Str) : Option Value := dict.items.lookup name

/-- `dict.__eq__` -/
def eq (dict other : Dict) : Bool :=
  dict.items.length == other.items.length && dict.items.all fun item => other.get item.1 == some item.2

/-- `dict[name] = value` -/
def set (dict : Dict) (name : Str) (value : Value) : Dict where
  items := dict.items.filter (fun item => item.1 ≠ name) ++ [(name, value)]
  nodup := by
    rw [List.map_append, List.map_singleton, List.nodup_append]
    refine ⟨dict.nodup.sublist (List.filter_sublist.map _), List.nodup_singleton _, ?_⟩
    rintro other hother given hgiven rfl
    obtain ⟨item, hitem, rfl⟩ := List.mem_map.mp hother
    rw [List.mem_singleton] at hgiven
    have hne := (List.mem_filter.mp hitem).2
    simp [hgiven] at hne

/-- The names have the same values. -/
def Same (dict other : Dict) : Prop := ∀ name, dict.get name = other.get name

theorem get_eq_some_iff {dict : Dict} {name : Str} {value : Value} :
    dict.get name = some value ↔ (name, value) ∈ dict.items := by
  obtain ⟨items, hnodup⟩ := dict
  show items.lookup name = some value ↔ (name, value) ∈ items
  induction items with
  | nil => simp
  | cons item items ih =>
      obtain ⟨head, given⟩ := item
      rw [List.map_cons, List.nodup_cons] at hnodup
      rw [List.lookup_cons, List.mem_cons, Prod.mk.injEq]
      by_cases hname : name = head
      · subst hname
        rw [beq_self_eq_true]
        constructor
        · intro h
          exact Or.inl ⟨rfl, (Option.some.inj h).symm⟩
        · rintro (⟨-, rfl⟩ | hmem)
          · rfl
          · exact absurd (List.mem_map_of_mem hmem) hnodup.1
      · rw [beq_false_of_ne hname, ih hnodup.2]
        exact ⟨Or.inr, fun h => h.resolve_left fun h => hname h.1⟩

@[simp] theorem get_set (dict : Dict) (name other : Str) (value : Value) :
    (dict.set name value).get other = if other = name then some value else dict.get other := by
  apply Option.ext
  intro found
  rw [get_eq_some_iff, set, List.mem_append, List.mem_filter, List.mem_singleton, Prod.mk.injEq, decide_eq_true_eq]
  by_cases hname : other = name
  · simp [hname, eq_comm]
  · simp [hname, get_eq_some_iff]

theorem nodup_items (dict : Dict) : dict.items.Nodup := List.Nodup.of_map _ dict.nodup

theorem mem_items_iff {dict : Dict} {item : Str × Value} : item ∈ dict.items ↔ dict.get item.1 = some item.2 :=
  get_eq_some_iff.symm

theorem eq_iff {dict other : Dict} : dict.eq other = true ↔ dict.Same other := by
  rw [eq, Bool.and_eq_true, beq_iff_eq, List.all_eq_true]
  constructor
  · rintro ⟨hlength, hitems⟩
    have hsubset : dict.items ⊆ other.items := fun item hitem => mem_items_iff.mpr (beq_iff_eq.mp (hitems item hitem))
    have hperm : dict.items.Perm other.items :=
      (List.subperm_of_subset dict.nodup_items hsubset).perm_of_length_le (Nat.le_of_eq hlength.symm)
    intro name
    apply Option.ext
    intro value
    rw [get_eq_some_iff, get_eq_some_iff, hperm.mem_iff]
  · intro h
    have hmem : ∀ item, item ∈ dict.items ↔ item ∈ other.items := fun item => by
      rw [mem_items_iff, mem_items_iff, h]
    have hperm : dict.items.Perm other.items :=
      (List.perm_ext_iff_of_nodup dict.nodup_items other.nodup_items).mpr hmem
    exact ⟨hperm.length_eq, fun item hitem => beq_iff_eq.mpr (mem_items_iff.mp ((hmem item).mp hitem))⟩

theorem Same.refl (dict : Dict) : dict.Same dict := fun _ => rfl

theorem Same.symm {dict other : Dict} (h : dict.Same other) : other.Same dict := fun name => (h name).symm

instance (dict other : Dict) : Decidable (dict.Same other) := decidable_of_iff _ eq_iff

end Dict

/-! ### Texts -/

/-- `value.partition(separator)`, without the separator. -/
def partition (separator : Char) (text : Str) : Str × Str :=
  (text.takeWhile (· ≠ separator), (text.dropWhile (· ≠ separator)).drop 1)

theorem takeWhile_of_separator {separator : Char} {text rest : Str} (h : separator ∉ text) :
    (text ++ separator :: rest).takeWhile (· ≠ separator) = text := by
  have hall : ∀ char ∈ text, decide (char ≠ separator) = true := fun char hchar => by
    simpa using fun heq : char = separator => h (heq ▸ hchar)
  rw [List.takeWhile_append_of_pos hall]
  simp

theorem not_mem_partition (separator : Char) (text : Str) : separator ∉ (partition separator text).1 := by
  intro hmem
  have hne := List.mem_takeWhile_imp hmem
  simp at hne

/-- The characters that `urllib.quote` never replaces. -/
def isAlwaysSafe (char : Char) : Bool := char.isAlphanum || char == '_' || char == '.' || char == '-'

/-- `'%%%02X' % ord(char)` -/
def escape (char : Char) : Str := ['%', (Nat.digitChar (char.toNat / 16)).toUpper, (Nat.digitChar (char.toNat % 16)).toUpper]

/-- `urllib.quote(value, safe=safe)` -/
def quote (safe : List Char) (value : Str) : Str :=
  value.flatMap fun char => if isAlwaysSafe char || safe.contains char then [char] else escape char

/-! ### URIs -/

/-- `BaseSIPURI` -/
structure SIPURI where
  user : Option Str
  password : Option Str
  host : Str
  port : Option Nat
  port_valid : ∀ number ∈ port, 0 < number ∧ number ≤ 65535
  secure : Bool
  parameters : Dict
  headers : Dict

namespace SIPURI

def parameterSafe : List Char := "()[]-_.!~*'/:&+$".toList
def headerSafe : List Char := "()[]-_.!~*'/:?+$".toList

/-- `"%s%s" % (name, "" if val is None else "=" + urllib.quote(val, safe=safe))`; an integer cannot be quoted. -/
def formatItem (safe : List Char) : Str × Value → Option Str
  | (name, .none) => some name
  | (name, .str value) => some (name ++ '=' :: quote safe value)
  | (_, .int _) => none

/-- The items with the separator between them and the start before them, or nothing. -/
def formatItems (safe : List Char) (start separator : Char) (dict : Dict) : Option Str :=
  (dict.items.mapM (formatItem safe)).map fun
    | [] => []
    | items => start :: [separator].intercalate items

def schemeText (uri : SIPURI) : Str := if uri.secure then "sips:".toList else "sip:".toList

/-- The host, with the port if there is one. -/
def hostText (uri : SIPURI) : Str := uri.host ++ uri.port.elim [] fun port => ':' :: Nat.toDigits 10 port

/-- The password is printed with a user only. -/
def userText (user : Str) (password : Option Str) : Str := user ++ password.elim [] (':' :: ·)

/-- `__str__` -/
def format (uri : SIPURI) : Option Str := do
  let string := match uri.user with
    | none => uri.hostText
    | some user => userText user uri.password ++ '@' :: uri.hostText
  let parameters ← formatItems parameterSafe ';' ';' uri.parameters
  let headers ← formatItems headerSafe '?' '&' uri.headers
  return uri.schemeText ++ (string ++ (parameters ++ headers))

/-- The comparisons of `__richcmp__`, one for each attribute. -/
def equals (uri other : SIPURI) : List Bool :=
  [uri.user == other.user, uri.password == other.password, uri.host == other.host, uri.port == other.port,
    uri.secure == other.secure, uri.parameters.eq other.parameters, uri.headers.eq other.headers]

/-- All attributes are equal. -/
structure Same (uri other : SIPURI) : Prop where
  user : uri.user = other.user
  password : uri.password = other.password
  host : uri.host = other.host
  port : uri.port = other.port
  secure : uri.secure = other.secure
  parameters : uri.parameters.Same other.parameters
  headers : uri.headers.Same other.headers

/-- `==` -/
def eq (uri other : SIPURI) : Bool := (uri.equals other).all id

theorem eq_iff {uri other : SIPURI} : uri.eq other = true ↔ uri.Same other := by
  simp only [eq, equals, List.all_cons, List.all_nil, id, Bool.and_eq_true, beq_iff_eq, Dict.eq_iff, and_true]
  constructor
  · rintro ⟨huser, hpassword, hhost, hport, hsecure, hparameters, hheaders⟩
    exact ⟨huser, hpassword, hhost, hport, hsecure, hparameters, hheaders⟩
  · intro h
    exact ⟨h.user, h.password, h.host, h.port, h.secure, h.parameters, h.headers⟩

theorem Same.refl (uri : SIPURI) : uri.Same uri :=
  ⟨rfl, rfl, rfl, rfl, rfl, Dict.Same.refl _, Dict.Same.refl _⟩

theorem Same.symm {uri other : SIPURI} (h : uri.Same other) : other.Same uri :=
  ⟨h.user.symm, h.password.symm, h.host.symm, h.port.symm, h.secure.symm, h.parameters.symm, h.headers.symm⟩

instance (uri other : SIPURI) : Decidable (uri.Same other) := decidable_of_iff _ eq_iff

end SIPURI

end SipSimple.Core
