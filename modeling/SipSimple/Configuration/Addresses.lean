import SipSimple.Configuration.SaveReload
import SipSimple.Library.Patterns

/-!
# Addresses

The address types of `configuration/datatypes.py`: what their constructors accept, the string that an address is
saved as, and how it is read again. A byte string has the characters below 256, and `unicode` of one raises for a
character that is not ASCII.
-/

namespace SipSimple.Configuration

/-! ### Host names -/

/-- `[a-zA-Z0-9\-_]` -/
def isHostChar (char : Char) : Bool := char.isAlphanum || char == '-' || char == '_'

/-- `\d{1,3}\.\d{1,3}\.\d{1,3}\.\d{1,3}` -/
def ipPattern : Pattern Unicode := do
  let first ← Pattern.between Char.isDigit 1 3
  Pattern.literal ['.']
  let second ← Pattern.between Char.isDigit 1 3
  Pattern.literal ['.']
  let third ← Pattern.between Char.isDigit 1 3
  Pattern.literal ['.']
  let fourth ← Pattern.between Char.isDigit 1 3
  return first ++ '.' :: (second ++ '.' :: (third ++ '.' :: fourth))

/-- `\.[a-zA-Z0-9\-_]+` -/
def dotted : Pattern Unicode := do
  Pattern.literal ['.']
  let label ← Pattern.greedyOne isHostChar
  return '.' :: label

/-- `[a-zA-Z0-9\-_]+(\.[a-zA-Z0-9\-_]+)*` -/
def namePattern : Pattern Unicode := do
  let first ← Pattern.greedyOne isHostChar
  let labels ← Pattern.many dotted
  return first ++ labels.flatten

/-- `Hostname._host_re`; the end of the text only belongs to the second alternative. -/
def hostRe : Pattern Unicode := Pattern.orElse ipPattern (do
  let host ← namePattern
  Pattern.atEnd
  return host)

/-- `Hostname` -/
structure Hostname where
  value : Unicode
  accepted : (hostRe.run value).isSome
  deriving DecidableEq

def Hostname.new (value : Unicode) : Option Hostname :=
  if accepted : (hostRe.run value).isSome then some ⟨value, accepted⟩ else none

/-! ### Ports and transports -/

/-- `Port` -/
abbrev Port := Fin 65536

def Port.new (value : Int) : Option Port :=
  if h : 0 ≤ value ∧ value ≤ 65535 then some ⟨value.toNat, by omega⟩ else none

/-- `%d` -/
def Port.format (port : Port) : Unicode := Nat.toDigits 10 port

/-- `SIPTransport` and `MSRPTransport`. -/
inductive SIPTransport where
  | udp | tcp | tls
  deriving DecidableEq, Repr

inductive MSRPTransport where
  | tls | tcp
  deriving DecidableEq, Repr

def SIPTransport.value : SIPTransport → Unicode
  | .udp => "udp".toList
  | .tcp => "tcp".toList
  | .tls => "tls".toList

def SIPTransport.new (value : Unicode) : Option SIPTransport :=
  if value = "udp".toList then some .udp
  else if value = "tcp".toList then some .tcp
  else if value = "tls".toList then some .tls
  else none

def MSRPTransport.value : MSRPTransport → Unicode
  | .tls => "tls".toList
  | .tcp => "tcp".toList

def MSRPTransport.new (value : Unicode) : Option MSRPTransport :=
  if value = "tls".toList then some .tls
  else if value = "tcp".toList then some .tcp
  else none

/-! ### Descriptions -/

/-- `(?P<host>...)` -/
def hostPattern : Pattern Unicode := Pattern.orElse ipPattern namePattern

/-- `:(?P<port>\d+)` -/
def portPattern : Pattern Unicode := do
  Pattern.literal [':']
  Pattern.greedyOne Char.isDigit

def transportKey : Unicode := ";transport=".toList

/-- `;transport=(?P<transport>.+)` -/
def transportPattern : Pattern Unicode := do
  Pattern.literal transportKey
  Pattern.greedyOne (· != '\n')

/-- What is found in a description. -/
@[ext] structure Description where
  host : Unicode
  port : Option Unicode
  transport : Option Unicode
  deriving DecidableEq

/-- `_description_re` of the addresses without a transport. -/
def addressRe : Pattern Description := do
  let host ← hostPattern
  let port ← Pattern.optional portPattern
  Pattern.atEnd
  return ⟨host, port, none⟩

/-- `_description_re` of the addresses with a transport. -/
def transportAddressRe : Pattern Description := do
  let host ← hostPattern
  let port ← Pattern.optional portPattern
  let transport ← Pattern.optional transportPattern
  Pattern.atEnd
  return ⟨host, port, transport⟩

/-- `Port` of a group that was found, else of the default. -/
def Description.portOr (description : Description) (default : Int) : Option Port :=
  match description.port with
  | none => Port.new default
  | some digits => (intUnicode digits).bind Port.new

/-- `unicode` of a byte string. -/
def unicodeOf (bytes : Unicode) : Option Unicode :=
  if bytes.all (·.toNat < 128) then some bytes else none

/-- `%s:%d` -/
def formatAddress (host : Hostname) (port : Port) : Unicode := host.value ++ ':' :: port.format

/-- `%s:%d;transport=%s` -/
def formatTransportAddress (host : Hostname) (port : Port) (transport : Unicode) : Unicode :=
  formatAddress host port ++ (transportKey ++ transport)

/-! ### Address types -/

structure EndpointAddress where
  host : Hostname
  port : Port
  port_ne : port ≠ 0
  deriving DecidableEq

structure STUNServerAddress where
  host : Hostname
  port : Port
  deriving DecidableEq

structure MSRPRelayAddress where
  host : Hostname
  port : Port
  transport : MSRPTransport
  deriving DecidableEq

structure SIPProxyAddress where
  host : Hostname
  port : Port
  port_ne : port ≠ 0
  transport : SIPTransport
  deriving DecidableEq

structure PortRange where
  start : Port
  last : Port
  start_ne : start ≠ 0
  last_ne : last ≠ 0
  ordered : start ≤ last
  deriving DecidableEq

namespace EndpointAddress

def new (host : Unicode) (port : Option Port) : Option EndpointAddress := do
  let host ← Hostname.new host
  let port ← port
  if port_ne : port ≠ 0 then return ⟨host, port, port_ne⟩ else none

/-- `__getstate__` -/
def getstate (address : EndpointAddress) : Option Unicode := unicodeOf (formatAddress address.host address.port)

/-- `__setstate__`; the default port is none. -/
def setstate (state : Unicode) : Option EndpointAddress := do
  let description ← addressRe.run state
  new description.host (description.portOr 0)

end EndpointAddress

namespace STUNServerAddress

def new (host : Unicode) (port : Option Port) : Option STUNServerAddress := do
  let host ← Hostname.new host
  let port ← port
  return ⟨host, port⟩

def getstate (address : STUNServerAddress) : Option Unicode := unicodeOf (formatAddress address.host address.port)

def setstate (state : Unicode) : Option STUNServerAddress := do
  let description ← addressRe.run state
  new description.host (description.portOr 3478)

end STUNServerAddress

namespace MSRPRelayAddress

def new (host : Unicode) (port : Option Port) (transport : Unicode) : Option MSRPRelayAddress := do
  let host ← Hostname.new host
  let port ← port
  let transport ← MSRPTransport.new transport
  return ⟨host, port, transport⟩

def getstate (address : MSRPRelayAddress) : Option Unicode :=
  unicodeOf (formatTransportAddress address.host address.port address.transport.value)

def setstate (state : Unicode) : Option MSRPRelayAddress := do
  let description ← transportAddressRe.run state
  new description.host (description.portOr 2855) (description.transport.getD "tls".toList)

end MSRPRelayAddress

namespace SIPProxyAddress

def new (host : Unicode) (port : Option Port) (transport : Unicode) : Option SIPProxyAddress := do
  let host ← Hostname.new host
  let port ← port
  if port_ne : port ≠ 0 then
    let transport ← SIPTransport.new transport
    return ⟨host, port, port_ne, transport⟩
  else none

def getstate (address : SIPProxyAddress) : Option Unicode :=
  unicodeOf (formatTransportAddress address.host address.port address.transport.value)

def setstate (state : Unicode) : Option SIPProxyAddress := do
  let description ← transportAddressRe.run state
  new description.host (description.portOr 5060) (description.transport.getD "udp".toList)

end SIPProxyAddress

namespace PortRange

def new (start last : Option Port) : Option PortRange := do
  let start ← start
  let last ← last
  if h : start ≠ 0 ∧ last ≠ 0 ∧ start ≤ last then return ⟨start, last, h.1, h.2.1, h.2.2⟩ else none

/-- `%d-%d` -/
def getstate (range : PortRange) : Unicode := range.start.format ++ '-' :: range.last.format

/-- `__setstate__`; a `TypeError` unless there are two parts. -/
def setstate (state : Unicode) : Option PortRange :=
  match state.splitOn '-' with
  | [start, last] => new ((intUnicode start).bind Port.new) ((intUnicode last).bind Port.new)
  | _ => none

end PortRange

/-! ### Names -/

/-- The labels between the dots are not empty and have host characters only. -/
def IsName (host : Unicode) : Prop := ∀ label ∈ host.splitOn '.', label ≠ [] ∧ ∀ char ∈ label, isHostChar char = true

instance (host : Unicode) : Decidable (IsName host) := inferInstanceAs (Decidable (∀ label ∈ _, _ ∧ _))

theorem isHostChar_of_isDigit {char : Char} (h : char.isDigit = true) : isHostChar char = true := by
  rw [isHostChar, Char.isAlphanum, h]
  simp

theorem isName_iff (host : Unicode) :
    IsName host ↔ ∃ first labels, host = first ++ (labels.map ('.' :: ·)).flatten ∧
      ∀ label ∈ first :: labels, label ≠ [] ∧ ∀ char ∈ label, isHostChar char = true := by
  constructor
  · intro hname
    obtain ⟨first, labels, hsplit⟩ := List.exists_cons_of_ne_nil (List.splitOn_ne_nil '.' host)
    refine ⟨first, labels, ?_, hsplit ▸ hname⟩
    rw [← Pattern.intercalate_cons, ← hsplit, List.intercalate_splitOn]
  · rintro ⟨first, labels, rfl, hlabels⟩
    have hdot : ∀ label ∈ first :: labels, '.' ∉ label := fun label hlabel hmem =>
      absurd ((hlabels label hlabel).2 '.' hmem) (by decide)
    rw [IsName, ← Pattern.intercalate_cons, List.splitOn_intercalate '.' hdot (List.cons_ne_nil _ _)]
    exact hlabels

/-- The characters of a name. -/
def isNameChar (char : Char) : Bool := isHostChar char || char == '.'

theorem IsName.isNameChar {host : Unicode} (h : IsName host) : ∀ char ∈ host, isNameChar char = true := by
  obtain ⟨first, labels, rfl, hlabels⟩ := (isName_iff host).mp h
  have hhost : ∀ label ∈ first :: labels, ∀ char ∈ label, Configuration.isNameChar char = true :=
    fun label hlabel char hchar => by rw [Configuration.isNameChar, (hlabels label hlabel).2 char hchar, Bool.true_or]
  intro char hchar
  rcases List.mem_append.mp hchar with hchar | hchar
  · exact hhost first List.mem_cons_self char hchar
  · obtain ⟨part, hpart, hchar⟩ := List.mem_flatten.mp hchar
    obtain ⟨label, hlabel, rfl⟩ := List.mem_map.mp hpart
    rcases List.mem_cons.mp hchar with rfl | hchar
    · rfl
    · exact hhost label (List.mem_cons_of_mem _ hlabel) char hchar

theorem mem_dotted {text rest word : Unicode} :
    (word, rest) ∈ dotted text ↔ ∃ label, word = '.' :: label ∧ text = word ++ rest ∧ label ≠ [] ∧
      ∀ char ∈ label, isHostChar char = true := by
  simp only [dotted, Pattern.mem_bind, Pattern.mem_literal, Pattern.mem_greedyOne, Pattern.mem_pure, Prod.mk.injEq]
  constructor
  · rintro ⟨-, after, rfl, label, rest, ⟨rfl, hne, hlabel⟩, rfl, rfl⟩
    exact ⟨label, rfl, rfl, hne, hlabel⟩
  · rintro ⟨label, rfl, rfl, hne, hlabel⟩
    exact ⟨(), label ++ rest, rfl, label, rest, ⟨rfl, hne, hlabel⟩, rfl, rfl⟩

theorem mem_many_dotted {text rest : Unicode} {words : List Unicode} :
    (words, rest) ∈ Pattern.many dotted text ↔ ∃ labels : List Unicode, words = labels.map ('.' :: ·) ∧
      text = words.flatten ++ rest ∧ ∀ label ∈ labels, label ≠ [] ∧ ∀ char ∈ label, isHostChar char = true := by
  rw [Pattern.mem_many fun text word rest hmem => by
    obtain ⟨label, rfl, rfl, -⟩ := mem_dotted.mp hmem
    rw [List.length_append, List.length_cons]
    omega]
  constructor
  · intro hstar
    induction hstar with
    | nil text => exact ⟨[], rfl, rfl, List.forall_mem_nil _⟩
    | cons hword _ ih =>
        obtain ⟨label, rfl, rfl, hlabel⟩ := mem_dotted.mp hword
        obtain ⟨labels, rfl, rfl, hlabels⟩ := ih
        exact ⟨label :: labels, rfl, by simp, List.forall_mem_cons.mpr ⟨hlabel, hlabels⟩⟩
  · rintro ⟨labels, rfl, rfl, hlabels⟩
    induction labels with
    | nil => exact .nil _
    | cons label labels ih =>
        obtain ⟨hlabel, hlabels⟩ := List.forall_mem_cons.mp hlabels
        refine .cons (mem_dotted.mpr ⟨label, rfl, ?_, hlabel⟩) (ih hlabels)
        rw [List.map_cons, List.flatten_cons, List.append_assoc]

@[simp] theorem mem_namePattern {text rest host : Unicode} :
    (host, rest) ∈ namePattern text ↔ text = host ++ rest ∧ IsName host := by
  simp only [namePattern, Pattern.mem_bind, Pattern.mem_greedyOne, mem_many_dotted, Pattern.mem_pure, Prod.mk.injEq,
    isName_iff]
  constructor
  · rintro ⟨first, after, ⟨rfl, hfirst⟩, words, rest, ⟨labels, rfl, rfl, hlabels⟩, rfl, rfl⟩
    exact ⟨(List.append_assoc _ _ _).symm, first, labels, rfl, List.forall_mem_cons.mpr ⟨hfirst, hlabels⟩⟩
  · rintro ⟨rfl, first, labels, rfl, hlabels⟩
    obtain ⟨hfirst, hlabels⟩ := List.forall_mem_cons.mp hlabels
    exact ⟨first, _, ⟨List.append_assoc _ _ _, hfirst⟩, _, rest, ⟨labels, rfl, rfl, hlabels⟩, rfl, rfl⟩

/-- An address in numbers is a name as well. -/
theorem name_of_mem_ipPattern {text rest host : Unicode} (h : (host, rest) ∈ ipPattern text) :
    text = host ++ rest ∧ IsName host := by
  simp only [ipPattern, Pattern.mem_bind, Pattern.mem_between, Pattern.mem_literal, Pattern.mem_pure,
    Prod.mk.injEq] at h
  obtain ⟨first, after, ⟨⟨rfl, hfirst⟩, hfirst0, -⟩, -, after, rfl, second, after, ⟨⟨rfl, hsecond⟩, hsecond0, -⟩, -,
    after, rfl, third, after, ⟨⟨rfl, hthird⟩, hthird0, -⟩, -, after, rfl, fourth, after,
    ⟨⟨rfl, hfourth⟩, hfourth0, -⟩, rfl, rfl⟩ := h
  refine ⟨by simp, (isName_iff _).mpr ⟨first, [second, third, fourth], by simp, ?_⟩⟩
  have hlabel : ∀ label : Unicode, (∀ char ∈ label, char.isDigit = true) → 1 ≤ label.length →
      label ≠ [] ∧ ∀ char ∈ label, isHostChar char = true := fun label hdigits hlength =>
    ⟨List.ne_nil_of_length_pos hlength, fun char hchar => isHostChar_of_isDigit (hdigits char hchar)⟩
  simp only [List.forall_mem_cons, List.not_mem_nil, false_implies, implies_true, and_true]
  exact ⟨hlabel _ hfirst hfirst0, hlabel _ hsecond hsecond0, hlabel _ hthird hthird0, hlabel _ hfourth hfourth0⟩

theorem mem_hostPattern {text rest host : Unicode} :
    (host, rest) ∈ hostPattern text ↔ text = host ++ rest ∧ IsName host := by
  rw [hostPattern, Pattern.mem_orElse, mem_namePattern]
  exact ⟨fun h => h.elim name_of_mem_ipPattern id, Or.inr⟩

/-! ### Texts that are described -/

/-- The text of the port group. -/
def portText : Option Unicode → Unicode
  | none => []
  | some digits => ':' :: digits

/-- The text of the transport group. -/
def transportText : Option Unicode → Unicode
  | none => []
  | some transport => transportKey ++ transport

theorem transportKey_eq : ∃ key, transportKey = ';' :: key := ⟨_, rfl⟩

/-- The text has the parts of the description, and at most the end of the line after them. -/
structure Description.Found (description : Description) (text rest : Unicode) : Prop where
  text : text = description.host ++ (portText description.port ++ (transportText description.transport ++ rest))
  host : IsName description.host
  port : ∀ digits ∈ description.port, digits ≠ [] ∧ ∀ char ∈ digits, char.isDigit = true
  transport : ∀ given ∈ description.transport, given ≠ [] ∧ ∀ char ∈ given, (char != '\n') = true
  rest : rest = [] ∨ rest = ['\n']

theorem mem_optional_port {text rest : Unicode} {port : Option Unicode} :
    (port, rest) ∈ Pattern.optional portPattern text ↔
      text = portText port ++ rest ∧ ∀ digits ∈ port, digits ≠ [] ∧ ∀ char ∈ digits, char.isDigit = true := by
  simp only [Pattern.mem_optional, portPattern, Pattern.mem_bind, Pattern.mem_literal, Pattern.mem_greedyOne]
  constructor
  · rintro (⟨digits, rfl, -, after, rfl, rfl, hdigits⟩ | ⟨rfl, rfl⟩)
    · exact ⟨rfl, fun other hother => Option.some.inj hother ▸ hdigits⟩
    · exact ⟨rfl, fun _ h => absurd h (Option.not_mem_none _)⟩
  · rintro ⟨rfl, hdigits⟩
    cases port with
    | none => exact Or.inr ⟨rfl, rfl⟩
    | some digits => exact Or.inl ⟨digits, rfl, (), digits ++ rest, rfl, rfl, hdigits digits rfl⟩

theorem mem_optional_transport {text rest : Unicode} {transport : Option Unicode} :
    (transport, rest) ∈ Pattern.optional transportPattern text ↔
      text = transportText transport ++ rest ∧
        ∀ given ∈ transport, given ≠ [] ∧ ∀ char ∈ given, (char != '\n') = true := by
  simp only [Pattern.mem_optional, transportPattern, Pattern.mem_bind, Pattern.mem_literal, Pattern.mem_greedyOne]
  constructor
  · rintro (⟨given, rfl, -, after, rfl, rfl, hgiven⟩ | ⟨rfl, rfl⟩)
    · exact ⟨(List.append_assoc _ _ _).symm, fun other hother => Option.some.inj hother ▸ hgiven⟩
    · exact ⟨rfl, fun _ h => absurd h (Option.not_mem_none _)⟩
  · rintro ⟨rfl, hgiven⟩
    cases transport with
    | none => exact Or.inr ⟨rfl, rfl⟩
    | some given => exact Or.inl ⟨given, rfl, (), given ++ rest, List.append_assoc _ _ _, rfl, hgiven given rfl⟩

theorem mem_transportAddressRe {text rest : Unicode} {description : Description} :
    (description, rest) ∈ transportAddressRe text ↔ description.Found text rest := by
  simp only [transportAddressRe, Pattern.mem_bind, mem_hostPattern, mem_optional_port, mem_optional_transport,
    Pattern.mem_atEnd, Pattern.mem_pure, Prod.mk.injEq]
  constructor
  · rintro ⟨host, after, ⟨rfl, hhost⟩, port, after, ⟨rfl, hport⟩, transport, after, ⟨rfl, htransport⟩, -, rest,
      ⟨rfl, hrest⟩, rfl, rfl⟩
    exact ⟨rfl, hhost, hport, htransport, hrest⟩
  · intro hfound
    exact ⟨_, _, ⟨hfound.text, hfound.host⟩, _, _, ⟨rfl, hfound.port⟩, _, _, ⟨rfl, hfound.transport⟩, (), _,
      ⟨rfl, hfound.rest⟩, rfl, rfl⟩

theorem mem_addressRe {text rest : Unicode} {description : Description} :
    (description, rest) ∈ addressRe text ↔ description.Found text rest ∧ description.transport = none := by
  simp only [addressRe, Pattern.mem_bind, mem_hostPattern, mem_optional_port, Pattern.mem_atEnd, Pattern.mem_pure,
    Prod.mk.injEq]
  constructor
  · rintro ⟨host, after, ⟨rfl, hhost⟩, port, after, ⟨rfl, hport⟩, -, rest, ⟨rfl, hrest⟩, rfl, rfl⟩
    exact ⟨⟨rfl, hhost, hport, fun _ h => absurd h (Option.not_mem_none _), hrest⟩, rfl⟩
  · rintro ⟨hfound, hnone⟩
    have htext := hfound.text
    rw [hnone] at htext
    refine ⟨_, _, ⟨htext, hfound.host⟩, _, _, ⟨rfl, hfound.port⟩, (), rest, ⟨rfl, hfound.rest⟩, ?_, rfl⟩
    rw [← hnone]

theorem head?_rest {rest : Unicode} (h : rest = [] ∨ rest = ['\n']) : ∀ char ∈ rest.head?, char = '\n' := by
  rintro char hchar
  rcases h with rfl | rfl
  · cases hchar
  · exact (Option.some.inj hchar).symm

theorem head?_transportText {transport : Option Unicode} {rest : Unicode} (h : rest = [] ∨ rest = ['\n']) :
    ∀ char ∈ (transportText transport ++ rest).head?, char = ';' ∨ char = '\n' := by
  intro char hchar
  cases transport with
  | none => exact Or.inr (head?_rest h char hchar)
  | some given =>
      obtain ⟨key, hkey⟩ := transportKey_eq
      rw [transportText, hkey] at hchar
      exact Or.inl (Option.some.inj hchar).symm

theorem head?_portText {port : Option Unicode} {rest : Unicode} (h : ∀ char ∈ rest.head?, char = ';' ∨ char = '\n') :
    ∀ char ∈ (portText port ++ rest).head?, isNameChar char = false := by
  intro char hchar
  cases port with
  | none => rcases h char hchar with rfl | rfl <;> decide
  | some digits =>
      obtain rfl := Option.some.inj hchar
      decide

theorem portText_inj {port other : Option Unicode} {rest after : Unicode}
    (heq : portText port ++ rest = portText other ++ after)
    (hport : ∀ digits ∈ port, digits ≠ [] ∧ ∀ char ∈ digits, char.isDigit = true)
    (hother : ∀ digits ∈ other, digits ≠ [] ∧ ∀ char ∈ digits, char.isDigit = true)
    (hrest : ∀ char ∈ rest.head?, char = ';' ∨ char = '\n') (hafter : ∀ char ∈ after.head?, char = ';' ∨ char = '\n') :
    port = other ∧ rest = after := by
  have hdigit : ∀ {rest : Unicode}, (∀ char ∈ rest.head?, char = ';' ∨ char = '\n') →
      ∀ char ∈ rest.head?, char.isDigit = false := by
    intro rest hrest char hchar
    rcases hrest char hchar with rfl | rfl <;> decide
  cases port with
  | none =>
      cases other with
      | none => exact ⟨rfl, heq⟩
      | some digits =>
          rw [portText, portText, List.nil_append] at heq
          rcases hrest ':' (by rw [heq]; rfl) with hchar | hchar <;> exact absurd hchar (by decide)
  | some digits =>
      cases other with
      | none =>
          rw [portText, portText, List.nil_append] at heq
          rcases hafter ':' (by rw [← heq]; rfl) with hchar | hchar <;> exact absurd hchar (by decide)
      | some other =>
          obtain ⟨rfl, hend⟩ := Pattern.append_inj_of_longest (List.cons.inj heq).2 (hport digits rfl).2
            (hother other rfl).2 (hdigit hrest) (hdigit hafter)
          exact ⟨rfl, hend⟩

theorem transportText_inj {transport other : Option Unicode} {rest after : Unicode}
    (heq : transportText transport ++ rest = transportText other ++ after)
    (htransport : ∀ given ∈ transport, given ≠ [] ∧ ∀ char ∈ given, (char != '\n') = true)
    (hother : ∀ given ∈ other, given ≠ [] ∧ ∀ char ∈ given, (char != '\n') = true)
    (hrest : rest = [] ∨ rest = ['\n']) (hafter : after = [] ∨ after = ['\n']) : transport = other := by
  have hline : ∀ {rest : Unicode}, (rest = [] ∨ rest = ['\n']) → ∀ char ∈ rest.head?, (char != '\n') = false := by
    intro rest hrest char hchar
    obtain rfl := head?_rest hrest char hchar
    decide
  obtain ⟨key, hkey⟩ := transportKey_eq
  cases transport with
  | none =>
      cases other with
      | none => rfl
      | some given =>
          rw [transportText, transportText, hkey, List.nil_append] at heq
          exact absurd (head?_rest hrest ';' (by rw [heq]; rfl)) (by decide)
  | some given =>
      cases other with
      | none =>
          rw [transportText, transportText, hkey, List.nil_append] at heq
          exact absurd (head?_rest hafter ';' (by rw [← heq]; rfl)) (by decide)
      | some other =>
          rw [transportText, transportText, List.append_assoc, List.append_assoc, List.append_cancel_left_eq] at heq
          obtain ⟨rfl, -⟩ := Pattern.append_inj_of_longest heq (htransport given rfl).2 (hother other rfl).2
            (hline hrest) (hline hafter)
          rfl

/-- A text is described in one way. -/
theorem Description.Found.unique {description other : Description} {text rest after : Unicode}
    (h : description.Found text rest) (hother : other.Found text after) : description = other := by
  have hbreak := @head?_transportText description.transport _ h.rest
  have hbreak' := @head?_transportText other.transport _ hother.rest
  obtain ⟨hhost, htail⟩ := Pattern.append_inj_of_longest (h.text.symm.trans hother.text) h.host.isNameChar
    hother.host.isNameChar (head?_portText hbreak) (head?_portText hbreak')
  obtain ⟨hport, hend⟩ := portText_inj htail h.port hother.port hbreak hbreak'
  have htransport := transportText_inj hend h.transport hother.transport h.rest hother.rest
  exact Description.ext hhost hport htransport

/-! ### Saved strings -/

theorem Hostname.value_of_new {value : Unicode} {host : Hostname} (h : Hostname.new value = some host) :
    host.value = value := by
  rw [Hostname.new] at h
  split at h
  next => exact (Option.some.inj h) ▸ rfl
  next => cases h

theorem Hostname.new_value {host : Hostname} : Hostname.new host.value = some host := dif_pos host.accepted

namespace Port

theorem digits_format (port : Port) : port.format ≠ [] ∧ ∀ char ∈ port.format, char.isDigit = true :=
  ⟨Nat.toDigits_ne_nil, fun _ hchar => Nat.isDigit_of_mem_toDigits (by decide) (by decide) hchar⟩

theorem new_format (port : Port) : (intUnicode port.format).bind Port.new = some port := by
  have hformat : port.format = unicodeInt (port.val : Int) := by
    rw [unicodeInt, if_neg (by omega), Int.natAbs_natCast]
    rfl
  have hport := port.isLt
  rw [hformat, intUnicode_unicodeInt, Option.bind_some, Port.new, dif_pos (by omega)]
  rfl

end Port

theorem toNat_of_isDigit {char : Char} (h : char.isDigit = true) : char.toNat < 128 := by
  have hcode : 48 ≤ char.toNat ∧ char.toNat ≤ 57 := by
    simpa [Char.isDigit, UInt32.le_iff_toNat_le, ← Char.toNat_val] using h
  omega

theorem toNat_of_isNameChar {char : Char} (h : isNameChar char = true) : char.toNat < 128 := by
  simp only [isNameChar, isHostChar, Char.isAlphanum] at h
  delta Char.isAlpha Char.isUpper Char.isLower at h
  simp only [Char.isDigit, Bool.or_eq_true, Bool.and_eq_true, decide_eq_true_eq, beq_iff_eq, UInt32.le_iff_toNat_le, ge_iff_le] at h
  rw [← Char.toNat_val]
  rcases h with ((((⟨-, h⟩ | ⟨-, h⟩) | ⟨-, h⟩) | rfl) | rfl) | rfl
  · exact Nat.lt_of_le_of_lt h (by decide)
  · exact Nat.lt_of_le_of_lt h (by decide)
  · exact Nat.lt_of_le_of_lt h (by decide)
  all_goals decide

theorem unicodeOf_eq {bytes : Unicode} (h : ∀ char ∈ bytes, char.toNat < 128) : unicodeOf bytes = some bytes :=
  if_pos (List.all_eq_true.mpr fun char hchar => decide_eq_true (h char hchar))

theorem toNat_formatAddress {host : Hostname} {port : Port} (h : IsName host.value) :
    ∀ char ∈ formatAddress host port, char.toNat < 128 := by
  intro char hchar
  rcases List.mem_append.mp hchar with hchar | hchar
  · exact toNat_of_isNameChar (h.isNameChar char hchar)
  · rcases List.mem_cons.mp hchar with rfl | hchar
    · decide
    · exact toNat_of_isDigit (port.digits_format.2 char hchar)

theorem run_addressRe {host : Hostname} {port : Port} (h : IsName host.value) :
    addressRe.run (formatAddress host port) = some ⟨host.value, some port.format, none⟩ := by
  have hfound : Description.Found ⟨host.value, some port.format, none⟩ (formatAddress host port) [] :=
    { text := by simp [formatAddress, portText, transportText]
      host := h
      port := fun digits hdigits => Option.some.inj hdigits ▸ port.digits_format
      transport := fun _ h => absurd h (Option.not_mem_none _)
      rest := Or.inl rfl }
  exact Pattern.run_of_unique (mem_addressRe.mpr ⟨hfound, rfl⟩) fun other after hother =>
    (mem_addressRe.mp hother).1.unique hfound

theorem run_transportAddressRe {host : Hostname} {port : Port} {transport : Unicode} (h : IsName host.value)
    (htransport : transport ≠ [] ∧ ∀ char ∈ transport, (char != '\n') = true) :
    transportAddressRe.run (formatTransportAddress host port transport) =
      some ⟨host.value, some port.format, some transport⟩ := by
  have hfound : Description.Found ⟨host.value, some port.format, some transport⟩
      (formatTransportAddress host port transport) [] :=
    { text := by simp [formatTransportAddress, formatAddress, portText, transportText]
      host := h
      port := fun digits hdigits => Option.some.inj hdigits ▸ port.digits_format
      transport := fun given hgiven => Option.some.inj hgiven ▸ htransport
      rest := Or.inl rfl }
  exact Pattern.run_of_unique (mem_transportAddressRe.mpr hfound) fun other after hother =>
    (mem_transportAddressRe.mp hother).unique hfound

theorem EndpointAddress.setstate_getstate {address : EndpointAddress} (h : IsName address.host.value) :
    address.getstate.bind setstate = some address := by
  have hport := address.port.new_format
  rw [getstate, unicodeOf_eq (toNat_formatAddress h), Option.bind_some, setstate, run_addressRe h]
  show new address.host.value ((intUnicode address.port.format).bind Port.new) = some address
  rw [hport, new, Hostname.new_value]
  exact dif_pos address.port_ne

theorem STUNServerAddress.setstate_getstate {address : STUNServerAddress} (h : IsName address.host.value) :
    address.getstate.bind setstate = some address := by
  have hport := address.port.new_format
  rw [getstate, unicodeOf_eq (toNat_formatAddress h), Option.bind_some, setstate, run_addressRe h]
  show new address.host.value ((intUnicode address.port.format).bind Port.new) = some address
  rw [hport, new, Hostname.new_value]
  rfl

theorem toNat_formatTransportAddress {host : Hostname} {port : Port} {transport : Unicode} (h : IsName host.value)
    (htransport : ∀ char ∈ transport, char.toNat < 128) :
    ∀ char ∈ formatTransportAddress host port transport, char.toNat < 128 := by
  intro char hchar
  rcases List.mem_append.mp hchar with hchar | hchar
  · exact toNat_formatAddress h char hchar
  · rcases List.mem_append.mp hchar with hchar | hchar
    · have hkey : (transportKey.all fun char => decide (char.toNat < 128)) = true := rfl
      exact of_decide_eq_true (List.all_eq_true.mp hkey char hchar)
    · exact htransport char hchar

/-- An ASCII character that does not end the line. -/
def isPlain (char : Char) : Bool := decide (char.toNat < 128) && char != '\n'

theorem MSRPTransport.value_plain (transport : MSRPTransport) : transport.value.all isPlain = true := by
  cases transport <;> rfl

theorem SIPTransport.value_plain (transport : SIPTransport) : transport.value.all isPlain = true := by
  cases transport <;> rfl

theorem toNat_of_plain {text : Unicode} (h : text.all isPlain = true) : ∀ char ∈ text, char.toNat < 128 :=
  fun char hchar => of_decide_eq_true ((Bool.and_eq_true _ _).mp (List.all_eq_true.mp h char hchar)).1

theorem ne_of_plain {text : Unicode} (h : text.all isPlain = true) : ∀ char ∈ text, (char != '\n') = true :=
  fun char hchar => ((Bool.and_eq_true _ _).mp (List.all_eq_true.mp h char hchar)).2

theorem MSRPRelayAddress.setstate_getstate {address : MSRPRelayAddress} (h : IsName address.host.value) :
    address.getstate.bind setstate = some address := by
  have hport := address.port.new_format
  have hplain := address.transport.value_plain
  have hascii := toNat_of_plain hplain
  have hne : address.transport.value ≠ [] := by cases address.transport <;> exact List.cons_ne_nil _ _
  have hline := And.intro hne (ne_of_plain hplain)
  have htransport : MSRPTransport.new address.transport.value = some address.transport := by
    cases address.transport <;> rfl
  rw [getstate, unicodeOf_eq (toNat_formatTransportAddress h hascii), Option.bind_some, setstate,
    run_transportAddressRe h hline]
  show new address.host.value ((intUnicode address.port.format).bind Port.new) address.transport.value = some address
  rw [hport, new, Hostname.new_value]
  show (MSRPTransport.new address.transport.value).bind _ = some address
  rw [htransport]
  rfl

theorem SIPProxyAddress.setstate_getstate {address : SIPProxyAddress} (h : IsName address.host.value) :
    address.getstate.bind setstate = some address := by
  have hport := address.port.new_format
  have hplain := address.transport.value_plain
  have hascii := toNat_of_plain hplain
  have hne : address.transport.value ≠ [] := by cases address.transport <;> exact List.cons_ne_nil _ _
  have hline := And.intro hne (ne_of_plain hplain)
  have htransport : SIPTransport.new address.transport.value = some address.transport := by
    cases address.transport <;> rfl
  rw [getstate, unicodeOf_eq (toNat_formatTransportAddress h hascii), Option.bind_some, setstate,
    run_transportAddressRe h hline]
  show new address.host.value ((intUnicode address.port.format).bind Port.new) address.transport.value = some address
  rw [hport, new, Hostname.new_value]
  show (if port_ne : address.port ≠ 0 then (SIPTransport.new address.transport.value).bind _ else none) = some address
  rw [dif_pos address.port_ne, htransport]
  rfl

theorem PortRange.setstate_getstate (range : PortRange) : setstate range.getstate = some range := by
  have hdash : ∀ port : Port, '-' ∉ port.format := fun port hmem =>
    absurd (port.digits_format.2 '-' hmem) (by decide)
  rw [getstate, setstate, List.splitOn_append_cons_self_of_not_mem (hdash range.start),
    List.splitOn_eq_singleton (hdash range.last)]
  show new ((intUnicode range.start.format).bind Port.new) ((intUnicode range.last.format).bind Port.new) = some range
  rw [range.start.new_format, range.last.new_format]
  exact dif_pos ⟨range.start_ne, range.last_ne, range.ordered⟩

/-- The host that is read is a name. -/
theorem isName_of_addressRe {text : Unicode} {description : Description} (h : addressRe.run text = some description) :
    IsName description.host := by
  obtain ⟨rest, hmem⟩ := Pattern.mem_of_run h
  exact (mem_addressRe.mp hmem).1.host

theorem isName_of_transportAddressRe {text : Unicode} {description : Description}
    (h : transportAddressRe.run text = some description) : IsName description.host := by
  obtain ⟨rest, hmem⟩ := Pattern.mem_of_run h
  exact (mem_transportAddressRe.mp hmem).host

theorem EndpointAddress.isName_of_setstate {state : Unicode} {address : EndpointAddress}
    (h : setstate state = some address) : IsName address.host.value := by
  simp only [setstate, new, Option.bind_eq_bind, Option.bind_eq_some_iff] at h
  obtain ⟨description, hdescription, host, hhost, port, hport, h⟩ := h
  split at h
  next =>
    obtain rfl := Option.some.inj h
    rw [Hostname.value_of_new hhost]
    exact isName_of_addressRe hdescription
  next => cases h

theorem STUNServerAddress.isName_of_setstate {state : Unicode} {address : STUNServerAddress}
    (h : setstate state = some address) : IsName address.host.value := by
  simp only [setstate, new, Option.bind_eq_bind, Option.bind_eq_some_iff] at h
  obtain ⟨description, hdescription, host, hhost, port, hport, h⟩ := h
  obtain rfl := Option.some.inj h
  rw [Hostname.value_of_new hhost]
  exact isName_of_addressRe hdescription

theorem MSRPRelayAddress.isName_of_setstate {state : Unicode} {address : MSRPRelayAddress}
    (h : setstate state = some address) : IsName address.host.value := by
  simp only [setstate, new, Option.bind_eq_bind, Option.bind_eq_some_iff] at h
  obtain ⟨description, hdescription, host, hhost, port, hport, transport, htransport, h⟩ := h
  obtain rfl := Option.some.inj h
  rw [Hostname.value_of_new hhost]
  exact isName_of_transportAddressRe hdescription

theorem SIPProxyAddress.isName_of_setstate {state : Unicode} {address : SIPProxyAddress}
    (h : setstate state = some address) : IsName address.host.value := by
  simp only [setstate, new, Option.bind_eq_bind, Option.bind_eq_some_iff] at h
  obtain ⟨description, hdescription, host, hhost, port, hport, h⟩ := h
  split at h
  next =>
    obtain ⟨transport, -, h⟩ := Option.bind_eq_some_iff.mp h
    obtain rfl := Option.some.inj h
    rw [Hostname.value_of_new hhost]
    exact isName_of_transportAddressRe hdescription
  next => cases h

/-- The values of the address types. -/
inductive Address where
  | sipProxy (address : SIPProxyAddress)
  | msrpRelay (address : MSRPRelayAddress)
  | stunServer (address : STUNServerAddress)
  | endpoint (address : EndpointAddress)
  | portRange (range : PortRange)
  deriving DecidableEq

namespace Address

/-- `unicode(value)` -/
def getstate : Address → Option Unicode
  | sipProxy address => address.getstate
  | msrpRelay address => address.getstate
  | stunServer address => address.getstate
  | endpoint address => address.getstate
  | portRange range => some range.getstate

/-- A new value of the type of the address takes the string. -/
def setstate (state : Unicode) : Address → Option Address
  | sipProxy _ => (SIPProxyAddress.setstate state).map sipProxy
  | msrpRelay _ => (MSRPRelayAddress.setstate state).map msrpRelay
  | stunServer _ => (STUNServerAddress.setstate state).map stunServer
  | endpoint _ => (EndpointAddress.setstate state).map endpoint
  | portRange _ => (PortRange.setstate state).map portRange

def host : Address → Option Hostname
  | sipProxy address => some address.host
  | msrpRelay address => some address.host
  | stunServer address => some address.host
  | endpoint address => some address.host
  | portRange _ => none

/-- What is saved is read as an equal value exactly where the host is a name from its first character to its last. -/
theorem setstate_getstate_iff (address : Address) :
    (address.getstate.bind fun state => setstate state address) = some address ↔
      ∀ host ∈ address.host, IsName host.value := by
  constructor
  · intro h host hhost
    obtain ⟨state, -, hstate⟩ := Option.bind_eq_some_iff.mp h
    cases address with
    | sipProxy address =>
        obtain ⟨read, hread, heq⟩ := Option.map_eq_some_iff.mp hstate
        obtain rfl := Option.some.inj hhost
        exact (sipProxy.inj heq) ▸ SIPProxyAddress.isName_of_setstate hread
    | msrpRelay address =>
        obtain ⟨read, hread, heq⟩ := Option.map_eq_some_iff.mp hstate
        obtain rfl := Option.some.inj hhost
        exact (msrpRelay.inj heq) ▸ MSRPRelayAddress.isName_of_setstate hread
    | stunServer address =>
        obtain ⟨read, hread, heq⟩ := Option.map_eq_some_iff.mp hstate
        obtain rfl := Option.some.inj hhost
        exact (stunServer.inj heq) ▸ STUNServerAddress.isName_of_setstate hread
    | endpoint address =>
        obtain ⟨read, hread, heq⟩ := Option.map_eq_some_iff.mp hstate
        obtain rfl := Option.some.inj hhost
        exact (endpoint.inj heq) ▸ EndpointAddress.isName_of_setstate hread
    | portRange range => cases hhost
  · intro h
    cases address with
    | sipProxy address =>
        have hread := SIPProxyAddress.setstate_getstate (h address.host rfl)
        obtain ⟨state, hstate, hread⟩ := Option.bind_eq_some_iff.mp hread
        rw [getstate, hstate, Option.bind_some, setstate, hread, Option.map_some]
    | msrpRelay address =>
        have hread := MSRPRelayAddress.setstate_getstate (h address.host rfl)
        obtain ⟨state, hstate, hread⟩ := Option.bind_eq_some_iff.mp hread
        rw [getstate, hstate, Option.bind_some, setstate, hread, Option.map_some]
    | stunServer address =>
        have hread := STUNServerAddress.setstate_getstate (h address.host rfl)
        obtain ⟨state, hstate, hread⟩ := Option.bind_eq_some_iff.mp hread
        rw [getstate, hstate, Option.bind_some, setstate, hread, Option.map_some]
    | endpoint address =>
        have hread := EndpointAddress.setstate_getstate (h address.host rfl)
        obtain ⟨state, hstate, hread⟩ := Option.bind_eq_some_iff.mp hread
        rw [getstate, hstate, Option.bind_some, setstate, hread, Option.map_some]
    | portRange range =>
        rw [getstate, Option.bind_some, setstate, PortRange.setstate_getstate, Option.map_some]

/-- A host that only begins with an address in numbers is accepted, but its saved string is not. -/
theorem refused_after_ip :
    ¬ ∀ address : Address, (address.getstate.bind fun state => setstate state address) = some address := by
  intro h
  let host : Hostname := ⟨['1', '.', '2', '.', '3', '.', '4', ' ', 'a'], by rfl⟩
  obtain ⟨state, -, hstate⟩ := Option.bind_eq_some_iff.mp (h (.stunServer ⟨host, 3478⟩))
  obtain ⟨read, hread, heq⟩ := Option.map_eq_some_iff.mp hstate
  obtain rfl := stunServer.inj heq
  have hname : IsName host.value := STUNServerAddress.isName_of_setstate hread
  exact absurd (hname.isNameChar ' ' (by decide)) (by decide)

end Address

end SipSimple.Configuration
