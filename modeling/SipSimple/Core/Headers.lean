import SipSimple.Configuration.SaveReload
import SipSimple.Core.SIPURI

/-!
# SIP headers

The header classes of `core/_core.headers.pxi`. Each kind of header has a mutable and a frozen class with the same
fields; what both do is a function of the fields, with the class as an argument where the two differ. An
operation is none where the code raises.
-/

namespace SipSimple.Core.Headers

/-! ### Numbers -/

/-- `value.strip()` -/
def strip (text : Str) : Str :=
  (text.dropWhile Configuration.isAsciiSpace).rdropWhile Configuration.isAsciiSpace

/-- The sign of a number, and what is after it. -/
def splitSign : Str → Bool × Str
  | '-' :: text => (true, text)
  | '+' :: text => (false, text)
  | text => (false, text)

/-- `int(value)` of a string. -/
def intStr (text : Str) : Option Int :=
  let (negative, digits) := splitSign (strip text)
  (Configuration.intDigits digits).map fun value => if negative then -(value : Int) else value

/-- What a string says as a `float`, before it is rounded. -/
inductive Decimal where
  | nan
  | infinity (negative : Bool)
  | finite (negative : Bool) (digits : Nat) (exponent : Int)
  deriving DecidableEq, Repr

/-- The exponent of a number: nothing, or `e` with an integer. -/
def exponentStr : Str → Option Int
  | [] => some 0
  | char :: text =>
      if char.toLower = 'e' then
        let (negative, digits) := splitSign text
        (Configuration.intDigits digits).map fun value => if negative then -(value : Int) else value
      else none

/-- `float(value)` of a string. -/
def floatStr (text : Str) : Option Decimal :=
  let (negative, text) := splitSign (strip text)
  let lower := text.map Char.toLower
  if lower = "nan".toList then some .nan
  else if lower = "inf".toList ∨ lower = "infinity".toList then some (.infinity negative)
  else
    let whole := text.takeWhile Char.isDigit
    let (fraction, rest) := match text.dropWhile Char.isDigit with
      | '.' :: text => (text.takeWhile Char.isDigit, text.dropWhile Char.isDigit)
      | rest => ([], rest)
    if whole = [] ∧ fraction = [] then none
    else (exponentStr rest).map fun exponent =>
      .finite negative (Nat.ofDigitChars 10 (whole ++ fraction) 0) (exponent - fraction.length)

/-- `float(value)` of an integer: one that would be rounded to infinity raises OverflowError. -/
def floatInt (number : Int) : Option Decimal :=
  if number.natAbs < Nat.pow 2 1024 - Nat.pow 2 970 then some (.finite (number < 0) number.natAbs 0) else none

/-! ### Classes -/

/-- The mutable class of a kind, or the frozen one. -/
inductive Variant where
  | normal | frozen
  deriving DecidableEq, Repr

/-- A header of either class; the address says which object it is. -/
structure Header (Fields : Type) where
  variant : Variant
  address : Nat
  fields : Fields

/-- What `__richcmp__` returns. -/
inductive Comparison where
  | result (value : Bool)
  | notImplemented
  deriving DecidableEq

/-- What the hash of a tuple depends on; a frozendict gives the tuple of its items. -/
inductive Hashed where
  | none
  | str (value : Str)
  | int (value : Int)
  | bool (value : Bool)
  | items (items : List (Str × Value))
  | tuple (values : List Hashed)

/-- What a derived accessor returns. -/
inductive Accessed where
  | value (value : Value)
  | float (value : Decimal)
  deriving DecidableEq

/-- The two classes of a kind. -/
structure Class (Fields : Type) where
  /-- `__richcmp__` for `==` -/
  eq : Fields → Fields → Option Comparison
  /-- `__richcmp__` for `!=` -/
  ne : Fields → Fields → Option Comparison
  /-- `new` of the class with the variant; a new object is at the given address. -/
  new : Variant → Nat → Header Fields → Option (Header Fields)
  /-- What the frozen class hashes. -/
  hashed : Fields → Hashed
  /-- The properties that are read from the other fields. -/
  accessors : Variant → Fields → List (Option Accessed)

/-- `all(a == b ...)` as the result of a comparison. -/
def allEqual (tests : List Bool) : Option Comparison := some (.result (tests.all id))

/-- `any(a != b ...)` as the result of a comparison. -/
def anyDiffers (tests : List Bool) : Option Comparison := some (.result (tests.any (!·)))

/-- `new` of the classes where a frozen header is taken as it is and any other one is constructed from the fields. -/
def construct {Fields : Type} (variant : Variant) (address : Nat) (header : Header Fields) : Option (Header Fields) :=
  if variant = .frozen ∧ header.variant = .frozen then some header else some ⟨variant, address, header.fields⟩

/-- `self.parameters.get(name, None)` -/
def parameter (parameters : Dict) (name : String) : Option Accessed :=
  some (.value ((parameters.get name.toList).getD .none))

/-- `int(value)` -/
def intValue : Value → Option Accessed
  | .none => none
  | .str text => (intStr text).map fun number => .value (.int number)
  | .int number => some (.value (.int number))

/-- The parameter as an integer, where it has a value. -/
def intParameter (parameters : Dict) (name : String) : Option Accessed :=
  match (parameters.get name.toList).getD .none with
  | .none => some (.value .none)
  | value => intValue value

/-- The parameter as a float, where it has a value. -/
def floatParameter (parameters : Dict) (name : String) : Option Accessed :=
  match (parameters.get name.toList).getD .none with
  | .none => some (.value .none)
  | .str text => (floatStr text).map .float
  | .int number => (floatInt number).map .float

/-! ### Fields -/

/-- `Header` -/
structure Generic where
  name : Str
  body : Str

/-- `ContentTypeHeader`; the content type as it was given. -/
structure ContentType where
  contentType : Option Str
  parameters : Dict

/-- `ContactHeader`; without a URI the wildcard. -/
structure Contact where
  uri : Option SIPURI
  displayName : Option Str
  parameters : Dict
  wildcard : uri = none → displayName = none ∧ parameters.items = []

/-- `FromHeader`, `ToHeader`, `RouteHeader` and `RecordRouteHeader`. -/
structure Identity where
  uri : SIPURI
  displayName : Option Str
  parameters : Dict

structure RetryAfter where
  seconds : Int
  comment : Option Str
  parameters : Dict

structure Via where
  transport : Str
  host : Str
  port : Nat
  parameters : Dict
  port_valid : 0 < port ∧ port ≤ 65535

structure Warning where
  code : Nat
  agent : Str
  text : Str
  code_valid : 100 ≤ code ∧ code ≤ 999
  deriving DecidableEq

structure Event where
  event : Str
  parameters : Dict

structure SubscriptionState where
  state : Str
  parameters : Dict

structure Reason where
  protocol : Str
  parameters : Dict

structure ReferTo where
  uri : Str
  parameters : Dict

structure Subject where
  subject : List Char
  deriving DecidableEq

structure Replaces where
  callId : Str
  fromTag : Str
  toTag : Str
  earlyOnly : Int
  parameters : Dict

/-! ### Hashes -/

def hashedStr : Option Str → Hashed
  | none => .none
  | some text => .str text

/-- `FrozenSIPURI.__hash__` -/
def hashedURI (uri : SIPURI) : Hashed :=
  .tuple [hashedStr uri.user, hashedStr uri.password, .str uri.host, uri.port.elim .none fun port => .int port,
    .bool uri.secure, .items uri.parameters.items, .items uri.headers.items]

/-! ### Kinds -/

/-- `Header` and `FrozenHeader` -/
def genericHeader : Class Generic where
  eq header other := allEqual [header.name == other.name, header.body == other.body]
  ne header other := anyDiffers [header.name == other.name, header.body == other.body]
  new := construct
  hashed header := .tuple [.str header.name, .str header.body]
  accessors _ _ := []

/-- `content_type`, with `ContentType(None)` raising an `AttributeError`. -/
def ContentType.read (header : ContentType) : Option (Option Str) :=
  match header.contentType with
  | none => none
  | some text =>
      let type := text.takeWhile (· ≠ '/')
      let subtype := (text.dropWhile (· ≠ '/')).drop 1
      some (if type = [] ∨ subtype = [] then none else some text)

/-- `ContentTypeHeader` and `FrozenContentTypeHeader` -/
def contentTypeHeader : Class ContentType where
  eq header other := do
    let contentType ← header.read
    let otherType ← other.read
    allEqual [contentType == otherType, header.parameters.eq other.parameters]
  ne header other := do
    let contentType ← header.read
    let otherType ← other.read
    some (.result (contentType != otherType && !header.parameters.eq other.parameters))
  new variant address header :=
    if variant = .frozen ∧ header.variant = .frozen then some header
    else
      match header.fields.read with
      | none => none
      -- a `ContentType` is a subclass of `str`, and an argument declared as `str` takes no subclass
      | some (some _) => none
      | some none => some ⟨variant, address, ⟨none, header.fields.parameters⟩⟩
  hashed header := .tuple [hashedStr (header.read.getD none), .items header.parameters.items]
  accessors _ header := [header.read.map fun contentType => .value (contentType.elim .none .str)]

/-- The comparison of two URIs, or of two that are missing. -/
def equalURIs : Option SIPURI → Option SIPURI → Bool
  | none, none => true
  | some uri, some other => uri.eq other
  | _, _ => false

def Contact.equals (header other : Contact) : List Bool :=
  [equalURIs header.uri other.uri, header.displayName == other.displayName, header.parameters.eq other.parameters]

/-- `ContactHeader` and `FrozenContactHeader` -/
def contactHeader : Class Contact where
  eq header other := allEqual (header.equals other)
  ne header other := anyDiffers (header.equals other)
  new variant address header :=
    if variant = .frozen ∧ header.variant = .frozen then some header
    -- neither `SIPURI.new` nor `FrozenSIPURI.new` takes the missing URI of the wildcard
    else if header.fields.uri = none then none
    else some ⟨variant, address, header.fields⟩
  hashed header := .tuple [header.uri.elim .none hashedURI, hashedStr header.displayName,
    .items header.parameters.items]
  accessors _ header := [floatParameter header.parameters "q", intParameter header.parameters "expires"]

/-- `IdentityHeader` and `FrozenIdentityHeader`, with the accessors of their subclasses. -/
def identityHeader (accessors : Dict → List (Option Accessed)) : Class Identity where
  eq header other := allEqual [header.uri.eq other.uri, header.displayName == other.displayName,
    header.parameters.eq other.parameters]
  ne header other := anyDiffers [header.uri.eq other.uri, header.displayName == other.displayName,
    header.parameters.eq other.parameters]
  new := construct
  hashed header := .tuple [hashedURI header.uri, hashedStr header.displayName, .items header.parameters.items]
  accessors _ header := accessors header.parameters

def fromHeader : Class Identity := identityHeader fun parameters => [parameter parameters "tag"]
def toHeader : Class Identity := identityHeader fun parameters => [parameter parameters "tag"]
def routeHeader : Class Identity := identityHeader fun _ => []
def recordRouteHeader : Class Identity := identityHeader fun _ => []

def RetryAfter.equals (header other : RetryAfter) : List Bool :=
  [header.seconds == other.seconds, header.comment == other.comment, header.parameters.eq other.parameters]

/-- `RetryAfterHeader` and `FrozenRetryAfterHeader` -/
def retryAfterHeader : Class RetryAfter where
  eq header other := allEqual (header.equals other)
  ne header other := anyDiffers (header.equals other)
  new := construct
  hashed header := .tuple [.int header.seconds, hashedStr header.comment, .items header.parameters.items]
  accessors _ header := [intParameter header.parameters "duration"]

def Via.equals (header other : Via) : List Bool :=
  [header.transport == other.transport, header.host == other.host, header.port == other.port,
    header.parameters.eq other.parameters]

/-- `ViaHeader` and `FrozenViaHeader` -/
def viaHeader : Class Via where
  eq header other := allEqual (header.equals other)
  ne header other := anyDiffers (header.equals other)
  new := construct
  hashed header := .tuple [.str header.transport, .str header.host, .int header.port, .items header.parameters.items]
  accessors _ header := [intParameter header.parameters "ttl", parameter header.parameters "maddr",
    parameter header.parameters "received", parameter header.parameters "branch",
    parameter header.parameters "compression", intParameter header.parameters "rport"]

def Warning.equals (header other : Warning) : List Bool :=
  [header.code == other.code, header.agent == other.agent, header.text == other.text]

/-- `WarningHeader` and `FrozenWarningHeader` -/
def warningHeader : Class Warning where
  eq header other := allEqual (header.equals other)
  ne header other := anyDiffers (header.equals other)
  new := construct
  hashed header := .tuple [.int header.code, .str header.agent, .str header.text]
  accessors _ _ := []

def Event.equals (header other : Event) : List Bool :=
  [header.event == other.event, header.parameters.eq other.parameters]

/-- `EventHeader` and `FrozenEventHeader` -/
def eventHeader : Class Event where
  eq header other := allEqual (header.equals other)
  ne header other := anyDiffers (header.equals other)
  new := construct
  hashed header := .tuple [.str header.event, .items header.parameters.items]
  accessors _ header := [parameter header.parameters "id"]

def SubscriptionState.equals (header other : SubscriptionState) : List Bool :=
  [header.state == other.state, header.parameters.eq other.parameters]

/-- The parameter as an integer; the mutable class converts a missing one too. -/
def SubscriptionState.intOf (variant : Variant) (parameters : Dict) (name : String) : Option Accessed :=
  match variant with
  | .normal => intValue ((parameters.get name.toList).getD .none)
  | .frozen => intParameter parameters name

/-- `SubscriptionStateHeader` and `FrozenSubscriptionStateHeader` -/
def subscriptionStateHeader : Class SubscriptionState where
  eq header other := allEqual (header.equals other)
  ne header other := anyDiffers (header.equals other)
  new := construct
  hashed header := .tuple [.str header.state, .items header.parameters.items]
  accessors variant header := [parameter header.parameters "reason",
    SubscriptionState.intOf variant header.parameters "expires",
    SubscriptionState.intOf variant header.parameters "retry-after"]

/-- `text.strip().strip('"')` of the parameter, where it has a value. -/
def Reason.text (parameters : Dict) : Option Accessed :=
  match (parameters.get "text".toList).getD .none with
  | .none => some (.value .none)
  | .str text => some (.value (.str (((strip text).dropWhile (· = '"')).rdropWhile (· = '"'))))
  | .int _ => none

/-- `ReasonHeader` and `FrozenReasonHeader`; they compare with a subscription state only, and the mutable class
constructs from a state that there is not. -/
def reasonHeader : Class Reason where
  eq _ _ := some .notImplemented
  ne _ _ := some .notImplemented
  new variant address header :=
    match variant with
    | .normal => none
    | .frozen => construct .frozen address header
  hashed header := .tuple [.str header.protocol, .items header.parameters.items]
  accessors _ header := [intParameter header.parameters "cause", Reason.text header.parameters]

def ReferTo.equals (header other : ReferTo) : List Bool :=
  [header.uri == other.uri, header.parameters.eq other.parameters]

/-- `ReferToHeader` and `FrozenReferToHeader` -/
def referToHeader : Class ReferTo where
  eq header other := allEqual (header.equals other)
  ne header other := anyDiffers (header.equals other)
  new := construct
  hashed header := .tuple [.str header.uri, .items header.parameters.items]
  accessors _ _ := []

/-- `SubjectHeader` and `FrozenSubjectHeader`; each takes a header of its own class as it is. -/
def subjectHeader : Class Subject where
  eq header other := allEqual [header.subject == other.subject]
  ne header other := anyDiffers [header.subject == other.subject]
  new variant address header :=
    if header.variant = variant then some header else some ⟨variant, address, header.fields⟩
  hashed header := .str header.subject
  accessors _ _ := []

/-- `ReplacesHeader` and `FrozenReplacesHeader`; there is neither an `early_flag` to compare nor a `header` of the header
to construct from. -/
def replacesHeader : Class Replaces where
  eq header other :=
    if header.callId = other.callId ∧ header.fromTag = other.fromTag ∧ header.toTag = other.toTag then none
    else some (.result false)
  ne header other :=
    if header.callId = other.callId ∧ header.fromTag = other.fromTag ∧ header.toTag = other.toTag then none
    else some (.result true)
  new variant address header :=
    match variant, header.variant with
    | .normal, _ => construct .normal address header
    | .frozen, .frozen => some header
    | .frozen, .normal => none
  hashed header := .tuple [.str header.callId, .str header.fromTag, .str header.toTag, .int header.earlyOnly,
    .items header.parameters.items]
  accessors _ _ := []

/-- The kinds of headers. -/
inductive Kind where
  | generic | contentType | contact | fromParty | toParty | route | recordRoute | retryAfter | via | warning | event
  | subscriptionState | reason | referTo | subject | replaces
  deriving DecidableEq, Repr

abbrev Kind.Fields : Kind → Type
  | generic => Generic
  | contentType => ContentType
  | contact => Contact
  | fromParty => Identity
  | toParty => Identity
  | route => Identity
  | recordRoute => Identity
  | retryAfter => RetryAfter
  | via => Via
  | warning => Warning
  | event => Event
  | subscriptionState => SubscriptionState
  | reason => Reason
  | referTo => ReferTo
  | subject => Subject
  | replaces => Replaces

def Kind.headerClass : (kind : Kind) → Class kind.Fields
  | generic => genericHeader
  | contentType => contentTypeHeader
  | contact => contactHeader
  | fromParty => fromHeader
  | toParty => toHeader
  | route => routeHeader
  | recordRoute => recordRouteHeader
  | retryAfter => retryAfterHeader
  | via => viaHeader
  | warning => warningHeader
  | event => eventHeader
  | subscriptionState => subscriptionStateHeader
  | reason => reasonHeader
  | referTo => referToHeader
  | subject => subjectHeader
  | replaces => replacesHeader

end SipSimple.Core.Headers
