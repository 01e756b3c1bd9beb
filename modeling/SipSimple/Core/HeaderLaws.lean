import SipSimple.Core.Headers

/-!
# Laws of headers

What holds of two headers of one kind, whichever of the two classes they are of: the conversions give equal headers,
the comparisons compare the fields, equal frozen headers have equal hashes and the accessors do not depend on the
class. Python's hash function is any function of what is hashed.
-/

namespace SipSimple.Core.Headers

variable {Fields : Type}

/-! ### Operators -/

/-- `a == b`; where neither class compares, it is asked whether they are one object. -/
def Class.equal (cls : Class Fields) (header other : Header Fields) : Option Bool := do
  match ← cls.eq header.fields other.fields with
  | .result value => return value
  | .notImplemented =>
      match ← cls.eq other.fields header.fields with
      | .result value => return value
      | .notImplemented => return header.address == other.address

/-- `a != b` -/
def Class.unequal (cls : Class Fields) (header other : Header Fields) : Option Bool := do
  match ← cls.ne header.fields other.fields with
  | .result value => return value
  | .notImplemented =>
      match ← cls.ne other.fields header.fields with
      | .result value => return value
      | .notImplemented => return header.address != other.address

/-! ### Equal fields -/

def ContentType.Same (header other : ContentType) : Prop :=
  header.read = other.read ∧ header.parameters.Same other.parameters

/-- Both URIs are missing, or they are the same. -/
def SameURI : Option SIPURI → Option SIPURI → Prop
  | none, none => True
  | some uri, some other => uri.Same other
  | _, _ => False

def Contact.Same (header other : Contact) : Prop :=
  SameURI header.uri other.uri ∧ header.displayName = other.displayName ∧ header.parameters.Same other.parameters

def Identity.Same (header other : Identity) : Prop :=
  header.uri.Same other.uri ∧ header.displayName = other.displayName ∧ header.parameters.Same other.parameters

def RetryAfter.Same (header other : RetryAfter) : Prop :=
  header.seconds = other.seconds ∧ header.comment = other.comment ∧ header.parameters.Same other.parameters

def Via.Same (header other : Via) : Prop :=
  header.transport = other.transport ∧ header.host = other.host ∧ header.port = other.port ∧
    header.parameters.Same other.parameters

def Event.Same (header other : Event) : Prop :=
  header.event = other.event ∧ header.parameters.Same other.parameters

def SubscriptionState.Same (header other : SubscriptionState) : Prop :=
  header.state = other.state ∧ header.parameters.Same other.parameters

def Reason.Same (header other : Reason) : Prop :=
  header.protocol = other.protocol ∧ header.parameters.Same other.parameters

def ReferTo.Same (header other : ReferTo) : Prop :=
  header.uri = other.uri ∧ header.parameters.Same other.parameters

def Replaces.Same (header other : Replaces) : Prop :=
  header.callId = other.callId ∧ header.fromTag = other.fromTag ∧ header.toTag = other.toTag ∧
    header.earlyOnly = other.earlyOnly ∧ header.parameters.Same other.parameters

/-- All fields are equal. -/
def Kind.Same : (kind : Kind) → kind.Fields → kind.Fields → Prop
  | generic => fun header other => header.name = other.name ∧ header.body = other.body
  | contentType => ContentType.Same
  | contact => Contact.Same
  | fromParty => Identity.Same
  | toParty => Identity.Same
  | route => Identity.Same
  | recordRoute => Identity.Same
  | retryAfter => RetryAfter.Same
  | via => Via.Same
  | warning => Eq
  | event => Event.Same
  | subscriptionState => SubscriptionState.Same
  | reason => Reason.Same
  | referTo => ReferTo.Same
  | subject => Eq
  | replaces => Replaces.Same

/-! ### The laws -/

structure Class.Lawful (cls : Class Fields) (same : Fields → Fields → Prop) (header other : Header Fields) :
    Prop where
  /-- A header that is converted to either class is equal to what it was. -/
  converted : ∀ source ∈ [header, other], ∀ variant address, address ≠ source.address →
    ∃ new, cls.new variant address source = some new ∧ new.variant = variant ∧ cls.equal new source = some true
  /-- Headers are equal exactly if their fields are. -/
  equal : ∃ result, cls.equal header other = some result ∧ (result = true ↔ same header.fields other.fields)
  unequal : ∃ result, cls.unequal header other = some result ∧ (result = true ↔ ¬ same header.fields other.fields)
  symmetric : cls.equal other header = cls.equal header other
  /-- Equal frozen headers have equal hashes. -/
  hash : header.variant = .frozen → other.variant = .frozen → cls.equal header other = some true →
    ∀ hash : Hashed → Int, hash (cls.hashed header.fields) = hash (cls.hashed other.fields)
  /-- The accessors of both classes return the same. -/
  accessors : ∀ source ∈ [header, other],
    cls.accessors .normal source.fields = cls.accessors .frozen source.fields ∧
      ∀ result ∈ cls.accessors .normal source.fields, result.isSome

/-- The classes compare the fields one after the other. -/
structure Class.Compares (cls : Class Fields) (same : Fields → Fields → Prop) : Prop where
  comparison : ∃ equals : Fields → Fields → List Bool, (∀ fields other, cls.eq fields other = allEqual (equals fields other)) ∧
    (∀ fields other, cls.ne fields other = anyDiffers (equals fields other)) ∧
    ∀ fields other, (equals fields other).all id = true ↔ same fields other
  refl : ∀ fields, same fields fields
  symm : ∀ fields other, same fields other → same other fields

namespace Class.Compares

variable {cls : Class Fields} {same : Fields → Fields → Prop}

theorem equal (h : cls.Compares same) (header other : Header Fields) :
    ∃ result, cls.equal header other = some result ∧ (result = true ↔ same header.fields other.fields) := by
  obtain ⟨equals, heq, -, hsame⟩ := h.comparison
  refine ⟨(equals header.fields other.fields).all id, ?_, hsame _ _⟩
  rw [Class.equal, heq]
  rfl

theorem unequal (h : cls.Compares same) (header other : Header Fields) :
    ∃ result, cls.unequal header other = some result ∧ (result = true ↔ ¬ same header.fields other.fields) := by
  obtain ⟨equals, -, hne, hsame⟩ := h.comparison
  refine ⟨(equals header.fields other.fields).any (!·), ?_, ?_⟩
  · rw [Class.unequal, hne]
    rfl
  · rw [← hsame, ← List.not_all_eq_any_not, Bool.not_eq_true', Bool.not_eq_true]
    rfl

theorem equal_iff (h : cls.Compares same) {header other : Header Fields} :
    cls.equal header other = some true ↔ same header.fields other.fields := by
  obtain ⟨result, hresult, hiff⟩ := h.equal header other
  rw [hresult, Option.some.injEq, hiff]

theorem symmetric (h : cls.Compares same) (header other : Header Fields) :
    cls.equal other header = cls.equal header other := by
  obtain ⟨result, hresult, hiff⟩ := h.equal header other
  obtain ⟨result', hresult', hiff'⟩ := h.equal other header
  rw [hresult, hresult', Option.some.injEq, Bool.eq_iff_iff, hiff, hiff']
  exact ⟨h.symm _ _, h.symm _ _⟩

/-- What is left of the laws for classes that compare and convert. -/
theorem lawful_iff (h : cls.Compares same) {header other : Header Fields}
    (hnew : ∀ source ∈ [header, other], ∀ variant address, ∃ new, cls.new variant address source = some new ∧
      new.variant = variant ∧ new.fields = source.fields) :
    cls.Lawful same header other ↔
      (∀ source ∈ [header, other], cls.accessors .normal source.fields = cls.accessors .frozen source.fields ∧
        ∀ result ∈ cls.accessors .normal source.fields, result.isSome) ∧
      (header.variant = .frozen → other.variant = .frozen → same header.fields other.fields →
        cls.hashed header.fields = cls.hashed other.fields) := by
  constructor
  · intro hlaws
    refine ⟨hlaws.accessors, fun hheader hother hsame => ?_⟩
    by_contra hne
    classical
    have hhash := hlaws.hash hheader hother (h.equal_iff.mpr hsame)
      fun hashed => if hashed = cls.hashed header.fields then 1 else 0
    rw [if_pos rfl, if_neg (Ne.symm hne)] at hhash
    exact absurd hhash (by decide)
  · rintro ⟨haccessors, hhashed⟩
    refine ⟨fun source hsource variant address _ => ?_, h.equal header other, h.unequal header other,
      h.symmetric header other, fun hheader hother hequal hash => ?_, haccessors⟩
    · obtain ⟨new, hnew, hvariant, hfields⟩ := hnew source hsource variant address
      refine ⟨new, hnew, hvariant, h.equal_iff.mpr ?_⟩
      rw [hfields]
      exact h.refl _
    · rw [hhashed hheader hother (h.equal_iff.mp hequal)]

end Class.Compares

theorem construct_converts (source : Header Fields) (variant : Variant) (address : Nat) :
    ∃ new, construct variant address source = some new ∧ new.variant = variant ∧ new.fields = source.fields := by
  rw [construct]
  split
  next h => exact ⟨source, rfl, h.2.trans h.1.symm, rfl⟩
  next => exact ⟨_, rfl, rfl, rfl⟩

/-! ### Where the laws hold -/

/-- A string that is given for the parameter is read as a number. -/
def Reads {Number : Type} (read : Str → Option Number) (parameters : Dict) (name : String) : Prop :=
  ∀ text, parameters.get name.toList = some (.str text) → (read text).isSome

/-- What is given for the parameter is read as a float. -/
def ReadsFloat (parameters : Dict) (name : String) : Prop :=
  Reads floatStr parameters name ∧
    ∀ number, parameters.get name.toList = some (.int number) → (floatInt number).isSome

/-- The parameter is given, as an integer or as a string that is read as one. -/
def GivesInt (parameters : Dict) (name : String) : Prop :=
  (∃ number, parameters.get name.toList = some (.int number)) ∨
    ∃ text, parameters.get name.toList = some (.str text) ∧ (intStr text).isSome

/-- The header of the kind converts, compares and is read. -/
def Kind.Sound : (kind : Kind) → kind.Fields → Prop
  | contentType => fun _ => False
  | contact => fun header =>
      header.uri ≠ none ∧ ReadsFloat header.parameters "q" ∧ Reads intStr header.parameters "expires"
  | retryAfter => fun header => Reads intStr header.parameters "duration"
  | via => fun header => Reads intStr header.parameters "ttl" ∧ Reads intStr header.parameters "rport"
  | subscriptionState => fun header =>
      GivesInt header.parameters "expires" ∧ GivesInt header.parameters "retry-after"
  | reason => fun _ => False
  | replaces => fun _ => False
  | generic | fromParty | toParty | route | recordRoute | warning | event | referTo | subject => fun _ => True

def SIPURI.listed (uri : SIPURI) : List (List (Str × Value)) := [uri.parameters.items, uri.headers.items]

/-- The items of the dictionaries of a header. -/
def Kind.listed : (kind : Kind) → kind.Fields → List (List (Str × Value))
  | contentType => fun header => [header.parameters.items]
  | contact => fun header => header.parameters.items :: header.uri.elim [] SIPURI.listed
  | fromParty | toParty | route | recordRoute => fun header => header.parameters.items :: SIPURI.listed header.uri
  | retryAfter => fun header => [header.parameters.items]
  | via => fun header => [header.parameters.items]
  | event => fun header => [header.parameters.items]
  | subscriptionState => fun header => [header.parameters.items]
  | reason => fun header => [header.parameters.items]
  | referTo => fun header => [header.parameters.items]
  | replaces => fun header => [header.parameters.items]
  | generic | warning | subject => fun _ => []

/-- Both headers are sound, and two frozen ones that are equal list their parameters in one order. -/
structure Kind.Safe (kind : Kind) (header other : Header kind.Fields) : Prop where
  sound : ∀ source ∈ [header, other], kind.Sound source.fields
  order : header.variant = .frozen → other.variant = .frozen → kind.Same header.fields other.fields →
    kind.listed header.fields = kind.listed other.fields

/-! ### Accessors -/

theorem isSome_intValue (value : Value) :
    (intValue value).isSome ↔ (∃ number, value = .int number) ∨ ∃ text, value = .str text ∧ (intStr text).isSome := by
  cases value with
  | none => simp [intValue]
  | str text => simp [intValue]
  | int number => simp [intValue]

theorem isSome_intParameter (parameters : Dict) (name : String) :
    (intParameter parameters name).isSome ↔ Reads intStr parameters name := by
  rw [intParameter, Reads]
  cases hget : parameters.get name.toList with
  | none => simp
  | some value => cases value <;> simp [intValue]

theorem isSome_floatParameter (parameters : Dict) (name : String) :
    (floatParameter parameters name).isSome ↔ ReadsFloat parameters name := by
  rw [floatParameter, ReadsFloat, Reads]
  cases hget : parameters.get name.toList with
  | none => simp
  | some value => cases value <;> simp

@[simp] theorem isSome_parameter (parameters : Dict) (name : String) : (parameter parameters name).isSome := rfl

theorem intOf_normal (parameters : Dict) (name : String) :
    (SubscriptionState.intOf .normal parameters name).isSome ↔ GivesInt parameters name := by
  rw [SubscriptionState.intOf, isSome_intValue, GivesInt]
  cases hget : parameters.get name.toList with
  | none => simp
  | some value => simp

theorem intOf_frozen {parameters : Dict} {name : String} (h : GivesInt parameters name) :
    SubscriptionState.intOf .frozen parameters name = SubscriptionState.intOf .normal parameters name := by
  rcases h with ⟨number, hget⟩ | ⟨text, hget, -⟩
  · simp only [SubscriptionState.intOf, intParameter, hget, Option.getD_some]
  · simp only [SubscriptionState.intOf, intParameter, hget, Option.getD_some]

/-! ### Comparisons -/

theorem genericHeader_compares :
    genericHeader.Compares fun header other => header.name = other.name ∧ header.body = other.body where
  comparison := ⟨_, fun _ _ => rfl, fun _ _ => rfl, fun _ _ => by simp⟩
  refl _ := ⟨rfl, rfl⟩
  symm _ _ h := ⟨h.1.symm, h.2.symm⟩

theorem equalURIs_iff (uri other : Option SIPURI) : equalURIs uri other = true ↔ SameURI uri other := by
  cases uri <;> cases other <;> simp [equalURIs, SameURI, SIPURI.eq_iff]

theorem SameURI.refl (uri : Option SIPURI) : SameURI uri uri := by
  cases uri with
  | none => trivial
  | some uri => exact SIPURI.Same.refl uri

theorem SameURI.symm {uri other : Option SIPURI} (h : SameURI uri other) : SameURI other uri := by
  cases uri with
  | none =>
      cases other with
      | none => trivial
      | some other => exact h
  | some uri =>
      cases other with
      | none => exact h
      | some other => exact SIPURI.Same.symm h

theorem contactHeader_compares : contactHeader.Compares Contact.Same where
  comparison := ⟨_, fun _ _ => rfl, fun _ _ => rfl, fun _ _ => by
    simp [Contact.equals, Contact.Same, equalURIs_iff, Dict.eq_iff]⟩
  refl _ := ⟨SameURI.refl _, rfl, Dict.Same.refl _⟩
  symm _ _ h := ⟨h.1.symm, h.2.1.symm, h.2.2.symm⟩

theorem identityHeader_compares (accessors : Dict → List (Option Accessed)) :
    (identityHeader accessors).Compares Identity.Same where
  comparison := ⟨_, fun _ _ => rfl, fun _ _ => rfl, fun _ _ => by
    simp [Identity.Same, SIPURI.eq_iff, Dict.eq_iff]⟩
  refl _ := ⟨SIPURI.Same.refl _, rfl, Dict.Same.refl _⟩
  symm _ _ h := ⟨h.1.symm, h.2.1.symm, h.2.2.symm⟩

theorem retryAfterHeader_compares : retryAfterHeader.Compares RetryAfter.Same where
  comparison := ⟨_, fun _ _ => rfl, fun _ _ => rfl, fun _ _ => by
    simp [RetryAfter.equals, RetryAfter.Same, Dict.eq_iff]⟩
  refl _ := ⟨rfl, rfl, Dict.Same.refl _⟩
  symm _ _ h := ⟨h.1.symm, h.2.1.symm, h.2.2.symm⟩

theorem viaHeader_compares : viaHeader.Compares Via.Same where
  comparison := ⟨_, fun _ _ => rfl, fun _ _ => rfl, fun _ _ => by simp [Via.equals, Via.Same, Dict.eq_iff]⟩
  refl _ := ⟨rfl, rfl, rfl, Dict.Same.refl _⟩
  symm _ _ h := ⟨h.1.symm, h.2.1.symm, h.2.2.1.symm, h.2.2.2.symm⟩

theorem warningHeader_compares : warningHeader.Compares Eq where
  comparison := ⟨_, fun _ _ => rfl, fun _ _ => rfl, fun fields other => by
    obtain ⟨code, agent, text, -⟩ := fields
    obtain ⟨code', agent', text', -⟩ := other
    simp [Warning.equals]⟩
  refl _ := rfl
  symm _ _ h := h.symm

theorem eventHeader_compares : eventHeader.Compares Event.Same where
  comparison := ⟨_, fun _ _ => rfl, fun _ _ => rfl, fun _ _ => by simp [Event.equals, Event.Same, Dict.eq_iff]⟩
  refl _ := ⟨rfl, Dict.Same.refl _⟩
  symm _ _ h := ⟨h.1.symm, h.2.symm⟩

theorem subscriptionStateHeader_compares : subscriptionStateHeader.Compares SubscriptionState.Same where
  comparison := ⟨_, fun _ _ => rfl, fun _ _ => rfl, fun _ _ => by
    simp [SubscriptionState.equals, SubscriptionState.Same, Dict.eq_iff]⟩
  refl _ := ⟨rfl, Dict.Same.refl _⟩
  symm _ _ h := ⟨h.1.symm, h.2.symm⟩

theorem referToHeader_compares : referToHeader.Compares ReferTo.Same where
  comparison := ⟨_, fun _ _ => rfl, fun _ _ => rfl, fun _ _ => by simp [ReferTo.equals, ReferTo.Same, Dict.eq_iff]⟩
  refl _ := ⟨rfl, Dict.Same.refl _⟩
  symm _ _ h := ⟨h.1.symm, h.2.symm⟩

theorem subjectHeader_compares : subjectHeader.Compares Eq where
  comparison := ⟨_, fun _ _ => rfl, fun _ _ => rfl, fun fields other => by
    obtain ⟨subject⟩ := fields
    obtain ⟨subject'⟩ := other
    simp⟩
  refl _ := rfl
  symm _ _ h := h.symm

/-! ### Hashes -/

theorem hashedURI_eq_iff {uri other : SIPURI} (h : uri.Same other) :
    hashedURI uri = hashedURI other ↔ SIPURI.listed uri = SIPURI.listed other := by
  simp [hashedURI, SIPURI.listed, h.user, h.password, h.host, h.port, h.secure]

theorem hashed_contact_iff {header other : Contact} (h : header.Same other) :
    contactHeader.hashed header = contactHeader.hashed other ↔
      Kind.contact.listed header = Kind.contact.listed other := by
  obtain ⟨uri, displayName, parameters, wildcard⟩ := header
  obtain ⟨uri', displayName', parameters', wildcard'⟩ := other
  obtain ⟨huri, hname, hparameters⟩ := h
  simp only at huri hname
  subst hname
  cases uri with
  | none =>
      cases uri' with
      | none => simp [contactHeader, Kind.listed]
      | some uri' => exact absurd huri (by simp [SameURI])
  | some uri =>
      cases uri' with
      | none => exact absurd huri (by simp [SameURI])
      | some uri' =>
          have hhashed := hashedURI_eq_iff huri
          simp [contactHeader, Kind.listed, hhashed, and_comm]

theorem hashed_identity_iff (accessors : Dict → List (Option Accessed)) {header other : Identity}
    (h : header.Same other) :
    (identityHeader accessors).hashed header = (identityHeader accessors).hashed other ↔
      Kind.fromParty.listed header = Kind.fromParty.listed other := by
  have hhashed := hashedURI_eq_iff h.1
  simp [identityHeader, Kind.listed, hhashed, h.2.1, and_comm]

/-! ### The laws of every kind -/

/-- The laws of a kind whose classes compare and convert. -/
theorem lawful_iff_safe_of_compares (kind : Kind) (h : kind.headerClass.Compares kind.Same)
    (hnew : ∀ source : Header kind.Fields, ∀ variant address, ∃ new,
      kind.headerClass.new variant address source = some new ∧ new.variant = variant ∧ new.fields = source.fields)
    (haccessors : ∀ fields : kind.Fields,
      (kind.headerClass.accessors .normal fields = kind.headerClass.accessors .frozen fields ∧
        ∀ result ∈ kind.headerClass.accessors .normal fields, result.isSome) ↔ kind.Sound fields)
    (hhashed : ∀ fields other : kind.Fields, kind.Same fields other →
      (kind.headerClass.hashed fields = kind.headerClass.hashed other ↔ kind.listed fields = kind.listed other))
    (header other : Header kind.Fields) :
    kind.headerClass.Lawful kind.Same header other ↔ kind.Safe header other := by
  rw [h.lawful_iff fun source _ => hnew source]
  constructor
  · rintro ⟨hsound, horder⟩
    exact ⟨fun source hsource => (haccessors _).mp (hsound source hsource), fun hheader hother hsame =>
      (hhashed _ _ hsame).mp (horder hheader hother hsame)⟩
  · rintro ⟨hsound, horder⟩
    exact ⟨fun source hsource => (haccessors _).mpr (hsound source hsource), fun hheader hother hsame =>
      (hhashed _ _ hsame).mpr (horder hheader hother hsame)⟩

theorem contentType_not_lawful (header other : Header ContentType) :
    ¬ contentTypeHeader.Lawful ContentType.Same header other := by
  intro hlaws
  obtain ⟨new, hnew, -, hequal⟩ := hlaws.converted header List.mem_cons_self .normal (header.address + 1) (by omega)
  unfold contentTypeHeader at hnew
  dsimp only at hnew
  rw [if_neg (by simp)] at hnew
  split at hnew
  · cases hnew
  · cases hnew
  -- a header without a content type is constructed, and its content type cannot be read
  · obtain rfl := Option.some.inj hnew
    cases hequal

theorem reason_not_lawful (header other : Header Reason) : ¬ reasonHeader.Lawful Reason.Same header other := by
  intro hlaws
  obtain ⟨new, hnew, -⟩ := hlaws.converted header List.mem_cons_self .normal (header.address + 1) (by omega)
  cases hnew

theorem replaces_not_lawful (header other : Header Replaces) :
    ¬ replacesHeader.Lawful Replaces.Same header other := by
  intro hlaws
  obtain ⟨new, hnew, -, hequal⟩ := hlaws.converted header List.mem_cons_self .normal (header.address + 1) (by omega)
  have hfields : new = ⟨.normal, header.address + 1, header.fields⟩ := (Option.some.inj hnew).symm
  have hraises : replacesHeader.eq new.fields header.fields = none := by
    rw [hfields]
    exact if_pos ⟨rfl, rfl, rfl⟩
  rw [Class.equal, hraises] at hequal
  cases hequal

theorem contact_lawful_iff (header other : Header Contact) :
    contactHeader.Lawful Contact.Same header other ↔ Kind.contact.Safe header other := by
  by_cases huri : ∀ source ∈ [header, other], source.fields.uri ≠ none
  · have hnew : ∀ source ∈ [header, other], ∀ variant address, ∃ new,
        contactHeader.new variant address source = some new ∧ new.variant = variant ∧
          new.fields = source.fields := by
      intro source hsource variant address
      obtain ⟨new, hnew, hconverted⟩ := construct_converts source variant address
      refine ⟨new, ?_, hconverted⟩
      rw [construct] at hnew
      show (if _ then _ else if source.fields.uri = none then none else _) = _
      rw [if_neg (huri source hsource)]
      exact hnew
    rw [contactHeader_compares.lawful_iff hnew]
    have haccessors : ∀ fields : Contact, (∀ result ∈ contactHeader.accessors .normal fields, result.isSome) ↔
        ReadsFloat fields.parameters "q" ∧ Reads intStr fields.parameters "expires" := fun fields => by
      simp [contactHeader, isSome_floatParameter, isSome_intParameter]
    constructor
    · rintro ⟨hsound, horder⟩
      exact ⟨fun source hsource => ⟨huri source hsource, (haccessors _).mp (hsound source hsource).2⟩,
        fun hheader hother hsame => (hashed_contact_iff hsame).mp (horder hheader hother hsame)⟩
    · rintro ⟨hsound, horder⟩
      exact ⟨fun source hsource => ⟨rfl, (haccessors _).mpr (hsound source hsource).2⟩,
        fun hheader hother hsame => (hashed_contact_iff hsame).mpr (horder hheader hother hsame)⟩
  · constructor
    · intro hlaws
      refine absurd (fun source hsource hnone => ?_) huri
      obtain ⟨new, hnew, -⟩ := hlaws.converted source hsource .normal (source.address + 1) (by omega)
      have hnew : (if source.fields.uri = none then none else some ⟨.normal, source.address + 1, source.fields⟩) =
        some new := hnew
      rw [if_pos hnone] at hnew
      cases hnew
    · intro hsafe
      exact absurd (fun source hsource => (hsafe.sound source hsource).1) huri

/-- The laws hold of two headers of a kind exactly if they are safe. -/
theorem Kind.lawful_iff_safe (kind : Kind) (header other : Header kind.Fields) :
    kind.headerClass.Lawful kind.Same header other ↔ kind.Safe header other := by
  cases kind with
  | generic =>
      refine lawful_iff_safe_of_compares .generic genericHeader_compares construct_converts (fun fields => ?_)
        (fun fields other hsame => ?_) header other
      · simp [Kind.headerClass, genericHeader, Kind.Sound]
      · simp [Kind.headerClass, genericHeader, Kind.listed, hsame.1, hsame.2]
  | contentType =>
      exact ⟨fun h => absurd h (contentType_not_lawful header other),
        fun h => (h.sound header List.mem_cons_self).elim⟩
  | contact => exact contact_lawful_iff header other
  | fromParty =>
      refine lawful_iff_safe_of_compares .fromParty (identityHeader_compares fun parameters => [parameter parameters "tag"])
        construct_converts (fun fields => ?_) (fun _ _ hsame => hashed_identity_iff (fun _ => []) hsame) header other
      simp [Kind.headerClass, fromHeader, identityHeader, Kind.Sound]
  | toParty =>
      refine lawful_iff_safe_of_compares .toParty (identityHeader_compares fun parameters => [parameter parameters "tag"])
        construct_converts (fun fields => ?_) (fun _ _ hsame => hashed_identity_iff (fun _ => []) hsame) header other
      simp [Kind.headerClass, toHeader, identityHeader, Kind.Sound]
  | route =>
      refine lawful_iff_safe_of_compares .route (identityHeader_compares fun _ => [])
        construct_converts (fun fields => ?_) (fun _ _ hsame => hashed_identity_iff (fun _ => []) hsame) header other
      simp [Kind.headerClass, routeHeader, identityHeader, Kind.Sound]
  | recordRoute =>
      refine lawful_iff_safe_of_compares .recordRoute (identityHeader_compares fun _ => [])
        construct_converts (fun fields => ?_) (fun _ _ hsame => hashed_identity_iff (fun _ => []) hsame) header other
      simp [Kind.headerClass, recordRouteHeader, identityHeader, Kind.Sound]
  | retryAfter =>
      refine lawful_iff_safe_of_compares .retryAfter retryAfterHeader_compares construct_converts (fun fields => ?_)
        (fun fields other hsame => ?_) header other
      · simp [Kind.headerClass, retryAfterHeader, Kind.Sound, isSome_intParameter]
      · simp [Kind.headerClass, retryAfterHeader, Kind.listed, hsame.1, hsame.2.1]
  | via =>
      refine lawful_iff_safe_of_compares .via viaHeader_compares construct_converts (fun fields => ?_)
        (fun fields other hsame => ?_) header other
      · simp [Kind.headerClass, viaHeader, Kind.Sound, isSome_intParameter]
      · simp [Kind.headerClass, viaHeader, Kind.listed, hsame.1, hsame.2.1, hsame.2.2.1]
  | warning =>
      refine lawful_iff_safe_of_compares .warning warningHeader_compares construct_converts (fun fields => ?_)
        (fun fields other hsame => ?_) header other
      · simp [Kind.headerClass, warningHeader, Kind.Sound]
      · obtain rfl : fields = other := hsame
        exact Iff.intro (fun _ => rfl) fun _ => rfl
  | event =>
      refine lawful_iff_safe_of_compares .event eventHeader_compares construct_converts (fun fields => ?_)
        (fun fields other hsame => ?_) header other
      · simp [Kind.headerClass, eventHeader, Kind.Sound]
      · simp [Kind.headerClass, eventHeader, Kind.listed, hsame.1]
  | subscriptionState =>
      refine lawful_iff_safe_of_compares .subscriptionState subscriptionStateHeader_compares construct_converts (fun fields => ?_)
        (fun fields other hsame => ?_) header other
      · simp only [Kind.headerClass, subscriptionStateHeader, Kind.Sound, List.forall_mem_cons, intOf_normal,
          isSome_parameter, List.not_mem_nil, false_implies, implies_true, and_true, true_and]
        refine ⟨And.right, fun h => ⟨?_, h⟩⟩
        rw [intOf_frozen h.1, intOf_frozen h.2]
      · simp [Kind.headerClass, subscriptionStateHeader, Kind.listed, hsame.1]
  | reason =>
      exact ⟨fun h => absurd h (reason_not_lawful header other),
        fun h => (h.sound header List.mem_cons_self).elim⟩
  | referTo =>
      refine lawful_iff_safe_of_compares .referTo referToHeader_compares construct_converts (fun fields => ?_)
        (fun fields other hsame => ?_) header other
      · simp [Kind.headerClass, referToHeader, Kind.Sound]
      · simp [Kind.headerClass, referToHeader, Kind.listed, hsame.1]
  | subject =>
      refine lawful_iff_safe_of_compares .subject subjectHeader_compares (fun source variant address => ?_) (fun fields => ?_)
        (fun fields other hsame => ?_) header other
      · show ∃ new, (if source.variant = variant then some source else some ⟨variant, address, source.fields⟩) =
          some new ∧ new.variant = variant ∧ new.fields = source.fields
        split
        next h => exact ⟨source, rfl, h, rfl⟩
        next => exact ⟨_, rfl, rfl, rfl⟩
      · simp [Kind.headerClass, subjectHeader, Kind.Sound]
      · obtain rfl : fields = other := hsame
        exact Iff.intro (fun _ => rfl) fun _ => rfl
  | replaces =>
      exact ⟨fun h => absurd h (replaces_not_lawful header other),
        fun h => (h.sound header List.mem_cons_self).elim⟩

/-- The frozen wildcard contact is not converted to a mutable one. -/
theorem Kind.wildcard_not_lawful :
    ¬ ∀ (kind : Kind) (header other : Header kind.Fields), kind.headerClass.Lawful kind.Same header other := by
  intro h
  let wildcard : Header Contact := ⟨.frozen, 0, ⟨none, none, Dict.empty, fun _ => ⟨rfl, rfl⟩⟩⟩
  obtain ⟨new, hnew, -⟩ := (h .contact wildcard wildcard).converted wildcard List.mem_cons_self .normal 1 (by decide)
  cases hnew

end SipSimple.Core.Headers
