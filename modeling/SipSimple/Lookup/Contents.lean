import SipSimple.Lookup.DNSLookup
import SipSimple.Library.StableSort

/-!
# What the lookups read

The names of the DNS with what they stand for, without the queries: the addresses of a host, the results of a service,
the pointers of a domain. Each lookup gives what is there or runs out of time, and then with a query of its own.
-/

namespace SipSimple.Lookup

open SipSimple.Core

/-! ### Orders -/

namespace SRVRecord

def Before (left right : SRVRecord) : Prop :=
  left.priority < right.priority ∨ left.priority = right.priority ∧ right.weight ≤ left.weight

instance : DecidableRel Before := fun left right => by
  unfold Before
  infer_instance

instance : Std.Refl Before := ⟨fun _ => Or.inr ⟨rfl, Nat.le_refl _⟩⟩

instance : Std.Total Before := ⟨fun left right => by unfold Before; omega⟩

instance : IsTrans SRVRecord Before := ⟨fun left middle right hleft hright => by unfold Before at *; omega⟩

end SRVRecord

namespace NAPTRRecord

def Before (left right : NAPTRRecord) : Prop :=
  left.order < right.order ∨ left.order = right.order ∧ left.preference ≤ right.preference

instance : DecidableRel Before := fun left right => by
  unfold Before
  infer_instance

instance : Std.Refl Before := ⟨fun _ => Or.inr ⟨rfl, Nat.le_refl _⟩⟩

instance : Std.Total Before := ⟨fun left right => by unfold Before; omega⟩

instance : IsTrans NAPTRRecord Before := ⟨fun left middle right hleft hright => by unfold Before at *; omega⟩

end NAPTRRecord

theorem before_results {left right : SRVRecord} {addresses others : List Str} {entry other : SRVResult}
    (hentry : entry ∈ left.results addresses) (hother : other ∈ right.results others) :
    entry.Before other ↔ left.Before right := by
  obtain ⟨address, -, rfl⟩ := List.mem_map.mp hentry
  obtain ⟨address, -, rfl⟩ := List.mem_map.mp hother
  exact Iff.rfl

theorem before_pointers {left right : NAPTRRecord} {services others : List SRVResult} {entry other : NAPTRResult}
    (hentry : entry ∈ left.results services) (hother : other ∈ right.results others) :
    entry.Before other ↔ left.Before right := by
  obtain ⟨result, -, rfl⟩ := List.mem_map.mp hentry
  obtain ⟨result, -, rfl⟩ := List.mem_map.mp hother
  exact Iff.rfl

/-! ### The contents -/

namespace DNS

variable (dns : DNS)

def addresses (additional : List RRset) (hostname : Str) : List Str :=
  match additionalAddresses additional hostname with
  | some records => records.map ARecord.address
  | none => (dns.a hostname).elim [] fun answer => answer.rrset.map ARecord.address

/-- The records of a service with the additional section that comes with them. -/
def srvRecords (additional : List RRset) (name : Str) : List SRVRecord × List RRset :=
  match additionalServices additional name with
  | some records => (records, additional)
  | none => (dns.srv name).elim ([], []) fun answer => (answer.rrset, answer.additional)

def targetResults (additional : List RRset) (records : List SRVRecord) : List SRVResult :=
  records.flatMap fun record => record.results (dns.addresses additional record.target)

def results (additional : List RRset) (name : Str) : List SRVResult :=
  (dns.targetResults (dns.srvRecords additional name).2 (dns.srvRecords additional name).1).insertionSort
    SRVResult.Before

/-- The records of a domain with one of the services, and the additional section. -/
def naptrRecords (domain : Str) (services : List Str) : List NAPTRRecord × List RRset :=
  (dns.naptr domain).elim ([], []) fun answer =>
    (answer.rrset.filter (fun record => lower record.service ∈ services), answer.additional)

def pointers (domain : Str) (services : List Str) : List NAPTRResult :=
  ((dns.naptrRecords domain services).1.flatMap fun record =>
    record.results (dns.results (dns.naptrRecords domain services).2 record.replacement)).insertionSort
      NAPTRResult.Before

/-- **The results of a service** are those of its records, in the order of the records. -/
theorem results_eq (additional : List RRset) (name : Str) :
    dns.results additional name = ((dns.srvRecords additional name).1.insertionSort SRVRecord.Before).flatMap
      fun record => record.results (dns.addresses (dns.srvRecords additional name).2 record.target) :=
  StableSort.insertionSort_flatMap _ fun _ _ _ hentry _ hother => before_results hentry hother

/-- **The pointers of a domain** are those of its records, in the order of the records. -/
theorem pointers_eq (domain : Str) (services : List Str) :
    dns.pointers domain services = ((dns.naptrRecords domain services).1.insertionSort NAPTRRecord.Before).flatMap
      fun record => record.results (dns.results (dns.naptrRecords domain services).2 record.replacement) :=
  StableSort.insertionSort_flatMap _ fun _ _ _ hentry _ hother => before_pointers hentry hother

/-! ### Additional records -/

/-- A loop over the record sets that only ever takes the records of one finds records that are there. -/
theorem foldl_found {β : Type} {rset : β → RRset} {step : Option β → RRset → Option β} {additional : List RRset}
    {records : β}
    (hstep : ∀ found given taken, step found given = some taken → found = some taken ∨ given = rset taken)
    (h : additional.foldl step none = some records) : rset records ∈ additional := by
  refine List.foldlRecOn (motive := fun found => ∀ taken, found = some taken → rset taken ∈ additional) additional
    step ?_ ?_ records h
  · intro taken htaken
    cases htaken
  · intro found hfound given hgiven taken htaken
    rcases hstep found given taken htaken with hkept | rfl
    · exact hfound taken hkept
    · exact hgiven

theorem additionalAddresses_mem {additional : List RRset} {name : Str} {records : List ARecord}
    (h : additionalAddresses additional name = some records) : RRset.a name records ∈ additional := by
  refine foldl_found (fun found given taken htaken => ?_) h
  cases given with
  | a other records =>
      dsimp only at htaken
      split_ifs at htaken with hname
      · exact Or.inr (by rw [hname, Option.some.inj htaken])
      · exact Or.inl htaken
  | _ => exact Or.inl htaken

theorem additionalServices_mem {additional : List RRset} {name : Str} {records : List SRVRecord}
    (h : additionalServices additional name = some records) : RRset.srv name records ∈ additional := by
  refine foldl_found (fun found given taken htaken => ?_) h
  cases given with
  | srv other records =>
      dsimp only at htaken
      split_ifs at htaken with hname
      · exact Or.inr (by rw [hname, Option.some.inj htaken])
      · exact Or.inl htaken
  | _ => exact Or.inl htaken

/-! ### The queries of a lookup -/

/-- A query of the name that ran out of time. -/
def Expired (rdtype : RdataType) (name : Str) (query : Query) : Prop :=
  query = ⟨rdtype, name, true⟩ ∧ ∃ past, dns.timesOut past rdtype name = true

def TargetExpired (records : List SRVRecord) (query : Query) : Prop :=
  ∃ record ∈ records, dns.Expired .a record.target query

/-- A query for the service, or for the address of one of its targets. -/
def ServiceExpired (additional : List RRset) (name : Str) (query : Query) : Prop :=
  dns.Expired .srv name query ∨ dns.TargetExpired (dns.srvRecords additional name).1 query

def PointerExpired (domain : Str) (services : List Str) (query : Query) : Prop :=
  dns.Expired .naptr domain query ∨ ∃ record ∈ (dns.naptrRecords domain services).1,
    dns.ServiceExpired (dns.naptrRecords domain services).2 record.replacement query

variable {dns}

theorem gives_query {Record : Type} (rdtype : RdataType) (name : Str) (content : Option (Answer Record)) :
    (dns.query rdtype name content).Gives content .timeout (dns.Expired rdtype name) := by
  intro queries
  refine ⟨[⟨rdtype, name, dns.timesOut queries rdtype name⟩], rfl, ?_⟩
  rw [query]
  cases hexpired : dns.timesOut queries rdtype name with
  | false => exact Or.inl rfl
  | true => exact Or.inr ⟨rfl, _, List.mem_singleton_self _, rfl, queries, hexpired⟩

end DNS

/-! ### The lookups -/

variable {dns : DNS}

theorem foldl_update {β : Type} (names : List Str) (value : Str → β) (start : Str → Option β) (name : Str) :
    names.foldl (fun found name => Function.update found name (some (value name))) start name =
      if name ∈ names then some (value name) else start name := by
  induction names generalizing start with
  | nil => simp
  | cons first names ih =>
      rw [List.foldl_cons, ih]
      by_cases hmem : name ∈ names
      · simp [hmem]
      · by_cases hname : name = first
        · subst hname
          simp
        · simp [hmem, hname]

theorem gives_lookupARecords (hostnames : List Str) (additional : List RRset) :
    (lookupARecords dns hostnames additional).Gives
      (fun hostname => if hostname ∈ hostnames then some (dns.addresses additional hostname) else none) .timeout
      (fun query => ∃ hostname ∈ hostnames, dns.Expired .a hostname query) := by
  have hvalue : (fun hostname => if hostname ∈ hostnames then some (dns.addresses additional hostname) else none) =
      hostnames.foldl (fun found hostname =>
        Function.update found hostname (some (dns.addresses additional hostname))) fun _ => none := by
    funext hostname
    rw [foldl_update]
  rw [hvalue]
  refine Logged.gives_foldlM (fun found hostname hmem => ?_) _
  rw [DNS.addresses]
  cases additionalAddresses additional hostname with
  | some records => exact Logged.gives_pure _
  | none =>
      refine ((DNS.gives_query .a hostname (dns.a hostname)).mono _ fun query hquery => ⟨hostname, hmem, hquery⟩).bind ?_
      cases dns.a hostname with
      | none => exact Logged.gives_pure _
      | some answer => exact Logged.gives_pure _

theorem gives_lookupTargets (records : List SRVRecord) (additional : List RRset) :
    (lookupTargets dns records additional).Gives (dns.targetResults additional records) .timeout
      (dns.TargetExpired records) := by
  have haddresses : (lookupARecords dns (records.map SRVRecord.target) additional).Gives _ .timeout
      (dns.TargetExpired records) :=
    (gives_lookupARecords _ additional).mono _ fun query ⟨hostname, hmem, hquery⟩ => by
      obtain ⟨record, hrecord, rfl⟩ := List.mem_map.mp hmem
      exact ⟨record, hrecord, hquery⟩
  refine haddresses.bind ?_
  have hvalue : dns.targetResults additional records = records.flatMap fun record =>
      record.results (((if record.target ∈ records.map SRVRecord.target then
        some (dns.addresses additional record.target) else none).getD [])) := by
    refine List.flatMap_congr fun record hrecord => ?_
    rw [if_pos (List.mem_map_of_mem hrecord), Option.getD_some]
  rw [hvalue]
  exact Logged.gives_pure _

theorem gives_serviceResults (name : Str) (additional : List RRset) :
    (serviceResults dns name additional).Gives
      (dns.targetResults (dns.srvRecords additional name).2 (dns.srvRecords additional name).1) .timeout
      (dns.ServiceExpired additional name) := by
  have htargets : ∀ records rest, dns.srvRecords additional name = (records, rest) →
      (lookupTargets dns records rest).Gives (dns.targetResults rest records) .timeout
        (dns.ServiceExpired additional name) := by
    intro records rest hrecords
    refine (gives_lookupTargets records rest).mono _ fun query hquery => Or.inr ?_
    rwa [hrecords]
  rw [serviceResults]
  cases hadditional : additionalServices additional name with
  | some records =>
      have hrecords : dns.srvRecords additional name = (records, additional) := by
        rw [DNS.srvRecords, hadditional]
      rw [hrecords]
      exact htargets records additional hrecords
  | none =>
      have hrecords : dns.srvRecords additional name =
          (dns.srv name).elim ([], []) fun answer => (answer.rrset, answer.additional) := by
        rw [DNS.srvRecords, hadditional]
      refine ((DNS.gives_query .srv name (dns.srv name)).mono (dns.ServiceExpired additional name)
        fun query hquery => Or.inl hquery).bind ?_
      cases hanswer : dns.srv name with
      | none =>
          rw [hrecords, hanswer]
          exact Logged.gives_pure _
      | some answer =>
          rw [hanswer] at hrecords
          rw [hrecords]
          exact htargets answer.rrset answer.additional hrecords

theorem gives_lookupSrvRecords (names : List Str) (additional : List RRset) :
    (lookupSrvRecords dns names additional).Gives
      (fun name => if name ∈ names then some (dns.results additional name) else none) .timeout
      (fun query => ∃ name ∈ names, dns.ServiceExpired additional name query) := by
  have hvalue : (fun name => if name ∈ names then some (dns.results additional name) else none) =
      names.foldl (fun found name => Function.update found name (some (dns.results additional name)))
        fun _ => none := by
    funext name
    rw [foldl_update]
  rw [hvalue]
  refine Logged.gives_foldlM (fun found name hmem => ?_) _
  exact ((gives_serviceResults name additional).mono _ fun query hquery => ⟨name, hmem, hquery⟩).bind
    (Logged.gives_pure _)

theorem gives_lookupNaptrRecord (domain : Str) (services : List Str) :
    (lookupNaptrRecord dns domain services).Gives (dns.pointers domain services) .timeout
      (dns.PointerExpired domain services) := by
  refine ((DNS.gives_query .naptr domain (dns.naptr domain)).mono
    (dns.PointerExpired domain services) fun query hquery => Or.inl hquery).bind ?_
  cases hanswer : dns.naptr domain with
  | none =>
      have hpointers : dns.pointers domain services = [] := by
        rw [DNS.pointers, DNS.naptrRecords, hanswer]
        rfl
      rw [hpointers]
      exact Logged.gives_pure _
  | some answer =>
      have hrecords : dns.naptrRecords domain services =
          (answer.rrset.filter (fun record => lower record.service ∈ services), answer.additional) := by
        rw [DNS.naptrRecords, hanswer]
        rfl
      have hfound : (lookupSrvRecords dns ((dns.naptrRecords domain services).1.map NAPTRRecord.replacement)
          (dns.naptrRecords domain services).2).Gives _ .timeout (dns.PointerExpired domain services) :=
        (gives_lookupSrvRecords _ _).mono _ fun query ⟨name, hmem, hquery⟩ => by
          obtain ⟨record, hrecord, rfl⟩ := List.mem_map.mp hmem
          exact Or.inr ⟨record, hrecord, hquery⟩
      rw [hrecords] at hfound
      refine hfound.bind ?_
      have hvalue : dns.pointers domain services = ((dns.naptrRecords domain services).1.flatMap fun record =>
          record.results (((if record.replacement ∈
              (dns.naptrRecords domain services).1.map NAPTRRecord.replacement then
            some (dns.results (dns.naptrRecords domain services).2 record.replacement) else none).getD
              []))).insertionSort NAPTRResult.Before := by
        rw [DNS.pointers]
        congr 1
        refine List.flatMap_congr fun record hrecord => ?_
        rw [if_pos (List.mem_map_of_mem hrecord), Option.getD_some]
      rw [hvalue, hrecords]
      exact Logged.gives_pure _

end SipSimple.Lookup
