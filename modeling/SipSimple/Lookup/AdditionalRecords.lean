import SipSimple.Lookup.SIPProxy

/-!
# Additional records

An answer brings records that save later queries. Where these are the records that the queries would give, and no query
runs out of time, a lookup ends as it does without them.
-/

namespace SipSimple.Lookup

open SipSimple.Core

namespace DNS

/-- The DNS with the answers only. -/
def withoutAdditional (dns : DNS) : DNS where
  a name := (dns.a name).map fun answer => ⟨answer.rrset, []⟩
  srv name := (dns.srv name).map fun answer => ⟨answer.rrset, []⟩
  naptr domain := (dns.naptr domain).map fun answer => ⟨answer.rrset, []⟩
  timesOut := dns.timesOut

/-- No query runs out of time. -/
def Prompt (dns : DNS) : Prop := ∀ past rdtype name, dns.timesOut past rdtype name = false

/-- The additional records are those that a query gives. -/
structure Agrees (dns : DNS) (additional : List RRset) : Prop where
  a : ∀ name records, RRset.a name records ∈ additional → (dns.a name).map Answer.rrset = some records
  srv : ∀ name records, RRset.srv name records ∈ additional → (dns.srv name).map Answer.rrset = some records

structure Consistent (dns : DNS) : Prop where
  srv : ∀ name answer, dns.srv name = some answer → dns.Agrees answer.additional
  naptr : ∀ domain answer, dns.naptr domain = some answer → dns.Agrees answer.additional

variable {dns : DNS}

theorem agrees_nil : dns.Agrees [] where
  a _ _ h := absurd h List.not_mem_nil
  srv _ _ h := absurd h List.not_mem_nil

theorem Consistent.srvRecords (h : dns.Consistent) {additional : List RRset} (hadditional : dns.Agrees additional)
    (name : Str) : dns.Agrees (dns.srvRecords additional name).2 := by
  rw [DNS.srvRecords]
  split
  · exact hadditional
  · cases hanswer : dns.srv name with
    | none => exact agrees_nil
    | some answer => exact h.srv name answer hanswer

theorem Consistent.naptrRecords (h : dns.Consistent) (domain : Str) (services : List Str) :
    dns.Agrees (dns.naptrRecords domain services).2 := by
  rw [DNS.naptrRecords]
  cases hanswer : dns.naptr domain with
  | none => exact agrees_nil
  | some answer => exact h.naptr domain answer hanswer

/-! ### The contents -/

theorem withoutAdditional_addresses {additional : List RRset} (hadditional : dns.Agrees additional) (hostname : Str) :
    dns.withoutAdditional.addresses [] hostname = dns.addresses additional hostname := by
  have hplain : dns.withoutAdditional.addresses [] hostname =
      ((dns.a hostname).map Answer.rrset).elim [] (List.map ARecord.address) := by
    show ((dns.a hostname).map _).elim [] _ = _
    cases dns.a hostname <;> rfl
  rw [hplain, addresses]
  cases hfound : additionalAddresses additional hostname with
  | some records => rw [hadditional.a hostname records (additionalAddresses_mem hfound)]; rfl
  | none => cases dns.a hostname <;> rfl

theorem withoutAdditional_srvRecords {additional : List RRset} (hadditional : dns.Agrees additional) (name : Str) :
    dns.withoutAdditional.srvRecords [] name = ((dns.srvRecords additional name).1, []) := by
  have hplain : dns.withoutAdditional.srvRecords [] name =
      (((dns.srv name).map Answer.rrset).getD [], []) := by
    show ((dns.srv name).map _).elim ([], []) _ = _
    cases dns.srv name <;> rfl
  rw [hplain, srvRecords]
  cases hfound : additionalServices additional name with
  | some records => rw [hadditional.srv name records (additionalServices_mem hfound)]; rfl
  | none => cases dns.srv name <;> rfl

theorem withoutAdditional_results (h : dns.Consistent) {additional : List RRset} (hadditional : dns.Agrees additional)
    (name : Str) : dns.withoutAdditional.results [] name = dns.results additional name := by
  rw [results, results, withoutAdditional_srvRecords hadditional, targetResults, targetResults]
  congr 1
  refine List.flatMap_congr fun record _ => ?_
  rw [withoutAdditional_addresses (h.srvRecords hadditional name)]

theorem withoutAdditional_pointers (h : dns.Consistent) (domain : Str) (services : List Str) :
    dns.withoutAdditional.pointers domain services = dns.pointers domain services := by
  have hrecords : dns.withoutAdditional.naptrRecords domain services =
      ((dns.naptrRecords domain services).1, []) := by
    rw [naptrRecords, naptrRecords]
    show ((dns.naptr domain).map _).elim ([], []) _ = _
    cases dns.naptr domain <;> rfl
  rw [pointers, pointers, hrecords]
  congr 1
  refine List.flatMap_congr fun record _ => ?_
  rw [withoutAdditional_results h (h.naptrRecords domain services)]

/-! ### The lookups -/

theorem Prompt.not_expired (h : dns.Prompt) {rdtype : RdataType} {name : Str} {query : Query} :
    ¬dns.Expired rdtype name query := by
  rintro ⟨-, past, hpast⟩
  rw [h past rdtype name] at hpast
  cases hpast

theorem Prompt.not_serviceExpired (h : dns.Prompt) {additional : List RRset} {name : Str} {query : Query} :
    ¬dns.ServiceExpired additional name query := by
  rintro (hquery | ⟨record, -, hquery⟩)
  · exact h.not_expired hquery
  · exact h.not_expired hquery

theorem Prompt.withoutAdditional (h : dns.Prompt) : dns.withoutAdditional.Prompt := h

theorem Prompt.not_aExpired (h : dns.Prompt) {hostnames : List Str} (query : Query) :
    ¬∃ hostname ∈ hostnames, dns.Expired .a hostname query :=
  fun ⟨_, _, hquery⟩ => h.not_expired hquery

theorem Prompt.not_srvExpired (h : dns.Prompt) {names : List Str} (query : Query) :
    ¬∃ name ∈ names, dns.ServiceExpired [] name query :=
  fun ⟨_, _, hquery⟩ => h.not_serviceExpired hquery

theorem Prompt.not_pointerExpired (h : dns.Prompt) {domain : Str} {services : List Str} (query : Query) :
    ¬dns.PointerExpired domain services query := by
  rintro (hquery | ⟨record, -, hquery⟩)
  · exact h.not_expired hquery
  · exact h.not_serviceExpired hquery

end DNS

variable {dns : DNS}

theorem agree_lookupARecords (hprompt : dns.Prompt) (hostnames : List Str) :
    (lookupARecords dns hostnames []).Agree (lookupARecords dns.withoutAdditional hostnames []) := by
  have hvalue : (lookupARecords dns.withoutAdditional hostnames []).Gives _ .timeout _ :=
    gives_lookupARecords hostnames []
  simp only [DNS.withoutAdditional_addresses DNS.agrees_nil] at hvalue
  exact (gives_lookupARecords hostnames []).agree hvalue hprompt.not_aExpired
    hprompt.withoutAdditional.not_aExpired

theorem agree_lookupSrvRecords (hprompt : dns.Prompt) (hconsistent : dns.Consistent) (names : List Str) :
    (lookupSrvRecords dns names []).Agree (lookupSrvRecords dns.withoutAdditional names []) := by
  have hvalue : (lookupSrvRecords dns.withoutAdditional names []).Gives _ .timeout _ :=
    gives_lookupSrvRecords names []
  simp only [DNS.withoutAdditional_results hconsistent DNS.agrees_nil] at hvalue
  exact (gives_lookupSrvRecords names []).agree hvalue hprompt.not_srvExpired
    hprompt.withoutAdditional.not_srvExpired

theorem agree_lookupNaptrRecord (hprompt : dns.Prompt) (hconsistent : dns.Consistent) (domain : Str)
    (services : List Str) : (lookupNaptrRecord dns domain services).Agree
      (lookupNaptrRecord dns.withoutAdditional domain services) := by
  have hvalue : (lookupNaptrRecord dns.withoutAdditional domain services).Gives _ .timeout _ :=
    gives_lookupNaptrRecord domain services
  rw [DNS.withoutAdditional_pointers hconsistent] at hvalue
  exact (gives_lookupNaptrRecord domain services).agree hvalue hprompt.not_pointerExpired
    hprompt.withoutAdditional.not_pointerExpired

theorem agree_makeRoutes (hops : List (Str × Nat × Transport)) : (makeRoutes hops).Agree (makeRoutes hops) := by
  rw [makeRoutes]
  split
  · exact Logged.agree_pure _
  · exact Logged.agree_raise _

theorem agree_returned {routes : DNSLookup (List Route)} (h : routes.Agree routes) :
    (some <$> routes).Agree (some <$> routes) := Logged.Agree.bind h fun _ => Logged.agree_pure _

theorem agree_pointerRoutes (pointers : List NAPTRResult) :
    (pointerRoutes pointers).Agree (pointerRoutes pointers) := by
  rw [pointerRoutes]
  split
  · exact agree_makeRoutes _
  · exact Logged.agree_raise _

theorem agree_onTimeout {α : Type} (value : α) (failure : LookupFailure) :
    (onTimeout value failure).Agree (onTimeout value failure) := by
  cases failure with
  | timeout => exact Logged.agree_pure value
  | _ => exact Logged.agree_raise _

theorem agree_failWith {α : Type} (message : String) (uri : SIPURI) :
    (failWith message uri : DNSLookup α).Agree (failWith message uri) := by
  rw [failWith]
  split
  · exact Logged.agree_raise _
  · exact Logged.agree_raise _

theorem agree_dictated (uri : SIPURI) (supported : List Transport) :
    (dictated uri supported).Agree (dictated uri supported) := by
  have htransport : (dictatedTransport uri).Agree (dictatedTransport uri) := by
    rw [dictatedTransport]
    split
    · exact Logged.agree_pure _
    split
    · exact Logged.agree_pure _
    · exact Logged.agree_pure _
    · exact Logged.agree_raise _
  refine htransport.bind fun transport => ?_
  cases Transport.among supported transport with
  | none => exact Logged.agree_raise _
  | some transport => exact Logged.agree_pure transport

theorem agree_addressRoutes (hprompt : dns.Prompt) (host : Str) (port : Nat) (transport : Transport) :
    (addressRoutes dns host port transport).Agree (addressRoutes dns.withoutAdditional host port transport) := by
  refine (agree_lookupARecords hprompt [host]).bind fun addresses => ?_
  cases (addresses host).getD [] with
  | nil => exact Logged.agree_pure none
  | cons first rest => exact agree_returned (agree_makeRoutes _)

theorem agree_parameterRoutes (hprompt : dns.Prompt) (hconsistent : dns.Consistent) (uri : SIPURI)
    (supported : List Transport) (parameter : Value) : (parameterRoutes dns uri supported parameter).Agree
      (parameterRoutes dns.withoutAdditional uri supported parameter) := by
  cases parameter with
  | str text =>
      rw [parameterRoutes, parameterRoutes, namedRoutes, namedRoutes]
      cases Transport.among supported (lower text) with
      | none => exact Logged.agree_raise _
      | some transport =>
          dsimp only
          by_cases hsecure : uri.secure ∧ transport ≠ .tls
          · rw [if_pos hsecure, if_pos hsecure]
            exact Logged.agree_raise _
          · rw [if_neg hsecure, if_neg hsecure]
            refine (agree_lookupSrvRecords hprompt hconsistent _).bind fun services => ?_
            cases (services (recordName transport uri.host)).getD [] with
            | nil => exact agree_addressRoutes hprompt _ _ _
            | cons first rest => exact agree_returned (agree_makeRoutes _)
  | _ => exact Logged.agree_raise _

theorem agree_serviceRoutes (hprompt : dns.Prompt) (hconsistent : dns.Consistent) (host : Str)
    (supported : List Transport) :
    (serviceRoutes dns host supported).Agree (serviceRoutes dns.withoutAdditional host supported) := by
  refine Logged.agree_foldlM supported (fun routes transport => ?_) []
  refine Logged.Agree.bind (Logged.Agree.handle (Logged.Agree.bind (agree_lookupSrvRecords hprompt hconsistent _)
    fun _ => Logged.agree_pure _) (agree_onTimeout none)) fun services => ?_
  cases services with
  | none => exact Logged.agree_pure _
  | some services => exact (agree_makeRoutes _).bind fun _ => Logged.agree_pure _

theorem agree_fullRoutes (hprompt : dns.Prompt) (hconsistent : dns.Consistent) (uri : SIPURI)
    (supported : List Transport) :
    (fullRoutes dns uri supported).Agree (fullRoutes dns.withoutAdditional uri supported) := by
  refine Logged.Agree.bind (Logged.Agree.handle (agree_lookupNaptrRecord hprompt hconsistent _ _)
    (agree_onTimeout [])) fun pointers => ?_
  by_cases hpointers : pointers ≠ []
  · rw [if_pos hpointers, if_pos hpointers]
    exact agree_returned (agree_pointerRoutes pointers)
  · rw [if_neg hpointers, if_neg hpointers]
    refine (agree_serviceRoutes hprompt hconsistent uri.host supported).bind fun routes => ?_
    by_cases hroutes : routes ≠ []
    · rw [if_pos hroutes, if_pos hroutes]
      exact Logged.agree_pure (some routes)
    · rw [if_neg hroutes, if_neg hroutes]
      dsimp only
      by_cases hcandidate : (if uri.secure then Transport.tls else .udp) ∈ supported
      · rw [if_pos hcandidate, if_pos hcandidate]
        exact agree_addressRoutes hprompt _ _ _
      · rw [if_neg hcandidate, if_neg hcandidate]
        exact Logged.agree_pure none

theorem agree_findRoutes (hprompt : dns.Prompt) (hconsistent : dns.Consistent) (uri : SIPURI)
    (supported : List Transport) :
    (findRoutes dns uri supported).Agree (findRoutes dns.withoutAdditional uri supported) := by
  rw [findRoutes, findRoutes]
  split
  · exact (agree_dictated uri supported).bind fun _ => agree_returned (agree_makeRoutes _)
  cases uri.port with
  | some port => exact (agree_dictated uri supported).bind fun _ => agree_addressRoutes hprompt _ _ _
  | none =>
      cases transportParameter uri with
      | some parameter => exact agree_parameterRoutes hprompt hconsistent uri supported parameter
      | none =>
          dsimp only
          split
          · split
            · exact agree_fullRoutes hprompt hconsistent uri _
            · exact Logged.agree_raise _
          · exact agree_fullRoutes hprompt hconsistent uri supported

theorem agree_findServers (hprompt : dns.Prompt) (hconsistent : dns.Consistent) (host : Str) (port : Option Nat)
    (servicePrefix : Str) (servicePort : Nat) (serviceFallback : Bool) :
    (findServers dns host port servicePrefix servicePort serviceFallback).Agree
      (findServers dns.withoutAdditional host port servicePrefix servicePort serviceFallback) := by
  rw [findServers, findServers]
  split
  · exact Logged.agree_pure _
  · refine (agree_lookupSrvRecords hprompt hconsistent _).bind fun services => ?_
    cases (services (servicePrefix ++ '.' :: host)).getD [] with
    | nil =>
        dsimp only
        split
        · refine (agree_lookupARecords hprompt [host]).bind fun addresses => ?_
          cases (addresses host).getD [] with
          | nil => exact Logged.agree_pure none
          | cons first rest => exact Logged.agree_pure _
        · exact Logged.agree_pure none
    | cons first rest => exact Logged.agree_pure _

/-- **The additional records save queries and change nothing**: where they are what a query gives, and every query is
answered, a lookup ends as it does when no answer brings any. -/
theorem additional_records_agree (hprompt : dns.Prompt) (hconsistent : dns.Consistent) :
    (∀ uri supportedTransports, (lookupSipProxy dns uri supportedTransports []).1 =
      (lookupSipProxy dns.withoutAdditional uri supportedTransports []).1) ∧
    ∀ host port service, (lookupService dns host port service []).1 =
      (lookupService dns.withoutAdditional host port service []).1 := by
  constructor
  · intro uri supportedTransports
    have hagree : (lookupSipProxy dns uri supportedTransports).Agree
        (lookupSipProxy dns.withoutAdditional uri supportedTransports) := by
      rw [lookupSipProxy, lookupSipProxy]
      split
      · exact Logged.agree_raise _
      dsimp only
      split
      · exact Logged.agree_raise _
      refine Logged.Agree.bind (Logged.Agree.handle (agree_findRoutes hprompt hconsistent uri _)
        fun failure => ?_) fun found => ?_
      · cases failure with
        | timeout => exact agree_failWith _ uri
        | _ => exact Logged.agree_raise _
      · cases found with
        | none => exact agree_failWith _ uri
        | some routes => exact Logged.agree_pure routes
    exact hagree [] []
  · intro host port service
    have hagree : (lookupService dns host port service).Agree
        (lookupService dns.withoutAdditional host port service) := by
      rw [lookupService, lookupService]
      split
      · exact Logged.agree_raise _
      refine Logged.Agree.bind (Logged.Agree.handle (agree_findServers hprompt hconsistent host port _ _ _)
        fun failure => ?_) fun found => ?_
      · cases failure with
        | timeout => exact Logged.agree_raise _
        | _ => exact Logged.agree_raise _
      · cases found with
        | none => exact Logged.agree_raise _
        | some servers => exact Logged.agree_pure servers
    exact hagree [] []

/-- A server whose address comes with its record. -/
def fastDNS : DNS where
  a name := if name = "one.example.com".toList then some ⟨[firstServer], []⟩ else none
  srv name :=
    if name = "_sip._udp.example.com".toList then
      some ⟨[firstRecord], [.a "one.example.com".toList [firstServer]]⟩
    else none
  naptr _ := none
  timesOut _ _ _ := false

theorem fastDNS_consistent : fastDNS.Consistent where
  srv := by
    intro name answer h
    simp only [fastDNS] at h
    split at h
    · cases h
      constructor
      · intro name records hmem
        cases List.mem_singleton.mp hmem
        decide
      · intro name records hmem
        cases List.mem_singleton.mp hmem
    · cases h
  naptr := by
    intro domain answer h
    cases h

theorem additional_records_agree_fast : (lookupSipProxy fastDNS homeUri ["udp".toList] []).1 =
    (lookupSipProxy fastDNS.withoutAdditional homeUri ["udp".toList] []).1 :=
  (additional_records_agree (fun _ _ _ => rfl) fastDNS_consistent).1 homeUri ["udp".toList]

end SipSimple.Lookup
