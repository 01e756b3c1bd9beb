import SipSimple.Lookup.RouteOrder

/-!
# The routes of a SIP URI

`lookup_sip_proxy` as a whole: it returns routes that are arranged as the contents of the DNS say, or it raises
`DNSLookupError`. A URI that cannot be printed, an address that is none, a transport parameter without a value and an
SRV record without a port raise something else and are left out.
-/

namespace SipSimple.Lookup

open SipSimple.Core

/-! ### URIs -/

/-- A URI that the lookup can read and print. -/
structure Readable (uri : SIPURI) : Prop where
  printable : uri.format.isSome
  address : isAddress uri.host → (inetAton uri.host).isSome
  transport : ∀ value, transportParameter uri = some value → ∃ text, value = .str text

/-- TLS for a SIPS URI, else the transport parameter, else UDP. -/
def Dictates (uri : SIPURI) (transport : Transport) : Prop :=
  transport.name = if uri.secure then "tls".toList else
    match transportParameter uri with
    | some (.str text) => lower text
    | _ => "udp".toList

/-- The URI says which transport to take. -/
def IsDictated (uri : SIPURI) : Prop :=
  isAddress uri.host ∨ uri.port.isSome ∨ (transportParameter uri).isSome

/-- The transports that are looked up when nothing is dictated. -/
def candidates (uri : SIPURI) (supported : List Transport) : List Transport :=
  if uri.secure then [.tls] else supported

/-- How the routes are arranged. -/
inductive DNS.Arranged (dns : DNS) (uri : SIPURI) (supported : List Transport) (queries : List Query) :
    List Hop → Prop
  | address {transport : Transport} (hhost : isAddress uri.host) (hsupported : transport ∈ supported)
      (hdictates : Dictates uri transport) :
      Arranged dns uri supported queries [(uri.host, uri.port.getD transport.defaultPort, transport)]
  | port {port : Nat} {transport : Transport} (hhost : ¬isAddress uri.host) (hport : uri.port = some port)
      (hsupported : transport ∈ supported) (hdictates : Dictates uri transport) :
      Arranged dns uri supported queries (dns.addressHops uri.host port transport)
  | parameter {transport : Transport} {value : Value} {hops : List Hop} (hhost : ¬isAddress uri.host)
      (hport : uri.port = none) (hparameter : transportParameter uri = some value)
      (hsupported : transport ∈ supported) (hdictates : Dictates uri transport)
      (hhops : dns.ServiceHops [] (recordName transport uri.host) transport hops) :
      Arranged dns uri supported queries hops
  | parameterHost {transport : Transport} {value : Value} (hhost : ¬isAddress uri.host)
      (hport : uri.port = none) (hparameter : transportParameter uri = some value)
      (hsupported : transport ∈ supported) (hdictates : Dictates uri transport)
      (hhops : dns.ServiceHops [] (recordName transport uri.host) transport []) :
      Arranged dns uri supported queries (dns.addressHops uri.host transport.defaultPort transport)
  | pointers {hops : List Hop} (hhost : ¬isAddress uri.host) (hport : uri.port = none)
      (hparameter : transportParameter uri = none) (hsecure : uri.secure → .tls ∈ supported)
      (hhops : dns.PointerHops uri.host (candidates uri supported) hops) :
      Arranged dns uri supported queries hops
  | services {parts : List (List Hop)} (hhost : ¬isAddress uri.host) (hport : uri.port = none)
      (hparameter : transportParameter uri = none) (hsecure : uri.secure → .tls ∈ supported)
      (hpointless : dns.Pointless uri.host (candidates uri supported) queries)
      (hparts : List.Forall₂ (dns.Contributes uri.host queries) (candidates uri supported) parts) :
      Arranged dns uri supported queries parts.flatten
  | host {transport : Transport} (hhost : ¬isAddress uri.host) (hport : uri.port = none)
      (hparameter : transportParameter uri = none) (hsecure : uri.secure → .tls ∈ supported)
      (hpointless : dns.Pointless uri.host (candidates uri supported) queries)
      (hnothing : ∀ candidate ∈ candidates uri supported, dns.Contributes uri.host queries candidate [])
      (hcandidate : transport ∈ candidates uri supported)
      (htransport : transport = if uri.secure then .tls else .udp) :
      Arranged dns uri supported queries (dns.addressHops uri.host transport.defaultPort transport)

/-- What the transport of a route may be. -/
structure Allowed (uri : SIPURI) (supported : List Transport) (transport : Transport) : Prop where
  supported : transport ∈ supported
  secure : uri.secure → transport = .tls
  dictated : IsDictated uri → Dictates uri transport

variable {dns : DNS} {uri : SIPURI} {supported : List Transport} {queries : List Query} {hops : List Hop}

theorem Transport.name_injective : Function.Injective Transport.name := by
  intro left right h
  have heq := congrArg Transport.ofName h
  rw [Transport.ofName_name, Transport.ofName_name] at heq
  exact Option.some.inj heq

theorem Dictates.secure {transport : Transport} (h : Dictates uri transport) (hsecure : uri.secure) :
    transport = .tls := by
  rw [Dictates, if_pos hsecure] at h
  exact Transport.name_injective h

theorem allowed_of_dictates {transport : Transport} (hsupported : transport ∈ supported)
    (h : Dictates uri transport) : Allowed uri supported transport :=
  ⟨hsupported, h.secure, fun _ => h⟩

theorem allowed_of_candidate {transport : Transport} (hhost : ¬isAddress uri.host) (hport : uri.port = none)
    (hparameter : transportParameter uri = none) (hsecure : uri.secure → .tls ∈ supported)
    (h : transport ∈ candidates uri supported) : Allowed uri supported transport := by
  have hfree : ¬IsDictated uri := by
    rintro (haddress | hgiven | hgiven)
    · exact hhost haddress
    · rw [hport] at hgiven
      cases hgiven
    · rw [hparameter] at hgiven
      cases hgiven
  rw [candidates] at h
  split at h
  next htls =>
    rw [List.mem_singleton] at h
    exact ⟨h ▸ hsecure htls, fun _ => h, fun hdictated => absurd hdictated hfree⟩
  next htls => exact ⟨h, fun hgiven => absurd hgiven htls, fun hdictated => absurd hdictated hfree⟩

theorem DNS.ServiceHops.transport {additional : List RRset} {name : Str} {transport : Transport}
    (h : dns.ServiceHops additional name transport hops) : ∀ hop ∈ hops, hop.2.2 = transport := by
  obtain ⟨sorted, -, -, rfl⟩ := h
  intro hop hhop
  obtain ⟨record, -, hhop⟩ := List.mem_flatMap.mp hhop
  obtain ⟨address, -, rfl⟩ := List.mem_map.mp hhop
  rfl

theorem DNS.Contributes.transport {host : Str} {transport : Transport}
    (h : dns.Contributes host queries transport hops) : ∀ hop ∈ hops, hop.2.2 = transport := by
  rcases h with h | ⟨rfl, -⟩
  · exact h.transport
  · exact fun hop hhop => absurd hhop List.not_mem_nil

theorem addressHops_transport {host : Str} {port : Nat} {transport : Transport} {hop : Hop}
    (h : hop ∈ dns.addressHops host port transport) : hop.2.2 = transport := by
  obtain ⟨address, -, rfl⟩ := List.mem_map.mp h
  rfl

/-- **The transports of the routes** are those that the URI and the caller allow. -/
theorem DNS.Arranged.allowed (h : dns.Arranged uri supported queries hops) :
    ∀ hop ∈ hops, Allowed uri supported hop.2.2 := by
  intro hop hhop
  cases h with
  | address hhost hsupported hdictates =>
      cases List.mem_singleton.mp hhop
      exact allowed_of_dictates hsupported hdictates
  | port hhost hport hsupported hdictates =>
      rw [addressHops_transport hhop]
      exact allowed_of_dictates hsupported hdictates
  | parameter hhost hport hparameter hsupported hdictates hhops =>
      rw [hhops.transport hop hhop]
      exact allowed_of_dictates hsupported hdictates
  | parameterHost hhost hport hparameter hsupported hdictates hhops =>
      rw [addressHops_transport hhop]
      exact allowed_of_dictates hsupported hdictates
  | pointers hhost hport hparameter hsecure hhops =>
      obtain ⟨sorted, services, -, -, hservices, rfl⟩ := hhops
      obtain ⟨record, hrecord, hhop⟩ := List.mem_flatMap.mp hhop
      obtain ⟨transport, htransport, -, hgiven⟩ := hservices record hrecord
      rw [hgiven.transport hop hhop]
      exact allowed_of_candidate hhost hport hparameter hsecure htransport
  | services hhost hport hparameter hsecure hpointless hparts =>
      obtain ⟨part, hpart, hhop⟩ := List.mem_flatten.mp hhop
      obtain ⟨index, hindex, rfl⟩ := List.getElem_of_mem hpart
      have hlength := hparts.length_eq
      have hcontributes := List.Forall₂.get hparts (by omega) hindex
      rw [hcontributes.transport hop hhop]
      exact allowed_of_candidate hhost hport hparameter hsecure (List.get_mem _ _)
  | host hhost hport hparameter hsecure hpointless hnothing hcandidate htransport =>
      rw [addressHops_transport hhop]
      exact allowed_of_candidate hhost hport hparameter hsecure hcandidate

/-! ### The lookup -/

/-- What a lookup may raise before its time-outs are turned into errors. -/
def Raises (failure : LookupFailure) (_ : List Query) : Prop :=
  failure = .timeout ∨ ∃ message, failure = .dnsLookupError message

/-- What the statements under `try` return, if they return something. -/
def Finds (dns : DNS) (uri : SIPURI) (supported : List Transport) (found : Option (List Route))
    (queries : List Query) : Prop :=
  ∀ routes, found = some routes → routes ≠ [] ∧ dns.Arranged uri supported queries (routes.map Route.hop)

theorem raises_fail {message : Str} {log : List Query} : Raises (.dnsLookupError message) log :=
  Or.inr ⟨message, rfl⟩

theorem among_eq_some {text : Str} {transport : Transport} (h : Transport.among supported text = some transport) :
    transport.name = text ∧ transport ∈ supported := by
  obtain ⟨hname, hmem⟩ := Option.filter_eq_some_iff.mp h
  exact ⟨Transport.ofName_eq_some hname, of_decide_eq_true hmem⟩

theorem defaultPort_bounds (transport : Transport) : 0 < transport.defaultPort ∧ transport.defaultPort < 65536 := by
  cases transport <;> decide

theorem meets_dictated (huri : Readable uri) : (dictated uri supported).Meets queries
    (fun transport _ => transport ∈ supported ∧ Dictates uri transport) Raises := by
  have htransport : (dictatedTransport uri).Meets queries
      (fun text _ => ∀ transport : Transport, transport.name = text → Dictates uri transport) Raises := by
    rw [dictatedTransport]
    split
    next hsecure =>
      refine Logged.meets_pure fun transport hname => ?_
      rwa [Dictates, if_pos hsecure]
    next hsecure =>
      cases hparameter : transportParameter uri with
      | none =>
          refine Logged.meets_pure fun transport hname => ?_
          rwa [Dictates, if_neg hsecure, hparameter]
      | some value =>
          obtain ⟨text, rfl⟩ := huri.transport value hparameter
          refine Logged.meets_pure fun transport hname => ?_
          rwa [Dictates, if_neg hsecure, hparameter]
  refine htransport.bind fun text after hdictates => ?_
  cases hamong : Transport.among supported text with
  | none => exact Logged.meets_raise raises_fail
  | some transport =>
      obtain ⟨hname, hmem⟩ := among_eq_some hamong
      exact Logged.meets_pure ⟨hmem, hdictates transport hname⟩

theorem meets_addressRoutes_of {host : Str} {port : Nat} {transport : Transport} (hport : 0 < port ∧ port < 65536)
    (harranged : ∀ later, dns.Arranged uri supported (queries ++ later) (dns.addressHops host port transport)) :
    (addressRoutes dns host port transport).Meets queries (Finds dns uri supported) Raises := by
  refine (meets_addressRoutes hport queries).imp ?_ fun failure _ hfailure => Or.inl hfailure
  rintro found _ ⟨⟨later, rfl⟩, hfound⟩ routes hroutes
  obtain ⟨hne, hmap⟩ := hfound routes hroutes
  exact ⟨hne, hmap ▸ harranged later⟩

theorem meets_makeRoutes (hlegal : ∀ hop ∈ hops, DNS.Legal hop) (hne : hops ≠ [])
    (harranged : dns.Arranged uri supported queries hops) :
    (some <$> makeRoutes hops).Meets queries (Finds dns uri supported) Raises := by
  obtain ⟨routes, hroutes, hmap⟩ := makeRoutes_legal hlegal
  rw [hroutes]
  refine Logged.Meets.map (Logged.meets_pure ?_)
  rintro found ⟨⟩
  refine ⟨?_, hmap.symm ▸ harranged⟩
  rintro rfl
  exact hne hmap.symm

theorem meets_parameterRoutes (hports : dns.HasPorts) (huri : Readable uri) {value : Value}
    (hhost : ¬isAddress uri.host) (hport : uri.port = none) (hparameter : transportParameter uri = some value) :
    (parameterRoutes dns uri supported value).Meets queries (Finds dns uri supported) Raises := by
  obtain ⟨text, rfl⟩ := huri.transport value hparameter
  rw [parameterRoutes, namedRoutes]
  cases hamong : Transport.among supported (lower text) with
  | none => exact Logged.meets_raise raises_fail
  | some transport =>
      obtain ⟨hname, hmem⟩ := among_eq_some hamong
      dsimp only
      by_cases hsecure : uri.secure ∧ transport ≠ .tls
      · rw [if_pos hsecure]
        exact Logged.meets_raise raises_fail
      · rw [if_neg hsecure]
        have hdictates : Dictates uri transport := by
          rw [Dictates, hparameter]
          split
          next htls =>
            have heq : transport = .tls := by_contra fun hne => hsecure ⟨htls, hne⟩
            rw [heq]
            rfl
          next => exact hname
        have hservices : (lookupSrvRecords dns [recordName transport uri.host] []).Meets queries
            (fun services _ => (services (recordName transport uri.host)).getD [] =
              dns.results [] (recordName transport uri.host)) Raises :=
          (gives_lookupSrvRecords _ []).meets (fun _ => by simp) fun _ _ => Or.inl rfl
        refine hservices.bind fun services after hfound => ?_
        rw [hfound]
        have hhops : dns.ServiceHops [] (recordName transport uri.host) transport _ :=
          DNS.serviceHops_results [] (recordName transport uri.host) transport
        have hlegal := hports.legal DNS.portsIn_nil (recordName transport uri.host) transport
        cases heq : dns.results [] (recordName transport uri.host) with
        | nil =>
            rw [heq] at hhops
            exact meets_addressRoutes_of (defaultPort_bounds transport) fun _ =>
              .parameterHost hhost hport hparameter hmem hdictates hhops
        | cons first rest =>
            rw [heq] at hhops hlegal
            exact meets_makeRoutes hlegal (by simp [serviceHops])
              (.parameter hhost hport hparameter hmem hdictates hhops)

theorem meets_fullRoutes (hports : dns.HasPorts) (hhost : ¬isAddress uri.host) (hport : uri.port = none)
    (hparameter : transportParameter uri = none) (hsecure : uri.secure → .tls ∈ supported) :
    (fullRoutes dns uri (candidates uri supported)).Meets queries (Finds dns uri supported) Raises := by
  have hpointers : ((lookupNaptrRecord dns uri.host (DNS.naptrServices (candidates uri supported))).handle
      (onTimeout [])).Meets queries
      (fun pointers after => (∃ later, after = queries ++ later) ∧
        (pointers = dns.pointers uri.host (DNS.naptrServices (candidates uri supported)) ∨
          pointers = [] ∧ dns.Pointless uri.host (candidates uri supported) after)) Raises := by
    refine Logged.Meets.handle (fun failure after => failure = .timeout ∧ ∃ later, after = queries ++ later ∧
      ∃ query ∈ later, dns.PointerExpired uri.host (DNS.naptrServices (candidates uri supported)) query) ?_ ?_
    · exact (gives_lookupNaptrRecord _ _).meets (fun later => ⟨⟨later, rfl⟩, Or.inl rfl⟩)
        fun later hquery => ⟨rfl, later, rfl, hquery⟩
    · rintro failure _ ⟨rfl, later, rfl, query, hmem, hquery⟩
      exact Logged.meets_pure
        ⟨⟨later, rfl⟩, Or.inr ⟨rfl, Or.inr ⟨query, List.mem_append_right _ hmem, hquery⟩⟩⟩
  refine hpointers.bind fun pointers after hfound => ?_
  obtain ⟨found, hpointerRoutes, hhops, hnil⟩ :=
    pointerRoutes_pointers hports uri.host (candidates uri supported)
  by_cases hempty : pointers = []
  · have hpointless : dns.Pointless uri.host (candidates uri supported) after := by
      obtain ⟨-, rfl | ⟨-, hpointless⟩⟩ := hfound
      · rw [hnil.mp hempty] at hhops
        exact Or.inl hhops
      · exact hpointless
    rw [if_neg (by simpa using hempty)]
    refine (Logged.Meets.imp (meets_serviceRoutes hports uri.host (candidates uri supported) after)
      (fun _ _ h => h) fun _ _ h => h.elim).bind fun routes later hroutes => ?_
    obtain ⟨⟨more, rfl⟩, parts, hparts, hmap⟩ := hroutes
    by_cases hroutes : routes = []
    · rw [if_neg (by simpa using hroutes)]
      have hparts' : ∀ candidate ∈ candidates uri supported,
          dns.Contributes uri.host (after ++ more) candidate [] := by
        rw [hroutes, List.map_nil, eq_comm, List.flatten_eq_nil_iff] at hmap
        intro candidate hcandidate
        obtain ⟨index, hindex, rfl⟩ := List.getElem_of_mem hcandidate
        have hcontributes := List.Forall₂.get hparts hindex (hparts.length_eq ▸ hindex)
        rwa [hmap _ (List.get_mem _ _)] at hcontributes
      by_cases hcandidate : (if uri.secure then Transport.tls else .udp) ∈ candidates uri supported
      · rw [if_pos hcandidate]
        exact meets_addressRoutes_of (defaultPort_bounds _) fun rest =>
          .host hhost hport hparameter hsecure ((hpointless.append more).append rest)
            (fun candidate hmem => (hparts' candidate hmem).append rest) hcandidate rfl
      · rw [if_neg hcandidate]
        exact Logged.meets_pure fun routes hroutes => absurd hroutes (by simp)
    · rw [if_pos hroutes]
      refine Logged.meets_pure ?_
      rintro routes' ⟨⟩
      exact ⟨hroutes, hmap ▸ .services hhost hport hparameter hsecure (hpointless.append more) hparts⟩
  · obtain ⟨-, rfl | ⟨hnone, -⟩⟩ := hfound
    · rw [if_pos hempty, hpointerRoutes]
      refine Logged.Meets.map (Logged.meets_pure ?_)
      rintro routes ⟨⟩
      exact ⟨fun h => hempty (hnil.mpr h), .pointers hhost hport hparameter hsecure hhops⟩
    · exact absurd hnone hempty

theorem meets_findRoutes (hports : dns.HasPorts) (huri : Readable uri) :
    (findRoutes dns uri supported).Meets queries (Finds dns uri supported) Raises := by
  rw [findRoutes]
  by_cases hhost : isAddress uri.host
  · rw [if_pos hhost]
    refine (meets_dictated huri).bind fun transport after hdictated => ?_
    refine meets_makeRoutes ?_ (by simp) (.address hhost hdictated.1 hdictated.2)
    intro hop hhop
    cases List.mem_singleton.mp hhop
    refine ⟨huri.address hhost, ?_⟩
    cases hport : uri.port with
    | none => exact defaultPort_bounds transport
    | some port =>
        obtain ⟨hpos, hbound⟩ := uri.port_valid port (by simp [hport])
        exact ⟨hpos, by simp only [Option.getD_some]; omega⟩
  · rw [if_neg hhost]
    cases hport : uri.port with
    | some port =>
        obtain ⟨hpos, hbound⟩ := uri.port_valid port (by simp [hport])
        exact (meets_dictated huri).bind fun transport after hdictated =>
          meets_addressRoutes_of ⟨hpos, by omega⟩ fun _ => .port hhost hport hdictated.1 hdictated.2
    | none =>
        cases hparameter : transportParameter uri with
        | some value => exact meets_parameterRoutes hports huri hhost hport hparameter
        | none =>
            have hfull : (uri.secure → .tls ∈ supported) → (fullRoutes dns uri (candidates uri supported)).Meets
                queries (Finds dns uri supported) Raises := meets_fullRoutes hports hhost hport hparameter
            by_cases hsecure : uri.secure
            · dsimp only
              rw [if_pos hsecure]
              by_cases htls : Transport.tls ∈ supported
              · rw [if_pos htls]
                have hcandidates : candidates uri supported = [.tls] := if_pos hsecure
                rw [hcandidates] at hfull
                exact hfull fun _ => htls
              · rw [if_neg htls]
                exact Logged.meets_raise raises_fail
            · have hcandidates : candidates uri supported = supported := if_neg hsecure
              rw [hcandidates] at hfull
              dsimp only
              rw [if_neg hsecure]
              exact hfull fun hgiven => absurd hgiven hsecure

theorem meets_failWith {α : Type} (huri : Readable uri) (message : String) {returns : α → List Query → Prop} :
    (failWith (α := α) message uri).Meets queries returns fun failure _ => ∃ text, failure = .dnsLookupError text := by
  obtain ⟨text, htext⟩ := Option.isSome_iff_exists.mp huri.printable
  rw [failWith, htext]
  exact Logged.meets_raise ⟨_, rfl⟩

/-- **Every lookup** raises `DNSLookupError` or returns routes, which are arranged as the DNS says and have transports
that the URI and the caller allow. -/
theorem lookupSipProxy_routes (dns : DNS) (uri : SIPURI) (supportedTransports : List Str) (hports : dns.HasPorts)
    (huri : Readable uri) :
    (lookupSipProxy dns uri supportedTransports).Meets []
      (fun routes queries => routes ≠ [] ∧
        dns.Arranged uri ((supportedTransports.map lower).filterMap Transport.ofName) queries
          (routes.map Route.hop) ∧
        ∀ route ∈ routes, route.transport.name ∈ supportedTransports.map lower ∧
          (uri.secure → route.transport = .tls) ∧ (IsDictated uri → Dictates uri route.transport))
      (fun failure _ => ∃ message, failure = .dnsLookupError message) := by
  rw [lookupSipProxy]
  split
  · exact Logged.meets_raise ⟨_, rfl⟩
  dsimp only
  split
  · exact Logged.meets_raise ⟨_, rfl⟩
  refine Logged.Meets.bind (Logged.Meets.handle Raises (meets_findRoutes hports huri) ?_) fun found after hfinds => ?_
  · rintro failure after (rfl | ⟨message, rfl⟩)
    · exact meets_failWith huri _
    · exact Logged.meets_raise ⟨message, rfl⟩
  cases found with
  | none => exact meets_failWith huri _
  | some routes =>
      obtain ⟨hne, harranged⟩ := hfinds routes rfl
      refine Logged.meets_pure ⟨hne, harranged, fun route hroute => ?_⟩
      have hallowed : Allowed uri _ route.transport := harranged.allowed route.hop (List.mem_map_of_mem hroute)
      obtain ⟨name, hname, hof⟩ := List.mem_filterMap.mp hallowed.supported
      refine ⟨?_, hallowed.secure, hallowed.dictated⟩
      rwa [Transport.ofName_eq_some hof]

/-! ### A domain with a slow name server -/

def homeServer : ARecord := ⟨"192.0.2.9".toList, by decide⟩

def firstServer : ARecord := ⟨"10.0.0.1".toList, by decide⟩

theorem port_valid_none : ∀ number ∈ (none : Option Nat), 0 < number ∧ number ≤ 65535 := by simp

def homeUri : SIPURI where
  user := some "alice".toList
  password := none
  host := "example.com".toList
  port := none
  port_valid := port_valid_none
  secure := false
  parameters := Dict.empty
  headers := Dict.empty

def firstRecord : SRVRecord := ⟨0, 0, 5070, "one.example.com".toList, by decide⟩

/-- Two servers, the second one of which has an address that is not answered in time. -/
def slowDNS : DNS where
  a name :=
    if name = "example.com".toList then some ⟨[homeServer], []⟩
    else if name = "one.example.com".toList then some ⟨[firstServer], []⟩
    else none
  srv name :=
    if name = "_sip._udp.example.com".toList then
      some ⟨[firstRecord, ⟨1, 0, 5080, "two.example.com".toList, by decide⟩], []⟩
    else none
  naptr _ := none
  timesOut _ rdtype name := rdtype = .a ∧ name = "two.example.com".toList

theorem slowDNS_hasPorts : slowDNS.HasPorts where
  srv := by
    intro name answer h record hrecord
    simp only [slowDNS] at h
    split at h
    · cases h
      revert record
      decide
    · cases h
  naptr := by
    intro domain answer h
    cases h

theorem homeUri_readable : Readable homeUri where
  printable := by decide
  address := by decide
  transport := by
    intro value h
    cases h

/-- The address of the first server is answered and lost: the routes are those of the domain itself. -/
theorem address_lost : ∃ routes queries,
    lookupSipProxy slowDNS homeUri ["udp".toList] [] = (.ok routes, queries) ∧
      ⟨.a, "one.example.com".toList, false⟩ ∈ queries ∧
      ¬∀ record ∈ (slowDNS.srvRecords [] (recordName .udp homeUri.host)).1,
        ∀ address ∈ slowDNS.addresses [] record.target, ∃ route ∈ routes, route.address = address := by
  refine ⟨[⟨"192.0.2.9".toList, 5060, .udp, by decide, by decide⟩],
    [⟨.naptr, "example.com".toList, false⟩, ⟨.srv, "_sip._udp.example.com".toList, false⟩,
      ⟨.a, "one.example.com".toList, false⟩, ⟨.a, "two.example.com".toList, true⟩, ⟨.a, "example.com".toList, false⟩],
    rfl, by decide, by decide⟩

theorem lookupSipProxy_routes_slow :
    (lookupSipProxy slowDNS homeUri ["udp".toList]).Meets []
      (fun routes queries => routes ≠ [] ∧
        slowDNS.Arranged homeUri ((["udp".toList].map lower).filterMap Transport.ofName) queries
          (routes.map Route.hop) ∧
        ∀ route ∈ routes, route.transport.name ∈ ["udp".toList].map lower ∧
          (homeUri.secure → route.transport = .tls) ∧ (IsDictated homeUri → Dictates homeUri route.transport))
      (fun failure _ => ∃ message, failure = .dnsLookupError message) :=
  lookupSipProxy_routes slowDNS homeUri ["udp".toList] slowDNS_hasPorts homeUri_readable

end SipSimple.Lookup
