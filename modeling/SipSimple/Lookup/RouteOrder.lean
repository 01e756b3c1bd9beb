import SipSimple.Lookup.Contents
import Mathlib.Data.List.Forall2

/-!
# The order of the routes

What the routes of a SIP URI are: those that the URI dictates, or those of the NAPTR records in their order, or those
of the SRV records of one transport after the other, or those of the addresses of the host. A lookup that runs out of
time gives up the record set it was made for, and no other.
-/

namespace SipSimple.Lookup

open SipSimple.Core

/-- The address, the port and the transport of a route. -/
abbrev Hop : Type := Str × Nat × Transport

def Route.hop (route : Route) : Hop := (route.address, route.port, route.transport)

/-! ### What the contents arrange -/

namespace DNS

variable (dns : DNS)

/-- No record lacks a port. -/
structure HasPorts : Prop where
  srv : ∀ name answer, dns.srv name = some answer → ∀ record ∈ answer.rrset, 0 < record.port
  naptr : ∀ domain answer, dns.naptr domain = some answer → ∀ name records,
    RRset.srv name records ∈ answer.additional → ∀ record ∈ records, 0 < record.port

def addressHops (host : Str) (port : Nat) (transport : Transport) : List Hop :=
  (dns.addresses [] host).map fun address => (address, port, transport)

/-- By priority and then by descending weight, with all addresses of a record in the order of the answer. -/
def ServiceHops (additional : List RRset) (name : Str) (transport : Transport) (hops : List Hop) : Prop :=
  ∃ sorted : List SRVRecord, sorted.Perm (dns.srvRecords additional name).1 ∧ sorted.Pairwise SRVRecord.Before ∧
    hops = sorted.flatMap fun record =>
      (dns.addresses (dns.srvRecords additional name).2 record.target).map fun address =>
        (address, record.port, transport)

/-- The services of the transports. -/
def naptrServices (supported : List Transport) : List Str :=
  (naptrServiceTransportMap.filter (·.2 ∈ supported)).map Prod.fst

/-- By order and then by preference, with all hops of a record in their order. -/
def PointerHops (domain : Str) (supported : List Transport) (hops : List Hop) : Prop :=
  ∃ (sorted : List NAPTRRecord) (services : NAPTRRecord → List Hop),
    sorted.Perm (dns.naptrRecords domain (naptrServices supported)).1 ∧ sorted.Pairwise NAPTRRecord.Before ∧
    (∀ record ∈ sorted, ∃ transport ∈ supported,
      naptrServiceTransportMap.lookup (lower record.service) = some transport ∧
      dns.ServiceHops (dns.naptrRecords domain (naptrServices supported)).2 record.replacement transport
        (services record)) ∧
    hops = sorted.flatMap services

/-- What one transport adds: all its hops, or nothing where a query of its lookup ran out of time. -/
def Contributes (host : Str) (queries : List Query) (transport : Transport) (hops : List Hop) : Prop :=
  dns.ServiceHops [] (recordName transport host) transport hops ∨
    hops = [] ∧ ∃ query ∈ queries, dns.ServiceExpired [] (recordName transport host) query

/-- No NAPTR record leads to an address, or a query of that lookup ran out of time. -/
def Pointless (host : Str) (supported : List Transport) (queries : List Query) : Prop :=
  dns.PointerHops host supported [] ∨ ∃ query ∈ queries, dns.PointerExpired host (naptrServices supported) query

variable {dns}

theorem Contributes.append {host : Str} {queries : List Query} {transport : Transport} {hops : List Hop}
    (h : dns.Contributes host queries transport hops) (later : List Query) :
    dns.Contributes host (queries ++ later) transport hops := by
  rcases h with h | ⟨hhops, query, hmem, hquery⟩
  · exact Or.inl h
  · exact Or.inr ⟨hhops, query, List.mem_append_left later hmem, hquery⟩

theorem Pointless.append {host : Str} {supported : List Transport} {queries : List Query}
    (h : dns.Pointless host supported queries) (later : List Query) :
    dns.Pointless host supported (queries ++ later) := by
  rcases h with h | ⟨query, hmem, hquery⟩
  · exact Or.inl h
  · exact Or.inr ⟨query, List.mem_append_left later hmem, hquery⟩

theorem serviceHops_results (additional : List RRset) (name : Str) (transport : Transport) :
    dns.ServiceHops additional name transport (serviceHops transport (dns.results additional name)) := by
  refine ⟨_, List.perm_insertionSort SRVRecord.Before _, List.pairwise_insertionSort SRVRecord.Before _, ?_⟩
  rw [serviceHops, results_eq, List.map_flatMap]
  refine List.flatMap_congr fun record _ => ?_
  rw [SRVRecord.results, List.map_map]
  rfl

theorem mem_naptrServices {supported : List Transport} {service : Str} (h : service ∈ naptrServices supported) :
    ∃ transport ∈ supported, naptrServiceTransportMap.lookup service = some transport := by
  obtain ⟨⟨given, transport⟩, hmem, rfl⟩ := List.mem_map.mp h
  obtain ⟨hentry, hsupported⟩ := List.mem_filter.mp hmem
  refine ⟨transport, of_decide_eq_true hsupported, ?_⟩
  rcases List.mem_cons.mp hentry with heq | hentry
  · cases heq
    rfl
  rcases List.mem_cons.mp hentry with heq | hentry
  · cases heq
    rfl
  · cases List.mem_singleton.mp hentry
    rfl

theorem service_mem {domain : Str} {services : List Str} {record : NAPTRRecord}
    (h : record ∈ (dns.naptrRecords domain services).1) : lower record.service ∈ services := by
  rw [naptrRecords] at h
  cases hanswer : dns.naptr domain with
  | none => simp [hanswer] at h
  | some answer =>
      rw [hanswer] at h
      exact of_decide_eq_true (List.mem_filter.mp h).2

/-! ### Legal hops -/

theorem legal_addresses {additional : List RRset} {host address : Str} (h : address ∈ dns.addresses additional host) :
    (inetAton address).isSome := by
  rw [addresses] at h
  split at h
  · obtain ⟨record, -, rfl⟩ := List.mem_map.mp h
    exact record.legal
  · cases hanswer : dns.a host with
    | none => simp [hanswer] at h
    | some answer =>
        rw [hanswer] at h
        obtain ⟨record, -, rfl⟩ := List.mem_map.mp h
        exact record.legal

def Legal (hop : Hop) : Prop := (inetAton hop.1).isSome ∧ 0 < hop.2.1 ∧ hop.2.1 < 65536

/-- An additional section in which every service has a port. -/
def PortsIn (additional : List RRset) : Prop :=
  ∀ name records, RRset.srv name records ∈ additional → ∀ record ∈ records, 0 < record.port

theorem portsIn_nil : PortsIn [] := fun _ _ hmem => absurd hmem List.not_mem_nil

theorem HasPorts.naptrRecords (h : dns.HasPorts) (domain : Str) (services : List Str) :
    PortsIn (dns.naptrRecords domain services).2 := by
  rw [DNS.naptrRecords]
  cases hanswer : dns.naptr domain with
  | none => exact fun name records hmem => absurd hmem List.not_mem_nil
  | some answer => exact h.naptr domain answer hanswer

theorem HasPorts.srvRecords (h : dns.HasPorts) {additional : List RRset} (hadditional : PortsIn additional)
    {name : Str} {record : SRVRecord} (hmem : record ∈ (dns.srvRecords additional name).1) : 0 < record.port := by
  rw [DNS.srvRecords] at hmem
  split at hmem
  next records heq => exact hadditional name records (additionalServices_mem heq) record hmem
  next =>
    cases hanswer : dns.srv name with
    | none => simp [hanswer] at hmem
    | some answer =>
        rw [hanswer] at hmem
        exact h.srv name answer hanswer record hmem

theorem HasPorts.legal (h : dns.HasPorts) {additional : List RRset} (hadditional : PortsIn additional) (name : Str)
    (transport : Transport) : ∀ hop ∈ serviceHops transport (dns.results additional name), Legal hop := by
  intro hop hhop
  obtain ⟨result, hresult, rfl⟩ := List.mem_map.mp hhop
  rw [results_eq] at hresult
  obtain ⟨record, hrecord, hresult⟩ := List.mem_flatMap.mp hresult
  obtain ⟨address, haddress, rfl⟩ := List.mem_map.mp hresult
  rw [List.mem_insertionSort] at hrecord
  exact ⟨legal_addresses haddress, h.srvRecords hadditional hrecord, record.port_bound⟩

end DNS

/-! ### The branches -/

variable {dns : DNS}

theorem makeRoutes_legal {hops : List Hop} (h : ∀ hop ∈ hops, DNS.Legal hop) :
    ∃ routes, makeRoutes hops = pure routes ∧ routes.map Route.hop = hops := by
  have hroutes : ∃ routes, (hops.mapM fun hop => Route.new hop.1 hop.2.1 hop.2.2) = some routes ∧
      routes.map Route.hop = hops := by
    induction hops with
    | nil => exact ⟨[], rfl, rfl⟩
    | cons hop hops ih =>
        obtain ⟨routes, hroutes, hmap⟩ := ih fun hop hmem => h hop (List.mem_cons_of_mem _ hmem)
        obtain ⟨haddress, hport⟩ := h hop List.mem_cons_self
        obtain ⟨route, hroute⟩ := Option.isSome_iff_exists.mp (Route.new_isSome haddress hport hop.2.2)
        obtain ⟨hrouteAddress, hroutePort, hrouteTransport⟩ := Route.new_eq_some hroute
        refine ⟨route :: routes, ?_, ?_⟩
        · rw [List.mapM_cons, hroute, hroutes]
          rfl
        · rw [List.map_cons, hmap, Route.hop, hrouteAddress, hroutePort, hrouteTransport]
  obtain ⟨routes, hroutes, hmap⟩ := hroutes
  refine ⟨routes, ?_, hmap⟩
  rw [makeRoutes, hroutes]

theorem meets_addressRoutes {host : Str} {port : Nat} {transport : Transport} (hport : 0 < port ∧ port < 65536)
    (queries : List Query) : (addressRoutes dns host port transport).Meets queries
      (fun found after => (∃ later, after = queries ++ later) ∧ ∀ routes, found = some routes → routes ≠ [] ∧
        routes.map Route.hop = dns.addressHops host port transport)
      (fun failure _ => failure = .timeout) := by
  have haddresses : (lookupARecords dns [host] []).Meets queries
      (fun addresses after => (∃ later, after = queries ++ later) ∧
        (addresses host).getD [] = dns.addresses [] host) fun failure _ => failure = .timeout :=
    (gives_lookupARecords [host] []).meets (fun later => ⟨⟨later, rfl⟩, by simp⟩) fun _ _ => rfl
  refine haddresses.bind fun addresses after ⟨hlater, hfound⟩ => ?_
  rw [hfound]
  cases heq : dns.addresses [] host with
  | nil => exact Logged.meets_pure ⟨hlater, by simp⟩
  | cons first rest =>
      have hlegal : ∀ hop ∈ dns.addressHops host port transport, DNS.Legal hop := by
        intro hop hhop
        obtain ⟨address, haddress, rfl⟩ := List.mem_map.mp hhop
        exact ⟨DNS.legal_addresses haddress, hport⟩
      obtain ⟨routes, hroutes, hmap⟩ := makeRoutes_legal hlegal
      rw [DNS.addressHops, heq] at hroutes
      show (some <$> makeRoutes ((first :: rest).map fun address => (address, port, transport))).Meets _ _ _
      rw [hroutes]
      refine Logged.Meets.map (Logged.meets_pure ⟨hlater, ?_⟩)
      rintro found ⟨⟩
      refine ⟨?_, hmap⟩
      rintro rfl
      rw [DNS.addressHops, heq] at hmap
      simp at hmap

theorem mapM_pointers {f : NAPTRResult → Option Hop} {g : NAPTRResult → Hop} {pointers : List NAPTRResult}
    (h : ∀ pointer ∈ pointers, f pointer = some (g pointer)) : pointers.mapM f = some (pointers.map g) := by
  induction pointers with
  | nil => rfl
  | cons pointer pointers ih =>
      rw [List.mapM_cons, h pointer List.mem_cons_self, ih fun pointer hmem => h pointer (List.mem_cons_of_mem _ hmem)]
      rfl

/-- **The routes of the pointers** are all there, in their order. -/
theorem pointerRoutes_pointers (h : dns.HasPorts) (host : Str) (supported : List Transport) :
    ∃ routes, pointerRoutes (dns.pointers host (DNS.naptrServices supported)) = pure routes ∧
      dns.PointerHops host supported (routes.map Route.hop) ∧
      (dns.pointers host (DNS.naptrServices supported) = [] ↔ routes = []) := by
  let transport (service : Str) : Transport := (naptrServiceTransportMap.lookup service).getD .udp
  let hop (pointer : NAPTRResult) : Hop :=
    (pointer.result.address, pointer.result.port, transport pointer.service)
  have hlookup : ∀ record ∈ (dns.naptrRecords host (DNS.naptrServices supported)).1,
      ∃ given ∈ supported, naptrServiceTransportMap.lookup (lower record.service) = some given :=
    fun record hmem => DNS.mem_naptrServices (DNS.service_mem hmem)
  have hpointer : ∀ pointer ∈ dns.pointers host (DNS.naptrServices supported),
      ((naptrServiceTransportMap.lookup pointer.service).map fun transport =>
        (pointer.result.address, pointer.result.port, transport)) = some (hop pointer) := by
    intro pointer hmem
    rw [DNS.pointers, List.mem_insertionSort] at hmem
    obtain ⟨record, hrecord, hmem⟩ := List.mem_flatMap.mp hmem
    obtain ⟨result, -, rfl⟩ := List.mem_map.mp hmem
    obtain ⟨given, -, heq⟩ := hlookup record hrecord
    simp [hop, transport, heq]
  let services (record : NAPTRRecord) : List Hop := serviceHops (transport (lower record.service))
    (dns.results (dns.naptrRecords host (DNS.naptrServices supported)).2 record.replacement)
  have hhops : (dns.pointers host (DNS.naptrServices supported)).map hop =
      ((dns.naptrRecords host (DNS.naptrServices supported)).1.insertionSort NAPTRRecord.Before).flatMap services := by
    rw [DNS.pointers_eq, List.map_flatMap]
    refine List.flatMap_congr fun record _ => ?_
    rw [NAPTRRecord.results, List.map_map]
    rfl
  have hlegal : ∀ found ∈ (dns.pointers host (DNS.naptrServices supported)).map hop, DNS.Legal found := by
    rw [hhops]
    intro found hfound
    obtain ⟨record, -, hfound⟩ := List.mem_flatMap.mp hfound
    exact h.legal (h.naptrRecords _ _) _ _ found hfound
  obtain ⟨routes, hroutes, hmap⟩ := makeRoutes_legal hlegal
  refine ⟨routes, ?_, ?_, ?_⟩
  · rw [pointerRoutes, mapM_pointers hpointer]
    exact hroutes
  · refine ⟨_, services, List.perm_insertionSort NAPTRRecord.Before _,
      List.pairwise_insertionSort NAPTRRecord.Before _, fun record hrecord => ?_, hmap.trans hhops⟩
    obtain ⟨given, hsupported, heq⟩ := hlookup record ((List.mem_insertionSort _).mp hrecord)
    refine ⟨given, hsupported, heq, ?_⟩
    have htransport : transport (lower record.service) = given := by simp [transport, heq]
    simp only [services, htransport]
    exact DNS.serviceHops_results _ _ _
  · rw [← List.map_eq_nil_iff (f := hop), ← hmap, List.map_eq_nil_iff]

/-- **The SRV lookups**: each transport contributes all it has, or a query of its own ran out of time. -/
theorem meets_serviceRoutes (h : dns.HasPorts) (host : Str) (supported : List Transport) (queries : List Query) :
    (serviceRoutes dns host supported).Meets queries
      (fun routes after => (∃ later, after = queries ++ later) ∧
        ∃ parts, List.Forall₂ (dns.Contributes host after) supported parts ∧
          routes.map Route.hop = parts.flatten)
      (fun _ _ => False) := by
  let invariant (done : List Transport) (routes : List Route) (after : List Query) : Prop :=
    (∃ later, after = queries ++ later) ∧ ∃ parts, List.Forall₂ (dns.Contributes host after) done parts ∧
      routes.map Route.hop = parts.flatten
  have hextend : ∀ {done routes before part transport} (later : List Query) (found : List Route),
      invariant done routes before → dns.Contributes host (before ++ later) transport part →
      found.map Route.hop = part → invariant (done ++ [transport]) (routes ++ found) (before ++ later) := by
    rintro done routes before part transport later found ⟨⟨earlier, rfl⟩, parts, hparts, hroutes⟩ hpart hfound
    refine ⟨⟨earlier ++ later, List.append_assoc _ _ _⟩, parts ++ [part], ?_, ?_⟩
    · exact List.rel_append (hparts.imp fun _ _ hcontributes => hcontributes.append later) (.cons hpart .nil)
    · rw [List.map_append, hroutes, hfound, List.flatten_append, List.flatten_cons, List.flatten_nil, List.append_nil]
  refine Logged.meets_foldlM invariant (fun done transport routes before _ hinvariant => ?_)
    ⟨⟨[], (List.append_nil _).symm⟩, [], .nil, rfl⟩
  let name := recordName transport host
  have hservices : ((lookupSrvRecords dns [name] []) >>= fun services =>
      (pure (some services) : DNSLookup _)).handle (onTimeout none) |>.Meets before
      (fun services after => ∃ later, after = before ++ later ∧
        ((∃ found, services = some found ∧ (found name).getD [] = dns.results [] name) ∨
          services = none ∧ ∃ query ∈ later, dns.ServiceExpired [] name query))
      (fun _ _ => False) := by
    have hlookup : ((lookupSrvRecords dns [name] []) >>= fun services =>
        (pure (some services) : DNSLookup _)).Gives _ .timeout
        (fun query => ∃ given ∈ [name], dns.ServiceExpired [] given query) :=
      (gives_lookupSrvRecords [name] []).bind (Logged.gives_pure _)
    refine Logged.Meets.handle (fun failure after => failure = .timeout ∧
      ∃ later, after = before ++ later ∧ ∃ query ∈ later, dns.ServiceExpired [] name query) ?_ ?_
    · refine hlookup.meets (fun later => ⟨later, rfl, Or.inl ⟨_, rfl, by simp⟩⟩) fun later hquery => ⟨rfl, later, rfl, ?_⟩
      simpa using hquery
    · rintro failure after ⟨rfl, later, hafter, hquery⟩
      exact Logged.meets_pure ⟨later, hafter, Or.inr ⟨rfl, hquery⟩⟩
  refine hservices.bind fun services after hfound => ?_
  obtain ⟨later, rfl, ⟨found, rfl, hresults⟩ | ⟨rfl, query, hmem, hquery⟩⟩ := hfound
  · obtain ⟨more, hmore, hmap⟩ := makeRoutes_legal
      (h.legal DNS.portsIn_nil name transport)
    show (makeRoutes (serviceHops transport ((found name).getD [])) >>= fun found =>
      (pure (routes ++ found) : DNSLookup _)).Meets _ _ _
    rw [hresults, hmore]
    exact hextend later more hinvariant (Or.inl (DNS.serviceHops_results [] name transport)) hmap
  · have hcontributes : dns.Contributes host (before ++ later) transport [] :=
      Or.inr ⟨rfl, query, List.mem_append_right _ hmem, hquery⟩
    have hnone := hextend later [] hinvariant hcontributes rfl
    rw [List.append_nil] at hnone
    exact Logged.meets_pure hnone

end SipSimple.Lookup
