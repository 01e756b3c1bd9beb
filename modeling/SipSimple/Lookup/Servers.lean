import SipSimple.Lookup.Contents

/-!
# The servers of a service

`lookup_service` for STUN servers and MSRP relays: the servers are those of the SRV records in their order, or the
addresses of the host where the service falls back on it.
-/

namespace SipSimple.Lookup

open SipSimple.Core

/-- By priority and then by descending weight, with all addresses of a record in the order of the answer. -/
def DNS.Serves (dns : DNS) (name : Str) (servers : List (Str × Nat)) : Prop :=
  ∃ sorted : List SRVRecord, sorted.Perm (dns.srvRecords [] name).1 ∧ sorted.Pairwise SRVRecord.Before ∧
    servers = sorted.flatMap fun record =>
      (dns.addresses (dns.srvRecords [] name).2 record.target).map fun address => (address, record.port)

theorem serves_results (dns : DNS) (name : Str) :
    dns.Serves name ((dns.results [] name).map fun result => (result.address, result.port)) := by
  refine ⟨_, List.perm_insertionSort SRVRecord.Before _, List.pairwise_insertionSort SRVRecord.Before _, ?_⟩
  rw [DNS.results_eq, List.map_flatMap]
  refine List.flatMap_congr fun record _ => ?_
  rw [SRVRecord.results, List.map_map]
  rfl

/-- What a service finds at the host. -/
inductive DNS.ServersOf (dns : DNS) (host : Str) (port : Option Nat) (servicePrefix : Str) (servicePort : Nat)
    (serviceFallback : Bool) : List (Str × Nat) → Prop
  | address (hhost : isAddress host) :
      ServersOf dns host port servicePrefix servicePort serviceFallback [(host, port.getD servicePort)]
  | records {servers : List (Str × Nat)} (hhost : ¬isAddress host)
      (hservers : dns.Serves (servicePrefix ++ '.' :: host) servers) :
      ServersOf dns host port servicePrefix servicePort serviceFallback servers
  | fallback (hhost : ¬isAddress host) (hfallback : serviceFallback)
      (hnone : dns.Serves (servicePrefix ++ '.' :: host) []) :
      ServersOf dns host port servicePrefix servicePort serviceFallback
        ((dns.addresses [] host).map fun address => (address, servicePort))

variable {dns : DNS} {queries : List Query}

theorem meets_findServers (host : Str) (port : Option Nat) (servicePrefix : Str) (servicePort : Nat)
    (serviceFallback : Bool) :
    (findServers dns host port servicePrefix servicePort serviceFallback).Meets queries
      (fun found _ => ∀ servers, found = some servers → servers ≠ [] ∧
        dns.ServersOf host port servicePrefix servicePort serviceFallback servers)
      (fun failure _ => failure = .timeout) := by
  rw [findServers]
  by_cases hhost : isAddress host
  · rw [if_pos hhost]
    refine Logged.meets_pure ?_
    rintro servers ⟨⟩
    exact ⟨by simp, .address hhost⟩
  · rw [if_neg hhost]
    have hservices : (lookupSrvRecords dns [servicePrefix ++ '.' :: host] []).Meets queries
        (fun services _ => (services (servicePrefix ++ '.' :: host)).getD [] =
          dns.results [] (servicePrefix ++ '.' :: host)) fun failure _ => failure = .timeout :=
      (gives_lookupSrvRecords _ []).meets (fun _ => by simp) fun _ _ => rfl
    refine hservices.bind fun services after hfound => ?_
    rw [hfound]
    have hserves := serves_results dns (servicePrefix ++ '.' :: host)
    cases heq : dns.results [] (servicePrefix ++ '.' :: host) with
    | cons first rest =>
        rw [heq] at hserves
        refine Logged.meets_pure ?_
        rintro servers ⟨⟩
        exact ⟨by simp, .records hhost hserves⟩
    | nil =>
        rw [heq] at hserves
        dsimp only
        by_cases hfallback : serviceFallback
        · rw [if_pos hfallback]
          have haddresses : (lookupARecords dns [host] []).Meets after
              (fun addresses _ => (addresses host).getD [] = dns.addresses [] host)
              fun failure _ => failure = .timeout :=
            (gives_lookupARecords [host] []).meets (fun _ => by simp) fun _ _ => rfl
          refine haddresses.bind fun addresses later haddress => ?_
          rw [haddress]
          cases hlist : dns.addresses [] host with
          | nil => exact Logged.meets_pure fun servers hservers => absurd hservers (by simp)
          | cons first rest =>
              refine Logged.meets_pure ?_
              rintro servers ⟨⟩
              refine ⟨by simp, ?_⟩
              rw [← hlist]
              exact .fallback hhost hfallback hserves
        · rw [if_neg hfallback]
          exact Logged.meets_pure fun servers hservers => absurd hservers (by simp)

/-- **Every lookup of a service**, whatever the DNS holds and whichever queries run out of time, raises
`DNSLookupError` or returns at least one server, and the servers are arranged as the DNS says. -/
theorem lookupService_servers (dns : DNS) (host : Str) (port : Option Nat) (service : Str) :
    (lookupService dns host port service).Meets []
      (fun servers _ => servers ≠ [] ∧ ∃ servicePrefix servicePort serviceFallback,
        serviceSrvRecordMap.lookup service = some (servicePrefix, servicePort, serviceFallback) ∧
          dns.ServersOf host port servicePrefix servicePort serviceFallback servers)
      (fun failure _ => ∃ message, failure = .dnsLookupError message) := by
  rw [lookupService]
  cases hservice : serviceSrvRecordMap.lookup service with
  | none => exact Logged.meets_raise ⟨_, rfl⟩
  | some entry =>
      obtain ⟨servicePrefix, servicePort, serviceFallback⟩ := entry
      refine Logged.Meets.bind (Logged.Meets.handle (fun failure _ => failure = .timeout)
        (meets_findServers host port servicePrefix servicePort serviceFallback) ?_) fun found after hfound => ?_
      · rintro failure after rfl
        exact Logged.meets_raise ⟨_, rfl⟩
      · cases found with
        | none => exact Logged.meets_raise ⟨_, rfl⟩
        | some servers =>
            obtain ⟨hne, hservers⟩ := hfound servers rfl
            exact Logged.meets_pure ⟨hne, servicePrefix, servicePort, serviceFallback, rfl, hservers⟩

end SipSimple.Lookup
