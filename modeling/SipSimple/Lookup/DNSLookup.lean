import SipSimple.Lookup.Routes
import SipSimple.Library.LoggedAttempts
import Mathlib.Data.List.Sort
import Mathlib.Logic.Function.Basic

/-!
# DNS lookups

`DNSLookup` of `lookup.py`. The resolver belongs to a package and is input: what the name servers hold, and which
queries run out of time, which may depend on everything that was asked before. The queries of a lookup are its log, as
`DNSLookupTrace` announces them. A dictionary that is read by its keys only is a function.
-/

namespace SipSimple.Lookup

open SipSimple.Core

/-! ### The resolver -/

@[ext] structure ARecord where
  address : Str
  legal : (inetAton address).isSome

instance : DecidableEq ARecord := fun _ _ => decidable_of_iff _ ARecord.ext_iff.symm

structure SRVRecord where
  priority : Nat
  weight : Nat
  port : Nat
  target : Str
  port_bound : port < 65536
  deriving DecidableEq

structure NAPTRRecord where
  order : Nat
  preference : Nat
  service : Str
  replacement : Str
  deriving DecidableEq

/-- A record set of the additional section, with its name. -/
inductive RRset where
  | a (name : Str) (records : List ARecord)
  | srv (name : Str) (records : List SRVRecord)
  | other (name : Str)
  deriving DecidableEq

structure Answer (Record : Type) where
  rrset : List Record
  additional : List RRset

inductive RdataType where
  | a | srv | naptr
  deriving DecidableEq, Repr

structure Query where
  rdtype : RdataType
  name : Str
  timedOut : Bool
  deriving DecidableEq, Repr

/-- `none` stands for a `DNSException` other than `Timeout`, an answer without records among them. -/
structure DNS where
  a : Str → Option (Answer ARecord)
  srv : Str → Option (Answer SRVRecord)
  naptr : Str → Option (Answer NAPTRRecord)
  timesOut : List Query → RdataType → Str → Bool

inductive LookupFailure where
  /-- `dns.resolver.Timeout` -/
  | timeout
  | dnsLookupError (message : Str)
  /-- What `Route` raises for an illegal address or port. -/
  | valueError
  /-- A parameter without a string has no `lower`. -/
  | attributeError
  | keyError
  /-- A URI that cannot be printed. -/
  | typeError
  deriving DecidableEq, Repr

abbrev DNSLookup (α : Type) : Type := Logged Query LookupFailure α

namespace DNS

/-- `resolver.query(name, rdtype)` -/
def query {Record : Type} (dns : DNS) (rdtype : RdataType) (name : Str) (content : Option (Answer Record)) :
    DNSLookup (Option (Answer Record)) := fun queries =>
  (if dns.timesOut queries rdtype name then .error .timeout else .ok content,
    queries ++ [⟨rdtype, name, dns.timesOut queries rdtype name⟩])

end DNS

/-! ### Addresses -/

/-- `additional_addresses.get(hostname)`: of several record sets with the name the last one. -/
def additionalAddresses (additional : List RRset) (hostname : Str) : Option (List ARecord) :=
  additional.foldl (fun found rset =>
    match rset with
    | .a name records => if name = hostname then some records else found
    | _ => found) none

/-- `_lookup_a_records` -/
def lookupARecords (dns : DNS) (hostnames : List Str) (additional : List RRset) :
    DNSLookup (Str → Option (List Str)) :=
  hostnames.foldlM (fun addresses hostname =>
    match additionalAddresses additional hostname with
    | some records => pure (Function.update addresses hostname (some (records.map ARecord.address)))
    | none => do
        match ← dns.query .a hostname (dns.a hostname) with
        | none => pure (Function.update addresses hostname (some []))
        | some answer =>
            pure (Function.update addresses hostname (some (answer.rrset.map ARecord.address)))) fun _ => none

/-! ### Services -/

structure SRVResult where
  priority : Nat
  weight : Nat
  port : Nat
  address : Str
  deriving DecidableEq, Repr

/-- The order of the key `(priority, -weight)`. -/
def SRVResult.Before (left right : SRVResult) : Prop :=
  left.priority < right.priority ∨ left.priority = right.priority ∧ right.weight ≤ left.weight

instance : DecidableRel SRVResult.Before := fun left right => by
  unfold SRVResult.Before
  infer_instance

def additionalServices (additional : List RRset) (name : Str) : Option (List SRVRecord) :=
  additional.foldl (fun found rset =>
    match rset with
    | .srv given records => if given = name then some records else found
    | _ => found) none

/-- One result for each address of the record's target. -/
def SRVRecord.results (addresses : List Str) (record : SRVRecord) : List SRVResult :=
  addresses.map fun address =>
    { priority := record.priority, weight := record.weight, port := record.port, address }

/-- The results of the records, with their addresses looked up. -/
def lookupTargets (dns : DNS) (records : List SRVRecord) (additional : List RRset) : DNSLookup (List SRVResult) := do
  let addresses ← lookupARecords dns (records.map SRVRecord.target) additional
  return records.flatMap fun record => record.results ((addresses record.target).getD [])

/-- The results of one service: from the additional records, else from an answer. -/
def serviceResults (dns : DNS) (srvName : Str) (additional : List RRset) : DNSLookup (List SRVResult) :=
  match additionalServices additional srvName with
  | some records => lookupTargets dns records additional
  | none => do
      match ← dns.query .srv srvName (dns.srv srvName) with
      | none => return []
      | some answer => lookupTargets dns answer.rrset answer.additional

/-- `_lookup_srv_records` -/
def lookupSrvRecords (dns : DNS) (srvNames : List Str) (additional : List RRset) :
    DNSLookup (Str → Option (List SRVResult)) :=
  srvNames.foldlM (fun services srvName => do
    let results ← serviceResults dns srvName additional
    return Function.update services srvName (some (results.insertionSort SRVResult.Before))) fun _ => none

/-! ### Pointers -/

structure NAPTRResult where
  service : Str
  order : Nat
  preference : Nat
  result : SRVResult
  deriving DecidableEq, Repr

/-- The order of the key `(order, preference)`. -/
def NAPTRResult.Before (left right : NAPTRResult) : Prop :=
  left.order < right.order ∨ left.order = right.order ∧ left.preference ≤ right.preference

instance : DecidableRel NAPTRResult.Before := fun left right => by
  unfold NAPTRResult.Before
  infer_instance

def NAPTRRecord.results (services : List SRVResult) (record : NAPTRRecord) : List NAPTRResult :=
  services.map fun result =>
    { service := lower record.service, order := record.order, preference := record.preference, result }

/-- `_lookup_naptr_record` -/
def lookupNaptrRecord (dns : DNS) (domain : Str) (services : List Str) : DNSLookup (List NAPTRResult) := do
  match ← dns.query .naptr domain (dns.naptr domain) with
  | none => return []
  | some answer =>
      let records := answer.rrset.filter fun record => lower record.service ∈ services
      let found ← lookupSrvRecords dns (records.map NAPTRRecord.replacement) answer.additional
      let pointers := records.flatMap fun record => record.results ((found record.replacement).getD [])
      return pointers.insertionSort NAPTRResult.Before

/-! ### The lookup for a service -/

/-- `^\d{1,3}\.\d{1,3}\.\d{1,3}\.\d{1,3}$` -/
def addressPattern : Pattern Unit := do
  let _ ← Pattern.between Char.isDigit 1 3
  Pattern.literal ['.']
  let _ ← Pattern.between Char.isDigit 1 3
  Pattern.literal ['.']
  let _ ← Pattern.between Char.isDigit 1 3
  Pattern.literal ['.']
  let _ ← Pattern.between Char.isDigit 1 3
  Pattern.atEnd

def isAddress (host : Str) : Bool := (addressPattern.run host).isSome

def fail {α : Type} (message : Str) : DNSLookup α := Logged.raise (.dnsLookupError message)

/-- `service_srv_record_map`: the name of the records, the default port and whether to fall back on the host. -/
def serviceSrvRecordMap : List (Str × Str × Nat × Bool) :=
  [("stun".toList, "_stun._udp".toList, 3478, false), ("msrprelay".toList, "_msrps._tcp".toList, 2855, true)]

/-- The statements under `try` of `lookup_service`; nothing where none of them returns. -/
def findServers (dns : DNS) (host : Str) (port : Option Nat) (servicePrefix : Str) (servicePort : Nat)
    (serviceFallback : Bool) : DNSLookup (Option (List (Str × Nat))) :=
  if isAddress host then return some [(host, port.getD servicePort)]
  else do
    let name := servicePrefix ++ '.' :: host
    let services ← lookupSrvRecords dns [name] []
    match (services name).getD [] with
    | [] =>
        if serviceFallback then do
          let addresses ← lookupARecords dns [host] []
          match (addresses host).getD [] with
          | [] => return none
          | found => return some (found.map fun address => (address, servicePort))
        else return none
    | found => return some (found.map fun result => (result.address, result.port))

/-- `lookup_service` -/
def lookupService (dns : DNS) (host : Str) (port : Option Nat) (service : Str) : DNSLookup (List (Str × Nat)) :=
  match serviceSrvRecordMap.lookup service with
  | none => fail ("Unknown service: ".toList ++ service)
  | some (servicePrefix, servicePort, serviceFallback) => do
      let found ← (findServers dns host port servicePrefix servicePort serviceFallback).handle fun failure =>
        match failure with
        | .timeout => fail
            ("Timeout in lookup for ".toList ++ service ++ " servers for domain ".toList ++ host)
        | failure => Logged.raise failure
      match found with
      | some servers => return servers
      | none => fail ("No ".toList ++ service ++ " servers found for domain ".toList ++ host)

/-! ### The lookup for a SIP URI -/

/-- `transport_service_map` -/
def Transport.service : Transport → Str
  | udp => "_sip._udp".toList
  | tcp => "_sip._tcp".toList
  | tls => "_sips._tcp".toList

/-- `naptr_service_transport_map` -/
def naptrServiceTransportMap : List (Str × Transport) :=
  [("sips+d2t".toList, .tls), ("sip+d2t".toList, .tcp), ("sip+d2u".toList, .udp)]

/-- `'%s.%s' % (transport_service_map[transport], uri.host)` -/
def recordName (transport : Transport) (host : Str) : Str := transport.service ++ '.' :: host

/-- A time-out gives the value. -/
def onTimeout {α : Type} (value : α) : LookupFailure → DNSLookup α
  | .timeout => pure value
  | failure => Logged.raise failure

/-- The routes of the addresses, ports and transports. -/
def makeRoutes (hops : List (Str × Nat × Transport)) : DNSLookup (List Route) :=
  match hops.mapM fun hop => Route.new hop.1 hop.2.1 hop.2.2 with
  | some routes => pure routes
  | none => Logged.raise .valueError

def transportParameter (uri : SIPURI) : Option Value := uri.parameters.get "transport".toList

/-- `'tls' if uri.secure else uri.transport.lower()` -/
def dictatedTransport (uri : SIPURI) : DNSLookup Str :=
  if uri.secure then pure "tls".toList
  else match transportParameter uri with
    | none => pure "udp".toList
    | some (.str transport) => pure (lower transport)
    | some _ => Logged.raise .attributeError

/-- The transport where it is supported. -/
def Transport.among (supported : List Transport) (transport : Str) : Option Transport :=
  (Transport.ofName transport).filter (· ∈ supported)

/-- The transport that the URI dictates, for the branches that look up no service. -/
def dictated (uri : SIPURI) (supported : List Transport) : DNSLookup Transport := do
  let transport ← dictatedTransport uri
  match Transport.among supported transport with
  | none => fail ("Transport ".toList ++ transport ++ " dictated by URI is not supported".toList)
  | some transport => pure transport

/-- The routes to the addresses of the host; nothing where there are none. -/
def addressRoutes (dns : DNS) (host : Str) (port : Nat) (transport : Transport) : DNSLookup (Option (List Route)) := do
  let addresses ← lookupARecords dns [host] []
  match (addresses host).getD [] with
  | [] => return none
  | found => some <$> makeRoutes (found.map fun address => (address, port, transport))

/-- The addresses, ports and the transport of the results. -/
def serviceHops (transport : Transport) (results : List SRVResult) : List (Str × Nat × Transport) :=
  results.map fun result => (result.address, result.port, transport)

/-- The SRV records of the transport, or the addresses of the host where these give none. -/
def namedRoutes (dns : DNS) (uri : SIPURI) (supported : List Transport) (text : Str) :
    DNSLookup (Option (List Route)) :=
  match Transport.among supported text with
  | none => fail ("Requested lookup for URI with ".toList ++ text ++ " transport, but it is not supported".toList)
  | some transport =>
      if uri.secure ∧ transport ≠ .tls then
        fail ("Requested lookup for SIPS URI, but with ".toList ++ text ++ " transport parameter".toList)
      else do
        let name := recordName transport uri.host
        let services ← lookupSrvRecords dns [name] []
        match (services name).getD [] with
        | [] => addressRoutes dns uri.host transport.defaultPort transport
        | found => some <$> makeRoutes (serviceHops transport found)

/-- The transport is a parameter of the URI. -/
def parameterRoutes (dns : DNS) (uri : SIPURI) (supported : List Transport) :
    Value → DNSLookup (Option (List Route))
  | .str text => namedRoutes dns uri supported (lower text)
  | _ => Logged.raise .attributeError

/-- The routes of the pointers. -/
def pointerRoutes (pointers : List NAPTRResult) : DNSLookup (List Route) :=
  match pointers.mapM fun pointer => (naptrServiceTransportMap.lookup pointer.service).map fun transport =>
      (pointer.result.address, pointer.result.port, transport) with
  | some hops => makeRoutes hops
  | none => Logged.raise .keyError

/-- The SRV lookups, one for each transport; one that runs out of time is left out. -/
def serviceRoutes (dns : DNS) (host : Str) (supported : List Transport) : DNSLookup (List Route) :=
  supported.foldlM (fun routes transport => do
    let name := recordName transport host
    let services ← ((lookupSrvRecords dns [name] []) >>= fun services =>
      (pure (some services) : DNSLookup _)).handle (onTimeout none)
    match services with
    | none => return routes
    | some services => do
        let found ← makeRoutes (serviceHops transport ((services name).getD []))
        return routes ++ found) []

/-- Neither an address nor a port nor a transport is given. -/
def fullRoutes (dns : DNS) (uri : SIPURI) (supported : List Transport) : DNSLookup (Option (List Route)) := do
  let naptrServices := (naptrServiceTransportMap.filter (·.2 ∈ supported)).map Prod.fst
  let pointers ← (lookupNaptrRecord dns uri.host naptrServices).handle (onTimeout [])
  if pointers ≠ [] then some <$> pointerRoutes pointers
  else do
    let routes ← serviceRoutes dns uri.host supported
    if routes ≠ [] then return some routes
    else
      let transport := if uri.secure then Transport.tls else .udp
      if transport ∈ supported then addressRoutes dns uri.host transport.defaultPort transport
      else return none

/-- The statements under `try`; nothing where none of them returns. -/
def findRoutes (dns : DNS) (uri : SIPURI) (supported : List Transport) : DNSLookup (Option (List Route)) :=
  if isAddress uri.host then do
    let transport ← dictated uri supported
    some <$> makeRoutes [(uri.host, uri.port.getD transport.defaultPort, transport)]
  else match uri.port with
    | some port => do
        let transport ← dictated uri supported
        addressRoutes dns uri.host port transport
    | none =>
        match transportParameter uri with
        | some parameter => parameterRoutes dns uri supported parameter
        | none =>
            if uri.secure then
              if .tls ∈ supported then fullRoutes dns uri [.tls]
              else fail "Requested lookup for SIPS URI, but TLS transport is not supported".toList
            else fullRoutes dns uri supported

/-- `raise DNSLookupError("... %s" % uri)` -/
def failWith {α : Type} (message : String) (uri : SIPURI) : DNSLookup α :=
  match uri.format with
  | some text => fail (message.toList ++ text)
  | none => Logged.raise .typeError

/-- `lookup_sip_proxy`. The unknown transports of the message come from a set, in any order. -/
def lookupSipProxy (dns : DNS) (uri : SIPURI) (supportedTransports : List Str) : DNSLookup (List Route) :=
  if supportedTransports = [] then fail "No transports are supported".toList
  else
    let names := supportedTransports.map lower
    let unknown := (names.filter fun name => (Transport.ofName name).isNone).dedup
    if unknown ≠ [] then fail ("Unknown transports: ".toList ++ ", ".toList.intercalate unknown)
    else do
      let found ← (findRoutes dns uri (names.filterMap Transport.ofName)).handle fun failure =>
        match failure with
        | .timeout => failWith "Timeout in lookup for routes for SIP URI " uri
        | failure => Logged.raise failure
      match found with
      | some routes => return routes
      | none => failWith "No routes found for SIP URI " uri

end SipSimple.Lookup
