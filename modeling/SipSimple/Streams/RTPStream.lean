import SipSimple.Library.Runs

/-!
# The initialization of an RTP stream

`RTPStream` of `streams/rtp/__init__.py` up to its outcome. An RTP transport is made with one STUN server
after the other, and at last with none, until one initializes; the servers are those of the account or come
from a DNS lookup. The handlers of the failed lookups and transports look at the state under the lock and
go on without it, so a call of `end` from another thread may come in between: what they have still to do is
a retry of the stream.

What making a transport runs into is input. `initialize` and `end` of the audio and video streams do the
same here; the codecs, the devices and the SDP itself are left out.
-/

namespace SipSimple.Streams

/-- `key_negotiation`. -/
inductive KeyNegotiation where
  | opportunistic | sdesOptional | sdesMandatory | zrtp
  deriving DecidableEq, Repr

/-- What `initialize` reads of the account of the session. -/
structure RTPAccount where
  isBonjour : Bool
  useIce : Bool
  stunServerList : List (String × Nat)
  /-- None if encryption is not enabled. -/
  keyNegotiation : Option KeyNegotiation
  deriving DecidableEq, Repr

/-- What `new_from_sdp` keeps of the media stream of a proposal. -/
structure IncomingMedia where
  hasIceAttributes : Bool
  hasIceCandidates : Bool
  encryption : Option KeyNegotiation
  deriving DecidableEq, Repr

structure RTPArgs where
  encryption : Option KeyNegotiation
  useIce : Bool
  deriving DecidableEq, Repr

structure RTPTransport where
  stunServer : Option (String × Nat)
  args : RTPArgs
  deriving DecidableEq, Repr

/-- What an attempt to make a transport runs into. -/
inductive Attempt where
  /-- `RTPTransport` raises SIPCoreError. -/
  | constructorError
  /-- `set_INIT` raises SIPCoreError. -/
  | initError (reason : String)
  | started
  deriving DecidableEq, Repr

/-- What a handler does after it released the lock. -/
inductive Retry where
  | initRtpTransport (stunServers : List (String × Nat))
  | tryNextRtpTransport (reason : String)
  deriving DecidableEq, Repr

/-- `MediaStreamDidInitialize` and `MediaStreamDidNotInitialize`. -/
inductive Outcome where
  | didInitialize
  | didNotInitialize (reason : Option String)
  deriving DecidableEq, Repr

inductive RTPState where
  | null | initializing | initialized | ended
  deriving DecidableEq, Repr

structure RTPStream where
  state : RTPState := .null
  incoming : Option IncomingMedia := none
  tryIce : Bool := false
  srtpEncryption : Option KeyNegotiation := none
  done : Bool := false
  initialized : Bool := false
  rtpArgs : Option RTPArgs := none
  stunServers : Option (List (Option (String × Nat))) := none
  /-- The transports that were made, which are known by their positions. -/
  transports : List RTPTransport := []
  observed : List Nat := []
  rtpTransport : Option Nat := none
  /-- The transports of which no result has come. -/
  initializing : List Nat := []
  lookups : Nat := 0
  retries : List Retry := []
  posted : List Outcome := []
  deriving DecidableEq, Repr

namespace RTPStream

def post (stream : RTPStream) (outcome : Outcome) : RTPStream :=
  { stream with posted := stream.posted ++ [outcome] }

/-! ### Transports -/

/-- `_try_next_rtp_transport`. After an error of the constructor the except clause names a variable that
is not set, and without `_stun_servers` there is an AttributeError. -/
def tryNextRtpTransport (stream : RTPStream) : List Attempt → Option String → RTPStream
  | attempts, reason =>
      match stream.stunServers, stream.rtpArgs with
      | some [], _ => { stream with state := .ended }.post (.didNotInitialize reason)
      | some (first :: servers), some args =>
          let server := (first :: servers).getLast (List.cons_ne_nil first servers)
          let stream := { stream with stunServers := some (first :: servers).dropLast }
          match attempts with
          | .constructorError :: _ => stream
          | .initError reason :: attempts => tryNextRtpTransport stream attempts (some reason)
          | _ =>
              { stream with
                transports := stream.transports ++ [⟨server, args⟩]
                observed := stream.observed ++ [stream.transports.length]
                initializing := stream.initializing ++ [stream.transports.length] }
      | _, _ => stream

def initRtpTransport (stream : RTPStream) (stunServers : List (String × Nat)) (attempts : List Attempt) :
    RTPStream :=
  { stream with
    rtpArgs := some ⟨stream.srtpEncryption, stream.tryIce⟩
    stunServers := some (none :: stunServers.reverse.map some) }.tryNextRtpTransport attempts none

/-! ### The methods -/

/-- The stream of `new_from_sdp`, or one to propose. -/
def new (incoming : Option IncomingMedia) : RTPStream := { incoming := incoming }

/-- What `initialize` sets before it looks for servers. -/
def prepare (stream : RTPStream) (account : RTPAccount) : RTPStream :=
  let policy := account.keyNegotiation
  let preferred := if policy = some .opportunistic then some .zrtp else policy
  let stream := { stream with state := .initializing }
  match stream.incoming with
  | some media =>
      { stream with
        tryIce := account.useIce && media.hasIceAttributes && media.hasIceCandidates
        srtpEncryption :=
          if media.encryption ≠ none ∧ policy = some .opportunistic then media.encryption else preferred }
  | none => { stream with tryIce := account.useIce, srtpEncryption := preferred }

/-- `initialize`; a stream that is not new raises RuntimeError. -/
def initializeStream (stream : RTPStream) (account : RTPAccount) (attempts : List Attempt) : RTPStream :=
  if stream.state ≠ .null then stream
  else
    let stream := stream.prepare account
    if stream.tryIce then
      if account.stunServerList ≠ [] then stream.initRtpTransport account.stunServerList attempts
      else if !account.isBonjour then { stream with lookups := stream.lookups + 1 }
      else stream
    else stream.initRtpTransport [] attempts

/-- `end`. -/
def endStream (stream : RTPStream) : RTPStream :=
  if stream.state = .ended ∨ stream.done then stream
  else
    let stream := { stream with done := true, state := .ended }
    if !stream.initialized then stream.post (.didNotInitialize (some "Interrupted"))
    else
      { stream with
        observed := stream.observed.filter fun transport => some transport ≠ stream.rtpTransport
        rtpTransport := none }

/-! ### Notifications -/

/-- `_NH_DNSLookupDidFail`, without servers, and `_NH_DNSLookupDidSucceed`, with those of the lookup. -/
def dnsLookupDone (stream : RTPStream) (stunServers : List (String × Nat)) : RTPStream :=
  if stream.lookups = 0 then stream
  else
    let stream := { stream with lookups := stream.lookups - 1 }
    if stream.state = .ended then stream
    else { stream with retries := stream.retries ++ [.initRtpTransport stunServers] }

/-- The notification of a transport that is not observed is not handled. Without `_rtp_args` there is an
AttributeError; with a reason, making the media transport raises SIPCoreError. -/
def rtpTransportDidInitialize (stream : RTPStream) (transport : Nat) (error : Option String) : RTPStream :=
  let stream := { stream with initializing := stream.initializing.filter (· ≠ transport) }
  if transport ∉ stream.observed then stream
  else if stream.state = .ended then
    { stream with observed := stream.observed.filter (· ≠ transport) }
  else if stream.rtpArgs = none then stream
  else
    let stream := { stream with rtpArgs := none, stunServers := none, incoming := none }
    match error with
    | some reason =>
        { stream with
          state := .ended
          observed := stream.observed.filter (· ≠ transport) }.post (.didNotInitialize (some reason))
    | none =>
        { stream with
          rtpTransport := some transport
          initialized := true
          state := .initialized }.post .didInitialize

def rtpTransportDidFail (stream : RTPStream) (transport : Nat) (reason : String) : RTPStream :=
  let stream := { stream with initializing := stream.initializing.filter (· ≠ transport) }
  if transport ∉ stream.observed then stream
  else
    let stream := { stream with observed := stream.observed.filter (· ≠ transport) }
    if stream.state = .ended then stream
    else { stream with retries := stream.retries ++ [.tryNextRtpTransport reason] }

/-- A handler goes on after it released the lock. -/
def resume (stream : RTPStream) (attempts : List Attempt) : Retry → RTPStream
  | .initRtpTransport stunServers => stream.initRtpTransport stunServers attempts
  | .tryNextRtpTransport reason => stream.tryNextRtpTransport attempts (some reason)

def retry (stream : RTPStream) (attempts : List Attempt) : RTPStream :=
  match stream.retries with
  | [] => stream
  | retry :: retries => { stream with retries := retries }.resume attempts retry

/-! ### Runs -/

inductive Input where
  | initializeStream (account : RTPAccount) (attempts : List Attempt)
  | endStream
  | dnsLookupDidFail
  | dnsLookupDidSucceed (result : List (String × Nat))
  | rtpTransportDidInitialize (transport : Nat) (error : Option String)
  | rtpTransportDidFail (transport : Nat) (reason : String)
  | retry (attempts : List Attempt)
  deriving DecidableEq, Repr

def step (stream : RTPStream) : Input → RTPStream
  | .initializeStream account attempts => stream.initializeStream account attempts
  | .endStream => stream.endStream
  | .dnsLookupDidFail => stream.dnsLookupDone []
  | .dnsLookupDidSucceed result => stream.dnsLookupDone result
  | .rtpTransportDidInitialize transport error => stream.rtpTransportDidInitialize transport error
  | .rtpTransportDidFail transport reason => stream.rtpTransportDidFail transport reason
  | .retry attempts => stream.retry attempts

end RTPStream

end SipSimple.Streams
