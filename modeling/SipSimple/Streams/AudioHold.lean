import SipSimple.Library.Runs

/-!
# Hold of an audio stream

`AudioStream` of `streams/rtp/audio.py`, with `hold`, `unhold` and `get_local_media` of `RTPStream`, as far as
the direction of the stream, its bridge and its recorder go. What the media layer decides is input: whether the
RTP transport uses ICE, whether a new transport can be made and whether a recorder starts. The other calls of the
transport succeed on one that is started and raise SIPCoreError on one that is not. Codecs, ICE candidates and
notifications are left out.
-/

namespace SipSimple.Streams

/-- The directions of SDP. -/
inductive MediaDirection where
  | sendrecv | sendonly | recvonly | inactive
  deriving DecidableEq, Repr

namespace MediaDirection

/-- `"send" in direction` -/
def sends : MediaDirection → Bool
  | sendrecv | sendonly => true
  | recvonly | inactive => false

/-- `"recv" in direction` -/
def receives : MediaDirection → Bool
  | sendrecv | recvonly => true
  | sendonly | inactive => false

/-- A direction that holds the other side. -/
def isHold (direction : MediaDirection) : Bool := !direction.receives

end MediaDirection

inductive AudioState where
  | null | initialized | waitIce | established | ended
  deriving DecidableEq, Repr

inductive HoldRequest where
  | hold | unhold
  deriving DecidableEq, Repr

inductive IceState where
  | null | inUse | failed
  deriving DecidableEq, Repr

inductive StreamError where
  | runtimeError | attributeError | valueError | sipCoreError
  deriving DecidableEq, Repr

/-- `WaveRecorder`, with its place in the bridge of the stream. -/
structure Recorder where
  isActive : Bool
  inBridge : Bool
  deriving DecidableEq, Repr

/-- What is read of the media stream of a remote SDP. -/
structure RemoteMedia where
  address : String
  port : Nat
  direction : MediaDirection
  deriving DecidableEq, Repr

structure AudioStream where
  state : AudioState := .null
  direction : Option MediaDirection := none
  onHoldByLocal : Bool := false
  onHoldByRemote : Bool := false
  holdRequest : Option HoldRequest := none
  /-- `_transport`, by its direction; one that is not started has none. -/
  transport : Option (Option MediaDirection) := none
  tryIce : Bool := false
  iceState : IceState := .null
  /-- `_remote_rtp_address_sdp`, `_remote_rtp_port_sdp` -/
  remoteAddress : Option (String × Nat) := none
  /-- `_audio_rec` -/
  recorder : Option Recorder := none
  /-- The stream is a member of its bridge. -/
  inBridge : Bool := false
  /-- `_initialized` -/
  initialized : Bool := false
  /-- `_done` -/
  done : Bool := false
  deriving DecidableEq, Repr

namespace AudioStream

variable (self : AudioStream)

def onHold : Bool := self.onHoldByLocal || self.onHoldByRemote

/-! ### Hold and the offers -/

/-- `_pause`: a bridge raises ValueError for what is not in it. -/
def pause : AudioStream × Option StreamError :=
  if self.inBridge then ({ self with inBridge := false }, none) else (self, some .valueError)

/-- `_resume` -/
def resume : AudioStream := { self with inBridge := true }

def hold : AudioStream × Option StreamError :=
  if self.onHoldByLocal ∨ self.holdRequest = some .hold then (self, none)
  else if self.state = .established ∧ self.direction ≠ some .inactive then
    match self.pause with
    | (next, none) => ({ next with holdRequest := some .hold }, none)
    | (next, some error) => (next, some error)
  else ({ self with holdRequest := some .hold }, none)

def unhold : AudioStream :=
  if (self.onHoldByLocal = false ∧ self.holdRequest ≠ some .hold) ∨ self.holdRequest = some .unhold then self
  else
    let next := if self.state = .established ∧ self.holdRequest = some .hold then self.resume else self
    { next with holdRequest := if self.holdRequest = some .hold then none else some .unhold }

/-- A hold is requested, or was negotiated and nothing else is requested. -/
def held : Bool := self.holdRequest = some .hold ∨ self.holdRequest = none ∧ self.onHoldByLocal

/-- The direction of `get_local_media` for an offer, or for an answer, where the transport decides. -/
def localDirection (offer : Bool) (old : Option MediaDirection) : MediaDirection :=
  if offer then
    match old with
    | none => .sendrecv
    | some old =>
        if old.sends then (if self.held then .sendonly else .sendrecv)
        else (if self.held then .inactive else .recvonly)
  else if old.all MediaDirection.receives then .sendrecv
  else .sendonly

def getLocalMedia (offer : Bool) : Except StreamError MediaDirection :=
  if self.state ∈ [.initialized, .waitIce, .established] then
    match self.transport with
    | none => throw .attributeError
    | some old => return self.localDirection offer old
  else throw .runtimeError

/-! ### Negotiated directions -/

/-- `_check_recording`: the handler of a start that fails uses the recorder that it has dropped. -/
def checkRecording (recorder : Recorder) (starts : Bool) : AudioStream × Option StreamError :=
  if recorder.isActive || starts then
    ({ self with recorder := some { isActive := true, inBridge := !self.onHold } }, none)
  else ({ self with recorder := none }, some .attributeError)

/-- `on_hold_by_local` for the direction. -/
def localHold (direction : MediaDirection) : Bool :=
  if direction = .inactive then self.onHoldByLocal else direction == .sendonly

/-- The condition of `_check_hold` for `_resume`. -/
def resumes (direction : MediaDirection) (isInitial : Bool) : Bool :=
  (isInitial || self.onHoldByLocal || self.direction == some .inactive) && direction != .inactive &&
    !self.localHold direction && self.holdRequest != some .hold

def checkHold (direction : MediaDirection) (isInitial starts : Bool) : AudioStream × Option StreamError :=
  let next := { self with
    direction := some direction
    onHoldByLocal := self.localHold direction
    onHoldByRemote := !direction.sends
    inBridge := self.inBridge || self.resumes direction isInitial }
  match next.recorder with
  | none => (next, none)
  | some recorder => next.checkRecording recorder starts

def start (direction : MediaDirection) (remote : RemoteMedia) (starts : Bool) : AudioStream × Option StreamError :=
  if self.state = .initialized then
    let next := { self with transport := some (some direction), remoteAddress := some (remote.address, remote.port) }
    match next.checkHold direction true starts with
    | (next, none) =>
        ({ next with state := if self.tryIce ∧ self.iceState = .null then .waitIce else .established }, none)
    | (next, some error) => (next, some error)
  else (self, some .runtimeError)

/-- `_NH_RTPTransportICENegotiationDidSucceed`, `_NH_RTPTransportICENegotiationDidFail` -/
def iceNegotiated (iceState : IceState) : AudioStream :=
  if self.state = .waitIce then { self with iceState, state := .established } else self

/-- The media of the other side is at another address. -/
def moves (remote : RemoteMedia) (iceActive : Bool) : Bool :=
  !iceActive && self.remoteAddress != some (remote.address, remote.port)

/-- The end of `update`. -/
def updated (remote : RemoteMedia) : AudioStream × Option StreamError → AudioStream × Option StreamError
  | (next, none) => ({ next with remoteAddress := some (remote.address, remote.port), holdRequest := none }, none)
  | (next, some error) => (next, some error)

/-- The direction of a new transport. -/
def newDirection (direction : MediaDirection) (remote : RemoteMedia) : MediaDirection :=
  if remote.address = "0.0.0.0" ∧ remote.direction = .sendrecv then .recvonly else direction

/-- `update` with a new transport. -/
def replaceTransport (direction : MediaDirection) (remote : RemoteMedia) (creates starts : Bool) :
    AudioStream × Option StreamError :=
  if self.recorder.all Recorder.inBridge then
    let removed : AudioStream := { self with
      recorder := self.recorder.map fun recorder => { recorder with inBridge := false } }
    if creates then
      let next := { removed with transport := some (some (newDirection direction remote)) }
      updated remote (next.checkHold (newDirection direction remote) false starts)
    else ({ removed with transport := some none, state := .ended }, none)
  else (self, some .valueError)

def update (direction : MediaDirection) (remote : RemoteMedia) (iceActive creates starts : Bool) :
    AudioStream × Option StreamError :=
  match self.transport with
  | none => (self, some .attributeError)
  | some old =>
      if self.moves remote iceActive then self.replaceTransport direction remote creates starts
      else if old.isNone then (self, some .sipCoreError)
      else
        let next := { self with transport := some (some direction) }
        updated remote (next.checkHold direction false starts)

def reset (starts : Bool) : AudioStream × Option StreamError :=
  if self.direction = some .inactive ∧ self.onHoldByLocal = false then
    match self.transport with
    | none => (self, some .attributeError)
    | some none => (self, some .sipCoreError)
    | some (some _) =>
        let next := { self with transport := some (some .sendrecv) }
        next.checkHold .sendrecv false starts
  else (self, none)

/-! ### Recordings and the end -/

def startRecording (starts : Bool) : AudioStream × Option StreamError :=
  if self.state = .ended ∨ self.recorder.isSome then (self, some .runtimeError)
  else
    let next := { self with recorder := some { isActive := false, inBridge := false } }
    if self.state = .established then next.checkRecording { isActive := false, inBridge := false } starts
    else (next, none)

def stopRecording : AudioStream × Option StreamError :=
  if self.recorder.isSome then ({ self with recorder := none }, none) else (self, some .runtimeError)

/-- `bridge.stop` takes everything out of the bridge. -/
def deactivate : AudioStream :=
  { self with
    inBridge := false
    recorder := self.recorder.map fun recorder => { recorder with inBridge := false } }

/-- `end` -/
def finish : AudioStream :=
  if self.state = .ended ∨ self.done then self
  else if self.initialized then
    { self with done := true, state := .ended, recorder := none, transport := none }
  else { self with done := true, state := .ended }

/-- `_NH_RTPTransportDidInitialize` -/
def didInitialize (tryIce : Bool) : AudioStream :=
  if self.state = .null then
    { self with state := .initialized, transport := some none, initialized := true, tryIce }
  else self

end AudioStream

/-! ### Runs -/

inductive AudioCall where
  | didInitialize (tryIce : Bool)
  | start (direction : MediaDirection) (remote : RemoteMedia) (starts : Bool)
  | iceNegotiated (iceState : IceState)
  | hold
  | unhold
  | getLocalMedia (offer : Bool)
  | update (direction : MediaDirection) (remote : RemoteMedia) (iceActive creates starts : Bool)
  | reset (starts : Bool)
  | startRecording (starts : Bool)
  | stopRecording
  /-- `end`, or `deactivate` and then `end`, as a session does. -/
  | finish (deactivates : Bool)
  deriving Repr

/-- A stream with what its last call did and with its last `hold` or `unhold`. -/
structure AudioRun where
  stream : AudioStream := {}
  raised : Option StreamError := none
  offered : Option MediaDirection := none
  /-- The last of `hold` and `unhold` was `hold`. -/
  wantsHold : Bool := false
  deriving DecidableEq, Repr

namespace AudioRun

/-- A call that returns nothing. -/
def called (self : AudioRun) (result : AudioStream × Option StreamError) : AudioRun :=
  { self with stream := result.1, raised := result.2, offered := none }

def step (self : AudioRun) : AudioCall → AudioRun
  | .didInitialize tryIce => self.called (self.stream.didInitialize tryIce, none)
  | .start direction remote starts => self.called (self.stream.start direction remote starts)
  | .iceNegotiated iceState => self.called (self.stream.iceNegotiated iceState, none)
  | .hold => { self.called self.stream.hold with wantsHold := true }
  | .unhold => { self.called (self.stream.unhold, none) with wantsHold := false }
  | .getLocalMedia offer =>
      match self.stream.getLocalMedia offer with
      | .ok direction => { self with raised := none, offered := if offer then some direction else none }
      | .error error => { self with raised := some error, offered := none }
  | .update direction remote iceActive creates starts =>
      self.called (self.stream.update direction remote iceActive creates starts)
  | .reset starts => self.called (self.stream.reset starts)
  | .startRecording starts => self.called (self.stream.startRecording starts)
  | .stopRecording => self.called self.stream.stopRecording
  | .finish deactivates =>
      self.called ((if deactivates then self.stream.deactivate else self.stream).finish, none)

end AudioRun

end SipSimple.Streams
