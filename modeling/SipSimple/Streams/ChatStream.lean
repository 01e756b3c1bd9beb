import SipSimple.Library.Runs

/-!
# The messages of a chat stream

A message waits in a queue for the sender loop, which makes a chunk of it and sends that. The ID of a sent
message is kept until a response, a REPORT or the end of the stream says what became of the message. The
loop waits in two places, for the queue and for the chunk to be sent; everything else runs between waits.
A REPORT has a status.
-/

namespace SipSimple.Streams

/-- What is compared of a `ChatIdentity`. -/
structure ChatIdentity where
  user : String
  host : String
  deriving DecidableEq

/-- `QueuedMessage` and `QueuedOTRInternalMessage`. -/
structure QueuedMessage where
  id : Nat
  notifyProgress : Bool
  otrInternal : Bool
  contentType : String
  sender : Option ChatIdentity
  recipients : List ChatIdentity
  courtesyRecipients : List ChatIdentity
  subject : Option String
  timestamp : Option String
  required : List String
  additionalHeaders : List (String × String)

/-- What the two sides have agreed on. -/
structure ChatSettings where
  containsMimeType : List String → String → Bool
  remoteAcceptTypes : List String
  remoteAcceptWrappedTypes : List String
  cpimEnabled : Bool
  privateMessagesAllowed : Bool
  preferCpim : Bool
  localIdentity : ChatIdentity
  remoteIdentity : ChatIdentity

inductive Payload
  | cpim
  | simple
  deriving DecidableEq

inductive ChatNotification
  | didSendMessage (id : Nat)
  | didDeliverMessage (id : Nat) (code : Nat) (reason : String)
  | didNotDeliverMessage (id : Nat) (code : Nat) (reason : String)
  deriving DecidableEq

/-- The greenlet of `_message_queue_handler`: there is none, it waits for a message, or for the message
to be sent. -/
inductive SenderLoop
  | none
  | waiting
  | sending (message : QueuedMessage)

/-- How far `end` has got. -/
inductive Ending
  | idle
  | started
  | posted
  | finished
  deriving DecidableEq

structure ChatStream where
  initialized : Bool
  connected : Bool
  ending : Ending
  messageQueue : List QueuedMessage
  sentMessages : List Nat
  loop : SenderLoop
  killed : Bool
  posted : List ChatNotification

namespace ChatStream

def new : ChatStream where
  initialized := false
  connected := false
  ending := .idle
  messageQueue := []
  sentMessages := []
  loop := .none
  killed := false
  posted := []

/-- `_done` -/
def done (stream : ChatStream) : Bool := stream.ending ≠ .idle

/-- What is posted of messages that will not be sent. -/
def undelivered (messages : List QueuedMessage) (reason : String) : List ChatNotification :=
  (messages.filter QueuedMessage.notifyProgress).map fun message =>
    .didNotDeliverMessage message.id 0 reason

/-- The queue is emptied. -/
def flush (stream : ChatStream) (reason : String) : ChatStream :=
  { stream with
    posted := stream.posted ++ undelivered stream.messageQueue reason
    messageQueue := [] }

/-- The `finally` of `_message_queue_handler`. -/
def leave (stream : ChatStream) : ChatStream :=
  { stream with
    loop := .none
    sentMessages := []
    posted := stream.posted ++ stream.sentMessages.map fun id =>
      ChatNotification.didNotDeliverMessage id 0 "Stream ended" }.flush "Stream ended"

/-- `_enqueue_message` -/
def enqueue (stream : ChatStream) (message : QueuedMessage) : ChatStream :=
  if stream.done then
    { stream with posted := stream.posted ++ undelivered [message] "Stream ended" }
  else { stream with messageQueue := stream.messageQueue ++ [message] }

/-- A character in the `repr` of a byte string, which stands in the given quotes. -/
def reprChar (quote char : Char) : List Char :=
  if char = quote ∨ char = '\\' then ['\\', char]
  else if char = '\t' then ['\\', 't']
  else if char = '\n' then ['\\', 'n']
  else if char = '\r' then ['\\', 'r']
  else if char.toNat < 32 ∨ 127 ≤ char.toNat then
    (String.utf8EncodeChar char).flatMap fun byte =>
      ['\\', 'x', Nat.digitChar (byte.toNat / 16), Nat.digitChar (byte.toNat % 16)]
  else [char]

/-- `repr` of a byte string -/
def byteRepr (text : String) : String :=
  let quote := if '\'' ∈ text.toList ∧ '"' ∉ text.toList then '"' else '\''
  .ofList (quote :: (text.toList.flatMap (reprChar quote) ++ [quote]))

/-- The loop makes a payload of the message, or there is a `ChatStreamError`; `otr` is the error of
`handle_output`, if it raised one. -/
def preparePayload (settings : ChatSettings) (message : QueuedMessage) (otr : Option String) :
    Except String Payload := do
  if !message.otrInternal then
    if let some error := otr then throw error
  let sender := message.sender.getD settings.localIdentity
  let recipients :=
    if message.recipients.isEmpty then [settings.remoteIdentity] else message.recipients
  let needCpim := sender ≠ settings.localIdentity ∨ recipients ≠ [settings.remoteIdentity] ∨
    message.courtesyRecipients ≠ [] ∨ message.subject.any (· ≠ "") ∨ message.timestamp.isSome ∨
    message.required ≠ [] ∨ message.additionalHeaders ≠ []
  if needCpim ∨ !settings.containsMimeType settings.remoteAcceptTypes message.contentType then
    if !settings.containsMimeType settings.remoteAcceptWrappedTypes message.contentType then
      throw ("Unsupported content_type for outgoing message: " ++ byteRepr message.contentType)
    if !settings.cpimEnabled then
      throw "Additional message meta-data cannot be sent, because the CPIM wrapper is not used"
    if !settings.privateMessagesAllowed ∧ recipients ≠ [settings.remoteIdentity] then
      throw "The remote end does not support private messages"
    return .cpim
  else if settings.preferCpim ∧ settings.cpimEnabled ∧
      settings.containsMimeType settings.remoteAcceptWrappedTypes message.contentType then
    return .cpim
  else return .simple

/-- The loop takes a message from the queue. Another exception while the chunk is made ends the loop. -/
def takeMessage (settings : ChatSettings) (stream : ChatStream) (message : QueuedMessage)
    (rest : List QueuedMessage) (otr : Option String) (raised : Bool) : ChatStream :=
  let taken := { stream with messageQueue := rest }
  if !stream.connected then
    leave { taken with posted := stream.posted ++ undelivered [message] "Stream ended" }
  else if raised then taken.leave
  else
    match preparePayload settings message otr with
    | .ok _ => { taken with loop := .sending message }
    | .error reason => { taken with posted := stream.posted ++ undelivered [message] reason }

/-- The chunk was sent. -/
def messageSent (stream : ChatStream) (message : QueuedMessage) : ChatStream :=
  if message.notifyProgress then
    { stream with
      loop := .waiting
      sentMessages := stream.sentMessages.insert message.id
      posted := stream.posted ++ [.didSendMessage message.id] }
  else { stream with loop := .waiting }

/-- `_on_transaction_response` -/
def onTransactionResponse (stream : ChatStream) (id code : Nat) (reason : String) : ChatStream :=
  if id ∈ stream.sentMessages ∧ code ≠ 200 then
    { stream with
      sentMessages := stream.sentMessages.erase id
      posted := stream.posted ++ [.didNotDeliverMessage id code reason] }
  else stream

/-- `_handle_REPORT` -/
def handleReport (stream : ChatStream) (id code : Nat) (reason : String) : ChatStream :=
  if id ∈ stream.sentMessages then
    { stream with
      sentMessages := stream.sentMessages.erase id
      posted := stream.posted ++ [if code = 200 then .didDeliverMessage id code reason
        else .didNotDeliverMessage id code reason] }
  else stream

/-- What happens to a stream; `take`, `sent`, `sendRaises` and `exit` are steps of the loop, the last with
the `ProcExit` of `kill`. Only an initialized stream is started, and `end` ends a `start` that is under
way. -/
inductive Input
  | enqueue (message : QueuedMessage)
  | initializeEnds (failed : Bool)
  | start
  | take (otr : Option String) (raised : Bool)
  | sent
  | sendRaises (reason : String)
  | exit
  | response (id code : Nat) (reason : String)
  | report (id code : Nat) (reason : String)
  | endStarts
  | endPosts
  | endFinishes

def step (settings : ChatSettings) (stream : ChatStream) : Input → ChatStream
  | .enqueue message => stream.enqueue message
  | .initializeEnds failed =>
      if stream.initialized then stream
      else if failed then { stream with initialized := true }.flush "Stream was closed"
      else { stream with initialized := true }
  | .start =>
      if stream.initialized ∧ !stream.connected ∧ !stream.done then
        { stream with connected := true, loop := .waiting }
      else stream
  | .take otr raised =>
      match stream.loop, stream.messageQueue with
      | .waiting, message :: rest => stream.takeMessage settings message rest otr raised
      | _, _ => stream
  | .sent =>
      match stream.loop with
      | .sending message => stream.messageSent message
      | _ => stream
  | .sendRaises reason =>
      match stream.loop with
      | .sending message =>
          { stream with loop := .waiting, posted := stream.posted ++ undelivered [message] reason }
      | _ => stream
  | .exit =>
      if stream.killed then
        match stream.loop with
        | .none => stream
        | .waiting => stream.leave
        | .sending message =>
            leave { stream with posted := stream.posted ++ undelivered [message] "Stream ended" }
      else stream
  | .response id code reason => stream.onTransactionResponse id code reason
  | .report id code reason => stream.handleReport id code reason
  | .endStarts =>
      if stream.done then stream
      else if stream.initialized then { stream with ending := .started }
      else { stream with initialized := true, ending := .finished }.flush "Stream was closed"
  | .endPosts =>
      if stream.ending = .started then
        match stream.loop with
        | .none => { stream with ending := .posted }.flush "Stream ended"
        | _ => { stream with ending := .posted, killed := true }
      else stream
  | .endFinishes =>
      if stream.ending = .posted then { stream with connected := false, ending := .finished }
      else stream

end ChatStream

end SipSimple.Streams
