import SipSimple.Library.Runs
import SipSimple.Util.Sha1
import Mathlib.Data.List.Induction
import Mathlib.Logic.Function.Basic

/-!
# The chunks a chat stream receives

A message arrives in SEND chunks that carry its ID, between the chunks of other messages. What has come
of an unfinished message waits in `incoming_queue` under the ID. A chunk without data is answered as a
keep-alive before its flag is looked at, so a message that ends in such a chunk never completes.
-/

namespace SipSimple.Streams

/-- The flag at the end of a chunk: `$`, `+` or `#`. -/
inductive Contflag
  | complete
  | continues
  | aborted
  deriving DecidableEq

structure ChatChunk where
  messageId : String
  contentType : String
  contflag : Contflag
  data : Bytes
  deriving DecidableEq

def ChatChunk.size (chunk : ChatChunk) : Nat := chunk.data.length

structure ChatReport where
  messageId : String
  code : Nat
  comment : String

/-- What the stream reads of a decoded payload. -/
structure ChatPayload where
  content : Bytes
  contentType : String
  charset : Option String

/-- What the OTR session makes of the content of a message. -/
inductive OTRInput
  | handled (content : Bytes)
  | ignoreMessage
  | unencryptedMessage
  | encryptedMessageError (text : String)
  | otrError (text : String)

inductive IncomingNotification
  | gotMessage (content : Bytes) (contentType : String)
  | gotComposingIndication (content : Bytes)
  | otrError (error : String)

/-- The types a stream accepts and the decoders it calls. -/
structure ChatDecoding where
  containsMimeType : List String → String → Bool
  acceptTypes : List String
  acceptWrappedTypes : List String
  decodeCpim : Bytes → Option ChatPayload
  decodeSimple : Bytes → String → ChatPayload
  /-- `none` when the bytes are not text in the charset. -/
  decodeText : Bytes → String → Option Bytes
  parseIsComposing : Bytes → Except String Unit

/-- `decoded` holds every message that was handed to decoding, with its ID. -/
structure ChatReceiver where
  incomingQueue : String → Option (List Bytes)
  reports : List ChatReport
  posted : List IncomingNotification
  decoded : List (String × Bytes)

namespace ChatReceiver

def start : ChatReceiver := ⟨fun _ => none, [], [], []⟩

def sendReport (self : ChatReceiver) (chunk : ChatChunk) (code : Nat) (comment : String) :
    ChatReceiver :=
  { self with reports := self.reports ++ [⟨chunk.messageId, code, comment⟩] }

def post (self : ChatReceiver) (notification : IncomingNotification) : ChatReceiver :=
  { self with posted := self.posted ++ [notification] }

variable (decoding : ChatDecoding)

/-- The payload of complete data, or the answer to data that has none. -/
def payloadOf (contentType : String) (data : Bytes) : Except (Nat × String) ChatPayload :=
  if contentType = "message/cpim" then
    match decoding.decodeCpim data with
    | none => .error (400, "CPIM Parser Error")
    | some payload =>
        if decoding.containsMimeType decoding.acceptWrappedTypes payload.contentType then .ok payload
        else .error (413, "Unwanted Message")
  else .ok (decoding.decodeSimple data contentType)

/-- The text of a message that has passed the OTR session; a charset that does not fit is an error that
nothing catches, after which the chunk is left without an answer. -/
def receive (self : ChatReceiver) (chunk : ChatChunk) (payload : ChatPayload) (content : Bytes) :
    ChatReceiver :=
  let text :=
    match payload.charset with
    | some charset => decoding.decodeText content charset
    | none =>
        if payload.contentType.startsWith "text/" then
          (decoding.decodeText content "utf8").map fun _ => content
        else some content
  match text with
  | none => self
  | some content =>
      if payload.contentType.toLower = "application/im-iscomposing+xml" then
        match decoding.parseIsComposing content with
        | .error error => self.sendReport chunk 400 error
        | .ok _ => (self.sendReport chunk 200 "OK").post (.gotComposingIndication content)
      else (self.sendReport chunk 200 "OK").post (.gotMessage content payload.contentType)

/-- The rest of `_handle_SEND`, from the complete data on. -/
def process (self : ChatReceiver) (chunk : ChatChunk) (contentType : String) (data : Bytes)
    (otr : OTRInput) : ChatReceiver :=
  match payloadOf decoding contentType data with
  | .error (code, comment) => self.sendReport chunk code comment
  | .ok payload =>
      match otr with
      | .ignoreMessage => self.sendReport chunk 200 "OK"
      | .unencryptedMessage => self.receive decoding chunk payload payload.content
      | .encryptedMessageError text => (self.sendReport chunk 400 text).post (.otrError text)
      | .otrError text => (self.sendReport chunk 200 "OK").post (.otrError text)
      | .handled content => self.receive decoding chunk payload content

/-- `_handle_SEND`, for a chunk and what the OTR session does if it completes a message. -/
def handleSEND (self : ChatReceiver) (input : ChatChunk × OTRInput) : ChatReceiver :=
  let chunk := input.1
  if chunk.size = 0 then self.sendReport chunk 200 "OK"
  else
    let contentType := chunk.contentType.toLower
    if decoding.containsMimeType decoding.acceptTypes contentType = false then
      self.sendReport chunk 413 "Unwanted Message"
    else
      match chunk.contflag with
      | .aborted =>
          { self with incomingQueue := Function.update self.incomingQueue chunk.messageId none }.sendReport
            chunk 200 "OK"
      | .continues =>
          let pieces := (self.incomingQueue chunk.messageId).getD []
          { self with
            incomingQueue := Function.update self.incomingQueue chunk.messageId
              (some (pieces ++ [chunk.data])) }.sendReport chunk 200 "OK"
      | .complete =>
          let data := ((self.incomingQueue chunk.messageId).getD []).flatten ++ chunk.data
          { self with
            incomingQueue := Function.update self.incomingQueue chunk.messageId none
            decoded := self.decoded ++ [(chunk.messageId, data)] }.process decoding chunk contentType
              data input.2

/-! ## What one chunk does to the messages -/

/-- The data of an ID that was handed to decoding. -/
def decodedOf (self : ChatReceiver) (id : String) : List Bytes :=
  (self.decoded.filter fun entry => entry.1 = id).map Prod.snd

/-- The part of the receiver that decides what becomes of one ID. -/
def view (self : ChatReceiver) (id : String) : Option (List Bytes) × List Bytes :=
  (self.incomingQueue id, self.decodedOf id)

/-- A chunk of the ID, on that part. -/
def viewStep (view : Option (List Bytes) × List Bytes) (chunk : ChatChunk) :
    Option (List Bytes) × List Bytes :=
  if chunk.size = 0 then view
  else
    match chunk.contflag with
    | .aborted => (none, view.2)
    | .continues => (some (view.1.getD [] ++ [chunk.data]), view.2)
    | .complete => (none, view.2 ++ [(view.1.getD []).flatten ++ chunk.data])

@[simp] theorem view_sendReport (self : ChatReceiver) (chunk : ChatChunk) (code : Nat)
    (comment : String) (id : String) : (self.sendReport chunk code comment).view id = self.view id :=
  rfl

@[simp] theorem view_post (self : ChatReceiver) (notification : IncomingNotification) (id : String) :
    (self.post notification).view id = self.view id := rfl

variable {decoding : ChatDecoding}

@[simp] theorem view_receive (self : ChatReceiver) (chunk : ChatChunk) (payload : ChatPayload)
    (content : Bytes) (id : String) :
    (self.receive decoding chunk payload content).view id = self.view id := by
  simp only [receive]
  split
  · rfl
  · split_ifs
    · split <;> simp
    · simp

@[simp] theorem view_process (self : ChatReceiver) (chunk : ChatChunk) (contentType : String) (data : Bytes)
    (otr : OTRInput) (id : String) :
    (self.process decoding chunk contentType data otr).view id = self.view id := by
  unfold process
  cases payloadOf decoding contentType data with
  | error answer => simp
  | ok payload => cases otr <;> simp

/-- The types of the chunks are accepted. -/
def Accepted (decoding : ChatDecoding) (chunk : ChatChunk) : Prop :=
  decoding.containsMimeType decoding.acceptTypes chunk.contentType.toLower = true

theorem view_handleSEND {self : ChatReceiver} {input : ChatChunk × OTRInput}
    (haccepted : Accepted decoding input.1) (id : String) :
    (self.handleSEND decoding input).view id =
      if input.1.messageId = id then viewStep (self.view id) input.1 else self.view id := by
  obtain ⟨chunk, otr⟩ := input
  have haccepts : ¬ decoding.containsMimeType decoding.acceptTypes chunk.contentType.toLower = false := by
    rw [show decoding.containsMimeType decoding.acceptTypes chunk.contentType.toLower = true from haccepted]
    decide
  simp only [handleSEND, viewStep]
  by_cases hsize : chunk.size = 0
  · simp only [hsize, if_true, view_sendReport, ite_self]
  rw [if_neg hsize, if_neg haccepts, if_neg hsize]
  by_cases hid : chunk.messageId = id
  · rw [if_pos hid, ← hid]
    cases chunk.contflag with
    | complete => rw [view_process]; simp [view, decodedOf, List.filter_append]
    | continues => rw [view_sendReport]; simp [view, decodedOf]
    | aborted => rw [view_sendReport]; simp [view, decodedOf]
  · have hother : id ≠ chunk.messageId := Ne.symm hid
    rw [if_neg hid]
    cases chunk.contflag with
    | complete => rw [view_process]; simp [view, decodedOf, hid, hother]
    | continues => rw [view_sendReport]; simp [view, decodedOf, hother]
    | aborted => rw [view_sendReport]; simp [view, decodedOf, hother]

end ChatReceiver

/-! ## A run of chunks -/

/-- The chunks of one message, in the order in which they come. -/
def chunksOf (id : String) (inputs : List (ChatChunk × OTRInput)) : List ChatChunk :=
  (inputs.map Prod.fst).filter fun chunk => chunk.messageId = id

/-- Every chunk of a message but its last says that the message continues. -/
def Chunked (inputs : List (ChatChunk × OTRInput)) : Prop :=
  ∀ id, ∀ chunk ∈ (chunksOf id inputs).dropLast, chunk.contflag = .continues

/-- What has become of the messages: a complete one was handed to decoding once, with the data of all
its chunks, no other one was, and nothing of a message that has ended is kept. -/
structure Reassembled (receiver : ChatReceiver) (inputs : List (ChatChunk × OTRInput)) : Prop where
  complete : ∀ id chunk, (chunksOf id inputs).getLast? = some chunk → chunk.contflag = .complete →
    receiver.decodedOf id = [(chunksOf id inputs).flatMap ChatChunk.data]
  incomplete : ∀ id, (∀ chunk ∈ chunksOf id inputs, chunk.contflag ≠ .complete) →
    receiver.decodedOf id = []
  removed : ∀ id chunk, (chunksOf id inputs).getLast? = some chunk → chunk.contflag ≠ .continues →
    receiver.incomingQueue id = none

/-- No message ends in a chunk without data, but for an aborted one that never had any. -/
structure EndsCarryData (inputs : List (ChatChunk × OTRInput)) : Prop where
  complete : ∀ id, ∀ chunk ∈ chunksOf id inputs, chunk.contflag = .complete → chunk.size ≠ 0
  aborted : ∀ id, ∀ chunk ∈ chunksOf id inputs, chunk.contflag = .aborted → chunk.size = 0 →
    ∀ other ∈ chunksOf id inputs, other.size = 0

section

variable {decoding : ChatDecoding} {inputs : List (ChatChunk × OTRInput)}

open ChatReceiver (viewStep)

/-- The chunks of other messages make no difference to a message. -/
theorem view_run (haccepted : ∀ input ∈ inputs, ChatReceiver.Accepted decoding input.1)
    (self : ChatReceiver) (id : String) :
    (Runs.run (ChatReceiver.handleSEND decoding) self inputs).view id =
      (chunksOf id inputs).foldl viewStep (self.view id) := by
  induction inputs generalizing self with
  | nil => rfl
  | cons input inputs ih =>
      rw [Runs.run_cons, ih fun other hother => haccepted other (List.mem_cons_of_mem _ hother),
        ChatReceiver.view_handleSEND (haccepted input List.mem_cons_self)]
      by_cases hid : input.1.messageId = id <;> simp [chunksOf, hid]

theorem data_eq_nil {chunk : ChatChunk} (hsize : chunk.size = 0) : chunk.data = [] :=
  List.length_eq_zero_iff.mp hsize

/-- While a message continues, its data waits in the queue. -/
theorem view_continues {chunks : List ChatChunk}
    (hcontinues : ∀ chunk ∈ chunks, chunk.contflag = .continues) :
    ∃ pieces, chunks.foldl viewStep (none, []) = (pieces, []) ∧
      (pieces.getD []).flatten = chunks.flatMap ChatChunk.data ∧
      (pieces = none ↔ ∀ chunk ∈ chunks, chunk.size = 0) := by
  induction chunks using List.reverseRecOn with
  | nil => exact ⟨none, rfl, rfl, by simp⟩
  | append_singleton chunks chunk ih =>
      obtain ⟨pieces, hview, hdata, hnone⟩ :=
        ih fun other hother => hcontinues other (List.mem_append_left _ hother)
      have hflag : chunk.contflag = .continues := hcontinues chunk (by simp)
      rw [List.foldl_append, hview, List.foldl_cons, List.foldl_nil, viewStep]
      by_cases hsize : chunk.size = 0
      · refine ⟨pieces, if_pos hsize, ?_, ?_⟩
        · rw [hdata, List.flatMap_append, List.flatMap_singleton, data_eq_nil hsize, List.append_nil]
        · rw [hnone]
          simp [or_imp, forall_and, hsize]
      · refine ⟨some (pieces.getD [] ++ [chunk.data]), by simp [hsize, hflag], ?_, ?_⟩
        · simp [hdata]
        · simp only [reduceCtorEq, false_iff, not_forall]
          exact ⟨chunk, by simp, hsize⟩

/-- A message that has not ended was never handed to decoding. -/
theorem decodedOf_run_nil (haccepted : ∀ input ∈ inputs, ChatReceiver.Accepted decoding input.1)
    {id : String} (hincomplete : ∀ chunk ∈ chunksOf id inputs, chunk.contflag ≠ .complete) :
    (Runs.run (ChatReceiver.handleSEND decoding) .start inputs).decodedOf id = [] := by
  have hview := view_run haccepted .start id
  have hfold : ∀ chunks : List ChatChunk, (∀ chunk ∈ chunks, chunk.contflag ≠ .complete) →
      ∀ view : Option (List Bytes) × List Bytes, (chunks.foldl viewStep view).2 = view.2 := by
    intro chunks hchunks
    induction chunks with
    | nil => exact fun _ => rfl
    | cons chunk chunks ih =>
        intro view
        rw [List.foldl_cons, ih fun other hother => hchunks other (List.mem_cons_of_mem _ hother)]
        have hflag := hchunks chunk List.mem_cons_self
        rw [viewStep]
        split_ifs
        · rfl
        · cases hcontflag : chunk.contflag <;> simp_all
  have hsnd := congrArg Prod.snd hview
  rw [hfold _ hincomplete] at hsnd
  exact hsnd

/-- What the last chunk of a message does. -/
theorem view_run_last (haccepted : ∀ input ∈ inputs, ChatReceiver.Accepted decoding input.1)
    (hchunked : Chunked inputs) {id : String} {chunk : ChatChunk}
    (hlast : (chunksOf id inputs).getLast? = some chunk) :
    ∃ pieces chunks, chunksOf id inputs = chunks ++ [chunk] ∧
      (Runs.run (ChatReceiver.handleSEND decoding) .start inputs).view id =
        viewStep (pieces, []) chunk ∧
      (pieces.getD []).flatten = chunks.flatMap ChatChunk.data ∧
      (pieces = none ↔ ∀ other ∈ chunks, other.size = 0) := by
  obtain ⟨chunks, hchunks⟩ := List.getLast?_eq_some_iff.mp hlast
  have hcontinues : ∀ other ∈ chunks, other.contflag = .continues := by
    intro other hother
    apply hchunked id other
    rw [hchunks, List.dropLast_concat]
    exact hother
  obtain ⟨pieces, hview, hdata, hnone⟩ := view_continues hcontinues
  refine ⟨pieces, chunks, hchunks, ?_, hdata, hnone⟩
  rw [view_run haccepted, hchunks, List.foldl_append]
  show [chunk].foldl viewStep (chunks.foldl viewStep (none, [])) = _
  rw [hview]
  rfl

theorem last_of_ends (hchunked : Chunked inputs) {id : String} {chunk : ChatChunk}
    (hchunk : chunk ∈ chunksOf id inputs) (hends : chunk.contflag ≠ .continues) :
    (chunksOf id inputs).getLast? = some chunk := by
  have hne : chunksOf id inputs ≠ [] := List.ne_nil_of_mem hchunk
  rw [← List.dropLast_append_getLast hne] at hchunk
  rcases List.mem_append.mp hchunk with hbefore | hin
  · exact absurd (hchunked id chunk hbefore) hends
  · rw [List.mem_singleton] at hin
    rw [hin, List.getLast?_eq_getLast_of_ne_nil hne]

/-- An empty last chunk leaves its message where it was. -/
theorem endsCarryData_of_reassembled
    (haccepted : ∀ input ∈ inputs, ChatReceiver.Accepted decoding input.1)
    (hchunked : Chunked inputs)
    (hreassembled : Reassembled (Runs.run (ChatReceiver.handleSEND decoding) .start inputs) inputs) :
    EndsCarryData inputs := by
  constructor
  · intro id chunk hchunk hflag hsize
    have hlast := last_of_ends hchunked hchunk (by rw [hflag]; decide)
    obtain ⟨pieces, chunks, -, hview, -, -⟩ := view_run_last haccepted hchunked hlast
    have hdecoded := hreassembled.complete id chunk hlast hflag
    rw [viewStep, if_pos hsize] at hview
    have hnone : _ = [] := congrArg Prod.snd hview
    exact List.cons_ne_nil _ _ (hdecoded.symm.trans hnone)
  · intro id chunk hchunk hflag hsize other hother
    have hends : chunk.contflag ≠ .continues := by rw [hflag]; decide
    have hlast := last_of_ends hchunked hchunk hends
    obtain ⟨pieces, chunks, hchunks, hview, -, hnone⟩ := view_run_last haccepted hchunked hlast
    rw [viewStep, if_pos hsize] at hview
    have hqueue : _ = pieces := congrArg Prod.fst hview
    have hempty := hnone.mp (hqueue.symm.trans (hreassembled.removed id chunk hlast hends))
    rw [hchunks] at hother
    rcases List.mem_append.mp hother with hbefore | hin
    · exact hempty other hbefore
    · rwa [List.mem_singleton.mp hin]

theorem reassembled_of_endsCarryData
    (haccepted : ∀ input ∈ inputs, ChatReceiver.Accepted decoding input.1)
    (hchunked : Chunked inputs) (hcarry : EndsCarryData inputs) :
    Reassembled (Runs.run (ChatReceiver.handleSEND decoding) .start inputs) inputs := by
  refine ⟨?_, fun id hincomplete => decodedOf_run_nil haccepted hincomplete, ?_⟩
  · intro id chunk hlast hflag
    obtain ⟨pieces, chunks, hchunks, hview, hdata, -⟩ := view_run_last haccepted hchunked hlast
    have hsize := hcarry.complete id chunk (List.mem_of_getLast? hlast) hflag
    rw [viewStep, if_neg hsize, hflag] at hview
    have hdecoded : _ = [] ++ [(pieces.getD []).flatten ++ chunk.data] := congrArg Prod.snd hview
    rw [List.nil_append, hdata] at hdecoded
    rw [hchunks, List.flatMap_append, List.flatMap_singleton]
    exact hdecoded
  · intro id chunk hlast hends
    obtain ⟨pieces, chunks, hchunks, hview, -, hnone⟩ := view_run_last haccepted hchunked hlast
    have hmem := List.mem_of_getLast? hlast
    have hqueue := congrArg Prod.fst hview
    by_cases hsize : chunk.size = 0
    · rw [viewStep, if_pos hsize] at hqueue
      have hflag : chunk.contflag = .aborted := by
        cases hflag : chunk.contflag with
        | continues => exact absurd hflag hends
        | complete => exact absurd hsize (hcarry.complete id chunk hmem hflag)
        | aborted => rfl
      have hempty := hcarry.aborted id chunk hmem hflag hsize
      rw [hchunks] at hempty
      exact hqueue.trans (hnone.mpr fun other hother => hempty other (List.mem_append_left _ hother))
    · rw [viewStep, if_neg hsize] at hqueue
      cases hflag : chunk.contflag with
      | continues => exact absurd hflag hends
      | complete => rw [hflag] at hqueue; exact hqueue
      | aborted => rw [hflag] at hqueue; exact hqueue

/-- **The chunks of every message are put together** exactly when no message ends in a chunk without data. -/
theorem reassembled_iff (haccepted : ∀ input ∈ inputs, ChatReceiver.Accepted decoding input.1)
    (hchunked : Chunked inputs) :
    Reassembled (Runs.run (ChatReceiver.handleSEND decoding) .start inputs) inputs ↔
      EndsCarryData inputs :=
  ⟨endsCarryData_of_reassembled haccepted hchunked, reassembled_of_endsCarryData haccepted hchunked⟩

end

/-- A stream for plain text. -/
def plainDecoding : ChatDecoding where
  containsMimeType := fun types contentType => types.contains contentType
  acceptTypes := ["text/plain"]
  acceptWrappedTypes := ["text/plain"]
  decodeCpim := fun _ => none
  decodeSimple := fun content contentType => ⟨content, contentType, none⟩
  decodeText := fun content _ => some content
  parseIsComposing := fun _ => .ok ()

def textChunk (messageId : String) (contflag : Contflag) (data : Bytes) : ChatChunk × OTRInput :=
  (⟨messageId, "text/plain", contflag, data⟩, .unencryptedMessage)

/-- Two messages whose chunks alternate, of which the second is aborted. -/
def alternating : List (ChatChunk × OTRInput) :=
  [textChunk "a" .continues [104], textChunk "b" .continues [120], textChunk "a" .complete [105],
    textChunk "b" .aborted [121]]

theorem accepted_plainDecoding {messageId : String} {contflag : Contflag} {data : Bytes} :
    ChatReceiver.Accepted plainDecoding (textChunk messageId contflag data).1 := by
  show ["text/plain"].contains "text/plain".toLower = true
  decide +kernel

theorem alternating_reassembled :
    (∀ input ∈ alternating, ChatReceiver.Accepted plainDecoding input.1) ∧ Chunked alternating ∧
      (Reassembled (Runs.run (ChatReceiver.handleSEND plainDecoding) .start alternating) alternating ↔
        EndsCarryData alternating) := by
  have haccepted : ∀ input ∈ alternating, ChatReceiver.Accepted plainDecoding input.1 := by
    simp [alternating, accepted_plainDecoding]
  have hchunked : Chunked alternating := by
    intro id
    by_cases ha : "a" = id
    · subst ha; decide
    · by_cases hb : "b" = id
      · subst hb; decide
      · simp [alternating, chunksOf, textChunk, ha, hb]
  exact ⟨haccepted, hchunked, reassembled_iff haccepted hchunked⟩

/-- A message of one chunk with data and an empty last one. -/
def emptyEnd : List (ChatChunk × OTRInput) :=
  [textChunk "a" .continues [104], textChunk "a" .complete []]

theorem emptyEnd_not_reassembled :
    (∀ input ∈ emptyEnd, ChatReceiver.Accepted plainDecoding input.1) ∧ Chunked emptyEnd ∧
      ¬ Reassembled (Runs.run (ChatReceiver.handleSEND plainDecoding) .start emptyEnd) emptyEnd := by
  have haccepted : ∀ input ∈ emptyEnd, ChatReceiver.Accepted plainDecoding input.1 := by
    simp [emptyEnd, accepted_plainDecoding]
  have hchunked : Chunked emptyEnd := by
    intro id
    by_cases ha : "a" = id
    · subst ha; decide
    · simp [emptyEnd, chunksOf, textChunk, ha]
  refine ⟨haccepted, hchunked, fun hreassembled => ?_⟩
  have hcarry := endsCarryData_of_reassembled haccepted hchunked hreassembled
  exact hcarry.complete "a" (textChunk "a" .complete []).1 (by decide) rfl rfl

end SipSimple.Streams
