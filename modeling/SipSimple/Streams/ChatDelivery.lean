import SipSimple.Streams.ChatStream
import Mathlib.Data.List.Nodup

/-!
# One outcome for every message

The ID of a message with `notify_progress` is in one place at a time: in the queue, in the hand of the
sender loop, among the sent messages, or in an outcome that was posted. A step moves it on. Once the stream
has ended and the loop is gone, only outcomes are left.
-/

namespace SipSimple.Streams

/-- The message whose outcome this is. -/
def ChatNotification.outcome : ChatNotification → Option Nat
  | .didSendMessage _ => none
  | .didDeliverMessage id _ _ => some id
  | .didNotDeliverMessage id _ _ => some id

namespace ChatStream

/-! ### Where an ID is -/

/-- The IDs of the messages with `notify_progress`. -/
def awaited (messages : List QueuedMessage) : List Nat :=
  (messages.filter QueuedMessage.notifyProgress).map QueuedMessage.id

def inHand : SenderLoop → List Nat
  | .sending message => awaited [message]
  | _ => []

def outcomes (posted : List ChatNotification) : List Nat := posted.filterMap ChatNotification.outcome

/-- In how many places an ID is. -/
def places (stream : ChatStream) (id : Nat) : Nat :=
  (awaited stream.messageQueue).count id + (inHand stream.loop).count id +
    stream.sentMessages.count id + (outcomes stream.posted).count id

/-- What is queued by an input. -/
def Input.queued : Input → List Nat
  | .enqueue message => awaited [message]
  | _ => []

def queuedIds (inputs : List Input) : List Nat := inputs.flatMap Input.queued

@[simp] theorem awaited_nil : awaited [] = [] := rfl

@[simp] theorem awaited_append (left right : List QueuedMessage) :
    awaited (left ++ right) = awaited left ++ awaited right := by
  rw [awaited, List.filter_append, List.map_append, awaited, awaited]

@[simp] theorem inHand_none : inHand .none = [] := rfl

@[simp] theorem inHand_waiting : inHand .waiting = [] := rfl

@[simp] theorem inHand_sending (message : QueuedMessage) :
    inHand (.sending message) = awaited [message] := rfl

theorem awaited_cons (message : QueuedMessage) (rest : List QueuedMessage) :
    awaited (message :: rest) = awaited [message] ++ awaited rest := awaited_append [message] rest

@[simp] theorem outcomes_append (left right : List ChatNotification) :
    outcomes (left ++ right) = outcomes left ++ outcomes right := List.filterMap_append

@[simp] theorem outcomes_undelivered (messages : List QueuedMessage) (reason : String) :
    outcomes (undelivered messages reason) = awaited messages := by
  have hid : ChatNotification.outcome ∘ (fun message : QueuedMessage =>
      .didNotDeliverMessage message.id 0 reason) = some ∘ QueuedMessage.id := rfl
  rw [outcomes, undelivered, List.filterMap_map, awaited, hid, List.filterMap_eq_map]

theorem outcomes_notDelivered (ids : List Nat) (reason : String) :
    outcomes (ids.map fun id => .didNotDeliverMessage id 0 reason) = ids := by
  rw [outcomes, List.filterMap_map]
  exact List.filterMap_some

/-! ### The parts of a step -/

theorem places_flush (stream : ChatStream) (reason : String) (id : Nat) :
    (stream.flush reason).places id = stream.places id := by
  simp only [places, flush, outcomes_append, outcomes_undelivered, awaited_nil, List.count_nil,
    List.count_append]
  omega

/-- The loop leaves nothing behind but what it has in its hand. -/
theorem places_leave (stream : ChatStream) (id : Nat) :
    stream.leave.places id + (inHand stream.loop).count id = stream.places id := by
  rw [leave, places_flush]
  simp only [places, inHand, outcomes_append, outcomes_notDelivered, List.count_nil,
    List.count_append]
  omega

theorem places_leave_waiting {stream : ChatStream} (h : stream.loop = .waiting) (id : Nat) :
    stream.leave.places id = stream.places id := by
  have hleave := places_leave stream id
  rwa [h, inHand_waiting, List.count_nil, Nat.add_zero] at hleave

theorem places_enqueue (stream : ChatStream) (message : QueuedMessage) (id : Nat) :
    (stream.enqueue message).places id = stream.places id + (awaited [message]).count id := by
  rw [enqueue]
  split_ifs
  · simp only [places, outcomes_append, outcomes_undelivered, List.count_append]
    omega
  · simp only [places, awaited_append, List.count_append]
    omega

theorem places_takeMessage (settings : ChatSettings) {stream : ChatStream} {message : QueuedMessage}
    {rest : List QueuedMessage} {otr : Option String} {raised : Bool} (hloop : stream.loop = .waiting)
    (hqueue : stream.messageQueue = message :: rest)
    (hprepared : raised = true → stream.connected = true → message.notifyProgress = false) (id : Nat) :
    (stream.takeMessage settings message rest otr raised).places id = stream.places id := by
  have hplaces : stream.places id = (awaited [message]).count id + (awaited rest).count id +
      stream.sentMessages.count id + (outcomes stream.posted).count id := by
    rw [places, hqueue, hloop, awaited_cons, inHand_waiting, List.count_append, List.count_nil]
    omega
  rw [hplaces, takeMessage]
  split_ifs with hconnected hraised
  · refine (places_leave_waiting ?_ id).trans ?_
    · exact hloop
    simp only [places, hloop, inHand_waiting, outcomes_append, outcomes_undelivered,
      List.count_append, List.count_nil]
    omega
  · have hnone : awaited [message] = [] := by
      simp [awaited, hprepared hraised (by simpa using hconnected)]
    refine (places_leave_waiting ?_ id).trans ?_
    · exact hloop
    simp only [places, hloop, inHand_waiting, hnone, List.count_nil]
    omega
  · cases preparePayload settings message otr with
    | ok payload =>
        simp only [places, inHand_sending]
        omega
    | error reason =>
        simp only [places, hloop, inHand_waiting, outcomes_append, outcomes_undelivered,
          List.count_append, List.count_nil]
        omega

theorem places_messageSent {stream : ChatStream} {message : QueuedMessage}
    (hloop : stream.loop = .sending message)
    (hfresh : message.notifyProgress = true → message.id ∉ stream.sentMessages) (id : Nat) :
    (stream.messageSent message).places id = stream.places id := by
  have hsend : outcomes [.didSendMessage message.id] = [] := rfl
  rw [messageSent, places, places, hloop]
  split_ifs with hnotify
  · have hhand : awaited [message] = [message.id] := by simp [awaited, hnotify]
    have hinsert : stream.sentMessages.insert message.id = message.id :: stream.sentMessages :=
      List.insert_of_not_mem (hfresh hnotify)
    simp only [hinsert, outcomes_append, hsend, inHand_waiting, inHand_sending, hhand,
      List.append_nil, List.count_cons, List.count_nil]
    omega
  · have hhand : awaited [message] = [] := by simp [awaited, hnotify]
    simp only [inHand_waiting, inHand_sending, hhand]

/-- An outcome is posted of a sent message. -/
theorem places_erase {stream : ChatStream} {notification : ChatNotification} {id : Nat}
    (hsent : id ∈ stream.sentMessages) (houtcome : notification.outcome = some id) (other : Nat) :
    places { stream with
      sentMessages := stream.sentMessages.erase id
      posted := stream.posted ++ [notification] } other = stream.places other := by
  have hposted : outcomes [notification] = [id] := by simp [outcomes, houtcome]
  have hpositive : 0 < stream.sentMessages.count id := List.count_pos_iff.mpr hsent
  simp only [places, outcomes_append, hposted, List.count_append, List.count_erase,
    List.count_singleton]
  by_cases hid : id = other
  · subst hid
    simp only [beq_self_eq_true, if_true]
    omega
  · simp only [beq_iff_eq, hid, if_false]
    omega

/-! ### The loop and the end of the stream -/

/-- `MediaStreamDidEnd` was handled. -/
def Ended (stream : ChatStream) : Prop := stream.ending = .posted ∨ stream.ending = .finished

structure Consistent (stream : ChatStream) : Prop where
  idle : stream.loop = .none → stream.sentMessages = []
  early : stream.initialized = false → stream.loop = .none ∧ stream.ending = .idle
  unconnected : stream.connected = false → stream.ending ≠ .finished → stream.loop = .none
  flushed : stream.Ended → stream.loop = .none → stream.messageQueue = []
  killed : stream.Ended → stream.loop ≠ .none → stream.killed = true

theorem consistent_new : new.Consistent :=
  ⟨fun _ => rfl, fun _ => ⟨rfl, rfl⟩, fun _ _ => rfl, fun _ _ => rfl, fun _ h => absurd rfl h⟩

namespace Consistent

variable {stream : ChatStream}

theorem flush (h : stream.Consistent) (reason : String) : (stream.flush reason).Consistent :=
  ⟨h.idle, h.early, h.unconnected, fun _ _ => rfl, h.killed⟩

/-- After the `finally` of the loop. -/
theorem leave {stream : ChatStream}
    (hearly : stream.initialized = false → stream.ending = .idle) : stream.leave.Consistent :=
  ⟨fun _ => rfl, fun h => ⟨rfl, hearly h⟩, fun _ _ => rfl, fun _ _ => rfl, fun _ h => absurd rfl h⟩

/-- A step of the loop that leaves it waiting or sending. -/
theorem loops (h : stream.Consistent) (hloop : stream.loop ≠ .none) {after : ChatStream}
    (hinitialized : after.initialized = stream.initialized)
    (hconnected : after.connected = stream.connected) (hending : after.ending = stream.ending)
    (hkilled : after.killed = stream.killed) (hafter : after.loop ≠ .none) : after.Consistent where
  idle hnone := absurd hnone hafter
  early hearly := absurd (h.early (hinitialized ▸ hearly)).1 hloop
  unconnected hclosed hopen := absurd (h.unconnected (hconnected ▸ hclosed) (hending ▸ hopen)) hloop
  flushed _ hnone := absurd hnone hafter
  killed hended _ := by
    rw [hkilled]
    exact h.killed (by rwa [Ended, ← hending]) hloop

theorem enqueue (h : stream.Consistent) (message : QueuedMessage) :
    (stream.enqueue message).Consistent := by
  rw [ChatStream.enqueue]
  split_ifs with hdone
  · exact ⟨h.idle, h.early, h.unconnected, h.flushed, h.killed⟩
  · refine ⟨h.idle, h.early, h.unconnected, fun hended => ?_, h.killed⟩
    have hidle : stream.ending = .idle := by simpa [done] using hdone
    rcases hended with hended | hended <;> exact nomatch hidle.symm.trans hended

theorem takeMessage (h : stream.Consistent) (settings : ChatSettings) (message : QueuedMessage)
    (rest : List QueuedMessage) (otr : Option String) (raised : Bool) (hloop : stream.loop = .waiting) :
    (stream.takeMessage settings message rest otr raised).Consistent := by
  have hwaiting : stream.loop ≠ .none := fun hnone => nomatch hloop.symm.trans hnone
  rw [ChatStream.takeMessage]
  split_ifs
  · exact leave fun hearly => (h.early hearly).2
  · exact leave fun hearly => (h.early hearly).2
  · cases preparePayload settings message otr with
    | ok payload => exact h.loops hwaiting rfl rfl rfl rfl fun hnone => nomatch hnone
    | error reason => exact h.loops hwaiting rfl rfl rfl rfl hwaiting

theorem messageSent (h : stream.Consistent) {message : QueuedMessage}
    (hloop : stream.loop = .sending message) : (stream.messageSent message).Consistent := by
  have hsending : stream.loop ≠ .none := fun hnone => nomatch hloop.symm.trans hnone
  rw [ChatStream.messageSent]
  split_ifs
  · exact h.loops hsending rfl rfl rfl rfl fun hnone => nomatch hnone
  · exact h.loops hsending rfl rfl rfl rfl fun hnone => nomatch hnone

/-- An outcome of a sent message. -/
theorem erase (h : stream.Consistent) (id : Nat) (posted : List ChatNotification) :
    Consistent { stream with sentMessages := stream.sentMessages.erase id, posted := posted } where
  idle hnone := by
    rw [h.idle hnone]
    rfl
  early := h.early
  unconnected := h.unconnected
  flushed := h.flushed
  killed := h.killed

theorem step (h : stream.Consistent) (settings : ChatSettings) (input : Input) :
    (ChatStream.step settings stream input).Consistent := by
  cases input with
  | enqueue message => exact h.enqueue message
  | initializeEnds failed =>
      have hinitialized : Consistent { stream with initialized := true } :=
        ⟨h.idle, fun hearly => (nomatch hearly), h.unconnected, h.flushed, h.killed⟩
      rw [ChatStream.step]
      split_ifs
      · exact h
      · exact hinitialized.flush _
      · exact hinitialized
  | start =>
      rw [ChatStream.step]
      split_ifs with hstart
      · obtain ⟨hinitialized, _, hdone⟩ := hstart
        have hidle : stream.ending = .idle := by simpa [done] using hdone
        refine ⟨fun hnone => (nomatch hnone), fun hearly => ?_, fun hclosed => (nomatch hclosed),
          fun _ hnone => (nomatch hnone), fun hended _ => ?_⟩
        · exact nomatch hinitialized.symm.trans hearly
        · rcases hended with hended | hended <;> exact nomatch hidle.symm.trans hended
      · exact h
  | take otr raised =>
      rw [ChatStream.step]
      split
      · next message rest hloop hqueue => exact h.takeMessage settings message rest otr raised hloop
      · exact h
  | sent =>
      rw [ChatStream.step]
      split
      · next message hloop => exact h.messageSent hloop
      · exact h
  | sendRaises reason =>
      rw [ChatStream.step]
      split
      · next message hloop =>
          exact h.loops (fun hnone => nomatch hloop.symm.trans hnone) rfl rfl rfl rfl
            fun hnone => nomatch hnone
      · exact h
  | exit =>
      rw [ChatStream.step]
      split_ifs
      · cases stream.loop with
        | none => exact h
        | waiting | sending message => exact leave fun hearly => (h.early hearly).2
      · exact h
  | response id code reason =>
      rw [ChatStream.step, onTransactionResponse]
      split
      · exact h.erase id _
      · exact h
  | report id code reason =>
      rw [ChatStream.step, handleReport]
      by_cases hsent : id ∈ stream.sentMessages
      · rw [if_pos hsent]
        exact h.erase id _
      · rw [if_neg hsent]
        exact h
  | endStarts =>
      rw [ChatStream.step]
      split_ifs with hdone hinitialized
      · exact h
      · have hidle : stream.ending = .idle := by simpa [done] using hdone
        refine ⟨h.idle, fun hearly => ?_, fun hclosed _ => ?_, fun hended => ?_, fun hended => ?_⟩
        · exact nomatch hinitialized.symm.trans hearly
        · exact h.unconnected hclosed fun hfinished => nomatch hidle.symm.trans hfinished
        · rcases hended with hended | hended <;> cases hended
        · rcases hended with hended | hended <;> cases hended
      · have hnone := (h.early (by simpa using hinitialized)).1
        exact ⟨h.idle, fun hearly => (nomatch hearly), fun _ _ => hnone, fun _ _ => rfl,
          fun _ hloop => absurd hnone hloop⟩
  | endPosts =>
      rw [ChatStream.step]
      split_ifs with hstarted
      · have hinitialized : stream.initialized ≠ false := fun hearly =>
          nomatch hstarted.symm.trans (h.early hearly).2
        split
        · next hloop =>
            exact ⟨h.idle, fun hearly => absurd hearly hinitialized, fun _ _ => hloop,
              fun _ _ => rfl, fun _ hne => absurd hloop hne⟩
        · next hloop =>
            refine ⟨h.idle, fun hearly => absurd hearly hinitialized, fun hclosed _ => ?_,
              fun _ hnone => absurd hnone hloop, fun _ _ => rfl⟩
            exact h.unconnected hclosed fun hfinished => nomatch hstarted.symm.trans hfinished
      · exact h
  | endFinishes =>
      rw [ChatStream.step]
      split_ifs with hposted
      · have hended : stream.Ended := Or.inl hposted
        exact ⟨h.idle, fun hearly => (nomatch hposted.symm.trans (h.early hearly).2),
          fun _ hne => absurd rfl hne, fun _ => h.flushed hended, fun _ => h.killed hended⟩
      · exact h

end Consistent

/-! ### Runs -/

/-- Nothing but a `ChatStreamError` is raised while a chunk is made of a message with `notify_progress`. -/
def Prepared (stream : ChatStream) : Input → Prop
  | .take _ raised => raised = true → stream.connected = true → ∀ message rest,
      stream.loop = .waiting → stream.messageQueue = message :: rest → message.notifyProgress = false
  | _ => True

/-- **One step moves every ID at most to another place.** -/
theorem places_step (settings : ChatSettings) {stream : ChatStream} (h : stream.Consistent)
    {input : Input} (hprepared : stream.Prepared input) (hone : ∀ id, stream.places id ≤ 1) (id : Nat) :
    (step settings stream input).places id = stream.places id + input.queued.count id := by
  cases input with
  | enqueue message => exact places_enqueue stream message id
  | initializeEnds failed =>
      show _ = stream.places id
      rw [step]
      split_ifs
      · rfl
      · exact places_flush _ _ id
      · rfl
  | start =>
      show _ = stream.places id
      rw [step]
      split_ifs with hstart
      · obtain ⟨_, hconnected, hdone⟩ := hstart
        have hloop : stream.loop = .none := by
          refine h.unconnected (by simpa using hconnected) fun hfinished => ?_
          simp [done, hfinished] at hdone
        rw [places, places, hloop, inHand_none, inHand_waiting]
      · rfl
  | take otr raised =>
      show _ = stream.places id
      rw [step]
      split
      · next message rest hloop hqueue =>
          exact places_takeMessage settings hloop hqueue
            (fun hraised hconnected => hprepared hraised hconnected message rest hloop hqueue) id
      · rfl
  | sent =>
      show _ = stream.places id
      rw [step]
      split
      · next message hloop =>
          refine places_messageSent hloop (fun hnotify hsent => ?_) id
          -- it would be in the hand of the loop and among the sent messages
          have hplaces := hone message.id
          have hhand : (awaited [message]).count message.id = 1 := by simp [awaited, hnotify]
          have hpositive : 0 < stream.sentMessages.count message.id := List.count_pos_iff.mpr hsent
          rw [places, hloop, inHand_sending, hhand] at hplaces
          omega
      · rfl
  | sendRaises reason =>
      show _ = stream.places id
      rw [step]
      split
      · next message hloop =>
          simp only [places, hloop, inHand_waiting, inHand_sending, outcomes_append,
            outcomes_undelivered, List.count_append, List.count_nil]
          omega
      · rfl
  | exit =>
      show _ = stream.places id
      rw [step]
      split_ifs
      · cases hloop : stream.loop with
        | none => rfl
        | waiting => exact places_leave_waiting hloop id
        | sending message =>
            have hleave := places_leave { stream with
              posted := stream.posted ++ undelivered [message] "Stream ended" } id
            simp only [places, hloop, inHand_sending, outcomes_append, outcomes_undelivered,
              List.count_append] at hleave ⊢
            omega
      · rfl
  | response id' code reason =>
      show _ = stream.places id
      rw [step, onTransactionResponse]
      split
      · next hfailed => exact places_erase hfailed.1 rfl id
      · rfl
  | report id' code reason =>
      show _ = stream.places id
      rw [step, handleReport]
      by_cases hsent : id' ∈ stream.sentMessages
      · rw [if_pos hsent]
        refine places_erase hsent ?_ id
        split_ifs <;> rfl
      · rw [if_neg hsent]
  | endStarts =>
      show _ = stream.places id
      rw [step]
      split_ifs
      · rfl
      · rfl
      · exact places_flush _ _ id
  | endPosts =>
      show _ = stream.places id
      rw [step]
      split_ifs
      · split
        · exact places_flush _ _ id
        · rfl
      · rfl
  | endFinishes =>
      show _ = stream.places id
      rw [step]
      split_ifs <;> rfl

theorem places_run (settings : ChatSettings) {stream : ChatStream} (h : stream.Consistent)
    {inputs : List Input} (hmeets : Runs.Meets (step settings) Prepared stream inputs)
    (hone : ∀ id, stream.places id + (queuedIds inputs).count id ≤ 1) :
    (Runs.run (step settings) stream inputs).Consistent ∧ ∀ id,
      (Runs.run (step settings) stream inputs).places id =
        stream.places id + (queuedIds inputs).count id := by
  induction inputs generalizing stream with
  | nil => exact ⟨h, fun id => rfl⟩
  | cons input inputs ih =>
      obtain ⟨hprepared, hmeets⟩ := hmeets
      have hqueued : ∀ id, (queuedIds (input :: inputs)).count id =
          input.queued.count id + (queuedIds inputs).count id := fun id => by
        rw [queuedIds, List.flatMap_cons, List.count_append, queuedIds]
      have hstep : ∀ id, (step settings stream input).places id =
          stream.places id + input.queued.count id := by
        refine places_step settings h hprepared fun id => ?_
        have hid := hone id
        omega
      obtain ⟨hconsistent, hplaces⟩ := ih (h.step settings input) hmeets fun id => by
        have hid := hone id
        rw [hqueued] at hid
        rw [hstep]
        omega
      refine ⟨hconsistent, fun id => ?_⟩
      rw [Runs.run_cons, hplaces, hstep, hqueued]
      omega

/-- The stream has ended and nothing is pending. -/
def Quiet (stream : ChatStream) : Prop :=
  stream.ending = .finished ∧ (stream.killed = true → stream.loop = .none)

/-- **One outcome for every message.** -/
theorem run_outcomes (settings : ChatSettings) {inputs : List Input} (hids : (queuedIds inputs).Nodup)
    (hmeets : Runs.Meets (step settings) Prepared new inputs) :
    (∀ id, (outcomes (Runs.run (step settings) new inputs).posted).count id ≤ 1) ∧
    ((Runs.run (step settings) new inputs).Quiet → ∀ id ∈ queuedIds inputs,
      (outcomes (Runs.run (step settings) new inputs).posted).count id = 1) := by
  have hone : ∀ id, (queuedIds inputs).count id ≤ 1 := List.nodup_iff_count_le_one.mp hids
  have hnew : ∀ id, new.places id = 0 := fun id => rfl
  obtain ⟨h, hplaces⟩ := places_run settings consistent_new hmeets fun id => by
    rw [hnew]
    have hid := hone id
    omega
  constructor
  · intro id
    have hid := hplaces id
    rw [places, hnew] at hid
    have hle := hone id
    omega
  · rintro ⟨hfinished, hkilled⟩ id hqueued
    have hended : (Runs.run (step settings) new inputs).Ended := Or.inr hfinished
    have hloop : (Runs.run (step settings) new inputs).loop = .none := by
      by_contra hloop
      exact hloop (hkilled (h.killed hended hloop))
    have hid := hplaces id
    rw [places, hnew, h.flushed hended hloop, hloop, h.idle hloop, awaited_nil, inHand_none,
      List.count_nil, List.count_eq_one_of_mem hids hqueued] at hid
    omega

/-- Both sides take plain text only. -/
def plainSettings : ChatSettings where
  containsMimeType types type := type ∈ types
  remoteAcceptTypes := ["text/plain"]
  remoteAcceptWrappedTypes := []
  cpimEnabled := false
  privateMessagesAllowed := false
  preferCpim := true
  localIdentity := ⟨"alice", "example.com"⟩
  remoteIdentity := ⟨"bob", "example.com"⟩

def plainMessage (id : Nat) : QueuedMessage where
  id := id
  notifyProgress := true
  otrInternal := false
  contentType := "text/plain"
  sender := none
  recipients := []
  courtesyRecipients := []
  subject := none
  timestamp := none
  required := []
  additionalHeaders := []

/-- One message is sent and delivered, and another one is being sent when the stream ends. -/
theorem run_outcomes_delivered :
    let inputs : List Input := [.enqueue (plainMessage 1), .initializeEnds false, .start,
      .take none false, .report 1 200 "OK", .sent, .enqueue (plainMessage 2), .report 1 200 "OK",
      .report 1 200 "OK", .take none false, .endStarts, .endPosts, .endFinishes, .exit]
    (∀ id, (outcomes (Runs.run (step plainSettings) new inputs).posted).count id ≤ 1) ∧
    ((Runs.run (step plainSettings) new inputs).Quiet → ∀ id ∈ queuedIds inputs,
      (outcomes (Runs.run (step plainSettings) new inputs).posted).count id = 1) := by
  refine run_outcomes plainSettings (by decide) ?_
  simp [Runs.Meets, Prepared]

/-- A message of which no chunk can be made is lost with the loop. -/
theorem not_run_outcomes : ¬ ∀ (settings : ChatSettings) (inputs : List Input),
    (queuedIds inputs).Nodup → (Runs.run (step settings) new inputs).Quiet →
      ∀ id ∈ queuedIds inputs,
        (outcomes (Runs.run (step settings) new inputs).posted).count id = 1 := by
  intro hall
  have hlost := hall plainSettings [.initializeEnds false, .start, .enqueue (plainMessage 1),
    .take none true, .endStarts, .endPosts, .endFinishes] (by decide) ⟨rfl, fun _ => rfl⟩ 1
    (by decide)
  revert hlost
  decide

end ChatStream

end SipSimple.Streams
