import Mathlib.Order.Nat
import SipSimple.Account.RequestLoop

/-!
# What holds of a command loop

An answer is on its way from the other thread, then in `_data_channel`, then read, so what a waiting handler
will read is the channel followed by what the holder has posted: its inbox. `Table` lists what the inbox can be
in each phase, next to the requests of the holder. The point of the list is what it leaves out: the loop of a
command that registers never finds the answer to an unregistration, and no handler waits for an answer that
nobody will give.

The list fails when the news that the holder's last request has expired is still on its way while the next
request is sent: the handler then reads it as the answer of that request, and is one answer behind from there
on. The lemmas below ask that no such news is on its way when routes are tried.
-/

namespace SipSimple.Account.RequestLoop

open SipSimple.Core

variable {Env Request Etag Success Saved Payload Call : Type}

/-! ### The inbox -/

/-- The answers that the object has posted and the Twisted thread has yet to run. -/
def posted (sender : Nat) : List (ReactorCall Success Call) → List (RequestAnswer Success)
  | [] => []
  | .answer id answer :: reactor =>
      if id = sender then answer :: posted sender reactor else posted sender reactor
  | .willExpire _ :: reactor | .call _ :: reactor => posted sender reactor

theorem posted_append (sender : Nat) (reactor calls : List (ReactorCall Success Call)) :
    posted sender (reactor ++ calls) = posted sender reactor ++ posted sender calls := by
  induction reactor with
  | nil => rfl
  | cons call reactor ih =>
      cases call <;> simp only [List.cons_append, posted, ih]
      split_ifs <;> rfl

theorem posted_answers (sender : Nat) (answers : List (RequestAnswer Success)) :
    posted sender (answers.map (.answer sender : RequestAnswer Success → ReactorCall Success Call)) = answers := by
  induction answers with
  | nil => rfl
  | cons answer answers ih => simp only [List.map_cons, posted, ih, if_true]

/-- The objects that have posted a call. -/
def senders : List (ReactorCall Success Call) → List Nat
  | [] => []
  | .answer id _ :: reactor | .willExpire id :: reactor => id :: senders reactor
  | .call _ :: reactor => senders reactor

theorem senders_append (reactor calls : List (ReactorCall Success Call)) :
    senders (reactor ++ calls) = senders reactor ++ senders calls := by
  induction reactor with
  | nil => rfl
  | cons call reactor ih => cases call <;> simp [senders, ih]

theorem mem_senders_answers {sender other : Nat} {answers : List (RequestAnswer Success)}
    (hmem : other ∈ senders (answers.map (.answer sender : RequestAnswer Success → ReactorCall Success Call))) : other = sender := by
  induction answers with
  | nil => simp [senders] at hmem
  | cons answer answers ih =>
      rcases List.mem_cons.mp hmem with rfl | hmem
      · rfl
      · exact ih hmem

theorem posted_eq_nil {sender : Nat} {reactor : List (ReactorCall Success Call)}
    (hsender : sender ∉ senders reactor) : posted sender reactor = [] := by
  induction reactor with
  | nil => rfl
  | cons call reactor ih =>
      cases call with
      | answer id answer =>
          simp only [senders, List.mem_cons, not_or] at hsender
          rw [posted, if_neg (Ne.symm hsender.1), ih hsender.2]
      | willExpire id =>
          simp only [senders, List.mem_cons, not_or] at hsender
          exact ih hsender.2
      | call call => exact ih hsender

def inTransit (loop : RequestLoop Request Etag Success Saved Payload Call) : List (RequestAnswer Success) :=
  match loop.holder with
  | none => []
  | some (id, _) => posted id loop.reactor

/-- The news that the last request has expired is on its way. -/
def Crossing (loop : RequestLoop Request Etag Success Saved Payload Call) : Prop :=
  ∃ answer ∈ loop.inTransit, answer.isEnd

instance (loop : RequestLoop Request Etag Success Saved Payload Call) : Decidable loop.Crossing :=
  inferInstanceAs (Decidable (∃ answer ∈ loop.inTransit, answer.isEnd))

/-- What a handler may leave in the channel: a request that could not be sent, or an expiry. -/
def Leftover (kind : RequestKind Env Request Etag Success Saved Payload) : RequestAnswer Success → Prop
  | .didEnd _ => True
  | .didFail failure => ∀ env, kind.verdict env failure = .nextRoute
  | _ => False

/-- No request is in flight; if the last one has expired, the news of it waits to be read. -/
inductive Settled (holder : RequestHolder Request Etag) : List (RequestAnswer Success) → Prop
  | live {request} (hcurrent : holder.currentRequest = none)
      (hlast : holder.lastRequest = some request) : Settled holder []
  | expired {expired} (hcurrent : holder.currentRequest = none) (hlast : holder.lastRequest = none) :
      Settled holder [.didEnd expired]

/-- A request is sent to register or publish. -/
inductive Answering (held : Bool) (holder : RequestHolder Request Etag) :
    List (RequestAnswer Success) → Prop
  | pending {request} (hcurrent : holder.currentRequest = some request) (hending : holder.ending = false)
      (hheld : holder.lastRequest.isSome → held = true) : Answering held holder []
  | succeeded {data request} (hcurrent : holder.currentRequest = none)
      (hlast : holder.lastRequest = some request) : Answering held holder [.didSucceed data]
  | succeededExpired {data expired} (hcurrent : holder.currentRequest = none)
      (hlast : holder.lastRequest = none) : Answering held holder [.didSucceed data, .didEnd expired]
  | failed {failure} (hcurrent : holder.currentRequest = none)
      (hheld : holder.lastRequest.isSome → held = true) : Answering held holder [.didFail failure]
  | failedExpired {failure expired} (hcurrent : holder.currentRequest = none)
      (hlast : holder.lastRequest = none) : Answering held holder [.didFail failure, .didEnd expired]
  | expired {expired} (hcurrent : holder.currentRequest = none) (hlast : holder.lastRequest = none) :
      Answering held holder [.didEnd expired]

/-- A request is sent to unregister or unpublish, or the last one has expired. -/
inductive Ending (holder : RequestHolder Request Etag) : List (RequestAnswer Success) → Prop
  | pending {request last} (hcurrent : holder.currentRequest = some request)
      (hending : holder.ending = true) (hlast : holder.lastRequest = some last) : Ending holder []
  | ended {expired} (hcurrent : holder.currentRequest = none) (hlast : holder.lastRequest = none) :
      Ending holder [.didEnd expired]
  | notEnded {code reason last} (hcurrent : holder.currentRequest = none)
      (hlast : holder.lastRequest = some last) : Ending holder [.didNotEnd code reason]
  | notEndedExpired {code reason expired} (hcurrent : holder.currentRequest = none)
      (hlast : holder.lastRequest = none) : Ending holder [.didNotEnd code reason, .didEnd expired]

/-- A new holder, with what earlier ones have left in the channel. -/
structure Fresh (kind : RequestKind Env Request Etag Success Saved Payload) (held : Bool)
    (holder : RequestHolder Request Etag) (channel transit : List (RequestAnswer Success)) : Prop where
  held : held = false
  current : holder.currentRequest = none
  last : holder.lastRequest = none
  leftover : ∀ answer ∈ channel, Leftover kind answer
  transit : transit = []

/-- What the holder and its inbox can be in a phase. -/
def Table (kind : RequestKind Env Request Etag Success Saved Payload) (held : Bool)
    (channel transit : List (RequestAnswer Success)) :
    LoopPhase Payload → Option (Nat × RequestHolder Request Etag) → Prop
  | .off, none | .idle, none => held = false ∧ ∀ answer ∈ channel, Leftover kind answer
  | .idle, some (_, holder) => held = true ∧ Settled holder (channel ++ transit)
  | .lookup _ _, some (_, holder) =>
      (held = true ∧ Settled holder (channel ++ transit)) ∨ Fresh kind held holder channel transit
  | .awaiting _ _ _, some (_, holder) => Answering held holder (channel ++ transit)
  | .releasing _ _, some (_, holder) => held = false ∧ Ending holder (channel ++ transit)
  | _, _ => False

/-! ### The events -/

/-- The event that the handler of the phase has in its hands. -/
def inHand : LoopPhase Payload → List Nat
  | .lookup _ event | .awaiting _ event _ | .releasing event _ => [event]
  | _ => []

/-- How often an event is in hand, queued, kept by the timer or sent. -/
def tally (loop : RequestLoop Request Etag Success Saved Payload Call) (hand : List Nat) (event : Nat) : Nat :=
  hand.count event + (loop.commandChannel.map (·.event)).count event
    + (loop.timer.toList.map (·.event)).count event + loop.signalled.count event

/-- What does not depend on the phase, with the events that the handler has in its hands. -/
structure Books (kind : RequestKind Env Request Etag Success Saved Payload)
    (loop : RequestLoop Request Etag Success Saved Payload Call) (hand : List Nat) : Prop where
  /-- An event has one place. -/
  events : ∀ event, loop.tally hand event ≤ 1
  fresh : ∀ event, loop.serial ≤ event → loop.tally hand event = 0
  senders : ∀ sender ∈ senders loop.reactor, sender < loop.serial
  holder : ∀ id holder, loop.holder = some (id, holder) →
    id < loop.serial ∧ ∀ request, holder.currentRequest = some request → request ∈ loop.wire
  timer : loop.timer.isSome → loop.holder = none
  failures : ∀ failure, .didFail failure ∈ loop.dataChannel ++ loop.inTransit →
    ∀ env, kind.verdict env failure ≠ .escape

/-- **The invariant of a command loop.** -/
structure Sound (kind : RequestKind Env Request Etag Success Saved Payload)
    (loop : RequestLoop Request Etag Success Saved Payload Call) : Prop where
  books : Books kind loop (inHand loop.phase)
  table : Table kind loop.held loop.dataChannel loop.inTransit loop.phase loop.holder

variable {kind : RequestKind Env Request Etag Success Saved Payload}
  {loop : RequestLoop Request Etag Success Saved Payload Call}

theorem inTransit_of_holder {id : Nat} {holder : RequestHolder Request Etag}
    (hholder : loop.holder = some (id, holder)) : loop.inTransit = posted id loop.reactor := by
  rw [inTransit, hholder]

/-! ### The books -/

namespace Books

variable {hand : List Nat} {event : Nat} {error : LoopError}

/-- Whoever drops the holder drops what it has posted. -/
theorem withoutHolder (h : Books kind loop hand) :
    Books kind { loop with holder := none } hand where
  events := h.events
  fresh := h.fresh
  senders := h.senders
  holder := by simp
  timer := fun _ => rfl
  failures := by
    intro failure hmem
    apply h.failures failure
    rw [List.mem_append] at hmem ⊢
    exact .inl (hmem.resolve_right (by simp [inTransit]))

theorem read {channel : List (RequestAnswer Success)} (h : Books kind loop hand)
    (hchannel : ∀ answer ∈ channel, answer ∈ loop.dataChannel) :
    Books kind { loop with dataChannel := channel } hand :=
  { h with
    failures := fun failure hmem => h.failures failure
      (List.mem_append.mpr ((List.mem_append.mp hmem).imp_left (hchannel _))) }

theorem signalled (h : Books kind loop [event]) :
    loop.signal event = { loop with signalled := event :: loop.signalled } := by
  have hone := h.events event
  rw [tally, List.count_singleton_self] at hone
  have hzero : loop.signalled.count event = 0 := by omega
  rw [signal, if_neg (List.count_eq_zero.mp hzero)]

theorem signal (h : Books kind loop [event]) : Books kind (loop.signal event) [] := by
  have htally : ∀ other, ({ loop with signalled := event :: loop.signalled } :
      RequestLoop Request Etag Success Saved Payload Call).tally [] other = loop.tally [event] other := by
    intro other
    simp only [tally, List.count_cons, List.count_nil]
    omega
  rw [h.signalled]
  refine ⟨fun other => ?_, fun other hother => ?_, h.senders, h.holder, h.timer, h.failures⟩
  · rw [htally]
    exact h.events other
  · rw [htally]
    exact h.fresh other hother

theorem fail (h : Books kind loop [event]) : Books kind (loop.fail event error) [] := by
  have htally : ∀ other, (loop.fail event error).tally [] other ≤ loop.tally [event] other := by
    intro other
    simp only [tally, RequestLoop.fail, Option.toList_some, List.map_cons, List.map_nil, List.count_nil]
    omega
  refine ⟨fun other => ?_, fun other hother => ?_, h.senders, by simp [RequestLoop.fail], fun _ => rfl,
    h.withoutHolder.failures⟩
  · exact (htally other).trans (h.events other)
  · have := h.fresh other hother
    have := htally other
    omega

theorem cancel (h : Books kind loop hand) : Books kind { loop with timer := none, held := false } hand := by
  have htally : ∀ other, ({ loop with timer := none, held := false } :
      RequestLoop Request Etag Success Saved Payload Call).tally hand other ≤ loop.tally hand other := by
    intro other
    simp only [tally, Option.toList_none, List.map_nil, List.count_nil]
    omega
  refine ⟨fun other => (htally other).trans (h.events other), fun other hother => ?_, h.senders, h.holder,
    by simp, h.failures⟩
  have := h.fresh other hother
  have := htally other
  omega

theorem take {command : LoopCommand Payload} {commands : List (LoopCommand Payload)}
    (h : Books kind loop []) (hcommands : loop.commandChannel = command :: commands) :
    Books kind { loop with commandChannel := commands } [command.event] := by
  have htally : ∀ other, ({ loop with commandChannel := commands } :
      RequestLoop Request Etag Success Saved Payload Call).tally [command.event] other =
        loop.tally [] other := by
    intro other
    simp only [tally, hcommands, List.map_cons, List.count_cons, List.count_nil]
    omega
  refine ⟨fun other => ?_, fun other hother => ?_, h.senders, h.holder, h.timer, h.failures⟩
  · rw [htally]
    exact h.events other
  · rw [htally]
    exact h.fresh other hother

theorem enqueue (h : Books kind loop hand) (name : CommandName Payload) :
    Books kind (loop.enqueue name) hand := by
  have htally : ∀ other, (loop.enqueue name).tally hand other =
      loop.tally hand other + [loop.serial].count other := by
    intro other
    simp only [tally, RequestLoop.enqueue, List.map_append, List.map_cons, List.map_nil,
      List.count_append]
    omega
  refine ⟨fun other => ?_, fun other hother => ?_, fun sender hmem => ?_, fun id holder hholder => ?_,
    h.timer, h.failures⟩
  · rw [htally]
    have hone := h.events other
    by_cases heq : loop.serial = other
    · have := h.fresh other heq.le
      rw [heq, List.count_singleton_self]
      omega
    · rw [List.count_singleton, if_neg (by simpa using heq)]
      omega
  · have hlt : loop.serial < other := hother
    have := h.fresh other hlt.le
    rw [htally, List.count_singleton, if_neg (by simpa using hlt.ne)]
    omega
  · exact (h.senders sender hmem).trans (Nat.lt_succ_self _)
  · obtain ⟨hid, hwire⟩ := h.holder id holder hholder
    exact ⟨hid.trans (Nat.lt_succ_self _), hwire⟩

/-- The next number goes to an object or to a request. -/
theorem numbered {holder : Nat × RequestHolder Request Etag} {wire cancelled sent : List Request}
    (h : Books kind loop hand) (htimer : loop.timer = none) (hid : holder.1 ≤ loop.serial)
    (hsame : ∀ answer ∈ posted holder.1 loop.reactor, answer ∈ loop.inTransit)
    (hwire : ∀ request, holder.2.currentRequest = some request → request ∈ wire) :
    Books kind { loop with serial := loop.serial + 1, holder := some holder, wire, cancelled, sent } hand where
  events := h.events
  fresh := fun other hother => h.fresh other (Nat.le_of_succ_le hother)
  senders := fun sender hmem => (h.senders sender hmem).trans (Nat.lt_succ_self _)
  holder := by
    rintro id other ⟨rfl⟩
    exact ⟨Nat.lt_succ_of_le hid, hwire⟩
  timer := by simp [htimer]
  failures := fun failure hmem => h.failures failure
    (List.mem_append.mpr ((List.mem_append.mp hmem).imp_right (hsame _)))

theorem noTimer (h : Books kind loop hand) {id : Nat} {holder : RequestHolder Request Etag}
    (hholder : loop.holder = some (id, holder)) : loop.timer = none := by
  by_contra htimer
  rw [h.timer (Option.isSome_iff_ne_none.mpr htimer)] at hholder
  cases hholder

theorem transmit (h : Books kind loop hand) {id : Nat} {holder : RequestHolder Request Etag}
    (hholder : loop.holder = some (id, holder)) (request : Request) (ending : Bool) :
    Books kind (loop.transmit id holder request ending) hand := by
  apply h.numbered (h.noTimer hholder) (h.holder id holder hholder).1.le
  · simp [inTransit_of_holder hholder]
  · rintro other ⟨rfl⟩
    exact List.mem_cons_self

theorem notTransmitted (h : Books kind loop hand) {id : Nat} {holder : RequestHolder Request Etag}
    (hholder : loop.holder = some (id, holder)) : Books kind (loop.notTransmitted id holder) hand := by
  apply h.numbered (h.noTimer hholder) (h.holder id holder hholder).1.le
  · simp [inTransit_of_holder hholder]
  · rintro other ⟨⟩

theorem receive (h : Books kind loop hand) {answer : RequestAnswer Success}
    (hanswer : ∀ failure, answer = .didFail failure → ∀ env, kind.verdict env failure ≠ .escape) :
    Books kind (loop.receive answer) hand :=
  { h with
    failures := by
      intro failure hmem
      rw [List.mem_append] at hmem
      rcases hmem with hmem | hmem
      · rcases List.mem_append.mp hmem with hmem | hmem
        · exact h.failures failure (List.mem_append_left _ hmem)
        · exact hanswer failure (List.mem_singleton.mp hmem).symm
      · exact h.failures failure (List.mem_append_right _ hmem) }

end Books

end SipSimple.Account.RequestLoop
