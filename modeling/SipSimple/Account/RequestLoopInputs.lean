import SipSimple.Account.RequestLoopHandlers

/-!
# The inputs keep the invariant

What comes to a command loop from outside its handlers: the holder's notifications from the other thread and
their calls in the Twisted thread, the timer, and the methods that send commands.
-/

namespace SipSimple.Account.RequestLoop

open SipSimple.Core

variable {Env Request Etag Success Saved Payload Call : Type}
  {kind : RequestKind Env Request Etag Success Saved Payload}
  {loop : RequestLoop Request Etag Success Saved Payload Call}

/-! ### The other thread -/

/-- What a method of the holder may do: nothing, or end a request and post what became of it. -/
inductive Posts (holder : RequestHolder Request Etag) :
    RequestHolder Request Etag × List (RequestAnswer Success) → Prop
  | nothing : Posts holder (holder, [])
  | begun {request etag data} (hcurrent : holder.currentRequest = some request)
      (hending : holder.ending = false) :
      Posts holder ({ holder with
        currentRequest := none, lastRequest := some request, lastEtag := etag }, [.didSucceed data])
  | ended {request etag} (hcurrent : holder.currentRequest = some request)
      (hending : holder.ending = true) :
      Posts holder ({ holder with
        currentRequest := none, lastRequest := none, lastEtag := etag }, [.didEnd false])
  | failed {request etag failure} (hcurrent : holder.currentRequest = some request)
      (hending : holder.ending = false) :
      Posts holder ({ holder with currentRequest := none, lastEtag := etag }, [.didFail failure])
  | notEnded {request etag code reason} (hcurrent : holder.currentRequest = some request)
      (hending : holder.ending = true) :
      Posts holder ({ holder with currentRequest := none, lastEtag := etag }, [.didNotEnd code reason])
  | expired {request etag} (hlast : holder.lastRequest = some request) :
      Posts holder ({ holder with
        currentRequest := none, lastRequest := none, lastEtag := etag }, [.didEnd true])

section Holder

variable [DecidableEq Request] {holder : RequestHolder Request Etag}
  {result : RequestHolder Request Etag × List (RequestAnswer Success)}
  {inbox : List (RequestAnswer Success)}

theorem posts_requestDidSucceed (request : Request) (ended begun : Etag) (data : Success) :
    Posts holder (holder.requestDidSucceed request ended begun data) := by
  rw [RequestHolder.requestDidSucceed]
  split
  next hcurrent =>
    split
    next hending => exact .ended hcurrent hending
    next hending => exact .begun hcurrent (by simpa using hending)
  next => exact .nothing

theorem posts_requestDidFail (request : Request) (etag : Etag) (data : RequestFailure) :
    Posts holder (holder.requestDidFail request etag data : RequestHolder Request Etag × List (RequestAnswer Success)) := by
  rw [RequestHolder.requestDidFail]
  split
  next hcurrent =>
    split
    next hending => exact .notEnded hcurrent hending
    next hending => exact .failed hcurrent (by simpa using hending)
  next => exact .nothing

theorem posts_requestDidEnd (request : Request) (etag : Etag) :
    Posts holder (holder.requestDidEnd request etag : RequestHolder Request Etag × List (RequestAnswer Success)) := by
  rw [RequestHolder.requestDidEnd]
  split
  next hlast => exact .expired hlast
  next => exact .nothing

/-- A request that stays in flight is another one than the request answered. -/
theorem current_requestDidSucceed {request other : Request} {ended begun : Etag} {data : Success}
    (hcurrent : (holder.requestDidSucceed request ended begun data).1.currentRequest = some other) :
    holder.currentRequest = some other ∧ other ≠ request := by
  unfold RequestHolder.requestDidSucceed at hcurrent
  split_ifs at hcurrent with hrequest
  refine ⟨hcurrent, ?_⟩
  rintro rfl
  exact hrequest hcurrent

theorem current_requestDidFail {request other : Request} {etag : Etag} {data : RequestFailure}
    (hcurrent : (holder.requestDidFail request etag data : RequestHolder Request Etag ×
      List (RequestAnswer Success)).1.currentRequest = some other) :
    holder.currentRequest = some other ∧ other ≠ request := by
  unfold RequestHolder.requestDidFail at hcurrent
  split_ifs at hcurrent with hrequest
  refine ⟨hcurrent, ?_⟩
  rintro rfl
  exact hrequest hcurrent

theorem failure_requestDidFail {request : Request} {etag : Etag} {data failure : RequestFailure}
    (hmem : .didFail failure ∈ (holder.requestDidFail request etag data : RequestHolder Request Etag ×
      List (RequestAnswer Success)).2) : failure = data := by
  unfold RequestHolder.requestDidFail at hmem
  split_ifs at hmem
  · simp at hmem
  · simpa using hmem
  · simp at hmem

end Holder

section Posted

variable {holder : RequestHolder Request Etag}
  {result : RequestHolder Request Etag × List (RequestAnswer Success)}
  {inbox : List (RequestAnswer Success)}

theorem Settled.post (h : Settled holder inbox) (hposts : Posts holder result) :
    Settled result.1 (inbox ++ result.2) := by
  cases hposts with
  | nothing => simpa using h
  | begun hcurrent | ended hcurrent | failed hcurrent | notEnded hcurrent =>
      cases h with
      | live hnone | expired hnone => simp [hcurrent] at hnone
  | expired hlast =>
      cases h with
      | live => exact .expired rfl rfl
      | expired _ hnone => simp [hlast] at hnone

theorem Answering.post {held : Bool} (h : Answering held holder inbox) (hposts : Posts holder result) :
    Answering held result.1 (inbox ++ result.2) := by
  cases h with
  | pending hcurrent hending hheld =>
      cases hposts with
      | nothing => exact .pending hcurrent hending hheld
      | begun => exact .succeeded rfl rfl
      | failed => exact .failed rfl hheld
      | ended _ htrue | notEnded _ htrue => simp [hending] at htrue
      | expired => exact .expired rfl rfl
  | succeeded hnone hlast =>
      cases hposts with
      | nothing => exact .succeeded hnone hlast
      | expired => exact .succeededExpired rfl rfl
      | begun hcurrent | ended hcurrent | failed hcurrent | notEnded hcurrent =>
          simp [hnone] at hcurrent
  | failed hnone hheld =>
      cases hposts with
      | nothing => exact .failed hnone hheld
      | expired => exact .failedExpired rfl rfl
      | begun hcurrent | ended hcurrent | failed hcurrent | notEnded hcurrent =>
          simp [hnone] at hcurrent
  | succeededExpired hnone hlast | failedExpired hnone hlast | expired hnone hlast =>
      cases hposts with
      | nothing => constructor <;> assumption
      | expired hsome => simp [hlast] at hsome
      | begun hcurrent | ended hcurrent | failed hcurrent | notEnded hcurrent =>
          simp [hnone] at hcurrent

theorem Ending.post (h : Ending holder inbox) (hposts : Posts holder result) :
    Ending result.1 (inbox ++ result.2) := by
  cases h with
  | pending hcurrent hending hlast =>
      cases hposts with
      | nothing => exact .pending hcurrent hending hlast
      | ended => exact .ended rfl rfl
      | notEnded => exact .notEnded rfl hlast
      | begun _ hfalse | failed _ hfalse => simp [hending] at hfalse
      | expired => exact .ended rfl rfl
  | notEnded hnone hlast =>
      cases hposts with
      | nothing => exact .notEnded hnone hlast
      | expired => exact .notEndedExpired rfl rfl
      | begun hcurrent | ended hcurrent | failed hcurrent | notEnded hcurrent =>
          simp [hnone] at hcurrent
  | ended hnone hlast | notEndedExpired hnone hlast =>
      cases hposts with
      | nothing => constructor <;> assumption
      | expired hsome => simp [hlast] at hsome
      | begun hcurrent | ended hcurrent | failed hcurrent | notEnded hcurrent =>
          simp [hnone] at hcurrent

theorem Fresh.post {held : Bool} {channel transit : List (RequestAnswer Success)}
    (h : Fresh kind held holder channel transit) (hposts : Posts holder result) :
    Fresh kind held result.1 channel (transit ++ result.2) := by
  have hcurrent := h.current
  have hlast := h.last
  cases hposts with
  | nothing => simpa using h
  | begun hsome | ended hsome | failed hsome | notEnded hsome => simp [hcurrent] at hsome
  | expired hsome => simp [hlast] at hsome

theorem Table.post {held : Bool} {channel transit : List (RequestAnswer Success)}
    {phase : LoopPhase Payload} {id : Nat} (h : Table kind held channel transit phase (some (id, holder)))
    (hposts : Posts holder result) :
    Table kind held channel (transit ++ result.2) phase (some (id, result.1)) := by
  unfold Table at h ⊢
  cases phase with
  | off => exact h
  | idle =>
      rw [← List.append_assoc]
      exact ⟨h.1, h.2.post hposts⟩
  | lookup =>
      rw [← List.append_assoc]
      exact h.imp (fun hlive => ⟨hlive.1, hlive.2.post hposts⟩) fun hfresh => hfresh.post hposts
  | awaiting =>
      rw [← List.append_assoc]
      exact Answering.post h hposts
  | releasing =>
      rw [← List.append_assoc]
      exact ⟨h.1, h.2.post hposts⟩
  | dead => exact h

/-- **What the holder posts keeps the table.** -/
theorem Sound.post {id : Nat} (h : Sound kind loop) (hholder : loop.holder = some (id, holder))
    (hposts : Posts holder result)
    (hcurrent : ∀ request, result.1.currentRequest = some request → holder.currentRequest = some request)
    (hfailure : ∀ failure, .didFail failure ∈ result.2 → ∀ env, kind.verdict env failure ≠ .escape) :
    Sound kind (loop.post id result) := by
  obtain ⟨hbooks, htable⟩ := h
  obtain ⟨hid, hwire⟩ := hbooks.holder id holder hholder
  have htransit : (loop.post id result).inTransit = loop.inTransit ++ result.2 := by
    rw [inTransit_of_holder hholder, inTransit_of_holder rfl]
    exact (posted_append id loop.reactor _).trans (by rw [posted_answers])
  refine ⟨⟨hbooks.events, hbooks.fresh, ?_, ?_, ?_, ?_⟩, ?_⟩
  · intro sender hmem
    have hmem : sender ∈ senders (loop.reactor ++ result.2.map (.answer id)) := hmem
    rw [senders_append] at hmem
    rcases List.mem_append.mp hmem with hmem | hmem
    · exact hbooks.senders sender hmem
    · rw [mem_senders_answers hmem]
      exact hid
  · rintro other found ⟨rfl⟩
    exact ⟨hid, fun request hrequest => hwire request (hcurrent request hrequest)⟩
  · intro htimer
    have := hbooks.timer htimer
    simp [hholder] at this
  · intro failure hmem
    rw [htransit, ← List.append_assoc] at hmem
    rcases List.mem_append.mp hmem with hmem | hmem
    · exact hbooks.failures failure hmem
    · exact hfailure failure hmem
  · rw [htransit]
    rw [hholder] at htable
    exact htable.post hposts

end Posted

/-! ### The inputs -/

section Inputs

variable {id : Nat} {holder : RequestHolder Request Etag}

/-- What only changes fields that the invariant does not read keeps it. -/
theorem Sound.congr {other : RequestLoop Request Etag Success Saved Payload Call} (h : Sound kind loop)
    (hbooks : ∀ hand, Books kind loop hand → Books kind other hand) (hphase : other.phase = loop.phase)
    (hheld : other.held = loop.held) (hchannel : other.dataChannel = loop.dataChannel)
    (htransit : other.inTransit = loop.inTransit) (hholder : other.holder = loop.holder) :
    Sound kind other := by
  refine ⟨?_, ?_⟩
  · rw [hphase]
    exact hbooks _ h.books
  · rw [hphase, hheld, hchannel, htransit, hholder]
    exact h.table

theorem Sound.enqueue (h : Sound kind loop) (name : CommandName Payload) :
    Sound kind (loop.enqueue name) :=
  h.congr (fun _ hbooks => hbooks.enqueue name) rfl rfl rfl rfl rfl

theorem Sound.activated (h : Sound kind loop) (active : Bool) : Sound kind { loop with active } :=
  h.congr (fun _ hbooks => { hbooks with }) rfl rfl rfl rfl rfl

theorem Sound.notFailed (h : Sound kind loop) : Sound kind { loop with failed := none } :=
  h.congr (fun _ hbooks => { hbooks with }) rfl rfl rfl rfl rfl

theorem Sound.ticked (h : Sound kind loop) (seconds : Nat) :
    Sound kind { loop with clock := loop.clock + seconds } :=
  h.congr (fun _ hbooks => { hbooks with }) rfl rfl rfl rfl rfl

theorem Sound.stop (h : Sound kind loop) : Sound kind loop.stop := by
  unfold RequestLoop.stop
  split
  · have hstopped : Sound kind { loop with started := false, active := false } :=
      h.congr (fun _ hbooks => { hbooks with }) rfl rfl rfl rfl rfl
    exact hstopped.enqueue .terminate
  · exact h

theorem Sound.spawn (h : Sound kind loop) (hphase : loop.phase = .off) : Sound kind loop.spawn := by
  obtain ⟨hbooks, htable⟩ := h
  rw [hphase] at hbooks htable
  refine ⟨{ hbooks with }, ?_⟩
  show Table kind loop.held loop.dataChannel loop.inTransit .idle loop.holder
  cases hholder : loop.holder with
  | none =>
      rw [hholder] at htable
      exact htable
  | some found =>
      rw [hholder] at htable
      exact htable.elim

theorem Sound.retry (h : Sound kind loop) (payload : Payload) : Sound kind (loop.retry payload) := by
  unfold RequestLoop.retry
  split
  next => exact h
  next timer htimer =>
    refine h.congr (fun hand hbooks => ?_) rfl rfl rfl rfl rfl
    have htally : ∀ other, ({ loop with
        timer := none
        commandChannel := loop.commandChannel ++
          [{ name := .acquire payload timer.refreshInterval, event := timer.event }] } :
        RequestLoop Request Etag Success Saved Payload Call).tally hand other = loop.tally hand other := by
      intro other
      simp only [tally, htimer, List.map_append, List.map_cons, List.map_nil, List.count_append,
        Option.toList_none, Option.toList_some, List.count_nil]
      omega
    refine ⟨fun other => ?_, fun other hother => ?_, hbooks.senders, hbooks.holder, by simp,
      hbooks.failures⟩
    · rw [htally]
      exact hbooks.events other
    · rw [htally]
      exact hbooks.fresh other hother

/-- The timer of an object that is no longer active is dropped. -/
theorem Sound.untimed (h : Sound kind loop) : Sound kind { loop with timer := none } :=
  h.congr (fun _ hbooks => { hbooks.cancel with }) rfl rfl rfl rfl rfl

theorem Sound.erased [DecidableEq Request] (h : Sound kind loop) (request : Request)
    (hcurrent : ∀ id holder, loop.holder = some (id, holder) → holder.currentRequest ≠ some request) :
    Sound kind { loop with wire := loop.wire.erase request } := by
  refine h.congr (fun _ hbooks => { hbooks with holder := ?_ }) rfl rfl rfl rfl rfl
  intro id holder hholder
  obtain ⟨hid, hwire⟩ := hbooks.holder id holder hholder
  refine ⟨hid, fun other hother => ?_⟩
  have hne : other ≠ request := by
    rintro rfl
    exact hcurrent id holder hholder hother
  exact (List.mem_erase_of_ne hne).mpr (hwire other hother)

theorem Sound.answered [DecidableEq Request] {request : Request}
    {handle : RequestHolder Request Etag → RequestHolder Request Etag × List (RequestAnswer Success)}
    (h : Sound kind loop) (hposts : ∀ holder, Posts holder (handle holder))
    (hcurrent : ∀ holder other, (handle holder).1.currentRequest = some other →
      holder.currentRequest = some other ∧ other ≠ request)
    (hfailure : ∀ holder failure, .didFail failure ∈ (handle holder).2 →
      ∀ env, kind.verdict env failure ≠ .escape) : Sound kind (loop.answered request handle) := by
  unfold RequestLoop.answered
  split
  · split
    next hnone => exact h.erased request (by simp [hnone])
    next id holder hholder =>
      have hposted : Sound kind (loop.post id (handle holder)) :=
        h.post hholder (hposts holder) (fun other hother => (hcurrent holder other hother).1)
          (hfailure holder)
      apply hposted.erased request
      rintro other found ⟨rfl⟩ hrequest
      exact (hcurrent holder request hrequest).2 rfl
  · exact h

theorem RequestHolder.renewed_of_none [DecidableEq Request] (hcurrent : holder.currentRequest = none)
    (request again : Request) : holder.renewed request again = holder := by
  rw [RequestHolder.renewed, if_neg (by simp [hcurrent])]

theorem RequestHolder.current_renewed [DecidableEq Request] {request again other : Request}
    (hcurrent : (holder.renewed request again).currentRequest = some other) :
    other = again ∨ holder.currentRequest = some other ∧ other ≠ request := by
  rw [RequestHolder.renewed] at hcurrent
  dsimp only at hcurrent
  split_ifs at hcurrent with hrequest
  · exact .inl (Option.some.inj hcurrent).symm
  · refine .inr ⟨hcurrent, ?_⟩
    rintro rfl
    exact hrequest hcurrent

/-- A request that is sent again takes the place of the request. -/
theorem Table.renewed [DecidableEq Request] {held : Bool} {channel transit : List (RequestAnswer Success)}
    {phase : LoopPhase Payload} (h : Table kind held channel transit phase (some (id, holder)))
    (request again : Request) :
    Table kind held channel transit phase (some (id, holder.renewed request again)) := by
  cases hcurrent : holder.currentRequest with
  | none =>
      rw [RequestHolder.renewed_of_none hcurrent]
      exact h
  | some other =>
      obtain ⟨next, hnext⟩ : ∃ next, (holder.renewed request again).currentRequest = some next := by
        rw [RequestHolder.renewed]
        dsimp only
        split_ifs
        · exact ⟨again, rfl⟩
        · exact ⟨other, hcurrent⟩
      have hsettled : ∀ inbox : List (RequestAnswer Success), ¬ Settled holder inbox := by
        intro inbox hsettled
        cases hsettled with
        | live hnone | expired hnone => simp [hcurrent] at hnone
      unfold Table at h ⊢
      cases phase with
      | off => exact h
      | idle => exact absurd h.2 (hsettled _)
      | lookup =>
          rcases h with hlive | hfresh
          · exact absurd hlive.2 (hsettled _)
          · have hnone := hfresh.current
            simp [hcurrent] at hnone
      | awaiting =>
          dsimp only at h ⊢
          generalize channel ++ transit = inbox at h ⊢
          cases h with
          | pending _ hending hheld => exact .pending hnext hending hheld
          | succeeded hnone | failed hnone | succeededExpired hnone | failedExpired hnone | expired hnone =>
              simp [hcurrent] at hnone
      | releasing =>
          refine ⟨h.1, ?_⟩
          have hending := h.2
          generalize channel ++ transit = inbox at hending ⊢
          cases hending with
          | pending _ hending hlast => exact .pending hnext hending hlast
          | ended hnone | notEnded hnone | notEndedExpired hnone => simp [hcurrent] at hnone
      | dead => exact h

theorem holder_challenged [DecidableEq Request] (request again : Request) :
    (loop.challenged request again).holder = loop.holder ∨
      (loop.challenged request again).holder =
        loop.holder.map fun found => (found.1, found.2.renewed request again) := by
  unfold RequestLoop.challenged
  split
  · exact .inr rfl
  · exact .inl rfl

theorem inTransit_challenged [DecidableEq Request] (request again : Request) :
    (loop.challenged request again).inTransit = loop.inTransit := by
  have hreactor : (loop.challenged request again).reactor = loop.reactor := by
    unfold RequestLoop.challenged
    split <;> rfl
  unfold inTransit
  rw [hreactor]
  have hholder : (loop.challenged request again).holder = loop.holder ∨ _ := holder_challenged request again
  rcases hholder with hsame | hmapped
  · rw [hsame]
  · rw [hmapped]
    cases loop.holder <;> rfl

/-- **A challenge keeps the invariant**: the request that is sent again is on the wire for the other one. -/
theorem Sound.challenged [DecidableEq Request] (h : Sound kind loop) (request again : Request) :
    Sound kind (loop.challenged request again) := by
  have htransit : (loop.challenged request again).inTransit = loop.inTransit := inTransit_challenged request again
  unfold RequestLoop.challenged at htransit ⊢
  split
  next hwire =>
    rw [if_pos hwire] at htransit
    obtain ⟨hbooks, htable⟩ := h
    refine ⟨{ hbooks with holder := ?_, timer := ?_, failures := ?_ }, ?_⟩
    · intro id found hfound
      obtain ⟨⟨id, holder⟩, hholder, ⟨rfl, rfl⟩⟩ := Option.map_eq_some_iff.mp hfound
      obtain ⟨hid, hcurrent⟩ := hbooks.holder id holder hholder
      refine ⟨hid, fun next hnext => ?_⟩
      rcases RequestHolder.current_renewed hnext with rfl | ⟨hsame, hne⟩
      · exact List.mem_cons_self
      · exact List.mem_cons_of_mem _ ((List.mem_erase_of_ne hne).mpr (hcurrent next hsame))
    · exact fun htimer => by rw [hbooks.timer htimer]; rfl
    · rw [htransit]
      exact hbooks.failures
    · rw [htransit]
      show Table kind loop.held loop.dataChannel loop.inTransit loop.phase (loop.holder.map _)
      cases hholder : loop.holder with
      | none =>
          rw [hholder] at htable
          exact htable
      | some found =>
          rw [hholder] at htable
          exact htable.renewed request again
  next => exact h

theorem Sound.cancelled (h : Sound kind loop) (cancelled : List Request) : Sound kind { loop with cancelled } :=
  h.congr (fun _ hbooks => { hbooks with }) rfl rfl rfl rfl rfl

theorem Sound.expired {handle : RequestHolder Request Etag →
      RequestHolder Request Etag × List (RequestAnswer Success)}
    (h : Sound kind loop) (hposts : ∀ holder, Posts holder (handle holder))
    (hcurrent : ∀ holder other, (handle holder).1.currentRequest = some other →
      holder.currentRequest = some other)
    (hfailure : ∀ holder failure, .didFail failure ∈ (handle holder).2 →
      ∀ env, kind.verdict env failure ≠ .escape) : Sound kind (loop.expired handle) := by
  unfold RequestLoop.expired
  split
  next => exact h
  next id holder hholder =>
    exact (h.post hholder (hposts holder) (hcurrent holder) (hfailure holder)).cancelled _

/-- The calls that wait for the Twisted thread may change as long as what the holder has posted does not. -/
theorem Sound.reactor {reactor : List (ReactorCall Success Call)} (h : Sound kind loop)
    (hsenders : ∀ sender ∈ senders reactor, sender < loop.serial)
    (hposted : ∀ id holder, loop.holder = some (id, holder) → posted id reactor = posted id loop.reactor) :
    Sound kind { loop with reactor } := by
  have htransit : ({ loop with reactor } : RequestLoop Request Etag Success Saved Payload Call).inTransit
      = loop.inTransit := by
    unfold inTransit
    dsimp only
    split
    next => rfl
    next id holder hholder => exact hposted id holder hholder
  refine h.congr (fun _ hbooks => { hbooks with senders := hsenders, failures := ?_ }) rfl rfl rfl htransit rfl
  rw [htransit]
  exact hbooks.failures

theorem Sound.expiring [DecidableEq Request] (h : Sound kind loop) (request : Request) :
    Sound kind (loop.expiring request) := by
  unfold RequestLoop.expiring
  split
  next => exact h
  next id holder hholder =>
    split
    · refine h.reactor (fun sender hmem => ?_) fun _ _ _ => ?_
      · rw [senders_append] at hmem
        rcases List.mem_append.mp hmem with hmem | hmem
        · exact h.books.senders sender hmem
        · rw [List.mem_singleton.mp hmem]
          exact (h.books.holder id holder hholder).1
      · rw [posted_append]
        exact List.append_nil _
    · exact h

theorem Sound.scheduled (h : Sound kind loop) (call : Call) :
    Sound kind { loop with reactor := loop.reactor ++ [.call call] } := by
  refine h.reactor (fun sender hmem => ?_) fun _ _ _ => ?_
  · rw [senders_append] at hmem
    rcases List.mem_append.mp hmem with hmem | hmem
    · exact h.books.senders sender hmem
    · cases hmem
  · rw [posted_append]
    exact List.append_nil _

/-- A call that is not an answer is run. -/
theorem Sound.run {call : ReactorCall Success Call} {reactor : List (ReactorCall Success Call)}
    (h : Sound kind loop) (hreactor : loop.reactor = call :: reactor)
    (hcall : ∀ id, posted id (call :: reactor) = posted id reactor) : Sound kind { loop with reactor } := by
  refine h.reactor (fun sender hmem => ?_) fun id _ _ => ?_
  · apply h.books.senders sender
    rw [hreactor]
    cases call with
    | answer | willExpire => exact List.mem_cons_of_mem _ hmem
    | call => exact hmem
  · rw [hreactor, hcall]

theorem Table.deliver {held : Bool} {channel transit : List (RequestAnswer Success)}
    {answer : RequestAnswer Success} {phase : LoopPhase Payload}
    (h : Table kind held channel (answer :: transit) phase (some (id, holder))) :
    Table kind held (channel ++ [answer]) transit phase (some (id, holder)) := by
  have hinbox : channel ++ [answer] ++ transit = channel ++ answer :: transit := by simp
  unfold Table at h ⊢
  cases phase with
  | off | dead => exact h
  | idle | awaiting | releasing =>
      rw [hinbox]
      exact h
  | lookup =>
      rw [hinbox]
      refine h.imp_right fun hfresh => ?_
      cases hfresh.transit

/-- **An answer that the Twisted thread runs moves from the calls to the channel.** -/
theorem Sound.deliver {sender : Nat} {answer : RequestAnswer Success}
    {reactor : List (ReactorCall Success Call)} (h : Sound kind loop)
    (hreactor : loop.reactor = .answer sender answer :: reactor) :
    Sound kind ({ loop with reactor }.deliver sender answer) := by
  unfold RequestLoop.deliver
  split
  next hsender =>
    obtain ⟨⟨id, holder⟩, hholder, rfl⟩ := Option.map_eq_some_iff.mp hsender
    have hholder : loop.holder = some (id, holder) := hholder
    have htransit : loop.inTransit = answer :: posted id reactor := by
      rw [inTransit_of_holder hholder, hreactor, posted, if_pos rfl]
    obtain ⟨hbooks, htable⟩ := h
    have hafter : (({ loop with reactor } : RequestLoop Request Etag Success Saved Payload Call).receive
        answer).inTransit = posted id reactor := inTransit_of_holder hholder
    refine ⟨{ hbooks with senders := ?_, failures := ?_ }, ?_⟩
    · intro other hmem
      apply hbooks.senders
      rw [hreactor]
      exact List.mem_cons_of_mem _ hmem
    · rw [hafter]
      intro failure hmem
      apply hbooks.failures failure
      rw [htransit]
      simpa [RequestLoop.receive] using hmem
    · rw [hafter]
      rw [htransit, hholder] at htable
      show Table kind loop.held (loop.dataChannel ++ [answer]) (posted id reactor) loop.phase loop.holder
      rw [hholder]
      exact htable.deliver
  next hsender =>
    have hother : ∀ id holder, loop.holder = some (id, holder) → sender ≠ id := by
      rintro id holder hholder rfl
      exact hsender (by simp [hholder])
    refine h.reactor (fun other hmem => ?_) fun id holder hholder => ?_
    · apply h.books.senders
      rw [hreactor]
      exact List.mem_cons_of_mem _ hmem
    · rw [hreactor, posted, if_neg (hother id holder hholder)]

end Inputs

end SipSimple.Account.RequestLoop
