import SipSimple.Account.RequestLoopInvariant

/-!
# The handlers keep the invariant

Each handler of a command loop, from the invariant where it starts to the invariant where it waits or ends. The
routes are tried by induction on what is left of them.
-/

namespace SipSimple.Account.RequestLoop

open SipSimple.Core

variable {Env Request Etag Success Saved Payload Call : Type}
  {kind : RequestKind Env Request Etag Success Saved Payload}
  {loop : RequestLoop Request Etag Success Saved Payload Call}

section Handlers

variable {env : Env} {sends : Route → Bool} {payload : Payload} {event id : Nat} {routes : List Route}
  {holder : RequestHolder Request Etag}

theorem Sound.fail (h : Books kind loop [event]) (error : LoopError)
    (hleftover : ∀ answer ∈ loop.dataChannel, Leftover kind answer) :
    Sound kind (loop.fail event error) :=
  ⟨h.fail, rfl, hleftover⟩

theorem Sound.succeed (h : Books kind loop [event]) (hholder : loop.holder = some (id, holder))
    (hsettled : Settled holder (loop.dataChannel ++ loop.inTransit)) (saved : Saved) :
    Sound kind (loop.succeed event saved) := by
  have hbooks : Books kind { loop with
      held := true, saved := some saved, wait := 1, phase := .idle } [event] := { h with }
  have hsignal := hbooks.signalled
  have hsent := hbooks.signal
  rw [hsignal] at hsent
  rw [RequestLoop.succeed, hsignal]
  refine ⟨hsent, ?_⟩
  show Table kind true loop.dataChannel loop.inTransit .idle loop.holder
  rw [hholder]
  exact ⟨rfl, hsettled⟩

theorem Sound.released (h : Books kind loop [event]) (terminate : Bool) (hheld : loop.held = false)
    (hholder : loop.holder = none) (hleftover : ∀ answer ∈ loop.dataChannel, Leftover kind answer) :
    Sound kind (loop.released event terminate) := by
  have hbooks : Books kind { loop with phase := if terminate then LoopPhase.off else .idle } [event] :=
    { h with }
  have hsignal := hbooks.signalled
  have hsent := hbooks.signal
  rw [hsignal] at hsent
  rw [RequestLoop.released, hsignal]
  refine ⟨?_, ?_⟩
  · cases terminate <;> exact hsent
  · show Table kind loop.held loop.dataChannel loop.inTransit
      (if terminate then LoopPhase.off else .idle) loop.holder
    rw [hholder]
    cases terminate <;> exact ⟨hheld, hleftover⟩

/-- Before a route is tried: the holder is live and everything is read, or it is new and the channel keeps what
earlier ones have left; then a request that waits for its answer may be in flight. -/
structure Trying (kind : RequestKind Env Request Etag Success Saved Payload)
    (loop : RequestLoop Request Etag Success Saved Payload Call) (event id : Nat)
    (holder : RequestHolder Request Etag) : Prop where
  books : Books kind loop [event]
  holds : loop.holder = some (id, holder)
  transit : loop.inTransit = []
  channel :
    (loop.held = true ∧ holder.lastRequest.isSome ∧ holder.currentRequest = none ∧ loop.dataChannel = []) ∨
    (holder.lastRequest = none ∧ (∀ request, holder.currentRequest = some request → holder.ending = false) ∧
      ∀ answer ∈ loop.dataChannel, Leftover kind answer)

theorem Trying.leftover (h : Trying kind loop event id holder) :
    ∀ answer ∈ loop.dataChannel, Leftover kind answer := by
  obtain ⟨-, -, -, hempty⟩ | ⟨-, -, hleftover⟩ := h.channel
  · simp [hempty]
  · exact hleftover

theorem Trying.held_of_last (h : Trying kind loop event id holder)
    (hlast : holder.lastRequest.isSome) : loop.held = true := by
  obtain ⟨hheld, -⟩ | ⟨hnone, -⟩ := h.channel
  · exact hheld
  · simp [hnone] at hlast

/-- With nothing but leftovers in the channel, the wait blocks, fails or goes on to the next route. -/
theorem Sound.readAnswer
    {next : RequestLoop Request Etag Success Saved Payload Call → RequestLoop Request Etag Success Saved Payload Call}
    (h : Books kind loop [event]) (hleftover : ∀ answer ∈ loop.dataChannel, Leftover kind answer)
    (hblocked : loop.dataChannel = [] → Sound kind { loop with phase := .awaiting payload event routes })
    (hnext : ∀ failure channel, loop.dataChannel = .didFail failure :: channel →
      Sound kind (next { loop with dataChannel := channel })) :
    Sound kind (loop.readAnswer kind env payload event routes next) := by
  have hread : ∀ answer channel, loop.dataChannel = answer :: channel →
      Leftover kind answer ∧ (∀ answer ∈ channel, Leftover kind answer) ∧
        Books kind { loop with dataChannel := channel } [event] := by
    intro answer channel hchannel
    rw [hchannel] at hleftover
    obtain ⟨hhead, htail⟩ := List.forall_mem_cons.mp hleftover
    refine ⟨hhead, htail, h.read fun other hmem => ?_⟩
    rw [hchannel]
    exact List.mem_cons_of_mem _ hmem
  unfold RequestLoop.readAnswer
  split
  next hchannel => exact hblocked hchannel
  next data channel hchannel => exact (hread _ _ hchannel).1.elim
  next failure channel hchannel =>
    rw [(hread _ _ hchannel).1 env]
    exact hnext failure channel hchannel
  next expired channel hchannel =>
    obtain ⟨-, htail, hbooks⟩ := hread _ _ hchannel
    exact Sound.fail hbooks _ htail
  next code reason channel hchannel => exact (hread _ _ hchannel).1.elim

theorem Trying.transmit (h : Trying kind loop event id holder) (request : Request)
    (hnext : ∀ (loop : RequestLoop Request Etag Success Saved Payload Call) holder,
      Trying kind loop event id holder →
        Sound kind (tryRoutes kind env sends payload event routes loop)) :
    Sound kind ((loop.transmit id holder request false).readAnswer kind env payload event routes
      fun loop => tryRoutes kind env sends payload event routes loop) := by
  have hbooks := h.books.transmit h.holds request false
  have htransit : (loop.transmit id holder request false).inTransit = [] := by
    rw [← h.transit, inTransit_of_holder h.holds, inTransit_of_holder rfl]
    rfl
  apply Sound.readAnswer hbooks h.leftover
  · intro hchannel
    refine ⟨{ hbooks with }, ?_⟩
    show Answering loop.held (holder.sent request false)
      ((loop.transmit id holder request false).dataChannel
        ++ (loop.transmit id holder request false).inTransit)
    rw [htransit, hchannel]
    exact .pending rfl rfl fun hlast => h.held_of_last hlast
  · intro failure channel hchannel
    have hchannel : loop.dataChannel = .didFail failure :: channel := hchannel
    refine hnext _ (holder.sent request false) ⟨hbooks.read ?_, rfl, htransit, .inr ⟨?_, ?_, ?_⟩⟩
    · intro answer hmem
      show answer ∈ loop.dataChannel
      rw [hchannel]
      exact List.mem_cons_of_mem _ hmem
    · obtain ⟨-, -, -, hempty⟩ | ⟨hnone, -⟩ := h.channel
      · simp [hempty] at hchannel
      · exact hnone
    · exact fun _ _ => rfl
    · intro answer hmem
      apply h.leftover answer
      rw [hchannel]
      exact List.mem_cons_of_mem _ hmem

/-- A request that cannot be sent and is posted as a failure is read over. -/
theorem Trying.notTransmitted (h : Trying kind loop event id holder) {failure : RequestFailure}
    (hfailure : ∀ env, kind.verdict env failure = .nextRoute)
    (hnext : ∀ (loop : RequestLoop Request Etag Success Saved Payload Call) holder,
      Trying kind loop event id holder →
        Sound kind (tryRoutes kind env sends payload event routes loop)) :
    Sound kind ((loop.notTransmitted id holder |>.receive (.didFail failure)).readAnswer kind env payload
      event routes fun loop => tryRoutes kind env sends payload event routes loop) := by
  have hbooks : Books kind (loop.notTransmitted id holder |>.receive (.didFail failure)) [event] := by
    apply (h.books.notTransmitted h.holds).receive
    rintro other ⟨rfl⟩ env
    simp [hfailure]
  have htransit : (loop.notTransmitted id holder |>.receive (.didFail failure)).inTransit = [] := by
    rw [← h.transit, inTransit_of_holder h.holds, inTransit_of_holder rfl]
    rfl
  have hleftover : ∀ answer ∈ loop.dataChannel ++ [.didFail failure], Leftover kind answer := by
    intro answer hmem
    rcases List.mem_append.mp hmem with hmem | hmem
    · exact h.leftover answer hmem
    · rw [List.mem_singleton.mp hmem]
      exact hfailure
  apply Sound.readAnswer hbooks hleftover
  · intro hchannel
    exact absurd (show loop.dataChannel ++ [.didFail failure] = [] from hchannel) (by simp)
  · intro other channel hchannel
    have hchannel : loop.dataChannel ++ [.didFail failure] = .didFail other :: channel := hchannel
    refine hnext _ holder.notSent ⟨hbooks.read ?_, rfl, htransit, ?_⟩
    · intro answer hmem
      show answer ∈ loop.dataChannel ++ [.didFail failure]
      rw [hchannel]
      exact List.mem_cons_of_mem _ hmem
    · obtain ⟨hheld, hlast, -, hempty⟩ | ⟨hnone, -, -⟩ := h.channel
      · rw [hempty, List.nil_append, List.cons.injEq] at hchannel
        exact .inl ⟨hheld, hlast, rfl, hchannel.2.symm⟩
      · refine .inr ⟨hnone, ?_, fun answer hmem => ?_⟩
        · rintro request ⟨⟩
        apply hleftover
        rw [hchannel]
        exact List.mem_cons_of_mem _ hmem

theorem Trying.leave (h : Trying kind loop event id holder) (hlast : holder.lastRequest.isSome) :
    Sound kind ({ loop with phase := .idle }.signal event) := by
  have hbooks : Books kind { loop with phase := .idle } [event] := { h.books with }
  have hsent := hbooks.signal
  rw [hbooks.signalled] at hsent ⊢
  refine ⟨hsent, ?_⟩
  obtain ⟨hheld, -, hcurrent, hempty⟩ | ⟨hnone, -⟩ := h.channel
  · obtain ⟨request, hlast⟩ := Option.isSome_iff_exists.mp hlast
    have hinbox : loop.dataChannel ++ loop.inTransit = [] := by rw [hempty, h.transit]; rfl
    show Table kind loop.held loop.dataChannel loop.inTransit .idle loop.holder
    rw [h.holds]
    refine ⟨hheld, ?_⟩
    rw [hinbox]
    exact .live hcurrent hlast
  · simp [hnone] at hlast

/-- **The loop over the routes keeps the table**, whatever the routes are. -/
theorem sound_tryRoutes
    (hattempt : ∀ route holder serial, kind.attempt env payload route holder serial ≠ .escape)
    (h : Trying kind loop event id holder) :
    Sound kind (tryRoutes kind env sends payload event routes loop) := by
  induction routes generalizing loop holder with
  | nil =>
      have hbooks : Books kind { loop with wait := min (2 * loop.wait) 30 } [event] := { h.books with }
      rw [tryRoutes]
      exact Sound.fail hbooks _ h.leftover
  | cons route routes ih =>
      rw [tryRoutes]
      split
      · split
        next hnone => exact absurd (h.holds.symm.trans hnone) (by simp)
        next other found hsome =>
          obtain ⟨rfl, rfl⟩ : id = other ∧ holder = found := by
            simpa using h.holds.symm.trans hsome
          split
          next => exact ih h
          next hresult => exact h.leave (kind.leave_last hresult)
          next error hresult => exact Sound.fail h.books _ h.leftover
          next hresult => exact absurd hresult (hattempt _ _ _)
          next request hresult =>
            dsimp only
            split
            · exact h.transmit request fun _ _ htrying => ih htrying
            · split
              next error herror =>
                exact Sound.fail (h.books.notTransmitted h.holds) _ h.leftover
              next failure herror =>
                exact h.notTransmitted (fun _ => kind.verdict_sendError herror)
                  fun _ _ htrying => ih htrying
      · exact ih h

theorem Sound.acquire (h : Books kind loop [event]) (hphase : loop.phase = .idle)
    (htable : Table kind loop.held loop.dataChannel loop.inTransit .idle loop.holder) (interval : Nat)
    (refreshInterval : Option Nat) :
    Sound kind (loop.acquire kind interval payload refreshInterval event) := by
  have hbooks : Books kind { loop with timer := none, phase := .lookup payload event } [event] :=
    { h.cancel with }
  unfold RequestLoop.acquire
  split
  · have hsent := h.signal
    rw [h.signalled] at hsent ⊢
    refine ⟨?_, ?_⟩
    · have hhand : inHand loop.phase = [] := by rw [hphase]; rfl
      show Books kind _ (inHand loop.phase)
      rw [hhand]
      exact hsent
    · show Table kind loop.held loop.dataChannel loop.inTransit loop.phase loop.holder
      rw [hphase]
      exact htable
  · split
    next hnone =>
      rw [hnone] at htable
      have hposted : posted loop.serial loop.reactor = [] :=
        posted_eq_nil fun hmem => absurd (h.senders _ hmem) (lt_irrefl _)
      refine ⟨?_, .inr ⟨htable.1, rfl, rfl, htable.2, hposted⟩⟩
      apply hbooks.numbered rfl
      · exact le_refl loop.serial
      · simp [hposted]
      · rintro request ⟨⟩
    next found hsome =>
      refine ⟨hbooks, ?_⟩
      show Table kind loop.held loop.dataChannel loop.inTransit (.lookup payload event) loop.holder
      rw [hsome] at htable ⊢
      exact .inl htable

theorem Settled.leftover {channel transit : List (RequestAnswer Success)}
    (hsettled : Settled holder (channel ++ transit)) : ∀ answer ∈ channel, Leftover kind answer := by
  intro answer hmem
  have hmem : answer ∈ channel ++ transit := List.mem_append_left _ hmem
  generalize channel ++ transit = inbox at hsettled hmem
  cases hsettled with
  | live => simp at hmem
  | expired =>
      rw [List.mem_singleton.mp hmem]
      trivial

/-- In a phase that has a line of the table for a holder only, there is one. -/
theorem Sound.holds (h : Sound kind loop) {phase : LoopPhase Payload} (hphase : loop.phase = phase)
    (hnone : ¬ Table kind loop.held loop.dataChannel loop.inTransit phase none) :
    Books kind loop (inHand phase) ∧ ∃ id holder, loop.holder = some (id, holder) ∧
      Table kind loop.held loop.dataChannel loop.inTransit phase (some (id, holder)) := by
  obtain ⟨hbooks, htable⟩ := h
  rw [hphase] at hbooks htable
  refine ⟨hbooks, ?_⟩
  cases hholder : loop.holder with
  | none => exact absurd (hholder ▸ htable) hnone
  | some found => exact ⟨found.1, found.2, rfl, hholder ▸ htable⟩

theorem Sound.lookup (h : Sound kind loop) (hphase : loop.phase = .lookup payload event) :
    Books kind loop [event] ∧ ∃ id holder, loop.holder = some (id, holder) ∧
      ((loop.held = true ∧ Settled holder (loop.dataChannel ++ loop.inTransit)) ∨
        Fresh kind loop.held holder loop.dataChannel loop.inTransit) :=
  h.holds hphase id

/-- Once the routes are looked up and no expiry is on its way, they can be tried. -/
theorem Sound.trying (h : Sound kind loop) (hphase : loop.phase = .lookup payload event)
    (hcrossing : ¬ Crossing loop) :
    ∃ id holder, Trying kind { loop with dnsWait := 1, deadline := loop.clock + 30 } event id holder := by
  obtain ⟨hbooks, id, holder, hholder, htable⟩ := h.lookup hphase
  have hwait : Books kind { loop with dnsWait := 1, deadline := loop.clock + 30 } [event] :=
    { hbooks with }
  suffices hboth : loop.inTransit = [] ∧
      ((loop.held = true ∧ holder.lastRequest.isSome ∧ holder.currentRequest = none ∧
          loop.dataChannel = []) ∨
        (holder.lastRequest = none ∧
          (∀ request, holder.currentRequest = some request → holder.ending = false) ∧
          ∀ answer ∈ loop.dataChannel, Leftover kind answer)) from
    ⟨id, holder, hwait, hholder, hboth.1, hboth.2⟩
  rcases htable with ⟨hheld, hsettled⟩ | hfresh
  · generalize hinbox : loop.dataChannel ++ loop.inTransit = inbox at hsettled
    cases hsettled with
    | live hcurrent hlast =>
        obtain ⟨hchannel, htransit⟩ := List.append_eq_nil_iff.mp hinbox
        exact ⟨htransit, .inl ⟨hheld, by simp [hlast], hcurrent, hchannel⟩⟩
    | expired hcurrent hlast =>
        obtain ⟨-, htransit⟩ | ⟨hchannel, htransit⟩ := List.append_eq_singleton_iff.mp hinbox
        · exact absurd ⟨_, htransit ▸ List.mem_singleton_self _, rfl⟩ hcrossing
        · refine ⟨htransit, .inr ⟨hlast, by simp [hcurrent], ?_⟩⟩
          show ∀ answer ∈ loop.dataChannel, Leftover kind answer
          simp [hchannel, Leftover]
  · refine ⟨hfresh.transit, .inr ⟨hfresh.last, by simp [hfresh.current], hfresh.leftover⟩⟩

theorem Sound.lookedUp (h : Sound kind loop) {result : Except LookupError (List Route)}
    (hattempt : ∀ payload route holder serial, kind.attempt env payload route holder serial ≠ .escape)
    (hprepares : ∀ payload event, loop.phase = .lookup payload event → kind.prepares payload)
    (hvalue : ∀ payload event, loop.phase = .lookup payload event → result ≠ .error .valueError)
    (hcrossing : ∀ payload event routes, loop.phase = .lookup payload event → result = .ok routes →
      ¬ Crossing loop) :
    Sound kind (loop.lookedUp kind env sends result) := by
  unfold RequestLoop.lookedUp
  split
  next payload event hphase => exact absurd rfl (hvalue payload event hphase)
  next payload event error hphase =>
    obtain ⟨hbooks, id, holder, -, htable⟩ := h.lookup hphase
    have hwait : Books kind { loop with dnsWait := min (2 * loop.dnsWait) 30 } [event] := { hbooks with }
    refine Sound.fail hwait _ ?_
    rcases htable with ⟨-, hsettled⟩ | hfresh
    · exact hsettled.leftover
    · exact hfresh.leftover
  next payload event routes hphase =>
    rw [if_pos (hprepares payload event hphase)]
    obtain ⟨id, holder, htrying⟩ := h.trying hphase (hcrossing payload event routes hphase rfl)
    exact sound_tryRoutes (hattempt payload) htrying
  next => exact h

/-- After the first answer of an ending handler only an expiry is left. -/
theorem Ending.tail {answer : RequestAnswer Success} {channel transit : List (RequestAnswer Success)}
    (hending : Ending holder (answer :: channel ++ transit)) :
    ∀ other ∈ channel, Leftover kind other := by
  intro other hmem
  have hmem : other ∈ channel ++ transit := List.mem_append_left _ hmem
  rw [List.cons_append] at hending
  generalize channel ++ transit = inbox at hending hmem
  cases hending with
  | ended => simp at hmem
  | notEnded => simp at hmem
  | notEndedExpired =>
      rw [List.mem_singleton.mp hmem]
      trivial

theorem Sound.awaitEnd {terminate : Bool} (h : Books kind loop [event])
    (hholder : loop.holder = some (id, holder)) (hheld : loop.held = false)
    (hending : Ending holder (loop.dataChannel ++ loop.inTransit)) :
    Sound kind (loop.awaitEnd event terminate loop.dataChannel) := by
  have hread : ∀ answer channel, loop.dataChannel = answer :: channel →
      (∀ other ∈ channel, Leftover kind other) ∧ ∀ failed,
        Books kind { loop with
          dataChannel := channel, holder := none, saved := none, failed } [event] := by
    intro answer channel hchannel
    rw [hchannel] at hending
    refine ⟨hending.tail, fun failed => ?_⟩
    have hbooks : Books kind { loop with dataChannel := channel } [event] := by
      apply h.read
      intro other hmem
      rw [hchannel]
      exact List.mem_cons_of_mem _ hmem
    exact { hbooks.withoutHolder with }
  generalize hchannel : loop.dataChannel = channel
  match channel with
  | [] =>
      have hempty : Books kind { loop with dataChannel := [] } [event] := h.read (by rintro _ ⟨⟩)
      refine ⟨{ hempty with }, ?_⟩
      show Table kind loop.held [] loop.inTransit (.releasing event terminate) loop.holder
      rw [hholder]
      rw [hchannel] at hending
      exact ⟨hheld, hending⟩
  | .didSucceed data :: channel =>
      rw [hchannel, List.cons_append] at hending
      cases hending
  | .didEnd expired :: channel =>
      obtain ⟨hleftover, hbooks⟩ := hread _ _ hchannel
      exact Sound.released (hbooks _) terminate hheld rfl hleftover
  | .didFail failure :: channel =>
      obtain ⟨hleftover, hbooks⟩ := hread _ _ hchannel
      exact Sound.released (hbooks _) terminate hheld rfl hleftover
  | .didNotEnd code reason :: channel =>
      obtain ⟨hleftover, hbooks⟩ := hread _ _ hchannel
      exact Sound.released (hbooks _) terminate hheld rfl hleftover

theorem Sound.release {terminate : Bool} (h : Books kind loop [event])
    (htable : Table kind loop.held loop.dataChannel loop.inTransit .idle loop.holder) (sends : Bool) :
    Sound kind (loop.release kind sends event terminate) := by
  have hbooks := h.cancel
  unfold RequestLoop.release
  split
  next hnone =>
    rw [hnone] at htable
    exact Sound.released hbooks terminate rfl hnone htable.2
  next id holder hsome =>
    rw [hsome] at htable
    obtain ⟨hheld, hsettled⟩ := htable
    rw [if_pos hheld]
    generalize hinbox : loop.dataChannel ++ loop.inTransit = inbox at hsettled
    split
    next hlast =>
      cases hsettled with
      | live _ hlive => simp [hlast] at hlive
      | expired hcurrent _ =>
          refine Sound.awaitEnd hbooks hsome rfl ?_
          show Ending holder (loop.dataChannel ++ loop.inTransit)
          rw [hinbox]
          exact .ended hcurrent hlast
    next last hlast =>
      cases hsettled with
      | expired _ hnone => simp [hlast] at hnone
      | live hcurrent _ =>
          obtain ⟨hchannel, htransit⟩ := List.append_eq_nil_iff.mp hinbox
          rw [inTransit_of_holder hsome] at htransit
          split
          · refine Sound.awaitEnd (hbooks.transmit hsome (kind.endRequest holder last loop.serial) true)
              rfl rfl ?_
            show Ending _ (loop.dataChannel ++ posted id loop.reactor)
            rw [hchannel, htransit]
            exact .pending rfl rfl hlast
          · refine Sound.awaitEnd ((hbooks.notTransmitted hsome).receive (by simp)) rfl rfl ?_
            show Ending _ (loop.dataChannel ++ [_] ++ posted id loop.reactor)
            rw [hchannel, htransit]
            exact .notEnded rfl hlast

theorem Sound.take (h : Sound kind loop) (interval : Nat) (sends : Bool) :
    Sound kind (loop.take kind interval sends) := by
  unfold RequestLoop.take
  split
  next command commands hphase hcommands =>
    obtain ⟨hbooks, htable⟩ := h
    rw [hphase] at hbooks htable
    have htaken := hbooks.take hcommands
    dsimp only
    split
    · exact Sound.acquire htaken hphase htable _ _
    · exact Sound.release htaken htable _
    · exact Sound.release htaken htable _
  next => exact h

/-- What a handler may find when it wakes: a success that it can read, or a failure while no expiry is on its
way. -/
def Readable (kind : RequestKind Env Request Etag Success Saved Payload) (env : Env)
    (loop : RequestLoop Request Etag Success Saved Payload Call) : Prop :=
  match loop.phase, loop.dataChannel with
  | .awaiting _ _ _, .didSucceed data :: _ => (kind.read env data).isSome
  | .awaiting _ _ _, .didFail _ :: _ => ¬ Crossing loop
  | _, _ => True

theorem Sound.awaiting (h : Sound kind loop) (hphase : loop.phase = .awaiting payload event routes) :
    Books kind loop [event] ∧ ∃ id holder, loop.holder = some (id, holder) ∧
      Answering loop.held holder (loop.dataChannel ++ loop.inTransit) :=
  h.holds hphase id

theorem Sound.releasing {terminate : Bool} (h : Sound kind loop)
    (hphase : loop.phase = .releasing event terminate) :
    Books kind loop [event] ∧ loop.held = false ∧ ∃ id holder, loop.holder = some (id, holder) ∧
      Ending holder (loop.dataChannel ++ loop.inTransit) := by
  obtain ⟨hbooks, id, holder, hholder, hheld, hending⟩ := h.holds hphase id
  exact ⟨hbooks, hheld, id, holder, hholder, hending⟩

theorem Answering.settled {held : Bool} {data : Success} {channel : List (RequestAnswer Success)}
    (hanswering : Answering held holder (.didSucceed data :: channel)) : Settled holder channel := by
  cases hanswering with
  | succeeded hcurrent hlast => exact .live hcurrent hlast
  | succeededExpired hcurrent hlast => exact .expired hcurrent hlast

/-- A failure that is read before an expiry is on its way leaves the holder to be tried again. -/
theorem Answering.trying {failure : RequestFailure} {channel : List (RequestAnswer Success)}
    (h : Books kind { loop with dataChannel := channel } [event]) (hholder : loop.holder = some (id, holder))
    (hanswering : Answering loop.held holder (.didFail failure :: channel ++ loop.inTransit))
    (hcrossing : ¬ Crossing loop) : Trying kind { loop with dataChannel := channel } event id holder := by
  rw [List.cons_append] at hanswering
  generalize hinbox : channel ++ loop.inTransit = inbox at hanswering
  suffices hboth : loop.inTransit = [] ∧
      ((loop.held = true ∧ holder.lastRequest.isSome ∧ holder.currentRequest = none ∧ channel = []) ∨
        (holder.lastRequest = none ∧
          (∀ request, holder.currentRequest = some request → holder.ending = false) ∧
          ∀ answer ∈ channel, Leftover kind answer)) from
    ⟨h, hholder, hboth.1, hboth.2⟩
  cases hanswering with
  | failed hcurrent hheld =>
      obtain ⟨rfl, htransit⟩ := List.append_eq_nil_iff.mp hinbox
      refine ⟨htransit, ?_⟩
      by_cases hlast : holder.lastRequest.isSome
      · exact .inl ⟨hheld hlast, hlast, hcurrent, rfl⟩
      · exact .inr ⟨by simpa using hlast, by simp [hcurrent], by simp⟩
  | failedExpired hcurrent hlast =>
      obtain ⟨-, htransit⟩ | ⟨rfl, htransit⟩ := List.append_eq_singleton_iff.mp hinbox
      · exact absurd ⟨_, htransit ▸ List.mem_singleton_self _, rfl⟩ hcrossing
      · exact ⟨htransit, .inr ⟨hlast, by simp [hcurrent], by simp [Leftover]⟩⟩

theorem Answering.tail {held : Bool} {answer : RequestAnswer Success}
    {channel transit : List (RequestAnswer Success)}
    (hanswering : Answering held holder (answer :: channel ++ transit)) :
    ∀ other ∈ channel, Leftover kind other := by
  intro other hmem
  have hmem : other ∈ channel ++ transit := List.mem_append_left _ hmem
  rw [List.cons_append] at hanswering
  generalize channel ++ transit = inbox at hanswering hmem
  cases hanswering with
  | succeeded => simp at hmem
  | failed => simp at hmem
  | expired => simp at hmem
  | succeededExpired | failedExpired =>
      rw [List.mem_singleton.mp hmem]
      trivial

theorem Sound.wake (h : Sound kind loop)
    (hattempt : ∀ payload route holder serial, kind.attempt env payload route holder serial ≠ .escape)
    (hreadable : Readable kind env loop) : Sound kind (loop.wake kind env sends) := by
  unfold RequestLoop.wake
  split
  next payload event routes hphase =>
    obtain ⟨hbooks, id, holder, hholder, hanswering⟩ := h.awaiting hphase
    have hread : ∀ answer channel, loop.dataChannel = answer :: channel →
        Books kind { loop with dataChannel := channel } [event] := by
      intro answer channel hchannel
      apply hbooks.read
      intro other hmem
      rw [hchannel]
      exact List.mem_cons_of_mem _ hmem
    unfold Readable at hreadable
    rw [hphase] at hreadable
    unfold RequestLoop.readAnswer
    split
    next hchannel =>
      refine ⟨{ hbooks with }, ?_⟩
      show Table kind loop.held loop.dataChannel loop.inTransit (.awaiting payload event routes) loop.holder
      rw [hholder]
      exact hanswering
    next data channel hchannel =>
      rw [hchannel] at hreadable hanswering
      split
      next saved hsaved => exact Sound.succeed (hread _ _ hchannel) hholder hanswering.settled saved
      next hnone =>
        have hreadable : (kind.read env data).isSome := hreadable
        rw [hnone] at hreadable
        cases hreadable
    next failure channel hchannel =>
      rw [hchannel] at hreadable hanswering
      have hverdict : kind.verdict env failure ≠ .escape := by
        apply hbooks.failures failure
        rw [hchannel]
        exact List.mem_cons_self
      split
      next hnext =>
        exact sound_tryRoutes (hattempt payload)
          (Answering.trying (hread _ _ hchannel) hholder hanswering hreadable)
      next error hraise => exact Sound.fail (hread _ _ hchannel) _ hanswering.tail
      next hescape => exact absurd hescape hverdict
    next expired channel hchannel =>
      rw [hchannel] at hanswering
      exact Sound.fail (hread _ _ hchannel) _ hanswering.tail
    next code reason channel hchannel =>
      rw [hchannel, List.cons_append] at hanswering
      cases hanswering
  next event terminate hphase =>
    obtain ⟨hbooks, hheld, id, holder, hholder, hending⟩ := h.releasing hphase
    exact Sound.awaitEnd hbooks hholder hheld hending
  next => exact h

end Handlers

end SipSimple.Account.RequestLoop
