import SipSimple.Account.Subscribers

/-!
# Whose events a subscription handler takes

The data channel outlives the handlers. What a handler finds in it is of the subscription that it has created
last as long as nothing is left behind: a subscription that ends or fails posts nothing after that, so the
handler that takes its end leaves an empty channel, and only an interruption can come before. The sender test of
`Subscriber` keeps out what is still on its way; `ConferenceHandler` has none.
-/

namespace SipSimple.Account

open SipSimple.Core

namespace SubscriptionLoop

variable {Notify : Type} {kind : SubscriptionKind Notify} {self : SubscriptionLoop Notify}

/-! ### The order of the events -/

/-- Nothing follows the last event of a subscription, and the subscription is terminated. -/
structure Ordered (events : List (Nat × SubscriptionEvent Notify)) (objects : List Subscription) : Prop where
  last : events.Pairwise fun earlier later => earlier.2.isLast → later.1 ≠ earlier.1
  terminated : ∀ item ∈ events, item.2.isLast →
    ∃ object, objects[item.1]? = some object ∧ object.state = .terminated

variable {events less : List (Nat × SubscriptionEvent Notify)} {objects : List Subscription}

theorem Ordered.sublist (h : Ordered events objects) (hless : less.Sublist events) : Ordered less objects :=
  ⟨h.last.sublist hless, fun item hmem => h.terminated item (hless.subset hmem)⟩

theorem Ordered.create (h : Ordered events objects) (object : Subscription) :
    Ordered events (objects ++ [object]) := by
  refine ⟨h.last, fun item hmem hlast => ?_⟩
  obtain ⟨known, hknown, hterminated⟩ := h.terminated item hmem hlast
  refine ⟨known, ?_, hterminated⟩
  obtain ⟨hlt, _⟩ := List.getElem?_eq_some_iff.mp hknown
  rw [List.getElem?_append_left hlt]
  exact hknown

/-- What an object posts comes behind, and only while it is not terminated. -/
theorem Ordered.posted (h : Ordered events objects) {sender : Nat} {object : Subscription}
    {result : Subscription × List (SubscriptionEvent Notify)} (hobject : objects[sender]? = some object)
    (hcloses : Subscription.Closes result) (hsilent : object.state = .terminated → result = (object, []))
    (observed : List Nat) :
    Ordered (events ++ if sender ∈ observed then result.2.map (sender, ·) else [])
      (objects.set sender result.1) := by
  by_cases hstate : object.state = .terminated
  · rw [hsilent hstate]
    obtain ⟨hlt, hget⟩ := List.getElem?_eq_some_iff.mp hobject
    have hset : objects.set sender object = objects := by rw [← hget, List.set_getElem_self]
    simpa [hset] using h
  -- A sender that has posted its last event is terminated, and this one is not.
  have hother : ∀ item ∈ events, item.2.isLast → sender ≠ item.1 := by
    intro item hmem hlast heq
    obtain ⟨known, hknown, hterminated⟩ := h.terminated item hmem hlast
    rw [← heq, hobject] at hknown
    cases hknown
    exact hstate hterminated
  have hnew : ∀ item ∈ (if sender ∈ observed then result.2.map (sender, ·) else []),
      item.1 = sender ∧ item.2 ∈ result.2 := by
    intro item hmem
    split at hmem
    · obtain ⟨event, hevent, rfl⟩ := List.mem_map.mp hmem
      exact ⟨rfl, hevent⟩
    · cases hmem
  refine ⟨List.pairwise_append.mpr ⟨h.last, ?_, ?_⟩, ?_⟩
  · split
    · rw [List.pairwise_map]
      exact hcloses.last.imp fun hopen hlast => by simp [hopen] at hlast
    · exact .nil
  · intro earlier hearlier later hlater hlast
    rw [(hnew later hlater).1]
    exact hother earlier hearlier hlast
  · intro item hmem hlast
    rcases List.mem_append.mp hmem with hmem | hmem
    · obtain ⟨known, hknown, hterminated⟩ := h.terminated item hmem hlast
      refine ⟨known, ?_, hterminated⟩
      rw [List.getElem?_set_ne (hother item hmem hlast)]
      exact hknown
    · obtain ⟨hsender, hevent⟩ := hnew item hmem
      obtain ⟨hlt, _⟩ := List.getElem?_eq_some_iff.mp hobject
      refine ⟨result.1, ?_, hcloses.terminated item.2 hevent hlast⟩
      rw [hsender, List.getElem?_set_self hlt]

/-! ### What a handler finds -/

/-- Every event that is queued is of the subscription that the handler has created last, and so was every event
that has been taken. -/
structure Owned (loop : SubscriptionLoop Notify) : Prop where
  ordered : Ordered (loop.dataChannel ++ loop.reactor) loop.objects
  handler : loop.subscription.isSome = loop.handler.takes
  channel : ∀ item ∈ loop.dataChannel, loop.subscription = some item.1
  taken : ∀ entry ∈ loop.taken, entry.1 = some entry.2

/-- No event is left for the next handler. -/
structure Free (loop : SubscriptionLoop Notify) : Prop where
  ordered : Ordered loop.reactor loop.objects
  channel : loop.dataChannel = []
  taken : ∀ entry ∈ loop.taken, entry.1 = some entry.2

theorem Owned.free (h : self.Owned) (hchannel : self.dataChannel = []) : self.Free := by
  refine ⟨?_, hchannel, h.taken⟩
  have hordered := h.ordered
  rw [hchannel] at hordered
  exact hordered

theorem Owned.free_of_subscription (h : self.Owned) (hnone : self.subscription = none) : self.Free := by
  apply h.free
  apply List.eq_nil_iff_forall_not_mem.mpr
  intro item hmem
  have hown := h.channel item hmem
  rw [hnone] at hown
  cases hown

theorem Free.owned (h : self.Free) (hhandler : self.subscription.isSome = self.handler.takes) :
    self.Owned := by
  refine ⟨?_, hhandler, ?_, h.taken⟩
  · rw [h.channel]
    exact h.ordered
  · rw [h.channel]
    nofun

theorem Owned.post (h : self.Owned) (post : SubscriptionPost Notify) : (self.post kind post).Owned := by
  unfold SubscriptionLoop.post
  split
  · exact ⟨h.ordered, h.handler, h.channel, h.taken⟩
  · exact h

theorem Free.post (h : self.Free) (post : SubscriptionPost Notify) : (self.post kind post).Free := by
  unfold SubscriptionLoop.post
  split
  · exact ⟨h.ordered, h.channel, h.taken⟩
  · exact h

theorem Free.finish (h : self.Free) : self.finish.Owned :=
  Free.owned ⟨h.ordered, h.channel, h.taken⟩ rfl

theorem Free.fail (h : self.Free) (error : LoopError) : (self.fail kind error).Owned := by
  have htimer : ({ self with timer := some (error.refreshInterval, error.retryAfter) } :
      SubscriptionLoop Notify).Free := ⟨h.ordered, h.channel, h.taken⟩
  exact (htimer.post .didFail).finish

theorem Free.leave (h : self.Free) (follows : Bool) : (self.leave follows).Owned := by
  unfold SubscriptionLoop.leave
  apply Free.finish
  cases follows <;> exact ⟨h.ordered, h.channel, h.taken⟩

theorem Free.tryRoutes (h : self.Free) {env : SubscriptionEnv} {sends : Route → Bool} {refresh : Nat}
    {routes : List Route} : (self.tryRoutes kind env sends refresh routes).Owned := by
  induction routes with
  | nil => exact h.fail _
  | cons route routes ih =>
      rw [SubscriptionLoop.tryRoutes]
      split
      · split
        next => exact ih
        next contactHeader _ =>
          dsimp only
          split
          · apply Free.owned
            · exact ⟨h.ordered.create _, h.channel, h.taken⟩
            · rfl
          · apply Free.fail
            exact ⟨h.ordered.create _, h.channel, h.taken⟩
      · exact ih

/-! ### The steps -/

theorem Owned.posted (h : self.Owned) {sender : Nat} {object : Subscription}
    {result : Subscription × List (SubscriptionEvent Notify)} (hobject : self.objects[sender]? = some object)
    (hcloses : Subscription.Closes result)
    (hsilent : object.state = .terminated → result = (object, [])) : (self.notify sender result).Owned := by
  refine ⟨?_, h.handler, h.channel, h.taken⟩
  have hordered := h.ordered.posted hobject hcloses hsilent self.observed
  rw [List.append_assoc] at hordered
  exact hordered

theorem Owned.callback (h : self.Owned) (sender : Nat) (callback : SubscriptionCallback Notify) :
    (self.callback sender callback).Owned := by
  unfold SubscriptionLoop.callback
  split
  next => exact h
  next object hobject =>
    apply h.posted hobject
    · exact Subscription.closes_callback object callback
    · exact fun hstate => Subscription.callback_of_terminated hstate callback

theorem Owned.endObject (h : self.Owned) (sender : Nat) (sendError : Option String) :
    (self.endObject sender sendError).Owned := by
  unfold SubscriptionLoop.endObject
  split
  next => exact h
  next object hobject =>
    apply h.posted hobject
    · exact Subscription.closes_endSubscription object sendError
    · exact fun hstate => Subscription.endSubscription_of_terminated hstate sendError

/-- The sender test, or the condition in its place, keeps out what is not of the current subscription. -/
theorem Owned.runCall (h : self.Owned)
    (hsender : ∀ item ∈ self.reactor.head?, kind.queues self.subscription item.1 →
      self.subscription = some item.1) : (self.runCall kind).Owned := by
  unfold SubscriptionLoop.runCall
  split
  next => exact h
  next sender event reactor hreactor =>
    have hordered := h.ordered
    rw [hreactor] at hordered
    split
    next hqueues =>
      have hown : self.subscription = some sender := hsender (sender, event) (by rw [hreactor]; rfl) hqueues
      refine ⟨?_, h.handler, ?_, h.taken⟩
      · show Ordered ((self.dataChannel ++ [(sender, event)]) ++ reactor) self.objects
        rw [List.append_assoc]
        exact hordered
      · intro item hmem
        rcases List.mem_append.mp hmem with hmem | hmem
        · exact h.channel item hmem
        · rw [List.mem_singleton.mp hmem]
          exact hown
    next =>
      refine ⟨hordered.sublist ?_, h.handler, h.channel, h.taken⟩
      exact (List.sublist_cons_self _ _).append_left self.dataChannel

theorem Owned.lookedUp (h : self.Owned) {env : SubscriptionEnv} {sends : Route → Bool}
    {result : Except String (List Route)} : (self.lookedUp kind env sends result).Owned := by
  unfold SubscriptionLoop.lookedUp
  split
  next refreshInterval interval error hhandler =>
    have hnone : self.subscription = none := by
      have hisSome := h.handler
      rw [hhandler] at hisSome
      exact Option.not_isSome_iff_eq_none.mp (by simp [hisSome, HandlerPhase.takes])
    exact (h.free_of_subscription hnone).fail _
  next refreshInterval interval routes hhandler =>
    have hnone : self.subscription = none := by
      have hisSome := h.handler
      rw [hhandler] at hisSome
      exact Option.not_isSome_iff_eq_none.mp (by simp [hisSome, HandlerPhase.takes])
    have hfree := h.free_of_subscription hnone
    apply Free.tryRoutes
    exact ⟨hfree.ordered, hfree.channel, hfree.taken⟩
  next => exact h

/-- What is left of the channel once an event is taken. -/
theorem Owned.taking (h : self.Owned) {sender : Nat} {event : SubscriptionEvent Notify}
    {dataChannel : List (Nat × SubscriptionEvent Notify)}
    (hchannel : self.dataChannel = (sender, event) :: dataChannel) :
    self.subscription = some sender ∧
      Owned { self with dataChannel, taken := (self.subscription, sender) :: self.taken } := by
  have hown : self.subscription = some sender :=
    h.channel (sender, event) (by rw [hchannel]; exact List.mem_cons_self)
  refine ⟨hown, ?_, h.handler, ?_, ?_⟩
  · apply h.ordered.sublist
    rw [hchannel]
    exact List.sublist_cons_self _ _
  · intro item hmem
    apply h.channel
    rw [hchannel]
    exact List.mem_cons_of_mem _ hmem
  · intro entry hmem
    rcases List.mem_cons.mp hmem with rfl | hmem
    · exact hown
    · exact h.taken entry hmem

/-- The last event of the current subscription is the last one in the channel. -/
theorem Owned.nothing_behind (h : self.Owned) {sender : Nat} {event : SubscriptionEvent Notify}
    {dataChannel : List (Nat × SubscriptionEvent Notify)}
    (hchannel : self.dataChannel = (sender, event) :: dataChannel) (hlast : event.isLast) :
    dataChannel = [] := by
  have hown : self.subscription = some sender := (h.taking hchannel).1
  have hordered := h.ordered.last
  rw [hchannel, List.cons_append, List.pairwise_cons] at hordered
  apply List.eq_nil_iff_forall_not_mem.mpr
  intro item hmem
  have hsame : self.subscription = some item.1 := by
    apply h.channel
    rw [hchannel]
    exact List.mem_cons_of_mem _ hmem
  rw [hown] at hsame
  exact hordered.1 item (List.mem_append_left _ hmem) hlast (Option.some.inj hsame).symm

theorem Owned.takeStarting (h : self.Owned) {env : SubscriptionEnv} {sends : Route → Bool} {refresh : Nat}
    {routes : List Route} {sender : Nat} {event : SubscriptionEvent Notify}
    (hhandler : self.handler = .starting refresh routes) (hfree : event.isLast → self.Free) :
    (self.takeStarting kind env sends refresh routes sender event).Owned := by
  cases event with
  | didStart =>
      simp only [SubscriptionLoop.takeStarting]
      split
      · apply Owned.post
        refine ⟨h.ordered, ?_, h.channel, h.taken⟩
        have hisSome := h.handler
        rw [hhandler] at hisSome
        exact hisSome
      · exact h
  | didFail failure =>
      have hrest := hfree rfl
      simp only [SubscriptionLoop.takeStarting]
      split
      · apply Free.tryRoutes
        exact ⟨hrest.ordered, hrest.channel, hrest.taken⟩
      · apply Free.fail
        exact ⟨hrest.ordered, hrest.channel, hrest.taken⟩
      · apply Free.finish
        exact ⟨hrest.ordered, hrest.channel, hrest.taken⟩
  | didEnd => exact h
  | gotNotify data => exact h

theorem Owned.takeSubscribed (h : self.Owned) {sender : Nat} {event : SubscriptionEvent Notify}
    (hfree : event.isLast → self.Free) : (self.takeSubscribed kind sender event).Owned := by
  cases event with
  | gotNotify data =>
      simp only [SubscriptionLoop.takeSubscribed]
      split
      · exact h.post _
      · exact h
  | didEnd =>
      simp only [SubscriptionLoop.takeSubscribed]
      split
      · exact ((hfree rfl).post _).leave _
      · exact h
  | didFail failure => exact ((hfree rfl).post _).leave _
  | didStart => exact h

theorem Owned.takeEnding (h : self.Owned) {sender : Nat} {event : SubscriptionEvent Notify}
    (hfree : event.isLast → self.Free) : (self.takeEnding kind sender event).Owned := by
  cases event with
  | didEnd =>
      simp only [SubscriptionLoop.takeEnding]
      split
      · exact ((hfree rfl).post _).leave _
      · exact h
  | didFail failure => exact ((hfree rfl).post _).leave _
  | didStart => exact h
  | gotNotify data => exact h

theorem Owned.wake (h : self.Owned) {env : SubscriptionEnv} {sends : Route → Bool} :
    (self.wake kind env sends).Owned := by
  unfold SubscriptionLoop.wake
  split
  next => exact h
  next sender event dataChannel hchannel =>
    obtain ⟨hown, htaken⟩ := h.taking hchannel
    have hfree (hlast : event.isLast) := htaken.free (h.nothing_behind hchannel hlast)
    dsimp only
    split
    next refresh routes hhandler =>
      apply htaken.takeStarting
      · exact hhandler
      · exact hfree
    next => exact htaken.takeSubscribed hfree
    next => exact htaken.takeEnding hfree
    next => exact h

/-- An interruption leaves what is in the channel to the next handler. -/
theorem Owned.thrown (h : self.Owned) (hclean : self.killed = some .interrupt → self.dataChannel = [])
    {sendError : Option String} : (self.thrown kind sendError).Owned := by
  unfold SubscriptionLoop.thrown
  split
  next => exact h
  next kill hkilled hnone => exact (h.free_of_subscription hnone).finish
  next sender hkilled hsubscription =>
    have hremoved : (self.removeObserver sender).Owned := ⟨h.ordered, h.handler, h.channel, h.taken⟩
    have hended := hremoved.endObject sender sendError
    have hempty : ((self.removeObserver sender).endObject sender sendError).dataChannel = [] := by
      rw [← hclean hkilled]
      unfold SubscriptionLoop.endObject
      split <;> rfl
    exact ((hended.free hempty).post _).finish
  next sender hkilled hsubscription =>
    have hended := h.endObject sender sendError
    refine ⟨hended.ordered, ?_, hended.channel, hended.taken⟩
    have hsame : (self.endObject sender sendError).subscription = some sender := by
      rw [← hsubscription]
      unfold SubscriptionLoop.endObject
      split <;> rfl
    exact congrArg Option.isSome hsame

theorem Owned.perform (h : self.Owned) (hhandler : self.handler = .none) (interval : Nat)
    (command : SubscriptionCommand) : (self.perform interval command).Owned := by
  have hisSome := h.handler
  rw [hhandler] at hisSome
  cases command with
  | subscribe refreshInterval => exact ⟨h.ordered, hisSome, h.channel, h.taken⟩
  | unsubscribe => exact ⟨h.ordered, h.handler, h.channel, h.taken⟩
  | terminate => exact ⟨h.ordered, h.handler, h.channel, h.taken⟩

theorem Owned.take (h : self.Owned) (interval : Nat) : (self.take kind interval).Owned := by
  unfold SubscriptionLoop.take
  split
  next command commandChannel _ _ =>
    dsimp only
    split
    · exact ⟨h.ordered, h.handler, h.channel, h.taken⟩
    · split
      next hhandler =>
        apply Owned.perform
        · exact ⟨h.ordered, h.handler, h.channel, h.taken⟩
        · exact hhandler
      next => exact ⟨h.ordered, h.handler, h.channel, h.taken⟩
  next => exact h

theorem Owned.resume (h : self.Owned) (interval : Nat) : (self.resume interval).Owned := by
  unfold SubscriptionLoop.resume
  split
  next command _ hhandler => exact h.perform hhandler interval command
  next => exact h

theorem Owned.enqueue (h : self.Owned) (command : SubscriptionCommand) : (self.enqueue command).Owned :=
  ⟨h.ordered, h.handler, h.channel, h.taken⟩

theorem Owned.resubscribe (h : self.Owned) : self.resubscribe.Owned := by
  unfold SubscriptionLoop.resubscribe
  split
  · exact h.enqueue _
  · exact h

/-! ### The claim and its condition -/

/-- Every event that a handler has taken is of the subscription that it had created last, and so is the event
that makes it do something when it wakes. -/
structure Attributed (kind : SubscriptionKind Notify) (loop : SubscriptionLoop Notify) : Prop where
  taken : ∀ entry ∈ loop.taken, entry.1 = some entry.2
  wakes : ∀ env sends, loop.wake kind env sends ≠ loop →
    ∃ item ∈ loop.dataChannel.head?, loop.subscription = some item.1

theorem Owned.attributed (h : self.Owned) : self.Attributed kind := by
  refine ⟨h.taken, fun env sends hwake => ?_⟩
  cases hchannel : self.dataChannel with
  | nil =>
      refine absurd ?_ hwake
      unfold SubscriptionLoop.wake
      rw [hchannel]
  | cons item dataChannel =>
      refine ⟨item, rfl, h.channel item ?_⟩
      rw [hchannel]
      exact List.mem_cons_self

theorem owned_start {self : SubscriptionLoop Notify} (hreactor : self.reactor = [])
    (hchannel : self.dataChannel = []) (htaken : self.taken = [])
    (hhandler : self.subscription.isSome = self.handler.takes) : self.Owned := by
  refine ⟨?_, hhandler, ?_, ?_⟩
  · rw [hchannel, hreactor]
    exact ⟨.nil, nofun⟩
  · rw [hchannel]
    nofun
  · rw [htaken]
    nofun

/-- An interruption that reaches the handler finds the data channel empty. -/
def Clean (loop : SubscriptionLoop Notify) : Prop :=
  loop.killed = some .interrupt → loop.dataChannel.isEmpty

instance : DecidablePred (Clean : SubscriptionLoop Notify → Prop) :=
  fun loop => inferInstanceAs (Decidable (loop.killed = some .interrupt → loop.dataChannel.isEmpty))

end SubscriptionLoop

open SubscriptionLoop

namespace Subscriber

variable {Notify : Type} {self : Subscriber Notify}

/-- No event is queued when a handler is interrupted. -/
def Careful (self : Subscriber Notify) : SubscriberInput Notify → Prop
  | .thrown _ => self.Clean
  | _ => True

instance (self : Subscriber Notify) (input : SubscriberInput Notify) : Decidable (Careful self input) := by
  cases input <;> unfold Careful <;> infer_instance

theorem owned_activate (h : self.Owned) : self.activate.Owned := by
  unfold activate
  split
  · exact ⟨h.ordered, h.handler, h.channel, h.taken⟩
  · exact h

theorem owned_step (h : self.Owned) {input : SubscriberInput Notify} (hcareful : Careful self input) :
    (self.step input).Owned := by
  cases input with
  | start enabled =>
      simp only [step, start]
      split
      · split
        · apply owned_activate
          exact ⟨h.ordered, h.handler, h.channel, h.taken⟩
        · exact ⟨h.ordered, h.handler, h.channel, h.taken⟩
      · exact h
  | stop =>
      simp only [step, stop]
      split
      · exact ⟨h.ordered, h.handler, h.channel, h.taken⟩
      · exact h
  | activate => exact owned_activate h
  | deactivate =>
      simp only [step, deactivate]
      split
      · exact ⟨h.ordered, h.handler, h.channel, h.taken⟩
      · exact h
  | resubscribe => exact h.resubscribe
  | take interval => exact h.take interval
  | resume interval => exact h.resume interval
  | thrown sendError => exact h.thrown fun hkilled => List.isEmpty_iff.mp (hcareful hkilled)
  | lookedUp env sends result => exact h.lookedUp
  | wake env sends => exact h.wake
  | timer =>
      simp only [step, timer]
      split
      next => exact h
      next => split <;> exact ⟨h.ordered, h.handler, h.channel, h.taken⟩
  | tick seconds => exact ⟨h.ordered, h.handler, h.channel, h.taken⟩
  | runCall => exact h.runCall fun _ _ hqueues => of_decide_eq_true hqueues
  | callback sender callback => exact h.callback sender callback

end Subscriber

namespace ConferenceHandler

variable {self : ConferenceHandler}

/-- No event is queued when a handler is interrupted, and only those of the current subscription are. -/
def Careful (self : ConferenceHandler) : ConferenceInput → Prop
  | .thrown _ => self.Clean
  | .runCall => ∀ item ∈ self.reactor.head?, self.subscription = some item.1
  | _ => True

instance (self : ConferenceHandler) (input : ConferenceInput) : Decidable (Careful self input) := by
  cases input <;> unfold Careful <;> infer_instance

theorem owned_activate (h : self.Owned) : self.activate.Owned :=
  ⟨h.ordered, h.handler, h.channel, h.taken⟩

theorem owned_deactivate (h : self.Owned) : self.deactivate.Owned :=
  ⟨h.ordered, h.handler, h.channel, h.taken⟩

theorem owned_step (h : self.Owned) {input : ConferenceInput} (hcareful : Careful self input) :
    (self.step input).Owned := by
  cases input with
  | sessionDidStart remoteFocus =>
      simp only [step]
      split
      · exact owned_activate h
      · exact h
  | sessionDidRenegotiateStreams remoteFocus =>
      simp only [step]
      split_ifs
      · exact owned_activate h
      · exact owned_deactivate h
      · exact h
  | sessionDidEnd =>
      simp only [step, terminate]
      split
      · exact ⟨h.ordered, h.handler, h.channel, h.taken⟩
      · exact h
  | networkConditionsDidChange =>
      simp only [step]
      split
      · exact h.resubscribe
      · exact h
  | take interval => exact h.take interval
  | resume interval => exact h.resume interval
  | thrown sendError => exact h.thrown fun hkilled => List.isEmpty_iff.mp (hcareful hkilled)
  | lookedUp env sends result => exact h.lookedUp
  | wake env sends => exact h.wake
  | timer =>
      simp only [step, timer]
      split
      next => exact h
      next => exact ⟨h.ordered, h.handler, h.channel, h.taken⟩
  | tick seconds => exact ⟨h.ordered, h.handler, h.channel, h.taken⟩
  | runCall => exact h.runCall fun item hmem _ => hcareful item hmem
  | callback sender callback => exact h.callback sender callback

end ConferenceHandler

/-! ### Runs -/

/-- **A subscription handler takes the events of its own subscription** in every run where no handler is
interrupted with an event queued and `ConferenceHandler` gets no event of an earlier subscription. -/
theorem events_are_attributed {Notify : Type} {inputs : List (SubscriberInput Notify)}
    (hsubscriber : Runs.Meets Subscriber.step Subscriber.Careful {} inputs) {conference : List ConferenceInput}
    (hconference :
      Runs.Meets ConferenceHandler.step ConferenceHandler.Careful ConferenceHandler.init conference) :
    (Runs.run Subscriber.step {} inputs).Attributed Subscriber.kind ∧
      (Runs.run ConferenceHandler.step ConferenceHandler.init conference).Attributed ConferenceHandler.kind := by
  constructor
  · have howned := Runs.invariant_run (fun self : Subscriber Notify => self.Owned)
      (fun _ _ h hcareful => Subscriber.owned_step h hcareful) (owned_start rfl rfl rfl rfl) hsubscriber
    exact howned.attributed
  · have howned := Runs.invariant_run (fun self : ConferenceHandler => self.Owned)
      (fun _ _ h hcareful => ConferenceHandler.owned_step h hcareful) (owned_start rfl rfl rfl rfl) hconference
    exact howned.attributed

def lookupRoute : Route := { address := "192.0.2.1", port := 5060, transport := "tcp" }

def lookupEnv : SubscriptionEnv := { contact := fun _ => some "sip:1@192.0.2.2", subscribeInterval := 3600 }

/-- The inputs of a subscriber up to its SUBSCRIBE. -/
def subscribes : List (SubscriberInput Unit) :=
  [.start true, .take 3600, .lookedUp lookupEnv (fun _ => true) (.ok [lookupRoute])]

/-- The first subscription fails while the handler is about to be interrupted. -/
def interrupted : List (SubscriberInput Unit) :=
  subscribes ++ [.resubscribe, .take 3600, .callback 0 (.state .terminated 404 (some "Not Found") {} none),
    .runCall, .thrown none, .resume 3600, .lookedUp lookupEnv (fun _ => true) (.ok [lookupRoute]),
    .wake lookupEnv fun _ => true]

def conferenceInterrupted : List ConferenceInput :=
  [.sessionDidStart true, .take 3600, .lookedUp lookupEnv (fun _ => true) (.ok [lookupRoute]),
    .networkConditionsDidChange, .take 3600,
    .callback 0 (.state .terminated 404 (some "Not Found") {} none), .thrown none, .runCall, .resume 3600,
    .lookedUp lookupEnv (fun _ => true) (.ok [lookupRoute]), .wake lookupEnv fun _ => true]

theorem events_are_attributed_started :
    let starts : SubscriptionCallback Unit := .state .accepted 200 (some "OK") { contact := true } none
    let wakes := subscribes ++ [.callback 0 starts, .runCall, .wake lookupEnv fun _ => true]
    let conference : List ConferenceInput :=
      [.sessionDidStart true, .take 3600, .lookedUp lookupEnv (fun _ => true) (.ok [lookupRoute]),
        .callback 0 (.state .terminated 404 (some "Not Found") {} none), .runCall,
        .wake lookupEnv fun _ => true]
    (Runs.run Subscriber.step {} wakes).Attributed Subscriber.kind ∧
      (Runs.run ConferenceHandler.step ConferenceHandler.init conference).Attributed ConferenceHandler.kind :=
  events_are_attributed (by decide) (by decide)

/-- The next handler takes the failure for that of its own subscription. -/
theorem not_events_are_attributed :
    (¬ ∀ inputs : List (SubscriberInput Unit),
      (Runs.run Subscriber.step {} inputs).Attributed Subscriber.kind) ∧
    ¬ ∀ inputs, (Runs.run ConferenceHandler.step ConferenceHandler.init inputs).Attributed
      ConferenceHandler.kind := by
  constructor
  · intro hattributed
    exact absurd ((hattributed interrupted).taken (some 1, 0) (by decide)) (by decide)
  · intro hattributed
    exact absurd ((hattributed conferenceInterrupted).taken (some 1, 0) (by decide)) (by decide)

end SipSimple.Account
