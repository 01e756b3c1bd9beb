import SipSimple.Account.VersionedState

/-!
# Versioned documents are taken in order

The version that the account keeps is the last one posted of the subscription that the handler has created last:
it is forgotten on every way a handler ends, and a new handler finds it forgotten. The one way around is a data
channel that still holds the start of an earlier subscription with a NOTIFY behind it, which the next handler
takes for its own.
-/

namespace SipSimple.Account

open SipSimple.Core SubscriptionLoop

variable {Notify : Type}

/-! ### What may be left in the data channel -/

def isStart : SubscriptionEvent Notify → Bool
  | .didStart => true
  | _ => false

def isNotify : SubscriptionEvent Notify → Bool
  | .gotNotify _ => true
  | _ => false

/-- No NOTIFY is behind the start of a subscription. -/
def NoStartedNotify (channel : List (Nat × SubscriptionEvent Notify)) : Prop :=
  channel.Pairwise fun earlier later => isStart earlier.2 → isNotify later.2 = false

instance (channel : List (Nat × SubscriptionEvent Notify)) : Decidable (NoStartedNotify channel) :=
  inferInstanceAs (Decidable (channel.Pairwise _))

/-- The account has no version. -/
def HandlerPhase.isQuiet : HandlerPhase → Bool
  | .subscribed | .ending => false
  | _ => true

theorem HandlerPhase.not_quiet {handler : HandlerPhase} (h : handler = .subscribed ∨ handler = .ending) :
    ¬ handler.isQuiet := by
  rcases h with rfl | rfl <;> nofun

namespace Subscriber

variable {self : Subscriber Notify}

/-- A handler finds what is left of earlier subscriptions and behind it what is its own. Once it takes NOTIFYs,
what is left has none. -/
structure Tidy (loop : Subscriber Notify) : Prop where
  current : ∀ sender, loop.subscription = some sender → sender < loop.objects.length
  handler : loop.subscription.isSome = loop.handler.takes
  starting : ∀ refresh routes, loop.handler = .starting refresh routes →
    ∃ stale own, loop.dataChannel = stale ++ own ∧ NoStartedNotify stale ∧
      ∀ item ∈ own, loop.subscription = some item.1
  subscribed : loop.handler = .subscribed →
    ∃ stale own, loop.dataChannel = stale ++ own ∧ (∀ item ∈ stale, isNotify item.2 = false) ∧
      ∀ item ∈ own, loop.subscription = some item.1

/-- What a step does to the handler and what it posts. -/
inductive Move (before after : Subscriber Notify) : Prop where
  | stays (hhandler : after.handler = before.handler) (hsubscription : after.subscription = before.subscription)
      (hobjects : after.objects.length = before.objects.length) (hposted : after.posted = [])
  /-- A handler starts. -/
  | looks (hquiet : before.handler.isQuiet) (hhandler : ∃ refreshInterval interval,
      after.handler = .lookup refreshInterval interval) (hobjects : after.objects.length = before.objects.length)
      (hposted : after.posted = [])
  /-- A SUBSCRIBE is sent. -/
  | tries (hquiet : before.handler.isQuiet) (hhandler : ∃ refresh routes, after.handler = .starting refresh routes)
      (hsubscription : after.subscription = some before.objects.length)
      (hobjects : after.objects.length = before.objects.length + 1) (hposted : after.posted = [])
  | starts (hstarting : ∃ refresh routes, before.handler = .starting refresh routes)
      (hhandler : after.handler = .subscribed) (hsubscription : after.subscription = before.subscription)
      (hobjects : after.objects.length = before.objects.length) (hposted : after.posted = [.didStart])
  | notifies (sender : Nat) (data : Notify) (hsubscribed : before.handler = .subscribed)
      (hsender : before.subscription = some sender)
      (hhandler : after.handler = .subscribed) (hsubscription : after.subscription = before.subscription)
      (hobjects : after.objects.length = before.objects.length) (hposted : after.posted = [.gotNotify sender data])
      (hactive : after.active = before.active) (hcommands : after.commandChannel = before.commandChannel)
  | ends (hhandler : after.handler = .ending) (hobjects : after.objects.length = before.objects.length)
      (hposted : after.posted = [])
  /-- The handler is gone: what was posted says so, or nothing had been started. -/
  | gone (hhandler : after.handler = .none) (hobjects : before.objects.length ≤ after.objects.length)
      (hposted : after.posted = [.didEnd] ∨ after.posted = [.didFail] ∨
        after.posted = [] ∧ before.handler.isQuiet)

/-- What `Tidy` and `Move` look at. -/
def view (loop : Subscriber Notify) :=
  (loop.handler, loop.subscription, loop.dataChannel, loop.objects.length, loop.posted)

theorem Tidy.of_view (h : self.Tidy) {other : Subscriber Notify}
    (hsame : (other.handler, other.subscription, other.dataChannel, other.objects.length) =
      (self.handler, self.subscription, self.dataChannel, self.objects.length)) : other.Tidy := by
  obtain ⟨hhandler, hsubscription, hchannel, hobjects⟩ := by simpa only [Prod.mk.injEq] using hsame
  refine ⟨?_, ?_, ?_, ?_⟩
  · rw [hsubscription, hobjects]
    exact h.current
  · rw [hsubscription, hhandler]
    exact h.handler
  · rw [hhandler, hchannel, hsubscription]
    exact h.starting
  · rw [hhandler, hchannel, hsubscription]
    exact h.subscribed

theorem Tidy.same (h : self.Tidy) {other : Subscriber Notify} (hview : view other = view self)
    (hposted : self.posted = []) : other.Tidy ∧ Move self other := by
  obtain ⟨hhandler, hsubscription, hchannel, hobjects, hsame⟩ := by
    simpa only [view, Prod.mk.injEq] using hview
  refine ⟨h.of_view ?_, .stays hhandler hsubscription hobjects (hsame.trans hposted)⟩
  rw [hhandler, hsubscription, hchannel, hobjects]

/-- A loop without a handler that takes events is tidy. -/
theorem tidy_of_none {loop : Subscriber Notify} (hhandler : loop.handler.takes = false)
    (hsubscription : loop.subscription = none) : loop.Tidy := by
  refine ⟨?_, ?_, ?_, ?_⟩
  · rw [hsubscription]
    nofun
  · rw [hhandler, hsubscription]
    rfl
  · intro refresh routes hstarting
    rw [hstarting] at hhandler
    cases hhandler
  · intro hsubscribed
    rw [hsubscribed] at hhandler
    cases hhandler

theorem Tidy.subscription_none (h : self.Tidy) (hhandler : self.handler.takes = false) :
    self.subscription = none := by
  have hisSome := h.handler
  rw [hhandler] at hisSome
  exact Option.not_isSome_iff_eq_none.mp (by simp [hisSome])

/-! ### The handler -/

theorem moved_tryRoutes {env : SubscriptionEnv} {sends : Route → Bool} {refresh : Nat} {routes : List Route}
    {loop : Subscriber Notify} (hquiet : self.handler.isQuiet) (hobjects : loop.objects = self.objects)
    (hchannel : NoStartedNotify loop.dataChannel) (hposted : loop.posted = []) :
    Tidy (loop.tryRoutes kind env sends refresh routes) ∧
      Move self (loop.tryRoutes kind env sends refresh routes) := by
  induction routes with
  | nil =>
      refine ⟨tidy_of_none rfl rfl, .gone rfl (Nat.le_of_eq (congrArg List.length hobjects).symm) (.inr (.inl ?_))⟩
      exact congrArg (SubscriptionPost.didFail :: ·) hposted
  | cons route routes ih =>
      rw [SubscriptionLoop.tryRoutes]
      split
      · split
        next => exact ih
        next contactHeader _ =>
          dsimp only
          split
          · refine ⟨⟨?_, rfl, ?_, fun hsubscribed => by cases hsubscribed⟩, ?_⟩
            · rintro sender ⟨rfl⟩
              simp
            · intro _ _ _
              exact ⟨loop.dataChannel, [], (List.append_nil _).symm, hchannel, fun _ hmem => absurd hmem List.not_mem_nil⟩
            · refine .tries hquiet ⟨refresh, routes, rfl⟩ ?_ ?_ hposted
              · rw [← hobjects]
              · rw [← hobjects, List.length_append]
                rfl
          · refine ⟨tidy_of_none rfl rfl, .gone rfl ?_ (.inr (.inl ?_))⟩
            · rw [← hobjects]
              exact Nat.le_of_lt (by simp [SubscriptionLoop.fail, SubscriptionLoop.finish, SubscriptionLoop.post, kind])
            · exact congrArg (SubscriptionPost.didFail :: ·) hposted
      · exact ih

theorem moved_lookedUp (h : self.Tidy) (hposted : self.posted = []) {env : SubscriptionEnv}
    {sends : Route → Bool} {result : Except String (List Route)}
    (hchannel : ∀ refreshInterval interval routes, self.handler = .lookup refreshInterval interval →
      result = .ok routes → NoStartedNotify self.dataChannel) :
    Tidy (self.lookedUp kind env sends result) ∧ Move self (self.lookedUp kind env sends result) := by
  unfold SubscriptionLoop.lookedUp
  split
  next refreshInterval interval error hhandler =>
    refine ⟨tidy_of_none rfl rfl, .gone rfl (Nat.le_refl _) (.inr (.inl ?_))⟩
    exact congrArg (SubscriptionPost.didFail :: ·) hposted
  next refreshInterval interval routes hhandler =>
    apply moved_tryRoutes
    · rw [hhandler]
      rfl
    · rfl
    · exact hchannel refreshInterval interval routes hhandler rfl
    · exact hposted
  next => exact h.same rfl hposted

/-- Taking an event that changes nothing. -/
theorem Tidy.skip (h : self.Tidy) {item : Nat × SubscriptionEvent Notify}
    {dataChannel : List (Nat × SubscriptionEvent Notify)} (hchannel : self.dataChannel = item :: dataChannel)
    {loop : Subscriber Notify} (hview : view loop = view { self with dataChannel })
    (hposted : self.posted = []) : loop.Tidy ∧ Move self loop := by
  obtain ⟨hhandler, hsubscription, hrest, hobjects, hsame⟩ := by
    simpa only [view, Prod.mk.injEq] using hview
  refine ⟨⟨?_, ?_, ?_, ?_⟩, .stays hhandler hsubscription hobjects (hsame.trans hposted)⟩
  · rw [hsubscription, hobjects]
    exact h.current
  · rw [hsubscription, hhandler]
    exact h.handler
  · intro refresh routes hstarting
    obtain ⟨stale, own, hsplit, hstale, hown⟩ := h.starting refresh routes (hhandler.symm.trans hstarting)
    rw [hchannel] at hsplit
    rw [hrest, hsubscription]
    cases stale with
    | nil =>
        refine ⟨[], dataChannel, rfl, .nil, fun other hmem => hown other ?_⟩
        rw [← List.nil_append own, ← hsplit]
        exact List.mem_cons_of_mem item hmem
    | cons first stale =>
        obtain ⟨rfl, rfl⟩ := List.cons.inj hsplit
        exact ⟨stale, own, rfl, (List.pairwise_cons.mp hstale).2, hown⟩
  · intro hsubscribed
    obtain ⟨stale, own, hsplit, hstale, hown⟩ := h.subscribed (hhandler.symm.trans hsubscribed)
    rw [hchannel] at hsplit
    rw [hrest, hsubscription]
    cases stale with
    | nil =>
        refine ⟨[], dataChannel, rfl, nofun, fun other hmem => hown other ?_⟩
        rw [← List.nil_append own, ← hsplit]
        exact List.mem_cons_of_mem item hmem
    | cons first stale =>
        obtain ⟨rfl, rfl⟩ := List.cons.inj hsplit
        exact ⟨stale, own, rfl, fun other hmem => hstale other (List.mem_cons_of_mem _ hmem), hown⟩

theorem moved_leave {post : SubscriptionPost Notify} {loop : Subscriber Notify} {follows : Bool}
    (hpost : post = .didEnd ∨ post = .didFail) (hobjects : loop.objects = self.objects)
    (hposted : loop.posted = []) :
    Tidy ((loop.post kind post).leave follows) ∧ Move self ((loop.post kind post).leave follows) := by
  have hgone : ((loop.post kind post).leave follows).posted = [post] := by
    cases follows <;> exact congrArg (post :: ·) hposted
  refine ⟨tidy_of_none rfl rfl, .gone rfl ?_ ?_⟩
  · rw [← hobjects]
    cases follows <;> exact Nat.le_refl _
  · rw [hgone]
    rcases hpost with rfl | rfl
    · exact .inl rfl
    · exact .inr (.inl rfl)

/-- Behind the start that is taken, what is left of earlier subscriptions has no NOTIFY. -/
theorem Tidy.started (h : self.Tidy) {sender refresh : Nat} {routes : List Route}
    {dataChannel : List (Nat × SubscriptionEvent Notify)}
    (hchannel : self.dataChannel = (sender, .didStart) :: dataChannel)
    (hstarting : self.handler = .starting refresh routes) {loop : Subscriber Notify}
    (hhandler : loop.handler = .subscribed) (hsubscription : loop.subscription = self.subscription)
    (hrest : loop.dataChannel = dataChannel) (hobjects : loop.objects = self.objects) : loop.Tidy := by
  refine ⟨?_, ?_, ?_, ?_⟩
  · rw [hsubscription, hobjects]
    exact h.current
  · rw [hsubscription, h.handler, hstarting, hhandler]
    rfl
  · intro refresh routes hnot
    rw [hhandler] at hnot
    cases hnot
  · intro _
    obtain ⟨stale, own, hsplit, hstale, hown⟩ := h.starting refresh routes hstarting
    rw [hchannel] at hsplit
    rw [hrest, hsubscription]
    cases stale with
    | nil =>
        refine ⟨[], dataChannel, rfl, nofun, fun other hmem => hown other ?_⟩
        rw [← List.nil_append own, ← hsplit]
        exact List.mem_cons_of_mem _ hmem
    | cons first stale =>
        obtain ⟨rfl, rfl⟩ := List.cons.inj hsplit
        refine ⟨stale, own, rfl, fun other hmem => ?_, hown⟩
        exact (List.pairwise_cons.mp hstale).1 other hmem rfl

/-- A NOTIFY that is posted is of the current subscription. -/
theorem Tidy.sender_of_notify (h : self.Tidy) {sender : Nat} {data : Notify}
    {dataChannel : List (Nat × SubscriptionEvent Notify)}
    (hchannel : self.dataChannel = (sender, .gotNotify data) :: dataChannel)
    (hsubscribed : self.handler = .subscribed) : self.subscription = some sender := by
  obtain ⟨stale, own, hsplit, hstale, hown⟩ := h.subscribed hsubscribed
  rw [hchannel] at hsplit
  cases stale with
  | nil =>
      apply hown (sender, .gotNotify data)
      rw [← List.nil_append own, ← hsplit]
      exact List.mem_cons_self
  | cons first stale =>
      obtain ⟨rfl, rfl⟩ := List.cons.inj hsplit
      exact absurd (hstale _ List.mem_cons_self) (by simp [isNotify])

/-- No SUBSCRIBE is sent for the next route while the data channel holds a start and a NOTIFY behind it. -/
def CleanWake (env : SubscriptionEnv) (self : Subscriber Notify) : Bool :=
  match self.handler, self.dataChannel with
  | .starting refresh _, (_, .didFail failure) :: dataChannel =>
      verdict env refresh failure = .nextRoute → NoStartedNotify dataChannel
  | _, _ => true

theorem moved_wake (h : self.Tidy) (hposted : self.posted = []) {env : SubscriptionEnv}
    {sends : Route → Bool} (hclean : CleanWake env self) :
    Tidy (self.wake kind env sends) ∧ Move self (self.wake kind env sends) := by
  unfold SubscriptionLoop.wake
  split
  next => exact h.same rfl hposted
  next sender event dataChannel hchannel =>
    dsimp only
    split
    next refresh routes hhandler =>
      cases event with
      | didStart =>
          refine ⟨h.started hchannel hhandler rfl rfl rfl rfl, ?_⟩
          exact .starts ⟨refresh, routes, hhandler⟩ rfl rfl rfl
            (congrArg (SubscriptionPost.didStart :: ·) hposted)
      | didFail failure =>
          unfold CleanWake at hclean
          rw [hhandler, hchannel] at hclean
          have hquiet : self.handler.isQuiet := by
            rw [hhandler]
            rfl
          have hgone : ([] : List (SubscriptionPost Notify)) = [] ∧ self.handler.isQuiet := ⟨rfl, hquiet⟩
          simp only [SubscriptionLoop.takeStarting]
          split
          next hverdict =>
            apply moved_tryRoutes hquiet
            · rfl
            · exact of_decide_eq_true hclean hverdict
            · exact hposted
          next error _ =>
            refine ⟨tidy_of_none rfl rfl, .gone rfl (Nat.le_refl _) (.inr (.inl ?_))⟩
            exact congrArg (SubscriptionPost.didFail :: ·) hposted
          next =>
            refine ⟨tidy_of_none rfl rfl, .gone rfl (Nat.le_refl _) (.inr (.inr ⟨hposted, hquiet⟩))⟩
      | didEnd => exact h.skip hchannel rfl hposted
      | gotNotify data => exact h.skip hchannel rfl hposted
    next hhandler =>
      cases event with
      | didStart => exact h.skip hchannel rfl hposted
      | didFail failure => exact moved_leave (.inr rfl) rfl hposted
      | didEnd => exact moved_leave (.inl rfl) rfl hposted
      | gotNotify data =>
          have hsender := h.sender_of_notify hchannel hhandler
          have hskip : Tidy ({ self with dataChannel } : Subscriber Notify) := (h.skip hchannel rfl hposted).1
          refine ⟨⟨hskip.current, hskip.handler, hskip.starting, hskip.subscribed⟩, ?_⟩
          exact .notifies sender data hhandler hsender hhandler rfl rfl
            (congrArg (SubscriptionPost.gotNotify sender data :: ·) hposted) rfl rfl
    next hhandler =>
      cases event with
      | didStart => exact h.skip hchannel rfl hposted
      | didFail failure => exact moved_leave (.inl rfl) rfl hposted
      | didEnd => exact moved_leave (.inl rfl) rfl hposted
      | gotNotify data => exact h.skip hchannel rfl hposted
    next => exact h.same rfl hposted

theorem view_notify (sender : Nat) (result : Subscription × List (SubscriptionEvent Notify)) :
    view (self.notify sender result) = view self := by
  simp only [view, SubscriptionLoop.notify, List.length_set]

theorem view_callback (sender : Nat) (callback : SubscriptionCallback Notify) :
    view (self.callback sender callback) = view self := by
  unfold SubscriptionLoop.callback
  split
  · rfl
  · exact view_notify sender _

theorem view_endObject (sender : Nat) (sendError : Option String) :
    view (self.endObject sender sendError) = view self := by
  unfold SubscriptionLoop.endObject
  split
  · rfl
  · exact view_notify sender _

theorem moved_thrown (h : self.Tidy) (hposted : self.posted = []) {sendError : Option String} :
    Tidy (self.thrown kind sendError) ∧ Move self (self.thrown kind sendError) := by
  unfold SubscriptionLoop.thrown
  split
  next => exact h.same rfl hposted
  next kill _ hnone =>
    have htakes : self.handler.takes = false := by
      rw [← h.handler, hnone]
      rfl
    have hquiet : self.handler.isQuiet := by
      cases hhandler : self.handler with
      | none | lookup _ _ => rfl
      | starting _ _ | subscribed | ending =>
          rw [hhandler] at htakes
          cases htakes
    exact ⟨tidy_of_none rfl rfl, .gone rfl (Nat.le_refl _) (.inr (.inr ⟨hposted, hquiet⟩))⟩
  next sender _ hsubscription =>
    have hview : view ((self.removeObserver sender).endObject sender sendError) = view self :=
      view_endObject sender sendError
    obtain ⟨_, _, _, hobjects, hsame⟩ := by simpa only [view, Prod.mk.injEq] using hview
    refine ⟨tidy_of_none rfl rfl, .gone rfl (Nat.le_of_eq hobjects.symm) (.inl ?_)⟩
    exact congrArg (SubscriptionPost.didEnd :: ·) (hsame.trans hposted)
  next sender _ hsubscription =>
    have hview : view (self.endObject sender sendError) = view self := view_endObject sender sendError
    obtain ⟨_, hsame, _, hobjects, hunposted⟩ := by simpa only [view, Prod.mk.injEq] using hview
    refine ⟨⟨?_, ?_, nofun, nofun⟩, .ends rfl hobjects (hunposted.trans hposted)⟩
    · intro other hother
      exact hobjects ▸ h.current other (hsame.symm.trans hother)
    · show (self.endObject sender sendError).subscription.isSome = true
      rw [hsame, hsubscription]
      rfl

/-! ### The steps -/

theorem moved_perform (h : self.Tidy) (hposted : self.posted = []) {loop : Subscriber Notify}
    (hview : view loop = view self) (hhandler : self.handler = .none) (interval : Nat)
    (command : SubscriptionCommand) :
    Tidy (loop.perform interval command) ∧ Move self (loop.perform interval command) := by
  cases command with
  | subscribe refreshInterval =>
      obtain ⟨_, hsubscription, _, hobjects, hsame⟩ := by
        simpa only [view, Prod.mk.injEq] using hview
      have hnone := h.subscription_none (by rw [hhandler]; rfl)
      refine ⟨tidy_of_none rfl (hsubscription.trans hnone), .looks ?_ ⟨_, _, rfl⟩ hobjects (hsame.trans hposted)⟩
      rw [hhandler]
      rfl
  | unsubscribe => exact h.same hview hposted
  | terminate => exact h.same hview hposted

theorem moved_take (h : self.Tidy) (hposted : self.posted = []) (interval : Nat) :
    Tidy (self.take kind interval) ∧ Move self (self.take kind interval) := by
  unfold SubscriptionLoop.take
  split
  next command commandChannel _ _ =>
    dsimp only
    split
    · exact h.same rfl hposted
    · split
      next hhandler =>
        apply moved_perform h hposted
        · rfl
        · exact hhandler
      next => exact h.same rfl hposted
  next => exact h.same rfl hposted

theorem moved_runCall (h : self.Tidy) (hposted : self.posted = []) :
    Tidy (self.runCall kind) ∧ Move self (self.runCall kind) := by
  unfold SubscriptionLoop.runCall
  split
  next => exact h.same rfl hposted
  next sender event reactor _ =>
    split
    next hqueues =>
      have hown : self.subscription = some sender := of_decide_eq_true hqueues
      have hmine {own : List (Nat × SubscriptionEvent Notify)}
          (h : ∀ item ∈ own, self.subscription = some item.1) :
          ∀ item ∈ own ++ [(sender, event)], self.subscription = some item.1 := by
        intro item hmem
        rcases List.mem_append.mp hmem with hmem | hmem
        · exact h item hmem
        · rw [List.mem_singleton.mp hmem]
          exact hown
      refine ⟨⟨h.current, h.handler, ?_, ?_⟩, .stays rfl rfl rfl hposted⟩
      · intro refresh routes hstarting
        obtain ⟨stale, own, hsplit, hstale, hrest⟩ := h.starting refresh routes hstarting
        exact ⟨stale, own ++ [(sender, event)], by rw [hsplit, List.append_assoc], hstale, hmine hrest⟩
      · intro hsubscribed
        obtain ⟨stale, own, hsplit, hstale, hrest⟩ := h.subscribed hsubscribed
        exact ⟨stale, own ++ [(sender, event)], by rw [hsplit, List.append_assoc], hstale, hmine hrest⟩
    next => exact h.same rfl hposted

/-- Nor for the first route. -/
def CleanLookup (result : Except String (List Route)) (self : Subscriber Notify) : Bool :=
  match self.handler, result with
  | .lookup _ _, .ok _ => NoStartedNotify self.dataChannel
  | _, _ => true

/-- The condition on an input: a SUBSCRIBE is only sent when no NOTIFY is behind a start in the data channel. -/
def CleanInput (self : Subscriber Notify) : SubscriberInput Notify → Bool
  | .lookedUp _ _ result => CleanLookup result self
  | .wake env _ => CleanWake env self
  | _ => true

theorem moved_step (h : self.Tidy) (hposted : self.posted = []) {input : SubscriberInput Notify}
    (hclean : CleanInput self input) : Tidy (self.step input) ∧ Move self (self.step input) := by
  cases input with
  | start enabled =>
      simp only [step, start, activate]
      split_ifs <;> exact h.same rfl hposted
  | stop =>
      simp only [step, stop]
      split <;> exact h.same rfl hposted
  | activate =>
      simp only [step, activate]
      split <;> exact h.same rfl hposted
  | deactivate =>
      simp only [step, deactivate]
      split <;> exact h.same rfl hposted
  | resubscribe =>
      simp only [step, SubscriptionLoop.resubscribe]
      split <;> exact h.same rfl hposted
  | take interval => exact moved_take h hposted interval
  | resume interval =>
      simp only [step, SubscriptionLoop.resume]
      split
      next command _ hhandler => exact moved_perform h hposted rfl hhandler interval command
      next => exact h.same rfl hposted
  | thrown sendError => exact moved_thrown h hposted
  | lookedUp env sends result =>
      apply moved_lookedUp h hposted
      rintro refreshInterval interval routes hhandler rfl
      simpa only [CleanInput, CleanLookup, hhandler, decide_eq_true_eq] using hclean
  | wake env sends => exact moved_wake h hposted hclean
  | timer =>
      simp only [step, timer]
      split
      next => exact h.same rfl hposted
      next => split <;> exact h.same rfl hposted
  | tick seconds => exact h.same rfl hposted
  | runCall => exact moved_runCall h hposted
  | callback sender callback => exact h.same (view_callback sender callback) hposted

end Subscriber

/-! ### The versions -/

/-- The version of the last document that was posted of a subscription. -/
def lastVersion (sender : Nat) (log : List StateEntry) : Option Nat :=
  (log.find? fun entry => entry.sender = sender ∧ entry.posted).map (·.document.version)

/-- What the account does with a document, by the version that it keeps. -/
structure StateEntry.Follows (entry : StateEntry) (version : Option Nat) : Prop where
  posted : entry.posted = version.all (· < entry.document.version)
  resubscribes : entry.resubscribes =
    (entry.document.isPartial && version.all (· + 1 < entry.document.version))

/-- Each document was handled by the last version of its own subscription. -/
def InOrder : List StateEntry → Prop
  | [] => True
  | entry :: earlier => entry.Follows (lastVersion entry.sender earlier) ∧ InOrder earlier

namespace VersionedState

variable {self : VersionedState Notify}

/-- The version that is kept is the last one of the current subscription, and there is none while no
subscription has started. -/
structure Versioned (state : VersionedState Notify) : Prop where
  tidy : state.subscriber.Tidy
  fresh : ∀ entry ∈ state.log, entry.sender < state.subscriber.objects.length
  quiet : state.subscriber.handler.isQuiet → state.version = none
  starting : ∀ refresh routes, state.subscriber.handler = .starting refresh routes →
    ∀ entry ∈ state.log, state.subscriber.subscription ≠ some entry.sender
  subscribed : state.subscriber.handler = .subscribed →
    ∀ sender, state.subscriber.subscription = some sender → state.version = lastVersion sender state.log
  inOrder : InOrder state.log

theorem lastVersion_eq_none {sender : Nat} {log : List StateEntry} (h : ∀ entry ∈ log, entry.sender ≠ sender) :
    lastVersion sender log = none := by
  have hfind : log.find? (fun entry => entry.sender = sender ∧ entry.posted) = none := by
    apply List.find?_eq_none.mpr
    intro entry hmem
    simp [h entry hmem]
  rw [lastVersion, hfind]
  rfl

theorem lastVersion_cons_posted {entry : StateEntry} {log : List StateEntry} (h : entry.posted) :
    lastVersion entry.sender (entry :: log) = some entry.document.version := by
  simp [lastVersion, h]

theorem lastVersion_cons_dropped {entry : StateEntry} {log : List StateEntry} (h : entry.posted = false)
    (sender : Nat) : lastVersion sender (entry :: log) = lastVersion sender log := by
  simp [lastVersion, h]

/-! ### One document -/

theorem gotDocument_log (self : VersionedState Notify) (sender : Nat) (document : StateDocument) :
    ∃ entry, (self.gotDocument sender document).log = entry :: self.log ∧ entry.sender = sender ∧
      entry.document = document ∧ entry.Follows self.version ∧
      (self.gotDocument sender document).version =
        if entry.posted then some document.version else self.version := by
  unfold gotDocument
  cases hversion : self.version with
  | none => exact ⟨_, rfl, rfl, rfl, ⟨rfl, by simp⟩, rfl⟩
  | some version =>
      dsimp only
      split
      next hle => exact ⟨_, rfl, rfl, rfl, ⟨by simp [hle], by simp; omega⟩, rfl⟩
      next hlt => exact ⟨_, rfl, rfl, rfl, ⟨by simp; omega, by simp⟩, rfl⟩

theorem view_gotDocument (self : VersionedState Notify) (sender : Nat) (document : StateDocument) :
    Subscriber.view (self.gotDocument sender document).subscriber = Subscriber.view self.subscriber := by
  have hresubscribe : Subscriber.view self.subscriber.resubscribe = Subscriber.view self.subscriber := by
    unfold SubscriptionLoop.resubscribe
    split <;> rfl
  unfold gotDocument
  split
  · dsimp only
    split
    · exact hresubscribe
    · rfl
  · dsimp only
    split
    · rfl
    · split
      · exact hresubscribe
      · rfl

/-- A document of the current subscription, which is handled by its own last version. -/
theorem Versioned.gotDocument (h : self.Versioned) (hhandler : self.subscriber.handler = .subscribed)
    {sender : Nat} (hsender : self.subscriber.subscription = some sender) (document : StateDocument) :
    (self.gotDocument sender document).Versioned := by
  obtain ⟨entry, hlog, rfl, rfl, hfollows, hversion⟩ := gotDocument_log self sender document
  obtain ⟨hsubscribed, hsubscription, hchannel, hobjects, _⟩ := by
    simpa only [Subscriber.view, Prod.mk.injEq] using view_gotDocument self entry.sender entry.document
  have hkept := h.subscribed hhandler entry.sender hsender
  refine ⟨h.tidy.of_view ?_, ?_, ?_, ?_, ?_, ?_⟩
  · rw [hsubscribed, hsubscription, hchannel, hobjects]
  · intro other hmem
    rw [hlog] at hmem
    rw [hobjects]
    rcases List.mem_cons.mp hmem with rfl | hmem
    · exact h.tidy.current _ hsender
    · exact h.fresh other hmem
  · intro hquiet
    rw [hsubscribed, hhandler] at hquiet
    cases hquiet
  · intro refresh routes hstarting
    rw [hsubscribed, hhandler] at hstarting
    cases hstarting
  · intro _ other hother
    rw [hsubscription, hsender] at hother
    cases hother
    rw [hversion, hlog]
    cases hposted : entry.posted with
    | true => exact (lastVersion_cons_posted hposted).symm
    | false => exact hkept.trans (lastVersion_cons_dropped hposted entry.sender).symm
  · rw [hlog]
    exact ⟨hkept ▸ hfollows, h.inOrder⟩

/-! ### One step -/

theorem Versioned.step {document : String → Notify → Option StateDocument} (h : self.Versioned)
    {input : String × SubscriberInput Notify}
    (hclean : Subscriber.CleanInput { self.subscriber with posted := [] } input.2) :
    (self.step document input).Versioned := by
  have hfresh : Subscriber.Tidy { self.subscriber with posted := [] } := h.tidy.of_view rfl
  obtain ⟨htidy, hmove⟩ := Subscriber.moved_step hfresh rfl hclean
  unfold VersionedState.step
  generalize Subscriber.step { self.subscriber with posted := [] } input.2 = subscriber at htidy hmove
  have hlonger (hobjects : self.subscriber.objects.length ≤ subscriber.objects.length) :
      ∀ entry ∈ self.log, entry.sender < subscriber.objects.length :=
    fun entry hmem => Nat.lt_of_lt_of_le (h.fresh entry hmem) hobjects
  cases hmove with
  | stays hhandler hsubscription hobjects hposted =>
      simp only [hposted, List.foldr]
      refine ⟨htidy, hlonger (Nat.le_of_eq hobjects.symm), ?_, ?_, ?_, h.inOrder⟩
      · exact fun hquiet => h.quiet (hhandler ▸ hquiet)
      · intro refresh routes hstarting entry hmem
        rw [hsubscription]
        exact h.starting refresh routes (hhandler.symm.trans hstarting) entry hmem
      · intro hsubscribed sender hsender
        exact h.subscribed (hhandler.symm.trans hsubscribed) sender (hsubscription.symm.trans hsender)
  | looks hquiet hhandler hobjects hposted =>
      obtain ⟨refreshInterval, interval, hhandler⟩ := hhandler
      simp only [hposted, List.foldr]
      refine ⟨htidy, hlonger (Nat.le_of_eq hobjects.symm), fun _ => h.quiet hquiet, ?_, ?_, h.inOrder⟩
      · intro refresh routes hstarting
        exact nomatch hhandler.symm.trans hstarting
      · intro hsubscribed
        exact nomatch hhandler.symm.trans hsubscribed
  | tries hquiet hhandler hsubscription hobjects hposted =>
      obtain ⟨refresh, routes, hhandler⟩ := hhandler
      simp only [hposted, List.foldr]
      refine ⟨htidy, hlonger (by rw [hobjects]; exact Nat.le_succ _), fun _ => h.quiet hquiet, ?_, ?_, h.inOrder⟩
      · intro _ _ _ entry hmem hown
        have hsender : self.subscriber.objects.length = entry.sender :=
          Option.some.inj (hsubscription.symm.trans hown)
        have hlt := h.fresh entry hmem
        omega
      · intro hsubscribed
        exact nomatch hhandler.symm.trans hsubscribed
  | starts hstarting hhandler hsubscription hobjects hposted =>
      obtain ⟨refresh, routes, hstarting⟩ := hstarting
      have hstarting : self.subscriber.handler = .starting refresh routes := hstarting
      simp only [hposted, List.foldr]
      refine ⟨htidy, hlonger (Nat.le_of_eq hobjects.symm), ?_, ?_, ?_, h.inOrder⟩
      · intro hquiet
        exact absurd hquiet (HandlerPhase.not_quiet (.inl hhandler))
      · intro _ _ hnot
        exact nomatch hhandler.symm.trans hnot
      · intro _ sender hsender
        have hnone : lastVersion sender self.log = none := by
          apply lastVersion_eq_none
          intro entry hmem heq
          apply h.starting refresh routes hstarting entry hmem
          rw [heq]
          exact hsubscription.symm.trans hsender
        rw [show self.version = none from h.quiet (by rw [hstarting]; rfl)]
        exact hnone.symm
  | notifies sender data hbefore hsender hhandler hsubscription hobjects hposted hactive hcommands =>
      have hmine : subscriber.subscription = some sender := hsubscription.trans hsender
      have hsubscriber : ({ self with subscriber } : VersionedState Notify).Versioned := by
        refine ⟨htidy, hlonger (Nat.le_of_eq hobjects.symm), ?_, ?_, ?_, h.inOrder⟩
        · intro hquiet
          exact absurd hquiet (HandlerPhase.not_quiet (.inl hhandler))
        · intro _ _ hnot
          exact nomatch hhandler.symm.trans hnot
        · intro _ other hother
          exact h.subscribed hbefore other (hsubscription.symm.trans hother)
      simp only [hposted, List.foldr, handle]
      split
      next => exact hsubscriber
      next found _ => exact hsubscriber.gotDocument hhandler hmine found
  | ends hhandler hobjects hposted =>
      simp only [hposted, List.foldr]
      refine ⟨htidy, hlonger (Nat.le_of_eq hobjects.symm), ?_, ?_, ?_, h.inOrder⟩
      · intro hquiet
        exact absurd hquiet (HandlerPhase.not_quiet (.inr hhandler))
      · intro _ _ hnot
        exact nomatch hhandler.symm.trans hnot
      · intro hsubscribed
        exact nomatch hhandler.symm.trans hsubscribed
  | gone hhandler hobjects hposted =>
      have hquiet : ({ self with subscriber, version := none } : VersionedState Notify).Versioned := by
        refine ⟨htidy, hlonger hobjects, fun _ => rfl, ?_, ?_, h.inOrder⟩
        · intro _ _ hnot
          exact nomatch hhandler.symm.trans hnot
        · intro hsubscribed
          exact nomatch hhandler.symm.trans hsubscribed
      rcases hposted with hposted | hposted | ⟨hposted, hbefore⟩
      · simpa only [hposted, List.foldr, handle] using hquiet
      · simpa only [hposted, List.foldr, handle] using hquiet
      · have hnone : self.version = none := h.quiet hbefore
        simpa only [hposted, List.foldr, hnone] using hquiet

/-- The condition of a step. -/
def Careful (self : VersionedState Notify) (input : String × SubscriberInput Notify) : Prop :=
  Subscriber.CleanInput self.subscriber input.2

instance (self : VersionedState Notify) (input : String × SubscriberInput Notify) :
    Decidable (self.Careful input) :=
  inferInstanceAs (Decidable (_ = true))

theorem Careful.fresh {input : String × SubscriberInput Notify} (h : self.Careful input) :
    Subscriber.CleanInput { self.subscriber with posted := [] } input.2 := by
  obtain ⟨uri, input⟩ := input
  cases input <;> exact h

theorem gotDocument_commands {sender : Nat} {document : StateDocument} {entry : StateEntry}
    (hlog : (self.gotDocument sender document).log = entry :: self.log) (hresubscribes : entry.resubscribes)
    (hactive : self.subscriber.active) :
    (self.gotDocument sender document).subscriber.commandChannel =
      self.subscriber.commandChannel ++ [.subscribe none] := by
  have hresubscribe : self.subscriber.resubscribe.commandChannel =
      self.subscriber.commandChannel ++ [.subscribe none] := by
    unfold SubscriptionLoop.resubscribe
    rw [hactive]
    rfl
  unfold gotDocument at hlog ⊢
  split
  next hversion =>
    rw [hversion] at hlog
    obtain ⟨rfl, _⟩ := List.cons.inj hlog
    have hdelta : document.isPartial = true := hresubscribes
    rw [hdelta]
    exact hresubscribe
  next version hversion =>
    rw [hversion] at hlog
    dsimp only at hlog ⊢
    split
    next hle =>
      rw [if_pos hle] at hlog
      obtain ⟨rfl, _⟩ := List.cons.inj hlog
      cases hresubscribes
    next hlt =>
      rw [if_neg hlt] at hlog
      obtain ⟨rfl, _⟩ := List.cons.inj hlog
      rw [if_pos hresubscribes]
      exact hresubscribe

/-- A document that asks for another subscription gets it while the subscriber is active. -/
theorem Versioned.queues {document : String → Notify → Option StateDocument} (h : self.Versioned)
    {input : String × SubscriberInput Notify} (hcareful : self.Careful input) {entry : StateEntry}
    (hlog : (self.step document input).log = entry :: self.log) (hresubscribes : entry.resubscribes)
    (hactive : self.subscriber.active) :
    (self.step document input).subscriber.commandChannel =
      self.subscriber.commandChannel ++ [.subscribe none] := by
  have hfresh : Subscriber.Tidy { self.subscriber with posted := [] } := h.tidy.of_view rfl
  obtain ⟨htidy, hmove⟩ := Subscriber.moved_step hfresh rfl hcareful.fresh
  unfold VersionedState.step at hlog ⊢
  generalize Subscriber.step { self.subscriber with posted := [] } input.2 = subscriber at hmove hlog ⊢
  have hunchanged : self.log ≠ entry :: self.log := (List.cons_ne_self entry self.log).symm
  cases hmove with
  | notifies sender data hbefore hsender hhandler hsubscription hobjects hposted hsame hcommands =>
      simp only [hposted, List.foldr, handle] at hlog ⊢
      have hcommands : subscriber.commandChannel = self.subscriber.commandChannel := hcommands
      split at hlog
      next => exact absurd hlog hunchanged
      next found _ =>
        rw [← hcommands]
        exact gotDocument_commands hlog hresubscribes (hsame.trans hactive)
  | gone hhandler hobjects hposted =>
      rcases hposted with hposted | hposted | ⟨hposted, _⟩ <;>
        simp only [hposted, List.foldr, handle] at hlog <;> exact absurd hlog hunchanged
  | stays _ _ _ hposted | looks _ _ _ hposted | tries _ _ _ _ hposted | starts _ _ _ _ hposted
  | ends _ _ hposted =>
      simp only [hposted, List.foldr, handle] at hlog
      exact absurd hlog hunchanged

end VersionedState

/-! ### The log -/

/-- The documents that were posted of a subscription, by their versions. -/
def postedVersions (sender : Nat) (log : List StateEntry) : List Nat :=
  (log.filter fun entry => entry.sender = sender ∧ entry.posted).map (·.document.version)

/-- The documents that were handled, seen from their subscriptions. -/
structure VersionsInOrder (log : List StateEntry) : Prop where
  /-- The last one first. -/
  increasing : ∀ sender, (postedVersions sender log).Pairwise (· > ·)
  resubscribes : ∀ after entry earlier, log = after ++ entry :: earlier → entry.document.isPartial →
    (lastVersion entry.sender earlier).all (· + 1 < entry.document.version) → entry.resubscribes
  full : ∀ after entry earlier, log = after ++ entry :: earlier → entry.document.isPartial = false →
    (lastVersion entry.sender earlier).all (· < entry.document.version) → entry.posted
  first : ∀ after entry earlier, log = after ++ entry :: earlier →
    lastVersion entry.sender earlier = none → entry.posted

theorem InOrder.follows {log after earlier : List StateEntry} {entry : StateEntry} (h : InOrder log)
    (hlog : log = after ++ entry :: earlier) : entry.Follows (lastVersion entry.sender earlier) := by
  induction after generalizing log with
  | nil =>
      rw [hlog] at h
      exact h.1
  | cons other after ih =>
      rw [hlog] at h
      exact ih h.2 rfl

theorem lastVersion_eq_head (sender : Nat) (log : List StateEntry) :
    lastVersion sender log = (postedVersions sender log).head? := by
  rw [lastVersion, postedVersions, List.head?_map, List.head?_filter]

theorem InOrder.increasing {log : List StateEntry} (h : InOrder log) (sender : Nat) :
    (postedVersions sender log).Pairwise (· > ·) := by
  induction log with
  | nil => exact .nil
  | cons entry earlier ih =>
      have hearlier := ih h.2
      by_cases hown : entry.sender = sender ∧ entry.posted
      · obtain ⟨rfl, hposted⟩ := hown
        have hnewer := h.1.posted
        rw [hposted, lastVersion_eq_head] at hnewer
        have hcons : postedVersions entry.sender (entry :: earlier) =
            entry.document.version :: postedVersions entry.sender earlier := by
          simp [postedVersions, hposted]
        rw [hcons]
        cases hversions : postedVersions entry.sender earlier with
        | nil => exact List.pairwise_singleton _ _
        | cons version versions =>
            rw [hversions] at hnewer hearlier
            have hlt : version < entry.document.version := by simpa using hnewer
            refine List.pairwise_cons.mpr ⟨fun other hmem => ?_, hearlier⟩
            rcases List.mem_cons.mp hmem with rfl | hmem
            · exact hlt
            · have hlower := (List.pairwise_cons.mp hearlier).1 other hmem
              omega
      · have hskip : postedVersions sender (entry :: earlier) = postedVersions sender earlier := by
          simp [postedVersions, hown]
        rw [hskip]
        exact hearlier

theorem InOrder.versions {log : List StateEntry} (h : InOrder log) : VersionsInOrder log where
  increasing := h.increasing
  resubscribes := by
    intro after entry earlier hlog hdelta hskips
    rw [(h.follows hlog).resubscribes, hdelta, hskips]
    rfl
  full := by
    intro after entry earlier hlog _ hnewer
    rw [(h.follows hlog).posted]
    exact hnewer
  first := by
    intro after entry earlier hlog hnone
    rw [(h.follows hlog).posted, hnone]
    rfl

/-! ### Runs -/

/-- The documents are taken in order, and a document that asks for another subscription while the subscriber is
active has it queued. -/
structure TakesInOrder (document : String → Notify → Option StateDocument) (state : VersionedState Notify) :
    Prop where
  log : VersionsInOrder state.log
  queues : ∀ input, state.Careful input → ∀ entry, (state.step document input).log = entry :: state.log →
    entry.resubscribes → state.subscriber.active →
      (state.step document input).subscriber.commandChannel =
        state.subscriber.commandChannel ++ [.subscribe none]

theorem takesInOrder_run {document : String → Notify → Option StateDocument}
    {inputs : List (String × SubscriberInput Notify)}
    (hmeets : Runs.Meets (VersionedState.step document) VersionedState.Careful {} inputs) :
    TakesInOrder document (Runs.run (VersionedState.step document) {} inputs) := by
  have hstart : ({} : VersionedState Notify).Versioned :=
    ⟨Subscriber.tidy_of_none rfl rfl, nofun, fun _ => rfl, nofun, nofun, trivial⟩
  have hversioned := Runs.invariant_run (fun state : VersionedState Notify => state.Versioned)
    (fun _ _ h hcareful => h.step hcareful.fresh) hstart hmeets
  exact ⟨hversioned.inOrder.versions, fun input hcareful entry hlog =>
    hversioned.queues hcareful hlog⟩

/-- **Versioned notifications are applied in order** in every run where a SUBSCRIBE is only sent when the data
channel does not hold the start of an earlier subscription with a NOTIFY behind it. -/
theorem versions_in_order {winfo dialogInfo : List (String × SubscriberInput (NotifyData WatcherInfoDocument))}
    {presence dialog : List (String × SubscriberInput (NotifyData RLSNotify))}
    (hwinfo : Runs.Meets presenceWinfo VersionedState.Careful {} winfo)
    (hdialogInfo : Runs.Meets dialogWinfo VersionedState.Careful {} dialogInfo)
    (hpresence : Runs.Meets presenceState VersionedState.Careful {} presence)
    (hdialog : Runs.Meets dialogState VersionedState.Careful {} dialog) :
    TakesInOrder (watcherInfo "presence") (Runs.run presenceWinfo {} winfo) ∧
      TakesInOrder (watcherInfo "dialog") (Runs.run dialogWinfo {} dialogInfo) ∧
      TakesInOrder listState (Runs.run presenceState {} presence) ∧
      TakesInOrder listState (Runs.run dialogState {} dialog) :=
  ⟨takesInOrder_run hwinfo, takesInOrder_run hdialogInfo, takesInOrder_run hpresence, takesInOrder_run hdialog⟩

/-- The watcher info of the account, with its full state. -/
def winfoData (package : String) (version : Nat) : NotifyData WatcherInfoDocument where
  body := some "<watcherinfo/>"
  contentType := some "application/watcherinfo+xml"
  parsed := some { version, isPartial := false, watcherLists := [("sip:1@example.com", package)] }

/-- The full state of the resource lists of the account. -/
def listData (version : Nat) : NotifyData RLSNotify where
  body := some "<list/>"
  contentType := some "multipart/related"
  parsed := some { uri := "sip:1@example.com", version, fullState := true }

/-- The subscription has started, and the account has its first document. -/
def firstDocument (sender : Nat) (data : Notify) : List (SubscriberInput Notify) :=
  [.callback sender (.state .accepted 200 (some "OK") { contact := true } none),
    .callback sender (.notify data), .runCall, .runCall]

def accountRun (inputs : List (SubscriberInput Notify)) : List (String × SubscriberInput Notify) :=
  inputs.map ("sip:1@example.com", ·)

/-- A subscription with one document. -/
def startedRun (data : Notify) : List (String × SubscriberInput Notify) :=
  accountRun ([.start true, .take 3600, .lookedUp lookupEnv (fun _ => true) (.ok [lookupRoute])] ++
    firstDocument 0 data ++ [.wake lookupEnv fun _ => true, .wake lookupEnv fun _ => true])

/-- The start and a document of the first subscription are queued while its handler is about to be interrupted. -/
def winfoInterrupted : List (SubscriberInput (NotifyData WatcherInfoDocument)) :=
  [.start true, .take 3600, .lookedUp lookupEnv (fun _ => true) (.ok [lookupRoute]), .resubscribe, .take 3600] ++
    firstDocument 0 (winfoData "presence" 7) ++
    [.thrown none, .resume 3600, .lookedUp lookupEnv (fun _ => true) (.ok [lookupRoute]),
      .wake lookupEnv fun _ => true, .wake lookupEnv fun _ => true] ++
    firstDocument 1 (winfoData "presence" 0) ++ [.wake lookupEnv fun _ => true, .wake lookupEnv fun _ => true]

theorem versions_in_order_started :
    TakesInOrder (watcherInfo "presence") (Runs.run presenceWinfo {} (startedRun (winfoData "presence" 7))) ∧
      TakesInOrder (watcherInfo "dialog") (Runs.run dialogWinfo {} (startedRun (winfoData "dialog" 7))) ∧
      TakesInOrder listState (Runs.run presenceState {} (startedRun (listData 7))) ∧
      TakesInOrder listState (Runs.run dialogState {} (startedRun (listData 7))) :=
  versions_in_order (by decide) (by decide) (by decide) (by decide)

/-- The first document of the second subscription is dropped. -/
theorem not_versions_in_order :
    ¬ ∀ inputs, TakesInOrder (watcherInfo "presence") (Runs.run presenceWinfo {} inputs) := by
  intro horder
  have hlog : (Runs.run presenceWinfo {} (accountRun winfoInterrupted)).log =
      [] ++ { sender := 1, document := { version := 0, isPartial := false }, posted := false,
              resubscribes := false } ::
        [{ sender := 0, document := { version := 7, isPartial := false }, posted := true,
           resubscribes := false }] := by
    decide
  exact absurd ((horder (accountRun winfoInterrupted)).log.first _ _ _ hlog (by decide)) (by decide)

end SipSimple.Account
