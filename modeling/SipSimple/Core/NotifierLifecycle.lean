import SipSimple.Core.IncomingSubscription

/-!
# The life cycle of incoming subscriptions and referrals

The last NOTIFY is the one that says `terminated`. Once the object is terminated nothing brings it back.
That its end is posted only once and that the last NOTIFY is the last one fails when the usage goes on
making callbacks to a terminated object, and when a refresh comes before the subscription is accepted.
-/

namespace SipSimple.Core

/-! ### What is posted -/

def NotifierEvent.IsNotify : NotifierEvent → Prop
  | .sentNotify _ _ _ _ => True
  | _ => False

/-- A NOTIFY that carries the terminated subscription state. -/
def NotifierEvent.IsLastNotify : NotifierEvent → Prop
  | .sentNotify .terminated _ _ _ => True
  | _ => False

/-- The terminated subscription state is that of the object. -/
def NotifierEvent.Truthful : NotifierEvent → Prop
  | .sentNotify .terminated _ _ state => state = .terminated
  | _ => True

/-- No NOTIFY is sent after the last one. -/
def NoNotifyAfterLast : List NotifierEvent → Prop
  | [] => True
  | event :: older => (event.IsNotify → ∀ other ∈ older, ¬ other.IsLastNotify) ∧ NoNotifyAfterLast older

instance (event : NotifierEvent) : Decidable event.IsLastNotify := by
  unfold NotifierEvent.IsLastNotify
  split <;> infer_instance

namespace Notifier

/-- A last NOTIFY has been sent. -/
def LastNotifySent (notifier : Notifier) : Prop := ∃ event ∈ notifier.events, event.IsLastNotify

instance (notifier : Notifier) : Decidable notifier.LastNotifySent :=
  inferInstanceAs (Decidable (∃ event ∈ notifier.events, event.IsLastNotify))

structure Lifecycle (notifier : Notifier) : Prop where
  didEnd : notifier.events.count .didEnd ≤ 1
  truthful : ∀ event ∈ notifier.events, event.Truthful
  lastNotify : NoNotifyAfterLast notifier.events

/-- An object that is not terminated has not ended. -/
structure Sound (notifier : Notifier) : Prop extends notifier.Lifecycle where
  running : notifier.state ≠ .terminated →
    .didEnd ∉ notifier.events ∧ ¬ notifier.LastNotifySent

/-- The object may end: its end is not posted, and the NOTIFY that goes out is not one too many. -/
def MayEnd (notifier : Notifier) (sent : Bool) : Prop :=
  .didEnd ∉ notifier.events ∧ (sent → ¬ notifier.LastNotifySent)

/-- The object may send a NOTIFY, which says terminated if it is not accepted yet. -/
def MayNotify (notifier : Notifier) (sent : Bool) : Prop :=
  sent → notifier.state ≠ .incoming ∧ ¬ notifier.LastNotifySent

namespace Sound

variable {notifier after : Notifier}

theorem mayEnd (h : notifier.Sound) (hstate : notifier.state ≠ .terminated) (sent : Bool) :
    notifier.MayEnd sent := ⟨(h.running hstate).1, fun _ => (h.running hstate).2⟩

theorem mayNotify (h : notifier.Sound) (hstate : notifier.state ≠ .terminated)
    (hincoming : notifier.state ≠ .incoming) (sent : Bool) : notifier.MayNotify sent :=
  fun _ => ⟨hincoming, (h.running hstate).2⟩

theorem of_eq (h : notifier.Sound) (hstate : after.state = notifier.state)
    (hevents : after.events = notifier.events) : after.Sound := by
  have hrunning : after.state ≠ .terminated → .didEnd ∉ after.events ∧ ¬ after.LastNotifySent := by
    rw [hstate, LastNotifySent, hevents]
    exact h.running
  refine ⟨⟨?_, ?_, ?_⟩, hrunning⟩
  · rw [hevents]
    exact h.didEnd
  · rw [hevents]
    exact h.truthful
  · rw [hevents]
    exact h.lastNotify

theorem release (h : notifier.Sound) : notifier.release.Sound := h.of_eq rfl rfl

/-- What is neither a NOTIFY nor the end may be posted at any time. -/
theorem post (h : notifier.Sound) {event : NotifierEvent} (hnotify : ¬ event.IsNotify)
    (hend : event ≠ .didEnd) : (notifier.post event).Sound := by
  have hlast : ¬ event.IsLastNotify := by
    intro hlast
    cases event <;> first | exact hlast | exact hnotify trivial
  refine ⟨⟨?_, ?_, ?_⟩, fun hstate => ?_⟩
  · rw [Notifier.post, List.count_cons_of_ne hend]
    exact h.didEnd
  · intro other hother
    rcases List.mem_cons.mp hother with rfl | hother
    · cases other <;> first | trivial | exact (hnotify trivial).elim
    · exact h.truthful other hother
  · exact ⟨fun hyes => absurd hyes hnotify, h.lastNotify⟩
  · obtain ⟨hnotEnded, hnotLast⟩ := h.running hstate
    refine ⟨?_, ?_⟩
    · rintro (_ | ⟨_, hmem⟩)
      · exact hend rfl
      · exact hnotEnded hmem
    · rintro ⟨other, hother, hislast⟩
      rcases List.mem_cons.mp hother with rfl | hother
      · exact hlast hislast
      · exact hnotLast ⟨other, hother, hislast⟩

/-- The state changes only as long as the object is not terminated, or to that. -/
theorem setState (h : notifier.Sound) {state : NotifierState}
    (hstate : notifier.state ≠ .terminated ∨ state = .terminated) : (notifier.setState state).Sound := by
  rw [Notifier.setState]
  split_ifs with hsame
  · exact h
  · have hchanged : Sound { notifier with state := state } :=
      ⟨⟨h.didEnd, h.truthful, h.lastNotify⟩, fun hafter =>
        h.running (hstate.resolve_right hafter)⟩
    refine hchanged.post ?_ (by simp)
    exact id

theorem getUa (h : notifier.Sound) : notifier.getUa.Sound := by
  rw [Notifier.getUa]
  split_ifs
  · exact h
  · exact h.release.setState (.inr rfl)

theorem answered (h : notifier.Sound) : notifier.answered.Sound := by
  have hposted : (notifier.post .answered).Sound := h.post id (by simp)
  rw [Notifier.answered]
  split_ifs
  · exact hposted.release
  · exact hposted

theorem sendInitialResponse (h : notifier.Sound) (response : Sending) :
    (notifier.sendInitialResponse response).1.Sound := by
  match response with
  | .failed => exact h
  | .sent true => exact h.answered
  | .sent false => exact h

theorem postEnd (h : notifier.Sound) (hstate : notifier.state = .terminated)
    (hend : .didEnd ∉ notifier.events) : (notifier.post .didEnd).Sound := by
  refine ⟨⟨?_, ?_, ?_⟩, fun hrunning => absurd hstate hrunning⟩
  · have hcount := List.count_eq_zero_of_not_mem hend
    rw [Notifier.post, List.count_cons_self]
    omega
  · intro other hother
    rcases List.mem_cons.mp hother with rfl | hother
    · trivial
    · exact h.truthful other hother
  · exact ⟨False.elim, h.lastNotify⟩

theorem sendNotify (h : notifier.Sound) {sent : Bool} (hmay : notifier.MayNotify sent)
    (reason : Option String) (body : Option NotifyBody) :
    (notifier.sendNotify reason body sent).1.Sound := by
  cases sent with
  | false => exact h
  | true =>
      obtain ⟨hincoming, hlast⟩ := hmay rfl
      refine ⟨⟨?_, ?_, ?_⟩, fun hstate => ⟨?_, ?_⟩⟩
      · rw [Notifier.sendNotify, if_pos rfl, Notifier.post, List.count_cons_of_ne (by simp)]
        exact h.didEnd
      · intro other hother
        rcases List.mem_cons.mp hother with rfl | hother
        · cases hcase : notifier.state with
          | incoming => exact absurd hcase hincoming
          | _ => simp [NotifierEvent.Truthful, subscriptionState, hcase]
        · exact h.truthful other hother
      · exact ⟨fun _ other hother hislast => hlast ⟨other, hother, hislast⟩, h.lastNotify⟩
      · rintro (_ | ⟨_, hmem⟩)
        exact (h.running hstate).1 hmem
      · rintro ⟨other, hother, hislast⟩
        rcases List.mem_cons.mp hother with rfl | hother
        · have hrunning : notifier.state ≠ .terminated := hstate
          cases hcase : notifier.state <;>
            simp_all [NotifierEvent.IsLastNotify, subscriptionState]
        · exact hlast ⟨other, hother, hislast⟩

end Sound

/-! ### Ending -/

theorem lastNotifySent_post {notifier : Notifier} {event : NotifierEvent}
    (hlast : ¬ event.IsLastNotify) :
    (notifier.post event).LastNotifySent ↔ notifier.LastNotifySent := by
  constructor
  · rintro ⟨other, hother, hislast⟩
    rcases List.mem_cons.mp hother with rfl | hother
    · exact absurd hislast hlast
    · exact ⟨other, hother, hislast⟩
  · rintro ⟨other, hother, hislast⟩
    exact ⟨other, List.mem_cons_of_mem _ hother, hislast⟩

theorem mayEnd_post {notifier : Notifier} {sent : Bool} (h : notifier.MayEnd sent)
    {event : NotifierEvent} (hlast : ¬ event.IsLastNotify) (hend : event ≠ .didEnd) :
    (notifier.post event).MayEnd sent := by
  refine ⟨?_, fun hsent => (lastNotifySent_post hlast).not.mpr (h.2 hsent)⟩
  rintro (_ | ⟨_, hmem⟩)
  · exact hend rfl
  · exact h.1 hmem

theorem mayNotify_post {notifier : Notifier} {sent : Bool} (h : notifier.MayNotify sent)
    {event : NotifierEvent} (hlast : ¬ event.IsLastNotify) :
    (notifier.post event).MayNotify sent := fun hsent =>
  ⟨(h hsent).1, (lastNotifySent_post hlast).not.mpr (h hsent).2⟩

theorem mayEnd_setState {notifier : Notifier} {sent : Bool} (h : notifier.MayEnd sent)
    (state : NotifierState) : (notifier.setState state).MayEnd sent := by
  rw [setState]
  split_ifs
  · exact h
  · refine mayEnd_post ?_ ?_ (by simp)
    · exact h
    · exact id

theorem state_setState (notifier : Notifier) (state : NotifierState) :
    (notifier.setState state).state = state := by
  rw [setState]
  split_ifs with hsame
  · exact hsame
  · rfl

theorem state_sendNotify (notifier : Notifier) (reason : Option String) (body : Option NotifyBody)
    (sent : Bool) : (notifier.sendNotify reason body sent).1.state = notifier.state := by
  cases sent <;> rfl

theorem didEnd_sendNotify {notifier : Notifier} (h : .didEnd ∉ notifier.events)
    (reason : Option String) (body : Option NotifyBody) (sent : Bool) :
    .didEnd ∉ (notifier.sendNotify reason body sent).1.events := by
  cases sent with
  | false => exact h
  | true =>
      rintro (_ | ⟨_, hmem⟩)
      exact h hmem

/-- The terminated object and the NOTIFY that says so. -/
theorem sound_terminated {notifier : Notifier} (h : notifier.Sound) {sent : Bool}
    (hmay : notifier.MayEnd sent) (reason : Option String) (body : Option NotifyBody) :
    let notified := ((notifier.setState .terminated).sendNotify reason body sent).1
    notified.Sound ∧ notified.state = .terminated ∧ .didEnd ∉ notified.events := by
  have hstate := state_setState notifier .terminated
  have hafter := mayEnd_setState hmay .terminated
  refine ⟨?_, ?_, ?_⟩
  · refine (h.setState (.inr rfl)).sendNotify (fun hsent => ⟨?_, hafter.2 hsent⟩) reason body
    simp [hstate]
  · rw [state_sendNotify, hstate]
  · exact didEnd_sendNotify hafter.1 reason body sent

theorem Sound.rejected {notifier : Notifier} (h : notifier.Sound)
    (hstate : notifier.state ≠ .terminated) : notifier.rejected.Sound := by
  refine (h.release.setState (.inr rfl)).postEnd (state_setState _ _) ?_
  exact (mayEnd_setState (h.release.mayEnd hstate false) .terminated).1

theorem state_sendInitialResponse (notifier : Notifier) (response : Sending) :
    (notifier.sendInitialResponse response).1.state = notifier.state := by
  match response with
  | .failed => rfl
  | .sent false => rfl
  | .sent true =>
      change notifier.answered.state = notifier.state
      rw [answered]
      split_ifs <;> rfl

theorem Sound.reject {notifier : Notifier} (h : notifier.Sound) (code : Nat) (response : Sending) :
    (notifier.reject code response).1.Sound := by
  have hua := h.getUa
  rw [Notifier.reject]
  split_ifs with hengine hstate hcode
  · exact hua
  · exact hua
  · have hsound := hua.sendInitialResponse response
    have hafter := state_sendInitialResponse notifier.getUa response
    split
    · rename_i heq
      rw [heq] at hsound
      exact hsound
    · rename_i heq
      rw [heq] at hsound hafter
      refine hsound.rejected ?_
      rw [hafter, not_not.mp hstate]
      simp
  · exact hua

/-- The object may take a callback as the source handles it. -/
def Admits (notifier : Notifier) (sent : Bool) : NotifierCallback → Prop
  | .rxRefresh expires =>
      if expires = some 0 then notifier.MayEnd sent else notifier.MayNotify sent
  | .serverTimeout => notifier.MayEnd sent
  | .answered => True
  | .notifyResult result => result.isFatal = true → notifier.MayEnd sent

theorem Sound.postResult {notifier : Notifier} (h : notifier.Sound) (result : NotifyResult) :
    (result.events.foldl Notifier.post notifier).Sound := by
  have hsucceed : (notifier.post .notifyDidSucceed).Sound := h.post id (by simp)
  have hfail : (notifier.post .notifyDidFail).Sound := h.post id (by simp)
  cases result <;>
  · rw [NotifyResult.events]
    split_ifs
    · first | exact hsucceed | exact hfail
    · first | exact hfail | exact h

theorem mayEnd_postResult {notifier : Notifier} {sent : Bool} (h : notifier.MayEnd sent)
    (result : NotifyResult) : (result.events.foldl post notifier).MayEnd sent := by
  have hsucceed : (notifier.post .notifyDidSucceed).MayEnd sent := mayEnd_post h id (by simp)
  have hfail : (notifier.post .notifyDidFail).MayEnd sent := mayEnd_post h id (by simp)
  cases result <;>
  · rw [NotifyResult.events]
    split_ifs
    · first | exact hsucceed | exact hfail
    · first | exact hfail | exact h

/-! ### What is terminated -/

theorem terminated_getUa {notifier : Notifier} (h : notifier.state = .terminated) :
    notifier.getUa.state = .terminated := by
  rw [getUa]
  split_ifs
  · exact h
  · exact state_setState _ _

theorem terminated_reject {notifier : Notifier} (h : notifier.state = .terminated) (code : Nat)
    (response : Sending) : (notifier.reject code response).1.state = .terminated := by
  have hua := terminated_getUa h
  rw [reject]
  split_ifs with hengine hstate
  · exact hua
  · exact hua
  · cases hua.symm.trans (not_not.mp hstate)
  · exact hua

theorem terminated_answered {notifier : Notifier} (h : notifier.state = .terminated) :
    notifier.answered.state = .terminated := by
  rw [answered]
  split_ifs <;> exact h

theorem state_postResult (notifier : Notifier) (result : NotifyResult) :
    (result.events.foldl post notifier).state = notifier.state := by
  cases result <;>
  · rw [NotifyResult.events]
    split_ifs <;> rfl

end Notifier

/-! ### Incoming subscriptions -/

namespace IncomingSubscription

variable {subscription : IncomingSubscription} {sent : Bool}

theorem sound_sendNotify (h : subscription.Sound) (hmay : subscription.MayNotify sent)
    (reason : Option String) : (subscription.sendNotify reason sent).1.Sound :=
  h.sendNotify hmay reason _

theorem sound_terminate (h : subscription.Sound) (hmay : subscription.MayEnd sent)
    (reason : Option String) (doCleanup : Bool) :
    (subscription.terminate reason doCleanup sent).Sound := by
  obtain ⟨hsound, hstate, hend⟩ := Notifier.sound_terminated h hmay reason
    (if (subscription.toNotifier.setState .terminated).state = .active then subscription.content
      else none)
  cases doCleanup with
  | true => exact hsound.release.postEnd hstate hend
  | false => exact hsound.postEnd hstate hend

theorem sound_accepted (h : subscription.Sound) (hstate : subscription.state ≠ .terminated)
    {state : NotifierState} (hincoming : state ≠ .incoming) (hrunning : state ≠ .terminated) :
    (subscription.accepted state sent).1.Sound := by
  have hset : (subscription.toNotifier.setState state).Sound := h.setState (.inl hstate)
  have hrunning' : (subscription.toNotifier.setState state).state ≠ .terminated := by
    rwa [Notifier.state_setState]
  have hincoming' : (subscription.toNotifier.setState state).state ≠ .incoming := by
    rwa [Notifier.state_setState]
  rw [accepted]
  split_ifs
  · exact sound_sendNotify hset (hset.mayNotify hrunning' hincoming' sent) none
  · exact sound_terminate hset (hset.mayEnd hrunning' sent) _ _

/-- The answer to the request, and what follows it. -/
theorem sound_response (subscription : IncomingSubscription) (h : subscription.Sound) (hstate : subscription.state = .incoming)
    (response : Sending) {state : NotifierState} (hincoming : state ≠ .incoming)
    (hrunning : state ≠ .terminated) :
    (match subscription.sendInitialResponse response with
      | (notifier, some error) => ({ subscription with toNotifier := notifier }, some error)
      | (notifier, none) => accepted { subscription with toNotifier := notifier } state sent).1.Sound := by
  have hsound := h.sendInitialResponse response
  have hafter := Notifier.state_sendInitialResponse subscription.toNotifier response
  split
  · rename_i heq
    rw [heq] at hsound
    exact hsound
  · rename_i heq
    rw [heq] at hsound hafter
    refine sound_accepted hsound ?_ hincoming hrunning
    rw [hafter, hstate]
    simp

theorem sound_acceptPending (h : subscription.Sound) (response : Sending) :
    (subscription.acceptPending response sent).1.Sound := by
  have hua : subscription.toNotifier.getUa.Sound := h.getUa
  rw [acceptPending]
  split_ifs with hengine hstate
  · exact hua
  · exact hua
  · exact sound_response { subscription with toNotifier := subscription.getUa } hua
      (not_not.mp hstate) response (by simp) (by simp)

theorem sound_accept (h : subscription.Sound) (contentType content : Option String)
    (response : Sending) : (subscription.accept contentType content response sent).1.Sound := by
  have hua : subscription.toNotifier.getUa.Sound := h.getUa
  rw [accept]
  split_ifs with hengine hstate
  · exact hua
  · exact hua
  · split
    · exact hua
    · rename_i body hbody
      dsimp only
      split_ifs with hincoming
      · exact sound_response ⟨subscription.getUa, subscription.expires, body⟩ hua hincoming response
          (by simp) (by simp)
      · have hpending : subscription.toNotifier.getUa.state = .pending := by
          simpa [hincoming] using hstate
        exact sound_accepted hua (by simp [hpending]) (by simp) (by simp)

theorem sound_pushContent (h : subscription.Sound) (contentType content : String) :
    (subscription.pushContent contentType content sent).1.Sound := by
  have hua : subscription.toNotifier.getUa.Sound := h.getUa
  rw [pushContent]
  split_ifs with hengine hstate
  · exact hua
  · exact hua
  · split
    · exact hua
    · have hactive : subscription.toNotifier.getUa.state = .active := not_not.mp hstate
      exact sound_sendNotify hua (hua.mayNotify (by simp [hactive]) (by simp [hactive]) sent) none

theorem sound_finish (h : subscription.Sound) (reason : Option String) :
    (subscription.finish reason sent).1.Sound := by
  have hua : subscription.toNotifier.getUa.Sound := h.getUa
  rw [finish]
  split_ifs with hterminated hincoming
  · exact hua
  · exact hua
  · exact sound_terminate hua (hua.mayEnd hterminated sent) _ _

theorem sound_callback (h : subscription.Sound) {callback : NotifierCallback}
    (hadmits : subscription.Admits sent callback) : (subscription.callback sent callback).Sound := by
  cases callback with
  | rxRefresh expires =>
      change (subscription.cbRxRefresh expires sent).Sound
      rw [cbRxRefresh]
      rw [Notifier.Admits] at hadmits
      split_ifs at hadmits ⊢ with hzero
      · refine sound_terminate ?_ (Notifier.mayEnd_post hadmits id (by simp)) _ _
        exact h.post id (by simp)
      · have hposted : (subscription.post .gotRefreshingSubscribe).Sound := h.post id (by simp)
        have hmay : (subscription.post .gotRefreshingSubscribe).MayNotify sent :=
          Notifier.mayNotify_post hadmits id
        dsimp only
        cases sent with
        | true => exact hposted.sendNotify hmay none _
        | false => exact hposted.post id (by simp)
  | serverTimeout =>
      refine sound_terminate ?_ (Notifier.mayEnd_post hadmits id (by simp)) _ _
      exact h.post id (by simp)
  | answered => exact h.answered
  | notifyResult result =>
      have hposted : (result.events.foldl Notifier.post subscription.toNotifier).Sound :=
        h.postResult result
      change (subscription.cbTsx result sent).Sound
      rw [cbTsx]
      split_ifs with hfatal
      · exact sound_terminate hposted (Notifier.mayEnd_postResult (hadmits hfatal) result) _ _
      · exact hposted

/-- The condition on a step: a callback that reaches the object finds it as the source expects it. -/
def Expected (subscription : IncomingSubscription) : SubscriptionInput → Prop
  | .callback callback sent =>
      subscription.engine ∧ subscription.obj → subscription.Admits sent callback
  | _ => True

theorem sound_step (h : subscription.Sound) {input : SubscriptionInput}
    (hexpected : subscription.Expected input) : (subscription.step input).Sound := by
  cases input with
  | stopEngine => exact h.of_eq rfl rfl
  | acceptPending response sent => exact sound_acceptPending h response
  | accept contentType content response sent => exact sound_accept h contentType content response
  | reject code response => exact h.reject code response
  | pushContent contentType content sent => exact sound_pushContent h contentType content
  | finish reason sent => exact sound_finish h reason
  | callback callback sent =>
      rw [step]
      split_ifs with hreaches
      · exact sound_callback h (hexpected hreaches)
      · exact h

theorem sound_new (expires : Int) : (new expires).Sound :=
  ⟨⟨by simp [new], by simp [new], trivial⟩, fun _ => ⟨by simp [new], by simp [new, Notifier.LastNotifySent]⟩⟩

theorem terminated_terminate (subscription : IncomingSubscription) (reason : Option String)
    (doCleanup sent : Bool) : (subscription.terminate reason doCleanup sent).state = .terminated := by
  have hstate := Notifier.state_setState subscription.toNotifier .terminated
  cases doCleanup <;> cases sent <;> exact hstate

/-- Nothing brings back what is terminated. -/
theorem terminated_step (h : subscription.state = .terminated) (input : SubscriptionInput) :
    (subscription.step input).state = .terminated := by
  have hua : subscription.toNotifier.getUa.state = .terminated := Notifier.terminated_getUa h
  cases input with
  | stopEngine => exact h
  | reject code response => exact Notifier.terminated_reject h code response
  | acceptPending response sent =>
      rw [step, acceptPending]
      split_ifs with hengine hstate
      · exact hua
      · exact hua
      · cases hua.symm.trans (not_not.mp hstate)
  | accept contentType content response sent =>
      rw [step, accept]
      split_ifs with hengine hstate
      · exact hua
      · exact hua
      · simp [hua] at hstate
  | pushContent contentType content sent =>
      rw [step, pushContent]
      split_ifs with hengine hstate
      · exact hua
      · exact hua
      · cases hua.symm.trans (not_not.mp hstate)
  | finish reason sent =>
      rw [step, finish, if_pos hua]
      exact hua
  | callback callback sent =>
      rw [step]
      split_ifs
      · cases callback with
        | rxRefresh expires =>
            change (subscription.cbRxRefresh expires sent).state = .terminated
            rw [cbRxRefresh]
            split_ifs
            · exact terminated_terminate _ _ _ _
            · cases sent <;> exact h
        | serverTimeout => exact terminated_terminate _ _ _ _
        | answered => exact Notifier.terminated_answered h
        | notifyResult result =>
            change (subscription.cbTsx result sent).state = .terminated
            rw [cbTsx]
            split_ifs
            · exact terminated_terminate _ _ _ _
            · exact (Notifier.state_postResult _ result).trans h
      · exact h

end IncomingSubscription

/-! ### Incoming referrals -/

namespace IncomingReferral

variable {referral : IncomingReferral} {sent : Bool} {statusMessages : Nat → String}

theorem sound_sendNotify (h : referral.Sound) (hmay : referral.MayNotify sent) :
    (referral.sendNotify sent).1.Sound := h.sendNotify hmay _ _

/-- The usage keeps its reference to the object if the NOTIFY cannot be sent. -/
theorem sound_terminate (h : referral.Sound) (hmay : referral.MayEnd sent) (doCleanup : Bool) :
    (referral.terminate doCleanup sent).1.Sound := by
  obtain ⟨hsound, hstate, hend⟩ := Notifier.sound_terminated h hmay (some "noresource")
    (if (referral.toNotifier.setState .terminated).state = .active ∨
        (referral.toNotifier.setState .terminated).state = .terminated then
      referral.content.map fun content => ⟨"message", "sipfrag", content⟩ else none)
  cases sent with
  | false => exact hsound
  | true =>
      cases doCleanup with
      | true => exact hsound.release.postEnd hstate hend
      | false => exact hsound.postEnd hstate hend

theorem sound_accept (h : referral.Sound) (response : Sending) :
    (referral.accept statusMessages response sent).1.Sound := by
  have hua : referral.toNotifier.getUa.Sound := h.getUa
  have hsound := hua.sendInitialResponse response
  have hafter := Notifier.state_sendInitialResponse referral.toNotifier.getUa response
  rw [accept]
  split_ifs with hengine hstate
  · exact hua
  · exact hua
  · have hincoming : referral.toNotifier.getUa.state = .incoming := not_not.mp hstate
    dsimp only
    split
    · rename_i heq
      rw [heq] at hsound
      exact hsound
    · rename_i notifier heq
      rw [heq] at hsound hafter
      have hnot : notifier.state ≠ .terminated := by
        rw [hafter, hincoming]
        simp
      have hactive : (notifier.setState .active).Sound := hsound.setState (.inl hnot)
      have hstate : (notifier.setState .active).state = .active := Notifier.state_setState _ _
      split_ifs
      · exact sound_sendNotify hactive (hactive.mayNotify (by simp [hstate]) (by simp [hstate]) sent)
      · exact hactive.rejected (by simp [hstate])

theorem sound_notify (h : referral.Sound) (code : Nat) (status : Option String) :
    (referral.notify statusMessages code status sent).1.Sound := by
  have hua : referral.toNotifier.getUa.Sound := h.getUa
  rw [notify]
  split_ifs with hengine hstate
  · exact hua
  · exact hua
  · have hactive : referral.toNotifier.getUa.state = .active := not_not.mp hstate
    exact sound_sendNotify hua (hua.mayNotify (by simp [hactive]) (by simp [hactive]) sent)

theorem sound_finish (h : referral.Sound) (code : Nat) (status : Option String) :
    (referral.finish statusMessages code status sent).1.Sound := by
  have hua : referral.toNotifier.getUa.Sound := h.getUa
  rw [finish]
  split_ifs with hterminated hincoming
  · exact hua
  · exact hua
  · exact sound_terminate hua (hua.mayEnd hterminated sent) true

theorem sound_callback (h : referral.Sound) {callback : NotifierCallback}
    (hadmits : referral.Admits sent callback) : (referral.callback sent callback).Sound := by
  cases callback with
  | rxRefresh expires =>
      change (referral.cbRxRefresh expires sent).Sound
      rw [cbRxRefresh]
      rw [Notifier.Admits] at hadmits
      split_ifs at hadmits ⊢ with hzero
      · refine sound_terminate ?_ (Notifier.mayEnd_post hadmits id (by simp)) _
        exact h.post id (by simp)
      · refine sound_sendNotify ?_ (Notifier.mayNotify_post hadmits id)
        exact h.post id (by simp)
  | serverTimeout => exact sound_terminate h hadmits true
  | answered => exact h.answered
  | notifyResult result =>
      have hposted : (result.events.foldl Notifier.post referral.toNotifier).Sound :=
        h.postResult result
      change (referral.cbTsx result sent).Sound
      rw [cbTsx]
      split_ifs with hfatal
      · exact sound_terminate hposted (Notifier.mayEnd_postResult (hadmits hfatal) result) true
      · exact hposted

def Expected (referral : IncomingReferral) : ReferralInput → Prop
  | .callback callback sent => referral.engine ∧ referral.obj → referral.Admits sent callback
  | _ => True

theorem sound_step (h : referral.Sound) {input : ReferralInput} (hexpected : referral.Expected input) :
    (referral.step statusMessages input).Sound := by
  cases input with
  | stopEngine => exact h.of_eq rfl rfl
  | accept response sent => exact sound_accept h response
  | reject code response => exact h.reject code response
  | notify code status sent => exact sound_notify h code status
  | finish code status sent => exact sound_finish h code status
  | callback callback sent =>
      rw [step]
      split_ifs with hreaches
      · exact sound_callback h (hexpected hreaches)
      · exact h

theorem sound_new (createSubscription : Bool) : (new createSubscription).Sound :=
  ⟨⟨by simp [new], by simp [new], trivial⟩, fun _ => ⟨by simp [new], by simp [new, Notifier.LastNotifySent]⟩⟩

theorem terminated_terminate (referral : IncomingReferral) (doCleanup sent : Bool) :
    (referral.terminate doCleanup sent).1.state = .terminated := by
  have hstate := Notifier.state_setState referral.toNotifier .terminated
  cases doCleanup <;> cases sent <;> exact hstate

theorem terminated_step (h : referral.state = .terminated) (input : ReferralInput) :
    (referral.step statusMessages input).state = .terminated := by
  have hua : referral.toNotifier.getUa.state = .terminated := Notifier.terminated_getUa h
  cases input with
  | stopEngine => exact h
  | reject code response => exact Notifier.terminated_reject h code response
  | accept response sent =>
      rw [step, accept]
      split_ifs with hengine hstate
      · exact hua
      · exact hua
      · cases hua.symm.trans (not_not.mp hstate)
  | notify code status sent =>
      rw [step, notify]
      split_ifs with hengine hstate
      · exact hua
      · exact hua
      · cases hua.symm.trans (not_not.mp hstate)
  | finish code status sent =>
      rw [step, finish, if_pos hua]
      exact hua
  | callback callback sent =>
      rw [step]
      split_ifs
      · cases callback with
        | rxRefresh expires =>
            change (referral.cbRxRefresh expires sent).state = .terminated
            rw [cbRxRefresh]
            split_ifs
            · exact terminated_terminate _ _ _
            · cases sent <;> exact h
        | serverTimeout => exact terminated_terminate _ _ _
        | answered => exact Notifier.terminated_answered h
        | notifyResult result =>
            change (referral.cbTsx result sent).state = .terminated
            rw [cbTsx]
            split_ifs
            · exact terminated_terminate _ _ _
            · exact (Notifier.state_postResult _ result).trans h
      · exact h

end IncomingReferral

/-! ### Runs -/

open Runs (run Meets)

/-- **The life cycle of incoming subscriptions and referrals**, in runs where every callback that reaches
the object is expected. That nothing brings back a terminated object holds in every run. -/
theorem notifier_lifecycle (statusMessages : Nat → String) (expires : Int)
    (createSubscription : Bool) :
    (∀ inputs, Meets IncomingSubscription.step IncomingSubscription.Expected (.new expires) inputs →
      (run IncomingSubscription.step (.new expires) inputs).Lifecycle) ∧
    (∀ inputs, Meets (IncomingReferral.step statusMessages) IncomingReferral.Expected
        (.new createSubscription) inputs →
      (run (IncomingReferral.step statusMessages) (.new createSubscription) inputs).Lifecycle) ∧
    (∀ inputs more, (run IncomingSubscription.step (.new expires) inputs).state = .terminated →
      (run IncomingSubscription.step (.new expires) (inputs ++ more)).state = .terminated) ∧
    ∀ inputs more, (run (IncomingReferral.step statusMessages) (.new createSubscription) inputs).state =
        .terminated →
      (run (IncomingReferral.step statusMessages) (.new createSubscription) (inputs ++ more)).state =
        .terminated := by
  refine ⟨fun inputs hmeets => ?_, fun inputs hmeets => ?_, fun inputs more hstate => ?_,
    fun inputs more hstate => ?_⟩
  · have hsound := Runs.invariant_run (fun subscription : IncomingSubscription => subscription.Sound)
      (fun _ _ h hexpected => IncomingSubscription.sound_step h hexpected)
      (IncomingSubscription.sound_new expires) hmeets
    exact hsound.toLifecycle
  · have hsound := Runs.invariant_run (fun referral : IncomingReferral => referral.Sound)
      (fun _ _ h hexpected => IncomingReferral.sound_step h hexpected)
      (IncomingReferral.sound_new createSubscription) hmeets
    exact hsound.toLifecycle
  · rw [Runs.run_append]
    exact Runs.always_run (fun subscription : IncomingSubscription => subscription.state = .terminated)
      (fun _ input h => IncomingSubscription.terminated_step h input) hstate more
  · rw [Runs.run_append]
    exact Runs.always_run (fun referral : IncomingReferral => referral.state = .terminated)
      (fun _ input h => IncomingReferral.terminated_step h input) hstate more

/-- A refresh before the subscription is accepted; a subscription with no duration whose last NOTIFY is
refused; and a referral whose subscriber unsubscribes and refuses the last NOTIFY. -/
theorem not_notifier_lifecycle :
    ¬ (run IncomingSubscription.step (.new 600)
      [.callback (.rxRefresh (some 600)) true]).Lifecycle ∧
    ¬ (run IncomingSubscription.step (.new 0)
      [.accept none none (.sent true) true,
        .callback (.notifyResult (.completed true 481)) true]).Lifecycle ∧
    ¬ (run (IncomingReferral.step fun _ => "") (.new true)
      [.accept (.sent true) true, .callback (.rxRefresh (some 0)) true,
        .callback (.notifyResult (.completed true 481)) true]).Lifecycle := by
  refine ⟨fun h => ?_, fun h => ?_, fun h => ?_⟩
  · have htruthful := h.truthful (.sentNotify .terminated none none .incoming) (by decide)
    cases htruthful
  · exact absurd h.didEnd (by decide)
  · exact absurd h.didEnd (by decide)

/-- A subscription that is accepted, refreshed and ended by the other side. -/
theorem notifier_lifecycle_unsubscribed :
    (run IncomingSubscription.step (.new 600)
      [.accept none none (.sent true) true, .callback (.rxRefresh (some 600)) true,
        .callback (.rxRefresh (some 0)) true, .callback .answered true]).Lifecycle := by
  refine (notifier_lifecycle (fun _ => "") 600 true).1 _ ?_
  refine ⟨trivial, fun _ _ => ⟨by decide, by decide⟩, fun _ => ⟨by decide, fun _ => by decide⟩,
    fun _ => trivial, trivial⟩

end SipSimple.Core
