import SipSimple.Library.Runs
import SipSimple.Account.Registration
import SipSimple.Account.Publication
import SipSimple.Account.RequestLoopRules

/-!
# The command loops survive the answers

A loop survives when no exception has ended it, a handler that waits has its answer coming, and a command that
has failed leaves nothing held and a timer. Four things break it. A PUBLISH that is answered with 423 ends the
loop of a publisher, because the notification has no `min_expires`. A lookup may raise a `ValueError`, for a port
or an address that no route can have. A registrar reads the contacts of a success
with methods of strings, which a parameter without a value and a port above 65535 do not survive. And the news
of an expiry that crosses with the next request shifts all answers after it.
-/

namespace SipSimple.Account

open SipSimple.Core

namespace RequestLoop

variable {Env Request Etag Success Saved Payload Call : Type}
  {kind : RequestKind Env Request Etag Success Saved Payload}
  {loop : RequestLoop Request Etag Success Saved Payload Call}

/-- A handler that waits has a request in flight, or an answer in the channel or on its way. -/
def AnswerComing (loop : RequestLoop Request Etag Success Saved Payload Call) : Prop :=
  (∃ id holder request, loop.holder = some (id, holder) ∧ holder.currentRequest = some request ∧
    request ∈ loop.wire) ∨ loop.dataChannel ++ loop.inTransit ≠ []

/-- After a failed command nothing is held, and a timer is set unless the command was to give up what is held. -/
def Reported (loop : RequestLoop Request Etag Success Saved Payload Call) : Prop :=
  (loop.failed = some .acquire → loop.held = false ∧ loop.timer.isSome) ∧
    (loop.failed = some .release → loop.held = false)

structure Survives (loop : RequestLoop Request Etag Success Saved Payload Call) : Prop where
  alive : loop.phase ≠ .dead
  answered : (∃ payload event routes, loop.phase = .awaiting payload event routes) ∨
    (∃ event terminate, loop.phase = .releasing event terminate) → loop.AnswerComing
  reported : loop.Reported

theorem Answering.coming {held : Bool} {holder : RequestHolder Request Etag}
    {inbox : List (RequestAnswer Success)} (h : Answering held holder inbox) :
    (∃ request, holder.currentRequest = some request) ∨ inbox ≠ [] := by
  cases h with
  | pending hcurrent => exact .inl ⟨_, hcurrent⟩
  | _ => exact .inr (List.cons_ne_nil _ _)

theorem Ending.coming {holder : RequestHolder Request Etag} {inbox : List (RequestAnswer Success)}
    (h : Ending holder inbox) : (∃ request, holder.currentRequest = some request) ∨ inbox ≠ [] := by
  cases h with
  | pending hcurrent => exact .inl ⟨_, hcurrent⟩
  | _ => exact .inr (List.cons_ne_nil _ _)

theorem Books.coming {hand : List Nat} {id : Nat} {holder : RequestHolder Request Etag}
    (h : Books kind loop hand) (hholder : loop.holder = some (id, holder))
    (hcoming : (∃ request, holder.currentRequest = some request) ∨ loop.dataChannel ++ loop.inTransit ≠ []) :
    loop.AnswerComing := by
  rcases hcoming with ⟨request, hcurrent⟩ | hinbox
  · exact .inl ⟨id, holder, request, hholder, hcurrent, (h.holder id holder hholder).2 request hcurrent⟩
  · exact .inr hinbox

theorem Sound.alive (h : Sound kind loop) : loop.phase ≠ .dead := by
  intro hdead
  have htable := h.table
  rw [hdead] at htable
  cases hholder : loop.holder <;> rw [hholder] at htable <;> exact htable

theorem Sound.survives (h : Sound kind loop) (hreported : loop.Reported) : loop.Survives where
  alive := h.alive
  answered := by
    rintro (⟨payload, event, routes, hphase⟩ | ⟨event, terminate, hphase⟩)
    · obtain ⟨hbooks, id, holder, hholder, hanswering⟩ := h.awaiting hphase
      exact hbooks.coming hholder hanswering.coming
    · obtain ⟨hbooks, -, id, holder, hholder, hending⟩ := h.releasing hphase
      exact hbooks.coming hholder hending.coming
  reported := hreported

theorem Sound.giveUp (h : Sound kind loop) : Sound kind loop.giveUp := by
  unfold RequestLoop.giveUp
  split
  next => exact h
  next timer htimer =>
    split
    · exact h
    · refine h.congr (fun hand hbooks => ?_) rfl rfl rfl rfl rfl
      have htally : ∀ other, ({ loop with
          timer := none, signalled := timer.event :: loop.signalled } :
          RequestLoop Request Etag Success Saved Payload Call).tally hand other = loop.tally hand other := by
        intro other
        simp only [tally, htimer, Option.toList_none, Option.toList_some, List.map_cons, List.map_nil,
          List.count_cons, List.count_nil]
        omega
      refine ⟨fun other => ?_, fun other hother => ?_, hbooks.senders, hbooks.holder, by simp,
        hbooks.failures⟩
      · rw [htally]
        exact hbooks.events other
      · rw [htally]
        exact hbooks.fresh other hother

/-! ### What a handler reports -/

theorem reported_of_none (hfailed : loop.failed = none) : loop.Reported := by
  constructor <;> simp [hfailed]

theorem reported_signal (h : loop.Reported) (event : Nat) : (loop.signal event).Reported := by
  rw [RequestLoop.signal]
  split <;> exact h

theorem reported_succeed (hfailed : loop.failed = none) (event : Nat) (saved : Saved) :
    (loop.succeed event saved).Reported := by
  apply reported_signal
  exact reported_of_none hfailed

theorem reported_released (h : loop.Reported) (event : Nat) (terminate : Bool) :
    (loop.released event terminate).Reported := by
  apply reported_signal
  exact h

theorem reported_fail (event : Nat) (error : LoopError) : (loop.fail event error).Reported :=
  ⟨fun _ => ⟨rfl, rfl⟩, fun _ => rfl⟩

/-- A handler that starts with nothing to report reports its own failure. -/
theorem reporting : HandlerRule (fun loop : RequestLoop Request Etag Success Saved Payload Call =>
    loop.failed = none) Reported where
  read := fun _ hfailed => hfailed
  waits := fun _ _ _ hfailed => hfailed
  transmit := fun _ _ _ _ hfailed => hfailed
  notTransmitted := fun _ _ hfailed => hfailed
  fail := fun event error _ => reported_fail event error
  die := fun _ hfailed => reported_of_none hfailed
  block := fun _ _ _ hfailed _ => reported_of_none hfailed
  succeed := fun event saved hfailed _ => reported_succeed hfailed event saved
  leave := by
    intro loop event hfailed _
    apply reported_signal
    exact reported_of_none hfailed

theorem reported_awaitEnd {event : Nat} {terminate : Bool} {channel : List (RequestAnswer Success)}
    (hfailed : loop.failed = none) (hheld : loop.held = false) :
    (loop.awaitEnd event terminate channel).Reported := by
  induction channel with
  | nil => exact reported_of_none hfailed
  | cons answer channel ih =>
      cases answer with
      | didSucceed data => exact ih
      | didEnd expired =>
          apply reported_released
          exact reported_of_none hfailed
      | didFail failure =>
          apply reported_released
          exact ⟨by simp, fun _ => hheld⟩
      | didNotEnd code reason =>
          apply reported_released
          exact ⟨by simp, fun _ => hheld⟩

theorem reported_release {sends terminate : Bool} {event : Nat} (hfailed : loop.failed = none) :
    (loop.release kind sends event terminate).Reported := by
  unfold RequestLoop.release
  split
  · apply reported_released
    exact reported_of_none hfailed
  · split
    · split
      · exact reported_awaitEnd hfailed rfl
      · split
        · exact reported_awaitEnd hfailed rfl
        · exact reported_awaitEnd hfailed rfl
    · apply reported_released
      exact reported_of_none hfailed

theorem reported_take {interval : Nat} {sends : Bool} (hfailed : loop.failed = none) :
    (loop.take kind interval sends).Reported := by
  unfold RequestLoop.take
  split
  · dsimp only
    split
    · unfold RequestLoop.acquire
      split
      · apply reported_signal
        exact reported_of_none hfailed
      · split <;> exact reported_of_none hfailed
    · exact reported_release hfailed
    · exact reported_release hfailed
  · exact reported_of_none hfailed

theorem reported_wake {env : Env} {sends : Route → Bool} (h : Sound kind loop)
    (hfailed : loop.failed = none) : (loop.wake kind env sends).Reported := by
  unfold RequestLoop.wake
  split
  next payload event routes hphase =>
    obtain ⟨-, id, holder, hholder, -⟩ := h.awaiting hphase
    apply reporting.readAnswer hfailed
    · rw [hholder]
      rfl
    · exact fun _ => reporting.tryRoutes hfailed
  next hphase => exact reported_awaitEnd hfailed (h.releasing hphase).2.1
  next => exact reported_of_none hfailed

/-! What is not a handler's own work reports nothing. -/

@[simp] theorem failed_enqueue (name : CommandName Payload) : (loop.enqueue name).failed = loop.failed := rfl

@[simp] theorem failed_spawn : loop.spawn.failed = loop.failed := rfl

@[simp] theorem failed_stop : loop.stop.failed = loop.failed := by
  unfold RequestLoop.stop
  split <;> rfl

@[simp] theorem failed_retry (payload : Payload) : (loop.retry payload).failed = loop.failed := by
  unfold RequestLoop.retry
  split <;> rfl

@[simp] theorem failed_giveUp : loop.giveUp.failed = loop.failed := by
  unfold RequestLoop.giveUp
  split
  · rfl
  · split <;> rfl

@[simp] theorem failed_deliver (sender : Nat) (answer : RequestAnswer Success) :
    (loop.deliver sender answer).failed = loop.failed := by
  unfold RequestLoop.deliver
  split <;> rfl

@[simp] theorem failed_answered [DecidableEq Request] (request : Request)
    (handle : RequestHolder Request Etag → RequestHolder Request Etag × List (RequestAnswer Success)) :
    (loop.answered request handle).failed = loop.failed := by
  unfold RequestLoop.answered
  split
  · split <;> rfl
  · rfl

@[simp] theorem failed_expired
    (handle : RequestHolder Request Etag → RequestHolder Request Etag × List (RequestAnswer Success)) :
    (loop.expired handle).failed = loop.failed := by
  unfold RequestLoop.expired
  split <;> rfl

@[simp] theorem failed_expiring [DecidableEq Request] (request : Request) :
    (loop.expiring request).failed = loop.failed := by
  unfold RequestLoop.expiring
  split
  · rfl
  · split <;> rfl

@[simp] theorem failed_challenged [DecidableEq Request] (request again : Request) :
    (loop.challenged request again).failed = loop.failed := by
  unfold RequestLoop.challenged
  split <;> rfl

/-- The condition on a lookup: it makes its routes, and if it finds some, no expiry is on its way. -/
def Clear (loop : RequestLoop Request Etag Success Saved Payload Call) (result : Except LookupError (List Route)) :
    Prop :=
  match loop.phase, result with
  | .lookup _ _, .ok _ => ¬ Crossing loop
  | .lookup _ _, .error .valueError => False
  | _, _ => True

instance (loop : RequestLoop Request Etag Success Saved Payload Call) (result : Except LookupError (List Route)) :
    Decidable (Clear loop result) := by
  unfold Clear
  split <;> infer_instance

instance (env : Env) (loop : RequestLoop Request Etag Success Saved Payload Call) :
    Decidable (Readable kind env loop) := by
  unfold Readable
  split <;> infer_instance

section Conditions

variable {result : Except LookupError (List Route)} {payload : Payload} {event : Nat}

theorem Clear.not_crossing (h : Clear loop result) {routes : List Route} (hphase : loop.phase = .lookup payload event)
    (hresult : result = .ok routes) : ¬ Crossing loop := by
  unfold Clear at h
  rw [hphase, hresult] at h
  exact h

theorem Clear.ne_valueError (h : Clear loop result) (hphase : loop.phase = .lookup payload event) :
    result ≠ .error .valueError := by
  rintro rfl
  unfold Clear at h
  rw [hphase] at h
  exact h

end Conditions

/-- The flag is set or cleared and a command sent: `activate`, `deactivate`. -/
theorem Sound.commanded (h : Sound kind loop) (active : Bool) (name : CommandName Payload) :
    Sound kind (if loop.started then { loop with active }.enqueue name else loop) := by
  split
  · exact (h.activated active).enqueue _
  · exact h

/-- Two commands are sent while the flag is set: `reregister`, `republish`. -/
theorem Sound.repeated (h : Sound kind loop) (first second : CommandName Payload) :
    Sound kind (if loop.active then (loop.enqueue first).enqueue second else loop) := by
  split
  · exact (h.enqueue _).enqueue _
  · exact h

/-- A change of the settings leaves the object alone, activates, deactivates or renews it. -/
theorem settings_rule {Object : Type} {motive : Object → Prop} {ignored enables renews : Prop} [Decidable ignored]
    [Decidable enables] [Decidable renews] {enabled : Bool} {self activated deactivated renewed : Object}
    (hself : motive self) (hactivated : motive activated) (hdeactivated : motive deactivated)
    (hrenewed : motive renewed) :
    motive (if ignored then self else if enables then (if enabled then activated else deactivated)
      else if renews then renewed else self) := by
  split_ifs <;> assumption

end RequestLoop

open RequestLoop

namespace Registrar

/-- The condition on an input of a registrar: a lookup makes its routes, when they are tried no expiry is on its way,
and a success that is read can be read. -/
def Careful (self : Registrar) : RegistrarInput → Prop
  | .lookedUp _ _ result => Clear self result
  | .wake env _ => Readable kind env self
  | _ => True

instance (self : Registrar) (input : RegistrarInput) : Decidable (Careful self input) := by
  unfold Careful
  split <;> infer_instance

variable {self : Registrar}

theorem sound_activate (h : Sound kind self) : Sound kind self.activate := h.commanded true _

theorem sound_deactivate (h : Sound kind self) : Sound kind self.deactivate := h.commanded false _

theorem sound_reregister (h : Sound kind self) : Sound kind self.reregister := h.repeated _ _

theorem sound_start (h : Sound kind self) (register : Bool) : Sound kind (self.start register) := by
  unfold start
  split
  next hoff =>
    have hspawn := h.spawn hoff.2
    split
    · exact sound_activate hspawn
    · exact hspawn
  next => exact h

theorem sound_settingsDidChange (h : Sound kind self) (modified : List String) (register : Bool) :
    Sound kind (self.settingsDidChange modified register) :=
  settings_rule h (sound_activate h) (sound_deactivate h) (sound_reregister h)

theorem sound_timer (h : Sound kind self) : Sound kind self.timer := by
  unfold timer
  split
  · exact h.retry ()
  · exact h.untimed

theorem sound_runCall (h : Sound kind self) : Sound kind self.runCall := by
  unfold runCall
  split
  next => exact h
  next sender answer reactor hreactor => exact h.deliver hreactor
  next sender reactor hreactor =>
    have hrun := h.run hreactor fun _ => rfl
    split
    · exact hrun.enqueue _
    · exact hrun

theorem verdict_ne_escape {failure : RequestFailure} (hfield : failure.minExpires.isSome) (env : RegistrarEnv) :
    verdict env failure ≠ .escape := by
  obtain ⟨minExpires, hminExpires⟩ := Option.isSome_iff_exists.mp hfield
  unfold verdict
  split_ifs
  · nofun
  · rw [hminExpires]
    nofun
  · nofun

theorem attempt_ne_escape (env : RegistrarEnv) (payload : Unit) (route : Route) (registration : Registration)
    (serial : Nat) : attempt env payload route registration serial ≠ .escape := by
  unfold attempt
  split
  · exact fun hescape => by cases hescape
  · exact fun hescape => by cases hescape

theorem sound_requestDidFail (h : Sound kind self) (request : RegisterRequest) (code : Nat) (reason : String)
    (minExpires : Option Nat) :
    Sound kind (self.answered request fun registration =>
      Registration.requestDidFail registration request code reason minExpires) := by
  apply h.answered
  · exact fun registration => posts_requestDidFail request () _
  · exact fun registration other => current_requestDidFail
  · -- The notification of a failure that was answered has the field.
    intro registration failure hmem env
    rw [failure_requestDidFail hmem]
    exact verdict_ne_escape rfl env

theorem sound_requestDidSucceed (h : Sound kind self) (request : RegisterRequest)
    (data : RegistrationSuccess) :
    Sound kind (self.answered request fun registration =>
      Registration.requestDidSucceed registration request data) := by
  apply h.answered
  · exact fun registration => posts_requestDidSucceed request () () data
  · exact fun registration other => current_requestDidSucceed
  · intro registration failure hmem
    unfold Registration.requestDidSucceed RequestHolder.requestDidSucceed at hmem
    split_ifs at hmem <;> simp at hmem

theorem sound_requestDidEnd (h : Sound kind self) (request : RegisterRequest) :
    Sound kind (self.expired fun registration => Registration.requestDidEnd registration request) := by
  apply h.expired
  · exact fun registration => posts_requestDidEnd request ()
  · intro registration other hother
    unfold Registration.requestDidEnd RequestHolder.requestDidEnd at hother
    split_ifs at hother
    exact hother
  · intro registration failure hmem
    unfold Registration.requestDidEnd RequestHolder.requestDidEnd at hmem
    split_ifs at hmem <;> simp at hmem

/-- One input keeps the invariant. -/
theorem sound_handle (h : Sound kind self) {input : RegistrarInput} (hcareful : Careful self input) :
    Sound kind (self.handle input) := by
  cases input with
  | start register => exact sound_start h register
  | stop => exact h.stop
  | activate => exact sound_activate h
  | deactivate => exact sound_deactivate h
  | reregister | networkConditionsDidChange => exact sound_reregister h
  | settingsDidChange modified register => exact sound_settingsDidChange h modified register
  | take registerInterval sends => exact h.take registerInterval sends
  | lookedUp env sends result =>
      exact h.lookedUp (attempt_ne_escape env) (fun _ _ _ => rfl) (fun _ _ hphase => hcareful.ne_valueError hphase)
        fun _ _ _ hphase hresult => hcareful.not_crossing hphase hresult
  | wake env sends => exact h.wake (attempt_ne_escape env) hcareful
  | timer => exact sound_timer h
  | tick seconds => exact h.ticked seconds
  | runCall => exact sound_runCall h
  | requestDidSucceed request data => exact sound_requestDidSucceed h request data
  | requestDidFail request code reason minExpires =>
      rw [handle]
      split
      · exact h.challenged request _
      · exact sound_requestDidFail h request code reason minExpires
  | requestWillExpire request => exact h.expiring request
  | requestDidEnd request => exact sound_requestDidEnd h request

theorem failed_activate : self.activate.failed = self.failed := by
  unfold activate
  split <;> rfl

theorem failed_deactivate : self.deactivate.failed = self.failed := by
  unfold deactivate
  split <;> rfl

theorem failed_reregister : self.reregister.failed = self.failed := by
  unfold reregister
  split <;> rfl

theorem reported_handle (h : Sound kind self) (hfailed : self.failed = none) (input : RegistrarInput) :
    (self.handle input).Reported := by
  cases input with
  | take registerInterval sends => exact reported_take hfailed
  | lookedUp env sends result => exact reporting.lookedUp hfailed (reported_of_none hfailed)
  | wake env sends => exact reported_wake h hfailed
  | start register =>
      apply reported_of_none
      simp only [handle, start]
      split_ifs
      · rw [failed_activate]
        exact hfailed
      · exact hfailed
      · exact hfailed
  | settingsDidChange modified register =>
      apply reported_of_none
      exact settings_rule (motive := fun self : Registrar => self.failed = none) hfailed
        (failed_activate.trans hfailed) (failed_deactivate.trans hfailed) (failed_reregister.trans hfailed)
  | runCall =>
      apply reported_of_none
      simp only [handle, runCall]
      split
      · exact hfailed
      · rw [failed_deliver]
        exact hfailed
      · split_ifs <;> exact hfailed
  | timer =>
      apply reported_of_none
      simp only [handle, timer]
      split_ifs
      · rw [failed_retry]
        exact hfailed
      · exact hfailed
  | requestDidFail request code reason minExpires =>
      apply reported_of_none
      rw [handle]
      split
      · exact (failed_challenged request _).trans hfailed
      · exact (failed_answered request _).trans hfailed
  | _ =>
      apply reported_of_none
      simp [handle, failed_activate, failed_deactivate, failed_reregister, hfailed]

/-- What holds of a registrar between its inputs. -/
theorem step_survives (h : Sound kind self ∧ self.Reported) {input : RegistrarInput}
    (hcareful : Careful self input) : Sound kind (self.step input) ∧ (self.step input).Reported := by
  have hfresh := h.1.notFailed
  exact ⟨sound_handle hfresh (by cases input <;> exact hcareful), reported_handle hfresh rfl input⟩

theorem survives_run {inputs : List RegistrarInput} (hmeets : Runs.Meets step Careful {} inputs) :
    (Runs.run step {} inputs).Survives := by
  have hstart : Sound kind ({} : Registrar) ∧ ({} : Registrar).Reported := by
    refine ⟨⟨⟨?_, ?_, ?_, ?_, ?_, ?_⟩, rfl, ?_⟩, reported_of_none rfl⟩ <;>
      simp [tally, inHand, senders, inTransit]
  obtain ⟨hsound, hreported⟩ := Runs.invariant_run (fun self => Sound kind self ∧ self.Reported)
    (fun _ _ h hcareful => step_survives h hcareful) hstart hmeets
  exact hsound.survives hreported

end Registrar

namespace Publisher

variable {Document : Type} {docs : DocumentType Document} {self : Publisher Document}

/-- The document that the command carries can be written. -/
def PayloadBuilds (docs : DocumentType Document) (self : Publisher Document) : Prop :=
  match self.loop.phase with
  | .lookup state _ => prepares docs state
  | _ => True

/-- The current document can be written. -/
def StateBuilds (docs : DocumentType Document) (self : Publisher Document) : Prop :=
  match self.state with
  | none => True
  | some document => docs.builds document

/-- The condition on an input of a publisher: no PUBLISH is answered with 423, when routes are tried no expiry is
on its way, and the documents can be written. -/
def Careful (docs : DocumentType Document) (self : Publisher Document) : PublisherInput Document → Prop
  | .requestDidFail _ code _ => code ≠ 423
  | .lookedUp _ _ result => Clear self.loop result ∧ PayloadBuilds docs self ∧ StateBuilds docs self
  | .wake publishInterval _ =>
      Readable (kind docs) { state := self.state, publishInterval } self.loop ∧ StateBuilds docs self
  | _ => True

instance : Decidable (PayloadBuilds docs self) := by
  unfold PayloadBuilds
  split <;> infer_instance

instance : Decidable (StateBuilds docs self) := by
  unfold StateBuilds
  split <;> infer_instance

instance (input : PublisherInput Document) : Decidable (Careful docs self input) := by
  unfold Careful
  split <;> infer_instance

theorem sound_publish (h : Sound (kind docs) self.loop) (state : PublishState Document) :
    Sound (kind docs) (self.publish state).loop := by
  unfold publish
  split
  · split
    · exact h.enqueue _
    · exact h.enqueue _
  · exact h

theorem sound_setState (h : Sound (kind docs) self.loop) (inTwistedThread : Bool) (state : Option Document) :
    Sound (kind docs) (setState docs self inTwistedThread state).loop := by
  unfold setState
  split
  · exact h
  · split
    · apply sound_publish
      exact h
    · exact h.scheduled state

theorem sound_activate (h : Sound (kind docs) self.loop) : Sound (kind docs) self.activate.loop := by
  rw [activate, apply_ite loop]
  exact h.commanded true _

theorem sound_deactivate (h : Sound (kind docs) self.loop) : Sound (kind docs) self.deactivate.loop := by
  rw [deactivate, apply_ite loop]
  exact h.commanded false _

theorem sound_republish (h : Sound (kind docs) self.loop) : Sound (kind docs) self.republish.loop := by
  rw [republish, apply_ite loop]
  exact h.repeated _ _

theorem sound_settingsDidChange (h : Sound (kind docs) self.loop) (modified : List String)
    (enabled : Bool) : Sound (kind docs) (self.settingsDidChange modified enabled).loop :=
  settings_rule (motive := fun self : Publisher Document => Sound (kind docs) self.loop) h (sound_activate h)
    (sound_deactivate h) (sound_republish h)

theorem sound_timer (h : Sound (kind docs) self.loop) : Sound (kind docs) self.timer.loop := by
  unfold timer
  split
  · exact h.retry _
  · exact h.giveUp

theorem sound_runCall (h : Sound (kind docs) self.loop) : Sound (kind docs) self.runCall.loop := by
  unfold runCall
  split
  next => exact h
  next sender answer reactor hreactor => exact h.deliver hreactor
  next sender reactor hreactor =>
    have hrun := h.run hreactor fun _ => rfl
    dsimp only
    split
    · apply sound_publish
      exact hrun
    · exact hrun
  next state reactor hreactor =>
    apply sound_publish
    exact h.run hreactor fun _ => rfl

theorem verdict_ne_escape {failure : RequestFailure} (hcode : failure.code ≠ 423)
    (env : PublisherEnv Document) : verdict env failure ≠ .escape := by
  unfold verdict
  split_ifs <;> nofun

theorem attempt_ne_escape {env : PublisherEnv Document}
    (hbuilds : ∀ document, env.state = some document → docs.builds document)
    (state : PublishState Document) (route : Route) (publication : Publication Document) (serial : Nat) :
    attempt docs env state route publication serial ≠ .escape := by
  unfold attempt
  split
  · exact fun hescape => by cases hescape
  · split
    · exact fun hescape => by cases hescape
    · exact fun hescape => by cases hescape
    · split
      next => exact fun hescape => by cases hescape
      next document hdocument =>
        rw [if_pos (hbuilds document hdocument)]
        exact fun hescape => by cases hescape

theorem StateBuilds.builds (h : StateBuilds docs self) :
    ∀ document, self.state = some document → docs.builds document := by
  intro document hdocument
  unfold StateBuilds at h
  rw [hdocument] at h
  exact h

theorem failed_publish (state : PublishState Document) :
    (self.publish state).loop.failed = self.loop.failed := by
  unfold publish
  split
  · split <;> rfl
  · rfl

theorem failed_activate : self.activate.loop.failed = self.loop.failed := by
  unfold activate
  split <;> rfl

theorem failed_deactivate : self.deactivate.loop.failed = self.loop.failed := by
  unfold deactivate
  split <;> rfl

theorem failed_republish : self.republish.loop.failed = self.loop.failed := by
  unfold republish
  split <;> rfl

variable [DecidableEq Document]

theorem sound_start (h : Sound (kind docs) self.loop) (enabled : Bool) :
    Sound (kind docs) (self.start enabled).loop := by
  unfold start
  split
  next hoff =>
    have hspawn := h.spawn hoff.2
    split
    · apply sound_activate
      exact hspawn
    · exact hspawn
  next => exact h

theorem sound_requestDidFail (h : Sound (kind docs) self.loop) (request : PublishRequest Document)
    {code : Nat} (hcode : code ≠ 423) (reason : String) :
    Sound (kind docs) (self.loop.answered request fun publication =>
      Publication.requestDidFail publication request code reason) := by
  apply h.answered
  · exact fun publication => posts_requestDidFail request _ _
  · exact fun publication other => current_requestDidFail
  · intro publication failure hmem env
    rw [failure_requestDidFail hmem]
    exact verdict_ne_escape hcode env

theorem sound_requestDidSucceed (h : Sound (kind docs) self.loop) (request : PublishRequest Document)
    (etag : Option String) (data : PublicationSuccess) :
    Sound (kind docs) (self.loop.answered request fun publication =>
      Publication.requestDidSucceed publication request etag data) := by
  apply h.answered
  · exact fun publication => posts_requestDidSucceed request none etag data
  · exact fun publication other => current_requestDidSucceed
  · intro publication failure hmem
    unfold Publication.requestDidSucceed RequestHolder.requestDidSucceed at hmem
    split_ifs at hmem <;> simp at hmem

theorem sound_requestDidEnd (h : Sound (kind docs) self.loop) (request : PublishRequest Document) :
    Sound (kind docs) (self.loop.expired fun publication =>
      Publication.requestDidEnd publication request) := by
  apply h.expired
  · exact fun publication => posts_requestDidEnd request none
  · intro publication other hother
    unfold Publication.requestDidEnd RequestHolder.requestDidEnd at hother
    split_ifs at hother
    exact hother
  · intro publication failure hmem
    unfold Publication.requestDidEnd RequestHolder.requestDidEnd at hmem
    split_ifs at hmem <;> simp at hmem

/-- One input keeps the invariant. -/
theorem sound_handle (h : Sound (kind docs) self.loop) {input : PublisherInput Document}
    (hcareful : Careful docs self input) : Sound (kind docs) (handle docs self input).loop := by
  cases input with
  | start enabled => exact sound_start h enabled
  | stop => exact h.stop
  | activate => exact sound_activate h
  | deactivate => exact sound_deactivate h
  | setState inTwistedThread state => exact sound_setState h inTwistedThread state
  | settingsDidChange modified enabled => exact sound_settingsDidChange h modified enabled
  | networkConditionsDidChange => exact sound_republish h
  | take publishInterval sends => exact h.take publishInterval sends
  | lookedUp publishInterval sends result =>
      obtain ⟨hclear, hpayload, hstate⟩ := hcareful
      apply h.lookedUp
      · exact attempt_ne_escape hstate.builds
      · intro payload event hphase
        unfold PayloadBuilds at hpayload
        rw [hphase] at hpayload
        exact hpayload
      · exact fun _ _ hphase => hclear.ne_valueError hphase
      · exact fun _ _ _ hphase hresult => hclear.not_crossing hphase hresult
  | wake publishInterval sends => exact h.wake (attempt_ne_escape hcareful.2.builds) hcareful.1
  | timer => exact sound_timer h
  | tick seconds => exact h.ticked seconds
  | runCall => exact sound_runCall h
  | requestDidSucceed request etag data => exact sound_requestDidSucceed h request etag data
  | requestDidFail request code reason =>
      rw [handle]
      split
      · exact h.challenged request _
      · exact sound_requestDidFail h request hcareful reason
  | requestWillExpire request => exact h.expiring request
  | requestDidEnd request => exact sound_requestDidEnd h request

theorem reported_handle (h : Sound (kind docs) self.loop) (hfailed : self.loop.failed = none)
    (input : PublisherInput Document) : (handle docs self input).loop.Reported := by
  cases input with
  | take publishInterval sends => exact reported_take hfailed
  | lookedUp publishInterval sends result =>
      exact reporting.lookedUp hfailed (reported_of_none hfailed)
  | wake publishInterval sends => exact reported_wake h hfailed
  | start enabled =>
      apply reported_of_none
      simp only [handle, start]
      split_ifs
      · rw [failed_activate]
        exact hfailed
      · exact hfailed
      · exact hfailed
  | setState inTwistedThread state =>
      apply reported_of_none
      simp only [handle, setState]
      split_ifs
      · exact hfailed
      · rw [failed_publish]
        exact hfailed
      · exact hfailed
  | settingsDidChange modified enabled =>
      apply reported_of_none
      exact settings_rule (motive := fun self : Publisher Document => self.loop.failed = none) hfailed
        (failed_activate.trans hfailed) (failed_deactivate.trans hfailed) (failed_republish.trans hfailed)
  | runCall =>
      apply reported_of_none
      simp only [handle, runCall]
      split
      · exact hfailed
      · rw [failed_deliver]
        exact hfailed
      · split_ifs
        · rw [failed_publish]
          exact hfailed
        · exact hfailed
      · rw [failed_publish]
        exact hfailed
  | timer =>
      apply reported_of_none
      simp only [handle, timer]
      split_ifs
      · rw [failed_retry]
        exact hfailed
      · rw [failed_giveUp]
        exact hfailed
  | requestDidFail request code reason =>
      apply reported_of_none
      rw [handle]
      split
      · exact (failed_challenged request _).trans hfailed
      · exact (failed_answered request _).trans hfailed
  | _ =>
      apply reported_of_none
      simp [handle, failed_activate, failed_deactivate, failed_republish, hfailed]

/-- What holds of a publisher between its inputs. -/
theorem step_survives (h : Sound (kind docs) self.loop ∧ self.loop.Reported)
    {input : PublisherInput Document} (hcareful : Careful docs self input) :
    Sound (kind docs) (step docs self input).loop ∧ (step docs self input).loop.Reported := by
  have hfresh := h.1.notFailed
  refine ⟨sound_handle hfresh ?_, reported_handle hfresh rfl input⟩
  cases input <;> exact hcareful

theorem survives_run {inputs : List (PublisherInput Document)}
    (hmeets : Runs.Meets (step docs) (Careful docs) {} inputs) :
    (Runs.run (step docs) {} inputs).loop.Survives := by
  have hstart : Sound (kind docs) ({} : Publisher Document).loop ∧
      ({} : Publisher Document).loop.Reported := by
    refine ⟨⟨⟨?_, ?_, ?_, ?_, ?_, ?_⟩, rfl, ?_⟩, reported_of_none rfl⟩ <;>
      simp [tally, inHand, senders, inTransit]
  obtain ⟨hsound, hreported⟩ := Runs.invariant_run
    (fun self : Publisher Document => Sound (kind docs) self.loop ∧ self.loop.Reported)
    (fun _ _ h hcareful => step_survives h hcareful) hstart hmeets
  exact hsound.survives hreported

end Publisher

/-! ### Runs -/

/-- Documents of one content. -/
def unitDocuments : DocumentType Unit where
  equal := fun _ _ => true
  builds := fun _ => true

/-- The inputs of a publisher whose first document is answered with the code. -/
def answeredWith (code : Nat) : List (PublisherInput Unit) :=
  let route : Route := { address := "192.0.2.1", port := 5060, transport := "udp" }
  [.start true, .take 600 true, .setState true (some ()), .take 600 true,
    .lookedUp 600 (fun _ => true) (.ok [route]),
    .requestDidFail { id := 3, body := some (), routeHeader := route, expires := 600, ifMatch := none } code
      "Failed",
    .runCall, .wake 600 fun _ => true]

/-- The inputs of a registrar whose registration succeeds. -/
def registers : List RegistrarInput :=
  let route : Route := { address := "192.0.2.1", port := 5060, transport := "udp" }
  let env : RegistrarEnv :=
    { contact := fun _ => some "sip:1@192.0.2.2", registerInterval := 600, instanceId := ['u', 'r', 'n']
      parseUri := fun text => .uri text }
  let request : RegisterRequest :=
    { id := 2, contactHeader := "sip:1@192.0.2.2", routeHeader := route, callId := 2, cseq := 1
      expires := 600 }
  let header : ContactHeader :=
    { uri := "sip:1@192.0.2.2"
      parameters := [("+sip.instance", some ['"', '<', 'u', 'r', 'n', '>', '"'])] }
  [.start true, .take 600 true, .lookedUp env (fun _ => true) (.ok [route]),
    .requestDidSucceed request
      { code := 200, reason := "OK", contactHeaderList := [header], expiresIn := 600 },
    .runCall, .wake env fun _ => true]

/-- **The command loops survive.** In a run of a registrar or a publisher whose inputs meet the condition no
exception ends the loop, every handler that waits has its answer coming, and a failed command leaves nothing
held and a timer. -/
theorem command_loops_survive {registrations : List RegistrarInput}
    (hregistrar : Runs.Meets Registrar.step Registrar.Careful {} registrations) {Document : Type}
    [DecidableEq Document] {docs : DocumentType Document} {publications : List (PublisherInput Document)}
    (hpublisher : Runs.Meets (Publisher.step docs) (Publisher.Careful docs) {} publications) :
    (Runs.run Registrar.step {} registrations).Survives ∧
      (Runs.run (Publisher.step docs) {} publications).loop.Survives :=
  ⟨Registrar.survives_run hregistrar, Publisher.survives_run hpublisher⟩

theorem command_loops_survive_answers :
    (Runs.run Registrar.step {} registers).Survives ∧
      (Runs.run (Publisher.step unitDocuments) {} (answeredWith 404)).loop.Survives :=
  command_loops_survive (by decide) (by decide)

/-- A PUBLISH that is answered with 423 ends the loop. -/
theorem not_command_loops_survive :
    ¬ ((∀ inputs, (Runs.run Registrar.step {} inputs).Survives) ∧
      ∀ inputs, (Runs.run (Publisher.step unitDocuments) {} inputs).loop.Survives) := by
  rintro ⟨-, hsurvives⟩
  exact (hsurvives (answeredWith 423)).alive (by decide)

end SipSimple.Account
