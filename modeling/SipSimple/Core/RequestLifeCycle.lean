import SipSimple.Core.Request

/-!
# The life cycle of a request

What a request posts, in which order and when. A request is in one of a few phases; each phase says what was posted so
far, what PJSIP still has to do and when its timer runs.
-/

namespace SipSimple.Core

namespace Request

variable {self : Request}

/-! ### Fields -/

@[simp] theorem post_posted (notification : RequestNotification) :
    (self.post notification).posted = self.posted ++ [(self.now, notification)] := rfl

@[simp] theorem finish_posted : self.finish.posted = self.posted ++ [(self.now, .didEnd)] := rfl

@[simp] theorem finish_state : self.finish.state = .terminated := rfl

@[simp] theorem finish_timer : self.finish.timer = self.timer := rfl

@[simp] theorem finish_tsx : self.finish.tsx = self.tsx := rfl

theorem cancel_eq : self.cancel = { self with timer := self.cancel.timer } := by
  rw [cancel]
  split <;> rfl

/-- The timer is not in the heap. -/
def Unscheduled (self : Request) : Prop := ∀ due, self.timer ≠ .scheduled due

theorem cancel_unscheduled : self.cancel.Unscheduled := by
  intro due
  rw [cancel]
  split
  next => exact TimerEntry.noConfusion
  next h => exact h due

/-- A timer in the heap is known to be active. -/
def Active (self : Request) : Prop := ∀ due, self.timer = .scheduled due → self.timerActive = true

theorem cancelActive_eq : ∃ timer active, self.cancelActive = { self with timer := timer, timerActive := active } := by
  rw [cancelActive]
  split
  next =>
    rw [cancel_eq]
    exact ⟨_, _, rfl⟩
  next => exact ⟨_, _, rfl⟩

@[simp] theorem cancelActive_state : self.cancelActive.state = self.state := by
  obtain ⟨timer, active, heq⟩ := self.cancelActive_eq
  rw [heq]

@[simp] theorem cancelActive_posted : self.cancelActive.posted = self.posted := by
  obtain ⟨timer, active, heq⟩ := self.cancelActive_eq
  rw [heq]

@[simp] theorem cancelActive_tsx : self.cancelActive.tsx = self.tsx := by
  obtain ⟨timer, active, heq⟩ := self.cancelActive_eq
  rw [heq]

theorem cancelActive_unscheduled (h : self.Active) : self.cancelActive.Unscheduled := by
  rw [cancelActive]
  split
  next => exact cancel_unscheduled
  next hactive =>
    intro due htimer
    exact hactive (h due htimer)

/-- A timer that is not in the heap is scheduled, or refused. -/
theorem schedule_cases (h : self.Unscheduled) (accepted : Bool) (delay : Nat) :
    self.schedule accepted delay = { self with timer := .scheduled (self.now + delay), refused := false } ∨
      self.schedule accepted delay = { self with refused := true } := by
  rw [schedule.eq_def]
  cases accepted with
  | false => exact Or.inr rfl
  | true =>
      cases htimer : self.timer with
      | idle => exact Or.inl rfl
      | scheduled due => exact absurd htimer (h due)
      | firing => exact Or.inl rfl

/-! ### Phases -/

/-- Only provisional responses. -/
def Provisional (posted : List (Nat × RequestNotification)) : Prop :=
  ∀ entry ∈ posted, ∃ answer, entry.2 = .gotProvisionalResponse answer

/-- No response is waited for. -/
def Answered (self : Request) : Prop := ∀ tsx ∈ self.tsx, tsx.waits = false

/-- The timer runs at the time, and not later. -/
def RunsAt (self : Request) (due : Nat) : Prop :=
  (self.timer = .scheduled due ∧ self.now ≤ due) ∨ (self.timer = .firing ∧ self.now = due)

/-- The time of the warning. -/
def warningTime (start : Nat) (expires : Int) : Nat := start + (expiryDelay expires).toNat * 1000

/-- The time of the end. -/
def expiryTime (start : Nat) (expires : Int) : Nat := warningTime start expires + (expiryRest expires).toNat * 1000

/-- The request waits for its outcome. -/
structure Waiting (request : Request) : Prop where
  state : request.state = .inProgress
  provisional : Provisional request.posted
  alive : ∃ tsx, request.tsx = some tsx ∧ (tsx.waits = true ∨ tsx.state = .completed)
  active : request.Active

/-- The request succeeded and was not warned about. -/
structure Succeeded (request : Request) : Prop where
  state : request.state = .expiring
  posted : ∃ before start answer expires, Provisional before ∧
    request.posted = before ++ [(start, .didSucceed answer expires)] ∧ request.expireRest = expiryRest expires ∧
    request.RunsAt (warningTime start expires)
  answered : request.Answered

/-- The expiry was warned about. -/
structure Warned (request : Request) : Prop where
  state : request.state = .expiring
  posted : ∃ before start answer expires, Provisional before ∧
    request.posted = before ++ [(start, .didSucceed answer expires),
      (warningTime start expires, .willExpire (expiryRest expires))] ∧ request.expireRest = 0 ∧
    request.RunsAt (expiryTime start expires)
  answered : request.Answered

/-- What was posted in the end. -/
inductive Closing (request : Request) : List (Nat × RequestNotification) → Prop
  | failed (answer : Option Answer) (time ending : Nat) : Closing request [(time, .didFail answer), (ending, .didEnd)]
  | unwarned (answer : Option Answer) (expires : Int) (start ending : Nat)
      (early : expires = 0 ∨ request.ended = true ∨ (request.refused = true ∧ ending = start)) :
      Closing request [(start, .didSucceed answer expires), (ending, .didEnd)]
  | warned (answer : Option Answer) (expires : Int) (start ending : Nat)
      (late : ending = expiryTime start expires ∨ request.ended = true ∨
        (request.refused = true ∧ ending = warningTime start expires)) :
      Closing request [(start, .didSucceed answer expires), (warningTime start expires, .willExpire (expiryRest expires)),
        (ending, .didEnd)]

structure Ended (request : Request) : Prop where
  state : request.state = .terminated
  posted : ∃ before closing, Provisional before ∧ request.posted = before ++ closing ∧ request.Closing closing
  answered : request.Answered
  unscheduled : request.Unscheduled

/-- The request was not sent. -/
structure Unsent (request : Request) : Prop where
  state : request.state = .init
  posted : request.posted = []
  timer : request.timer = .idle
  tsx : ∃ tsx, request.tsx = some tsx ∧ tsx.state = .null

inductive Phase (request : Request) : Prop
  | unsent (h : request.Unsent)
  | waiting (h : request.Waiting)
  | succeeded (h : request.Succeeded)
  | warned (h : request.Warned)
  | ended (h : request.Ended)

/-! ### The outcome -/

theorem Provisional.append {before : List (Nat × RequestNotification)} (h : Provisional before) (time : Nat)
    (answer : Answer) : Provisional (before ++ [(time, .gotProvisionalResponse answer)]) := by
  intro entry hentry
  rcases List.mem_append.mp hentry with hentry | hentry
  · exact h entry hentry
  · obtain rfl := List.mem_singleton.mp hentry
    exact ⟨answer, rfl⟩

/-- A failure is posted with the end. -/
theorem failed_ended (hposted : Provisional self.posted) (hanswered : self.Answered) (hunscheduled : self.Unscheduled)
    (answer : Option Answer) : (self.fail answer).Ended where
  state := rfl
  posted := ⟨self.posted, [(self.now, .didFail answer), (self.now, .didEnd)], hposted, by simp [fail, post], .failed _ _ _⟩
  answered := hanswered
  unscheduled := hunscheduled

/-- The expiry of a request that succeeded is scheduled, unless it is over. -/
theorem startExpiry_phase {before : List (Nat × RequestNotification)} {answer : Option Answer} {expires : Int}
    (hbefore : Provisional before) (hposted : self.posted = before ++ [(self.now, .didSucceed answer expires)])
    (hanswered : self.Answered) (hunscheduled : self.Unscheduled) (env : RequestEnv) :
    (self.startExpiry expires env).Phase := by
  rw [startExpiry]
  split
  next hzero =>
    refine .ended ⟨rfl, ⟨before, _, hbefore, ?_, .unwarned answer expires self.now self.now (Or.inl hzero)⟩, hanswered,
      hunscheduled⟩
    rw [finish_posted, hposted, List.append_assoc]
    rfl
  next =>
    rcases schedule_cases hunscheduled env.expiryAccepted ((expiryDelay expires).toNat * 1000) with heq | heq
    · rw [heq]
      refine .succeeded ⟨rfl, ⟨before, self.now, answer, expires, hbefore, hposted, rfl, Or.inl ⟨rfl, ?_⟩⟩, hanswered⟩
      exact Nat.le_add_right _ _
    · rw [heq]
      refine .ended ⟨rfl, ⟨before, _, hbefore, ?_, .unwarned answer expires self.now self.now (Or.inr (Or.inr ⟨rfl, rfl⟩))⟩,
        hanswered, hunscheduled⟩
      show self.posted ++ [(self.now, .didEnd)] = _
      rw [hposted, List.append_assoc]
      rfl

theorem startExpiry_zero (env : RequestEnv) : self.startExpiry 0 env = self.finish := if_pos rfl

/-- The timeout is scheduled and active, or neither. -/
theorem startTimeout_eq (h : self.Unscheduled) (env : RequestEnv) : ∃ timer active refused,
    self.startTimeout env = { self with timer := timer, timerActive := active, refused := refused } ∧
      ∀ due, timer = .scheduled due → active = true := by
  rw [startTimeout]
  split
  next => exact ⟨self.timer, self.timerActive, self.refused, rfl, fun due htimer => absurd htimer (h due)⟩
  next timeout _ =>
    rcases schedule_cases h env.timeoutAccepted (timeoutDelay timeout) with heq | heq
    · rw [heq]
      exact ⟨_, true, false, rfl, fun _ _ => rfl⟩
    · rw [heq]
      exact ⟨self.timer, self.timerActive, true, rfl, fun due htimer => absurd htimer (h due)⟩

/-- A request is sent again, or fails. -/
theorem authenticate_phase (hstate : self.state = .inProgress) (hposted : Provisional self.posted)
    (hanswered : self.Answered) (hunscheduled : self.Unscheduled) (env : RequestEnv) :
    (self.authenticate env).Phase := by
  rw [authenticate]
  split
  next =>
    apply Phase.ended
    apply failed_ended
    · exact hposted
    · exact hanswered
    · exact hunscheduled
  next =>
    split
    next =>
      apply Phase.ended
      apply failed_ended
      · exact hposted
      · exact hanswered
      · exact hunscheduled
    next =>
      split
      next =>
        apply Phase.ended
        apply failed_ended
        · exact hposted
        · intro tsx htsx
          exact Option.some.inj htsx ▸ rfl
        · exact hunscheduled
      next =>
        apply Phase.waiting
        obtain ⟨timer, active, refused, heq, hactive⟩ := startTimeout_eq
          (show ({ self with needAuth := false, tsx := some { state := .calling } } : Request).Unscheduled from
            hunscheduled) env
        rw [heq]
        exact ⟨hstate, hposted, ⟨_, rfl, Or.inl rfl⟩, hactive⟩

/-! ### Callbacks -/

/-- What a request in flight does with its final response. -/
theorem cbCompleted_phase {tsx : Transaction} (h : self.Waiting) (htsx : self.tsx = some tsx)
    (hcompleted : tsx.state = .completed) (rdata : Option Response) (env : RequestEnv) :
    (self.cbCompleted tsx rdata env).Phase := by
  have hunscheduled := cancelActive_unscheduled h.active
  have hstate : self.cancelActive.state = .inProgress := cancelActive_state.trans h.state
  have hposted : Provisional self.cancelActive.posted := by
    rw [cancelActive_posted]
    exact h.provisional
  have htsx : self.cancelActive.tsx = some tsx := cancelActive_tsx.trans htsx
  have hanswered : self.cancelActive.Answered := by
    intro other hother
    rw [htsx] at hother
    obtain rfl := Option.some.inj hother
    rw [Transaction.waits, hcompleted]
    rfl
  have hwaiting : self.cancelActive.Waiting :=
    ⟨hstate, hposted, ⟨tsx, htsx, Or.inr hcompleted⟩, fun due htimer => absurd htimer (hunscheduled due)⟩
  have hfailed (answer : Option Answer) : ((self.cancelActive.post (.didFail answer)).startExpiry 0 env).Phase := by
    rw [startExpiry_zero]
    exact .ended (failed_ended hposted hanswered hunscheduled answer)
  have hsucceeded (answer : Option Answer) (expires : Int) :
      ((self.cancelActive.post (.didSucceed answer expires)).startExpiry expires env).Phase := by
    apply startExpiry_phase hposted
    · rfl
    · exact hanswered
    · exact hunscheduled
  rw [cbCompleted.eq_def]
  dsimp only
  split
  next => exact authenticate_phase hstate hposted hanswered hunscheduled env
  next =>
    cases rdata with
    | none =>
        dsimp only
        split
        next => exact hsucceeded none (-1)
        next => exact hfailed none
    | some response =>
        dsimp only
        split
        next => exact .waiting hwaiting
        next =>
          split
          next =>
            split
            next => exact .waiting hwaiting
            next => exact hsucceeded _ _
          next => exact hfailed _

/-- The transaction is terminated under a request in flight. -/
theorem cbTerminated_ended (hstate : self.state = .inProgress) (hprovisional : Provisional self.posted)
    (hactive : self.Active) (tsx : Transaction) : (self.cbTerminated tsx).Ended := by
  have hposted : Provisional self.cancelActive.posted := by
    rw [cancelActive_posted]
    exact hprovisional
  rw [cbTerminated, if_pos hstate]
  refine ⟨rfl, ⟨self.cancelActive.posted, [(self.cancelActive.now, .didFail (some tsx.status)),
    (self.cancelActive.now, .didEnd)], hposted, ?_, .failed _ _ _⟩, fun _ hother => (nomatch hother),
    cancelActive_unscheduled hactive⟩
  simp [fail, post]

theorem tsxTerminate_ended (h : self.Waiting) (status : Answer) : (self.tsxTerminate status).Ended := by
  obtain ⟨tsx, htsx, halive⟩ := h.alive
  have hrunning : tsx.state ≠ .terminated := by
    intro hterminated
    rcases halive with hwaits | hcompleted
    · rw [Transaction.waits, hterminated] at hwaits
      exact absurd hwaits (by decide)
    · rw [hterminated] at hcompleted
      exact absurd hcompleted (by decide)
  rw [tsxTerminate, htsx]
  dsimp only
  rw [if_neg hrunning, cbTsxState.eq_def]
  show (cbTerminated _ _).Ended
  apply cbTerminated_ended
  · exact h.state
  · exact h.provisional
  · exact h.active

theorem received_phase (h : self.Waiting) (response : Response) (env : RequestEnv) :
    (self.received response env).Phase := by
  obtain ⟨tsx, htsx, halive⟩ := h.alive
  rw [received, htsx]
  dsimp only
  split
  next hwaits =>
    split
    next hprovisional =>
      have hwaiting (entries : List (Nat × RequestNotification)) (hentries : Provisional entries) :
          ({ self with tsx := some ⟨.proceeding, response.answer⟩, posted := entries } : Request).Waiting :=
        ⟨h.state, hentries, ⟨_, rfl, Or.inl rfl⟩, h.active⟩
      rw [cbTsxState.eq_def]
      split
      next => exact .waiting (hwaiting _ h.provisional)
      next =>
        dsimp only
        split
        next => exact .waiting (hwaiting _ (h.provisional.append _ _))
        next => exact .waiting (hwaiting _ h.provisional)
    next hfinal =>
      have hwaiting : ({ self with tsx := some ⟨.completed, response.answer⟩ } : Request).Waiting :=
        ⟨h.state, h.provisional, ⟨_, rfl, Or.inr rfl⟩, h.active⟩
      rw [cbTsxState.eq_def]
      split
      next => exact .waiting hwaiting
      next => exact cbCompleted_phase hwaiting rfl rfl _ _
  next => exact .waiting h

theorem received_of_answered (h : self.Answered) (response : Response) (env : RequestEnv) :
    self.received response env = self := by
  rw [received]
  split
  next => rfl
  next tsx htsx =>
    rw [h tsx htsx]
    rfl

/-- A request that has its outcome only lets its transaction go. -/
theorem transactionTerminated_of_answered (h : self.Answered) (hstate : self.state ≠ .inProgress) (status : Answer) :
    self.transactionTerminated status = self ∨ self.transactionTerminated status = { self with tsx := none } := by
  rw [transactionTerminated]
  split
  next => exact Or.inl rfl
  next tsx htsx =>
    rw [h tsx htsx, if_neg Bool.false_ne_true]
    split
    next hcompleted =>
      refine Or.inr ?_
      rw [tsxTerminate, htsx]
      dsimp only
      rw [if_neg (by rw [hcompleted]; decide), cbTsxState.eq_def]
      show cbTerminated _ _ = _
      rw [cbTerminated, if_neg hstate]
    next => exact Or.inl rfl

/-! ### Steps -/

theorem elapse_eq (milliseconds : Nat) : ∃ now, self.elapse milliseconds = { self with now := now } := by
  rw [elapse]
  split
  next => exact ⟨_, rfl⟩
  next =>
    split
    next => exact ⟨_, rfl⟩
    next => exact ⟨self.now, rfl⟩
  next => exact ⟨self.now, rfl⟩

theorem pollTimer_eq : self.pollTimer = self ∨ self.pollTimer = { self with timer := .firing } := by
  rw [pollTimer.eq_def]
  split
  next =>
    split
    next => exact Or.inr rfl
    next => exact Or.inl rfl
  next => exact Or.inl rfl

theorem RunsAt.elapse {due : Nat} (h : self.RunsAt due) (milliseconds : Nat) : (self.elapse milliseconds).RunsAt due := by
  rcases h with ⟨htimer, hnow⟩ | ⟨htimer, hnow⟩
  · rw [Request.elapse, htimer]
    dsimp only
    split
    next hlater => exact Or.inl ⟨rfl, hlater⟩
    next => exact Or.inl ⟨htimer, hnow⟩
  · rw [Request.elapse, htimer]
    exact Or.inr ⟨htimer, hnow⟩

theorem RunsAt.pollTimer {due : Nat} (h : self.RunsAt due) : self.pollTimer.RunsAt due := by
  rw [Request.pollTimer.eq_def]
  split
  next other htimer =>
    rcases h with ⟨hscheduled, hnow⟩ | ⟨hfiring, -⟩
    · obtain rfl := TimerEntry.scheduled.inj (htimer.symm.trans hscheduled)
      split
      next hdue => exact Or.inr ⟨rfl, Nat.le_antisymm hnow hdue⟩
      next => exact Or.inl ⟨hscheduled, hnow⟩
    · exact TimerEntry.noConfusion (htimer.symm.trans hfiring)
  next => exact h

theorem RunsAt.firing {due : Nat} (h : self.RunsAt due) (hfiring : self.timer = .firing) : self.now = due := by
  rcases h with ⟨hscheduled, -⟩ | ⟨-, hnow⟩
  · exact TimerEntry.noConfusion (hscheduled.symm.trans hfiring)
  · exact hnow

theorem Closing.mono {other : Request} {closing : List (Nat × RequestNotification)} (h : self.Closing closing)
    (hended : self.ended = true → other.ended = true) (hrefused : self.refused = other.refused) :
    other.Closing closing := by
  cases h with
  | failed answer time ending => exact .failed answer time ending
  | unwarned answer expires start ending early =>
      refine .unwarned answer expires start ending ?_
      rw [← hrefused]
      exact early.imp_right (Or.imp_left hended)
  | warned answer expires start ending late =>
      refine .warned answer expires start ending ?_
      rw [← hrefused]
      exact late.imp_right (Or.imp_left hended)

theorem send_of_sent (h : self.state ≠ .init) (timeout : Option Rat) (env : RequestEnv) :
    self.send timeout env = self := if_pos (Or.inl h)

theorem cbTimer_inProgress (h : self.state = .inProgress) (env : RequestEnv) :
    self.cbTimer env = self.tsxTerminate requestTimeout := by
  rw [cbTimer.eq_def, h]

/-- The warning, and the timer of the end. -/
theorem cbTimer_warning (h : self.state = .expiring) (hrest : 0 < self.expireRest) (env : RequestEnv) :
    self.cbTimer env =
      let warned := ({ self.post (.willExpire self.expireRest) with expireRest := 0 } : Request).schedule
        env.expiryAccepted (self.expireRest.toNat * 1000)
      if warned.refused then warned.finish else { warned with timerActive := true } := by
  rw [cbTimer.eq_def, h]
  dsimp only
  rw [if_pos hrest]

theorem cbTimer_expiry (h : self.state = .expiring) (hrest : self.expireRest = 0) (env : RequestEnv) :
    self.cbTimer env = self.finish := by
  rw [cbTimer.eq_def, h]
  dsimp only
  rw [if_neg (by omega)]

theorem endRequest_inProgress (h : self.state = .inProgress) : self.endRequest = self.tsxTerminate requestTimeout := by
  rw [endRequest, h]

theorem endRequest_expiring (h : self.state = .expiring) :
    self.endRequest = { self.cancel with timerActive := false }.finish := by
  rw [endRequest, h]

theorem Unsent.step (h : self.Unsent) (input : RequestInput) : (self.step input).Phase := by
  obtain ⟨tsx, htsx, hnull⟩ := h.tsx
  have hanswered : self.Answered := by
    intro other hother
    obtain rfl := Option.some.inj (htsx.symm.trans hother)
    rw [Transaction.waits, hnull]
    rfl
  cases input with
  | send timeout env =>
      show (self.send timeout env).Phase
      rw [send]
      split
      next => exact .unsent h
      next =>
        dsimp only
        split
        next => exact .unsent ⟨h.state, h.posted, h.timer, h.tsx⟩
        next =>
          apply Phase.waiting
          obtain ⟨timer, active, refused, heq, hactive⟩ := startTimeout_eq (show ({ self with
              timeout := timeout, tsx := self.tsx.map fun tsx => { tsx with state := .calling } } : Request).Unscheduled
            from fun due htimer => TimerEntry.noConfusion (h.timer.symm.trans htimer)) env
          rw [heq]
          refine ⟨rfl, ?_, ⟨{ tsx with state := .calling }, ?_, Or.inl rfl⟩, ?_⟩
          · show Provisional self.posted
            rw [h.posted]
            exact List.forall_mem_nil _
          · show self.tsx.map _ = _
            rw [htsx]
            rfl
          · intro due htimer
            show (active || timeout.isNone) = true
            rw [hactive due htimer, Bool.true_or]
  | endRequest =>
      refine .unsent ?_
      rw [show self.step .endRequest = { self.endRequest with ended := true } from rfl, endRequest, h.state]
      exact ⟨h.state, h.posted, h.timer, h.tsx⟩
  | received response env =>
      rw [show self.step (.received response env) = self from ?_]
      · exact .unsent h
      · rw [Request.step, if_neg (by rw [h.timer]; decide), received_of_answered hanswered]
  | tsxTerminated status =>
      rw [show self.step (.tsxTerminated status) = self from ?_]
      · exact .unsent h
      · rw [Request.step, if_neg (by rw [h.timer]; decide), transactionTerminated, htsx]
        dsimp only
        rw [hanswered tsx htsx, if_neg Bool.false_ne_true, if_neg (by rw [hnull]; decide)]
  | elapse milliseconds =>
      obtain ⟨now, heq⟩ := self.elapse_eq milliseconds
      rw [show self.step (.elapse milliseconds) = { self with now := now } from heq]
      exact .unsent ⟨h.state, h.posted, h.timer, h.tsx⟩
  | pollTimer =>
      rw [show self.step .pollTimer = self from ?_]
      · exact .unsent h
      · rw [Request.step, pollTimer.eq_def, h.timer]
  | timerCallback env =>
      rw [show self.step (.timerCallback env) = self from ?_]
      · exact .unsent h
      · rw [Request.step, timerCallback.eq_def, h.timer]

theorem Waiting.step (h : self.Waiting) (input : RequestInput) : (self.step input).Phase := by
  have hsent : self.state ≠ .init := by
    rw [h.state]
    decide
  cases input with
  | send timeout env =>
      rw [show self.step (.send timeout env) = self from send_of_sent hsent timeout env]
      exact .waiting h
  | endRequest =>
      have hended : (self.tsxTerminate requestTimeout).Ended := tsxTerminate_ended h requestTimeout
      rw [show self.step .endRequest = { self.endRequest with ended := true } from rfl, endRequest_inProgress h.state]
      obtain ⟨before, closing, hbefore, hposted, hclosing⟩ := hended.posted
      exact .ended ⟨hended.state, ⟨before, closing, hbefore, hposted, hclosing.mono (fun _ => rfl) rfl⟩, hended.answered,
        hended.unscheduled⟩
  | received response env =>
      rw [Request.step]
      split
      next => exact .waiting h
      next => exact received_phase h response env
  | tsxTerminated status =>
      rw [Request.step]
      split
      next => exact .waiting h
      next =>
        obtain ⟨tsx, htsx, halive⟩ := h.alive
        rw [transactionTerminated, htsx]
        dsimp only
        split
        next => exact .ended (tsxTerminate_ended h status)
        next hwaits => 
          rw [if_pos (halive.resolve_left hwaits)]
          exact .ended (tsxTerminate_ended h tsx.status)
  | elapse milliseconds =>
      obtain ⟨now, heq⟩ := self.elapse_eq milliseconds
      rw [show self.step (.elapse milliseconds) = { self with now := now } from heq]
      exact .waiting ⟨h.state, h.provisional, h.alive, h.active⟩
  | pollTimer =>
      rcases self.pollTimer_eq with heq | heq
      · rw [show self.step .pollTimer = self from heq]
        exact .waiting h
      · rw [show self.step .pollTimer = { self with timer := .firing } from heq]
        exact .waiting ⟨h.state, h.provisional, h.alive, fun due htimer => TimerEntry.noConfusion htimer⟩
  | timerCallback env =>
      rw [Request.step, timerCallback.eq_def]
      split
      next =>
        have hwaiting : ({ self with timer := .idle, timerActive := false } : Request).Waiting :=
          ⟨h.state, h.provisional, h.alive, fun due htimer => TimerEntry.noConfusion htimer⟩
        rw [cbTimer_inProgress hwaiting.state]
        exact .ended (tsxTerminate_ended hwaiting requestTimeout)
      next => exact .waiting h

theorem expiryRest_pos (expires : Int) : 0 < expiryRest expires := by
  rw [expiryRest]
  omega

theorem Succeeded.step (h : self.Succeeded) (input : RequestInput) : (self.step input).Phase := by
  obtain ⟨before, start, answer, expires, hbefore, hposted, hrest, hruns⟩ := h.posted
  have hsent : self.state ≠ .init := by
    rw [h.state]
    decide
  cases input with
  | send timeout env =>
      rw [show self.step (.send timeout env) = self from send_of_sent hsent timeout env]
      exact .succeeded h
  | endRequest =>
      rw [show self.step .endRequest = { self.endRequest with ended := true } from rfl, endRequest_expiring h.state,
        cancel_eq]
      refine .ended ⟨rfl, ⟨before, _, hbefore, ?_, .unwarned answer expires start self.now (Or.inr (Or.inl rfl))⟩,
        h.answered, cancel_unscheduled⟩
      show self.posted ++ [(self.now, .didEnd)] = _
      rw [hposted, List.append_assoc]
      rfl
  | received response env =>
      rw [Request.step, received_of_answered h.answered, ite_self]
      exact .succeeded h
  | tsxTerminated status =>
      rw [Request.step]
      split
      next => exact .succeeded h
      next =>
        rcases transactionTerminated_of_answered h.answered (by rw [h.state]; decide) status with heq | heq
        · rw [heq]
          exact .succeeded h
        · rw [heq]
          exact .succeeded ⟨h.state, ⟨before, start, answer, expires, hbefore, hposted, hrest, hruns⟩,
            fun _ htsx => (nomatch htsx)⟩
  | elapse milliseconds =>
      have hruns := hruns.elapse milliseconds
      obtain ⟨now, heq⟩ := self.elapse_eq milliseconds
      rw [heq] at hruns
      rw [show self.step (.elapse milliseconds) = { self with now := now } from heq]
      exact .succeeded ⟨h.state, ⟨before, start, answer, expires, hbefore, hposted, hrest, hruns⟩, h.answered⟩
  | pollTimer =>
      have hruns := hruns.pollTimer
      rcases self.pollTimer_eq with heq | heq
      · rw [show self.step .pollTimer = self from heq]
        exact .succeeded h
      · rw [heq] at hruns
        rw [show self.step .pollTimer = { self with timer := .firing } from heq]
        exact .succeeded ⟨h.state, ⟨before, start, answer, expires, hbefore, hposted, hrest, hruns⟩, h.answered⟩
  | timerCallback env =>
      rw [Request.step, timerCallback.eq_def]
      split
      next hfiring =>
        have hnow := hruns.firing hfiring
        have hposted : self.posted ++ [(self.now, RequestNotification.willExpire self.expireRest)] =
            before ++ [(start, .didSucceed answer expires),
              (warningTime start expires, .willExpire (expiryRest expires))] := by
          rw [hposted, hnow, hrest, List.append_assoc]
          rfl
        have hpositive : 0 < self.expireRest := by
          rw [hrest]
          exact expiryRest_pos expires
        rw [@cbTimer_warning { self with timer := .idle, timerActive := false } h.state hpositive env]
        dsimp only
        have hidle : ({ ({ self with timer := .idle, timerActive := false } : Request).post
            (.willExpire self.expireRest) with expireRest := 0 } : Request).Unscheduled :=
          fun due htimer => TimerEntry.noConfusion htimer
        rcases schedule_cases hidle env.expiryAccepted (self.expireRest.toNat * 1000) with heq | heq
        · rw [heq]
          refine .warned ⟨h.state, ⟨before, start, answer, expires, hbefore, hposted, rfl, Or.inl ⟨?_, ?_⟩⟩, h.answered⟩
          · show TimerEntry.scheduled (self.now + self.expireRest.toNat * 1000) = _
            rw [hnow, hrest]
            rfl
          · show self.now ≤ expiryTime start expires
            rw [hnow]
            exact Nat.le_add_right _ _
        · rw [heq]
          refine .ended ⟨rfl, ⟨before, _, hbefore, ?_, .warned answer expires start self.now (Or.inr (Or.inr ⟨rfl, hnow⟩))⟩,
            h.answered, hidle⟩
          show self.posted ++ [(self.now, .willExpire self.expireRest)] ++ [(self.now, .didEnd)] = _
          rw [hposted, List.append_assoc]
          rfl
      next => exact .succeeded h

theorem Warned.step (h : self.Warned) (input : RequestInput) : (self.step input).Phase := by
  obtain ⟨before, start, answer, expires, hbefore, hposted, hrest, hruns⟩ := h.posted
  have hsent : self.state ≠ .init := by
    rw [h.state]
    decide
  have hending (time : Nat) : self.posted ++ [(time, RequestNotification.didEnd)] =
      before ++ [(start, .didSucceed answer expires), (warningTime start expires, .willExpire (expiryRest expires)),
        (time, .didEnd)] := by
    rw [hposted, List.append_assoc]
    rfl
  cases input with
  | send timeout env =>
      rw [show self.step (.send timeout env) = self from send_of_sent hsent timeout env]
      exact .warned h
  | endRequest =>
      rw [show self.step .endRequest = { self.endRequest with ended := true } from rfl, endRequest_expiring h.state,
        cancel_eq]
      exact .ended ⟨rfl, ⟨before, _, hbefore, hending self.now,
        .warned answer expires start self.now (Or.inr (Or.inl rfl))⟩, h.answered, cancel_unscheduled⟩
  | received response env =>
      rw [Request.step, received_of_answered h.answered, ite_self]
      exact .warned h
  | tsxTerminated status =>
      rw [Request.step]
      split
      next => exact .warned h
      next =>
        rcases transactionTerminated_of_answered h.answered (by rw [h.state]; decide) status with heq | heq
        · rw [heq]
          exact .warned h
        · rw [heq]
          exact .warned ⟨h.state, ⟨before, start, answer, expires, hbefore, hposted, hrest, hruns⟩,
            fun _ htsx => (nomatch htsx)⟩
  | elapse milliseconds =>
      have hruns := hruns.elapse milliseconds
      obtain ⟨now, heq⟩ := self.elapse_eq milliseconds
      rw [heq] at hruns
      rw [show self.step (.elapse milliseconds) = { self with now := now } from heq]
      exact .warned ⟨h.state, ⟨before, start, answer, expires, hbefore, hposted, hrest, hruns⟩, h.answered⟩
  | pollTimer =>
      have hruns := hruns.pollTimer
      rcases self.pollTimer_eq with heq | heq
      · rw [show self.step .pollTimer = self from heq]
        exact .warned h
      · rw [heq] at hruns
        rw [show self.step .pollTimer = { self with timer := .firing } from heq]
        exact .warned ⟨h.state, ⟨before, start, answer, expires, hbefore, hposted, hrest, hruns⟩, h.answered⟩
  | timerCallback env =>
      rw [Request.step, timerCallback.eq_def]
      split
      next hfiring =>
        rw [@cbTimer_expiry { self with timer := .idle, timerActive := false } h.state hrest env]
        exact .ended ⟨rfl, ⟨before, _, hbefore, hending self.now,
          .warned answer expires start self.now (Or.inl (hruns.firing hfiring))⟩, h.answered,
          fun due htimer => TimerEntry.noConfusion htimer⟩
      next => exact .warned h

theorem Ended.step (h : self.Ended) (input : RequestInput) : (self.step input).Phase := by
  obtain ⟨before, closing, hbefore, hposted, hclosing⟩ := h.posted
  have hsent : self.state ≠ .init := by
    rw [h.state]
    decide
  cases input with
  | send timeout env =>
      rw [show self.step (.send timeout env) = self from send_of_sent hsent timeout env]
      exact .ended h
  | endRequest =>
      have hend : self.endRequest = self := by rw [endRequest, h.state]
      rw [show self.step .endRequest = { self.endRequest with ended := true } from rfl, hend]
      exact .ended ⟨h.state, ⟨before, closing, hbefore, hposted, hclosing.mono (fun _ => rfl) rfl⟩, h.answered,
        h.unscheduled⟩
  | received response env =>
      rw [Request.step, received_of_answered h.answered, ite_self]
      exact .ended h
  | tsxTerminated status =>
      rw [Request.step]
      split
      next => exact .ended h
      next =>
        rcases transactionTerminated_of_answered h.answered (by rw [h.state]; decide) status with heq | heq
        · rw [heq]
          exact .ended h
        · rw [heq]
          exact .ended ⟨h.state, ⟨before, closing, hbefore, hposted, hclosing.mono id rfl⟩,
            fun _ htsx => (nomatch htsx), h.unscheduled⟩
  | elapse milliseconds =>
      obtain ⟨now, heq⟩ := self.elapse_eq milliseconds
      rw [show self.step (.elapse milliseconds) = { self with now := now } from heq]
      exact .ended ⟨h.state, ⟨before, closing, hbefore, hposted, hclosing.mono id rfl⟩, h.answered, h.unscheduled⟩
  | pollTimer =>
      have hpoll : self.pollTimer = self := by
        rw [pollTimer.eq_def]
        split
        next due htimer => exact absurd htimer (h.unscheduled due)
        next => rfl
      rw [show self.step .pollTimer = self from hpoll]
      exact .ended h
  | timerCallback env =>
      rw [Request.step, timerCallback.eq_def]
      split
      next =>
        have htimer : ({ self with timer := .idle, timerActive := false } : Request).cbTimer env =
            { self with timer := .idle, timerActive := false } := by
          rw [cbTimer.eq_def]
          dsimp only
          rw [h.state]
        rw [htimer]
        exact .ended ⟨h.state, ⟨before, closing, hbefore, hposted, hclosing.mono id rfl⟩, h.answered,
          fun due htimer => TimerEntry.noConfusion htimer⟩
      next => exact .ended h

theorem Phase.step (h : self.Phase) (input : RequestInput) : (self.step input).Phase := by
  cases h with
  | unsent h => exact h.step input
  | waiting h => exact h.step input
  | succeeded h => exact h.step input
  | warned h => exact h.step input
  | ended h => exact h.step input

theorem run_phase (credentials : Bool) (contactHeader : Option (Option SIPURI)) (extraHeaders : List (String × Str))
    (inputs : List RequestInput) : (Runs.run Request.step (new credentials contactHeader extraHeaders) inputs).Phase := by
  apply Runs.always_run
  · exact fun _ input h => h.step input
  · exact .unsent ⟨rfl, rfl, rfl, ⟨_, rfl, rfl⟩⟩

/-! ### The life cycle -/

/-- Provisional responses, and then a beginning of what is posted with the outcome. -/
def Orderly (posted : List RequestNotification) : Prop :=
  ∃ provisional outcome, posted = provisional ++ outcome ∧
    (∀ notification ∈ provisional, ∃ answer, notification = .gotProvisionalResponse answer) ∧
    ((∃ answer, outcome <+: [.didFail answer, .didEnd]) ∨
      (∃ answer expires, outcome <+: [.didSucceed answer expires, .didEnd]) ∨
      ∃ answer expires rest, outcome <+: [.didSucceed answer expires, .willExpire rest, .didEnd])

/-- A callback is still to come: of the transaction, or of the timer. -/
def Outstanding (request : Request) : Prop :=
  (∃ tsx ∈ request.tsx, tsx.waits = true ∨ tsx.state = .completed) ∨ request.timer ≠ .idle

/-- The time is that of the warning, or of the success if there was no warning. -/
def AtOnce (request : Request) (start time : Nat) : Prop :=
  (∃ rest, (time, .willExpire rest) ∈ request.posted) ∨
    (time = start ∧ ∀ time rest, (time, .willExpire rest) ∉ request.posted)

/-- How a request that succeeded at a time goes on, where its expiry is two seconds or more. -/
structure Expiry (request : Request) (start : Nat) (expires : Int) : Prop where
  warned : ∀ time rest, (time, .willExpire rest) ∈ request.posted → start ≤ time ∧ time < start + expires * 1000
  ending : ∀ time, (time, .didEnd) ∈ request.posted → request.ended = true ∨
    (request.refused = true ∧ request.AtOnce start time) ∨
    (time = start + expires * 1000 ∧ ∃ time rest, (time, .willExpire rest) ∈ request.posted)
  due : (∀ time, (time, .didEnd) ∉ request.posted) → request.now ≤ start + expires * 1000

structure LifeCycle (request : Request) : Prop where
  order : Orderly (request.posted.map Prod.snd)
  complete : request.state ≠ .init → .didEnd ∈ request.posted.map Prod.snd ∨ request.Outstanding
  expiry : ∀ start answer expires, (start, .didSucceed answer expires) ∈ request.posted → 2 ≤ expires →
    request.Expiry start expires

theorem warningTime_eq (start : Nat) {expires : Int} (h : 2 ≤ expires) :
    start ≤ warningTime start expires ∧ warningTime start expires < start + expires * 1000 := by
  rw [warningTime, expiryDelay, expireWarningTime]
  omega

theorem expiryTime_eq (start : Nat) {expires : Int} (h : 2 ≤ expires) :
    (expiryTime start expires : Int) = start + expires * 1000 := by
  rw [expiryTime, warningTime, expiryRest, expiryDelay, expireWarningTime]
  omega

theorem mem_of_posted {posted before closing : List (Nat × RequestNotification)} (hbefore : Provisional before)
    (hposted : posted = before ++ closing) {entry : Nat × RequestNotification}
    (hentry : ∀ answer, entry.2 ≠ .gotProvisionalResponse answer) : entry ∈ posted ↔ entry ∈ closing := by
  rw [hposted, List.mem_append]
  constructor
  · rintro (hmem | hmem)
    · obtain ⟨answer, hanswer⟩ := hbefore entry hmem
      exact absurd hanswer (hentry answer)
    · exact hmem
  · exact Or.inr

theorem orderly_of_posted {posted before closing : List (Nat × RequestNotification)} (hbefore : Provisional before)
    (hposted : posted = before ++ closing)
    (hclosing : (∃ answer, closing.map Prod.snd <+: [.didFail answer, .didEnd]) ∨
      (∃ answer expires, closing.map Prod.snd <+: [.didSucceed answer expires, .didEnd]) ∨
      ∃ answer expires rest, closing.map Prod.snd <+: [.didSucceed answer expires, .willExpire rest, .didEnd]) :
    Orderly (posted.map Prod.snd) := by
  refine ⟨before.map Prod.snd, closing.map Prod.snd, by rw [hposted, List.map_append], ?_, hclosing⟩
  intro notification hnotification
  obtain ⟨entry, hentry, rfl⟩ := List.mem_map.mp hnotification
  exact hbefore entry hentry

theorem RunsAt.now_le {due : Nat} (h : self.RunsAt due) : self.now ≤ due := by
  rcases h with ⟨-, hnow⟩ | ⟨-, hnow⟩
  · exact hnow
  · exact Nat.le_of_eq hnow

theorem RunsAt.outstanding {due : Nat} (h : self.RunsAt due) : self.Outstanding := by
  refine Or.inr fun hidle => ?_
  rcases h with ⟨htimer, -⟩ | ⟨htimer, -⟩
  · exact TimerEntry.noConfusion (hidle.symm.trans htimer)
  · exact TimerEntry.noConfusion (hidle.symm.trans htimer)

theorem Unsent.lifeCycle (h : self.Unsent) : self.LifeCycle where
  order := orderly_of_posted (List.forall_mem_nil _) h.posted (Or.inl ⟨none, List.nil_prefix⟩)
  complete hsent := absurd h.state hsent
  expiry start answer expires hmem := by
    rw [h.posted] at hmem
    cases hmem

theorem Waiting.lifeCycle (h : self.Waiting) : self.LifeCycle where
  order := orderly_of_posted h.provisional (List.append_nil _).symm (Or.inl ⟨none, List.nil_prefix⟩)
  complete _ := by
    obtain ⟨tsx, htsx, halive⟩ := h.alive
    exact Or.inr (Or.inl ⟨tsx, htsx, halive⟩)
  expiry start answer expires hmem := by
    obtain ⟨other, hother⟩ := h.provisional _ hmem
    cases hother

theorem Succeeded.lifeCycle (h : self.Succeeded) : self.LifeCycle := by
  obtain ⟨before, start, answer, expires, hbefore, hposted, -, hruns⟩ := h.posted
  refine ⟨orderly_of_posted hbefore hposted (Or.inr (Or.inl ⟨answer, expires, ?_⟩)), fun _ => Or.inr hruns.outstanding,
    ?_⟩
  · exact ⟨[.didEnd], rfl⟩
  · intro start' answer' expires' hmem htwo
    rw [mem_of_posted hbefore hposted (by simp), List.mem_singleton, Prod.mk.injEq,
      RequestNotification.didSucceed.injEq] at hmem
    obtain ⟨rfl, -, rfl⟩ := hmem
    refine ⟨fun time rest hmem => ?_, fun time hmem => ?_, fun _ => ?_⟩
    · rw [mem_of_posted hbefore hposted (by simp)] at hmem
      simp at hmem
    · rw [mem_of_posted hbefore hposted (by simp)] at hmem
      simp at hmem
    · have hnow := hruns.now_le
      have hwarning := (warningTime_eq start' htwo).2
      omega

theorem Warned.lifeCycle (h : self.Warned) : self.LifeCycle := by
  obtain ⟨before, start, answer, expires, hbefore, hposted, -, hruns⟩ := h.posted
  refine ⟨orderly_of_posted hbefore hposted (Or.inr (Or.inr ⟨answer, expires, expiryRest expires, ?_⟩)),
    fun _ => Or.inr hruns.outstanding, ?_⟩
  · exact ⟨[.didEnd], rfl⟩
  · intro start' answer' expires' hmem htwo
    rw [mem_of_posted hbefore hposted (by simp)] at hmem
    obtain ⟨rfl, -, rfl⟩ : start' = start ∧ answer' = answer ∧ expires' = expires := by simpa using hmem
    refine ⟨fun time rest hmem => ?_, fun time hmem => ?_, fun _ => ?_⟩
    · rw [mem_of_posted hbefore hposted (by simp)] at hmem
      obtain ⟨rfl, -⟩ : time = warningTime start' expires' ∧ rest = expiryRest expires' := by simpa using hmem
      exact warningTime_eq start' htwo
    · rw [mem_of_posted hbefore hposted (by simp)] at hmem
      simp at hmem
    · have hnow := hruns.now_le
      have hexpiry := expiryTime_eq start' htwo
      omega

theorem Ended.lifeCycle (h : self.Ended) : self.LifeCycle := by
  obtain ⟨before, closing, hbefore, hposted, hclosing⟩ := h.posted
  have hend (time : Nat) (hmem : (time, RequestNotification.didEnd) ∈ closing) :
      RequestNotification.didEnd ∈ self.posted.map Prod.snd :=
    List.mem_map.mpr ⟨(time, .didEnd), (mem_of_posted hbefore hposted (by simp)).mpr hmem, rfl⟩
  cases hclosing with
  | failed answer time ending =>
      refine ⟨orderly_of_posted hbefore hposted (Or.inl ⟨answer, List.prefix_rfl⟩), fun _ => Or.inl (hend ending (by simp)), ?_⟩
      intro start answer expires hmem
      rw [mem_of_posted hbefore hposted (by simp)] at hmem
      simp at hmem
  | unwarned answer expires start ending early =>
      refine ⟨orderly_of_posted hbefore hposted (Or.inr (Or.inl ⟨answer, expires, List.prefix_rfl⟩)),
        fun _ => Or.inl (hend ending (by simp)), ?_⟩
      intro start' answer' expires' hmem htwo
      rw [mem_of_posted hbefore hposted (by simp)] at hmem
      obtain ⟨rfl, -, rfl⟩ : start' = start ∧ answer' = answer ∧ expires' = expires := by simpa using hmem
      refine ⟨fun time rest hmem => ?_, fun time hmem => ?_, fun hnone => absurd ?_ (hnone ending)⟩
      · rw [mem_of_posted hbefore hposted (by simp)] at hmem
        simp at hmem
      · obtain rfl : time = ending := by
          rw [mem_of_posted hbefore hposted (by simp)] at hmem
          simpa using hmem
        rcases early with rfl | hended | ⟨hrefused, htime⟩
        · omega
        · exact Or.inl hended
        · refine Or.inr (Or.inl ⟨hrefused, Or.inr ⟨htime, fun other rest hother => ?_⟩⟩)
          rw [mem_of_posted hbefore hposted (by simp)] at hother
          simp at hother
      · exact (mem_of_posted hbefore hposted (by simp)).mpr (by simp)
  | warned answer expires start ending late =>
      refine ⟨orderly_of_posted hbefore hposted (Or.inr (Or.inr ⟨answer, expires, _, List.prefix_rfl⟩)),
        fun _ => Or.inl (hend ending (by simp)), ?_⟩
      intro start' answer' expires' hmem htwo
      rw [mem_of_posted hbefore hposted (by simp)] at hmem
      obtain ⟨rfl, -, rfl⟩ : start' = start ∧ answer' = answer ∧ expires' = expires := by simpa using hmem
      refine ⟨fun time rest hmem => ?_, fun time hmem => ?_, fun hnone => absurd ?_ (hnone ending)⟩
      · rw [mem_of_posted hbefore hposted (by simp)] at hmem
        obtain ⟨rfl, -⟩ : time = warningTime start' expires' ∧ rest = expiryRest expires' := by simpa using hmem
        exact warningTime_eq start' htwo
      · rw [mem_of_posted hbefore hposted (by simp)] at hmem
        obtain rfl : time = ending := by simpa using hmem
        rcases late with rfl | hended | ⟨hrefused, rfl⟩
        · refine Or.inr (Or.inr ⟨expiryTime_eq start' htwo, warningTime start' expires', expiryRest expires', ?_⟩)
          exact (mem_of_posted hbefore hposted (by simp)).mpr (by simp)
        · exact Or.inl hended
        · refine Or.inr (Or.inl ⟨hrefused, Or.inl ⟨expiryRest expires', ?_⟩⟩)
          exact (mem_of_posted hbefore hposted (by simp)).mpr (by simp)
      · exact (mem_of_posted hbefore hposted (by simp)).mpr (by simp)

/-- **The life cycle of a request**, in every run. -/
theorem lifeCycle_of_run (credentials : Bool) (contactHeader : Option (Option SIPURI)) (extraHeaders : List (String × Str))
    (inputs : List RequestInput) :
    (Runs.run Request.step (new credentials contactHeader extraHeaders) inputs).LifeCycle := by
  cases run_phase credentials contactHeader extraHeaders inputs with
  | unsent h => exact h.lifeCycle
  | waiting h => exact h.lifeCycle
  | succeeded h => exact h.lifeCycle
  | warned h => exact h.lifeCycle
  | ended h => exact h.lifeCycle

/-- An expiry of ten minutes, for which PJSIP has no timer. -/
theorem ends_at_once_when_refused :
    let request := Runs.run Request.step (new false none []) [.send none {},
      .received { answer := ⟨200, "OK"⟩, headers := some { expires := some 600 } } { expiryAccepted := false }]
    request.posted = [(0, .didSucceed (some ⟨200, "OK"⟩) 600), (0, .didEnd)] ∧ request.ended = false := by
  decide

end Request

end SipSimple.Core
