import SipSimple.Core.InvitationTransfer

/-!
# The outcome of a call transfer

What an invitation posts about its transfers: each is announced, and then it ends or fails. A transfer that is about to
end has a timer for its end; nothing else may end it, or announce another one, before that timer has run. Nothing in
the code sees to this, and a REFER that cannot be sent leaves a subscription that was never announced.
-/

namespace SipSimple.Core

/-! ### What was posted -/

inductive TransferPhase where
  | idle | underWay | over
  deriving DecidableEq, Repr

namespace TransferPhase

/-- An announcement begins a transfer, where none is under way; an outcome ends one that is. -/
def next (phase : TransferPhase) : TransferNotification → Option TransferPhase
  | .newIncoming | .newOutgoing => if phase = .underWay then none else some .underWay
  | .didEnd | .didFail _ _ => if phase = .underWay then some .over else none
  | _ => some phase

/-- The phase after the notifications, if each transfer has one outcome and none comes before its announcement. -/
def after (posted : List TransferNotification) : Option TransferPhase := posted.foldlM next idle

theorem after_append (posted : List TransferNotification) (notification : TransferNotification) :
    after (posted ++ [notification]) = (after posted).bind fun phase => phase.next notification := by
  rw [after, List.foldlM_append]
  cases h : posted.foldlM next idle with
  | none => simp [after, h]
  | some phase => simp [after, h]

end TransferPhase

namespace InvitationTransfer

variable {call : InvitationTransfer}

/-! ### Ends -/

/-- The timer is for the end of the transfer. -/
def IsEnd : TransferTimer → Bool
  | .state .terminated _ _ => true
  | _ => false

/-- How many timers are for the end of the transfer. -/
def ends (call : InvitationTransfer) : Nat := call.timers.countP IsEnd

/-- `_terminate_transfer` ends the transfer itself. -/
def Terminates (call : InvitationTransfer) (env : TransferEnv) : Prop :=
  call.usage = some .uas ∧ call.state ≠ some .terminated ∧ notifies env = true ∨
    call.usage = some .uac ∧ (env.initiate && env.send) = false

/-- The step begins or ends a transfer. -/
def Decides (call : InvitationTransfer) : TransferInput → Prop
  | .transfer env => call.usage = none ∧ call.connected = true ∧ env.create = true
  | .refer readable _ => call.usage = none ∧ readable = true
  | .notifyTransferProgress code _ env => (200 ≤ code ∧ code < 700) ∧
      call.usage = some .uas ∧ call.state ≠ some .terminated ∧ notifies env = true
  | .evsubState state _ _ => state = .terminated ∧ call.usage = some .uac
  | .notifyAnswered code _ => Drops code ∧ call.usage = some .uas
  | .timeoutFires => call.timeoutTimer.isSome ∧ call.usage.isSome
  | .refreshFires env => call.refreshTimer.isSome ∧ call.Terminates env
  | .endDialog env => call.connected = true ∧ call.Terminates env
  | .runTimer env => (call.timers.head? = some .serverTimeout ∨ call.timers.head? = some .terminate) ∧ call.Terminates env
  | .dialogEnded | .fail => call.usage.isSome
  | _ => False

/-- The REFER goes out, or nothing is left of it. -/
def Sends : TransferInput → Prop
  | .transfer env => env.create = true → (env.initiate && env.send) = true
  | _ => True

/-- A transfer that is about to end is left alone. -/
def Careful (call : InvitationTransfer) (input : TransferInput) : Prop :=
  (0 < call.ends → ¬call.Decides input) ∧ Sends input

instance (call : InvitationTransfer) (env : TransferEnv) : Decidable (call.Terminates env) := by
  unfold Terminates
  infer_instance

instance (call : InvitationTransfer) (input : TransferInput) : Decidable (call.Decides input) := by
  cases input <;> unfold Decides <;> infer_instance

instance (input : TransferInput) : Decidable (Sends input) := by
  cases input <;> unfold Sends <;> infer_instance

instance (call : InvitationTransfer) (input : TransferInput) : Decidable (call.Careful input) := by
  unfold Careful
  infer_instance

/-! ### The invariant -/

/-- A transfer is under way as long as there is a subscription or a timer for the end, and there is one such timer. -/
structure Sound (call : InvitationTransfer) : Prop where
  phase : ∃ phase, TransferPhase.after call.posted = some phase ∧
    (phase = .underWay ↔ call.usage.isSome ∨ 0 < call.ends)
  ends : call.ends ≤ 1

theorem sound_new : Sound {} := ⟨⟨.idle, rfl, by decide⟩, by decide⟩

/-! ### Steps that decide nothing -/

/-- Nothing was announced or ended, and the timers for an end are as many as before. -/
structure Quiet (call other : InvitationTransfer) : Prop where
  phase : TransferPhase.after other.posted = TransferPhase.after call.posted
  usage : other.usage = call.usage
  ends : other.ends = call.ends

theorem Quiet.refl (call : InvitationTransfer) : call.Quiet call := ⟨rfl, rfl, rfl⟩

theorem Quiet.trans {other last : InvitationTransfer} (h : call.Quiet other) (hlast : other.Quiet last) :
    call.Quiet last :=
  ⟨hlast.phase.trans h.phase, hlast.usage.trans h.usage, hlast.ends.trans h.ends⟩

theorem Quiet.sound {other : InvitationTransfer} (h : call.Quiet other) (hsound : call.Sound) : other.Sound := by
  obtain ⟨phase, hphase, hunderWay⟩ := hsound.phase
  refine ⟨⟨phase, h.phase.trans hphase, ?_⟩, h.ends ▸ hsound.ends⟩
  rw [h.usage, h.ends]
  exact hunderWay

theorem after_post {notification : TransferNotification} (h : ∀ phase : TransferPhase, phase.next notification = some phase) :
    TransferPhase.after (call.post notification).posted = TransferPhase.after call.posted := by
  show TransferPhase.after (call.posted ++ [notification]) = _
  rw [TransferPhase.after_append]
  cases TransferPhase.after call.posted with
  | none => rfl
  | some phase => exact h phase

theorem quiet_post {notification : TransferNotification}
    (h : ∀ phase : TransferPhase, phase.next notification = some phase) : call.Quiet (call.post notification) :=
  ⟨after_post h, rfl, rfl⟩

theorem quiet_setState (call : InvitationTransfer) (state : TransferState) : call.Quiet (call.setState state) := by
  rw [setState]
  split
  · exact ⟨rfl, rfl, rfl⟩
  · exact ⟨after_post fun _ => rfl, rfl, rfl⟩

theorem ends_schedule (call : InvitationTransfer) (timer : TransferTimer) :
    (call.schedule timer).ends = call.ends + if IsEnd timer then 1 else 0 := by
  show (call.timers ++ [timer]).countP IsEnd = _
  rw [List.countP_append, List.countP_singleton]
  rfl

theorem quiet_schedule {timer : TransferTimer} (h : IsEnd timer = false) : call.Quiet (call.schedule timer) :=
  ⟨rfl, rfl, by rw [ends_schedule, h]; rfl⟩

theorem quiet_scheduleFor {role : TransferRole} {timer : TransferTimer} (h : IsEnd timer = false) :
    call.Quiet (call.scheduleFor role timer) := by
  rw [scheduleFor]
  split
  · exact quiet_schedule h
  · exact Quiet.refl call

theorem quiet_cbNotify (call : InvitationTransfer) (expires : Option Nat) : call.Quiet (call.cbNotify expires) := by
  cases expires with
  | none => exact quiet_post fun _ => rfl
  | some expires =>
      unfold cbNotify
      dsimp only
      split
      · have hrefresh : call.Quiet { call with refreshTimer := some (refreshDelay expires) } := ⟨rfl, rfl, rfl⟩
        exact hrefresh.trans (quiet_post fun _ => rfl)
      · exact quiet_post fun _ => rfl

/-! ### Beginnings and ends -/

/-- **The end of a transfer is on its way** once and not twice. -/
theorem sound_scheduleEnd (h : call.Sound) {timer : TransferTimer} (htimer : IsEnd timer = true)
    (husage : call.usage.isSome) (hends : call.ends = 0) : (call.schedule timer).Sound := by
  obtain ⟨phase, hphase, hunderWay⟩ := h.phase
  have hcount : (call.schedule timer).ends = 1 := by rw [ends_schedule, hends, htimer]; rfl
  refine ⟨⟨phase, hphase, iff_of_true (hunderWay.mpr (Or.inl husage)) (Or.inl husage)⟩, by omega⟩

/-- **The announcement of a transfer**, when none is under way. -/
theorem after_announce (h : call.Sound) {notification : TransferNotification}
    (hnotification : notification = .newIncoming ∨ notification = .newOutgoing) (husage : call.usage = none)
    (hends : call.ends = 0) :
    TransferPhase.after (call.posted ++ [notification]) = some .underWay := by
  obtain ⟨phase, hphase, hunderWay⟩ := h.phase
  have hne : phase ≠ .underWay := by
    rw [Ne, hunderWay, husage, hends]
    decide
  rw [TransferPhase.after_append, hphase]
  rcases hnotification with rfl | rfl
  · exact if_neg hne
  · exact if_neg hne

/-- **The outcome of a transfer** that is under way. -/
theorem after_outcome (h : call.Sound) {notification : TransferNotification}
    (hnotification : notification = .didEnd ∨ ∃ code reason, notification = .didFail code reason)
    (hunderWay : call.usage.isSome ∨ 0 < call.ends) :
    TransferPhase.after (call.posted ++ [notification]) = some .over := by
  obtain ⟨phase, hphase, hiff⟩ := h.phase
  rw [TransferPhase.after_append, hphase, hiff.mpr hunderWay]
  rcases hnotification with rfl | ⟨code, reason, rfl⟩ <;> rfl

/-- What `_terminate_transfer` comes to: nothing, or the timer for the end. -/
theorem terminateTransfer_cases (call : InvitationTransfer) (env : TransferEnv) :
    call.Quiet (call.terminateTransfer env) ∨
      call.Terminates env ∧ ∃ middle timer, call.Quiet middle ∧ IsEnd timer = true ∧
        call.terminateTransfer env = middle.schedule timer := by
  rw [terminateTransfer]
  cases hrole : call.usage with
  | none => exact Or.inl (Quiet.refl call)
  | some role =>
      cases role with
      | uac =>
          dsimp only
          rw [terminateTransferUac]
          cases hsent : env.initiate && env.send with
          | true => exact Or.inl ⟨rfl, rfl, rfl⟩
          | false => exact Or.inr ⟨Or.inr ⟨hrole, hsent⟩, call, _, Quiet.refl call, rfl, rfl⟩
      | uas =>
          dsimp only
          rw [terminateTransferUas]
          by_cases hstate : call.state = some .terminated
          · rw [if_pos hstate]
            exact Or.inl (Quiet.refl call)
          · rw [if_neg hstate]
            dsimp only
            split
            next hnotifies =>
              cases (call.setState .terminated).sipfragPayload.bind sipfragPattern.run with
              | none => exact Or.inl (quiet_setState call .terminated)
              | some found =>
                  exact Or.inr ⟨Or.inl ⟨hrole, hstate, hnotifies⟩, _, _, quiet_setState call .terminated, rfl, rfl⟩
            next => exact Or.inl (quiet_setState call .terminated)

theorem sound_terminateTransfer (h : call.Sound) {env : TransferEnv}
    (hcareful : 0 < call.ends → ¬call.Terminates env) : (call.terminateTransfer env).Sound := by
  rcases call.terminateTransfer_cases env with hquiet | ⟨hterminates, middle, timer, hquiet, htimer, heq⟩
  · exact hquiet.sound h
  · have hends : call.ends = 0 := Nat.eq_zero_of_not_pos fun hpos => hcareful hpos hterminates
    have husage : call.usage.isSome := by
      rcases hterminates with ⟨hrole, -⟩ | ⟨hrole, -⟩ <;> rw [hrole] <;> rfl
    rw [heq]
    exact sound_scheduleEnd (hquiet.sound h) htimer (hquiet.usage ▸ husage) (hquiet.ends.trans hends)

theorem sound_abandon (h : call.Sound) (reason : String) (hcareful : 0 < call.ends → ¬call.usage.isSome) :
    (call.abandon reason).Sound := by
  rw [abandon]
  split
  next husage =>
    have hends : call.ends = 0 := Nat.eq_zero_of_not_pos fun hpos => hcareful hpos husage
    refine ⟨⟨.over, after_outcome h (Or.inr ⟨_, _, rfl⟩) (Or.inl husage), ?_⟩, h.ends⟩
    show TransferPhase.over = .underWay ↔ (none : Option TransferRole).isSome ∨ 0 < call.ends
    rw [hends]
    decide
  next => exact ⟨h.phase, h.ends⟩

theorem sound_transfer (h : call.Sound) {env : TransferEnv} (hcareful : call.Careful (.transfer env)) :
    (call.transfer env).Sound := by
  rw [transfer]
  split
  next => exact h
  next hbegins =>
    obtain ⟨hconnected, husage, hcreate⟩ := by simpa only [not_or] using hbegins
    have hcreated : env.create = true := by simpa using hcreate
    have hsent : (env.initiate && env.send) = true := hcareful.2 hcreated
    have hnone : call.usage = none := Option.not_isSome_iff_eq_none.mp husage
    have hends : call.ends = 0 := Nat.eq_zero_of_not_pos fun hpos =>
      hcareful.1 hpos ⟨hnone, by simpa using hconnected, hcreated⟩
    rw [if_pos hsent]
    exact ⟨⟨.underWay, after_announce h (Or.inr rfl) hnone hends, iff_of_true rfl (Or.inl rfl)⟩, h.ends⟩

theorem sound_processIncomingTransfer (h : call.Sound) {readable : Bool} {env : TransferEnv}
    (hcareful : call.Careful (.refer readable env)) : (call.processIncomingTransfer readable env).Sound := by
  rw [processIncomingTransfer]
  split
  next => exact h
  next hbegins =>
    obtain ⟨husage, hreadable⟩ := not_or.mp hbegins
    have hnone : call.usage = none := Option.not_isSome_iff_eq_none.mp husage
    have hends : call.ends = 0 := Nat.eq_zero_of_not_pos fun hpos =>
      hcareful.1 hpos ⟨hnone, by simpa using hreadable⟩
    have hquiet := quiet_setState call .incoming
    have hphase := after_announce (hquiet.sound h) (Or.inl rfl) (hquiet.usage.trans hnone) (hquiet.ends.trans hends)
    have hcount : (((call.setState .incoming).post .newIncoming)).ends = 0 := hquiet.ends.trans hends
    dsimp only
    split
    · have hbegun : ({ (call.setState .incoming).post .newIncoming with usage := some .uas } :
          InvitationTransfer).Sound :=
        ⟨⟨.underWay, hphase, iff_of_true rfl (Or.inl rfl)⟩, (Nat.le_of_eq hcount).trans (Nat.zero_le 1)⟩
      split
      · exact (((quiet_setState _ .active).trans (quiet_post fun _ => rfl)).trans (quiet_schedule rfl)).sound hbegun
      · exact sound_scheduleEnd hbegun rfl rfl hcount
    · have hone : ∀ timer, IsEnd timer = true → (((call.setState .incoming).post .newIncoming).schedule timer).ends = 1 :=
        fun timer htimer => by rw [ends_schedule, hcount, htimer]; rfl
      refine ⟨⟨.underWay, hphase, iff_of_true rfl (Or.inr ?_)⟩, Nat.le_of_eq (hone _ rfl)⟩
      rw [hone _ rfl]
      decide

/-- **The callback of a subscription's state**, which was taken from the timers. -/
theorem sound_cbState {timers : List TransferTimer} {state : TransferState} {code : Nat} {reason : Option Str}
    (h : call.Sound) (htimers : call.timers = .state state code reason :: timers) :
    ((({ call with timers } : InvitationTransfer)).cbState state code reason).Sound := by
  have hcount : call.ends = (if IsEnd (.state state code reason) then 1 else 0) + timers.countP IsEnd := by
    rw [ends, htimers, List.countP_cons, Nat.add_comm]
  by_cases hstate : state = .terminated
  · subst hstate
    have hends : timers.countP IsEnd = 0 := by
      have := h.ends
      simp only [IsEnd, if_true] at hcount
      omega
    have hpos : 0 < call.ends := by
      rw [hcount]
      exact Nat.add_pos_left Nat.one_pos _
    have hquiet := quiet_setState ({ call with timers } : InvitationTransfer) .terminated
    rw [cbState, if_neg (by rintro ⟨h, -⟩; cases h), if_pos rfl]
    have hsound : (({ call with posted := (({ call with timers } : InvitationTransfer).setState .terminated).posted } :
        InvitationTransfer)).Sound := by
      obtain ⟨phase, hphase, hunderWay⟩ := h.phase
      exact ⟨⟨phase, hquiet.phase.trans hphase, hunderWay⟩, h.ends⟩
    have hover : ∀ notification : TransferNotification,
        (notification = .didEnd ∨ ∃ code reason, notification = .didFail code reason) →
        TransferPhase.after ((({ call with timers } : InvitationTransfer).setState .terminated).posted ++
          [notification]) = some .over := fun notification hnotification =>
      after_outcome hsound hnotification (Or.inr hpos)
    have hnothing : ((({ call with timers } : InvitationTransfer).setState .terminated).release).ends = 0 :=
      hquiet.ends.trans hends
    refine ⟨⟨.over, hover _ ?_, ?_⟩, (Nat.le_of_eq hnothing).trans (Nat.zero_le 1)⟩
    · split
      · exact Or.inl rfl
      · exact Or.inr ⟨code, reason, rfl⟩
    · show TransferPhase.over = .underWay ↔ (none : Option TransferRole).isSome ∨
        0 < ((({ call with timers } : InvitationTransfer).setState .terminated).release).ends
      rw [hnothing]
      decide
  · have hend : IsEnd (.state state code reason) = false := by
      cases state <;> first | rfl | exact absurd rfl hstate
    have hsame : call.Quiet ({ call with timers } : InvitationTransfer) := by
      refine ⟨rfl, rfl, ?_⟩
      show timers.countP IsEnd = call.ends
      rw [hcount, hend]
      simp
    have hquiet := hsame.trans (quiet_setState ({ call with timers } : InvitationTransfer) state)
    rw [cbState]
    dsimp only
    split
    · exact (hquiet.trans (quiet_post fun _ => rfl)).sound h
    · exact hquiet.sound h

/-- A timer with a delay that fires is no longer scheduled. -/
theorem sound_fired (h : call.Sound) (timeoutTimer refreshTimer : Option Nat) :
    ({ call with timeoutTimer, refreshTimer } : InvitationTransfer).Sound := ⟨h.phase, h.ends⟩

theorem sound_runTimer (h : call.Sound) {env : TransferEnv} (hcareful : call.Careful (.runTimer env)) :
    (call.step (.runTimer env)).Sound := by
  rw [step]
  cases htimers : call.timers with
  | nil => exact h
  | cons timer timers =>
      dsimp only
      have hquiet : IsEnd timer = false → call.Quiet ({ call with timers } : InvitationTransfer) := by
        intro hend
        refine ⟨rfl, rfl, ?_⟩
        show timers.countP IsEnd = call.ends
        rw [ends, htimers, List.countP_cons, hend]
        rfl
      have hterminates : ∀ other, IsEnd other = false → timer = other → (other = .serverTimeout ∨ other = .terminate) →
          ((({ call with timers } : InvitationTransfer)).terminateTransfer env).Sound := by
        rintro other hend rfl hother
        refine sound_terminateTransfer ((hquiet hend).sound h) fun hpos hterminates => ?_
        rw [(hquiet hend).ends] at hpos
        refine hcareful.1 hpos ⟨?_, hterminates⟩
        rw [htimers]
        exact hother.imp (congrArg some) (congrArg some)
      cases timer with
      | state state code reason => exact sound_cbState h htimers
      | response => exact ⟨((hquiet rfl).sound h).phase, ((hquiet rfl).sound h).ends⟩
      | notify expires => exact ((hquiet rfl).trans (quiet_cbNotify _ expires)).sound h
      | serverTimeout => exact hterminates .serverTimeout rfl rfl (Or.inl rfl)
      | terminate => exact hterminates .terminate rfl rfl (Or.inr rfl)
      | startIncoming => exact ⟨((hquiet rfl).sound h).phase, ((hquiet rfl).sound h).ends⟩

theorem sound_scheduleFor (h : call.Sound) {role : TransferRole} {timer : TransferTimer}
    (hends : call.usage = some role → IsEnd timer = true → call.ends = 0) :
    (call.scheduleFor role timer).Sound := by
  cases htimer : IsEnd timer with
  | false => exact (quiet_scheduleFor htimer).sound h
  | true =>
      rw [scheduleFor]
      split
      next hrole => exact sound_scheduleEnd h htimer (by rw [hrole]; rfl) (hends hrole htimer)
      next => exact h

theorem sound_notifyTransferProgress (h : call.Sound) {code : Int} {reason : Str} {env : TransferEnv}
    (hcareful : call.Careful (.notifyTransferProgress code reason env)) :
    (call.notifyTransferProgress code reason env).Sound := by
  rw [notifyTransferProgress]
  split
  next hrole =>
    have hsaved : ({ call with sipfragPayload := some (sipfragText code reason) } : InvitationTransfer).Sound :=
      ⟨h.phase, h.ends⟩
    dsimp only
    split
    next hfinal =>
      have hterminate : (({ call with sipfragPayload := some (sipfragText code reason) } :
          InvitationTransfer).terminateTransfer env).Sound := sound_terminateTransfer hsaved fun hpos hterminates => by
        rcases hterminates with hterminates | ⟨hother, -⟩
        · exact hcareful.1 hpos ⟨hfinal, hterminates⟩
        · rw [show call.usage = some .uas from hrole] at hother
          cases hother
      have heq : ({ call with sipfragPayload := some (sipfragText code reason) } : InvitationTransfer).terminateTransfer
          env = ({ call with sipfragPayload := some (sipfragText code reason) } :
            InvitationTransfer).terminateTransferUas env := by simp only [terminateTransfer, hrole]
      exact heq ▸ hterminate
    next => exact hsaved
  next => exact h

/-- **One step** keeps the invariant. -/
theorem sound_step (h : call.Sound) {input : TransferInput} (hcareful : call.Careful input) :
    (call.step input).Sound := by
  have hfree : call.Decides input → call.ends = 0 := fun hdecides =>
    Nat.eq_zero_of_not_pos fun hpos => hcareful.1 hpos hdecides
  cases input with
  | transfer env => exact sound_transfer h hcareful
  | refer readable env => exact sound_processIncomingTransfer h hcareful
  | notifyTransferProgress code reason env => exact sound_notifyTransferProgress h hcareful
  | evsubState state code reason =>
      refine sound_scheduleFor h fun hrole hend => hfree ⟨?_, hrole⟩
      cases state <;> first | rfl | cases hend
  | evsubResponse => exact sound_scheduleFor h fun _ hend => Bool.noConfusion hend
  | evsubNotify expires => exact sound_scheduleFor h fun _ hend => Bool.noConfusion hend
  | rxRefresh expires =>
      rw [step]
      split
      · exact sound_scheduleFor h fun _ hend => Bool.noConfusion hend
      · exact h
  | serverTimeout => exact sound_scheduleFor h fun _ hend => Bool.noConfusion hend
  | notifyAnswered code reason =>
      rw [step]
      split
      next hdrops => exact sound_scheduleFor h fun hrole _ => hfree ⟨hdrops, hrole⟩
      next => exact h
  | runTimer env => exact sound_runTimer h hcareful
  | timeoutFires =>
      rw [step]
      split
      next htimer =>
        dsimp only
        split
        next husage =>
          exact sound_scheduleEnd (sound_fired h none call.refreshTimer) rfl husage (hfree ⟨htimer, husage⟩)
        next => exact sound_fired h none call.refreshTimer
      next => exact h
  | refreshFires env =>
      rw [step]
      split
      next htimer =>
        exact sound_terminateTransfer (sound_fired h call.timeoutTimer none) fun hpos hterminates =>
          hcareful.1 hpos ⟨htimer, hterminates⟩
      next => exact h
  | endDialog env =>
      rw [step]
      split
      next hconnected =>
        have hended := sound_terminateTransfer h fun hpos hterminates =>
          hcareful.1 hpos ⟨hconnected, hterminates⟩
        exact ⟨hended.phase, hended.ends⟩
      next => exact h
  | dialogEnded => exact sound_abandon h _ hcareful.1
  | fail => exact sound_abandon h _ hcareful.1

/-- **Every transfer has one outcome**: in a run in which a transfer that is about to end is left alone, an outcome is
posted for a transfer that was announced and has none yet, and once the subscription is gone and no timer is left no
transfer is without one. -/
theorem one_outcome {inputs : List TransferInput} (h : Runs.Meets step Careful {} inputs) :
    ∃ phase, TransferPhase.after (Runs.run step {} inputs).posted = some phase ∧
      ((Runs.run step {} inputs).usage = none → (Runs.run step {} inputs).timers = [] → phase ≠ .underWay) := by
  have hsound : (Runs.run step {} inputs).Sound := 
    Runs.invariant_run Sound (fun _ _ hsound hcareful => sound_step hsound hcareful) sound_new h
  obtain ⟨phase, hphase, hunderWay⟩ := hsound.phase
  refine ⟨phase, hphase, fun husage htimers => ?_⟩
  rw [Ne, hunderWay, husage, ends, htimers]
  decide

/-! ### Two runs -/

/-- A transfer that succeeds, as the side that sends the REFER. -/
def outgoingTransfer : List TransferInput :=
  [.transfer {}, .evsubState .sent 0 none, .runTimer {}, .evsubResponse, .evsubState .accepted 202 none, .runTimer {},
    .runTimer {}, .evsubNotify (some 90), .runTimer {}, .evsubState .terminated 200 (some "OK".toList), .runTimer {}]

theorem one_outcome_outgoing : ∃ phase,
    TransferPhase.after (Runs.run step {} outgoingTransfer).posted = some phase ∧
      ((Runs.run step {} outgoingTransfer).usage = none → (Runs.run step {} outgoingTransfer).timers = [] →
        phase ≠ .underWay) :=
  one_outcome (by decide)

/-- The first NOTIFY is answered with 481, and before the timer for that has run the transfer is reported to have
succeeded. -/
def reportedTransfer : List TransferInput :=
  [.refer true {}, .runTimer {}, .notifyAnswered 481 "Call/Transaction Does Not Exist".toList,
    .notifyTransferProgress 200 "OK".toList {}, .runTimer {}, .runTimer {}]

/-- It fails and then ends. -/
theorem two_outcomes : ((Runs.run step {} reportedTransfer).posted.filter fun notification =>
      notification matches .didEnd | .didFail _ _) =
        [.didFail 481 (some "Call/Transaction Does Not Exist".toList), .didEnd] ∧
    TransferPhase.after (Runs.run step {} reportedTransfer).posted = none := by
  decide

end InvitationTransfer

end SipSimple.Core
