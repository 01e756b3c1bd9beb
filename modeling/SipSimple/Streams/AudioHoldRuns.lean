import SipSimple.Streams.AudioHold

/-!
# The hold state of an audio stream

In a run whose calls meet the condition no call raises, an offer has a hold direction exactly when the last of
`hold` and `unhold` was `hold`, and the stream is in its bridge exactly when it is established, not inactive, and
not held from here. The condition leaves out what the code gets wrong: it forgets a request when the other side
renegotiates first, it takes a direction that the other side has asked for as its own hold, it puts a stream into
the bridge before ICE is done or while it is inactive, and it loses track of the recorder.
-/

namespace SipSimple.Streams

namespace AudioStream

variable {stream : AudioStream} {direction : MediaDirection} {remote : RemoteMedia}
  {isInitial iceActive creates starts : Bool}

/-- A recorder that does not run yet starts. -/
def RecorderStarts (stream : AudioStream) (starts : Bool) : Prop :=
  stream.recorder.all fun recorder => recorder.isActive || starts

/-- A renegotiation to the direction does what was requested. -/
structure Fits (stream : AudioStream) (direction : MediaDirection) (starts : Bool) : Prop where
  /-- The direction is a hold from here if and only if the stream is to be held. -/
  hold : stream.localHold direction = stream.held
  inactive : direction = .inactive → stream.inBridge = false
  ice : stream.state = .waitIce → stream.resumes direction false = false
  recorder : stream.RecorderStarts starts

instance : Decidable (stream.RecorderStarts starts) := inferInstanceAs (Decidable (_ = true))

instance : Decidable (stream.Fits direction starts) :=
  decidable_of_iff (stream.localHold direction = stream.held ∧ (direction = .inactive → stream.inBridge = false) ∧
      (stream.state = .waitIce → stream.resumes direction false = false) ∧ stream.RecorderStarts starts)
    ⟨fun ⟨hhold, hinactive, hice, hrecorder⟩ => ⟨hhold, hinactive, hice, hrecorder⟩,
      fun ⟨hhold, hinactive, hice, hrecorder⟩ => ⟨hhold, hinactive, hice, hrecorder⟩⟩

/-- The stream is to be in its bridge. -/
def Joined (stream : AudioStream) : Prop :=
  stream.state = .established ∧ stream.direction ≠ some .inactive ∧ stream.onHoldByLocal = false ∧
    stream.holdRequest ≠ some .hold

/-- **The invariant of a stream.** -/
structure Sound (stream : AudioStream) : Prop where
  member : stream.inBridge = true ↔ stream.Joined
  request : stream.holdRequest = some .hold → stream.onHoldByLocal = false
  started : stream.state = .waitIce ∨ stream.state = .established → ∃ direction, stream.transport = some (some direction)
  unstarted : stream.state = .null ∨ stream.state = .initialized → stream.direction = none ∧ stream.onHoldByLocal = false
  initialized : stream.state = .initialized → stream.transport = some none
  done : stream.done = true → stream.state = .ended

theorem Sound.finished (hstate : stream.state = .ended) (hout : stream.inBridge = false)
    (hrequest : stream.holdRequest = some .hold → stream.onHoldByLocal = false) : Sound stream where
  member := by
    refine ⟨fun hin => absurd (hin.symm.trans hout) Bool.noConfusion, fun hjoined => ?_⟩
    exact nomatch hstate.symm.trans hjoined.1
  request := hrequest
  started := by simp [hstate]
  unstarted := by simp [hstate]
  initialized := by simp [hstate]
  done _ := hstate

/-! ### Negotiated directions -/

theorem checkHold_eq (h : stream.RecorderStarts starts) :
    stream.checkHold direction isInitial starts =
      ({ stream with
          direction := some direction
          onHoldByLocal := stream.localHold direction
          onHoldByRemote := !direction.sends
          inBridge := stream.inBridge || stream.resumes direction isInitial
          recorder := stream.recorder.map fun _ =>
            { isActive := true, inBridge := !(stream.localHold direction || !direction.sends) } }, none) := by
  rw [checkHold]
  cases hrecorder : stream.recorder with
  | none => simp
  | some recorder =>
      rw [RecorderStarts, hrecorder, Option.all_some] at h
      simp only [checkRecording, h, if_true]
      rfl

theorem Sound.not_inBridge (h : Sound stream) (hheld : stream.held = true) : stream.inBridge = false := by
  rw [held, decide_eq_true_eq] at hheld
  rw [Bool.eq_false_iff]
  intro hin
  obtain ⟨-, -, hlocal, hrequest⟩ := h.member.mp hin
  rcases hheld with hhold | ⟨-, honHold⟩
  · exact hrequest hhold
  · rw [hlocal] at honHold
    exact Bool.false_ne_true honHold

theorem request_of_not_held (hheld : stream.held = false) : stream.holdRequest ≠ some .hold := by
  intro hrequest
  rw [held, hrequest] at hheld
  simp at hheld

/-- A stream that is not held joins when its direction leaves it a part. -/
theorem Sound.resumes (h : Sound stream) (hestablished : stream.state = .established) (hheld : stream.held = false)
    (hdirection : direction ≠ .inactive) (hlocal : stream.localHold direction = false) :
    (stream.inBridge || stream.resumes direction false) = true := by
  by_cases hin : stream.inBridge = true
  · rw [hin, Bool.true_or]
  · have hrequest := request_of_not_held hheld
    have hout : stream.onHoldByLocal = true ∨ stream.direction = some .inactive := by
      by_contra hnone
      rw [not_or, Bool.not_eq_true] at hnone
      exact hin (h.member.mpr ⟨hestablished, hnone.2, hnone.1, hrequest⟩)
    rw [AudioStream.resumes]
    rcases hout with hout | hout <;> simp [hout, hdirection, hlocal, hrequest]

/-- **A renegotiation**, with any recorder and address after it. -/
theorem Sound.renegotiate (h : Sound stream) (hstate : stream.state = .waitIce ∨ stream.state = .established)
    (hfits : stream.Fits direction starts) (recorder : Option Recorder) (remoteAddress : Option (String × Nat)) :
    let next := { stream with
      transport := some (some direction)
      direction := some direction
      onHoldByLocal := stream.localHold direction
      onHoldByRemote := !direction.sends
      inBridge := stream.inBridge || stream.resumes direction false
      recorder, remoteAddress
      holdRequest := none }
    Sound next ∧ next.held = stream.held := by
  refine ⟨⟨?_, nofun, fun _ => ⟨direction, rfl⟩, ?_, ?_, ?_⟩, ?_⟩
  · show (stream.inBridge || stream.resumes direction false) = true ↔
      stream.state = .established ∧ some direction ≠ some .inactive ∧ stream.localHold direction = false ∧ none ≠ some HoldRequest.hold
    constructor
    · intro hin
      have hestablished : stream.state = .established := by
        refine hstate.resolve_left fun hice => ?_
        rw [hfits.ice hice, Bool.or_false] at hin
        rw [(h.member.mp hin).1] at hice
        cases hice
      have hactive : direction ≠ .inactive := by
        intro hinactive
        rw [hfits.inactive hinactive, Bool.false_or, AudioStream.resumes, hinactive] at hin
        simp at hin
      refine ⟨hestablished, fun heq => hactive (Option.some.inj heq), ?_, nofun⟩
      by_contra hlocal
      rw [Bool.not_eq_false] at hlocal
      rw [h.not_inBridge (hfits.hold ▸ hlocal), Bool.false_or, AudioStream.resumes, hlocal] at hin
      simp at hin
    · rintro ⟨hestablished, hactive, hlocal, -⟩
      exact h.resumes hestablished (hfits.hold ▸ hlocal) (fun heq => hactive (congrArg some heq)) hlocal
  · intro hunstarted
    rcases hstate with hice | hestablished <;> rcases hunstarted with hnull | hinitialized <;> simp_all
  · intro hinitialized
    rcases hstate with hice | hestablished <;> simp_all
  · exact h.done
  · rw [← hfits.hold]
    simp [held]

theorem Sound.update (h : Sound stream) (hstate : stream.state = .waitIce ∨ stream.state = .established)
    (hfits : if stream.moves remote iceActive then
        stream.recorder.all Recorder.inBridge ∧
          if creates then stream.Fits (newDirection direction remote) starts else stream.inBridge = false
      else stream.Fits direction starts) :
    (stream.update direction remote iceActive creates starts).2 = none ∧
      Sound (stream.update direction remote iceActive creates starts).1 ∧
        (stream.update direction remote iceActive creates starts).1.held = stream.held := by
  obtain ⟨old, htransport⟩ := h.started hstate
  rw [AudioStream.update, htransport]
  dsimp only
  by_cases hmoves : stream.moves remote iceActive = true
  · rw [if_pos hmoves] at hfits ⊢
    obtain ⟨hrecorder, hfits⟩ := hfits
    rw [replaceTransport, if_pos hrecorder]
    dsimp only
    by_cases hcreates : creates = true
    · rw [if_pos hcreates] at hfits ⊢
      rw [checkHold_eq]
      · exact ⟨rfl, h.renegotiate hstate hfits _ _⟩
      · have hstarts := hfits.recorder
        rw [RecorderStarts] at hstarts ⊢
        rwa [Option.all_map]
    · rw [if_neg hcreates] at hfits ⊢
      exact ⟨rfl, .finished rfl hfits h.request, rfl⟩
  · rw [if_neg hmoves] at hfits ⊢
    rw [if_neg (by rw [Option.isNone_some]; exact Bool.false_ne_true), checkHold_eq (by exact hfits.recorder)]
    exact ⟨rfl, h.renegotiate hstate hfits _ _⟩

/-! ### The other calls -/

theorem Sound.didInitialize (h : Sound stream) (tryIce : Bool) :
    Sound (stream.didInitialize tryIce) ∧ (stream.didInitialize tryIce).held = stream.held := by
  rw [AudioStream.didInitialize]
  split_ifs with hnull
  · refine ⟨⟨?_, h.request, nofun, fun _ => h.unstarted (.inl hnull), fun _ => rfl, ?_⟩, rfl⟩
    · have hout : stream.inBridge ≠ true := fun hin => by
        rw [(h.member.mp hin).1] at hnull
        cases hnull
      exact ⟨fun hin => absurd hin hout, fun hjoined => nomatch hjoined.1⟩
    · intro hdone
      rw [h.done hdone] at hnull
      cases hnull
  · exact ⟨h, rfl⟩

theorem Sound.start (h : Sound stream) (hstate : stream.state = .initialized) (hdirection : direction ≠ .sendonly)
    (hice : stream.tryIce ∧ stream.iceState = .null → stream.resumes direction true = false)
    (hrecorder : stream.RecorderStarts starts) :
    (stream.start direction remote starts).2 = none ∧ Sound (stream.start direction remote starts).1 ∧
      (stream.start direction remote starts).1.held = stream.held := by
  obtain ⟨-, hlocal⟩ := h.unstarted (.inr hstate)
  have hout : stream.inBridge = false := by
    rw [Bool.eq_false_iff]
    intro hin
    rw [(h.member.mp hin).1] at hstate
    cases hstate
  have hhold : stream.localHold direction = false := by
    rw [localHold, hlocal]
    split_ifs
    · rfl
    · simpa using hdirection
  rw [AudioStream.start, if_pos hstate]
  dsimp only
  rw [checkHold_eq (by exact hrecorder)]
  refine ⟨rfl, ⟨?_, fun _ => hhold, fun _ => ⟨direction, rfl⟩, ?_, ?_, ?_⟩, ?_⟩
  · show (stream.inBridge || stream.resumes direction true) = true ↔
      (if stream.tryIce = true ∧ stream.iceState = .null then AudioState.waitIce else .established) = .established ∧
        some direction ≠ some .inactive ∧ stream.localHold direction = false ∧ stream.holdRequest ≠ some .hold
    rw [hout, Bool.false_or]
    split_ifs with hwait
    · rw [hice hwait]
      exact ⟨fun hin => absurd hin Bool.false_ne_true, fun hjoined => nomatch hjoined.1⟩
    · simp [AudioStream.resumes, hhold]
  · dsimp only
    split_ifs <;> nofun
  · dsimp only
    split_ifs <;> nofun
  · intro hdone
    rw [h.done hdone] at hstate
    cases hstate
  · show decide (stream.holdRequest = some .hold ∨ stream.holdRequest = none ∧ stream.localHold direction) = stream.held
    rw [held, hhold, hlocal]

theorem Sound.iceNegotiated (h : Sound stream) (iceState : IceState)
    (hclear : stream.state = .waitIce → stream.direction = some .inactive ∨ stream.onHoldByLocal = true ∨
      stream.holdRequest = some .hold) :
    Sound (stream.iceNegotiated iceState) ∧ (stream.iceNegotiated iceState).held = stream.held := by
  rw [AudioStream.iceNegotiated]
  split_ifs with hwait
  · refine ⟨⟨?_, h.request, fun _ => h.started (.inl hwait), nofun, nofun, ?_⟩, rfl⟩
    · constructor
      · intro hin
        rw [(h.member.mp hin).1] at hwait
        cases hwait
      · rintro ⟨-, hdirection, hlocal, hrequest⟩
        rcases hclear hwait with hout | hout | hout
        · exact absurd hout hdirection
        · exact absurd (hlocal.symm.trans hout) Bool.false_ne_true
        · exact absurd hout hrequest
    · intro hdone
      rw [h.done hdone] at hwait
      cases hwait
  · exact ⟨h, rfl⟩

theorem Sound.hold (h : Sound stream) (hclear : ¬ (stream.onHoldByLocal = true ∧ stream.holdRequest = some .unhold)) :
    stream.hold.2 = none ∧ Sound stream.hold.1 ∧ stream.hold.1.held = true := by
  rw [AudioStream.hold]
  split_ifs with hdone hjoined
  · refine ⟨rfl, h, ?_⟩
    rw [held, decide_eq_true_eq]
    rcases hdone with hlocal | hrequest
    · cases hrequest : stream.holdRequest with
      | none => exact .inr ⟨rfl, hlocal⟩
      | some request =>
          cases request with
          | hold => exact .inl rfl
          | unhold => exact absurd ⟨hlocal, hrequest⟩ hclear
    · exact .inl hrequest
  · rw [not_or, Bool.not_eq_true] at hdone
    have hin : stream.inBridge = true := h.member.mpr ⟨hjoined.1, hjoined.2, hdone.1, hdone.2⟩
    rw [pause, if_pos hin]
    refine ⟨rfl, ⟨⟨nofun, fun hjoined => absurd rfl hjoined.2.2.2⟩, fun _ => hdone.1, h.started, h.unstarted,
      h.initialized, h.done⟩, by simp [held]⟩
  · rw [not_or, Bool.not_eq_true] at hdone
    refine ⟨rfl, ⟨⟨fun hin => ?_, fun hjoined => absurd rfl hjoined.2.2.2⟩, fun _ => hdone.1, h.started, h.unstarted,
      h.initialized, h.done⟩, by simp [held]⟩
    exact absurd ⟨(h.member.mp hin).1, (h.member.mp hin).2.1⟩ hjoined

theorem Sound.unhold (h : Sound stream)
    (hclear : ¬ (stream.state = .established ∧ stream.direction = some .inactive ∧ stream.holdRequest = some .hold)) :
    Sound stream.unhold ∧ stream.unhold.held = false := by
  by_cases hrequest : stream.holdRequest = some .hold
  · have hlocal := h.request hrequest
    rw [AudioStream.unhold, if_neg (by simp [hrequest]), if_pos hrequest]
    by_cases hestablished : stream.state = .established
    · rw [if_pos ⟨hestablished, hrequest⟩]
      refine ⟨⟨⟨fun _ => ⟨hestablished, ?_, hlocal, nofun⟩, fun _ => rfl⟩, nofun, h.started, h.unstarted,
        h.initialized, h.done⟩, by simp [held, resume, hlocal]⟩
      exact fun hinactive => hclear ⟨hestablished, hinactive, hrequest⟩
    · rw [if_neg fun hboth => hestablished hboth.1]
      refine ⟨⟨⟨fun hin => ?_, fun hjoined => absurd hjoined.1 hestablished⟩, nofun, h.started, h.unstarted,
        h.initialized, h.done⟩, by simp [held, hlocal]⟩
      exact absurd (h.member.mp hin).1 hestablished
  · by_cases hdone : (stream.onHoldByLocal = false ∧ stream.holdRequest ≠ some .hold) ∨ stream.holdRequest = some .unhold
    · rw [AudioStream.unhold, if_pos hdone]
      refine ⟨h, ?_⟩
      rcases hdone with ⟨hlocal, -⟩ | hunhold
      · simp [held, hlocal, hrequest]
      · simp [held, hunhold]
    · -- only a hold that was negotiated is left
      have hlocal : stream.onHoldByLocal = true := by
        by_contra hlocal
        exact hdone (.inl ⟨by simpa using hlocal, hrequest⟩)
      rw [AudioStream.unhold, if_neg hdone, if_neg fun hboth => hrequest hboth.2, if_neg hrequest]
      refine ⟨⟨⟨fun hin => ?_, fun hjoined => ?_⟩, nofun, h.started, h.unstarted, h.initialized, h.done⟩, by simp [held]⟩
      · exact absurd ((h.member.mp hin).2.2.1.symm.trans hlocal) Bool.false_ne_true
      · exact absurd (hjoined.2.2.1.symm.trans hlocal) Bool.false_ne_true

theorem Sound.getLocalMedia (h : Sound stream) {offer : Bool}
    (hstate : stream.state ∈ [AudioState.initialized, .waitIce, .established])
    (hclear : offer = true → stream.transport = some none → stream.held = false) :
    ∃ direction, stream.getLocalMedia offer = .ok direction ∧ (offer = true → direction.isHold = stream.held) := by
  have htransport : ∃ old, stream.transport = some old := by
    simp only [List.mem_cons, List.not_mem_nil, or_false] at hstate
    rcases hstate with hinitialized | hstarted
    · exact ⟨none, h.initialized hinitialized⟩
    · obtain ⟨direction, hdirection⟩ := h.started hstarted
      exact ⟨some direction, hdirection⟩
  obtain ⟨old, hold⟩ := htransport
  rw [AudioStream.getLocalMedia, if_pos hstate, hold]
  refine ⟨_, rfl, fun hoffer => ?_⟩
  rw [hoffer]
  cases old with
  | none => rw [hclear hoffer hold]; rfl
  | some old =>
      rw [localDirection]
      cases stream.held <;> cases old <;> rfl

theorem Sound.reset (h : Sound stream)
    (hclear : stream.direction = some .inactive → stream.onHoldByLocal = false → stream.state ≠ .ended ∧
      (stream.state = .waitIce → stream.holdRequest = some .hold) ∧ stream.RecorderStarts starts) :
    (stream.reset starts).2 = none ∧ Sound (stream.reset starts).1 ∧ (stream.reset starts).1.held = stream.held := by
  rw [AudioStream.reset]
  split_ifs with hinactive
  · obtain ⟨hended, hice, hrecorder⟩ := hclear hinactive.1 hinactive.2
    have hstate : stream.state = .waitIce ∨ stream.state = .established := by
      cases hstate : stream.state with
      | waitIce => exact .inl rfl
      | established => exact .inr rfl
      | ended => exact absurd hstate hended
      | null => rw [(h.unstarted (.inl hstate)).1] at hinactive; exact nomatch hinactive.1
      | initialized => rw [(h.unstarted (.inr hstate)).1] at hinactive; exact nomatch hinactive.1
    obtain ⟨old, htransport⟩ := h.started hstate
    have hout : stream.inBridge = false := by
      rw [Bool.eq_false_iff]
      exact fun hin => (h.member.mp hin).2.1 hinactive.1
    rw [htransport]
    dsimp only
    rw [checkHold_eq (by exact hrecorder)]
    have hresumes : stream.resumes .sendrecv false = true ↔ stream.holdRequest ≠ some .hold := by
      simp [AudioStream.resumes, hinactive.1, localHold]
    refine ⟨rfl, ⟨?_, fun _ => rfl, fun _ => ⟨.sendrecv, rfl⟩, ?_, ?_, h.done⟩, ?_⟩
    · show (stream.inBridge || stream.resumes .sendrecv false) = true ↔ stream.state = .established ∧
        some MediaDirection.sendrecv ≠ some .inactive ∧ stream.localHold .sendrecv = false ∧ stream.holdRequest ≠ some .hold
      rw [hout, Bool.false_or, hresumes]
      refine ⟨fun hrequest => ⟨hstate.resolve_left fun hwait => hrequest (hice hwait), nofun, rfl, hrequest⟩,
        fun hjoined => hjoined.2.2.2⟩
    · intro hunstarted
      rcases hstate with hstate | hstate <;> rcases hunstarted with hnull | hinitialized <;> simp_all
    · intro hinitialized
      rcases hstate with hstate | hstate <;> simp_all
    · show decide (stream.holdRequest = some .hold ∨ stream.holdRequest = none ∧ stream.localHold .sendrecv) = stream.held
      rw [held, hinactive.2]
      rfl
  · exact ⟨rfl, h, rfl⟩

theorem Sound.startRecording (h : Sound stream) (hended : stream.state ≠ .ended) (hnone : stream.recorder = none)
    (hstarts : stream.state = .established → starts = true) :
    (stream.startRecording starts).2 = none ∧ Sound (stream.startRecording starts).1 ∧
      (stream.startRecording starts).1.held = stream.held := by
  rw [AudioStream.startRecording, if_neg (by simp [hended, hnone])]
  dsimp only
  split_ifs with hestablished
  · rw [checkRecording, hstarts hestablished, Bool.or_true, if_pos rfl]
    exact ⟨rfl, ⟨h.member, h.request, h.started, h.unstarted, h.initialized, h.done⟩, rfl⟩
  · exact ⟨rfl, ⟨h.member, h.request, h.started, h.unstarted, h.initialized, h.done⟩, rfl⟩

theorem Sound.stopRecording (h : Sound stream) (hsome : stream.recorder.isSome) :
    stream.stopRecording.2 = none ∧ Sound stream.stopRecording.1 ∧ stream.stopRecording.1.held = stream.held := by
  rw [AudioStream.stopRecording, if_pos hsome]
  exact ⟨rfl, ⟨h.member, h.request, h.started, h.unstarted, h.initialized, h.done⟩, rfl⟩

theorem Sound.finish (h : Sound stream)
    (hclear : stream.state = .ended ∨ stream.done = true ∨ stream.inBridge = false) :
    Sound stream.finish ∧ stream.finish.held = stream.held := by
  rw [AudioStream.finish]
  split_ifs with hended hinitialized
  · exact ⟨h, rfl⟩
  · rw [not_or] at hended
    exact ⟨.finished rfl ((hclear.resolve_left hended.1).resolve_left hended.2) h.request, rfl⟩
  · rw [not_or] at hended
    exact ⟨.finished rfl ((hclear.resolve_left hended.1).resolve_left hended.2) h.request, rfl⟩

/-- `deactivate` and then `end`. -/
theorem Sound.deactivate (h : Sound stream) :
    Sound stream.deactivate.finish ∧ stream.deactivate.finish.held = stream.held := by
  have hended : stream.deactivate.finish.state = .ended := by
    rw [AudioStream.finish]
    split_ifs with hended
    · exact hended.elim id h.done
    · rfl
    · rfl
  rw [AudioStream.finish] at hended ⊢
  split_ifs with hdone hinitialized
  · rw [if_pos hdone] at hended
    exact ⟨.finished hended rfl h.request, rfl⟩
  · exact ⟨.finished rfl rfl h.request, rfl⟩
  · exact ⟨.finished rfl rfl h.request, rfl⟩

end AudioStream

namespace AudioRun

variable {self : AudioRun}

/-- The condition on a call. -/
def Careful (self : AudioRun) : AudioCall → Prop
  | .start direction _ starts =>
      self.stream.state = .initialized ∧ direction ≠ .sendonly ∧
        (self.stream.tryIce ∧ self.stream.iceState = .null → self.stream.resumes direction true = false) ∧
          self.stream.RecorderStarts starts
  | .iceNegotiated _ =>
      self.stream.state = .waitIce → self.stream.direction = some .inactive ∨ self.stream.onHoldByLocal = true ∨
        self.stream.holdRequest = some .hold
  | .hold => ¬ (self.stream.onHoldByLocal = true ∧ self.stream.holdRequest = some .unhold)
  | .unhold =>
      ¬ (self.stream.state = .established ∧ self.stream.direction = some .inactive ∧
        self.stream.holdRequest = some .hold)
  | .getLocalMedia offer =>
      self.stream.state ∈ [AudioState.initialized, .waitIce, .established] ∧
        (offer = true → self.stream.transport = some none → self.stream.held = false)
  | .update direction remote iceActive creates starts =>
      (self.stream.state = .waitIce ∨ self.stream.state = .established) ∧
        if self.stream.moves remote iceActive then
          self.stream.recorder.all Recorder.inBridge ∧
            if creates then self.stream.Fits (AudioStream.newDirection direction remote) starts
            else self.stream.inBridge = false
        else self.stream.Fits direction starts
  | .reset starts =>
      self.stream.direction = some .inactive → self.stream.onHoldByLocal = false → self.stream.state ≠ .ended ∧
        (self.stream.state = .waitIce → self.stream.holdRequest = some .hold) ∧ self.stream.RecorderStarts starts
  | .startRecording starts =>
      self.stream.state ≠ .ended ∧ self.stream.recorder = none ∧ (self.stream.state = .established → starts = true)
  | .stopRecording => self.stream.recorder.isSome
  | .finish deactivates =>
      deactivates = true ∨ self.stream.state = .ended ∨ self.stream.done = true ∨ self.stream.inBridge = false
  | .didInitialize _ => True

instance (call : AudioCall) : Decidable (Careful self call) := by
  cases call <;> unfold Careful <;> infer_instance

structure Consistent (run : AudioRun) : Prop where
  /-- The last call has not raised. -/
  raised : run.raised = none
  /-- The last call has not offered a wrong direction. -/
  offered : ∀ direction, run.offered = some direction → (direction.isHold = true ↔ run.wantsHold = true)
  member : run.stream.inBridge = true ↔ run.stream.Joined

/-- **One call keeps the stream consistent.** -/
theorem consistent_step (hsound : self.stream.Sound) (hwants : self.wantsHold = self.stream.held) {call : AudioCall}
    (hcareful : Careful self call) :
    (self.step call).stream.Sound ∧ (self.step call).wantsHold = (self.step call).stream.held ∧
      (self.step call).Consistent := by
  have hcalled : ∀ (result : AudioStream × Option StreamError) {wantsHold : Bool}, result.2 = none → result.1.Sound →
      wantsHold = result.1.held → let next := { self.called result with wantsHold }
        next.stream.Sound ∧ next.wantsHold = next.stream.held ∧ next.Consistent :=
    fun _ _ hraised hsound hheld => ⟨hsound, hheld, hraised, nofun, hsound.member⟩
  cases call with
  | didInitialize tryIce =>
      obtain ⟨hnext, hheld⟩ := hsound.didInitialize tryIce
      exact hcalled (_, none) rfl hnext (hwants.trans hheld.symm)
  | start direction remote starts =>
      obtain ⟨hstate, hdirection, hice, hrecorder⟩ := hcareful
      obtain ⟨hraised, hnext, hheld⟩ := hsound.start hstate hdirection hice hrecorder
      exact hcalled _ hraised hnext (hwants.trans hheld.symm)
  | iceNegotiated iceState =>
      obtain ⟨hnext, hheld⟩ := hsound.iceNegotiated iceState hcareful
      exact hcalled (_, none) rfl hnext (hwants.trans hheld.symm)
  | hold =>
      obtain ⟨hraised, hnext, hheld⟩ := hsound.hold hcareful
      exact hcalled _ hraised hnext hheld.symm
  | unhold =>
      obtain ⟨hnext, hheld⟩ := hsound.unhold hcareful
      exact hcalled (_, none) rfl hnext hheld.symm
  | getLocalMedia offer =>
      obtain ⟨direction, hmedia, hhold⟩ := hsound.getLocalMedia hcareful.1 hcareful.2
      simp only [step, hmedia]
      refine ⟨hsound, hwants, rfl, fun offered hoffered => ?_, hsound.member⟩
      split_ifs at hoffered with hoffer
      obtain rfl := Option.some.inj hoffered
      rw [hhold hoffer, hwants]
  | update direction remote iceActive creates starts =>
      obtain ⟨hraised, hnext, hheld⟩ := hsound.update hcareful.1 hcareful.2
      exact hcalled _ hraised hnext (hwants.trans hheld.symm)
  | reset starts =>
      obtain ⟨hraised, hnext, hheld⟩ := hsound.reset hcareful
      exact hcalled _ hraised hnext (hwants.trans hheld.symm)
  | startRecording starts =>
      obtain ⟨hended, hnone, hstarts⟩ := hcareful
      obtain ⟨hraised, hnext, hheld⟩ := hsound.startRecording hended hnone hstarts
      exact hcalled _ hraised hnext (hwants.trans hheld.symm)
  | stopRecording =>
      obtain ⟨hraised, hnext, hheld⟩ := hsound.stopRecording hcareful
      exact hcalled _ hraised hnext (hwants.trans hheld.symm)
  | finish deactivates =>
      cases deactivates with
      | true =>
          obtain ⟨hnext, hheld⟩ := hsound.deactivate
          exact hcalled (_, none) rfl hnext (hwants.trans hheld.symm)
      | false =>
          obtain ⟨hnext, hheld⟩ := hsound.finish (hcareful.resolve_left Bool.false_ne_true)
          exact hcalled (_, none) rfl hnext (hwants.trans hheld.symm)

/-- **Hold is kept**: in a run whose calls meet the condition every call returns, every offer is a hold exactly
when the last of `hold` and `unhold` was `hold`, and the stream is in its bridge exactly when it is to be. -/
theorem hold_is_kept {calls : List AudioCall} (hmeets : Runs.Meets step Careful {} calls) :
    (Runs.run step {} calls).Consistent := by
  have hstart : ({} : AudioRun).stream.Sound ∧ ({} : AudioRun).wantsHold = ({} : AudioRun).stream.held ∧
      ({} : AudioRun).Consistent := by
    have hsound : ({} : AudioStream).Sound :=
      ⟨⟨nofun, fun hjoined => nomatch hjoined.1⟩, nofun, nofun, fun _ => ⟨rfl, rfl⟩, nofun, nofun⟩
    exact ⟨hsound, rfl, rfl, nofun, hsound.member⟩
  exact (Runs.invariant_run
    (fun self : AudioRun => self.stream.Sound ∧ self.wantsHold = self.stream.held ∧ self.Consistent)
    (fun _ _ h hcareful => consistent_step h.1 h.2.1 hcareful) hstart hmeets).2.2

/-- The other side, where it was from the start. -/
def answerer (direction : MediaDirection) : RemoteMedia := { address := "192.0.2.2", port := 50000, direction }

/-- A stream that is held and taken back while it is recorded. -/
def heldAndBack : List AudioCall :=
  [.didInitialize false, .getLocalMedia true, .start .sendrecv (answerer .sendrecv) true, .startRecording true, .hold,
    .getLocalMedia true, .update .sendonly (answerer .recvonly) false true true, .unhold, .getLocalMedia true,
    .update .sendrecv (answerer .sendrecv) false true true, .stopRecording, .finish true]

theorem heldAndBack_is_kept : (Runs.run step {} heldAndBack).Consistent := hold_is_kept (by decide)

/-- A stream that is held again before it was taken back. -/
def heldAgain : List AudioCall :=
  [.didInitialize false, .start .sendrecv (answerer .sendrecv) true, .hold,
    .update .sendonly (answerer .recvonly) false true true, .unhold, .hold, .getLocalMedia true]

/-- It is offered to take part. -/
theorem not_hold_is_kept : ¬ ∀ calls, (Runs.run step {} calls).Consistent := by
  intro h
  have hoffered := (h heldAgain).offered .sendrecv (by decide)
  revert hoffered
  decide

end AudioRun

end SipSimple.Streams
