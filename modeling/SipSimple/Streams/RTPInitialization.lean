import SipSimple.Streams.RTPStream

/-!
# The outcome of the initialization

A stream that is being initialized has exactly one thing under way, a lookup, a retry or a transport; each
of them is followed by another one or by the outcome. Three things break this: a Bonjour account that tries
ICE without STUN servers, for which nothing is begun; an error of the constructor of a transport, after
which nothing goes on; and an end between the look at the state and the last retry, which posts a second
outcome.
-/

namespace SipSimple.Streams.RTPStream

open Runs (run Meets)

/-- With so many servers left, an error of the constructor is met. -/
def crashes : Nat → List Attempt → Bool
  | 0, _ => false
  | _ + 1, .constructorError :: _ => true
  | servers + 1, .initError _ :: attempts => crashes servers attempts
  | _ + 1, _ => false

/-- With so many servers left, no transport is made. -/
def exhausts : Nat → List Attempt → Bool
  | 0, _ => true
  | servers + 1, .initError _ :: attempts => exhausts servers attempts
  | _ + 1, _ => false

/-- At most one outcome, and one when nothing is under way any more. -/
structure OneOutcome (stream : RTPStream) : Prop where
  once : stream.posted.length ≤ 1
  posted : stream.state ≠ .null → stream.lookups = 0 → stream.retries = [] → stream.initializing = [] →
    stream.posted.length = 1

/-- How many servers a retry has. -/
def serversLeft (stream : RTPStream) : Retry → Option Nat
  | .initRtpTransport stunServers => some (stunServers.length + 1)
  | .tryNextRtpTransport _ => stream.stunServers.map List.length

/-- The condition on a step: a Bonjour account does not try ICE without STUN servers, no transport's
constructor raises unless the stream has ended, and no retry finds the stream ended and no server left. -/
def Served (stream : RTPStream) : Input → Prop
  | .initializeStream account attempts =>
      stream.state = .null →
        if (stream.prepare account).tryIce then
          if account.stunServerList ≠ [] then ¬ crashes (account.stunServerList.length + 1) attempts
          else ¬ account.isBonjour
        else ¬ crashes 1 attempts
  | .retry attempts => ∀ retry ∈ stream.retries.head?, ∀ servers ∈ stream.serversLeft retry,
      if stream.state = .ended then ¬ exhausts servers attempts else ¬ crashes servers attempts
  | _ => True

/-! ### Attempts -/

/-- What a search for a transport leaves: the last outcome, an error, or a transport. -/
inductive Tried (stream : RTPStream) (servers : Nat) (attempts : List Attempt) : RTPStream → Prop
  | exhausted {rest : List (Option (String × Nat))} {reason : Option String}
      (h : exhausts servers attempts) :
      Tried stream servers attempts
        ({ stream with stunServers := some rest, state := .ended }.post (.didNotInitialize reason))
  | crashed {rest : List (Option (String × Nat))} (h : crashes servers attempts) :
      Tried stream servers attempts { stream with stunServers := some rest }
  | started {rest : List (Option (String × Nat))} {transport : RTPTransport}
      (hexhausts : ¬ exhausts servers attempts) (hcrashes : ¬ crashes servers attempts) :
      Tried stream servers attempts
        { stream with
          stunServers := some rest
          transports := stream.transports ++ [transport]
          observed := stream.observed ++ [stream.transports.length]
          initializing := stream.initializing ++ [stream.transports.length] }

theorem tried_with (stream : RTPStream) (servers : List (Option (String × Nat))) (args : RTPArgs)
    (attempts : List Attempt) (reason : Option String) :
    Tried { stream with stunServers := some servers, rtpArgs := some args } servers.length attempts
      ({ stream with stunServers := some servers, rtpArgs := some args }.tryNextRtpTransport attempts
        reason) := by
  induction attempts generalizing servers reason with
  | nil =>
      unfold tryNextRtpTransport
      cases servers with
      | nil => exact .exhausted rfl
      | cons first servers => exact .started (by simp [exhausts]) (by simp [crashes])
  | cons attempt attempts ih =>
      unfold tryNextRtpTransport
      cases servers with
      | nil => exact .exhausted rfl
      | cons first servers =>
          cases attempt with
          | constructorError => exact .crashed (by simp [crashes])
          | started => exact .started (by simp [exhausts]) (by simp [crashes])
          | initError reason =>
              have hrest := ih (first :: servers).dropLast (some reason)
              have hlength : (first :: servers).dropLast.length = servers.length := by simp
              rw [hlength] at hrest
              dsimp only
              generalize RTPStream.tryNextRtpTransport _ attempts (some reason) = result at hrest ⊢
              cases hrest with
              | exhausted h => exact .exhausted (by simpa [exhausts] using h)
              | crashed h => exact .crashed (by simpa [crashes] using h)
              | started hexhausts hcrashes =>
                  exact .started (by simpa [exhausts] using hexhausts) (by simpa [crashes] using hcrashes)

theorem tried {stream : RTPStream} {servers : List (Option (String × Nat))} {args : RTPArgs}
    (hservers : stream.stunServers = some servers) (hargs : stream.rtpArgs = some args)
    (attempts : List Attempt) (reason : Option String) :
    Tried stream servers.length attempts (stream.tryNextRtpTransport attempts reason) := by
  have htried := tried_with stream servers args attempts reason
  have hsame : { stream with stunServers := some servers, rtpArgs := some args } = stream := by
    rw [← hservers, ← hargs]
  rwa [hsame] at htried

/-! ### One thing under way -/

/-- What is so in each state. -/
def Phase (stream : RTPStream) : Prop :=
  match stream.state with
  | .null =>
      stream.posted = [] ∧ stream.lookups = 0 ∧ stream.retries = [] ∧ stream.initializing = [] ∧
        stream.observed = [] ∧ stream.initialized = false
  | .initializing =>
      stream.posted = [] ∧ stream.lookups + stream.retries.length + stream.initializing.length = 1 ∧
        stream.observed = stream.initializing ∧ stream.initialized = false ∧
        (stream.rtpArgs.isSome ∨
          stream.initializing = [] ∧ ∀ reason, .tryNextRtpTransport reason ∉ stream.retries)
  | .initialized =>
      stream.posted.length = 1 ∧ stream.lookups = 0 ∧ stream.initialized = true ∧
        stream.rtpArgs = none ∧ ∀ servers, .initRtpTransport servers ∉ stream.retries
  | .ended => stream.posted.length = 1

structure Sound (stream : RTPStream) : Prop where
  both : stream.rtpArgs.isSome = stream.stunServers.isSome
  phase : stream.Phase

theorem Sound.oneOutcome {stream : RTPStream} (h : stream.Sound) : stream.OneOutcome := by
  have hphase := h.phase
  unfold Phase at hphase
  split at hphase
  · rename_i hstate
    exact ⟨by simp [hphase.1], fun hne => absurd hstate hne⟩
  · obtain ⟨hposted, hcount, -⟩ := hphase
    refine ⟨by simp [hposted], fun _ hlookups hretries hinitializing => ?_⟩
    rw [hlookups, hretries, hinitializing] at hcount
    cases hcount
  · exact ⟨Nat.le_of_eq hphase.1, fun _ _ _ _ => hphase.1⟩
  · exact ⟨Nat.le_of_eq hphase, fun _ _ _ _ => hphase⟩

theorem not_both {servers : Nat} {attempts : List Attempt} (hcrashes : crashes servers attempts) :
    ¬ exhausts servers attempts := by
  induction attempts generalizing servers with
  | nil => cases servers <;> simp [crashes] at hcrashes
  | cons attempt attempts ih =>
      cases servers with
      | zero => simp [crashes] at hcrashes
      | succ servers =>
          cases attempt with
          | constructorError => simp [exhausts]
          | started => simp [exhausts]
          | initError reason =>
              rw [exhausts]
              exact ih (by simpa [crashes] using hcrashes)

/-- A stream of which nothing is under way, before its outcome. -/
structure Idle (stream : RTPStream) : Prop where
  state : stream.state = .initializing
  posted : stream.posted = []
  lookups : stream.lookups = 0
  retries : stream.retries = []
  initializing : stream.initializing = []
  observed : stream.observed = []
  initialized : stream.initialized = false

/-- An attempt of an idle stream leaves it sound, unless it crashes. -/
theorem Idle.tried {stream tried : RTPStream} {servers : Nat} {attempts : List Attempt}
    (h : stream.Idle) (hargs : stream.rtpArgs.isSome) (htried : Tried stream servers attempts tried) :
    (¬ crashes servers attempts → tried.Sound) ∧ (crashes servers attempts → ¬ tried.OneOutcome) := by
  refine ⟨fun hserved => ?_, fun hcrashes houtcome => ?_⟩
  · cases htried with
    | exhausted =>
        refine ⟨hargs, ?_⟩
        show (stream.posted ++ [_]).length = 1
        rw [h.posted]
        rfl
    | crashed hcrashes => exact absurd hcrashes hserved
    | started =>
        refine ⟨hargs, ?_⟩
        simp [Phase, h.state, h.posted, h.lookups, h.retries, h.initializing, h.observed, h.initialized,
          hargs]
  · cases htried with
    | exhausted hexhausts => exact not_both hcrashes hexhausts
    | crashed =>
        have hposted := houtcome.posted (by simp [h.state]) h.lookups h.retries h.initializing
        rw [show RTPStream.posted _ = [] from h.posted] at hposted
        cases hposted
    | started _ hnot => exact hnot hcrashes

/-- An attempt after the end does nothing, unless it posts a second outcome. -/
theorem tried_ended {stream tried : RTPStream} {servers : Nat} {attempts : List Attempt}
    (htried : Tried stream servers attempts tried) (hstate : stream.state = .ended)
    (hposted : stream.posted.length = 1) (hargs : stream.rtpArgs.isSome) :
    (¬ exhausts servers attempts → tried.Sound) ∧ (exhausts servers attempts → ¬ tried.OneOutcome) := by
  refine ⟨fun hserved => ?_, fun hexhausts houtcome => ?_⟩
  · cases htried with
    | exhausted hexhausts => exact absurd hexhausts hserved
    | crashed => exact ⟨hargs, by simp [Phase, hstate, hposted]⟩
    | started => exact ⟨hargs, by simp [Phase, hstate, hposted]⟩
  · cases htried with
    | exhausted =>
        have honce := houtcome.once
        rw [post, List.length_append, hposted] at honce
        exact absurd honce (by simp)
    | crashed hcrashes => exact not_both hcrashes hexhausts
    | started hnot => exact hnot hexhausts

theorem tried_initRtpTransport (stream : RTPStream) (stunServers : List (String × Nat))
    (attempts : List Attempt) :
    Tried
      { stream with
        rtpArgs := some ⟨stream.srtpEncryption, stream.tryIce⟩
        stunServers := some (none :: stunServers.reverse.map some) }
      (stunServers.length + 1) attempts (stream.initRtpTransport stunServers attempts) := by
  have hlength : (none :: stunServers.reverse.map some).length = stunServers.length + 1 := by simp
  rw [← hlength, initRtpTransport]
  apply tried
  · rfl
  · rfl

theorem tryNext_none {stream : RTPStream} (hservers : stream.stunServers = none) (attempts : List Attempt)
    (reason : Option String) : stream.tryNextRtpTransport attempts reason = stream := by
  unfold tryNextRtpTransport
  rw [hservers]

theorem Idle.initRtpTransport {stream : RTPStream} (h : stream.Idle) (stunServers : List (String × Nat))
    (attempts : List Attempt) :
    (¬ crashes (stunServers.length + 1) attempts → (stream.initRtpTransport stunServers attempts).Sound) ∧
      (crashes (stunServers.length + 1) attempts →
        ¬ (stream.initRtpTransport stunServers attempts).OneOutcome) := by
  refine Idle.tried ?_ rfl (tried_initRtpTransport stream stunServers attempts)
  exact ⟨h.state, h.posted, h.lookups, h.retries, h.initializing, h.observed, h.initialized⟩

/-! ### Steps -/

namespace Sound

variable {stream : RTPStream}

theorem idle_prepare (h : stream.Sound) (hstate : stream.state = .null) (account : RTPAccount) :
    (stream.prepare account).Idle := by
  have hphase := h.phase
  simp only [Phase, hstate] at hphase
  obtain ⟨hposted, hlookups, hretries, hinitializing, hobserved, hinitialized⟩ := hphase
  unfold prepare
  dsimp only
  split <;> exact ⟨rfl, hposted, hlookups, hretries, hinitializing, hobserved, hinitialized⟩

theorem both_prepare (h : stream.Sound) (account : RTPAccount) :
    (stream.prepare account).rtpArgs.isSome = (stream.prepare account).stunServers.isSome := by
  unfold prepare
  dsimp only
  split <;> exact h.both

theorem initializeStream (h : stream.Sound) (account : RTPAccount) (attempts : List Attempt) :
    (stream.Served (.initializeStream account attempts) →
      (stream.initializeStream account attempts).Sound) ∧
    (¬ stream.Served (.initializeStream account attempts) →
      ¬ (stream.initializeStream account attempts).OneOutcome) := by
  rw [RTPStream.initializeStream]
  by_cases hstate : stream.state = .null
  · have hidle := h.idle_prepare hstate account
    have hboth := h.both_prepare account
    rw [if_neg (not_not.mpr hstate)]
    simp only [Served, hstate, forall_const]
    generalize stream.prepare account = prepared at hidle hboth
    split_ifs with hice hservers hbonjour
    · have hservers' := hidle.initRtpTransport account.stunServerList attempts
      exact ⟨hservers'.1, fun hnot => hservers'.2 (not_not.mp hnot)⟩
    · refine ⟨fun _ => ⟨hboth, ?_⟩, fun hnot => absurd (by simpa using hbonjour) hnot⟩
      simp [Phase, hidle.state, hidle.posted, hidle.lookups, hidle.retries, hidle.initializing,
        hidle.observed, hidle.initialized]
    · refine ⟨fun hnot => absurd hnot (by simpa using hbonjour), fun _ houtcome => ?_⟩
      have hposted := houtcome.posted (by simp [hidle.state]) hidle.lookups hidle.retries hidle.initializing
      rw [hidle.posted] at hposted
      cases hposted
    · have hnone := hidle.initRtpTransport [] attempts
      exact ⟨hnone.1, fun hnot => hnone.2 (not_not.mp hnot)⟩
  · rw [if_pos hstate]
    exact ⟨fun _ => h, fun hnot => absurd (fun hnull => absurd hnull hstate) hnot⟩

theorem endStream (h : stream.Sound) : stream.endStream.Sound := by
  rw [RTPStream.endStream]
  split_ifs with hended
  · exact h
  · have hphase := h.phase
    unfold Phase at hphase
    split at hphase
    · obtain ⟨hposted, -, -, -, -, hinitialized⟩ := hphase
      exact ⟨by simpa [hinitialized, post] using h.both, by simp [Phase, hinitialized, post, hposted]⟩
    · obtain ⟨hposted, -, -, hinitialized, -⟩ := hphase
      exact ⟨by simpa [hinitialized, post] using h.both, by simp [Phase, hinitialized, post, hposted]⟩
    · obtain ⟨hposted, -, hinitialized, -⟩ := hphase
      exact ⟨by simpa [hinitialized] using h.both, by simp [Phase, hinitialized, hposted]⟩
    · rename_i hstate
      exact absurd (.inl hstate) hended

theorem dnsLookupDone (h : stream.Sound) (stunServers : List (String × Nat)) :
    (stream.dnsLookupDone stunServers).Sound := by
  rw [RTPStream.dnsLookupDone]
  dsimp only
  split_ifs with hlookups hstate
  · exact h
  · have hphase := h.phase
    simp only [Phase, hstate] at hphase
    exact ⟨h.both, by simp only [Phase, hstate]; exact hphase⟩
  · refine ⟨h.both, ?_⟩
    have hphase := h.phase
    unfold Phase at hphase
    split at hphase
    · exact absurd hphase.2.1 hlookups
    · rename_i hstate
      obtain ⟨hposted, hcount, hobserved, hinitialized, -⟩ := hphase
      have hretries : stream.retries = [] := List.eq_nil_of_length_eq_zero (by omega)
      have hinitializing : stream.initializing = [] := List.eq_nil_of_length_eq_zero (by omega)
      have hone : stream.lookups - 1 = 0 := by
        rw [hretries, hinitializing] at hcount
        simp only [List.length_nil] at hcount
        omega
      simp [Phase, hstate, hposted, hobserved, hinitialized, hretries, hinitializing, hone]
    · exact absurd hphase.2.1 hlookups
    · rename_i hended
      exact absurd hended hstate

/-- A transport that is being initialized is the only thing under way. -/
theorem single (h : stream.Sound) (hstate : stream.state = .initializing) {transport : Nat}
    (hobserved : transport ∈ stream.observed) :
    stream.posted = [] ∧ stream.lookups = 0 ∧ stream.retries = [] ∧ stream.initializing = [transport] ∧
      stream.observed = [transport] ∧ stream.initialized = false ∧ stream.rtpArgs.isSome := by
  have hphase := h.phase
  simp only [Phase, hstate] at hphase
  obtain ⟨hposted, hcount, heq, hinitialized, hargs⟩ := hphase
  rw [heq] at hobserved
  have hpos : 0 < stream.initializing.length := List.length_pos_of_mem hobserved
  obtain ⟨only, honly⟩ := List.length_eq_one_iff.mp (show stream.initializing.length = 1 by omega)
  rw [honly, List.mem_singleton] at hobserved
  subst hobserved
  refine ⟨hposted, by omega, List.eq_nil_of_length_eq_zero (by omega), honly, heq.trans honly,
    hinitialized, ?_⟩
  rcases hargs with hargs | ⟨hnone, -⟩
  · exact hargs
  · rw [honly] at hnone
    cases hnone

/-- The result of a transport that is not observed changes nothing. -/
theorem filter_initializing (h : stream.Sound) {transport : Nat} (hout : transport ∉ stream.observed) :
    { stream with initializing := stream.initializing.filter (· ≠ transport) }.Sound := by
  refine ⟨h.both, ?_⟩
  have hphase := h.phase
  unfold Phase at hphase ⊢
  cases hstate : stream.state with
  | null =>
      simp only [hstate] at hphase ⊢
      simpa [hphase.2.2.2.1] using hphase
  | initializing =>
      simp only [hstate] at hphase ⊢
      have hsame : stream.initializing.filter (· ≠ transport) = stream.initializing := by
        refine List.filter_eq_self.mpr fun other hother => ?_
        have hne : other ≠ transport := by
          rintro rfl
          exact hout (hphase.2.2.1 ▸ hother)
        simpa using hne
      rw [hsame]
      exact hphase
  | initialized =>
      simp only [hstate] at hphase ⊢
      exact hphase
  | ended =>
      simp only [hstate] at hphase ⊢
      exact hphase

theorem not_observed_null (h : stream.Sound) (hstate : stream.state = .null) (transport : Nat) :
    transport ∉ stream.observed := by
  have hphase := h.phase
  simp only [Phase, hstate] at hphase
  simp [hphase.2.2.2.2.1]

theorem posted_ended (h : stream.Sound) (hstate : stream.state = .ended) : stream.posted.length = 1 := by
  have hphase := h.phase
  simpa only [Phase, hstate] using hphase

theorem rtpTransportDidInitialize (h : stream.Sound) (transport : Nat) (error : Option String) :
    (stream.rtpTransportDidInitialize transport error).Sound := by
  rw [RTPStream.rtpTransportDidInitialize]
  dsimp only
  by_cases hobserved : transport ∈ stream.observed
  · rw [if_neg (not_not.mpr hobserved)]
    cases hstate : stream.state with
    | null => exact absurd hobserved (h.not_observed_null hstate transport)
    | initializing =>
        obtain ⟨hposted, hlookups, hretries, hinitializing, -, -, hargs⟩ := h.single hstate hobserved
        have hset : stream.rtpArgs ≠ none := Option.isSome_iff_ne_none.mp hargs
        rw [if_neg (by simp), if_neg hset]
        cases error with
        | some reason => exact ⟨rfl, by simp [Phase, post, hposted]⟩
        | none => exact ⟨rfl, by simp [Phase, post, hposted, hlookups, hretries]⟩
    | initialized =>
        have hphase := h.phase
        simp only [Phase, hstate] at hphase
        rw [if_neg (by simp), if_pos hphase.2.2.2.1]
        exact ⟨h.both, by simpa only [Phase, hstate] using hphase⟩
    | ended =>
        rw [if_pos rfl]
        exact ⟨h.both, by simpa only [Phase, hstate] using h.posted_ended hstate⟩
  · rw [if_pos hobserved]
    exact h.filter_initializing hobserved

theorem rtpTransportDidFail (h : stream.Sound) (transport : Nat) (reason : String) :
    (stream.rtpTransportDidFail transport reason).Sound := by
  rw [RTPStream.rtpTransportDidFail]
  dsimp only
  by_cases hobserved : transport ∈ stream.observed
  · rw [if_neg (not_not.mpr hobserved)]
    cases hstate : stream.state with
    | null => exact absurd hobserved (h.not_observed_null hstate transport)
    | initializing =>
        obtain ⟨hposted, hlookups, hretries, hinitializing, hobserved, hinitialized, hargs⟩ :=
          h.single hstate hobserved
        rw [if_neg (by simp)]
        refine ⟨h.both, ?_⟩
        simp [Phase, hposted, hlookups, hretries, hinitializing, hobserved, hinitialized, hargs]
    | initialized =>
        have hphase := h.phase
        simp only [Phase, hstate] at hphase
        rw [if_neg (by simp)]
        exact ⟨h.both, by simpa [Phase, hstate] using hphase⟩
    | ended =>
        rw [if_pos rfl]
        exact ⟨h.both, by simpa only [Phase, hstate] using h.posted_ended hstate⟩
  · rw [if_pos hobserved]
    exact h.filter_initializing hobserved

/-- The condition on a handler that goes on. -/
def Resumes (left : RTPStream) (attempts : List Attempt) (retry : Retry) : Prop :=
  ∀ servers ∈ left.serversLeft retry,
    if left.state = .ended then ¬ exhausts servers attempts else ¬ crashes servers attempts

theorem resume_idle (left : RTPStream) (hidle : left.Idle)
    (hboth : left.rtpArgs.isSome = left.stunServers.isSome) {retry : Retry}
    (hset : left.rtpArgs.isSome ∨ ∀ reason, retry ≠ .tryNextRtpTransport reason) (attempts : List Attempt) :
    (Resumes left attempts retry → (left.resume attempts retry).Sound) ∧
      (¬ Resumes left attempts retry → ¬ (left.resume attempts retry).OneOutcome) := by
  cases retry with
  | initRtpTransport stunServers =>
      simpa [Resumes, resume, serversLeft, hidle.state] using hidle.initRtpTransport stunServers attempts
  | tryNextRtpTransport reason =>
      have hset : left.rtpArgs.isSome := hset.resolve_right fun hnot => hnot reason rfl
      obtain ⟨args, hargs⟩ := Option.isSome_iff_exists.mp hset
      obtain ⟨servers, hservers⟩ := Option.isSome_iff_exists.mp (hboth ▸ hset)
      have htried := hidle.tried hset (tried hservers hargs attempts (some reason))
      simpa [Resumes, resume, serversLeft, hservers, hidle.state] using htried

theorem resume_initialized (left : RTPStream) (h : left.Sound) (hservers : left.stunServers = none)
    {retry : Retry} (hnext : ∀ servers, retry ≠ .initRtpTransport servers) (attempts : List Attempt) :
    (Resumes left attempts retry → (left.resume attempts retry).Sound) ∧
      (¬ Resumes left attempts retry → ¬ (left.resume attempts retry).OneOutcome) := by
  cases retry with
  | initRtpTransport stunServers => exact absurd rfl (hnext stunServers)
  | tryNextRtpTransport reason =>
      refine ⟨fun _ => ?_, fun hnot => absurd (by simp [Resumes, serversLeft, hservers]) hnot⟩
      rw [resume, tryNext_none hservers]
      exact h

theorem resume_ended (left : RTPStream) (h : left.Sound) (hstate : left.state = .ended) (retry : Retry)
    (attempts : List Attempt) :
    (Resumes left attempts retry → (left.resume attempts retry).Sound) ∧
      (¬ Resumes left attempts retry → ¬ (left.resume attempts retry).OneOutcome) := by
  have hposted := h.posted_ended hstate
  cases retry with
  | initRtpTransport stunServers =>
      have htried := tried_ended (tried_initRtpTransport left stunServers attempts) hstate hposted rfl
      simpa [Resumes, resume, serversLeft, hstate] using htried
  | tryNextRtpTransport reason =>
      cases hservers : left.stunServers with
      | none =>
          refine ⟨fun _ => ?_, fun hnot => absurd (by simp [Resumes, serversLeft, hservers]) hnot⟩
          rw [resume, tryNext_none hservers]
          exact h
      | some servers =>
          have hset : left.rtpArgs.isSome := by
            rw [h.both, hservers]
            rfl
          obtain ⟨args, hargs⟩ := Option.isSome_iff_exists.mp hset
          have htried := tried_ended (tried hservers hargs attempts (some reason)) hstate hposted hset
          simpa [Resumes, resume, serversLeft, hservers, hstate] using htried

theorem retry (h : stream.Sound) (attempts : List Attempt) :
    (stream.Served (.retry attempts) → (stream.retry attempts).Sound) ∧
      (¬ stream.Served (.retry attempts) → ¬ (stream.retry attempts).OneOutcome) := by
  unfold RTPStream.retry
  cases hretries : stream.retries with
  | nil => exact ⟨fun _ => h, fun hnot => absurd (by simp [Served, hretries]) hnot⟩
  | cons retry retries =>
      have hserved : stream.Served (.retry attempts) ↔
          Resumes { stream with retries := retries } attempts retry := by
        simp only [Served, hretries, List.head?_cons, Option.mem_some_iff, forall_eq', Resumes]
        cases retry <;> rfl
      rw [hserved]
      have hphase := h.phase
      unfold Phase at hphase
      split at hphase
      · cases hphase.2.2.1.symm.trans hretries
      · rename_i hstate
        obtain ⟨hposted, hcount, hobserved, hinitialized, hargs⟩ := hphase
        rw [hretries, List.length_cons] at hcount
        have hlookups : stream.lookups = 0 := by omega
        have hlast : retries = [] := List.eq_nil_of_length_eq_zero (by omega)
        have hinitializing : stream.initializing = [] := List.eq_nil_of_length_eq_zero (by omega)
        refine resume_idle { stream with retries := retries }
          ⟨hstate, hposted, hlookups, hlast, hinitializing, ?_, hinitialized⟩ h.both ?_ attempts
        · exact hobserved.trans hinitializing
        · refine hargs.imp_right fun hnot reason heq => hnot.2 reason ?_
          rw [hretries, heq]
          exact List.mem_cons_self
      · rename_i hstate
        obtain ⟨hposted, hlookups, hinitialized, hargs, hnext⟩ := hphase
        rw [hretries] at hnext
        have hservers : stream.stunServers = none := by
          have hboth := h.both
          rw [hargs, eq_comm] at hboth
          simpa using hboth
        refine resume_initialized { stream with retries := retries } ⟨h.both, ?_⟩ hservers (fun servers heq => ?_) attempts
        · simp only [Phase, hstate]
          exact ⟨hposted, hlookups, hinitialized, hargs, fun servers hmem =>
            hnext servers (List.mem_cons_of_mem _ hmem)⟩
        · exact hnext servers (heq ▸ List.mem_cons_self)
      · rename_i hstate
        exact resume_ended { stream with retries := retries } ⟨h.both, by simpa only [Phase, hstate] using hphase⟩ hstate retry attempts

/-- **A step that meets the condition keeps the stream sound, one that does not breaks the outcome.** -/
theorem step (h : stream.Sound) (input : Input) :
    (stream.Served input → (stream.step input).Sound) ∧
      (¬ stream.Served input → ¬ (stream.step input).OneOutcome) := by
  cases input with
  | initializeStream account attempts => exact h.initializeStream account attempts
  | retry attempts => exact h.retry attempts
  | endStream => exact ⟨fun _ => h.endStream, fun hnot => absurd trivial hnot⟩
  | dnsLookupDidFail => exact ⟨fun _ => h.dnsLookupDone [], fun hnot => absurd trivial hnot⟩
  | dnsLookupDidSucceed result => exact ⟨fun _ => h.dnsLookupDone result, fun hnot => absurd trivial hnot⟩
  | rtpTransportDidInitialize transport error =>
      exact ⟨fun _ => h.rtpTransportDidInitialize transport error, fun hnot => absurd trivial hnot⟩
  | rtpTransportDidFail transport reason =>
      exact ⟨fun _ => h.rtpTransportDidFail transport reason, fun hnot => absurd trivial hnot⟩

end Sound

/-! ### Runs -/

theorem sound_new (incoming : Option IncomingMedia) : (new incoming).Sound :=
  ⟨rfl, rfl, rfl, rfl, rfl, rfl, rfl⟩

/-- **The initialization has exactly one outcome** in every state of a run, if and only if every step of
the run meets the condition. -/
theorem oneOutcome_iff (incoming : Option IncomingMedia) (inputs : List Input) :
    (∀ before after, inputs = before ++ after → (run step (new incoming) before).OneOutcome) ↔
      Meets step Served (new incoming) inputs := by
  have hsound := sound_new incoming
  generalize new incoming = stream at hsound
  constructor
  · intro houtcome
    induction inputs generalizing stream with
    | nil => trivial
    | cons first inputs ih =>
        have hserved : stream.Served first := by
          by_contra hnot
          exact (hsound.step first).2 hnot (houtcome [first] inputs rfl)
        refine ⟨hserved, ih _ ((hsound.step first).1 hserved) fun before after heq => ?_⟩
        exact houtcome (first :: before) after (by rw [heq, List.cons_append])
  · rintro hmeets before after rfl
    have hend := Runs.invariant_run Sound (fun _ input h hserved => (h.step input).1 hserved) hsound
      (Runs.meets_append.mp hmeets).1
    exact hend.oneOutcome

/-- A Bonjour account tries ICE without STUN servers; the constructor of a transport raises; and the stream
ends while the last retry is still to come. -/
theorem not_oneOutcome :
    ¬ (run step (new none) [.initializeStream ⟨true, true, [], none⟩ []]).OneOutcome ∧
    ¬ (run step (new none) [.initializeStream ⟨false, false, [], none⟩ [.constructorError]]).OneOutcome ∧
    ¬ (run step (new none) [.initializeStream ⟨false, false, [], none⟩ [], .rtpTransportDidFail 0 "timeout",
      .endStream, .retry []]).OneOutcome := by
  refine ⟨fun h => ?_, fun h => ?_, fun h => ?_⟩
  · exact absurd (h.posted (by decide) (by decide) (by decide) (by decide)) (by decide)
  · exact absurd (h.posted (by decide) (by decide) (by decide) (by decide)) (by decide)
  · exact absurd h.once (by decide)

end SipSimple.Streams.RTPStream
