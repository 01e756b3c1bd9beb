import SipSimple.Account.Xcap.Manager

/-!
# Operations do not get stuck

An update command that comes in the wrong state or in a transaction is dropped. In every state there is
something that will bring the next one: in `fetching` a fetch, which ends with an update; otherwise an
update in the queue or on a timer, or the operations are being applied or uploaded right now. An exception
that leaves the handler of an update takes that away.
-/

namespace SipSimple.Account.Xcap

def Command.IsFetch : Command → Prop
  | .fetch _ _ => True
  | _ => False

def CommandLoop.Fetches : CommandLoop → Prop
  | .fetching _ _ _ _ => True
  | _ => False

/-- Operations are applied or documents uploaded. -/
def CommandLoop.Works : CommandLoop → Prop
  | .applying _ => True
  | .uploading _ _ _ => True
  | _ => False

def CommandLoop.Uploads : CommandLoop → Prop
  | .uploading _ _ _ => True
  | _ => False

/-- A worker fetches the document. -/
def CommandLoop.Awaits (name : DocumentName) : CommandLoop → Prop
  | .fetching _ _ pending _ => name ∈ pending
  | _ => False

namespace XCAPManager

variable {Op : Type} {Content : DocumentName → Type}

/-! ### What is coming -/

/-- A fetch is queued, or on a timer, or under way. -/
def FetchComing (manager : XCAPManager Op Content) : Prop :=
  (∃ command ∈ manager.commandChannel, command.IsFetch) ∨
    (∃ command, manager.timer = some command ∧ command.IsFetch) ∨ manager.loop.Fetches

/-- An update is queued, or on a timer, or under way. -/
def UpdateComing (manager : XCAPManager Op Content) : Prop :=
  .update ∈ manager.commandChannel ∨ manager.timer = some .update ∨ manager.loop.Works

/-- A timer is there to try again what the state is about. -/
def TimerFits (manager : XCAPManager Op Content) : Prop :=
  ∀ command, manager.timer = some command →
    (manager.state = .fetching → command.IsFetch) ∧
      (manager.state = .updating → command = .update) ∧ manager.state ≠ .insync

/-- An update of so many operations is under way, and there will be one for those behind. -/
structure Updating (manager : XCAPManager Op Content) (count : Nat) : Prop where
  level : 0 ≤ manager.transactionLevel
  state : manager.state = .updating
  timer : manager.timer = none
  later : manager.transactionLevel = 0 → manager.journal.drop count ≠ [] →
    .update ∈ manager.commandChannel

def LoopFits (manager : XCAPManager Op Content) : Prop :=
  match manager.loop with
  | .lookup => manager.state = .initializing ∧ manager.timer = none
  | .capabilities => manager.state = .initializing ∧ manager.timer = none
  | .fetching _ _ _ failures => manager.state = .fetching ∧ manager.timer = none ∧
      ∀ failure ∈ failures, failure.2 = .xcapError
  | .applying count => manager.Updating count
  | .uploading count name rest => manager.Updating count ∧ (name :: rest).Nodup
  | _ => True

structure Progressing (manager : XCAPManager Op Content) : Prop where
  level : 0 ≤ manager.transactionLevel
  fetching : manager.state = .fetching → manager.FetchComing
  updating : manager.state = .insync ∨ manager.state = .updating → manager.transactionLevel = 0 →
    manager.journal ≠ [] → manager.UpdateComing
  timer : manager.TimerFits
  loop : manager.LoopFits

/-- What a command that is taken from the queue finds. -/
structure Taken (manager : XCAPManager Op Content) : Prop where
  level : 0 ≤ manager.transactionLevel
  timer : manager.TimerFits
  loop : manager.loop = .ready

/-! ### More commands in the queue -/

/-- What progress depends on is the same, and there may be more commands. -/
structure Extends (before after : XCAPManager Op Content) : Prop where
  state : after.state = before.state
  loop : after.loop = before.loop
  journal : after.journal = before.journal
  level : after.transactionLevel = before.transactionLevel
  timer : after.timer = before.timer
  commands : before.commandChannel ⊆ after.commandChannel

theorem extends_send (manager : XCAPManager Op Content) (command : Command) :
    manager.Extends (manager.send command) :=
  ⟨rfl, rfl, rfl, rfl, rfl, List.subset_append_left _ _⟩

section Extends

variable {before after : XCAPManager Op Content} (extends_ : before.Extends after)

include extends_

theorem FetchComing.mono (h : before.FetchComing) : after.FetchComing := by
  rw [FetchComing, extends_.timer, extends_.loop]
  rcases h with ⟨command, hcommand, hfetch⟩ | h
  · exact .inl ⟨command, extends_.commands hcommand, hfetch⟩
  · exact .inr h

theorem UpdateComing.mono (h : before.UpdateComing) : after.UpdateComing := by
  rw [UpdateComing, extends_.timer, extends_.loop]
  exact h.imp_left fun hcommand => extends_.commands hcommand

theorem Updating.mono {count : Nat} (h : before.Updating count) : after.Updating count := by
  refine ⟨extends_.level ▸ h.level, extends_.state.trans h.state, extends_.timer.trans h.timer, ?_⟩
  rw [extends_.level, extends_.journal]
  exact fun hlevel hjournal => extends_.commands (h.later hlevel hjournal)

theorem LoopFits.mono (h : before.LoopFits) : after.LoopFits := by
  unfold LoopFits at h ⊢
  rw [extends_.loop, extends_.state, extends_.timer]
  cases hloop : before.loop with
  | applying count =>
      rw [hloop] at h
      exact Updating.mono extends_ h
  | uploading count name rest =>
      rw [hloop] at h
      exact ⟨Updating.mono extends_ h.1, h.2⟩
  | _ =>
      rw [hloop] at h
      exact h

theorem Progressing.mono (h : before.Progressing) : after.Progressing := by
  refine ⟨extends_.level ▸ h.level, ?_, ?_, ?_, LoopFits.mono extends_ h.loop⟩
  · rw [extends_.state]
    exact fun hstate => FetchComing.mono extends_ (h.fetching hstate)
  · rw [extends_.state, extends_.level, extends_.journal]
    exact fun hstate hlevel hjournal => UpdateComing.mono extends_ (h.updating hstate hlevel hjournal)
  · rw [TimerFits, extends_.timer, extends_.state]
    exact h.timer

end Extends

namespace Progressing

variable {manager : XCAPManager Op Content}

theorem send (h : manager.Progressing) (command : Command) : (manager.send command).Progressing :=
  mono (extends_send manager command) h

/-- A manager with a loop that is ready or ended. -/
theorem idle (hlevel : 0 ≤ manager.transactionLevel)
    (hfetching : manager.state = .fetching → manager.FetchComing)
    (hupdating : manager.state = .insync ∨ manager.state = .updating →
      manager.transactionLevel = 0 → manager.journal ≠ [] → manager.UpdateComing)
    (htimer : manager.TimerFits) (hloop : manager.loop = .ready ∨ manager.loop = .ended) :
    manager.Progressing := by
  refine ⟨hlevel, hfetching, hupdating, htimer, ?_⟩
  rcases hloop with hloop | hloop <;> simp only [LoopFits, hloop]

/-- A manager in another state than the three. -/
theorem outside (hlevel : 0 ≤ manager.transactionLevel) (hstate : manager.state = .stopped ∨
      manager.state = .terminated ∨ manager.state = .initializing)
    (hloop : manager.LoopFits) : manager.Progressing := by
  refine ⟨hlevel, fun h => ?_, fun h => ?_, fun _ _ => ⟨fun h => ?_, fun h => ?_, fun h => ?_⟩, hloop⟩
  · simp [h] at hstate
  · rcases h with h | h <;> simp [h] at hstate
  all_goals simp [h] at hstate

end Progressing

/-! ### Starting, stopping and fetching -/

namespace Progressing

variable {manager : XCAPManager Op Content}

/-- An exception leaves a handler that had nothing to bring. -/
theorem ended (h : manager.Progressing) (hloop : manager.loop = .ready) :
    Progressing { manager with loop := .ended } := by
  refine idle h.level (fun hstate => ?_) (fun hstate hlevel hjournal => ?_) h.timer (.inr rfl)
  · simpa [FetchComing, hloop, CommandLoop.Fetches] using h.fetching hstate
  · simpa [UpdateComing, hloop, CommandLoop.Works] using h.updating hstate hlevel hjournal

theorem chStart (h : manager.Progressing) (hloop : manager.loop = .ready) :
    manager.chStart.Progressing := by
  rw [XCAPManager.chStart]
  split_ifs
  · exact h
  · refine send (outside ?_ (.inr (.inr rfl)) ?_) _
    · exact h.level
    · simp only [LoopFits, hloop]

theorem saveJournal (h : manager.Progressing) (hloop : manager.loop = .ready)
    (handlers : OperationHandlers Op Content) : (manager.saveJournal handlers).Progressing := by
  rw [XCAPManager.saveJournal]
  split_ifs
  · exact h
  · exact h.ended hloop

theorem chStop (h : manager.Progressing) (hloop : manager.loop = .ready)
    (handlers : OperationHandlers Op Content) : (manager.chStop handlers).Progressing := by
  rw [XCAPManager.chStop]
  split_ifs
  · exact h
  · refine saveJournal (outside ?_ (.inl rfl) (by simp only [LoopFits, hloop])) ?_ handlers
    · exact h.level
    · exact hloop
  · exact h.ended hloop

theorem chCleanup (h : manager.Progressing) : manager.chCleanup.Progressing := by
  rw [XCAPManager.chCleanup]
  split_ifs
  · exact h
  · exact outside h.level (.inr (.inl rfl)) trivial

theorem chInitialize (h : manager.Progressing) (xcapRoot : Bool) :
    (manager.chInitialize xcapRoot).Progressing := by
  refine outside h.level (.inr (.inr rfl)) ?_
  cases xcapRoot <;> exact ⟨rfl, rfl⟩

theorem initializeLater (hlevel : 0 ≤ manager.transactionLevel)
    (hstate : manager.state = .initializing) (timeout : Nat) :
    (manager.initializeLater timeout).Progressing :=
  outside hlevel (.inr (.inr hstate)) trivial

theorem lookedUp (hlevel : 0 ≤ manager.transactionLevel)
    (hstate : manager.state = .initializing ∧ manager.timer = none) (found : Bool) :
    (manager.lookedUp found).Progressing := by
  rw [XCAPManager.lookedUp]
  split_ifs
  · exact outside hlevel (.inr (.inr hstate.1)) hstate
  · exact initializeLater hlevel hstate.1 60

/-- The workers still wait for their documents, or one of them has ended. -/
theorem fetchGoesOn {documents : List DocumentName} {timestamp : Nat} {pending : List DocumentName}
    {failures : List (DocumentName × WorkerFailure)} (hlevel : 0 ≤ manager.transactionLevel)
    (hstate : manager.state = .fetching) (htimer : manager.timer = none)
    (hloop : manager.loop = .fetching documents timestamp pending failures)
    (hfailures : ∀ failure ∈ failures, failure.2 = .xcapError) : manager.Progressing := by
  refine ⟨hlevel, fun _ => .inr (.inr ?_), fun hother => ?_, fun command hcommand => ?_, ?_⟩
  · rw [hloop]
    trivial
  · rcases hother with hother | hother <;> cases hstate.symm.trans hother
  · cases htimer.symm.trans hcommand
  · rw [LoopFits, hloop]
    exact ⟨hstate, htimer, hfailures⟩

theorem got (h : manager.Progressing) (time : Nat) (name : DocumentName)
    (fetched : Option (Fetched (Content name))) (hcaught : manager.loop.Awaits name → fetched ≠ none) :
    (manager.got time name fetched).Progressing := by
  cases hloop : manager.loop with
  | fetching documents timestamp pending failures =>
      have hfits := h.loop
      rw [LoopFits, hloop] at hfits
      obtain ⟨hstate, htimer, hfailures⟩ := hfits
      simp only [XCAPManager.got, hloop]
      split
      · rename_i hname
        cases fetched with
        | none => exact absurd rfl (hcaught (by rw [hloop]; exact hname))
        | some fetched =>
            refine fetchGoesOn ?_ ?_ ?_ rfl ?_
            · exact h.level
            · exact hstate
            · exact htimer
            · split
              · simpa using hfailures
              · exact hfailures
      · exact h
  | _ => simpa only [XCAPManager.got, hloop] using h

/-- While documents are uploaded. -/
theorem uploading {count : Nat} (h : manager.Updating count) {name : DocumentName}
    {rest : List DocumentName} (hloop : manager.loop = .uploading count name rest)
    (hnodup : (name :: rest).Nodup) : manager.Progressing := by
  refine ⟨h.level, fun hstate => ?_, fun _ _ _ => .inr (.inr ?_), fun command hcommand => ?_, ?_⟩
  · cases h.state.symm.trans hstate
  · rw [hloop]
    trivial
  · cases h.timer.symm.trans hcommand
  · simp only [LoopFits, hloop]
    exact ⟨h, hnodup⟩

/-- The fetch is queued. -/
theorem initialized (hlevel : 0 ≤ manager.transactionLevel) (htimer : manager.timer = none)
    (time : Nat) (caps : ServerCaps) : (manager.initialized time caps).Progressing := by
  have hloop : (manager.initialized time caps).loop =
      if manager.subscriber then .ready else .ended := rfl
  refine idle hlevel (fun _ => .inl ⟨_, List.mem_append_right _ (List.mem_singleton_self _), trivial⟩)
    (fun hstate => ?_) (fun command hcommand => ?_) ?_
  · rcases hstate with hstate | hstate <;> cases hstate
  · exact absurd (htimer.symm.trans hcommand) (by simp)
  · rw [hloop]
    cases manager.subscriber
    · exact .inr rfl
    · exact .inl rfl

theorem gotCaps (hlevel : 0 ≤ manager.transactionLevel)
    (hstate : manager.state = .initializing ∧ manager.timer = none) (time : Nat)
    (fetched : Option (Fetched ServerCaps)) : (manager.gotCaps time fetched).Progressing := by
  have hlater (caps : Document ServerCaps) (timeout : Nat) :
      ({ manager with serverCaps := caps }.initializeLater timeout).Progressing := by
    refine initializeLater ?_ ?_ timeout
    · exact hlevel
    · exact hstate.1
  cases fetched with
  | none => exact outside hlevel (.inr (.inr hstate.1)) trivial
  | some fetched =>
      simp only [XCAPManager.gotCaps]
      split_ifs
      · exact hlater _ 60
      · split
        · exact hlater _ 60
        · split_ifs
          · refine initialized ?_ ?_ time _
            · exact hlevel
            · exact hstate.2
          · exact hlater _ 3600

theorem forget (h : manager.Progressing) (hloop : manager.loop = .ready) (modified : List String) :
    (manager.forget modified).Progressing := by
  have hreset (manager : XCAPManager Op Content) (h : manager.Progressing) :
      (manager.resetDocuments DocumentName.all).Progressing := by
    have hextends : Extends manager (manager.resetDocuments DocumentName.all) :=
      ⟨rfl, rfl, rfl, rfl, rfl, List.Subset.refl _⟩
    exact mono hextends h
  rw [XCAPManager.forget]
  split_ifs
  · refine hreset _ (idle h.level (fun hstate => ?_) (fun _ _ hjournal => ?_) h.timer (.inl hloop))
    · exact h.fetching hstate
    · exact absurd rfl hjournal
  · exact hreset _ h
  · exact h

theorem reloadAgain (h : manager.Progressing) (hloop : manager.loop = .ready)
    (modified : List String) : (manager.reloadAgain modified).Progressing := by
  rw [XCAPManager.reloadAgain]
  split_ifs
  · exact h
  · refine send (outside ?_ (.inr (.inr rfl)) ?_) _
    · exact h.level
    · simp only [LoopFits, hloop]
  · exact h
  · exact h.ended hloop

theorem chReload (h : manager.Progressing) (hloop : manager.loop = .ready) (modified : List String) :
    (manager.chReload modified).Progressing := by
  have hforget : (manager.forget modified).loop = .ready := by
    rw [XCAPManager.forget]
    split_ifs <;> exact hloop
  rw [XCAPManager.chReload]
  split_ifs
  · exact h
  · exact reloadAgain (forget h hloop modified) hforget modified

variable (handlers : OperationHandlers Op Content)

theorem fetchFailure_ne_uncaught {failures : List (DocumentName × WorkerFailure)}
    (hfailures : ∀ failure ∈ failures, failure.2 = .xcapError) :
    fetchFailure failures ≠ some .uncaught := by
  intro hfailure
  obtain ⟨name, -, hlookup⟩ := List.exists_of_findSome?_eq_some hfailure
  obtain ⟨before, after, rfl, -⟩ := List.lookup_eq_some_iff.mp hlookup
  cases hfailures (name, .uncaught) (by simp)

theorem fetched (hlevel : 0 ≤ manager.transactionLevel) (hstate : manager.state = .fetching)
    (htimer : manager.timer = none) (time : Nat) (documents : List DocumentName) (timestamp : Nat)
    {failure : Option WorkerFailure} (hfailure : failure ≠ some .uncaught) :
    (manager.fetched handlers time documents timestamp failure).Progressing := by
  unfold XCAPManager.fetched
  split
  · refine idle hlevel (fun _ => .inr (.inl ⟨_, rfl, trivial⟩)) (fun h => ?_) (fun command h => ?_)
      (.inl rfl)
    · rcases h with h | h <;> cases hstate.symm.trans h
    · cases h
      refine ⟨fun _ => trivial, fun h => ?_, fun h => ?_⟩ <;> cases hstate.symm.trans h
  · exact absurd rfl hfailure
  · split
    · rename_i hinsync
      refine idle hlevel (fun h => ?_) (fun _ _ h => ?_) (fun command h => ?_) (.inl rfl)
      · cases h
      · exact absurd (List.isEmpty_iff.mp hinsync.1) h
      · cases htimer.symm.trans h
    · refine idle hlevel (fun h => ?_) (fun _ _ _ => ?_) (fun command h => ?_) (.inl rfl)
      · cases h
      · exact .inl (List.mem_append_right _ (List.mem_singleton_self _))
      · cases htimer.symm.trans h

theorem fetchDocuments (hlevel : 0 ≤ manager.transactionLevel) (hstate : manager.state = .fetching)
    (htimer : manager.timer = none) (time : Nat) (documents : List DocumentName) (timestamp : Nat) :
    (manager.fetchDocuments handlers time documents timestamp).Progressing := by
  rw [XCAPManager.fetchDocuments]
  split_ifs
  · exact fetched handlers hlevel hstate htimer time documents timestamp (by simp)
  · refine fetchGoesOn ?_ ?_ ?_ rfl (by simp)
    · exact hlevel
    · exact hstate
    · exact htimer

/-- In another state the fetch is put off. -/
theorem chFetch (h : manager.Taken) (hupdating : manager.state = .updating →
      manager.transactionLevel = 0 → manager.journal ≠ [] → manager.UpdateComing)
    (time : Nat) (documents : List DocumentName) (timestamp : Nat) :
    (manager.chFetch handlers time documents timestamp).Progressing := by
  rw [XCAPManager.chFetch]
  split_ifs with hstate
  · refine idle h.level (fun hfetching => absurd hfetching hstate.2) (fun hother => ?_) h.timer
      (.inl h.loop)
    exact hupdating (hother.resolve_left hstate.1)
  · cases htimer : manager.timer with
    | none =>
        refine fetchDocuments handlers ?_ ?_ ?_ time _ timestamp
        · exact h.level
        · rfl
        · rfl
    | some command =>
        obtain ⟨hfetching, hupdate, hinsync⟩ := h.timer command htimer
        have hfetch : command.IsFetch := by
          apply hfetching
          by_contra hnot
          exact hstate ⟨hinsync, hnot⟩
        cases command with
        | fetch more older =>
            refine fetchDocuments handlers ?_ ?_ ?_ time _ timestamp
            · exact h.level
            · rfl
            · rfl
        | _ => cases hfetch

/-- A command that is not what the state waits for can be taken from the queue. -/
theorem take (h : manager.Progressing) {command : Command} {rest : List Command}
    (hchannel : manager.commandChannel = command :: rest) (hloop : manager.loop = .ready)
    (hfetch : ¬ command.IsFetch) (hupdate : command ≠ .update) :
    (manager.take command rest).Progressing := by
  refine idle h.level (fun hstate => ?_) (fun hstate hlevel hjournal => ?_) h.timer (.inl hloop)
  · rcases h.fetching hstate with ⟨other, hother, hisFetch⟩ | hcoming
    · rw [hchannel, List.mem_cons] at hother
      rcases hother with rfl | hother
      · exact absurd hisFetch hfetch
      · exact .inl ⟨other, hother, hisFetch⟩
    · exact .inr hcoming
  · rcases h.updating hstate hlevel hjournal with hother | hcoming
    · rw [hchannel, List.mem_cons] at hother
      exact .inl (hother.resolve_left hupdate.symm)
    · exact .inr hcoming

/-- The journal and the transaction level may change where an update is queued for what is to be done. -/
theorem rescheduled {before after : XCAPManager Op Content} (h : before.Progressing)
    (hstate : after.state = before.state) (hloop : after.loop = before.loop)
    (htimer : after.timer = before.timer) (hchannel : before.commandChannel ⊆ after.commandChannel)
    (hlevel : 0 ≤ after.transactionLevel)
    (hupdate : after.transactionLevel = 0 → after.journal ≠ [] → .update ∈ after.commandChannel) :
    after.Progressing := by
  have hupdating {count : Nat} (hcount : before.Updating count) : after.Updating count := by
    refine ⟨hlevel, hstate.trans hcount.state, htimer.trans hcount.timer, fun hzero hjournal => ?_⟩
    refine hupdate hzero fun hempty => hjournal ?_
    rw [hempty, List.drop_nil]
  refine ⟨hlevel, fun hfetching => ?_, fun _ hzero hjournal => .inl (hupdate hzero hjournal), ?_, ?_⟩
  · rw [FetchComing, htimer, hloop]
    rcases h.fetching (hstate.symm.trans hfetching) with ⟨command, hcommand, hfetch⟩ | hcoming
    · exact .inl ⟨command, hchannel hcommand, hfetch⟩
    · exact .inr hcoming
  · rw [TimerFits, htimer, hstate]
    exact h.timer
  · have hloopFits := h.loop
    unfold LoopFits at hloopFits ⊢
    rw [hloop, hstate, htimer]
    cases hcase : before.loop with
    | applying count =>
        rw [hcase] at hloopFits
        exact hupdating hloopFits
    | uploading count name rest =>
        rw [hcase] at hloopFits
        exact ⟨hupdating hloopFits.1, hloopFits.2⟩
    | _ =>
        rw [hcase] at hloopFits
        exact hloopFits

theorem scheduleOperation (h : manager.Progressing) (operation : Op)
    (hstores : manager.transactionLevel = 0 →
      handlers.stores (manager.journal ++ [{ operation := operation }]) = true) :
    (manager.scheduleOperation handlers operation).Progressing := by
  rw [XCAPManager.scheduleOperation]
  split_ifs with hzero
  · refine h.rescheduled rfl rfl rfl (List.subset_append_left _ _) ?_ fun _ _ => ?_
    · exact h.level
    · exact List.mem_append_right _ (List.mem_singleton_self _)
  · refine h.rescheduled rfl rfl rfl (List.Subset.refl _) ?_ fun hlevel =>
      absurd ⟨hlevel, hstores hlevel⟩ hzero
    exact h.level

theorem startTransaction (h : manager.Progressing) : manager.startTransaction.Progressing := by
  have hlevel := h.level
  have hnext : manager.startTransaction.transactionLevel = manager.transactionLevel + 1 := rfl
  refine h.rescheduled rfl rfl rfl (List.Subset.refl _) ?_ fun hzero => ?_ <;> omega

theorem commitTransaction (h : manager.Progressing) (hstores : manager.transactionLevel = 1 →
      manager.journal ≠ [] → handlers.stores manager.journal = true) :
    (manager.commitTransaction handlers).Progressing := by
  have hlevel := h.level
  rw [XCAPManager.commitTransaction]
  split
  · exact h
  · rename_i hzero
    have hnext : 0 ≤ manager.transactionLevel - 1 := by omega
    dsimp only
    split
    · refine h.rescheduled rfl rfl rfl ?_ hnext fun _ _ => ?_
      · exact List.subset_append_left _ _
      · exact List.mem_append_right _ (List.mem_singleton_self _)
    · rename_i hupdate
      refine h.rescheduled rfl rfl rfl (List.Subset.refl _) hnext fun hlevel hjournal => ?_
      have hone : manager.transactionLevel = 1 := by
        have hzero : manager.transactionLevel - 1 = 0 := hlevel
        omega
      exact absurd ⟨hlevel, by simpa using hjournal, hstores hone hjournal⟩ hupdate

/-- While the loop waits for something there is no timer. -/
theorem loop_of_timer (h : manager.Progressing) {command : Command}
    (htimer : manager.timer = some command) : manager.loop = .ready ∨ manager.loop = .ended := by
  have hloopFits := h.loop
  have hsome : manager.timer ≠ none := by simp [htimer]
  unfold LoopFits at hloopFits
  cases hloop : manager.loop with
  | ready => exact .inl rfl
  | ended => exact .inr rfl
  | applying count =>
      rw [hloop] at hloopFits
      exact absurd hloopFits.timer hsome
  | uploading count name rest =>
      rw [hloop] at hloopFits
      exact absurd hloopFits.1.timer hsome
  | fetching documents timestamp pending failures =>
      rw [hloop] at hloopFits
      exact absurd hloopFits.2.1 hsome
  | _ =>
      rw [hloop] at hloopFits
      exact absurd hloopFits.2 hsome

theorem timerFires (h : manager.Progressing) {command : Command}
    (htimer : manager.timer = some command) :
    ({ manager with timer := none }.send command).Progressing := by
  obtain ⟨hfetching, hupdating, hinsync⟩ := h.timer command htimer
  have hqueued : command ∈ ({ manager with timer := none }.send command).commandChannel :=
    List.mem_append_right _ (List.mem_singleton_self _)
  refine idle h.level (fun hstate => .inl ⟨command, hqueued, hfetching hstate⟩)
    (fun hstate _ _ => ?_) (fun _ hnone => by cases hnone) (h.loop_of_timer htimer)
  obtain rfl := hupdating (hstate.resolve_left hinsync)
  exact .inl hqueued

/-! ### Updating -/

theorem sendNotExecutedFetch (h : manager.Progressing) : manager.sendNotExecutedFetch.Progressing := by
  rw [XCAPManager.sendNotExecutedFetch]
  split
  · have hextends : Extends manager { manager with notExecutedFetch := none } :=
      ⟨rfl, rfl, rfl, rfl, rfl, List.Subset.refl _⟩
    exact send (mono hextends h) _
  · exact h

/-- The end of an update. -/
theorem finished (h : manager.Progressing) (hloop : manager.loop = .ready) :
    (manager.sendNotExecutedFetch.saveJournal handlers).Progressing := by
  refine saveJournal (sendNotExecutedFetch h) ?_ handlers
  rw [XCAPManager.sendNotExecutedFetch]
  split <;> exact hloop

/-- The operations behind the ones that are done have an update in the queue. -/
theorem updated {count : Nat} (h : manager.Updating count) (time : Nat) :
    (manager.updated handlers time count).Progressing := by
  have htimer (other : XCAPManager Op Content) (hother : other.timer = manager.timer) :
      other.TimerFits := fun command hcommand => by
    cases (hother.trans h.timer).symm.trans hcommand
  rw [XCAPManager.updated]
  split_ifs with hempty hloads
  · refine idle h.level (fun hstate => ?_) (fun _ _ hjournal => ?_) (htimer _ rfl) (.inr rfl)
    · cases hstate
    · exact absurd (List.isEmpty_iff.mp hempty) hjournal
  · refine finished handlers (idle h.level (fun hstate => ?_) (fun _ _ hjournal => ?_)
      (htimer _ rfl) (.inl rfl)) rfl
    · cases hstate
    · exact absurd (List.isEmpty_iff.mp hempty) hjournal
  · refine finished handlers (idle h.level (fun hstate => ?_) (fun _ hlevel hjournal => ?_)
      (htimer _ rfl) (.inl rfl)) rfl
    · cases h.state.symm.trans hstate
    · exact .inl (h.later hlevel hjournal)

variable [∀ name, RootElement (Content name)]

/-- The part of `update` before the upload does not raise for any of the documents. -/
def Prepares (manager : XCAPManager Op Content) (names : List DocumentName) : Prop :=
  ∀ name ∈ names, (manager.documents name).isDirty → (manager.documents name).supported →
    (handlers.prepare name (manager.documents name)).2 = false

instance (manager : XCAPManager Op Content) (names : List DocumentName) :
    Decidable (Prepares handlers manager names) :=
  inferInstanceAs (Decidable (∀ name ∈ names, _ → _ → _ = false))

theorem upload {count : Nat} (time : Nat) :
    ∀ (names : List DocumentName) (manager : XCAPManager Op Content), manager.Updating count →
      names.Nodup → Prepares handlers manager names →
      (XCAPManager.upload handlers time count names manager).Progressing
  | [], _, h, _, _ => updated handlers h time
  | name :: rest, manager, h, hnodup, hprepares => by
      have hrest : Prepares handlers manager rest := fun other hother =>
        hprepares other (List.mem_cons_of_mem _ hother)
      rw [XCAPManager.upload]
      split
      · rename_i hdirty
        have hraised := hprepares name List.mem_cons_self hdirty.1 hdirty.2
        dsimp only
        rw [if_neg (by simp [hraised])]
        split
        · refine uploading ?_ rfl hnodup
          exact ⟨h.level, h.state, h.timer, h.later⟩
        · refine upload time rest _ ⟨h.level, h.state, h.timer, h.later⟩ hnodup.of_cons ?_
          intro other hother
          have hother' : other ≠ name := fun h => (List.nodup_cons.mp hnodup).1 (h ▸ hother)
          simp only [Function.update_of_ne hother']
          exact hrest other hother
      · exact upload time rest manager h hnodup.of_cons hrest

/-- Of the operations that are not counted, `applyFirst` changes nothing. -/
theorem drop_applyFirst : ∀ {count : Nat} {journal after : List (JournalEntry Op)} {operation : Op},
    applyFirst count journal = some (operation, after) → after.drop count = journal.drop count
  | 0, _, _, _, h => by cases h
  | _ + 1, [], _, _, h => by cases h
  | count + 1, entry :: rest, after, operation, h => by
      rw [applyFirst] at h
      split at h
      · obtain ⟨⟨found, marked⟩, hfound, hafter⟩ := Option.map_eq_some_iff.mp h
        cases hafter
        show marked.drop count = rest.drop count
        exact drop_applyFirst hfound
      · cases h
        rfl

theorem apply {count : Nat} (h : manager.Updating count) (time : Nat)
    (hprepares : applyFirst count manager.journal = none →
      Prepares handlers manager DocumentName.all) :
    (manager.apply handlers time count).Progressing := by
  rw [XCAPManager.apply]
  cases happly : applyFirst count manager.journal with
  | none => exact upload handlers time _ _ h (by decide) (hprepares happly)
  | some found =>
      obtain ⟨operation, journal⟩ := found
      refine ⟨h.level, fun hstate => ?_, fun _ _ _ => .inr (.inr trivial), fun command hcommand => ?_,
        h.level, h.state, h.timer, ?_⟩
      · cases h.state.symm.trans hstate
      · cases h.timer.symm.trans hcommand
      · intro hlevel hjournal
        refine h.later hlevel ?_
        rwa [← drop_applyFirst happly]

theorem chUpdate (h : manager.Taken) (hfetching : manager.state = .fetching → manager.FetchComing)
    (time : Nat) (hprepares : manager.state = .insync ∨ manager.state = .updating →
      manager.transactionLevel = 0 → applyFirst manager.journal.length manager.journal = none →
      Prepares handlers manager DocumentName.all) :
    (manager.chUpdate handlers time).Progressing := by
  rw [XCAPManager.chUpdate]
  split_ifs with hstate hlevel
  · refine idle h.level hfetching (fun hother => ?_) h.timer (.inl h.loop)
    rcases hother with hother | hother
    · exact absurd hother hstate.1
    · exact absurd hother hstate.2
  · exact idle h.level hfetching (fun _ hzero => absurd hzero hlevel) h.timer (.inl h.loop)
  · refine apply handlers ?_ time ?_
    · refine ⟨h.level, rfl, rfl, fun _ hjournal => ?_⟩
      exact absurd List.drop_length hjournal
    · exact hprepares (by tauto) (not_not.mp hlevel)

theorem fetchRequired (hlevel : 0 ≤ manager.transactionLevel) (htimer : manager.timer = none)
    (time count : Nat) : (manager.fetchRequired time count).Progressing := by
  refine idle hlevel (fun _ => .inl ⟨_, List.mem_append_right _ (List.mem_singleton_self _), trivial⟩)
    (fun hstate => ?_) (fun command hcommand => ?_) (.inl rfl)
  · rcases hstate with hstate | hstate <;> cases hstate
  · cases htimer.symm.trans hcommand

theorem replied (h : manager.Progressing) (time : Nat) (response : Option Response)
    (hresponse : manager.loop.Uploads → response ≠ none)
    (hprepares : ∀ count name rest, manager.loop = .uploading count name rest →
      Prepares handlers manager rest) :
    (manager.replied handlers time response).Progressing := by
  cases hloop : manager.loop with
  | uploading count name rest =>
      have hfits : manager.Updating count ∧ (name :: rest).Nodup := by
        have hloopFits := h.loop
        simpa only [LoopFits, hloop] using hloopFits
      obtain ⟨hupdating, hnodup⟩ := hfits
      cases response with
      | none => exact absurd rfl (hresponse (by rw [hloop]; trivial))
      | some response =>
          simp only [XCAPManager.replied, hloop]
          split
          · refine upload handlers time rest _ ⟨hupdating.level, hupdating.state, hupdating.timer,
              hupdating.later⟩ hnodup.of_cons ?_
            intro other hother
            have hother' : other ≠ name := fun h => (List.nodup_cons.mp hnodup).1 (h ▸ hother)
            simp only [Function.update_of_ne hother']
            exact hprepares count name rest hloop other hother
          · refine fetchRequired ?_ ?_ time count
            · exact hupdating.level
            · exact hupdating.timer
          · refine idle hupdating.level (fun hstate => ?_) (fun _ _ _ => .inr (.inl rfl))
              (fun command hcommand => ?_) (.inl rfl)
            · cases hupdating.state.symm.trans hstate
            · cases hcommand
              refine ⟨fun hstate => ?_, fun _ => rfl, fun hstate => ?_⟩ <;>
                cases hupdating.state.symm.trans hstate
  | _ => simpa only [XCAPManager.replied, hloop] using h

/-- The documents an event may upload, once all operations are done. -/
def uploadsFrom (manager : XCAPManager Op Content) : Event Op Content → List DocumentName
  | .handle _ =>
      match manager.loop, manager.commandChannel with
      | .ready, .update :: _ =>
          if (manager.state = .insync ∨ manager.state = .updating) ∧ manager.transactionLevel = 0 ∧
              (applyFirst manager.journal.length manager.journal).isNone then DocumentName.all
          else []
      | _, _ => []
  | .wake =>
      match manager.loop with
      | .applying count =>
          if (applyFirst count manager.journal).isNone then DocumentName.all else []
      | _ => []
  | .replied _ =>
      match manager.loop with
      | .uploading _ _ rest => rest
      | _ => []
  | _ => []

/-- No exception leaves the handler of a fetch or update: no GET, PUT or DELETE raises one that is not
caught, and the derived lists of a document that is to be sent are there. Outside of transactions the
journal can be stored. -/
def Caught (manager : XCAPManager Op Content) (input : Nat × Event Op Content) : Prop :=
  (match input.2 with
    | .scheduleOperation operation => manager.transactionLevel = 0 →
        handlers.stores (manager.journal ++ [{ operation := operation }]) = true
    | .commitTransaction => manager.transactionLevel = 1 → manager.journal ≠ [] →
        handlers.stores manager.journal = true
    | .got name none => ¬ manager.loop.Awaits name
    | .replied none => ¬ manager.loop.Uploads
    | _ => True) ∧
  Prepares handlers manager (uploadsFrom manager input.2)

theorem handle (h : manager.Progressing) (time : Nat) (xcapRoot : Bool)
    (hprepares : Prepares handlers manager (uploadsFrom manager (.handle xcapRoot))) :
    (manager.handle handlers time xcapRoot).Progressing := by
  rw [XCAPManager.handle]
  split
  · rename_i command rest hloop hchannel
    have htaken : Taken (manager.take command rest) := ⟨h.level, h.timer, hloop⟩
    cases command with
    | start => exact chStart (h.take hchannel hloop id (by decide)) hloop
    | stop => exact chStop (h.take hchannel hloop id (by decide)) hloop handlers
    | cleanup => exact chCleanup (h.take hchannel hloop id (by decide))
    | initialization => exact chInitialize (h.take hchannel hloop id (by decide)) xcapRoot
    | reload modified => exact chReload (h.take hchannel hloop id (by simp)) hloop modified
    | fetch documents timestamp =>
        refine chFetch handlers htaken (fun hstate hlevel hjournal => ?_) time documents timestamp
        rcases h.updating (.inr hstate) hlevel hjournal with hcoming | hcoming
        · rw [hchannel, List.mem_cons] at hcoming
          exact .inl (hcoming.resolve_left (by simp))
        · exact .inr hcoming
    | update =>
        refine chUpdate handlers htaken (fun hstate => ?_) time fun hstate hlevel happly => ?_
        · rcases h.fetching hstate with ⟨other, hother, hisFetch⟩ | hcoming
          · rw [hchannel, List.mem_cons] at hother
            rcases hother with rfl | hother
            · cases hisFetch
            · exact .inl ⟨other, hother, hisFetch⟩
          · exact .inr hcoming
        · have hall : uploadsFrom manager (.handle xcapRoot) = DocumentName.all := by
            simp only [uploadsFrom, hloop, hchannel]
            rw [if_pos ⟨hstate, hlevel, Option.isNone_iff_eq_none.mpr happly⟩]
          rw [hall] at hprepares
          exact hprepares
  · exact h

theorem wake (h : manager.Progressing) (time : Nat)
    (hprepares : Prepares handlers manager (uploadsFrom manager .wake)) :
    (manager.wake handlers time).Progressing := by
  have hloopFits := h.loop
  rw [XCAPManager.wake]
  split
  · rename_i documents timestamp failures hloop
    rw [LoopFits, hloop] at hloopFits
    obtain ⟨hstate, htimer, hfailures⟩ := hloopFits
    exact fetched handlers h.level hstate htimer time documents timestamp
      (fetchFailure_ne_uncaught hfailures)
  · rename_i count hloop
    rw [LoopFits, hloop] at hloopFits
    refine apply handlers hloopFits time fun happly => ?_
    have hall : uploadsFrom manager .wake = DocumentName.all := by
      simp only [uploadsFrom, hloop]
      rw [if_pos (Option.isNone_iff_eq_none.mpr happly)]
    rwa [hall] at hprepares
  · exact h

/-- One step. -/
theorem step (h : manager.Progressing) (input : Nat × Event Op Content)
    (hcaught : Caught handlers manager input) : (manager.step handlers input).Progressing := by
  obtain ⟨time, event⟩ := input
  obtain ⟨hreply, hprepares⟩ := hcaught
  have hloopFits := h.loop
  cases event with
  | scheduleOperation operation => exact h.scheduleOperation handlers operation hreply
  | startTransaction => exact h.startTransaction
  | commitTransaction => exact h.commitTransaction handlers hreply
  | start => exact h.send _
  | stop => exact h.send _
  | settingsDidChange modified enabled xcapEnabled =>
      exact settingsDidChange_of_send (fun _ command h => h.send command) h _ _ _
  | settingsDeleted => exact (h.send _).send _
  | subscriptionChanged => exact h.send _
  | gotNotify applications => exact h.send _
  | timerFires =>
      rw [XCAPManager.step]
      split
      · rename_i command htimer
        exact h.timerFires htimer
      · exact h
  | handle xcapRoot => exact handle handlers h time xcapRoot hprepares
  | lookedUp found =>
      rw [XCAPManager.step]
      split
      · rename_i hloop
        rw [LoopFits, hloop] at hloopFits
        exact lookedUp h.level hloopFits found
      · exact h
  | gotCaps fetched =>
      rw [XCAPManager.step]
      split
      · rename_i hloop
        rw [LoopFits, hloop] at hloopFits
        exact gotCaps h.level hloopFits time fetched
      · exact h
  | got name fetched =>
      refine h.got time name fetched fun hawaits hnone => ?_
      rw [hnone] at hreply
      exact hreply hawaits
  | wake => exact wake handlers h time hprepares
  | replied response =>
      refine replied handlers h time response (fun huploads hnone => ?_) fun count name rest hloop => ?_
      · rw [hnone] at hreply
        exact hreply huploads
      · simpa only [uploadsFrom, hloop] using hprepares

end Progressing

/-! ### Transactions -/

/-- A handler ran or an upload was started. -/
def IsWork : Effect Op Content → Prop
  | .ran _ _ => True
  | .sent _ _ => True
  | _ => False

/-- The transaction level when the last command was taken from the queue. -/
def lastLevel : List (Effect Op Content) → Option Int
  | [] => none
  | .handled _ level :: _ => some level
  | _ :: older => lastLevel older

/-- Every handler ran, and every upload was started, by a command that was taken outside of
transactions. -/
def WorkedOutside : List (Effect Op Content) → Prop
  | [] => True
  | effect :: older => (IsWork effect → lastLevel older = some 0) ∧ WorkedOutside older

/-- Neither work nor another command. -/
def IsQuiet : Effect Op Content → Prop
  | .handled _ _ => False
  | .ran _ _ => False
  | .sent _ _ => False
  | _ => True

/-- The work that goes on is that of a command that was taken outside of transactions. -/
structure Outside (manager : XCAPManager Op Content) : Prop where
  worked : WorkedOutside manager.effects
  level : manager.loop.Works → lastLevel manager.effects = some 0

/-- No work is begun. -/
structure Quietly (before after : XCAPManager Op Content) : Prop where
  effects : ∃ effects, after.effects = effects ++ before.effects ∧ ∀ effect ∈ effects, IsQuiet effect
  works : after.loop.Works → before.loop.Works

theorem lastLevel_quiet {effects : List (Effect Op Content)} (h : ∀ effect ∈ effects, IsQuiet effect)
    (older : List (Effect Op Content)) : lastLevel (effects ++ older) = lastLevel older := by
  induction effects with
  | nil => rfl
  | cons effect effects ih =>
      have hrest := ih fun other hother => h other (List.mem_cons_of_mem _ hother)
      have heffect := h effect List.mem_cons_self
      cases effect <;> first | exact heffect.elim | exact hrest

theorem workedOutside_quiet {effects : List (Effect Op Content)}
    (h : ∀ effect ∈ effects, IsQuiet effect) {older : List (Effect Op Content)}
    (hworked : WorkedOutside older) : WorkedOutside (effects ++ older) := by
  induction effects with
  | nil => exact hworked
  | cons effect effects ih =>
      refine ⟨fun hwork => ?_, ih fun other hother => h other (List.mem_cons_of_mem _ hother)⟩
      have heffect := h effect List.mem_cons_self
      cases effect <;> first | exact heffect.elim | exact hwork.elim

theorem Outside.quietly {before after : XCAPManager Op Content} (h : before.Outside)
    (hquietly : Quietly before after) : after.Outside := by
  obtain ⟨⟨effects, heffects, hquiet⟩, hworks⟩ := hquietly
  refine ⟨?_, fun hafter => ?_⟩
  · rw [heffects]
    exact workedOutside_quiet hquiet h.worked
  · rw [heffects, lastLevel_quiet hquiet]
    exact h.level (hworks hafter)

namespace Quietly

variable {before middle after : XCAPManager Op Content}

theorem of_eq (heffects : after.effects = before.effects)
    (hworks : after.loop.Works → before.loop.Works) : Quietly before after :=
  ⟨⟨[], heffects, by simp⟩, hworks⟩

theorem trans (left : Quietly before middle) (right : Quietly middle after) :
    Quietly before after := by
  obtain ⟨⟨first, hfirst, hquiet⟩, hworks⟩ := left
  obtain ⟨⟨second, hsecond, hquiet'⟩, hworks'⟩ := right
  refine ⟨⟨second ++ first, ?_, fun effect heffect => ?_⟩, hworks ∘ hworks'⟩
  · rw [hsecond, hfirst, List.append_assoc]
  · exact (List.mem_append.mp heffect).elim (hquiet' effect) (hquiet effect)

theorem record (h : Quietly before after) {effects : List (Effect Op Content)}
    (hquiet : ∀ effect ∈ effects, IsQuiet effect) : Quietly before (after.record effects) :=
  h.trans ⟨⟨effects, rfl, hquiet⟩, id⟩

theorem send (h : Quietly before after) (command : Command) : Quietly before (after.send command) :=
  ⟨h.effects, h.works⟩

theorem schedule (h : Quietly before after) (timeout : Nat) (command : Command) :
    Quietly before (after.schedule timeout command) :=
  h.trans ⟨⟨[.timerStarted timeout command], rfl, by simp [IsQuiet]⟩, id⟩

theorem replacements (manager : XCAPManager Op Content) (names : List DocumentName) :
    ∀ effect ∈ manager.replacements names, IsQuiet effect := by
  simp only [XCAPManager.replacements, List.mem_map]
  rintro effect ⟨name, -, rfl⟩
  trivial

theorem resetDocuments (h : Quietly before after) (names : List DocumentName) :
    Quietly before (after.resetDocuments names) :=
  h.trans ⟨⟨_, rfl, replacements after names⟩, id⟩

variable {manager : XCAPManager Op Content}

theorem chStart : Quietly manager manager.chStart := by
  rw [XCAPManager.chStart]
  split_ifs
  · exact of_eq rfl id
  · refine send ?_ _
    exact of_eq rfl id

theorem saveJournal (h : Quietly before manager) (handlers : OperationHandlers Op Content) :
    Quietly before (manager.saveJournal handlers) := by
  refine h.trans ?_
  rw [XCAPManager.saveJournal]
  split_ifs
  · exact of_eq rfl id
  · exact of_eq rfl False.elim

theorem chStop (handlers : OperationHandlers Op Content) :
    Quietly manager (manager.chStop handlers) := by
  rw [XCAPManager.chStop]
  split_ifs
  · exact of_eq rfl id
  · refine saveJournal ?_ handlers
    exact of_eq rfl id
  · exact of_eq rfl False.elim

theorem chCleanup : Quietly manager manager.chCleanup := by
  rw [XCAPManager.chCleanup]
  split_ifs
  · exact of_eq rfl id
  · refine record ?_ (by simp [IsQuiet])
    exact of_eq rfl False.elim

theorem chInitialize (xcapRoot : Bool) : Quietly manager (manager.chInitialize xcapRoot) :=
  of_eq rfl (by cases xcapRoot <;> exact False.elim)

theorem initializeLater (h : Quietly before manager) (timeout : Nat) :
    Quietly before (manager.initializeLater timeout) := by
  refine h.trans (schedule ?_ _ _)
  exact of_eq rfl False.elim

theorem lookedUp (found : Bool) : Quietly manager (manager.lookedUp found) := by
  rw [XCAPManager.lookedUp]
  split_ifs
  · exact of_eq rfl False.elim
  · refine initializeLater ?_ 60
    exact of_eq rfl id

theorem initialized [∀ name, RootElement (Content name)] (h : Quietly before manager) (time : Nat)
    (caps : ServerCaps) : Quietly before (manager.initialized time caps) := by
  refine h.trans ⟨⟨_, rfl, replacements manager _⟩, ?_⟩
  show CommandLoop.Works (if manager.subscriber then .ready else .ended) → _
  cases manager.subscriber <;> exact False.elim

theorem gotCaps [∀ name, RootElement (Content name)] (time : Nat)
    (fetched : Option (Fetched ServerCaps)) : Quietly manager (manager.gotCaps time fetched) := by
  cases fetched with
  | none => exact of_eq rfl False.elim
  | some fetched =>
      have hcaps (caps : Document ServerCaps) : Quietly manager { manager with serverCaps := caps } :=
        of_eq rfl id
      simp only [XCAPManager.gotCaps]
      split
      · exact initializeLater (hcaps _) 60
      · split
        · exact initializeLater (hcaps _) 60
        · split
          · exact initialized (hcaps _) time _
          · exact initializeLater (hcaps _) 3600

theorem forget (modified : List String) : Quietly manager (manager.forget modified) := by
  rw [XCAPManager.forget]
  split_ifs
  · refine resetDocuments (record ?_ (by simp [IsQuiet])) _
    exact of_eq rfl id
  · refine resetDocuments ?_ _
    exact of_eq rfl id
  · exact of_eq rfl id

theorem chReload (modified : List String) : Quietly manager (manager.chReload modified) := by
  rw [XCAPManager.chReload]
  split
  · exact of_eq rfl id
  · refine (forget modified).trans ?_
    rw [XCAPManager.reloadAgain]
    split_ifs <;> first | exact of_eq rfl id | exact of_eq rfl False.elim

theorem got (time : Nat) (name : DocumentName) (fetched : Option (Fetched (Content name))) :
    Quietly manager (manager.got time name fetched) := by
  cases hloop : manager.loop with
  | fetching documents timestamp pending failures =>
      simp only [XCAPManager.got, hloop]
      split
      · cases fetched with
        | none => exact of_eq rfl False.elim
        | some fetched =>
            refine record ?_ ?_
            · exact of_eq rfl False.elim
            · split_ifs <;> simp [IsQuiet]
      · exact of_eq rfl id
  | _ =>
      simp only [XCAPManager.got, hloop]
      exact of_eq rfl id

theorem sendNotExecutedFetch (h : Quietly before manager) :
    Quietly before manager.sendNotExecutedFetch := by
  refine h.trans ?_
  rw [XCAPManager.sendNotExecutedFetch]
  split
  · refine send ?_ _
    exact of_eq rfl id
  · exact of_eq rfl id

theorem fetchRequired [∀ name, RootElement (Content name)] (time count : Nat) :
    Quietly manager (manager.fetchRequired time count) :=
  ⟨⟨_, rfl, replacements manager _⟩, False.elim⟩

variable (handlers : OperationHandlers Op Content)

theorem fetched (time : Nat) (documents : List DocumentName) (timestamp : Nat)
    (failure : Option WorkerFailure) :
    Quietly manager (manager.fetched handlers time documents timestamp failure) := by
  unfold XCAPManager.fetched
  split
  · refine schedule ?_ _ _
    exact of_eq rfl False.elim
  · exact of_eq rfl False.elim
  · split
    · exact of_eq rfl False.elim
    · refine send ?_ _
      exact of_eq rfl False.elim

theorem fetchDocuments (time : Nat) (documents : List DocumentName) (timestamp : Nat) :
    Quietly manager (manager.fetchDocuments handlers time documents timestamp) := by
  rw [XCAPManager.fetchDocuments]
  split_ifs
  · exact fetched handlers time documents timestamp none
  · refine record ?_ ?_
    · exact of_eq rfl False.elim
    · simp only [List.mem_map]
      rintro effect ⟨name, -, rfl⟩
      trivial

theorem chFetch (time : Nat) (documents : List DocumentName) (timestamp : Nat) :
    Quietly manager (manager.chFetch handlers time documents timestamp) := by
  have hfetch (manager' : XCAPManager Op Content) (heffects : manager'.effects = manager.effects)
      (hloop : manager'.loop = manager.loop) (documents : List DocumentName) :
      Quietly manager (manager'.fetchDocuments handlers time documents timestamp) :=
    trans (of_eq heffects (by rw [hloop]; exact id)) (fetchDocuments handlers time documents timestamp)
  rw [XCAPManager.chFetch]
  split_ifs
  · exact of_eq rfl id
  · cases manager.timer with
    | none => refine hfetch _ ?_ ?_ _ <;> rfl
    | some command =>
        cases command with
        | fetch more older => refine hfetch _ ?_ ?_ _ <;> rfl
        | _ => exact of_eq rfl False.elim

theorem updated (time count : Nat) : Quietly manager (manager.updated handlers time count) := by
  have hdone (after : XCAPManager Op Content)
      (heffects : after.effects = .removed ((manager.journal.take count).map JournalEntry.operation) ::
        manager.effects)
      (hloop : ¬ after.loop.Works) : Quietly manager after :=
    ⟨⟨[_], heffects, by simp [IsQuiet]⟩, fun h => (hloop h).elim⟩
  rw [XCAPManager.updated]
  split_ifs
  · exact hdone _ rfl id
  · exact saveJournal (sendNotExecutedFetch (hdone _ rfl id)) handlers
  · exact saveJournal (sendNotExecutedFetch (hdone _ rfl id)) handlers

end Quietly

namespace Outside

variable [∀ name, RootElement (Content name)] (handlers : OperationHandlers Op Content)

theorem upload {count : Nat} (time : Nat) :
    ∀ (names : List DocumentName) (manager : XCAPManager Op Content),
      WorkedOutside manager.effects → lastLevel manager.effects = some 0 →
      (XCAPManager.upload handlers time count names manager).Outside
  | [], manager, hworked, hlevel =>
      have hbefore : manager.Outside := ⟨hworked, fun _ => hlevel⟩
      hbefore.quietly (Quietly.updated handlers time count)
  | name :: rest, manager, hworked, hlevel => by
      rw [XCAPManager.upload]
      split
      · dsimp only
        split
        · exact ⟨hworked, False.elim⟩
        · split
          · exact ⟨⟨fun _ => hlevel, hworked⟩, fun _ => hlevel⟩
          · refine upload time rest _ ?_ ?_
            · exact hworked
            · exact hlevel
      · exact upload time rest manager hworked hlevel

theorem apply {manager : XCAPManager Op Content} (hworked : WorkedOutside manager.effects)
    (hlevel : lastLevel manager.effects = some 0) (time count : Nat) :
    (manager.apply handlers time count).Outside := by
  rw [XCAPManager.apply]
  split
  · exact ⟨⟨fun _ => hlevel, hworked⟩, fun _ => hlevel⟩
  · exact upload handlers time _ manager hworked hlevel

theorem replied {manager : XCAPManager Op Content} (h : manager.Outside) (time : Nat)
    (response : Option Response) : (manager.replied handlers time response).Outside := by
  cases hloop : manager.loop with
  | uploading count name rest =>
      have hlevel : lastLevel manager.effects = some 0 := h.level (by rw [hloop]; trivial)
      cases response with
      | none =>
          simp only [XCAPManager.replied, hloop]
          exact ⟨h.worked, False.elim⟩
      | some response =>
          simp only [XCAPManager.replied, hloop]
          split
          · refine upload handlers time rest _ ?_ ?_
            · exact h.worked
            · exact hlevel
          · refine quietly ?_ (Quietly.fetchRequired time count)
            exact ⟨h.worked, fun _ => hlevel⟩
          · exact ⟨⟨False.elim, h.worked⟩, False.elim⟩
  | _ => simpa only [XCAPManager.replied, hloop] using h

theorem handle {manager : XCAPManager Op Content} (h : manager.Outside) (time : Nat)
    (xcapRoot : Bool) : (manager.handle handlers time xcapRoot).Outside := by
  rw [XCAPManager.handle]
  split
  · rename_i command rest hloop hchannel
    have htaken : (manager.take command rest).Outside := by
      refine ⟨⟨False.elim, h.worked⟩, fun hworks => ?_⟩
      change manager.loop.Works at hworks
      rw [hloop] at hworks
      exact hworks.elim
    cases command with
    | start => exact htaken.quietly Quietly.chStart
    | stop => exact htaken.quietly (Quietly.chStop handlers)
    | cleanup => exact htaken.quietly Quietly.chCleanup
    | initialization => exact htaken.quietly (Quietly.chInitialize xcapRoot)
    | reload modified => exact htaken.quietly (Quietly.chReload modified)
    | fetch documents timestamp =>
        exact htaken.quietly (Quietly.chFetch handlers time documents timestamp)
    | update =>
        show (XCAPManager.chUpdate handlers _ time).Outside
        rw [XCAPManager.chUpdate]
        split_ifs with hstate hlevel
        · exact htaken
        · exact htaken
        · refine apply handlers ?_ ?_ time _
          · exact htaken.worked
          · exact congrArg some (not_not.mp hlevel)
  · exact h

theorem step {manager : XCAPManager Op Content} (h : manager.Outside)
    (input : Nat × Event Op Content) : (manager.step handlers input).Outside := by
  obtain ⟨time, event⟩ := input
  have hsame {after : XCAPManager Op Content} (heffects : after.effects = manager.effects)
      (hloop : after.loop = manager.loop) : after.Outside := by
    refine ⟨heffects ▸ h.worked, ?_⟩
    rw [hloop, heffects]
    exact h.level
  cases event with
  | scheduleOperation operation =>
      show (manager.scheduleOperation handlers operation).Outside
      rw [XCAPManager.scheduleOperation]
      split_ifs <;> exact hsame rfl rfl
  | commitTransaction =>
      show (manager.commitTransaction handlers).Outside
      rw [XCAPManager.commitTransaction]
      split
      · exact h
      · dsimp only
        split <;> exact hsame rfl rfl
  | settingsDidChange modified enabled xcapEnabled =>
      refine settingsDidChange_of_send (fun manager command h => ?_) h modified enabled xcapEnabled
      exact ⟨h.worked, h.level⟩
  | timerFires =>
      rw [XCAPManager.step]
      split
      · exact hsame rfl rfl
      · exact h
  | handle xcapRoot => exact handle handlers h time xcapRoot
  | lookedUp found =>
      rw [XCAPManager.step]
      split
      · exact h.quietly (Quietly.lookedUp found)
      · exact h
  | gotCaps fetched =>
      rw [XCAPManager.step]
      split
      · exact h.quietly (Quietly.gotCaps time fetched)
      · exact h
  | got name fetched => exact h.quietly (Quietly.got time name fetched)
  | wake =>
      show (manager.wake handlers time).Outside
      rw [XCAPManager.wake]
      split
      · exact h.quietly (Quietly.fetched handlers time _ _ _)
      · rename_i count hloop
        exact apply handlers h.worked (h.level (by rw [hloop]; trivial)) time count
      · exact h
  | replied response => exact replied handlers h time response
  | _ => exact hsame rfl rfl

end Outside

/-! ### Runs -/

open Runs (run Meets)

section Runs

variable (time : Nat) (journal : List Op) (cached : ∀ name, Option (Content name × Option String))

theorem progressing_new : (new time journal cached).Progressing :=
  .outside (le_refl 0) (.inl rfl) trivial

theorem outside_new : (new time journal cached).Outside := ⟨trivial, False.elim⟩

variable [∀ name, RootElement (Content name)] (handlers : OperationHandlers Op Content)

/-- **No operation gets stuck**, in runs where no exception leaves the handler of an update. Once the
manager is initialized there is a fetch or an update to come for the operations in the journal, and
operations are only handled outside of transactions. -/
theorem run_progress (inputs : List (Nat × Event Op Content))
    (hcaught : Meets (step handlers) (Progressing.Caught handlers) (new time journal cached) inputs) :
    let manager := run (step handlers) (new time journal cached) inputs
    (manager.state = .insync ∨ manager.state = .updating ∨ manager.state = .fetching →
      manager.transactionLevel = 0 → manager.journal ≠ [] →
      manager.FetchComing ∨ manager.UpdateComing) ∧
    0 ≤ manager.transactionLevel ∧ WorkedOutside manager.effects := by
  have hprogress : (run (step handlers) (new time journal cached) inputs).Progressing :=
    Runs.invariant_run Progressing (fun _ input h hinput => h.step handlers input hinput)
      (progressing_new time journal cached) hcaught
  have houtside : (run (step handlers) (new time journal cached) inputs).Outside :=
    Runs.always_run Outside (fun _ input h => h.step handlers input)
      (outside_new time journal cached) inputs
  refine ⟨fun hstate hlevel hjournal => ?_, hprogress.level, houtside.worked⟩
  rcases hstate with hstate | hstate | hstate
  · exact .inr (hprogress.updating (.inl hstate) hlevel hjournal)
  · exact .inr (hprogress.updating (.inr hstate) hlevel hjournal)
  · exact .inl (hprogress.fetching hstate)

/-- All documents are new on the server, and the resource lists are about to be uploaded. -/
def firstUpload : List (Nat × Event Operation ResourceListsContent) :=
  [(1, .start), (1, .handle true), (1, .handle true),
    (1, .gotCaps (some (.document ⟨requiredAuids⟩ ""))), (1, .handle true),
    (1, .got .resourceLists (some .notFound)), (1, .got .rlsServices (some .notFound)),
    (1, .got .presRules (some .notFound)), (1, .wake), (1, .handle true), (1, .wake)]

/-- The connection fails in the PUT. -/
theorem not_run_progress :
    let manager := run (step (resourceListsHandlers "")) (new 0 [] fun _ => none)
      (firstUpload ++ [(1, .replied none)])
    manager.state = .updating ∧ manager.transactionLevel = 0 ∧ manager.journal ≠ [] ∧
      ¬ (manager.FetchComing ∨ manager.UpdateComing) := by
  intro manager
  refine ⟨rfl, rfl, List.cons_ne_nil _ _, ?_⟩
  have hchannel : manager.commandChannel = [] := rfl
  have htimer : manager.timer = none := rfl
  have hloop : manager.loop = .ended := rfl
  rw [FetchComing, UpdateComing, hchannel, htimer, hloop]
  simp [CommandLoop.Fetches, CommandLoop.Works]

theorem run_progress_firstUpload :
    let manager := run (step (resourceListsHandlers "")) (new 0 [] fun _ => none)
      (firstUpload ++ [(1, .replied (some .error))])
    manager.FetchComing ∨ manager.UpdateComing := by
  have hnone : ∀ manager, Progressing.Prepares (resourceListsHandlers "") manager [] :=
    fun _ => List.forall_mem_nil _
  have hwake : Progressing.Prepares (resourceListsHandlers "")
      (run (step (resourceListsHandlers "")) (new 0 [] fun _ => none) (firstUpload.take 10))
      DocumentName.all := by
    decide +kernel
  have hreplied : Progressing.Prepares (resourceListsHandlers "")
      (run (step (resourceListsHandlers "")) (new 0 [] fun _ => none) firstUpload)
      DocumentName.all.tail := by
    decide +kernel
  have hcaught : Meets (step (resourceListsHandlers ""))
      (Progressing.Caught (resourceListsHandlers "")) (new 0 [] fun _ => none)
      (firstUpload ++ [(1, .replied (some .error))]) :=
    ⟨⟨trivial, hnone _⟩, ⟨trivial, hnone _⟩, ⟨trivial, hnone _⟩, ⟨trivial, hnone _⟩,
      ⟨trivial, hnone _⟩, ⟨trivial, hnone _⟩, ⟨trivial, hnone _⟩, ⟨trivial, hnone _⟩,
      ⟨trivial, hnone _⟩, ⟨trivial, hnone _⟩, ⟨trivial, hwake⟩, ⟨trivial, hreplied⟩, trivial⟩
  exact (run_progress 0 [] (fun _ => none) (resourceListsHandlers "") _ hcaught).1 (.inr (.inl rfl))
    rfl (List.cons_ne_nil _ _)

end Runs

end XCAPManager

end SipSimple.Account.Xcap
