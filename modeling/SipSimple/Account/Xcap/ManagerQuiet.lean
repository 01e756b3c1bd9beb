import SipSimple.Account.Xcap.Manager

/-!
# A stopped manager stays quiet

Commands that were queued before the stop are handled after it. Those that fetch, update or reload look at
the state; `initialize` does not. As long as it is not taken from the queue of a stopped manager, such a
manager does nothing until it is started, or cleaned up.
-/

namespace SipSimple.Account.Xcap

def ManagerState.IsActive : ManagerState → Prop
  | .stopped => False
  | .terminated => False
  | _ => True

namespace XCAPManager

variable {Op : Type} {Content : DocumentName → Type}

/-! ### After a stop -/

/-- Of the commands start and stop, the last one that was taken from the queue is stop. -/
def StopHandled : List (Effect Op Content) → Prop
  | [] => False
  | .handled .start _ :: _ => False
  | .handled .stop _ :: _ => True
  | _ :: older => StopHandled older

/-- A fetch, an upload or a timer is started. -/
def IsActivity : Effect Op Content → Prop
  | .requested _ => True
  | .sent _ _ => True
  | .timerStarted _ _ => True
  | _ => False

/-- There was no activity between a stop and the next start. -/
def QuietAfterStop : List (Effect Op Content) → Prop
  | [] => True
  | effect :: older => (StopHandled older → ¬ IsActivity effect) ∧ QuietAfterStop older

def IsHandled : Effect Op Content → Prop
  | .handled _ _ => True
  | _ => False

structure Active (manager : XCAPManager Op Content) : Prop where
  state : manager.state.IsActive
  subscriber : manager.subscriber = true
  running : ¬ StopHandled manager.effects
  quiet : QuietAfterStop manager.effects

/-- The loop of a stopped manager has ended if the journal was not stored. -/
structure Inactive (stored : Prop) (manager : XCAPManager Op Content) : Prop where
  state : manager.state = .stopped ∧ (manager.loop = .ready ∨ ¬stored ∧ manager.loop = .ended) ∨
    manager.state = .terminated ∧ manager.loop = .ended
  timer : manager.timer = none
  quiet : QuietAfterStop manager.effects

theorem replacements_not_handled (manager : XCAPManager Op Content) (names : List DocumentName) :
    ∀ effect ∈ manager.replacements names, ¬ IsHandled effect := by
  simp only [replacements, List.mem_map]
  rintro effect ⟨name, -, rfl⟩
  exact id

theorem stopHandled_append {effects : List (Effect Op Content)}
    (h : ∀ effect ∈ effects, ¬ IsHandled effect) (older : List (Effect Op Content)) :
    StopHandled (effects ++ older) ↔ StopHandled older := by
  induction effects with
  | nil => rfl
  | cons effect effects ih =>
      have hrest := ih fun other hother => h other (List.mem_cons_of_mem _ hother)
      have heffect := h effect List.mem_cons_self
      cases effect <;> first | exact (heffect trivial).elim | exact hrest

theorem quietAfterStop_append {effects older : List (Effect Op Content)}
    (h : ∀ effect ∈ effects, ¬ IsHandled effect) (hrunning : ¬ StopHandled older)
    (hquiet : QuietAfterStop older) : QuietAfterStop (effects ++ older) := by
  induction effects with
  | nil => exact hquiet
  | cons effect effects ih =>
      have hrest : ∀ other ∈ effects, ¬ IsHandled other := fun other hother =>
        h other (List.mem_cons_of_mem _ hother)
      refine ⟨fun hstop => ?_, ih hrest⟩
      exact absurd ((stopHandled_append hrest older).mp hstop) hrunning

namespace Active

variable {before after manager : XCAPManager Op Content}

/-- Nothing but other effects. -/
theorem next (h : before.Active) (effects : List (Effect Op Content))
    (hstate : after.state.IsActive) (hsubscriber : after.subscriber = before.subscriber)
    (heffects : after.effects = effects ++ before.effects)
    (hnot : ∀ effect ∈ effects, ¬ IsHandled effect) : after.Active := by
  refine ⟨hstate, hsubscriber.trans h.subscriber, ?_, ?_⟩
  · rw [heffects, stopHandled_append hnot]
    exact h.running
  · rw [heffects]
    exact quietAfterStop_append hnot h.running h.quiet

theorem of_eq (h : before.Active) (hstate : after.state.IsActive)
    (hsubscriber : after.subscriber = before.subscriber) (heffects : after.effects = before.effects) :
    after.Active := h.next [] hstate hsubscriber heffects (by simp)

theorem record (h : manager.Active) {effects : List (Effect Op Content)}
    (hnot : ∀ effect ∈ effects, ¬ IsHandled effect) : (manager.record effects).Active :=
  h.next _ h.state rfl rfl hnot

theorem send (h : manager.Active) (command : Command) : (manager.send command).Active :=
  h.of_eq h.state rfl rfl

theorem schedule (h : manager.Active) (timeout : Nat) (command : Command) :
    (manager.schedule timeout command).Active :=
  h.next [.timerStarted timeout command] h.state rfl rfl (by simp [IsHandled])

theorem resetDocuments (h : manager.Active) (names : List DocumentName) :
    (manager.resetDocuments names).Active :=
  h.next _ h.state rfl rfl (replacements_not_handled manager names)

theorem initializeLater (h : manager.Active) (timeout : Nat) :
    (manager.initializeLater timeout).Active := by
  refine schedule ?_ timeout _
  exact h.of_eq h.state rfl rfl

theorem lookedUp (h : manager.Active) (found : Bool) : (manager.lookedUp found).Active := by
  rw [XCAPManager.lookedUp]
  split_ifs
  · exact h.of_eq h.state rfl rfl
  · exact h.initializeLater 60

theorem forget (h : manager.Active) (modified : List String) : (manager.forget modified).Active := by
  have hpurged : ({ manager with journal := [] }.record [.purged]).Active :=
    h.next [.purged] h.state rfl rfl (by simp [IsHandled])
  rw [XCAPManager.forget]
  split_ifs
  · exact hpurged.resetDocuments _
  · exact h.resetDocuments _
  · exact h

theorem chReload (h : manager.Active) (modified : List String) : (manager.chReload modified).Active := by
  have hforget := h.forget modified
  rw [XCAPManager.chReload]
  split
  · exact h
  · rw [XCAPManager.reloadAgain]
    split_ifs
    · exact hforget
    · exact hforget.of_eq trivial rfl rfl
    · exact hforget
    · exact hforget.of_eq hforget.state rfl rfl

theorem got (h : manager.Active) (time : Nat) (name : DocumentName)
    (fetched : Option (Fetched (Content name))) : (manager.got time name fetched).Active := by
  cases hloop : manager.loop with
  | fetching documents timestamp pending failures =>
      simp only [XCAPManager.got, hloop]
      split
      · cases fetched with
        | none => exact h.of_eq h.state rfl rfl
        | some fetched =>
            refine h.next _ h.state rfl rfl ?_
            split_ifs <;> simp [IsHandled]
      · exact h
  | _ => simpa only [XCAPManager.got, hloop] using h

theorem saveJournal (h : manager.Active) (handlers : OperationHandlers Op Content) :
    (manager.saveJournal handlers).Active := by
  rw [XCAPManager.saveJournal]
  split_ifs
  · exact h
  · exact h.of_eq h.state rfl rfl

theorem sendNotExecutedFetch (h : manager.Active) : manager.sendNotExecutedFetch.Active := by
  rw [XCAPManager.sendNotExecutedFetch]
  split
  · exact h.of_eq h.state rfl rfl
  · exact h

/-- The end of an update. -/
theorem finished (h : manager.Active) (handlers : OperationHandlers Op Content) :
    (manager.sendNotExecutedFetch.saveJournal handlers).Active :=
  h.sendNotExecutedFetch.saveJournal handlers

theorem fetched (h : manager.Active) (handlers : OperationHandlers Op Content) (time : Nat)
    (documents : List DocumentName) (timestamp : Nat) (failure : Option WorkerFailure) :
    (manager.fetched handlers time documents timestamp failure).Active := by
  unfold XCAPManager.fetched
  split
  · refine schedule ?_ 60 _
    exact h.of_eq h.state rfl rfl
  · exact h.of_eq h.state rfl rfl
  · split <;> exact h.of_eq trivial rfl rfl

theorem fetchDocuments (h : manager.Active) (handlers : OperationHandlers Op Content) (time : Nat)
    (documents : List DocumentName) (timestamp : Nat) :
    (manager.fetchDocuments handlers time documents timestamp).Active := by
  rw [XCAPManager.fetchDocuments]
  split
  · exact h.fetched handlers time documents timestamp none
  · refine h.next _ h.state rfl rfl ?_
    simp only [List.mem_map]
    rintro effect ⟨name, -, rfl⟩
    exact id

theorem chFetch (h : manager.Active) (handlers : OperationHandlers Op Content) (time : Nat)
    (documents : List DocumentName) (timestamp : Nat) :
    (manager.chFetch handlers time documents timestamp).Active := by
  have hfetching (timer : Option Command) : Active { manager with
      notExecutedFetch := none, state := .fetching, timer := timer } := h.of_eq trivial rfl rfl
  rw [XCAPManager.chFetch]
  split
  · exact h.of_eq h.state rfl rfl
  · cases htimer : manager.timer with
    | none => exact (hfetching none).fetchDocuments handlers time _ timestamp
    | some command =>
        cases command with
        | fetch more older => exact (hfetching none).fetchDocuments handlers time _ timestamp
        | _ => exact h.of_eq trivial rfl rfl

theorem updated (h : manager.Active) (handlers : OperationHandlers Op Content) (time count : Nat) :
    (manager.updated handlers time count).Active := by
  have hdone (after : XCAPManager Op Content) (hstate : after.state.IsActive)
      (hsubscriber : after.subscriber = manager.subscriber)
      (heffects : after.effects = .removed ((manager.journal.take count).map JournalEntry.operation) ::
        manager.effects) : after.Active :=
    h.next [_] hstate hsubscriber heffects (by simp [IsHandled])
  rw [XCAPManager.updated]
  split_ifs
  · exact hdone _ trivial rfl rfl
  · refine finished ?_ handlers
    exact hdone _ trivial rfl rfl
  · refine finished ?_ handlers
    exact hdone _ h.state rfl rfl

theorem initialized (h : manager.Active) (time : Nat) (caps : ServerCaps) :
    (manager.initialized time caps).Active :=
  h.next _ trivial rfl rfl (replacements_not_handled manager _)

theorem gotCaps (h : manager.Active) (time : Nat) (fetched : Option (Fetched ServerCaps)) :
    (manager.gotCaps time fetched).Active := by
  have hcaps (caps : Document ServerCaps) : Active { manager with serverCaps := caps } :=
    h.of_eq h.state rfl rfl
  cases fetched with
  | none => exact h.of_eq h.state rfl rfl
  | some fetched =>
      simp only [XCAPManager.gotCaps]
      split
      · exact (hcaps _).initializeLater 60
      · split
        · exact (hcaps _).initializeLater 60
        · split
          · exact (hcaps _).initialized time _
          · exact (hcaps _).initializeLater 3600

variable [∀ name, RootElement (Content name)]

theorem fetchRequired (h : manager.Active) (time count : Nat) :
    (manager.fetchRequired time count).Active :=
  h.next _ trivial rfl rfl (replacements_not_handled manager _)

variable (handlers : OperationHandlers Op Content)

theorem upload {count : Nat} (time : Nat) :
    ∀ (names : List DocumentName) (manager : XCAPManager Op Content), manager.Active →
      (XCAPManager.upload handlers time count names manager).Active
  | [], _, h => h.updated handlers time count
  | name :: rest, manager, h => by
      rw [XCAPManager.upload]
      split
      · dsimp only
        split
        · exact h.of_eq h.state rfl rfl
        · split
          · exact h.next [.sent name _] h.state rfl rfl (by simp [IsHandled])
          · exact upload time rest _ (h.of_eq h.state rfl rfl)
      · exact upload time rest manager h

theorem apply (h : manager.Active) (time count : Nat) : (manager.apply handlers time count).Active := by
  rw [XCAPManager.apply]
  split
  · exact h.next [.ran _ _] h.state rfl rfl (by simp [IsHandled])
  · exact upload handlers time _ manager h

theorem chUpdate (h : manager.Active) (time : Nat) : (manager.chUpdate handlers time).Active := by
  rw [XCAPManager.chUpdate]
  split_ifs
  · exact h
  · exact h
  · refine apply handlers ?_ time _
    exact h.of_eq trivial rfl rfl

theorem replied (h : manager.Active) (time : Nat) (response : Option Response) :
    (manager.replied handlers time response).Active := by
  have hdocuments (documents : Documents Content) : Active { manager with documents := documents } :=
    h.of_eq h.state rfl rfl
  cases hloop : manager.loop with
  | uploading count name rest =>
      cases response with
      | none =>
          simp only [XCAPManager.replied, hloop]
          exact h.of_eq h.state rfl rfl
      | some response =>
          simp only [XCAPManager.replied, hloop]
          split
          · exact upload handlers time rest _ (h.of_eq h.state rfl rfl)
          · exact (hdocuments _).fetchRequired time count
          · exact h.next [.timerStarted 60 .update] h.state rfl rfl (by simp [IsHandled])
  | _ => simpa only [XCAPManager.replied, hloop] using h

end Active

/-! ### One step -/

namespace Inactive

variable {stored : Prop} {before after manager : XCAPManager Op Content}

theorem quiet_append (h : manager.Inactive stored) (effects : List (Effect Op Content))
    (hquiet : ∀ effect ∈ effects, ¬ IsActivity effect) :
    QuietAfterStop (effects ++ manager.effects) := by
  induction effects with
  | nil => exact h.quiet
  | cons effect effects ih =>
      exact ⟨fun _ => hquiet effect List.mem_cons_self,
        ih fun other hother => hquiet other (List.mem_cons_of_mem _ hother)⟩

/-- Nothing but effects that are no activity. -/
theorem next (h : before.Inactive stored) (effects : List (Effect Op Content))
    (hstate : after.state = before.state) (hloop : after.loop = before.loop)
    (htimer : after.timer = before.timer) (heffects : after.effects = effects ++ before.effects)
    (hquiet : ∀ effect ∈ effects, ¬ IsActivity effect) : after.Inactive stored := by
  refine ⟨?_, htimer.trans h.timer, ?_⟩
  · rw [hstate, hloop]
    exact h.state
  · rw [heffects]
    exact h.quiet_append effects hquiet

theorem of_eq (h : before.Inactive stored) (hstate : after.state = before.state)
    (hloop : after.loop = before.loop) (htimer : after.timer = before.timer)
    (heffects : after.effects = before.effects) : after.Inactive stored :=
  h.next [] hstate hloop htimer heffects (by simp)

theorem send (h : manager.Inactive stored) (command : Command) : (manager.send command).Inactive stored :=
  h.of_eq rfl rfl rfl rfl

theorem resetDocuments (h : manager.Inactive stored) (names : List DocumentName) :
    (manager.resetDocuments names).Inactive stored := by
  refine h.next _ rfl rfl rfl rfl ?_
  simp only [replacements, List.mem_map]
  rintro effect ⟨name, -, rfl⟩
  exact id

theorem forget (h : manager.Inactive stored) (modified : List String) :
    (manager.forget modified).Inactive stored := by
  have hpurged : ({ manager with journal := [] }.record [.purged]).Inactive stored :=
    h.next [.purged] rfl rfl rfl rfl (by simp [IsActivity])
  rw [XCAPManager.forget]
  split_ifs
  · exact hpurged.resetDocuments _
  · exact h.resetDocuments _
  · exact h

end Inactive

namespace Active

variable {manager : XCAPManager Op Content}

theorem not_stopped (h : manager.Active) : manager.state ≠ .stopped := fun hstate => by
  have hactive := h.state
  rw [hstate] at hactive
  exact hactive

theorem not_terminated (h : manager.Active) : manager.state ≠ .terminated := fun hstate => by
  have hactive := h.state
  rw [hstate] at hactive
  exact hactive

theorem take (h : manager.Active) {command : Command} (hstop : command ≠ .stop)
    (rest : List Command) : (manager.take command rest).Active := by
  refine ⟨h.state, h.subscriber, ?_, fun hstopped => absurd hstopped h.running, h.quiet⟩
  have hrunning := h.running
  cases command <;> first | exact hrunning | exact id | exact absurd rfl hstop

theorem chStart (h : manager.Active) : manager.chStart.Active := by
  rwa [XCAPManager.chStart, if_pos h.not_stopped]

/-- A stop makes it inactive. -/
theorem chStop {stored : Prop} (h : manager.Active) (hloop : manager.loop = .ready)
    (rest : List Command) (handlers : OperationHandlers Op Content)
    (hstored : stored → handlers.stores manager.journal = true) :
    ((manager.take .stop rest).chStop handlers).Inactive stored := by
  have hstate : ¬ ((manager.take .stop rest).state = .stopped ∨
      (manager.take .stop rest).state = .terminated) :=
    fun hor => hor.elim h.not_stopped h.not_terminated
  rw [XCAPManager.chStop, if_neg hstate, if_pos (by exact h.subscriber), XCAPManager.saveJournal]
  split_ifs with hstores
  · exact ⟨.inl ⟨rfl, .inl hloop⟩, rfl, fun hstopped => absurd hstopped h.running, h.quiet⟩
  · refine ⟨.inl ⟨rfl, .inr ⟨fun h => hstores (hstored h), rfl⟩⟩, rfl,
      fun hstopped => absurd hstopped h.running, h.quiet⟩

theorem chCleanup (h : manager.Active) : manager.chCleanup.Active := by
  rwa [XCAPManager.chCleanup, if_pos h.not_stopped]

end Active

namespace Inactive

variable {stored : Prop} {manager : XCAPManager Op Content}

theorem take (h : manager.Inactive stored) (command : Command) (rest : List Command) :
    (manager.take command rest).Inactive stored :=
  h.next [_] rfl rfl rfl rfl (by simp [IsActivity])

/-- Only a start makes it active again. -/
theorem chStart (h : manager.Inactive stored) (hstate : manager.state = .stopped) (rest : List Command) :
    (manager.take .start rest).chStart.Active := by
  have htaken : ¬ (manager.take .start rest).state ≠ .stopped := not_not.mpr hstate
  rw [XCAPManager.chStart, if_neg htaken]
  exact ⟨trivial, rfl, id, (h.take .start rest).quiet⟩

theorem chStop (h : manager.Inactive stored) (hstate : manager.state = .stopped)
    (handlers : OperationHandlers Op Content) : (manager.chStop handlers).Inactive stored := by
  rwa [XCAPManager.chStop, if_pos (.inl hstate)]

theorem chCleanup (h : manager.Inactive stored) (hstate : manager.state = .stopped) :
    manager.chCleanup.Inactive stored := by
  rw [XCAPManager.chCleanup, if_neg (not_not.mpr hstate)]
  exact ⟨.inr ⟨rfl, rfl⟩, h.timer, h.quiet_append [.purged] (by simp [IsActivity])⟩

theorem forget_frame (manager : XCAPManager Op Content) (modified : List String) :
    (manager.forget modified).state = manager.state ∧
      (manager.forget modified).commandChannel = manager.commandChannel ∧
      ∃ effects, (manager.forget modified).effects = effects ++ manager.effects := by
  rw [XCAPManager.forget]
  split_ifs
  · let emptied := { manager with journal := [] }.record [.purged]
    exact ⟨rfl, rfl, emptied.replacements DocumentName.all ++ [.purged], by
      rw [List.append_assoc]
      rfl⟩
  · exact ⟨rfl, rfl, _, rfl⟩
  · exact ⟨rfl, rfl, [], rfl⟩

/-- A stopped manager only forgets. -/
theorem chReload_stopped (hstate : manager.state = .stopped) (modified : List String) :
    manager.chReload modified = manager.forget modified := by
  have hstopped : (manager.forget modified).state = .stopped := by
    rw [XCAPManager.forget]
    split_ifs <;> exact hstate
  rw [XCAPManager.chReload, if_neg (by simp [hstate]), reloadAgain, if_pos hstopped]

theorem chReload (h : manager.Inactive stored) (hstate : manager.state = .stopped)
    (modified : List String) : (manager.chReload modified).Inactive stored := by
  rw [chReload_stopped hstate]
  exact h.forget modified

theorem chFetch (h : manager.Inactive stored) (hstate : manager.state = .stopped)
    (handlers : OperationHandlers Op Content) (time : Nat) (documents : List DocumentName)
    (timestamp : Nat) : (manager.chFetch handlers time documents timestamp).Inactive stored := by
  rw [XCAPManager.chFetch, if_pos (by simp [hstate])]
  exact h.of_eq rfl rfl rfl rfl

theorem chUpdate [∀ name, RootElement (Content name)] (h : manager.Inactive stored)
    (hstate : manager.state = .stopped) (handlers : OperationHandlers Op Content) (time : Nat) :
    (manager.chUpdate handlers time).Inactive stored := by
  rwa [XCAPManager.chUpdate, if_pos (by simp [hstate])]

end Inactive

/-- No stopped manager takes an `initialize` from the queue. -/
def NotInitialized (manager : XCAPManager Op Content) (input : Nat × Event Op Content) : Prop :=
  match input.2 with
  | .handle _ => manager.state = .stopped → manager.loop = .ready →
      manager.commandChannel.head? ≠ some .initialization
  | _ => True

/-- The journal can be stored when a manager that is not stopped yet takes a `stop` from the queue. -/
def StopStored (handlers : OperationHandlers Op Content) (manager : XCAPManager Op Content)
    (input : Nat × Event Op Content) : Prop :=
  match input.2 with
  | .handle _ => manager.loop = .ready → manager.state ≠ .stopped →
      manager.commandChannel.head? = some .stop → handlers.stores manager.journal = true
  | _ => True

section Steps

variable [∀ name, RootElement (Content name)] (handlers : OperationHandlers Op Content)
  {stored : Prop} {manager : XCAPManager Op Content}

theorem Active.handle (h : manager.Active) (time : Nat) (xcapRoot : Bool)
    (hstored : stored → StopStored handlers manager (time, .handle xcapRoot)) :
    (manager.handle handlers time xcapRoot).Active ∨
      (manager.handle handlers time xcapRoot).Inactive stored := by
  rw [XCAPManager.handle]
  split
  · rename_i command rest hloop hchannel
    cases command with
    | start => exact .inl (h.take (by simp) rest).chStart
    | stop =>
        refine .inr (h.chStop hloop rest handlers fun hyes => hstored hyes hloop h.not_stopped ?_)
        rw [hchannel, List.head?_cons]
    | cleanup => exact .inl (h.take (by simp) rest).chCleanup
    | initialization => exact .inl ((h.take (by simp) rest).of_eq trivial rfl rfl)
    | reload modified => exact .inl ((h.take (by simp) rest).chReload modified)
    | fetch documents timestamp =>
        exact .inl ((h.take (by simp) rest).chFetch handlers time documents timestamp)
    | update => exact .inl ((h.take (by simp) rest).chUpdate handlers time)
  · exact .inl h

theorem Inactive.handle (h : manager.Inactive stored) (time : Nat) (xcapRoot : Bool)
    (hinitialized : NotInitialized manager (time, .handle xcapRoot)) :
    (manager.handle handlers time xcapRoot).Active ∨
      (manager.handle handlers time xcapRoot).Inactive stored := by
  rw [XCAPManager.handle]
  split
  · rename_i command rest hloop hchannel
    obtain ⟨hstate, -⟩ := h.state.resolve_right fun hended => by
      cases hloop.symm.trans hended.2
    have htaken := h.take command rest
    cases command with
    | start => exact .inl (h.chStart hstate rest)
    | stop => exact .inr (htaken.chStop hstate handlers)
    | cleanup => exact .inr (htaken.chCleanup hstate)
    | initialization =>
        refine absurd ?_ (hinitialized hstate hloop)
        rw [hchannel, List.head?_cons]
    | reload modified => exact .inr (htaken.chReload hstate modified)
    | fetch documents timestamp =>
        exact .inr (htaken.chFetch hstate handlers time documents timestamp)
    | update => exact .inr (htaken.chUpdate hstate handlers time)
  · exact .inr h

theorem Active.step (h : manager.Active) (input : Nat × Event Op Content)
    (hstored : stored → StopStored handlers manager input) :
    (manager.step handlers input).Active ∨ (manager.step handlers input).Inactive stored := by
  obtain ⟨time, event⟩ := input
  have hsame {after : XCAPManager Op Content} (hstate : after.state = manager.state)
      (hsubscriber : after.subscriber = manager.subscriber)
      (heffects : after.effects = manager.effects) : after.Active :=
    h.of_eq (hstate ▸ h.state) hsubscriber heffects
  cases event with
  | scheduleOperation operation =>
      refine .inl ?_
      show (manager.scheduleOperation handlers operation).Active
      rw [scheduleOperation]
      split_ifs <;> exact hsame rfl rfl rfl
  | commitTransaction =>
      refine .inl ?_
      show (manager.commitTransaction handlers).Active
      rw [commitTransaction]
      split
      · exact h
      · dsimp only
        split <;> exact hsame rfl rfl rfl
  | settingsDidChange modified enabled xcapEnabled =>
      exact .inl (settingsDidChange_of_send (fun _ command h => h.send command) h _ _ _)
  | timerFires =>
      refine .inl ?_
      rw [XCAPManager.step]
      split
      · exact hsame rfl rfl rfl
      · exact h
  | handle xcapRoot => exact h.handle handlers time xcapRoot hstored
  | lookedUp found =>
      refine .inl ?_
      rw [XCAPManager.step]
      split
      · exact h.lookedUp found
      · exact h
  | gotCaps fetched =>
      refine .inl ?_
      rw [XCAPManager.step]
      split
      · exact h.gotCaps time fetched
      · exact h
  | got name fetched => exact .inl (h.got time name fetched)
  | wake =>
      refine .inl ?_
      show (manager.wake handlers time).Active
      rw [wake]
      split
      · exact h.fetched handlers time _ _ _
      · exact h.apply handlers time _
      · exact h
  | replied response => exact .inl (h.replied handlers time response)
  | _ => exact .inl (hsame rfl rfl rfl)

/-- Nothing has happened but that there may be more commands. -/
structure Unmoved (before after : XCAPManager Op Content) : Prop where
  state : after.state = before.state
  loop : after.loop = before.loop
  timer : after.timer = before.timer
  effects : after.effects = before.effects
  commands : ∃ more, after.commandChannel = before.commandChannel ++ more

omit [∀ name, RootElement (Content name)] in
theorem Unmoved.refl : manager.Unmoved manager := ⟨rfl, rfl, rfl, rfl, [], by simp⟩

omit [∀ name, RootElement (Content name)] in
theorem Unmoved.send {after : XCAPManager Op Content} (h : manager.Unmoved after)
    (command : Command) : manager.Unmoved (after.send command) := by
  obtain ⟨more, hmore⟩ := h.commands
  exact ⟨h.state, h.loop, h.timer, h.effects, more ++ [command], by simp [XCAPManager.send, hmore]⟩

/-- The loop takes a command. -/
def isTurn : Nat × Event Op Content → Bool
  | (_, .handle _) => true
  | _ => false

/-- What comes from elsewhere finds no one who waits for it. -/
theorem Inactive.unmoved (h : manager.Inactive stored) (input : Nat × Event Op Content)
    (hturn : isTurn input → manager.loop = .ended) :
    manager.Unmoved (manager.step handlers input) := by
  obtain ⟨time, event⟩ := input
  have hloop : manager.loop = .ready ∨ manager.loop = .ended := h.state.elim
    (fun hstopped => hstopped.2.imp_right And.right) fun hterminated => .inr hterminated.2
  cases event with
  | scheduleOperation operation =>
      show manager.Unmoved (manager.scheduleOperation handlers operation)
      rw [scheduleOperation]
      split_ifs
      · exact ⟨rfl, rfl, rfl, rfl, [.update], rfl⟩
      · exact ⟨rfl, rfl, rfl, rfl, [], by simp⟩
  | startTransaction => exact ⟨rfl, rfl, rfl, rfl, [], by simp [XCAPManager.step, startTransaction]⟩
  | commitTransaction =>
      show manager.Unmoved (manager.commitTransaction handlers)
      rw [commitTransaction]
      split
      · exact .refl
      · dsimp only
        split
        · exact ⟨rfl, rfl, rfl, rfl, [.update], rfl⟩
        · exact ⟨rfl, rfl, rfl, rfl, [], by simp⟩
  | start => exact Unmoved.refl.send _
  | stop => exact Unmoved.refl.send _
  | settingsDidChange modified enabled xcapEnabled =>
      exact settingsDidChange_of_send (fun _ command h => h.send command) Unmoved.refl _ _ _
  | settingsDeleted => exact (Unmoved.refl.send _).send _
  | subscriptionChanged => exact Unmoved.refl.send _
  | gotNotify applications => exact Unmoved.refl.send _
  | timerFires =>
      simp only [XCAPManager.step, h.timer]
      exact .refl
  | handle xcapRoot =>
      simp only [XCAPManager.step, XCAPManager.handle, hturn rfl]
      exact .refl
  | _ =>
      rcases hloop with hloop | hloop <;>
        simp only [XCAPManager.step, got, wake, replied, hloop] <;> exact .refl

omit [∀ name, RootElement (Content name)] in
theorem Inactive.of_unmoved {after : XCAPManager Op Content} (h : manager.Inactive stored)
    (hafter : manager.Unmoved after) : after.Inactive stored :=
  h.of_eq hafter.state hafter.loop hafter.timer hafter.effects

theorem Inactive.step (h : manager.Inactive stored) (input : Nat × Event Op Content)
    (hinitialized : NotInitialized manager input) :
    (manager.step handlers input).Active ∨ (manager.step handlers input).Inactive stored := by
  by_cases hturn : isTurn input
  · obtain ⟨time, event⟩ := input
    cases event with
    | handle xcapRoot => exact h.handle handlers time xcapRoot hinitialized
    | _ => cases hturn
  · exact .inr (h.of_unmoved (h.unmoved handlers input fun hyes => absurd hyes hturn))

end Steps

/-! ### The cleanup -/

/-- How often the loop takes a command, or would. -/
def turns (inputs : List (Nat × Event Op Content)) : Nat := inputs.countP isTurn

/-- The storage was purged after these effects, and the loop has ended. -/
structure CleanedUp (older : List (Effect Op Content)) (manager : XCAPManager Op Content) : Prop where
  state : manager.state = .terminated
  loop : manager.loop = .ended
  purged : ∃ effects, manager.effects = effects ++ older ∧ .purged ∈ effects

/-- A cleanup is in the queue behind these commands. -/
structure Cleaning (older : List (Effect Op Content)) (commands : List Command)
    (manager : XCAPManager Op Content) : Prop where
  state : manager.state = .stopped
  inactive : manager.Inactive True
  start : .start ∉ commands
  commands : ∃ after, manager.commandChannel = commands ++ .cleanup :: after
  effects : ∃ effects, manager.effects = effects ++ older

namespace Cleaning

variable {older : List (Effect Op Content)} {commands : List Command}
  {manager after : XCAPManager Op Content}

theorem unmoved (h : Cleaning older commands manager) (hafter : manager.Unmoved after) :
    Cleaning older commands after := by
  obtain ⟨rest, hrest⟩ := h.commands
  obtain ⟨more, hmore⟩ := hafter.commands
  refine ⟨hafter.state.trans h.state, h.inactive.of_unmoved hafter, h.start, ⟨rest ++ more, ?_⟩,
    hafter.effects ▸ h.effects⟩
  rw [hmore, hrest, List.append_assoc, List.cons_append]

theorem loop (h : Cleaning older commands manager) : manager.loop = .ready := by
  have hloop := (h.inactive.state.resolve_right fun hterminated => by
    cases h.state.symm.trans hterminated.1).2
  exact hloop.resolve_right fun hended => hended.1 trivial

/-- A command that was taken leaves the rest to be taken. -/
theorem taken {command : Command} (h : Cleaning older (command :: commands) manager)
    (hstate : after.state = .stopped) (hinactive : after.Inactive True)
    (hcommands : ∀ rest, manager.commandChannel = command :: rest → after.commandChannel = rest)
    (heffects : ∃ effects, after.effects = effects ++ manager.effects) :
    Cleaning older commands after := by
  obtain ⟨rest, hrest⟩ := h.commands
  obtain ⟨new, hnew⟩ := heffects
  obtain ⟨effects, heffects⟩ := h.effects
  refine ⟨hstate, hinactive, fun hstart => h.start (List.mem_cons_of_mem _ hstart),
    ⟨rest, hcommands _ hrest⟩, new ++ effects, ?_⟩
  rw [hnew, heffects, List.append_assoc]

variable [∀ name, RootElement (Content name)] (handlers : OperationHandlers Op Content) (time : Nat)
  (xcapRoot : Bool)

/-- The cleanup is taken. -/
theorem cleanup {rest : List Command} (h : Cleaning older commands manager)
    (hchannel : manager.commandChannel = .cleanup :: rest) :
    CleanedUp older (manager.handle handlers time xcapRoot) := by
  obtain ⟨effects, heffects⟩ := h.effects
  have hstate : ¬ (manager.take .cleanup rest).state ≠ .stopped := not_not.mpr h.state
  simp only [XCAPManager.handle, h.loop, hchannel, ch, chCleanup, if_neg hstate]
  refine ⟨rfl, rfl, .purged :: .handled .cleanup manager.transactionLevel :: effects, ?_, by simp⟩
  show .purged :: .handled .cleanup _ :: manager.effects = _
  rw [heffects]
  rfl

theorem handle {command : Command} (h : Cleaning older (command :: commands) manager)
    (hinitialized : NotInitialized manager (time, .handle xcapRoot)) :
    CleanedUp older (manager.handle handlers time xcapRoot) ∨
      Cleaning older commands (manager.handle handlers time xcapRoot) := by
  obtain ⟨rest, hrest⟩ := h.commands
  rw [List.cons_append] at hrest
  let taken := manager.take command (commands ++ .cleanup :: rest)
  have htaken : taken.Inactive True := h.inactive.take command _
  have hstate : taken.state = .stopped := h.state
  have hhandle : manager.handle handlers time xcapRoot = ch handlers taken time xcapRoot command := by
    simp only [XCAPManager.handle, h.loop, hrest]
    rfl
  -- a manager with the rest of the queue that is still stopped
  have hnext (after : XCAPManager Op Content) (hafter : after.Inactive True)
      (hstopped : after.state = .stopped) (hcommands : after.commandChannel = taken.commandChannel)
      (heffects : ∃ effects, after.effects = effects ++ taken.effects) :
      Cleaning older commands after := by
    obtain ⟨effects, heffects⟩ := heffects
    refine h.taken hstopped hafter (fun others hothers => ?_)
      ⟨effects ++ [.handled command manager.transactionLevel], ?_⟩
    · rw [hrest] at hothers
      rw [hcommands]
      exact (List.cons.inj hothers).2
    · rw [heffects, List.append_assoc]
      rfl
  cases command with
  | start => exact absurd List.mem_cons_self h.start
  | stop =>
      refine .inr ?_
      rw [hhandle, ch, chStop, if_pos (.inl hstate)]
      exact hnext taken htaken hstate rfl ⟨[], rfl⟩
  | cleanup => exact .inl (h.cleanup handlers time xcapRoot hrest)
  | initialization =>
      refine absurd ?_ (hinitialized h.state h.loop)
      rw [hrest, List.head?_cons]
  | reload modified =>
      refine .inr ?_
      rw [hhandle, ch, Inactive.chReload_stopped hstate]
      obtain ⟨hstopped, hcommands, heffects⟩ := Inactive.forget_frame taken modified
      exact hnext _ (htaken.forget modified) (hstopped.trans hstate) hcommands heffects
  | fetch documents timestamp =>
      refine .inr ?_
      have hdeferred := htaken.chFetch hstate handlers time documents timestamp
      rw [hhandle, ch]
      rw [chFetch, if_pos (by simp [hstate])] at hdeferred ⊢
      exact hnext _ hdeferred hstate rfl ⟨[], rfl⟩
  | update =>
      refine .inr ?_
      rw [hhandle, ch, chUpdate, if_pos (by simp [hstate])]
      exact hnext taken htaken hstate rfl ⟨[], rfl⟩

end Cleaning

/-! ### Runs -/

open Runs (run Meets)

section Runs

variable [∀ name, RootElement (Content name)] (handlers : OperationHandlers Op Content)
  {stored : Prop} {manager : XCAPManager Op Content}

theorem run_inactive (time : Nat) (journal : List Op)
    (cached : ∀ name, Option (Content name × Option String)) {inputs : List (Nat × Event Op Content)}
    (hmeets : Meets (step handlers) (fun manager input => NotInitialized manager input ∧
      (stored → StopStored handlers manager input)) (new time journal cached) inputs) :
    (run (step handlers) (new time journal cached) inputs).Active ∨
      (run (step handlers) (new time journal cached) inputs).Inactive stored := by
  refine Runs.invariant_run (fun manager => manager.Active ∨ manager.Inactive stored)
    (fun manager input h hinput => ?_) (.inr ⟨.inl ⟨rfl, .inl rfl⟩, rfl, trivial⟩) hmeets
  rcases h with h | h
  · exact h.step handlers input hinput.2
  · exact h.step handlers input hinput.1

/-- Nothing moves any more when the loop has ended. -/
theorem run_ended (hinactive : manager.Inactive stored) (hloop : manager.loop = .ended)
    (inputs : List (Nat × Event Op Content)) :
    (run (step handlers) manager inputs).state = manager.state ∧
      (run (step handlers) manager inputs).loop = .ended ∧
      (run (step handlers) manager inputs).effects = manager.effects := by
  refine (Runs.always_run (fun after : XCAPManager Op Content => after.Inactive stored ∧ after.state =
    manager.state ∧ after.loop = .ended ∧ after.effects = manager.effects) (fun after input h => ?_)
    ⟨hinactive, rfl, hloop, rfl⟩ inputs).2
  obtain ⟨hinactive, hstate, hloop, heffects⟩ := h
  have hunmoved := hinactive.unmoved handlers input fun _ => hloop
  exact ⟨hinactive.of_unmoved hunmoved, hunmoved.state.trans hstate, hunmoved.loop.trans hloop,
    hunmoved.effects.trans heffects⟩

theorem run_cleanedUp {older : List (Effect Op Content)} (h : CleanedUp older manager)
    (hinactive : manager.Inactive stored) (inputs : List (Nat × Event Op Content)) :
    CleanedUp older (run (step handlers) manager inputs) := by
  obtain ⟨hstate, hloop, heffects⟩ := run_ended handlers hinactive h.loop inputs
  exact ⟨hstate.trans h.state, hloop, heffects ▸ h.purged⟩

/-- The loop comes to the cleanup. -/
theorem run_cleaning {older : List (Effect Op Content)} :
    ∀ (inputs : List (Nat × Event Op Content)) (commands : List Command)
      (manager : XCAPManager Op Content), Cleaning older commands manager →
      Meets (step handlers) NotInitialized manager inputs → commands.length < turns inputs →
      CleanedUp older (run (step handlers) manager inputs)
  | [], _, _, _, _, hturns => absurd hturns (Nat.not_lt_zero _)
  | input :: inputs, commands, manager, h, hmeets, hturns => by
      rw [Runs.run_cons]
      obtain ⟨hinput, hrest⟩ := hmeets
      by_cases hturn : isTurn input
      · obtain ⟨time, event⟩ := input
        cases event with
        | handle xcapRoot =>
            have hinactive (hcleaned : CleanedUp older (manager.handle handlers time xcapRoot)) :
                (manager.handle handlers time xcapRoot).Inactive True := by
              rcases h.inactive.handle handlers time xcapRoot hinput with hafter | hafter
              · exact absurd hcleaned.state hafter.not_terminated
              · exact hafter
            cases commands with
            | nil =>
                obtain ⟨after, hchannel⟩ := h.commands
                have hcleaned := h.cleanup handlers time xcapRoot hchannel
                exact run_cleanedUp handlers hcleaned (hinactive hcleaned) inputs
            | cons command commands =>
                rcases h.handle handlers time xcapRoot hinput with hcleaned | hcleaning
                · exact run_cleanedUp handlers hcleaned (hinactive hcleaned) inputs
                · have hcount : turns ((time, .handle xcapRoot) :: inputs) = turns inputs + 1 :=
                    List.countP_cons_of_pos rfl
                  refine run_cleaning inputs commands _ hcleaning hrest ?_
                  rw [hcount, List.length_cons] at hturns
                  omega
        | _ => cases hturn
      · refine run_cleaning inputs commands _ ?_ hrest ?_
        · exact h.unmoved (h.inactive.unmoved handlers input fun hyes => absurd hyes hturn)
        · simpa [turns, hturn] using hturns

/-- **A stopped manager stays quiet**, in runs where no stopped manager takes an `initialize` from the
queue. If the journal is stored at every stop, a cleanup that is queued behind the stop, and not behind
another start, purges the storage and ends the loop when its turn has come. -/
theorem run_quiet (time : Nat) (journal : List Op)
    (cached : ∀ name, Option (Content name × Option String)) (inputs : List (Nat × Event Op Content))
    (hmeets : Meets (step handlers) NotInitialized (new time journal cached) inputs) :
    let manager := run (step handlers) (new time journal cached) inputs
    (StopHandled manager.effects → manager.state = .stopped ∨ manager.state = .terminated) ∧
    (manager.state = .terminated → ∀ more,
      (run (step handlers) manager more).state = .terminated) ∧
    QuietAfterStop manager.effects ∧
    (manager.state ≠ .stopped → manager.state ≠ .terminated → manager.subscriber = true) ∧
    (Meets (step handlers) (StopStored handlers) (new time journal cached) inputs →
      ∀ before after more, StopHandled manager.effects → manager.state = .stopped →
        manager.commandChannel = before ++ .cleanup :: after → .start ∉ before →
        Meets (step handlers) NotInitialized manager more → before.length < turns more →
        CleanedUp manager.effects (run (step handlers) manager more)) := by
  intro manager
  have hinvariant : manager.Active ∨ manager.Inactive False :=
    run_inactive handlers time journal cached (hmeets.mono fun _ _ h => ⟨h, False.elim⟩)
  have hstopped (hstop : StopHandled manager.effects) : manager.Inactive False :=
    hinvariant.resolve_left fun hactive => hactive.running hstop
  refine ⟨fun hstop => (hstopped hstop).state.imp And.left And.left, fun hterminated more => ?_, ?_,
    fun hstate hstate' => ?_,
    fun hstored before after more hstop hstate hchannel hstart hmore hturns => ?_⟩
  · have hinactive := hinvariant.resolve_left fun hactive => hactive.not_terminated hterminated
    have hended := hinactive.state.resolve_left fun hstopped => by
      cases hterminated.symm.trans hstopped.1
    exact (run_ended handlers hinactive hended.2 more).1.trans hterminated
  · exact hinvariant.elim Active.quiet Inactive.quiet
  · rcases hinvariant with hactive | hinactive
    · exact hactive.subscriber
    · exact absurd (hinactive.state.imp And.left And.left) (by tauto)
  · have hinvariant : manager.Active ∨ manager.Inactive True :=
      run_inactive handlers time journal cached ((hmeets.and hstored).mono fun _ _ h => ⟨h.1, fun _ => h.2⟩)
    have hinactive := hinvariant.resolve_left fun hactive => hactive.running hstop
    exact run_cleaning handlers more before manager
      ⟨hstate, hinactive, hstart, ⟨after, hchannel⟩, [], rfl⟩ hmore hturns

/-- The `initialize` that the start has sent is behind the stop in the queue. -/
def startStop : List (Nat × Event Operation ResourceListsContent) :=
  [(0, .start), (0, .stop), (0, .handle true), (0, .handle true), (0, .handle true)]

theorem not_run_quiet :
    let manager := run (step (resourceListsHandlers "")) (new 0 [] fun _ => none) startStop
    StopHandled manager.effects ∧ manager.state = .initializing := ⟨trivial, rfl⟩

/-- The stop is sent when the `initialize` is handled. -/
def startThenStop : List (Nat × Event Operation ResourceListsContent) :=
  [(0, .start), (0, .handle true), (0, .handle true), (0, .gotCaps (some .error)), (0, .stop),
    (0, .handle true)]

theorem run_quiet_startThenStop :
    let manager := run (step (resourceListsHandlers "")) (new 0 [] fun _ => none) startThenStop
    StopHandled manager.effects ∧ manager.state = .stopped ∧ QuietAfterStop manager.effects := by
  have hmeets : Meets (step (resourceListsHandlers "")) NotInitialized (new 0 [] fun _ => none)
      startThenStop :=
    ⟨trivial, fun _ _ => by simp [new, step, send], nofun, trivial, trivial, nofun, trivial⟩
  obtain ⟨hstate, -, hquiet, -⟩ :=
    run_quiet (resourceListsHandlers "") 0 [] (fun _ => none) startThenStop hmeets
  exact ⟨trivial, (hstate trivial).resolve_right (by rintro ⟨⟩), hquiet⟩

end Runs

end XCAPManager

end SipSimple.Account.Xcap
