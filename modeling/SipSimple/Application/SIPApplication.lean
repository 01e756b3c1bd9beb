import SipSimple.Library.Runs

/-!
# SIPApplication

Start-up and shut-down of `application.py` from the moment `start` has made the reactor thread. The state is written
under a lock by `stop`, which any thread may call, by the reactor thread and by what runs in it: the handlers of the
engine's notifications and the greenlets of `_initialize_subsystems` and `_shutdown_subsystems`. A step is a locked
section or what lies between two of them; code in the reactor thread keeps control up to its next wait. Which thread
goes on, what raises and what waits is input.
-/

namespace SipSimple.Application

inductive ApplicationState where
  | starting | started | stopping | stopped
  deriving DecidableEq

/-- The position in the life cycle. -/
def ApplicationState.rank : ApplicationState → Nat
  | .starting => 0
  | .started => 1
  | .stopping => 2
  | .stopped => 3

theorem ApplicationState.rank_le (state : ApplicationState) : state.rank ≤ 3 := by
  cases state <;> decide

inductive ApplicationNotification where
  | willStart | didStart | willEnd | didEnd
  deriving DecidableEq

/-- What `_initialize_subsystems` starts, in its order: `core` is TLS, the devices and the settings. -/
inductive Subsystem where
  | core | dns | accounts | addressbook | sessions
  deriving DecidableEq

/-- Code in the reactor thread, by what it does next. -/
inductive Task where
  /-- `_initialize_subsystems` -/
  | initializeSubsystems
  /-- The application was stopped before. -/
  | initializeWillEnd
  | start (left : List Subsystem)
  | didStart (stopPending : Bool)
  | stop
  | stopWillEnd
  /-- `_shutdown_subsystems` -/
  | shutdownSubsystems
  | shutdownEngine
  /-- `_NH_SIPEngineDidFail` -/
  | failWillEnd
  /-- Stops the engine and the reactor. -/
  | stopReactor
  deriving DecidableEq

/-- `_run_reactor`, by what it does next. -/
inductive ReactorThread where
  | willStart | checkPending | willEnd | initializeCore | reactor | stopped | didEnd | done
  deriving DecidableEq

inductive EngineState where
  | created | starting | running | ended
  deriving DecidableEq

/-- What was put into the reactor with `callFromThread`. -/
inductive ReactorCall where
  | engineDidStart | engineDidFail | shutdownSubsystems
  deriving DecidableEq

structure SIPApplication where
  state : ApplicationState := .starting
  /-- A `start` that raised may have left it set. -/
  stopPending : Bool
  /-- In the order in which they were posted. -/
  notifications : List ApplicationNotification := []
  reactorThread : ReactorThread := .willStart
  reactorStopped : Bool := false
  engine : EngineState := .created
  calls : List ReactorCall := []
  /-- The greenlets that wait or are scheduled. -/
  waiting : List Task := []
  /-- What the reactor runs. -/
  control : Option Task := none
  /-- Calls of `stop` that have written the state and post `SIPApplicationWillEnd` next. -/
  stops : Nat := 0

inductive ApplicationStep where
  /-- The locked section of `stop`, in any thread. -/
  | stop
  /-- The rest of it, in the reactor thread or in another one. -/
  | stopWillEnd (inReactor : Bool)
  | engine (started : Bool)
  | reactorThread (raises : Bool)
  | call
  | switch (i : Nat)
  | proceed (raises waits : Bool)

namespace SIPApplication

def post (self : SIPApplication) (name : ApplicationNotification) : SIPApplication :=
  { self with notifications := self.notifications ++ [name] }

/-- The locked section of `stop`; the flag tells whether `stop` goes on. -/
def stop (self : SIPApplication) : SIPApplication × Bool :=
  match self.state with
  | .stopping | .stopped => (self, false)
  | .starting => ({ self with stopPending := true }, false)
  | .started => ({ self with state := .stopping }, true)

/-- `_run_reactor` -/
def runReactor (self : SIPApplication) (raises : Bool) : SIPApplication :=
  match self.reactorThread with
  | .willStart => { self.post .willStart with reactorThread := .checkPending }
  | .checkPending =>
      if self.stopPending then { self with state := .stopping, reactorThread := .willEnd }
      else { self with reactorThread := .initializeCore }
  | .willEnd => { self.post .willEnd with reactorThread := .stopped }
  | .initializeCore =>
      if raises then { self with reactorThread := .done }
      else { self with engine := .starting, reactorThread := .reactor }
  | .reactor =>
      if self.reactorStopped ∧ self.control = none then { self with reactorThread := .stopped } else self
  | .stopped => { self with state := .stopped, reactorThread := .didEnd }
  | .didEnd => { self.post .didEnd with reactorThread := .done }
  | .done => self

/-- The engine thread posts that it has started or failed, and ends after a failure. -/
def engineNotifies (self : SIPApplication) (started : Bool) : SIPApplication :=
  match self.engine, started with
  | .starting, true => { self with engine := .running, calls := self.calls ++ [.engineDidStart] }
  | .starting, false | .running, false =>
      { self with engine := .ended, calls := self.calls ++ [.engineDidFail] }
  | _, _ => self

def runCall (self : SIPApplication) : SIPApplication :=
  match self.calls with
  | [] => self
  | .engineDidStart :: calls => { self with calls, waiting := self.waiting ++ [.initializeSubsystems] }
  | .shutdownSubsystems :: calls => { self with calls, waiting := self.waiting ++ [.shutdownSubsystems] }
  | .engineDidFail :: calls =>
      if self.state = .stopping then { self with calls }
      else { self with calls, state := .stopping, control := some .failWillEnd }

def switch (self : SIPApplication) (i : Nat) : SIPApplication :=
  match self.waiting[i]? with
  | none => self
  | some task => { self with waiting := self.waiting.eraseIdx i, control := some task }

/-- The task that has control goes on. -/
def proceed (self : SIPApplication) (raises waits : Bool) : Task → SIPApplication
  | .initializeSubsystems =>
      if self.stopPending then { self with state := .stopping, control := some .initializeWillEnd }
      else { self with control := some (.start [.core, .dns, .accounts, .addressbook, .sessions]) }
  | .initializeWillEnd => { self.post .willEnd with control := some .stopReactor }
  | .start (subsystem :: left) =>
      if raises then { self with control := none }
      -- `AccountManager.start` waits for the accounts.
      else if subsystem = .accounts ∧ waits then
        { self with waiting := self.waiting ++ [.start left], control := none }
      else { self with control := some (.start left) }
  | .start [] => { self with state := .started, control := some (.didStart self.stopPending) }
  | .didStart stopPending =>
      { self.post .didStart with control := if stopPending then some .stop else none }
  | .stop => { self.stop.1 with control := if self.stop.2 then some .stopWillEnd else none }
  | .stopWillEnd =>
      { self.post .willEnd with waiting := self.waiting ++ [.shutdownSubsystems], control := none }
  | .shutdownSubsystems =>
      if raises then { self with control := none }
      else if waits then { self with waiting := self.waiting ++ [.shutdownEngine], control := none }
      else { self with control := some .shutdownEngine }
  | .shutdownEngine => { self with control := if raises then none else some .stopReactor }
  | .failWillEnd => { self.post .willEnd with control := some .stopReactor }
  | .stopReactor => { self with reactorStopped := true, control := none }

/-- The reactor runs one thing at a time. -/
def step (self : SIPApplication) : ApplicationStep → SIPApplication
  | .stop => { self.stop.1 with stops := self.stops + if self.stop.2 then 1 else 0 }
  | .stopWillEnd inReactor =>
      match self.stops with
      | 0 => self
      | stops + 1 =>
          let posted := { self.post .willEnd with stops }
          if inReactor then { posted with waiting := self.waiting ++ [.shutdownSubsystems] }
          else { posted with calls := self.calls ++ [.shutdownSubsystems] }
  | .engine started => self.engineNotifies started
  | .reactorThread raises => self.runReactor raises
  | .call => if self.reactorThread = .reactor ∧ self.control = none then self.runCall else self
  | .switch i => if self.reactorThread = .reactor ∧ self.control = none then self.switch i else self
  | .proceed raises waits =>
      match self.control with
      | some task => self.proceed raises waits task
      | none => self

end SIPApplication

end SipSimple.Application
