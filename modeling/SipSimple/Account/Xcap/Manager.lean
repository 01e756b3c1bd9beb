import SipSimple.Account.Xcap.Document
import SipSimple.Library.Runs

/-!
# The command loop of the XCAP manager

Commands come from the API, from notifications and from timers into a queue, and one green thread handles
them in order. It gives way to the others while it waits for the server and after every operation handler;
what happens then is another input. The time of an input is what the clock says, and it may go back.

Who waits for a command, the storage and the notifications are left out; a journal that cannot be pickled
is not.
-/

namespace SipSimple.Account.Xcap

open Payloads (Outcome)

inductive DocumentName
  | resourceLists
  | rlsServices
  | presRules
  | dialogRules
  | pidfManipulation
  | statusIcon
  deriving DecidableEq, Repr

namespace DocumentName

/-- `document_names` -/
def all : List DocumentName :=
  [resourceLists, rlsServices, presRules, dialogRules, pidfManipulation, statusIcon]

def application : DocumentName → String
  | resourceLists => "resource-lists"
  | rlsServices => "rls-services"
  | presRules => "org.openmobilealliance.pres-rules"
  | dialogRules => "org.openxcap.dialog-rules"
  | pidfManipulation => "pidf-manipulation"
  | statusIcon => "org.openmobilealliance.pres-content"

@[simp] theorem mem_all (name : DocumentName) : name ∈ all := by cases name <;> decide

end DocumentName

abbrev Documents (Content : DocumentName → Type) := ∀ name, Document (Content name)

/-- The content of the document `xcap-caps`. -/
structure ServerCaps where
  auids : List String

/-- It is only read. -/
instance : RootElement ServerCaps where
  isDirty _ := false
  clean := id

/-- An operation in the journal. -/
structure JournalEntry (Op : Type) where
  operation : Op
  applied : Bool := false
  deriving DecidableEq, Repr

/-- What the command loop calls on operations and documents. A handler and `prepare` say with the result
whether they raised. -/
structure OperationHandlers (Op : Type) (Content : DocumentName → Type) where
  normalize : Op
  isNormalize : Op → Bool
  handle : Op → Documents Content → Documents Content × Bool
  /-- What the `update` of a document does before `Document.update`. -/
  prepare : ∀ name, Document (Content name) → Document (Content name) × Bool
  /-- `_load_data` does not raise. -/
  loads : Documents Content → Bool
  /-- `cPickle.dumps` of the journal does not raise. -/
  stores : List (JournalEntry Op) → Bool

inductive ManagerState
  | stopped
  | initializing
  | fetching
  | insync
  | updating
  | terminated
  deriving DecidableEq, Repr

/-- `initialization` is the command `initialize`. -/
inductive Command
  | start
  | stop
  | cleanup
  | initialization
  | reload (modified : List String)
  | fetch (documents : List DocumentName) (timestamp : Nat)
  | update
  deriving DecidableEq, Repr

/-- An exception of a worker: `_CH_fetch` catches the one, and not another one. -/
inductive WorkerFailure
  | xcapError
  | uncaught
  deriving DecidableEq, Repr

/-- Where the green thread waits: for a command, for the server, or for its turn after an operation. In
`ended` there is no such thread any more. -/
inductive CommandLoop
  | ready
  | lookup
  | capabilities
  | fetching (documents : List DocumentName) (timestamp : Nat) (pending : List DocumentName)
      (failures : List (DocumentName × WorkerFailure))
  | applying (count : Nat)
  | uploading (count : Nat) (name : DocumentName) (rest : List DocumentName)
  | ended
  deriving DecidableEq, Repr

/-- What has been done, for the properties to refer to. -/
inductive Effect (Op : Type) (Content : DocumentName → Type)
  | handled (command : Command) (level : Int)
  | requested (name : DocumentName)
  | replaced (name : DocumentName)
  | ran (operation : Op) (raised : Bool)
  | sent (name : DocumentName) (content : Option (Content name))
  | removed (operations : List Op)
  | timerStarted (timeout : Nat) (command : Command)
  | purged

/-- The timer is an active one. The subscriber is there or not, and the last effect comes first. -/
structure XCAPManager (Op : Type) (Content : DocumentName → Type) where
  state : ManagerState := .stopped
  commandChannel : List Command := []
  loop : CommandLoop := .ready
  journal : List (JournalEntry Op)
  documents : Documents Content
  serverCaps : Document ServerCaps := {}
  transactionLevel : Int := 0
  timer : Option Command := none
  notExecutedFetch : Option (List DocumentName × Nat) := none
  subscriber : Bool := false
  fetchTime : DocumentName → Nat
  updateTime : DocumentName → Nat := fun _ => 0
  lastFetchTime : Nat := 0
  lastUpdateTime : Nat := 0
  effects : List (Effect Op Content) := []

/-- `load_from_cache` -/
def Document.loadFromCache {α : Type} : Option (α × Option String) → Document α
  | some (content, etag) => { content := some content, etag := etag }
  | none => {}

namespace XCAPManager

variable {Op : Type} {Content : DocumentName → Type} [∀ name, RootElement (Content name)]

/-- `__init__`, with what the storage has. -/
def new (time : Nat) (journal : List Op)
    (cached : ∀ name, Option (Content name × Option String)) : XCAPManager Op Content where
  journal := journal.map fun operation => { operation := operation }
  documents := fun name => .loadFromCache (cached name)
  fetchTime := fun _ => time

def send (manager : XCAPManager Op Content) (command : Command) : XCAPManager Op Content :=
  { manager with commandChannel := manager.commandChannel ++ [command] }

def record (manager : XCAPManager Op Content) (effects : List (Effect Op Content)) :
    XCAPManager Op Content :=
  { manager with effects := effects ++ manager.effects }

/-- `_schedule_command` -/
def schedule (manager : XCAPManager Op Content) (timeout : Nat) (command : Command) :
    XCAPManager Op Content :=
  { manager with timer := some command }.record [.timerStarted timeout command]

/-- The content of a document is not the one that operations were applied to, if there was one. -/
def replacements (manager : XCAPManager Op Content) (names : List DocumentName) :
    List (Effect Op Content) :=
  (names.filter fun name => (manager.documents name).content.isSome).map .replaced

/-- Some of the documents are reset. -/
def resetDocuments (manager : XCAPManager Op Content) (names : List DocumentName) :
    XCAPManager Op Content :=
  { manager with documents := fun name =>
      if name ∈ names then (manager.documents name).reset else manager.documents name }.record
    (manager.replacements names)

/-- `_save_journal` at the end of a command handler. It catches what the storage raises. -/
def saveJournal (handlers : OperationHandlers Op Content) (manager : XCAPManager Op Content) :
    XCAPManager Op Content :=
  if handlers.stores manager.journal then manager else { manager with loop := .ended }

/-! ### Starting and stopping -/

def chStart (manager : XCAPManager Op Content) : XCAPManager Op Content :=
  if manager.state ≠ .stopped then manager
  else { manager with state := .initializing, subscriber := true }.send .initialization

/-- Without a subscriber the handler raises before it has done anything. -/
def chStop (handlers : OperationHandlers Op Content) (manager : XCAPManager Op Content) :
    XCAPManager Op Content :=
  if manager.state = .stopped ∨ manager.state = .terminated then manager
  else if manager.subscriber then
    { manager with timer := none, subscriber := false, state := .stopped }.saveJournal handlers
  else { manager with loop := .ended }

def chCleanup (manager : XCAPManager Op Content) : XCAPManager Op Content :=
  if manager.state ≠ .stopped then manager
  else { manager with journal := [], state := .terminated, loop := .ended }.record [.purged]

/-- The XCAP root is a setting, or it is looked up. -/
def chInitialize (manager : XCAPManager Op Content) (xcapRoot : Bool) : XCAPManager Op Content :=
  { manager with
    state := .initializing
    timer := none
    loop := if xcapRoot then .capabilities else .lookup }

def initializeLater (manager : XCAPManager Op Content) (timeout : Nat) : XCAPManager Op Content :=
  { manager with loop := .ready }.schedule timeout .initialization

def lookedUp (manager : XCAPManager Op Content) (found : Bool) : XCAPManager Op Content :=
  if found then { manager with loop := .capabilities } else manager.initializeLater 60

def requiredAuids : List String :=
  ["resource-lists", "rls-services", "org.openmobilealliance.pres-rules"]

/-- The rest of `_CH_initialize`, when the server has all that is required. -/
def initialized (manager : XCAPManager Op Content) (time : Nat) (caps : ServerCaps) :
    XCAPManager Op Content :=
  let unsupported := DocumentName.all.filter fun name => name.application ∉ caps.auids
  { manager with
    documents := fun name =>
      (manager.documents name).initializeDocument (name.application ∈ caps.auids)
    state := .fetching
    loop := if manager.subscriber then .ready else .ended }.record
      (manager.replacements unsupported) |>.send (.fetch DocumentName.all time)

/-- `none` is an exception that `Document.fetch` does not catch. -/
def gotCaps (manager : XCAPManager Op Content) (time : Nat) :
    Option (Fetched ServerCaps) → XCAPManager Op Content
  | none => { manager with loop := .ended }
  | some fetched =>
      let (serverCaps, error) := manager.serverCaps.fetch fetched
      if error.isSome then { manager with serverCaps := serverCaps }.initializeLater 60
      else
        match serverCaps.content with
        | none => { manager with serverCaps := serverCaps }.initializeLater 60
        | some caps =>
            if requiredAuids ⊆ caps.auids then
              { manager with serverCaps := { serverCaps with supported := true } }.initialized time caps
            else { manager with serverCaps := serverCaps }.initializeLater 3600

/-- Another account starts with an empty journal, and what another server has is not known. -/
def forget (manager : XCAPManager Op Content) (modified : List String) : XCAPManager Op Content :=
  if "__id__" ∈ modified then
    { manager with journal := [] }.record [.purged] |>.resetDocuments DocumentName.all
  else if "xcap.xcap_root" ∈ modified then manager.resetDocuments DocumentName.all
  else manager

/-- The rest of `_CH_reload`. -/
def reloadAgain (manager : XCAPManager Op Content) (modified : List String) :
    XCAPManager Op Content :=
  if manager.state = .stopped then manager
  else if "__id__" ∈ modified ∨ "auth.username" ∈ modified ∨ "auth.password" ∈ modified ∨
      "xcap.xcap_root" ∈ modified then
    { manager with state := .initializing }.send .initialization
  else if manager.subscriber then manager
  else { manager with loop := .ended }

def chReload (manager : XCAPManager Op Content) (modified : List String) : XCAPManager Op Content :=
  if manager.state = .terminated then manager else (manager.forget modified).reloadAgain modified

/-! ### Fetching -/

/-- The exception that leaves `_fetch_documents`: the workers are waited for from the last one on. -/
def fetchFailure (failures : List (DocumentName × WorkerFailure)) : Option WorkerFailure :=
  DocumentName.all.reverse.findSome? fun name => failures.lookup name

/-- The rest of `_CH_fetch` once the workers have ended. -/
def fetched (handlers : OperationHandlers Op Content) (manager : XCAPManager Op Content) (time : Nat)
    (documents : List DocumentName) (timestamp : Nat) (failure : Option WorkerFailure) :
    XCAPManager Op Content :=
  match failure with
  | some .xcapError => { manager with loop := .ready }.schedule 60 (.fetch documents time)
  | some .uncaught => { manager with loop := .ended }
  | none =>
      if manager.journal.isEmpty ∧ 0 < manager.lastFetchTime ∧
          ∀ name ∈ DocumentName.all, manager.fetchTime name < timestamp then
        { manager with lastFetchTime := time, state := .insync, loop := .ready }
      else
        { manager with
          lastFetchTime := time
          state := .updating
          loop := .ready
          journal :=
            if manager.journal.head?.any fun entry : JournalEntry Op =>
                handlers.isNormalize entry.operation then manager.journal
            else { operation := handlers.normalize } :: manager.journal }.send .update

/-- `_fetch_documents` starts a worker for each of the documents that are supported. -/
def fetchDocuments (handlers : OperationHandlers Op Content) (manager : XCAPManager Op Content)
    (time : Nat) (documents : List DocumentName) (timestamp : Nat) : XCAPManager Op Content :=
  let pending := DocumentName.all.filter fun name =>
    name ∈ documents ∧ (manager.documents name).supported
  if pending.isEmpty then fetched handlers manager time documents timestamp none
  else
    { manager with loop := .fetching documents timestamp pending [] }.record
      (pending.map .requested)

/-- The command of an active timer has documents only if it is a fetch. -/
def chFetch (handlers : OperationHandlers Op Content) (manager : XCAPManager Op Content) (time : Nat)
    (documents : List DocumentName) (timestamp : Nat) : XCAPManager Op Content :=
  let documents := documents ∪ (manager.notExecutedFetch.elim [] Prod.fst)
  if manager.state ≠ .insync ∧ manager.state ≠ .fetching then
    { manager with notExecutedFetch := some (documents, timestamp) }
  else
    let manager := { manager with notExecutedFetch := none, state := .fetching }
    match manager.timer with
    | none => fetchDocuments handlers manager time documents timestamp
    | some (.fetch more _) =>
        fetchDocuments handlers { manager with timer := none } time (documents ∪ more) timestamp
    | some _ => { manager with loop := .ended }

/-- What is fetched takes the place of the content that is held. -/
def fetchReplaces {α : Type} (document : Document α) : Fetched α → Bool
  | .document _ _ => true
  | .notFound => document.content.isSome
  | _ => false

/-- A worker has ended; `none` is an exception that `Document.fetch` does not catch, such as the
`TypeError` of a `Validity` element. -/
def got (manager : XCAPManager Op Content) (time : Nat) (name : DocumentName)
    (fetched : Option (Fetched (Content name))) : XCAPManager Op Content :=
  match manager.loop with
  | .fetching documents timestamp pending failures =>
      if name ∈ pending then
        let pending := pending.erase name
        match fetched with
        | none =>
            let failures := (name, .uncaught) :: failures
            { manager with loop := .fetching documents timestamp pending failures }
        | some fetched =>
            let (document, error) := (manager.documents name).fetch fetched
            let failures := if error.isSome then (name, .xcapError) :: failures else failures
            let replaces := fetchReplaces (manager.documents name) fetched
            { manager with
              documents := Function.update manager.documents name document
              fetchTime :=
                if replaces then Function.update manager.fetchTime name time else manager.fetchTime
              loop := .fetching documents timestamp pending failures }.record
                (if replaces then [.replaced name] else [])
      else manager
  | _ => manager

/-! ### Updating -/

/-- The first operation among so many that is not applied, and the journal with the mark on it. -/
def applyFirst : Nat → List (JournalEntry Op) → Option (Op × List (JournalEntry Op))
  | 0, _ => none
  | _ + 1, [] => none
  | count + 1, entry :: rest =>
      if entry.applied then
        (applyFirst count rest).map fun (operation, rest) => (operation, entry :: rest)
      else some (entry.operation, { entry with applied := true } :: rest)

/-- A fetch that was put off is asked for again. -/
def sendNotExecutedFetch (manager : XCAPManager Op Content) : XCAPManager Op Content :=
  match manager.notExecutedFetch with
  | some (documents, timestamp) =>
      { manager with notExecutedFetch := none }.send (.fetch documents timestamp)
  | none => manager

/-- All operations are done and all documents are uploaded. -/
def updated (handlers : OperationHandlers Op Content) (manager : XCAPManager Op Content) (time : Nat)
    (count : Nat) : XCAPManager Op Content :=
  let removed := (manager.journal.take count).map JournalEntry.operation
  let manager : XCAPManager Op Content :=
    { manager with journal := manager.journal.drop count, loop := .ready }.record [.removed removed]
  if manager.journal.isEmpty then
    if (∃ name ∈ DocumentName.all, manager.lastUpdateTime <
        max (manager.updateTime name) (manager.fetchTime name)) ∧
        !handlers.loads manager.documents then
      { manager with state := .insync, loop := .ended }
    else
      ({ manager with state := .insync, lastUpdateTime := time }.sendNotExecutedFetch).saveJournal
        handlers
  else manager.sendNotExecutedFetch.saveJournal handlers

/-- The documents that are dirty are uploaded, one after the other. -/
def upload (handlers : OperationHandlers Op Content) (time : Nat) (count : Nat) :
    List DocumentName → XCAPManager Op Content → XCAPManager Op Content
  | [], manager => manager.updated handlers time count
  | name :: rest, manager =>
      if (manager.documents name).isDirty ∧ (manager.documents name).supported then
        let (document, raised) := handlers.prepare name (manager.documents name)
        let manager := { manager with documents := Function.update manager.documents name document }
        if raised then { manager with loop := .ended }
        else if document.isDirty then
          { manager with loop := .uploading count name rest }.record [.sent name document.content]
        else upload handlers time count rest manager
      else upload handlers time count rest manager

/-- The next operation that is not applied, or the upload. -/
def apply (handlers : OperationHandlers Op Content) (manager : XCAPManager Op Content) (time : Nat)
    (count : Nat) : XCAPManager Op Content :=
  match applyFirst count manager.journal with
  | some (operation, journal) =>
      let (documents, raised) := handlers.handle operation manager.documents
      { manager with
        documents := documents
        journal := journal
        loop := .applying count }.record [.ran operation raised]
  | none => upload handlers time count DocumentName.all manager

def chUpdate (handlers : OperationHandlers Op Content) (manager : XCAPManager Op Content)
    (time : Nat) : XCAPManager Op Content :=
  if manager.state ≠ .insync ∧ manager.state ≠ .updating then manager
  else if manager.transactionLevel ≠ 0 then manager
  else
    apply handlers { manager with state := .updating, timer := none } time manager.journal.length

/-- The server has another version of a document: what is dirty is forgotten, and all is done again. -/
def fetchRequired (manager : XCAPManager Op Content) (time : Nat) (count : Nat) :
    XCAPManager Op Content :=
  let dirty := DocumentName.all.filter fun name =>
    (manager.documents name).isDirty ∧ (manager.documents name).supported
  let manager := manager.resetDocuments dirty
  { manager with
    journal := (manager.journal.take count).map (fun entry : JournalEntry Op =>
      { entry with applied := false }) ++ manager.journal.drop count
    state := .fetching
    loop := .ready }.send (.fetch DocumentName.all time)

/-- The answer to a PUT or DELETE. `none` is an exception that `Document.update` does not catch, such as
a `socket.error`. -/
def replied (handlers : OperationHandlers Op Content) (manager : XCAPManager Op Content) (time : Nat)
    (response : Option Response) : XCAPManager Op Content :=
  match manager.loop, response with
  | .uploading _ _ _, none => { manager with loop := .ended }
  | .uploading count name rest, some response =>
      let (document, error) := (manager.documents name).update response
      let manager := { manager with documents := Function.update manager.documents name document }
      match error with
      | none =>
          upload handlers time count rest
            { manager with updateTime := Function.update manager.updateTime name time }
      | some .fetchRequiredError => manager.fetchRequired time count
      | some .xcapError => { manager with loop := .ready }.schedule 60 .update
  | _, _ => manager

/-! ### The inputs -/

/-- `_schedule_operation`. Without a journal that can be stored no command is sent. -/
def scheduleOperation (handlers : OperationHandlers Op Content) (manager : XCAPManager Op Content)
    (operation : Op) : XCAPManager Op Content :=
  let manager := { manager with journal := manager.journal ++ [{ operation := operation }] }
  if manager.transactionLevel = 0 ∧ handlers.stores manager.journal then manager.send .update
  else manager

def startTransaction (manager : XCAPManager Op Content) : XCAPManager Op Content :=
  { manager with transactionLevel := manager.transactionLevel + 1 }

def commitTransaction (handlers : OperationHandlers Op Content) (manager : XCAPManager Op Content) :
    XCAPManager Op Content :=
  if manager.transactionLevel = 0 then manager
  else
    let manager := { manager with transactionLevel := manager.transactionLevel - 1 }
    if manager.transactionLevel = 0 ∧ !manager.journal.isEmpty ∧ handlers.stores manager.journal then
      manager.send .update
    else manager

def reloadSettings : List String :=
  ["__id__", "xcap.xcap_root", "auth.username", "auth.password", "sip.subscribe_interval",
    "sip.transport_list"]

/-- `_NH_CFGSettingsObjectDidChange` -/
def settingsDidChange (manager : XCAPManager Op Content) (modified : List String)
    (enabled xcapEnabled : Bool) : XCAPManager Op Content :=
  let manager :=
    if reloadSettings.any (· ∈ modified) then manager.send (.reload modified) else manager
  if "enabled" ∈ modified then manager
  else if enabled ∧ "xcap.enabled" ∈ modified then
    manager.send (if xcapEnabled then .start else .stop)
  else manager

omit [∀ name, RootElement (Content name)] in
/-- A change of the settings only sends commands. -/
theorem settingsDidChange_of_send {motive : XCAPManager Op Content → Prop}
    (hsend : ∀ manager command, motive manager → motive (manager.send command))
    {manager : XCAPManager Op Content} (h : motive manager) (modified : List String)
    (enabled xcapEnabled : Bool) : motive (manager.settingsDidChange modified enabled xcapEnabled) := by
  rw [settingsDidChange]
  have hreload : motive (if reloadSettings.any (· ∈ modified) then manager.send (.reload modified)
      else manager) := by
    split
    · exact hsend _ _ h
    · exact h
  generalize (if reloadSettings.any (· ∈ modified) then manager.send (.reload modified)
    else manager) = reloaded at hreload ⊢
  split
  · exact hreload
  · split
    · exact hsend _ _ hreload
    · exact hreload

/-- What happens to a manager. `handle` lets the green thread take a command, with the setting of the XCAP
root; `wake` lets it go on after an operation or with all documents fetched. -/
inductive Event (Op : Type) (Content : DocumentName → Type)
  | scheduleOperation (operation : Op)
  | startTransaction
  | commitTransaction
  | start
  | stop
  | settingsDidChange (modified : List String) (enabled xcapEnabled : Bool)
  | settingsDeleted
  | subscriptionChanged
  | gotNotify (applications : List String)
  | timerFires
  | handle (xcapRoot : Bool)
  | lookedUp (found : Bool)
  | gotCaps (fetched : Option (Fetched ServerCaps))
  | got (name : DocumentName) (fetched : Option (Fetched (Content name)))
  | wake
  | replied (response : Option Response)

/-- The handler of a command. -/
def ch (handlers : OperationHandlers Op Content) (manager : XCAPManager Op Content) (time : Nat)
    (xcapRoot : Bool) : Command → XCAPManager Op Content
  | .start => manager.chStart
  | .stop => manager.chStop handlers
  | .cleanup => manager.chCleanup
  | .initialization => manager.chInitialize xcapRoot
  | .reload modified => manager.chReload modified
  | .fetch documents timestamp => manager.chFetch handlers time documents timestamp
  | .update => manager.chUpdate handlers time

/-- A command is taken from the queue. -/
def take (manager : XCAPManager Op Content) (command : Command) (rest : List Command) :
    XCAPManager Op Content :=
  { manager with commandChannel := rest }.record [.handled command manager.transactionLevel]

/-- A turn of the loop in `_run`. -/
def handle (handlers : OperationHandlers Op Content) (manager : XCAPManager Op Content) (time : Nat)
    (xcapRoot : Bool) : XCAPManager Op Content :=
  match manager.loop, manager.commandChannel with
  | .ready, command :: rest => ch handlers (manager.take command rest) time xcapRoot command
  | _, _ => manager

def wake (handlers : OperationHandlers Op Content) (manager : XCAPManager Op Content) (time : Nat) :
    XCAPManager Op Content :=
  match manager.loop with
  | .fetching documents timestamp [] failures =>
      manager.fetched handlers time documents timestamp (fetchFailure failures)
  | .applying count => manager.apply handlers time count
  | _ => manager

def step (handlers : OperationHandlers Op Content) (manager : XCAPManager Op Content) :
    Nat × Event Op Content → XCAPManager Op Content
  | (_, .scheduleOperation operation) => manager.scheduleOperation handlers operation
  | (_, .startTransaction) => manager.startTransaction
  | (_, .commitTransaction) => manager.commitTransaction handlers
  | (_, .start) => manager.send .start
  | (_, .stop) => manager.send .stop
  | (_, .settingsDidChange modified enabled xcapEnabled) =>
      manager.settingsDidChange modified enabled xcapEnabled
  | (_, .settingsDeleted) => (manager.send .stop).send .cleanup
  | (time, .subscriptionChanged) => manager.send (.fetch DocumentName.all time)
  | (time, .gotNotify applications) =>
      manager.send (.fetch (DocumentName.all.filter (·.application ∈ applications)) time)
  | (_, .timerFires) =>
      match manager.timer with
      | some command => { manager with timer := none }.send command
      | none => manager
  | (time, .handle xcapRoot) => manager.handle handlers time xcapRoot
  | (_, .lookedUp found) =>
      match manager.loop with
      | .lookup => manager.lookedUp found
      | _ => manager
  | (time, .gotCaps fetched) =>
      match manager.loop with
      | .capabilities => manager.gotCaps time fetched
      | _ => manager
  | (time, .got name fetched) => manager.got time name fetched
  | (time, .wake) => manager.wake handlers time
  | (time, .replied response) => manager.replied handlers time response

end XCAPManager

/-! ### The handlers of the resource lists -/

/-- The content of the resource lists. What the other documents hold is left out. -/
abbrev ResourceListsContent : DocumentName → Type
  | .resourceLists => Payloads.ResourceLists
  | _ => Unit

instance : ∀ name, RootElement (ResourceListsContent name)
  | .resourceLists => inferInstanceAs (RootElement Payloads.ResourceLists)
  | .rlsServices | .presRules | .dialogRules | .pidfManipulation | .statusIcon =>
      ⟨fun _ => false, id⟩

def resourceListsHandlers (url : String) : OperationHandlers Operation ResourceListsContent where
  normalize := .normalize
  isNormalize
    | .normalize => true
    | _ => false
  handle operation documents :=
    let (content, error) := operation.handle url (documents .resourceLists).content
    (Function.update documents .resourceLists { documents .resourceLists with content := content },
      error.isSome)
  prepare
    | .resourceLists => fun document => ((prepare document).1, (prepare document).2.isSome)
    | .rlsServices | .presRules | .dialogRules | .pidfManipulation | .statusIcon =>
        fun document => (document, false)
  loads documents := (documents .resourceLists).content.any fun content =>
    (content.lists .sipsimpleAddressbook).isSome
  stores _ := true

end SipSimple.Account.Xcap
