import SipSimple.Library.Runs

/-!
# Bonjour services

`BonjourServices` of `account/bonjour/__init__.py`: the registrations, the discoveries and the resolutions of
a Bonjour account, each an open file of the mDNS responder, and the timers that try again what failed. All
work is done by commands that a loop takes from a channel; the results of the responder come to callbacks
while the command `process_results` is handled. `deactivate` sends a command and waits until the loop
signals it, and only then clears the flag that the loop looks at.

A file is known by its number and open as long as it is in the list. What the responder answers and what the
settings are is input. The notifications, the TXT records and the flag that keeps a file from being selected
twice are left out.
-/

namespace SipSimple.Account

inductive Transport where
  | udp | tcp | tls
  deriving DecidableEq, Repr

structure ServiceDescription where
  name : String
  type : String
  domain : String
  deriving DecidableEq, Repr

inductive BonjourFile where
  | registration (id : Nat) (transport : Transport)
  | discovery (id : Nat) (transport : Transport)
  | resolution (id : Nat) (discoveryFile : Nat) (transport : Transport) (service : ServiceDescription)
  deriving DecidableEq, Repr

namespace BonjourFile

def id : BonjourFile → Nat
  | .registration id _ | .discovery id _ | .resolution id _ _ _ => id

def transport : BonjourFile → Transport
  | .registration _ transport | .discovery _ transport | .resolution _ _ transport _ => transport

def isRegistration : BonjourFile → Bool
  | .registration _ _ => true
  | _ => false

def isDiscovery : BonjourFile → Bool
  | .discovery _ _ => true
  | _ => false

/-- A resolution of the discovery. -/
def isResolution (discoveryFile : Nat) : BonjourFile → Bool
  | .resolution _ parent _ _ => parent = discoveryFile
  | _ => false

def resolves (discoveryFile : Nat) (service : ServiceDescription) : BonjourFile → Bool
  | .resolution _ parent _ description => parent = discoveryFile && description = service
  | _ => false

end BonjourFile

inductive BonjourCommand where
  | register | unregister | updateRegistrations | discover
  | processResults (files : List Nat)
  /-- With the caller of `deactivate` that waits for it. -/
  | stop (caller : Nat)
  /-- The exception that `stop` sends. -/
  | exit
  deriving DecidableEq, Repr

/-- A call to the responder. -/
inductive BonjourRequest where
  | register (transport : Transport)
  | browse (transport : Transport)
  | resolve (service : ServiceDescription)
  deriving DecidableEq, Repr

/-- A delayed call is scheduled until it fires or is cancelled. -/
inductive BonjourTimer where
  | unset | scheduled | fired
  deriving DecidableEq, Repr

/-- What the neighbour of a resolved service is. -/
inductive ResolvedRecord where
  | malformed
  /-- A record whose contact uses the transport; it may be the account's own, or the account may have no
  contact for the transport. -/
  | record (transport : Transport) (own noContact : Bool)
  deriving DecidableEq, Repr

/-- The calls of `_register_cb`, `_browse_cb` and `_resolve_cb` for a file. -/
inductive BonjourCallback where
  | register (error : Bool)
  | browse (error : Bool) (service : ServiceDescription) (add refused : Bool)
  | resolve (error : Bool) (record : ResolvedRecord)
  deriving DecidableEq, Repr

/-- What a command finds: the transports of the settings and whether the account has a certificate, the
transports for which the responder refuses the call, and the callbacks for the files. -/
structure BonjourSystem where
  transportList : List Transport
  certificate : Bool := false
  refused : List Transport := []
  callbacks : Nat → List BonjourCallback := fun _ => []

structure BonjourServices where
  started : Bool := false
  files : List BonjourFile := []
  /-- The records are kept with the transports of their contacts. -/
  neighbours : List (ServiceDescription × Transport) := []
  commandChannel : List BonjourCommand := []
  observing : Bool := false
  /-- How many loops take commands. -/
  loops : Nat := 0
  discoverTimer : BonjourTimer := .unset
  registerTimer : BonjourTimer := .unset
  updateTimer : BonjourTimer := .unset
  /-- The next number of a file. -/
  nextFile : Nat := 0
  /-- The next number of a caller of `deactivate`. -/
  nextCaller : Nat := 0
  /-- The callers whose command was signalled and that have not gone on. -/
  signalled : List Nat := []
  requests : List BonjourRequest := []
  deriving DecidableEq, Repr

namespace BonjourSystem

def supportedTransports (system : BonjourSystem) : List Transport :=
  system.transportList.dedup.filter fun transport => transport ≠ .tls || system.certificate

def discoverableTransports (system : BonjourSystem) : List Transport :=
  (system.supportedTransports.map fun transport => if transport = .tls then .tcp else transport).dedup

end BonjourSystem

namespace BonjourServices

def send (services : BonjourServices) (command : BonjourCommand) : BonjourServices :=
  { services with commandChannel := services.commandChannel ++ [command] }

def setNeighbour (services : BonjourServices) (service : ServiceDescription) (transport : Transport) :
    BonjourServices :=
  { services with
    neighbours := (services.neighbours.filter fun entry => entry.1 ≠ service) ++ [(service, transport)] }

def removeNeighbour (services : BonjourServices) (service : ServiceDescription) : BonjourServices :=
  { services with neighbours := services.neighbours.filter fun entry => entry.1 ≠ service }

/-! ### Methods -/

def start (services : BonjourServices) : BonjourServices :=
  { services with observing := true, loops := services.loops + 1 }

/-- `stop`. -/
def stopServices (services : BonjourServices) : BonjourServices :=
  { services with observing := false }.send .exit

def activate (services : BonjourServices) : BonjourServices :=
  ({ services with started := true }.send .register).send .discover

/-- `deactivate` up to its wait. -/
def deactivate (services : BonjourServices) : BonjourServices :=
  { services with nextCaller := services.nextCaller + 1 }.send (.stop services.nextCaller)

/-- The end of `deactivate`. -/
def deactivated (services : BonjourServices) (caller : Nat) : BonjourServices :=
  if caller ∉ services.signalled then services
  else { services with signalled := services.signalled.erase caller, started := false }

def restartDiscovery (services : BonjourServices) : BonjourServices := services.send .discover

def restartRegistration (services : BonjourServices) : BonjourServices :=
  (services.send .unregister).send .register

def updateRegistrations (services : BonjourServices) : BonjourServices := services.send .updateRegistrations

/-- `_NH_NetworkConditionsDidChange`. -/
def networkConditionsDidChange (services : BonjourServices) : BonjourServices :=
  if services.observing ∧ services.files ≠ [] then services.restartDiscovery.restartRegistration
  else services

/-- `_process_files`: select reports files as ready. -/
def processFiles (services : BonjourServices) (ready : List Nat) : BonjourServices :=
  services.send (.processResults (ready.filter fun id => services.files.any (·.id = id)))

/-! ### Callbacks -/

def registerCb (services : BonjourServices) (file : BonjourFile) (error : Bool) : BonjourServices :=
  if !error ∨ file ∉ services.files then services
  else
    { services with
      files := services.files.erase file
      registerTimer := if services.registerTimer = .unset then .scheduled else services.registerTimer }

/-- A file that is not in the list any more cannot be removed again: ValueError. -/
def browseCb (services : BonjourServices) (file : BonjourFile) (error : Bool)
    (service : ServiceDescription) (add refused : Bool) : BonjourServices :=
  if error then
    if file ∉ services.files then services
    else
      { services with
        files := services.files.filter fun other => other ≠ file && !other.isResolution file.id
        discoverTimer := if services.discoverTimer = .unset then .scheduled else services.discoverTimer }
  else if service.domain ≠ "local." then services
  else if add then
    if services.files.any (·.resolves file.id service) then services
    else
      let services := { services with requests := services.requests ++ [.resolve service] }
      if refused then services
      else
        { services with
          files := services.files ++ [.resolution services.nextFile file.id file.transport service]
          nextFile := services.nextFile + 1 }
  else
    match services.files.find? (·.resolves file.id service) with
    | none => services
    | some resolution => { services with files := services.files.erase resolution }.removeNeighbour service

def resolveCb (services : BonjourServices) (system : BonjourSystem) (file : BonjourFile)
    (service : ServiceDescription) (error : Bool) : ResolvedRecord → BonjourServices
  | record =>
      if error then { services with files := services.files.erase file }
      else
        match record with
        | .malformed => services
        | .record transport own noContact =>
            if transport ∉ system.supportedTransports then services.removeNeighbour service
            else if noContact ∨ own then services
            else services.setNeighbour service transport

/-- A callback is that of the kind of the file. -/
def callback (system : BonjourSystem) (file : BonjourFile) (services : BonjourServices) :
    BonjourCallback → BonjourServices
  | .register error => if file.isRegistration then services.registerCb file error else services
  | .browse error service add refused =>
      if file.isDiscovery then services.browseCb file error service add refused else services
  | .resolve error record =>
      match file with
      | .resolution _ _ _ service => services.resolveCb system file service error record
      | _ => services

/-! ### Commands -/

def chUnregister (services : BonjourServices) : BonjourServices :=
  { services with
    registerTimer := .unset
    updateTimer := .unset
    files := services.files.filter fun file => !file.isRegistration }

def registerTransport (system : BonjourSystem) (services : BonjourServices) (transport : Transport) :
    BonjourServices :=
  let services := { services with requests := services.requests ++ [.register transport] }
  if transport ∈ system.refused then services
  else
    { services with
      files := services.files ++ [.registration services.nextFile transport]
      nextFile := services.nextFile + 1 }

def chRegister (services : BonjourServices) (system : BonjourSystem) : BonjourServices :=
  let registered := (services.files.filter (·.isRegistration)).map (·.transport)
  let missing := system.supportedTransports.filter (· ∉ registered)
  let services := missing.foldl (registerTransport system) { services with registerTimer := .unset }
  if missing.any (· ∈ system.refused) then { services with registerTimer := .scheduled } else services

def chUpdateRegistrations (services : BonjourServices) (system : BonjourSystem) : BonjourServices :=
  let services :=
    { services with
      updateTimer := .unset
      files := services.files.filter fun file =>
        !(file.isRegistration && file.transport ∉ system.transportList) }
  let failure := services.files.any fun file => file.isRegistration && file.transport ∈ system.refused
  let services := services.send .register
  if failure then { services with updateTimer := .scheduled } else services

def discoverTransport (system : BonjourSystem) (services : BonjourServices) (transport : Transport) :
    BonjourServices :=
  let services := { services with requests := services.requests ++ [.browse transport] }
  if transport ∈ system.refused then services
  else
    { services with
      files := services.files ++ [.discovery services.nextFile transport]
      nextFile := services.nextFile + 1 }

def chDiscover (services : BonjourServices) (system : BonjourSystem) : BonjourServices :=
  let services :=
    { services with
      discoverTimer := .unset
      files := services.files.filter fun file =>
        file.isRegistration || file.transport ∈ system.discoverableTransports
      neighbours := services.neighbours.filter fun entry => entry.2 ∈ system.supportedTransports }
  let discovered := (services.files.filter (·.isDiscovery)).map (·.transport)
  let missing := system.discoverableTransports.filter (· ∉ discovered)
  let services := missing.foldl (discoverTransport system) services
  if missing.any (· ∈ system.refused) then { services with discoverTimer := .scheduled } else services

/-- A file that was closed has no results. -/
def processFile (system : BonjourSystem) (services : BonjourServices) (id : Nat) : BonjourServices :=
  match services.files.find? (·.id = id) with
  | none => services
  | some file => (system.callbacks id).foldl (callback system file) services

def chProcessResults (services : BonjourServices) (system : BonjourSystem) (files : List Nat) :
    BonjourServices :=
  files.foldl (processFile system) services

def chStop (services : BonjourServices) (caller : Nat) : BonjourServices :=
  { services with
    discoverTimer := .unset
    registerTimer := .unset
    updateTimer := .unset
    files := []
    neighbours := []
    signalled := services.signalled ++ [caller] }

def handler (services : BonjourServices) (system : BonjourSystem) : BonjourCommand → BonjourServices
  | .register => services.chRegister system
  | .unregister => services.chUnregister
  | .updateRegistrations => services.chUpdateRegistrations system
  | .discover => services.chDiscover system
  | .processResults files => services.chProcessResults system files
  | .stop caller => services.chStop caller
  | .exit => services

/-- A turn of the loop of `_handle_commands`. -/
def handleCommand (services : BonjourServices) (system : BonjourSystem) : BonjourServices :=
  if services.loops = 0 then services
  else
    match services.commandChannel with
    | [] => services
    | .exit :: commands => { services with commandChannel := commands, loops := services.loops - 1 }
    | command :: commands =>
        let services := { services with commandChannel := commands }
        if services.started then services.handler system command else services

/-! ### Runs -/

inductive Input where
  | start
  | stopServices
  | activate
  | deactivate
  | deactivated (caller : Nat)
  | restartDiscovery
  | restartRegistration
  | updateRegistrations
  | networkConditionsDidChange
  | processFiles (ready : List Nat)
  | handleCommand (system : BonjourSystem)
  | discoverTimerFires
  | registerTimerFires
  | updateTimerFires

def step (services : BonjourServices) : Input → BonjourServices
  | .start => services.start
  | .stopServices => services.stopServices
  | .activate => services.activate
  | .deactivate => services.deactivate
  | .deactivated caller => services.deactivated caller
  | .restartDiscovery => services.restartDiscovery
  | .restartRegistration => services.restartRegistration
  | .updateRegistrations => services.updateRegistrations
  | .networkConditionsDidChange => services.networkConditionsDidChange
  | .processFiles ready => services.processFiles ready
  | .handleCommand system => services.handleCommand system
  | .discoverTimerFires =>
      if services.discoverTimer = .scheduled then { services with discoverTimer := .fired }.send .discover
      else services
  | .registerTimerFires =>
      if services.registerTimer = .scheduled then { services with registerTimer := .fired }.send .register
      else services
  | .updateTimerFires =>
      if services.updateTimer = .scheduled then
        { services with updateTimer := .fired }.send .updateRegistrations
      else services

end BonjourServices

end SipSimple.Account
