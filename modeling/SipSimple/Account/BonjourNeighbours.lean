import Mathlib.Data.List.Nodup
import SipSimple.Account.Bonjour

/-!
# The notifications of Bonjour services

The records of the neighbours and the notifications that `BonjourServices` of `account/bonjour/__init__.py`
posts about them and about the registrations, next to the files, timers and commands. A callback brings the
record that it parses; the table of the services by themselves has the transports of the records.
-/

namespace SipSimple.Account

/-- `BonjourNeighbourRecord`, with the transport of its URI. -/
structure NeighbourRecord where
  id : Option String
  name : Option String
  host : String
  uri : String
  transport : Transport
  state : Option String
  note : Option String
  deriving DecidableEq, Repr

/-- `BonjourAccountDidAddNeighbour`, `BonjourAccountDidUpdateNeighbour`, `BonjourAccountDidRemoveNeighbour`. -/
inductive NeighbourNotification where
  | didAdd (neighbour : ServiceDescription) (record : NeighbourRecord)
  | didUpdate (neighbour : ServiceDescription) (record : NeighbourRecord)
  | didRemove (neighbour : ServiceDescription) (record : NeighbourRecord)
  deriving DecidableEq, Repr

/-- What `_resolve_cb` parses. -/
inductive FoundRecord where
  | malformed
  | record (record : NeighbourRecord) (own noContact : Bool)
  deriving DecidableEq, Repr

def FoundRecord.resolved : FoundRecord → ResolvedRecord
  | .malformed => .malformed
  | .record neighbour own noContact => .record neighbour.transport own noContact

inductive BonjourResult where
  | register (error : Bool)
  | browse (error : Bool) (service : ServiceDescription) (add refused : Bool)
  | resolve (error : Bool) (found : FoundRecord)
  deriving DecidableEq, Repr

def BonjourResult.callback : BonjourResult → BonjourCallback
  | .register error => .register error
  | .browse error service add refused => .browse error service add refused
  | .resolve error found => .resolve error found.resolved

/-- What a command finds, with the results of the files. -/
structure BonjourResults where
  transportList : List Transport
  certificate : Bool := false
  refused : List Transport := []
  results : Nat → List BonjourResult := fun _ => []

def BonjourResults.system (found : BonjourResults) : BonjourSystem where
  transportList := found.transportList
  certificate := found.certificate
  refused := found.refused
  callbacks id := (found.results id).map BonjourResult.callback

structure NeighbourTable where
  services : BonjourServices := {}
  /-- `_neighbours` -/
  neighbours : List (ServiceDescription × NeighbourRecord) := []
  /-- The notifications about neighbours. -/
  posted : List NeighbourNotification := []
  /-- The transports of `BonjourAccountRegistrationDidEnd` in the last step. -/
  ended : List Transport := []
  /-- The transports of the registrations that the last step has closed. -/
  closed : List Transport := []

namespace NeighbourTable

/-! ### Neighbours -/

def removeNeighbour (table : NeighbourTable) (service : ServiceDescription) : NeighbourTable :=
  match table.neighbours.find? (·.1 = service) with
  | none => table
  | some entry =>
      { table with
        neighbours := table.neighbours.filter fun other => other.1 ≠ service
        posted := table.posted ++ [.didRemove service entry.2] }

def setNeighbour (table : NeighbourTable) (service : ServiceDescription) (record : NeighbourRecord) : NeighbourTable :=
  { table with
    neighbours := (table.neighbours.filter fun other => other.1 ≠ service) ++ [(service, record)]
    posted := table.posted ++
      [if table.neighbours.any (·.1 = service) then .didUpdate service record else .didAdd service record] }

/-! ### Callbacks -/

def browseCb (table : NeighbourTable) (file : BonjourFile) (error : Bool) (service : ServiceDescription)
    (add refused : Bool) : NeighbourTable :=
  let next := { table with services := table.services.browseCb file error service add refused }
  if error = false ∧ service.domain = "local." ∧ add = false ∧ table.services.files.any (·.resolves file.id service) then
    next.removeNeighbour service
  else next

def resolveCb (table : NeighbourTable) (system : BonjourSystem) (file : BonjourFile) (service : ServiceDescription)
    (error : Bool) (found : FoundRecord) : NeighbourTable :=
  let next := { table with services := table.services.resolveCb system file service error found.resolved }
  if error then next
  else
    match found with
    | .malformed => next
    | .record record own noContact =>
        if record.transport ∉ system.supportedTransports then next.removeNeighbour service
        else if noContact ∨ own then next
        else next.setNeighbour service record

def callback (system : BonjourSystem) (file : BonjourFile) (table : NeighbourTable) : BonjourResult → NeighbourTable
  | .register error =>
      if file.isRegistration then { table with services := table.services.registerCb file error } else table
  | .browse error service add refused =>
      if file.isDiscovery then table.browseCb file error service add refused else table
  | .resolve error found =>
      match file with
      | .resolution _ _ _ service => table.resolveCb system file service error found
      | _ => table

/-! ### Commands -/

def chDiscover (table : NeighbourTable) (system : BonjourSystem) : NeighbourTable :=
  { table with
    services := table.services.chDiscover system
    neighbours := table.neighbours.filter fun entry => entry.2.transport ∈ system.supportedTransports
    posted := table.posted ++
      (table.neighbours.filter fun entry => entry.2.transport ∉ system.supportedTransports).map fun entry =>
        .didRemove entry.1 entry.2 }

/-- The transports are those of the files that are left. -/
def chUnregister (table : NeighbourTable) : NeighbourTable :=
  { table with
    services := table.services.chUnregister
    ended := (table.services.files.filter fun file => !file.isRegistration).map BonjourFile.transport }

/-- The transports are those of all files. -/
def chStop (table : NeighbourTable) (caller : Nat) : NeighbourTable :=
  { table with
    services := table.services.chStop caller
    neighbours := []
    posted := table.posted ++ table.neighbours.map fun entry => .didRemove entry.1 entry.2
    ended := table.services.files.map BonjourFile.transport }

def processFile (found : BonjourResults) (table : NeighbourTable) (id : Nat) : NeighbourTable :=
  match table.services.files.find? (·.id = id) with
  | none => table
  | some file => (found.results id).foldl (callback found.system file) table

def handler (table : NeighbourTable) (found : BonjourResults) : BonjourCommand → NeighbourTable
  | .unregister => table.chUnregister
  | .discover => table.chDiscover found.system
  | .processResults files => files.foldl (processFile found) table
  | .stop caller => table.chStop caller
  | command => { table with services := table.services.handler found.system command }

def handleCommand (table : NeighbourTable) (found : BonjourResults) : NeighbourTable :=
  if table.services.loops = 0 then table
  else
    match table.services.commandChannel with
    | [] => table
    | .exit :: _ => { table with services := table.services.handleCommand found.system }
    | command :: commands =>
        let next := { table with services := { table.services with commandChannel := commands } }
        if table.services.started then next.handler found command else next

/-! ### Runs -/

/-- The loop takes a command, or something else happens. -/
inductive Input where
  | handleCommand (found : BonjourResults)
  | other (input : BonjourServices.Input) (hother : ∀ system, input ≠ .handleCommand system)

def Input.input : Input → BonjourServices.Input
  | .handleCommand found => .handleCommand found.system
  | .other input _ => input

/-- The transports of the registrations that are not open any more. -/
def closedRegistrations (before after : BonjourServices) : List Transport :=
  (before.files.filter fun file => file.isRegistration && file ∉ after.files).map BonjourFile.transport

def handle (table : NeighbourTable) : Input → NeighbourTable
  | .handleCommand found => table.handleCommand found
  | .other input _ => { table with services := table.services.step input }

def step (table : NeighbourTable) (input : Input) : NeighbourTable :=
  let next := handle { table with ended := [] } input
  { next with closed := closedRegistrations table.services next.services }

/-! ### The services -/

variable {table : NeighbourTable}

@[simp] theorem services_removeNeighbour (service : ServiceDescription) :
    (table.removeNeighbour service).services = table.services := by
  rw [removeNeighbour]
  split <;> rfl

theorem services_browseCb (file : BonjourFile) (error : Bool) (service : ServiceDescription) (add refused : Bool) :
    (table.browseCb file error service add refused).services =
      table.services.browseCb file error service add refused := by
  rw [browseCb]
  split_ifs
  · rw [services_removeNeighbour]
  · rfl

theorem services_resolveCb (system : BonjourSystem) (file : BonjourFile) (service : ServiceDescription) (error : Bool)
    (found : FoundRecord) :
    (table.resolveCb system file service error found).services =
      table.services.resolveCb system file service error found.resolved := by
  cases found with
  | malformed => cases error <;> rfl
  | record neighbour own noContact =>
      cases error with
      | true => rfl
      | false =>
          rw [resolveCb.eq_def]
          simp only [Bool.false_eq_true, if_false]
          split_ifs
          · rfl
          · rfl
          · exact services_removeNeighbour service

theorem services_callback (system : BonjourSystem) (file : BonjourFile) (result : BonjourResult) :
    (table.callback system file result).services = BonjourServices.callback system file table.services result.callback := by
  cases result with
  | register error => rw [callback]; dsimp only [BonjourResult.callback, BonjourServices.callback]; split_ifs <;> rfl
  | browse error service add refused =>
      rw [callback]
      dsimp only [BonjourResult.callback, BonjourServices.callback]
      split_ifs
      · exact services_browseCb file error service add refused
      · rfl
  | resolve error found =>
      cases file with
      | resolution id parent transport service => exact services_resolveCb system _ service error found
      | _ => rfl

end NeighbourTable

end SipSimple.Account
