import SipSimple.Configuration.SettingsObject
import SipSimple.Library.Runs

/-!
# AccountManager

The accounts in memory, the manager's map of them and the default account of `account/__init__.py`. An account is
a `SettingsObject`: what is changed in memory is stored, and the manager is told, when it is saved. The default is
the ID that `SIPSimpleSettings` holds, looked up in the map. Of the settings of an account only `enabled` is
looked at; of the others it matters whether one was changed. Which account a dictionary yields first is input.
-/

namespace SipSimple.Account

open SipSimple.Configuration (Unicode ObjectState)
open SortedDict (Dict)

def bonjourId : Unicode := "bonjour@local".toList

/-- An `Account`, or the `BonjourAccount` with its fixed ID. A setting without a value has its default. -/
structure AccountObject where
  isBonjour : Bool := false
  id : Unicode
  oldId : Unicode
  enabled : Option Bool
  oldEnabled : Option Bool
  /-- Another setting was changed. -/
  modified : Bool := false
  state : ObjectState
  deriving DecidableEq

namespace AccountObject

/-- The default of `enabled` is false for `Account` and true for `BonjourAccount`. -/
def isEnabled (self : AccountObject) : Bool := self.enabled.getD self.isBonjour

/-- As of the last save. -/
def wasEnabled (self : AccountObject) : Bool := self.oldEnabled.getD self.isBonjour

/-- The ID is among the current and the old one. -/
def Has (self : AccountObject) (id : Unicode) : Prop := self.id = id ∨ self.oldId = id

instance (self : AccountObject) (id : Unicode) : Decidable (self.Has id) :=
  inferInstanceAs (Decidable (_ ∨ _))

/-- The ID or `enabled` was changed. -/
def unsaved (self : AccountObject) : Bool := self.id ≠ self.oldId || self.enabled ≠ self.oldEnabled

/-- `get_modified` makes the values the old ones. -/
def synced (self : AccountObject) : AccountObject :=
  { self with oldId := self.id, oldEnabled := self.enabled, modified := false }

end AccountObject

structure AccountManager where
  /-- The objects in memory by their numbers. -/
  objects : Dict Nat AccountObject := .empty
  accounts : Dict Unicode Nat := .empty
  /-- `SIPSimpleSettings().default_account` -/
  defaultId : Option Unicode
  /-- What the configuration has of the accounts: the value of `enabled`, if there is one. -/
  stored : Dict Unicode (Option Bool)

/-- What a program does with the accounts. -/
inductive AccountOperation where
  | create (n : Nat) (id : Unicode)
  | setId (n : Nat) (id : Unicode)
  /-- `none` is `DefaultValue`. -/
  | setEnabled (n : Nat) (enabled : Option Bool)
  | change (n : Nat)
  /-- With the enabled account that comes first in the dictionary. -/
  | save (n : Nat) (first : Nat)
  | delete (n : Nat)
  | collect (n : Nat)
  | setDefault (account : Option Nat)

namespace AccountManager

/-- An `Account` has the ID. -/
def Used (self : AccountManager) (id : Unicode) : Prop :=
  ∃ entry ∈ self.objects.items, entry.2.isBonjour = false ∧ entry.2.Has id

instance (self : AccountManager) (id : Unicode) : Decidable (self.Used id) :=
  inferInstanceAs (Decidable (∃ entry ∈ _, _))

/-- `_get_default_account` -/
def defaultAccount (self : AccountManager) : Option Nat := self.defaultId.bind self.accounts.get

/-- `_set_default_account`; an account that is not enabled raises `ValueError`. -/
def setDefaultAccount (self : AccountManager) : Option Nat → AccountManager
  | none => if self.defaultAccount = none then self else { self with defaultId := none }
  | some n =>
      match self.objects.get n with
      | none => self
      | some account =>
          if account.isEnabled = false ∨ self.defaultAccount = some n then self
          else { self with defaultId := some account.id }

/-- The enabled accounts of the map. -/
def enabledAccounts (self : AccountManager) : List Nat :=
  (self.accounts.items.map Prod.snd).filter fun n => (self.objects.get n).any (·.isEnabled)

/-- The first of them, in whatever order. -/
def firstEnabled (self : AccountManager) (first : Nat) : Option Nat :=
  if first ∈ self.enabledAccounts then some first else self.enabledAccounts.head?

/-! ### The notifications of the configuration -/

/-- `_NH_CFGSettingsObjectWasActivated` -/
def wasActivated (self : AccountManager) (n : Nat) (account : AccountObject) : AccountManager :=
  { self with accounts := self.accounts.set account.id n }

/-- `_NH_CFGSettingsObjectWasCreated` -/
def wasCreated (self : AccountManager) (n : Nat) (account : AccountObject) : AccountManager :=
  if account.isEnabled ∧ self.defaultAccount = none then self.setDefaultAccount (some n) else self

/-- `_NH_CFGSettingsObjectWasDeleted`; without the entry it raises `KeyError`. -/
def wasDeleted (self : AccountManager) (account : AccountObject) : AccountManager :=
  { self with accounts := self.accounts.erase account.id }

/-- The part of `_NH_CFGSettingsObjectDidChange` that looks at `enabled`. -/
def enabledDidChange (self : AccountManager) (n : Nat) (account : AccountObject) (first : Nat) :
    AccountManager :=
  if account.enabled = account.oldEnabled then self
  else if account.isEnabled ∧ self.defaultAccount = none then self.setDefaultAccount (some n)
  else if account.isEnabled = false ∧ self.defaultAccount = some n then
    self.setDefaultAccount (self.firstEnabled first)
  else self

/-- `_NH_CFGSettingsObjectDidChange` with the account as it was before the save; without the old entry it raises
`KeyError`. -/
def didChange (self : AccountManager) (n : Nat) (account : AccountObject) (first : Nat) : AccountManager :=
  if account.id = account.oldId then self.enabledDidChange n account first
  else
    match self.accounts.get account.oldId with
    | none => self
    | some m =>
        { self with accounts := (self.accounts.erase account.oldId).set account.id m }.enabledDidChange n
          account first

/-! ### The accounts -/

def put (self : AccountManager) (n : Nat) (account : AccountObject) : AccountManager :=
  { self with objects := self.objects.set n account }

/-- What is done with the account, if it is in memory. -/
def on (self : AccountManager) (n : Nat) (f : AccountObject → AccountManager) : AccountManager :=
  match self.objects.get n with
  | some account => f account
  | none => self

/-- `Account(id)`: an ID that is taken raises `DuplicateIDError`, and one that is stored is activated. -/
def create (self : AccountManager) (n : Nat) (id : Unicode) : AccountManager :=
  if (self.objects.get n).isSome ∨ id = [] ∨ self.Used id then self
  else
    match self.stored.get id with
    | none => self.put n { id, oldId := id, enabled := none, oldEnabled := none, state := .new }
    | some enabled =>
        let account : AccountObject := { id, oldId := id, enabled, oldEnabled := enabled, state := .active }
        (self.put n account).wasActivated n account

/-- `SettingsObjectID.__set__`; the ID of the `BonjourAccount` cannot be set. -/
def setId (self : AccountManager) (n : Nat) (account : AccountObject) (id : Unicode) : AccountManager :=
  if account.isBonjour ∨ account.id = id then self
  else if account.oldId ≠ id ∧ self.Used id then self
  else self.put n { account with id }

/-- `SettingsObject.save` -/
def save (self : AccountManager) (n : Nat) (account : AccountObject) (first : Nat) : AccountManager :=
  if account.state = .deleted then self
  else if account.state = .new then
    let saved := { account.synced with state := .active }
    let manager := { self.put n saved with stored := self.stored.set account.id account.enabled }
    (manager.wasActivated n saved).wasCreated n saved
  else if account.unsaved then
    let manager := self.put n account.synced
    { manager with
      stored := (self.stored.erase account.oldId).set account.id account.enabled }.didChange n account first
  else self.put n account.synced

/-- `SettingsObject.delete`; the `BonjourAccount` raises `TypeError`. -/
def delete (self : AccountManager) (n : Nat) (account : AccountObject) : AccountManager :=
  if account.isBonjour ∨ account.state = .deleted then self
  else
    let manager := { self.put n { account with state := .deleted } with
      stored := self.stored.erase account.oldId }
    -- The manager observes an account from its activation on.
    if account.state = .active then manager.wasDeleted account else manager

/-- An object that nothing refers to leaves the memory. -/
def collect (self : AccountManager) (n : Nat) (account : AccountObject) : AccountManager :=
  if account.state = .active ∨ n ∈ self.accounts.items.map Prod.snd then self
  else { self with objects := self.objects.erase n }

def step (self : AccountManager) : AccountOperation → AccountManager
  | .create n id => self.create n id
  | .setId n id => self.on n fun account => self.setId n account id
  | .setEnabled n enabled => self.on n fun account => self.put n { account with enabled }
  | .change n => self.on n fun account => self.put n { account with modified := true }
  | .save n first => self.on n fun account => self.save n account first
  | .delete n => self.on n fun account => self.delete n account
  | .collect n => self.on n fun account => self.collect n account
  | .setDefault account => self.setDefaultAccount account

/-- The `BonjourAccount` and the stored accounts; without mDNS the manager has no `BonjourAccount`. -/
def loadAccounts (available : Bool) (stored : Dict Unicode (Option Bool)) (defaultId : Option Unicode) :
    AccountManager :=
  let manager : AccountManager := { defaultId, stored }
  let enabled := (stored.get bonjourId).join
  let bonjour : AccountObject :=
    { isBonjour := true, id := bonjourId, oldId := bonjourId, enabled, oldEnabled := enabled
      state := .active }
  let manager := if available then (manager.put 0 bonjour).wasActivated 0 bonjour else manager
  ((stored.keys.filter (· ≠ bonjourId)).zipIdx 1).foldl (fun manager name => manager.create name.2 name.1) manager

/-- `AccountManager.load` -/
def load (available : Bool) (stored : Dict Unicode (Option Bool)) (defaultId : Option Unicode) (first : Nat) :
    AccountManager :=
  let manager := loadAccounts available stored defaultId
  if (manager.defaultAccount.bind manager.objects.get).any (·.isEnabled) then manager
  else manager.setDefaultAccount (manager.firstEnabled first)

end AccountManager

end SipSimple.Account
