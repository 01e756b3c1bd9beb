import SipSimple.Account.Accounts

/-!
# The default account

The map of the manager has the accounts that are stored, under their IDs as of the last save. The default is kept
as an ID, and nothing follows an account that is renamed or deleted: then the ID leads nowhere, until an account
takes it.
-/

namespace SipSimple.Account

open SipSimple.Configuration (Unicode ObjectState)
open SortedDict (Dict)

namespace AccountManager

variable {self : AccountManager} {n m : Nat} {account other changed : AccountObject} {id : Unicode}

/-! ### What holds between the operations -/

/-- The account is stored under the ID and not deleted. -/
def Active (manager : AccountManager) (id : Unicode) (n : Nat) : Prop :=
  ∃ account, manager.objects.get n = some account ∧ account.state = .active ∧ account.oldId = id

/-- The links between the objects, the map and the configuration. -/
structure Links (manager : AccountManager) : Prop where
  /-- No ID is of two objects. -/
  apart : ∀ {n m account other id}, manager.objects.get n = some account → manager.objects.get m = some other →
    account.Has id → other.Has id → n = m
  /-- The `BonjourAccount` has its ID, and no other account has it. -/
  bonjour : ∀ {n account}, manager.objects.get n = some account → ∀ id, account.Has id →
    (account.isBonjour ↔ id = bonjourId)
  /-- The map has the active accounts under their IDs. -/
  accounts : ∀ id n, manager.accounts.get id = some n ↔ manager.Active id n

/-- What is stored is in memory. -/
def Stored (manager : AccountManager) : Prop :=
  ∀ id, id ≠ bonjourId → id ≠ [] → manager.stored.get id ≠ none → ∃ n, manager.Active id n

/-- The default is enabled, as of its last save. -/
def DefaultEnabled (manager : AccountManager) : Prop :=
  ∀ n account, manager.defaultAccount = some n → manager.objects.get n = some account → account.wasEnabled

theorem get_put (self : AccountManager) (n m : Nat) (account : AccountObject) :
    (self.put n account).objects.get m = if m = n then some account else self.objects.get m :=
  SortedDict.Dict.get_set self.objects m n account

theorem get_put_self (self : AccountManager) (n : Nat) (account : AccountObject) :
    (self.put n account).objects.get n = some account := by
  rw [get_put, if_pos rfl]

theorem get_put_of_ne (self : AccountManager) (account : AccountObject) (hne : m ≠ n) :
    (self.put n account).objects.get m = self.objects.get m := by
  rw [get_put, if_neg hne]

/-- An ID that no other object has. -/
def Own (manager : AccountManager) (n : Nat) (id : Unicode) : Prop :=
  ∀ m other, manager.objects.get m = some other → other.Has id → m = n

theorem Links.own (h : self.Links) (hget : self.objects.get n = some account) (hid : account.Has id) :
    self.Own n id :=
  fun _ _ hother hhas => h.apart hother hget hhas hid

theorem own_of_not_used (h : self.Links) (hunused : ¬ self.Used id) (hbonjour : id ≠ bonjourId) :
    self.Own n id := by
  intro m other hget hhas
  refine absurd ⟨(m, other), SortedDict.Dict.get_eq_some.mp hget, ?_, hhas⟩ hunused
  by_contra htrue
  have hisBonjour : other.isBonjour := by simpa using htrue
  exact hbonjour ((h.bonjour hget id hhas).mp hisBonjour)

/-- The links of the objects after one is put in, whatever the map is. -/
theorem Links.put (h : self.Links) (hown : ∀ id, changed.Has id → self.Own n id)
    (hbonjour : ∀ id, changed.Has id → (changed.isBonjour ↔ id = bonjourId)) {manager : AccountManager}
    (hobjects : manager.objects = (self.put n changed).objects)
    (haccounts : ∀ id n, manager.accounts.get id = some n ↔ manager.Active id n) : manager.Links := by
  refine ⟨?_, ?_, haccounts⟩
  · intro k l first second id hfirst hsecond hhas hhas'
    rw [hobjects, get_put] at hfirst hsecond
    split at hfirst
    next hk =>
      cases hfirst
      split at hsecond
      next hl => exact hk.trans hl.symm
      next => exact hk.trans (hown id hhas l second hsecond hhas').symm
    next =>
      split at hsecond
      next hl =>
        cases hsecond
        exact (hown id hhas' k first hfirst hhas).trans hl.symm
      next => exact h.apart hfirst hsecond hhas hhas'
  · intro k first hfirst id hhas
    rw [hobjects, get_put] at hfirst
    split at hfirst
    next =>
      cases hfirst
      exact hbonjour id hhas
    next => exact h.bonjour hfirst id hhas

/-- Who is active after an object is put in. -/
theorem active_of_put {manager : AccountManager} (hobjects : manager.objects = (self.put n changed).objects)
    (id : Unicode) (m : Nat) : manager.Active id m ↔
      if m = n then changed.state = .active ∧ changed.oldId = id else self.Active id m := by
  unfold Active
  rw [hobjects, get_put]
  split
  · constructor
    · rintro ⟨_, ⟨rfl⟩, hactive⟩
      exact hactive
    · exact fun hactive => ⟨changed, rfl, hactive⟩
  · rfl

theorem Active.has (h : self.Active id n) : ∃ account, self.objects.get n = some account ∧ account.Has id := by
  obtain ⟨account, hget, _, hold⟩ := h
  exact ⟨account, hget, .inr hold⟩

theorem Active.eq_of_own (h : self.Active id m) (hown : self.Own n id) : m = n := by
  obtain ⟨account, hget, hhas⟩ := h.has
  exact hown m account hget hhas

/-- The default is an active account. -/
theorem Links.active_default (h : self.Links) (hdefault : self.defaultAccount = some n) :
    ∃ id, self.defaultId = some id ∧ self.Active id n := by
  obtain ⟨id, hid, hget⟩ := Option.bind_eq_some_iff.mp hdefault
  exact ⟨id, hid, (h.accounts id n).mp hget⟩

theorem Links.default_of_active (h : self.Links) (hid : self.defaultId = some id) (hactive : self.Active id n) :
    self.defaultAccount = some n := by
  rw [defaultAccount, hid]
  exact (h.accounts id n).mpr hactive

/-! ### Assigning the default -/

theorem setDefaultAccount_eq (self : AccountManager) (account : Option Nat) :
    ∃ defaultId, self.setDefaultAccount account = { self with defaultId } := by
  unfold setDefaultAccount
  split
  · split <;> exact ⟨_, rfl⟩
  · split
    · exact ⟨_, rfl⟩
    · split <;> exact ⟨_, rfl⟩

theorem Links.setDefaultAccount (h : self.Links) (account : Option Nat) :
    (self.setDefaultAccount account).Links := by
  obtain ⟨defaultId, heq⟩ := setDefaultAccount_eq self account
  rw [heq]
  exact ⟨h.apart, h.bonjour, h.accounts⟩

theorem Stored.setDefaultAccount (h : self.Stored) (account : Option Nat) :
    (self.setDefaultAccount account).Stored := by
  obtain ⟨defaultId, heq⟩ := setDefaultAccount_eq self account
  rw [heq]
  exact h

theorem defaultAccount_setDefaultAccount_none (self : AccountManager) :
    (self.setDefaultAccount none).defaultAccount = none := by
  unfold AccountManager.setDefaultAccount
  dsimp only
  split
  next hnone => exact hnone
  next => rfl

/-- An enabled account that is in the map under its ID becomes the default. -/
theorem defaultAccount_setDefaultAccount (hget : self.objects.get n = some account)
    (henabled : account.isEnabled) (hmap : self.accounts.get account.id = some n) :
    (self.setDefaultAccount (some n)).defaultAccount = some n := by
  unfold AccountManager.setDefaultAccount
  simp only [hget]
  split
  next hsame => exact hsame.resolve_left (by simp [henabled])
  next => exact hmap

theorem DefaultEnabled.setDefaultAccount_none : (self.setDefaultAccount none).DefaultEnabled := by
  intro n account hdefault
  rw [defaultAccount_setDefaultAccount_none] at hdefault
  cases hdefault

/-- An account without unsaved changes is a good default. -/
theorem DefaultEnabled.setDefaultAccount (h : self.DefaultEnabled) (hlinks : self.Links)
    (hsaved : ∀ account, self.objects.get n = some account → account.unsaved = false) :
    (self.setDefaultAccount (some n)).DefaultEnabled := by
  unfold AccountManager.setDefaultAccount
  dsimp only
  split
  next => exact h
  next account hget =>
    split
    next => exact h
    next hset =>
      obtain ⟨hid, henabled⟩ : account.id = account.oldId ∧ account.enabled = account.oldEnabled := by
        simpa [AccountObject.unsaved] using hsaved account hget
      intro m other hdefault hother
      have hactive : self.Active account.id m := (hlinks.accounts account.id m).mp hdefault
      obtain rfl : m = n := hactive.eq_of_own (hlinks.own hget (.inl rfl))
      have hsame : other = account := Option.some.inj (hother.symm.trans hget)
      have hisEnabled : account.isEnabled := by
        by_contra hnot
        exact hset (.inl (by simpa using hnot))
      rw [hsame, AccountObject.wasEnabled, ← henabled]
      exact hisEnabled

/-! ### Changes in memory -/

structure Sound (manager : AccountManager) : Prop where
  links : manager.Links
  stored : manager.Stored
  default : manager.DefaultEnabled

theorem active_edit (hget : self.objects.get n = some account) (hstate : changed.state = account.state)
    (hold : changed.oldId = account.oldId) (id : Unicode) (m : Nat) :
    (self.put n changed).Active id m ↔ self.Active id m := by
  rw [active_of_put rfl]
  split
  next heq =>
    rw [heq, hstate, hold]
    exact ⟨fun h => ⟨account, hget, h⟩, fun ⟨found, hfound, h⟩ => Option.some.inj (hget.symm.trans hfound) ▸ h⟩
  next => rfl

/-- A change that leaves what was saved as it was. -/
theorem Sound.edit (h : self.Sound) (hget : self.objects.get n = some account)
    (hstate : changed.state = account.state) (hold : changed.oldId = account.oldId)
    (henabled : changed.oldEnabled = account.oldEnabled) (hkind : changed.isBonjour = account.isBonjour)
    (hown : ∀ id, changed.Has id → self.Own n id)
    (hbonjour : ∀ id, changed.Has id → (changed.isBonjour ↔ id = bonjourId)) : (self.put n changed).Sound := by
  have hactive := active_edit hget hstate hold
  refine ⟨?_, ?_, ?_⟩
  · apply h.links.put hown hbonjour rfl
    intro id m
    rw [hactive]
    exact h.links.accounts id m
  · intro id hne hnil hstored
    obtain ⟨m, hm⟩ := h.stored id hne hnil hstored
    exact ⟨m, (hactive id m).mpr hm⟩
  · intro m found hdefault hfound
    rw [get_put] at hfound
    split at hfound
    next heq =>
      cases hfound
      have hwas := h.default m account hdefault (heq ▸ hget)
      rw [AccountObject.wasEnabled, henabled, hkind]
      exact hwas
    next => exact h.default m found hdefault hfound

/-- Whatever is not an ID can be changed. -/
theorem Sound.edit_value (h : self.Sound) (hget : self.objects.get n = some account)
    (hid : changed.id = account.id) (hstate : changed.state = account.state)
    (hold : changed.oldId = account.oldId) (henabled : changed.oldEnabled = account.oldEnabled)
    (hkind : changed.isBonjour = account.isBonjour) : (self.put n changed).Sound := by
  have hhas : ∀ id, changed.Has id → account.Has id := by
    intro id hid'
    rw [AccountObject.Has, hid, hold] at hid'
    exact hid'
  apply h.edit hget hstate hold henabled hkind
  · exact fun id hid' => h.links.own hget (hhas id hid')
  · intro id hid'
    rw [hkind]
    exact h.links.bonjour hget id (hhas id hid')

theorem Sound.setId (h : self.Sound) (hget : self.objects.get n = some account) (hid : id ≠ bonjourId) :
    (self.setId n account id).Sound := by
  unfold AccountManager.setId
  split
  next => exact h
  next hnot =>
    obtain ⟨hkind, _⟩ := not_or.mp hnot
    split
    next => exact h
    next hfree =>
      have hhas : ∀ id', AccountObject.Has { account with id } id' → id' = id ∨ account.Has id' := by
        rintro id' (rfl | hold)
        · exact .inl rfl
        · exact .inr (.inr hold)
      apply h.edit hget
      · rfl
      · rfl
      · rfl
      · rfl
      · intro id' hid'
        rcases hhas id' hid' with rfl | hhas
        · by_cases hold : account.oldId = id'
          · exact h.links.own hget (.inr hold)
          · exact own_of_not_used h.links (fun hused => hfree ⟨hold, hused⟩) hid
        · exact h.links.own hget hhas
      · intro id' hid'
        rcases hhas id' hid' with rfl | hhas
        · exact iff_of_false hkind hid
        · exact h.links.bonjour hget id' hhas

theorem Sound.collect (h : self.Sound) (hget : self.objects.get n = some account) :
    (self.collect n account).Sound := by
  unfold AccountManager.collect
  split
  next => exact h
  next hnot =>
    obtain ⟨hinactive, _⟩ := not_or.mp hnot
    have herased : ∀ m, (self.objects.erase n).get m = if m = n then none else self.objects.get m :=
      fun m => SortedDict.Dict.get_erase self.objects m n
    have hless : ∀ {m found}, (self.objects.erase n).get m = some found → self.objects.get m = some found := by
      intro m found hfound
      rw [herased] at hfound
      split at hfound
      · cases hfound
      · exact hfound
    have hactive : ∀ id m, AccountManager.Active { self with objects := self.objects.erase n } id m ↔
        self.Active id m := by
      intro id m
      constructor
      · rintro ⟨found, hfound, hrest⟩
        exact ⟨found, hless hfound, hrest⟩
      · rintro ⟨found, hfound, hstate, hold⟩
        refine ⟨found, ?_, hstate, hold⟩
        show (self.objects.erase n).get m = some found
        rw [herased, if_neg, hfound]
        rintro rfl
        have hsame : account = found := Option.some.inj (hget.symm.trans hfound)
        exact hinactive (hsame ▸ hstate)
    refine ⟨⟨?_, ?_, ?_⟩, ?_, ?_⟩
    · intro k l first second id hfirst hsecond
      exact h.links.apart (hless hfirst) (hless hsecond)
    · intro k first hfirst
      exact h.links.bonjour (hless hfirst)
    · intro id m
      rw [hactive]
      exact h.links.accounts id m
    · intro id hne hnil hstored
      obtain ⟨m, hm⟩ := h.stored id hne hnil hstored
      exact ⟨m, (hactive id m).mpr hm⟩
    · intro m found hdefault hfound
      exact h.default m found hdefault (hless hfound)

/-! ### The map -/

/-- An object is put in as an active one, and in the map under its ID only. -/
theorem Links.activate (h : self.Links) (hown : ∀ id, changed.Has id → self.Own n id)
    (hbonjour : ∀ id, changed.Has id → (changed.isBonjour ↔ id = bonjourId)) (hstate : changed.state = .active)
    (hold : changed.oldId = changed.id) {manager : AccountManager}
    (hobjects : manager.objects = (self.put n changed).objects)
    (hself : ∀ id, manager.accounts.get id = some n ↔ id = changed.id)
    (hother : ∀ id m, m ≠ n →
      (manager.accounts.get id = some m ↔ id ≠ changed.id ∧ self.accounts.get id = some m)) :
    manager.Links := by
  apply h.put hown hbonjour hobjects
  intro id m
  rw [active_of_put hobjects]
  split
  next heq =>
    rw [heq, hself, hold]
    exact ⟨fun hid => ⟨hstate, hid.symm⟩, fun hid => hid.2.symm⟩
  next hne =>
    rw [hother id m hne, h.accounts]
    refine ⟨And.right, fun hactive => ⟨?_, hactive⟩⟩
    rintro rfl
    exact hne (hactive.eq_of_own (hown changed.id (.inl rfl)))

/-- The entry of an account that had none. -/
theorem get_set_inactive (h : self.Links) (hinactive : ∀ id, ¬ self.Active id n) (id id' : Unicode) :
    ((self.accounts.set id n).get id' = some n ↔ id' = id) ∧
      ∀ m, m ≠ n → ((self.accounts.set id n).get id' = some m ↔
        id' ≠ id ∧ self.accounts.get id' = some m) := by
  rw [SortedDict.Dict.get_set]
  split
  next heq => simp [heq, eq_comm]
  next hne =>
    refine ⟨⟨fun hget => absurd ((h.accounts id' n).mp hget) (hinactive id'), fun heq => absurd heq hne⟩, ?_⟩
    exact fun m _ => ⟨fun hget => ⟨hne, hget⟩, And.right⟩

/-- The entry of an account that is renamed. -/
theorem get_set_renamed (h : self.Links) (hactive : self.Active account.oldId n) (hne : account.id ≠ account.oldId)
    (id' : Unicode) :
    (((self.accounts.erase account.oldId).set account.id n).get id' = some n ↔ id' = account.id) ∧
      ∀ m, m ≠ n → (((self.accounts.erase account.oldId).set account.id n).get id' = some m ↔
        id' ≠ account.id ∧ self.accounts.get id' = some m) := by
  have hmap := (h.accounts account.oldId n).mpr hactive
  rw [SortedDict.Dict.get_set, SortedDict.Dict.get_erase]
  split
  next heq => simp [heq, eq_comm]
  next hnot =>
    split
    next heq =>
      rw [heq, hmap]
      refine ⟨⟨nofun, fun hid => absurd hid.symm hne⟩, fun m hm => ⟨nofun, fun hget => ?_⟩⟩
      exact absurd (Option.some.inj hget.2).symm hm
    next hold =>
      refine ⟨⟨fun hget => ?_, fun heq => absurd heq hnot⟩, fun m _ => ⟨fun hget => ⟨hnot, hget⟩, And.right⟩⟩
      obtain ⟨first, hfirst, _, hid⟩ := (h.accounts id' n).mp hget
      obtain ⟨second, hsecond, _, hid'⟩ := hactive
      have hsame : first = second := Option.some.inj (hfirst.symm.trans hsecond)
      exact absurd (hid.symm.trans (hsame ▸ hid')) hold

theorem Links.create (h : self.Links) (hid : id ≠ bonjourId) : (self.create n id).Links := by
  unfold AccountManager.create
  split
  next => exact h
  next hnot =>
    obtain ⟨hfree, hnot⟩ := not_or.mp hnot
    obtain ⟨_, hunused⟩ := not_or.mp hnot
    have hnone : self.objects.get n = none := by simpa using hfree
    have hinactive : ∀ id, ¬ self.Active id n := by
      rintro id ⟨found, hfound, _⟩
      rw [hnone] at hfound
      cases hfound
    split
    next =>
      refine h.put ?_ ?_ rfl ?_
      · rintro id' (rfl | rfl) <;> exact own_of_not_used h hunused hid
      · rintro id' (rfl | rfl) <;> exact iff_of_false nofun hid
      · intro id' m
        rw [active_of_put rfl]
        split
        next heq =>
          rw [heq]
          exact ⟨fun hget => absurd ((h.accounts id' n).mp hget) (hinactive id'), nofun⟩
        next => exact h.accounts id' m
    next enabled hstored =>
      refine h.activate ?_ ?_ rfl rfl rfl ?_ ?_
      · rintro id' (rfl | rfl) <;> exact own_of_not_used h hunused hid
      · rintro id' (rfl | rfl) <;> exact iff_of_false nofun hid
      · exact fun id' => (get_set_inactive h hinactive id id').1
      · exact fun id' => (get_set_inactive h hinactive id id').2

/-- Where the other objects and the default's ID stay, the default stays good if it is another object. -/
theorem default_of_others (h : self.Sound) {manager : AccountManager}
    (hobjects : ∀ m, m ≠ n → manager.objects.get m = self.objects.get m)
    (hdefault : ∀ m, m ≠ n → manager.defaultAccount = some m → self.defaultAccount = some m)
    (hown : ∀ found, manager.defaultAccount = some n → manager.objects.get n = some found → found.wasEnabled) :
    manager.DefaultEnabled := by
  intro m found hm hfound
  by_cases heq : m = n
  · rw [heq] at hm hfound
    exact hown found hm hfound
  · rw [hobjects m heq] at hfound
    exact h.default m found (hdefault m heq hm) hfound

theorem Sound.create (h : self.Sound) (hid : id ≠ bonjourId) : (self.create n id).Sound := by
  have hlinks := h.links.create (n := n) hid
  unfold AccountManager.create at hlinks ⊢
  split at hlinks
  next hskip =>
    rw [if_pos hskip]
    exact h
  next hnot =>
    rw [if_neg hnot]
    obtain ⟨hfree, hnot⟩ := not_or.mp hnot
    obtain ⟨hnil, hunused⟩ := not_or.mp hnot
    have hnone : self.objects.get n = none := by simpa using hfree
    -- What is stored is in memory, so that a free ID is not stored.
    have hunstored : self.stored.get id = none := by
      by_contra hstored
      obtain ⟨m, hactive⟩ := h.stored id hid hnil hstored
      obtain ⟨found, hfound, hhas⟩ := hactive.has
      have hsame : m = n := own_of_not_used h.links hunused hid m found hfound hhas
      rw [hsame, hnone] at hfound
      cases hfound
    simp only [hunstored] at hlinks ⊢
    refine ⟨hlinks, ?_, ?_⟩
    · intro id' hne hnil' hstored
      obtain ⟨m, hactive⟩ := h.stored id' hne hnil' hstored
      refine ⟨m, (active_of_put rfl id' m).mpr ?_⟩
      split
      next heq =>
        obtain ⟨found, hfound, _⟩ := hactive
        rw [heq, hnone] at hfound
        cases hfound
      next => exact hactive
    · apply default_of_others (n := n) h
      · exact fun m hne => get_put_of_ne self _ hne
      · exact fun _ _ hdefault => hdefault
      · intro found hdefault _
        obtain ⟨_, _, second, hsecond, _⟩ := h.links.active_default hdefault
        rw [hnone] at hsecond
        cases hsecond

/-! ### The condition -/

/-- The other active accounts. -/
def others (self : AccountManager) (n : Nat) : List AccountObject :=
  (self.objects.items.filter fun entry => entry.1 ≠ n ∧ entry.2.state = .active).map Prod.snd

theorem mem_others (hget : self.objects.get m = some other) (hne : m ≠ n) (hstate : other.state = .active) :
    other ∈ self.others n := by
  refine List.mem_map.mpr ⟨(m, other), List.mem_filter.mpr ⟨SortedDict.Dict.get_eq_some.mp hget, ?_⟩, rfl⟩
  simp [hne, hstate]

theorem of_mem_others (h : other ∈ self.others n) :
    ∃ m, m ≠ n ∧ self.objects.get m = some other ∧ other.state = .active := by
  obtain ⟨⟨m, found⟩, hmem, rfl⟩ := List.mem_map.mp h
  obtain ⟨hitem, hrest⟩ := List.mem_filter.mp hmem
  obtain ⟨hne, hstate⟩ := of_decide_eq_true hrest
  exact ⟨m, hne, SortedDict.Dict.get_eq_some.mpr hitem, hstate⟩

/-- A save keeps the ID of the default account, finds no unsaved changes elsewhere if it disables the default
account, and does not leave a disabled account under the ID that the setting holds. -/
def CarefulSave (self : AccountManager) (n : Nat) (account : AccountObject) : Bool :=
  (self.defaultAccount ≠ some n || account.id = account.oldId) &&
    (self.defaultAccount ≠ some n || account.isEnabled || (self.others n).all fun other => !other.unsaved) &&
    (account.isEnabled || self.defaultId ≠ some account.id ||
      account.state = .active && account.id = account.oldId)

/-- A deletion finds no change of the ID, and no account that could take the place of the default account. -/
def CarefulDelete (self : AccountManager) (n : Nat) (account : AccountObject) : Bool :=
  account.id = account.oldId &&
    (self.defaultAccount ≠ some n || (self.others n).all fun other => !other.wasEnabled)

/-- The condition of an operation. -/
def Careful (self : AccountManager) : AccountOperation → Bool
  | .create _ id | .setId _ id => id ≠ bonjourId
  | .save n _ => (self.objects.get n).all fun account =>
      account.state = .deleted || self.CarefulSave n account
  | .delete n => (self.objects.get n).all fun account =>
      account.isBonjour || account.state = .deleted || self.CarefulDelete n account
  | .setDefault (some n) => (self.objects.get n).all fun account => !account.unsaved
  | _ => true

/-! ### Deletion -/

theorem Sound.delete (h : self.Sound) (hget : self.objects.get n = some account)
    (hcareful : account.isBonjour || account.state = .deleted || self.CarefulDelete n account) :
    (self.delete n account).Sound := by
  unfold AccountManager.delete
  split
  next => exact h
  next hnot =>
    obtain ⟨hkind, hstate⟩ := not_or.mp hnot
    have hid : account.id = account.oldId := by
      simp only [CarefulDelete, Bool.or_eq_true, Bool.and_eq_true, decide_eq_true_eq, or_assoc] at hcareful
      exact ((hcareful.resolve_left hkind).resolve_left hstate).1
    have hown : ∀ id, AccountObject.Has { account with state := .deleted } id → self.Own n id :=
      fun id hhas => h.links.own hget hhas
    have hbonjour : ∀ id, AccountObject.Has { account with state := .deleted } id →
        (account.isBonjour ↔ id = bonjourId) := fun id hhas => h.links.bonjour hget id hhas
    have hactive : ∀ id m, (self.put n { account with state := .deleted }).Active id m ↔
        m ≠ n ∧ self.Active id m := by
      intro id m
      rw [active_of_put rfl]
      split
      next heq => simp [heq]
      next hne => simp [hne]
    have hstored : ∀ id, id ≠ bonjourId → id ≠ [] → (self.stored.erase account.oldId).get id ≠ none →
        ∃ m, m ≠ n ∧ self.Active id m := by
      intro id hne hnil hstored
      rw [SortedDict.Dict.get_erase] at hstored
      split at hstored
      next => exact absurd rfl hstored
      next hother =>
        obtain ⟨m, hm⟩ := h.stored id hne hnil hstored
        refine ⟨m, ?_, hm⟩
        rintro rfl
        obtain ⟨found, hfound, _, hold⟩ := hm
        have hsame : found = account := Option.some.inj (hfound.symm.trans hget)
        exact hother (hsame ▸ hold).symm
    dsimp only
    split
    next hisActive =>
      have herase : ∀ id m, (self.accounts.erase account.id).get id = some m ↔ m ≠ n ∧ self.Active id m := by
        intro id m
        rw [SortedDict.Dict.get_erase, ← h.links.accounts]
        have hmap := (h.links.accounts account.oldId n).mpr ⟨account, hget, hisActive, rfl⟩
        split
        next heq =>
          rw [heq, hid, hmap]
          exact ⟨nofun, fun hm => absurd (Option.some.inj hm.2).symm hm.1⟩
        next hne =>
          refine ⟨fun hm => ⟨?_, hm⟩, And.right⟩
          rintro rfl
          obtain ⟨found, hfound, _, hold⟩ := (h.links.accounts id m).mp hm
          have hsame : found = account := Option.some.inj (hfound.symm.trans hget)
          exact hne (by rw [← hold, hsame, hid])
      refine ⟨h.links.put hown hbonjour rfl fun id m => ?_, fun id hne hnil hget' => ?_, ?_⟩
      · exact (herase id m).trans (hactive id m).symm
      · obtain ⟨m, hm⟩ := hstored id hne hnil hget'
        exact ⟨m, (hactive id m).mpr hm⟩
      · apply default_of_others (n := n) h
        · exact fun m hne => get_put_of_ne self _ hne
        · intro m hne hdefault
          obtain ⟨id, hid', hm⟩ := Option.bind_eq_some_iff.mp hdefault
          exact h.links.default_of_active hid' ((herase id m).mp hm).2
        · intro found hdefault _
          obtain ⟨id, hid', hm⟩ := Option.bind_eq_some_iff.mp hdefault
          exact absurd rfl ((herase id n).mp hm).1
    next hinactive =>
      have hnever : ∀ id, ¬ self.Active id n := by
        rintro id ⟨found, hfound, hisActive, _⟩
        exact hinactive (Option.some.inj (hfound.symm.trans hget) ▸ hisActive)
      refine ⟨h.links.put hown hbonjour rfl fun id m => ?_, fun id hne hnil hget' => ?_, ?_⟩
      · refine Iff.trans ?_ (hactive id m).symm
        rw [← h.links.accounts]
        refine ⟨fun hm => ⟨?_, hm⟩, And.right⟩
        rintro rfl
        exact hnever id ((h.links.accounts id m).mp hm)
      · obtain ⟨m, hm⟩ := hstored id hne hnil hget'
        exact ⟨m, (hactive id m).mpr hm⟩
      · apply default_of_others (n := n) h
        · exact fun m hne => get_put_of_ne self _ hne
        · exact fun _ _ hdefault => hdefault
        · intro found hdefault _
          obtain ⟨id, _, hm⟩ := h.links.active_default hdefault
          exact absurd hm (hnever id)

/-! ### Saving -/

@[simp] theorem unsaved_synced (account : AccountObject) : account.synced.unsaved = false := by
  simp [AccountObject.synced, AccountObject.unsaved]

@[simp] theorem isEnabled_synced (account : AccountObject) : account.synced.isEnabled = account.isEnabled := rfl

@[simp] theorem wasEnabled_synced (account : AccountObject) : account.synced.wasEnabled = account.isEnabled := rfl

theorem wasEnabled_of_saved (hsaved : account.unsaved = false) : account.wasEnabled = account.isEnabled := by
  have henabled : account.enabled = account.oldEnabled := by
    simp only [AccountObject.unsaved, ne_eq, Bool.or_eq_false_iff, decide_eq_false_iff_not, not_not] at hsaved
    exact hsaved.2
  rw [AccountObject.wasEnabled, AccountObject.isEnabled, henabled]

theorem Sound.setDefaultAccount (h : self.Sound)
    (hsaved : ∀ account, self.objects.get n = some account → account.unsaved = false) :
    (self.setDefaultAccount (some n)).Sound :=
  ⟨h.links.setDefaultAccount _, h.stored.setDefaultAccount _, h.default.setDefaultAccount h.links hsaved⟩

/-- The accounts that may become the default. -/
theorem mem_enabledAccounts (h : self.Links) : m ∈ self.enabledAccounts ↔
    ∃ other, self.objects.get m = some other ∧ other.state = .active ∧ other.isEnabled := by
  simp only [enabledAccounts, List.mem_filter, List.mem_map, Prod.exists, exists_eq_right]
  constructor
  · rintro ⟨⟨id, hmem⟩, henabled⟩
    obtain ⟨other, hget, hstate, _⟩ := (h.accounts id m).mp (SortedDict.Dict.get_eq_some.mpr hmem)
    rw [hget] at henabled
    exact ⟨other, hget, hstate, henabled⟩
  · rintro ⟨other, hget, hstate, henabled⟩
    refine ⟨⟨other.oldId, ?_⟩, ?_⟩
    · exact SortedDict.Dict.get_eq_some.mp ((h.accounts other.oldId m).mpr ⟨other, hget, hstate, rfl⟩)
    · rw [hget]
      exact henabled

theorem mem_of_firstEnabled {first : Nat} (h : self.firstEnabled first = some m) :
    m ∈ self.enabledAccounts := by
  unfold firstEnabled at h
  split at h
  next hmem =>
    cases h
    exact hmem
  next => exact List.mem_of_head? h

theorem firstEnabled_isSome {first : Nat} (h : m ∈ self.enabledAccounts) :
    ∃ k, self.firstEnabled first = some k := by
  unfold firstEnabled
  split
  next => exact ⟨first, rfl⟩
  next =>
    cases haccounts : self.enabledAccounts with
    | nil =>
        rw [haccounts] at h
        cases h
    | cons k rest => exact ⟨k, rfl⟩

/-- An account without unsaved changes that is enabled and active can be the default. -/
theorem defaultAccount_of_saved (h : self.Links) (hget : self.objects.get m = some other)
    (hstate : other.state = .active) (henabled : other.isEnabled) (hsaved : other.unsaved = false) :
    (self.setDefaultAccount (some m)).defaultAccount = some m := by
  apply defaultAccount_setDefaultAccount hget henabled
  have hid : other.id = other.oldId := by
    simp only [AccountObject.unsaved, ne_eq, Bool.or_eq_false_iff, decide_eq_false_iff_not, not_not] at hsaved
    exact hsaved.1
  exact (h.accounts other.id m).mpr ⟨other, hget, hstate, hid.symm⟩

/-- The enabled account that comes first is a good default if it has no unsaved changes. -/
theorem DefaultEnabled.setDefaultAccount_firstEnabled {first : Nat} (h : self.Links)
    (hsaved : ∀ m other, self.firstEnabled first = some m → self.objects.get m = some other →
      other.unsaved = false) :
    (self.setDefaultAccount (self.firstEnabled first)).DefaultEnabled := by
  cases hfirst : self.firstEnabled first with
  | none => exact DefaultEnabled.setDefaultAccount_none
  | some m =>
      obtain ⟨other, hget, hstate, henabled⟩ := (mem_enabledAccounts h).mp (mem_of_firstEnabled hfirst)
      have hother := hsaved m other hfirst hget
      have hnew := defaultAccount_of_saved h hget hstate henabled hother
      intro k found hdefault hfound
      rw [hnew] at hdefault
      cases hdefault
      obtain ⟨defaultId, heq⟩ := setDefaultAccount_eq self (some m)
      rw [heq] at hfound
      have hsame : found = other := Option.some.inj (hfound.symm.trans hget)
      rw [hsame, wasEnabled_of_saved hother]
      exact henabled

/-- The state in which the manager is told that an account was saved. -/
structure Saved (manager : AccountManager) (n : Nat) (account : AccountObject) : Prop where
  links : manager.Links
  stored : manager.Stored
  object : manager.objects.get n = some account.synced
  others : ∀ m found, m ≠ n → manager.defaultAccount = some m → manager.objects.get m = some found →
    found.wasEnabled
  same : account.enabled = account.oldEnabled → manager.defaultAccount = some n → account.isEnabled
  saved : manager.defaultAccount = some n → account.isEnabled = false → ∀ m other,
    manager.objects.get m = some other → m ≠ n → other.state = .active → other.unsaved = false

variable {first : Nat}

/-- The account that takes the place of one that is disabled. -/
theorem Saved.replaced (h : self.Saved n account) (hdefault : self.defaultAccount = some n)
    (hdisabled : account.isEnabled = false) (hfirst : self.firstEnabled first = some m) :
    m ≠ n ∧ ∃ other, self.objects.get m = some other ∧ other.state = .active ∧ other.isEnabled ∧
      other.unsaved = false := by
  obtain ⟨other, hget, hstate, henabled⟩ := (mem_enabledAccounts h.links).mp (mem_of_firstEnabled hfirst)
  have hne : m ≠ n := by
    rintro rfl
    have hsame : other = account.synced := Option.some.inj (hget.symm.trans h.object)
    rw [hsame, isEnabled_synced, hdisabled] at henabled
    cases henabled
  exact ⟨hne, other, hget, hstate, henabled, h.saved hdefault hdisabled m other hget hne hstate⟩

theorem Saved.sound_enabledDidChange (h : self.Saved n account) :
    (self.enabledDidChange n account first).Sound := by
  have hsound (hn : self.defaultAccount = some n → account.isEnabled) : self.Sound := by
    refine ⟨h.links, h.stored, fun m found hdefault hfound => ?_⟩
    by_cases heq : m = n
    · rw [heq] at hdefault hfound
      have hsame : found = account.synced := Option.some.inj (hfound.symm.trans h.object)
      rw [hsame]
      exact hn hdefault
    · exact h.others m found heq hdefault hfound
  unfold enabledDidChange
  split
  next hsame => exact hsound (h.same hsame)
  next =>
    split
    next henabled =>
      apply (hsound fun _ => henabled.1).setDefaultAccount
      intro found hfound
      have hsame : found = account.synced := Option.some.inj (hfound.symm.trans h.object)
      rw [hsame, unsaved_synced]
    next =>
      split
      next hdisabled =>
        refine ⟨h.links.setDefaultAccount _, h.stored.setDefaultAccount _, ?_⟩
        apply DefaultEnabled.setDefaultAccount_firstEnabled h.links
        intro m other hfirst hget
        obtain ⟨_, found, hfound, _, _, hsaved⟩ := h.replaced hdisabled.2 hdisabled.1 hfirst
        rw [Option.some.inj (hget.symm.trans hfound)]
        exact hsaved
      next hnot =>
        apply hsound
        intro hdefault
        by_contra hdisabled
        exact hnot ⟨by simpa using hdisabled, hdefault⟩

/-- What the condition of a save says. -/
theorem carefulSave_iff : self.CarefulSave n account ↔
    (self.defaultAccount = some n → account.id = account.oldId) ∧
      (self.defaultAccount = some n → account.isEnabled = false →
        ∀ other ∈ self.others n, other.unsaved = false) ∧
      (account.isEnabled = false → self.defaultId = some account.id →
        account.state = .active ∧ account.id = account.oldId) := by
  simp only [CarefulSave, Bool.and_eq_true, Bool.or_eq_true, decide_eq_true_eq, List.all_eq_true,
    Bool.not_eq_true', and_assoc, or_assoc, ne_eq, imp_iff_not_or, Bool.not_eq_false]

theorem carefulSave_of_active {first : Nat} (hstate : account.state = .active)
    (hget : self.objects.get n = some account) (hcareful : self.Careful (.save n first)) :
    self.CarefulSave n account := by
  simpa [Careful, hget, hstate] using hcareful

theorem has_synced (hid : account.synced.Has id) : account.Has id := by
  rcases hid with hid | hid <;> exact .inl hid

/-- The configuration after a save has no account that is not in memory. -/
theorem Stored.save (h : self.Stored) (account : AccountObject) {manager : AccountManager} {value : Option Bool}
    (hobjects : manager.objects = (self.put n changed).objects) (hstate : changed.state = .active)
    (hold : changed.oldId = id) (holdId : ∀ id', self.Active id' n → id' = id ∨ id' = account.oldId)
    (hstored : manager.stored = (self.stored.erase account.oldId).set id value ∨
      manager.stored = self.stored.set id value ∧ ∀ id', ¬ self.Active id' n) : manager.Stored := by
  intro id' hne hnil hget
  by_cases heq : id' = id
  · refine ⟨n, (active_of_put hobjects id' n).mpr ?_⟩
    rw [if_pos rfl, hold]
    exact ⟨hstate, heq.symm⟩
  · have hkept : self.stored.get id' ≠ none ∧ ∀ m, self.Active id' m → m ≠ n := by
      rcases hstored with hstored | ⟨hstored, hnever⟩
      · rw [hstored, SortedDict.Dict.get_set, if_neg heq, SortedDict.Dict.get_erase] at hget
        split at hget
        next => exact absurd rfl hget
        next hother =>
          refine ⟨hget, ?_⟩
          rintro m hactive rfl
          exact (holdId id' hactive).elim heq hother
      · rw [hstored, SortedDict.Dict.get_set, if_neg heq] at hget
        refine ⟨hget, ?_⟩
        rintro m hactive rfl
        exact hnever id' hactive
    obtain ⟨m, hactive⟩ := h id' hne hnil hkept.1
    refine ⟨m, (active_of_put hobjects id' m).mpr ?_⟩
    rw [if_neg (hkept.2 m hactive)]
    exact hactive

theorem Sound.save_new (h : self.Sound) (hget : self.objects.get n = some account)
    (hstate : account.state = .new) (hcareful : self.CarefulSave n account) :
    (self.save n account first).Sound := by
  obtain ⟨_, _, hdangling⟩ := carefulSave_iff.mp hcareful
  have hnever : ∀ id, ¬ self.Active id n := by
    rintro id ⟨found, hfound, hactive, _⟩
    have hsame : found = account := Option.some.inj (hfound.symm.trans hget)
    rw [hsame, hstate] at hactive
    cases hactive
  unfold AccountManager.save
  rw [if_neg (by rw [hstate]; decide), if_pos hstate]
  dsimp only
  have hown : ∀ id, AccountObject.Has { account.synced with state := .active } id → self.Own n id :=
    fun id hhas => h.links.own hget (has_synced hhas)
  have hactivated : (({ self.put n { account.synced with state := .active } with
      stored := self.stored.set account.id account.enabled } : AccountManager).wasActivated n
        { account.synced with state := .active }).Sound := by
    refine ⟨?_, ?_, ?_⟩
    · refine h.links.activate hown ?_ rfl rfl rfl ?_ ?_
      · exact fun id hhas => h.links.bonjour hget id (has_synced hhas)
      · exact fun id => (get_set_inactive h.links hnever account.id id).1
      · exact fun id => (get_set_inactive h.links hnever account.id id).2
    · exact h.stored.save account rfl rfl rfl (fun id hactive => absurd hactive (hnever id)) (.inr ⟨rfl, hnever⟩)
    · apply default_of_others (n := n) h
      · exact fun m hne => get_put_of_ne self _ hne
      · intro m hne hdefault
        obtain ⟨id, hid, hm⟩ := Option.bind_eq_some_iff.mp hdefault
        have hkept := ((get_set_inactive h.links hnever account.id id).2 m hne).mp hm
        exact h.links.default_of_active hid ((h.links.accounts id m).mp hkept.2)
      · intro found hdefault hfound
        obtain ⟨id, hid, hm⟩ := Option.bind_eq_some_iff.mp hdefault
        have heq := (get_set_inactive h.links hnever account.id id).1.mp hm
        have hsame : found = { account.synced with state := .active } :=
          Option.some.inj (hfound.symm.trans (get_put_self self n _))
        rw [hsame]
        show account.isEnabled = true
        by_contra hdisabled
        have hactive := (hdangling (by simpa using hdisabled) (heq ▸ hid)).1
        rw [hstate] at hactive
        cases hactive
  unfold wasCreated
  split
  next =>
    apply hactivated.setDefaultAccount
    intro found hfound
    have hsame : found = { account.synced with state := .active } :=
      Option.some.inj (hfound.symm.trans (get_put_self self n _))
    rw [hsame]
    exact unsaved_synced account
  next => exact hactivated

/-- The manager is told of a save that has changed the ID or `enabled`. -/
theorem Sound.saved (h : self.Sound) (hget : self.objects.get n = some account)
    (hstate : account.state = .active) (hcareful : self.CarefulSave n account) {manager : AccountManager}
    (hobjects : manager.objects = (self.put n account.synced).objects)
    (hstored : manager.stored = (self.stored.erase account.oldId).set account.id account.enabled)
    (hdefaultId : manager.defaultId = self.defaultId)
    (haccounts : account.id = account.oldId ∧ manager.accounts = self.accounts ∨
      account.id ≠ account.oldId ∧
        manager.accounts = (self.accounts.erase account.oldId).set account.id n) :
    manager.Saved n account := by
  obtain ⟨hkeeps, hothers, hdangling⟩ := carefulSave_iff.mp hcareful
  have hactive : self.Active account.oldId n := ⟨account, hget, hstate, rfl⟩
  have hown : ∀ id, account.synced.Has id → self.Own n id :=
    fun id hhas => h.links.own hget (has_synced hhas)
  have hbonjour : ∀ id, account.synced.Has id → (account.synced.isBonjour ↔ id = bonjourId) :=
    fun id hhas => h.links.bonjour hget id (has_synced hhas)
  have hlinks : manager.Links := by
    rcases haccounts with ⟨hid, haccounts⟩ | ⟨hid, haccounts⟩
    · apply h.links.put hown hbonjour hobjects
      intro id m
      rw [haccounts, h.links.accounts, active_of_put hobjects]
      split
      next heq =>
        rw [heq]
        constructor
        · rintro ⟨found, hfound, hactive', hold⟩
          have hsame : found = account := Option.some.inj (hfound.symm.trans hget)
          exact ⟨hstate, by rw [← hold, hsame]; exact hid⟩
        · exact fun hsynced => ⟨account, hget, hstate, hid ▸ hsynced.2⟩
      next => rfl
    · refine h.links.activate hown hbonjour hstate rfl hobjects ?_ ?_
      · rw [haccounts]
        exact fun id => (get_set_renamed h.links hactive hid id).1
      · rw [haccounts]
        exact fun id => (get_set_renamed h.links hactive hid id).2
  -- Who the default is after the save was it before, or has its ID from the save.
  have hbefore : ∀ m, m ≠ n → manager.defaultAccount = some m → self.defaultAccount = some m := by
    intro m hne hdefault
    obtain ⟨id, hid, hm⟩ := hlinks.active_default hdefault
    rw [active_of_put hobjects, if_neg hne] at hm
    exact h.links.default_of_active (hdefaultId.symm.trans hid) hm
  have hself : manager.defaultAccount = some n → self.defaultId = some account.id := by
    intro hdefault
    obtain ⟨id, hid, hm⟩ := hlinks.active_default hdefault
    rw [active_of_put hobjects, if_pos rfl] at hm
    rw [← hdefaultId, hid, ← hm.2]
    rfl
  have hwas : manager.defaultAccount = some n → account.isEnabled = false → self.defaultAccount = some n := by
    intro hdefault hdisabled
    obtain ⟨_, hid⟩ := hdangling hdisabled (hself hdefault)
    exact h.links.default_of_active (hself hdefault) (hid ▸ hactive)
  refine ⟨hlinks, ?_, ?_, ?_, ?_, ?_⟩
  · refine h.stored.save account hobjects hstate rfl ?_ (.inl hstored)
    rintro id' ⟨found, hfound, _, hold⟩
    have hsame : found = account := Option.some.inj (hfound.symm.trans hget)
    exact .inr (hsame ▸ hold).symm
  · rw [hobjects, get_put_self]
  · intro m found hne hdefault hfound
    rw [hobjects, get_put_of_ne self _ hne] at hfound
    exact h.default m found (hbefore m hne hdefault) hfound
  · intro hsame hdefault
    by_contra hdisabled
    have hdisabled : account.isEnabled = false := by simpa using hdisabled
    have henabled := h.default n account (hwas hdefault hdisabled) hget
    rw [AccountObject.wasEnabled, ← hsame] at henabled
    exact absurd henabled (by rw [show account.enabled.getD account.isBonjour = false from hdisabled]; decide)
  · intro hdefault hdisabled m other hother hne hactive'
    rw [hobjects, get_put_of_ne self _ hne] at hother
    exact hothers (hwas hdefault hdisabled) hdisabled other (mem_others hother hne hactive')

/-- A save that tells the manager of changes, in the state in which it does. -/
theorem Sound.save_unsaved (h : self.Sound) (hget : self.objects.get n = some account)
    (hstate : account.state = .active) (hunsaved : account.unsaved) (hcareful : self.CarefulSave n account)
    (first : Nat) :
    ∃ manager : AccountManager, self.save n account first = manager.enabledDidChange n account first ∧
      manager.Saved n account ∧ manager.defaultId = self.defaultId ∧
        manager.objects = (self.put n account.synced).objects := by
  unfold AccountManager.save
  rw [if_neg (by rw [hstate]; decide), if_neg (by rw [hstate]; decide), if_pos hunsaved]
  dsimp only
  unfold didChange
  split
  next hid => exact ⟨_, rfl, h.saved hget hstate hcareful rfl rfl rfl (.inl ⟨hid, rfl⟩), rfl, rfl⟩
  next hid =>
    have hmap : self.accounts.get account.oldId = some n :=
      (h.links.accounts account.oldId n).mpr ⟨account, hget, hstate, rfl⟩
    have hmap' : (self.put n account.synced).accounts.get account.oldId = some n := hmap
    simp only [hmap']
    exact ⟨_, rfl, h.saved hget hstate hcareful rfl rfl rfl (.inr ⟨hid, rfl⟩), rfl, rfl⟩

theorem Sound.save (h : self.Sound) (hget : self.objects.get n = some account)
    (hcareful : account.state = .deleted || self.CarefulSave n account) :
    (self.save n account first).Sound := by
  cases hstate : account.state with
  | deleted =>
      unfold AccountManager.save
      rw [if_pos hstate]
      exact h
  | new =>
      rw [hstate] at hcareful
      exact h.save_new hget hstate hcareful
  | active =>
      rw [hstate] at hcareful
      cases hunsaved : account.unsaved with
      | true =>
          obtain ⟨manager, heq, hsaved, _, _⟩ := h.save_unsaved hget hstate hunsaved hcareful first
          rw [heq]
          exact hsaved.sound_enabledDidChange
      | false =>
          obtain ⟨hid, henabled⟩ : account.id = account.oldId ∧ account.enabled = account.oldEnabled := by
            simpa [AccountObject.unsaved] using hunsaved
          unfold AccountManager.save
          rw [if_neg (by rw [hstate]; decide), if_neg (by rw [hstate]; decide), if_neg (by rw [hunsaved]; decide)]
          exact h.edit_value hget rfl rfl hid henabled rfl

theorem Sound.on (h : self.Sound) {f : AccountObject → AccountManager}
    (hf : ∀ account, self.objects.get n = some account → (f account).Sound) : (self.on n f).Sound := by
  unfold AccountManager.on
  split
  next account hget => exact hf account hget
  next => exact h

theorem sound_step (h : self.Sound) {operation : AccountOperation} (hcareful : self.Careful operation) :
    (self.step operation).Sound := by
  cases operation with
  | create n id => exact h.create (of_decide_eq_true hcareful)
  | setId n id => exact h.on fun account hget => h.setId hget (of_decide_eq_true hcareful)
  | setEnabled n enabled => exact h.on fun account hget => h.edit_value hget rfl rfl rfl rfl rfl
  | change n => exact h.on fun account hget => h.edit_value hget rfl rfl rfl rfl rfl
  | save n first =>
      refine h.on fun account hget => h.save hget ?_
      simpa [Careful, hget] using hcareful
  | delete n =>
      refine h.on fun account hget => h.delete hget ?_
      simpa [Careful, hget] using hcareful
  | collect n => exact h.on fun account hget => h.collect hget
  | setDefault account =>
      cases account with
      | none => exact ⟨h.links.setDefaultAccount none, h.stored.setDefaultAccount none,
          DefaultEnabled.setDefaultAccount_none⟩
      | some n =>
          apply h.setDefaultAccount
          intro account hget
          simpa [Careful, hget] using hcareful

/-! ### Loading -/

/-- What `Account(id)` makes of an ID that is free. -/
theorem create_of_free (hnone : self.objects.get n = none) (hnil : id ≠ []) (hunused : ¬ self.Used id) :
    ∃ account, (self.create n id).objects = (self.put n account).objects ∧ account.id = id ∧
      account.oldId = id ∧ account.unsaved = false ∧
      (self.stored.get id ≠ none → account.state = .active) ∧ (self.create n id).stored = self.stored := by
  unfold AccountManager.create
  rw [if_neg (by simp [hnone, hnil, hunused])]
  split
  next hnot =>
    exact ⟨_, rfl, rfl, rfl, by simp [AccountObject.unsaved], fun hstored => absurd hnot hstored, rfl⟩
  next => exact ⟨_, rfl, rfl, rfl, by simp [AccountObject.unsaved], fun _ => rfl, rfl⟩

/-- The state while the accounts are loaded. -/
structure Loading (manager : AccountManager) (names : List Unicode) (k : Nat) : Prop where
  links : manager.Links
  saved : ∀ n account, manager.objects.get n = some account → account.unsaved = false
  free : ∀ n, k ≤ n → manager.objects.get n = none
  unused : ∀ id ∈ names, ¬ manager.Used id

theorem Loading.create {names : List Unicode} {k : Nat} (h : self.Loading (id :: names) k)
    (hnodup : (id :: names).Nodup) (hid : id ≠ bonjourId) :
    (self.create k id).Loading names (k + 1) ∧ (self.create k id).stored = self.stored ∧
      (∀ id' n, self.Active id' n → (self.create k id).Active id' n) ∧
      (id ≠ [] → self.stored.get id ≠ none → (self.create k id).Active id k) := by
  have hnone := h.free k (Nat.le_refl k)
  by_cases hnil : id = []
  · have hskip : self.create k id = self := by
      unfold AccountManager.create
      exact if_pos (.inr (.inl hnil))
    rw [hskip]
    refine ⟨⟨h.links, h.saved, fun n hle => h.free n (Nat.le_of_succ_le hle), fun other hmem => ?_⟩, rfl,
      fun _ _ hactive => hactive, fun hne => absurd hnil hne⟩
    exact h.unused other (List.mem_cons_of_mem id hmem)
  · have hunused := h.unused id List.mem_cons_self
    obtain ⟨account, hobjects, hnew, hold, hsaved, hactive, hstored⟩ := create_of_free hnone hnil hunused
    refine ⟨⟨h.links.create hid, ?_, ?_, ?_⟩, hstored, ?_, ?_⟩
    · intro n found hfound
      rw [hobjects, get_put] at hfound
      split at hfound
      next =>
        cases hfound
        exact hsaved
      next => exact h.saved n found hfound
    · intro n hle
      rw [hobjects, get_put_of_ne self _ (by omega)]
      exact h.free n (Nat.le_of_succ_le hle)
    · rintro other hmem ⟨⟨n, found⟩, hfound, hkind, hhas⟩
      have hget : (self.put k account).objects.get n = some found :=
        hobjects ▸ SortedDict.Dict.get_eq_some.mpr hfound
      rw [get_put] at hget
      split at hget
      next =>
        cases hget
        have heq : id = other := by
          rcases hhas with hhas | hhas
          · exact hnew.symm.trans hhas
          · exact hold.symm.trans hhas
        exact (List.nodup_cons.mp hnodup).1 (heq ▸ hmem)
      next =>
        exact h.unused other (List.mem_cons_of_mem id hmem)
          ⟨(n, found), SortedDict.Dict.get_eq_some.mp hget, hkind, hhas⟩
    · intro id' n hisActive
      rw [active_of_put hobjects]
      split
      next heq =>
        obtain ⟨found, hfound, _⟩ := hisActive
        rw [heq, hnone] at hfound
        cases hfound
      next => exact hisActive
    · intro _ hstored'
      rw [active_of_put hobjects, if_pos rfl]
      exact ⟨hactive hstored', hold⟩

theorem loading_foldl {names : List Unicode} {k : Nat} (h : self.Loading names k) (hnodup : names.Nodup)
    (hids : ∀ id ∈ names, id ≠ bonjourId) :
    let manager := (names.zipIdx k).foldl (fun manager name => manager.create name.2 name.1) self
    manager.Loading [] (k + names.length) ∧ manager.stored = self.stored ∧
      (∀ id n, self.Active id n → manager.Active id n) ∧
      ∀ id ∈ names, id ≠ [] → self.stored.get id ≠ none → ∃ n, manager.Active id n := by
  induction names generalizing self k with
  | nil => exact ⟨h, rfl, fun _ _ hactive => hactive, nofun⟩
  | cons id names ih =>
      obtain ⟨hnext, hstored, hkept, hnew⟩ := h.create hnodup (hids id List.mem_cons_self)
      obtain ⟨hloading, hsame, hactive, hall⟩ :=
        ih hnext (List.nodup_cons.mp hnodup).2 fun other hmem => hids other (List.mem_cons_of_mem id hmem)
      simp only [List.zipIdx_cons, List.foldl_cons]
      refine ⟨?_, hsame.trans hstored, fun id' n hid' => hactive id' n (hkept id' n hid'), ?_⟩
      · have hlength : k + (id :: names).length = k + 1 + names.length := by
          rw [List.length_cons]
          omega
        rw [hlength]
        exact hloading
      · intro id' hmem hnil hget
        rcases List.mem_cons.mp hmem with rfl | hmem
        · exact ⟨k, hactive id' k (hnew hnil hget)⟩
        · exact hall id' hmem hnil (by rw [hstored]; exact hget)

/-- The `BonjourAccount` takes the number 0. -/
theorem Loading.activateBonjour {names : List Unicode} (h : self.Loading names 0) (hkind : changed.isBonjour)
    (hid : changed.id = bonjourId) (hold : changed.oldId = changed.id) (hstate : changed.state = .active)
    (hsaved : changed.unsaved = false) :
    ((self.put 0 changed).wasActivated 0 changed).Loading names 1 := by
  have hnone : ∀ m, self.objects.get m = none := fun m => h.free m (Nat.zero_le m)
  have hinactive : ∀ id, ¬ self.Active id 0 := by
    rintro id ⟨found, hfound, _⟩
    rw [hnone] at hfound
    cases hfound
  have honly : ∀ m found, ((self.put 0 changed).wasActivated 0 changed).objects.get m = some found →
      found = changed := by
    intro m found hfound
    have hput : (self.put 0 changed).objects.get m = some found := hfound
    rw [get_put] at hput
    split at hput
    next => exact (Option.some.inj hput).symm
    next =>
      rw [hnone] at hput
      cases hput
  refine ⟨h.links.activate ?_ ?_ hstate hold rfl ?_ ?_, ?_, ?_, ?_⟩
  · intro id _ m other hother
    rw [hnone] at hother
    cases hother
  · intro id hhas
    have heq : id = bonjourId := by
      rcases hhas with hhas | hhas
      · exact hhas.symm.trans hid
      · exact hhas.symm.trans (hold.trans hid)
    exact iff_of_true hkind heq
  · exact fun id => (get_set_inactive h.links hinactive changed.id id).1
  · exact fun id => (get_set_inactive h.links hinactive changed.id id).2
  · intro m found hfound
    rw [honly m found hfound]
    exact hsaved
  · intro m hle
    exact (get_put_of_ne self changed (by omega)).trans (hnone m)
  · rintro id _ ⟨⟨m, found⟩, hfound, hnot, _⟩
    rw [honly m found (SortedDict.Dict.get_eq_some.mpr hfound), hkind] at hnot
    cases hnot

theorem loading_loadAccounts (available : Bool) (stored : Dict Unicode (Option Bool))
    (defaultId : Option Unicode) :
    (∃ k, (loadAccounts available stored defaultId).Loading [] k) ∧
      (loadAccounts available stored defaultId).Stored := by
  let names := stored.keys.filter (· ≠ bonjourId)
  have hnodup : names.Nodup := (SortedDict.Sorted.nodup stored.sorted).filter _
  have hids : ∀ id ∈ names, id ≠ bonjourId := fun id hmem => of_decide_eq_true (List.mem_filter.mp hmem).2
  have hstart : ∀ k, ({ defaultId, stored } : AccountManager).Loading names k := by
    refine fun k => ⟨⟨nofun, nofun, fun id n => ⟨nofun, ?_⟩⟩, nofun, fun _ _ => rfl, ?_⟩
    · rintro ⟨_, hget, _⟩
      cases hget
    · rintro id _ ⟨_, hmem, _⟩
      cases hmem
  have hload : ∀ manager : AccountManager, manager.Loading names 1 → manager.stored = stored →
      let loaded := (names.zipIdx 1).foldl (fun manager name => manager.create name.2 name.1) manager
      (∃ k, loaded.Loading [] k) ∧ loaded.Stored := by
    intro manager hloading hstored
    obtain ⟨hdone, hsame, _, hall⟩ := loading_foldl hloading hnodup hids
    refine ⟨⟨_, hdone⟩, fun id hne hnil hget => ?_⟩
    rw [hsame, hstored] at hget
    have hmem : id ∈ stored.keys := SortedDict.isSome_lookup.mp (Option.isSome_iff_ne_none.mpr hget)
    refine hall id (List.mem_filter.mpr ⟨hmem, decide_eq_true hne⟩) hnil ?_
    rw [hstored]
    exact hget
  cases available with
  | false => exact hload _ (hstart 1) rfl
  | true =>
      apply hload _ _ rfl
      apply (hstart 0).activateBonjour rfl rfl rfl rfl
      simp [AccountObject.unsaved]

theorem sound_load (available : Bool) (stored : Dict Unicode (Option Bool)) (defaultId : Option Unicode)
    (first : Nat) : (load available stored defaultId first).Sound := by
  obtain ⟨⟨k, hloading⟩, hstored⟩ := loading_loadAccounts available stored defaultId
  unfold load
  dsimp only
  split
  next henabled =>
    refine ⟨hloading.links, hstored, fun n account hdefault hget => ?_⟩
    have hisEnabled : account.isEnabled := by simpa [hdefault, hget] using henabled
    rw [wasEnabled_of_saved (hloading.saved n account hget)]
    exact hisEnabled
  next =>
    refine ⟨hloading.links.setDefaultAccount _, hstored.setDefaultAccount _, ?_⟩
    exact DefaultEnabled.setDefaultAccount_firstEnabled hloading.links fun m other _ => hloading.saved m other

/-! ### The default account in use -/

/-- The default account after an operation. -/
structure Follows (manager : AccountManager) (operation : AccountOperation) : Prop where
  /-- It stays the default when it is saved, whatever its ID is. -/
  renamed : ∀ n first account, operation = .save n first → manager.defaultAccount = some n →
    manager.objects.get n = some account → account.isEnabled →
      (manager.step operation).defaultAccount = some n
  /-- Another enabled account takes its place when it is deleted or disabled. -/
  replaced : ∀ n account, manager.defaultAccount = some n → manager.objects.get n = some account →
    (operation = .delete n ∧ account.isBonjour = false ∨
      ∃ first, operation = .save n first ∧ account.isEnabled = false) →
    (∃ other ∈ manager.others n, other.wasEnabled) →
      ∃ m other, (manager.step operation).defaultAccount = some m ∧ m ≠ n ∧
        (manager.step operation).objects.get m = some other ∧ other.wasEnabled

/-- The map has the accounts that exist, and the default is none or an enabled one of them. The ID and `enabled` of
an account are those of its last save. -/
structure Usable (manager : AccountManager) : Prop where
  accounts : ∀ id n, manager.accounts.get id = some n ↔ manager.Active id n
  default : ∀ n, manager.defaultAccount = some n →
    ∃ id account, manager.Active id n ∧ manager.objects.get n = some account ∧ account.wasEnabled

theorem Sound.usable (h : self.Sound) : self.Usable := by
  refine ⟨h.links.accounts, fun n hdefault => ?_⟩
  obtain ⟨id, _, account, hget, hactive⟩ := h.links.active_default hdefault
  exact ⟨id, account, ⟨account, hget, hactive⟩, hget, h.default n account hdefault hget⟩

/-- The manager is told that the default account was saved: it is the default still. -/
theorem Saved.default (h : self.Saved n account) (hstate : account.state = .active)
    (hid : self.defaultId = some account.id) : self.defaultAccount = some n :=
  h.links.default_of_active hid ⟨account.synced, h.object, hstate, rfl⟩

theorem Sound.default_active (h : self.Sound) (hdefault : self.defaultAccount = some n)
    (hget : self.objects.get n = some account) :
    account.state = .active ∧ self.defaultId = some account.oldId := by
  obtain ⟨id, hid, found, hfound, hstate, hold⟩ := h.links.active_default hdefault
  have hsame : found = account := Option.some.inj (hfound.symm.trans hget)
  rw [hsame] at hstate hold
  exact ⟨hstate, hold ▸ hid⟩

theorem step_save (hget : self.objects.get n = some account) :
    self.step (.save n first) = self.save n account first := by
  simp only [step, AccountManager.on, hget]

theorem Sound.renamed (h : self.Sound) (hdefault : self.defaultAccount = some n)
    (hget : self.objects.get n = some account) (henabled : account.isEnabled)
    (hcareful : self.CarefulSave n account) : (self.save n account first).defaultAccount = some n := by
  obtain ⟨hstate, hdefaultId⟩ := h.default_active hdefault hget
  have hid := (carefulSave_iff.mp hcareful).1 hdefault
  cases hunsaved : account.unsaved with
  | true =>
      obtain ⟨manager, heq, hsaved, hsame, _⟩ := h.save_unsaved hget hstate hunsaved hcareful first
      have hstill : manager.defaultAccount = some n :=
        hsaved.default hstate (by rw [hsame, hdefaultId, hid])
      rw [heq]
      unfold enabledDidChange
      rw [if_neg (by simp [hstill] : ¬ (account.isEnabled = true ∧ manager.defaultAccount = none)),
        if_neg (by simp [henabled] : ¬ (account.isEnabled = false ∧ manager.defaultAccount = some n)), ite_self]
      exact hstill
  | false =>
      unfold AccountManager.save
      rw [if_neg (by rw [hstate]; decide), if_neg (by rw [hstate]; decide), if_neg (by rw [hunsaved]; decide)]
      exact hdefault

theorem Sound.replaced (h : self.Sound) (hdefault : self.defaultAccount = some n)
    (hget : self.objects.get n = some account) (hdisabled : account.isEnabled = false)
    (hcareful : self.CarefulSave n account) (hother : ∃ other ∈ self.others n, other.wasEnabled) :
    ∃ m other, (self.save n account first).defaultAccount = some m ∧ m ≠ n ∧
      (self.save n account first).objects.get m = some other ∧ other.wasEnabled := by
  obtain ⟨hstate, hdefaultId⟩ := h.default_active hdefault hget
  obtain ⟨hid, hothers, _⟩ := carefulSave_iff.mp hcareful
  have hwas := h.default n account hdefault hget
  have hchanged : account.enabled ≠ account.oldEnabled := by
    intro hsame
    have hsame' : account.wasEnabled = account.isEnabled := by
      rw [AccountObject.wasEnabled, AccountObject.isEnabled, hsame]
    rw [hsame', hdisabled] at hwas
    cases hwas
  have hunsaved : account.unsaved := by simp [AccountObject.unsaved, hchanged]
  obtain ⟨manager, heq, hsaved, hsame, hobjects⟩ := h.save_unsaved hget hstate hunsaved hcareful first
  have hstill : manager.defaultAccount = some n :=
    hsaved.default hstate (by rw [hsame, hdefaultId, hid hdefault])
  -- The other account is enabled in memory too, so that the search for one succeeds.
  obtain ⟨other, hmem, henabled⟩ := hother
  obtain ⟨m, hne, hgetOther, hactive⟩ := of_mem_others hmem
  have hgetOther' : manager.objects.get m = some other := by
    rw [hobjects, get_put_of_ne self _ hne]
    exact hgetOther
  have hisEnabled : other.isEnabled := by
    rw [← wasEnabled_of_saved (hothers hdefault hdisabled other hmem)]
    exact henabled
  obtain ⟨k, hfirst⟩ : ∃ k, manager.firstEnabled first = some k :=
    firstEnabled_isSome ((mem_enabledAccounts hsaved.links).mpr ⟨other, hgetOther', hactive, hisEnabled⟩)
  obtain ⟨hk, found, hfound, hfoundState, hfoundEnabled, hfoundSaved⟩ := hsaved.replaced hstill hdisabled hfirst
  rw [heq]
  unfold enabledDidChange
  rw [if_neg hchanged, if_neg (by simp [hdisabled]), if_pos ⟨hdisabled, hstill⟩, hfirst]
  refine ⟨k, found, defaultAccount_of_saved hsaved.links hfound hfoundState hfoundEnabled hfoundSaved, hk, ?_, ?_⟩
  · obtain ⟨defaultId, hset⟩ := setDefaultAccount_eq manager (some k)
    rw [hset]
    exact hfound
  · rw [wasEnabled_of_saved hfoundSaved]
    exact hfoundEnabled

theorem Sound.follows (h : self.Sound) {operation : AccountOperation} (hcareful : self.Careful operation) :
    self.Follows operation := by
  refine ⟨?_, ?_⟩
  · rintro n first account rfl hdefault hget henabled
    rw [step_save hget]
    apply h.renamed hdefault hget henabled
    exact carefulSave_of_active (h.default_active hdefault hget).1 hget hcareful
  · rintro n account hdefault hget hends hother
    have hstate := (h.default_active hdefault hget).1
    rcases hends with ⟨rfl, hkind⟩ | ⟨first, rfl, hdisabled⟩
    · have hdelete : self.CarefulDelete n account := by
        simpa [Careful, hget, hkind, hstate] using hcareful
      obtain ⟨other, hmem, henabled⟩ := hother
      have hnone : ∀ other ∈ self.others n, other.wasEnabled = false := by
        simpa [CarefulDelete, hdefault] using (Bool.and_eq_true_iff.mp hdelete).2
      rw [hnone other hmem] at henabled
      cases henabled
    · rw [step_save hget]
      exact h.replaced hdefault hget hdisabled (carefulSave_of_active hstate hget hcareful) hother

/-! ### Runs -/

/-- **The default account is usable** after every run in which no account gets the ID of the `BonjourAccount`; a
save keeps the ID of the default account, finds no unsaved changes elsewhere if it disables the default account, and
leaves no disabled account, new or renamed, under the ID that the setting holds; an account is deleted without an
unsaved ID, and as the default only if no other account is enabled; and an account is made the default without
unsaved changes. -/
theorem default_account_is_usable (available : Bool) (stored : Dict Unicode (Option Bool))
    (defaultId : Option Unicode) (first : Nat) (operations : List AccountOperation)
    (hcareful : Runs.Meets step (fun manager operation => manager.Careful operation)
      (load available stored defaultId first) operations) :
    (Runs.run step (load available stored defaultId first) operations).Usable ∧
      ∀ operation, (Runs.run step (load available stored defaultId first) operations).Careful operation →
        (Runs.run step (load available stored defaultId first) operations).Follows operation := by
  have hsound : (Runs.run step (load available stored defaultId first) operations).Sound :=
    Runs.invariant_run (fun manager : AccountManager => manager.Sound) (fun _ _ h hop => sound_step h hop)
      (sound_load available stored defaultId first) hcareful
  exact ⟨hsound.usable, fun _ hop => hsound.follows hop⟩

/-- Two enabled accounts, numbered 1 and 2. -/
def twoAccounts : Dict Unicode (Option Bool) :=
  (Dict.empty.set "alice@example.com".toList (some true)).set "bob@example.com".toList (some true)

/-- The other account takes the place of the default account when that is disabled, and stays when it is saved. -/
theorem default_account_is_usable_disabled :
    (Runs.run step (load true twoAccounts none 1)
        [.setEnabled 1 (some false), .change 2, .save 1 2, .delete 1]).Usable ∧
      ∀ operation,
        (Runs.run step (load true twoAccounts none 1)
          [.setEnabled 1 (some false), .change 2, .save 1 2, .delete 1]).Careful operation →
        (Runs.run step (load true twoAccounts none 1)
          [.setEnabled 1 (some false), .change 2, .save 1 2, .delete 1]).Follows operation :=
  default_account_is_usable true twoAccounts none 1 _ (by decide)

/-- The default account is renamed and is not the default any more; or it is deleted, and the other enabled account
does not take its place. -/
theorem not_default_account_is_usable :
    (¬ ∀ available stored defaultId first operations,
      (Runs.run step (load available stored defaultId first) operations).Usable ∧
        ∀ operation, (Runs.run step (load available stored defaultId first) operations).Follows operation) ∧
    ¬ (load false twoAccounts none 1).Follows (.delete 1) := by
  constructor
  · intro husable
    have hfollows := (husable false twoAccounts none 1 [.setId 1 "carol@example.com".toList]).2 (.save 1 1)
    have hget : (Runs.run step (load false twoAccounts none 1)
        [.setId 1 "carol@example.com".toList]).objects.get 1 =
          some { id := "carol@example.com".toList, oldId := "alice@example.com".toList, enabled := some true
                 oldEnabled := some true, state := .active } := by
      decide
    exact absurd (hfollows.renamed 1 1 _ rfl (by decide) hget rfl) (by decide)
  · intro hfollows
    have hget : (load false twoAccounts none 1).objects.get 1 =
          some { id := "alice@example.com".toList, oldId := "alice@example.com".toList, enabled := some true
                 oldEnabled := some true, state := .active } := by
      decide
    obtain ⟨m, _, hdefault, _⟩ :=
      hfollows.replaced 1 _ (by decide) hget (.inl ⟨rfl, rfl⟩) (by decide)
    rw [show ((load false twoAccounts none 1).step (.delete 1)).defaultAccount = none by decide] at hdefault
    cases hdefault

end AccountManager

end SipSimple.Account
