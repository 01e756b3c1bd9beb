import SipSimple.Account.BonjourNeighbours

/-!
# The notifications mirror the neighbours

Folding the notifications gives the neighbours in every run. What the code gets wrong is which files are open:
an error of a discovery or of a resolution closes the file through which the removal of a neighbour would be
noticed and leaves the neighbour. The end of registrations is posted for the transports of other files than
those closed, and for a registration that an update or an error closes it is not posted at all.
-/

namespace SipSimple.Account

/-! ### Replay -/

/-- A table after a notification: one is added that is absent, and changed or removed that is present. -/
def NeighbourNotification.fold (neighbours : List (ServiceDescription × NeighbourRecord)) :
    NeighbourNotification → Option (List (ServiceDescription × NeighbourRecord))
  | .didAdd neighbour record =>
      if neighbours.any (·.1 = neighbour) then none else some (neighbours ++ [(neighbour, record)])
  | .didUpdate neighbour record =>
      if neighbours.any (·.1 = neighbour) then
        some ((neighbours.filter fun other => other.1 ≠ neighbour) ++ [(neighbour, record)])
      else none
  | .didRemove neighbour record =>
      if (neighbour, record) ∈ neighbours then some (neighbours.filter fun other => other.1 ≠ neighbour) else none

namespace NeighbourTable

/-- The table that an observer of the notifications has. -/
def replay (posted : List NeighbourNotification) : Option (List (ServiceDescription × NeighbourRecord)) :=
  posted.foldlM NeighbourNotification.fold []

/-- Each neighbour has one record, and the notifications give them. -/
structure Mirrored (table : NeighbourTable) : Prop where
  keys : (table.neighbours.map Prod.fst).Nodup
  replay : replay table.posted = some table.neighbours

variable {table : NeighbourTable} {service : ServiceDescription} {record : NeighbourRecord}

theorem keys_filter {neighbours : List (ServiceDescription × NeighbourRecord)} (h : (neighbours.map Prod.fst).Nodup)
    (p : ServiceDescription × NeighbourRecord → Bool) : ((neighbours.filter p).map Prod.fst).Nodup :=
  h.sublist (List.filter_sublist.map Prod.fst)

theorem replay_append {posted more : List NeighbourNotification}
    {neighbours : List (ServiceDescription × NeighbourRecord)} (h : replay posted = some neighbours) :
    replay (posted ++ more) = more.foldlM NeighbourNotification.fold neighbours := by
  rw [replay, List.foldlM_append, show posted.foldlM NeighbourNotification.fold [] = some neighbours from h]
  rfl

theorem Mirrored.removeNeighbour (h : table.Mirrored) (service : ServiceDescription) :
    (table.removeNeighbour service).Mirrored := by
  rw [NeighbourTable.removeNeighbour]
  cases hfind : table.neighbours.find? (·.1 = service) with
  | none => exact h
  | some entry =>
      have hkey : entry.1 = service := by simpa using List.find?_some hfind
      have hmem : (service, entry.2) ∈ table.neighbours := by
        rw [← hkey]
        exact List.mem_of_find?_eq_some hfind
      refine ⟨keys_filter h.keys _, (replay_append h.replay).trans ?_⟩
      simp [NeighbourNotification.fold, hmem]

theorem Mirrored.setNeighbour (h : table.Mirrored) (service : ServiceDescription) (record : NeighbourRecord) :
    (table.setNeighbour service record).Mirrored := by
  constructor
  · show (((table.neighbours.filter fun other => other.1 ≠ service) ++ [(service, record)]).map Prod.fst).Nodup
    rw [List.map_append, List.nodup_append]
    refine ⟨keys_filter h.keys _, List.nodup_singleton _, ?_⟩
    intro left hleft right hright heq
    obtain ⟨entry, hentry, rfl⟩ := List.mem_map.mp hleft
    have hne := (List.mem_filter.mp hentry).2
    rw [List.map_singleton, List.mem_singleton] at hright
    exact of_decide_eq_true hne (heq.trans hright)
  · refine (replay_append h.replay).trans ?_
    by_cases hany : table.neighbours.any (·.1 = service) = true
    · rw [if_pos hany]
      simp only [List.foldlM_cons, List.foldlM_nil, NeighbourNotification.fold, if_pos hany]
      rfl
    · have hfilter : table.neighbours.filter (fun other => other.1 ≠ service) = table.neighbours := by
        refine List.filter_eq_self.mpr fun entry hentry => decide_eq_true fun heq => hany ?_
        exact List.any_eq_true.mpr ⟨entry, hentry, decide_eq_true heq⟩
      rw [if_neg hany]
      simp only [List.foldlM_cons, List.foldlM_nil, NeighbourNotification.fold, if_neg hany]
      rw [NeighbourTable.setNeighbour, hfilter]
      rfl

/-- Removing several neighbours leaves the others. -/
theorem foldlM_didRemove (gone : List (ServiceDescription × NeighbourRecord)) :
    ∀ neighbours : List (ServiceDescription × NeighbourRecord), (gone.map Prod.fst).Nodup →
      (∀ entry ∈ gone, entry ∈ neighbours) →
        (gone.map fun entry => NeighbourNotification.didRemove entry.1 entry.2).foldlM NeighbourNotification.fold neighbours =
          some (neighbours.filter fun entry => entry.1 ∉ gone.map Prod.fst) := by
  induction gone with
  | nil => intro neighbours _ _; simp
  | cons entry gone ih =>
      intro neighbours hnodup hsub
      obtain ⟨hnotin, hnodup⟩ := List.nodup_cons.mp hnodup
      have hmem : (entry.1, entry.2) ∈ neighbours := hsub entry List.mem_cons_self
      have hrest : ∀ other ∈ gone, other ∈ neighbours.filter fun other => other.1 ≠ entry.1 := fun other hother =>
        List.mem_filter.mpr ⟨hsub other (List.mem_cons_of_mem _ hother), decide_eq_true fun heq =>
          hnotin (heq ▸ List.mem_map_of_mem hother)⟩
      rw [List.map_cons, List.foldlM_cons, NeighbourNotification.fold, if_pos hmem]
      show (gone.map fun entry => NeighbourNotification.didRemove entry.1 entry.2).foldlM NeighbourNotification.fold _ = _
      rw [ih _ hnodup hrest, List.filter_filter]
      refine congrArg some (List.filter_congr fun other _ => ?_)
      rw [List.map_cons, Bool.eq_iff_iff]
      simp only [Bool.and_eq_true, decide_eq_true_eq, List.mem_cons, not_or, and_comm]

theorem Mirrored.chDiscover (h : table.Mirrored) (system : BonjourSystem) : (table.chDiscover system).Mirrored := by
  refine ⟨keys_filter h.keys _, (replay_append h.replay).trans ?_⟩
  rw [foldlM_didRemove _ _ (keys_filter h.keys _) fun entry hentry => (List.mem_filter.mp hentry).1]
  refine congrArg some (List.filter_congr fun entry hentry => decide_eq_decide.mpr ?_)
  constructor
  · intro hgone
    by_contra hunsupported
    exact hgone (List.mem_map_of_mem (List.mem_filter.mpr ⟨hentry, decide_eq_true hunsupported⟩))
  · intro hsupported hgone
    obtain ⟨other, hother, heq⟩ := List.mem_map.mp hgone
    obtain ⟨hmem, hunsupported⟩ := List.mem_filter.mp hother
    rw [List.inj_on_of_nodup_map h.keys hmem hentry heq] at hunsupported
    exact of_decide_eq_true hunsupported hsupported

theorem Mirrored.chStop (h : table.Mirrored) (caller : Nat) : (table.chStop caller).Mirrored := by
  refine ⟨List.nodup_nil, (replay_append h.replay).trans ?_⟩
  rw [foldlM_didRemove _ _ h.keys fun entry hentry => hentry]
  refine congrArg some (List.filter_eq_nil_iff.mpr fun entry hentry => ?_)
  simpa using List.mem_map_of_mem (f := Prod.fst) hentry

/-! ### Open files -/

end NeighbourTable

/-- A resolution of the service. -/
def BonjourFile.describes (service : ServiceDescription) : BonjourFile → Bool
  | .resolution _ _ _ description => description = service
  | _ => false

namespace NeighbourTable

/-- Each neighbour has an open resolution. -/
def Watched (files : List BonjourFile) (neighbours : List (ServiceDescription × NeighbourRecord)) : Prop :=
  ∀ entry ∈ neighbours, ∃ file ∈ files, file.describes entry.1 = true

instance (files : List BonjourFile) (neighbours : List (ServiceDescription × NeighbourRecord)) :
    Decidable (Watched files neighbours) :=
  inferInstanceAs (Decidable (∀ entry ∈ neighbours, ∃ file ∈ files, file.describes entry.1 = true))

/-- The discovery of an open resolution is open. -/
def Rooted (files : List BonjourFile) : Prop :=
  ∀ id parent transport service, .resolution id parent transport service ∈ files → .discovery parent transport ∈ files

/-- **The invariant between two steps.** -/
structure Sound (table : NeighbourTable) : Prop where
  mirrored : table.Mirrored
  watched : Watched table.services.files table.neighbours
  rooted : Rooted table.services.files

variable {table : NeighbourTable} {service : ServiceDescription} {files : List BonjourFile} {neighbours : List (ServiceDescription × NeighbourRecord)} {file : BonjourFile}

theorem Watched.mono {more : List BonjourFile} (h : Watched files neighbours) (hsub : ∀ file ∈ files, file ∈ more) :
    Watched more neighbours := fun entry hentry => by
  obtain ⟨file, hfile, hdescribes⟩ := h entry hentry
  exact ⟨file, hsub file hfile, hdescribes⟩

/-- What is no resolution can go. -/
theorem Watched.filter (h : Watched files neighbours) {p : BonjourFile → Bool}
    (hp : ∀ file ∈ files, ∀ service, file.describes service = true → p file = true) : Watched (files.filter p) neighbours :=
  fun entry hentry => by
    obtain ⟨file, hfile, hdescribes⟩ := h entry hentry
    exact ⟨file, List.mem_filter.mpr ⟨hfile, hp file hfile entry.1 hdescribes⟩, hdescribes⟩

theorem Watched.erase (h : Watched files neighbours) (hfile : ∀ service, file.describes service = false) :
    Watched (files.erase file) neighbours := fun entry hentry => by
  obtain ⟨other, hother, hdescribes⟩ := h entry hentry
  refine ⟨other, (List.mem_erase_of_ne fun heq => ?_).mpr hother, hdescribes⟩
  rw [heq, hfile] at hdescribes
  exact Bool.false_ne_true hdescribes

theorem Rooted.append (h : Rooted files) {more : List BonjourFile}
    (hmore : ∀ id parent transport service, .resolution id parent transport service ∈ more →
      .discovery parent transport ∈ files) : Rooted (files ++ more) := by
  intro id parent transport service hmem
  rcases List.mem_append.mp hmem with hmem | hmem
  · exact List.mem_append_left _ (h id parent transport service hmem)
  · exact List.mem_append_left _ (hmore id parent transport service hmem)

theorem Rooted.filter (h : Rooted files) {p : BonjourFile → Bool}
    (hp : ∀ id parent transport service, p (.resolution id parent transport service) = true →
      p (.discovery parent transport) = true) : Rooted (files.filter p) := by
  intro id parent transport service hmem
  obtain ⟨hmem, hkept⟩ := List.mem_filter.mp hmem
  exact List.mem_filter.mpr ⟨h id parent transport service hmem, hp id parent transport service hkept⟩

/-- What is no discovery can go. -/
theorem Rooted.erase (h : Rooted files) (hfile : file.isDiscovery = false) : Rooted (files.erase file) := by
  intro id parent transport service hmem
  refine (List.mem_erase_of_ne fun heq => ?_).mpr (h id parent transport service (List.mem_of_mem_erase hmem))
  rw [← heq] at hfile
  exact Bool.false_ne_true hfile.symm

/-! ### What a callback does to the files -/

/-- The condition on a callback. -/
def CarefulResult (file : BonjourFile) (table : NeighbourTable) : BonjourResult → Prop
  | .register error => file.isRegistration = true → error = true → file ∉ table.services.files
  | .browse error _ _ _ =>
      file ∈ table.services.files ∧
        (error = true → Watched (table.services.files.filter fun other => other ≠ file && !other.isResolution file.id)
          table.neighbours)
  | .resolve error _ =>
      file ∈ table.services.files ∧ (error = true → Watched (table.services.files.erase file) table.neighbours)

instance : DecidablePred (CarefulResult file table) := fun result => by
  cases result <;> unfold CarefulResult <;> infer_instance

theorem mem_removeNeighbour {entry : ServiceDescription × NeighbourRecord}
    (h : entry ∈ (table.removeNeighbour service).neighbours) : entry ∈ table.neighbours ∧ entry.1 ≠ service := by
  rw [removeNeighbour] at h
  split at h
  next hnone =>
    refine ⟨h, fun heq => ?_⟩
    exact List.find?_eq_none.mp hnone entry h (decide_eq_true heq)
  next => exact ⟨(List.mem_filter.mp h).1, of_decide_eq_true (List.mem_filter.mp h).2⟩

theorem isDiscovery_eq (h : file.isDiscovery = true) : file = .discovery file.id file.transport := by
  cases file with
  | discovery => rfl
  | _ => exact nomatch h

theorem Sound.removeNeighbour (h : table.Sound) (service : ServiceDescription) : (table.removeNeighbour service).Sound where
  mirrored := h.mirrored.removeNeighbour service
  watched entry hentry := by
    rw [services_removeNeighbour]
    exact h.watched entry (mem_removeNeighbour hentry).1
  rooted := by
    rw [services_removeNeighbour]
    exact h.rooted

/-- The removal of a neighbour and of one resolution of it. -/
theorem Sound.removed {services : BonjourServices} (h : table.Sound) (hfiles : services.files = table.services.files.erase file)
    (hdescribes : ∀ other, other ≠ service → file.describes other = false) (hfile : file.isDiscovery = false) :
    (NeighbourTable.removeNeighbour { table with services } service).Sound := by
  have hmirrored : Mirrored { table with services } := ⟨h.mirrored.keys, h.mirrored.replay⟩
  refine ⟨hmirrored.removeNeighbour service, fun entry hentry => ?_, ?_⟩
  · obtain ⟨hmem, hne⟩ := mem_removeNeighbour hentry
    obtain ⟨other, hother, hother'⟩ := h.watched entry hmem
    rw [services_removeNeighbour, hfiles]
    refine ⟨other, (List.mem_erase_of_ne fun heq => ?_).mpr hother, hother'⟩
    rw [heq, hdescribes entry.1 hne] at hother'
    exact Bool.false_ne_true hother'
  · rw [services_removeNeighbour, hfiles]
    exact h.rooted.erase hfile

theorem Sound.browseCb (h : table.Sound) {error add refused : Bool} (hdiscovery : file.isDiscovery = true)
    (hcareful : CarefulResult file table (.browse error service add refused)) :
    (table.browseCb file error service add refused).Sound := by
  obtain ⟨hfile, herror⟩ := hcareful
  have hkept : ∀ {services : BonjourServices}, services.files = table.services.files →
      NeighbourTable.Sound { table with services } := fun hfiles =>
    ⟨⟨h.mirrored.keys, h.mirrored.replay⟩, hfiles ▸ h.watched, hfiles ▸ h.rooted⟩
  rw [NeighbourTable.browseCb, BonjourServices.browseCb]
  by_cases hfailed : error = true
  · rw [if_neg (by simp [hfailed]), if_pos hfailed, if_neg (not_not.mpr hfile)]
    refine ⟨⟨h.mirrored.keys, h.mirrored.replay⟩, herror hfailed, h.rooted.filter fun id parent transport other hkeep => ?_⟩
    have hparent : parent ≠ file.id := by
      have := (Bool.and_eq_true _ _ ▸ hkeep).2
      simpa [BonjourFile.isResolution] using this
    have hother : BonjourFile.discovery parent transport ≠ file := fun heq => hparent (heq ▸ rfl)
    simp [hother, BonjourFile.isResolution]
  · rw [Bool.not_eq_true] at hfailed
    rw [if_neg (by simp [hfailed] : ¬ error = true)]
    by_cases hlocal : service.domain = "local."
    · rw [if_neg (not_not.mpr hlocal)]
      cases add with
      | true =>
          rw [if_neg (by simp), if_pos rfl]
          split_ifs with hany hrefused
          · exact hkept rfl
          · exact hkept rfl
          · refine ⟨⟨h.mirrored.keys, h.mirrored.replay⟩, h.watched.mono fun _ => List.mem_append_left _,
              h.rooted.append fun id parent transport other hmem => ?_⟩
            obtain ⟨-, rfl, rfl, -⟩ := BonjourFile.resolution.inj (List.mem_singleton.mp hmem)
            rwa [← isDiscovery_eq hdiscovery]
      | false =>
          rw [if_neg Bool.false_ne_true]
          cases hfind : table.services.files.find? (·.resolves file.id service) with
          | none =>
              rw [if_neg]
              · exact hkept rfl
              · rintro ⟨-, -, -, hany⟩
                obtain ⟨other, hother, hresolves⟩ := List.any_eq_true.mp hany
                exact List.find?_eq_none.mp hfind other hother hresolves
          | some resolution =>
              have hresolves := List.find?_some hfind
              cases resolution with
              | resolution id parent transport other =>
                  obtain ⟨-, hother⟩ := Bool.and_eq_true _ _ ▸ hresolves
                  rw [if_pos ⟨hfailed, hlocal, rfl, List.any_eq_true.mpr ⟨_, List.mem_of_find?_eq_some hfind, hresolves⟩⟩]
                  refine h.removed rfl (fun description hne => ?_) rfl
                  exact decide_eq_false fun heq => hne (heq.symm.trans (of_decide_eq_true hother))
              | _ => exact absurd hresolves Bool.false_ne_true
    · rw [if_neg fun hall => hlocal hall.2.1, if_pos hlocal]
      exact hkept rfl

theorem Sound.resolveCb (h : table.Sound) {system : BonjourSystem} {error : Bool} {found : FoundRecord}
    (hdescribes : file.describes service = true) (hdiscovery : file.isDiscovery = false)
    (hcareful : CarefulResult file table (.resolve error found)) :
    (table.resolveCb system file service error found).Sound := by
  obtain ⟨hfile, herror⟩ := hcareful
  cases error with
  | true =>
      have hgone : (table.resolveCb system file service true found).services.files = table.services.files.erase file := by
        rw [services_resolveCb]
        rfl
      refine ⟨⟨h.mirrored.keys, h.mirrored.replay⟩, ?_, ?_⟩
      · rw [hgone]
        exact herror rfl
      · rw [hgone]
        exact h.rooted.erase hdiscovery
  | false =>
      cases found with
      | malformed => exact h
      | record neighbour own noContact =>
          rw [NeighbourTable.resolveCb.eq_def, BonjourServices.resolveCb.eq_def]
          simp only [Bool.false_eq_true, if_false, FoundRecord.resolved]
          split_ifs
          · exact ⟨⟨h.mirrored.keys, h.mirrored.replay⟩, h.watched, h.rooted⟩
          · have hmirrored := h.mirrored.setNeighbour service neighbour
            refine ⟨⟨hmirrored.keys, hmirrored.replay⟩, fun entry hentry => ?_, h.rooted⟩
            rcases List.mem_append.mp hentry with hold | hnew
            · exact h.watched entry (List.mem_filter.mp hold).1
            · rw [List.mem_singleton.mp hnew]
              exact ⟨file, hfile, hdescribes⟩
          · have hsame : NeighbourTable.Sound { table with services := table.services.removeNeighbour service } :=
              ⟨⟨h.mirrored.keys, h.mirrored.replay⟩, h.watched, h.rooted⟩
            exact hsame.removeNeighbour service

theorem Sound.registerCb (h : table.Sound) {error : Bool} (hfile : error = true → file ∉ table.services.files) :
    NeighbourTable.Sound { table with services := table.services.registerCb file error } := by
  rw [BonjourServices.registerCb, if_pos]
  · exact ⟨⟨h.mirrored.keys, h.mirrored.replay⟩, h.watched, h.rooted⟩
  · cases error with
    | true => exact .inr (hfile rfl)
    | false => exact .inl rfl

/-- **One callback keeps the table.** -/
theorem Sound.callback (h : table.Sound) {system : BonjourSystem} {result : BonjourResult}
    (hcareful : CarefulResult file table result) : (table.callback system file result).Sound := by
  cases result with
  | register error =>
      rw [NeighbourTable.callback]
      split_ifs with hregistration
      · exact h.registerCb (hcareful hregistration)
      · exact h
  | browse error service add refused =>
      rw [NeighbourTable.callback]
      split_ifs with hdiscovery
      · exact h.browseCb hdiscovery hcareful
      · exact h
  | resolve error found =>
      cases file with
      | resolution id parent transport service => exact h.resolveCb (decide_eq_true rfl) rfl hcareful
      | _ => exact h

/-! ### Registrations -/

/-- No registration is closed. -/
def RegistrationsKept (before after : BonjourServices) : Prop :=
  ∀ file ∈ before.files, file.isRegistration = true → file ∈ after.files

theorem RegistrationsKept.trans {first second third : BonjourServices} (h : RegistrationsKept first second)
    (h' : RegistrationsKept second third) : RegistrationsKept first third :=
  fun file hfile hregistration => h' file (h file hfile hregistration) hregistration

theorem RegistrationsKept.append {services next : BonjourServices} {more : List BonjourFile}
    (h : next.files = services.files ++ more) : RegistrationsKept services next :=
  fun _ hfile _ => h ▸ List.mem_append_left _ hfile

theorem registrationsKept_browseCb (services : BonjourServices) (hdiscovery : file.isDiscovery = true)
    (error add refused : Bool) : RegistrationsKept services (services.browseCb file error service add refused) := by
  intro other hother hregistration
  have hleft : other ∈ services.files.filter fun other => other ≠ file && !other.isResolution file.id := by
    refine List.mem_filter.mpr ⟨hother, ?_⟩
    cases other with
    | registration id transport =>
        have hne : BonjourFile.registration id transport ≠ file := fun heq => by
          rw [← heq] at hdiscovery
          exact nomatch hdiscovery
        simp [hne, BonjourFile.isResolution]
    | _ => exact nomatch hregistration
  rw [BonjourServices.browseCb]
  split_ifs
  · exact hleft
  · exact hleft
  · exact hother
  · exact hother
  · exact hother
  · exact hother
  · exact List.mem_append_left _ hother
  · split
    · exact hother
    next resolution hfind =>
      refine (List.mem_erase_of_ne fun heq => ?_).mpr hother
      have hresolves := List.find?_some hfind
      rw [← heq] at hresolves
      cases other with
      | registration id transport => exact nomatch hresolves
      | _ => exact nomatch hregistration

theorem registrationsKept_resolveCb (services : BonjourServices) (system : BonjourSystem)
    (hfile : file.isRegistration = false) (error : Bool) (record : ResolvedRecord) :
    RegistrationsKept services (services.resolveCb system file service error record) := by
  intro other hother hregistration
  rw [BonjourServices.resolveCb.eq_def]
  split_ifs
  · refine (List.mem_erase_of_ne fun heq => ?_).mpr hother
    rw [heq, hfile] at hregistration
    exact Bool.false_ne_true hregistration
  · cases record with
    | malformed => exact hother
    | record transport own noContact =>
        dsimp only
        split_ifs <;> exact hother

theorem registrationsKept_callback {system : BonjourSystem} {result : BonjourResult}
    (hcareful : CarefulResult file table result) :
    RegistrationsKept table.services (table.callback system file result).services := by
  rw [services_callback]
  cases result with
  | register error =>
      intro other hother _
      dsimp only [BonjourResult.callback, BonjourServices.callback]
      split_ifs with hregistration
      · rw [BonjourServices.registerCb, if_pos]
        · exact hother
        · cases error with
          | true => exact .inr (hcareful hregistration rfl)
          | false => exact .inl rfl
      · exact hother
  | browse error service add refused =>
      dsimp only [BonjourResult.callback, BonjourServices.callback]
      split_ifs with hdiscovery
      · exact registrationsKept_browseCb _ hdiscovery error add refused
      · exact fun other hother _ => hother
  | resolve error found =>
      cases file with
      | resolution id parent transport service => exact registrationsKept_resolveCb _ _ rfl error _
      | _ => exact fun other hother _ => hother

/-! ### Commands -/

/-- A command opens files that are no resolutions. -/
def Opens (before after : BonjourServices) : Prop :=
  ∃ more, after.files = before.files ++ more ∧ ∀ id parent transport service, .resolution id parent transport service ∉ more

theorem opens_foldl {open? : BonjourServices → Transport → BonjourServices}
    (hopens : ∀ services transport, Opens services (open? services transport)) (transports : List Transport) :
    ∀ services, Opens services (transports.foldl open? services) := by
  induction transports with
  | nil => exact fun services => ⟨[], (List.append_nil _).symm, fun _ _ _ _ => List.not_mem_nil⟩
  | cons transport transports ih =>
      intro services
      obtain ⟨first, hfirst, hnone⟩ := hopens services transport
      obtain ⟨rest, hrest, hnone'⟩ := ih (open? services transport)
      refine ⟨first ++ rest, by rw [List.foldl_cons, hrest, hfirst, List.append_assoc], fun id parent transport service hmem => ?_⟩
      exact (List.mem_append.mp hmem).elim (hnone _ _ _ _) (hnone' _ _ _ _)

theorem opens_registerTransport (system : BonjourSystem) (services : BonjourServices) (transport : Transport) :
    Opens services (BonjourServices.registerTransport system services transport) := by
  rw [BonjourServices.registerTransport]
  split_ifs
  · exact ⟨[], (List.append_nil _).symm, fun _ _ _ _ => List.not_mem_nil⟩
  · exact ⟨_, rfl, fun _ _ _ _ hmem => nomatch List.mem_singleton.mp hmem⟩

theorem opens_discoverTransport (system : BonjourSystem) (services : BonjourServices) (transport : Transport) :
    Opens services (BonjourServices.discoverTransport system services transport) := by
  rw [BonjourServices.discoverTransport]
  split_ifs
  · exact ⟨[], (List.append_nil _).symm, fun _ _ _ _ => List.not_mem_nil⟩
  · exact ⟨_, rfl, fun _ _ _ _ hmem => nomatch List.mem_singleton.mp hmem⟩

theorem opens_chRegister (services : BonjourServices) (system : BonjourSystem) :
    Opens services (services.chRegister system) := by
  obtain ⟨more, hmore, hnone⟩ := opens_foldl (opens_registerTransport system)
    (system.supportedTransports.filter (· ∉ (services.files.filter (·.isRegistration)).map (·.transport)))
    { services with registerTimer := .unset }
  refine ⟨more, ?_, hnone⟩
  rw [BonjourServices.chRegister]
  split_ifs <;> exact hmore

/-- The files that `_CH_discover` leaves. -/
def discovered (system : BonjourSystem) (files : List BonjourFile) : List BonjourFile :=
  files.filter fun file => file.isRegistration || file.transport ∈ system.discoverableTransports

theorem opens_chDiscover (services : BonjourServices) (system : BonjourSystem) :
    Opens { services with files := discovered system services.files } (services.chDiscover system) := by
  obtain ⟨more, hmore, hnone⟩ := opens_foldl (opens_discoverTransport system)
    (system.discoverableTransports.filter
      (· ∉ ((discovered system services.files).filter (·.isDiscovery)).map (·.transport)))
    { services with
      discoverTimer := .unset
      files := discovered system services.files
      neighbours := services.neighbours.filter fun entry => entry.2 ∈ system.supportedTransports }
  refine ⟨more, ?_, hnone⟩
  rw [BonjourServices.chDiscover]
  split_ifs <;> exact hmore

theorem Sound.opens {services : BonjourServices} (h : table.Sound) (hopens : Opens table.services services) :
    NeighbourTable.Sound { table with services } := by
  obtain ⟨more, hmore, hnone⟩ := hopens
  refine ⟨⟨h.mirrored.keys, h.mirrored.replay⟩, ?_, ?_⟩
  · rw [hmore]
    exact h.watched.mono fun _ => List.mem_append_left _
  · rw [hmore]
    exact h.rooted.append fun id parent transport service hmem => absurd hmem (hnone id parent transport service)

/-- The condition on a file that is ready. -/
def CarefulFile (found : BonjourResults) (table : NeighbourTable) (id : Nat) : Prop :=
  match table.services.files.find? (·.id = id) with
  | none => True
  | some file => Runs.Meets (callback found.system file) (CarefulResult file) table (found.results id)

/-- The condition on a command. -/
def CarefulCommand (table : NeighbourTable) (found : BonjourResults) : BonjourCommand → Prop
  | .unregister =>
      ∀ file ∈ table.services.files, ∃ other ∈ table.services.files,
        other.isRegistration ≠ file.isRegistration ∧ other.transport = file.transport
  | .updateRegistrations =>
      ∀ file ∈ table.services.files, file.isRegistration = true → file.transport ∈ found.transportList
  | .discover =>
      Watched (discovered found.system table.services.files)
        (table.neighbours.filter fun entry => entry.2.transport ∈ found.system.supportedTransports)
  | .processResults files => Runs.Meets (processFile found) (CarefulFile found) table files
  | .stop _ =>
      ∀ file ∈ table.services.files, ∃ other ∈ table.services.files,
        other.isRegistration = true ∧ other.transport = file.transport
  | _ => True

instance (found : BonjourResults) (table : NeighbourTable) (id : Nat) : Decidable (CarefulFile found table id) := by
  unfold CarefulFile
  split <;> infer_instance

instance (found : BonjourResults) (table : NeighbourTable) (command : BonjourCommand) :
    Decidable (CarefulCommand table found command) := by
  cases command <;> unfold CarefulCommand <;> infer_instance

theorem Sound.processFile (h : table.Sound) {found : BonjourResults} {id : Nat} (hcareful : CarefulFile found table id) :
    (table.processFile found id).Sound := by
  rw [CarefulFile] at hcareful
  rw [NeighbourTable.processFile]
  cases hfind : table.services.files.find? (·.id = id) with
  | none => exact h
  | some file =>
      rw [hfind] at hcareful
      exact Runs.invariant_run NeighbourTable.Sound (fun _ _ h hcareful => h.callback hcareful) h hcareful

theorem registrationsKept_processFile {found : BonjourResults} {id : Nat} (hcareful : CarefulFile found table id) :
    RegistrationsKept table.services (table.processFile found id).services := by
  rw [CarefulFile] at hcareful
  rw [NeighbourTable.processFile]
  cases hfind : table.services.files.find? (·.id = id) with
  | none => exact fun _ hfile _ => hfile
  | some file =>
      rw [hfind] at hcareful
      exact Runs.invariant_run (fun next : NeighbourTable => RegistrationsKept table.services next.services)
        (fun _ _ h hcareful => h.trans (registrationsKept_callback hcareful)) (fun _ hfile _ => hfile) hcareful

theorem Sound.handler (h : table.Sound) {found : BonjourResults} {command : BonjourCommand}
    (hcareful : CarefulCommand table found command) : (table.handler found command).Sound := by
  cases command with
  | register => exact h.opens (opens_chRegister _ _)
  | unregister =>
      refine ⟨⟨h.mirrored.keys, h.mirrored.replay⟩, h.watched.filter fun file _ service hdescribes => ?_,
        h.rooted.filter fun _ _ _ _ _ => rfl⟩
      cases file with
      | resolution => rfl
      | _ => exact nomatch hdescribes
  | updateRegistrations =>
      have hfiles : (table.services.chUpdateRegistrations found.system).files = table.services.files.filter fun file =>
          !(file.isRegistration && file.transport ∉ found.transportList) := by
        rw [BonjourServices.chUpdateRegistrations]
        split_ifs <;> rfl
      refine ⟨⟨h.mirrored.keys, h.mirrored.replay⟩, ?_, ?_⟩
      · show Watched (table.services.chUpdateRegistrations found.system).files table.neighbours
        rw [hfiles]
        refine h.watched.filter fun file _ service hdescribes => ?_
        cases file with
        | resolution => rfl
        | _ => exact nomatch hdescribes
      · show Rooted (table.services.chUpdateRegistrations found.system).files
        rw [hfiles]
        exact h.rooted.filter fun _ _ _ _ _ => rfl
  | discover =>
      obtain ⟨more, hmore, hnone⟩ := opens_chDiscover table.services found.system
      have hmirrored := h.mirrored.chDiscover found.system
      refine ⟨⟨hmirrored.keys, hmirrored.replay⟩, ?_, ?_⟩
      · show Watched (table.services.chDiscover found.system).files _
        rw [hmore]
        exact hcareful.mono fun _ => List.mem_append_left _
      · show Rooted (table.services.chDiscover found.system).files
        rw [hmore]
        have hrooted : Rooted (discovered found.system table.services.files) := by
          rw [discovered]
          exact h.rooted.filter fun _ _ _ _ hkept => hkept
        exact hrooted.append fun id parent transport service hmem => absurd hmem (hnone id parent transport service)
  | processResults files =>
      exact Runs.invariant_run NeighbourTable.Sound (fun _ _ h hcareful => h.processFile hcareful) h hcareful
  | stop caller =>
      have hmirrored := h.mirrored.chStop caller
      exact ⟨⟨hmirrored.keys, hmirrored.replay⟩, nofun, nofun⟩
  | exit => exact h

/-! ### The ends of registrations -/

/-- The end of registrations is posted for the transports of those closed. -/
def EndsPosted (table : NeighbourTable) : Prop := ∀ transport, transport ∈ table.ended ↔ transport ∈ table.closed

theorem closedRegistrations_of_kept {before after : BonjourServices} (h : RegistrationsKept before after) :
    closedRegistrations before after = [] := by
  rw [closedRegistrations, List.filter_eq_nil_iff.mpr, List.map_nil]
  intro file hfile hclosed
  obtain ⟨hregistration, hgone⟩ := Bool.and_eq_true _ _ ▸ hclosed
  exact of_decide_eq_true hgone (h file hfile hregistration)

theorem mem_closedRegistrations {before after : BonjourServices} {transport : Transport} :
    transport ∈ closedRegistrations before after ↔
      ∃ file ∈ before.files, file.isRegistration = true ∧ file ∉ after.files ∧ file.transport = transport := by
  simp [closedRegistrations, and_assoc]

@[simp] theorem ended_removeNeighbour (service : ServiceDescription) :
    (table.removeNeighbour service).ended = table.ended := by
  rw [removeNeighbour]
  split <;> rfl

theorem ended_callback (system : BonjourSystem) (file : BonjourFile) (result : BonjourResult) :
    (table.callback system file result).ended = table.ended := by
  cases result with
  | register error => rw [callback]; split_ifs <;> rfl
  | browse error service add refused =>
      rw [callback, browseCb]
      split_ifs
      · exact ended_removeNeighbour service
      · rfl
      · rfl
  | resolve error found =>
      cases file with
      | resolution id parent transport service =>
          cases found with
          | malformed => cases error <;> rfl
          | record neighbour own noContact =>
              cases error with
              | true => rfl
              | false =>
                  show (if _ then _ else if _ then _ else _ : NeighbourTable).ended = table.ended
                  split_ifs
                  · rfl
                  · rfl
                  · exact ended_removeNeighbour service
      | _ => rfl

theorem ended_processFile (found : BonjourResults) (id : Nat) : (table.processFile found id).ended = table.ended := by
  rw [processFile]
  split
  next => rfl
  next file _ =>
    exact Runs.always_run (fun next : NeighbourTable => next.ended = table.ended)
      (fun next result hnext => (ended_callback found.system file result).trans hnext) rfl (found.results id)

theorem ends_handler (hended : table.ended = []) {found : BonjourResults} {command : BonjourCommand}
    (hcareful : CarefulCommand table found command) (transport : Transport) :
    transport ∈ (table.handler found command).ended ↔
      transport ∈ closedRegistrations table.services (table.handler found command).services := by
  have hnone : (table.handler found command).ended = [] →
      RegistrationsKept table.services (table.handler found command).services →
        (transport ∈ (table.handler found command).ended ↔
          transport ∈ closedRegistrations table.services (table.handler found command).services) :=
    fun hended hkept => by rw [hended, closedRegistrations_of_kept hkept]
  cases command with
  | register =>
      obtain ⟨more, hmore, -⟩ := opens_chRegister table.services found.system
      exact hnone hended (.append hmore)
  | unregister =>
      rw [mem_closedRegistrations]
      show transport ∈ (table.services.files.filter fun file => !file.isRegistration).map BonjourFile.transport ↔
        ∃ file ∈ table.services.files, file.isRegistration = true ∧
          file ∉ table.services.files.filter (fun file => !file.isRegistration) ∧ file.transport = transport
      constructor
      · intro hleft
        obtain ⟨file, hfile, rfl⟩ := List.mem_map.mp hleft
        obtain ⟨hfile, hother⟩ := List.mem_filter.mp hfile
        obtain ⟨other, hmem, hne, heq⟩ := hcareful file hfile
        have hregistration : other.isRegistration = true := by
          rw [Bool.not_eq_true'] at hother
          rw [hother] at hne
          exact Bool.not_eq_false _ ▸ hne
        exact ⟨other, hmem, hregistration, by simp [hregistration], heq⟩
      · rintro ⟨file, hfile, hregistration, -, rfl⟩
        obtain ⟨other, hmem, hne, heq⟩ := hcareful file hfile
        rw [hregistration] at hne
        exact List.mem_map.mpr ⟨other, List.mem_filter.mpr ⟨hmem, by simpa using hne⟩, heq⟩
  | updateRegistrations =>
      refine hnone hended fun file hfile hregistration => ?_
      show file ∈ (table.services.chUpdateRegistrations found.system).files
      have hkept : file ∈ table.services.files.filter fun file =>
          !(file.isRegistration && file.transport ∉ found.transportList) :=
        List.mem_filter.mpr ⟨hfile, by simp [hcareful file hfile hregistration]⟩
      rw [BonjourServices.chUpdateRegistrations]
      split_ifs <;> exact hkept
  | discover =>
      obtain ⟨more, hmore, -⟩ := opens_chDiscover table.services found.system
      refine hnone hended fun file hfile hregistration => ?_
      show file ∈ (table.services.chDiscover found.system).files
      rw [hmore]
      exact List.mem_append_left _ (List.mem_filter.mpr ⟨hfile, by rw [hregistration]; rfl⟩)
  | processResults files =>
      have hkept : RegistrationsKept table.services (table.handler found (.processResults files)).services :=
        Runs.invariant_run (fun next : NeighbourTable => RegistrationsKept table.services next.services)
          (fun _ _ h hcareful => h.trans (registrationsKept_processFile hcareful)) (fun _ hfile _ => hfile) hcareful
      have hsame : (table.handler found (.processResults files)).ended = table.ended :=
        Runs.always_run (fun next : NeighbourTable => next.ended = table.ended)
          (fun next id hnext => (ended_processFile found id).trans hnext) rfl files
      exact hnone (hsame.trans hended) hkept
  | stop caller =>
      rw [mem_closedRegistrations]
      show transport ∈ table.services.files.map BonjourFile.transport ↔
        ∃ file ∈ table.services.files, file.isRegistration = true ∧ file ∉ [] ∧ file.transport = transport
      constructor
      · intro hmem
        obtain ⟨file, hfile, rfl⟩ := List.mem_map.mp hmem
        obtain ⟨other, hother, hregistration, heq⟩ := hcareful file hfile
        exact ⟨other, hother, hregistration, List.not_mem_nil, heq⟩
      · rintro ⟨file, hfile, -, -, rfl⟩
        exact List.mem_map_of_mem hfile
  | exit => exact hnone hended fun _ hfile _ => hfile

/-! ### Runs -/

/-- The condition on a step. -/
def Careful (table : NeighbourTable) : Input → Prop
  | .other _ _ => True
  | .handleCommand found =>
      table.services.loops ≠ 0 → table.services.started = true →
        match table.services.commandChannel with
        | [] => True
        | command :: commands =>
            CarefulCommand { table with ended := [], services := { table.services with commandChannel := commands } }
              found command

instance (table : NeighbourTable) (input : Input) : Decidable (Careful table input) := by
  cases input with
  | other => exact inferInstanceAs (Decidable True)
  | handleCommand found =>
      unfold Careful
      cases table.services.commandChannel with
      | nil => exact inferInstanceAs (Decidable (_ → _ → True))
      | cons command commands => infer_instance

theorem files_step {services : BonjourServices} {input : BonjourServices.Input}
    (hother : ∀ system, input ≠ .handleCommand system) : (services.step input).files = services.files := by
  cases input with
  | handleCommand system => exact absurd rfl (hother system)
  | deactivated caller =>
      show (services.deactivated caller).files = services.files
      rw [BonjourServices.deactivated]
      split_ifs <;> rfl
  | networkConditionsDidChange =>
      show services.networkConditionsDidChange.files = services.files
      rw [BonjourServices.networkConditionsDidChange]
      split_ifs <;> rfl
  | discoverTimerFires => rw [BonjourServices.step]; split_ifs <;> rfl
  | registerTimerFires => rw [BonjourServices.step]; split_ifs <;> rfl
  | updateTimerFires => rw [BonjourServices.step]; split_ifs <;> rfl
  | _ => rfl

/-- What the notifications and the files say of the neighbours and the registrations. -/
structure Mirrors (table : NeighbourTable) : Prop where
  /-- Folding the notifications gives the neighbours. -/
  replay : replay table.posted = some table.neighbours
  /-- Every neighbour has an open resolution, whose discovery is open. -/
  watched : ∀ entry ∈ table.neighbours, ∃ id parent transport,
    .resolution id parent transport entry.1 ∈ table.services.files ∧ .discovery parent transport ∈ table.services.files
  ends : table.EndsPosted

theorem Sound.step (h : table.Sound) {input : Input} (hcareful : Careful table input) :
    (table.step input).Sound ∧ (table.step input).EndsPosted := by
  have hstart : NeighbourTable.Sound { table with ended := [] } := ⟨⟨h.mirrored.keys, h.mirrored.replay⟩, h.watched, h.rooted⟩
  cases input with
  | other input hother =>
      have hfiles : (table.services.step input).files = table.services.files := files_step hother
      refine ⟨⟨⟨h.mirrored.keys, h.mirrored.replay⟩, ?_, ?_⟩, fun transport => ?_⟩
      · show Watched (table.services.step input).files table.neighbours
        rw [hfiles]
        exact h.watched
      · show Rooted (table.services.step input).files
        rw [hfiles]
        exact h.rooted
      · show transport ∈ [] ↔ transport ∈ closedRegistrations table.services (table.services.step input)
        rw [closedRegistrations_of_kept fun file hfile _ => hfiles ▸ hfile]
  | handleCommand found =>
      have hkeep : ∀ services : BonjourServices, services.files = table.services.files →
          handle { table with ended := [] } (.handleCommand found) = { table with ended := [], services } →
            (table.step (.handleCommand found)).Sound ∧ (table.step (.handleCommand found)).EndsPosted := by
        intro services hfiles hhandle
        rw [NeighbourTable.step, hhandle]
        refine ⟨⟨⟨h.mirrored.keys, h.mirrored.replay⟩, hfiles ▸ h.watched, hfiles ▸ h.rooted⟩, fun transport => ?_⟩
        show transport ∈ [] ↔ transport ∈ closedRegistrations table.services services
        rw [closedRegistrations_of_kept fun file hfile _ => hfiles ▸ hfile]
      by_cases hloops : table.services.loops = 0
      · exact hkeep table.services rfl (by rw [handle, NeighbourTable.handleCommand, if_pos hloops])
      cases hcommands : table.services.commandChannel with
      | nil => exact hkeep table.services rfl (by rw [handle, NeighbourTable.handleCommand, if_neg hloops, hcommands])
      | cons command commands =>
          by_cases hexit : command = .exit
          · subst hexit
            refine hkeep (table.services.handleCommand found.system) ?_ ?_
            · rw [BonjourServices.handleCommand, if_neg hloops, hcommands]
            · rw [handle, NeighbourTable.handleCommand, if_neg hloops, hcommands]
          by_cases hstarted : table.services.started = true
          · rw [Careful, hcommands] at hcareful
            have hcommand := hcareful hloops hstarted
            have hnext : NeighbourTable.Sound
                { table with ended := [], services := { table.services with commandChannel := commands } } :=
              ⟨⟨h.mirrored.keys, h.mirrored.replay⟩, h.watched, h.rooted⟩
            have hhandle : handle { table with ended := [] } (.handleCommand found) =
                NeighbourTable.handler { table with ended := [], services := { table.services with commandChannel := commands } }
                  found command := by
              rw [handle, NeighbourTable.handleCommand, if_neg hloops, hcommands]
              cases command with
              | exit => exact absurd rfl hexit
              | _ => exact if_pos hstarted
            have hsound := hnext.handler hcommand
            rw [NeighbourTable.step, hhandle]
            exact ⟨⟨⟨hsound.mirrored.keys, hsound.mirrored.replay⟩, hsound.watched, hsound.rooted⟩,
              ends_handler rfl hcommand⟩
          · refine hkeep { table.services with commandChannel := commands } rfl ?_
            rw [handle, NeighbourTable.handleCommand, if_neg hloops, hcommands]
            cases command with
            | exit => exact absurd rfl hexit
            | _ => exact if_neg hstarted

theorem Sound.mirrors (h : table.Sound) (hends : table.EndsPosted) : table.Mirrors where
  replay := h.mirrored.replay
  watched entry hentry := by
    obtain ⟨file, hfile, hdescribes⟩ := h.watched entry hentry
    cases file with
    | resolution id parent transport service =>
        obtain rfl := of_decide_eq_true hdescribes
        exact ⟨id, parent, transport, hfile, h.rooted id parent transport _ hfile⟩
    | _ => exact nomatch hdescribes
  ends := hends

/-- **The notifications mirror the neighbours** in a run whose steps meet the condition. -/
theorem notifications_mirror {inputs : List Input} (hmeets : Runs.Meets step Careful {} inputs) :
    (Runs.run step {} inputs).Mirrors := by
  have hstart : ({} : NeighbourTable).Sound ∧ ({} : NeighbourTable).EndsPosted :=
    ⟨⟨⟨List.nodup_nil, rfl⟩, nofun, nofun⟩, fun _ => Iff.rfl⟩
  obtain ⟨hsound, hends⟩ := Runs.invariant_run (fun table : NeighbourTable => table.Sound ∧ table.EndsPosted)
    (fun _ _ h hcareful => h.1.step hcareful) hstart hmeets
  exact hsound.mirrors hends

/-- A service that is found, resolved and lost again, in a table that registers and discovers over UDP. -/
def foundAndLost : List Input :=
  let udp : BonjourResults := { transportList := [.udp] }
  let service : ServiceDescription := { name := "Bob", type := "_sipuri._udp", domain := "local." }
  let bob : NeighbourRecord :=
    { id := none, name := some "Bob", host := "bob", uri := "sip:bob@192.0.2.2", transport := .udp, state := none
      note := none }
  let results (results : List BonjourResult) : BonjourResults := { udp with results := fun _ => results }
  [.other .start nofun, .other .activate nofun, .handleCommand udp, .handleCommand udp,
    .other (.processFiles [1]) nofun, .handleCommand (results [.browse false service true false]),
    .other (.processFiles [2]) nofun, .handleCommand (results [.resolve false (.record bob false false)]),
    .other (.processFiles [1]) nofun, .handleCommand (results [.browse false service false false]),
    .other .restartRegistration nofun, .handleCommand udp, .handleCommand udp]

theorem foundAndLost_mirrors : (Runs.run step {} foundAndLost).Mirrors := notifications_mirror (by decide)

/-- A registration over UDP that is closed while nothing else is open. -/
def registeredAlone : List Input :=
  [.other .start nofun, .other .activate nofun, .handleCommand { transportList := [.udp] },
    .handleCommand { transportList := [.udp], refused := [.udp] }, .other .restartRegistration nofun,
    .handleCommand { transportList := [.udp] }]

/-- Its end is not posted. -/
theorem not_notifications_mirror : ¬ ∀ inputs, (Runs.run step {} inputs).Mirrors := by
  intro h
  have hends := (h registeredAlone).ends .udp
  revert hends
  decide

end NeighbourTable

end SipSimple.Account
