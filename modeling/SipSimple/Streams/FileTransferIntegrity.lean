import SipSimple.Library.Runs
import SipSimple.Streams.FileTransfer

/-!
# The integrity of received files

The hash object and the offset of a handler follow the file through the two threads: between the
statements that write a chunk, hash it and count it, and while `process_chunk` starts the file again.
What a handler stores for a later resume is tied to the file by its modification time, so it stays
right whatever happens to the file.

Two things break the claim. A chunk that starts a complete file again while the transfer is being ended
leaves the check of the hash with another file than it was made for; `Settled` leaves this out. And a file
with the announced size and another hash is deleted by the writer thread before
`_NH_FileTransferHandlerDidEnd` asks for its size: nothing wrong is announced or stored then, but the
handler does not terminate. `Matching` leaves this out as well.
-/

namespace SipSimple.Streams

/-! ### The condition -/

/-- The writer thread has left its loop. -/
def WriterThread.left : WriterThread → Bool
  | .notStarted | .waiting | .writing _ | .hashing _ | .counting _ => false
  | .closing | .checkingOffset | .checkingHash | .deleting | .posting _ | .finished => true

/-- `process_chunk` is starting the file again. -/
def TwistedThread.restarting : TwistedThread → Bool
  | .truncated _ | .sought _ | .hashReset _ => true
  | .idle | .counting _ | .queueing _ => false

namespace Handler

def EndRequested (handler : Handler) : Prop :=
  .endTransfer ∈ handler.queue ∨ handler.writer.left = true

instance (handler : Handler) : Decidable handler.EndRequested :=
  inferInstanceAs (Decidable (_ ∨ _))

/-- As many bytes have been received as were announced, and not none. -/
def Complete (handler : Handler) : Prop := handler.size = some handler.offset ∧ 0 < handler.offset

instance (handler : Handler) : Decidable handler.Complete :=
  inferInstanceAs (Decidable (_ ∧ _))

/-- A complete file is not started again while the transfer is being ended. -/
def Settled (handler : Handler) : World.Step → Prop
  | .processChunk chunk =>
      handler.Restarts chunk → handler.descriptor = .opened → handler.EndRequested →
        ¬ handler.Complete
  | .endTransfer => handler.twisted.restarting = true → ¬ handler.Complete
  | _ => True

/-- A file of the announced size has the announced hash. -/
def Matching (handler : Handler) : World.Step → Prop
  | .writer _ =>
      handler.writer = .checkingHash →
        handler.selectorHash = some (encodeHash (Sha1.digest handler.hash))
  | _ => True

instance (handler : Handler) : (input : World.Step) → Decidable (handler.Settled input)
  | .processChunk _ | .endTransfer => inferInstanceAs (Decidable (_ → _))
  | .initializeTransfer _ | .otherWrite .. | .otherUnlink _ | .saveMetadata | .restart _ |
    .sessionWillStart | .sessionDidFail | .streamDidStart | .streamWillEnd |
    .streamDidNotInitialize | .notification | .processNext | .fileOffset | .writer _ => isTrue trivial

instance (handler : Handler) : (input : World.Step) → Decidable (handler.Matching input)
  | .writer _ => inferInstanceAs (Decidable (_ → _))
  | .initializeTransfer _ | .otherWrite .. | .otherUnlink _ | .saveMetadata | .restart _ |
    .sessionWillStart | .sessionDidFail | .streamDidStart | .streamWillEnd |
    .streamDidNotInitialize | .notification | .processNext | .fileOffset | .processChunk _ |
    .endTransfer => isTrue trivial

end Handler

/-- The conditions on a step, given the world before it. -/
def World.Settled (world : World) (input : World.Step) : Prop :=
  ∀ handler ∈ world.handler, handler.Settled input

def World.Matching (world : World) (input : World.Step) : Prop :=
  ∀ handler ∈ world.handler, handler.Matching input

instance (world : World) (input : World.Step) : Decidable (world.Settled input) :=
  inferInstanceAs (Decidable (∀ handler ∈ world.handler, handler.Settled input))

instance (world : World) (input : World.Step) : Decidable (world.Matching input) :=
  inferInstanceAs (Decidable (∀ handler ∈ world.handler, handler.Matching input))

/-! ### What is stored -/

namespace Disk

/-- A modification time is not in the future, and tells the contents of a file. -/
structure Sound (disk : Disk) : Prop where
  mtime_le : ∀ name file, disk.files name = some file → file.mtime ≤ disk.clock
  bytes_eq : ∀ name other file file', disk.files name = some file →
    disk.files other = some file' → file.mtime = file'.mtime → file.bytes = file'.bytes

/-- The partial hash of an entry is the hash of the file it was stored for, if the file is as it was. -/
structure Matches (disk : Disk) (entry : FileMetadataEntry) : Prop where
  mtime_le : entry.mtime ≤ disk.clock
  hash_eq : ∀ name file, disk.files name = some file → file.mtime = entry.mtime →
    entry.partialHash = Sha1.ofBytes file.bytes

def MatchesAll (disk : Disk) (metadata : Metadata) : Prop :=
  ∀ hash entry, metadata hash = some entry → disk.Matches entry

variable {disk : Disk}

theorem files_write (name : Text) (bytes : Bytes) (other : Text) :
    (disk.write name bytes).files other =
      if other = name then some ⟨bytes, disk.clock + 1⟩ else disk.files other := by
  simp [write, Function.update_apply]

theorem files_unlink (name other : Text) :
    (disk.unlink name).files other = if other = name then none else disk.files other := by
  simp [unlink, Function.update_apply]

theorem files_rename (oldName newName other : Text) :
    (disk.rename oldName newName).files other =
      if other = oldName then none
      else if other = newName then disk.files oldName
      else disk.files other := by
  simp [rename, Function.update_apply]

/-- Every file of the second disk is on the first, or was written after it. -/
structure Later (disk other : Disk) : Prop where
  clock_le : disk.clock ≤ other.clock
  files : ∃ bytes, ∀ name file, other.files name = some file →
    (∃ oldName, disk.files oldName = some file) ∨
      (file = ⟨bytes, disk.clock + 1⟩ ∧ disk.clock + 1 ≤ other.clock)

theorem Sound.later (hsound : disk.Sound) {other : Disk} (hlater : disk.Later other) :
    other.Sound := by
  obtain ⟨hclock, bytes, hfiles⟩ := hlater
  constructor
  · intro name file hfile
    rcases hfiles name file hfile with ⟨oldName, hold⟩ | ⟨rfl, hnew⟩
    · exact Nat.le_trans (hsound.mtime_le oldName file hold) hclock
    · exact hnew
  · intro name other file file' hfile hfile' hmtime
    rcases hfiles name file hfile with ⟨oldName, hold⟩ | ⟨rfl, -⟩
    · have hle := hsound.mtime_le oldName file hold
      rcases hfiles other file' hfile' with ⟨oldName', hold'⟩ | ⟨rfl, -⟩
      · exact hsound.bytes_eq oldName oldName' file file' hold hold' hmtime
      · simp only at hmtime
        omega
    · rcases hfiles other file' hfile' with ⟨oldName', hold'⟩ | ⟨rfl, -⟩
      · have hle := hsound.mtime_le oldName' file' hold'
        simp only at hmtime
        omega
      · rfl

theorem Matches.later {entry : FileMetadataEntry} (hmatches : disk.Matches entry) {other : Disk}
    (hlater : disk.Later other) : other.Matches entry := by
  obtain ⟨hclock, bytes, hfiles⟩ := hlater
  have hle := hmatches.mtime_le
  constructor
  · exact Nat.le_trans hle hclock
  · intro name file hfile hmtime
    rcases hfiles name file hfile with ⟨oldName, hold⟩ | ⟨rfl, -⟩
    · exact hmatches.hash_eq oldName file hold hmtime
    · simp only at hmtime
      omega

theorem later_write (name : Text) (bytes : Bytes) : disk.Later (disk.write name bytes) := by
  refine ⟨Nat.le_succ _, bytes, fun other file hfile => ?_⟩
  rw [files_write] at hfile
  split at hfile
  · exact .inr ⟨(Option.some.inj hfile).symm, Nat.le_refl _⟩
  · exact .inl ⟨other, hfile⟩

theorem later_unlink (name : Text) : disk.Later (disk.unlink name) := by
  refine ⟨Nat.le_refl _, [], fun other file hfile => ?_⟩
  rw [files_unlink] at hfile
  split at hfile
  · cases hfile
  · exact .inl ⟨other, hfile⟩

theorem later_rename (oldName newName : Text) : disk.Later (disk.rename oldName newName) := by
  refine ⟨Nat.le_refl _, [], fun other file hfile => ?_⟩
  rw [files_rename] at hfile
  split_ifs at hfile
  · exact .inl ⟨oldName, hfile⟩
  · exact .inl ⟨other, hfile⟩

end Disk

namespace World

/-- What is in memory, what is to be written and what is written of the metadata is right. -/
structure Stored (world : World) : Prop where
  disk : world.disk.Sound
  metadata : world.disk.MatchesAll world.metadata
  saving : ∀ metadata ∈ world.saving, world.disk.MatchesAll metadata
  saved : world.disk.MatchesAll world.saved

variable {world : World}

theorem Stored.withDisk (hstored : world.Stored) {disk : Disk} (hlater : world.disk.Later disk) :
    { world with disk := disk }.Stored where
  disk := hstored.disk.later hlater
  metadata hash entry hentry := (hstored.metadata hash entry hentry).later hlater
  saving metadata hmem hash entry hentry :=
    (hstored.saving metadata hmem hash entry hentry).later hlater
  saved hash entry hentry := (hstored.saved hash entry hentry).later hlater

theorem Stored.setHandler (hstored : world.Stored) (handler : Handler) :
    (world.setHandler handler).Stored :=
  ⟨hstored.disk, hstored.metadata, hstored.saving, hstored.saved⟩

theorem Stored.withMetadata (hstored : world.Stored) {metadata : Metadata}
    (hmatches : world.disk.MatchesAll metadata) : { world with metadata := metadata }.Stored :=
  ⟨hstored.disk, hmatches, hstored.saving, hstored.saved⟩

theorem Stored.save (hstored : world.Stored) {metadata : Metadata}
    (hmatches : world.disk.MatchesAll metadata) : (world.save metadata).Stored where
  disk := hstored.disk
  metadata := hmatches
  saving other hmem := by
    rcases List.mem_append.mp hmem with hold | hnew
    · exact hstored.saving other hold
    · rw [List.mem_singleton.mp hnew]
      exact hmatches
  saved := hstored.saved

theorem matchesAll_pop {disk : Disk} {metadata : Metadata} (hmatches : disk.MatchesAll metadata)
    (hash : Text) : disk.MatchesAll (Function.update metadata hash none) := by
  intro other entry hentry
  rw [Function.update_apply] at hentry
  split at hentry
  · cases hentry
  · exact hmatches other entry hentry

theorem matchesAll_insert {disk : Disk} {metadata : Metadata} (hmatches : disk.MatchesAll metadata)
    {hash : Text} {entry : FileMetadataEntry} (hentry : disk.Matches entry) :
    disk.MatchesAll (Function.update metadata hash (some entry)) := by
  intro other entry' hother
  rw [Function.update_apply] at hother
  split at hother
  · rw [← Option.some.inj hother]
    exact hentry
  · exact hmatches other entry' hother

end World

/-! ### The handler's invariant -/

namespace Handler

/-- The hash object and the offset follow the bytes of the file. -/
def Synced (handler : Handler) (bytes : Bytes) : Prop :=
  match handler.writer with
  | .hashing chunk =>
      ∃ hashed, bytes = hashed ++ chunk.data ∧ handler.hash = Sha1.ofBytes hashed ∧
        handler.offset = hashed.length
  | .counting chunk =>
      handler.hash = Sha1.ofBytes bytes ∧ handler.offset + chunk.size = bytes.length
  | _ => handler.hash = Sha1.ofBytes bytes ∧ handler.offset = bytes.length

/-- An empty file will not be taken for a complete one. -/
def Harmless (handler : Handler) : Prop :=
  handler.size = some handler.offset → handler.offset = 0 ∧ handler.hash = Sha1.init

/-- What the two threads have made of the file. -/
def Content (handler : Handler) (bytes : Bytes) : Prop :=
  match handler.twisted with
  | .truncated _ | .sought _ =>
      bytes = [] ∧ handler.receivedChunks = 0 ∧ (handler.EndRequested → handler.Harmless) ∧
        (handler.offset = 0 → handler.hash = Sha1.init)
  | .hashReset _ =>
      bytes = [] ∧ handler.receivedChunks = 0 ∧ (handler.EndRequested → handler.Harmless) ∧
        handler.hash = Sha1.init
  | .idle | .counting _ | .queueing _ =>
      handler.Synced bytes ∨
        (bytes = [] ∧ handler.writer.left = true ∧ handler.descriptor ≠ .opened ∧
          handler.Harmless)

/-- The file is what was announced. -/
def Received (handler : Handler) (bytes : Bytes) : Prop :=
  handler.size = some bytes.length ∧
    handler.selectorHash = some (encodeHash (Sha1.digest (Sha1.ofBytes bytes)))

/-- A handler that holds its stream. -/
structure Live (handler : Handler) (disk : Disk) : Prop where
  stream : handler.stream = true
  raised : handler.raised = false
  file : handler.initializeSuccessful = true →
    ∃ file, disk.files handler.name = some file ∧ handler.Content file.bytes ∧
      ((handler.writer = .posting false ∨ false ∈ handler.notifications) →
        handler.Received file.bytes)
  noChunks : handler.receivedChunks = 0 →
    (∀ chunk, .chunk chunk ∉ handler.queue) ∧
      (handler.writer.left = true ∨ handler.writer = .notStarted ∨ handler.writer = .waiting)
  queueing : ∀ chunk, handler.twisted = .queueing chunk → 0 < handler.receivedChunks
  checkingHash : handler.writer = .checkingHash → handler.size = some handler.offset
  notDeleting : handler.writer ≠ .deleting
  opened : handler.descriptor = .opened → handler.writer.left = true → handler.writer = .closing
  notClosed : handler.writer.left = false → handler.descriptor ≠ .closed
  descriptor : handler.initializeSuccessful = true → handler.descriptor ≠ .none
  started : handler.started = true ↔ handler.writer ≠ .notStarted
  startedRunning : handler.started = true → handler.initializeSuccessful = true ∧
    handler.streamStarted = true ∧ handler.sessionRunning = true
  running : handler.sessionRunning = true → handler.joined = true ∨ handler.sessionStarted = true
  ends : if handler.writer = .finished then
      ∃ error, handler.notifications = [error] ∧ handler.ends = [error]
    else handler.notifications = [] ∧ handler.ends = []

/-- A handler that has terminated. -/
structure Terminated (handler : Handler) : Prop where
  stream : handler.stream = false
  raised : handler.raised = false
  notifications : handler.notifications = []
  writer : handler.writer = .notStarted ∨ handler.writer = .finished
  descriptor : handler.descriptor ≠ .opened

/-- A handler that deletes its file, or has deleted it: the hash was another one. -/
structure Deleted (handler : Handler) (disk : Disk) : Prop where
  stream : handler.stream = true
  file : handler.writer ≠ .deleting → disk.files handler.name = none
  writer : handler.writer = .deleting ∨ handler.writer = .posting true ∨ handler.writer = .finished
  descriptor : handler.descriptor = .closed
  started : handler.started = true
  streamStarted : handler.streamStarted = true
  joined : handler.joined = true ∨ handler.sessionStarted = true
  ends : if handler.writer = .finished then handler.ends = [true] else handler.ends = []
  /-- The end is announced once, and what handles it raises. -/
  notifications : handler.notifications = [] ∨ handler.notifications = [true] ∧ handler.raised = false
  raised : handler.writer ≠ .finished → handler.notifications = [] ∧ handler.raised = false

variable {handler : Handler} {disk : Disk}

/-- No chunk is between the threads before the first one is counted. -/
theorem Live.not_writing (hlive : handler.Live disk) (hnone : handler.receivedChunks = 0) :
    ∀ bytes, handler.Synced bytes ↔
      handler.hash = Sha1.ofBytes bytes ∧ handler.offset = bytes.length := by
  intro bytes
  have hwriter := (hlive.noChunks hnone).2
  unfold Synced
  cases hcase : handler.writer <;> simp_all [WriterThread.left]

/-- Outside the loop nothing is between the threads. -/
theorem synced_of_left {bytes : Bytes} (hleft : handler.writer.left = true) :
    handler.Synced bytes ↔ handler.hash = Sha1.ofBytes bytes ∧ handler.offset = bytes.length := by
  unfold Synced
  cases hcase : handler.writer <;> simp_all [WriterThread.left]

theorem harmless_of_not_complete (hcomplete : ¬ handler.Complete)
    (hzero : handler.offset = 0 → handler.hash = Sha1.init) : handler.Harmless := by
  intro hsize
  have hoffset : handler.offset = 0 := by
    by_contra hpos
    exact hcomplete ⟨hsize, Nat.pos_of_ne_zero hpos⟩
  exact ⟨hoffset, hzero hoffset⟩

theorem Live.ends_nil (hlive : handler.Live disk) (hwriter : handler.writer ≠ .finished) :
    handler.notifications = [] ∧ handler.ends = [] := by
  have hends := hlive.ends
  rwa [if_neg hwriter] at hends

/-- An end that is posted is still to be handled. -/
theorem Live.notifications_ne_nil (hlive : handler.Live disk) (hends : handler.ends ≠ []) :
    handler.notifications ≠ [] := by
  intro hnone
  have hposted := hlive.ends
  split at hposted
  · obtain ⟨error, hnotifications, -⟩ := hposted
    simp [hnotifications] at hnone
  · exact absurd hposted.2 hends

/-- A handler that posts an end without error, or holds its stream and has posted one, has the file. -/
theorem Live.received (hlive : handler.Live disk)
    (hcomplete : handler.writer = .posting false ∨ (handler.stream = true ∧ false ∈ handler.ends)) :
    ∃ file, disk.files handler.name = some file ∧ handler.Received file.bytes := by
  have hposted : handler.writer = .posting false ∨ false ∈ handler.notifications := by
    rcases hcomplete with hposting | ⟨-, hfalse⟩
    · exact .inl hposting
    · right
      by_cases hfinished : handler.writer = .finished
      · have hends := hlive.ends
        rw [if_pos hfinished] at hends
        obtain ⟨error, hnotifications, hends⟩ := hends
        rwa [hnotifications, ← hends]
      · simp [(hlive.ends_nil hfinished).2] at hfalse
  have hsuccess : handler.initializeSuccessful = true := by
    refine (hlive.startedRunning (hlive.started.mpr ?_)).1
    rintro hnotStarted
    rcases hposted with hposting | hfalse
    · simp [hnotStarted] at hposting
    · simp [(hlive.ends_nil (by simp [hnotStarted])).1] at hfalse
  obtain ⟨file, hfile, -, hreceived⟩ := hlive.file hsuccess
  exact ⟨file, hfile, hreceived hposted⟩

theorem Terminated.not_complete (hterminated : handler.Terminated) :
    ¬ (handler.writer = .posting false ∨ (handler.stream = true ∧ false ∈ handler.ends)) := by
  rintro (hposting | ⟨hstream, -⟩)
  · rcases hterminated.writer with hwriter | hwriter <;> simp [hwriter] at hposting
  · simp [hterminated.stream] at hstream

theorem Deleted.not_complete (hdeleted : handler.Deleted disk) :
    ¬ (handler.writer = .posting false ∨ (handler.stream = true ∧ false ∈ handler.ends)) := by
  rintro (hposting | ⟨-, hfalse⟩)
  · rcases hdeleted.writer with hwriter | hwriter | hwriter <;> simp [hwriter] at hposting
  · have hends := hdeleted.ends
    split_ifs at hends <;> simp [hends] at hfalse

theorem Live.descriptor_opened (hlive : handler.Live disk)
    (hsuccess : handler.initializeSuccessful = true) (hwriter : handler.writer.left = false) :
    handler.descriptor = .opened := by
  have hnone := hlive.descriptor hsuccess
  have hclosed := hlive.notClosed hwriter
  cases hcase : handler.descriptor <;> simp_all

end Handler

/-! ### The steps -/

namespace World

/-- The invariant. Where every hash was `matching`, no handler has deleted its file. -/
structure Sound (matching : Prop) (world : World) : Prop where
  stored : world.Stored
  handler : ∀ handler ∈ world.handler,
    handler.Live world.disk ∨ handler.Terminated ∨ (¬ matching ∧ handler.Deleted world.disk)

variable {matching : Prop} {world : World} {handler : Handler}

theorem Stored.sound_setHandler (hstored : world.Stored)
    (hhandler : handler.Live world.disk ∨ handler.Terminated) :
    (world.setHandler handler).Sound matching where
  stored := hstored.setHandler handler
  handler other hother := by
    cases hother
    exact hhandler.imp_right .inl

theorem Stored.sound_deleted (hstored : world.Stored) (hmatching : ¬ matching)
    (hhandler : handler.Deleted world.disk) : (world.setHandler handler).Sound matching where
  stored := hstored.setHandler handler
  handler other hother := by
    cases hother
    exact .inr (.inr ⟨hmatching, hhandler⟩)

/-- A handler whose writer thread is not running terminates. -/
theorem terminated_terminate (hstream : handler.stream = true) (hraised : handler.raised = false)
    (hnotifications : handler.notifications = [])
    (hwriter : handler.writer = .notStarted ∨ handler.writer = .finished) :
    handler.terminate.Terminated := by
  rw [Handler.terminate, if_pos hstream]
  exact
    { stream := rfl
      raised := hraised
      notifications := hnotifications
      writer := hwriter
      descriptor := by
        dsimp only
        split
        · simp
        · assumption }

/-- **The end of a transfer**: the handler terminates, and what it stores is right. -/
theorem sound_onDidEnd (hstored : world.Stored) (hstream : handler.stream = true)
    (hraised : handler.raised = false) (hnotifications : handler.notifications = [])
    (hwriter : handler.writer = .notStarted ∨ handler.writer = .finished) {file : StoredFile}
    (hfile : world.disk.files handler.name = some file)
    (hcontent : file.bytes = [] ∨ handler.hash = Sha1.ofBytes file.bytes) (error : Bool) :
    (world.onDidEnd handler error).Sound matching := by
  have hterminated := terminated_terminate hstream hraised hnotifications hwriter
  unfold onDidEnd
  rw [if_neg (by simp [hstream])]
  split
  · rw [hfile]
    dsimp only
    split
    · exact (hstored.withDisk (Disk.later_unlink _)).sound_setHandler (.inr hterminated)
    · rename_i hlength
      apply Stored.sound_setHandler _ (.inr hterminated)
      apply hstored.save
      apply matchesAll_insert hstored.metadata
      constructor
      · exact hstored.disk.mtime_le _ _ hfile
      · intro name other hother hmtime
        rw [hstored.disk.bytes_eq name handler.name other file hother hfile hmtime]
        rcases hcontent with hempty | hhash
        · simp [hempty] at hlength
        · exact hhash
  · exact hstored.sound_setHandler (.inr hterminated)

/-- What the end of a transfer finds in the file. -/
theorem content_idle (hlive : handler.Live world.disk) (hidle : handler.twisted = .idle)
    (hsuccess : handler.initializeSuccessful = true)
    (hwriter : handler.writer = .notStarted ∨ handler.writer = .finished) :
    ∃ file, world.disk.files handler.name = some file ∧
      (file.bytes = [] ∨ handler.hash = Sha1.ofBytes file.bytes) := by
  obtain ⟨file, hfile, hcontent, -⟩ := hlive.file hsuccess
  refine ⟨file, hfile, ?_⟩
  simp only [Handler.Content, hidle] at hcontent
  rcases hcontent with hsynced | ⟨hempty, -⟩
  · right
    rcases hwriter with hwriter | hwriter <;> simp only [Handler.Synced, hwriter] at hsynced <;>
      exact hsynced.1
  · exact .inl hempty

/-- A transfer that ends before its stream has started. -/
theorem sound_postDidEnd (hstored : world.Stored) (hlive : handler.Live world.disk)
    (hidle : handler.twisted = .idle) (hsuccess : handler.initializeSuccessful = true)
    (hwriter : handler.writer = .notStarted) (error : Bool) :
    (world.postDidEnd handler error).Sound matching := by
  obtain ⟨file, hfile, hcontent⟩ := content_idle hlive hidle hsuccess (.inl hwriter)
  have hends := hlive.ends_nil (by simp [hwriter])
  rw [postDidEnd]
  apply sound_onDidEnd hstored
  · exact hlive.stream
  · exact hlive.raised
  · exact hends.1
  · exact .inl hwriter
  · exact hfile
  · exact hcontent

theorem sound_sessionWillStart (hstored : world.Stored) (hlive : handler.Live world.disk) :
    (world.handlerStep handler .sessionWillStart).Sound matching := by
  apply hstored.sound_setHandler
  left
  exact
    { hlive with
      startedRunning := fun hstarted =>
        ⟨(hlive.startedRunning hstarted).1, (hlive.startedRunning hstarted).2.1, rfl⟩
      running := fun _ => .inr hlive.stream }

theorem sound_sessionDidFail (hstored : world.Stored) (hlive : handler.Live world.disk)
    (henabled : Enabled handler .sessionDidFail) :
    (world.handlerStep handler .sessionDidFail).Sound matching := by
  obtain ⟨hidle, hjoined, -⟩ := henabled
  have hlive' : { handler with sessionFailed := true }.Live world.disk := { hlive with }
  unfold handlerStep onSessionDidFail
  dsimp only
  rw [if_pos hlive.stream]
  split
  · rename_i hcancelled
    obtain ⟨hsession, hsuccess⟩ := hcancelled
    have hwriter : handler.writer = .notStarted := by
      by_contra hwriter
      have hrunning := (hlive.startedRunning (hlive.started.mpr hwriter)).2.2
      rcases hlive.running hrunning with hjoined' | hsession'
      · simp [hjoined] at hjoined'
      · simp [hsession'] at hsession
    exact sound_postDidEnd hstored hlive' hidle hsuccess hwriter true
  · exact hstored.sound_setHandler (.inl hlive')

/-- The stream starts once. -/
theorem not_started (hlive : handler.Live world.disk) (hstream : handler.streamStarted = false) :
    handler.writer = .notStarted := by
  by_contra hwriter
  have hstarted := (hlive.startedRunning (hlive.started.mpr hwriter)).2.1
  simp [hstream] at hstarted

theorem sound_streamDidStart (hstored : world.Stored) (hlive : handler.Live world.disk)
    (henabled : Enabled handler .streamDidStart) :
    (world.handlerStep handler .streamDidStart).Sound matching := by
  obtain ⟨hidle, hsuccess, hrunning, hstream, -⟩ := henabled
  have hwriter := not_started hlive hstream
  have hends := hlive.ends_nil (by simp [hwriter])
  unfold handlerStep
  dsimp only
  rw [if_pos hlive.stream]
  apply hstored.sound_setHandler
  left
  exact
    { hlive with
      file := by
        intro _
        obtain ⟨file, hfile, hcontent, -⟩ := hlive.file hsuccess
        refine ⟨file, hfile, ?_, by simp [hends.1]⟩
        simpa [Handler.Content, hidle, Handler.Synced, hwriter, WriterThread.left] using hcontent
      noChunks := fun hnone => ⟨(hlive.noChunks hnone).1, by simp⟩
      checkingHash := by simp
      notDeleting := by simp
      opened := by simp [WriterThread.left]
      notClosed := fun _ => hlive.notClosed (by rw [hwriter]; rfl)
      started := by simp
      startedRunning := fun _ => ⟨hsuccess, rfl, hrunning⟩
      ends := by simpa using hends }

/-- Nothing is lost by a request to end, when the file is not being started again. -/
theorem live_endTransfer (hlive : handler.Live world.disk)
    (hsettled : handler.twisted.restarting = true → ¬ handler.Complete) :
    handler.endTransfer.Live world.disk :=
  { hlive with
    file := by
      intro hsuccess
      obtain ⟨file, hfile, hcontent, hreceived⟩ := hlive.file hsuccess
      refine ⟨file, hfile, ?_, hreceived⟩
      unfold Handler.Content at hcontent ⊢
      cases htwisted : handler.twisted with
      | truncated chunk | sought chunk =>
          simp only [htwisted, Handler.endTransfer] at hcontent ⊢
          obtain ⟨hempty, hnone, -, hzero⟩ := hcontent
          have hcomplete := hsettled (by rw [htwisted]; rfl)
          exact ⟨hempty, hnone, fun _ => Handler.harmless_of_not_complete hcomplete hzero, hzero⟩
      | hashReset chunk =>
          simp only [htwisted, Handler.endTransfer] at hcontent ⊢
          obtain ⟨hempty, hnone, -, hhash⟩ := hcontent
          have hcomplete := hsettled (by rw [htwisted]; rfl)
          exact ⟨hempty, hnone, fun _ => Handler.harmless_of_not_complete hcomplete fun _ => hhash,
            hhash⟩
      | idle | counting chunk | queueing chunk =>
          simp only [htwisted, Handler.endTransfer] at hcontent ⊢
          exact hcontent
    noChunks := by
      intro hnone
      obtain ⟨hqueue, hwriter⟩ := hlive.noChunks hnone
      refine ⟨fun chunk hmem => ?_, hwriter⟩
      rcases List.mem_append.mp hmem with hold | hnew
      · exact hqueue chunk hold
      · simp at hnew }

theorem sound_streamWillEnd (hstored : world.Stored) (hlive : handler.Live world.disk)
    (henabled : Enabled handler .streamWillEnd) :
    (world.handlerStep handler .streamWillEnd).Sound matching := by
  obtain ⟨hidle, hsuccess, -⟩ := henabled
  have hlive' : { handler with streamEnded := true }.Live world.disk := { hlive with }
  unfold handlerStep onStreamWillEnd
  dsimp only
  rw [if_pos hlive.stream]
  split
  · apply hstored.sound_setHandler
    left
    apply live_endTransfer hlive'
    simp [hidle, TwistedThread.restarting]
  · rename_i hstarted
    split
    · have hwriter : handler.writer = .notStarted := by
        by_contra hwriter
        exact hstarted (hlive.started.mpr hwriter)
      exact sound_postDidEnd hstored hlive' hidle hsuccess hwriter true
    · exact hstored.sound_setHandler (.inl hlive')

theorem sound_streamDidNotInitialize (hstored : world.Stored) (hlive : handler.Live world.disk)
    (henabled : Enabled handler .streamDidNotInitialize) :
    (world.handlerStep handler .streamDidNotInitialize).Sound matching := by
  obtain ⟨-, hstream, -⟩ := henabled
  have hwriter := not_started hlive hstream
  have hends := hlive.ends_nil (by simp [hwriter])
  have hclosed := hlive.notClosed (by rw [hwriter]; rfl)
  -- the request to end does not matter, nobody will take it from the queue
  have hterminated : ∀ handler' : Handler, handler'.stream = true → handler'.raised = false →
      handler'.notifications = [] → handler'.writer = .notStarted → handler'.terminate.Terminated :=
    fun _ hstream hraised hnotifications hwriter =>
      terminated_terminate hstream hraised hnotifications (.inl hwriter)
  unfold handlerStep onStreamDidNotInitialize
  dsimp only
  rw [if_pos hlive.stream]
  split
  · split
    · apply Stored.sound_setHandler (hstored.withDisk (Disk.later_unlink _))
      right
      split <;> exact hterminated _ hlive.stream hlive.raised hends.1 hwriter
    · apply hstored.sound_setHandler
      right
      split <;> exact hterminated _ hlive.stream hlive.raised hends.1 hwriter
  · contradiction
  · apply hstored.sound_setHandler
    right
    split <;> exact hterminated _ hlive.stream hlive.raised hends.1 hwriter

theorem sound_notification (hsound : world.Sound matching) (hlive : handler.Live world.disk)
    (henabled : Enabled handler .notification) :
    (world.handlerStep handler .notification).Sound matching := by
  have hidle : handler.twisted = .idle := henabled
  unfold handlerStep
  dsimp only
  split
  · exact hsound
  · rename_i error notifications hnotifications
    have hfinished : handler.writer = .finished := by
      by_contra hwriter
      simp [(hlive.ends_nil hwriter).1] at hnotifications
    have hends := hlive.ends
    rw [if_pos hfinished] at hends
    obtain ⟨posted, hposted, -⟩ := hends
    have hrest : notifications = [] := by
      rw [hposted] at hnotifications
      exact (List.cons.inj hnotifications).2.symm
    have hsuccess : handler.initializeSuccessful = true :=
      (hlive.startedRunning (hlive.started.mpr (by simp [hfinished]))).1
    obtain ⟨file, hfile, hcontent⟩ := content_idle hlive hidle hsuccess (.inr hfinished)
    apply sound_onDidEnd hsound.stored
    · exact hlive.stream
    · exact hlive.raised
    · exact hrest
    · exact .inr hfinished
    · exact hfile
    · exact hcontent

/-- Until a chunk is counted, the file holds what the hash object and the offset say. -/
theorem synced_restart (hlive : handler.Live world.disk) (hidle : handler.twisted = .idle)
    (hnone : handler.receivedChunks = 0) (hopened : handler.descriptor = .opened) {bytes : Bytes}
    (hcontent : handler.Content bytes) :
    handler.hash = Sha1.ofBytes bytes ∧ handler.offset = bytes.length := by
  simp only [Handler.Content, hidle] at hcontent
  rcases hcontent with hsynced | ⟨-, -, hclosed, -⟩
  · exact (hlive.not_writing hnone bytes).mp hsynced
  · exact absurd hopened hclosed

theorem sound_processChunk (hsound : world.Sound matching) (hlive : handler.Live world.disk)
    {chunk : Chunk} (henabled : Enabled handler (.processChunk chunk))
    (hsettled : handler.Settled (.processChunk chunk)) :
    (world.handlerStep handler (.processChunk chunk)).Sound matching := by
  have hidle : handler.twisted = .idle := henabled
  unfold handlerStep processChunk
  dsimp only
  split
  · rename_i hrestarts
    obtain ⟨hnone, hstart⟩ := id hrestarts
    split
    · rename_i hopened
      replace hopened := hopened.2
      have hwriter : handler.writer.left = true → handler.writer = .closing := hlive.opened hopened
      apply (hsound.stored.withDisk (Disk.later_write _ _)).sound_setHandler
      left
      exact
        { hlive with
          file := by
            intro hsuccess
            obtain ⟨file, hfile, hcontent, -⟩ := hlive.file hsuccess
            obtain ⟨hhash, hoffset⟩ := synced_restart hlive hidle hnone hopened hcontent
            have hzero : handler.offset = 0 → handler.hash = Sha1.init := by
              intro hzero
              rw [hoffset, List.length_eq_zero_iff] at hzero
              rw [hhash, hzero, Sha1.ofBytes_nil]
            refine ⟨⟨[], world.disk.clock + 1⟩, by simp [Disk.files_write], ?_, ?_⟩
            · exact ⟨rfl, hnone, fun hend =>
                Handler.harmless_of_not_complete (hsettled hrestarts hopened hend) hzero, hzero⟩
            · rintro (hposting | hfalse)
              · simp [show handler.writer = _ from hposting, WriterThread.left] at hwriter
              · have hfinished : handler.writer ≠ .finished := by
                  intro hfinished
                  simp [hfinished, WriterThread.left] at hwriter
                simp [(hlive.ends_nil hfinished).1] at hfalse
          queueing := by simp }
    · exact hsound
  · apply hsound.stored.sound_setHandler
    left
    exact
      { hlive with
        file := by
          intro hsuccess
          obtain ⟨file, hfile, hcontent, hreceived⟩ := hlive.file hsuccess
          refine ⟨file, hfile, ?_, hreceived⟩
          simp only [Handler.Content, hidle] at hcontent
          exact hcontent
        queueing := by simp }

theorem sound_processNext (hsound : world.Sound matching) (hlive : handler.Live world.disk) :
    (world.handlerStep handler .processNext).Sound matching := by
  apply hsound.stored.sound_setHandler
  left
  unfold Handler.processNext
  cases htwisted : handler.twisted with
  | idle => exact hlive
  | truncated chunk =>
      exact
        { hlive with
          file := by
            intro hsuccess
            obtain ⟨file, hfile, hcontent, hreceived⟩ := hlive.file hsuccess
            refine ⟨file, hfile, ?_, hreceived⟩
            simp only [Handler.Content, htwisted] at hcontent ⊢
            by_cases hopened : handler.descriptor = .opened
            · rw [if_pos hopened]
              exact hcontent
            · rw [if_neg hopened]
              obtain ⟨hempty, -, hharmless, -⟩ := hcontent
              have hleft : handler.writer.left = true := by
                by_contra hleft
                exact hopened (hlive.descriptor_opened hsuccess (by simpa using hleft))
              exact .inr ⟨hempty, hleft, hopened, hharmless (.inr hleft)⟩
          queueing := by
            intro other
            dsimp only
            split <;> simp }
  | sought chunk =>
      exact
        { hlive with
          file := by
            intro hsuccess
            obtain ⟨file, hfile, hcontent, hreceived⟩ := hlive.file hsuccess
            refine ⟨file, hfile, ?_, hreceived⟩
            simp only [Handler.Content, htwisted] at hcontent
            obtain ⟨hempty, hnone, hharmless, -⟩ := hcontent
            exact ⟨hempty, hnone, fun hend hsize => ⟨(hharmless hend hsize).1, rfl⟩, rfl⟩
          queueing := by simp }
  | hashReset chunk =>
      have hchecking : handler.initializeSuccessful = true → handler.writer = .checkingHash →
          handler.offset = 0 := by
        intro hsuccess hwriter
        obtain ⟨file, -, hcontent, -⟩ := hlive.file hsuccess
        simp only [Handler.Content, htwisted] at hcontent
        have hend : handler.EndRequested := .inr (by rw [hwriter]; rfl)
        exact (hcontent.2.2.1 hend (hlive.checkingHash hwriter)).1
      exact
        { hlive with
          file := by
            intro hsuccess
            obtain ⟨file, hfile, hcontent, hreceived⟩ := hlive.file hsuccess
            refine ⟨file, hfile, ?_, hreceived⟩
            simp only [Handler.Content, htwisted] at hcontent
            obtain ⟨hempty, hnone, -, hhash⟩ := hcontent
            left
            have hwriter := (hlive.noChunks hnone).2
            rw [hempty, Handler.Synced]
            rcases hwriter with hleft | hwriter | hwriter
            · cases hcase : handler.writer <;> simp_all [WriterThread.left]
            · simp [hwriter, hhash]
            · simp [hwriter, hhash]
          checkingHash := by
            intro hwriter
            have hsuccess : handler.initializeSuccessful = true :=
              (hlive.startedRunning (hlive.started.mpr (by simp_all))).1
            have hzero := hchecking hsuccess hwriter
            rw [← hzero]
            exact hlive.checkingHash hwriter
          queueing := by simp }
  | counting chunk =>
      exact
        { hlive with
          file := by
            intro hsuccess
            obtain ⟨file, hfile, hcontent, hreceived⟩ := hlive.file hsuccess
            refine ⟨file, hfile, ?_, hreceived⟩
            simp only [Handler.Content, htwisted] at hcontent
            exact hcontent
          noChunks := by simp
          queueing := by simp }
  | queueing chunk =>
      have hpos := hlive.queueing chunk htwisted
      exact
        { hlive with
          file := by
            intro hsuccess
            obtain ⟨file, hfile, hcontent, hreceived⟩ := hlive.file hsuccess
            refine ⟨file, hfile, ?_, hreceived⟩
            simp only [Handler.Content, htwisted] at hcontent
            exact hcontent
          noChunks := fun hnone => absurd hnone (Nat.ne_of_gt hpos)
          queueing := by simp }

theorem sound_fileOffset (hsound : world.Sound matching) (hlive : handler.Live world.disk) :
    (world.handlerStep handler .fileOffset).Sound matching := by
  unfold handlerStep fileOffset
  dsimp only
  split
  · exact hsound
  · split
    · exact hsound.stored.sound_setHandler (.inl { hlive with })
    · split
      · exact hsound.stored.sound_setHandler (.inl { hlive with })
      · exact hsound

/-! ### The writer thread -/

/-- While a chunk is written, the file is not being started again. -/
theorem content_writing (hlive : handler.Live world.disk)
    (hwriter : handler.writer.left = false ∧ handler.writer ≠ .notStarted ∧
      handler.writer ≠ .waiting) {bytes : Bytes} (hcontent : handler.Content bytes) :
    handler.twisted.restarting = false ∧ handler.receivedChunks ≠ 0 ∧ handler.Synced bytes := by
  have hpos : handler.receivedChunks ≠ 0 := by
    intro hnone
    rcases (hlive.noChunks hnone).2 with hleft | hwaiting
    · simp [hwriter.1] at hleft
    · exact hwaiting.elim hwriter.2.1 hwriter.2.2
  unfold Handler.Content at hcontent
  cases htwisted : handler.twisted with
  | truncated chunk | sought chunk | hashReset chunk =>
      simp only [htwisted] at hcontent
      exact absurd hcontent.2.1 hpos
  | idle | counting chunk | queueing chunk =>
      simp only [htwisted] at hcontent
      refine ⟨rfl, hpos, hcontent.resolve_right ?_⟩
      rintro ⟨-, hleft, -⟩
      simp [hwriter.1] at hleft

/-- What is left of `Content` when the writer thread goes on and the file is not started again. -/
theorem content_of_synced {bytes : Bytes} (htwisted : handler.twisted.restarting = false)
    (hsynced : handler.Synced bytes) : handler.Content bytes := by
  unfold Handler.Content
  cases hcase : handler.twisted with
  | truncated chunk | sought chunk | hashReset chunk =>
      rw [hcase] at htwisted
      cases htwisted
  | idle | counting chunk | queueing chunk => exact .inl hsynced

/-- The writer thread goes on without touching the file, the hash object or the offset. -/
theorem content_writer {writer : WriterThread} {queue : List Item} {descriptor : Descriptor}
    {bytes : Bytes} (hcontent : handler.Content bytes)
    (hsynced : ∀ bytes, handler.Synced bytes →
      { handler with writer := writer, queue := queue, descriptor := descriptor }.Synced bytes)
    (hleft : handler.writer.left = true → writer.left = true)
    (hend : { handler with writer := writer, queue := queue }.EndRequested → handler.EndRequested)
    (hopened : descriptor = .opened → handler.descriptor = .opened) :
    { handler with writer := writer, queue := queue, descriptor := descriptor }.Content bytes := by
  unfold Handler.Content at hcontent ⊢
  cases htwisted : handler.twisted with
  | truncated chunk | sought chunk | hashReset chunk =>
      simp only [htwisted] at hcontent ⊢
      obtain ⟨hempty, hnone, hharmless, hzero⟩ := hcontent
      exact ⟨hempty, hnone, fun hend' => hharmless (hend hend'), hzero⟩
  | idle | counting chunk | queueing chunk =>
      simp only [htwisted] at hcontent ⊢
      rcases hcontent with hsynced' | ⟨hempty, hleft', hclosed, hharmless⟩
      · exact .inl (hsynced bytes hsynced')
      · exact .inr ⟨hempty, hleft hleft', fun hopened' => hclosed (hopened hopened'), hharmless⟩

theorem sound_waiting (hsound : world.Sound matching) (hlive : handler.Live world.disk)
    (hwriter : handler.writer = .waiting) (fails : Bool) :
    (world.writer handler fails).Sound matching := by
  have hends := hlive.ends_nil (by simp [hwriter])
  have hclosed := hlive.notClosed (by rw [hwriter]; rfl)
  unfold writer
  rw [hwriter]
  dsimp only
  split
  · exact hsound
  · rename_i queue hqueue
    apply hsound.stored.sound_setHandler
    left
    exact
      { hlive with
        file := by
          intro hsuccess
          obtain ⟨file, hfile, hcontent, -⟩ := hlive.file hsuccess
          refine ⟨file, hfile, content_writer hcontent ?_ ?_ ?_ id, by simp [hends.1]⟩
          · intro bytes hsynced
            simpa [Handler.Synced, hwriter] using hsynced
          · simp [hwriter, WriterThread.left]
          · exact fun _ => .inl (by simp [hqueue])
        noChunks := by
          intro hnone
          refine ⟨fun chunk hmem => (hlive.noChunks hnone).1 chunk ?_, .inl rfl⟩
          rw [hqueue]
          exact List.mem_cons_of_mem _ hmem
        checkingHash := by simp
        notDeleting := by simp
        opened := by simp
        notClosed := by simp [WriterThread.left]
        started := by simpa [hwriter] using hlive.started
        ends := by simpa using hends }
  · rename_i chunk queue hqueue
    apply hsound.stored.sound_setHandler
    left
    have hpos : handler.receivedChunks ≠ 0 := by
      intro hnone
      apply (hlive.noChunks hnone).1 chunk
      rw [hqueue]
      exact List.mem_cons_self
    exact
      { hlive with
        file := by
          intro hsuccess
          obtain ⟨file, hfile, hcontent, -⟩ := hlive.file hsuccess
          refine ⟨file, hfile, content_writer hcontent ?_ ?_ ?_ id, by simp [hends.1]⟩
          · intro bytes hsynced
            simpa [Handler.Synced, hwriter] using hsynced
          · simp [hwriter, WriterThread.left]
          · rintro (hmem | hleft)
            · left
              rw [hqueue]
              exact List.mem_cons_of_mem _ hmem
            · simp [WriterThread.left] at hleft
        noChunks := fun hnone => absurd hnone hpos
        checkingHash := by simp
        notDeleting := by simp
        opened := by simp [WriterThread.left]
        notClosed := fun _ => hclosed
        started := by simpa [hwriter] using hlive.started
        ends := by simpa using hends }

/-- A step of the writer thread while it has a chunk in hand. -/
theorem live_chunk (hlive : handler.Live world.disk)
    (hwriter : handler.writer.left = false ∧ handler.writer ≠ .notStarted ∧
      handler.writer ≠ .waiting) {disk : Disk} {writer : WriterThread} {hash : Sha1.Context}
    {offset : Nat} {size : Option Nat} {descriptor : Descriptor}
    (hsynced : ∀ file, world.disk.files handler.name = some file → handler.Synced file.bytes →
      ∃ file', disk.files handler.name = some file' ∧
        { handler with
          writer := writer
          hash := hash
          offset := offset
          size := size
          descriptor := descriptor }.Synced file'.bytes)
    (hnext : writer ≠ .notStarted ∧ writer ≠ .checkingHash ∧ writer ≠ .deleting ∧
      writer ≠ .finished ∧ writer ≠ .posting false)
    (hopened : descriptor = .opened → writer.left = true → writer = .closing)
    (hclosed : writer.left = false → descriptor ≠ .closed) (hnone : descriptor ≠ .none) :
    { handler with
      writer := writer
      hash := hash
      offset := offset
      size := size
      descriptor := descriptor }.Live disk :=
  have hfinished : handler.writer ≠ .finished := by
    intro hfinished
    simp [hfinished, WriterThread.left] at hwriter
  have hends := hlive.ends_nil hfinished
  have hstarted := hlive.started.mpr hwriter.2.1
  have hsuccess := (hlive.startedRunning hstarted).1
  { hlive with
    file := by
      intro _
      obtain ⟨file, hfile, hcontent, -⟩ := hlive.file hsuccess
      obtain ⟨htwisted, -, hfollows⟩ := content_writing hlive hwriter hcontent
      obtain ⟨file', hfile', hsynced'⟩ := hsynced file hfile hfollows
      refine ⟨file', hfile', content_of_synced htwisted hsynced', ?_⟩
      rintro (hposting | hfalse)
      · exact absurd hposting hnext.2.2.2.2
      · simp [hends.1] at hfalse
    noChunks := by
      obtain ⟨file, -, hcontent, -⟩ := hlive.file hsuccess
      exact fun hzero => absurd hzero (content_writing hlive hwriter hcontent).2.1
    checkingHash := fun hchecking => absurd hchecking hnext.2.1
    notDeleting := hnext.2.2.1
    opened := hopened
    notClosed := hclosed
    descriptor := fun _ => hnone
    started := ⟨fun _ => hnext.1, fun _ => hstarted⟩
    ends := by
      rw [if_neg hnext.2.2.2.1]
      exact hends }

theorem sound_writing (hsound : world.Sound matching) (hlive : handler.Live world.disk) {chunk : Chunk}
    (hwriter : handler.writer = .writing chunk) (fails : Bool) :
    (world.writer handler fails).Sound matching := by
  have hrunning : handler.writer.left = false ∧ handler.writer ≠ .notStarted ∧
      handler.writer ≠ .waiting := by
    rw [hwriter]
    exact ⟨rfl, by simp, by simp⟩
  have hsuccess := (hlive.startedRunning (hlive.started.mpr hrunning.2.1)).1
  have hopened := hlive.descriptor_opened hsuccess hrunning.1
  obtain ⟨file, hfile, -, -⟩ := hlive.file hsuccess
  unfold writer
  rw [hwriter]
  dsimp only
  split
  · apply hsound.stored.sound_setHandler
    left
    apply live_chunk hlive hrunning
    · intro file hfile hsynced
      refine ⟨file, hfile, ?_⟩
      simpa [Handler.Synced, hwriter] using hsynced
    · simp
    · simp
    · simp [WriterThread.left]
    · simp
  · rw [hfile]
    apply (hsound.stored.withDisk (Disk.later_write _ _)).sound_setHandler
    left
    apply live_chunk hlive hrunning
    · intro file' hfile' hsynced
      rw [hfile] at hfile'
      cases hfile'
      refine ⟨⟨file.bytes ++ chunk.data, world.disk.clock + 1⟩, by simp [Disk.files_write], ?_⟩
      simp only [Handler.Synced, hwriter] at hsynced
      exact ⟨file.bytes, rfl, hsynced⟩
    · simp
    · simp [WriterThread.left]
    · simp [hopened]
    · simp [hopened]

theorem sound_hashing (hsound : world.Sound matching) (hlive : handler.Live world.disk) {chunk : Chunk}
    (hwriter : handler.writer = .hashing chunk) (fails : Bool) :
    (world.writer handler fails).Sound matching := by
  have hrunning : handler.writer.left = false ∧ handler.writer ≠ .notStarted ∧
      handler.writer ≠ .waiting := by
    rw [hwriter]
    exact ⟨rfl, by simp, by simp⟩
  have hsuccess := (hlive.startedRunning (hlive.started.mpr hrunning.2.1)).1
  have hopened := hlive.descriptor_opened hsuccess hrunning.1
  unfold writer
  rw [hwriter]
  apply hsound.stored.sound_setHandler
  left
  apply live_chunk hlive hrunning
  · intro file hfile hsynced
    refine ⟨file, hfile, ?_⟩
    simp only [Handler.Synced, hwriter] at hsynced ⊢
    obtain ⟨hashed, hbytes, hhash, hoffset⟩ := hsynced
    refine ⟨?_, ?_⟩
    · rw [hhash, hbytes, Sha1.update_ofBytes]
    · rw [hoffset, hbytes, List.length_append, Chunk.size]
  · simp
  · simp [WriterThread.left]
  · simp [hopened]
  · simp [hopened]

theorem sound_counting (hsound : world.Sound matching) (hlive : handler.Live world.disk) {chunk : Chunk}
    (hwriter : handler.writer = .counting chunk) (fails : Bool) :
    (world.writer handler fails).Sound matching := by
  have hrunning : handler.writer.left = false ∧ handler.writer ≠ .notStarted ∧
      handler.writer ≠ .waiting := by
    rw [hwriter]
    exact ⟨rfl, by simp, by simp⟩
  have hsuccess := (hlive.startedRunning (hlive.started.mpr hrunning.2.1)).1
  have hopened := hlive.descriptor_opened hsuccess hrunning.1
  unfold writer
  rw [hwriter]
  apply hsound.stored.sound_setHandler
  left
  apply live_chunk hlive hrunning
  · intro file hfile hsynced
    refine ⟨file, hfile, ?_⟩
    simp only [Handler.Synced, hwriter] at hsynced
    unfold Handler.Synced
    dsimp only
    split <;> rename_i hcase <;> split at hcase <;> first | exact hsynced | cases hcase
  · split <;> simp
  · split <;> simp [WriterThread.left]
  · simp [hopened]
  · simp [hopened]

/-- The writer thread goes on after its loop. -/
theorem live_left (hlive : handler.Live world.disk) (hwriter : handler.writer.left = true)
    (hfinished : handler.writer ≠ .finished) {writer : WriterThread} {descriptor : Descriptor}
    (hleft : writer.left = true)
    (hnext : writer ≠ .deleting ∧ writer ≠ .finished ∧ writer ≠ .closing)
    (hdescriptor : descriptor = .closed)
    (hchecking : writer = .checkingHash → handler.size = some handler.offset)
    (hposting : writer = .posting false → ∀ file, world.disk.files handler.name = some file →
      handler.Content file.bytes → handler.Received file.bytes) :
    { handler with writer := writer, descriptor := descriptor }.Live world.disk :=
  have hends := hlive.ends_nil hfinished
  have hnotStarted : handler.writer ≠ .notStarted := by
    intro hnotStarted
    simp [hnotStarted, WriterThread.left] at hwriter
  { hlive with
    file := by
      intro hsuccess
      obtain ⟨file, hfile, hcontent, -⟩ := hlive.file hsuccess
      refine ⟨file, hfile, ?_, ?_⟩
      · apply content_writer hcontent
        · intro bytes hsynced
          rw [Handler.synced_of_left hwriter] at hsynced
          rw [Handler.synced_of_left hleft]
          exact hsynced
        · exact fun _ => hleft
        · exact fun _ => .inr hwriter
        · simp [hdescriptor]
      · rintro (hfalse | hfalse)
        · exact hposting hfalse file hfile hcontent
        · simp [hends.1] at hfalse
    noChunks := fun hnone => ⟨(hlive.noChunks hnone).1, .inl hleft⟩
    checkingHash := hchecking
    notDeleting := hnext.1
    opened := by simp [hdescriptor]
    notClosed := by simp [hleft]
    descriptor := by simp [hdescriptor]
    started := by
      refine ⟨fun _ hnext' => ?_, fun _ => hlive.started.mpr hnotStarted⟩
      rw [show writer = .notStarted from hnext'] at hleft
      cases hleft
    ends := by
      rw [if_neg hnext.2.1]
      exact hends }

/-- Past the end of its loop the writer thread has closed the file. -/
theorem descriptor_closed (hlive : handler.Live world.disk) (hwriter : handler.writer.left = true)
    (hclosing : handler.writer ≠ .closing) : handler.descriptor = .closed := by
  have hstarted := hlive.started.mpr (by
    intro hnotStarted
    simp [hnotStarted, WriterThread.left] at hwriter)
  have hnone := hlive.descriptor (hlive.startedRunning hstarted).1
  cases hcase : handler.descriptor with
  | none => exact absurd hcase hnone
  | opened => exact absurd (hlive.opened hcase hwriter) hclosing
  | closed => rfl

theorem sound_closing (hsound : world.Sound matching) (hlive : handler.Live world.disk)
    (hwriter : handler.writer = .closing) (fails : Bool) :
    (world.writer handler fails).Sound matching := by
  unfold writer
  rw [hwriter]
  apply hsound.stored.sound_setHandler
  left
  apply live_left hlive
  · rw [hwriter]
    rfl
  · simp [hwriter]
  · rfl
  · simp
  · rfl
  · simp
  · simp

theorem sound_checkingOffset (hsound : world.Sound matching) (hlive : handler.Live world.disk)
    (hwriter : handler.writer = .checkingOffset) (fails : Bool) :
    (world.writer handler fails).Sound matching := by
  have hleft : handler.writer.left = true := by rw [hwriter]; rfl
  have hclosed := descriptor_closed hlive hleft (by simp [hwriter])
  unfold writer
  rw [hwriter]
  apply hsound.stored.sound_setHandler
  left
  refine live_left hlive hleft ?_ ?_ ?_ hclosed ?_ ?_
  · simp [hwriter]
  · split <;> rfl
  · split <;> simp
  · split
    · exact fun _ => ‹_›
    · simp
  · split <;> simp

/-- **The check of the hash**: offset and hash object tell what is in the file. -/
theorem received_of_checked (hlive : handler.Live world.disk)
    (hwriter : handler.writer = .checkingHash)
    (hhash : handler.selectorHash = some (encodeHash (Sha1.digest handler.hash))) {bytes : Bytes}
    (hcontent : handler.Content bytes) : handler.Received bytes := by
  have hleft : handler.writer.left = true := by rw [hwriter]; rfl
  have hsize := hlive.checkingHash hwriter
  have hempty : bytes = [] → handler.Harmless → handler.Received bytes := by
    rintro rfl hharmless
    obtain ⟨hoffset, hinit⟩ := hharmless hsize
    rw [hoffset] at hsize
    rw [hinit] at hhash
    exact ⟨hsize, hhash⟩
  unfold Handler.Content at hcontent
  cases htwisted : handler.twisted with
  | truncated chunk | sought chunk | hashReset chunk =>
      simp only [htwisted] at hcontent
      exact hempty hcontent.1 (hcontent.2.2.1 (.inr hleft))
  | idle | counting chunk | queueing chunk =>
      simp only [htwisted] at hcontent
      rcases hcontent with hsynced | ⟨hnil, -, -, hharmless⟩
      · obtain ⟨hbytes, hoffset⟩ := (Handler.synced_of_left hleft).mp hsynced
        rw [hoffset] at hsize
        rw [hbytes] at hhash
        exact ⟨hsize, hhash⟩
      · exact hempty hnil hharmless

theorem sound_checkingHash (hsound : world.Sound matching) (hlive : handler.Live world.disk)
    (hwriter : handler.writer = .checkingHash) {fails : Bool}
    (hmatching : matching → handler.Matching (.writer fails)) :
    (world.writer handler fails).Sound matching := by
  have hleft : handler.writer.left = true := by rw [hwriter]; rfl
  have hclosed := descriptor_closed hlive hleft (by simp [hwriter])
  unfold writer
  rw [hwriter]
  dsimp only
  split_ifs with hhash
  · apply hsound.stored.sound_setHandler
    left
    refine live_left hlive hleft ?_ ?_ ?_ hclosed ?_ ?_
    · simp [hwriter]
    · rfl
    · simp
    · simp
    · exact fun _ file _ hcontent => received_of_checked hlive hwriter hhash hcontent
  · -- the file is about to be deleted
    apply hsound.stored.sound_deleted fun h => hhash (hmatching h hwriter)
    have hstarted := hlive.started.mpr (by simp [hwriter])
    obtain ⟨-, hstream, hrunning⟩ := hlive.startedRunning hstarted
    have hends := hlive.ends_nil (by simp [hwriter])
    exact
      { stream := hlive.stream
        file := fun hdeleting => absurd rfl hdeleting
        writer := .inl rfl
        descriptor := hclosed
        started := hstarted
        streamStarted := hstream
        joined := hlive.running hrunning
        ends := by simpa using hends.2
        notifications := .inl hends.1
        raised := fun _ => ⟨hends.1, hlive.raised⟩ }

theorem sound_posting (hsound : world.Sound matching) (hlive : handler.Live world.disk) {error : Bool}
    (hwriter : handler.writer = .posting error) (fails : Bool) :
    (world.writer handler fails).Sound matching := by
  have hleft : handler.writer.left = true := by rw [hwriter]; rfl
  have hclosed := descriptor_closed hlive hleft (by simp [hwriter])
  have hends := hlive.ends_nil (by simp [hwriter])
  unfold writer
  rw [hwriter]
  dsimp only
  rw [if_pos hlive.stream, hends.1, hends.2]
  apply hsound.stored.sound_setHandler
  left
  exact
    { hlive with
      file := by
        intro hsuccess
        obtain ⟨file, hfile, hcontent, hreceived⟩ := hlive.file hsuccess
        refine ⟨file, hfile, ?_, ?_⟩
        · refine content_writer hcontent ?_ ?_ ?_ ?_
          · intro bytes hsynced
            rw [Handler.synced_of_left hleft] at hsynced
            rw [Handler.synced_of_left rfl]
            exact hsynced
          · exact fun _ => rfl
          · exact fun _ => .inr hleft
          · exact id
        · rintro (hposting | hfalse)
          · cases hposting
          · have hfalse : error = false := by simpa using hfalse
            exact hreceived (.inl (hfalse ▸ hwriter))
      noChunks := fun hnone => ⟨(hlive.noChunks hnone).1, .inl rfl⟩
      checkingHash := by simp
      notDeleting := by simp
      opened := by simp [hclosed]
      notClosed := by simp [WriterThread.left]
      started := by simpa [hwriter] using hlive.started
      ends := ⟨error, rfl, rfl⟩ }

theorem sound_writer (hsound : world.Sound matching) (hlive : handler.Live world.disk) {fails : Bool}
    (hmatching : matching → handler.Matching (.writer fails)) :
    (world.writer handler fails).Sound matching := by
  cases hwriter : handler.writer with
  | notStarted | finished =>
      unfold writer
      rw [hwriter]
      exact hsound
  | waiting => exact sound_waiting hsound hlive hwriter fails
  | writing chunk => exact sound_writing hsound hlive hwriter fails
  | hashing chunk => exact sound_hashing hsound hlive hwriter fails
  | counting chunk => exact sound_counting hsound hlive hwriter fails
  | closing => exact sound_closing hsound hlive hwriter fails
  | checkingOffset => exact sound_checkingOffset hsound hlive hwriter fails
  | checkingHash => exact sound_checkingHash hsound hlive hwriter hmatching
  | deleting => exact absurd hwriter hlive.notDeleting
  | posting error => exact sound_posting hsound hlive hwriter fails

/-! ### Every step -/

/-- Nothing reaches a handler that has terminated. -/
theorem sound_terminated (hsound : world.Sound matching) (hterminated : handler.Terminated)
    (input : Step) : (world.handlerStep handler input).Sound matching := by
  have hstream := hterminated.stream
  have hset : ∀ other : Handler, other.Terminated → (world.setHandler other).Sound matching :=
    fun other hother => hsound.stored.sound_setHandler (.inr hother)
  cases input with
  | initializeTransfer request => exact hsound
  | sessionWillStart => exact hset _ { hterminated with }
  | sessionDidFail =>
      unfold handlerStep
      dsimp only
      rw [if_neg (by simp [hstream])]
      exact hset _ { hterminated with }
  | streamDidStart =>
      unfold handlerStep
      dsimp only
      rw [if_neg (by simp [hstream])]
      exact hset _ { hterminated with }
  | streamWillEnd =>
      unfold handlerStep
      dsimp only
      rw [if_neg (by simp [hstream])]
      exact hset _ { hterminated with }
  | streamDidNotInitialize =>
      unfold handlerStep
      dsimp only
      rw [if_neg (by simp [hstream])]
      exact hset _ { hterminated with }
  | notification =>
      unfold handlerStep
      rw [hterminated.notifications]
      exact hsound
  | processChunk chunk =>
      unfold handlerStep processChunk
      dsimp only
      split
      · rw [if_neg (by simp [hstream])]
        exact hsound
      · exact hset _ { hterminated with }
  | processNext =>
      apply hset
      unfold Handler.processNext
      split <;> exact { hterminated with }
  | fileOffset =>
      unfold handlerStep fileOffset
      dsimp only
      rw [if_pos (by simp [hstream])]
      exact hsound
  | endTransfer => exact hset _ { hterminated with }
  | writer fails =>
      unfold handlerStep writer
      rcases hterminated.writer with hwriter | hwriter <;> rw [hwriter] <;> exact hsound
  | otherWrite name bytes => exact hsound
  | otherUnlink name => exact hsound
  | saveMetadata => exact hsound
  | restart expired => exact hsound

/-- What handles the end of a transfer whose file is gone raises. -/
theorem sound_deleted_notification (hsound : world.Sound matching) (hmatching : ¬ matching)
    (hdeleted : handler.Deleted world.disk) : (world.handlerStep handler .notification).Sound matching := by
  have hset : ∀ other : Handler, other.Deleted world.disk → (world.setHandler other).Sound matching :=
    fun other hother => hsound.stored.sound_deleted hmatching hother
  unfold handlerStep
  dsimp only
  rcases hdeleted.notifications with hnone | ⟨hposted, hraised⟩
  · rw [hnone]
    exact hsound
  · have hfinished : handler.writer = .finished := by
      by_contra hwriter
      simp [(hdeleted.raised hwriter).1] at hposted
    have hfile := hdeleted.file (by simp [hfinished])
    rw [hposted]
    unfold onDidEnd
    dsimp only
    rw [if_neg (by simp [hdeleted.stream])]
    split
    · rw [hfile]
      exact hset _
        { hdeleted with
          notifications := .inl rfl
          raised := fun hwriter => absurd hfinished hwriter }
    · exact hsound.stored.sound_setHandler
        (.inr (terminated_terminate hdeleted.stream hraised rfl (.inr hfinished)))

theorem sound_deleted_writer (hsound : world.Sound matching) (hmatching : ¬ matching)
    (hdeleted : handler.Deleted world.disk) (fails : Bool) :
    (world.handlerStep handler (.writer fails)).Sound matching := by
  have hset : ∀ other : Handler, other.Deleted world.disk → (world.setHandler other).Sound matching :=
    fun other hother => hsound.stored.sound_deleted hmatching hother
  unfold handlerStep writer
  rcases hdeleted.writer with hwriter | hwriter | hwriter
  · rw [hwriter]
    refine (hsound.stored.withDisk (Disk.later_unlink _)).sound_deleted hmatching ?_
    have hbefore := hdeleted.raised (by simp [hwriter])
    exact
      { hdeleted with
        file := fun _ => by simp [Disk.files_unlink]
        writer := .inr (.inl rfl)
        ends := by simpa [hwriter] using hdeleted.ends
        raised := fun _ => hbefore }
  · obtain ⟨hnone, hraised⟩ := hdeleted.raised (by simp [hwriter])
    have hends := hdeleted.ends
    rw [if_neg (by simp [hwriter])] at hends
    rw [hwriter]
    dsimp only
    rw [if_pos hdeleted.stream, hnone, hends]
    exact hset _
      { hdeleted with
        file := fun _ => hdeleted.file (by simp [hwriter])
        writer := .inr (.inr rfl)
        ends := by simp
        notifications := .inr ⟨rfl, hraised⟩
        raised := fun hwriter => absurd rfl hwriter }
  · rw [hwriter]
    exact hsound

/-- A file that is gone is not touched again, and nothing is stored for it. -/
theorem sound_deleted (hsound : world.Sound matching) (hmatching : ¬ matching)
    (hdeleted : handler.Deleted world.disk) {input : Step} (henabled : Enabled handler input) :
    (world.handlerStep handler input).Sound matching := by
  have hset : ∀ other : Handler, other.Deleted world.disk → (world.setHandler other).Sound matching :=
    fun other hother => hsound.stored.sound_deleted hmatching hother
  have hnotOpened : handler.descriptor ≠ .opened := by simp [hdeleted.descriptor]
  cases input with
  | initializeTransfer request => exact hsound
  | sessionWillStart => exact hset _ { hdeleted with joined := .inr hdeleted.stream }
  | sessionDidFail =>
      have hsession := hdeleted.joined.resolve_left (by simp [henabled.2.1])
      unfold handlerStep onSessionDidFail
      dsimp only
      rw [if_pos hdeleted.stream, if_neg (by simp [hsession])]
      exact hset _ { hdeleted with }
  | streamDidStart => exact absurd hdeleted.streamStarted (by simp [henabled.2.2.2.1])
  | streamWillEnd =>
      unfold handlerStep onStreamWillEnd
      dsimp only
      rw [if_pos hdeleted.stream, if_pos hdeleted.started]
      exact hset _ { hdeleted with }
  | streamDidNotInitialize => exact absurd hdeleted.streamStarted (by simp [henabled.2.1])
  | notification => exact sound_deleted_notification hsound hmatching hdeleted
  | processChunk chunk =>
      unfold handlerStep processChunk
      dsimp only
      split
      · rw [if_neg fun hopened => hnotOpened hopened.2]
        exact hsound
      · exact hset _ { hdeleted with }
  | processNext =>
      apply hset
      unfold Handler.processNext
      split <;> exact { hdeleted with }
  | fileOffset =>
      unfold handlerStep fileOffset
      dsimp only
      rw [if_neg (by simp [hdeleted.stream])]
      split
      · exact hset _ { hdeleted with }
      · rw [hdeleted.descriptor]
        exact hsound
  | endTransfer => exact hset _ { hdeleted with }
  | writer fails => exact sound_deleted_writer hsound hmatching hdeleted fails
  | otherWrite name bytes => exact hsound
  | otherUnlink name => exact hsound
  | saveMetadata => exact hsound
  | restart expired => exact hsound

theorem sound_handlerStep (hsound : world.Sound matching) (hlive : handler.Live world.disk) {input : Step}
    (henabled : Enabled handler input) (hsettled : handler.Settled input)
    (hmatching : matching → handler.Matching input) :
    (world.handlerStep handler input).Sound matching := by
  cases input with
  | initializeTransfer request => exact hsound
  | sessionWillStart => exact sound_sessionWillStart hsound.stored hlive
  | sessionDidFail => exact sound_sessionDidFail hsound.stored hlive henabled
  | streamDidStart => exact sound_streamDidStart hsound.stored hlive henabled
  | streamWillEnd => exact sound_streamWillEnd hsound.stored hlive henabled
  | streamDidNotInitialize => exact sound_streamDidNotInitialize hsound.stored hlive henabled
  | notification => exact sound_notification hsound hlive henabled
  | processChunk chunk => exact sound_processChunk hsound hlive henabled hsettled
  | processNext => exact sound_processNext hsound hlive
  | fileOffset => exact sound_fileOffset hsound hlive
  | endTransfer => exact hsound.stored.sound_setHandler (.inl (live_endTransfer hlive hsettled))
  | writer fails => exact sound_writer hsound hlive hmatching
  | otherWrite name bytes => exact hsound
  | otherUnlink name => exact hsound
  | saveMetadata => exact hsound
  | restart expired => exact hsound

/-- The files of a running transfer are its own. -/
theorem sound_otherFile (hsound : world.Sound matching) {name : Text} (hfree : world.Free name)
    {disk : Disk} (hlater : world.disk.Later disk)
    (hfiles : ∀ other, other ≠ name → disk.files other = world.disk.files other) :
    { world with disk := disk }.Sound matching where
  stored := hsound.stored.withDisk hlater
  handler handler hhandler := by
    rcases hsound.handler handler hhandler with hlive | hterminated | ⟨hmatching, hdeleted⟩
    · left
      have hname := hfree handler hhandler hlive.stream
      exact
        { hlive with
          file := by
            rw [hfiles _ hname]
            exact hlive.file }
    · exact .inr (.inl hterminated)
    · have hname := hfree handler hhandler hdeleted.stream
      refine .inr (.inr ⟨hmatching, { hdeleted with file := fun hwriter => ?_ }⟩)
      rw [hfiles _ hname]
      exact hdeleted.file hwriter

/-- A handler whose file could not be opened. -/
theorem live_didNotInitialize (request : Request) (disk : Disk) (name : Text) :
    ({ request.handler with name := name }.didNotInitialize).Live disk where
  stream := rfl
  raised := rfl
  file hsuccess := by cases hsuccess
  noChunks _ := ⟨by simp [Handler.didNotInitialize, Request.handler], .inr (.inl rfl)⟩
  queueing := by simp [Handler.didNotInitialize, Request.handler]
  checkingHash hwriter := by cases hwriter
  notDeleting := by simp [Handler.didNotInitialize, Request.handler]
  opened hopened := by cases hopened
  notClosed _ := by simp [Handler.didNotInitialize, Request.handler]
  descriptor hsuccess := by cases hsuccess
  started := by simp [Handler.didNotInitialize, Request.handler]
  startedRunning hstarted := by cases hstarted
  running := by simp [Handler.didNotInitialize, Request.handler]
  ends := by simp [Handler.didNotInitialize, Request.handler]

/-- A handler that has opened its file, with the hash object and the offset for its bytes. -/
theorem live_didInitialize (request : Request) {disk : Disk} {name : Text} {file : StoredFile}
    (hfile : disk.files name = some file) :
    ({ request.handler with
        name := name
        descriptor := .opened
        offset := file.bytes.length
        hash := Sha1.ofBytes file.bytes }.didInitialize).Live disk :=
  { live_didNotInitialize request disk name with
    file := fun _ => ⟨file, hfile, .inl ⟨rfl, rfl⟩, by
      simp [Handler.didInitialize, Request.handler]⟩
    checkingHash := fun hwriter => by cases hwriter
    opened := fun _ hleft => by cases hleft
    notClosed := fun _ => by simp [Handler.didInitialize]
    descriptor := fun _ => by simp [Handler.didInitialize]
    startedRunning := fun hstarted => by cases hstarted }

theorem sound_createFile (hstored : world.Stored) {request : Request} (name : Text)
    {world' : World}
    (hcreated : world.createFile { request.handler with name := name } request = some world') :
    world'.Sound matching := by
  unfold createFile at hcreated
  dsimp only at hcreated
  split at hcreated
  · rw [Option.some.injEq] at hcreated
    subst hcreated
    split
    · generalize generate (join request.directory (basename name)) request.taken = newName
      have hfile : (world.disk.write newName []).files newName =
          some ⟨[], world.disk.clock + 1⟩ := by
        rw [Disk.files_write, if_pos rfl]
      have hlive := live_didInitialize request hfile
      rw [Sha1.ofBytes_nil] at hlive
      exact ((hstored.save hstored.metadata).withDisk
        (Disk.later_write newName [])).sound_setHandler (.inl hlive)
    · exact hstored.sound_setHandler (.inl (live_didNotInitialize request _ name))
  · cases hcreated

theorem sound_initializeTransfer (hstored : world.Stored) {request : Request} {world' : World}
    (hinitialized : world.initializeTransfer request = some world') : world'.Sound matching := by
  have hnot : (world.setHandler request.handler.didNotInitialize).Sound matching :=
    hstored.sound_setHandler (.inl (live_didNotInitialize request _ request.name))
  unfold initializeTransfer at hinitialized
  dsimp only at hinitialized
  split at hinitialized
  · exact Option.some.inj hinitialized ▸ hnot
  split at hinitialized
  · exact Option.some.inj hinitialized ▸ hnot
  rename_i hash hhash
  split at hinitialized
  · exact sound_createFile hstored request.name hinitialized
  rename_i prevFile hprevFile
  have hmatches := hstored.metadata _ _ hprevFile
  have hpopped : world.disk.MatchesAll (Function.update world.metadata (lower hash) none) :=
    matchesAll_pop hstored.metadata _
  replace hstored := hstored.withMetadata hpopped
  split at hinitialized
  · exact sound_createFile hstored request.name hinitialized
  rename_i file hfile
  split at hinitialized
  · exact sound_createFile hstored request.name hinitialized
  rename_i hmtime
  have hstoredHash := hmatches.hash_eq _ _ hfile (not_not.mp hmtime)
  -- the file keeps its contents under either name
  by_cases hlinked : request.linkable = true ∧
      world.disk.files (join request.directory (basename request.name)) = none
  · simp only [hlinked, and_self, if_true] at hinitialized
    have hrenamed := hstored.withDisk (Disk.later_rename prevFile.filename
      (join request.directory (basename request.name)))
    split at hinitialized
    · rw [← Option.some.inj hinitialized, hstoredHash]
      apply (hrenamed.save hrenamed.metadata).sound_setHandler
      left
      apply live_didInitialize request
      have hother : join request.directory (basename request.name) ≠ prevFile.filename := by
        intro hsame
        rw [hsame, hfile] at hlinked
        cases hlinked.2
      simp only [save, Disk.files_rename, if_neg hother, if_true, hfile]
    · exact sound_createFile hrenamed _ hinitialized
  · simp only [hlinked, if_false] at hinitialized
    split at hinitialized
    · rw [← Option.some.inj hinitialized, hstoredHash]
      apply (hstored.save hpopped).sound_setHandler
      left
      exact live_didInitialize request hfile
    · exact sound_createFile hstored _ hinitialized

/-- What a step of the handler leaves. -/
def handled (world : World) (input : Step) : World :=
  match world.handler with
  | none => world
  | some handler => if Enabled handler input then world.handlerStep handler input else world

theorem sound_handled (hsound : world.Sound matching) {input : Step} (hsettled : world.Settled input)
    (hmatching : matching → world.Matching input) : (world.handled input).Sound matching := by
  unfold handled
  split
  · exact hsound
  · rename_i handler hhandler
    split
    · rename_i henabled
      rcases hsound.handler handler hhandler with hlive | hterminated | ⟨hnot, hdeleted⟩
      · exact sound_handlerStep hsound hlive henabled (hsettled handler hhandler)
          fun h => hmatching h handler hhandler
      · exact sound_terminated hsound hterminated input
      · exact sound_deleted hsound hnot hdeleted henabled
    · exact hsound

/-- **One step** of the world keeps the invariant. -/
theorem sound_step (hsound : world.Sound matching) {input : Step} (hsettled : world.Settled input)
    (hmatching : matching → world.Matching input) : (world.step input).Sound matching := by
  unfold step
  cases input with
  | initializeTransfer request =>
      dsimp only
      split
      · exact hsound
      · cases hinitialized : world.initializeTransfer request with
        | none => exact hsound
        | some world' => exact sound_initializeTransfer hsound.stored hinitialized
  | otherWrite name bytes =>
      dsimp only
      split
      · rename_i hfree
        apply sound_otherFile hsound hfree (Disk.later_write _ _)
        intro other hother
        rw [Disk.files_write, if_neg hother]
      · exact hsound
  | otherUnlink name =>
      dsimp only
      split
      · rename_i hfree
        apply sound_otherFile hsound hfree (Disk.later_unlink _)
        intro other hother
        rw [Disk.files_unlink, if_neg hother]
      · exact hsound
  | saveMetadata =>
      dsimp only
      split
      · exact hsound
      · rename_i metadata saving hsaving
        have hstored := hsound.stored
        refine ⟨⟨hstored.disk, hstored.metadata, fun other hmem => ?_, ?_⟩, hsound.handler⟩
        · exact hstored.saving other (hsaving ▸ List.mem_cons_of_mem _ hmem)
        · exact hstored.saving metadata (hsaving ▸ List.mem_cons_self)
  | restart expired =>
      have hstored := hsound.stored
      refine ⟨⟨hstored.disk, fun hash entry hentry => ?_, by simp, hstored.saved⟩, by simp⟩
      exact hstored.saved hash entry (Option.filter_eq_some_iff.mp hentry).1
  | sessionWillStart => exact sound_handled hsound hsettled hmatching
  | sessionDidFail => exact sound_handled hsound hsettled hmatching
  | streamDidStart => exact sound_handled hsound hsettled hmatching
  | streamWillEnd => exact sound_handled hsound hsettled hmatching
  | streamDidNotInitialize => exact sound_handled hsound hsettled hmatching
  | notification => exact sound_handled hsound hsettled hmatching
  | processChunk chunk => exact sound_handled hsound hsettled hmatching
  | processNext => exact sound_handled hsound hsettled hmatching
  | fileOffset => exact sound_handled hsound hsettled hmatching
  | endTransfer => exact sound_handled hsound hsettled hmatching
  | writer fails => exact sound_handled hsound hsettled hmatching

theorem sound_empty : empty.Sound matching where
  stored :=
    { disk :=
        { mtime_le := fun _ _ hfile => by cases hfile
          bytes_eq := fun _ _ _ _ hfile => by cases hfile }
      metadata := fun _ _ hentry => by cases hentry
      saving := fun _ hmem => by cases hmem
      saved := fun _ _ hentry => by cases hentry }
  handler := fun _ hhandler => by cases hhandler

/-- **The integrity of received files** in a settled run, whatever the order of the steps. -/
theorem transfer_integrity {inputs : List Step}
    (hsettled : Runs.Meets step Settled empty inputs) :
    let world := Runs.run step empty inputs
    -- a transfer that is announced as complete is
    (∀ handler ∈ world.handler,
      (handler.writer = .posting false ∨ (handler.stream = true ∧ false ∈ handler.ends)) →
        ∃ file, world.disk.files handler.name = some file ∧ handler.Received file.bytes) ∧
    -- what is stored for a resume is the hash of the stored file
    (world.disk.MatchesAll world.metadata ∧
      (∀ metadata ∈ world.saving, world.disk.MatchesAll metadata) ∧
      world.disk.MatchesAll world.saved) ∧
    -- a transfer that has ended has terminated, once nothing is left to be handled, if no hash was wrong
    (Runs.Meets step Matching empty inputs → ∀ handler ∈ world.handler, handler.raised = false ∧
      (handler.ends ≠ [] → handler.notifications = [] →
        handler.stream = false ∧ handler.descriptor ≠ .opened)) := by
  intro world
  have hsound : world.Sound False :=
    Runs.invariant_run (Sound False) (fun _ _ hsound hsettled => sound_step hsound hsettled False.elim)
      sound_empty hsettled
  refine ⟨fun handler hhandler hcomplete => ?_,
    ⟨hsound.stored.metadata, hsound.stored.saving, hsound.stored.saved⟩,
    fun hmatching handler hhandler => ?_⟩
  · rcases hsound.handler handler hhandler with hlive | hterminated | ⟨-, hdeleted⟩
    · exact hlive.received hcomplete
    · exact absurd hcomplete hterminated.not_complete
    · exact absurd hcomplete hdeleted.not_complete
  · have hmatched : world.Sound True :=
      Runs.invariant_run (Sound True) (fun _ _ hsound hboth => sound_step hsound hboth.1 fun _ => hboth.2)
        sound_empty (hsettled.and hmatching)
    rcases hmatched.handler handler hhandler with hlive | hterminated | ⟨hnot, -⟩
    · exact ⟨hlive.raised, fun hends hnone => absurd hnone (hlive.notifications_ne_nil hends)⟩
    · exact ⟨hterminated.raised, fun _ _ => ⟨hterminated.stream, hterminated.descriptor⟩⟩
    · exact absurd trivial hnot

/-! ### A transfer, and two that go wrong -/

/-- A transfer of a file with this hash. -/
def requestFor (size : Nat) (digest : Bytes) : Request where
  name := "file".toList
  size := some size
  hash := some (encodeHash digest)
  directory := "received".toList
  directoryMade := true
  linkable := true
  appendable := true
  creatable := true
  taken := 0
  joined := false

/-- The transfer starts. -/
def started (request : Request) : List Step :=
  [.initializeTransfer request, .sessionWillStart, .streamDidStart]

/-- A chunk is received and written. The first one of a file at byte 1 starts the file again. -/
def received (chunk : Chunk) (first : Bool) : List Step :=
  .processChunk chunk :: List.replicate (if first then 5 else 2) .processNext ++
    List.replicate 4 (.writer false)

/-- The writer thread leaves its loop and posts the end, and the end is handled. -/
def ended : List Step := List.replicate 4 (.writer false) ++ [.notification]

/-- The received file is the one byte 0x61. -/
theorem transfer_integrity_received :
    ((Runs.run step empty (started (requestFor 1 (Sha1.digest (Sha1.ofBytes [0x61]))) ++
      received ⟨[0x61], 1, some 1⟩ true ++ List.replicate 3 (.writer false))).handler.any
        fun handler => handler.writer = .posting false) = true ∧
    ∀ handler ∈ (Runs.run step empty (started (requestFor 1 (Sha1.digest (Sha1.ofBytes [0x61]))) ++
      received ⟨[0x61], 1, some 1⟩ true ++ ended)).handler, handler.raised = false := by
  refine ⟨by decide +kernel, fun handler hhandler => ?_⟩
  exact ((transfer_integrity (by decide +kernel)).2.2 (by decide +kernel) handler hhandler).1

/-- A file of the announced size with another hash is deleted, and the handler of
`FileTransferHandlerDidEnd` raises when it asks for its size. And a transfer that holds a complete
file ends while a chunk starts the file again: the end is posted without an error, and the file is
empty. -/
theorem transfer_not_integral :
    ((Runs.run step empty (started (requestFor 1 (List.replicate 20 0)) ++
      received ⟨[0x61], 1, some 1⟩ true ++ List.replicate 5 (.writer false) ++
        [.notification])).handler.map
        fun handler => (handler.ends, handler.notifications, handler.raised, handler.stream)) =
      some ([true], [], true, true) ∧
    let world := Runs.run step empty (
      let request := requestFor 1 (Sha1.digest (Sha1.ofBytes [0x61]))
      -- the total is not announced with the chunk, so the complete file counts as incomplete
      started request ++ received ⟨[0x61], 1, none⟩ true ++ [.streamWillEnd, .writer false] ++
        List.replicate 3 (.writer false) ++ [.notification] ++
      started request ++ [.streamWillEnd, .writer false, .processChunk ⟨[0x61], 1, some 1⟩] ++
        List.replicate 4 (.writer false))
    (world.handler.map fun handler =>
      (handler.ends, handler.size, world.disk.files handler.name |>.map StoredFile.bytes)) =
      some ([false], some 1, some []) := by
  decide +kernel

end World

end SipSimple.Streams
