import Mathlib.Logic.Function.Basic
import SipSimple.Util.Sha1

/-!
# Incoming file transfers

`IncomingFileTransferHandler` of `streams/msrp/filetransfer.py`, with the metadata that lets an
interrupted transfer go on later. Two threads work on a handler: the twisted thread runs the
notification handlers and `process_chunk`, the writer thread runs `start`. A step of the world is one
statement of `process_chunk` or of `start` that the other thread can see, or one notification.

What comes from outside is input: the chunks, the notifications of the stream and of the session, the
outcome of the system calls, and what other programs do to other files. The stream and the session
post their notifications in the order their own code has: the stream starts in a session that has
started, and ends once.
-/

namespace SipSimple.Streams

abbrev Text := List Char

/-! ### Files and metadata -/

structure StoredFile where
  bytes : Bytes
  mtime : Nat
  deriving DecidableEq, Repr

/-- The files by name. Every write takes a new modification time. -/
structure Disk where
  files : Text → Option StoredFile
  clock : Nat

namespace Disk

def write (disk : Disk) (name : Text) (bytes : Bytes) : Disk where
  files := Function.update disk.files name (some ⟨bytes, disk.clock + 1⟩)
  clock := disk.clock + 1

def unlink (disk : Disk) (name : Text) : Disk :=
  { disk with files := Function.update disk.files name none }

/-- `os.link` and `unlink` of the old name. -/
def rename (disk : Disk) (oldName newName : Text) : Disk :=
  { disk with
    files := Function.update (Function.update disk.files newName (disk.files oldName)) oldName none }

end Disk

/-- `FileMetadataEntry`. -/
structure FileMetadataEntry where
  hash : Text
  filename : Text
  mtime : Nat
  partialHash : Sha1.Context
  deriving DecidableEq

/-- `FileTransfersMetadata.data`. -/
abbrev Metadata := Text → Option FileMetadataEntry

/-- The two hexadecimal digits of a byte, in upper case. -/
def hexByte (byte : UInt8) : Text :=
  let digit (n : Nat) : Char := if n < 10 then Char.ofNat (48 + n) else Char.ofNat (55 + n)
  [digit (byte.toNat / 16), digit (byte.toNat % 16)]

/-- `FileSelectorHash.encode_hash`. -/
def encodeHash (digest : Bytes) : Text :=
  "sha-1".toList ++ digest.flatMap fun byte => ':' :: hexByte byte

/-- `hash.lower()`. -/
def lower (hash : Text) : Text := hash.map Char.toLower

/-- `os.path.basename`. -/
def basename (name : Text) : Text := (name.reverse.takeWhile (· ≠ '/')).reverse

/-- `os.path.join`. -/
def join (directory name : Text) : Text :=
  if name.head? = some '/' then name
  else if directory = [] ∨ directory.getLast? = some '/' then directory ++ name
  else directory ++ '/' :: name

/-- `os.path.splitext`: the extension starts at the last period that is not among the first ones of the
last component. -/
def splitext (name : Text) : Text × Text :=
  let extension := (basename name).reverse.takeWhile (· ≠ '.')
  let root := (basename name).reverse.drop (extension.length + 1)
  if extension.length < (basename name).length ∧ root.any (· ≠ '.') then
    (name.take (name.length - extension.length - 1), '.' :: extension.reverse)
  else (name, [])

/-- `UniqueFilenameGenerator.generate`. -/
def generate (name : Text) : Nat → Text
  | 0 => name
  | x + 1 =>
      let (stem, extension) := splitext name
      stem ++ '-' :: (toString (x + 1)).toList ++ extension

/-! ### The handler -/

/-- What is read of a chunk: its data, and the start and the total of its byte range. -/
structure Chunk where
  data : Bytes
  start : Nat
  total : Option Nat
  deriving DecidableEq, Repr

/-- `chunk.size`. -/
def Chunk.size (chunk : Chunk) : Nat := chunk.data.length

/-- `transferred_bytes == total_bytes`. -/
def Chunk.last (chunk : Chunk) : Bool :=
  chunk.total.any fun total => (chunk.start : Int) + chunk.size - 1 = total

/-- An item of the handler's queue. -/
inductive Item where
  | chunk (chunk : Chunk)
  | endTransfer
  deriving DecidableEq, Repr

/-- The file descriptor of the file selector. -/
inductive Descriptor where
  | none | opened | closed
  deriving DecidableEq, Repr

/-- Where the twisted thread is in `process_chunk`. -/
inductive TwistedThread where
  | idle
  | truncated (chunk : Chunk)
  | sought (chunk : Chunk)
  | hashReset (chunk : Chunk)
  | counting (chunk : Chunk)
  | queueing (chunk : Chunk)
  deriving DecidableEq, Repr

/-- Where the writer thread is in `start`. -/
inductive WriterThread where
  | notStarted
  | waiting
  | writing (chunk : Chunk)
  | hashing (chunk : Chunk)
  | counting (chunk : Chunk)
  | closing
  | checkingOffset
  | checkingHash
  | deleting
  | posting (error : Bool)
  | finished
  deriving DecidableEq, Repr

/-- The answers to FILE_OFFSET requests. -/
inductive Response where
  | unwantedMessage
  | offset (offset : Nat)
  deriving DecidableEq, Repr

structure Handler where
  -- the file selector
  name : Text
  size : Option Nat
  selectorHash : Option Text
  descriptor : Descriptor
  -- the handler
  hash : Sha1.Context
  offset : Nat
  receivedChunks : Nat
  queue : List Item
  started : Bool
  sessionStarted : Bool
  initializeDone : Bool
  initializeSuccessful : Bool
  /-- `stream` and `session` are held, and the handler observes them and itself. -/
  stream : Bool
  twisted : TwistedThread
  writer : WriterThread
  /-- The error flags of the `FileTransferHandlerDidEnd` the writer thread posted, not yet handled. -/
  notifications : List Bool
  /-- The error flags of every `FileTransferHandlerDidEnd` posted. -/
  ends : List Bool
  responses : List Response
  /-- The handler of a notification raised. -/
  raised : Bool
  -- the stream and the session
  /-- The stream was added to a session that had started. -/
  joined : Bool
  sessionRunning : Bool
  sessionFailed : Bool
  streamStarted : Bool
  streamEnded : Bool

namespace Handler

/-- `FileTransferHandlerDidInitialize`. -/
def didInitialize (handler : Handler) : Handler :=
  { handler with initializeDone := true, initializeSuccessful := true }

/-- `FileTransferHandlerDidNotInitialize`. -/
def didNotInitialize (handler : Handler) : Handler :=
  { handler with initializeDone := true, initializeSuccessful := false }

/-- `__terminate`. Removing an observer that is not there raises. -/
def terminate (handler : Handler) : Handler :=
  if handler.stream then
    { handler with
      stream := false
      descriptor := if handler.descriptor = .opened then .closed else handler.descriptor }
  else { handler with raised := true }

/-- `end`. -/
def endTransfer (handler : Handler) : Handler :=
  { handler with queue := handler.queue ++ [.endTransfer] }

/-- `process_chunk` is about to start the file again. -/
def Restarts (handler : Handler) (chunk : Chunk) : Prop :=
  handler.receivedChunks = 0 ∧ chunk.start = 1

instance (handler : Handler) (chunk : Chunk) : Decidable (handler.Restarts chunk) :=
  inferInstanceAs (Decidable (_ ∧ _))

/-- The next statement of `process_chunk`. -/
def processNext (handler : Handler) : Handler :=
  match handler.twisted with
  | .idle => handler
  | .truncated chunk =>
      { handler with twisted := if handler.descriptor = .opened then .sought chunk else .idle }
  | .sought chunk => { handler with hash := Sha1.init, twisted := .hashReset chunk }
  | .hashReset chunk => { handler with offset := 0, twisted := .counting chunk }
  | .counting chunk =>
      { handler with receivedChunks := handler.receivedChunks + 1, twisted := .queueing chunk }
  | .queueing chunk => { handler with queue := handler.queue ++ [.chunk chunk], twisted := .idle }

end Handler

structure World where
  disk : Disk
  metadata : Metadata
  /-- The data pickled by `_save`, not yet written by the file-io thread. -/
  saving : List Metadata
  saved : Metadata
  handler : Option Handler

namespace World

def empty : World where
  disk := ⟨fun _ => none, 0⟩
  metadata := fun _ => none
  saving := []
  saved := fun _ => none
  handler := none

/-- Leaving `with self.metadata`. -/
def save (world : World) (metadata : Metadata) : World :=
  { world with metadata := metadata, saving := world.saving ++ [metadata] }

def setHandler (world : World) (handler : Handler) : World :=
  { world with handler := some handler }

/-! ### Initializing -/

/-- A transfer: the file selector it comes with, and how the system calls of `initialize` turn out. -/
structure Request where
  name : Text
  size : Option Nat
  hash : Option Text
  directory : Text
  /-- The directory could be made. -/
  directoryMade : Bool
  /-- `os.link` works between the two directories. -/
  linkable : Bool
  /-- The previous file could be opened. -/
  appendable : Bool
  /-- A new file can be created. -/
  creatable : Bool
  /-- The number of generated names that are taken. -/
  taken : Nat
  /-- The stream is added to a session that has started. -/
  joined : Bool

/-- `FileTransferHandler.__init__` and the first half of `initialize`. -/
def Request.handler (request : Request) : Handler where
  name := request.name
  size := request.size
  selectorHash := request.hash
  descriptor := .none
  hash := Sha1.init
  offset := 0
  receivedChunks := 0
  queue := []
  started := false
  sessionStarted := false
  initializeDone := false
  initializeSuccessful := false
  stream := true
  twisted := .idle
  writer := .notStarted
  notifications := []
  ends := []
  responses := []
  raised := false
  joined := request.joined
  sessionRunning := request.joined
  sessionFailed := false
  streamStarted := false
  streamEnded := false

/-- A new file, under the first generated name that is not taken. -/
def createFile (world : World) (handler : Handler) (request : Request) : Option World :=
  let name := generate (join request.directory (basename handler.name))
  if (∀ x < request.taken, (world.disk.files (name x)).isSome) ∧
      world.disk.files (name request.taken) = none then
    some <|
      if request.creatable then
        { world.save world.metadata with
          disk := world.disk.write (name request.taken) []
          handler := some
            { handler with name := name request.taken, descriptor := .opened }.didInitialize }
      else world.setHandler handler.didNotInitialize
  else none

/-- `initialize`: the file of an interrupted transfer is opened again when nobody has changed it. -/
def initializeTransfer (world : World) (request : Request) : Option World :=
  let handler := request.handler
  if !request.directoryMade then some (world.setHandler handler.didNotInitialize)
  else
    match request.hash with
    | none => some (world.setHandler handler.didNotInitialize)
    | some hash =>
        match world.metadata (lower hash) with
        | none => world.createFile handler request
        | some prevFile =>
            let metadata := Function.update world.metadata (lower hash) none
            let world := { world with metadata := metadata }
            match world.disk.files prevFile.filename with
            | none => world.createFile handler request
            | some file =>
                if file.mtime ≠ prevFile.mtime then world.createFile handler request
                else
                  let filename := join request.directory (basename request.name)
                  let linked := request.linkable ∧ world.disk.files filename = none
                  let world :=
                    if linked then
                      { world with disk := world.disk.rename prevFile.filename filename }
                    else world
                  let handler :=
                    { handler with name := if linked then filename else prevFile.filename }
                  if request.appendable then
                    some <| (world.save metadata).setHandler
                      { handler with
                        descriptor := .opened
                        offset := file.bytes.length
                        hash := prevFile.partialHash }.didInitialize
                  else world.createFile handler request

/-! ### The twisted thread -/

/-- `_NH_FileTransferHandlerDidEnd`. -/
def onDidEnd (world : World) (handler : Handler) (error : Bool) : World :=
  if !handler.stream then world.setHandler { handler with raised := true }
  else
    match error, handler.selectorHash with
    | true, some hash =>
        match world.disk.files handler.name with
        | none => world.setHandler { handler with raised := true }
        | some file =>
            if file.bytes.length = 0 then
              { world with disk := world.disk.unlink handler.name }.setHandler handler.terminate
            else
              (world.save (Function.update world.metadata (lower hash)
                (some ⟨lower hash, handler.name, file.mtime, handler.hash⟩))).setHandler
                handler.terminate
    | _, _ => world.setHandler handler.terminate

/-- `FileTransferHandlerDidEnd` posted in the twisted thread, where it is handled at once. -/
def postDidEnd (world : World) (handler : Handler) (error : Bool) : World :=
  world.onDidEnd { handler with ends := handler.ends ++ [error] } error

/-- `_NH_MediaStreamDidNotInitialize`. -/
def onStreamDidNotInitialize (world : World) (handler : Handler) : World :=
  let handler' := if handler.initializeDone then handler else handler.endTransfer
  match handler.descriptor, world.disk.files handler.name with
  | .opened, some file =>
      let world :=
        if file.bytes.length = 0 then { world with disk := world.disk.unlink handler.name }
        else world
      world.setHandler { handler' with descriptor := .closed }.terminate
  | .closed, _ => world.setHandler { handler with raised := true }
  | _, _ => world.setHandler handler'.terminate

/-- `_NH_MediaStreamWillEnd`. -/
def onStreamWillEnd (world : World) (handler : Handler) : World :=
  if handler.started then world.setHandler handler.endTransfer
  else if handler.sessionStarted then world.postDidEnd handler true
  else world.setHandler handler

/-- `_NH_SIPSessionDidFail`. -/
def onSessionDidFail (world : World) (handler : Handler) : World :=
  if !handler.sessionStarted ∧ handler.initializeSuccessful then world.postDidEnd handler true
  else world.setHandler handler

/-- `process_chunk` of a SEND, up to the truncation. -/
def processChunk (world : World) (handler : Handler) (chunk : Chunk) : World :=
  if handler.Restarts chunk then
    -- a closed file, or no file, raises
    if handler.stream ∧ handler.descriptor = .opened then
      { world with disk := world.disk.write handler.name [] }.setHandler
        { handler with twisted := .truncated chunk }
    else world
  else world.setHandler { handler with twisted := .counting chunk }

/-- `process_chunk` of a FILE_OFFSET. A closed file raises. -/
def fileOffset (world : World) (handler : Handler) : World :=
  if !handler.stream then world
  else if 0 < handler.receivedChunks then
    world.setHandler { handler with responses := handler.responses ++ [.unwantedMessage] }
  else
    match handler.descriptor, world.disk.files handler.name with
    | .opened, some file =>
        world.setHandler
          { handler with responses := handler.responses ++ [.offset file.bytes.length] }
    | _, _ => world

/-! ### The writer thread -/

/-- The next statement of `start`. `fails`: the write raises, and nothing is written. -/
def writer (world : World) (handler : Handler) (fails : Bool) : World :=
  match handler.writer with
  | .notStarted | .finished => world
  | .waiting =>
      match handler.queue with
      | [] => world
      | .endTransfer :: queue =>
          world.setHandler { handler with queue := queue, writer := .closing }
      | .chunk chunk :: queue =>
          world.setHandler { handler with queue := queue, writer := .writing chunk }
  | .writing chunk =>
      if fails then
        world.setHandler { handler with descriptor := .closed, writer := .posting true }
      else
        match world.disk.files handler.name with
        | none => world.setHandler { handler with writer := .hashing chunk }
        | some file =>
            { world with disk := world.disk.write handler.name (file.bytes ++ chunk.data) }.setHandler
              { handler with writer := .hashing chunk }
  | .hashing chunk =>
      world.setHandler
        { handler with hash := Sha1.update handler.hash chunk.data, writer := .counting chunk }
  | .counting chunk =>
      world.setHandler
        { handler with
          offset := handler.offset + chunk.size
          size := chunk.total
          writer := if chunk.last then .closing else .waiting }
  | .closing => world.setHandler { handler with descriptor := .closed, writer := .checkingOffset }
  | .checkingOffset =>
      world.setHandler
        { handler with
          writer := if handler.size = some handler.offset then .checkingHash else .posting true }
  | .checkingHash =>
      world.setHandler
        { handler with
          writer :=
            if handler.selectorHash = some (encodeHash (Sha1.digest handler.hash)) then
              .posting false
            else .deleting }
  | .deleting =>
      -- something got corrupted, better delete the file
      { world with disk := world.disk.unlink handler.name }.setHandler
        { handler with writer := .posting true }
  | .posting error =>
      world.setHandler
        { handler with
          ends := handler.ends ++ [error]
          notifications :=
            if handler.stream then handler.notifications ++ [error] else handler.notifications
          writer := .finished }

/-! ### Runs -/

inductive Step where
  | initializeTransfer (request : Request)
  | sessionWillStart
  | sessionDidFail
  | streamDidStart
  | streamWillEnd
  | streamDidNotInitialize
  /-- The next notification of the writer thread is handled. -/
  | notification
  | processChunk (chunk : Chunk)
  | processNext
  | fileOffset
  /-- `end` called by the application. -/
  | endTransfer
  | writer (fails : Bool)
  /-- Another program changes a file. -/
  | otherWrite (name : Text) (bytes : Bytes)
  | otherUnlink (name : Text)
  /-- The file-io thread writes the next pickled data. -/
  | saveMetadata
  /-- The program starts again. Entries are expired by their age. -/
  | restart (expired : Text → Bool)

/-- The twisted thread is free, and the notification is one the stream and the session can post. -/
def Enabled (handler : Handler) : Step → Prop
  | .sessionWillStart =>
      handler.twisted = .idle ∧ handler.sessionRunning = false ∧ handler.sessionFailed = false
  | .sessionDidFail =>
      handler.twisted = .idle ∧ handler.joined = false ∧ handler.sessionFailed = false
  | .streamDidStart =>
      handler.twisted = .idle ∧ handler.initializeSuccessful = true ∧
        handler.sessionRunning = true ∧ handler.streamStarted = false ∧
        handler.streamEnded = false
  | .streamWillEnd =>
      handler.twisted = .idle ∧ handler.initializeSuccessful = true ∧ handler.streamEnded = false
  | .streamDidNotInitialize =>
      handler.twisted = .idle ∧ handler.streamStarted = false ∧ handler.streamEnded = false
  | .notification | .processChunk _ | .fileOffset => handler.twisted = .idle
  | _ => True

instance (handler : Handler) (input : Step) : Decidable (Enabled handler input) := by
  cases input <;> unfold Enabled <;> infer_instance

/-- A step of the handler. Notifications reach it only while it observes their sender. -/
def handlerStep (world : World) (handler : Handler) (input : Step) : World :=
  match input with
  | .sessionWillStart =>
      world.setHandler
        { handler with sessionRunning := true, sessionStarted := handler.stream }
  | .sessionDidFail =>
      let handler := { handler with sessionFailed := true }
      if handler.stream then world.onSessionDidFail handler else world.setHandler handler
  | .streamDidStart =>
      let handler := { handler with streamStarted := true }
      if handler.stream then
        world.setHandler { handler with started := true, writer := .waiting }
      else world.setHandler handler
  | .streamWillEnd =>
      let handler := { handler with streamEnded := true }
      if handler.stream then world.onStreamWillEnd handler else world.setHandler handler
  | .streamDidNotInitialize =>
      let handler := { handler with streamEnded := true }
      if handler.stream then world.onStreamDidNotInitialize handler else world.setHandler handler
  | .notification =>
      match handler.notifications with
      | [] => world
      | error :: notifications =>
          world.onDidEnd { handler with notifications := notifications } error
  | .processChunk chunk => world.processChunk handler chunk
  | .processNext => world.setHandler handler.processNext
  | .fileOffset => world.fileOffset handler
  | .endTransfer => world.setHandler handler.endTransfer
  | .writer fails => world.writer handler fails
  | _ => world

/-- A name that no running transfer writes to. -/
def Free (world : World) (name : Text) : Prop :=
  ∀ handler ∈ world.handler, handler.stream = true → handler.name ≠ name

instance (world : World) (name : Text) : Decidable (world.Free name) := by
  unfold Free
  cases world.handler <;> simp only [Option.mem_def] <;> infer_instance

/-- `FileTransfersMetadata._load`. -/
def load (world : World) (expired : Text → Bool) : Metadata := fun hash =>
  (world.saved hash).filter fun entry =>
    ((world.disk.files entry.filename).any fun file => file.mtime = entry.mtime) && !expired hash

def step (world : World) (input : Step) : World :=
  match input with
  | .initializeTransfer request =>
      if world.handler.any fun handler => handler.stream then world
      else (world.initializeTransfer request).getD world
  | .otherWrite name bytes =>
      if world.Free name then { world with disk := world.disk.write name bytes } else world
  | .otherUnlink name =>
      if world.Free name then { world with disk := world.disk.unlink name } else world
  | .saveMetadata =>
      match world.saving with
      | [] => world
      | metadata :: saving => { world with saved := metadata, saving := saving }
  | .restart expired =>
      { world with metadata := world.load expired, saving := [], handler := none }
  | input =>
      match world.handler with
      | none => world
      | some handler => if Enabled handler input then world.handlerStep handler input else world

end World

end SipSimple.Streams
