import SipSimple.Library.Runs
import SipSimple.Util.Sha1

/-!
# Outgoing file transfers

`OutgoingFileTransferHandler` of `streams/msrp/filetransfer.py` from `start` on. The thread that runs `start` reads
the file from its own position and puts what it reads into the reactor; the twisted thread sends it with the offset
of the handler, and gets the answers, the reports and the calls of `end`. A step is one statement of `start` that
the other thread can see, one call in the reactor or one event; the answers and the errors are input. The file has
the size that the file selector says.
-/

namespace SipSimple.Streams

def filePartSize : Nat := 64 * 1024

/-- What `make_send_request` is given. -/
structure SendRequest where
  data : Bytes
  start : Int
  endPos : Int
  length : Nat
  deriving DecidableEq

inductive OutgoingNotification where
  | didStart
  | progress (transferredBytes totalBytes : Option Nat)
  | error (error : String)
  | didEnd (error : Bool) (reason : Option String)
  deriving DecidableEq

/-- `start`, by what it does next. -/
inductive ReaderThread where
  | notStarted
  | offset
  | waitingOffset
  | seek
  | loop (position : Nat)
  | read (position : Nat)
  | interrupted (failureReason : Option String)
  | waitingEnd (position : Nat)
  | done
  deriving DecidableEq

/-- What was put into the reactor with `callFromThread`. -/
inductive TwistedCall where
  | sendChunk (data : Bytes)
  | sendFileOffsetChunk
  deriving DecidableEq

/-- A REPORT: the code of its status, and the last two numbers of its byte range, which may be `*`. -/
structure Report where
  code : Nat
  comment : String
  transferredBytes : Option Nat
  totalBytes : Option Nat
  deriving DecidableEq

structure OutgoingFileTransferHandler where
  file : Bytes
  fileOffsetSupported : Bool
  stopEvent : Bool := false
  finishedEvent : Bool := false
  fileOffsetEvent : Bool := false
  offset : Int := 0
  reader : ReaderThread := .notStarted
  calls : List TwistedCall := []
  /-- The session has a FILE_OFFSET to call back for. -/
  askedOffset : Bool := false
  /-- The offset that the receiver answered. -/
  answer : Option Int := none
  notifications : List OutgoingNotification := []
  /-- The chunks that the session took. -/
  sent : List SendRequest := []
  /-- The session raised at a chunk. -/
  refused : Bool := false
  /-- The reports that were processed. -/
  reports : List Report := []

inductive OutgoingStep where
  | reader (readError : Option String)
  | call (error : Option String)
  /-- The answer to FILE_OFFSET, with the number in its `Offset` header if it has one. -/
  | offsetResponse (code : Nat) (offset : Option Int)
  | transactionResponse (code : Nat) (comment : String)
  | report (report : Report)
  | endTransfer

namespace OutgoingFileTransferHandler

def post (self : OutgoingFileTransferHandler) (notification : OutgoingNotification) :
    OutgoingFileTransferHandler :=
  { self with notifications := self.notifications ++ [notification] }

/-- `end` -/
def endTransfer (self : OutgoingFileTransferHandler) : OutgoingFileTransferHandler :=
  { self with stopEvent := true, fileOffsetEvent := true }

/-- `start` -/
def runReader (self : OutgoingFileTransferHandler) (readError : Option String) : OutgoingFileTransferHandler :=
  match self.reader with
  | .notStarted => { self.post .didStart with reader := .offset }
  | .offset =>
      if self.fileOffsetSupported then
        { self with calls := self.calls ++ [.sendFileOffsetChunk], reader := .waitingOffset }
      else { self with reader := .seek }
  | .waitingOffset => if self.fileOffsetEvent then { self with reader := .seek } else self
  -- A negative position raises `IOError`, which nobody catches.
  | .seek => if self.offset < 0 then { self with reader := .done } else { self with reader := .loop self.offset.toNat }
  | .loop position =>
      if self.stopEvent then { self with reader := .interrupted none } else { self with reader := .read position }
  | .read position =>
      match readError with
      | some error => { self with reader := .interrupted (some error) }
      | none =>
          match (self.file.drop position).take filePartSize with
          | [] => { self with reader := .waitingEnd position }
          | byte :: bytes =>
              { self with
                calls := self.calls ++ [.sendChunk (byte :: bytes)]
                reader := .loop (position + (byte :: bytes).length) }
  | .interrupted failureReason =>
      { self.post (.didEnd true (some (failureReason.getD "Interrupted transfer"))) with reader := .done }
  | .waitingEnd _ =>
      if self.stopEvent = false then self
      else if self.finishedEvent then { self.post (.didEnd false none) with reader := .done }
      else { self.post (.didEnd true (some "Incomplete transfer")) with reader := .done }
  | .done => self

/-- `_send_chunk` -/
def sendChunk (self : OutgoingFileTransferHandler) (data : Bytes) (error : Option String) :
    OutgoingFileTransferHandler :=
  if self.stopEvent then self
  else
    match error with
    | some error => { self.post (.error error) with refused := true }
    | none =>
        { self with
          sent := self.sent ++
            [{ data, start := self.offset + 1, endPos := self.offset + data.length, length := self.file.length }]
          offset := self.offset + data.length }

/-- `_send_file_offset_chunk` -/
def sendFileOffsetChunk (self : OutgoingFileTransferHandler) (error : Option String) :
    OutgoingFileTransferHandler :=
  if self.stopEvent then { self with fileOffsetEvent := true }
  else
    match error with
    | some error => self.post (.error error)
    | none => { self with askedOffset := true }

def runCall (self : OutgoingFileTransferHandler) (error : Option String) : OutgoingFileTransferHandler :=
  match self.calls with
  | [] => self
  | .sendChunk data :: calls => { self with calls }.sendChunk data error
  | .sendFileOffsetChunk :: calls => { self with calls }.sendFileOffsetChunk error

/-- `response_cb` of `_send_file_offset_chunk` -/
def offsetResponse (self : OutgoingFileTransferHandler) (code : Nat) (offset : Option Int) :
    OutgoingFileTransferHandler :=
  if self.askedOffset = false then self
  else
    let answered := { self with askedOffset := false, answer := if code = 200 then offset else self.answer }
    if self.stopEvent = false ∧ code = 200 then { answered with offset := offset.getD 0, fileOffsetEvent := true }
    else { answered with fileOffsetEvent := true }

/-- `_on_transaction_response` -/
def transactionResponse (self : OutgoingFileTransferHandler) (code : Nat) (comment : String) :
    OutgoingFileTransferHandler :=
  if self.stopEvent ∨ code = 200 then self else (self.post (.error comment)).endTransfer

/-- `process_chunk` -/
def processChunk (self : OutgoingFileTransferHandler) (report : Report) : OutgoingFileTransferHandler :=
  let self := { self with reports := self.reports ++ [report] }
  if report.code = 200 then
    let self := self.post (.progress report.transferredBytes report.totalBytes)
    if report.transferredBytes = report.totalBytes then { self with finishedEvent := true }.endTransfer else self
  else (self.post (.error report.comment)).endTransfer

def step (self : OutgoingFileTransferHandler) : OutgoingStep → OutgoingFileTransferHandler
  | .reader readError => self.runReader readError
  | .call error => self.runCall error
  | .offsetResponse code offset => self.offsetResponse code offset
  | .transactionResponse code comment => self.transactionResponse code comment
  | .report report => self.processChunk report
  | .endTransfer => self.endTransfer

end OutgoingFileTransferHandler

end SipSimple.Streams
