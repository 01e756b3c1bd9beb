import SipSimple.Streams.OutgoingFileTransfer

/-!
# The ranges of sent chunks

The pieces that the reader has put into the reactor lie between the offset of the handler and the position of the
reader, so that a piece that is sent is what the file has at the offset. The two part when the session refuses a
chunk, whose piece is lost; a run in which it takes another one after that is left out.
-/

namespace SipSimple.Streams

/-! ### Pieces of the file -/

/-- The bytes from the start to the end position, counted from 1. -/
def slice (file : Bytes) (start endPos : Int) : Bytes :=
  (file.drop (start - 1).toNat).take (endPos - start + 1).toNat

/-- The data follow each other in the file, between two offsets. -/
def Pieces (file : Bytes) (offset : Int) : List Bytes → Int → Prop
  | [], last => offset = last
  | data :: rest, last => data ≠ [] ∧ data = slice file (offset + 1) (offset + data.length) ∧
      Pieces file (offset + data.length) rest last

/-- The chunks follow each other in the file, between two offsets. -/
def Ranges (file : Bytes) (offset : Int) : List SendRequest → Int → Prop
  | [], last => offset = last
  | chunk :: rest, last => chunk.start = offset + 1 ∧ chunk.endPos = offset + chunk.data.length ∧
      chunk.data ≠ [] ∧ chunk.data = slice file chunk.start chunk.endPos ∧ chunk.length = file.length ∧
        Ranges file chunk.endPos rest last

theorem Pieces.append {file data : Bytes} {pieces : List Bytes} {offset last : Int}
    (h : Pieces file offset pieces last) (hdata : data ≠ [])
    (hslice : data = slice file (last + 1) (last + data.length)) :
    Pieces file offset (pieces ++ [data]) (last + data.length) := by
  induction pieces generalizing offset with
  | nil =>
      have hoffset : offset = last := h
      rw [hoffset]
      exact ⟨hdata, hslice, rfl⟩
  | cons piece pieces ih =>
      obtain ⟨hpiece, hslices, hrest⟩ := h
      exact ⟨hpiece, hslices, ih hrest⟩

theorem Ranges.append {file : Bytes} {chunks : List SendRequest} {offset last : Int} {chunk : SendRequest}
    (h : Ranges file offset chunks last) (hchunk : Ranges file last [chunk] chunk.endPos) :
    Ranges file offset (chunks ++ [chunk]) chunk.endPos := by
  induction chunks generalizing offset with
  | nil =>
      have hoffset : offset = last := h
      rw [hoffset]
      exact hchunk
  | cons first rest ih =>
      obtain ⟨hstart, hend, hdata, hslice, hlength, hrest⟩ := h
      exact ⟨hstart, hend, hdata, hslice, hlength, ih hrest⟩

/-- What a read returns at a position. -/
theorem slice_read (file : Bytes) (position n : Nat) :
    (file.drop position).take n =
      slice file (position + 1) (position + ((file.drop position).take n).length) := by
  have hstart : ((position : Int) + 1 - 1).toNat = position := by omega
  have hlength : ((position : Int) + ((file.drop position).take n).length - (position + 1) + 1).toNat =
      ((file.drop position).take n).length := by
    omega
  rw [slice, hstart, hlength, List.length_take]
  apply List.take_eq_take_iff.mpr
  omega

/-- The chunks are contiguous and in order from the offset, and have what the file has in their ranges. -/
structure RightRanges (file : Bytes) (offset : Int) (chunks : List SendRequest) : Prop where
  first : ∀ chunk ∈ chunks.head?, chunk.start = offset + 1
  contiguous : ∀ before chunk next after, chunks = before ++ chunk :: next :: after →
    next.start = chunk.endPos + 1
  data : ∀ chunk ∈ chunks, chunk.data ≠ [] ∧ chunk.data = slice file chunk.start chunk.endPos ∧
    chunk.endPos = chunk.start + chunk.data.length - 1 ∧ chunk.length = file.length

theorem Ranges.right {file : Bytes} {offset last : Int} {chunks : List SendRequest}
    (h : Ranges file offset chunks last) : RightRanges file offset chunks := by
  induction chunks generalizing offset with
  | nil =>
      refine ⟨nofun, ?_, nofun⟩
      intro before chunk next after hsplit
      cases before with
      | nil => cases hsplit
      | cons => cases hsplit
  | cons first rest ih =>
      obtain ⟨hstart, hend, hdata, hslice, hlength, hrest⟩ := h
      have hright := ih hrest
      refine ⟨?_, ?_, ?_⟩
      · intro chunk hchunk
        cases hchunk
        exact hstart
      · intro before chunk next after hsplit
        cases before with
        | nil =>
            obtain ⟨rfl, rfl⟩ := List.cons_eq_cons.mp hsplit
            exact hright.first next rfl
        | cons other before =>
            obtain ⟨_, hsplit⟩ := List.cons_eq_cons.mp hsplit
            exact hright.contiguous before chunk next after hsplit
      · intro chunk hmem
        rcases List.mem_cons.mp hmem with rfl | hmem
        · exact ⟨hdata, hslice, by omega, hlength⟩
        · exact hright.data chunk hmem

/-! ### What holds between the steps -/

/-- The data of the chunks that are not sent yet. -/
def chunkData : List TwistedCall → List Bytes
  | [] => []
  | .sendChunk data :: calls => data :: chunkData calls
  | .sendFileOffsetChunk :: calls => chunkData calls

theorem chunkData_append (before after : List TwistedCall) :
    chunkData (before ++ after) = chunkData before ++ chunkData after := by
  induction before with
  | nil => rfl
  | cons call before ih => cases call <;> simp [chunkData, ih]

/-- The reader has not looked at the offset. -/
def ReaderThread.before : ReaderThread → Bool
  | .notStarted | .offset | .waitingOffset | .seek => true
  | _ => false

/-- The position in the file, while it matters. -/
def ReaderThread.position : ReaderThread → Option Nat
  | .loop position | .read position | .waitingEnd position => some position
  | _ => none

namespace OutgoingFileTransferHandler

variable {self : OutgoingFileTransferHandler}

/-- A session that has refused a chunk takes no other one, and a report that the transfer is over is about the whole
file. -/
def InStep (self : OutgoingFileTransferHandler) : OutgoingStep → Prop
  | .call none => self.refused → self.stopEvent ∨ ∀ call ∈ self.calls.head?, call = .sendFileOffsetChunk
  | .report report => report.code = 200 → report.transferredBytes = report.totalBytes →
      report.transferredBytes = some self.file.length
  | _ => True

instance (step : OutgoingStep) : Decidable (self.InStep step) := by
  cases step with
  | call error => cases error <;> unfold InStep <;> infer_instance
  | _ => unfold InStep; infer_instance

/-- The requests for the offset that are not answered. -/
def offsetRequests (self : OutgoingFileTransferHandler) : Nat :=
  self.calls.count .sendFileOffsetChunk + if self.askedOffset then 1 else 0

/-- The receiver has reported the last byte of the file. -/
def ReportedEnd (self : OutgoingFileTransferHandler) : Prop :=
  ∃ report ∈ self.reports, report.code = 200 ∧ report.transferredBytes = some self.file.length

/-- The requests for the offset are over when the reader looks at it. -/
structure Offsets (handler : OutgoingFileTransferHandler) : Prop where
  once : handler.offsetRequests ≤ 1
  early : handler.reader = .notStarted ∨ handler.reader = .offset →
    handler.offsetRequests = 0 ∧ (handler.fileOffsetEvent → handler.stopEvent)
  settled : handler.reader ≠ .waitingOffset ∨ handler.fileOffsetEvent →
    handler.stopEvent ∨ handler.offsetRequests = 0
  unsent : handler.offsetRequests ≠ 0 → handler.sent = []
  before : handler.reader.before → handler.sent = [] ∧ chunkData handler.calls = []

/-- The ranges that were sent end at the offset, and what is left to send reaches the position. -/
structure Sending (handler : OutgoingFileTransferHandler) : Prop where
  ranges : handler.sent = [] ∨ Ranges handler.file (handler.answer.getD 0) handler.sent handler.offset
  start : handler.stopEvent = false → handler.sent = [] → handler.offset = handler.answer.getD 0
  pieces : handler.stopEvent = false → handler.refused = false → handler.reader.before = false →
    ∃ last, Pieces handler.file handler.offset (chunkData handler.calls) last ∧
      ∀ position, handler.reader.position = some position → last = position

/-- A transfer ends without an error if the last byte was reported. -/
structure Ending (handler : OutgoingFileTransferHandler) : Prop where
  finished : handler.finishedEvent → handler.ReportedEnd
  ended : .didEnd false none ∈ handler.notifications → handler.ReportedEnd

structure Sound (handler : OutgoingFileTransferHandler) : Prop where
  offsets : handler.Offsets
  sending : handler.Sending
  ending : handler.Ending

/-! ### The requests for the offset -/

/-- The reader goes on to where it does not wait for the offset any more. -/
theorem Offsets.pass (h : self.Offsets) {next : OutgoingFileTransferHandler}
    (hrequests : next.offsetRequests = self.offsetRequests) (hstop : next.stopEvent = self.stopEvent)
    (hsent : next.sent = self.sent) (hpassed : self.reader ≠ .waitingOffset ∨ self.fileOffsetEvent)
    (hearly : next.reader ≠ .notStarted ∧ next.reader ≠ .offset)
    (hbefore : next.reader.before → self.reader.before ∧ chunkData next.calls = chunkData self.calls) :
    next.Offsets where
  once := by
    rw [hrequests]
    exact h.once
  early hreader := absurd hreader (not_or.mpr hearly)
  settled _ := by
    rw [hstop, hrequests]
    exact h.settled hpassed
  unsent hsome := by
    rw [hsent]
    exact h.unsent (hrequests ▸ hsome)
  before hreader := by
    obtain ⟨hself, hcalls⟩ := hbefore hreader
    rw [hsent, hcalls]
    exact h.before hself

theorem Offsets.runReader (h : self.Offsets) (readError : Option String) : (self.runReader readError).Offsets := by
  unfold OutgoingFileTransferHandler.runReader
  cases hreader : self.reader with
  | notStarted =>
      obtain ⟨hnone, hevent⟩ := h.early (.inl hreader)
      exact ⟨h.once, fun _ => ⟨hnone, hevent⟩, fun _ => .inr hnone, h.unsent, fun _ => h.before (by rw [hreader]; rfl)⟩
  | offset =>
      obtain ⟨hnone, hevent⟩ := h.early (.inr hreader)
      obtain ⟨hsent, hcalls⟩ := h.before (by rw [hreader]; rfl)
      dsimp only
      split
      next =>
        have hone : offsetRequests
            { self with calls := self.calls ++ [.sendFileOffsetChunk], reader := .waitingOffset } = 1 := by
          unfold offsetRequests at hnone ⊢
          simp only [List.count_append, List.count_singleton_self]
          omega
        refine ⟨Nat.le_of_eq hone, nofun, ?_, fun _ => hsent, fun _ => ⟨hsent, ?_⟩⟩
        · rintro (hpassed | hpassed)
          · exact absurd rfl hpassed
          · exact .inl (hevent hpassed)
        · simp [chunkData_append, hcalls, chunkData]
      next =>
        refine h.pass rfl rfl rfl (.inl ?_) ⟨nofun, nofun⟩ (fun _ => ⟨?_, rfl⟩)
        · rw [hreader]
          nofun
        · rw [hreader]
          rfl
  | waitingOffset =>
      dsimp only
      split
      next hevent =>
        refine h.pass rfl rfl rfl (.inr hevent) ⟨nofun, nofun⟩ (fun _ => ⟨?_, rfl⟩)
        rw [hreader]
        rfl
      next => exact h
  | seek =>
      have hpassed : self.reader ≠ .waitingOffset := by
        rw [hreader]
        nofun
      dsimp only
      split <;> exact h.pass rfl rfl rfl (.inl hpassed) ⟨nofun, nofun⟩ nofun
  | loop position =>
      have hpassed : self.reader ≠ .waitingOffset := by
        rw [hreader]
        nofun
      dsimp only
      split <;> exact h.pass rfl rfl rfl (.inl hpassed) ⟨nofun, nofun⟩ nofun
  | read position =>
      have hpassed : self.reader ≠ .waitingOffset := by
        rw [hreader]
        nofun
      dsimp only
      split
      next => exact h.pass rfl rfl rfl (.inl hpassed) ⟨nofun, nofun⟩ nofun
      next =>
        split
        next => exact h.pass rfl rfl rfl (.inl hpassed) ⟨nofun, nofun⟩ nofun
        next =>
          refine h.pass ?_ rfl rfl (.inl hpassed) ⟨nofun, nofun⟩ nofun
          simp [offsetRequests]
  | interrupted failureReason =>
      have hpassed : self.reader ≠ .waitingOffset := by
        rw [hreader]
        nofun
      exact h.pass rfl rfl rfl (.inl hpassed) ⟨nofun, nofun⟩ nofun
  | waitingEnd position =>
      have hpassed : self.reader ≠ .waitingOffset := by
        rw [hreader]
        nofun
      dsimp only
      split
      next => exact h
      next => split <;> exact h.pass rfl rfl rfl (.inl hpassed) ⟨nofun, nofun⟩ nofun
  | done => exact h

/-- What leaves the requests, the reader and the chunks as they are, and may end the transfer. -/
theorem Offsets.same (h : self.Offsets) {next : OutgoingFileTransferHandler}
    (hcalls : next.calls = self.calls) (hasked : next.askedOffset = self.askedOffset)
    (hreader : next.reader = self.reader) (hsent : next.sent = self.sent)
    (hstop : next.stopEvent = self.stopEvent ∧ next.fileOffsetEvent = self.fileOffsetEvent ∨ next.stopEvent) :
    next.Offsets := by
  have hrequests : next.offsetRequests = self.offsetRequests := by
    rw [offsetRequests, offsetRequests, hcalls, hasked]
  refine ⟨?_, ?_, ?_, ?_, ?_⟩
  · rw [hrequests]
    exact h.once
  · rw [hreader, hrequests]
    intro hearly
    obtain ⟨hnone, hevent⟩ := h.early hearly
    refine ⟨hnone, fun hset => ?_⟩
    rcases hstop with ⟨hstop, hsame⟩ | hstop
    · rw [hstop]
      exact hevent (hsame ▸ hset)
    · exact hstop
  · rw [hreader, hrequests]
    intro hpassed
    rcases hstop with ⟨hstop, hsame⟩ | hstop
    · rw [hstop]
      exact h.settled (hsame ▸ hpassed)
    · exact .inl hstop
  · rw [hrequests, hsent]
    exact h.unsent
  · rw [hreader, hsent, hcalls]
    exact h.before

/-- Where a piece is about to be sent, the offset is known. -/
theorem Offsets.known (h : self.Offsets) (hstop : self.stopEvent = false)
    (hpiece : chunkData self.calls ≠ []) : self.offsetRequests = 0 := by
  have hpassed : self.reader ≠ .waitingOffset := by
    intro hreader
    exact hpiece (h.before (by rw [hreader]; rfl)).2
  rcases h.settled (.inl hpassed) with hset | hnone
  · rw [hstop] at hset
    cases hset
  · exact hnone

theorem Offsets.runCall (h : self.Offsets) (error : Option String) : (self.runCall error).Offsets := by
  unfold OutgoingFileTransferHandler.runCall
  split
  next => exact h
  next data calls hcalls =>
    have hpiece : chunkData self.calls ≠ [] := by
      rw [hcalls]
      nofun
    have hpassed : self.reader.before = false := by
      by_contra hbefore
      exact hpiece (h.before (by simpa using hbefore)).2
    have hpopped : ({ self with calls } : OutgoingFileTransferHandler).Offsets := by
      have hrequests : offsetRequests { self with calls } = self.offsetRequests := by
        simp [offsetRequests, hcalls]
      refine ⟨?_, ?_, ?_, ?_, ?_⟩
      · rw [hrequests]
        exact h.once
      · rw [hrequests]
        exact h.early
      · rw [hrequests]
        exact h.settled
      · rw [hrequests]
        exact h.unsent
      · intro hbefore
        rw [hpassed] at hbefore
        cases hbefore
    unfold sendChunk
    split
    next => exact hpopped
    next hstop =>
      split
      next => exact hpopped.same rfl rfl rfl rfl (.inl ⟨rfl, rfl⟩)
      next =>
        have hnone : offsetRequests { self with calls } = 0 := by
          have hknown := h.known (by simpa using hstop) hpiece
          simpa [offsetRequests, hcalls] using hknown
        refine ⟨hpopped.once, hpopped.early, hpopped.settled, fun hsome => absurd hnone hsome, ?_⟩
        intro hbefore
        rw [show self.reader.before = false from hpassed] at hbefore
        cases hbefore
  next calls hcalls =>
    have hone := h.once
    have hnone : calls.count .sendFileOffsetChunk = 0 ∧ self.askedOffset = false := by
      unfold offsetRequests at hone
      rw [hcalls, List.count_cons_self] at hone
      cases hasked : self.askedOffset <;> simp [hasked] at hone ⊢
      omega
    have hsome : self.offsetRequests ≠ 0 := by
      simp [offsetRequests, hcalls]
    have hlate : ¬ (self.reader = .notStarted ∨ self.reader = .offset) := fun hearly => hsome (h.early hearly).1
    have hbefore : self.reader.before → self.sent = [] ∧ chunkData calls = [] := by
      have hself := h.before
      rw [hcalls] at hself
      exact hself
    have hpopped : offsetRequests { self with calls } = 0 := by
      simp [offsetRequests, hnone.1, hnone.2]
    unfold sendFileOffsetChunk
    split
    next hstop =>
      refine ⟨?_, fun hearly => absurd hearly hlate, fun _ => .inl hstop, fun _ => h.unsent hsome, hbefore⟩
      exact Nat.le_trans (Nat.le_of_eq hpopped) (Nat.zero_le 1)
    next =>
      split
      next =>
        refine ⟨?_, fun hearly => absurd hearly hlate, fun _ => .inr hpopped, fun _ => h.unsent hsome, hbefore⟩
        exact Nat.le_trans (Nat.le_of_eq hpopped) (Nat.zero_le 1)
      next =>
        have hasked : offsetRequests { self with calls, askedOffset := true } = self.offsetRequests := by
          simp [offsetRequests, hcalls, hnone.2]
        refine ⟨?_, fun hearly => absurd hearly hlate, ?_, fun _ => h.unsent hsome, hbefore⟩
        · rw [hasked]
          exact h.once
        · rw [hasked]
          exact h.settled

theorem Offsets.offsetResponse (h : self.Offsets) (code : Nat) (offset : Option Int) :
    (self.offsetResponse code offset).Offsets := by
  unfold OutgoingFileTransferHandler.offsetResponse
  split
  next => exact h
  next hasked =>
    have hasked : self.askedOffset = true := by simpa using hasked
    have hsome : self.offsetRequests ≠ 0 := by
      simp [offsetRequests, hasked]
    have hnone : self.calls.count .sendFileOffsetChunk = 0 := by
      have hone := h.once
      unfold offsetRequests at hone
      rw [if_pos hasked] at hone
      omega
    have hover : ∀ next : OutgoingFileTransferHandler, next.calls = self.calls → next.askedOffset = false →
        next.reader = self.reader → next.sent = self.sent → next.Offsets := by
      intro next hcalls hanswered hreader hsent
      have hrequests : next.offsetRequests = 0 := by
        simp [offsetRequests, hcalls, hnone, hanswered]
      refine ⟨?_, ?_, fun _ => .inr hrequests, fun hsome => absurd hrequests hsome, ?_⟩
      · exact Nat.le_trans (Nat.le_of_eq hrequests) (Nat.zero_le 1)
      · rw [hreader]
        exact fun hearly => absurd (h.early hearly).1 hsome
      · rw [hreader, hsent, hcalls]
        exact h.before
    dsimp only
    split
    · exact hover _ rfl rfl rfl rfl
    · exact hover _ rfl rfl rfl rfl

theorem Offsets.step (h : self.Offsets) (step : OutgoingStep) : (self.step step).Offsets := by
  cases step with
  | reader readError => exact h.runReader readError
  | call error => exact h.runCall error
  | offsetResponse code offset => exact h.offsetResponse code offset
  | transactionResponse code comment =>
      show (self.transactionResponse code comment).Offsets
      unfold transactionResponse
      split
      · exact h
      · exact h.same rfl rfl rfl rfl (.inr rfl)
  | report report =>
      show (self.processChunk report).Offsets
      unfold processChunk
      dsimp only
      split
      · split
        · exact h.same rfl rfl rfl rfl (.inr rfl)
        · exact h.same rfl rfl rfl rfl (.inl ⟨rfl, rfl⟩)
      · exact h.same rfl rfl rfl rfl (.inr rfl)
  | endTransfer => exact h.same rfl rfl rfl rfl (.inr rfl)

/-! ### What is sent -/

/-- What leaves the chunks, the offset and the reader as they are, and may end the transfer. -/
theorem Sending.same (h : self.Sending) {next : OutgoingFileTransferHandler} (hfile : next.file = self.file)
    (hsent : next.sent = self.sent) (hoffset : next.offset = self.offset) (hanswer : next.answer = self.answer)
    (hstop : next.stopEvent = self.stopEvent ∨ next.stopEvent)
    (hpieces : next.stopEvent = false → next.refused = false → next.reader.before = false →
      self.refused = false ∧ self.reader.before = false ∧ chunkData next.calls = chunkData self.calls ∧
        ∀ position, next.reader.position = some position → self.reader.position = some position) :
    next.Sending := by
  have hrunning (hnext : next.stopEvent = false) : self.stopEvent = false := by
    rcases hstop with hsame | hset
    · exact hsame ▸ hnext
    · rw [hnext] at hset
      cases hset
  refine ⟨?_, ?_, ?_⟩
  · rw [hsent, hoffset, hanswer, hfile]
    exact h.ranges
  · rw [hsent, hoffset, hanswer]
    exact fun hnext => h.start (hrunning hnext)
  · intro hnext hrefused hbefore
    obtain ⟨hrefused, hbefore, hcalls, hposition⟩ := hpieces hnext hrefused hbefore
    obtain ⟨last, hpieces, hlast⟩ := h.pieces (hrunning hnext) hrefused hbefore
    rw [hfile, hoffset, hcalls]
    exact ⟨last, hpieces, fun position hnext => hlast position (hposition position hnext)⟩

/-- Nothing is sent after the end. -/
theorem Sending.ended (h : self.Sending) {next : OutgoingFileTransferHandler} (hfile : next.file = self.file)
    (hsent : next.sent = self.sent) (hoffset : next.offset = self.offset) (hanswer : next.answer = self.answer)
    (hstop : next.stopEvent) : next.Sending := by
  apply h.same hfile hsent hoffset hanswer (.inr hstop)
  intro hnext
  rw [hnext] at hstop
  cases hstop

theorem Sending.runReader (h : self.Sending) (hoffsets : self.Offsets) (readError : Option String) :
    (self.runReader readError).Sending := by
  unfold OutgoingFileTransferHandler.runReader
  cases hreader : self.reader with
  | notStarted => exact ⟨h.ranges, h.start, nofun⟩
  | offset =>
      dsimp only
      split <;> exact ⟨h.ranges, h.start, nofun⟩
  | waitingOffset =>
      dsimp only
      split
      · exact ⟨h.ranges, h.start, nofun⟩
      · exact h
  | seek =>
      have hnone := (hoffsets.before (by rw [hreader]; rfl)).2
      dsimp only
      split
      next =>
        refine ⟨h.ranges, h.start, fun _ _ _ => ⟨self.offset, ?_, nofun⟩⟩
        show Pieces self.file self.offset (chunkData self.calls) self.offset
        rw [hnone]
        rfl
      next hnegative =>
        refine ⟨h.ranges, h.start, fun _ _ _ => ⟨self.offset, ?_, ?_⟩⟩
        · show Pieces self.file self.offset (chunkData self.calls) self.offset
          rw [hnone]
          rfl
        · intro position hposition
          have hsame : self.offset.toNat = position := Option.some.inj hposition
          omega
  | loop position =>
      dsimp only
      split
      · refine h.same rfl rfl rfl rfl (.inl rfl) fun _ hrefused _ => ⟨hrefused, ?_, rfl, nofun⟩
        rw [hreader]
        rfl
      · refine h.same rfl rfl rfl rfl (.inl rfl) fun _ hrefused _ => ⟨hrefused, ?_, rfl, ?_⟩
        · rw [hreader]
          rfl
        · rw [hreader]
          exact fun _ hposition => hposition
  | read position =>
      dsimp only
      split
      next =>
        refine h.same rfl rfl rfl rfl (.inl rfl) fun _ hrefused _ => ⟨hrefused, ?_, rfl, nofun⟩
        rw [hreader]
        rfl
      next =>
        split
        next =>
          refine h.same rfl rfl rfl rfl (.inl rfl) fun _ hrefused _ => ⟨hrefused, ?_, rfl, ?_⟩
          · rw [hreader]
            rfl
          · rw [hreader]
            exact fun _ hposition => hposition
        next byte bytes hread =>
          refine ⟨h.ranges, h.start, fun hstop hrefused _ => ?_⟩
          obtain ⟨last, hpieces, hlast⟩ := h.pieces hstop hrefused (by rw [hreader]; rfl)
          have hlast := hlast position (by rw [hreader]; rfl)
          refine ⟨last + (byte :: bytes).length, ?_, ?_⟩
          · have hslice := slice_read self.file position filePartSize
            rw [hread] at hslice
            show Pieces self.file self.offset (chunkData (self.calls ++ [.sendChunk (byte :: bytes)])) _
            rw [chunkData_append]
            exact hpieces.append nofun (by rw [hlast]; exact hslice)
          · intro next hnext
            have hsame : position + (byte :: bytes).length = next := Option.some.inj hnext
            omega
  | interrupted failureReason =>
      refine h.same rfl rfl rfl rfl (.inl rfl) fun _ hrefused _ => ⟨hrefused, ?_, rfl, nofun⟩
      rw [hreader]
      rfl
  | waitingEnd position =>
      have hbefore : self.reader.before = false := by
        rw [hreader]
        rfl
      dsimp only
      split
      · exact h
      · split
        · exact h.same rfl rfl rfl rfl (.inl rfl) fun _ hrefused _ => ⟨hrefused, hbefore, rfl, nofun⟩
        · exact h.same rfl rfl rfl rfl (.inl rfl) fun _ hrefused _ => ⟨hrefused, hbefore, rfl, nofun⟩
  | done => exact h

/-- A piece is sent: it is what the file has at the offset. -/
theorem Sending.send (h : self.Sending) (hoffsets : self.Offsets) {data : Bytes} {calls : List TwistedCall}
    (hcalls : self.calls = .sendChunk data :: calls) (hstop : self.stopEvent = false)
    (hrefused : self.refused = false) : ({ self with calls }.sendChunk data none).Sending := by
  have hbefore : self.reader.before = false := by
    by_contra hbefore
    have hnone := (hoffsets.before (by simpa using hbefore)).2
    rw [hcalls] at hnone
    cases hnone
  obtain ⟨last, hpieces, hlast⟩ := h.pieces hstop hrefused hbefore
  rw [hcalls] at hpieces
  obtain ⟨hdata, hslice, hrest⟩ := hpieces
  have hranges : Ranges self.file (self.answer.getD 0) self.sent self.offset := by
    rcases h.ranges with hsent | hranges
    · rw [hsent]
      exact (h.start hstop hsent).symm
    · exact hranges
  unfold sendChunk
  rw [if_neg (by rw [hstop]; decide)]
  refine ⟨.inr ?_, ?_, fun _ _ _ => ⟨last, hrest, hlast⟩⟩
  · exact hranges.append ⟨rfl, rfl, hdata, hslice, rfl, rfl⟩
  · intro _ hnone
    exact absurd hnone (by simp)

theorem Sending.runCall (h : self.Sending) (hoffsets : self.Offsets) (error : Option String)
    (hinStep : self.InStep (.call error)) : (self.runCall error).Sending := by
  unfold OutgoingFileTransferHandler.runCall
  split
  next => exact h
  next data calls hcalls =>
    by_cases hstop : self.stopEvent = true
    · have hskip : { self with calls }.sendChunk data error = { self with calls } := by
        unfold sendChunk
        exact if_pos hstop
      rw [hskip]
      exact h.ended rfl rfl rfl rfl hstop
    · have hstop : self.stopEvent = false := by simpa using hstop
      cases error with
      | some error =>
          have hrefuse : { self with calls }.sendChunk data (some error) =
              { { self with calls }.post (.error error) with refused := true } := by
            unfold sendChunk
            exact if_neg (by rw [hstop]; decide)
          rw [hrefuse]
          exact h.same rfl rfl rfl rfl (.inl rfl) nofun
      | none =>
          apply h.send hoffsets hcalls hstop
          by_contra hrefused
          rcases hinStep (by simpa using hrefused) with hset | hhead
          · rw [hstop] at hset
            cases hset
          · rw [hcalls] at hhead
            cases hhead _ rfl
  next calls hcalls =>
    have hdata : chunkData self.calls = chunkData calls := by
      rw [hcalls]
      rfl
    unfold sendFileOffsetChunk
    split
    · exact h.same rfl rfl rfl rfl (.inl rfl) fun _ hrefused hbefore =>
        ⟨hrefused, hbefore, hdata.symm, fun _ => id⟩
    · split
      · exact h.same rfl rfl rfl rfl (.inl rfl) fun _ hrefused hbefore =>
          ⟨hrefused, hbefore, hdata.symm, fun _ => id⟩
      · exact h.same rfl rfl rfl rfl (.inl rfl) fun _ hrefused hbefore =>
          ⟨hrefused, hbefore, hdata.symm, fun _ => id⟩

theorem Sending.offsetResponse (h : self.Sending) (hoffsets : self.Offsets) (code : Nat) (offset : Option Int) :
    (self.offsetResponse code offset).Sending := by
  unfold OutgoingFileTransferHandler.offsetResponse
  split
  next => exact h
  next hasked =>
    have hsome : self.offsetRequests ≠ 0 := by
      have hasked : self.askedOffset = true := by simpa using hasked
      simp [offsetRequests, hasked]
    have hsent := hoffsets.unsent hsome
    have hwaiting (hstop : self.stopEvent = false) : self.reader.before = true := by
      by_contra hbefore
      have hpassed : self.reader ≠ .waitingOffset := by
        intro hreader
        exact hbefore (by rw [hreader]; rfl)
      rcases hoffsets.settled (.inl hpassed) with hset | hnone
      · rw [hstop] at hset
        cases hset
      · exact hsome hnone
    dsimp only
    split
    next hanswered =>
      refine ⟨.inl hsent, ?_, ?_⟩
      · intro _ _
        show offset.getD 0 = (if code = 200 then offset else self.answer).getD 0
        rw [if_pos hanswered.2]
      · intro hstop _ hbefore
        rw [show self.reader.before = false from hbefore] at hwaiting
        cases hwaiting hstop
    next hanswered =>
      refine ⟨.inl hsent, ?_, ?_⟩
      · intro hstop _
        have hcode : code ≠ 200 := fun hcode => hanswered ⟨hstop, hcode⟩
        show self.offset = (if code = 200 then offset else self.answer).getD 0
        rw [if_neg hcode]
        exact h.start hstop hsent
      · intro hstop _ hbefore
        rw [show self.reader.before = false from hbefore] at hwaiting
        cases hwaiting hstop

theorem Sending.step (h : self.Sending) (hoffsets : self.Offsets) {step : OutgoingStep}
    (hinStep : self.InStep step) : (self.step step).Sending := by
  cases step with
  | reader readError => exact h.runReader hoffsets readError
  | call error => exact h.runCall hoffsets error hinStep
  | offsetResponse code offset => exact h.offsetResponse hoffsets code offset
  | transactionResponse code comment =>
      show (self.transactionResponse code comment).Sending
      unfold transactionResponse
      split
      · exact h
      · exact h.ended rfl rfl rfl rfl rfl
  | report report =>
      show (self.processChunk report).Sending
      unfold processChunk
      dsimp only
      split
      · split
        · exact h.ended rfl rfl rfl rfl rfl
        · exact h.same rfl rfl rfl rfl (.inl rfl) fun _ hrefused hbefore => ⟨hrefused, hbefore, rfl, fun _ => id⟩
      · exact h.ended rfl rfl rfl rfl rfl
  | endTransfer => exact h.ended rfl rfl rfl rfl rfl

/-! ### How the transfer ends -/

theorem Ending.keep (h : self.Ending) {next : OutgoingFileTransferHandler} (hfile : next.file = self.file)
    (hfinished : next.finishedEvent = self.finishedEvent) (hreports : ∀ report ∈ self.reports, report ∈ next.reports)
    (hposted : next.notifications = self.notifications ∨ ∃ posted, next.notifications = self.notifications ++ [posted] ∧
      (posted = .didEnd false none → self.finishedEvent)) : next.Ending := by
  have hreported (hself : self.ReportedEnd) : next.ReportedEnd := by
    obtain ⟨report, hmem, hcode, hlast⟩ := hself
    exact ⟨report, hreports report hmem, hcode, by rw [hfile, hlast]⟩
  refine ⟨?_, ?_⟩
  · rw [hfinished]
    exact fun hset => hreported (h.finished hset)
  · intro hended
    rcases hposted with hposted | ⟨posted, hposted, hlast⟩
    · exact hreported (h.ended (hposted ▸ hended))
    · rw [hposted] at hended
      rcases List.mem_append.mp hended with hended | hended
      · exact hreported (h.ended hended)
      · exact hreported (h.finished (hlast (List.mem_singleton.mp hended).symm))

theorem Ending.runReader (h : self.Ending) (readError : Option String) : (self.runReader readError).Ending := by
  have hsame : ∀ report ∈ self.reports, report ∈ self.reports := fun _ => id
  unfold OutgoingFileTransferHandler.runReader
  cases self.reader with
  | notStarted => exact h.keep rfl rfl hsame (.inr ⟨_, rfl, nofun⟩)
  | offset | waitingOffset | seek | loop =>
      dsimp only
      split <;> exact h.keep rfl rfl hsame (.inl rfl)
  | read =>
      dsimp only
      split
      · exact h.keep rfl rfl hsame (.inl rfl)
      · split <;> exact h.keep rfl rfl hsame (.inl rfl)
  | interrupted => exact h.keep rfl rfl hsame (.inr ⟨_, rfl, nofun⟩)
  | waitingEnd =>
      dsimp only
      split
      · exact h
      · split
        next hfinished => exact h.keep rfl rfl hsame (.inr ⟨_, rfl, fun _ => hfinished⟩)
        next => exact h.keep rfl rfl hsame (.inr ⟨_, rfl, nofun⟩)
  | done => exact h

theorem Ending.processChunk (h : self.Ending) {report : Report} (hinStep : self.InStep (.report report)) :
    (self.processChunk report).Ending := by
  have hmore : ∀ other ∈ self.reports, other ∈ self.reports ++ [report] :=
    fun other hmem => List.mem_append_left [report] hmem
  unfold OutgoingFileTransferHandler.processChunk
  dsimp only
  split
  next hcode =>
    split
    next hover =>
      have hreported : ReportedEnd { self with reports := self.reports ++ [report] } :=
        ⟨report, List.mem_append_right self.reports (List.mem_singleton_self report), hcode, hinStep hcode hover⟩
      exact ⟨fun _ => hreported, fun _ => hreported⟩
    next => exact h.keep rfl rfl hmore (.inr ⟨_, rfl, nofun⟩)
  next => exact h.keep rfl rfl hmore (.inr ⟨_, rfl, nofun⟩)

theorem Ending.step (h : self.Ending) {step : OutgoingStep} (hinStep : self.InStep step) :
    (self.step step).Ending := by
  have hsame : ∀ report ∈ self.reports, report ∈ self.reports := fun _ => id
  cases step with
  | reader readError => exact h.runReader readError
  | call error =>
      show (self.runCall error).Ending
      unfold OutgoingFileTransferHandler.runCall
      split
      · exact h
      · unfold sendChunk
        split
        · exact h.keep rfl rfl hsame (.inl rfl)
        · split
          · exact h.keep rfl rfl hsame (.inr ⟨_, rfl, nofun⟩)
          · exact h.keep rfl rfl hsame (.inl rfl)
      · unfold sendFileOffsetChunk
        split
        · exact h.keep rfl rfl hsame (.inl rfl)
        · split
          · exact h.keep rfl rfl hsame (.inr ⟨_, rfl, nofun⟩)
          · exact h.keep rfl rfl hsame (.inl rfl)
  | offsetResponse code offset =>
      show (self.offsetResponse code offset).Ending
      unfold OutgoingFileTransferHandler.offsetResponse
      split
      · exact h
      · dsimp only
        split <;> exact h.keep rfl rfl hsame (.inl rfl)
  | transactionResponse code comment =>
      show (self.transactionResponse code comment).Ending
      unfold transactionResponse
      split
      · exact h
      · exact h.keep rfl rfl hsame (.inr ⟨_, rfl, nofun⟩)
  | report report => exact h.processChunk hinStep
  | endTransfer => exact h.keep rfl rfl hsame (.inl rfl)

/-! ### Runs -/

theorem Sound.step (h : self.Sound) {step : OutgoingStep} (hinStep : self.InStep step) : (self.step step).Sound :=
  ⟨h.offsets.step step, h.sending.step h.offsets hinStep, h.ending.step hinStep⟩

theorem sound_start (file : Bytes) (fileOffsetSupported : Bool) :
    ({ file, fileOffsetSupported } : OutgoingFileTransferHandler).Sound where
  offsets := ⟨Nat.zero_le 1, fun _ => ⟨rfl, nofun⟩, fun _ => .inr rfl, fun _ => rfl, fun _ => ⟨rfl, rfl⟩⟩
  sending := ⟨.inl rfl, fun _ _ => rfl, nofun⟩
  ending := ⟨nofun, nofun⟩

theorem file_step (self : OutgoingFileTransferHandler) (step : OutgoingStep) :
    (self.step step).file = self.file := by
  cases step with
  | reader readError =>
      show (self.runReader readError).file = self.file
      unfold OutgoingFileTransferHandler.runReader
      repeat' split
      all_goals rfl
  | call error =>
      show (self.runCall error).file = self.file
      unfold OutgoingFileTransferHandler.runCall sendChunk sendFileOffsetChunk
      repeat' split
      all_goals rfl
  | offsetResponse code offset =>
      show (self.offsetResponse code offset).file = self.file
      unfold OutgoingFileTransferHandler.offsetResponse
      dsimp only
      repeat' split
      all_goals rfl
  | transactionResponse code comment =>
      show (self.transactionResponse code comment).file = self.file
      unfold transactionResponse
      split <;> rfl
  | report report =>
      show (self.processChunk report).file = self.file
      unfold OutgoingFileTransferHandler.processChunk
      dsimp only
      repeat' split
      all_goals rfl
  | endTransfer => rfl

/-- The chunks have the right ranges from the offset that was agreed on, and a transfer that ends well has been
reported to its last byte. -/
structure RightTransfer (handler : OutgoingFileTransferHandler) (file : Bytes) : Prop where
  ranges : RightRanges file (handler.answer.getD 0) handler.sent
  ended : .didEnd false none ∈ handler.notifications →
    ∃ report ∈ handler.reports, report.code = 200 ∧ report.transferredBytes = some file.length

theorem Sound.right (h : self.Sound) : self.RightTransfer self.file := by
  refine ⟨?_, h.ending.ended⟩
  rcases h.sending.ranges with hnone | hranges
  · rw [hnone]
    exact Ranges.right (show Ranges self.file (self.answer.getD 0) [] (self.answer.getD 0) from rfl)
  · exact hranges.right

/-- **The chunks of a file carry the right ranges** in every run in which the session takes no chunk after one that it
has refused, and every success report whose last byte is its total reports the last byte of the file. -/
theorem chunks_have_right_ranges (file : Bytes) (fileOffsetSupported : Bool) (steps : List OutgoingStep)
    (hmeets : Runs.Meets step InStep { file, fileOffsetSupported } steps) :
    (Runs.run step { file, fileOffsetSupported } steps).RightTransfer file := by
  have hsound := Runs.invariant_run (fun handler : OutgoingFileTransferHandler => handler.Sound)
    (fun _ _ h => h.step) (sound_start file fileOffsetSupported) hmeets
  have hfile := Runs.always_run (fun handler : OutgoingFileTransferHandler => handler.file = file)
    (fun handler step h => (file_step handler step).trans h)
    (show ({ file, fileOffsetSupported } : OutgoingFileTransferHandler).file = file from rfl) steps
  have hright := hsound.right
  rw [hfile] at hright
  exact hright

/-- The receiver has the first byte, gets the other two and reports the last one. -/
theorem chunks_have_right_ranges_resumed :
    (Runs.run step { file := [1, 2, 3], fileOffsetSupported := true }
      [.reader none, .reader none, .call none, .offsetResponse 200 (some 1), .reader none, .reader none, .reader none,
        .reader none, .call none, .reader none, .reader none, .report ⟨200, "OK", some 3, some 3⟩,
        .reader none]).RightTransfer [1, 2, 3] :=
  chunks_have_right_ranges [1, 2, 3] true _ (by decide)

theorem step_read {position : Nat} {data : Bytes} (hreader : self.reader = .read position) (hdata : data ≠ [])
    (hread : (self.file.drop position).take filePartSize = data) :
    self.step (.reader none) =
      { self with calls := self.calls ++ [.sendChunk data], reader := .loop (position + data.length) } := by
  show self.runReader none = _
  unfold OutgoingFileTransferHandler.runReader
  simp only [hreader, hread]
  cases data with
  | nil => exact absurd rfl hdata
  | cons => rfl

/-- The session refuses the first of two pieces and takes the second. -/
def refusesFirst : List OutgoingStep :=
  [.reader none, .reader none, .reader none, .reader none, .reader none, .reader none, .reader none,
    .call (some "not sent"), .call none]

/-- A piece that the session refuses is lost, and the next one is sent in its place. -/
theorem sent_of_refused {first second : Bytes} (hfirst : first.length = filePartSize) (hsome : first ≠ [])
    (hsecond : second ≠ []) (hlength : second.length ≤ filePartSize) :
    (Runs.run step { file := first ++ second, fileOffsetSupported := false } refusesFirst).sent =
      [{ data := second, start := 0 + 1, endPos := 0 + second.length, length := (first ++ second).length }] := by
  let reading (calls : List TwistedCall) (position : Nat) : OutgoingFileTransferHandler :=
    { file := first ++ second, fileOffsetSupported := false, notifications := [.didStart], calls
      reader := .read position }
  have hread : (reading [] 0).step (.reader none) =
      { reading [] 0 with calls := [.sendChunk first], reader := .loop (0 + first.length) } := by
    apply step_read rfl hsome
    show ((first ++ second).drop 0).take filePartSize = first
    rw [List.drop_zero, ← hfirst]
    exact List.take_left
  have hnext : (reading [.sendChunk first] (0 + first.length)).step (.reader none) =
      { reading [.sendChunk first] (0 + first.length) with
        calls := [.sendChunk first, .sendChunk second]
        reader := .loop (0 + first.length + second.length) } := by
    apply step_read rfl hsecond
    show ((first ++ second).drop (0 + first.length)).take filePartSize = second
    rw [Nat.zero_add, List.drop_left]
    exact List.take_of_length_le hlength
  have hstart : Runs.run step { file := first ++ second, fileOffsetSupported := false }
      [.reader none, .reader none, .reader none, .reader none] = reading [] 0 := rfl
  rw [show refusesFirst = [.reader none, .reader none, .reader none, .reader none] ++
    [.reader none, .reader none, .reader none, .call (some "not sent"), .call none] from rfl, Runs.run_append, hstart,
    Runs.run_cons, hread, Runs.run_cons]
  rw [show step { reading [] 0 with calls := [.sendChunk first], reader := .loop (0 + first.length) } (.reader none) =
    reading [.sendChunk first] (0 + first.length) from rfl, Runs.run_cons, hnext]
  rfl

/-- The second piece of a file goes out in the range of the first one, which the session has refused; or the receiver
reports the end of something shorter. -/
theorem not_chunks_have_right_ranges :
    (¬ ∀ file fileOffsetSupported steps,
      (Runs.run step { file, fileOffsetSupported } steps).RightTransfer file) ∧
    ¬ (Runs.run step { file := [1, 2, 3], fileOffsetSupported := false }
      [.reader none, .reader none, .reader none, .reader none, .reader none, .reader none, .reader none, .call none,
        .report ⟨200, "OK", some 1, some 1⟩, .reader none]).RightTransfer [1, 2, 3] := by
  constructor
  · intro hright
    have hranges := (hright (List.replicate filePartSize 0 ++ [1]) false refusesFirst).ranges
    have hsome : List.replicate filePartSize (0 : UInt8) = 0 :: List.replicate (filePartSize - 1) 0 := rfl
    rw [sent_of_refused List.length_replicate (by rw [hsome]; nofun) (List.cons_ne_nil 1 []) (by decide)] at hranges
    have hdata := (hranges.data _ List.mem_cons_self).2.1
    rw [hsome] at hdata
    exact absurd hdata (by simp [slice])
  · intro hright
    have hended := hright.ended (by decide)
    exact absurd hended (by decide)

end OutgoingFileTransferHandler

end SipSimple.Streams
