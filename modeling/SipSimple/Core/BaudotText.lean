import SipSimple.Core.BaudotReceiver
import SipSimple.Core.TTYModulator

/-!
# Text over the line

What the receiver calls back with for the texts that a modem sends. The receiver keeps the case that the
sender's shifts have set, so each code is read in the row it was written for; what is read are the
characters in upper case, with an apostrophe for what is in neither row and a new line where the sender puts
one. A circumflex has the code of the shift to figures, and is lost.
-/

namespace SipSimple.Core.Baudot

open Receiver

/-! ### What is to be read -/

/-- The characters that `TTYDemodulatorCallback` passes on. -/
def charsOf (events : List DemEvent) : List Nat :=
  events.filterMap fun event =>
    match event with
    | .char ascii => some ascii
    | .case _ => none

/-- What a character is read as. -/
def shown (c : Nat) : List Nat :=
  if toupper c = 94 then [] else if toupper c ∈ letterRow ++ figureRow then [toupper c] else [39]

/-- What characters are read as, from a column on. -/
def wrapped : Nat → List Nat → List Nat
  | _, [] => []
  | column, c :: rest =>
      let column := if c = 13 ∨ c = 10 then 0 else column
      if column > 59 ∧ c = 32 ∨ column > 70 then [13, 10] ++ (shown c ++ wrapped 1 rest)
      else shown c ++ wrapped (column + 1) rest

/-- No line is longer, where the first one begins in the given column. -/
def LinesWithin (width : Nat) : Nat → List Nat → Prop
  | _, [] => True
  | column, c :: rest =>
      if c = 13 ∨ c = 10 then LinesWithin width 0 rest else column + 1 ≤ width ∧ LinesWithin width (column + 1) rest

theorem charsOf_append (events others : List DemEvent) :
    charsOf (events ++ others) = charsOf events ++ charsOf others :=
  List.filterMap_append

theorem decodeAll_append (figures : Bool) (codes others : List Nat) :
    decodeAll figures (codes ++ others) =
      ((decodeAll (decodeAll figures codes).1 others).1,
        (decodeAll figures codes).2 ++ (decodeAll (decodeAll figures codes).1 others).2) := by
  induction codes generalizing figures with
  | nil => rfl
  | cons code codes ih => rw [List.cons_append, decodeAll, ih, decodeAll]; rfl

/-! ### The parts of a character's codes -/

/-- The receiver's case is the one that the sender has set; after white space, or before anything, it is
either. -/
def Agrees : CharCase → Bool → Prop
  | .letters, figures => figures = false
  | .figures, figures => figures = true
  | .whitespace, _ => True
  | .noCase, _ => True

instance : ∀ charCase figures, Decidable (Agrees charCase figures)
  | .letters, _ => inferInstanceAs (Decidable (_ = _))
  | .figures, _ => inferInstanceAs (Decidable (_ = _))
  | .whitespace, _ => inferInstanceAs (Decidable True)
  | .noCase, _ => inferInstanceAs (Decidable True)

variable (machine : Machine)

def charCase (c : Nat) : CharCase :=
  if c = 32 ∨ (decide (c = 0x0d ∨ c = 0x0a)) = true then .whitespace
  else if baudotOf machine c &&& figflag ≠ 0 then .figures
  else .letters

def startColumn (coding : Coding) (c : Nat) : Coding :=
  if decide (c = 0x0d ∨ c = 0x0a) then { coding with modCharsWithoutCrlf := 0 } else coding

/-- The case character before a character. -/
def shift (charCase : CharCase) (coding : Coding) : Coding × List Nat :=
  if charCase = .whitespace then
    ({ coding with modCase := .whitespace }, if coding.modCase = .noCase then [letr] else [])
  else if charCase ≠ coding.modCase then
    ({ coding with modCase := charCase, modCharsWithoutCase := 0 }, [if charCase = .letters then letr else figr])
  else (coding, [])

/-- The case character that is sent again. -/
def shiftAgain (coding : Coding) : Coding × List Nat :=
  if coding.modCharsWithoutCase > 70 then
    ({ coding with modCharsWithoutCase := 0 },
      [if coding.modCase = .whitespace ∨ coding.modCase = .letters then letr else figr])
  else (coding, [])

/-- A new line comes before white space from column 60 on, and before anything from column 71 on. -/
def Breaks (coding : Coding) : Prop :=
  (coding.modCharsWithoutCrlf > 59 ∧ coding.modCase = .whitespace) ∨ coding.modCharsWithoutCrlf > 70

instance (coding : Coding) : Decidable (Breaks coding) := inferInstanceAs (Decidable (_ ∨ _))

def breakLine (coding : Coding) : Coding × List Nat :=
  if Breaks coding then
    ({ coding with modCharsWithoutCrlf := 0 }, [baudotOf machine 0x0d &&& 0x1f, baudotOf machine 0x0a &&& 0x1f])
  else (coding, [])

theorem encodeChar_eq (coding : Coding) (c : Nat) :
    encodeChar machine coding c =
      let shifted := shift (charCase machine c) (startColumn coding c)
      let again := shiftAgain shifted.1
      let broken := breakLine machine again.1
      ({ broken.1 with
          modCharsWithoutCase := broken.1.modCharsWithoutCase + 1
          modCharsWithoutCrlf := broken.1.modCharsWithoutCrlf + 1 },
        shifted.2 ++ again.2 ++ broken.2 ++ [baudotOf machine c &&& 0x1f]) := rfl

variable {machine}

/-- What case characters do: nothing is read, and the receiver has the case afterwards. -/
structure Shifts (before after : CharCase) (codes : List Nat) : Prop where
  codes_lt : ∀ code ∈ codes, code < 32
  agrees : ∀ figures, Agrees before figures → Agrees after (decodeAll figures codes).1
  chars : ∀ figures, charsOf (decodeAll figures codes).2 = []

theorem Shifts.append {before between after : CharCase} {codes others : List Nat} (h : Shifts before between codes)
    (hothers : Shifts between after others) : Shifts before after (codes ++ others) := by
  refine ⟨List.forall_mem_append.mpr ⟨h.codes_lt, hothers.codes_lt⟩, fun figures hagrees => ?_, fun figures => ?_⟩
  · rw [decodeAll_append]
    exact hothers.agrees _ (h.agrees _ hagrees)
  · rw [decodeAll_append, charsOf_append, h.chars, hothers.chars]
    rfl

theorem shifts_letr (before : CharCase) {after : CharCase} (hafter : Agrees after false) :
    Shifts before after [letr] :=
  ⟨by decide, fun _ _ => hafter, fun _ => rfl⟩

theorem shifts_figr (before : CharCase) {after : CharCase} (hafter : Agrees after true) :
    Shifts before after [figr] :=
  ⟨by decide, fun _ _ => hafter, fun _ => rfl⟩

theorem shifts_nil {before after : CharCase} (h : ∀ figures, Agrees before figures → Agrees after figures) :
    Shifts before after [] :=
  ⟨by simp, h, fun _ => rfl⟩

theorem shifts_shift {charCase : CharCase} (hcase : charCase ≠ .noCase) (coding : Coding) :
    (shift charCase coding).1.modCase = charCase ∧
      (shift charCase coding).1.modCharsWithoutCrlf = coding.modCharsWithoutCrlf ∧
      Shifts coding.modCase charCase (shift charCase coding).2 := by
  rw [shift]
  split_ifs with hwhitespace hnone hother hletters
  · subst hwhitespace
    exact ⟨rfl, rfl, shifts_letr _ trivial⟩
  · subst hwhitespace
    exact ⟨rfl, rfl, shifts_nil fun _ _ => trivial⟩
  · subst hletters
    exact ⟨rfl, rfl, shifts_letr _ rfl⟩
  · obtain rfl : charCase = .figures := by
      cases charCase with
      | figures => rfl
      | letters => exact absurd rfl hletters
      | whitespace => exact absurd rfl hwhitespace
      | noCase => exact absurd rfl hcase
    exact ⟨rfl, rfl, shifts_figr _ rfl⟩
  · have hsame : charCase = coding.modCase := not_not.mp hother
    exact ⟨hsame.symm, rfl, shifts_nil fun _ h => hsame ▸ h⟩

theorem shifts_shiftAgain {coding : Coding} (hcase : coding.modCase ≠ .noCase) :
    (shiftAgain coding).1.modCase = coding.modCase ∧
      (shiftAgain coding).1.modCharsWithoutCrlf = coding.modCharsWithoutCrlf ∧
      Shifts coding.modCase coding.modCase (shiftAgain coding).2 := by
  rw [shiftAgain]
  split_ifs with hlong hcases
  · refine ⟨rfl, rfl, shifts_letr _ ?_⟩
    rcases hcases with h | h
    · rw [h]
      trivial
    · rw [h]
      rfl
  · refine ⟨rfl, rfl, shifts_figr _ ?_⟩
    rw [not_or] at hcases
    cases hmodCase : coding.modCase with
    | figures => rfl
    | letters => exact absurd hmodCase hcases.2
    | whitespace => exact absurd hmodCase hcases.1
    | noCase => exact absurd hmodCase hcase
  · exact ⟨rfl, rfl, shifts_nil fun _ h => h⟩

/-- A new line is the same in both rows. -/
theorem decodeAll_newLine (figures : Bool) :
    decodeAll figures [baudotOf machine 0x0d &&& 0x1f, baudotOf machine 0x0a &&& 0x1f] =
      (figures, [.char 13, .char 10]) := by
  have hreturn : baudotOf machine 0x0d = asciiToBaudot (toupper 0x0d) := if_pos (by decide)
  have hfeed : baudotOf machine 0x0a = asciiToBaudot (toupper 0x0a) := if_pos (by decide)
  rw [hreturn, hfeed]
  revert figures
  decide +kernel

/-- A character under 128 is read in the row of its case. -/
theorem decode_char : ∀ c < 128, ∀ figures : Bool,
    Agrees (if c = 32 ∨ (decide (c = 0x0d ∨ c = 0x0a)) = true then .whitespace
      else if asciiToBaudot (toupper c) &&& figflag ≠ 0 then .figures else .letters) figures →
    charsOf [(decode figures (asciiToBaudot (toupper c) &&& 0x1f)).2] = shown c ∧
      Agrees (if c = 32 ∨ (decide (c = 0x0d ∨ c = 0x0a)) = true then .whitespace
        else if asciiToBaudot (toupper c) &&& figflag ≠ 0 then .figures else .letters)
        (decode figures (asciiToBaudot (toupper c) &&& 0x1f)).1 := by
  decide +kernel

theorem charCase_ne_noCase (c : Nat) : charCase machine c ≠ .noCase := by
  rw [charCase]
  split_ifs <;> exact CharCase.noConfusion

theorem charCase_eq_whitespace {c : Nat} :
    charCase machine c = .whitespace ↔ c = 32 ∨ c = 13 ∨ c = 10 := by
  rw [charCase]
  split_ifs with hspace hfigures
  · simpa using hspace
  · simpa using hspace
  · simpa using hspace

theorem startColumn_modCase (coding : Coding) (c : Nat) : (startColumn coding c).modCase = coding.modCase := by
  rw [startColumn]
  split_ifs <;> rfl

theorem startColumn_column (coding : Coding) (c : Nat) :
    (startColumn coding c).modCharsWithoutCrlf = if c = 13 ∨ c = 10 then 0 else coding.modCharsWithoutCrlf := by
  rw [startColumn]
  by_cases hbreak : c = 13 ∨ c = 10
  · rw [if_pos (decide_eq_true hbreak), if_pos hbreak]
  · rw [if_neg (by simpa using hbreak), if_neg hbreak]

theorem breakLine_coding (coding : Coding) :
    (breakLine machine coding).1.modCase = coding.modCase ∧
      (breakLine machine coding).1.modCharsWithoutCrlf =
        if Breaks coding then 0 else coding.modCharsWithoutCrlf := by
  by_cases hbreaks : Breaks coding
  · rw [breakLine, if_pos hbreaks, if_pos hbreaks]
    exact ⟨rfl, rfl⟩
  · rw [breakLine, if_neg hbreaks, if_neg hbreaks]
    exact ⟨rfl, rfl⟩

theorem decodeAll_breakLine (coding : Coding) (figures : Bool) :
    decodeAll figures (breakLine machine coding).2 =
      (figures, if Breaks coding then [.char 13, .char 10] else []) := by
  by_cases hbreaks : Breaks coding
  · rw [breakLine, if_pos hbreaks, if_pos hbreaks]
    exact decodeAll_newLine figures
  · rw [breakLine, if_neg hbreaks, if_neg hbreaks]
    rfl

theorem code_lt (code : Nat) : code &&& 0x1f < 32 :=
  lt_of_le_of_lt Nat.and_le_right (by decide)

theorem codes_lt_breakLine (coding : Coding) : ∀ code ∈ (breakLine machine coding).2, code < 32 := by
  rw [breakLine]
  split_ifs
  · intro code hcode
    rcases List.mem_pair.mp hcode with rfl | rfl
    · exact code_lt _
    · exact code_lt _
  · simp

/-! ### A character, and a text -/

/-- The state in which the codes of a character are chosen. -/
theorem exists_shifted (coding : Coding) (c : Nat) :
    ∃ shifted codes, Shifts coding.modCase (charCase machine c) codes ∧
      shifted.modCase = charCase machine c ∧
      shifted.modCharsWithoutCrlf = (if c = 13 ∨ c = 10 then 0 else coding.modCharsWithoutCrlf) ∧
      (encodeChar machine coding c).2 =
        codes ++ (breakLine machine shifted).2 ++ [baudotOf machine c &&& 0x1f] ∧
      (encodeChar machine coding c).1.modCase = (breakLine machine shifted).1.modCase ∧
      (encodeChar machine coding c).1.modCharsWithoutCrlf =
        (breakLine machine shifted).1.modCharsWithoutCrlf + 1 := by
  obtain ⟨hcase, hcolumn, hfirst⟩ := shifts_shift (charCase_ne_noCase c) (startColumn coding c)
  have hsome : (shift (charCase machine c) (startColumn coding c)).1.modCase ≠ .noCase := by
    rw [hcase]
    exact charCase_ne_noCase c
  obtain ⟨hcase', hcolumn', hagain⟩ := shifts_shiftAgain hsome
  rw [hcase] at hcase' hagain
  rw [startColumn_modCase] at hfirst
  refine ⟨(shiftAgain (shift (charCase machine c) (startColumn coding c)).1).1, _, hfirst.append hagain, hcase', ?_,
    congrArg Prod.snd (encodeChar_eq machine coding c), rfl, rfl⟩
  rw [hcolumn', hcolumn, startColumn_column]

theorem codes_lt_encodeChar (coding : Coding) (c : Nat) : ∀ code ∈ (encodeChar machine coding c).2, code < 32 := by
  obtain ⟨shifted, codes, hshifts, -, -, hcodes, -, -⟩ := @exists_shifted machine coding c
  rw [hcodes]
  refine List.forall_mem_append.mpr ⟨List.forall_mem_append.mpr ⟨hshifts.codes_lt, codes_lt_breakLine _⟩, ?_⟩
  exact List.forall_mem_singleton.mpr (code_lt _)

theorem codes_lt_encodeAll (coding : Coding) (chars : List Nat) :
    ∀ code ∈ (encodeAll machine coding chars).2, code < 32 := by
  induction chars generalizing coding with
  | nil => simp [encodeAll]
  | cons c rest ih => exact List.forall_mem_append.mpr ⟨codes_lt_encodeChar coding c, ih _⟩

/-- The codes of one character are read as the character, after a new line where there is one. -/
theorem decode_encodeChar {coding : Coding} {figures : Bool} (h : Agrees coding.modCase figures) {c : Nat}
    (hc : c < 128) (rest : List Nat) :
    Agrees (encodeChar machine coding c).1.modCase (decodeAll figures (encodeChar machine coding c).2).1 ∧
      wrapped coding.modCharsWithoutCrlf (c :: rest) =
        charsOf (decodeAll figures (encodeChar machine coding c).2).2 ++
          wrapped (encodeChar machine coding c).1.modCharsWithoutCrlf rest := by
  obtain ⟨shifted, codes, hshifts, hcase, hcolumn, hcodes, hcase', hcolumn'⟩ := @exists_shifted machine coding c
  obtain ⟨hbroken, hleft⟩ := @breakLine_coding machine shifted
  have hbaudot : baudotOf machine c = asciiToBaudot (toupper c) := if_pos hc
  have hagrees := hshifts.agrees figures h
  have hcharCase : charCase machine c =
      if c = 32 ∨ (decide (c = 0x0d ∨ c = 0x0a)) = true then .whitespace
      else if asciiToBaudot (toupper c) &&& figflag ≠ 0 then .figures else .letters := by
    rw [charCase, hbaudot]
  have hchar := decode_char c hc (decodeAll figures codes).1 (hcharCase ▸ hagrees)
  rw [← hcharCase, ← hbaudot] at hchar
  have hbreaks : Breaks shifted ↔
      (if c = 13 ∨ c = 10 then 0 else coding.modCharsWithoutCrlf) > 59 ∧ c = 32 ∨
        (if c = 13 ∨ c = 10 then 0 else coding.modCharsWithoutCrlf) > 70 := by
    rw [Breaks, hcase, hcolumn, charCase_eq_whitespace]
    split_ifs with hbreak
    · omega
    · omega
  rw [hcodes, hcase', hcolumn', hbroken, hleft, hcase, decodeAll_append, decodeAll_append, decodeAll_breakLine,
    charsOf_append, charsOf_append, hshifts.chars, List.nil_append, hcolumn]
  refine ⟨hchar.2, ?_⟩
  rw [show (decodeAll (decodeAll figures codes).1 [baudotOf machine c &&& 0x1f]).2 =
    [(decode (decodeAll figures codes).1 (baudotOf machine c &&& 0x1f)).2] from rfl, hchar.1, wrapped]
  by_cases hbreak : Breaks shifted
  · rw [if_pos hbreak, if_pos hbreak, if_pos (hbreaks.mp hbreak), List.append_assoc]
    rfl
  · rw [if_neg hbreak, if_neg hbreak, if_neg fun h => hbreak (hbreaks.mpr h)]
    rfl

/-- **The codes of a text are read as its characters**, whatever the texts before have left. -/
theorem decode_encodeAll {coding : Coding} {figures : Bool} (h : Agrees coding.modCase figures) {chars : List Nat}
    (hchars : ∀ c ∈ chars, c < 128) :
    charsOf (decodeAll figures (encodeAll machine coding chars).2).2 =
      wrapped coding.modCharsWithoutCrlf chars := by
  induction chars generalizing coding figures with
  | nil => rfl
  | cons c rest ih =>
      obtain ⟨hagrees, hwrapped⟩ := @decode_encodeChar machine _ _ h c (hchars c List.mem_cons_self) rest
      rw [encodeAll, decodeAll_append, charsOf_append, hwrapped,
        ih hagrees fun other hother => hchars other (List.mem_cons_of_mem _ hother)]

theorem encodeAll_append (coding : Coding) (chars others : List Nat) :
    encodeAll machine coding (chars ++ others) =
      ((encodeAll machine (encodeAll machine coding chars).1 others).1,
        (encodeAll machine coding chars).2 ++ (encodeAll machine (encodeAll machine coding chars).1 others).2) := by
  induction chars generalizing coding with
  | nil => rfl
  | cons c rest ih =>
      rw [List.cons_append, encodeAll, ih, encodeAll, List.append_assoc]

/-! ### The lines -/

theorem LinesWithin.mono {width column column' : Nat} (hcolumn : column' ≤ column) {chars : List Nat}
    (h : LinesWithin width column chars) : LinesWithin width column' chars := by
  induction chars generalizing column column' with
  | nil => trivial
  | cons c rest ih =>
      rw [LinesWithin] at h ⊢
      split_ifs with hbreak
      · rwa [if_pos hbreak] at h
      · rw [if_neg hbreak] at h
        exact ⟨by omega, ih (by omega) h.2⟩

/-- A character is at most one place wide. -/
theorem LinesWithin.shown_append {width column : Nat} (hcolumn : column < width) (c : Nat) {chars : List Nat}
    (h : LinesWithin width (column + 1) chars) : LinesWithin width column (shown c ++ chars) := by
  have hone : ∀ char, LinesWithin width column ([char] ++ chars) := by
    intro char
    rw [List.singleton_append, LinesWithin]
    split_ifs
    · exact h.mono (Nat.zero_le _)
    · exact ⟨hcolumn, h⟩
  rw [shown]
  split_ifs
  · exact h.mono (Nat.le_succ _)
  · exact hone _
  · exact hone _

theorem linesWithin_wrapped {column : Nat} (hcolumn : column ≤ 71) (chars : List Nat) :
    LinesWithin 71 column (wrapped column chars) := by
  induction chars generalizing column with
  | nil => trivial
  | cons c rest ih =>
      rw [wrapped]
      by_cases hbreak : c = 13 ∨ c = 10
      · have hshown : shown c = [c] := by
          rcases hbreak with rfl | rfl
          · rfl
          · rfl
        rw [if_pos hbreak, if_neg (by omega), hshown, List.singleton_append, LinesWithin, if_pos hbreak]
        exact (ih (by omega)).mono (Nat.zero_le _)
      · rw [if_neg hbreak]
        split_ifs with hwide
        · exact LinesWithin.shown_append (by omega) c (ih (by omega))
        · exact LinesWithin.shown_append (by omega) c (ih (by omega))

/-! ### From one modem to the other -/

/-- The receiver takes all the codes of a text. -/
theorem received_text {receiver : Receiver} (h : receiver.Waiting) {codes : List Nat}
    (hcodes : ∀ code ∈ codes, code < 32) {readings : List Reading}
    (hfollows : SerialLine.Follows Sure 43 true 43 (textTones codes) readings) :
    Received receiver codes (readings.foldl receive receiver) := by
  by_cases hempty : codes = []
  · rw [textTones, if_pos hempty] at hfollows
    rw [hfollows.nil_left, hempty]
    exact ⟨h, rfl, (List.append_nil _).symm⟩
  · rw [textTones, if_neg hempty, linkedTones] at hfollows
    exact run_frames readable_speeds.1 hcodes h le_rfl hfollows

/-- The readings at a receiver to which a modem sends the texts one after another: for each text readings that
follow what the modem transmits, and before and after it anything that starts no character. -/
inductive Heard (machine : Machine) : OBL → List Bytes → List Reading → Prop
  | nothing {obl} : Heard machine obl [] []
  | pause {obl texts reading readings} (quiet : Quiet reading) (rest : Heard machine obl texts readings) :
      Heard machine obl texts (reading :: readings)
  | text {obl text texts signal readings after} (plain : ∀ c ∈ characters 0 text, c < 128)
      (terminated : 0 ∉ text)
      (room : (encodeAll machine obl.coding (characters 0 text)).2.length ≤ textBuf)
      (transmitted : OBL.Transmitted machine (obl.txQueue machine text) (obl.txQueue machine text).tonesLeft after)
      (follows : SerialLine.Follows Sure 43 true 43 (obl.txQueue machine text).tonesLeft signal)
      (rest : Heard machine after texts readings) : Heard machine obl (text :: texts) (signal ++ readings)

/-- The receiver takes the codes of all the texts. -/
theorem Heard.received {obl : OBL} {texts : List Bytes} {readings : List Reading}
    (h : Heard machine obl texts readings) (hworking : obl.Working) (hidle : obl.tonesLeft = [])
    {receiver : Receiver} (hwaiting : receiver.Waiting) :
    Received receiver (encodeAll machine obl.coding (texts.flatMap (characters 0))).2
      (readings.foldl receive receiver) := by
  induction h generalizing receiver with
  | nothing => exact ⟨hwaiting, rfl, (List.append_nil _).symm⟩
  | pause quiet rest ih =>
      rw [List.foldl_cons, receive_quiet hwaiting quiet]
      exact ih hworking hidle hwaiting
  | @text obl text texts signal readings after plain terminated room transmitted follows rest ih =>
      have hqueues := OBL.queues_txQueue hworking hidle terminated room
      rw [hqueues.tones] at follows
      have hreceived := received_text hwaiting (codes_lt_encodeAll _ _) follows
      have hrest := ih transmitted.working (List.self_eq_append_right.mp transmitted.left) hreceived.waiting
      rw [transmitted.coding, hqueues.coding] at hrest
      rw [List.foldl_append, List.flatMap_cons, encodeAll_append]
      refine ⟨hrest.waiting, ?_, ?_⟩
      · rw [hrest.figures, hreceived.figures, decodeAll_append]
      · rw [hrest.posted, hreceived.figures, hreceived.posted, decodeAll_append, List.append_assoc]

theorem Heard.plain {obl : OBL} {texts : List Bytes} {readings : List Reading}
    (h : Heard machine obl texts readings) : ∀ c ∈ texts.flatMap (characters 0), c < 128 := by
  induction h with
  | nothing => simp
  | pause quiet rest ih => exact ih
  | text plain terminated room transmitted follows rest ih =>
      rw [List.flatMap_cons]
      exact List.forall_mem_append.mpr ⟨plain, ih⟩

/-- A receiver posts the characters of the texts. -/
theorem Heard.posted {texts : List Bytes} {readings : List Reading} (h : Heard machine .init texts readings) :
    charsOf (readings.foldl receive .reset).posted = wrapped 0 (texts.flatMap (characters 0)) := by
  have hreceived := h.received OBL.working_init rfl (show Waiting .reset from ⟨rfl, rfl⟩)
  rw [hreceived.posted]
  exact @decode_encodeAll machine .reset false trivial _ h.plain

theorem Demodulator.receiver_demodulate (factors : Factors) (self : Demodulator) (samples : List Int) :
    (self.demodulate factors samples).receiver =
      (self.filter.readings factors samples).foldl receive self.receiver := by
  induction samples generalizing self with
  | nil => rfl
  | cons sample samples ih => exact ih (self.step factors sample)

/-- **What one modem sends the other reads**: the characters of all the texts, in order, in lines of at most
71 places; and so does the whole receiving modem of any samples that its filter reads like this. -/
theorem text_is_read {texts : List Bytes} {readings : List Reading} (h : Heard machine .init texts readings) :
    charsOf (readings.foldl receive .reset).posted = wrapped 0 (texts.flatMap (characters 0)) ∧
      LinesWithin 71 0 (wrapped 0 (texts.flatMap (characters 0))) ∧
        ∀ factors samples, Filter.readings factors .reset samples = readings →
          charsOf (Demodulator.demodulate factors .reset samples).receiver.posted =
            wrapped 0 (texts.flatMap (characters 0)) := by
  refine ⟨h.posted, linesWithin_wrapped (Nat.zero_le _) _, ?_⟩
  rintro factors samples rfl
  rw [Demodulator.receiver_demodulate]
  exact h.posted

/-! ### A filter that shows every tone at once -/

def reading (tone : Bool) : Reading := if tone then ⟨3, 1⟩ else ⟨-4, 1⟩

theorem sure_reading (tone : Bool) : Sure tone (reading tone) := by
  cases tone <;> decide

theorem follows_reading (held : Bool) (age : Nat) (tones : List Bool) :
    SerialLine.Follows Sure 43 held age tones (tones.map reading) := by
  induction tones generalizing held age with
  | nil => trivial
  | cons tone tones ih => exact ⟨fun _ => sure_reading tone, ih _ _⟩

/-- `Hi 5`, after a pause. -/
theorem text_is_read_hi : ∃ readings, Heard TTYModulator.tty .init [[72, 105, 32, 53]] readings ∧
    charsOf (readings.foldl receive .reset).posted = [72, 73, 32, 53] := by
  have hqueues := @OBL.queues_txQueue TTYModulator.tty .init OBL.working_init rfl [72, 105, 32, 53] (by decide)
    (by decide)
  have htransmitted := (@OBL.transmitted_steps TTYModulator.tty
    (OBL.txQueue TTYModulator.tty [72, 105, 32, 53] .init).tonesLeft.length _ hqueues.working).1
  rw [List.take_length] at htransmitted
  have hheard : Heard TTYModulator.tty .init [[72, 105, 32, 53]]
      (reading true :: ((OBL.txQueue TTYModulator.tty [72, 105, 32, 53] .init).tonesLeft.map reading ++ [])) :=
    .pause (sure_reading true).quiet
      (.text (by decide) (by decide) (by decide) htransmitted (follows_reading _ _ _) .nothing)
  exact ⟨_, hheard, (text_is_read hheard).1⟩

end SipSimple.Core.Baudot
