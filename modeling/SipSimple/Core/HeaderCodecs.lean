import SipSimple.Core.HeaderLaws
import SipSimple.Library.Patterns

/-!
# Headers that the library prints and reads itself

`Refer-To`, `Reason`, `Warning` and `Subject` are unknown to pjsip: `body` prints their value, and
`_pjsip_msg_to_dict` reads the value of such a header again. A byte of a value is the character with its number.
-/

namespace SipSimple.Core.Headers

/-! ### Printing -/

/-- `"%s%s" % (name, "" if value is None else "=%s" % value)` -/
def formatParameter : Str × Value → Str
  | (name, .none) => name
  | (name, .str value) => name ++ '=' :: value
  | (name, .int value) => name ++ '=' :: Configuration.unicodeInt value

def ReferTo.body (header : ReferTo) : Str :=
  '<' :: (header.uri ++ '>' :: (header.parameters.items.map fun item => ';' :: formatParameter item).flatten)

def Reason.body (header : Reason) : Str :=
  header.protocol ++ (header.parameters.items.map fun item => ' ' :: ';' :: formatParameter item).flatten

def Warning.body (header : Warning) : Str :=
  Nat.toDigits 10 header.code ++ ' ' :: (header.agent ++ ' ' :: '"' :: (header.text ++ ['"']))

/-- `subject.encode('utf-8')` -/
def Subject.body (header : Subject) : Str :=
  (header.subject.flatMap String.utf8EncodeChar).map fun byte => Char.ofNat byte.toNat

/-! ### Reading -/

/-- `value or None` -/
def valueOrNone (value : Str) : Value := if value = [] then .none else .str value

/-- The dictionary of the parameters. -/
def readParameters (params : List Str) : Dict :=
  params.foldl (fun dict param => Dict.set dict (partition '=' param).1 (valueOrNone (partition '=' param).2)) Dict.empty

/-- `FrozenReferToHeader_create` -/
def ReferTo.create (value : Str) : ReferTo where
  uri := (partition '>' value).1 ++ if '>' ∈ value then ['>'] else []
  parameters := readParameters (((partition '>' value).2.splitOn ';').filter (· ≠ []))

def Reason.create (value : Str) : Reason where
  protocol := (partition ';' value).1
  parameters := readParameters ((partition ';' value).2.splitOn ';')

/-- ` "(?P<text>.*?)"` -/
def quotedPattern : Pattern Str := do
  Pattern.literal [' ', '"']
  let text ← Pattern.shortest (· != '\n')
  Pattern.literal ['"']
  return text

/-- `_re_warning_hdr` -/
def warningRe : Pattern (Str × Str × Str) := do
  let code ← Pattern.between Char.isDigit 3 3
  Pattern.literal [' ']
  let agent ← Pattern.shortest (· != '\n')
  let text ← quotedPattern
  return (code, agent, text)

/-- A warning that does not match is no header. -/
def Warning.create (value : Str) : Option Warning := do
  let (code, agent, text) ← warningRe.run value
  let code ← Configuration.intDigits code
  if valid : 100 ≤ code ∧ code ≤ 999 then some ⟨code, agent, text, valid⟩ else none

/-- `FrozenSubjectHeader_create`; the value may not be UTF-8. -/
def Subject.create (value : Str) : Option Subject :=
  (value.map fun char => UInt8.ofNat char.toNat).toByteArray.utf8Decode?.map fun chars => ⟨chars.toList⟩

/-! ### Round trips -/

/-- The headers that are printed and read here. -/
inductive Coded where
  | referTo (header : ReferTo)
  | reason (header : Reason)
  | warning (header : Warning)
  | subject (header : Subject)

namespace Coded

def body : Coded → Str
  | referTo header => header.body
  | reason header => header.body
  | warning header => header.body
  | subject header => header.body

/-- What `_pjsip_msg_to_dict` makes of a value for the name of the header. -/
def read (value : Str) : Coded → Option Coded
  | referTo _ => some (referTo (.create value))
  | reason _ => some (reason (.create value))
  | warning _ => (Warning.create value).map warning
  | subject _ => (Subject.create value).map subject

/-- The headers are of one kind with the same fields. -/
def Same : Coded → Coded → Prop
  | referTo header, referTo other => header.Same other
  | reason header, reason other => header.Same other
  | warning header, warning other => header = other
  | subject header, subject other => header = other
  | _, _ => False

/-- The body is read as the header that it was printed from, and printed as it was. -/
def RoundTrips (header : Coded) : Prop :=
  ∃ new, header.read header.body = some new ∧ new.Same header ∧ new.body = header.body

/-- The regular expression finds the agent and the text of a warning where they were put. -/
structure Delimited (header : Warning) : Prop where
  agent_line : '\n' ∉ header.agent
  agent : ¬ [' ', '"'] <:+: header.agent
  text_line : '\n' ∉ header.text
  text : '"' ∉ header.text

/-- A subject survives, and a delimited warning does. -/
def Survives : Coded → Prop
  | referTo _ => False
  | reason _ => False
  | warning header => Delimited header
  | subject _ => True

end Coded

/-! ### Headers that are lost -/

/-- The URI that is read is in brackets. -/
theorem ReferTo.create_body_uri (header : ReferTo) : (ReferTo.create header.body).uri ≠ header.uri := by
  intro heq
  have hmem : '>' ∈ header.body := by simp [ReferTo.body]
  have huri : (partition '>' header.body).1 ++ ['>'] = header.uri := by
    rw [← heq, ReferTo.create, if_pos hmem]
  have hsplit : header.body = '<' :: ((partition '>' header.body).1 ++ '>' ::
      ('>' :: (header.parameters.items.map fun item => ';' :: formatParameter item).flatten)) := by
    conv_lhs => rw [ReferTo.body, ← huri]
    simp
  have hfirst : (partition '>' header.body).1 = '<' :: (partition '>' header.body).1 := by
    conv_lhs => rw [hsplit, partition, ← List.cons_append]
    refine takeWhile_of_separator fun hmem => ?_
    rcases List.mem_cons.mp hmem with heq | hmem
    · exact absurd heq (by decide)
    · exact not_mem_partition _ _ hmem
  have hlength := congrArg List.length hfirst
  rw [List.length_cons] at hlength
  omega

theorem readParameters_singleton (param : Str) :
    (readParameters [param]).get (partition '=' param).1 = some (valueOrNone (partition '=' param).2) := by
  simp [readParameters, Dict.set, Dict.empty, Dict.get]

/-- A reason is read with a blank after the protocol, or with a parameter without a name. -/
theorem Reason.create_body (header : Reason) : ¬ (Reason.create header.body).Same header := by
  rintro ⟨hprotocol, hparameters⟩
  have hsemicolon : ';' ∉ header.protocol := hprotocol ▸ not_mem_partition ';' header.body
  cases hitems : header.parameters.items with
  | nil =>
      have hbody : header.body = header.protocol := by simp [Reason.body, hitems]
      have hrest : (partition ';' header.body).2 = [] := by
        have hall : ∀ char ∈ header.protocol, decide (char ≠ ';') = true := fun char hchar => by
          simpa using fun heq : char = ';' => hsemicolon (heq ▸ hchar)
        rw [hbody, partition, List.dropWhile_eq_nil_iff.mpr hall]
        rfl
      have hempty := hparameters []
      rw [Reason.create, hrest, List.splitOn_nil] at hempty
      have hnone : header.parameters.get [] = none := by rw [Dict.get, hitems]; rfl
      rw [hnone] at hempty
      exact absurd ((readParameters_singleton []).symm.trans hempty) (Option.some_ne_none _)
  | cons item items =>
      have hbody : header.body = (header.protocol ++ [' ']) ++ ';' :: (formatParameter item ++
          (items.map fun item => ' ' :: ';' :: formatParameter item).flatten) := by
        simp [Reason.body, hitems]
      have hread : (Reason.create header.body).protocol = header.protocol ++ [' '] := by
        show (partition ';' header.body).1 = _
        rw [hbody]
        refine takeWhile_of_separator fun hmem => ?_
        rcases List.mem_append.mp hmem with hmem | hmem
        · exact hsemicolon hmem
        · exact absurd (List.mem_singleton.mp hmem) (by decide)
      have hlength := congrArg List.length (hread.symm.trans hprotocol)
      simp at hlength

/-! ### Subjects -/

theorem Subject.create_body (header : Subject) : Subject.create header.body = some header := by
  have hbytes : header.body.map (fun char => UInt8.ofNat char.toNat) =
      header.subject.flatMap String.utf8EncodeChar := by
    rw [Subject.body, List.map_map]
    conv_rhs => rw [← List.map_id (header.subject.flatMap String.utf8EncodeChar)]
    refine List.map_congr_left fun byte _ => ?_
    show UInt8.ofNat (Char.ofNat byte.toNat).toNat = byte
    rw [UnicodeCodecs.toNat_ofNat_byte byte.toNat_lt, UInt8.ofNat_toNat]
  rw [Subject.create, hbytes]
  show (header.subject.utf8Encode.utf8Decode?).map _ = some header
  rw [List.utf8Decode?_utf8Encode, Option.map_some, List.toList_toArray]

/-! ### Warnings -/

theorem length_code (header : Warning) : (Nat.toDigits 10 header.code).length = 3 := by
  have hvalid := header.code_valid
  have hmost := (Nat.length_toDigits_le_iff (n := header.code) (k := 3) (b := 10) (by decide) (by decide)).mpr (by omega)
  have hleast := (Nat.length_toDigits_le_iff (n := header.code) (k := 2) (b := 10) (by decide) (by decide)).not.mpr
    (by omega)
  omega

/-- The digits of the code are matched in one way. -/
theorem between_code (header : Warning) (rest : Str) :
    Pattern.between Char.isDigit 3 3 (Nat.toDigits 10 header.code ++ ' ' :: rest) =
      [(Nat.toDigits 10 header.code, ' ' :: rest)] := by
  have hdigit : ∀ char ∈ Nat.toDigits 10 header.code, char.isDigit = true := fun _ hchar =>
    Nat.isDigit_of_mem_toDigits (by decide) (by decide) hchar
  obtain ⟨first, second, third, hcode⟩ := List.length_eq_three.mp (length_code header)
  rw [hcode] at hdigit ⊢
  have hblank : ' '.isDigit = false := by decide
  simp [Pattern.between, Pattern.greedy, hblank, hdigit first (by simp), hdigit second (by simp),
    hdigit third (by simp)]

theorem run_quotedPattern {value text : Str} : quotedPattern.run value = some text ↔
    ∃ rest, value = ' ' :: '"' :: (text ++ '"' :: rest) ∧ '\n' ∉ text ∧ '"' ∉ text := by
  rcases value with _ | ⟨first, _ | ⟨second, value⟩⟩
  · have hnone : quotedPattern.run [] = none := rfl
    simp [hnone]
  · have hnone : quotedPattern.run [first] = none := by
      rw [Pattern.run_eq_none]
      intro text rest hmem
      simp [quotedPattern] at hmem
    simp [hnone]
  · by_cases hstart : first = ' ' ∧ second = '"'
    · obtain ⟨rfl, rfl⟩ := hstart
      have hliteral : Pattern.literal [' ', '"'] (' ' :: '"' :: value) = [((), value)] := by
        simp [Pattern.literal]
      rw [quotedPattern, Pattern.run_bind_of_single hliteral, Pattern.run_bind_shortest]
      have hclose : ∀ word rest : Str, (do Pattern.literal ['"']; return word : Pattern Str).run rest =
          if rest.head? = some '"' then some word else none := by
        intro word rest
        rcases rest with _ | ⟨head, rest⟩
        · rfl
        · by_cases hhead : head = '"'
          · subst hhead
            rfl
          · have hnone : Pattern.literal ['"'] (head :: rest) = [] := by
              simp [Pattern.literal, Ne.symm hhead]
            rw [Pattern.run_eq_none_iff_nil.mpr (by show List.flatMap _ _ = _; rw [hnone]; rfl)]
            simp [hhead]
      simp only [hclose]
      constructor
      · rintro ⟨word, rest, rfl, hword, hrun, hfirst⟩
        rcases rest with _ | ⟨head, rest⟩
        · cases hrun
        · split at hrun
          next hhead =>
            obtain rfl := Option.some.inj hrun
            obtain rfl := Option.some.inj hhead
            refine ⟨rest, rfl, fun hmem => by simpa using hword _ hmem, fun hmem => ?_⟩
            obtain ⟨before, after, rfl⟩ := List.append_of_mem hmem
            have := hfirst before '"' after rfl
            simp at this
          next => cases hrun
      · rintro ⟨rest, heq, hline, hquote⟩
        obtain rfl : value = text ++ '"' :: rest := by simpa using heq
        refine ⟨text, '"' :: rest, rfl, fun char hchar => ?_, by simp, fun before char after hbefore => ?_⟩
        · simpa using fun heq : char = '\n' => hline (heq ▸ hchar)
        · have hne : char ≠ '"' := fun heq => hquote (by rw [hbefore, heq]; simp)
          simp [hne]
    · have hnone : quotedPattern.run (first :: second :: value) = none := by
        rw [Pattern.run_eq_none]
        intro text rest hmem
        simp [quotedPattern] at hmem
        tauto
      rw [hnone]
      constructor
      · intro h
        cases h
      · rintro ⟨rest, heq, -⟩
        simp only [List.cons.injEq] at heq
        exact absurd ⟨heq.1, heq.2.1⟩ hstart

/-- A quoted text can be read where a quote closes it on the line. -/
theorem run_quotedPattern_of_closed {before after : Str} (hline : '\n' ∉ before) :
    quotedPattern.run (' ' :: '"' :: (before ++ '"' :: after)) ≠ none := by
  have hmem : '"' ∈ before ++ '"' :: after := by simp
  obtain ⟨text, rest, heq, hquote⟩ := List.eq_append_cons_of_mem hmem
  have htext : '\n' ∉ text := by
    rcases List.append_eq_append_iff.mp heq with ⟨extra, rfl, hrest⟩ | ⟨extra, rfl, -⟩
    · cases extra with
      | nil => simpa using hline
      | cons char extra =>
          obtain ⟨rfl, -⟩ := List.cons.inj hrest
          simp at hquote
    · exact fun hnewline => hline (List.mem_append_left _ hnewline)
  rw [heq, run_quotedPattern.mpr ⟨rest, rfl, htext, hquote⟩]
  exact Option.some_ne_none _

theorem run_warningRe {header : Warning} {found : Str × Str × Str} :
    warningRe.run header.body = some found ↔
      (Pattern.shortest (· != '\n') >>= fun agent => quotedPattern >>= fun text =>
        pure (Nat.toDigits 10 header.code, agent, text) : Pattern (Str × Str × Str)).run
          (header.agent ++ ' ' :: '"' :: (header.text ++ ['"'])) = some found := by
  have hblank : Pattern.literal [' '] (' ' :: (header.agent ++ ' ' :: '"' :: (header.text ++ ['"']))) =
      [((), header.agent ++ ' ' :: '"' :: (header.text ++ ['"']))] := by
    simp [Pattern.literal]
  rw [warningRe, Warning.body, Pattern.run_bind_of_single (between_code header _), Pattern.run_bind_of_single hblank]

/-- The expression finds the agent and the text exactly in a delimited warning. -/
theorem run_warningRe_iff (header : Warning) :
    warningRe.run header.body = some (Nat.toDigits 10 header.code, header.agent, header.text) ↔
      Coded.Delimited header := by
  rw [run_warningRe, Pattern.run_bind_shortest]
  simp only [Pattern.run_bind_pure, Option.map_eq_some_iff, Option.map_eq_none_iff, Prod.mk.injEq]
  constructor
  · rintro ⟨agent, rest, heq, hagent, ⟨text, htext, -, rfl, rfl⟩, hfirst⟩
    obtain rfl := List.append_cancel_left heq
    obtain ⟨rest, hrest, hline, hquote⟩ := run_quotedPattern.mp htext
    have hagent : '\n' ∉ header.agent := fun hmem => by simpa using hagent _ hmem
    refine ⟨hagent, ?_, hline, hquote⟩
    rintro ⟨before, after, hinfix⟩
    have hagain : header.agent = before ++ ' ' :: ('"' :: after) := by
      rw [← hinfix]
      simp
    have hnone := hfirst before ' ' ('"' :: after) hagain
    have hafter : '\n' ∉ after ++ [' '] := by
      rw [hagain] at hagent
      simp at hagent ⊢
      exact hagent.2
    refine @run_quotedPattern_of_closed _ (header.text ++ ['"']) hafter ?_
    rw [← hnone]
    simp
  · intro hdelimited
    refine ⟨header.agent, _, rfl, fun char hchar => ?_, ⟨header.text, ?_, trivial, rfl, rfl⟩, ?_⟩
    · simpa using fun heq : char = '\n' => hdelimited.agent_line (heq ▸ hchar)
    · exact run_quotedPattern.mpr ⟨[], rfl, hdelimited.text_line, hdelimited.text⟩
    · intro before char after heq
      cases hrun : quotedPattern.run (char :: (after ++ ' ' :: '"' :: (header.text ++ ['"']))) with
      | none => rfl
      | some text =>
          obtain ⟨rest, hstart, -⟩ := run_quotedPattern.mp hrun
          obtain ⟨hchar, hnext⟩ := List.cons.inj hstart
          cases after with
          | nil => exact absurd (List.cons.inj hnext).1 (by decide)
          | cons second after =>
              rw [hchar, (List.cons.inj hnext).1] at heq
              exact absurd ⟨before, after, by rw [heq]; simp⟩ hdelimited.agent

theorem Warning.create_body_iff (header : Warning) :
    Warning.create header.body = some header ↔ Coded.Delimited header := by
  rw [← run_warningRe_iff]
  constructor
  · intro h
    simp only [Warning.create, Option.bind_eq_bind, Option.bind_eq_some_iff] at h
    obtain ⟨⟨code, agent, text⟩, hrun, number, hnumber, hcreate⟩ := h
    split at hcreate
    next hvalid =>
      obtain rfl := Option.some.inj hcreate
      rw [hrun]
      obtain ⟨agent', rest, -, -, hfound, -⟩ := Pattern.run_bind_shortest.mp (run_warningRe.mp hrun)
      rw [Pattern.run_bind_pure, Option.map_eq_some_iff] at hfound
      obtain ⟨text', -, heq⟩ := hfound
      rw [(Prod.mk.inj heq).1]
    next => cases hcreate
  · intro h
    rw [Warning.create, h]
    show (Configuration.intDigits (Nat.toDigits 10 header.code)).bind _ = some header
    rw [Configuration.intDigits_toDigits]
    exact dif_pos header.code_valid

/-! ### Round trips of all headers -/

namespace Coded

/-- A header round trips exactly if it is a subject, or a warning with a delimited agent and text. -/
theorem roundTrips_iff (header : Coded) : header.RoundTrips ↔ header.Survives := by
  cases header with
  | referTo header =>
      refine ⟨?_, False.elim⟩
      rintro ⟨new, hread, hsame, -⟩
      obtain rfl := Option.some.inj hread
      exact header.create_body_uri hsame.1
  | reason header =>
      refine ⟨?_, False.elim⟩
      rintro ⟨new, hread, hsame, -⟩
      obtain rfl := Option.some.inj hread
      exact header.create_body hsame
  | warning header =>
      constructor
      · rintro ⟨new, hread, hsame, -⟩
        obtain ⟨created, hcreated, rfl⟩ := Option.map_eq_some_iff.mp hread
        obtain rfl : created = header := hsame
        exact created.create_body_iff.mp hcreated
      · intro hdelimited
        have hcreated := header.create_body_iff.mpr hdelimited
        exact ⟨warning header, by rw [read, body, hcreated, Option.map_some], rfl, rfl⟩
  | subject header =>
      have hcreated := header.create_body
      exact ⟨fun _ => trivial, fun _ => ⟨subject header, by rw [read, body, hcreated, Option.map_some], rfl, rfl⟩⟩

/-- The URI of a `Refer-To` header gets brackets that it did not have. -/
theorem refer_to_does_not_round_trip : ¬ ∀ header : Coded, header.RoundTrips := by
  intro h
  obtain ⟨new, hread, hsame, -⟩ := h (referTo ⟨"sip:a@b".toList, Dict.empty⟩)
  obtain rfl := Option.some.inj hread
  exact ReferTo.create_body_uri _ hsame.1

end Coded

end SipSimple.Core.Headers
