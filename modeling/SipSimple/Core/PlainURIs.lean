import SipSimple.Core.AddressGroups

/-!
# Plain URIs

What it is to match what is printed of a URI and no address with other parts, and a kind of URI that does.
-/

namespace SipSimple.Core

open Pattern (groupText)

/-! ### Addresses -/

/-- The parts of a URI that are printed. -/
structure Kept where
  scheme : Bool
  domain : Bool
  parameters : Bool
  headers : Bool

/-- What is printed of a URI with a user. -/
def SIPURI.printed (uri : SIPURI) (user : Str) (kept : Kept) : Option Str := do
  let parameters ← if kept.parameters then formatItems parameterSafe ';' ';' uri.parameters else some []
  let headers ← if kept.headers then formatItems headerSafe '?' '&' uri.headers else some []
  return (if kept.scheme then uri.schemeText else []) ++
    (userText user uri.password ++ ((if kept.domain then '@' :: uri.hostText else []) ++ (parameters ++ headers)))

/-- An address with the parts that it gives, as they are written. -/
structure Address where
  secure : Option Bool
  user : Str
  host : Option Str
  port : Option Nat
  parameters : List (Str × Option Str)
  headers : List (Str × Option Str)

/-- A parameter or header. -/
def itemText : Str × Option Str → Str
  | (name, none) => name
  | (name, some value) => name ++ '=' :: value

/-- The items with the separator between them, if there are any. -/
def itemsText (separator : Char) (items : List (Str × Option Str)) : Option Str :=
  if items = [] then none else some ([separator].intercalate (items.map itemText))

def portDigits (port : Option Nat) : Option Str := port.map (Nat.toDigits 10)

def Address.text (address : Address) : Str :=
  prefixText address.secure ++ (address.user ++ (domainText address.host (portDigits address.port) ++
    tailText (itemsText ';' address.parameters) (itemsText '&' address.headers)))

/-- The parts of the address can be told apart: the user has no `@`, and none of the characters that begin other parts
where there is no host to end it. -/
structure Address.Clear (address : Address) : Prop where
  user_ne : address.user ≠ []
  user_line : '\n' ∉ address.user
  user_tail : ∀ char ∈ address.user.tail, char ≠ '@' ∧ (address.host = none → char ∉ [';', '?'])
  scheme : address.secure = none → NoScheme address.user
  host : ∀ host ∈ address.host, ClearHost host (portDigits address.port) ∧ '@' ∉ host
  port : address.host = none → address.port = none
  parameters : ∀ item ∈ address.parameters, item.1 ≠ [] ∧ ∀ char ∈ itemText item, char ∉ ['\n', '@', ';', '?']
  headers : ∀ item ∈ address.headers, item.1 ≠ [] ∧ ∀ char ∈ itemText item, char ∉ ['\n', '@', '&']

/-- The number of a hexadecimal digit. -/
def hexValue (char : Char) : Nat := if char.isDigit then char.toNat - 48 else char.toLower.toNat - 87

/-- `urllib.unquote` of what an address gives as a value. -/
def unquote : Str → Str
  | '%' :: first :: second :: rest =>
      if first.isHexDigit ∧ second.isHexDigit then
        Char.ofNat (16 * hexValue first + hexValue second) :: unquote rest
      else '%' :: unquote (first :: second :: rest)
  | char :: rest => char :: unquote rest
  | [] => []

/-- The value as a text, where it has one. -/
def Value.given : Value → Str
  | .none => []
  | .str value => value
  | .int value => Configuration.unicodeInt value

/-- One of the items has another value in the dictionary. -/
def DiffersIn (items : List (Str × Option Str)) (dict : Dict) : Prop :=
  ∃ item ∈ items, ∃ value ∈ dict.get item.1, unquote (item.2.getD []) ≠ value.given

/-- The address gives another user, host, port or scheme, or another value of a parameter or header. -/
def Address.Differs (address : Address) (uri : SIPURI) : Prop :=
  (∃ secure ∈ address.secure, secure ≠ uri.secure) ∨ some address.user ≠ uri.user ∨
    (∃ host ∈ address.host, host ≠ uri.host) ∨ (∃ port ∈ address.port, some port ≠ uri.port) ∨
    DiffersIn address.parameters uri.parameters ∨ DiffersIn address.headers uri.headers

/-- Everything that is printed of the URI matches it, and no address with other parts. -/
structure SIPURI.Recognises (uri : SIPURI) (user : Str) : Prop where
  own : ∀ kept, ∃ text, uri.printed user kept = some text ∧ uri.matches text = true
  other : ∀ address : Address, address.Clear → address.Differs uri → uri.matches address.text = false

/-- The URI has a host, and its parameters and headers have names. -/
structure SIPURI.WellFormed (uri : SIPURI) : Prop where
  host : uri.host ≠ [] ∧ ∀ char ∈ uri.host, char ∉ ['\n', '@', ';', '?']
  parameters : ∀ item ∈ uri.parameters.items, item.1 ≠ [] ∧ ∀ char ∈ item.1, char ∉ ['\n', '@', ';', '?', '=']
  headers : ∀ item ∈ uri.headers.items, item.1 ≠ [] ∧ ∀ char ∈ item.1, char ∉ ['\n', '@', '&', '=']

/-- No password, parameters or headers, and a user and host that the expression finds. -/
structure SIPURI.Plain (uri : SIPURI) (user : Str) : Prop where
  password : uri.password = none
  clear : ClearUser user
  scheme : NoScheme user
  host : uri.port = none → ¬ EndsInPort uri.host
  parameters : uri.parameters.items = []
  headers : uri.headers.items = []

/-! ### Plain URIs -/

theorem portDigits_isPort (port : Option Nat) : IsPort (portDigits port) := by
  intro digits hdigits
  obtain ⟨number, -, rfl⟩ := Option.map_eq_some_iff.mp hdigits
  exact ⟨Nat.toDigits_ne_nil, fun _ hchar => Nat.isDigit_of_mem_toDigits (by decide) (by decide) hchar⟩

theorem portDigits_eq_none {port : Option Nat} : portDigits port = none ↔ port = none := Option.map_eq_none_iff

theorem all_portDigits (port own : Option Nat) :
    ((portDigits port).all fun digits => Configuration.intDigits digits == own) = true ↔
      ∀ number ∈ port, some number = own := by
  cases port with
  | none => simp [portDigits]
  | some number => simp [portDigits, Configuration.intDigits_toDigits]

theorem ne_nil_itemText {item : Str × Option Str} (h : item.1 ≠ []) : itemText item ≠ [] := by
  obtain ⟨name, value⟩ := item
  cases value with
  | none => exact h
  | some value => exact List.append_ne_nil_of_left_ne_nil h _

theorem mem_itemsText {separator char : Char} {items : List (Str × Option Str)} {text : Str}
    (htext : itemsText separator items = some text) (hchar : char ∈ text) :
    char = separator ∨ ∃ item ∈ items, char ∈ itemText item := by
  rw [itemsText] at htext
  split at htext
  next => cases htext
  next hne =>
    obtain rfl := Option.some.inj htext
    rcases Pattern.mem_intercalate hchar with heq | ⟨part, hpart, hmem⟩
    · exact Or.inl heq
    · obtain ⟨item, hitem, rfl⟩ := List.mem_map.mp hpart
      exact Or.inr ⟨item, hitem, hmem⟩

theorem isGroup_itemsText {separator : Char} {items : List (Str × Option Str)} (hseparator : separator ≠ '\n')
    (h : ∀ item ∈ items, item.1 ≠ [] ∧ '\n' ∉ itemText item) : IsGroup (itemsText separator items) := by
  intro text htext
  constructor
  · rw [itemsText] at htext
    split at htext
    next => cases htext
    next hne =>
      obtain rfl := Option.some.inj htext
      obtain ⟨item, items, rfl⟩ := List.exists_cons_of_ne_nil hne
      rw [List.map_cons, Pattern.intercalate_cons]
      exact List.append_ne_nil_of_left_ne_nil (ne_nil_itemText (h item List.mem_cons_self).1) _
  · intro hline
    rcases mem_itemsText htext hline with heq | ⟨item, hitem, hmem⟩
    · exact hseparator heq.symm
    · exact (h item hitem).2 hmem

theorem Address.Clear.tail {address : Address} (h : address.Clear) :
    ClearTail address.host (portDigits address.port) (itemsText ';' address.parameters)
      (itemsText '&' address.headers) where
  host host hhost := (h.host host hhost).1
  digits := portDigits_isPort _
  hostless hnone := portDigits_eq_none.mpr (h.port hnone)
  parameter := by
    refine ⟨isGroup_itemsText (by decide) fun item hitem => ?_, fun text htext hmark => ?_⟩
    · exact ⟨(h.parameters item hitem).1, fun hmem => absurd ((h.parameters item hitem).2 _ hmem) (by decide)⟩
    · rcases mem_itemsText htext hmark with heq | ⟨item, hitem, hmem⟩
      · exact absurd heq (by decide)
      · exact absurd ((h.parameters item hitem).2 _ hmem) (by decide)
  header := isGroup_itemsText (by decide) fun item hitem =>
    ⟨(h.headers item hitem).1, fun hmem => absurd ((h.headers item hitem).2 _ hmem) (by decide)⟩

/-- A dictionary with items is given by any text. -/
theorem readPairs_ne_nil (separator : Char) (text : Str) : (readPairs separator text).items ≠ [] := by
  have hset : ∀ (dict : Dict) name value, (dict.set name value).items ≠ [] := fun dict name value =>
    List.append_ne_nil_of_right_ne_nil _ (List.cons_ne_nil _ _)
  have hfold : ∀ (parts : List Str) (dict : Dict), dict.items ≠ [] ∨ parts ≠ [] →
      (parts.foldl (fun dict part => dict.set (partition '=' part).1 (.str (partition '=' part).2)) dict).items ≠ [] := by
    intro parts
    induction parts with
    | nil => exact fun dict h => h.resolve_right fun h => h rfl
    | cons part parts ih => exact fun dict _ => ih _ (Or.inl (hset _ _ _))
  exact hfold _ _ (Or.inr (List.splitOn_ne_nil _ _))

/-- Without own items nothing may be given. -/
theorem none_of_agrees {separator : Char} {own : Dict} {group : Option Str} (hown : own.items = [])
    (h : agrees separator own group = true) : group = none := by
  cases group with
  | none => rfl
  | some text =>
      have hsame := Dict.eq_iff.mp h
      have hexpected : (expectedItems own (readPairs separator text)).items = [] := by
        show List.map _ (List.filter _ own.items) = []
        rw [hown]
        rfl
      obtain ⟨item, items, hitems⟩ := List.exists_cons_of_ne_nil (readPairs_ne_nil separator text)
      have hget : (readPairs separator text).get item.1 = some item.2 :=
        Dict.mem_items_iff.mp (by rw [hitems]; exact List.mem_cons_self)
      rw [hsame, Dict.get, hexpected] at hget
      cases hget

/-- The groups that are found agree with the URI. -/
structure SIPURI.Accepts (uri : SIPURI) (components : Components) : Prop where
  scheme : ∀ scheme ∈ components.scheme, scheme = schemeOf uri.secure
  username : some components.username = uri.user
  domain : ∀ host ∈ components.domain, host = uri.host
  port : ∀ digits ∈ components.port, Configuration.intDigits digits = uri.port
  parameters : agrees ';' uri.parameters components.parameters = true
  headers : agrees '&' uri.headers components.headers = true

theorem all_eq_iff {group : Option Str} {p : Str → Bool} : group.all p = true ↔ ∀ text ∈ group, p text = true := by
  cases group with
  | none => simp
  | some text => simp

theorem SIPURI.matches_iff {uri : SIPURI} {address : Str} :
    uri.matches address = true ↔ ∃ components, matchRe.run address = some components ∧ uri.Accepts components := by
  rw [SIPURI.matches]
  cases matchRe.run address with
  | none => simp
  | some components =>
      simp only [Bool.and_eq_true, all_eq_iff, beq_iff_eq, Option.some.injEq, exists_eq_left']
      constructor
      · rintro ⟨⟨⟨⟨⟨hscheme, husername⟩, hdomain⟩, hport⟩, hparameters⟩, hheaders⟩
        exact ⟨hscheme, husername, hdomain, hport, hparameters, hheaders⟩
      · intro h
        exact ⟨⟨⟨⟨⟨h.scheme, h.username⟩, h.domain⟩, h.port⟩, h.parameters⟩, h.headers⟩

theorem SIPURI.matches_of_run {uri : SIPURI} {address : Str} {components : Components}
    (hrun : matchRe.run address = some components) : uri.matches address = true ↔ uri.Accepts components := by
  rw [SIPURI.matches_iff, hrun]
  simp

theorem SIPURI.schemeText_eq (uri : SIPURI) : uri.schemeText = prefixText (some uri.secure) := by
  rw [SIPURI.schemeText]
  cases uri.secure <;> rfl

theorem SIPURI.hostText_eq (uri : SIPURI) : '@' :: uri.hostText = domainText (some uri.host) (portDigits uri.port) := by
  rw [domainText_some, SIPURI.hostText]
  cases uri.port <;> rfl

/-- What is printed of a URI without parameters and headers. -/
theorem SIPURI.printed_eq {uri : SIPURI} (user : Str) (hparameters : uri.parameters.items = [])
    (hheaders : uri.headers.items = []) (kept : Kept) :
    uri.printed user kept = some (prefixText (if kept.scheme then some uri.secure else none) ++
      (userText user uri.password ++ (domainText (if kept.domain then some uri.host else none)
        (if kept.domain then portDigits uri.port else none) ++ tailText none none))) := by
  have hparameters : formatItems parameterSafe ';' ';' uri.parameters = some [] := by
    rw [formatItems, hparameters]
    rfl
  have hheaders : formatItems headerSafe '?' '&' uri.headers = some [] := by
    rw [formatItems, hheaders]
    rfl
  rw [SIPURI.printed, hparameters, hheaders, uri.schemeText_eq, uri.hostText_eq]
  obtain ⟨scheme, domain, parameters, headers⟩ := kept
  cases scheme <;> cases domain <;> cases parameters <;> cases headers <;> rfl

theorem SIPURI.WellFormed.clearHost {uri : SIPURI} (h : uri.WellFormed)
    (hends : uri.port = none → ¬ EndsInPort uri.host) : ClearHost uri.host (portDigits uri.port) where
  ne_nil := h.host.1
  chars char hchar := by
    have hfree := h.host.2 char hchar
    simp only [List.mem_cons, List.not_mem_nil, or_false, not_or] at hfree ⊢
    exact ⟨hfree.1, hfree.2.2⟩
  ends hnone := hends (portDigits_eq_none.mp hnone)

/-- What is printed of a plain URI matches it. -/
theorem SIPURI.Plain.own {uri : SIPURI} {user : Str} (h : uri.Plain user) (hwell : uri.WellFormed)
    (huser : uri.user = some user) (kept : Kept) :
    ∃ text, uri.printed user kept = some text ∧ uri.matches text = true := by
  refine ⟨_, uri.printed_eq user h.parameters h.headers kept, ?_⟩
  have hgroup : IsGroup none := fun _ h => (nomatch h)
  have htail : ClearTail (if kept.domain then some uri.host else none) (if kept.domain then portDigits uri.port else none)
      none none := by
    cases kept.domain with
    | false => exact ⟨fun _ h => (nomatch h), fun _ h => (nomatch h), fun _ => rfl, ⟨hgroup, fun _ h => (nomatch h)⟩,
        hgroup⟩
    | true => exact ⟨fun host hhost => Option.some.inj hhost ▸ hwell.clearHost h.host, portDigits_isPort _,
        fun h => absurd h (Option.some_ne_none _), ⟨hgroup, fun _ h => (nomatch h)⟩, hgroup⟩
  have hpassword : userText user uri.password = user := by
    rw [h.password]
    exact List.append_nil user
  rw [hpassword, SIPURI.matches_of_run (run_matchRe (fun _ => h.scheme) h.clear htail)]
  refine ⟨?_, huser.symm, ?_, ?_, rfl, rfl⟩
  · intro scheme hscheme
    cases hkept : kept.scheme with
    | false => simp [hkept] at hscheme
    | true => simpa [hkept, eq_comm] using hscheme
  · intro host hhost
    cases hkept : kept.domain with
    | false => simp [hkept] at hhost
    | true => simpa [hkept, eq_comm] using hhost
  · intro digits hdigits
    cases hkept : kept.domain with
    | false => simp [hkept] at hdigits
    | true =>
        have hall := (all_portDigits uri.port uri.port).mpr fun number hnumber => hnumber.symm
        simp only [hkept, if_true] at hdigits
        exact beq_iff_eq.mp (all_eq_iff.mp hall digits hdigits)

/-- A text is divided in one way at the first `@` after its first character. -/
theorem append_at_inj {user other rest after : Str} (h : user ++ '@' :: rest = other ++ '@' :: after)
    (huser : user ≠ [] ∧ '@' ∉ user.tail) (hother : other ≠ [] ∧ '@' ∉ other.tail) : user = other := by
  obtain ⟨first, user, rfl⟩ := List.exists_cons_of_ne_nil huser.1
  obtain ⟨first', other, rfl⟩ := List.exists_cons_of_ne_nil hother.1
  rw [List.cons_append, List.cons_append, List.cons.injEq] at h
  have hfree : ∀ {text : Str}, '@' ∉ text → ∀ char ∈ text, decide (char ≠ '@') = true := by
    intro text htext char hchar
    simpa using fun heq : char = '@' => htext (heq ▸ hchar)
  have hstart : ∀ {text : Str}, ∀ char ∈ ('@' :: text).head?, decide (char ≠ '@') = false := by
    intro text char hchar
    rw [← Option.some.inj hchar]
    rfl
  obtain ⟨rfl, -⟩ := Pattern.append_inj_of_longest h.2 (hfree huser.2) (hfree hother.2) hstart hstart
  rw [h.1]

theorem Address.Clear.line {address : Address} (h : address.Clear) : '\n' ∉ address.text := by
  have hhost : '\n' ∉ domainText address.host (portDigits address.port) := by
    intro hmem
    cases hgiven : address.host with
    | none =>
        rw [hgiven] at hmem
        cases hmem
    | some host =>
        rw [hgiven, domainText_some, List.mem_cons, List.mem_append] at hmem
        rcases hmem with heq | hmem | hmem
        · exact absurd heq (by decide)
        · exact ((h.host host hgiven).1.chars _ hmem).1 rfl
        · cases hport : portDigits address.port with
          | none =>
              rw [hport] at hmem
              cases hmem
          | some digits =>
              rw [hport, groupText, List.mem_cons] at hmem
              rcases hmem with heq | hmem
              · exact absurd heq (by decide)
              · exact line_digits (portDigits_isPort _ digits hport).2 hmem
  have hstarts : '\n' ∉ prefixText address.secure := by
    cases address.secure with
    | none => exact List.not_mem_nil
    | some secure => cases secure <;> decide
  simp only [Address.text, List.mem_append, not_or]
  exact ⟨hstarts, h.user_line, hhost, line_tailText h.tail.parameter.1 h.tail.header⟩

/-- A clear address with a host that a plain URI accepts has its user. -/
theorem Address.Clear.user_of_accepts {address : Address} (h : address.Clear) {uri : SIPURI} {user : Str}
    (hplain : uri.Plain user) (huser : uri.user = some user) {components : Components}
    (hrun : matchRe.run address.text = some components) (haccepts : uri.Accepts components) :
    address.user = user := by
  cases hhost : address.host with
  | none =>
      have hclear : ClearUser address.user := ⟨h.user_ne, h.user_line, fun char hchar => by
        have hfree := h.user_tail char hchar
        have hmarks := hfree.2 hhost
        simp only [List.mem_cons, List.not_mem_nil, or_false, not_or] at hmarks ⊢
        exact ⟨hfree.1, hmarks⟩⟩
      have hfound := run_matchRe h.scheme hclear h.tail
      rw [show matchRe.run address.text = _ from hfound] at hrun
      have husername := haccepts.username
      rw [← Option.some.inj hrun, huser] at husername
      exact Option.some.inj husername
  | some host =>
      have hparameters := none_of_agrees hplain.parameters haccepts.parameters
      have hheaders := none_of_agrees hplain.headers haccepts.headers
      have husername : components.username = user := Option.some.inj (haccepts.username.trans huser)
      have hat : ∀ {scheme : Option Str} {rest : Str}, (components, rest) ∈ afterScheme scheme
          (address.user ++ (domainText address.host (portDigits address.port) ++
            tailText (itemsText ';' address.parameters) (itemsText '&' address.headers))) → address.user = user := by
        intro scheme rest hmem
        obtain ⟨-, htext, -, -⟩ := mem_afterScheme.mp hmem
        rw [hhost, domainText_some, Components.text, husername, hparameters, hheaders, List.cons_append] at htext
        have hown : '@' ∉ address.user.tail := fun hmem => (h.user_tail _ hmem).1 rfl
        have hplainAt : '@' ∉ user.tail := fun hmem => absurd (hplain.clear.tail _ hmem) (by decide)
        cases hdomain : components.domain with
        | none =>
            obtain ⟨-, -, -, hrest⟩ := mem_afterScheme.mp hmem
            obtain ⟨first, name, hname⟩ := List.exists_cons_of_ne_nil h.user_ne
            have hmark : '@' ∈ (user ++ rest).tail := by
              have htail : (user ++ rest) = address.user ++ '@' :: (host ++ groupText ':' (portDigits address.port) ++
                  tailText (itemsText ';' address.parameters) (itemsText '&' address.headers)) := by
                rw [htext, hdomain]
                simp [domainText, groupText]
              rw [htail, hname]
              simp
            obtain ⟨first', name', hname'⟩ := List.exists_cons_of_ne_nil hplain.clear.ne_nil
            rw [hname', List.cons_append, List.tail_cons, List.mem_append] at hmark
            rw [hname', List.tail_cons] at hplainAt
            rcases hmark with hmark | hmark
            · exact absurd hmark hplainAt
            · rcases hrest with rfl | rfl <;> simp at hmark
        | some domain =>
            rw [hdomain, domainText_some, List.append_assoc, List.append_assoc, List.cons_append] at htext
            exact append_at_inj htext ⟨h.user_ne, hown⟩ ⟨hplain.clear.ne_nil, hplainAt⟩
      cases hsecure : address.secure with
      | none =>
          have htext : address.text = address.user ++ (domainText address.host (portDigits address.port) ++
              tailText (itemsText ';' address.parameters) (itemsText '&' address.headers)) := by
            rw [Address.text, hsecure]
            rfl
          rw [htext, run_matchRe_of_no_scheme] at hrun
          · obtain ⟨rest, hmem⟩ := Pattern.mem_of_run hrun
            exact hat hmem
          · intro secure rest heq
            obtain ⟨after, hafter⟩ := scheme_of_append (begins_domainText _ _ _ _) heq
            exact h.scheme hsecure secure after hafter
      | some secure =>
          have htext : address.text = schemeOf secure ++ ':' :: (address.user ++
              (domainText address.host (portDigits address.port) ++
                tailText (itemsText ';' address.parameters) (itemsText '&' address.headers))) := by
            rw [Address.text, hsecure, prefixText, List.append_assoc, List.singleton_append]
          have hline := h.line
          rw [htext] at hrun hline
          rw [run_matchRe_of_scheme] at hrun
          have hsome : (afterScheme (some (schemeOf secure))).run (address.user ++
              (domainText address.host (portDigits address.port) ++
                tailText (itemsText ';' address.parameters) (itemsText '&' address.headers))) ≠ none := by
            refine run_afterScheme_ne_none (List.append_ne_nil_of_left_ne_nil h.user_ne _) fun hmem => hline ?_
            exact List.mem_append_right _ (List.mem_cons_of_mem _ hmem)
          obtain ⟨found, hfound⟩ := Option.ne_none_iff_exists'.mp hsome
          rw [hfound, Option.some_or] at hrun
          obtain ⟨rest, hmem⟩ := Pattern.mem_of_run hfound
          rw [Option.some.inj hrun] at hmem
          exact hat hmem

/-- A plain URI matches no clear address with other parts. -/
theorem SIPURI.Plain.other {uri : SIPURI} {user : Str} (h : uri.Plain user) (huser : uri.user = some user)
    {address : Address} (hclear : address.Clear) (hdiffers : address.Differs uri) :
    uri.matches address.text = false := by
  rw [← Bool.not_eq_true]
  intro hmatches
  obtain ⟨components, hrun, haccepts⟩ := SIPURI.matches_iff.mp hmatches
  have hname := hclear.user_of_accepts h huser hrun haccepts
  have hfound := run_matchRe hclear.scheme (hname.symm ▸ h.clear) hclear.tail
  rw [show matchRe.run address.text = _ from hfound] at hrun
  obtain rfl := Option.some.inj hrun
  rcases hdiffers with ⟨secure, hsecure, hne⟩ | hne | ⟨host, hhost, hne⟩ | ⟨port, hport, hne⟩ | hitems | hitems
  · have hscheme := haccepts.scheme (schemeOf secure) (by rw [hsecure]; rfl)
    cases secure <;> cases hown : uri.secure <;> rw [hown] at hne hscheme
    · exact hne rfl
    · exact absurd hscheme (by decide)
    · exact absurd hscheme (by decide)
    · exact hne rfl
  · exact hne haccepts.username
  · exact hne (haccepts.domain host hhost)
  · have hall : ((portDigits address.port).all fun digits => Configuration.intDigits digits == uri.port) = true :=
      all_eq_iff.mpr fun digits hdigits => beq_iff_eq.mpr (haccepts.port digits hdigits)
    exact hne ((all_portDigits _ _).mp hall port hport)
  · obtain ⟨item, -, value, hvalue, -⟩ := hitems
    rw [Dict.get, h.parameters] at hvalue
    cases hvalue
  · obtain ⟨item, -, value, hvalue, -⟩ := hitems
    rw [Dict.get, h.headers] at hvalue
    cases hvalue

end SipSimple.Core
