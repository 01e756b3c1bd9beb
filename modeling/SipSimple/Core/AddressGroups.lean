import SipSimple.Configuration.SaveReload
import SipSimple.Core.SIPURIMatching

/-!
# The groups of an address

Which groups the regular expression of `BaseSIPURI.matches` finds. The groups of a match together are the address; which
of the ways to divide it is taken follows from the order in which the expression tries them.
-/

namespace SipSimple.Core

open Pattern (groupText)

/-! ### Matches -/

/-- At most the end of the line is left. -/
def AtEnd (rest : Str) : Prop := rest = [] ∨ rest = ['\n']

/-- A group is one or more characters of the line. -/
def IsGroup (group : Option Str) : Prop := ∀ text ∈ group, text ≠ [] ∧ '\n' ∉ text

def IsPort (group : Option Str) : Prop := ∀ digits ∈ group, digits ≠ [] ∧ ∀ char ∈ digits, char.isDigit = true

theorem forall_isDot {text : Str} : (∀ char ∈ text, isDot char = true) ↔ '\n' ∉ text := by
  constructor
  · intro h hmem
    exact absurd (h '\n' hmem) (by decide)
  · intro h char hchar
    simpa [isDot] using fun heq : char = '\n' => h (heq ▸ hchar)

/-- An optional group of such characters, with a character before it. -/
theorem mem_optional_text {start : Char} {isText : Char → Bool} {group : Option Str} {text rest : Str} :
    (group, rest) ∈ Pattern.optional (do Pattern.literal [start]; Pattern.shortestOne isText) text ↔
      text = groupText start group ++ rest ∧
        ∀ given ∈ group, given ≠ [] ∧ ∀ char ∈ given, isText char = true := by
  simp only [Pattern.mem_optional, Pattern.mem_bind, Pattern.mem_literal, Pattern.mem_shortestOne]
  constructor
  · rintro (⟨given, rfl, -, after, rfl, rfl, hgiven⟩ | ⟨rfl, rfl⟩)
    · exact ⟨rfl, fun other hother => Option.some.inj hother ▸ hgiven⟩
    · exact ⟨rfl, fun _ h => absurd h (Option.not_mem_none _)⟩
  · rintro ⟨rfl, hgroup⟩
    cases group with
    | none => exact Or.inr ⟨rfl, rfl⟩
    | some given => exact Or.inl ⟨given, rfl, (), given ++ rest, rfl, rfl, hgroup given rfl⟩

theorem mem_optional_group {start : Char} {group : Option Str} {text rest : Str} :
    (group, rest) ∈ Pattern.optional (do Pattern.literal [start]; Pattern.shortestOne isDot) text ↔
      text = groupText start group ++ rest ∧ IsGroup group := by
  simp only [mem_optional_text, forall_isDot, IsGroup]

theorem mem_optional_portRe {group : Option Str} {text rest : Str} :
    (group, rest) ∈ Pattern.optional portRe text ↔ text = groupText ':' group ++ rest ∧ IsPort group :=
  mem_optional_text

theorem mem_headersTail {components found : Components} {text rest : Str} :
    (found, rest) ∈ headersTail components text ↔ ∃ headers, found = { components with headers := headers } ∧
      text = groupText '?' headers ++ rest ∧ IsGroup headers ∧ AtEnd rest := by
  simp only [headersTail, headersRe, Pattern.mem_bind, mem_optional_group, Pattern.mem_atEnd, Pattern.mem_pure,
    Prod.mk.injEq]
  constructor
  · rintro ⟨headers, after, ⟨rfl, hheaders⟩, -, rest, ⟨rfl, hrest⟩, rfl, rfl⟩
    exact ⟨headers, rfl, rfl, hheaders, hrest⟩
  · rintro ⟨headers, rfl, rfl, hheaders, hrest⟩
    exact ⟨headers, rest, ⟨rfl, hheaders⟩, (), rest, ⟨rfl, hrest⟩, rfl, rfl⟩

theorem mem_parametersTail {components found : Components} {text rest : Str} :
    (found, rest) ∈ parametersTail components text ↔ ∃ parameters headers,
      found = { components with parameters := parameters, headers := headers } ∧
      text = groupText ';' parameters ++ (groupText '?' headers ++ rest) ∧ IsGroup parameters ∧ IsGroup headers ∧
      AtEnd rest := by
  simp only [parametersTail, parametersRe, Pattern.mem_bind, mem_optional_group, mem_headersTail]
  constructor
  · rintro ⟨parameters, after, ⟨rfl, hparameters⟩, headers, rfl, rfl, hheaders, hrest⟩
    exact ⟨parameters, headers, rfl, rfl, hparameters, hheaders, hrest⟩
  · rintro ⟨parameters, headers, rfl, rfl, hparameters, hheaders, hrest⟩
    exact ⟨parameters, _, ⟨rfl, hparameters⟩, headers, rfl, rfl, hheaders, hrest⟩

/-- The text of a domain group with its port. -/
def domainText (domain port : Option Str) : Str := groupText '@' (domain.map fun host => host ++ groupText ':' port)

theorem mem_usernameTail {scheme : Option Str} {username text rest : Str} {found : Components} :
    (found, rest) ∈ usernameTail ⟨scheme, username, none, none, none, none⟩ text ↔
      ∃ domain port parameters headers, found = ⟨scheme, username, domain, port, parameters, headers⟩ ∧
      text = domainText domain port ++ (groupText ';' parameters ++ (groupText '?' headers ++ rest)) ∧
      IsGroup domain ∧ IsPort port ∧ (domain = none → port = none) ∧ IsGroup parameters ∧ IsGroup headers ∧
      AtEnd rest := by
  simp only [usernameTail, Pattern.mem_bind, Pattern.mem_optional, Pattern.mem_literal]
  constructor
  · rintro ⟨value, after, ⟨given, rfl, rfl⟩ | ⟨rfl, rfl⟩, hmem⟩
    · simp only [domainTail, Pattern.mem_bind, Pattern.mem_shortestOne, forall_isDot, mem_optional_portRe,
        mem_parametersTail] at hmem
      obtain ⟨host, after, ⟨rfl, hhost⟩, port, after, ⟨rfl, hport⟩, parameters, headers, rfl, rfl, hparameters, hheaders,
        hrest⟩ := hmem
      refine ⟨some host, port, parameters, headers, rfl, by simp [domainText, groupText], ?_, hport, ?_, hparameters,
        hheaders, hrest⟩
      · exact fun other hother => Option.some.inj hother ▸ hhost
      · exact fun hnone => absurd hnone (Option.some_ne_none _)
    · obtain ⟨parameters, headers, rfl, rfl, hparameters, hheaders, hrest⟩ := mem_parametersTail.mp hmem
      exact ⟨none, none, parameters, headers, rfl, rfl, fun _ h => absurd h (Option.not_mem_none _), fun _ h => absurd h (Option.not_mem_none _), fun _ => rfl,
        hparameters, hheaders, hrest⟩
  · rintro ⟨domain, port, parameters, headers, rfl, rfl, hgroup, hdigits, hnone, hparameters, hheaders, hrest⟩
    cases domain with
    | none =>
        obtain rfl := hnone rfl
        exact ⟨none, _, Or.inr ⟨rfl, rfl⟩, mem_parametersTail.mpr ⟨parameters, headers, rfl, rfl, hparameters, hheaders,
          hrest⟩⟩
    | some host =>
        refine ⟨some (), host ++ (groupText ':' port ++ (groupText ';' parameters ++ (groupText '?' headers ++ rest))),
          Or.inl ⟨(), rfl, by simp [domainText, groupText]⟩, ?_⟩
        simp only [domainTail, Pattern.mem_bind, Pattern.mem_shortestOne, forall_isDot, mem_optional_portRe,
          mem_parametersTail]
        exact ⟨host, _, ⟨rfl, hgroup host rfl⟩, port, _, ⟨rfl, hdigits⟩, parameters, headers, rfl, rfl, hparameters,
          hheaders, hrest⟩

/-- The two schemes. -/
def schemeOf (secure : Bool) : Str := if secure then "sips".toList else "sip".toList

theorem schemeOf_eq (secure : Bool) : schemeOf secure = 's' :: 'i' :: 'p' :: if secure then ['s'] else [] := by
  cases secure <;> rfl

theorem mem_schemePattern {scheme text rest : Str} :
    (scheme, rest) ∈ schemePattern text ↔ ∃ secure, scheme = schemeOf secure ∧ text = scheme ++ ':' :: rest := by
  simp only [schemePattern, Pattern.mem_bind, Pattern.mem_orElse, Pattern.mem_literal, Pattern.mem_pure,
    Prod.mk.injEq]
  constructor
  · rintro ⟨-, after, ⟨-, remaining, htext, rfl, rfl⟩ | ⟨-, remaining, htext, rfl, rfl⟩, -, last, rfl, rfl, rfl⟩
    · exact ⟨false, rfl, htext⟩
    · exact ⟨true, rfl, htext⟩
  · rintro ⟨secure, rfl, rfl⟩
    cases secure with
    | false => exact ⟨_, _, Or.inl ⟨(), _, rfl, rfl, rfl⟩, (), rest, rfl, rfl, rfl⟩
    | true => exact ⟨_, _, Or.inr ⟨(), _, rfl, rfl, rfl⟩, (), rest, rfl, rfl, rfl⟩

/-- What is matched after the scheme. -/
def afterScheme (scheme : Option Str) : Pattern Components := do
  let username ← Pattern.shortestOne isDot
  usernameTail ⟨scheme, username, none, none, none, none⟩

theorem matchRe_eq : matchRe = Pattern.optional schemePattern >>= afterScheme := rfl

/-- The whole address that the groups are found in. -/
def Components.text (components : Components) : Str :=
  components.username ++ (domainText components.domain components.port ++
    (groupText ';' components.parameters ++ groupText '?' components.headers))

/-- What the groups of a match are. -/
structure Components.Valid (components : Components) : Prop where
  username : components.username ≠ [] ∧ '\n' ∉ components.username
  domain : IsGroup components.domain
  port : IsPort components.port
  port_domain : components.domain = none → components.port = none
  parameters : IsGroup components.parameters
  headers : IsGroup components.headers

theorem mem_afterScheme {scheme : Option Str} {text rest : Str} {found : Components} :
    (found, rest) ∈ afterScheme scheme text ↔
      found.scheme = scheme ∧ text = found.text ++ rest ∧ found.Valid ∧ AtEnd rest := by
  simp only [afterScheme, Pattern.mem_bind, Pattern.mem_shortestOne, forall_isDot, mem_usernameTail]
  constructor
  · rintro ⟨username, after, ⟨rfl, husername⟩, domain, port, parameters, headers, rfl, rfl, hdomain, hport, hnone,
      hparameters, hheaders, hrest⟩
    exact ⟨rfl, by simp [Components.text], ⟨husername, hdomain, hport, hnone, hparameters, hheaders⟩, hrest⟩
  · rintro ⟨rfl, rfl, hvalid, hrest⟩
    exact ⟨found.username, _, ⟨by rw [Components.text, List.append_assoc], hvalid.username⟩, found.domain, found.port,
      found.parameters, found.headers, rfl, by simp, hvalid.domain, hvalid.port, hvalid.port_domain, hvalid.parameters,
      hvalid.headers, hrest⟩

/-! ### Schemes -/

/-- The scheme of the text, if it begins with one. -/
theorem schemePattern_eq (secure : Bool) (rest : Str) :
    schemePattern (schemeOf secure ++ ':' :: rest) = [(schemeOf secure, rest)] := by
  cases secure with
  | false => rfl
  | true => rfl

theorem schemePattern_eq_nil {text : Str} (h : ∀ secure rest, text ≠ schemeOf secure ++ ':' :: rest) :
    schemePattern text = [] := by
  rw [List.eq_nil_iff_forall_not_mem]
  rintro ⟨scheme, rest⟩ hmem
  obtain ⟨secure, rfl, htext⟩ := mem_schemePattern.mp hmem
  exact h secure rest htext

theorem run_matchRe_of_scheme (secure : Bool) (text : Str) : matchRe.run (schemeOf secure ++ ':' :: text) =
    ((afterScheme (some (schemeOf secure))).run text).or
      ((afterScheme none).run (schemeOf secure ++ ':' :: text)) := by
  rw [matchRe_eq, Pattern.run_bind_optional, Pattern.run_bind_of_single (schemePattern_eq secure text)]

theorem run_matchRe_of_no_scheme {text : Str} (h : ∀ secure rest, text ≠ schemeOf secure ++ ':' :: rest) :
    matchRe.run text = (afterScheme none).run text := by
  rw [matchRe_eq, Pattern.run_bind_optional]
  have hnone : (schemePattern >>= fun scheme => afterScheme (some scheme)).run text = none :=
    Pattern.run_bind_eq_none fun scheme rest hmem => by
      rw [schemePattern_eq_nil h] at hmem
      cases hmem
  rw [hnone, Option.none_or]

/-- A text of one line is always divided somehow. -/
theorem run_afterScheme_ne_none {scheme : Option Str} {text : Str} (hne : text ≠ []) (hline : '\n' ∉ text) :
    (afterScheme scheme).run text ≠ none := by
  intro hnone
  refine Pattern.run_eq_none.mp hnone ⟨scheme, text, none, none, none, none⟩ [] (mem_afterScheme.mpr ?_)
  exact ⟨rfl, by simp [Components.text, domainText, groupText], ⟨⟨hne, hline⟩, fun _ h => absurd h (Option.not_mem_none _),
    fun _ h => absurd h (Option.not_mem_none _), fun _ => rfl, fun _ h => absurd h (Option.not_mem_none _), fun _ h => absurd h (Option.not_mem_none _)⟩, Or.inl rfl⟩

/-! ### The groups that are taken -/

/-- The rest begins with one of the characters, or there is none. -/
def Begins (starts : List Char) (rest : Str) : Prop := ∀ char ∈ rest.head?, char ∈ starts

theorem begins_groupText {start : Char} {starts : List Char} (group : Option Str) {rest : Str}
    (h : Begins starts rest) : Begins (start :: starts) (groupText start group ++ rest) := by
  intro char hchar
  cases group with
  | none => exact List.mem_cons_of_mem _ (h char hchar)
  | some text => exact (Option.some.inj hchar) ▸ List.mem_cons_self

theorem IsGroup.accepted {group : Option Str} (h : IsGroup group) :
    ∀ text ∈ group, text ≠ [] ∧ ∀ char ∈ text, isDot char = true :=
  fun text htext => ⟨(h text htext).1, forall_isDot.mpr (h text htext).2⟩

theorem run_headersTail (components : Components) {headers : Option Str} (h : IsGroup headers) :
    (headersTail components).run (groupText '?' headers) = some { components with headers := headers } := by
  refine Pattern.run_of_unique (mem_headersTail.mpr ⟨headers, rfl, (List.append_nil _).symm, h, Or.inl rfl⟩) ?_
  intro other rest hmem
  obtain ⟨headers', rfl, htext, hheaders', hrest⟩ := mem_headersTail.mp hmem
  cases headers with
  | none =>
      cases headers' with
      | none => rfl
      | some text' => cases htext
  | some text =>
      cases headers' with
      | none => rcases hrest with rfl | rfl <;> cases htext
      | some text' =>
          rcases hrest with rfl | rfl
          · rw [List.append_nil] at htext
            rw [(List.cons.inj htext).2]
          · have hline := (h text rfl).2
            rw [(List.cons.inj htext).2] at hline
            simp at hline

theorem run_headersTail_of_begins {components : Components} {char : Char} {text : Str} (hchar : char ≠ '?')
    (hline : '\n' ∉ char :: text) : (headersTail components).run (char :: text) = none := by
  rw [Pattern.run_eq_none]
  intro found rest hmem
  obtain ⟨headers, -, htext, -, hrest⟩ := mem_headersTail.mp hmem
  cases headers with
  | none =>
      rcases hrest with rfl | rfl
      · simp [groupText] at htext
      · simp [groupText] at htext
        simp [htext] at hline
  | some given => exact hchar (List.cons.inj htext).1

theorem run_parametersTail_of_begins {components : Components} {char : Char} {text : Str}
    (hchar : char ∉ [';', '?']) (hline : '\n' ∉ char :: text) :
    (parametersTail components).run (char :: text) = none := by
  rw [Pattern.run_eq_none]
  intro found rest hmem
  obtain ⟨parameters, headers, -, htext, -, -, hrest⟩ := mem_parametersTail.mp hmem
  cases parameters with
  | none =>
      cases headers with
      | none =>
      rcases hrest with rfl | rfl
      · simp [groupText] at htext
      · simp [groupText] at htext
        simp [htext] at hline
      | some given => exact hchar (by rw [(List.cons.inj htext).1]; simp)
  | some given => exact hchar (by rw [(List.cons.inj htext).1]; simp)

/-- Parameters without a question mark are found up to the headers. -/
theorem run_parametersTail (components : Components) {parameters headers : Option Str} (hparameters : IsGroup parameters)
    (hheaders : IsGroup headers) (hmark : ∀ text ∈ parameters, '?' ∉ text) :
    (parametersTail components).run (groupText ';' parameters ++ groupText '?' headers) =
      some { components with parameters := parameters, headers := headers } := by
  have htail := run_headersTail { components with parameters := parameters } hheaders
  rw [parametersTail, parametersRe, Pattern.run_bind_optional_group hparameters.accepted ?_ ?_ ?_, htail]
  · intro hnone
    cases headers with
    | none => exact Option.some_ne_none _ ∘ Eq.symm
    | some text => exact fun h => absurd (Option.some.inj h) (by decide)
  · rw [htail]
    exact Option.some_ne_none _
  · intro text htext before char after heq _
    apply run_headersTail_of_begins
    · intro hchar
      exact hmark text htext (by rw [heq, hchar]; simp)
    · have hline := (hparameters text htext).2
      rw [heq] at hline
      intro hmem
      rw [← List.cons_append, List.mem_append] at hmem
      rcases hmem with hmem | hmem
      · exact hline (List.mem_append_right _ hmem)
      · cases headers with
        | none => cases hmem
        | some given =>
            rcases List.mem_cons.mp hmem with heq | hmem
            · exact absurd heq (by decide)
            · exact (hheaders given rfl).2 hmem

/-- What follows the host. -/
def portTail (components : Components) : Pattern Components := do
  let port ← Pattern.optional portRe
  parametersTail { components with port := port }

/-- The host ends like a host that is followed by a port. -/
def EndsInPort (host : Str) : Prop :=
  ∃ before digits, host = before ++ ':' :: digits ∧ before ≠ [] ∧ digits ≠ [] ∧ ∀ char ∈ digits, char.isDigit = true

/-- The text of the parameters and the headers. -/
def tailText (parameters headers : Option Str) : Str := groupText ';' parameters ++ groupText '?' headers

theorem begins_tailText (parameters headers : Option Str) : Begins [';', '?'] (tailText parameters headers) := by
  have hempty : Begins [] ([] : Str) := fun _ h => absurd h (Option.not_mem_none _)
  have hheaders : Begins ['?'] (groupText '?' headers ++ []) := begins_groupText headers hempty
  rw [List.append_nil] at hheaders
  exact begins_groupText parameters hheaders

theorem Begins.head?_ne {starts : List Char} {rest : Str} (h : Begins starts rest) {char : Char}
    (hchar : char ∉ starts) : rest.head? ≠ some char := fun heq => hchar (h char heq)

theorem line_tailText {parameters headers : Option Str} (hparameters : IsGroup parameters)
    (hheaders : IsGroup headers) : '\n' ∉ tailText parameters headers := by
  have hgroup : ∀ {start : Char} {group : Option Str}, start ≠ '\n' → IsGroup group → '\n' ∉ groupText start group := by
    intro start group hstart h hmem
    cases group with
    | none => cases hmem
    | some text =>
        rcases List.mem_cons.mp hmem with heq | hmem
        · exact hstart heq.symm
        · exact (h text rfl).2 hmem
  intro hmem
  rcases List.mem_append.mp hmem with hmem | hmem
  · exact hgroup (by decide) hparameters hmem
  · exact hgroup (by decide) hheaders hmem

theorem digit_facts {char : Char} (h : char.isDigit = true) : char ≠ '\n' ∧ char ∉ [';', '?'] ∧ char ≠ ':' := by
  refine ⟨?_, ?_, ?_⟩
  · rintro rfl
    exact absurd h (by decide)
  · intro hmem
    simp only [List.mem_cons, List.not_mem_nil, or_false] at hmem
    rcases hmem with rfl | rfl <;> exact absurd h (by decide)
  · rintro rfl
    exact absurd h (by decide)

theorem line_digits {digits : Str} (h : ∀ char ∈ digits, char.isDigit = true) : '\n' ∉ digits :=
  fun hmem => (digit_facts (h _ hmem)).1 rfl

theorem run_portTail (components : Components) {port parameters headers : Option Str} (hport : IsPort port)
    (hparameters : IsGroup parameters) (hheaders : IsGroup headers) (hmark : ∀ text ∈ parameters, '?' ∉ text) :
    (portTail components).run (groupText ':' port ++ tailText parameters headers) =
      some { components with port := port, parameters := parameters, headers := headers } := by
  have htail := run_parametersTail { components with port := port } hparameters hheaders hmark
  have hrest : (parametersTail { components with port := port }).run (tailText parameters headers) ≠ none := by
    rw [tailText, htail]
    exact Option.some_ne_none _
  have htaken := @Pattern.run_bind_optional_group _ ':' Char.isDigit
    (fun port => parametersTail { components with port := port }) port (tailText parameters headers) hport ?_ hrest ?_
  · exact htaken.trans htail
  · intro _
    exact (begins_tailText parameters headers).head?_ne (by decide)
  · intro digits hdigits before char after heq _
    have hchars := (hport digits hdigits).2
    have hline := line_digits hchars
    rw [heq] at hchars hline
    apply run_parametersTail_of_begins
    · exact (digit_facts (hchars char (by simp))).2.1
    · intro hmem
      rw [← List.cons_append, List.mem_append] at hmem
      rcases hmem with hmem | hmem
      · exact hline (List.mem_append_right _ hmem)
      · exact line_tailText hparameters hheaders hmem

/-- No port is found where a host goes on, unless the host ends like one with a port. -/
theorem run_portTail_of_host {components : Components} {host before after : Str} {char : Char}
    {port parameters headers : Option Str} (hhost : host = before ++ char :: after) (hbefore : before ≠ [])
    (hchars : ∀ char ∈ host, char ≠ '\n' ∧ char ∉ [';', '?']) (hport : IsPort port)
    (hends : port = none → ¬ EndsInPort host) :
    (portTail components).run (char :: (after ++ (groupText ':' port ++ tailText parameters headers))) = none := by
  rw [Pattern.run_eq_none]
  intro found rest hmem
  simp only [portTail, Pattern.mem_bind, mem_optional_portRe, mem_parametersTail] at hmem
  obtain ⟨port', -, ⟨htext, hport'⟩, parameters', headers', -, rfl, -, -, hrest⟩ := hmem
  have hbegins : Begins [';', '?', '\n'] (groupText ';' parameters' ++ (groupText '?' headers' ++ rest)) := by
    refine begins_groupText parameters' (begins_groupText headers' ?_)
    intro char hchar
    rcases hrest with rfl | rfl
    · cases hchar
    · exact (Option.some.inj hchar) ▸ List.mem_cons_self
  have hchar := hchars char (by rw [hhost]; simp)
  cases port' with
  | none =>
      rw [groupText, List.nil_append] at htext
      have hstart := hbegins char (by rw [← htext]; rfl)
      simp only [List.mem_cons, List.not_mem_nil, or_false, not_or] at hstart hchar
      tauto
  | some digits =>
      rw [groupText, List.cons_append, List.cons.injEq, ← List.append_assoc] at htext
      obtain ⟨rfl, htext⟩ := htext
      let inHost : Char → Bool := fun char => decide (char ∉ [';', '?', '\n'])
      have hin : ∀ char, (char ≠ '\n' ∧ char ∉ [';', '?']) → inHost char = true := by
        intro char hchar
        simp only [inHost, decide_eq_true_eq, List.mem_cons, List.not_mem_nil, or_false, not_or] at hchar ⊢
        tauto
      have hout : ∀ {starts : List Char} {rest : Str}, starts ⊆ [';', '?', '\n'] → Begins starts rest →
          ∀ char ∈ rest.head?, inHost char = false := by
        intro starts rest hstarts hbegins char hchar
        exact decide_eq_false (not_not.mpr (hstarts (hbegins char hchar)))
      have hdigits := (hport' digits rfl).2
      have hleft : ∀ char ∈ after ++ groupText ':' port, inHost char = true := by
        intro char hmem
        rcases List.mem_append.mp hmem with hmem | hmem
        · exact hin char (hchars char (by rw [hhost]; simp [hmem]))
        · cases port with
          | none => cases hmem
          | some given =>
              rcases List.mem_cons.mp hmem with rfl | hmem
              · decide
              · have hfacts := digit_facts ((hport given rfl).2 char hmem)
                exact hin char ⟨hfacts.1, hfacts.2.1⟩
      obtain ⟨heq, -⟩ := Pattern.append_inj_of_longest htext hleft
        (fun char hmem => hin char ⟨(digit_facts (hdigits char hmem)).1, (digit_facts (hdigits char hmem)).2.1⟩)
        (hout (List.subset_append_left _ ['\n']) (begins_tailText parameters headers)) (hout (List.Subset.refl _) hbegins)
      cases port with
      | none =>
          rw [groupText, List.append_nil] at heq
          exact hends rfl ⟨before, after, hhost, hbefore, heq ▸ (hport' digits rfl).1, heq ▸ hdigits⟩
      | some given =>
          have hcolon : ':' ∈ digits := by
            rw [← heq]
            simp [groupText]
          exact (digit_facts (hdigits ':' hcolon)).2.2 rfl

/-- A host that the expression finds in front of the port. -/
structure ClearHost (host : Str) (port : Option Str) : Prop where
  ne_nil : host ≠ []
  chars : ∀ char ∈ host, char ≠ '\n' ∧ char ∉ [';', '?']
  ends : port = none → ¬ EndsInPort host

/-- Parts of an address after the user, each of them found as it was put there. -/
structure ClearTail (domain port parameters headers : Option Str) : Prop where
  host : ∀ host ∈ domain, ClearHost host port
  digits : IsPort port
  hostless : domain = none → port = none
  parameter : IsGroup parameters ∧ ∀ text ∈ parameters, '?' ∉ text
  header : IsGroup headers

theorem domainTail_eq (components : Components) : domainTail components =
    Pattern.shortestOne isDot >>= fun host => portTail { components with domain := some host } := rfl

theorem run_domainTail (components : Components) {host : Str} {port parameters headers : Option Str}
    (h : ClearTail (some host) port parameters headers) :
    (domainTail components).run (host ++ (groupText ':' port ++ tailText parameters headers)) =
      some { components with domain := some host, port := port, parameters := parameters, headers := headers } := by
  have hhost := h.host host rfl
  rw [domainTail_eq]
  refine Pattern.run_bind_shortestOne.mpr ⟨host, _, rfl, hhost.ne_nil, ?_, ?_, ?_⟩
  · exact forall_isDot.mpr fun hmem => (hhost.chars _ hmem).1 rfl
  · exact run_portTail { components with domain := some host } h.digits h.parameter.1 h.header h.parameter.2
  · intro before char after heq hbefore
    exact run_portTail_of_host heq hbefore hhost.chars h.digits hhost.ends

theorem domainText_some (host : Str) (port : Option Str) :
    domainText (some host) port = '@' :: (host ++ groupText ':' port) := rfl

theorem run_usernameTail (scheme : Option Str) (username : Str) {domain port parameters headers : Option Str}
    (h : ClearTail domain port parameters headers) :
    (usernameTail ⟨scheme, username, none, none, none, none⟩).run (domainText domain port ++ tailText parameters headers) =
      some ⟨scheme, username, domain, port, parameters, headers⟩ := by
  rw [usernameTail, Pattern.run_bind_optional]
  cases domain with
  | none =>
      obtain rfl := h.hostless rfl
      have hfail : (Pattern.literal ['@'] >>= fun _ => domainTail ⟨scheme, username, none, none, none, none⟩).run
          (tailText parameters headers) = none := Pattern.run_bind_eq_none fun value rest hmem => by
        rw [Pattern.literal_eq_nil ((begins_tailText parameters headers).head?_ne (by decide))] at hmem
        cases hmem
      have htail := run_parametersTail ⟨scheme, username, none, none, none, none⟩ h.parameter.1 h.header h.parameter.2
      show Option.or ((Pattern.literal ['@'] >>= fun _ => domainTail _).run (tailText parameters headers))
        ((parametersTail _).run (tailText parameters headers)) = _
      rw [hfail, Option.none_or]
      exact htail
  | some host =>
      have htail := run_domainTail ⟨scheme, username, none, none, none, none⟩ h
      rw [domainText_some, List.cons_append, List.append_assoc, Pattern.run_bind_of_single Pattern.literal_cons]
      show Option.or ((domainTail _).run _) _ = _
      rw [htail, Option.some_or]

theorem run_usernameTail_of_begins {scheme : Option Str} {username text : Str} {char : Char}
    (hchar : char ∉ ['@', ';', '?']) (hline : '\n' ≠ char) :
    (usernameTail ⟨scheme, username, none, none, none, none⟩).run (char :: text) = none := by
  rw [Pattern.run_eq_none]
  intro found rest hmem
  obtain ⟨domain, port, parameters, headers, -, htext, -, -, -, -, -, hrest⟩ := mem_usernameTail.mp hmem
  have hbegins : Begins ['@', ';', '?', '\n'] (char :: text) := by
    rw [htext]
    refine begins_groupText _ (begins_groupText parameters (begins_groupText headers ?_))
    intro char hchar
    rcases hrest with rfl | rfl
    · cases hchar
    · exact (Option.some.inj hchar) ▸ List.mem_cons_self
  have hstart := hbegins char rfl
  simp only [List.mem_cons, List.not_mem_nil, or_false, not_or] at hstart hchar
  tauto

/-- Anything can follow the user that begins with one of the characters after it. -/
theorem run_usernameTail_ne_none {scheme : Option Str} {username text : Str} {char : Char}
    (hchar : char ∈ ['@', ';', '?']) (hne : text ≠ []) (hline : '\n' ∉ text) :
    (usernameTail ⟨scheme, username, none, none, none, none⟩).run (char :: text) ≠ none := by
  intro hnone
  have hgroup : IsGroup (some text) := fun other hother => Option.some.inj hother ▸ ⟨hne, hline⟩
  have hempty : IsGroup none := fun _ h => absurd h (Option.not_mem_none _)
  have hfree := Pattern.run_eq_none.mp hnone
  simp only [List.mem_cons, List.not_mem_nil, or_false] at hchar
  rcases hchar with rfl | rfl | rfl
  · refine hfree ⟨scheme, username, some text, none, none, none⟩ [] (mem_usernameTail.mpr
      ⟨some text, none, none, none, rfl, by simp [domainText, groupText], hgroup, fun _ h => absurd h (Option.not_mem_none _),
        fun _ => rfl, hempty, hempty, Or.inl rfl⟩)
  · refine hfree ⟨scheme, username, none, none, some text, none⟩ [] (mem_usernameTail.mpr
      ⟨none, none, some text, none, rfl, by simp [domainText, groupText], hempty, fun _ h => absurd h (Option.not_mem_none _),
        fun _ => rfl, hgroup, hempty, Or.inl rfl⟩)
  · refine hfree ⟨scheme, username, none, none, none, some text⟩ [] (mem_usernameTail.mpr
      ⟨none, none, none, some text, rfl, by simp [domainText, groupText], hempty, fun _ h => absurd h (Option.not_mem_none _),
        fun _ => rfl, hempty, hgroup, Or.inl rfl⟩)

/-- A user that ends where the rest of the address begins. -/
structure ClearUser (user : Str) : Prop where
  ne_nil : user ≠ []
  line : '\n' ∉ user
  tail : ∀ char ∈ user.tail, char ∉ ['@', ';', '?']

theorem mem_tail_of_eq {user before after : Str} {char : Char} (heq : user = before ++ char :: after)
    (hbefore : before ≠ []) : char ∈ user.tail := by
  obtain ⟨first, before, rfl⟩ := List.exists_cons_of_ne_nil hbefore
  rw [heq]
  simp

theorem run_afterScheme (scheme : Option Str) {user : Str} {domain port parameters headers : Option Str}
    (huser : ClearUser user) (h : ClearTail domain port parameters headers) :
    (afterScheme scheme).run (user ++ (domainText domain port ++ tailText parameters headers)) =
      some ⟨scheme, user, domain, port, parameters, headers⟩ := by
  refine Pattern.run_bind_shortestOne.mpr ⟨user, _, rfl, huser.ne_nil, forall_isDot.mpr huser.line, ?_, ?_⟩
  · exact run_usernameTail scheme user h
  · intro before char after heq hbefore
    refine run_usernameTail_of_begins (huser.tail char (mem_tail_of_eq heq hbefore)) ?_
    rintro rfl
    exact huser.line (by rw [heq]; simp)

/-- A user that is not taken for a scheme. -/
def NoScheme (user : Str) : Prop := ∀ secure rest, user ≠ schemeOf secure ++ ':' :: rest

/-- The scheme in front of an address, where it is given. -/
def prefixText : Option Bool → Str
  | none => []
  | some secure => schemeOf secure ++ [':']

theorem colon_not_at (secure : Bool) : ∀ char ∈ schemeOf secure ++ [':'], char ∉ ['@', ';', '?'] := by
  cases secure <;> simp [schemeOf]

/-- What begins with a scheme does so with its user. -/
theorem scheme_of_append {user rest after : Str} {secure : Bool} (hrest : Begins ['@', ';', '?'] rest)
    (h : user ++ rest = schemeOf secure ++ ':' :: after) : ∃ after, user = schemeOf secure ++ ':' :: after := by
  have h : user ++ rest = (schemeOf secure ++ [':']) ++ after := by rw [h]; simp
  rcases List.append_eq_append_iff.mp h with ⟨extra, hscheme, hafter⟩ | ⟨extra, huser, -⟩
  · cases extra with
    | nil => exact ⟨[], by rw [List.append_nil] at hscheme; exact hscheme.symm⟩
    | cons char extra =>
        have hchar := hrest char (by rw [hafter]; rfl)
        exact absurd hchar (colon_not_at secure char (by rw [hscheme]; simp))
  · exact ⟨extra, by rw [huser]; simp⟩

theorem begins_domainText (domain port parameters headers : Option Str) :
    Begins ['@', ';', '?'] (domainText domain port ++ tailText parameters headers) :=
  begins_groupText _ (begins_tailText parameters headers)

/-- The parts of a clear address are what the expression finds. -/
theorem run_matchRe {secure : Option Bool} {user : Str} {domain port parameters headers : Option Str}
    (hscheme : secure = none → NoScheme user) (huser : ClearUser user)
    (h : ClearTail domain port parameters headers) :
    matchRe.run (prefixText secure ++ (user ++ (domainText domain port ++ tailText parameters headers))) =
      some ⟨secure.map schemeOf, user, domain, port, parameters, headers⟩ := by
  cases secure with
  | none =>
      rw [prefixText, List.nil_append, run_matchRe_of_no_scheme, run_afterScheme none huser h]
      · rfl
      · intro secure rest heq
        obtain ⟨after, hafter⟩ := scheme_of_append (begins_domainText domain port parameters headers) heq
        exact hscheme rfl secure after hafter
  | some secure =>
      rw [prefixText, List.append_assoc, List.singleton_append, run_matchRe_of_scheme,
        run_afterScheme (some (schemeOf secure)) huser h]
      rfl

end SipSimple.Core
