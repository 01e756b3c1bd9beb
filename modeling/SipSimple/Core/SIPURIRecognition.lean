import SipSimple.Core.PlainURIs

/-!
# URIs that recognise their addresses

No other URI matches what is printed of it and no address with other parts: each part that it has beyond a plain one is
taken for something else.
-/

namespace SipSimple.Core

open Pattern (groupText)

/-! ### Items that are given twice -/

/-- The dictionary of a list of parts. -/
def setParts (dict : Dict) (parts : List Str) : Dict :=
  parts.foldl (fun dict part => dict.set (partition '=' part).1 (.str (partition '=' part).2)) dict

theorem setParts_congr {parts : List Str} {dict other : Dict} (h : dict.Same other) :
    (setParts dict parts).Same (setParts other parts) := by
  induction parts generalizing dict other with
  | nil => exact h
  | cons part parts ih =>
      refine ih fun found => ?_
      rw [Dict.get_set, Dict.get_set, h found]

/-- What is set again does not matter. -/
theorem setParts_same {parts : List Str} {name : Str} {dict other : Dict}
    (h : ∀ found, found ≠ name → dict.get found = other.get found) :
    (∀ found, found ≠ name → (setParts dict parts).get found = (setParts other parts).get found) ∧
      ((∃ part ∈ parts, (partition '=' part).1 = name) → (setParts dict parts).Same (setParts other parts)) := by
  induction parts generalizing dict other with
  | nil => exact ⟨h, fun ⟨_, hpart, _⟩ => absurd hpart List.not_mem_nil⟩
  | cons part parts ih =>
      by_cases hname : (partition '=' part).1 = name
      · have hall : ∀ found, (dict.set (partition '=' part).1 (.str (partition '=' part).2)).get found =
            (other.set (partition '=' part).1 (.str (partition '=' part).2)).get found := by
          intro found
          rw [Dict.get_set, Dict.get_set]
          split
          next => rfl
          next hne => exact h found (hname ▸ hne)
        have hrest : (setParts dict (part :: parts)).Same (setParts other (part :: parts)) :=
          @setParts_congr parts _ _ hall
        exact ⟨fun found _ => hrest found, fun _ => hrest⟩
      · have hstep : ∀ found, found ≠ name →
            (dict.set (partition '=' part).1 (.str (partition '=' part).2)).get found =
              (other.set (partition '=' part).1 (.str (partition '=' part).2)).get found := by
          intro found hfound
          rw [Dict.get_set, Dict.get_set, h found hfound]
        refine ⟨(ih hstep).1, ?_⟩
        rintro ⟨again, hagain, heq⟩
        rcases List.mem_cons.mp hagain with rfl | hagain
        · exact absurd heq hname
        · exact (ih hstep).2 ⟨again, hagain, heq⟩

theorem partition_of_item {name rest : Str} (h : '=' ∉ name) : (partition '=' (name ++ '=' :: rest)).1 = name :=
  takeWhile_of_separator h

theorem partition_itemText {item : Str × Option Str} (h : '=' ∉ item.1) : (partition '=' (itemText item)).1 = item.1 := by
  obtain ⟨name, value⟩ := item
  cases value with
  | none =>
      have hall : ∀ char ∈ name, decide (char ≠ '=') = true := fun char hchar => by
        simpa using fun heq : char = '=' => h (heq ▸ hchar)
      exact List.takeWhile_eq_self_iff.mpr hall
  | some value => exact partition_of_item h

/-- A part in front of the items that is set again changes nothing. -/
theorem agrees_extended {separator : Char} {own : Dict} {part text : Str} {items : List (Str × Option Str)}
    {item : Str × Option Str} (htext : itemsText separator items = some text) (hitem : item ∈ items)
    (hname : '=' ∉ item.1) (hpart : (partition '=' part).1 = item.1) (hseparator : separator ∉ part)
    (hitems : ∀ item ∈ items, separator ∉ itemText item) (h : agrees separator own (some text) = true) :
    agrees separator own (some (part ++ separator :: text)) = true := by
  have hne : items ≠ [] := List.ne_nil_of_mem hitem
  rw [itemsText, if_neg hne] at htext
  obtain rfl := Option.some.inj htext
  have hsplit : ([separator].intercalate (items.map itemText)).splitOn separator = items.map itemText := by
    refine List.splitOn_intercalate separator (fun part hpart => ?_) (fun heq => hne (List.map_eq_nil_iff.mp heq))
    obtain ⟨item, hitem, rfl⟩ := List.mem_map.mp hpart
    exact hitems item hitem
  have hshort : readPairs separator ([separator].intercalate (items.map itemText)) =
      setParts Dict.empty (items.map itemText) := by
    rw [readPairs, hsplit]
    rfl
  have hlong : readPairs separator (part ++ separator :: [separator].intercalate (items.map itemText)) =
      setParts (Dict.empty.set (partition '=' part).1 (.str (partition '=' part).2)) (items.map itemText) := by
    rw [readPairs, List.splitOn_append_cons_self_of_not_mem hseparator, hsplit]
    rfl
  have hagain : ∃ part ∈ items.map itemText, (partition '=' part).1 = item.1 :=
    ⟨itemText item, List.mem_map_of_mem hitem, partition_itemText hname⟩
  have hsame : (readPairs separator (part ++ separator :: [separator].intercalate (items.map itemText))).Same
      (readPairs separator ([separator].intercalate (items.map itemText))) := by
    rw [hshort, hlong]
    refine (setParts_same fun found hfound => ?_).2 hagain
    rw [Dict.get_set, if_neg (hpart ▸ hfound)]
  have hexpected : expectedItems own (readPairs separator (part ++ separator ::
      [separator].intercalate (items.map itemText))) =
      expectedItems own (readPairs separator ([separator].intercalate (items.map itemText))) := by
    have hfilter : (fun item : Str × Value => ((readPairs separator (part ++ separator ::
        [separator].intercalate (items.map itemText))).get item.1).isSome) =
        fun item => ((readPairs separator ([separator].intercalate (items.map itemText))).get item.1).isSome := by
      funext item
      rw [hsame]
    rw [Dict.mk.injEq]
    show List.map _ (List.filter _ _) = List.map _ (List.filter _ _)
    rw [hfilter]
  rw [agrees, Dict.eq_iff] at h ⊢
  rw [hexpected]
  exact fun name => (hsame name).trans (h name)

/-! ### What is printed of items -/

/-- An item as it is written. -/
def rawItem (safe : List Char) : Str × Value → Option (Str × Option Str)
  | (name, .none) => some (name, none)
  | (name, .str value) => some (name, some (quote safe value))
  | (_, .int _) => none

theorem formatItem_eq (safe : List Char) (item : Str × Value) :
    SIPURI.formatItem safe item = (rawItem safe item).map itemText := by
  obtain ⟨name, value⟩ := item
  cases value <;> rfl

theorem fst_rawItem {safe : List Char} {item : Str × Value} {raw : Str × Option Str}
    (h : rawItem safe item = some raw) : raw.1 = item.1 := by
  obtain ⟨name, value⟩ := item
  cases value with
  | none => exact (Option.some.inj h) ▸ rfl
  | str value => exact (Option.some.inj h) ▸ rfl
  | int value => cases h

theorem digitChar_free (value : Nat) : (Nat.digitChar value).toUpper ∉ ['\n', '@', ';', '?', '&'] := by
  by_cases hsmall : value < 16
  · have hdigits : ∀ digit : Fin 16, (Nat.digitChar digit).toUpper ∉ ['\n', '@', ';', '?', '&'] := by decide
    exact hdigits ⟨value, hsmall⟩
  · have hstar : Nat.digitChar value = '*' := by
      simp [Nat.digitChar, show value ≠ 0 by omega, show value ≠ 1 by omega, show value ≠ 2 by omega,
        show value ≠ 3 by omega, show value ≠ 4 by omega, show value ≠ 5 by omega, show value ≠ 6 by omega,
        show value ≠ 7 by omega, show value ≠ 8 by omega, show value ≠ 9 by omega, show value ≠ 10 by omega,
        show value ≠ 11 by omega, show value ≠ 12 by omega, show value ≠ 13 by omega, show value ≠ 14 by omega,
        show value ≠ 15 by omega]
    rw [hstar]
    decide

/-- Nothing that begins another part is left in a quoted value, unless it is safe. -/
theorem quote_free {safe : List Char} {value : Str} {char : Char} (hchar : char ∈ ['\n', '@', ';', '?', '&'])
    (hsafe : char ∉ safe) : char ∉ quote safe value := by
  intro hmem
  obtain ⟨source, -, hmem⟩ := List.mem_flatMap.mp hmem
  split at hmem
  next hkept =>
    obtain rfl := List.mem_singleton.mp hmem
    rcases (Bool.or_eq_true _ _).mp hkept with halways | hcontains
    · simp only [List.mem_cons, List.not_mem_nil, or_false] at hchar
      rcases hchar with rfl | rfl | rfl | rfl | rfl <;> exact absurd halways (by decide)
    · exact hsafe (List.contains_iff_mem.mp hcontains)
  next =>
    simp only [escape, List.mem_cons, List.not_mem_nil, or_false] at hmem
    rcases hmem with rfl | rfl | rfl
    · exact absurd hchar (by decide)
    · exact digitChar_free _ hchar
    · exact digitChar_free _ hchar

theorem rawItem_free {safe : List Char} {item : Str × Value} {raw : Str × Option Str} {char : Char}
    (h : rawItem safe item = some raw) (hname : char ∉ item.1) (hchar : char ∈ ['\n', '@', ';', '?', '&'])
    (hsafe : char ∉ safe) : char ∉ itemText raw := by
  obtain ⟨name, value⟩ := item
  cases value with
  | none =>
      obtain rfl := Option.some.inj h
      exact hname
  | str value =>
      obtain rfl := Option.some.inj h
      intro hmem
      rcases List.mem_append.mp hmem with hmem | hmem
      · exact hname hmem
      · rcases List.mem_cons.mp hmem with rfl | hmem
        · exact absurd hchar (by decide)
        · exact quote_free hchar hsafe hmem
  | int value => cases h

theorem mapM_formatItem (safe : List Char) (items : List (Str × Value)) :
    items.mapM (SIPURI.formatItem safe) = (items.mapM (rawItem safe)).map (List.map itemText) := by
  induction items with
  | nil => rfl
  | cons item items ih =>
      rw [List.mapM_cons, List.mapM_cons, ih, formatItem_eq]
      cases rawItem safe item with
      | none => rfl
      | some raw =>
          cases items.mapM (rawItem safe) with
          | none => rfl
          | some raws => rfl

theorem mem_of_mapM {safe : List Char} {items : List (Str × Value)} {raws : List (Str × Option Str)}
    (h : items.mapM (rawItem safe) = some raws) : ∀ raw ∈ raws, ∃ item ∈ items, rawItem safe item = some raw := by
  induction items generalizing raws with
  | nil =>
      obtain rfl := Option.some.inj h
      exact List.forall_mem_nil _
  | cons item items ih =>
      rw [List.mapM_cons] at h
      obtain ⟨raw, hraw, h⟩ := Option.bind_eq_some_iff.mp h
      obtain ⟨rest, hrest, h⟩ := Option.bind_eq_some_iff.mp h
      obtain rfl := Option.some.inj h
      refine List.forall_mem_cons.mpr ⟨⟨item, List.mem_cons_self, hraw⟩, fun other hother => ?_⟩
      obtain ⟨source, hsource, hother⟩ := ih hrest other hother
      exact ⟨source, List.mem_cons_of_mem _ hsource, hother⟩

/-- The items of a dictionary that is not empty are printed as a group. -/
theorem formatItems_eq {safe : List Char} {start separator : Char} {dict : Dict} {text : Str}
    (h : SIPURI.formatItems safe start separator dict = some text) (hne : dict.items ≠ []) :
    ∃ raws, raws ≠ [] ∧ text = groupText start (itemsText separator raws) ∧
      ∀ raw ∈ raws, ∃ item ∈ dict.items, rawItem safe item = some raw := by
  rw [SIPURI.formatItems, mapM_formatItem, Option.map_map] at h
  obtain ⟨raws, hraws, rfl⟩ := Option.map_eq_some_iff.mp h
  have hcons : raws ≠ [] := by
    rintro rfl
    obtain ⟨item, items, hitems⟩ := List.exists_cons_of_ne_nil hne
    rw [hitems, List.mapM_cons] at hraws
    obtain ⟨raw, -, hraws⟩ := Option.bind_eq_some_iff.mp hraws
    obtain ⟨rest, -, hraws⟩ := Option.bind_eq_some_iff.mp hraws
    cases hraws
  refine ⟨raws, hcons, ?_, mem_of_mapM hraws⟩
  obtain ⟨raw, rest, rfl⟩ := List.exists_cons_of_ne_nil hcons
  rfl

/-! ### URIs that are not plain -/

theorem valid_of_run {text : Str} {components : Components} (h : matchRe.run text = some components) :
    components.Valid := by
  obtain ⟨rest, hmem⟩ := Pattern.mem_of_run h
  rw [matchRe_eq] at hmem
  obtain ⟨scheme, after, -, hmem⟩ := Pattern.mem_bind.mp hmem
  exact (mem_afterScheme.mp hmem).2.2.1

theorem Components.Valid.line {components : Components} (h : components.Valid) : '\n' ∉ components.text := by
  have hport : ∀ {port : Option Str}, IsPort port → '\n' ∉ groupText ':' port := by
    intro port hport hmem
    cases port with
    | none => cases hmem
    | some digits =>
        rcases List.mem_cons.mp hmem with heq | hmem
        · exact absurd heq (by decide)
        · exact line_digits (hport digits rfl).2 hmem
  have hdomain : '\n' ∉ domainText components.domain components.port := by
    intro hmem
    cases hgiven : components.domain with
    | none =>
        rw [hgiven] at hmem
        cases hmem
    | some host =>
        rw [hgiven, domainText_some, List.mem_cons, List.mem_append] at hmem
        rcases hmem with heq | hmem | hmem
        · exact absurd heq (by decide)
        · exact (h.domain host hgiven).2 hmem
        · exact hport h.port hmem
  simp only [Components.text, List.mem_append, not_or]
  have htail := line_tailText h.parameters h.headers
  rw [tailText, List.mem_append, not_or] at htail
  exact ⟨h.username.2, hdomain, htail⟩

/-- A scheme is taken where anything follows it. -/
theorem run_of_scheme {secure : Bool} {text : Str} {components : Components}
    (h : matchRe.run (prefixText (some secure) ++ text) = some components) (hne : text ≠ []) (hend : text ≠ ['\n']) :
    (afterScheme (some (schemeOf secure))).run text = some components := by
  rw [prefixText, List.append_assoc, List.singleton_append, run_matchRe_of_scheme] at h
  cases hfirst : (afterScheme (some (schemeOf secure))).run text with
  | some found =>
      rw [hfirst, Option.some_or] at h
      exact h
  | none =>
      rw [hfirst, Option.none_or] at h
      obtain ⟨rest, hmem⟩ := Pattern.mem_of_run h
      obtain ⟨-, htext, hvalid, hrest⟩ := mem_afterScheme.mp hmem
      rcases hrest with rfl | rfl
      · refine absurd hfirst (run_afterScheme_ne_none hne fun hline => hvalid.line ?_)
        rw [List.append_nil] at htext
        rw [← htext]
        exact List.mem_append_right _ (List.mem_cons_of_mem _ hline)
      · -- the text is a line with its end
        obtain ⟨line, char, rfl⟩ : ∃ line char, text = line ++ [char] :=
          ⟨text.dropLast, text.getLast hne, (List.dropLast_append_getLast hne).symm⟩
        have hlast : schemeOf secure ++ ':' :: line ++ [char] = components.text ++ ['\n'] := by
          rw [← htext]
          simp
        obtain ⟨hline, hchar⟩ := List.append_inj' hlast rfl
        obtain rfl := (List.cons.inj hchar).1
        have hfree : '\n' ∉ line := fun hmem => hvalid.line (by rw [← hline]; simp [hmem])
        have hcons : line ≠ [] := fun heq => hend (by rw [heq]; rfl)
        refine absurd ?_ (Pattern.run_eq_none.mp hfirst ⟨some (schemeOf secure), line, none, none, none, none⟩ ['\n'])
        refine mem_afterScheme.mpr ⟨rfl, by simp [Components.text, domainText, groupText], ⟨⟨hcons, hfree⟩,
          fun _ h => absurd h (Option.not_mem_none _), fun _ h => absurd h (Option.not_mem_none _), fun _ => rfl, fun _ h => absurd h (Option.not_mem_none _), fun _ h => absurd h (Option.not_mem_none _)⟩,
          Or.inr rfl⟩

theorem line_portText {port : Option Str} (h : IsPort port) : '\n' ∉ groupText ':' port := by
  intro hmem
  cases port with
  | none => cases hmem
  | some digits =>
      rcases List.mem_cons.mp hmem with heq | hmem
      · exact absurd heq (by decide)
      · exact line_digits (h digits rfl).2 hmem

/-- A user goes on as a line. -/
theorem append_ne_end {user rest : Str} (hne : user ≠ []) (hline : '\n' ∉ user) :
    user ++ rest ≠ [] ∧ user ++ rest ≠ ['\n'] := by
  refine ⟨List.append_ne_nil_of_left_ne_nil hne _, ?_⟩
  obtain ⟨first, user, rfl⟩ := List.exists_cons_of_ne_nil hne
  intro heq
  rw [List.cons_append, List.cons.injEq] at heq
  exact hline (by rw [heq.1]; exact List.mem_cons_self)

namespace SIPURI.Recognises

variable {uri : SIPURI} {user : Str}

theorem line (h : uri.Recognises user) (huser : uri.user = some user) : user ≠ [] ∧ '\n' ∉ user := by
  obtain ⟨text, -, hmatches⟩ := h.own ⟨true, false, false, false⟩
  obtain ⟨components, hrun, haccepts⟩ := SIPURI.matches_iff.mp hmatches
  have husername : components.username = user := Option.some.inj (haccepts.username.trans huser)
  exact husername ▸ (valid_of_run hrun).username

/-- What is found in a URI that is printed with its scheme. -/
theorem found (h : uri.Recognises user) (huser : uri.user = some user) {kept : Kept} {rest : Str}
    (hprinted : uri.printed user kept = some (uri.schemeText ++ (user ++ rest))) :
    ∃ components, (afterScheme (some (schemeOf uri.secure))).run (user ++ rest) = some components ∧
      uri.Accepts components := by
  obtain ⟨text, htext, hmatches⟩ := h.own kept
  obtain rfl := Option.some.inj (hprinted.symm.trans htext)
  obtain ⟨components, hrun, haccepts⟩ := SIPURI.matches_iff.mp hmatches
  rw [uri.schemeText_eq] at hrun
  have hends : user ++ rest ≠ [] ∧ user ++ rest ≠ ['\n'] := append_ne_end (h.line huser).1 (h.line huser).2
  exact ⟨components, run_of_scheme hrun hends.1 hends.2, haccepts⟩

/-- A password would be taken for a part of the user. -/
theorem password (h : uri.Recognises user) (huser : uri.user = some user) : uri.password = none := by
  cases hpassword : uri.password with
  | none => rfl
  | some password =>
      have hprinted : uri.printed user ⟨true, false, false, false⟩ =
          some (uri.schemeText ++ (user ++ (':' :: password ++ []))) := by
        simp [SIPURI.printed, SIPURI.userText, hpassword]
      obtain ⟨components, hrun, haccepts⟩ := h.found huser hprinted
      obtain ⟨rest, hmem⟩ := Pattern.mem_of_run hrun
      obtain ⟨-, htext, -, hrest⟩ := mem_afterScheme.mp hmem
      have husername : components.username = user := Option.some.inj (haccepts.username.trans huser)
      rw [Components.text, husername, List.append_assoc, List.append_cancel_left_eq, List.append_assoc,
        List.append_assoc] at htext
      have hbegins : Begins ['@', ';', '?', '\n'] (domainText components.domain components.port ++
          (groupText ';' components.parameters ++ (groupText '?' components.headers ++ rest))) := by
        refine begins_groupText _ (begins_groupText _ (begins_groupText _ ?_))
        intro char hchar
        rcases hrest with rfl | rfl
        · cases hchar
        · exact (Option.some.inj hchar) ▸ List.mem_cons_self
      rw [← htext] at hbegins
      exact absurd (hbegins ':' rfl) (by decide)

/-- What is printed up to the host. -/
theorem printed_host (h : uri.Recognises user) (huser : uri.user = some user) (scheme : Bool) :
    uri.printed user ⟨scheme, true, false, false⟩ =
      some ((if scheme then uri.schemeText else []) ++ (user ++ domainText (some uri.host) (portDigits uri.port))) := by
  rw [← uri.hostText_eq]
  simp [SIPURI.printed, SIPURI.userText, h.password huser]

/-- The user and the host are found in front of the port. -/
theorem divided (h : uri.Recognises user) (huser : uri.user = some user) :
    (∃ components, (usernameTail ⟨some (schemeOf uri.secure), user, none, none, none, none⟩).run
        (domainText (some uri.host) (portDigits uri.port)) = some components ∧ uri.Accepts components) ∧
      ∀ before char after, user = before ++ char :: after → before ≠ [] →
        (usernameTail ⟨some (schemeOf uri.secure), before, none, none, none, none⟩).run
          (char :: (after ++ domainText (some uri.host) (portDigits uri.port))) = none := by
  obtain ⟨components, hrun, haccepts⟩ := h.found huser (h.printed_host huser true)
  obtain ⟨word, rest, htext, -, -, htail, hfirst⟩ := Pattern.run_bind_shortestOne.mp hrun
  obtain ⟨after, hmem⟩ := Pattern.mem_of_run htail
  obtain ⟨domain, port, parameters, headers, hfound, -⟩ := mem_usernameTail.mp hmem
  have hword : word = user := by
    have husername := haccepts.username
    rw [hfound, huser] at husername
    exact Option.some.inj husername
  subst hword
  obtain rfl := List.append_cancel_left htext
  exact ⟨⟨components, htail, haccepts⟩, hfirst⟩

theorem clear (h : uri.Recognises user) (hwell : uri.WellFormed) (huser : uri.user = some user) : ClearUser user where
  ne_nil := (h.line huser).1
  line := (h.line huser).2
  tail char hchar hmark := by
    obtain ⟨first, user', rfl⟩ := List.exists_cons_of_ne_nil (h.line huser).1
    obtain ⟨before, after, heq⟩ := List.append_of_mem hchar
    rw [List.tail_cons] at heq
    subst heq
    have hnone := (h.divided huser).2 (first :: before) char after rfl (List.cons_ne_nil _ _)
    refine run_usernameTail_ne_none hmark ?_ ?_ hnone
    · exact List.append_ne_nil_of_right_ne_nil _ (List.cons_ne_nil _ _)
    · intro hline
      rcases List.mem_append.mp hline with hline | hline
      · exact (h.line huser).2 (by simp [hline])
      · rw [domainText_some, List.mem_cons, List.mem_append] at hline
        rcases hline with heq | hline | hline
        · exact absurd heq (by decide)
        · exact absurd (hwell.host.2 _ hline) (by decide)
        · exact line_portText (portDigits_isPort _) hline

/-- The end of the host would be taken for a port. -/
theorem host (h : uri.Recognises user) (hwell : uri.WellFormed) (huser : uri.user = some user)
    (hport : uri.port = none) : ¬ EndsInPort uri.host := by
  rintro ⟨before, digits, hhost, hbefore, hdigits⟩
  have hgroup : IsGroup none := fun _ h => absurd h (Option.not_mem_none _)
  obtain ⟨⟨components, hrun, haccepts⟩, -⟩ := h.divided huser
  rw [usernameTail, Pattern.run_bind_optional, domainText_some, Pattern.run_bind_of_single Pattern.literal_cons, hport,
    portDigits, Option.map_none, groupText, List.append_nil] at hrun
  have hline : '\n' ∉ '@' :: uri.host := by
    intro hmem
    rcases List.mem_cons.mp hmem with heq | hmem
    · exact absurd heq (by decide)
    · exact absurd (hwell.host.2 _ hmem) (by decide)
  have hnone : (parametersTail ⟨some (schemeOf uri.secure), user, none, none, none, none⟩).run ('@' :: uri.host) = none :=
    run_parametersTail_of_begins (by decide) hline
  have hdomain : (domainTail ⟨some (schemeOf uri.secure), user, none, none, none, none⟩).run uri.host =
      some components := by
    have hor : Option.or ((domainTail _).run uri.host) ((parametersTail _).run ('@' :: uri.host)) = some components :=
      hrun
    rwa [hnone, Option.or_none] at hor
  rw [domainTail_eq] at hdomain
  obtain ⟨word, rest, htext, -, -, htail, hfirst⟩ := Pattern.run_bind_shortestOne.mp hdomain
  obtain ⟨after, hmem⟩ := Pattern.mem_of_run htail
  simp only [portTail, Pattern.mem_bind, mem_parametersTail] at hmem
  obtain ⟨port, -, -, parameters, headers, hfound, -⟩ := hmem
  have hword : word = uri.host := haccepts.domain word (by rw [hfound]; rfl)
  rw [hword] at htext hfirst
  have hfree := hfirst before ':' digits hhost hbefore
  have hrest : rest = [] := List.self_eq_append_right.mp htext
  have hgiven : IsPort (some digits) := fun other hother => Option.some.inj hother ▸ hdigits
  have htaken := run_portTail ⟨some (schemeOf uri.secure), user, some before, none, none, none⟩ hgiven hgroup hgroup
    (fun _ h => absurd h (Option.not_mem_none _))
  rw [hrest] at hfree
  exact absurd (hfree.symm.trans htaken) (Option.some_ne_none _).symm

theorem scheme (h : uri.Recognises user) (hwell : uri.WellFormed) (huser : uri.user = some user) : NoScheme user := by
  intro secure after heq
  obtain ⟨text, htext, hmatches⟩ := h.own ⟨false, true, false, false⟩
  obtain rfl := Option.some.inj ((h.printed_host huser false).symm.trans htext)
  obtain ⟨components, hrun, haccepts⟩ := SIPURI.matches_iff.mp hmatches
  have hsplit : (if false = true then uri.schemeText else []) ++
      (user ++ domainText (some uri.host) (portDigits uri.port)) =
      prefixText (some secure) ++ (after ++ domainText (some uri.host) (portDigits uri.port)) := by
    rw [heq, prefixText]
    simp
  have hat : '@' ∈ after ++ domainText (some uri.host) (portDigits uri.port) := by
    rw [domainText_some]
    simp
  rw [hsplit] at hrun
  have hfound := run_of_scheme hrun (List.ne_nil_of_mem hat) fun hend => by
    rw [hend] at hat
    exact absurd hat (by decide)
  obtain ⟨rest, hmem⟩ := Pattern.mem_of_run hfound
  obtain ⟨-, htext, -, -⟩ := mem_afterScheme.mp hmem
  have husername : components.username = user := Option.some.inj (haccepts.username.trans huser)
  rw [Components.text, husername, List.append_assoc] at htext
  have hlength : after.length < user.length := by
    rw [heq, schemeOf_eq]
    simp only [List.cons_append, List.length_cons, List.length_append]
    omega
  -- the user reaches over the sign of the domain
  rcases List.append_eq_append_iff.mp htext with ⟨extra, hafter, hextra⟩ | ⟨extra, hlonger, -⟩
  · cases extra with
    | nil => rw [hafter, List.append_nil] at hlength; exact Nat.lt_irrefl _ hlength
    | cons char extra =>
        rw [domainText_some, List.cons_append, List.cons.injEq] at hextra
        have hmem : '@' ∈ user := by rw [hafter, ← hextra.1]; simp
        have htail := (h.clear hwell huser).tail '@'
        rw [heq, schemeOf_eq] at hmem htail
        simp only [List.cons_append, List.mem_cons, List.tail_cons] at hmem htail
        rcases hmem with hs | hmem
        · exact absurd hs (by decide)
        · exact htail hmem (by simp)
  · rw [hlonger, List.length_append] at hlength
    omega

end SIPURI.Recognises

/-! ### Items that are taken for a part of the user -/

section longer

variable {uri : SIPURI} {user name : Str} {mark : Char} {parameters headers : List (Str × Option Str)}

/-- The URI with a host of its own, and a user that goes on like an item. -/
def longer (uri : SIPURI) (user : Str) (mark : Char) (name : Str) (parameters headers : List (Str × Option Str)) :
    Address :=
  ⟨some uri.secure, user ++ mark :: (name ++ ['=']), some ['h'], none, parameters, headers⟩

theorem longer_clear (huser : ClearUser user) (hmark : mark ∈ [';', '?']) (hname : ∀ char ∈ name, char ∉ ['\n', '@'])
    (hparameters : ∀ item ∈ parameters, item.1 ≠ [] ∧ ∀ char ∈ itemText item, char ∉ ['\n', '@', ';', '?'])
    (hheaders : ∀ item ∈ headers, item.1 ≠ [] ∧ ∀ char ∈ itemText item, char ∉ ['\n', '@', '&']) :
    (longer uri user mark name parameters headers).Clear where
  user_ne := List.append_ne_nil_of_left_ne_nil huser.ne_nil _
  user_line hmem := by
    simp only [longer, List.mem_append, List.mem_cons, List.not_mem_nil, or_false] at hmem hmark
    rcases hmem with hmem | rfl | hmem | heq
    · exact huser.line hmem
    · exact absurd hmark (by decide)
    · exact absurd (hname _ hmem) (by decide)
    · exact absurd heq (by decide)
  user_tail char hchar := by
    refine ⟨?_, fun hnone => absurd hnone (Option.some_ne_none _)⟩
    rintro rfl
    obtain ⟨first, rest, hfirst⟩ := List.exists_cons_of_ne_nil huser.ne_nil
    have htail := huser.tail '@'
    rw [hfirst, List.tail_cons] at htail
    simp only [longer, hfirst, List.cons_append, List.tail_cons, List.mem_append, List.mem_cons, List.not_mem_nil,
      or_false] at hchar hmark
    rcases hchar with hmem | rfl | hmem | heq
    · exact htail hmem (by simp)
    · exact absurd hmark (by decide)
    · exact absurd (hname _ hmem) (by decide)
    · exact absurd heq (by decide)
  scheme hnone := absurd hnone (Option.some_ne_none _)
  host host hhost := by
    obtain rfl := Option.some.inj hhost
    refine ⟨⟨by decide, by simp, ?_⟩, by decide⟩
    rintro - ⟨before, digits, heq, -⟩
    have hcolon : ':' ∈ ['h'] := by
      rw [heq]
      simp
    exact absurd hcolon (by decide)
  port hnone := absurd hnone (Option.some_ne_none _)
  parameters := hparameters
  headers := hheaders

theorem longer_differs (huser : uri.user = some user) : (longer uri user mark name parameters headers).Differs uri := by
  refine Or.inr (Or.inl ?_)
  rw [huser]
  intro heq
  have hlength := congrArg List.length (Option.some.inj heq)
  simp [longer] at hlength

/-- What the scheme and the user do not say is decided by the items. -/
theorem matches_tail (huser : uri.user = some user) (hclear : ClearUser user) {parameters headers : Option Str}
    (hparameters : IsGroup parameters ∧ ∀ text ∈ parameters, '?' ∉ text) (hheaders : IsGroup headers) :
    uri.matches (prefixText (some uri.secure) ++ (user ++ tailText parameters headers)) = true ↔
      agrees ';' uri.parameters parameters = true ∧ agrees '&' uri.headers headers = true := by
  have htail : ClearTail none none parameters headers :=
    ⟨fun _ h => absurd h (Option.not_mem_none _), fun _ h => absurd h (Option.not_mem_none _), fun _ => rfl, hparameters, hheaders⟩
  have hrun := @run_matchRe (some uri.secure) user none none parameters headers (fun hnone => (nomatch hnone)) hclear htail
  rw [show domainText none none = [] from rfl, List.nil_append] at hrun
  rw [SIPURI.matches_of_run hrun]
  constructor
  · intro h
    exact ⟨h.parameters, h.headers⟩
  · rintro ⟨hparameters, hheaders⟩
    refine ⟨fun given hgiven => ?_, huser.symm, fun _ h => absurd h (Option.not_mem_none _), fun _ h => absurd h (Option.not_mem_none _), hparameters, hheaders⟩
    exact (Option.some.inj hgiven).symm

end longer

theorem forall_mem_marks {safe marks : List Char}
    (h : (marks.all fun char => decide (char ∈ ['\n', '@', ';', '?', '&'] ∧ char ∉ safe)) = true) :
    ∀ char ∈ marks, char ∈ ['\n', '@', ';', '?', '&'] ∧ char ∉ safe :=
  fun char hchar => of_decide_eq_true (List.all_eq_true.mp h char hchar)

/-- Nothing that begins another part is left in the items that are printed. -/
theorem free_rawItems {safe : List Char} {dict : Dict} {raws : List (Str × Option Str)} (marks : List Char)
    (hraws : ∀ raw ∈ raws, ∃ item ∈ dict.items, rawItem safe item = some raw)
    (hnames : ∀ item ∈ dict.items, item.1 ≠ [] ∧ ∀ char ∈ item.1, char ∉ marks ++ ['='])
    (hmarks : ∀ char ∈ marks, char ∈ ['\n', '@', ';', '?', '&'] ∧ char ∉ safe) :
    ∀ raw ∈ raws, (raw.1 ≠ [] ∧ ∀ char ∈ itemText raw, char ∉ marks) ∧ ∀ char ∈ marks ++ ['='], char ∉ raw.1 := by
  intro raw hraw
  obtain ⟨item, hitem, heq⟩ := hraws raw hraw
  obtain ⟨hne, hname⟩ := hnames item hitem
  rw [fst_rawItem heq]
  refine ⟨⟨hne, fun char hchar hmark => ?_⟩, fun char hmark hchar => hname char hchar hmark⟩
  exact rawItem_free heq (fun hmem => hname char hmem (List.mem_append_left _ hmark)) (hmarks char hmark).1
    (hmarks char hmark).2 hchar

/-- The items of a URI that matches what is printed of it, as they are written. -/
theorem SIPURI.Recognises.raws {uri : SIPURI} {user : Str} (h : uri.Recognises user) (kept : Kept) {safe : List Char}
    {start separator : Char} {dict : Dict} (hne : dict.items ≠ [])
    (hprinted : uri.printed user kept = (SIPURI.formatItems safe start separator dict).map fun printed =>
      prefixText (some uri.secure) ++ (user ++ printed)) :
    ∃ raws raw text, raw ∈ raws ∧ itemsText separator raws = some text ∧
      (∀ raw ∈ raws, ∃ item ∈ dict.items, rawItem safe item = some raw) ∧
      uri.matches (prefixText (some uri.secure) ++ (user ++ (start :: text))) = true := by
  obtain ⟨text, htext, hmatches⟩ := h.own kept
  rw [hprinted] at htext
  obtain ⟨printed, hitems, rfl⟩ := Option.map_eq_some_iff.mp htext
  obtain ⟨raws, hcons, rfl, hraws⟩ := formatItems_eq hitems hne
  obtain ⟨raw, rest, hfirst⟩ := List.exists_cons_of_ne_nil hcons
  have hjoined : itemsText separator raws = some ([separator].intercalate (raws.map itemText)) := if_neg hcons
  refine ⟨raws, raw, _, by rw [hfirst]; exact List.mem_cons_self, hjoined, hraws, ?_⟩
  rw [hjoined] at hmatches
  exact hmatches

/-- An item in front of a group is a group. -/
theorem isGroup_extended {part text : Str} {separator : Char} (hpart : '\n' ∉ part) (hseparator : separator ≠ '\n')
    (htext : '\n' ∉ text) : IsGroup (some (part ++ separator :: text)) := by
  intro given hgiven
  obtain rfl := Option.some.inj hgiven
  refine ⟨List.append_ne_nil_of_right_ne_nil _ (List.cons_ne_nil _ _), fun hmem => ?_⟩
  rcases List.mem_append.mp hmem with hmem | hmem
  · exact hpart hmem
  · rcases List.mem_cons.mp hmem with heq | hmem
    · exact hseparator heq.symm
    · exact htext hmem

theorem not_mem_name {name rest : Str} {char : Char} (hname : char ∉ name) (hrest : char ∉ rest) : char ∉ name ++ rest :=
  fun hmem => (List.mem_append.mp hmem).elim hname hrest

/-- With parameters, a user that goes on like one of them is accepted. -/
theorem SIPURI.Recognises.parameters {uri : SIPURI} {user : Str} (h : uri.Recognises user) (hwell : uri.WellFormed)
    (huser : uri.user = some user) : uri.parameters.items = [] := by
  by_contra hne
  have hclear := h.clear hwell huser
  have hempty : IsGroup none := fun _ h => absurd h (Option.not_mem_none _)
  obtain ⟨raws, raw, text, hraw, htext, hraws, hmatches⟩ := h.raws ⟨true, false, true, false⟩ hne (by
    rw [SIPURI.printed, SIPURI.userText, h.password huser, uri.schemeText_eq]
    cases SIPURI.formatItems SIPURI.parameterSafe ';' ';' uri.parameters <;> simp)
  have hfree := free_rawItems ['\n', '@', ';', '?'] hraws hwell.parameters (forall_mem_marks (by decide))
  have hname := (hfree raw hraw).2
  have haddress : (longer uri user ';' raw.1 raws []).Clear := by
    refine longer_clear hclear (by decide) (fun char hchar hmem => ?_) (fun raw hraw => (hfree raw hraw).1)
      (List.forall_mem_nil _)
    exact hname char (List.subset_append_left ['\n', '@'] _ hmem) hchar
  have hgroup : IsGroup (itemsText ';' raws) ∧ ∀ text ∈ itemsText ';' raws, '?' ∉ text := haddress.tail.parameter
  rw [htext] at hgroup
  have htail : uri.matches (prefixText (some uri.secure) ++ (user ++ tailText (some text) none)) = true := by
    rw [tailText, Pattern.groupText, Pattern.groupText, List.append_nil]
    exact hmatches
  have hagrees := ((matches_tail huser hclear hgroup hempty).mp htail).1
  -- the item again, with a value that goes up to the parameters
  obtain ⟨part, hpart⟩ : ∃ part, part = raw.1 ++ '=' :: ['@', 'h'] := ⟨_, rfl⟩
  have hline : '\n' ∉ part := hpart ▸ not_mem_name (hname '\n' (by decide)) (by decide)
  have hmark : '?' ∉ part := hpart ▸ not_mem_name (hname '?' (by decide)) (by decide)
  have hseparator : ';' ∉ part := hpart ▸ not_mem_name (hname ';' (by decide)) (by decide)
  have hlonger := isGroup_extended hline (show ';' ≠ '\n' by decide) (hgroup.1 text rfl).2
  have hmarks : ∀ given ∈ some (part ++ ';' :: text), '?' ∉ given := by
    intro given hgiven
    obtain rfl := Option.some.inj hgiven
    exact not_mem_name hmark (List.not_mem_cons_of_ne_of_not_mem (by decide) (hgroup.2 text rfl))
  have hextended : agrees ';' uri.parameters (some (part ++ ';' :: text)) = true := by
    refine agrees_extended htext hraw (hname '=' (by decide)) ?_ hseparator ?_ hagrees
    · rw [hpart]
      exact partition_of_item (hname '=' (by decide))
    · exact fun item hitem hmem => (hfree item hitem).1.2 ';' hmem (by decide)
  have htrue := (matches_tail huser hclear ⟨hlonger, hmarks⟩ hempty).mpr ⟨hextended, rfl⟩
  have htexts : (longer uri user ';' raw.1 raws []).text = prefixText (some uri.secure) ++
      (user ++ tailText (some (part ++ ';' :: text)) none) := by
    have hheaders : itemsText '&' [] = none := rfl
    simp [Address.text, longer, htext, hheaders, hpart, domainText, portDigits, tailText, Pattern.groupText]
  have hfalse := h.other _ haddress (longer_differs huser)
  rw [htexts, htrue] at hfalse
  exact absurd hfalse (by decide)

/-- With headers too. -/
theorem SIPURI.Recognises.headers {uri : SIPURI} {user : Str} (h : uri.Recognises user) (hwell : uri.WellFormed)
    (huser : uri.user = some user) : uri.headers.items = [] := by
  by_contra hne
  have hclear := h.clear hwell huser
  have hempty : IsGroup none ∧ ∀ text ∈ (none : Option Str), '?' ∉ text := ⟨fun _ h => absurd h (Option.not_mem_none _), fun _ h => absurd h (Option.not_mem_none _)⟩
  obtain ⟨raws, raw, text, hraw, htext, hraws, hmatches⟩ := h.raws ⟨true, false, false, true⟩ hne (by
    rw [SIPURI.printed, SIPURI.userText, h.password huser, uri.schemeText_eq]
    cases SIPURI.formatItems SIPURI.headerSafe '?' '&' uri.headers <;> simp)
  have hfree := free_rawItems ['\n', '@', '&'] hraws hwell.headers (forall_mem_marks (by decide))
  have hname := (hfree raw hraw).2
  -- a header after the host, which takes the part in front of the printed ones
  have haddress : (longer uri user '?' raw.1 [] ((['z'], some []) :: raws)).Clear := by
    refine longer_clear hclear (by decide) (fun char hchar hmem => ?_) (List.forall_mem_nil _)
      (List.forall_mem_cons.mpr ⟨by simp [itemText], fun raw hraw => (hfree raw hraw).1⟩)
    exact hname char (List.subset_append_left ['\n', '@'] _ hmem) hchar
  have hgroup : IsGroup (itemsText '&' raws) := isGroup_itemsText (by decide) fun item hitem =>
    ⟨(hfree item hitem).1.1, fun hmem => (hfree item hitem).1.2 _ hmem (by decide)⟩
  rw [htext] at hgroup
  have htail : uri.matches (prefixText (some uri.secure) ++ (user ++ tailText none (some text))) = true := hmatches
  have hagrees := ((matches_tail huser hclear hempty hgroup).mp htail).2
  obtain ⟨part, hpart⟩ : ∃ part, part = raw.1 ++ '=' :: ['@', 'h', '?', 'z', '='] := ⟨_, rfl⟩
  have hline : '\n' ∉ part := hpart ▸ not_mem_name (hname '\n' (by decide)) (by decide)
  have hseparator : '&' ∉ part := hpart ▸ not_mem_name (hname '&' (by decide)) (by decide)
  have hlonger := isGroup_extended hline (show '&' ≠ '\n' by decide) (hgroup text rfl).2
  have hextended : agrees '&' uri.headers (some (part ++ '&' :: text)) = true := by
    refine agrees_extended htext hraw (hname '=' (by decide)) ?_ hseparator ?_ hagrees
    · rw [hpart]
      exact partition_of_item (hname '=' (by decide))
    · exact fun item hitem hmem => (hfree item hitem).1.2 '&' hmem (by decide)
  have htrue := (matches_tail huser hclear hempty hlonger).mpr ⟨rfl, hextended⟩
  have htexts : (longer uri user '?' raw.1 [] ((['z'], some []) :: raws)).text = prefixText (some uri.secure) ++
      (user ++ tailText none (some (part ++ '&' :: text))) := by
    have hparameters : itemsText ';' [] = none := rfl
    have hheaders : itemsText '&' ((['z'], some []) :: raws) = some ('z' :: '=' :: '&' :: text) := by
      rw [itemsText] at htext
      split at htext
      next => cases htext
      next hcons =>
        obtain ⟨first, rest, rfl⟩ := List.exists_cons_of_ne_nil hcons
        obtain rfl := Option.some.inj htext
        rfl
    simp [Address.text, longer, hparameters, hheaders, hpart, domainText, portDigits, tailText, Pattern.groupText]
  have hfalse := h.other _ haddress (longer_differs huser)
  rw [htexts, htrue] at hfalse
  exact absurd hfalse (by decide)

/-- The URIs that match all that is printed of them, and no address with other parts, are the plain ones. -/
theorem SIPURI.recognises_iff {uri : SIPURI} {user : Str} (hwell : uri.WellFormed) (huser : uri.user = some user) :
    uri.Recognises user ↔ uri.Plain user := by
  constructor
  · intro h
    exact ⟨h.password huser, h.clear hwell huser, h.scheme hwell huser, h.host hwell huser, h.parameters hwell huser,
      h.headers hwell huser⟩
  · intro h
    exact ⟨h.own hwell huser, fun address => h.other huser⟩

/-- `sip:bob@h:5060` -/
def bob : SIPURI :=
  ⟨some "bob".toList, none, ['h'], some 5060, by simp, false, Dict.empty, Dict.empty⟩

theorem bob_recognises : bob.Recognises "bob".toList := by
  refine (SIPURI.recognises_iff ⟨by simp [bob], by simp [bob, Dict.empty], by simp [bob, Dict.empty]⟩ rfl).mpr
    ⟨rfl, ⟨by decide, by decide, by simp⟩, ?_, fun hport => (nomatch hport), rfl, rfl⟩
  intro secure rest heq
  rw [schemeOf_eq] at heq
  cases heq

/-- `sip:bob@h;lr` -/
def looseRouter : SIPURI :=
  ⟨some "bob".toList, none, ['h'], none, by simp, false, ⟨[(['l', 'r'], .none)], List.nodup_singleton _⟩, Dict.empty⟩

/-- A parameter without a value is read as the empty string. -/
theorem looseRouter_not_recognised : looseRouter.WellFormed ∧
    looseRouter.format = some "sip:bob@h;lr".toList ∧ looseRouter.matches "sip:bob@h;lr".toList = false := by
  refine ⟨⟨by simp [looseRouter], by simp [looseRouter], by simp [looseRouter, Dict.empty]⟩, rfl, ?_⟩
  have htail : ClearTail (some ['h']) none (some ['l', 'r']) none := by
    refine ⟨fun host hhost => ?_, fun _ h => absurd h (Option.not_mem_none _), fun _ => rfl, ⟨?_, ?_⟩, fun _ h => absurd h (Option.not_mem_none _)⟩
    · obtain rfl := Option.some.inj hhost
      refine ⟨by decide, by simp, ?_⟩
      rintro - ⟨before, digits, heq, -⟩
      have hcolon : ':' ∈ ['h'] := by
        rw [heq]
        simp
      exact absurd hcolon (by decide)
    · exact fun text htext => Option.some.inj htext ▸ ⟨by decide, by decide⟩
    · exact fun text htext => Option.some.inj htext ▸ by decide
  have hrun := run_matchRe (fun hnone => absurd hnone (Option.some_ne_none false))
    (⟨by decide, by decide, by simp⟩ : ClearUser "bob".toList) htail
  rw [← Bool.not_eq_true]
  intro hmatches
  have haccepts := (SIPURI.matches_of_run hrun).mp hmatches
  exact absurd haccepts.parameters (by decide)

end SipSimple.Core
