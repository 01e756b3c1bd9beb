import SipSimple.Configuration.FileRoundTrip

/-!
# Which dictionaries survive `save` and `load`

The converse of the round trip needs no line in particular. Every token of a written line is a string
the writer and the tokenizer agree on, and no declaration makes an empty list, so whatever `load`
returns for a written file is preserved. A dictionary that is not cannot be what is returned.
-/

namespace SipSimple.Configuration

/-! ### The lines of a written file -/

/-- The lines `_build_group` makes. -/
inductive WrittenLine : Unicode → Prop
  | blank : WrittenLine []
  | none (indentation : Nat) (name : Unicode) :
      WrittenLine (indentSpaces indentation ++ escape name ++ [' ', '='])
  | unicode (indentation : Nat) (name value : Unicode) :
      WrittenLine (indentSpaces indentation ++ escape name ++ [' ', '=', ' '] ++ escape value)
  | list (indentation : Nat) (name : Unicode) (items : List Unicode) :
      WrittenLine (indentSpaces indentation ++ escape name ++ [' ', '=', ' '] ++ listText items)
  | group (indentation : Nat) (name : Unicode) :
      WrittenLine (indentSpaces indentation ++ escape name ++ [':'])

mutual

theorem buildItem_written (indentation : Nat) (item : Unicode × Data) :
    ∀ line ∈ (buildItem indentation item).1 ++ (buildItem indentation item).2, WrittenLine line := by
  match item with
  | (name, data) => exact buildData_written indentation name data

theorem buildData_written (indentation : Nat) (name : Unicode) (data : Data) :
    ∀ line ∈ (buildData indentation name data).1 ++ (buildData indentation name data).2,
      WrittenLine line := by
  match data with
  | .none =>
      simp only [buildData, List.append_nil, List.mem_singleton, forall_eq]
      exact .none indentation name
  | .unicode value =>
      simp only [buildData, List.append_nil, List.mem_singleton, forall_eq]
      exact .unicode indentation name value
  | .list items =>
      simp only [buildData, List.append_nil, List.mem_singleton, forall_eq]
      exact .list indentation name items
  | .dict items =>
      have hitems := buildItems_written (indentation + 1) items
      intro line hline
      rw [buildData, List.nil_append, List.mem_append, List.mem_append, List.mem_singleton,
        List.mem_singleton] at hline
      rcases hline with (rfl | hline) | rfl
      · exact .group indentation name
      · exact hitems line hline
      · exact .blank

theorem buildItems_written (indentation : Nat) (items : Items) :
    ∀ line ∈ (buildItems indentation items).1 ++ (buildItems indentation items).2,
      WrittenLine line := by
  match items with
  | [] => simp [buildItems]
  | item :: rest =>
      have hitem := buildItem_written indentation item
      have hrest := buildItems_written indentation rest
      simp only [buildItems, List.mem_append] at hitem hrest ⊢
      rintro line ((hline | hline) | (hline | hline))
      · exact hitem line (Or.inl hline)
      · exact hrest line (Or.inl hline)
      · exact hitem line (Or.inr hline)
      · exact hrest line (Or.inr hline)

end

theorem newline_not_mem_joinEscaped (items : List Unicode) : '\n' ∉ joinEscaped items := by
  induction items with
  | nil => simp [joinEscaped]
  | cons value items ih =>
      cases items with
      | nil => exact newline_not_mem_escape value
      | cons other items =>
          rw [joinEscaped]
          · simp [ih, newline_not_mem_escape]
          · simp

theorem WrittenLine.newline_not_mem {line : Unicode} (h : WrittenLine line) : '\n' ∉ line := by
  have hspaces (indentation : Nat) : '\n' ∉ indentSpaces indentation := by simp [indentSpaces]
  cases h with
  | blank => simp
  | list indentation name items =>
      have hcomma : '\n' ∉ (if items.length = 1 then [','] else []) := by split_ifs <;> decide
      simp only [listText, List.mem_append, not_or]
      exact ⟨⟨⟨hspaces _, newline_not_mem_escape name⟩, by decide⟩,
        newline_not_mem_joinEscaped items, hcomma⟩
  | none | unicode | group => simp [hspaces, newline_not_mem_escape]

/-! ### Texts that hold only what the writer writes -/

/-- A text of unquoted characters and of strings the writer quoted. -/
inductive TokenText : Unicode → Prop
  | nil : TokenText []
  | char {char : Char} {rest : Unicode} (hsingle : char ≠ '\'') (hdouble : char ≠ '"')
      (hslash : char ≠ '\\') (hrest : TokenText rest) : TokenText (char :: rest)
  | quoted {value rest : Unicode} (hvalue : value = [] ∨ value.any isEscapeCharacter = true)
      (hrest : TokenText rest) : TokenText ('"' :: (value.flatMap escapeChar ++ '"' :: rest))

theorem TokenText.append {left right : Unicode} (hleft : TokenText left) (hright : TokenText right) :
    TokenText (left ++ right) := by
  induction hleft with
  | nil => exact hright
  | char hsingle hdouble hslash _ ih => exact .char hsingle hdouble hslash ih
  | quoted hvalue _ ih =>
      rw [List.cons_append, List.append_assoc, List.cons_append]
      exact .quoted hvalue ih

theorem tokenText_of_forall {text : Unicode}
    (h : ∀ char ∈ text, char ≠ '\'' ∧ char ≠ '"' ∧ char ≠ '\\') : TokenText text := by
  induction text with
  | nil => exact .nil
  | cons char text ih =>
      obtain ⟨hsingle, hdouble, hslash⟩ := h char List.mem_cons_self
      exact .char hsingle hdouble hslash (ih fun char hchar => h char (List.mem_cons_of_mem _ hchar))

theorem tokenText_escape (value : Unicode) : TokenText (escape value) := by
  by_cases hquoted : value = [] ∨ value.any isEscapeCharacter = true
  · rw [escape_quoted hquoted]
    exact .quoted hquoted .nil
  · obtain ⟨hnil, hany⟩ := not_or.mp hquoted
    rw [Bool.not_eq_true] at hany
    rw [escape_plain hnil hany]
    refine tokenText_of_forall fun char hchar => ?_
    obtain ⟨hsingle, hdouble, hslash, -⟩ :=
      not_mem_of_plain (by simpa using List.any_eq_false.mp hany char hchar)
    exact ⟨hsingle, hdouble, hslash⟩

theorem tokenText_joinEscaped (items : List Unicode) : TokenText (joinEscaped items) := by
  induction items with
  | nil => exact .nil
  | cons value items ih =>
      cases items with
      | nil => exact tokenText_escape value
      | cons other items =>
          rw [joinEscaped]
          · exact ((tokenText_escape value).append (tokenText_of_forall (by simp))).append ih
          · simp

theorem WrittenLine.tokenText {line : Unicode} (h : WrittenLine line) :
    TokenText (line ++ ['\n']) := by
  have hspaces (indentation : Nat) : TokenText (indentSpaces indentation) := by
    refine tokenText_of_forall fun char hchar => ?_
    rw [List.eq_of_mem_replicate hchar]
    decide
  refine TokenText.append ?_ (tokenText_of_forall (by simp))
  cases h with
  | blank => exact .nil
  | none _ name | group _ name =>
      exact ((hspaces _).append (tokenText_escape name)).append (tokenText_of_forall (by simp))
  | unicode _ name value =>
      exact (((hspaces _).append (tokenText_escape name)).append
        (tokenText_of_forall (by simp))).append (tokenText_escape value)
  | list _ name items =>
      refine (((hspaces _).append (tokenText_escape name)).append
        (tokenText_of_forall (by simp))).append ((tokenText_joinEscaped items).append ?_)
      split_ifs
      · exact tokenText_of_forall (by simp)
      · exact .nil

theorem TokenText.of_concat_space {text init : Unicode} {last : Char} (h : TokenText text)
    (htext : text = init ++ [last]) (hlast : isAsciiSpace last = true) : TokenText init := by
  induction h generalizing init with
  | nil => simp at htext
  | char hsingle hdouble hslash _ ih =>
      cases init with
      | nil => exact .nil
      | cons first init =>
          obtain ⟨rfl, hrest⟩ := List.cons.inj htext
          exact .char hsingle hdouble hslash (ih hrest)
  | @quoted value rest hvalue hrest ih =>
      rcases List.eq_nil_or_concat rest with rfl | ⟨rest', char, rfl⟩
      · have hsplit : ('"' :: value.flatMap escapeChar) ++ ['"'] = init ++ [last] := htext
        obtain ⟨-, hquote⟩ := List.append_inj' hsplit rfl
        obtain rfl : '"' = last := by simpa using hquote
        exact absurd hlast (by decide)
      · have hsplit : ('"' :: (value.flatMap escapeChar ++ '"' :: rest')) ++ [char] = init ++ [last] := by
          simpa using htext
        obtain ⟨rfl, hchar⟩ := List.append_inj' hsplit rfl
        obtain rfl : char = last := by simpa using hchar
        exact .quoted hvalue (ih (by simp))

theorem TokenText.rstrip {text : Unicode} (h : TokenText text) :
    TokenText (Configuration.rstrip text) := by
  induction text using List.reverseRecOn with
  | nil => exact h
  | append_singleton init last ih =>
      rw [Configuration.rstrip]
      by_cases hlast : isAsciiSpace last = true
      · rw [List.rdropWhile_concat_pos _ _ _ hlast]
        exact ih (h.of_concat_space rfl hlast)
      · rwa [List.rdropWhile_concat_neg _ _ _ hlast]

theorem TokenText.advance {text : Unicode} (h : TokenText text) :
    TokenText (advanceToNextToken text).2 := by
  have hdrop : TokenText (text.dropWhile isspace) := by
    induction h with
    | nil => exact .nil
    | @char char rest hsingle hdouble hslash hrest ih =>
        rw [List.dropWhile_cons]
        split_ifs
        · exact ih
        · exact .char hsingle hdouble hslash hrest
    | quoted hvalue hrest _ =>
        rw [List.dropWhile_cons, if_neg (by decide)]
        exact .quoted hvalue hrest
  simp only [advanceToNextToken]
  split_ifs
  · exact .nil
  · exact hdrop

theorem TokenText.tail {char : Char} {rest : Unicode} (h : TokenText (char :: rest))
    (hchar : char ≠ '"') : TokenText rest := by
  cases h with
  | char _ _ _ hrest => exact hrest
  | quoted => exact absurd rfl hchar

/-! ### What a written file is read as -/

theorem TextPreserved.cons {char : Char} {value : Unicode} (hspace : isspace char = false)
    (h : TextPreserved value) : TextPreserved (char :: value) := by
  intro hany
  rw [List.any_cons, hspace, Bool.false_or] at hany
  rw [List.any_cons, h hany, Bool.or_true]

theorem TextPreserved.append {value rest : Unicode}
    (hvalue : value = [] ∨ value.any isEscapeCharacter = true) (h : TextPreserved rest) :
    TextPreserved (value ++ rest) := by
  rcases hvalue with rfl | hvalue
  · exact h
  · intro _
    rw [List.any_append, hvalue, Bool.true_or]

variable {delimiter : Unicode}

/-- **Every token of a written line is a preserved string.** -/
theorem TokenText.token {text : Unicode} (h : TokenText text) (hdelimiter : '"' ∉ delimiter)
    (lineno : Nat) :
    ∃ token rest, tokenIterator lineno delimiter none text = .ok (token, rest) ∧
      TextPreserved token ∧ TokenText rest := by
  have hnil : TextPreserved [] := by decide
  induction h with
  | nil => exact ⟨[], [], by rw [tokenIterator.eq_def]; rfl, hnil, .nil⟩
  | @char char rest hsingle hdouble hslash hrest ih =>
      rw [tokenIterator.eq_def]
      simp only [true_and, hsingle, hdouble, hslash, or_self, if_false]
      split_ifs with hmem hhash hspace
      · exact ⟨[], char :: rest, rfl, hnil, .char hsingle hdouble hslash hrest⟩
      · exact ⟨[], [], rfl, hnil, .nil⟩
      · exact ⟨[], rest, rfl, hnil, hrest⟩
      · obtain ⟨token, rest', htoken, hpreserved, htext⟩ := ih
        exact ⟨char :: token, rest', by rw [htoken]; rfl,
          hpreserved.cons (by simpa using hspace), htext⟩
  | @quoted value rest hvalue hrest ih =>
      obtain ⟨token, rest', htoken, hpreserved, htext⟩ := ih
      refine ⟨value ++ token, rest', ?_, hpreserved.append hvalue, htext⟩
      rw [tokenIterator_open hdelimiter, tokenIterator_quoted, htoken]
      rfl

variable {lineno : Nat}

/-- The values read so far. -/
def ListPreserved : Option (List Unicode) → Prop
  | none => True
  | some items => items ≠ [] ∧ ∀ item ∈ items, TextPreserved item

theorem ListPreserved.append {valueList : Option (List Unicode)} (h : ListPreserved valueList)
    {value : Unicode} (hvalue : TextPreserved value) :
    ListPreserved (some (valueList.getD [] ++ [value])) := by
  refine ⟨by simp, fun item hitem => ?_⟩
  rcases List.mem_append.mp hitem with hitem | hitem
  · cases valueList with
    | none => simp at hitem
    | some items => exact h.2 item hitem
  · rwa [List.mem_singleton.mp hitem]

theorem readValues_preserved {line : Unicode} {value result : LineValue}
    {valueList : Option (List Unicode)} (hline : TokenText line)
    (hvalue : value.toData.Preserved) (hlist : ListPreserved valueList)
    (h : readValues lineno line value valueList = .ok result) : result.toData.Preserved := by
  fun_induction readValues lineno line value valueList with
  | case1 value valueList =>
      cases h
      cases valueList with
      | none => exact hvalue
      | some items => exact hlist
  | case2 | case5 => cases h
  | case3 line value valueList hnonempty value' afterValue htoken hend =>
      obtain ⟨token, rest, htoken', hpreserved, -⟩ :=
        hline.token (by decide : '"' ∉ [',']) lineno
      obtain ⟨rfl, rfl⟩ : token = value' ∧ rest = afterValue := by
        simpa [htoken] using htoken'.symm
      cases h
      cases valueList with
      | none => exact hpreserved
      | some items => exact hlist.append hpreserved
  | case4 line value valueList hnonempty value' afterValue htoken afterComma hcomma ih =>
      obtain ⟨token, rest, htoken', hpreserved, hrest⟩ :=
        hline.token (by decide : '"' ∉ [',']) lineno
      obtain ⟨rfl, rfl⟩ : token = value' ∧ rest = afterValue := by
        simpa [htoken] using htoken'.symm
      have hafter := hrest.advance
      rw [hcomma] at hafter
      exact ih (hafter.tail (by decide)).advance hpreserved (hlist.append hpreserved) h

theorem parseLine_preserved {text : Unicode} {line : Line} (htext : TokenText text)
    (h : parseLine text lineno = .ok (some line)) :
    TextPreserved line.name ∧ line.value.toData.Preserved := by
  have hline := htext.rstrip.advance
  obtain ⟨name, rest, htoken, hname, hrest⟩ :=
    hline.token (by decide : '"' ∉ [':', '=']) lineno
  have hafter := hrest.advance
  rw [parseLine] at h
  by_cases hblank : (advanceToNextToken (rstrip text)).2 = []
  · simp [hblank] at h
  · cases hseparator : (advanceToNextToken rest).2 with
    | nil => simp [hblank, htoken, hseparator] at h
    | cons separator after =>
        rw [hseparator] at hafter
        simp only [hblank, htoken, hseparator, if_false] at h
        split_ifs at h with hvalid
        · cases h
          exact ⟨hname, by simp [LineValue.toData, Data.Preserved]⟩
        · cases hvalue : readValues lineno (advanceToNextToken after).2 .none none with
          | error error => simp [hvalue, Except.map] at h
          | ok value =>
              rw [hvalue] at h
              cases h
              refine ⟨hname, readValues_preserved (hafter.tail ?_).advance
                (by simp [LineValue.toData, Data.Preserved]) (show ListPreserved none from trivial)
                hvalue⟩
              rintro rfl
              exact hvalid (by decide)

/-! ### The dictionary that is returned -/

theorem itemsPreserved_insert {items : Items} (h : ItemsPreserved items) {name : Unicode}
    {data : Data} (hname : TextPreserved name) (hdata : data.Preserved) :
    ItemsPreserved (SortedDict.insert name data items) := by
  rw [itemsPreserved_iff] at h ⊢
  intro item hitem
  rcases SortedDict.mem_insert hitem with rfl | hitem
  · exact ⟨hname, hdata⟩
  · exact h item hitem

theorem itemsPreserved_updateAt {update : Items → Items}
    (hupdate : ∀ items, ItemsPreserved items → ItemsPreserved (update items)) (path : List Unicode)
    {items : Items} (h : ItemsPreserved items) : ItemsPreserved (updateAt update path items) := by
  induction path generalizing items with
  | nil => exact hupdate items h
  | cons name path ih =>
      by_cases hdict : ∃ group, SortedDict.lookup name items = some (.dict group)
      · obtain ⟨group, hgroup⟩ := hdict
        have hmem := itemsPreserved_iff.mp h _ (SortedDict.mem_of_lookup hgroup)
        rw [updateAt_dict hgroup]
        exact itemsPreserved_insert h hmem.1 (ih hmem.2)
      · rwa [updateAt_no_dict (not_exists.mp hdict)]

theorem loadDeclaration_preserved {state state' : LoadState} {line : Line}
    (hstate : ItemsPreserved state.data) (hname : TextPreserved line.name)
    (hvalue : line.value.toData.Preserved) (h : loadDeclaration state line = .ok state') :
    ItemsPreserved state'.data := by
  rw [loadDeclaration] at h
  split at h
  · cases h
  · split_ifs at h
    · cases h
      exact itemsPreserved_updateAt
        (fun items hitems => itemsPreserved_insert hitems hname
          (by simp [Data.Preserved, ItemsPreserved])) _ hstate
    · cases h
      exact itemsPreserved_updateAt
        (fun items hitems => itemsPreserved_insert hitems hname hvalue) _ hstate
    · cases h
      exact hstate

theorem loadLines_preserved {lines : List Unicode} (hlines : ∀ line ∈ lines, TokenText line)
    {state state' : LoadState} (hstate : ItemsPreserved state.data)
    (h : loadLines state lines lineno = .ok state') : ItemsPreserved state'.data := by
  induction lines generalizing state lineno with
  | nil =>
      cases h
      exact hstate
  | cons line lines ih =>
      have hrest := fun other hother => hlines other (List.mem_cons_of_mem line hother)
      simp only [loadLines, loadLine] at h
      cases hparse : parseLine line lineno with
      | error error => simp [hparse] at h
      | ok parsed =>
          cases parsed with
          | none =>
              simp only [hparse] at h
              exact ih hrest hstate h
          | some declared =>
              simp only [hparse] at h
              cases hload : loadDeclaration state declared with
              | error error => simp [hload] at h
              | ok next =>
                  simp only [hload] at h
                  obtain ⟨hname, hvalue⟩ :=
                    parseLine_preserved (hlines line List.mem_cons_self) hparse
                  exact ih hrest (loadDeclaration_preserved hstate hname hvalue hload) h

theorem load_save_eq (items : Items) :
    load (some (save items)) =
      (loadLines ⟨[], [⟨-1, []⟩]⟩
        ((if buildGroup items 0 = [] then [[]] else buildGroup items 0).map
          fun line => line ++ ['\n']) 1).map LoadState.data := by
  rw [load, save, readLines_joinLines]
  exact fun line hline => (buildItems_written 0 items line hline).newline_not_mem

/-- Whatever a written file is read as, it is preserved. -/
theorem load_save_preserved {items result : Items}
    (h : load (some (save items)) = .ok result) : ItemsPreserved result := by
  rw [load_save_eq] at h
  cases hload : loadLines ⟨[], [⟨-1, []⟩]⟩
      ((if buildGroup items 0 = [] then [[]] else buildGroup items 0).map
        fun line => line ++ ['\n']) 1 with
  | error error => simp [hload, Except.map] at h
  | ok state =>
      rw [hload] at h
      cases h
      refine loadLines_preserved (fun line hline => ?_) (by simp [ItemsPreserved]) hload
      obtain ⟨text, htext, rfl⟩ := List.mem_map.mp hline
      split_ifs at htext
      · rw [List.mem_singleton.mp htext]
        exact WrittenLine.blank.tokenText
      · exact (buildItems_written 0 items text htext).tokenText

theorem load_save_of_preserved (data : Dictionary) (h : ItemsPreserved data.items) :
    load (some (save data.items)) = .ok data.items := by
  obtain ⟨hsettings, hgroups⟩ := enters_items 0 data.items data.conforming h
  have hopen : OpenAt 0 [⟨-1, []⟩] ⟨-1, []⟩ [] := OpenAt.refl (by decide)
  obtain ⟨stack, -, hloads⟩ := (hsettings.append hgroups) [] _ _ _ hopen
  rw [enterAll_root, SortedDict.insertAll_of_perm data.conforming.sorted
    (settings_append_groups_perm data.items)] at hloads
  rw [load_save_eq]
  split_ifs with hempty
  · have hblank := (Loads.blank ⟨[], [⟨-1, []⟩]⟩).append
      (show Loads ⟨[], [⟨-1, []⟩]⟩ (buildGroup data.items 0) ⟨data.items, stack⟩ from hloads)
    rw [hempty, List.append_nil] at hblank
    rw [hblank 1]
    rfl
  · rw [show buildGroup data.items 0
      = (buildItems 0 data.items).1 ++ (buildItems 0 data.items).2 from rfl, hloads 1]
    rfl

/-- **`load` returns what `save` was given exactly for the preserved dictionaries**: no list in them
is empty, and every string with white space has one of `escape_characters_re`. -/
theorem load_save_iff (data : Dictionary) :
    load (some (save data.items)) = .ok data.items ↔ ItemsPreserved data.items :=
  ⟨load_save_preserved, load_save_of_preserved data⟩

/-- `{'a': []}` is read back as `{'a': None}`. -/
theorem load_save_not_identity :
    ¬ ∀ data : Dictionary, load (some (save data.items)) = .ok data.items := by
  intro h
  have hread : load (some (save [(['a'], .list [])])) = .ok [(['a'], .none)] := by rfl
  have hsame := h ⟨[(['a'], .list [])], by simp [ItemsConforming, ItemConforming, Data.Conforming]⟩
  rw [hread] at hsame
  simp at hsame

end SipSimple.Configuration
