import SipSimple.Configuration.FileTokens

/-!
# What `load` makes of a file written by `save`

Two things come back changed. A string with white space outside `escape_characters_re` is written
without quotes unless something else in it needs them, and the tokenizer ends it at that white space.
An empty list is written like `None`. `ItemsPreserved` says that a dictionary has neither, at any
depth. Such a dictionary is read back one declaration at a time: each setting line enters its value
into the group that is open, and the lines of a group enter the whole group.
-/

namespace SipSimple.Configuration

mutual

/-- A value with no string the tokenizer breaks and no empty list. -/
def Data.Preserved : Data → Prop
  | .none => True
  | .unicode value => TextPreserved value
  | .list items => items ≠ [] ∧ ∀ item ∈ items, TextPreserved item
  | .dict items => ItemsPreserved items

def ItemsPreserved : Items → Prop
  | [] => True
  | item :: rest => ItemPreserved item ∧ ItemsPreserved rest

def ItemPreserved : Unicode × Data → Prop
  | (name, data) => TextPreserved name ∧ data.Preserved

end

theorem itemsPreserved_iff {items : Items} :
    ItemsPreserved items ↔ ∀ item ∈ items, TextPreserved item.1 ∧ item.2.Preserved := by
  induction items with
  | nil => simp [ItemsPreserved]
  | cons item rest ih =>
      obtain ⟨name, data⟩ := item
      rw [ItemsPreserved, ItemPreserved, ih, List.forall_mem_cons]

theorem ItemsConforming.sorted {items : Items} (h : ItemsConforming items) :
    SortedDict.Sorted items := by
  induction items with
  | nil => exact List.Pairwise.nil
  | cons item rest ih =>
      refine List.pairwise_cons.mpr ⟨fun other hother => ?_, ih h.2.2⟩
      exact h.2.1 other.1 (List.mem_map_of_mem hother)

/-! ### One line -/

/-- A text that `rstrip` leaves as it is. -/
def Ends (text : Unicode) : Prop := ∃ init last, text = init ++ [last] ∧ isAsciiSpace last = false

theorem Ends.append {text : Unicode} (h : Ends text) (before : Unicode) : Ends (before ++ text) := by
  obtain ⟨init, last, rfl, hlast⟩ := h
  exact ⟨before ++ init, last, (List.append_assoc ..).symm, hlast⟩

theorem Ends.rstrip {text : Unicode} (h : Ends text) :
    Configuration.rstrip (text ++ ['\n']) = text := by
  obtain ⟨init, last, rfl, hlast⟩ := h
  rw [Configuration.rstrip, List.rdropWhile_concat_pos _ _ _ (by decide),
    List.rdropWhile_concat_neg _ _ _ (by simp [hlast])]

variable {lineno : Nat}

/-- A line with a name and a separator: what is left of it decides. -/
theorem parseLine_start {line afterName rest after name : Unicode} {indentation : Nat}
    {separator : Char} (hstrip : rstrip line = indentSpaces indentation ++ (escape name ++ afterName))
    (hname : TextPreserved name) (hnonempty : name ≠ [])
    (htoken : tokenIterator lineno [':', '='] none (escape name ++ afterName) = .ok (name, rest))
    (hrest : (advanceToNextToken rest).2 = separator :: after)
    (hseparator : separator = ':' ∨ separator = '=') :
    parseLine line lineno =
      if (advanceToNextToken after).2 = [] then
        .ok (some ⟨4 * indentation, name, separator, .none⟩)
      else if separator = ':' then .error (.charactersAfterColon lineno)
      else (readValues lineno (advanceToNextToken after).2 .none none).map
        fun value => some ⟨4 * indentation, name, separator, value⟩ := by
  have hadvance : advanceToNextToken (rstrip line)
      = (4 * indentation, escape name ++ afterName) := by
    rw [hstrip]
    exact advanceToNextToken_spaces _ (advanceToNextToken_escape hname afterName)
  have hvalid : ¬ (separator ≠ ':' ∧ separator ≠ '=') := by
    rcases hseparator with rfl | rfl <;> decide
  simp only [parseLine, hadvance, List.append_eq_nil_iff, escape_ne_nil, false_and, if_false,
    htoken, hrest, hvalid, hnonempty]

theorem parseLine_group {indentation : Nat} {name : Unicode} (hname : TextPreserved name)
    (hnonempty : name ≠ []) :
    parseLine (indentSpaces indentation ++ escape name ++ [':'] ++ ['\n']) lineno
      = .ok (some ⟨4 * indentation, name, ':', .none⟩) := by
  have hends : Ends (indentSpaces indentation ++ (escape name ++ [':'])) :=
    Ends.append ⟨escape name, ':', rfl, by decide⟩ _
  rw [List.append_assoc (indentSpaces indentation),
    parseLine_start hends.rstrip hname hnonempty
      (tokenIterator_escape_delimiter delimiters_name hname (by decide) []) (by rfl) (Or.inl rfl)]
  rfl

theorem parseLine_none {indentation : Nat} {name : Unicode} (hname : TextPreserved name)
    (hnonempty : name ≠ []) :
    parseLine (indentSpaces indentation ++ escape name ++ [' ', '='] ++ ['\n']) lineno
      = .ok (some ⟨4 * indentation, name, '=', .none⟩) := by
  have hends : Ends (indentSpaces indentation ++ (escape name ++ [' ', '='])) :=
    Ends.append (Ends.append ⟨[' '], '=', rfl, by decide⟩ _) _
  rw [List.append_assoc (indentSpaces indentation),
    parseLine_start hends.rstrip hname hnonempty
      (tokenIterator_escape_space delimiters_name (by decide) hname ['=']) (by rfl) (Or.inr rfl)]
  rfl

theorem parseLine_value {indentation : Nat} {name text : Unicode} {value : LineValue}
    (hname : TextPreserved name) (hnonempty : name ≠ []) (htext : text ≠ []) (hends : Ends text)
    (hskip : advanceToNextToken text = (0, text))
    (hvalue : readValues lineno text .none none = .ok value) :
    parseLine (indentSpaces indentation ++ escape name ++ [' ', '=', ' '] ++ text ++ ['\n']) lineno
      = .ok (some ⟨4 * indentation, name, '=', value⟩) := by
  have hends' : Ends (indentSpaces indentation ++ (escape name ++ ([' ', '=', ' '] ++ text))) :=
    ((hends.append _).append _).append _
  have hafter : advanceToNextToken (' ' :: text) = (1, text) :=
    advanceToNextToken_spaces 1 hskip
  have hline : indentSpaces indentation ++ escape name ++ [' ', '=', ' '] ++ text ++ ['\n']
      = indentSpaces indentation ++ (escape name ++ ([' ', '=', ' '] ++ text)) ++ ['\n'] := by
    simp only [List.append_assoc]
  have hseparator : (advanceToNextToken ('=' :: ' ' :: text)).2 = '=' :: ' ' :: text := rfl
  rw [hline, parseLine_start hends'.rstrip hname hnonempty
      (tokenIterator_escape_space delimiters_name (by decide) hname ('=' :: ' ' :: text))
      hseparator (Or.inr rfl)]
  simp only [hafter, if_neg htext, hvalue]
  rfl

/-! ### Values -/

theorem readValues_nil (before : LineValue) (items : List Unicode) :
    readValues lineno [] before (some items) = .ok (.list items) := by
  rw [readValues.eq_def, if_pos rfl]

/-- A value that ends the line. -/
theorem readValues_end {line value afterValue : Unicode}
    (htoken : tokenIterator lineno [','] none line = .ok (value, afterValue))
    (hend : (advanceToNextToken afterValue).2 = []) (hline : line ≠ []) (before : LineValue)
    (valueList : Option (List Unicode)) :
    readValues lineno line before valueList
      = .ok (match valueList with
        | none => .unicode value
        | some items => .list (items ++ [value])) := by
  rw [readValues.eq_def lineno line, if_neg hline]
  split
  · next error herror => simp [htoken] at herror
  · next value' afterValue' hvalue =>
      obtain ⟨rfl, rfl⟩ : value = value' ∧ afterValue = afterValue' := by
        simpa [htoken] using hvalue
      split
      · rfl
      · next hcomma => simp [hend] at hcomma

/-- A value up to a comma: the loop goes on behind it. -/
theorem readValues_comma {line value afterValue afterComma : Unicode}
    (htoken : tokenIterator lineno [','] none line = .ok (value, afterValue))
    (hcomma : (advanceToNextToken afterValue).2 = ',' :: afterComma) (hline : line ≠ [])
    (before : LineValue) (valueList : Option (List Unicode)) :
    readValues lineno line before valueList
      = readValues lineno (advanceToNextToken afterComma).2 (.unicode value)
          (some (valueList.getD [] ++ [value])) := by
  rw [readValues.eq_def lineno line, if_neg hline]
  split
  · next error herror => simp [htoken] at herror
  · next value' afterValue' hvalue =>
      obtain ⟨rfl, rfl⟩ : value = value' ∧ afterValue = afterValue' := by
        simpa [htoken] using hvalue
      split
      · next hend => simp [hcomma] at hend
      · next char rest hrest =>
          obtain ⟨rfl, rfl⟩ : ',' = char ∧ afterComma = rest := by simpa [hcomma] using hrest
          rw [if_pos rfl]

theorem readValues_escape {value : Unicode} (h : TextPreserved value) (before : LineValue)
    (valueList : Option (List Unicode)) :
    readValues lineno (escape value) before valueList
      = .ok (match valueList with
        | none => .unicode value
        | some items => .list (items ++ [value])) :=
  readValues_end (tokenIterator_escape_end delimiters_value h) rfl (escape_ne_nil value) _ _

theorem readValues_escape_comma {value rest next : Unicode} (h : TextPreserved value)
    (before : LineValue) (valueList : Option (List Unicode))
    (hnext : (advanceToNextToken rest).2 = next) :
    readValues lineno (escape value ++ ',' :: rest) before valueList
      = readValues lineno next (.unicode value) (some (valueList.getD [] ++ [value])) := by
  rw [readValues_comma (tokenIterator_escape_delimiter delimiters_value h (by decide) rest) rfl
    (by simp [escape_ne_nil]), hnext]

theorem joinEscaped_head {value : Unicode} (items : List Unicode) (h : TextPreserved value)
    (after : Unicode) :
    advanceToNextToken (joinEscaped (value :: items) ++ after)
      = (0, joinEscaped (value :: items) ++ after) := by
  cases items with
  | nil => exact advanceToNextToken_escape h after
  | cons other items =>
      rw [joinEscaped]
      · rw [List.append_assoc, List.append_assoc]
        exact advanceToNextToken_escape h _
      · simp

theorem readValues_joinEscaped {items : List Unicode} (hnonempty : items ≠ [])
    (h : ∀ item ∈ items, TextPreserved item) (before : LineValue) (read : List Unicode) :
    readValues lineno (joinEscaped items) before (some read) = .ok (.list (read ++ items)) := by
  induction items generalizing before read with
  | nil => exact absurd rfl hnonempty
  | cons value items ih =>
      have hvalue := h value List.mem_cons_self
      cases items with
      | nil => exact readValues_escape hvalue before (some read)
      | cons other items =>
          have hskip : (advanceToNextToken (' ' :: joinEscaped (other :: items))).2
              = joinEscaped (other :: items) := by
            have hhead := joinEscaped_head items (h other (by simp)) []
            rw [List.append_nil] at hhead
            exact congrArg Prod.snd (advanceToNextToken_spaces 1 hhead)
          rw [joinEscaped, List.append_assoc, List.cons_append, List.cons_append, List.nil_append,
            readValues_escape_comma hvalue before _ hskip,
            ih (by simp) fun item hitem => h item (List.mem_cons_of_mem _ hitem)]
          · simp
          · simp

/-- The text of a list setting. -/
def listText (items : List Unicode) : Unicode :=
  joinEscaped items ++ (if items.length = 1 then [','] else [])

theorem readValues_listText {items : List Unicode} (hnonempty : items ≠ [])
    (h : ∀ item ∈ items, TextPreserved item) (before : LineValue) :
    readValues lineno (listText items) before none = .ok (.list items) := by
  obtain ⟨value, items, rfl⟩ := List.exists_cons_of_ne_nil hnonempty
  have hvalue := h value List.mem_cons_self
  cases items with
  | nil =>
      have hend : (advanceToNextToken []).2 = [] := rfl
      rw [listText, if_pos (by rfl), joinEscaped, readValues_escape_comma hvalue before none hend,
        readValues_nil]
      rfl
  | cons other items =>
      have hskip : (advanceToNextToken (' ' :: joinEscaped (other :: items))).2
          = joinEscaped (other :: items) := by
        have hhead := joinEscaped_head items (h other (by simp)) []
        rw [List.append_nil] at hhead
        exact congrArg Prod.snd (advanceToNextToken_spaces 1 hhead)
      rw [listText, if_neg (by simp), List.append_nil, joinEscaped, List.append_assoc,
        List.cons_append, List.cons_append, List.nil_append,
        readValues_escape_comma hvalue before _ hskip,
        readValues_joinEscaped (by simp) fun item hitem => h item (List.mem_cons_of_mem _ hitem)]
      · simp
      · simp

theorem joinEscaped_ends {items : List Unicode} (hnonempty : items ≠ []) :
    Ends (joinEscaped items) := by
  induction items with
  | nil => exact absurd rfl hnonempty
  | cons value items ih =>
      cases items with
      | nil => exact escape_last value
      | cons other items =>
          rw [joinEscaped]
          · exact (ih (by simp)).append _
          · simp

theorem listText_ends {items : List Unicode} (hnonempty : items ≠ []) : Ends (listText items) := by
  rw [listText]
  split_ifs
  · exact ⟨joinEscaped items, ',', rfl, by decide⟩
  · simpa using joinEscaped_ends hnonempty

/-! ### Lines of a file -/

theorem readLines_line {line : Unicode} (h : '\n' ∉ line) (rest : Unicode) :
    readLines (line ++ '\n' :: rest) = (line ++ ['\n']) :: readLines rest := by
  induction line with
  | nil => rw [List.nil_append, readLines, if_pos rfl, List.nil_append]
  | cons char line ih =>
      simp only [List.mem_cons, not_or] at h
      rw [List.cons_append, readLines, if_neg (Ne.symm h.1), ih h.2]
      rfl

/-- The lines of a written file; no line at all is written as a blank one. -/
theorem readLines_joinLines {lines : List Unicode} (h : ∀ line ∈ lines, '\n' ∉ line) :
    readLines (joinLines lines)
      = (if lines = [] then [[]] else lines).map fun line => line ++ ['\n'] := by
  induction lines with
  | nil => rfl
  | cons line lines ih =>
      rw [if_neg (by simp)]
      cases lines with
      | nil =>
          rw [joinLines, List.intercalate_singleton]
          exact readLines_line (h line List.mem_cons_self) []
      | cons other lines =>
          have hrest := ih fun line hline => h line (List.mem_cons_of_mem _ hline)
          rw [if_neg (by simp)] at hrest
          have hjoin : joinLines (line :: other :: lines)
              = line ++ '\n' :: joinLines (other :: lines) := by
            simp [joinLines, List.intercalate_cons_cons]
          rw [hjoin, readLines_line (h line List.mem_cons_self), hrest]
          rfl

theorem loadLines_append (state : LoadState) (lines lines' : List Unicode) (lineno : Nat) :
    loadLines state (lines ++ lines') lineno
      = (loadLines state lines lineno).bind
          fun state' => loadLines state' lines' (lineno + lines.length) := by
  induction lines generalizing state lineno with
  | nil => rfl
  | cons line lines ih =>
      rw [List.cons_append, loadLines, loadLines]
      cases hline : loadLine state line lineno with
      | error error => rfl
      | ok next =>
          change loadLines next (lines ++ lines') (lineno + 1) = _
          rw [ih, List.length_cons, Nat.add_comm lines.length, ← Nat.add_assoc]

/-- Reading the lines takes one state to the other, whatever their line numbers. -/
def Loads (state : LoadState) (lines : List Unicode) (state' : LoadState) : Prop :=
  ∀ lineno, loadLines state (lines.map fun line => line ++ ['\n']) lineno = .ok state'

theorem Loads.nil (state : LoadState) : Loads state [] state := fun _ => rfl

theorem Loads.append {state state' state'' : LoadState} {lines lines' : List Unicode}
    (h : Loads state lines state') (h' : Loads state' lines' state'') :
    Loads state (lines ++ lines') state'' := by
  intro lineno
  rw [List.map_append, loadLines_append, h lineno]
  exact h' _

theorem Loads.blank (state : LoadState) : Loads state [[]] state := fun _ => rfl

/-- A line that declares something. -/
theorem Loads.declaration {state state' : LoadState} {text : Unicode} {line : Line}
    (hparse : ∀ lineno, parseLine (text ++ ['\n']) lineno = .ok (some line))
    (hload : loadDeclaration state line = .ok state') : Loads state [text] state' := by
  intro lineno
  simp only [List.map_cons, List.map_nil, loadLines, loadLine, hparse, hload]

/-! ### Groups -/

theorem updateAt_dict {name : Unicode} {items group : Items}
    (h : SortedDict.lookup name items = some (.dict group)) (update : Items → Items)
    (path : List Unicode) :
    updateAt update (name :: path) items
      = SortedDict.insert name (.dict (updateAt update path group)) items := by
  rw [updateAt, h]

theorem updateAt_no_dict {name : Unicode} {items : Items}
    (h : ∀ group, SortedDict.lookup name items ≠ some (.dict group)) (update : Items → Items)
    (path : List Unicode) : updateAt update (name :: path) items = items := by
  rw [updateAt]
  split
  · next group hgroup => exact absurd hgroup (h group)
  · rfl

/-- An assignment below a group that was just entered is an assignment to the group. -/
theorem updateAt_group (update : Items → Items) (path : List Unicode) (name : Unicode)
    (group items : Items) :
    updateAt update (path ++ [name]) (updateAt (SortedDict.insert name (.dict group)) path items)
      = updateAt (SortedDict.insert name (.dict (update group))) path items := by
  induction path generalizing items with
  | nil =>
      rw [List.nil_append, updateAt, updateAt_dict (SortedDict.lookup_insert_self ..),
        SortedDict.insert_insert_self]
      rfl
  | cons first path ih =>
      rw [List.cons_append]
      by_cases h : ∃ group, SortedDict.lookup first items = some (.dict group)
      · obtain ⟨group, hgroup⟩ := h
        rw [updateAt_dict hgroup, updateAt_dict hgroup,
          updateAt_dict (SortedDict.lookup_insert_self ..), ih, SortedDict.insert_insert_self]
      · have hgroup := not_exists.mp h
        rw [updateAt_no_dict hgroup, updateAt_no_dict hgroup, updateAt_no_dict hgroup]

/-- The items of a group are entered one after the other. -/
def enterAll (path : List Unicode) (entries : Items) (data : Items) : Items :=
  entries.foldl (fun data item => updateAt (SortedDict.insert item.1 item.2) path data) data

theorem enterAll_append (path : List Unicode) (left right data : Items) :
    enterAll path (left ++ right) data = enterAll path right (enterAll path left data) := by
  simp only [enterAll, List.foldl_append]

theorem enterAll_root (entries data : Items) :
    enterAll [] entries data = SortedDict.insertAll entries data := rfl

theorem enterAll_group (path : List Unicode) (name : Unicode) (entries group data : Items) :
    enterAll (path ++ [name]) entries (updateAt (SortedDict.insert name (.dict group)) path data)
      = updateAt (SortedDict.insert name (.dict (SortedDict.insertAll entries group))) path data := by
  induction entries generalizing group with
  | nil => rfl
  | cons item entries ih =>
      rw [enterAll, List.foldl_cons, updateAt_group, SortedDict.insertAll_cons]
      exact ih _

theorem closeGroups_of_le {left right : Nat} (hle : left ≤ right) (stack : List GroupState) :
    closeGroups left (closeGroups right stack) = closeGroups left stack := by
  induction stack with
  | nil => rfl
  | cons group stack ih =>
      by_cases hright : group.indentation ≥ (right : Int)
      · have hleft : group.indentation ≥ (left : Int) := by omega
        simp only [closeGroups, List.dropWhile_cons, hright, hleft, decide_true, if_true] at ih ⊢
        exact ih
      · simp only [closeGroups, List.dropWhile_cons, hright, decide_false, Bool.false_eq_true,
          if_false]

/-- `stack` is open at a group when only deeper groups are on top of it. -/
structure OpenAt (indentation : Nat) (stack : List GroupState) (group : GroupState)
    (outer : List GroupState) : Prop where
  closes : closeGroups (4 * indentation) stack = group :: outer
  above : group.indentation < 4 * indentation

theorem OpenAt.refl {indentation : Nat} {group : GroupState} {outer : List GroupState}
    (h : group.indentation < 4 * indentation) :
    OpenAt indentation (group :: outer) group outer := by
  refine ⟨?_, h⟩
  rw [closeGroups, List.dropWhile_cons_of_neg]
  simpa using h

theorem loadDeclaration_setting {indentation : Nat} {stack outer : List GroupState}
    {group : GroupState} (h : OpenAt indentation stack group outer) (data : Items) (name : Unicode)
    (value : LineValue) :
    loadDeclaration ⟨data, stack⟩ ⟨4 * indentation, name, '=', value⟩
      = .ok ⟨updateAt (SortedDict.insert name value.toData) group.path data, group :: outer⟩ := by
  simp only [loadDeclaration, h.closes, if_neg (by decide : ¬ '=' = ':'), if_true]

theorem loadDeclaration_group {indentation : Nat} {stack outer : List GroupState}
    {group : GroupState} (h : OpenAt indentation stack group outer) (data : Items)
    (name : Unicode) :
    loadDeclaration ⟨data, stack⟩ ⟨4 * indentation, name, ':', .none⟩
      = .ok ⟨updateAt (SortedDict.insert name (.dict [])) group.path data,
          ⟨4 * indentation, group.path ++ [name]⟩ :: group :: outer⟩ := by
  simp only [loadDeclaration, h.closes, if_true]
  norm_cast

/-! ### Reading back a written group -/

def Data.isDict : Data → Bool
  | .dict _ => true
  | _ => false

/-- The settings and the groups among the items, in the order they are written. -/
def settings (items : Items) : Items := items.filter fun item => !item.2.isDict

def groups (items : Items) : Items := items.filter fun item => item.2.isDict

theorem settings_append_groups_perm (items : Items) :
    (settings items ++ groups items).Perm items := by
  have hperm := List.filter_append_perm (fun item : Unicode × Data => item.2.isDict) items
  exact List.perm_append_comm.trans hperm

/-- Reading the lines enters the entries into the open group. -/
def Enters (indentation : Nat) (lines : List Unicode) (entries : Items) : Prop :=
  ∀ data stack group outer, OpenAt indentation stack group outer →
    ∃ stack', OpenAt indentation stack' group outer ∧
      Loads ⟨data, stack⟩ lines ⟨enterAll group.path entries data, stack'⟩

theorem Enters.nil (indentation : Nat) : Enters indentation [] [] :=
  fun _ stack _ _ hopen => ⟨stack, hopen, Loads.nil _⟩

theorem Enters.append {indentation : Nat} {lines lines' : List Unicode} {entries entries' : Items}
    (h : Enters indentation lines entries) (h' : Enters indentation lines' entries') :
    Enters indentation (lines ++ lines') (entries ++ entries') := by
  intro data stack group outer hopen
  obtain ⟨middle, hmiddle, hloads⟩ := h data stack group outer hopen
  obtain ⟨last, hlast, hloads'⟩ := h' _ middle group outer hmiddle
  refine ⟨last, hlast, ?_⟩
  rw [enterAll_append]
  exact hloads.append hloads'

theorem Enters.setting {indentation : Nat} {text name : Unicode} (value : LineValue)
    (hparse : ∀ lineno, parseLine (text ++ ['\n']) lineno
      = .ok (some ⟨4 * indentation, name, '=', value⟩)) :
    Enters indentation [text] [(name, value.toData)] := by
  intro data stack group outer hopen
  exact ⟨group :: outer, OpenAt.refl hopen.above,
    Loads.declaration hparse (loadDeclaration_setting hopen data name value)⟩

/-- A group line, the lines of the group and the blank line behind them. -/
theorem Enters.group {indentation : Nat} {name : Unicode} (hname : TextPreserved name)
    (hnonempty : name ≠ []) {lines : List Unicode} {entries items : Items}
    (h : Enters (indentation + 1) lines entries)
    (hitems : SortedDict.insertAll entries [] = items) :
    Enters indentation
      ([indentSpaces indentation ++ escape name ++ [':']] ++ lines ++ [[]]) [(name, .dict items)] := by
  intro data stack group outer hopen
  have hheader := Loads.declaration (fun _ => parseLine_group hname hnonempty)
    (loadDeclaration_group hopen data name)
  have hinner : OpenAt (indentation + 1)
      (⟨4 * indentation, group.path ++ [name]⟩ :: group :: outer)
      ⟨4 * indentation, group.path ++ [name]⟩ (group :: outer) :=
    OpenAt.refl (by push_cast; omega)
  obtain ⟨stack', hopen', hloads⟩ := h _ _ _ _ hinner
  refine ⟨stack', ⟨?_, hopen.above⟩, ?_⟩
  · rw [← closeGroups_of_le (by omega : 4 * indentation ≤ 4 * (indentation + 1)), hopen'.closes,
      closeGroups, List.dropWhile_cons_of_pos (by simp)]
    exact (OpenAt.refl hopen.above).closes
  · rw [enterAll_group, hitems] at hloads
    exact (hheader.append hloads).append (Loads.blank _)

mutual

theorem enters_item (indentation : Nat) (item : Unicode × Data) (hconforming : ItemConforming item)
    (hpreserved : ItemPreserved item) :
    Enters indentation (buildItem indentation item).1 (settings [item]) ∧
      Enters indentation (buildItem indentation item).2 (groups [item]) := by
  match item with
  | (name, data) =>
      exact enters_data indentation name data hconforming.1 hpreserved.1 hconforming.2 hpreserved.2

theorem enters_data (indentation : Nat) (name : Unicode) (data : Data) (hnonempty : name ≠ [])
    (hname : TextPreserved name) (hconforming : data.Conforming) (hpreserved : data.Preserved) :
    Enters indentation (buildData indentation name data).1 (settings [(name, data)]) ∧
      Enters indentation (buildData indentation name data).2 (groups [(name, data)]) := by
  match data with
  | .none =>
      exact ⟨Enters.setting .none fun _ => parseLine_none hname hnonempty,
        Enters.nil _⟩
  | .unicode value =>
      have hskip := advanceToNextToken_escape hpreserved []
      rw [List.append_nil] at hskip
      exact ⟨Enters.setting (.unicode value) fun _ => parseLine_value hname hnonempty
        (escape_ne_nil value) (escape_last value) hskip
        (readValues_escape hpreserved .none none), Enters.nil _⟩
  | .list items =>
      obtain ⟨hitems, hall⟩ := hpreserved
      refine ⟨Enters.setting (.list items) fun _ => parseLine_value hname hnonempty ?_
        (listText_ends hitems) ?_ (readValues_listText hitems hall .none), Enters.nil _⟩
      · obtain ⟨init, last, hlast, -⟩ := listText_ends hitems
        change listText items ≠ []
        simp [hlast]
      · obtain ⟨value, items, rfl⟩ := List.exists_cons_of_ne_nil hitems
        exact joinEscaped_head items (hall value List.mem_cons_self) _
  | .dict items =>
      obtain ⟨hsettings, hgroups⟩ := enters_items (indentation + 1) items hconforming hpreserved
      have hitems := SortedDict.insertAll_of_perm (ItemsConforming.sorted hconforming)
        (settings_append_groups_perm items)
      exact ⟨Enters.nil _, Enters.group hname hnonempty (hsettings.append hgroups) hitems⟩

theorem enters_items (indentation : Nat) (items : Items) (hconforming : ItemsConforming items)
    (hpreserved : ItemsPreserved items) :
    Enters indentation (buildItems indentation items).1 (settings items) ∧
      Enters indentation (buildItems indentation items).2 (groups items) := by
  match items with
  | [] => exact ⟨Enters.nil _, Enters.nil _⟩
  | item :: rest =>
      obtain ⟨hsettings, hgroups⟩ := enters_item indentation item hconforming.1 hpreserved.1
      obtain ⟨hsettings', hgroups'⟩ := enters_items indentation rest hconforming.2.2 hpreserved.2
      have hsplit (p : Unicode × Data → Bool) :
          (item :: rest).filter p = [item].filter p ++ rest.filter p := by
        rw [← List.filter_append, List.singleton_append]
      rw [settings, groups, hsplit, hsplit]
      exact ⟨hsettings.append hsettings', hgroups.append hgroups'⟩

end

end SipSimple.Configuration
