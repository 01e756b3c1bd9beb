import Mathlib.Data.Char
import Mathlib.Data.List.DropRight
import Mathlib.Data.List.Lex
import SipSimple.Library.SortedDict

/-!
# The plain text configuration backend

`FileBackend.load` and `FileBackend.save` of `configuration/backend/file.py`, with the line tokenizer
and the group writer. A unicode string is its list of characters, without surrogates, and a dictionary is
its items in key order, so `sorted(group.iteritems())` is the list itself and equal dictionaries are equal
values.

A file is the text its bytes decode to. The backend splits it at `\n` and strips the lines before it
decodes them; neither can meet a byte inside a character, since UTF-8 writes only ASCII characters
with ASCII bytes.
-/

namespace SipSimple.Configuration

abbrev Unicode := List Char

scoped instance : LawfulBEq Unicode := inferInstance

/-- The values of `IConfigurationBackend`: `None`, a string, a list of strings, or a dictionary. -/
inductive Data where
  | none
  | unicode (value : Unicode)
  | list (items : List Unicode)
  | dict (items : List (Unicode × Data))

abbrev Items := List (Unicode × Data)

mutual

/-- The dictionaries of `IConfigurationBackend`, with non-empty keys, at every depth. -/
def Data.Conforming : Data → Prop
  | .none | .unicode _ | .list _ => True
  | .dict items => ItemsConforming items

def ItemsConforming : Items → Prop
  | [] => True
  | item :: rest => ItemConforming item ∧ (∀ key ∈ rest.map Prod.fst, item.1 < key) ∧ ItemsConforming rest

def ItemConforming : Unicode × Data → Prop
  | (name, data) => name ≠ [] ∧ data.Conforming

end

/-- A dictionary a backend may be asked to save. -/
structure Dictionary where
  items : Items
  conforming : ItemsConforming items

/-! ### Characters -/

/-- `unicode.isspace` of one character. -/
def isspace (char : Char) : Bool :=
  let code := char.toNat
  (0x9 ≤ code && code ≤ 0xd) || (0x1c ≤ code && code ≤ 0x20) || code = 0x85 || code = 0xa0 ||
    code = 0x1680 || code = 0x180e || (0x2000 ≤ code && code ≤ 0x200a) || code = 0x2028 ||
    code = 0x2029 || code = 0x202f || code = 0x205f || code = 0x3000

/-- The white space that `str.rstrip` removes from the undecoded line. -/
def isAsciiSpace (char : Char) : Bool :=
  char = ' ' || (0x9 ≤ char.toNat && char.toNat ≤ 0xd)

/-- The class of `FileBackend.escape_characters_re`. -/
def isEscapeCharacter (char : Char) : Bool :=
  [',', '"', '\'', '=', ':', ' ', '#', '\\', '\t', '\x0b', '\x0c', '\n', '\r'].contains char

/-! ### Writing -/

/-- `value.replace(char, text)` for a one-character pattern. -/
def replace (char : Char) (text : Unicode) (value : Unicode) : Unicode :=
  value.flatMap fun c => if c = char then text else [c]

def escape (value : Unicode) : Unicode :=
  if value = [] then ['"', '"']
  else if value.any isEscapeCharacter then
    ['"'] ++ replace '\r' ['\\', 'r'] (replace '\n' ['\\', 'n']
      (replace '"' ['\\', '"'] (replace '\\' ['\\', '\\'] value))) ++ ['"']
  else value

/-- `u', '.join(self._escape(item) for item in data)`. -/
def joinEscaped : List Unicode → Unicode
  | [] => []
  | [item] => escape item
  | item :: rest => escape item ++ [',', ' '] ++ joinEscaped rest

def indentSpaces (indentation : Nat) : Unicode := List.replicate (4 * indentation) ' '

mutual

/-- The setting lines and the group lines that one item contributes. -/
def buildItem (indentation : Nat) : Unicode × Data → List Unicode × List Unicode
  | (name, data) => buildData indentation name data

def buildData (indentation : Nat) (name : Unicode) : Data → List Unicode × List Unicode
  | .none => ([indentSpaces indentation ++ escape name ++ [' ', '=']], [])
  | .dict group =>
      let lines := buildItems (indentation + 1) group
      ([], [indentSpaces indentation ++ escape name ++ [':']] ++ (lines.1 ++ lines.2) ++ [[]])
  | .list items =>
      let listValue := joinEscaped items ++ (if items.length = 1 then [','] else [])
      ([indentSpaces indentation ++ escape name ++ [' ', '=', ' '] ++ listValue], [])
  | .unicode value =>
      ([indentSpaces indentation ++ escape name ++ [' ', '=', ' '] ++ escape value], [])

/-- The loop of `_build_group`: `setting_lines` and `group_lines`. -/
def buildItems (indentation : Nat) : Items → List Unicode × List Unicode
  | [] => ([], [])
  | item :: rest =>
      let here := buildItem indentation item
      let there := buildItems indentation rest
      (here.1 ++ there.1, here.2 ++ there.2)

end

def buildGroup (group : Items) (indentation : Nat) : List Unicode :=
  (buildItems indentation group).1 ++ (buildItems indentation group).2

/-- `os.linesep.join(lines) + os.linesep`. -/
def joinLines (lines : List Unicode) : Unicode := ['\n'].intercalate lines ++ ['\n']

/-- The contents `save` leaves in the file. -/
def save (data : Items) : Unicode := joinLines (buildGroup data 0)

/-! ### Reading -/

/-- Why a line is refused: `FileParserError`, with the line number of its message. -/
inductive FileParserError where
  | unexpectedBackslash (lineno : Nat)
  | missingEndingQuote (lineno : Nat)
  | expectedSeparator (lineno : Nat)
  | missingName (lineno : Nat)
  | charactersAfterColon (lineno : Nat)
  | charactersAfterValue (lineno : Nat)
  deriving DecidableEq, Repr

def FileParserError.message : FileParserError → String
  | .unexpectedBackslash lineno => s!"unexpected `\\' at end of line {lineno}"
  | .missingEndingQuote lineno => s!"missing ending quote at line {lineno}"
  | .expectedSeparator lineno => s!"expected one of `:' or `=' at line {lineno}"
  | .missingName lineno => s!"missing setting/section name at line {lineno}"
  | .charactersAfterColon lineno => s!"unexpected characters after `:' at line {lineno}"
  | .charactersAfterValue lineno => s!"unexpected characters after value at line {lineno}"

/-- What follows `=` on a line: nothing, one value, or a list. -/
inductive LineValue where
  | none
  | unicode (value : Unicode)
  | list (items : List Unicode)
  deriving DecidableEq, Repr

def LineValue.toData : LineValue → Data
  | .none => .none
  | .unicode value => .unicode value
  | .list items => .list items

/-- A line that declares something; a blank line or a comment is no `Line`. -/
structure Line where
  indentation : Nat
  name : Unicode
  separator : Char
  value : LineValue
  deriving DecidableEq, Repr

/-- Skips white space and a comment; the counter is the indentation when called at the line's start. -/
def advanceToNextToken (line : Unicode) : Nat × Unicode :=
  let rest := line.dropWhile isspace
  ((line.takeWhile isspace).length, if rest.head? = some '#' then [] else rest)

/-- The characters of one token and the rest of the line. -/
def tokenIterator (lineno : Nat) (delimiter : Unicode) :
    Option Char → Unicode → Except FileParserError (Unicode × Unicode)
  | quoteChar, [] => if quoteChar.isSome then .error (.missingEndingQuote lineno) else .ok ([], [])
  | quoteChar, char :: rest =>
      if quoteChar = none ∧ char ∈ delimiter then .ok ([], char :: rest)
      else if char = '\'' ∨ char = '"' then
        if quoteChar = none then tokenIterator lineno delimiter (some char) rest
        else if quoteChar = some char then tokenIterator lineno delimiter none rest
        else (tokenIterator lineno delimiter quoteChar rest).map fun token => (char :: token.1, token.2)
      else if char = '\\' then
        match rest with
        | [] => .error (.unexpectedBackslash lineno)
        | escaped :: rest =>
            let char := if escaped = 'n' then '\n' else if escaped = 'r' then '\r' else escaped
            (tokenIterator lineno delimiter quoteChar rest).map fun token => (char :: token.1, token.2)
      else if quoteChar = none ∧ char = '#' then .ok ([], [])
      else if quoteChar = none ∧ isspace char then .ok ([], rest)
      else (tokenIterator lineno delimiter quoteChar rest).map fun token => (char :: token.1, token.2)

theorem advanceToNextToken_length_le (line : Unicode) :
    (advanceToNextToken line).2.length ≤ line.length := by
  have hle : (line.dropWhile isspace).length ≤ line.length :=
    (List.dropWhile_sublist isspace).length_le
  rw [advanceToNextToken]
  split_ifs
  · exact Nat.zero_le _
  · exact hle

theorem tokenIterator_length_le {lineno : Nat} {delimiter : Unicode} {quoteChar : Option Char}
    {line token rest : Unicode}
    (h : tokenIterator lineno delimiter quoteChar line = .ok (token, rest)) :
    rest.length ≤ line.length := by
  have hmap {result : Except FileParserError (Unicode × Unicode)} {char : Char} {token : Unicode}
      (h : (result.map fun token => (char :: token.1, token.2)) = .ok (token, rest)) :
      ∃ token', result = .ok (token', rest) := by
    cases result with
    | error error => cases h
    | ok pair =>
        cases h
        exact ⟨pair.1, rfl⟩
  fun_induction tokenIterator lineno delimiter quoteChar line generalizing token with
  | case1 | case7 => cases h
  | case2 | case3 =>
      cases h
      exact Nat.le_refl _
  | case9 =>
      cases h
      exact Nat.zero_le _
  | case10 =>
      cases h
      exact Nat.le_succ _
  | case4 _ _ _ _ ih | case5 _ _ _ _ _ ih => exact (ih h).trans (Nat.le_succ _)
  | case6 _ _ _ _ _ _ _ ih | case11 _ _ _ _ _ _ _ _ ih =>
      obtain ⟨token', h⟩ := hmap h
      exact (ih h).trans (Nat.le_succ _)
  | case8 =>
      rename_i ih
      obtain ⟨token', h⟩ := hmap h
      exact (ih h).trans (Nat.le_add_right _ 2)

/-- The loop that reads the values of a setting: `valueList` is the list read so far once a comma was
seen, and `value` the last value. -/
def readValues (lineno : Nat) (line : Unicode) (value : LineValue)
    (valueList : Option (List Unicode)) : Except FileParserError LineValue :=
  if line = [] then .ok (match valueList with
    | none => value
    | some items => .list items)
  else
    match _htoken : tokenIterator lineno [','] none line with
    | .error error => .error error
    | .ok (value, afterValue) =>
        match _hcomma : (advanceToNextToken afterValue).2 with
        | [] => .ok (match valueList with
            | none => .unicode value
            | some items => .list (items ++ [value]))
        | char :: afterComma =>
            if char = ',' then
              readValues lineno (advanceToNextToken afterComma).2 (.unicode value)
                (some (valueList.getD [] ++ [value]))
            else .error (.charactersAfterValue lineno)
termination_by line.length
decreasing_by
  have hvalue := tokenIterator_length_le _htoken
  have hskip := advanceToNextToken_length_le afterValue
  have hnext := advanceToNextToken_length_le afterComma
  simp only [_hcomma, List.length_cons] at hskip
  omega

/-- `line.rstrip()`, on the bytes of the line. -/
def rstrip (line : Unicode) : Unicode := line.rdropWhile isAsciiSpace

def parseLine (line : Unicode) (lineno : Nat) : Except FileParserError (Option Line) :=
  let (indentation, line) := advanceToNextToken (rstrip line)
  if line = [] then .ok none
  else
    match tokenIterator lineno [':', '='] none line with
    | .error error => .error error
    | .ok (name, line) =>
        match (advanceToNextToken line).2 with
        | [] => .error (.expectedSeparator lineno)
        | separator :: line =>
            if separator ≠ ':' ∧ separator ≠ '=' then .error (.expectedSeparator lineno)
            else if name = [] then .error (.missingName lineno)
            else
              let line := (advanceToNextToken line).2
              if line = [] then .ok (some ⟨indentation, name, separator, .none⟩)
              else if separator = ':' then .error (.charactersAfterColon lineno)
              else (readValues lineno line .none none).map
                fun value => some ⟨indentation, name, separator, value⟩

/-- A containing group while parsing: its indentation, and where its dictionary hangs below the root
of the result. -/
structure GroupState where
  indentation : Int
  path : List Unicode
  deriving DecidableEq, Repr

/-- Applies an update to the dictionary at a path. -/
def updateAt (update : Items → Items) : List Unicode → Items → Items
  | [], items => update items
  | name :: path, items =>
      match SortedDict.lookup name items with
      | some (.dict group) => SortedDict.insert name (.dict (updateAt update path group)) items
      | _ => items

structure LoadState where
  /-- The dictionary of the outermost group. -/
  data : Items
  stack : List GroupState

/-- The errors of `load`: a refused line, or an index into the empty stack. -/
inductive LoadError where
  | parser (error : FileParserError)
  | indexError
  deriving DecidableEq, Repr

/-- The container for a declaration: groups that are indented as far or further are closed. -/
def closeGroups (indentation : Nat) (stack : List GroupState) : List GroupState :=
  stack.dropWhile fun group => group.indentation ≥ (indentation : Int)

/-- One declaration is entered into its container. -/
def loadDeclaration (state : LoadState) (line : Line) : Except LoadError LoadState :=
  match closeGroups line.indentation state.stack with
  | [] => .error .indexError
  | group :: rest =>
      if line.separator = ':' then
        .ok ⟨updateAt (SortedDict.insert line.name (.dict [])) group.path state.data,
          ⟨line.indentation, group.path ++ [line.name]⟩ :: group :: rest⟩
      else if line.separator = '=' then
        .ok ⟨updateAt (SortedDict.insert line.name line.value.toData) group.path state.data,
          group :: rest⟩
      else .ok ⟨state.data, group :: rest⟩

def loadLine (state : LoadState) (line : Unicode) (lineno : Nat) : Except LoadError LoadState :=
  match parseLine line lineno with
  | .error error => .error (.parser error)
  | .ok none => .ok state
  | .ok (some line) => loadDeclaration state line

def loadLines (state : LoadState) : List Unicode → Nat → Except LoadError LoadState
  | [], _ => .ok state
  | line :: lines, lineno =>
      match loadLine state line lineno with
      | .error error => .error error
      | .ok state => loadLines state lines (lineno + 1)

/-- The lines of a file, each with its line end. -/
def readLines (file : Unicode) : List Unicode :=
  match file with
  | [] => []
  | char :: rest =>
      if char = '\n' then [char] :: readLines rest
      else match readLines rest with
        | [] => [[char]]
        | line :: lines => (char :: line) :: lines

/-- `load` on a file that exists (`some`) or not (`none`). -/
def load : Option Unicode → Except LoadError Items
  | none => .ok []
  | some file => (loadLines ⟨[], [⟨-1, []⟩]⟩ (readLines file) 1).map LoadState.data

end SipSimple.Configuration
