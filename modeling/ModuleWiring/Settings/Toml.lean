/-
Reading settings written in the format TOML.

A settings file gives texts to three keys, and texts to the names in one table,
`sources`.  Nothing else is a settings file: another key, another kind of value,
a key given twice, or a break of the grammar refuses the whole file.  So of the
format's values only strings and the tables of strings are read, and a moment,
which counts as a table with one entry; everything that is not one of them is
refused where it stands.

* `Toml.string?`, `Toml.table?` — values;
* `SettingsDraft` — what the lines read so far say;
* `Settings.ofToml?` — a whole file.
-/
import ModuleWiring.Settings.Basic
import ModuleWiring.Settings.Toml.Date

namespace ModuleWiring

namespace Toml

/-- Whether a character separates words within a line. -/
def isSpace (c : Char) : Bool :=
  c == ' ' || c == '\t'

/-- Whether a character may stand nowhere in a line. -/
def isControl (c : Char) : Bool :=
  (c < ' ' && c != '\t') || c == '\x7f'

/-- Whether a key without quotation marks may hold a character. -/
def isBareKeyChar (c : Char) : Bool :=
  c.isAlphanum || c == '_' || c == '-'

/-- What follows the spaces a text begins with. -/
def skipSpaces (t : Text) : Text :=
  t.dropWhile isSpace

/-- What follows the line end that a text begins with. -/
def lineEnd? : Text → Option Text
  | '\n' :: t => some t
  | '\r' :: '\n' :: t => some t
  | _ => none

/-- What follows the spaces, line ends and comments that a text begins with;
`inComment` tells that it begins inside of a comment. -/
def skipGaps? : (inComment : Bool) → Text → Option Text
  | _, [] => some []
  | true, c :: t =>
    if c = '\n' then skipGaps? false t
    else if isControl c && !(c == '\r' && t.head? == some '\n') then none
    else skipGaps? true t
  | false, c :: t =>
    if isSpace c || c = '\n' then skipGaps? false t
    else if c = '\r' then (if t.head? = some '\n' then skipGaps? false t else none)
    else if c = '#' then skipGaps? true t
    else some (c :: t)

/-- What follows the end of a line, which may hold spaces and a comment. -/
def endLine? (t : Text) : Option Text :=
  match skipSpaces t with
  | [] => some []
  | '#' :: t => skipGaps? true t
  | t => lineEnd? t

/-! ## Strings -/

/-- The raw content of a string on one line, and what follows its closing mark.
With `escapes`, a backslash takes the next character with it. -/
def rawLine? (quote : Char) (escapes : Bool) : Text → Option (Text × Text)
  | [] => none
  | c :: t =>
    if c = quote then some ([], t)
    else if isControl c then none
    else if escapes && c == '\\' then
      match t with
      | [] => none
      | d :: t => (rawLine? quote escapes t).map fun (raw, rest) => (c :: d :: raw, rest)
    else (rawLine? quote escapes t).map fun (raw, rest) => (c :: raw, rest)

/-- The raw content of a string over several lines, and what follows its three
closing marks.  Up to two further marks in front of them belong to the content. -/
def rawLines? (quote : Char) (escapes : Bool) : Text → Option (Text × Text)
  | [] => none
  | c :: t =>
    if c = quote && t.take 2 == [quote, quote] then
      let more := min 2 ((t.drop 2).takeWhile (· == quote)).length
      some (List.replicate more quote, t.drop (2 + more))
    else if isControl c && c != '\n' && !(c == '\r' && t.head? == some '\n') then none
    else if escapes && c == '\\' then
      match t with
      | [] => none
      | d :: t => (rawLines? quote escapes t).map fun (raw, rest) => (c :: d :: raw, rest)
    else (rawLines? quote escapes t).map fun (raw, rest) => (c :: raw, rest)

/-- The value of a digit in base sixteen. -/
def hexDigit? (c : Char) : Option Nat :=
  if c.isDigit then some (c.toNat - '0'.toNat)
  else if 'a' ≤ c && c ≤ 'f' then some (c.toNat - 'a'.toNat + 10)
  else if 'A' ≤ c && c ≤ 'F' then some (c.toNat - 'A'.toNat + 10)
  else none

/-- The character whose code point is written in base sixteen. -/
def hexChar? (digits : Text) : Option Char := do
  let n ← digits.foldlM (fun n c => do return n * 16 + (← hexDigit? c)) 0
  if n.isValidChar then some (Char.ofNat n) else none

/-- The character that a letter behind a backslash stands for. -/
def shortEscape? (c : Char) : Option Char :=
  if c = 'b' then some '\x08'
  else if c = 't' then some '\t'
  else if c = 'n' then some '\n'
  else if c = 'f' then some '\x0c'
  else if c = 'r' then some '\r'
  else if c = 'e' then some '\x1b'
  else if c = '"' || c = '\\' then some c
  else none

/-- The text that a raw content stands for.  In a string over several lines, a
backslash at the end of a line takes all blanks behind it away, which is what
`trimming` tells. -/
def unescape? (severalLines : Bool) : (trimming : Bool) → Text → Option Text
  | _, [] => some []
  | trimming, c :: t =>
    if trimming && (isSpace c || c == '\n' || c == '\r') then unescape? severalLines true t
    else if c = '\\' then
      match t with
      | 'x' :: a :: b :: t => do
        return (← hexChar? [a, b]) :: (← unescape? severalLines false t)
      | 'u' :: a :: b :: c :: d :: t => do
        return (← hexChar? [a, b, c, d]) :: (← unescape? severalLines false t)
      | 'U' :: a :: b :: c :: d :: e :: f :: g :: h :: t => do
        return (← hexChar? [a, b, c, d, e, f, g, h]) :: (← unescape? severalLines false t)
      | d :: t =>
        match shortEscape? d with
        | some e => (unescape? severalLines false t).map (e :: ·)
        | none =>
          if severalLines && (lineEnd? (skipSpaces (d :: t))).isSome then
            unescape? severalLines true t
          else none
      | [] => none
    else (unescape? severalLines false t).map (c :: ·)

/-- What follows the line end right behind the opening marks of a string, if there
is one. -/
def skipFirstLineEnd (t : Text) : Text :=
  (lineEnd? t).getD t

/-- The string that a text begins with, on one line, and what follows it. -/
def lineString? : Text → Option (Text × Text)
  | '"' :: t => do
    let (raw, rest) ← rawLine? '"' true t
    return (← unescape? false false raw, rest)
  | '\'' :: t => rawLine? '\'' false t
  | _ => none

/-- The string that a text begins with, and what follows it. -/
def string? : Text → Option (Text × Text)
  | '"' :: '"' :: '"' :: t => do
    let (raw, rest) ← rawLines? '"' true (skipFirstLineEnd t)
    return (← unescape? true false raw, rest)
  | '\'' :: '\'' :: '\'' :: t => rawLines? '\'' false (skipFirstLineEnd t)
  | t => lineString? t

/-! ## Keys and tables -/

/-- The key without dots that a text begins with, and what follows it. -/
def key? (t : Text) : Option (Text × Text) :=
  match t with
  | '"' :: _ => lineString? t
  | '\'' :: _ => lineString? t
  | _ =>
    match t.takeWhile isBareKeyChar with
    | [] => none
    | key => some (key, t.dropWhile isBareKeyChar)

/-- The value that is given to a key, behind its equals sign. -/
def behindEquals? (t : Text) : Option Text :=
  match skipSpaces t with
  | '=' :: t => some (skipSpaces t)
  | _ => none

/-- The value that is given to a key between braces, where lines may end and comments
stand on both sides of the equals sign. -/
def behindEqualsAndGaps? (t : Text) : Option Text :=
  match skipGaps? false t with
  | some ('=' :: t) => skipGaps? false t
  | _ => none

/-- The rest of a table between braces, and what follows it.  Commas divide its
entries, and one may follow the last. -/
def table? (entries : OrderedMap Text) (t : Text) : Option (OrderedMap Text × Text) :=
  match skipGaps? false t with
  | none => none
  | some ('\x7d' :: rest) => some (entries, rest)
  | some inner =>
    let entry? := do
      let (key, rest) ← key? inner
      let (value, rest) ← string? (← behindEqualsAndGaps? rest)
      if entries.contains key then none
      else return (entries.insert key value, ← skipGaps? false rest)
    match entry? with
    | some (entries, '\x7d' :: rest) => some (entries, rest)
    | some (entries, ',' :: rest) =>
      if rest.length < t.length then table? entries rest else none
    | _ => none
termination_by t.length

/-- The one key of a moment that stands in the place of a table. -/
def momentKey : Text := "$__toml_private_datetime".toList

end Toml

/-! ## Settings -/

/-- How the table of sources came to be. -/
inductive TableOrigin where
  /-- From keys with a dot, which may add to it. -/
  | dotted
  /-- From a heading or from braces. -/
  | closed
deriving DecidableEq

/-- What the lines read so far say. -/
structure SettingsDraft where
  mainFile : Option Text := none
  inheritedFile : Option Text := none
  fileBeginning : Option Text := none
  sources : OrderedMap Text := .empty
  /-- How the table of sources came to be, if it has. -/
  origin : Option TableOrigin := none
  /-- Whether the lines that follow belong to the table of sources. -/
  inSources : Bool := false

namespace SettingsDraft

/-- The key of the table of sources. -/
def sourcesKey : Text := "sources".toList

/-- A text for a setting that has none yet. -/
def fill? : Option Text → Text → Option (Option Text)
  | none, value => some (some value)
  | some _, _ => none

/-- Give a text to a key outside of tables. -/
def setText? (d : SettingsDraft) (key value : Text) : Option SettingsDraft :=
  if key = "main_file".toList then
    (fill? d.mainFile value).map fun v => { d with mainFile := v }
  else if key = "inherited_file".toList then
    (fill? d.inheritedFile value).map fun v => { d with inheritedFile := v }
  else if key = "variable_file_prefix".toList then
    (fill? d.fileBeginning value).map fun v => { d with fileBeginning := v }
  else none

/-- Give a folder to a module. -/
def addSource? (d : SettingsDraft) (name folder : Text) : Option SettingsDraft :=
  if d.sources.contains name then none
  else some { d with sources := d.sources.insert name folder }

/-- The line that begins like a heading, behind its opening bracket. -/
def heading? (d : SettingsDraft) (t : Text) : Option (SettingsDraft × Text) := do
  let (key, rest) ← Toml.key? (Toml.skipSpaces t)
  guard (key = sourcesKey ∧ d.origin = none)
  match Toml.skipSpaces rest with
  | ']' :: rest =>
    return ({ d with origin := some .closed, inSources := true }, ← Toml.endLine? rest)
  | _ => none

/-- The line that gives a value to a key. -/
def assignment? (d : SettingsDraft) (t : Text) : Option (SettingsDraft × Text) := do
  let (key, rest) ← Toml.key? t
  if d.inSources then
    let (value, rest) ← Toml.string? (← Toml.behindEquals? rest)
    return (← d.addSource? key value, ← Toml.endLine? rest)
  else match Toml.skipSpaces rest with
    | '.' :: rest =>
      guard (key = sourcesKey ∧ d.origin ≠ some .closed)
      let (name, rest) ← Toml.key? (Toml.skipSpaces rest)
      let (value, rest) ← Toml.string? (← Toml.behindEquals? rest)
      return (← { d with origin := some .dotted }.addSource? name value, ← Toml.endLine? rest)
    | rest =>
      match ← Toml.behindEquals? rest with
      | '\x7b' :: rest =>
        guard (key = sourcesKey ∧ d.origin = none)
        let (sources, rest) ← Toml.table? .empty rest
        return ({ d with sources := sources, origin := some .closed }, ← Toml.endLine? rest)
      | value =>
        match Toml.moment? value with
        | some (moment, rest) =>
          guard (key = sourcesKey ∧ d.origin = none)
          let sources := OrderedMap.empty.insert Toml.momentKey moment
          return ({ d with sources := sources, origin := some .closed }, ← Toml.endLine? rest)
        | none =>
          let (value, rest) ← Toml.string? value
          return (← d.setText? key value, ← Toml.endLine? rest)

/-- One line that is not blank. -/
def line? (d : SettingsDraft) (t : Text) : Option (SettingsDraft × Text) :=
  match t with
  | '[' :: t => d.heading? t
  | t => d.assignment? t

/-- All lines. -/
def lines? (d : SettingsDraft) (t : Text) : Option SettingsDraft :=
  match Toml.skipGaps? false t with
  | none => none
  | some [] => some d
  | some inner =>
    match d.line? inner with
    | none => none
    | some (d, rest) => if rest.length < t.length then lines? d rest else none
termination_by t.length

/-- The settings, with the usual values for those that are not given. -/
def settings (d : SettingsDraft) : Settings :=
  let usual : Settings := {}
  { mainFile := (d.mainFile.map Path.mk).getD usual.mainFile
    inheritedFile := (d.inheritedFile.map Path.mk).getD usual.inheritedFile
    fileBeginning := d.fileBeginning.getD usual.fileBeginning
    sources := d.sources.mapValues Path.mk }

end SettingsDraft

/-- The settings that a settings file gives.  A mark of the byte order may stand in
front of it. -/
def Settings.ofToml? (t : Text) : Option Settings :=
  let t := match t with
    | '\ufeff' :: t => t
    | t => t
  (SettingsDraft.lines? {} t).map SettingsDraft.settings

end ModuleWiring
