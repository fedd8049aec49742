import QuickLaunch.Document.Toml.Cut
import QuickLaunch.Document.Toml.Lines
import QuickLaunch.Document.Toml.Place

/-!
# Reading TOML

The table that a TOML text names. A line is a header, an inline table, or a key and a value; a
quotation in three quotes may take several lines, and a backslash at the end of a line joins it to
the next one. Lines without an equals sign are disregarded, and so is a quotation that the text does
not close. The items of an array must be of one kind.

* `Toml.readValue`: the value that a text names;
* `Toml.Reading.line`: what a line does to a document;
* `Toml.read`: the table that a text names.
-/

namespace QuickLaunch.Toml

/-- The kinds of items that an array keeps apart. -/
inductive ItemKind where
  | bool | text | array | table | time | date | float | int
  deriving DecidableEq, Repr

/-- The kind of an item. -/
def itemKind : Value → ItemKind
  | .null | .bool _ => .bool
  | .text _ => .text
  | .list _ => .array
  | .table _ => .table
  | .moment (.time ..) => .time
  | .moment _ => .date
  | .float _ => .float
  | .int _ => .int

/-! ## Values -/

/-- A reader of values: whether zeros and underscores stand where they may, and the text. -/
abbrev ValueReader := Bool → List Char → Option Value

/-- The items whose texts are given, all of the kind of the first one. Blank texts are passed
over. -/
def readItems (read : ValueReader) (kind : Option ItemKind) :
    List (List Char) → Option (List Value)
  | [] => some []
  | item :: rest =>
    let item := Text.trimChars item
    if item = [] then readItems read kind rest
    else do
      let v ← read true item
      if kind.isSome && kind != some (itemKind v) then none
      let vs ← readItems read (some (itemKind v)) rest
      return v :: vs

/-- A quotation that goes on in the next line: the key that it belongs to, its text so far, and
whether the next line is joined to it. -/
structure Pending where
  key : String
  text : List Char
  joined : Bool
  deriving Repr

/-- The text so far of a quotation whose last line is given last. -/
def Pending.of (key : String) (text lastLine : List Char) : Pending :=
  if endsEscaping lastLine then { key := key, text := text.dropLast, joined := true }
  else { key := key, text := text ++ ['\n'], joined := false }

/-- A line that puts a value below a key: the tables on the way, the key, the text of the value, and
the quotation that goes on in the next line. -/
structure Entry where
  names : List String
  key : String
  value : List Char
  tidy : Bool
  pending : Option Pending
  deriving Repr

/-- The entry of a line. -/
def entryOf (line : List Char) : Option Entry := do
  let parts ← cutLine line
  let (names, key) ← keyNames parts.key
  let start ← longStart parts.value
  return { names := names, key := key, value := parts.value, tidy := parts.tidy,
           pending := start.map (Pending.of key parts.value) }

/-- A table with an entry. The key of a quotation that goes on must be new, too, and not empty. -/
def putEntry (read : ValueReader) (e : Entry) (v : Value) : Option Value :=
  match e.pending with
  | some _ =>
    if e.key = "" then none
    else changeBelow (fun t => if (Table.get? t e.key).isSome then none else some t) e.names v
  | none => (read e.tidy e.value).bind fun w => changeBelow (addKey e.key w) e.names v

/-- A table with the entries of an inline table, up to one that would go on in the next line. -/
def putEntries (read : ValueReader) : List (List Char) → Value → Option Value
  | [], v => some v
  | line :: rest, v => do
    let e ← entryOf line
    let v ← putEntry read e v
    if e.pending.isSome then return v else putEntries read rest v

/-- A table with what an inline table holds. -/
def putInline (read : ValueReader) (s : List Char) (v : Value) : Option Value :=
  (inlineEntries s).bind fun lines => putEntries read lines v

/-- A moment or a number. -/
def scalar (tidy : Bool) (s : List Char) : Option Value :=
  match clock? s with
  | some parts => (time? parts).map .moment
  | none =>
    match date? s with
    | some m => some (.moment m)
    | none => if tidy then number? s else none

/-- The value that a text names; arrays and inline tables may be nested `fuel` deep. -/
def readValue : Nat → ValueReader
  | 0, _, _ => none
  | fuel + 1, tidy, s =>
    match s with
    | [] => none
    | c :: _ =>
      if s = "true".toList then some (.bool true)
      else if s = "false".toList then some (.bool false)
      else if isQuote c then (quotation? c s).map fun text => .text (String.ofList text)
      else if c = '[' then
        (arrayItems s).bind fun items => (readItems (readValue fuel) none items).map .list
      else if c = '{' then putInline (readValue fuel) s (.table [])
      else scalar tidy s

/-! ## Lines -/

/-- The state of reading the lines of a text. -/
structure Reading where
  /-- The document so far. -/
  document : Value := .table []
  /-- The steps to the open table. -/
  steps : List Step := []
  /-- The tables that were made on the way to another one. -/
  implied : List String := []
  /-- The quotation that goes on in the next line. -/
  pending : Option Pending := none

/-- Whether a line closes a quotation or an array of quotations, whose text with the line is given
first. -/
def closes (text line : List Char) : Option Bool :=
  if text.head? = some '[' then line.getLast?.map (· == ']')
  else some (decide (2 < line.length) && (line.drop (line.length - 3)).all (some · == text.head?))

namespace Reading

/-- A line of a quotation of several lines. -/
def continued (read : ValueReader) (s : Reading) (p : Pending) (line : List Char) :
    Option Reading :=
  let line := if p.joined || !p.text.contains '\n' then Text.trimChars line else line
  if line = [] ∧ p.joined then some s
  else
    let text := p.text ++ line
    (closes text line).bind fun closed =>
      if closed then
        (read true text).bind fun w =>
          (changeAt (changeBelow (fun t => some (Table.set t p.key w)) []) s.steps s.document).map
            fun document => { s with document := document, pending := none }
      else some { s with pending := some (Pending.of p.key text text) }

/-- A header, whose first bracket is gone. -/
def header (s : Reading) (rest : List Char) : Option Reading :=
  (headerNames rest).bind fun (array, names) =>
    (openTable array s.implied names s.document).map fun o =>
      { s with document := o.value, steps := o.steps, implied := o.implied }

/-- A line that does not belong to a quotation that began before. -/
def fresh (read : ValueReader) (s : Reading) (line : List Char) : Option Reading :=
  match Text.trimChars line with
  | [] => some s
  | '[' :: rest => s.header rest
  | '{' :: rest =>
    if ('{' :: rest).getLast? ≠ some '}' then none
    else (changeAt (putInline read ('{' :: rest)) s.steps s.document).map fun document =>
      { s with document := document }
  | line =>
    if '=' ∉ line then some s
    else
      (entryOf line).bind fun e =>
        (changeAt (putEntry read e) s.steps s.document).map fun document =>
          { s with document := document, pending := e.pending }

/-- What a line does to a document. -/
def line (read : ValueReader) (s : Reading) (text : List Char) : Option Reading :=
  match s.pending with
  | some p => s.continued read p text
  | none => s.fresh read text

end Reading

/-- The table that a text names. -/
def table? (text : List Char) : Option Table := do
  let lines ← lines? text
  let s ← lines.foldlM (Reading.line (readValue (text.length + 1))) {}
  match s.document with
  | .table t => some t
  | _ => none

/-- The table that a TOML text names. -/
def read (text : String) : Except Fault Table :=
  match table? text.toList with
  | some t => .ok t
  | none => .error .malformedSettings

end QuickLaunch.Toml
