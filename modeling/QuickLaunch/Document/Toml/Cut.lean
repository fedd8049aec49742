import QuickLaunch.Document.Toml.Clock
import QuickLaunch.Document.Toml.Number
import QuickLaunch.Document.Toml.Quotation

/-!
# Cutting lines

Where the parts of a line begin and end: key and value, the names of a dotted key and of a header,
the items of an array and the entries of an inline table. A mark between quotes does not cut, as far
as the pieces between quotes tell.

* `Toml.cutLine`: the key and the value of a line;
* `Toml.keyNames`, `Toml.headerNames`: the names of a key and of a header;
* `Toml.arrayItems`, `Toml.inlineEntries`: the parts of an array and of an inline table;
* `Toml.longStart`: the beginning of a quotation that goes on in the next line.
-/

namespace QuickLaunch.Toml

/-- The text begins with a quote. -/
def beginsQuoted (s : List Char) : Bool :=
  (s.head?.map isQuote).getD false

/-- The text begins and ends with the same character. -/
def sameEnds (s : List Char) : Bool :=
  s.head? == s.getLast?

/-! ## Pieces between quotes -/

/-- The pieces with more text behind the last one, which is cut at the single quotes. -/
def extendLast (pieces : List (List Char)) (more : List Char) : List (List Char) :=
  pieces.dropLast ++ Text.splitOn ['\''] (pieces.getLastD [] ++ '"' :: more)

/-- Pieces between double quotes are put back into a quotation in single quotes until the single
quotes are paired. The second part of the result is what is left. -/
def pairSingle (pieces : List (List Char)) :
    List (List Char) → List (List Char) × List (List Char)
  | [] => (pieces, [])
  | p :: rest =>
    if pieces.length % 2 = 0 then pairSingle (extendLast pieces p) rest else (pieces, p :: rest)

/-- The pieces of a line between quotes. Single quotes count up to the first double quote that
stands outside of them. -/
def quotePieces (line : List Char) : List (List Char) :=
  let parts := Text.splitOn ['"'] line
  let first := parts.headD []
  let (pieces, parts) :=
    if 1 < parts.length ∧ '\'' ∈ first then pairSingle (Text.splitOn ['\''] first) (parts.drop 1)
    else ([], parts)
  match parts with
  | [] => pieces
  | p :: rest => pieces ++ Text.splitOn ['\''] p ++ rest

/-- How many marks come before the first one outside of quotes, given the pieces between quotes. -/
def marksBefore (mark : List Char) (quoted : Bool) : List (List Char) → Nat
  | [] => 0
  | p :: rest =>
    if !quoted && Text.occursIn mark p then 0
    else Text.countOf mark p + marksBefore mark (!quoted) rest

/-- The number of marks up to the first one outside of quotes. -/
def firstMark (mark line : List Char) : Nat :=
  1 + marksBefore mark false (quotePieces line)

/-! ## Key and value -/

/-- The text can stand as a value: it is empty, is set off by a blank, begins with a quote or a
bracket, or is a truth value, a number, a date or a time of day. -/
def isValueText (s : List Char) : Bool :=
  match s with
  | [] => true
  | c :: _ =>
    c == ' ' || c == '\t' || isQuote c || c == '[' || c == '{'
      || Text.trimChars s == "true".toList || Text.trimChars s == "false".toList
      || (Numeral.double? s).isSome || (date? s).isSome || (clock? s).isSome

/-- A line as key and value. -/
structure KeyValue where
  key : List Char
  value : List Char
  /-- Zeros and underscores of the value stand where they may. -/
  tidy : Bool
  deriving Repr

/-- The key and value of a line that is cut at the equals sign of the given number, or at a later
one if what comes behind cannot stand as a value; `value` is the value in question. -/
def settleValue (line : List Char) (count : Nat) (tidy : Bool) (value : List Char) :
    Nat → Option KeyValue
  | 0 => none
  | fuel + 1 =>
    if isValueText value then
      some {
        key := Text.trimChars
          (Text.joinWith ['='] (Text.splitAtMost ['='] count line).dropLast)
        value := Text.trimChars value
        tidy := tidy }
    else
      let next := (Text.splitAtMost ['='] (count + 1) line).getLastD []
      if next = value then none
      else settleValue line (count + 1) (tidy && isTidy next) next fuel

/-- The key and the value of a line. A value that begins with a digit loses its underscores. -/
def cutLine (line : List Char) : Option KeyValue :=
  let count := firstMark ['='] line
  let value := (Text.splitAtMost ['='] count line).getLastD []
  let plain := if (value.head?.map Char.isDigit).getD false then withoutUnderscores value else value
  settleValue line count (isTidy value) plain (Text.countOf ['='] line + 3)

/-- The names between the dots of the pieces of a key; a piece in quotes is one name. -/
def dottedNames (quoted : Bool) : List (List Char) → List (List Char)
  | [] => []
  | p :: rest =>
    (if quoted then [p] else (Text.splitOn ['.'] p).map Text.trimChars) ++
      dottedNames (!quoted) rest

/-- The names of a key: those of the tables on the way, and the last one. Letters behind backslashes
are read in a key that is one quotation and has no dot. -/
def keyNames (key : List Char) : Option (List String × String) :=
  if '.' ∈ key then
    let names := ((dottedNames false (quotePieces key)).reverse.dropWhile (· == [])).reverse
    names.getLast?.map fun last =>
      ((names.dropLast.filter (· ≠ [])).map String.ofList, String.ofList (Text.trimChars last))
  else if key = [] then none
  else if beginsQuoted key && sameEnds key then
    (replaceLetters? (inner key)).map fun name => ([], String.ofList name)
  else some ([], String.ofList key)

/-! ## Headers -/

/-- A character that may stand in a bare name of a header. -/
def isBareName (c : Char) : Bool :=
  c.isAlphanum || c == '_' || c == '-'

/-- The quotation has its closing quote. -/
def isClosed (s : List Char) : Bool :=
  s.length != 1 && sameEnds s

/-- The names of the pieces between the dots of a header. `pending` is a quoted name that is not
closed yet. -/
def namesOfPieces (pending : Option (List Char)) : List (List Char) → Option (List String)
  | [] => if pending.isSome then none else some []
  | p :: rest =>
    let text := match pending with
      | none => Text.trimChars p
      | some before => before ++ '.' :: p
    let name := Text.trimChars text
    if pending.isSome || beginsQuoted name then
      if isClosed name then (namesOfPieces none rest).map (String.ofList (inner name) :: ·)
      else namesOfPieces (some text) rest
    else if name != [] && name.all isBareName then
      (namesOfPieces none rest).map (String.ofList name :: ·)
    else none

/-- The names of a header whose opening brackets are gone, given its closing brackets. -/
def namesBefore (mark line : List Char) : Option (List String) :=
  let count := firstMark mark line
  let parts := Text.splitAtMost mark count line
  if parts.length < count + 1 || !Text.isBlankChars (parts.getLastD []) then none
  else namesOfPieces none (Text.splitOn ['.'] (Text.joinWith mark parts.dropLast))

/-- Whether a header, whose first bracket is gone, is that of an array of tables, and its names. -/
def headerNames : List Char → Option (Bool × List String)
  | [] => none
  | '[' :: rest => (namesBefore [']', ']'] rest).map (true, ·)
  | rest => (namesBefore [']'] rest).map (false, ·)

/-! ## Arrays -/

/-- The first item of an array is a quotation. -/
def isTextArray (a : List Char) : Bool :=
  beginsQuoted (Text.trimChars (inner a))

/-- The quotation is closed: its last character is its first one and is not behind a backslash. -/
def isBounded : List Char → Bool
  | [] => true
  | c :: rest => (c :: rest).getLast? == some c && !endsEscaping rest.dropLast

/-- The item begins with three quotes and does not end with as many. -/
def isLongOpen : List Char → Bool
  | a :: b :: c :: rest =>
    let s := a :: b :: c :: rest
    a == b && b == c && s[s.length - 2]? != some a && s[s.length - 3]? != some a
  | _ => false

/-- The item, with blanks around it, is a whole quotation. -/
def isWhole (item : List Char) : Bool :=
  let s := Text.trimChars item
  isBounded s && !isLongOpen s

/-- The pieces between commas, put together until each one is a whole quotation. The last piece need
not be one unless it was put together. -/
def joinQuotations (joined : Bool) (item : List Char) : List (List Char) → Option (List (List Char))
  | [] => if joined && !isWhole item then none else some [item]
  | next :: rest =>
    if isWhole item then (joinQuotations false next rest).map (item :: ·)
    else joinQuotations true (item ++ ',' :: next) rest

/-- The pieces of a text between the commas outside of brackets. -/
def splitOutside (depth : Int) (piece : List Char) : List Char → List (List Char)
  | [] => [piece.reverse]
  | c :: rest =>
    if c = '[' then splitOutside (depth + 1) (c :: piece) rest
    else if c = ']' then splitOutside (depth - 1) (c :: piece) rest
    else if c = ',' ∧ depth = 0 then piece.reverse :: splitOutside depth [] rest
    else splitOutside depth (c :: piece) rest

/-- Where the next character of an array of inline tables stands. -/
inductive TablePlace where
  /-- In a table, or before the first one. -/
  | within
  /-- Right behind a table. -/
  | behind
  /-- Between two tables. -/
  | between
  deriving DecidableEq, Repr

/-- The texts of the inline tables in an array. `piece` is the table so far, last character first,
`depth` the number of open braces, and `quoted` says that a quotation is open. -/
def cutTables (place : TablePlace) (piece : List Char) (depth : Nat) (quoted : Bool) :
    List Char → List (List Char)
  | [] => []
  | c :: rest =>
    match place with
    | .behind => cutTables .between [] depth quoted rest
    | .between => cutTables (if c = '{' then .within else .between) ['{'] depth quoted rest
    | .within =>
      let quoted :=
        if isQuote c then !quoted || endsEscaping piece.reverse else quoted
      let depth := if !quoted && c = '{' then depth + 1 else depth
      if quoted || c ≠ '}' then cutTables .within (c :: piece) depth quoted rest
      else if 1 < depth then cutTables .within (c :: piece) (depth - 1) quoted rest
      else (c :: piece).reverse :: cutTables .behind [] depth quoted rest

/-- The texts of the inline tables between the brackets of an array. -/
def tablePieces : List Char → List (List Char)
  | [] => []
  | c :: rest => cutTables .within [c] (if c = '{' then 1 else 0) false rest

/-- The items of an array. -/
def arrayItems (a : List Char) : Option (List (List Char)) :=
  let body := inner (Text.trimChars a)
  if '[' ∉ body ∨ ¬ Text.isBlankChars (body.takeWhile (· != '[')) then
    let pieces :=
      if (Text.trimChars body).head? = some '{' then tablePieces body else Text.splitOn [','] body
    if isTextArray (Text.trimChars a) then
      match pieces with
      | [] => some []
      | p :: rest => joinQuotations false p rest
    else some pieces
  else some (splitOutside 0 [] body)

/-! ## Inline tables -/

/-- The value of an entry of an inline table is there as a whole. The value is not empty. -/
def isWholeValue (v : List Char) : Bool :=
  (beginsQuoted v && sameEnds v)
    || (v.head?.map fun c => c.isDigit || c == '-').getD false
    || v == "true".toList || v == "false".toList
    || (v.head? == some '[' && v.getLast? == some ']')
    || (v.head? == some '{' && v.getLast? == some '}')

/-- The pieces between commas, put together until each one has a whole value. -/
def joinEntries (entry : List Char) : List (List Char) → Option (List (List Char))
  | [] => do
    let (_, v) ← Text.cutAt '=' entry
    if isWholeValue (Text.trimChars v) then some [entry] else none
  | next :: rest => do
    let (_, v) ← Text.cutAt '=' entry
    if Text.isBlankChars v then none
    if isWholeValue (Text.trimChars v) then (joinEntries next rest).map (entry :: ·)
    else joinEntries (entry ++ ',' :: next) rest

/-- The entries of an inline table. -/
def inlineEntries (line : List Char) : Option (List (List Char)) :=
  match Text.splitOn [','] (inner line) with
  | [] => some []
  | [p] => if Text.isBlankChars p then some [] else joinEntries p []
  | p :: rest => joinEntries p rest

/-! ## Quotations of several lines -/

/-- The last item of an array that is not closed, as far as it can be told: pieces between commas,
the last one first, are put together until a quote stands in front. -/
def lastItem (item : List Char) : List (List Char) → Option (List Char)
  | [] => some item
  | before :: rest =>
    item.head?.bind fun c =>
      if isQuote c then some item else lastItem (before ++ ',' :: item) rest

/-- A text that begins with three quotes and does not end with as many. -/
def longQuotation? : List Char → Option (Option (List Char))
  | [] => none
  | [a] => if isQuote a then none else some none
  | [a, b] => if isQuote a && a = b then none else some none
  | a :: b :: c :: rest =>
    let s := a :: b :: c :: rest
    if isQuote a && a == b && a == c
        && !(decide (5 < s.length) && (s.drop (s.length - 3)).all (· == a))
    then some (some s) else some none

/-- The beginning of a quotation that goes on in the next line, if there is one. -/
def longStart (value : List Char) : Option (Option (List Char)) :=
  if value.length < 3 then some none
  else if value.head? = some '[' ∧ (Text.trimChars value).getLast? ≠ some ']'
      ∧ isTextArray value then
    match (Text.splitOn [','] (Text.trimChars (value.drop 1))).reverse with
    | [] => none
    | last :: before => (lastItem last before).bind longQuotation?
  else longQuotation? value

end QuickLaunch.Toml
