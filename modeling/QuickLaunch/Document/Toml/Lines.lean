import QuickLaunch.Text.Blank
import QuickLaunch.Text.Classes
import QuickLaunch.Text.Search

/-!
# The lines of a TOML text

Before a TOML text is read line by line it is gone through once, character by character. Comments
are blanked, the line breaks inside an array become spaces, and three quotes at the end of a line of
a long string are set right. A key that has no value, a character that no bare key may have and a
quote that is not closed are found here.

* `Toml.lines?`: the lines that are left.
-/

namespace QuickLaunch.Toml

/-- How far the key at the start of a line has been read. -/
inductive KeyState where
  /-- No key is being read. -/
  | outside
  /-- In the name. -/
  | name
  /-- Behind the name, before the equals sign. -/
  | behind
  deriving DecidableEq, Repr

/-- The state of going through a text. -/
structure Scan where
  /-- The text, as far as it was changed. -/
  chars : Array Char
  /-- The arrays that are open. -/
  depth : Int := 0
  /-- A string is open. -/
  inString : Bool := false
  /-- The quote that closes the open string. -/
  quote : Option Char := none
  /-- A string of several lines is open. -/
  long : Bool := false
  /-- The header of an array of tables is open. -/
  inArrayHeader : Bool := false
  /-- The header of a table is open. -/
  inHeader : Bool := false
  /-- Nothing but blanks came in this line. -/
  lineStart : Bool := true
  /-- The key has a dot. -/
  dotted : Bool := false
  /-- How far the key has been read. -/
  key : KeyState := .outside

namespace Scan

/-- The character at a position; positions before the first count from the end. -/
def charAt (s : Scan) (i : Int) : Option Char :=
  if 0 ≤ i then s.chars[i.toNat]?
  else if 0 ≤ s.chars.size + i then s.chars[(s.chars.size + i).toNat]? else none

/-- How often a character stands in a row up to a position, counted back, at most `fuel` times. -/
def runBack (s : Scan) (c : Char) (i : Int) : Nat → Nat
  | 0 => 0
  | fuel + 1 => if s.charAt i = some c then 1 + s.runBack c (i - 1) fuel else 0

/-- The number of backslashes right before a position is odd. -/
def escapedAt (s : Scan) (i : Nat) : Bool :=
  s.runBack '\\' (i - 1 : Int) i % 2 == 1

/-- A character that may stand in a bare key. -/
def isBare (c : Char) : Bool :=
  Text.isAlphanumeric c || c == '_' || c == '-'

/-- A name goes on behind a blank or a dot when neither follows it; nothing may be missing. -/
def nameGoesOn (s : Scan) (i : Nat) : Option Scan :=
  match s.charAt (i + 1) with
  | none => none
  | some next => some (if Text.isBlankChar next || next == '.' then s else { s with key := .name })

/-- Read a character of a key. The result is missing when the character cannot stand there; its
second part says whether the character is done with. -/
def keyChar (s : Scan) (i : Nat) (c : Char) : Option (Scan × Bool) :=
  let finish : Option (Scan × Bool) :=
    if c = '=' then some ({ s with key := .outside, dotted := false }, false) else none
  if c = '\n' then none
  else if s.inString then
    if some c = s.quote ∧ ¬ s.escapedAt i then
      some ({ s with key := .behind, inString := false, quote := none }, true)
    else some (s, true)
  else match s.key with
    | .outside => some (s, false)
    | .name =>
      if Text.isBlankChar c then some ({ s with key := .behind }, true)
      else if c = '.' then some ({ s with dotted := true }, true)
      else if isBare c then some (s, true)
      else if s.dotted ∧ s.charAt (i - 1 : Int) = some '.' ∧ (c = '"' ∨ c = '\'') then
        some ({ s with inString := true, quote := some c }, true)
      else finish
    | .behind =>
      if Text.isBlankChar c then
        if s.dotted then (s.nameGoesOn i).map (·, true) else some (s, true)
      else if c = '.' then ({ s with dotted := true }.nameGoesOn i).map (·, true)
      else finish

/-- A single quote opens or closes a string; the third in a row does so for a long string. -/
def singleQuote (s : Scan) (i : Nat) : Scan :=
  let before := s.runBack '\'' (i - 1 : Int) 2
  let s := if before = 2 then { s with long := !s.long, inString := !s.long }
    else { s with inString := !s.inString }
  { s with quote := if s.inString then some '\'' else none }

/-- A double quote does the same, unless it is escaped. Behind exactly one other quote backslashes
do not count. -/
def doubleQuote (s : Scan) (i : Nat) : Scan :=
  let before := s.runBack '"' (i - 1 : Int) 2
  let backslashes :=
    if before = 1 then 0 else s.runBack '\\' (i - 1 - before : Int) (s.chars.size + i)
  let s :=
    if backslashes % 2 = 1 then s
    else if before = 2 then { s with long := !s.long, inString := !s.long }
    else { s with inString := !s.inString }
  { s with quote := if s.inString then some '"' else none }

/-- The text with blanks from a position to the end of the line, at most `fuel` of them, and whether
the line ends before the text does. -/
def blankFrom (chars : Array Char) (i : Nat) : Nat → Array Char × Bool
  | 0 => (chars, false)
  | fuel + 1 =>
    match chars[i]? with
    | none => (chars, false)
    | some '\n' => (chars, true)
    | some _ => blankFrom (chars.setIfInBounds i ' ') (i + 1) fuel

/-- The end of a line. The three quotes that end a line of a long string are moved onto its break,
so that the string is told apart from one that ends there. -/
def lineBreak (s : Scan) (i : Nat) : Option Scan :=
  if s.inString ∨ s.long then
    if ¬ s.long then none
    else match s.charAt (i - 1 : Int) with
      | some q =>
        if (q = '\'' ∨ q = '"') ∧ s.charAt (i - 2 : Int) = some q then
          let chars := s.chars.setIfInBounds i q
          some { s with
            chars := if chars[i - 3]? = some q then chars.setIfInBounds (i - 3) ' ' else chars }
        else some s
      | none => some s
  else if s.depth ≠ 0 then some { s with chars := s.chars.setIfInBounds i ' ' }
  else some { s with lineStart := true }

/-- The first character of a line that is not blank begins a key, unless it begins a header. -/
def beginLine (s : Scan) (i : Nat) : Option Scan :=
  let c := s.chars[i]?
  if s.lineStart ∧ c ≠ some ' ' ∧ c ≠ some '\t' then
    let s := { s with lineStart := false }
    if s.inHeader ∨ s.inArrayHeader then some s
    else if c = some '=' then none
    else some { s with key := .name }
  else some s

/-- A bracket opens a header at the start of a line and an array elsewhere. -/
def openBracket (s : Scan) (i : Nat) : Scan :=
  if s.inString ∨ s.inHeader ∨ s.inArrayHeader then s
  else if s.lineStart then
    if s.charAt (i + 1) = some '[' then { s with inArrayHeader := true }
    else { s with inHeader := true }
  else { s with depth := s.depth + 1 }

/-- A bracket closes what is open; the header of an array of tables takes two. -/
def closeBracket (s : Scan) (i : Nat) : Scan :=
  if s.inString then s
  else if s.inHeader then { s with inHeader := false }
  else if s.inArrayHeader then
    if s.charAt (i - 1 : Int) = some ']' then { s with inArrayHeader := false } else s
  else { s with depth := s.depth - 1 }

/-- Go on with a character that belongs to no key. The second part of the result says whether the
text ends in a comment that begins here. -/
def otherChar (s : Scan) (i : Nat) (c : Char) : Option (Scan × Bool) :=
  let s := if c = '\'' ∧ s.quote ≠ some '"' then s.singleQuote i else s
  let s := if c = '"' ∧ s.quote ≠ some '\'' then s.doubleQuote i else s
  let (s, ended) :=
    if c = '#' ∧ ¬ s.inString ∧ ¬ s.inHeader ∧ ¬ s.inArrayHeader then
      let (chars, more) := blankFrom s.chars i (s.chars.size + 1)
      ({ s with chars := chars }, !more)
    else (s, false)
  if ended then some (s, true)
  else
    let s := if c = '[' then s.openBracket i else s
    let s := if c = ']' then s.closeBracket i else s
    (if c = '\n' then s.lineBreak i else s.beginLine i).map (·, false)

/-- Go through the text from a position on, `fuel` characters at most. -/
def run (s : Scan) (i : Nat) : Nat → Option Scan
  | 0 => some s
  | fuel + 1 =>
    match s.chars[i]? with
    | none => some s
    | some c =>
      let read := if s.key = .outside then some (s, false) else s.keyChar i c
      match read with
      | none => none
      | some (s, true) => s.run (i + 1) fuel
      | some (s, false) =>
        match s.otherChar i c with
        | none => none
        | some (s, true) => some s
        | some (s, false) => s.run (i + 1) fuel

end Scan

/-- The lines of a text once comments and breaks inside arrays are gone. -/
def lines? (text : List Char) : Option (List (List Char)) :=
  match ({ chars := text.toArray } : Scan).run 0 text.length with
  | none => none
  | some s =>
    if s.key ≠ .outside ∨ s.inString then none
    else some (Text.splitOn ['\n'] s.chars.toList)

end QuickLaunch.Toml
