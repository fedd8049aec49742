import QuickLaunch.Text.Classes
import QuickLaunch.Text.Search

/-!
# Words of a command line

A word of a command line is an option or a plain word. An option may be shortened as long as one
option begins so, and its value may follow an equals sign. Negative numbers, words with a space, a
hyphen alone and the empty word are plain, unless they name an option.

* `Word.ofText?`: what a word is.
-/

namespace QuickLaunch.Invocation

/-- A word of a command line. -/
inductive Word where
  | plain (text : String)
  /-- A request for help, and whether its form allows it. -/
  | help (wellFormed : Bool)
  /-- An option with the value behind its equals sign. -/
  | option (name : String) (value : Option String)
  /-- An option that is not known. -/
  | unknown
  deriving DecidableEq, Repr

namespace Word

/-- The short name of the request for help. -/
def shortHelp : List Char := "-h".toList

/-- The long name of the request for help. -/
def longHelp : List Char := "--help".toList

/-- Some digits and nothing else. -/
def isDigits (s : List Char) : Bool :=
  !s.isEmpty && s.all fun c => (Text.digitValue? c).isSome

/-- The text behind a hyphen makes the word a negative number. A line break at the end is
disregarded. -/
def isMagnitude (s : List Char) : Bool :=
  let s := if s.getLast? = some '\n' then s.dropLast else s
  isDigits s || (match s.dropWhile fun c => (Text.digitValue? c).isSome with
    | '.' :: behind => isDigits behind
    | _ => false)

/-- More letters may follow a short request for help. Another such request among the first of them
may not be given a value. -/
def tailAllowed : List Char → Bool
  | '-' :: _ => false
  | 'h' :: '=' :: _ => false
  | 'h' :: c :: rest => tailAllowed (c :: rest)
  | _ => true

/-- The option of a name. -/
def named (name : List Char) (value : Option (List Char)) : Word :=
  if name = shortHelp ∨ name = longHelp then .help value.isNone
  else .option (String.ofList name) (value.map String.ofList)

/-- The word of a text that begins with a hyphen and does not name an option in full. Several
options that begin alike make it unclear. -/
def ofShortened? (names : List (List Char)) (s : List Char) : Option Word :=
  let (start, value) := match Text.cutAt '=' s with
    | some (start, value) => (start, some value)
    | none => (s, none)
  let other : Word :=
    if isMagnitude (s.drop 1) || s.contains ' ' then .plain (String.ofList s) else .unknown
  if ['-', '-'].isPrefixOf s then
    match (longHelp :: names).filter (start.isPrefixOf ·) with
    | [] => some other
    | [name] => some (named name value)
    | _ => none
  else if shortHelp.isPrefixOf s then some (.help (tailAllowed (s.drop 2)))
  else some other

/-- What a word is, given the names of the options that take a value. -/
def ofText? (names : List (List Char)) (text : String) : Option Word :=
  let s := text.toList
  if s.head? ≠ some '-' ∨ s.length = 1 then some (.plain text)
  else
    let known := shortHelp :: longHelp :: names
    if s ∈ known then some (named s none)
    else match Text.cutAt '=' s with
      | some (name, value) =>
        if name ∈ known then some (named name (some value)) else ofShortened? names s
      | none => ofShortened? names s

end Word

end QuickLaunch.Invocation
