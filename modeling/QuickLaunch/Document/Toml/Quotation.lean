import QuickLaunch.Number.Numeral
import QuickLaunch.Document.Json.Reader
import QuickLaunch.Text.Search

/-!
# Quoted texts

The text of a quotation in single or double quotes, one or three of them. Between double quotes a
backslash makes a character of the letter or the hexadecimal number behind it.

* `Toml.quotation?`: the text of a quotation;
* `Toml.unescape?`: what the backslashes make of a text.
-/

namespace QuickLaunch.Toml

/-- The characters that quote. -/
def isQuote (c : Char) : Bool :=
  c == '"' || c == '\''

/-- The text ends in an odd number of backslashes. -/
def endsEscaping (s : List Char) : Bool :=
  (s.reverse.takeWhile (· == '\\')).length % 2 == 1

/-- The text without its first and its last character. -/
def inner (s : List Char) : List Char :=
  (s.drop 1).dropLast

/-! ## The end of a quotation -/

/-- Nothing comes behind the end of the quotation. The pieces are those between the quotes behind
the opening ones, `empty` is the number of empty ones in a row and `closed` says that the end was
seen. -/
def endsOnce (triple closed : Bool) (empty : Nat) : List (List Char) → Bool
  | [] => true
  | [] :: rest =>
    if triple then endsOnce triple closed (empty + 1) rest else endsOnce triple true empty rest
  | piece :: rest =>
    if endsEscaping piece then endsOnce triple closed empty rest
    else if closed then false
    else if !triple || decide (1 < empty) then endsOnce triple true empty rest
    else endsOnce triple closed 0 rest

/-- The quotation ends where the text does. -/
def isOneQuotation (quote : Char) (s : List Char) : Bool :=
  match Text.splitOn [quote] (s.drop 1) with
  | [] :: [] :: rest => endsOnce true false 0 rest
  | pieces => endsOnce false false 0 pieces

/-! ## Backslashes -/

/-- The character that a letter behind a backslash names. -/
def escaped? (c : Char) : Option Char :=
  match c with
  | '0' => some '\x00'
  | 'b' => some '\x08'
  | 'f' => some '\x0c'
  | 'n' => some '\n'
  | 'r' => some '\r'
  | 't' => some '\t'
  | '"' => some '"'
  | _ => none

/-- The backslashes stand before letters that may follow one. The pieces are those behind the
backslashes; `doubled` says that the backslash before the piece stands behind another one. -/
def escapesAllowed (doubled : Bool) : List (List Char) → Bool
  | [] => true
  | [] :: rest => escapesAllowed (!doubled) rest
  | (c :: _) :: rest =>
    ((escaped? c).isSome || c == 'u' || c == 'U' || doubled) && escapesAllowed false rest

/-- The character of a hexadecimal number. A number that begins like half of a surrogate pair is
none of a character. -/
def scalar? (ds : List Char) : Option Char := do
  if ds.any fun c => (Numeral.digitOf? 16 c).isNone then none
  let n ← Numeral.digits? 16 false 0 ds
  let first ← ds.head?
  if first = 'd' ∨ first = 'D' then
    let second ← ds[1]?
    if '7' < second then none
  if n < 0x110000 then some (Json.unitChar n) else none

/-- The pieces between marks that are followed by a hexadecimal number, each mark and its number
replaced by the character. The next mark is kept when `keep` says so. -/
def scalars? (mark : List Char) (length : Nat) (keep : Bool) : List (List Char) → Option (List Char)
  | [] => some []
  | piece :: rest =>
    if keep then (scalars? mark length (endsEscaping piece) rest).map (mark ++ piece ++ ·)
    else do
      let c ← scalar? (piece.take length)
      let rest ← scalars? mark length false rest
      return c :: piece.drop length ++ rest

/-- The text with characters in place of the hexadecimal numbers behind a letter. -/
def replaceScalars? (letter : Char) (length : Nat) (s : List Char) : Option (List Char) :=
  match Text.splitOn ['\\', letter] s with
  | [] => some s
  | first :: rest => (scalars? ['\\', letter] length (endsEscaping first) rest).map (first ++ ·)

/-- The text with characters in place of the letters behind backslashes. -/
def replaceLetters? : List Char → Option (List Char)
  | [] => some []
  | ['\\'] => some ['\\']
  | '\\' :: c :: rest =>
    if c = '\\' then (replaceLetters? rest).map ('\\' :: ·)
    else if c = 'u' ∨ c = 'U' then (replaceLetters? rest).map ('\\' :: c :: ·)
    else match escaped? c with
      | some e => (replaceLetters? rest).map (e :: ·)
      | none => none
  | c :: rest => (replaceLetters? rest).map (c :: ·)

/-- What the backslashes make of a text. -/
def unescape? (s : List Char) : Option (List Char) := do
  if !escapesAllowed false ((Text.splitOn ['\\'] s).drop 1) then none
  let s ← replaceScalars? 'u' 4 s
  let s ← replaceScalars? 'U' 8 s
  replaceLetters? s

/-! ## Quotations -/

/-- The text between the quotes; two quotes more at each end belong to them. -/
def unquoted (quote : Char) (s : List Char) : List Char :=
  if s[1]? = some quote ∧ (s.length < 3 ∨ s[1]? = s[2]?) then inner (inner (inner s)) else inner s

/-- The text of a quotation. -/
def quotation? (quote : Char) (s : List Char) : Option (List Char) := do
  if !isOneQuotation quote s then none
  let s ← if quote = '"' then unescape? s else some s
  return unquoted quote s

end QuickLaunch.Toml
