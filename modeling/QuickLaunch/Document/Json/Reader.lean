import QuickLaunch.Document.Value
import QuickLaunch.Fault
import QuickLaunch.Number.Numeral

/-!
# Reading JSON

The value that a JSON text names. Infinities and the value that is no number are read as words,
whole numbers have no bound but the one on their digits, and a key that comes again keeps its first
place and takes its last value. A half of a surrogate pair that stands alone is read as the
replacement character.
-/

namespace QuickLaunch.Json

/-- The characters that may stand around a value. -/
def isBlank (c : Char) : Bool :=
  c == ' ' || c == '\t' || c == '\n' || c == '\r'

/-- The text from the first character that is not blank on. -/
def skipBlanks (s : List Char) : List Char :=
  s.dropWhile isBlank

/-- The value of a hexadecimal digit. -/
def hexValue? (c : Char) : Option Nat :=
  if c.isDigit then some (c.toNat - 0x30)
  else if 'a' ≤ c ∧ c ≤ 'f' then some (c.toNat - 0x57)
  else if 'A' ≤ c ∧ c ≤ 'F' then some (c.toNat - 0x37)
  else none

/-- The number that four hexadecimal digits name. -/
def unit? (a b c d : Char) : Option Nat := do
  let a ← hexValue? a
  let b ← hexValue? b
  let c ← hexValue? c
  let d ← hexValue? d
  return 0x1000 * a + 0x100 * b + 0x10 * c + d

/-- The character that one letter behind a backslash names. -/
def escaped? (c : Char) : Option Char :=
  match c with
  | '"' => some '"'
  | '\\' => some '\\'
  | '/' => some '/'
  | 'b' => some '\x08'
  | 'f' => some '\x0c'
  | 'n' => some '\n'
  | 'r' => some '\r'
  | 't' => some '\t'
  | _ => none

/-- The number is the first half of a surrogate pair. -/
def isHighHalf (n : Nat) : Bool :=
  decide (0xd800 ≤ n) && decide (n < 0xdc00)

/-- The number is the second half of a surrogate pair. -/
def isLowHalf (n : Nat) : Bool :=
  decide (0xdc00 ≤ n) && decide (n < 0xe000)

/-- The character of a pair of surrogates. -/
def joinHalves (high low : Nat) : Char :=
  Char.ofNat (0x10000 + 0x400 * (high - 0xd800) + (low - 0xdc00))

/-- The character of a number. Half of a pair alone is no character; the null character, which no
name of a file has, stands for it. -/
def unitChar (n : Nat) : Char :=
  if isHighHalf n || isLowHalf n then '\x00' else Char.ofNat n

/-- The characters of a sequence of numbers, where two halves of a pair that follow each other are
one character. -/
def ofUnits : List Nat → List Char
  | [] => []
  | [n] => [unitChar n]
  | n :: m :: rest =>
    if isHighHalf n && isLowHalf m then joinHalves n m :: ofUnits rest
    else unitChar n :: ofUnits (m :: rest)

/-- The numbers of the characters up to the closing quote and what follows it; `done` holds those
read before, the last one first. -/
def readUnits (done : List Nat) : List Char → Except Fault (List Nat × List Char)
  | [] => .error .malformedDocument
  | '"' :: rest => .ok (done.reverse, rest)
  | '\\' :: 'u' :: a :: b :: c :: d :: rest =>
    match unit? a b c d with
    | some n => readUnits (n :: done) rest
    | none => .error .malformedDocument
  | '\\' :: c :: rest =>
    match escaped? c with
    | some e => readUnits (e.toNat :: done) rest
    | none => .error .malformedDocument
  | c :: rest =>
    if c = '\\' ∨ c.toNat < 0x20 then .error .malformedDocument
    else readUnits (c.toNat :: done) rest

/-- The text up to the closing quote and what follows it. -/
def readText (s : List Char) : Except Fault (String × List Char) := do
  let (units, rest) ← readUnits [] s
  return (String.ofList (ofUnits units), rest)

/-- The digits of the whole part of a number: a zero alone, or digits that do not begin with one. -/
def wholePart : List Char → List Char
  | '0' :: _ => ['0']
  | s => s.takeWhile Char.isDigit

/-- The digits behind a point, if a digit follows the point. -/
def fractionPart : List Char → Option (List Char)
  | '.' :: rest =>
    if (rest.takeWhile Char.isDigit).isEmpty then none else some (rest.takeWhile Char.isDigit)
  | _ => none

/-- The sign and the digits of an exponent, with the number of characters it takes. -/
def exponentPart : List Char → Option (Bool × List Char × Nat)
  | e :: rest =>
    if e = 'e' ∨ e = 'E' then
      let (negative, ds) := Numeral.cutSign rest
      let digits := ds.takeWhile Char.isDigit
      if digits.isEmpty then none
      else some (negative, digits, 1 + (rest.length - ds.length) + digits.length)
    else none
  | [] => none

/-- A number and what follows it. With a fraction or an exponent it is a double, else a whole
number. -/
def readNumber (s : List Char) : Except Fault (Value × List Char) :=
  let (negative, body) := match s with
    | '-' :: rest => (true, rest)
    | rest => (false, rest)
  let whole := wholePart body
  if whole.isEmpty then .error .malformedDocument
  else
    let rest := body.drop whole.length
    let fraction := fractionPart rest
    let rest := match fraction with
      | some ds => rest.drop (ds.length + 1)
      | none => rest
    match fraction, exponentPart rest with
    | none, none =>
      if Numeral.maxDigits < whole.length then .error (.numberTooLong whole.length)
      else
        let n := Numeral.ofDigits whole
        .ok (.int (if negative then -(n : Int) else n), rest)
    | fraction, exponent =>
      let behind := fraction.getD []
      let (e, taken) : Int × Nat := match exponent with
        | some (true, ds, k) => (-(Numeral.ofDigits ds : Int), k)
        | some (false, ds, k) => (Numeral.ofDigits ds, k)
        | none => (0, 0)
      let digits := Numeral.ofDigits (whole ++ behind)
      .ok (.float (Double.ofDecimal negative digits (e - behind.length)), rest.drop taken)

/-- The words of the format. -/
def words : List (List Char × Value) := [
  ("null".toList, .null), ("true".toList, .bool true), ("false".toList, .bool false),
  ("NaN".toList, .float .nan), ("Infinity".toList, .float (.infinite false)),
  ("-Infinity".toList, .float (.infinite true))]

mutual

/-- A value and what follows it. -/
def readValue : Nat → List Char → Except Fault (Value × List Char)
  | 0, _ => .error .malformedDocument
  | fuel + 1, s =>
    match s with
    | '"' :: rest => do
      let (text, rest) ← readText rest
      return (.text text, rest)
    | '[' :: rest =>
      match skipBlanks rest with
      | ']' :: rest => .ok (.list [], rest)
      | rest => readItems fuel [] rest
    | '{' :: rest =>
      match skipBlanks rest with
      | '}' :: rest => .ok (.table [], rest)
      | rest => readEntries fuel [] rest
    | s =>
      match words.find? (fun w => w.1.isPrefixOf s) with
      | some (w, v) => .ok (v, s.drop w.length)
      | none => readNumber s

/-- The items of a list from the next one on, and what follows the list; `done` holds the items
before, last one first. -/
def readItems : Nat → List Value → List Char → Except Fault (Value × List Char)
  | 0, _, _ => .error .malformedDocument
  | fuel + 1, done, s => do
    let (v, rest) ← readValue fuel s
    match skipBlanks rest with
    | ']' :: rest => .ok (.list (v :: done).reverse, rest)
    | ',' :: rest => readItems fuel (v :: done) (skipBlanks rest)
    | _ => .error .malformedDocument

/-- The entries of a table from the next one on, and what follows the table; `done` holds the
entries before. -/
def readEntries : Nat → Table → List Char → Except Fault (Value × List Char)
  | 0, _, _ => .error .malformedDocument
  | fuel + 1, done, s =>
    match s with
    | '"' :: rest => do
      let (key, rest) ← readText rest
      match skipBlanks rest with
      | ':' :: rest =>
        let (v, rest) ← readValue fuel (skipBlanks rest)
        let done := Table.set done key v
        match skipBlanks rest with
        | '}' :: rest => .ok (.table done, rest)
        | ',' :: rest => readEntries fuel done (skipBlanks rest)
        | _ => .error .malformedDocument
      | _ => .error .malformedDocument
    | _ => .error .malformedDocument

end

/-- The value that a JSON text names. A byte order mark in front is refused. -/
def readChars (s : List Char) : Except Fault Value := do
  if s.head? = some '\ufeff' then throw .malformedDocument
  let (v, rest) ← readValue (2 * s.length + 2) (skipBlanks s)
  if (skipBlanks rest).isEmpty then return v else throw .malformedDocument

/-- The value that a JSON text names. -/
def read (s : String) : Except Fault Value :=
  readChars s.toList

end QuickLaunch.Json
