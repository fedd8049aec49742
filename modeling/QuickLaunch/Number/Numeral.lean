import QuickLaunch.Number.Double
import QuickLaunch.Text.Blank
import QuickLaunch.Text.Classes

/-!
# Numerals

The texts that name a number. Blanks around a numeral are allowed, single underscores may stand
between digits, and digits of every script count. A decimal numeral has a sign, digits with at most
one point, and an exponent, or names infinity or no number. A whole numeral may name its base by a
prefix, and has no needless zero in front when it does not.
-/

namespace QuickLaunch.Numeral

/-- A whole number longer than this many digits is not read. -/
def maxDigits : Nat := 4300

/-- Digits of other scripts replaced by their ASCII forms, blanks by spaces. -/
def normalise (s : List Char) : List Char :=
  s.map fun c =>
    if c.toNat < 0x80 then c
    else match Text.digitValue? c with
      | some d => Char.ofNat (0x30 + d)
      | none => if Text.isBlankChar c then ' ' else c

/-- The text without its underscores, each of which must stand between two digits. -/
def dropUnderscores (previousIsDigit : Bool) : List Char → Option (List Char)
  | [] => some []
  | '_' :: rest =>
    match rest with
    | d :: _ => if previousIsDigit && d.isDigit then dropUnderscores false rest else none
    | [] => none
  | c :: rest => (dropUnderscores c.isDigit rest).map (c :: ·)

/-- The number that decimal digits name. -/
def ofDigits (ds : List Char) : Nat :=
  ds.foldl (fun n d => 10 * n + (d.toNat - 0x30)) 0

/-- A sign and what follows it; the sign is negative when the first component is true. -/
def cutSign : List Char → Bool × List Char
  | '-' :: rest => (true, rest)
  | '+' :: rest => (false, rest)
  | s => (false, s)

/-- The exponent that the text after the digits names, if that text is nothing or an exponent. -/
def exponent? : List Char → Option Int
  | [] => some 0
  | e :: rest =>
    if e = 'e' ∨ e = 'E' then
      let (negative, ds) := cutSign rest
      if ds ≠ [] ∧ ds.all Char.isDigit then
        some (if negative then -(ofDigits ds : Int) else ofDigits ds)
      else none
    else none

/-- The double of digits, a point and an exponent. -/
def unsigned? (negative : Bool) (s : List Char) : Option Double :=
  let whole := s.takeWhile Char.isDigit
  let rest := s.dropWhile Char.isDigit
  let (behind, rest) := match rest with
    | '.' :: r => (r.takeWhile Char.isDigit, r.dropWhile Char.isDigit)
    | r => ([], r)
  if whole = [] ∧ behind = [] then none
  else (exponent? rest).map fun e =>
    Double.ofDecimal negative (ofDigits (whole ++ behind)) (e - behind.length)

/-- The double that a decimal numeral names. -/
def double? (s : List Char) : Option Double :=
  match dropUnderscores false (Text.trimChars (normalise s)) with
  | none => none
  | some s =>
    let (negative, rest) := cutSign s
    let word := rest.map Char.toLower
    if word = "inf".toList ∨ word = "infinity".toList then some (.infinite negative)
    else if word = "nan".toList then some .nan
    else unsigned? negative rest

/-- The value of a digit of a base up to sixteen. -/
def digitOf? (base : Nat) (c : Char) : Option Nat :=
  let v? :=
    if c.isDigit then some (c.toNat - 0x30)
    else if 'a' ≤ c ∧ c ≤ 'z' then some (c.toNat - 0x57)
    else if 'A' ≤ c ∧ c ≤ 'Z' then some (c.toNat - 0x37)
    else none
  v?.filter (· < base)

/-- The number that digits of a base name; single underscores may stand between digits. -/
def digits? (base : Nat) (afterDigit : Bool) (n : Nat) : List Char → Option Nat
  | [] => if afterDigit then some n else none
  | '_' :: rest =>
    match rest with
    | d :: _ => if afterDigit && (digitOf? base d).isSome then digits? base false n rest else none
    | [] => none
  | c :: rest => (digitOf? base c).bind fun d => digits? base true (base * n + d) rest

/-- The whole number that a decimal numeral names; it may begin with zeros. -/
def decimal? (s : List Char) : Option Int :=
  let (negative, ds) := cutSign (Text.trimChars (normalise s))
  if maxDigits < (ds.filter Char.isDigit).length then none
  else (digits? 10 false 0 ds).map fun n => if negative then -(n : Int) else n

/-- The whole number that a numeral with a base prefix names, decimal without one. -/
def whole? (s : List Char) : Option Int :=
  let (negative, rest) := cutSign (Text.trimChars (normalise s))
  let n? : Option Nat :=
    match rest with
    | '0' :: x :: ds =>
      let prefixed (base : Nat) : Option Nat :=
        digits? base false 0 (if ds.head? = some '_' then ds.drop 1 else ds)
      if x = 'x' ∨ x = 'X' then prefixed 16
      else if x = 'o' ∨ x = 'O' then prefixed 8
      else if x = 'b' ∨ x = 'B' then prefixed 2
      else (digits? 10 false 0 rest).filter (· == 0)
    | ds =>
      if maxDigits < (ds.filter Char.isDigit).length then none else digits? 10 false 0 ds
  n?.map fun n => if negative then -(n : Int) else n

end QuickLaunch.Numeral
