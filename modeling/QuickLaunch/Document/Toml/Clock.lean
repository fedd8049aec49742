import QuickLaunch.Document.Value
import QuickLaunch.Number.Numeral

/-!
# Dates and times

A time of day is three pairs of digits between colons, with a fraction of three to six digits, and
what follows it is disregarded. A date has ten characters; any other text that has a hyphen behind
its first character is a date and a time of day, read by position, with a fraction and an offset
from universal time behind it. The characters between the numbers are not looked at.

* `Toml.time?`, `Toml.date?`: the moments that texts name.
-/

namespace QuickLaunch.Toml

/-- The characters from one position on, up to another. -/
def between (s : List Char) (first last : Nat) : List Char :=
  (s.drop first).take (last - first)

/-! ## Times of day -/

/-- Two digits. -/
def pair? : List Char → Option Nat
  | [a, b] => if a.isDigit ∧ b.isDigit then some (Numeral.ofDigits [a, b]) else none
  | _ => none

/-- The fraction behind a time of day, as a whole number. -/
def fraction : List Char → Nat
  | '.' :: rest =>
    let ds := (rest.take 6).takeWhile Char.isDigit
    if ds.length < 3 then 0 else Numeral.ofDigits ds
  | _ => 0

/-- The numbers of a text that begins with a time of day. -/
def clock? (s : List Char) : Option (Nat × Nat × Nat × Nat) := do
  let hour ← pair? (between s 0 2)
  let minute ← pair? (between s 3 5)
  let second ← pair? (between s 6 8)
  if s[2]? = some ':' ∧ s[5]? = some ':' then
    return (hour, minute, second, fraction (s.drop 8))
  else none

/-- There is such a time of day. -/
def isTime (hour minute second : Int) : Bool :=
  decide (0 ≤ hour) && decide (hour < 24) && decide (0 ≤ minute) && decide (minute < 60)
    && decide (0 ≤ second) && decide (second < 60)

/-- The time of day that the numbers name. -/
def time? (parts : Nat × Nat × Nat × Nat) : Option Moment :=
  let (hour, minute, second, fraction) := parts
  if isTime hour minute second then some (.time hour minute second fraction) else none

/-! ## Dates -/

/-- The year has a 29th of February. -/
def isLeap (year : Int) : Bool :=
  year % 4 == 0 && (year % 100 != 0 || year % 400 == 0)

/-- The number of days of a month. -/
def daysOf (year month : Int) : Int :=
  if month = 2 then (if isLeap year then 29 else 28)
  else if month = 4 ∨ month = 6 ∨ month = 9 ∨ month = 11 then 30 else 31

/-- There is such a date. -/
def isDate (year month day : Int) : Bool :=
  decide (1 ≤ year) && decide (year ≤ 9999) && decide (1 ≤ month) && decide (month ≤ 12)
    && decide (1 ≤ day) && decide (day ≤ daysOf year month)

/-- The offset from universal time, in minutes, that a text names. -/
def offset? (s : List Char) : Option Int :=
  if s = ['Z'] then some 0
  else do
    let hours ← Numeral.decimal? (between s 1 3)
    let minutes ← Numeral.decimal? (between s 4 6)
    let size := 60 * hours + minutes
    return if s.head? = some '-' then -size else size

/-- A fraction of a second and the text of an offset behind it. -/
def cutFraction (s : List Char) : List Char × Option (List Char) :=
  if s.getLast? = some 'Z' ∨ s.getLast? = some 'z' then (s.dropLast, some ['Z'])
  else
    let mark := if '+' ∈ s then '+' else '-'
    if mark ∈ s then (s.takeWhile (· != mark), some (s.dropWhile (· != mark))) else (s, none)

/-- The millionths of a second that the digits of a fraction name; more than six digits are cut. -/
def millionths? (ds : List Char) : Option Int := do
  let n ← Numeral.decimal? ds
  return if ds.length ≤ 6 then n * Nat.pow 10 (6 - ds.length)
    else n.tdiv (Nat.pow 10 (ds.length - 6))

/-- The millionths of a second and the offset that the text behind a time of day names. What cannot
be read is disregarded. -/
def tail (s : List Char) : Int × Option Int :=
  match s with
  | [] => (0, none)
  | '.' :: rest =>
    let (ds, zone) := cutFraction rest
    match zone with
    | none => ((millionths? ds).getD 0, none)
    | some zone =>
      match offset? zone with
      | none => (0, none)
      | some offset =>
        match millionths? ds with
        | none => (0, none)
        | some n => (n, some offset)
  | zone => (0, offset? zone)

/-- The date, or date and time of day, that a text names. -/
def date? (s : List Char) : Option Moment := do
  if '-' ∉ s.drop 1 then none
  let year ← Numeral.decimal? (between s 0 4)
  let month ← Numeral.decimal? (between s 5 7)
  let day ← Numeral.decimal? (between s 8 10)
  if s.length = 10 then
    if isDate year month day then some (.date year.toNat month.toNat day.toNat) else none
  else
    let hour ← Numeral.decimal? (between s 11 13)
    let minute ← Numeral.decimal? (between s 14 16)
    let second ← Numeral.decimal? (between s 17 19)
    let (fraction, offset) := tail (s.drop 19)
    if isDate year month day && isTime hour minute second && decide (0 ≤ fraction)
        && decide (fraction < 1000000) then
      some (.stamp year.toNat month.toNat day.toNat hour.toNat minute.toNat second.toNat
        fraction.toNat offset)
    else none

end QuickLaunch.Toml
