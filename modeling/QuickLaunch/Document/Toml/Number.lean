import QuickLaunch.Document.Value
import QuickLaunch.Number.Numeral
import QuickLaunch.Text.Search

/-!
# Numbers in TOML

A number is a whole number, which may name its base, or a double. Underscores are dropped before it
is read; whether they and the zeros stand where they may is a question of its own. A number with a
minus sign is zero less the number behind the sign, so that there is no negative zero.

* `Toml.isTidy`: zeros and underscores stand where they may;
* `Toml.number?`: the number that a text names.
-/

namespace QuickLaunch.Toml

/-- The text without a sign in front. -/
def dropSign (s : List Char) : List Char :=
  (Numeral.cutSign s).2

/-- A zero stands first, and something other than a point, or the letter of a base when there is no
sign, comes behind it. -/
def hasNeedlessZero (s : List Char) : Bool :=
  match s with
  | '0' :: c :: _ => !(c == '.' || c == 'o' || c == 'b' || c == 'x')
  | _ => match dropSign s with
    | '0' :: c :: _ => c != '.'
    | _ => false

/-- Zeros and underscores of a number stand where they may. -/
def isTidy (s : List Char) : Bool :=
  let s := Text.trimChars s
  s != [] && s.head? != some '_' && s.getLast? != some '_'
    && !Text.occursIn ['_', '.'] s && !Text.occursIn ['.', '_'] s
    && (s.length == 1 || (!hasNeedlessZero s && !Text.occursIn ['_', '_'] s))

/-- The text without its underscores. -/
def withoutUnderscores (s : List Char) : List Char :=
  s.filter (· != '_')

/-- The text is written like a double: with a point, or with an exponent and no letter of base
sixteen. -/
def isDoubleForm (s : List Char) : Bool :=
  s.contains '.' || (!s.contains 'x' && (s.contains 'e' || s.contains 'E'))

/-- The text is the name of infinity or of no number. -/
def isDoubleWord (s : List Char) : Bool :=
  Text.lowerChars s == "inf".toList || Text.lowerChars s == "nan".toList

/-- The number that a text without a sign and without underscores names. -/
def unsigned? (s : List Char) : Option Value :=
  if isDoubleForm s then
    if s.contains '.' && (s.dropWhile (· != '.')).length == 1 then none
    else if (s.head?.map Char.isDigit).getD false then (Numeral.double? s).map .float
    else none
  else if isDoubleWord s then (Numeral.double? s).map .float
  else (Numeral.whole? s).map .int

/-- Zero less a number. -/
def zeroMinus : Value → Value
  | .int n => .int (-n)
  | .float x => .float x.zeroMinus
  | v => v

/-- The number that a text names. -/
def number? (s : List Char) : Option Value :=
  let v? := unsigned? (withoutUnderscores (dropSign s))
  if s.head? = some '-' then v?.map zeroMinus else v?

end QuickLaunch.Toml
