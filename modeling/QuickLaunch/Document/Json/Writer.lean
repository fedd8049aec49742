import QuickLaunch.Document.Printed

/-!
# Writing JSON

The JSON text of a value in ASCII: texts escape quotes, backslashes, control characters and all that
is not ASCII, a character beyond the first plane as a pair of surrogates. A layout says how the
parts of lists and tables are set out.
-/

namespace QuickLaunch.Json

/-- How lists and tables are set out: on one line, or with each part on a line of its own, indented
by so many spaces more than its surroundings. -/
inductive Layout where
  | compact
  | indented (width : Nat)
  deriving DecidableEq, Repr

/-- Four hexadecimal digits behind `\u`. -/
def unitEscape (n : Nat) : List Char :=
  '\\' :: 'u' :: Text.hexDigits 4 n

/-- One character of a text. -/
def escapeChar (c : Char) : List Char :=
  if c = '"' then ['\\', '"']
  else if c = '\\' then ['\\', '\\']
  else if c = '\n' then ['\\', 'n']
  else if c = '\r' then ['\\', 'r']
  else if c = '\t' then ['\\', 't']
  else if c = '\x0c' then ['\\', 'f']
  else if c = '\x08' then ['\\', 'b']
  else if 0x20 ≤ c.toNat ∧ c.toNat < 0x7f then [c]
  else if c.toNat < 0x10000 then unitEscape c.toNat
  else
    unitEscape (0xd800 + (c.toNat - 0x10000) / 0x400)
      ++ unitEscape (0xdc00 + (c.toNat - 0x10000) % 0x400)

/-- A text between quotes. -/
def textChars (s : List Char) : List Char :=
  '"' :: s.flatMap escapeChar ++ ['"']

/-- A double; the format has no infinities, which are written as words. -/
def floatChars : Double → List Char
  | .nan => "NaN".toList
  | .infinite false => "Infinity".toList
  | .infinite true => "-Infinity".toList
  | x => x.chars

namespace Layout

/-- What stands between an opening bracket or a comma and a part at the given depth. -/
def lead : Layout → Nat → List Char
  | .compact, _ => []
  | .indented width, depth => '\n' :: List.replicate (width * depth) ' '

/-- What stands between two parts at the given depth. -/
def separator : Layout → Nat → List Char
  | .compact, _ => [',', ' ']
  | .indented width, depth => ',' :: (Layout.indented width).lead depth

/-- Parts between brackets, the brackets standing at the given depth. -/
def bracketed (layout : Layout) (depth : Nat) (opening closing : Char) (parts : List (List Char)) :
    List Char :=
  match parts with
  | [] => [opening, closing]
  | parts =>
    opening :: layout.lead (depth + 1) ++ Text.joinWith (layout.separator (depth + 1)) parts
      ++ layout.lead depth ++ [closing]

end Layout

mutual

/-- The text of a value at the given depth. -/
def valueChars (layout : Layout) (depth : Nat) : Value → List Char
  | .null => "null".toList
  | .bool true => "true".toList
  | .bool false => "false".toList
  | .int n => decimalChars n
  | .float x => floatChars x
  | .text s => textChars s.toList
  | .moment m => textChars m.chars
  | .list items => layout.bracketed depth '[' ']' (itemTexts layout (depth + 1) items)
  | .table entries => layout.bracketed depth '{' '}' (entryTexts layout (depth + 1) entries)

/-- The texts of the items of a list. -/
def itemTexts (layout : Layout) (depth : Nat) : List Value → List (List Char)
  | [] => []
  | v :: rest => valueChars layout depth v :: itemTexts layout depth rest

/-- The texts of the entries of a table. -/
def entryTexts (layout : Layout) (depth : Nat) : List (String × Value) → List (List Char)
  | [] => []
  | (k, v) :: rest =>
    (textChars k.toList ++ ':' :: ' ' :: valueChars layout depth v)
      :: entryTexts layout depth rest

end

/-- The JSON text of a value. -/
def write (layout : Layout) (v : Value) : String :=
  String.ofList (valueChars layout 0 v)

end QuickLaunch.Json
