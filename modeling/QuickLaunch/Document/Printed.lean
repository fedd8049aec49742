import QuickLaunch.Document.Value
import QuickLaunch.Number.Shortest
import QuickLaunch.Text.Quoted

/-!
# Printed values

How log lines show a value of a document: texts quoted, numbers in their shortest form, lists and
tables in brackets with their parts in document order.
-/

namespace QuickLaunch

/-- The digits of a number. -/
def decimalChars (n : Int) : List Char :=
  (if n < 0 then ['-'] else []) ++ Nat.toDigits 10 n.natAbs

/-- The printed form of a moment: its parts in order. -/
def Moment.chars (m : Moment) : List Char :=
  let parts (name : String) (ns : List Nat) : List Char :=
    name.toList ++ '(' :: Text.joinWith [',', ' '] (ns.map fun n : Nat => decimalChars n) ++ [')']
  match m with
  | .date y mo d => parts "datetime.date" [y, mo, d]
  | .time h mi s us => parts "datetime.time" [h, mi, s, us]
  | .stamp y mo d h mi s us _ => parts "datetime.datetime" [y, mo, d, h, mi, s, us]

namespace Value

mutual

/-- The printed form of a value. -/
def chars : Value → List Char
  | .null => "None".toList
  | .bool true => "True".toList
  | .bool false => "False".toList
  | .int n => decimalChars n
  | .float x => x.chars
  | .text s => Text.quotedChars s.toList
  | .moment m => m.chars
  | .list items => '[' :: Text.joinWith [',', ' '] (itemChars items) ++ [']']
  | .table entries => '{' :: Text.joinWith [',', ' '] (entryChars entries) ++ ['}']

/-- The printed forms of the items of a list. -/
def itemChars : List Value → List (List Char)
  | [] => []
  | v :: rest => chars v :: itemChars rest

/-- The printed forms of the entries of a table. -/
def entryChars : List (String × Value) → List (List Char)
  | [] => []
  | (k, v) :: rest => (Text.quotedChars k.toList ++ ':' :: ' ' :: chars v) :: entryChars rest

end

/-- The printed form of a value. -/
def printed (v : Value) : String :=
  String.ofList v.chars

end Value

end QuickLaunch
