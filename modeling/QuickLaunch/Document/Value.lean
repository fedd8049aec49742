import QuickLaunch.Fault
import QuickLaunch.Number.Double

/-!
# Document values

What a configuration document or a settings file holds: the values of the two text formats, with the
entries of a table in document order. A key stands at most once in a table; writing to a key that is
there keeps its place.

* `Table.get?_set_self`, `Table.get?_set_ne`: what a table holds after a write;
* `Table.keys_set`: where a written key stands.
-/

namespace QuickLaunch

/-- A date, a time of day, or both with an optional offset from universal time in minutes. -/
inductive Moment where
  | date (year month day : Nat)
  | time (hour minute second microsecond : Nat)
  | stamp (year month day hour minute second microsecond : Nat) (offset : Option Int)
  deriving DecidableEq, Repr, Inhabited

/-- A value of a document. -/
inductive Value where
  | null
  | bool (b : Bool)
  | int (n : Int)
  | float (x : Double)
  | text (s : String)
  | moment (m : Moment)
  | list (items : List Value)
  | table (entries : List (String × Value))
  deriving Repr, Inhabited

/-- The entries of a table. -/
abbrev Table := List (String × Value)

namespace Value

/-- The name of the kind of a value. -/
def kindName : Value → String
  | .null => "NoneType"
  | .bool _ => "bool"
  | .int _ => "int"
  | .float _ => "float"
  | .text _ => "str"
  | .moment (.date ..) => "date"
  | .moment (.time ..) => "time"
  | .moment (.stamp ..) => "datetime"
  | .list _ => "list"
  | .table _ => "dict"

/-- Whether a value counts as given: nothing, false, zero and what is empty do not. -/
def isGiven : Value → Bool
  | .null => false
  | .bool b => b
  | .int n => n != 0
  | .float x => !x.isZero
  | .text s => s != ""
  | .moment _ => true
  | .list items => !items.isEmpty
  | .table entries => !entries.isEmpty

/-- The text of a text value. -/
def text? : Value → Option String
  | .text s => some s
  | _ => none

/-- The members of a value that stands where a list is wanted: the items of a list, the characters
of a text, the keys of a table. -/
def members : Value → Except Fault (List Value)
  | .list items => .ok items
  | .text s => .ok (s.toList.map fun c => .text (String.singleton c))
  | .table entries => .ok (entries.map fun e => .text e.1)
  | _ => .error .wrongKind

end Value

namespace Table

/-- The value of a key. -/
def get? (t : Table) (key : String) : Option Value :=
  t.lookup key

/-- The value of a key, or another value if the key is not there. -/
def getD (t : Table) (key : String) (other : Value) : Value :=
  (get? t key).getD other

/-- The table with a value written to a key: in the key's place if it has one, at the end if not. -/
def set : Table → String → Value → Table
  | [], key, v => [(key, v)]
  | (k, w) :: rest, key, v => if k = key then (key, v) :: rest else (k, w) :: set rest key v

/-- The keys, in order. -/
def keys (t : Table) : List String :=
  t.map Prod.fst

/-! ## Laws -/

theorem get?_nil (key : String) : get? [] key = none := rfl

theorem get?_cons (k : String) (v : Value) (t : Table) (key : String) :
    get? ((k, v) :: t) key = if k = key then some v else get? t key := by
  rw [get?, List.lookup_cons, get?]
  by_cases h : k = key
  · simp [h]
  · have : (key == k) = false := by simpa using fun e => h e.symm
    simp [h, this]

theorem get?_set_self (t : Table) (key : String) (v : Value) : get? (set t key v) key = some v := by
  induction t with
  | nil => simp [set, get?_cons]
  | cons e rest ih =>
    obtain ⟨k, w⟩ := e
    by_cases h : k = key <;> simp [set, h, get?_cons, ih]

theorem get?_set_ne (t : Table) {key other : String} (v : Value) (h : other ≠ key) :
    get? (set t key v) other = get? t other := by
  induction t with
  | nil => simp [set, get?_cons, get?_nil, Ne.symm h]
  | cons e rest ih =>
    obtain ⟨k, w⟩ := e
    by_cases hk : k = key
    · subst hk
      simp [set, get?_cons, Ne.symm h]
    · simp [set, hk, get?_cons, ih]

/-- A new key comes last. -/
theorem set_of_not_mem {t : Table} {key : String} (h : key ∉ keys t) (v : Value) :
    set t key v = t ++ [(key, v)] := by
  induction t with
  | nil => rfl
  | cons e rest ih =>
    obtain ⟨k, w⟩ := e
    simp only [keys, List.map_cons, List.mem_cons, not_or] at h
    rw [set, if_neg (Ne.symm h.1), ih h.2]
    rfl

/-- A key that is there keeps its place; a new one comes last. -/
theorem keys_set (t : Table) (key : String) (v : Value) :
    keys (set t key v) = if key ∈ keys t then keys t else keys t ++ [key] := by
  induction t with
  | nil => simp [set, keys]
  | cons e rest ih =>
    obtain ⟨k, w⟩ := e
    simp only [keys] at ih
    by_cases hk : k = key
    · simp [set, hk, keys]
    · have hk' : ¬ key = k := fun e => hk e.symm
      simp only [set, hk, keys, List.map_cons, if_false, ih, List.mem_cons, hk', false_or]
      by_cases h : key ∈ rest.map Prod.fst <;> simp [h]

end Table

/-- The value of a key of a value that has to be a table, or another value if the key is not
there. -/
def Value.part (v : Value) (key : String) (other : Value) : Except Fault Value :=
  match v with
  | .table entries => .ok (Table.getD entries key other)
  | _ => .error .noSuchPart

end QuickLaunch
