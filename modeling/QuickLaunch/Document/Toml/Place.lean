import QuickLaunch.Document.Value

/-!
# Places in a document

A header opens a table, which the lines behind it fill. The table is told by the steps that lead to
it from the document: to the value of a key, or to the last item of a list. A header makes the
tables on the way that are not there; the last of its names must be new, unless it opens an array of
tables once more or a table that was only made on the way.

* `Toml.openTable`: what a header does to a document;
* `Toml.changeAt`, `Toml.changeBelow`: a change at a place, and at a key below it.
-/

namespace QuickLaunch.Toml

/-- A step to a part of a value. -/
inductive Step where
  | key (name : String)
  | lastItem
  deriving DecidableEq, Repr

/-- A value with a change made where the steps lead. -/
def changeAt (change : Value → Option Value) : List Step → Value → Option Value
  | [], v => change v
  | .key name :: steps, .table t =>
    (Table.get? t name).bind fun w =>
      (changeAt change steps w).map fun w => .table (Table.set t name w)
  | .lastItem :: steps, .list items =>
    items.getLast?.bind fun w =>
      (changeAt change steps w).map fun w => .list (items.dropLast ++ [w])
  | _ :: _, _ => none

/-- A table with a change made to the table below the names; tables that are not there are made. -/
def changeBelow (change : Table → Option Table) : List String → Value → Option Value
  | [], .table t => (change t).map .table
  | name :: names, .table t =>
    (changeBelow change names ((Table.get? t name).getD (.table []))).map fun w =>
      .table (Table.set t name w)
  | _, _ => none

/-- A table with a new key. -/
def addKey (name : String) (v : Value) (t : Table) : Option Table :=
  if (Table.get? t name).isSome then none else some (Table.set t name v)

/-! ## Headers -/

/-- A table that a header opened: the document with it, the names made on the way so far, and the
steps to the table. -/
structure Opened where
  value : Value
  implied : List String
  steps : List Step
  deriving Repr

/-- What a new table of a header is: a list of one table if it is the last of an array of tables. -/
def freshTable (array isLast : Bool) : Value :=
  if array && isLast then .list [.table []] else .table []

/-- What the name of a header names in a table, and the names made on the way with it. -/
def enterTable (array isLast : Bool) (implied : List String) (name : String) (t : Table) :
    Option (Value × List String) :=
  match Table.get? t name with
  | none => some (freshTable array isLast, if isLast then implied else implied ++ [name])
  | some w =>
    if !isLast then some (w, implied)
    else if name ∈ implied then if array then none else some (w, implied.erase name)
    else match array, w with
      | true, .list items => some (.list (items ++ [.table []]), implied)
      | _, _ => none

/-- Go on from the value that a name names: in the header of an array of tables from the last item
of a list. -/
def descend (array : Bool) (next : Value → Option Opened) (name : String) (t : Table) (w : Value) :
    Option Opened :=
  let inTable (o : Opened) (w : Value) (steps : List Step) : Opened :=
    { o with value := .table (Table.set t name w), steps := .key name :: steps }
  match array, w with
  | false, w => (next w).map fun o => inTable o o.value o.steps
  | true, .table _ => (next w).map fun o => inTable o o.value o.steps
  | true, .list items =>
    items.getLast?.bind fun last => (next last).map fun o =>
      inTable o (.list (items.dropLast ++ [o.value])) (.lastItem :: o.steps)
  | true, _ => none

/-- Open the table that the names of a header lead to. A name leads into the last table of a list,
where nothing has to be new. -/
def openTable (array : Bool) (implied : List String) : List String → Value → Option Opened
  | [], v => some { value := v, implied := implied, steps := [] }
  | name :: names, v =>
    if name = "" then none
    else match v with
      | .table t =>
        (enterTable array names.isEmpty implied name t).bind fun (w, implied) =>
          descend array (openTable array implied names) name t w
      | .list items =>
        match items.getLast? with
        | some (.table t) =>
          let w := (Table.get? t name).getD (freshTable array names.isEmpty)
          (descend array (openTable array implied names) name t w).map fun o =>
            { o with value := .list (items.dropLast ++ [o.value]), steps := .lastItem :: o.steps }
        | _ => none
      | _ => none

end QuickLaunch.Toml
