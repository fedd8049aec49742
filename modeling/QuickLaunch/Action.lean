import QuickLaunch.Text.Quoted
import QuickLaunch.Text.Search

/-!
# Actions

What a command does once it is resolved. Actions are values: two of them are equal when they are of
one kind and hold the same data, and equality is decidable. `Action.text` is the printed form.

* `Action.text`: the printed form, from which an action can be read off;
* `Action.label`: what log lines call an action.
-/

namespace QuickLaunch

/-- What the launcher can be told to do. -/
inductive Action where
  /-- Nothing. -/
  | noop
  /-- Open a file or program with the handler of the desktop. -/
  | launch (path : String)
  /-- Hand a command to the shell interpreter. -/
  | shell (command : String)
  /-- Run the steps one after another. -/
  | workflow (steps : List Action)
  /-- A value of a type that this library does not know how to run. -/
  | foreign (typeName : String)
  deriving Inhabited, Repr

namespace Action

/-! ## Equality -/

mutual

/-- Equality of actions. -/
def decEq : (a b : Action) → Decidable (a = b)
  | .noop, .noop => isTrue rfl
  | .launch p, .launch q =>
    if h : p = q then isTrue (by rw [h]) else isFalse (fun e => h (launch.inj e))
  | .shell p, .shell q =>
    if h : p = q then isTrue (by rw [h]) else isFalse (fun e => h (shell.inj e))
  | .workflow p, .workflow q =>
    match decEqList p q with
    | isTrue h => isTrue (by rw [h])
    | isFalse h => isFalse (fun e => h (workflow.inj e))
  | .foreign p, .foreign q =>
    if h : p = q then isTrue (by rw [h]) else isFalse (fun e => h (foreign.inj e))
  | .noop, .launch _ | .noop, .shell _ | .noop, .workflow _ | .noop, .foreign _
  | .launch _, .noop | .launch _, .shell _ | .launch _, .workflow _ | .launch _, .foreign _
  | .shell _, .noop | .shell _, .launch _ | .shell _, .workflow _ | .shell _, .foreign _
  | .workflow _, .noop | .workflow _, .launch _ | .workflow _, .shell _ | .workflow _, .foreign _
  | .foreign _, .noop | .foreign _, .launch _ | .foreign _, .shell _ | .foreign _, .workflow _ =>
    isFalse nofun

/-- Equality of lists of actions. -/
def decEqList : (a b : List Action) → Decidable (a = b)
  | [], [] => isTrue rfl
  | [], _ :: _ | _ :: _, [] => isFalse nofun
  | a :: as, b :: bs =>
    match decEq a b, decEqList as bs with
    | isTrue h, isTrue k => isTrue (by rw [h, k])
    | isFalse h, _ => isFalse (fun e => h (List.cons.inj e).1)
    | _, isFalse k => isFalse (fun e => k (List.cons.inj e).2)

end

instance : DecidableEq Action := decEq

/-! ## Printed form -/

/-- The printed form of a sequence whose parts are printed already; a part that stands alone keeps
a comma behind it. -/
def sequenceChars : List (List Char) → List Char
  | [part] => '(' :: part ++ [',', ')']
  | parts => '(' :: Text.joinWith [',', ' '] parts ++ [')']

mutual

/-- The printed form, as characters. -/
def chars : Action → List Char
  | .noop => "NoOp()".toList
  | .launch path => "Launch(path=".toList ++ Text.quotedChars path.toList ++ [')']
  | .shell command => "Shell(command=".toList ++ Text.quotedChars command.toList ++ [')']
  | .workflow steps => "Composite(steps=".toList ++ sequenceChars (partChars steps) ++ [')']
  | .foreign typeName => typeName.toList ++ "()".toList

/-- The printed forms of the steps of a workflow. -/
def partChars : List Action → List (List Char)
  | [] => []
  | a :: rest => chars a :: partChars rest

end

/-- The printed form of an action. -/
def text (a : Action) : String :=
  String.ofList a.chars

/-- What log lines call an action. -/
def label : Action → String
  | .noop => "NoOp"
  | .launch path => s!"launch '{path}'"
  | .shell command => s!"shell command '{command}'"
  | .workflow steps => s!"workflow of {steps.length} steps"
  | .foreign typeName => typeName

end Action

end QuickLaunch
