import QuickLaunch.Host
import QuickLaunch.Shell.CommandLine
import QuickLaunch.Shell.Words

/-!
# The shell interpreter

The program that runs shell commands and the words that precede a command. The command is put
between double quotes as it is, and those quotes and any in the command are read by the rules for
words where programs are handed words, and by the program itself where they are handed a command
line.

* `Interpreter.ofValues`, `Interpreter.ofSettings`: the interpreter that settings name;
* `Interpreter.request`: what a command is started with;
* `openWords`, `openRequest`: what a file is opened with;
* `commandTies`, `openTies`: how the processes are tied to the launcher.
-/

namespace QuickLaunch

/-- An interpreter; settings may give words that are no texts. -/
structure Interpreter where
  program : Value
  args : List Value
  deriving Repr, Inhabited

namespace Interpreter

/-- The interpreter of a system. -/
def default : Family → Interpreter
  | .posix => { program := .text "sh", args := [.text "-c"] }
  | .windows =>
    { program := .text "powershell.exe", args := [.text "-NoProfile", .text "-Command"] }

/-- The interpreter with a program and arguments in place of those of the system, as far as they are
given. Arguments may be given as an empty list; a program may not be empty. -/
def ofValues (family : Family) (program args : Value) : Except Fault Interpreter := do
  let base := default family
  let args ← match args with
    | .null => .ok base.args
    | v => v.members
  return { program := if program.isGiven then program else base.program, args := args }

/-- The interpreter that settings name. -/
def ofSettings (family : Family) (settings : Value) : Except Fault Interpreter := do
  let shell ← settings.part "shell" (.table [])
  let program ← shell.part "program" .null
  let args ← shell.part "args" .null
  ofValues family program args

/-- The word as characters, if it is a text. -/
def wordChars (v : Value) : Except Fault (List Char) :=
  match v with
  | .text s => .ok s.toList
  | v => .error (.wordNotText v.kindName)

/-- What a command is started with. -/
def request (i : Interpreter) (family : Family) (command : String) : Except Fault Request :=
  let quotedCommand := '"' :: command.toList ++ ['"']
  match family with
  | .posix => do
    let words ← Shell.words quotedCommand
    return .words (i.program :: i.args ++ words.map fun w => .text (String.ofList w))
  | .windows => do
    let words ← (i.program :: i.args).mapM wordChars
    return .line (String.ofList (Shell.commandLine words ++ ' ' :: quotedCommand))

end Interpreter

/-- How the interpreter is tied to the launcher. -/
def commandTies : Ties :=
  { Ties.cut with windowless := true }

/-- What the name of a file that starts a program ends in. -/
def entrySuffix : List Char := ".desktop".toList

/-- The words that open a file. A file that starts a program is handed to the launcher of the
desktop, since opening it would show its text. -/
def openWords (desktop : Desktop) (path : String) : List String :=
  match desktop with
  | .mac => ["open", path]
  | .freedesktop | .windows =>
    if entrySuffix.isSuffixOf (Text.lowerChars path.toList) then ["gio", "launch", path]
    else ["xdg-open", path]

/-- What a file is opened with. -/
def openRequest (desktop : Desktop) (path : String) : Request :=
  match desktop with
  | .windows => .document path
  | .mac | .freedesktop => .words ((openWords desktop path).map .text)

/-- How the process that opens a file is tied to the launcher. -/
def openTies : Desktop → Option Ties
  | .windows => none
  | .mac | .freedesktop => some Ties.cut

end QuickLaunch
