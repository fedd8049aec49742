import QuickLaunch.Catalog.Index
import QuickLaunch.Config.Store
import QuickLaunch.Invocation.Help
import QuickLaunch.Launcher.Basic
import QuickLaunch.Settings.Basic

/-!
# Replies to command lines

What the program does for a command line: it loads the settings, sets the level of the log and
carries out the command. Searching and listing filters open the configuration and build the index;
running an action does neither. The reply is an exit status and the lines that are printed.

* `Reply.ofWords`: the reply to a command line.
-/

namespace QuickLaunch

/-- An exit status and the lines that are printed. -/
structure Reply where
  status : Nat
  lines : List String := []
  deriving DecidableEq, Repr, Inhabited

namespace Reply

/-- The printed text. -/
def text (r : Reply) : String :=
  String.join (r.lines.map (· ++ "\n"))

/-- The interpreter that settings name. -/
def interpreter (settings : Table) : Session Interpreter := do
  Session.ofExcept (Interpreter.ofSettings (← Session.environment).family (.table settings))

/-- The action of a command string. -/
def actionOf (command : String) : Session Action := do
  Session.note (Config.commandEvents command)
  return Command.resolve (some command)

/-! ## Actions -/

/-- Print the action of a command string. -/
def resolve (command : String) : Session Reply := do
  let action ← actionOf command
  return { status := 0, lines := [action.text] }

/-- Run the action of a command string, after a warning if not everything it opens is there. -/
def run (settings : Table) (command : String) : Session Reply := do
  let i ← interpreter settings
  let action ← actionOf command
  if !(← Runner.ready action) then Session.note [.preconditionMissing action]
  Runner.perform i action
  return { status := 0 }

/-! ## Searches -/

/-- The path of the configuration: the one that is asked for, or that of the settings. -/
def configPath (asked : Option String) (settings : Table) : Except Fault Path :=
  match asked with
  | some name => if name = "" then ofSettings else .ok (Path.parse name)
  | none => ofSettings
where
  /-- The path that the settings name. -/
  ofSettings : Except Fault Path := do
    let launcher ← Settings.required (.table settings) "launcher"
    match ← Settings.required launcher "config_path" with
    | .text name => .ok (Path.parse name)
    | _ => .error .wrongKind

/-- The launcher of the settings, with its configuration and the applications of the index. -/
def launcher (config : Option String) (settings : Table) : Session Launcher := do
  let path ← Session.ofExcept (configPath config settings)
  let configuration ← (← Store.openAt path).loadConfig
  let l := Launcher.ofInterpreter (← interpreter settings)
  Session.note configuration.entryEvents
  let l := l.apply configuration
  let index ← Session.ofExcept (Index.ofSettings (← Session.environment).home (.table settings))
  let apps ← index.build
  Session.note (Finder.Operation.events (.updateApplications apps))
  return l.setApplications apps

/-- A text that may be unknown, as it is printed. -/
def shown (text : Option String) : String :=
  text.getD "None"

/-- The line of a search result. -/
def resultLine (r : Result) : String :=
  s!"  [{shown r.category}] {shown r.title} - {shown r.subtitle}"

/-- The lines of a search. -/
def searchLines (l : Launcher) : List String :=
  s!"{l.finder.header}:" :: l.finder.results.map resultLine
    ++ s!"Applications ({(l.finder.selected.getD Filter.all).name}):"
      :: l.finder.filtered.map fun app => "  " ++ shown app.title

/-- Search for a text among the applications that a filter keeps. An empty name of a filter selects
none. -/
def search (config : Option String) (settings : Table) (text : String) (filter : Option String) :
    Session Reply := do
  let l ← launcher config settings
  let name := filter.getD ""
  if name = "" then return { status := 0, lines := searchLines (l.search (some text)) }
  else match l.filterNamed? name with
    | some f =>
      return { status := 0, lines := searchLines ((l.select (some f)).search (some text)) }
    | none =>
      Session.note [.filterUnknown name]
      return { status := 1 }

/-- The line of a filter. -/
def filterLine (f : Filter) : String :=
  f.name ++ ": " ++ (match f.predicate with
    | some p => p.text
    | none => "all")

/-- List the filters. -/
def filters (config : Option String) (settings : Table) : Session Reply := do
  let l ← launcher config settings
  return { status := 0, lines := l.filters.map filterLine }

/-! ## Command lines -/

/-- The reply to what a command line asks for. -/
def ofInvocation (inv : Invocation) : Session Reply := do
  let settings ← Settings.load inv.settings
  Session.setThreshold (← Session.ofExcept (Settings.threshold inv.logLevel settings))
  match inv.command with
  | .resolve command => resolve command
  | .run command => run settings command
  | .search text filter => search inv.config settings text filter
  | .filters => filters inv.config settings

/-- The reply to a command line. -/
def ofWords (words : List String) : Session Reply :=
  match Invocation.ofWords words with
  | .rejected => pure { status := 2 }
  | .help topic => pure { status := 0, lines := Invocation.help topic }
  | .accepted inv => ofInvocation inv

end Reply

end QuickLaunch
