import QuickLaunch.Document.Overlay
import QuickLaunch.Document.Toml.Reader
import QuickLaunch.Files.Text
import QuickLaunch.Settings.Locations
import QuickLaunch.Shell.Interpreter

/-!
# Settings

The settings of the launcher are a table: the default settings, with those of a settings file laid
over them. Loading fails only where the home directory or the path of the file is no good: a file
that is not there or cannot be read leaves the defaults, and the log is told so.

* `Settings.defaults`: the default settings of a system;
* `Settings.load`: the settings of a session;
* `Settings.threshold`: the log level that settings name.
-/

namespace QuickLaunch.Settings

/-- A list of texts. -/
def texts (ss : List String) : Value :=
  .list (ss.map .text)

/-- A file in the directory that keeps the settings. -/
def ownFile (e : Environment) (name : String) : Except Fault Path :=
  (Path.home e.home).map (·.append [".config", "palette", name])

/-- The settings file that is read when no other one is named. -/
def defaultFile (e : Environment) : Except Fault Path :=
  ownFile e "settings.toml"

/-- The default settings. -/
def defaults (e : Environment) : Except Fault Table := do
  let shell := Interpreter.default e.family
  let locations ← Locations.ofEnvironment e
  let config ← ownFile e "launcher.json"
  return [
    ("launcher", .table [("config_path", .text config.text)]),
    ("shell", .table [("program", shell.program), ("args", .list shell.args)]),
    ("index", .table [("directories", texts locations.directories),
      ("patterns", texts locations.patterns)]),
    ("logging", .table [("level", .text "INFO")])]

/-- The settings of a file. -/
def ofFile (t : Tree) (p : Path) : Except Fault Table :=
  (t.readText p.text).bind Toml.read

/-- The settings that a file gives over the defaults, and what reading it tells the log. -/
def overlayFile (t : Tree) (p : Path) (defaults : Table) : Table × List Event :=
  match ofFile t p with
  | .ok own => (Table.overlay defaults own, [])
  | .error fault => (defaults, [.settingsUnreadable p.text fault, .settingsDefaulted])

/-- The settings of a session; no file or an empty name stands for the default file. -/
def load (file : Option String) : Session Table := do
  let e ← Session.environment
  let defaults ← Session.ofExcept (defaults e)
  let path ← match file with
    | some name => if name = "" then Session.ofExcept (defaultFile e) else pure (Path.parse name)
    | none => Session.ofExcept (defaultFile e)
  let t ← Session.tree
  if ← Session.ofExcept (t.exists? path.text) then
    let (settings, events) := overlayFile t path defaults
    Session.note events
    return settings
  else
    Session.note [.settingsMissing path.text]
    return defaults

/-! ## Parts of settings -/

/-- An entry of a value that has to be a table and to have it. -/
def required (v : Value) (key : String) : Except Fault Value :=
  match v with
  | .table t => match Table.get? t key with
    | some v => .ok v
    | none => .error .wrongKind
  | _ => .error .wrongKind

/-- The log level that a value names, in letters of either case. -/
def levelOf (v : Value) : Except Fault Level :=
  match v with
  | .text s =>
    let name := Text.upper s
    match Level.ofName? name with
    | some level => .ok level
    | none => .error (.unknownLevel name)
  | _ => .error .noSuchPart

/-- The level from which on the log is kept: the one that is asked for, or that of the settings. -/
def threshold (asked : Option String) (settings : Table) : Except Fault Level :=
  match asked with
  | some name => if name = "" then ofSettings else levelOf (.text name)
  | none => ofSettings
where
  /-- The level that the settings name. -/
  ofSettings : Except Fault Level := do
    let logging ← required (.table settings) "logging"
    levelOf (← required logging "level")

end QuickLaunch.Settings
