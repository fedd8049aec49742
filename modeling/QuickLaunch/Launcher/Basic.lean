import QuickLaunch.Launcher.Entries
import QuickLaunch.Runner
import QuickLaunch.Search.Finder

/-!
# The launcher

What stands behind the launcher's window: the finder, the entries of the configuration, and the
interpreter that runs what the user chooses. The filters to choose from are the one that keeps
everything, always first, and those of the configuration.

* `Launcher.ofInterpreter`: a new launcher;
* `Launcher.apply`: the launcher with another configuration;
* `Launcher.step`: what the user and the host window can do.
-/

namespace QuickLaunch

/-- The state of the launcher. -/
structure Launcher where
  interpreter : Interpreter
  finder : Finder := Finder.selectFilter {} (some Filter.all)
  macroGroups : List MacroGroup := []
  recent : List Recent := []
  tileGroups : List TileGroup := []
  /-- The filters of the configuration. -/
  configured : List Filter := []
  deriving Repr, Inhabited

namespace Launcher

/-- A new launcher. -/
def ofInterpreter (i : Interpreter) : Launcher :=
  { interpreter := i }

/-- The filters to choose from. -/
def filters (l : Launcher) : List Filter :=
  Filter.all :: l.configured

/-- The launcher with the entries of a configuration. The filter that keeps everything is
selected. -/
def apply (l : Launcher) (c : Config) : Launcher :=
  { l with
    finder := (l.finder.setPinned c.pinnedEntries).selectFilter (some Filter.all)
    macroGroups := c.macroEntries
    recent := c.recentEntries
    tileGroups := c.tileEntries
    configured := c.filterEntries }

/-- The launcher with other applications. -/
def setApplications (l : Launcher) (apps : List Application) : Launcher :=
  { l with finder := l.finder.updateApplications apps }

/-- The launcher with another search text. -/
def search (l : Launcher) (text : Option String) : Launcher :=
  { l with finder := l.finder.setSearchText text }

/-- The launcher with another selected filter, or none. -/
def select (l : Launcher) (filter : Option Filter) : Launcher :=
  { l with finder := l.finder.selectFilter filter }

/-- The filter at a position; positions before the first count from the end. -/
def filterAt (l : Launcher) (position : Int) : Except Fault Filter :=
  let position := if position < 0 then position + l.filters.length else position
  if position < 0 then .error .outOfRange
  else match l.filters[position.toNat]? with
    | some f => .ok f
    | none => .error .outOfRange

/-- The first filter of a name, without regard to case. -/
def filterNamed? (l : Launcher) (name : String) : Option Filter :=
  l.filters.find? fun f => Text.sameIgnoringCase f.name name

/-- The result that activation carries out: the first one of a search for something. -/
def firstResult? (l : Launcher) : Option Result :=
  if l.finder.hasSearchText then l.finder.results.head? else none

/-- Carry out the first result, if there is one. -/
def activate (l : Launcher) : Session Bool := do
  match l.firstResult? with
  | none => return false
  | some r =>
    Session.note [.activating (r.title.getD "None")]
    Runner.perform l.interpreter r.action
    return true

/-- What can be done with a launcher. -/
inductive Operation where
  | apply (c : Config)
  | setApplications (apps : List Application)
  | search (text : Option String)
  | clear
  | select (filter : Option Filter)
  | selectAt (position : Int)
  | selectNamed (name : String)
  | activate
  deriving Repr, Inhabited

/-- What an operation does to the launcher and the host, and what it answers: whether there was
something to select or to carry out. -/
def step (l : Launcher) (h : Host) : Operation → (Launcher × Host) × Except Fault (Option Bool)
  | .apply c => ((l.apply c, h.note c.entryEvents), .ok none)
  | .setApplications apps =>
    let events := Finder.Operation.events (.updateApplications apps)
    ((l.setApplications apps, h.note events), .ok none)
  | .search text => ((l.search text, h), .ok none)
  | .clear => ((l.search (some ""), h), .ok none)
  | .select filter => ((l.select filter, h), .ok none)
  | .selectAt position =>
    match l.filterAt position with
    | .ok f => ((l.select (some f), h), .ok none)
    | .error fault => ((l, h), .error fault)
  | .selectNamed name =>
    match l.filterNamed? name with
    | some f => ((l.select (some f), h), .ok (some true))
    | none => ((l, h), .ok (some false))
  | .activate =>
    let (there, h) := l.activate.runOn h
    ((l, h), there.map some)

end Launcher

end QuickLaunch
