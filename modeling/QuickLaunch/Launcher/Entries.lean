import QuickLaunch.Command
import QuickLaunch.Config.Basic
import QuickLaunch.Search.Filter

/-!
# Entries of the launcher

What the launcher shows beside search results, each entry of the configuration with the action of
its command. A filter whose expression is blank is left out, and the log is told so.

* `Config.pinnedEntries`, `Config.macroEntries`, `Config.recentEntries`, `Config.tileEntries`,
  `Config.filterEntries`: the entries of a configuration;
* `Config.entryEvents`: what making them tells the log.
-/

namespace QuickLaunch

/-- A macro. -/
structure Macro where
  title : String
  description : String
  action : Action
  deriving DecidableEq, Repr, Inhabited

/-- A group of macros. -/
structure MacroGroup where
  name : String
  actions : List Macro
  deriving DecidableEq, Repr, Inhabited

/-- A recent item. -/
structure Recent where
  icon : String
  title : String
  subtitle : String
  action : Action
  deriving DecidableEq, Repr, Inhabited

/-- A tile. -/
structure Tile where
  icon : String
  title : String
  action : Action
  deriving DecidableEq, Repr, Inhabited

/-- A group of tiles. -/
structure TileGroup where
  name : String
  tiles : List Tile
  deriving DecidableEq, Repr, Inhabited

/-! ## Entries -/

/-- The pinned action that a configuration describes. -/
def PinnedConfig.bind (p : PinnedConfig) : Pinned :=
  { icon := p.icon, title := p.title, description := p.description,
    action := Command.resolve (some p.command) }

/-- The macro that a configuration describes. -/
def MacroConfig.bind (m : MacroConfig) : Macro :=
  { title := m.title, description := m.description, action := Command.resolve (some m.command) }

/-- The group of macros that a configuration describes. -/
def MacroGroupConfig.bind (g : MacroGroupConfig) : MacroGroup :=
  { name := g.name, actions := g.actions.map MacroConfig.bind }

/-- The recent item that a configuration describes. -/
def RecentConfig.bind (r : RecentConfig) : Recent :=
  { icon := r.icon, title := r.title, subtitle := r.subtitle,
    action := Command.resolve (some r.command) }

/-- The tile that a configuration describes. -/
def TileConfig.bind (t : TileConfig) : Tile :=
  { icon := t.icon, title := t.title, action := Command.resolve (some t.command) }

/-- The group of tiles that a configuration describes. -/
def TileGroupConfig.bind (g : TileGroupConfig) : TileGroup :=
  { name := g.name, tiles := g.tiles.map TileConfig.bind }

/-- The filter that a configuration describes, unless its expression is blank. -/
def FilterConfig.bind? (f : FilterConfig) : Option Filter :=
  (Predicate.parse? (some f.predicate)).map fun p => { name := f.name, predicate := some p }

namespace Config

/-- The pinned actions of a configuration. -/
def pinnedEntries (c : Config) : List Pinned :=
  c.pinned.map PinnedConfig.bind

/-- The groups of macros of a configuration. -/
def macroEntries (c : Config) : List MacroGroup :=
  c.macroGroups.map MacroGroupConfig.bind

/-- The recent items of a configuration. -/
def recentEntries (c : Config) : List Recent :=
  c.recent.map RecentConfig.bind

/-- The groups of tiles of a configuration. -/
def tileEntries (c : Config) : List TileGroup :=
  c.tileGroups.map TileGroupConfig.bind

/-- The filters of a configuration. -/
def filterEntries (c : Config) : List Filter :=
  c.filters.filterMap FilterConfig.bind?

/-! ## Events -/

/-- What making an entry of a command tells the log. -/
def commandEvents (command : String) : List Event :=
  (Command.nestedWorkflows (some command)).map .nestedWorkflow

/-- What making the entry of a filter tells the log. -/
def filterEvents (f : FilterConfig) : List Event :=
  if f.bind?.isSome then [] else [.filterIgnored f.name]

/-- What making the entries of a configuration tells the log. -/
def entryEvents (c : Config) : List Event :=
  c.pinned.flatMap (commandEvents ·.command)
    ++ c.macroGroups.flatMap (fun g => g.actions.flatMap (commandEvents ·.command))
    ++ c.recent.flatMap (commandEvents ·.command)
    ++ c.filters.flatMap filterEvents
    ++ c.tileGroups.flatMap (fun g => g.tiles.flatMap (commandEvents ·.command))

end Config

end QuickLaunch
