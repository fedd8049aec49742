import QuickLaunch.Document.Value
import QuickLaunch.Journal.Event

/-!
# Configurations

The launcher's configuration: pinned actions, groups of macros, recent items, filters and groups of
tiles. Commands and filter expressions are kept as text. A configuration is read from a document
that may be malformed: a section that is no list counts as empty, an entry that is no table is left
out, and a text that is none counts as empty. The log is told of the first two, unless a section is
not given at all.

* `Config.ofValue`, `Config.events`: reading, and what it tells the log;
* `Config.toValue`: writing.
-/

namespace QuickLaunch

/-- A pinned action. -/
structure PinnedConfig where
  icon : String := ""
  title : String := ""
  description : String := ""
  command : String := ""
  deriving DecidableEq, Repr, Inhabited

/-- A macro. -/
structure MacroConfig where
  title : String := ""
  description : String := ""
  command : String := ""
  deriving DecidableEq, Repr, Inhabited

/-- A group of macros. -/
structure MacroGroupConfig where
  name : String := ""
  actions : List MacroConfig := []
  deriving DecidableEq, Repr, Inhabited

/-- A recent item. -/
structure RecentConfig where
  icon : String := ""
  title : String := ""
  subtitle : String := ""
  command : String := ""
  deriving DecidableEq, Repr, Inhabited

/-- A filter. -/
structure FilterConfig where
  name : String := ""
  predicate : String := ""
  deriving DecidableEq, Repr, Inhabited

/-- A tile. -/
structure TileConfig where
  icon : String := ""
  title : String := ""
  command : String := ""
  deriving DecidableEq, Repr, Inhabited

/-- A group of tiles. -/
structure TileGroupConfig where
  name : String := ""
  tiles : List TileConfig := []
  deriving DecidableEq, Repr, Inhabited

/-- A configuration of the launcher. -/
structure Config where
  pinned : List PinnedConfig := []
  macroGroups : List MacroGroupConfig := []
  recent : List RecentConfig := []
  filters : List FilterConfig := []
  tileGroups : List TileGroupConfig := []
  deriving DecidableEq, Repr, Inhabited

/-! ## Sections -/

namespace Table

/-- The text of a key; what is not there or no text counts as empty. -/
def textOf (t : Table) (key : String) : String :=
  match get? t key with
  | some (.text s) => s
  | _ => ""

/-- The items of the list of a key; what is not there or no list counts as empty. -/
def itemsOf (t : Table) (key : String) : List Value :=
  match get? t key with
  | some (.list items) => items
  | _ => []

/-- The tables in the list of a key. -/
def tablesOf (t : Table) (key : String) : List Table :=
  (itemsOf t key).filterMap fun
    | .table entries => some entries
    | _ => none

/-- What reading the list of a key tells the log. -/
def sectionEvents (t : Table) (key : String) : List Event :=
  match get? t key with
  | none => []
  | some (.list items) => items.filterMap fun
    | .table _ => none
    | entry => some (.entryMalformed key entry)
  | some v => if v.isGiven then [.sectionMalformed key] else []

end Table

/-! ## Reading -/

/-- The pinned action that a table describes. -/
def PinnedConfig.ofTable (t : Table) : PinnedConfig :=
  { icon := t.textOf "icon", title := t.textOf "title", description := t.textOf "description",
    command := t.textOf "command" }

/-- The macro that a table describes. -/
def MacroConfig.ofTable (t : Table) : MacroConfig :=
  { title := t.textOf "title", description := t.textOf "description",
    command := t.textOf "command" }

/-- The group of macros that a table describes. -/
def MacroGroupConfig.ofTable (t : Table) : MacroGroupConfig :=
  { name := t.textOf "name", actions := (t.tablesOf "actions").map MacroConfig.ofTable }

/-- The recent item that a table describes. -/
def RecentConfig.ofTable (t : Table) : RecentConfig :=
  { icon := t.textOf "icon", title := t.textOf "title", subtitle := t.textOf "subtitle",
    command := t.textOf "command" }

/-- The filter that a table describes. -/
def FilterConfig.ofTable (t : Table) : FilterConfig :=
  { name := t.textOf "name", predicate := t.textOf "predicate" }

/-- The tile that a table describes. -/
def TileConfig.ofTable (t : Table) : TileConfig :=
  { icon := t.textOf "icon", title := t.textOf "title", command := t.textOf "command" }

/-- The group of tiles that a table describes. -/
def TileGroupConfig.ofTable (t : Table) : TileGroupConfig :=
  { name := t.textOf "name", tiles := (t.tablesOf "tiles").map TileConfig.ofTable }

namespace Config

/-- The configuration that a table describes. -/
def ofTable (t : Table) : Config :=
  { pinned := (t.tablesOf "pinned").map PinnedConfig.ofTable
    macroGroups := (t.tablesOf "macroGroups").map MacroGroupConfig.ofTable
    recent := (t.tablesOf "recent").map RecentConfig.ofTable
    filters := (t.tablesOf "appFilters").map FilterConfig.ofTable
    tileGroups := (t.tablesOf "tileGroups").map TileGroupConfig.ofTable }

/-- The configuration that a document describes; one that is no table describes the empty one. -/
def ofValue : Value → Config
  | .table entries => ofTable entries
  | _ => {}

/-- What reading a list of groups tells the log: first of the list, then of that of each group. -/
def groupEvents (t : Table) (key inner : String) : List Event :=
  t.sectionEvents key ++ (t.tablesOf key).flatMap (Table.sectionEvents · inner)

/-- What reading a configuration tells the log. -/
def events : Value → List Event
  | .table t =>
    Table.sectionEvents t "pinned" ++ groupEvents t "macroGroups" "actions"
      ++ Table.sectionEvents t "recent" ++ Table.sectionEvents t "appFilters"
      ++ groupEvents t "tileGroups" "tiles"
  | v => [.rootMalformed v.kindName]

end Config

/-! ## Writing -/

/-- The table of a pinned action. -/
def PinnedConfig.toValue (p : PinnedConfig) : Value :=
  .table [("icon", .text p.icon), ("title", .text p.title), ("description", .text p.description),
    ("command", .text p.command)]

/-- The table of a macro. -/
def MacroConfig.toValue (m : MacroConfig) : Value :=
  .table [("title", .text m.title), ("description", .text m.description),
    ("command", .text m.command)]

/-- The table of a group of macros. -/
def MacroGroupConfig.toValue (g : MacroGroupConfig) : Value :=
  .table [("name", .text g.name), ("actions", .list (g.actions.map MacroConfig.toValue))]

/-- The table of a recent item. -/
def RecentConfig.toValue (r : RecentConfig) : Value :=
  .table [("icon", .text r.icon), ("title", .text r.title), ("subtitle", .text r.subtitle),
    ("command", .text r.command)]

/-- The table of a filter. -/
def FilterConfig.toValue (f : FilterConfig) : Value :=
  .table [("name", .text f.name), ("predicate", .text f.predicate)]

/-- The table of a tile. -/
def TileConfig.toValue (t : TileConfig) : Value :=
  .table [("icon", .text t.icon), ("title", .text t.title), ("command", .text t.command)]

/-- The table of a group of tiles. -/
def TileGroupConfig.toValue (g : TileGroupConfig) : Value :=
  .table [("name", .text g.name), ("tiles", .list (g.tiles.map TileConfig.toValue))]

/-- The document of a configuration. -/
def Config.toValue (c : Config) : Value :=
  .table [
    ("pinned", .list (c.pinned.map PinnedConfig.toValue)),
    ("macroGroups", .list (c.macroGroups.map MacroGroupConfig.toValue)),
    ("recent", .list (c.recent.map RecentConfig.toValue)),
    ("appFilters", .list (c.filters.map FilterConfig.toValue)),
    ("tileGroups", .list (c.tileGroups.map TileGroupConfig.toValue))]

end QuickLaunch
