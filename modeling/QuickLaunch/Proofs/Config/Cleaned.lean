import QuickLaunch.Config.Basic

/-!
# A document without its malformed parts

A document of a configuration can be cleaned: what is not a list in the place of one becomes the
empty list, what is not a table is taken out of a list of entries, and what is not a text in the
place of one becomes the empty text. Reading does all of this by itself. So the clean document
describes the same configuration, and the log has nothing to tell of it.

* `Value.cleanText`, `Value.cleanList`, `Table.withParts`: cleaning a text, a list and a table;
* `Config.clean`: cleaning a document;
* `ofValue_clean`, `events_clean`: what is read of a clean document.
-/

namespace QuickLaunch

/-! ## Cleaning -/

/-- The value in the place of a text. -/
def Value.cleanText : Value → Value
  | .text s => .text s
  | _ => .text ""

/-- The value in the place of a list of entries; `entry` is done to the tables in it. -/
def Value.cleanList (entry : Table → Table) : Value → Value
  | .list items => .list (items.filterMap fun
    | .table t => some (.table (entry t))
    | _ => none)
  | _ => .list []

/-- The table with a change made to the values of some keys. -/
def Table.withParts (parts : List (String × (Value → Value))) (t : Table) : Table :=
  t.map fun e => (e.1, ((parts.lookup e.1).getD id) e.2)

namespace Config

/-- A clean entry that has texts only. -/
def cleanEntry (texts : List String) : Table → Table :=
  Table.withParts (texts.map (·, Value.cleanText))

/-- A clean group, with a name and a list of such entries. -/
def cleanGroup (inner : String) (texts : List String) : Table → Table :=
  Table.withParts [("name", Value.cleanText), (inner, Value.cleanList (cleanEntry texts))]

/-- A clean document. One that is no table becomes the empty table. -/
def clean : Value → Value
  | .table t => .table (Table.withParts [
    ("pinned", Value.cleanList (cleanEntry ["icon", "title", "description", "command"])),
    ("macroGroups", Value.cleanList (cleanGroup "actions" ["title", "description", "command"])),
    ("recent", Value.cleanList (cleanEntry ["icon", "title", "subtitle", "command"])),
    ("appFilters", Value.cleanList (cleanEntry ["name", "predicate"])),
    ("tileGroups", Value.cleanList (cleanGroup "tiles" ["icon", "title", "command"]))] t)
  | _ => .table []

end Config

/-! ## Parts of a clean table -/

namespace Table

variable {parts : List (String × (Value → Value))} {key inner : String} {entry : Table → Table}
  (t : Table)

theorem get?_withParts (parts : List (String × (Value → Value))) (key : String) :
    get? (withParts parts t) key = (get? t key).map ((parts.lookup key).getD id) := by
  induction t with
  | nil => rfl
  | cons e rest ih =>
    obtain ⟨k, v⟩ := e
    have hcons : withParts parts ((k, v) :: rest) =
        (k, ((parts.lookup k).getD id) v) :: withParts parts rest := rfl
    rw [hcons, get?_cons, get?_cons, ih]
    by_cases hk : k = key
    · rw [if_pos hk, if_pos hk, hk, Option.map_some]
    · rw [if_neg hk, if_neg hk]

theorem textOf_withParts (h : parts.lookup key = some Value.cleanText) :
    (withParts parts t).textOf key = t.textOf key := by
  rw [textOf, textOf, get?_withParts, h, Option.getD_some]
  cases get? t key with
  | none => rfl
  | some v => cases v <;> rfl

theorem tablesOf_withParts (h : parts.lookup key = some (Value.cleanList entry)) :
    (withParts parts t).tablesOf key = (t.tablesOf key).map entry := by
  rw [tablesOf, tablesOf, itemsOf, itemsOf, get?_withParts, h, Option.getD_some]
  cases get? t key with
  | none => rfl
  | some v =>
    cases v with
    | list items =>
      simp only [Option.map_some, Value.cleanList, List.filterMap_filterMap, List.map_filterMap]
      congr 1
      funext item
      cases item <;> rfl
    | _ => rfl

theorem sectionEvents_withParts (h : parts.lookup key = some (Value.cleanList entry)) :
    (withParts parts t).sectionEvents key = [] := by
  rw [sectionEvents, get?_withParts, h, Option.getD_some]
  cases get? t key with
  | none => rfl
  | some v =>
    cases v with
    | list items =>
      simp only [Option.map_some, Value.cleanList, List.filterMap_filterMap,
        List.filterMap_eq_nil_iff]
      intro item _
      cases item <;> rfl
    | _ => rfl

end Table

/-! ## Reading what is clean -/

namespace Config

variable {α : Type} {parts : List (String × (Value → Value))} {key inner : String}
  {texts : List String} {entry : Table → Table} {ofTable : Table → α}

theorem textOf_cleanEntry (t : Table) (h : key ∈ texts) :
    (cleanEntry texts t).textOf key = t.textOf key := by
  refine Table.textOf_withParts t ?_
  induction texts with
  | nil => cases h
  | cons k rest ih =>
    rw [List.map_cons, List.lookup_cons]
    by_cases hk : key = k
    · simp [hk]
    · rw [beq_false_of_ne hk]
      exact ih ((List.mem_cons.mp h).resolve_left hk)

/-- Entries are read of a clean list as of the list itself, if each entry is. -/
theorem map_tablesOf_withParts (t : Table) (h : parts.lookup key = some (Value.cleanList entry))
    (hentry : ∀ u, ofTable (entry u) = ofTable u) :
    ((Table.withParts parts t).tablesOf key).map ofTable = (t.tablesOf key).map ofTable := by
  rw [Table.tablesOf_withParts t h, List.map_map]
  exact List.map_congr_left fun u _ => hentry u

theorem lookup_inner {name entries : Value → Value} (hi : inner ≠ "name") :
    [("name", name), (inner, entries)].lookup inner = some entries := by
  rw [List.lookup_cons, beq_false_of_ne hi]
  exact List.lookup_cons_self

/-- The name and the entries of a clean group are those of the group. -/
theorem parts_cleanGroup (t : Table) (hi : inner ≠ "name")
    (hentry : ∀ u, ofTable (cleanEntry texts u) = ofTable u) :
    (cleanGroup inner texts t).textOf "name" = t.textOf "name"
      ∧ ((cleanGroup inner texts t).tablesOf inner).map ofTable =
        (t.tablesOf inner).map ofTable := by
  exact ⟨Table.textOf_withParts t rfl, map_tablesOf_withParts t (lookup_inner hi) hentry⟩

theorem ofTable_cleanPinned (t : Table) :
    PinnedConfig.ofTable (cleanEntry ["icon", "title", "description", "command"] t) =
      PinnedConfig.ofTable t := by
  simp [PinnedConfig.ofTable, textOf_cleanEntry]

theorem ofTable_cleanMacro (t : Table) :
    MacroConfig.ofTable (cleanEntry ["title", "description", "command"] t) =
      MacroConfig.ofTable t := by
  simp [MacroConfig.ofTable, textOf_cleanEntry]

theorem ofTable_cleanMacroGroup (t : Table) :
    MacroGroupConfig.ofTable (cleanGroup "actions" ["title", "description", "command"] t) =
      MacroGroupConfig.ofTable t := by
  have hi : "actions" ≠ "name" := by decide
  obtain ⟨hname, hactions⟩ := parts_cleanGroup t hi ofTable_cleanMacro
  rw [MacroGroupConfig.ofTable, MacroGroupConfig.ofTable, hname, hactions]

theorem ofTable_cleanRecent (t : Table) :
    RecentConfig.ofTable (cleanEntry ["icon", "title", "subtitle", "command"] t) =
      RecentConfig.ofTable t := by
  simp [RecentConfig.ofTable, textOf_cleanEntry]

theorem ofTable_cleanFilter (t : Table) :
    FilterConfig.ofTable (cleanEntry ["name", "predicate"] t) = FilterConfig.ofTable t := by
  simp [FilterConfig.ofTable, textOf_cleanEntry]

theorem ofTable_cleanTile (t : Table) :
    TileConfig.ofTable (cleanEntry ["icon", "title", "command"] t) = TileConfig.ofTable t := by
  simp [TileConfig.ofTable, textOf_cleanEntry]

theorem ofTable_cleanTileGroup (t : Table) :
    TileGroupConfig.ofTable (cleanGroup "tiles" ["icon", "title", "command"] t) =
      TileGroupConfig.ofTable t := by
  have hi : "tiles" ≠ "name" := by decide
  obtain ⟨hname, htiles⟩ := parts_cleanGroup t hi ofTable_cleanTile
  rw [TileGroupConfig.ofTable, TileGroupConfig.ofTable, hname, htiles]

/-- A clean document describes what the document describes. -/
theorem ofValue_clean (d : Value) : ofValue (clean d) = ofValue d := by
  cases d with
  | table t =>
    rw [clean, ofValue, ofValue, ofTable, ofTable,
      map_tablesOf_withParts t rfl ofTable_cleanPinned,
      map_tablesOf_withParts t rfl ofTable_cleanMacroGroup,
      map_tablesOf_withParts t rfl ofTable_cleanRecent,
      map_tablesOf_withParts t rfl ofTable_cleanFilter,
      map_tablesOf_withParts t rfl ofTable_cleanTileGroup]
  | _ => rfl

/-- The log has nothing to tell of a clean list of groups. -/
theorem groupEvents_withParts (t : Table) (hi : inner ≠ "name")
    (h : parts.lookup key = some (Value.cleanList (cleanGroup inner texts))) :
    groupEvents (Table.withParts parts t) key inner = [] := by
  rw [groupEvents, Table.sectionEvents_withParts t h, Table.tablesOf_withParts t h,
    List.nil_append, List.flatMap_map, List.flatMap_eq_nil_iff]
  intro u _
  exact Table.sectionEvents_withParts u (lookup_inner hi)

/-- The log has nothing to tell of a clean document. -/
theorem events_clean (d : Value) : events (clean d) = [] := by
  cases d with
  | table t =>
    rw [clean, events, Table.sectionEvents_withParts t rfl,
      groupEvents_withParts t (by decide) rfl, Table.sectionEvents_withParts t rfl,
      Table.sectionEvents_withParts t rfl, groupEvents_withParts t (by decide) rfl]
    rfl
  | _ => rfl

end Config

end QuickLaunch
