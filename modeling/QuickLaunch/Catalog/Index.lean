import QuickLaunch.Catalog
import QuickLaunch.Files.Pattern
import QuickLaunch.Host

/-!
# The index of shortcuts

An index lists the shortcuts below some directories: the files that one of its patterns names, each
once for a directory and in the order of their paths. A directory that is not there is passed over.
An index is built from the files as they are; nothing updates it.

* `Index.ofSettings`: the index that settings describe;
* `Index.shortcuts`: the shortcuts below a directory;
* `Index.build`: the applications of an index.
-/

namespace QuickLaunch

/-- Directories and the patterns of the files in them. Settings may give other values as
patterns. -/
structure Index where
  directories : List Path
  patterns : List Value
  deriving Repr, Inhabited

namespace Index

/-- The path that an entry of a list of directories names. -/
def directoryOf (home : Option String) : Value → Except Fault Path
  | .text s => (Path.parse s).expandHome home
  | _ => .error .wrongKind

/-- The index of the directories and patterns that two values list. -/
def ofValues (home : Option String) (directories patterns : Value) : Except Fault Index := do
  let directories ← directories.members
  let directories ← directories.mapM (directoryOf home)
  let patterns ← patterns.members
  return { directories := directories, patterns := patterns }

/-- The index that settings describe. -/
def ofSettings (home : Option String) (settings : Value) : Except Fault Index := do
  let index ← settings.part "index" (.table [])
  let directories ← index.part "directories" (.list [])
  let patterns ← index.part "patterns" (.list [])
  ofValues home directories patterns

/-- The text of a pattern; what counts as not given is the empty pattern. -/
def patternText (v : Value) : Except Fault String :=
  match v with
  | .text s => .ok s
  | v => if v.isGiven then .error .wrongKind else .ok ""

/-- The paths that a pattern names below a directory. -/
def selected (t : Tree) (directory : Path) (pattern : Value) : Except Fault (List Path) :=
  (patternText pattern).bind fun text => Pattern.select t text directory

/-- The files that a pattern names below a directory. -/
def selectedFiles (t : Tree) (directory : Path) (pattern : Value) : Except Fault (List Path) :=
  (selected t directory pattern).bind (Pattern.filesAmong t)

/-- The shortcuts below a directory. -/
def shortcuts (t : Tree) (patterns : List Value) (directory : Path) : Except Fault (List Path) := do
  let found ← patterns.mapM (selectedFiles t directory)
  return (Pattern.distinct found.flatten).mergeSort Path.le

/-- The application that a shortcut opens. -/
def application (shortcut : Path) : Application :=
  { title := some shortcut.stem, category := some "Shortcut", source := some "Start Menu",
    action := .launch shortcut.text }

/-- The applications below directories, and what looking for them tells the log. -/
def enumerate (t : Tree) (patterns : List Value) :
    List Path → List Event × Except Fault (List Application)
  | [] => ([], .ok [])
  | directory :: rest =>
    match t.isDirectory? directory.text with
    | .error fault => ([], .error fault)
    | .ok false =>
      let (events, found) := enumerate t patterns rest
      (.directoryMissing directory.text :: events, found)
    | .ok true =>
      match shortcuts t patterns directory with
      | .error fault => ([], .error fault)
      | .ok paths =>
        let (events, found) := enumerate t patterns rest
        (events, found.map (paths.map application ++ ·))

/-- The applications of an index. -/
def build (x : Index) : Session (List Application) := do
  let (events, found) := enumerate (← Session.tree) x.patterns x.directories
  Session.note events
  let apps ← Session.ofExcept found
  Session.note [.indexed apps.length]
  return apps

end Index

end QuickLaunch
