import QuickLaunch.Config.Basic
import QuickLaunch.Document.Json.Reader
import QuickLaunch.Document.Json.Writer
import QuickLaunch.Files.Text
import QuickLaunch.Host

/-!
# The configuration file

A store keeps a configuration in a file. Opening a store writes an empty configuration where no file
is. Loading never fails: a file that cannot be read counts as the empty configuration, and the log
is told why.

* `Store.save`, `Store.load`: what they do to the files;
* `Store.openAt`, `Store.loadConfig`, `Store.saveConfig`: the operations of a session.
-/

namespace QuickLaunch

/-- Where a configuration is kept. -/
structure Store where
  path : Path
  deriving DecidableEq, Repr, Inhabited

/-- The text that keeps a configuration. -/
def Config.document (c : Config) : String :=
  Json.write (.indented 2) c.toValue

namespace Store

/-- The tree with a configuration in the store. -/
def save (s : Store) (t : Tree) (c : Config) : Except Fault Tree :=
  t.writeText s.path.text c.document

/-- The document in the store. -/
def document (s : Store) (t : Tree) : Except Fault Value :=
  (t.readText s.path.text).bind Json.read

/-- The configuration in the store, and what loading it tells the log. -/
def load (s : Store) (t : Tree) : Config × List Event :=
  match s.document t with
  | .ok v => (Config.ofValue v, Config.events v)
  | .error fault => ({}, [.configurationUnreadable s.path.text fault])

/-- The store at a path, once it is open. -/
def openAt (p : Path) : Session Store := do
  let path ← Session.ofExcept (p.expandHome (← Session.environment).home)
  let store : Store := { path := path }
  let (t, fault) := (← Session.tree).makeDirectories path.parent
  Session.setTree t
  if let some fault := fault then throw fault
  if ← Session.ofExcept (t.exists? path.text) then return store
  Session.setTree (← Session.ofExcept (store.save t {}))
  Session.note [.configurationCreated path.text]
  return store

/-- The configuration in the store. -/
def loadConfig (s : Store) : Session Config := do
  let (config, events) := s.load (← Session.tree)
  Session.note events
  return config

/-- Put a configuration into the store. -/
def saveConfig (s : Store) (c : Config) : Session Unit := do
  Session.setTree (← Session.ofExcept (s.save (← Session.tree) c))

end Store

end QuickLaunch
