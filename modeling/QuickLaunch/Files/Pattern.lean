import QuickLaunch.Files.Tree
import QuickLaunch.Files.Wildcard

/-!
# File patterns

A file pattern names files below a directory, at any depth: its names are looked for below every
directory there, the directory itself included. A name may be a pattern for one name, and a double
star stands for any number of directories. A pattern that ends in a slash names directories only.

* `Pattern.parse`: the names of a pattern;
* `Pattern.select`: the paths below a directory that a pattern names;
* `Pattern.filesAmong`: the files among some paths.
-/

namespace QuickLaunch

/-- One name of a file pattern. -/
inductive PatternName where
  /-- This name. -/
  | named (name : String)
  /-- Every name that follows the pattern. -/
  | wildcard (pattern : String)
  /-- Any number of directories. -/
  | anyDepth
  /-- The directory itself. -/
  | here
  deriving DecidableEq, Repr

namespace Pattern

/-- What a name of a pattern stands for. A double star must stand alone. -/
def nameOf (name : String) : Except Fault PatternName :=
  if name = "" then .ok .here
  else if name = "**" then .ok .anyDepth
  else if Text.occursIn ['*', '*'] name.toList then .error .brokenDoubleStar
  else if Wildcard.isPattern name.toList then .ok (.wildcard name)
  else .ok (.named name)

/-- The names of a pattern; it must not start at the root. -/
def parse (pattern : String) : Except Fault (List PatternName) :=
  let p := Path.parse pattern
  if p.root ≠ "" then .error .absolutePattern
  else
    let names := if pattern.toList.getLast? = some '/' then p.names ++ [""] else p.names
    names.mapM nameOf

/-- The directory at a path and every directory below it, at most `depth` levels down. -/
def directoriesBelow (t : Tree) : Nat → Path → Except Fault (List Path)
  | 0, p => .ok [p]
  | depth + 1, p => do
    let children ← t.list p.text
    let directories := children.filter (·.2.isDirectory)
    let below ← directories.mapM fun (name, _) => directoriesBelow t depth (p.child name)
    return p :: below.flatten

/-- The directories on no path are nested deeper than this. -/
def depthBound (t : Tree) : Nat :=
  t.standing.length + 1

/-- A list without the later occurrences of its members. -/
def distinct : List Path → List Path
  | [] => []
  | p :: rest => p :: (distinct rest).filter (· ≠ p)

/-- Whether a path has what a name of a pattern asks for: anything when the name is the last one,
a directory when more names follow. -/
def stands (t : Tree) (last : Bool) (path : String) : Except Fault Bool :=
  if last then t.exists? path else t.isDirectory? path

/-- The paths below a directory that the names of a pattern lead to. -/
def selectFrom (t : Tree) : List PatternName → Path → Except Fault (List Path)
  | [], p => .ok [p]
  | .here :: _, p => .ok [p]
  | .anyDepth :: rest, p => do
    let directories ← directoriesBelow t (depthBound t) p
    let found ← directories.mapM (selectFrom t rest)
    return distinct found.flatten
  | .named name :: rest, p => do
    let q := p.child name
    let there ← stands t rest.isEmpty q.text
    if there then selectFrom t rest q else return []
  | .wildcard pattern :: rest, p => do
    let children ← t.list p.text
    let names := children.filter fun (name, e) =>
      (rest.isEmpty || e.isDirectory) && Wildcard.matchesName pattern name
    let found ← names.mapM fun (name, _) => selectFrom t rest (p.child name)
    return found.flatten

/-- The paths that a pattern names below a directory. -/
def select (t : Tree) (pattern : String) (directory : Path) : Except Fault (List Path) := do
  let names ← parse pattern
  selectFrom t (.anyDepth :: names) directory

/-- Those of some paths that lead to files. -/
def filesAmong (t : Tree) : List Path → Except Fault (List Path)
  | [] => .ok []
  | p :: rest => do
    let isFile ← t.isFile? p.text
    let files ← filesAmong t rest
    return if isFile then p :: files else files

end Pattern

end QuickLaunch
