import QuickLaunch.Invocation.Reply

/-!
# The program

Reads the environment and the files below the working directory and below the directories that the
environment names for settings and shortcuts, lets `Reply.ofWords` answer the command line, and
hands on what came of it: the files that changed, the printed lines, the log, and the processes to
start, one a line behind the log. Everything that is decided is decided in the reply. What lies
elsewhere on the disk counts as missing, and no file is put in its place.
-/

namespace QuickLaunch

/-- A tree with a file or a directory of the disk and all below it. -/
partial def Tree.withEntry (p : Tree.Place) (t : Tree) (e : IO.FS.DirEntry) : IO Tree := do
  let p := p ++ [e.fileName]
  if ← e.path.isDir then
    (← e.path.readDir).foldlM (Tree.withEntry p) (t.put p .directory)
  else return t.put p (.file (← IO.FS.readBinFile e.path))

/-- The place that a path names when all directories on the way are there. -/
def Tree.placeOf (t : Tree) (path : String) : Tree.Place :=
  (way path).foldl (fun p name =>
    if name = "" ∨ name = "." then p else if name = ".." then p.dropLast else p ++ [name])
    (t.start path)

/-- A tree with the directories on the way to a place. -/
def Tree.withWay (t : Tree) (p : Tree.Place) : Tree :=
  (List.range p.length).foldl (fun t k =>
    let q := p.take (k + 1)
    if (t.at? q).isSome then t else t.put q .directory) t

/-- A tree with a directory of the disk and all below it, if it is there. -/
def Tree.withDirectory (t : Tree) (path : String) : IO Tree := do
  let directory := (← IO.currentDir) / path
  if ← directory.isDir then
    let p := t.placeOf path
    (← directory.readDir).foldlM (Tree.withEntry p) (t.withWay p)
  else return t

/-- The directories that are read: the working directory and those of the settings and the
shortcuts. -/
def Environment.directories (e : Environment) : List String :=
  let settings := (Settings.defaultFile e).map fun file => [file.parent.text]
  let shortcuts := (Locations.ofEnvironment e).map (·.directories)
  "." :: settings.toOption.getD [] ++ shortcuts.toOption.getD []

/-- The host that the program runs on. -/
def Host.current : IO Host := do
  let environment : Environment := {
    home := ← IO.getEnv "HOME"
    dataHome := ← IO.getEnv "XDG_DATA_HOME"
    appData := ← IO.getEnv "APPDATA"
    programData := ← IO.getEnv "PROGRAMDATA" }
  let bare : Tree := { workingDirectory := (Path.parse (← IO.currentDir).toString).names }
  return {
    environment := environment
    tree := ← environment.directories.foldlM Tree.withDirectory bare }

/-- Write an entry of a tree to the disk, unless it was there before. -/
def Tree.writeEntry (before : Tree) (p : Tree.Place) (e : Entry) : IO Unit := do
  let path := "/" ++ String.intercalate "/" p
  match e, before.at? p with
  | .directory, some .directory => return
  | .directory, _ => IO.FS.createDirAll path
  | .file content, some (.file old) =>
    if old.data != content.data then IO.FS.writeBinFile path content
  | .file content, _ => (← IO.FS.Handle.mk path .writeNew).write content

/-- Write what changed in a tree to the disk. -/
def Tree.writeChanges (before after : Tree) : IO Unit := do
  for (p, e) in after.entries do
    before.writeEntry p e
  for (p, e) in before.entries do
    if !e.isDirectory && (after.at? p).isNone then
      IO.FS.removeFile ("/" ++ String.intercalate "/" p)

/-- The text of a request to start a process. -/
def Request.text : Request → String
  | .words argv => String.intercalate " " (argv.map Value.printed)
  | .line text => text
  | .document path => path

end QuickLaunch

open QuickLaunch in
/-- Answer a command line. -/
def main (words : List String) : IO UInt32 := do
  let before ← Host.current
  let (result, after) := (Reply.ofWords words).run.run before
  before.tree.writeChanges after.tree
  for e in after.journal do
    IO.eprintln (e.level.name ++ ": " ++ e.text)
  for s in after.starts do
    IO.eprintln ("start: " ++ s.request.text)
  match result with
  | .ok reply =>
    IO.print reply.text
    return reply.status.toUInt32
  | .error fault =>
    IO.eprintln ("error: " ++ fault.message)
    return 1
