import QuickLaunch.Fault
import QuickLaunch.Files.Path

/-!
# File trees

The files and directories of a disk, and the working directory, which relative paths start from. A
path is followed name by name: each name is looked up in a directory, a dot stays there and a double
dot goes up, at the root to the root itself. The working directory is always there. There are no
links, and everything may be read and written.

* `Tree.status`: what a path leads to;
* `Tree.read`, `Tree.write`, `Tree.remove`, `Tree.makeDirectory`: the operations on a tree.
-/

namespace QuickLaunch

/-- What a name in a tree stands for. -/
inductive Entry where
  | file (content : ByteArray)
  | directory
  deriving Inhabited

/-- A directory stands there. -/
def Entry.isDirectory : Entry → Bool
  | .file _ => false
  | .directory => true

/-- The files and directories, each with the names that lead to it from the root, and the names that
lead from there to the working directory. -/
structure Tree where
  entries : List (List String × Entry) := []
  workingDirectory : List String := []
  deriving Inhabited

namespace Tree

/-- Where a path leads: the names that lead there from the root. -/
abbrev Place := List String

/-- What stands at a place. The working directory and the directories on the way to it, with the
root, need no entry. -/
def at? (t : Tree) (p : Place) : Option Entry :=
  if p <+: t.workingDirectory then some .directory else t.entries.lookup p

/-- A name has at most this many bytes. -/
def maxNameBytes : Nat := 255

/-- A path has fewer bytes than this. -/
def maxPathBytes : Nat := 4096

/-- The place that a name leads to from a place. -/
def step (t : Tree) (p : Place) (name : String) : Except Fault Place :=
  match t.at? p with
  | none => .error .noSuchFile
  | some (.file _) => .error .notDirectory
  | some .directory =>
    if name = "" ∨ name = "." then .ok p
    else if name = ".." then .ok p.dropLast
    else if maxNameBytes < name.utf8ByteSize then .error .nameTooLong
    else if (t.at? (p ++ [name])).isSome then .ok (p ++ [name])
    else .error .noSuchFile

/-- The place that names lead to from a place, one after another. -/
def walk (t : Tree) (p : Place) : List String → Except Fault Place
  | [] => .ok p
  | name :: rest => (t.step p name).bind fun q => t.walk q rest

/-- Where a path starts: at the root if it begins with a slash, else in the working directory. -/
def start (t : Tree) (path : String) : Place :=
  match path.toList with
  | '/' :: _ => []
  | _ => t.workingDirectory

/-- The names between the slashes of a path, the empty ones included. -/
def way (path : String) : List String :=
  (Text.splitOn ['/'] path.toList).map String.ofList

/-- A path that no file system would look at. -/
def refuse? (path : String) : Option Fault :=
  if '\x00' ∈ path.toList then some .nullCharacter
  else if path = "" then some .noSuchFile
  else if maxPathBytes ≤ path.utf8ByteSize then some .nameTooLong
  else none

/-- The place that a path leads to. -/
def find (t : Tree) (path : String) : Except Fault Place :=
  match refuse? path with
  | some fault => .error fault
  | none => t.walk (t.start path) (way path)

/-- What a path leads to. -/
def status (t : Tree) (path : String) : Except Fault Entry :=
  match t.find path with
  | .error fault => .error fault
  | .ok p => match t.at? p with
    | some e => .ok e
    | none => .error .noSuchFile

/-- The path leads to a file. Faults on the way count as no. -/
def isFile (t : Tree) (path : String) : Bool :=
  match t.status path with
  | .ok (.file _) => true
  | _ => false

/-- Whether a fault on the way to a path means that nothing is there; a name that is too long does
not say so. -/
def absent : Fault → Bool
  | .nameTooLong => false
  | _ => true

/-- The path leads to something. -/
def exists? (t : Tree) (path : String) : Except Fault Bool :=
  match t.status path with
  | .ok _ => .ok true
  | .error fault => if absent fault then .ok false else .error fault

/-- The path leads to a directory. -/
def isDirectory? (t : Tree) (path : String) : Except Fault Bool :=
  match t.status path with
  | .ok .directory => .ok true
  | .ok (.file _) => .ok false
  | .error fault => if absent fault then .ok false else .error fault

/-- The path leads to a file. -/
def isFile? (t : Tree) (path : String) : Except Fault Bool :=
  match t.status path with
  | .ok (.file _) => .ok true
  | .ok .directory => .ok false
  | .error fault => if absent fault then .ok false else .error fault

/-- The content of a file. -/
def read (t : Tree) (path : String) : Except Fault ByteArray :=
  match t.status path with
  | .ok (.file content) => .ok content
  | .ok .directory => .error .isDirectory
  | .error fault => .error fault

/-! ## Changing a tree -/

/-- The entries with one put in its place, or behind the others. -/
def putEntry (names : List String) (e : Entry) :
    List (List String × Entry) → List (List String × Entry)
  | [] => [(names, e)]
  | (ns, f) :: rest => if ns = names then (names, e) :: rest else (ns, f) :: putEntry names e rest

/-- The tree with an entry put at the given names. -/
def put (t : Tree) (names : List String) (e : Entry) : Tree :=
  { t with entries := putEntry names e t.entries }

/-- The tree without what stands at the given names. -/
def drop (t : Tree) (names : List String) : Tree :=
  { t with entries := t.entries.filter (·.1 ≠ names) }

/-- Where a path would put a new entry: the directory and the name in it. The name is missing when
the path ends in a slash or in dots. -/
def target (t : Tree) (path : String) : Except Fault (Place × Option String) :=
  match refuse? path with
  | some fault => .error fault
  | none =>
    let names := way path
    (t.walk (t.start path) names.dropLast).bind fun p =>
      match t.at? p with
      | some .directory =>
        match names.getLast? with
        | none => .ok (p, none)
        | some last =>
          if last = "" ∨ last = "." ∨ last = ".." then .ok (p, none)
          else if maxNameBytes < last.utf8ByteSize then .error .nameTooLong
          else .ok (p, some last)
      | some (.file _) => .error .notDirectory
      | none => .error .noSuchFile

/-- The tree with a file of the given content at a path. The directory must be there. -/
def write (t : Tree) (path : String) (content : ByteArray) : Except Fault Tree :=
  match t.target path with
  | .error fault => .error fault
  | .ok (p, some last) =>
    match t.at? (p ++ [last]) with
    | some .directory => .error .isDirectory
    | _ => .ok (t.put (p ++ [last]) (.file content))
  | .ok (_, none) => .error .isDirectory

/-- The tree without the file at a path. -/
def remove (t : Tree) (path : String) : Except Fault Tree :=
  match t.find path with
  | .error fault => .error fault
  | .ok p =>
    match t.at? p with
    | some (.file _) => .ok (t.drop p)
    | some .directory => .error .isDirectory
    | none => .error .noSuchFile

/-- The tree with a new directory at a path. -/
def makeDirectory (t : Tree) (path : String) : Except Fault Tree :=
  match t.target path with
  | .error fault => .error fault
  | .ok (p, some last) =>
    match t.at? (p ++ [last]) with
    | some _ => .error .alreadyExists
    | none => .ok (t.put (p ++ [last]) .directory)
  | .ok (_, none) => .error .alreadyExists

/-- A directory that cannot be made is there already, or the fault stands. -/
def faultUnlessDirectory (t : Tree) (path : String) (fault : Fault) : Option Fault :=
  if fault = .nullCharacter then some fault
  else match t.isDirectory? path with
    | .ok true => none
    | .ok false => some fault
    | .error other => some other

/-- The tree with a directory at a path of fewer than `depth` names and directories on the way to
it, and the fault if they could not all be made. Those that could remain. -/
def makeDirectoriesTo (t : Tree) (p : Path) : Nat → Tree × Option Fault
  | 0 => (t, some .noSuchFile)
  | depth + 1 =>
    match t.makeDirectory p.text with
    | .ok t => (t, none)
    | .error .noSuchFile =>
      if p.parent = p then (t, some .noSuchFile)
      else match t.makeDirectoriesTo p.parent depth with
        | (t, some fault) => (t, some fault)
        | (t, none) =>
          match t.makeDirectory p.text with
          | .ok t => (t, none)
          | .error .noSuchFile => (t, some .noSuchFile)
          | .error fault => (t, t.faultUnlessDirectory p.text fault)
    | .error fault => (t, t.faultUnlessDirectory p.text fault)

/-- The tree with a directory at a path and directories on the way to it, and the fault if they
could not all be made. -/
def makeDirectories (t : Tree) (p : Path) : Tree × Option Fault :=
  t.makeDirectoriesTo p (p.names.length + 1)

/-- The tree with a file at a path and directories on the way to it. -/
def writeDeep (t : Tree) (path : String) (content : ByteArray) : Except Fault Tree :=
  match t.makeDirectories (Path.parse path).parent with
  | (_, some fault) => .error fault
  | (t, none) => t.write path content

/-! ## Looking around -/

/-- All that stands, with its place: the working directory, the directories on the way to it and the
entries. -/
def standing (t : Tree) : List (Place × Entry) :=
  (List.range t.workingDirectory.length).map
      (fun k => (t.workingDirectory.take (k + 1), .directory))
    ++ t.entries

/-- The names in a directory, with what they stand for. -/
def children (t : Tree) (p : Place) : List (String × Entry) :=
  t.standing.filterMap fun (names, e) =>
    match names.getLast? with
    | some last => if names.dropLast = p then some (last, e) else none
    | none => none

/-- The names in the directory that a path leads to. -/
def list (t : Tree) (path : String) : Except Fault (List (String × Entry)) :=
  match t.find path with
  | .error fault => .error fault
  | .ok p => match t.at? p with
    | some .directory => .ok (t.children p)
    | some (.file _) => .error .notDirectory
    | none => .error .noSuchFile

/-- The paths of all files below the working directory, from there and in the order of their
texts. -/
def files (t : Tree) : List String :=
  (t.entries.filterMap fun (names, e) =>
    match e with
    | .file _ =>
      if t.workingDirectory <+: names then
        some (String.intercalate "/" (names.drop t.workingDirectory.length))
      else none
    | .directory => none).mergeSort (fun a b => decide (a ≤ b))

end Tree

end QuickLaunch
