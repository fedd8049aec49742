import QuickLaunch.Files.Path
import QuickLaunch.Host

/-!
# Where shortcuts are

The directories in which a system keeps the shortcuts of its applications, and the file patterns of
shortcuts.

* `Locations.ofEnvironment`: the directories and patterns of a system.
-/

namespace QuickLaunch

/-- Directories and the patterns of the files in them. -/
structure Locations where
  directories : List String
  patterns : List String
  deriving DecidableEq, Repr, Inhabited

namespace Locations

/-! ## Windows paths -/

/-- The characters between the names of a Windows path. -/
def isWindowsSeparator (c : Char) : Bool :=
  c == '\\' || c == '/'

/-- What introduces a share of the network in the long form. -/
def longShareMark : List Char := "\\\\?\\UNC\\".toList

/-- The text begins with the mark of the long form, with either separator and in any case. -/
def beginsLongShare (s : List Char) : Bool :=
  (s.take 8).map (fun c => if c = '/' then '\\' else c.toUpper) == longShareMark

/-- The number of characters of the drive, or of the server and the share, that a Windows path
begins with. -/
def driveLength (s : List Char) : Nat :=
  match s with
  | a :: b :: _ =>
    if isWindowsSeparator a && isWindowsSeparator b then
      let start := if beginsLongShare s then 8 else 2
      let server := (s.drop start).takeWhile (!isWindowsSeparator ·)
      let share := (s.drop (start + server.length + 1)).takeWhile (!isWindowsSeparator ·)
      let size := start + server.length + 1 + share.length
      if size < s.length then size else s.length
    else if b = ':' then 2 else 0
  | _ => 0

/-- A relative Windows path below a directory. A drive alone is followed by the path at once. -/
def windowsBelow (directory path : List Char) : List Char :=
  let drive := directory.take (driveLength directory)
  let rest := directory.drop (driveLength directory)
  let joined :=
    match rest.getLast? with
    | none => drive.isEmpty || drive.getLast? == some ':'
    | some c => isWindowsSeparator c
  if joined then directory ++ path else directory ++ '\\' :: path

/-- The menu that holds the shortcuts, below a directory for the data of programs. -/
def startMenu : List Char := "Microsoft\\Windows\\Start Menu".toList

/-! ## Locations -/

/-- The locations of a Windows system. A directory that is not known or empty gives none. -/
def windows (e : Environment) : Locations :=
  let roots := [e.appData.getD "", e.programData.getD ""].filter (· ≠ "")
  { directories := roots.map fun root => String.ofList (windowsBelow root.toList startMenu)
    patterns := ["*.lnk"] }

/-- The directory of the user's data. -/
def dataHome (e : Environment) : Except Fault String :=
  match e.dataHome with
  | some dir => if dir = "" then ownDataHome else .ok dir
  | none => ownDataHome
where
  /-- The directory when the environment names none. -/
  ownDataHome : Except Fault String :=
    (Path.home e.home).map fun home => (home.append [".local", "share"]).text

/-- The locations of a system of the other family: those of the user and of the system. -/
def posix (e : Environment) : Except Fault Locations :=
  (dataHome e).map fun dir =>
    let gap := if dir.toList.getLast? = some '/' then "" else "/"
    { directories := [dir ++ gap ++ "applications", "/usr/share/applications"]
      patterns := ["*.desktop"] }

/-- The locations of a system. -/
def ofEnvironment (e : Environment) : Except Fault Locations :=
  match e.family with
  | .windows => .ok (windows e)
  | .posix => posix e

end Locations

end QuickLaunch
