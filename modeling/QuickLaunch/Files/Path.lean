import QuickLaunch.Fault
import QuickLaunch.Text.Search

/-!
# Paths

A path is a root and names. Reading a path drops empty names and single dots, and keeps double dots,
since what they mean depends on the directories. Two slashes in front are a root of their own, any
other number of them is the one root.

* `Path.parse`, `Path.text`: reading and writing;
* `Path.le`: the order by names, not by text;
* `Path.expandHome`: a tilde in front stands for the home directory.
-/

namespace QuickLaunch

/-- A path of names below a root; the root of a relative path is empty. -/
structure Path where
  root : String := ""
  names : List String
  deriving DecidableEq, Repr, Inhabited

namespace Path

/-- The names between slashes, without the empty ones and the single dots. -/
def namesOf (s : List Char) : List String :=
  ((Text.splitOn ['/'] s).filter fun n => n ≠ [] ∧ n ≠ ['.']).map String.ofList

/-- The root that the slashes in front of a path name. -/
def rootOf (slashes : Nat) : String :=
  if slashes = 0 then "" else if slashes = 2 then "//" else "/"

/-- The path that a text names. -/
def parse (s : String) : Path :=
  { root := rootOf (s.toList.takeWhile (· == '/')).length
    names := namesOf (s.toList.dropWhile (· == '/')) }

/-- The text of a path; a relative path without names is a dot. -/
def text (p : Path) : String :=
  if p.root = "" ∧ p.names = [] then "." else p.root ++ String.intercalate "/" p.names

/-- The path one name shorter; a path without names is its own parent. -/
def parent (p : Path) : Path :=
  { p with names := p.names.dropLast }

/-- The path one name longer. -/
def child (p : Path) (name : String) : Path :=
  { p with names := p.names ++ [name] }

/-- The path with more names behind it. -/
def append (p : Path) (names : List String) : Path :=
  { p with names := p.names ++ names }

/-- The last name. -/
def lastName (p : Path) : String :=
  p.names.getLast?.getD ""

/-- A name without what follows its last dot; a dot that is the first or the last character does not
count. -/
def stemOf (name : List Char) : List Char :=
  let suffix := name.reverse.takeWhile (· != '.')
  let stem := (name.reverse.drop (suffix.length + 1)).reverse
  if suffix.isEmpty ∨ stem.isEmpty then name else stem

/-- The last name without its suffix. -/
def stem (p : Path) : String :=
  String.ofList (stemOf p.lastName.toList)

/-- The parts that paths are compared by. -/
def parts (p : Path) : List String :=
  if p.root = "" then p.names else p.root :: p.names

/-- The order of lists of names, by the first name that differs. -/
def namesLe : List String → List String → Bool
  | [], _ => true
  | _ :: _, [] => false
  | a :: as, b :: bs => if a = b then namesLe as bs else decide (a < b)

/-- The order of paths, by the first part that differs. -/
def le (p q : Path) : Bool :=
  namesLe p.parts q.parts

/-- The home directory as paths use it: without slashes at its end, and the root if
nothing is left. -/
def homeText (home : String) : String :=
  let kept := (home.toList.reverse.dropWhile (· == '/')).reverse
  if kept.isEmpty then "/" else String.ofList kept

/-- The path with the home directory in place of a tilde in front. Home directories of other users
are not known, and a home directory must not begin with a tilde itself. -/
def expandHome (home : Option String) (p : Path) : Except Fault Path :=
  if p.root ≠ "" then .ok p
  else match p.names with
    | [] => .ok p
    | first :: rest =>
      if first.toList.head? ≠ some '~' then .ok p
      else if first ≠ "~" then .error .noHome
      else match home with
        | none => .error .noHome
        | some home =>
          let dir := homeText home
          if dir.toList.head? = some '~' then .error .noHome
          else .ok ((parse dir).append rest)

/-- The home directory itself. -/
def home (home : Option String) : Except Fault Path :=
  expandHome home { names := ["~"] }

end Path

end QuickLaunch
