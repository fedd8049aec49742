import QuickLaunch.Catalog.Index

/-!
# The kept applications

An index keeps the applications that it was built with. They stay as they are, whatever happens to
the files, until the index is built again; when this fails they stay as well.

* `Kept.rebuild`: build the index again.
-/

namespace QuickLaunch

/-- An index, the applications that it was last built with, and the host. -/
structure Kept where
  host : Host
  index : Index
  applications : List Application := []
  deriving Inhabited

namespace Kept

/-- Build the index again and keep its applications. -/
def rebuild (k : Kept) : Kept × Except Fault (List Application) :=
  match k.index.build.runOn k.host with
  | (.ok apps, h) => ({ k with host := h, applications := apps }, .ok apps)
  | (.error fault, h) => ({ k with host := h }, .error fault)

end Kept

end QuickLaunch
