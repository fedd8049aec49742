import QuickLaunch.Action

/-!
# What can be searched

Applications, which an index or a host window supplies, and pinned actions, which the user chose.
-/

namespace QuickLaunch

/-- An application. A title, category or source may be unknown. -/
structure Application where
  title : Option String
  category : Option String
  source : Option String
  action : Action
  icon : String := ""
  deriving DecidableEq, Repr, Inhabited

/-- A pinned action. -/
structure Pinned where
  icon : String
  title : String
  description : String
  action : Action
  deriving DecidableEq, Repr, Inhabited

end QuickLaunch
