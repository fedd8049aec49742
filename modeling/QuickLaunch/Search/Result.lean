import QuickLaunch.Catalog
import QuickLaunch.Text.Search

/-!
# Search results

A search result and the results that applications and pinned actions give. An item is found when its
title contains the query, without regard to case.
-/

namespace QuickLaunch

/-- An item that a search found. -/
structure Result where
  icon : String
  title : Option String
  subtitle : Option String
  category : Option String
  action : Action
  deriving DecidableEq, Repr, Inhabited

/-- A title, empty when it is unknown, contains the query. -/
def titleMatches (title : Option String) (query : String) : Bool :=
  Text.containsIgnoringCase (title.getD "") query

/-- The result that shows an application: its source stands below the title. -/
def Application.result (app : Application) : Result :=
  { icon := app.icon, title := app.title, subtitle := app.source, category := app.category,
    action := app.action }

/-- The result that shows a pinned action: its description stands below the title. -/
def Pinned.result (p : Pinned) : Result :=
  { icon := p.icon, title := some p.title, subtitle := some p.description,
    category := some "Pinned",
    action := p.action }

/-- The applications that a query finds, in order. -/
def applicationResults (apps : List Application) (query : String) : List Result :=
  (apps.filter (titleMatches ·.title query)).map Application.result

/-- The pinned actions that a query finds, in order. -/
def pinnedResults (pinned : List Pinned) (query : String) : List Result :=
  (pinned.filter fun p => titleMatches (some p.title) query).map Pinned.result

end QuickLaunch
