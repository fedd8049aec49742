import QuickLaunch.Journal.Event
import QuickLaunch.Search.Filter
import QuickLaunch.Search.Router

/-!
# The finder

The finder holds the applications, the pinned actions, the search text and the selected filter, and
two views of them: the applications that the text and the filter keep, and the results of the
search. Every operation of `Finder.Operation` rebuilds the views that it may change. The views can
also be left behind on purpose, by writing to a field alone.

* `Finder.filteredNow`, `Finder.resultsNow`: what the views have to be;
* `Finder.step`, `Finder.assign`: what an operation and writing to a field alone do;
* `Finder.Current`: the views are what they have to be.
-/

namespace QuickLaunch

/-- The applications that a search text and a filter keep, in order. A blank text and a missing
filter keep everything. -/
def filterApplications (apps : List Application) (text : Option String) (filter : Option Filter) :
    List Application :=
  apps.filter fun app =>
    (Text.isBlank text || titleMatches app.title (text.getD ""))
      && (match filter with
        | none => true
        | some f => f.accepts app)

/-- The state of a search. -/
structure Finder where
  applications : List Application := []
  pinned : List Pinned := []
  searchText : Option String := some ""
  selected : Option Filter := none
  filtered : List Application := []
  results : List Result := []
  deriving Repr, Inhabited

namespace Finder

/-- There is something to search for. -/
def hasSearchText (f : Finder) : Bool :=
  !Text.isBlank f.searchText

/-- The heading of the results. -/
def header (f : Finder) : String :=
  if f.hasSearchText then "Search Results" else "Recent"

/-- The router that asks the applications first and the pinned actions after them. -/
def router (f : Finder) : Router :=
  (Router.register {} { priority := 100, answer := applicationResults f.applications }).register
    { priority := 200, answer := pinnedResults f.pinned }

/-- What the view of the applications has to be. -/
def filteredNow (f : Finder) : List Application :=
  filterApplications f.applications f.searchText f.selected

/-- What the view of the search has to be. -/
def resultsNow (f : Finder) : List Result :=
  f.router.route f.searchText

/-- Rebuild the view of the applications. -/
def refreshFiltered (f : Finder) : Finder :=
  { f with filtered := f.filteredNow }

/-- Rebuild the view of the search. -/
def refreshResults (f : Finder) : Finder :=
  { f with results := f.resultsNow }

/-- Rebuild both views. -/
def refresh (f : Finder) : Finder :=
  f.refreshFiltered.refreshResults

/-- Replace the applications. -/
def updateApplications (f : Finder) (apps : List Application) : Finder :=
  { f with applications := apps }.refresh

/-- Replace the pinned actions. -/
def setPinned (f : Finder) (pinned : List Pinned) : Finder :=
  { f with pinned := pinned }.refreshResults

/-- Replace the search text, a missing one by the empty text. Nothing happens when it is
the same. -/
def setSearchText (f : Finder) (text : Option String) : Finder :=
  let text := some (text.getD "")
  if text = f.searchText then f else { f with searchText := text }.refresh

/-- Select a filter, or none. Nothing happens when it is selected already. -/
def selectFilter (f : Finder) (filter : Option Filter) : Finder :=
  if filter = f.selected then f else { f with selected := filter }.refresh

/-- What can be done to a finder so that its views follow. -/
inductive Operation where
  | updateApplications (apps : List Application)
  | setPinned (pinned : List Pinned)
  | setSearchText (text : Option String)
  | selectFilter (filter : Option Filter)
  | refresh
  | refreshFiltered
  | refreshResults
  deriving Repr, Inhabited

/-- What an operation does. -/
def step (f : Finder) : Operation → Finder
  | .updateApplications apps => f.updateApplications apps
  | .setPinned pinned => f.setPinned pinned
  | .setSearchText text => f.setSearchText text
  | .selectFilter filter => f.selectFilter filter
  | .refresh => f.refresh
  | .refreshFiltered => f.refreshFiltered
  | .refreshResults => f.refreshResults

/-- A view that is handed out. -/
inductive View where
  | applications (apps : List Application)
  | results (results : List Result)
  deriving DecidableEq, Repr, Inhabited

/-- The view that an operation hands out when it is done: the one that it rebuilds alone. -/
def answer? (f : Finder) (op : Operation) : Option View :=
  match op with
  | .refreshFiltered => some (.applications (f.step op).filtered)
  | .refreshResults => some (.results (f.step op).results)
  | .updateApplications _ | .setPinned _ | .setSearchText _ | .selectFilter _ | .refresh => none

/-- What an operation tells the log. -/
def Operation.events : Operation → List Event
  | .updateApplications apps => [.applicationsReplaced apps.length]
  | _ => []

/-- Writing to an input alone. The views are left behind. -/
inductive Assignment where
  | applications (apps : List Application)
  | pinned (pinned : List Pinned)
  | searchText (text : Option String)
  | selected (filter : Option Filter)
  deriving Repr, Inhabited

/-- What an assignment does. -/
def assign (f : Finder) : Assignment → Finder
  | .applications apps => { f with applications := apps }
  | .pinned pinned => { f with pinned := pinned }
  | .searchText text => { f with searchText := text }
  | .selected filter => { f with selected := filter }

/-- Whatever is done to a finder. -/
inductive Move where
  | operate (op : Operation)
  | assign (a : Assignment)
  deriving Repr, Inhabited

/-- What a move does. -/
def move (f : Finder) : Move → Finder
  | .operate op => f.step op
  | .assign a => f.assign a

/-- The views are what they have to be. -/
def Current (f : Finder) : Prop :=
  f.filtered = f.filteredNow ∧ f.results = f.resultsNow

end Finder

end QuickLaunch
