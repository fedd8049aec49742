import Mathlib.Data.List.Infix
import QuickLaunch.Search.Finder

/-!
# The views of a finder

Operations may leave early or rebuild one view only, so a finder is compared with what it was given:
`Given` keeps the last applications, pinned actions, search text and filter, and says what there is
to show and to find for them without any view.

* `Finder.current_run`: after every run of operations the views are what they have to be;
* `Finder.views_run`: they are the views of what was given last.
-/

namespace QuickLaunch

namespace Finder

/-- The finder after some operations, one after another. -/
def run (f : Finder) (ops : List Operation) : Finder :=
  ops.foldl step f

/-! ## Views stay current -/

theorem current_refresh (f : Finder) : f.refresh.Current := ⟨rfl, rfl⟩

/-- An operation leaves current views current. Where it returns early nothing has changed, and the
pinned actions are no part of what the view of the applications has to be. -/
theorem current_step {f : Finder} (hf : f.Current) (op : Operation) : (f.step op).Current := by
  cases op with
  | updateApplications apps => exact current_refresh _
  | setPinned pinned => exact ⟨hf.1, rfl⟩
  | setSearchText text =>
    simp only [step, setSearchText]
    split
    · exact hf
    · exact current_refresh _
  | selectFilter filter =>
    simp only [step, selectFilter]
    split
    · exact hf
    · exact current_refresh _
  | refresh => exact current_refresh _
  | refreshFiltered => exact ⟨rfl, hf.2⟩
  | refreshResults => exact ⟨hf.1, rfl⟩

theorem current_run {f : Finder} (hf : f.Current) (ops : List Operation) : (f.run ops).Current := by
  induction ops generalizing f with
  | nil => exact hf
  | cons op rest ih => exact ih (current_step hf op)

theorem current_new : Current {} := ⟨rfl, rfl⟩

/-! ## What was given -/

/-- What a finder was given last. -/
structure Given where
  applications : List Application := []
  pinned : List Pinned := []
  text : String := ""
  filter : Option Filter := none

namespace Given

/-- What is given after an operation. -/
def after (g : Given) : Operation → Given
  | .updateApplications apps => { g with applications := apps }
  | .setPinned pinned => { g with pinned := pinned }
  | .setSearchText text => { g with text := text.getD "" }
  | .selectFilter filter => { g with filter := filter }
  | .refresh | .refreshFiltered | .refreshResults => g

/-- Nothing but blanks was given as the text. -/
def Blank (g : Given) : Prop :=
  ∀ c ∈ g.text.toList, Text.isBlankChar c = true

/-- The lower case of a title, empty when it is unknown, has the lower case of the text in it. -/
def Names (g : Given) (title : Option String) : Prop :=
  Text.lowerChars g.text.toList <:+: Text.lowerChars (title.getD "").toList

instance (g : Given) : Decidable g.Blank :=
  List.decidableBAll (fun c => Text.isBlankChar c = true) g.text.toList

instance (g : Given) (title : Option String) : Decidable (g.Names title) :=
  inferInstanceAs (Decidable (_ <:+: _))

/-- The applications to show: those whose title has the text, unless it is blank, and that the
filter accepts, if there is one. -/
def shown (g : Given) : List Application :=
  g.applications.filter fun app =>
    decide ((g.Blank ∨ g.Names app.title) ∧ ∀ f ∈ g.filter, f.accepts app = true)

/-- The results to find: none for a blank text, else the applications and then the pinned actions
whose title has the text. -/
def found (g : Given) : List Result :=
  if g.Blank then []
  else
    (g.applications.filter fun app => decide (g.Names app.title)).map
        (fun app => {
          icon := app.icon, title := app.title, subtitle := app.source, category := app.category,
          action := app.action })
      ++ (g.pinned.filter fun p => decide (g.Names (some p.title))).map
        (fun p => {
          icon := p.icon, title := some p.title, subtitle := some p.description,
          category := some "Pinned", action := p.action })

variable (g : Given)

theorem isBlank_eq : Text.isBlank (some g.text) = decide g.Blank := by
  rw [Bool.eq_iff_iff, decide_eq_true_iff]
  exact List.all_eq_true

theorem titleMatches_eq (title : Option String) :
    titleMatches title g.text = decide (g.Names title) := by
  rw [Bool.eq_iff_iff, decide_eq_true_iff]
  exact Text.occursIn_iff

end Given

/-- The finder holds what was given. -/
structure Holds (f : Finder) (g : Given) : Prop where
  applications : f.applications = g.applications
  pinned : f.pinned = g.pinned
  searchText : f.searchText = some g.text
  selected : f.selected = g.filter

variable {f : Finder} {g : Given}

theorem holds_new : Holds {} {} := ⟨rfl, rfl, rfl, rfl⟩

theorem Holds.step (hf : f.Holds g) (op : Operation) : (f.step op).Holds (g.after op) := by
  obtain ⟨ha, hp, ht, hs⟩ := hf
  cases op with
  | updateApplications apps => exact ⟨rfl, hp, ht, hs⟩
  | setPinned pinned => exact ⟨ha, rfl, ht, hs⟩
  | setSearchText text =>
    simp only [Finder.step, setSearchText]
    split
    · next he => exact ⟨ha, hp, he.symm, hs⟩
    · exact ⟨ha, hp, rfl, hs⟩
  | selectFilter filter =>
    simp only [Finder.step, selectFilter]
    split
    · next he => exact ⟨ha, hp, ht, he.symm⟩
    · exact ⟨ha, hp, ht, rfl⟩
  | refresh => exact ⟨ha, hp, ht, hs⟩
  | refreshFiltered => exact ⟨ha, hp, ht, hs⟩
  | refreshResults => exact ⟨ha, hp, ht, hs⟩

theorem Holds.run (hf : f.Holds g) (ops : List Operation) :
    (f.run ops).Holds (ops.foldl Given.after g) := by
  induction ops generalizing f g with
  | nil => exact hf
  | cons op rest ih => exact ih (hf.step op)

theorem Holds.filteredNow (hf : f.Holds g) : f.filteredNow = g.shown := by
  simp only [Finder.filteredNow, filterApplications, Given.shown, hf.applications, hf.searchText,
    hf.selected, g.isBlank_eq, Option.getD_some, g.titleMatches_eq]
  refine List.filter_congr fun app _ => ?_
  cases g.filter <;> simp

/-- The router asks for the applications before it asks for the pinned actions. -/
theorem router_handlers (f : Finder) :
    f.router.handlers =
      [{ priority := 100, answer := applicationResults f.applications },
        { priority := 200, answer := pinnedResults f.pinned }] := rfl

theorem Holds.resultsNow (hf : f.Holds g) : f.resultsNow = g.found := by
  simp only [Finder.resultsNow, Router.route, router_handlers, hf.applications, hf.pinned,
    hf.searchText, Given.found, g.isBlank_eq, decide_eq_true_eq, List.flatMap_cons,
    List.flatMap_nil, List.append_nil, applicationResults, pinnedResults, g.titleMatches_eq]
  rfl

/-- After every run of operations on a new finder, the finder holds what was given last, the view of
the applications is the list of those to show, and the view of the search is the list of results to
find. The states on the way are the ends of shorter runs. -/
theorem views_run (ops : List Operation) :
    let f := run {} ops
    let g := ops.foldl Given.after {}
    (f.applications = g.applications ∧ f.pinned = g.pinned ∧ f.searchText = some g.text
        ∧ f.selected = g.filter)
      ∧ f.filtered = g.shown ∧ f.results = g.found := by
  intro f g
  have hf : f.Holds g := holds_new.run ops
  have hc : f.Current := current_run current_new ops
  refine ⟨⟨hf.applications, hf.pinned, hf.searchText, hf.selected⟩, ?_, ?_⟩
  · rw [hc.1, hf.filteredNow]
  · rw [hc.2, hf.resultsNow]

end Finder

end QuickLaunch
