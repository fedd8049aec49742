import Mathlib.Data.List.Forall2
import QuickLaunch.Proofs.Search.Histories
import QuickLaunch.Proofs.Search.Parts
import QuickLaunch.Proofs.Text.Lowered

/-!
# Searching without regard to case

What is searched, compared and looked for is read in lower case, and whether there is something to
search for does not depend on case either. So lower case can stand in the place of each text that a
finder is given, whatever happens to the others: the same positions of its lists are shown and found.

* `Given.Recased.names_iff`, `Filter.Recased.accepts_eq`: the tests of an item do not change;
* `Given.Recased.after_foldl`: histories that differ in case give what differs in case;
* `Given.marked_finder`: the views consist of what is marked in the lists;
* `marks_run`: the marks of such histories are the same.
-/

namespace QuickLaunch

/-! ## Another letter case -/

/-- The second text is the first or its lower case. -/
def Text.Recased (s t : String) : Prop :=
  t = s ∨ t = lower s

namespace Text.Recased

variable {s t : String} {a b : Option String}

theorem lowerChars_eq (h : Recased s t) : lowerChars t.toList = lowerChars s.toList := by
  rcases h with rfl | rfl
  · rfl
  · rw [toList_lower, lowerChars_lowerChars]

theorem isBlankChars_eq (h : Recased s t) : isBlankChars t.toList = isBlankChars s.toList := by
  rw [← isBlankChars_lowerChars, h.lowerChars_eq, isBlankChars_lowerChars]

theorem getD (h : Option.Rel Recased a b) : Recased (a.getD "") (b.getD "") := by
  cases h with
  | some h => exact h
  | none => exact .inl rfl

end Text.Recased

/-- The texts of the second application are those of the first, each as it is or in lower case. -/
structure Application.Recased (app app' : Application) : Prop where
  title : Option.Rel Text.Recased app.title app'.title
  category : Option.Rel Text.Recased app.category app'.category
  source : Option.Rel Text.Recased app.source app'.source
  action : app'.action = app.action
  icon : app'.icon = app.icon

/-- The second pinned action is the first, with its title as it is or in lower case. -/
structure Pinned.Recased (p p' : Pinned) : Prop where
  title : Text.Recased p.title p'.title
  icon : p'.icon = p.icon
  description : p'.description = p.description
  action : p'.action = p.action

/-- The second test is the first, with its value as it is or in lower case. -/
inductive Predicate.Recased : Predicate → Predicate → Prop where
  | source {v w : String} : Text.Recased v w → Recased (.source v) (.source w)
  | category {v w : String} : Text.Recased v w → Recased (.category v) (.category w)
  | title {v w : String} : Text.Recased v w → Recased (.title v) (.title w)
  | always : Recased .always .always

/-- The second filter is the first, with the value of its test as it is or in lower case. -/
structure Filter.Recased (f f' : Filter) : Prop where
  name : f'.name = f.name
  predicate : Option.Rel Predicate.Recased f.predicate f'.predicate

variable {app app' : Application} {f f' : Filter}

theorem Predicate.Recased.accepts_eq {p p' : Predicate} (hp : p.Recased p')
    (ha : app.Recased app') : p'.accepts app' = p.accepts app := by
  cases hp with
  | source h =>
    rw [accepts, accepts, Text.sameIgnoringCase, Text.sameIgnoringCase, h.lowerChars_eq,
      (Text.Recased.getD ha.source).lowerChars_eq]
  | category h =>
    rw [accepts, accepts, Text.sameIgnoringCase, Text.sameIgnoringCase, h.lowerChars_eq,
      (Text.Recased.getD ha.category).lowerChars_eq]
  | title h =>
    rw [accepts, accepts, Text.containsIgnoringCase, Text.containsIgnoringCase, h.lowerChars_eq,
      (Text.Recased.getD ha.title).lowerChars_eq]
  | always => rfl

theorem Filter.Recased.accepts_eq (hf : f.Recased f') (ha : app.Recased app') :
    f'.accepts app' = f.accepts app := by
  obtain ⟨name, p⟩ := f
  obtain ⟨name', p'⟩ := f'
  cases hf.predicate with
  | some hp => exact hp.accepts_eq ha
  | none => rfl

theorem Filter.forall_accepts_iff {filter filter' : Option Filter}
    (hf : Option.Rel Filter.Recased filter filter') (ha : app.Recased app') :
    (∀ f ∈ filter', f.accepts app' = true) ↔ ∀ f ∈ filter, f.accepts app = true := by
  cases hf with
  | some hf => simp [hf.accepts_eq ha]
  | none => simp

namespace Finder

/-- The second operation gives what the first gives, each text as it is or in lower case. -/
inductive Operation.Recased : Operation → Operation → Prop where
  | updateApplications {apps apps' : List Application} :
      List.Forall₂ Application.Recased apps apps' →
      Recased (.updateApplications apps) (.updateApplications apps')
  | setPinned {pinned pinned' : List Pinned} :
      List.Forall₂ Pinned.Recased pinned pinned' → Recased (.setPinned pinned) (.setPinned pinned')
  | setSearchText {text text' : Option String} :
      Option.Rel Text.Recased text text' → Recased (.setSearchText text) (.setSearchText text')
  | selectFilter {filter filter' : Option Filter} :
      Option.Rel Filter.Recased filter filter' →
      Recased (.selectFilter filter) (.selectFilter filter')
  | refresh : Recased .refresh .refresh
  | refreshFiltered : Recased .refreshFiltered .refreshFiltered
  | refreshResults : Recased .refreshResults .refreshResults

namespace Given

/-- The application is to be shown: its title has the text, unless that is blank, and the filter
accepts it. -/
def Shows (g : Given) (app : Application) : Prop :=
  (g.Blank ∨ g.Names app.title) ∧ ∀ f ∈ g.filter, f.accepts app = true

instance (g : Given) (app : Application) : Decidable (g.Shows app) :=
  inferInstanceAs (Decidable (_ ∧ _))

variable {g : Given}

theorem mem_shown_iff (ha : app ∈ g.applications) : app ∈ g.shown ↔ g.Shows app := by
  rw [shown, List.mem_filter, and_iff_right ha, decide_eq_true_iff, Shows]

theorem mem_found_application_iff (ha : app ∈ g.applications) :
    app.result ∈ g.found ↔ g.Matches app.title :=
  ⟨matches_of_mem_found, fun h => mem_found_application h.1 ha h.2⟩

theorem mem_found_pinned_iff {p : Pinned} (hp : p ∈ g.pinned) :
    p.result ∈ g.found ↔ g.Matches (some p.title) :=
  ⟨matches_of_mem_found, fun h => mem_found_pinned h.1 hp h.2⟩

/-- What was given differs in case. -/
structure Recased (g g' : Given) : Prop where
  applications : List.Forall₂ Application.Recased g.applications g'.applications
  pinned : List.Forall₂ Pinned.Recased g.pinned g'.pinned
  text : Text.Recased g.text g'.text
  filter : Option.Rel Filter.Recased g.filter g'.filter

namespace Recased

variable {g g' : Given} {op op' : Operation} {ops ops' : List Operation}

theorem new : Recased {} {} := ⟨.nil, .nil, .inl rfl, .none⟩

theorem after (hg : g.Recased g') (hop : op.Recased op') : (g.after op).Recased (g'.after op') := by
  obtain ⟨ha, hp, ht, hf⟩ := hg
  cases hop with
  | updateApplications h => exact ⟨h, hp, ht, hf⟩
  | setPinned h => exact ⟨ha, h, ht, hf⟩
  | setSearchText h => exact ⟨ha, hp, .getD h, hf⟩
  | selectFilter h => exact ⟨ha, hp, ht, h⟩
  | refresh => exact ⟨ha, hp, ht, hf⟩
  | refreshFiltered => exact ⟨ha, hp, ht, hf⟩
  | refreshResults => exact ⟨ha, hp, ht, hf⟩

theorem after_foldl (hg : g.Recased g') (h : List.Forall₂ Operation.Recased ops ops') :
    (ops.foldl Given.after g).Recased (ops'.foldl Given.after g') := by
  induction h generalizing g g' with
  | nil => exact hg
  | cons hop _ ih => exact ih (hg.after hop)

theorem blank_iff (hg : g.Recased g') : g'.Blank ↔ g.Blank := by
  have h := hg.text.isBlankChars_eq
  rw [Bool.eq_iff_iff] at h
  simpa [Blank, Text.isBlankChars] using h

theorem names_iff (hg : g.Recased g') {title title' : Option String}
    (ht : Option.Rel Text.Recased title title') : g'.Names title' ↔ g.Names title := by
  rw [Names, Names, hg.text.lowerChars_eq, (Text.Recased.getD ht).lowerChars_eq]

theorem shows_iff (hg : g.Recased g') (ha : app.Recased app') : g'.Shows app' ↔ g.Shows app := by
  rw [Shows, Shows, hg.blank_iff, hg.names_iff ha.title, Filter.forall_accepts_iff hg.filter ha]

theorem matches_iff (hg : g.Recased g') {title title' : Option String}
    (ht : Option.Rel Text.Recased title title') : g'.Matches title' ↔ g.Matches title := by
  rw [Matches, Matches, hg.blank_iff, hg.names_iff ht]

end Recased

end Given

/-! ## Marks -/

/-- The members of a list that are marked. -/
def pick {α : Type} (marks : List Bool) (xs : List α) : List α :=
  ((marks.zip xs).filter Prod.fst).map Prod.snd

theorem pick_map {α : Type} (p : α → Bool) (xs : List α) : pick (xs.map p) xs = xs.filter p := by
  induction xs with
  | nil => rfl
  | cons x xs ih =>
    rw [pick] at ih
    cases h : p x <;> simp [pick, h, ih]

/-- The marks of the applications that are shown. -/
def shownMarks (f : Finder) : List Bool :=
  f.applications.map fun app => decide (app ∈ f.filtered)

/-- The marks of the applications that are found. -/
def foundMarks (f : Finder) : List Bool :=
  f.applications.map fun app => decide (app.result ∈ f.results)

/-- The marks of the pinned actions that are found. -/
def pinnedMarks (f : Finder) : List Bool :=
  f.pinned.map fun p => decide (p.result ∈ f.results)

/-- The views consist of what is marked, in order. -/
def Marked (f : Finder) : Prop :=
  f.filtered = pick f.shownMarks f.applications
    ∧ f.results = (pick f.foundMarks f.applications).map Application.result
      ++ (pick f.pinnedMarks f.pinned).map Pinned.result

namespace Given

variable (g : Given)

theorem filtered_finder : g.finder.filtered = g.shown := by
  rw [finder]

theorem results_finder : g.finder.results = g.found := by
  rw [finder]

theorem shownMarks_finder :
    g.finder.shownMarks = g.applications.map fun app => decide (g.Shows app) := by
  refine List.map_congr_left fun app (ha : app ∈ g.applications) => ?_
  rw [Bool.eq_iff_iff, decide_eq_true_iff, decide_eq_true_iff, filtered_finder, mem_shown_iff ha]

theorem foundMarks_finder :
    g.finder.foundMarks = g.applications.map fun app => decide (g.Matches app.title) := by
  refine List.map_congr_left fun app (ha : app ∈ g.applications) => ?_
  rw [Bool.eq_iff_iff, decide_eq_true_iff, decide_eq_true_iff, results_finder,
    mem_found_application_iff ha]

theorem pinnedMarks_finder :
    g.finder.pinnedMarks = g.pinned.map fun p => decide (g.Matches (some p.title)) := by
  refine List.map_congr_left fun p (hp : p ∈ g.pinned) => ?_
  rw [Bool.eq_iff_iff, decide_eq_true_iff, decide_eq_true_iff, results_finder,
    mem_found_pinned_iff hp]

theorem marked_finder : g.finder.Marked := by
  have ha : g.finder.applications = g.applications := rfl
  have hp : g.finder.pinned = g.pinned := rfl
  rw [Marked, shownMarks_finder, foundMarks_finder, pinnedMarks_finder, filtered_finder,
    results_finder, ha, hp, pick_map, pick_map, pick_map, found_eq]
  exact ⟨rfl, rfl⟩

end Given

/-- The same items are marked when lower case stands in the place of some texts. -/
theorem map_eq_of_recased {α : Type} {R : α → α → Prop} {p p' : α → Prop} [DecidablePred p]
    [DecidablePred p'] {xs xs' : List α} (h : List.Forall₂ R xs xs')
    (hp : ∀ x x', R x x' → (p' x' ↔ p x)) :
    xs'.map (fun x => decide (p' x)) = xs.map fun x => decide (p x) := by
  induction h with
  | nil => rfl
  | cons hx _ ih => rw [List.map_cons, List.map_cons, ih, decide_eq_decide.mpr (hp _ _ hx)]

namespace Given.Recased

variable {g g' : Given}

theorem hasSearchText_eq (hg : g.Recased g') :
    g'.finder.hasSearchText = g.finder.hasSearchText :=
  congrArg not hg.text.isBlankChars_eq

theorem shownMarks_eq (hg : g.Recased g') : g'.finder.shownMarks = g.finder.shownMarks := by
  rw [shownMarks_finder, shownMarks_finder]
  exact map_eq_of_recased hg.applications fun _ _ ha => hg.shows_iff ha

theorem foundMarks_eq (hg : g.Recased g') : g'.finder.foundMarks = g.finder.foundMarks := by
  rw [foundMarks_finder, foundMarks_finder]
  exact map_eq_of_recased hg.applications fun _ _ ha => hg.matches_iff ha.title

theorem pinnedMarks_eq (hg : g.Recased g') : g'.finder.pinnedMarks = g.finder.pinnedMarks := by
  rw [pinnedMarks_finder, pinnedMarks_finder]
  exact map_eq_of_recased hg.pinned fun _ _ hp => hg.matches_iff (.some hp.title)

end Given.Recased

/-- Two histories of a new finder in which each text is the same or in lower case in the second, and
whatever else is given is the same: whether there is something to search for, the positions of the
applications that are shown, and those of the applications and pinned actions that are found are the
same after both, and both times the views consist of what stands at these positions. -/
theorem marks_run {ops ops' : List Operation} (h : List.Forall₂ Operation.Recased ops ops') :
    let f := run {} ops
    let f' := run {} ops'
    f'.hasSearchText = f.hasSearchText
      ∧ f'.shownMarks = f.shownMarks ∧ f'.foundMarks = f.foundMarks
      ∧ f'.pinnedMarks = f.pinnedMarks
      ∧ f.Marked ∧ f'.Marked := by
  have hg : Given.Recased (ops.foldl Given.after {}) (ops'.foldl Given.after {}) :=
    Given.Recased.new.after_foldl h
  intro f f'
  rw [show f = _ from run_eq ops, show f' = _ from run_eq ops']
  exact ⟨hg.hasSearchText_eq, hg.shownMarks_eq, hg.foundMarks_eq, hg.pinnedMarks_eq,
    Given.marked_finder _, Given.marked_finder _⟩

/-- The sigma is final in the text and in both titles, and becomes another one than the sigma of a
single character. The dotted capital I of the filter has two characters in lower case. -/
theorem marks_run_of_sigma :
    let app (title source : String) : Application :=
      { title := some title, category := none, source := some source, action := .noop }
    let pinned (title : String) : Pinned :=
      { icon := "", title := title, description := "", action := .noop }
    let filter (value : String) : Filter := { name := "Disk", predicate := some (.source value) }
    let ops : List Operation := [.updateApplications [app "ΟΔΟΣ Α" "İ", app "ΟΔΟΣ Β" "I"],
      .setPinned [pinned "ΟΔΟΣ"], .setSearchText (some "ΟΔΟΣ"), .selectFilter (some (filter "İ"))]
    let ops' : List Operation := [
      .updateApplications [app (Text.lower "ΟΔΟΣ Α") "İ", app "ΟΔΟΣ Β" (Text.lower "I")],
      .setPinned [pinned "ΟΔΟΣ"], .setSearchText (some (Text.lower "ΟΔΟΣ")),
      .selectFilter (some (filter (Text.lower "İ")))]
    List.Forall₂ Operation.Recased ops ops'
      ∧ (run {} ops').hasSearchText = true ∧ (run {} ops').shownMarks = [true, false]
      ∧ (run {} ops').foundMarks = [true, true] ∧ (run {} ops').pinnedMarks = [true] := by
  intro app pinned filter ops ops'
  have happ : ∀ {title title' source source' : String}, Text.Recased title title' →
      Text.Recased source source' → (app title source).Recased (app title' source') :=
    fun ht hs => ⟨.some ht, .none, .some hs, rfl, rfl⟩
  have hfirst := @happ "ΟΔΟΣ Α" _ "İ" _ (.inr rfl) (.inl rfl)
  have hsecond := @happ "ΟΔΟΣ Β" _ "I" _ (.inl rfl) (.inr rfl)
  have hpinned : (pinned "ΟΔΟΣ").Recased (pinned "ΟΔΟΣ") := ⟨.inl rfl, rfl, rfl, rfl⟩
  have hfilter : (filter "İ").Recased (filter (Text.lower "İ")) :=
    ⟨rfl, .some (.source (.inr rfl))⟩
  have h : List.Forall₂ Operation.Recased ops ops' :=
    .cons (.updateApplications (.cons hfirst (.cons hsecond .nil)))
      (.cons (.setPinned (.cons hpinned .nil))
        (.cons (.setSearchText (.some (.inr rfl))) (.cons (.selectFilter (.some hfilter)) .nil)))
  obtain ⟨htext, hshown, hfound, hpin, -, -⟩ := marks_run h
  refine ⟨h, htext.trans ?_, hshown.trans ?_, hfound.trans ?_, hpin.trans ?_⟩ <;> decide +kernel

end Finder

end QuickLaunch
