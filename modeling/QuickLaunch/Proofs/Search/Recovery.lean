import QuickLaunch.Proofs.Search.Histories
import QuickLaunch.Proofs.Search.Parts

/-!
# Recovery from stale views

Writing to an input alone leaves the views behind. What they show then is never made up: it is what
an earlier state of the same run had to show. Refreshing, and replacing the applications, make both
views current again; the other operations restore one view or, where they return early, none.

* `showsNow_iff`, `findsNow_iff`: a current view is the one that a rebuild would leave;
* `views_move`: what a move does to each view;
* `exists_shown_of_moved`: a view is that of some state on the way;
* `eq_of_agree`: finders with the same inputs and current views are the same;
* `agree_step`: an operation sets no input but its own;
* `recovered_run`: which views are current after an operation, whatever was done before.
-/

namespace QuickLaunch.Finder

/-! ## Current views -/

/-- What the finder holds now; no text at all is read as the empty one. -/
def inputs (f : Finder) : Given :=
  f.given (f.searchText.getD "")

/-- The view of the applications is current: it has those that there are to show. -/
def ShowsNow (f : Finder) : Prop :=
  f.filtered = f.inputs.shown

/-- The view of the search is current: it has the results that there are to find. -/
def FindsNow (f : Finder) : Prop :=
  f.results = f.inputs.found

variable {f : Finder} {op : Operation} {input : Input}

/-- The finder with the empty text where there is no text at all. -/
def withText (f : Finder) : Finder :=
  { f with searchText := some (f.searchText.getD "") }

theorem holds_withText (f : Finder) : f.withText.Holds f.inputs := ⟨rfl, rfl, rfl, rfl⟩

theorem filteredNow_eq (f : Finder) : f.filteredNow = f.inputs.shown := by
  rw [← (holds_withText f).filteredNow]
  cases ht : f.searchText with
  | none => simp [filteredNow, withText, filterApplications, ht, Text.isBlank, Text.isBlankChars]
  | some text => rw [withText, filteredNow, filteredNow, ht, Option.getD_some]

theorem resultsNow_eq (f : Finder) : f.resultsNow = f.inputs.found := by
  rw [← (holds_withText f).resultsNow]
  cases ht : f.searchText with
  | none => simp [resultsNow, withText, Router.route, ht, Text.isBlank, Text.isBlankChars]
  | some text => rw [withText, resultsNow, resultsNow, ht, Option.getD_some]; rfl

theorem showsNow_iff : f.ShowsNow ↔ f.filtered = f.filteredNow := by
  rw [ShowsNow, filteredNow_eq]

theorem findsNow_iff : f.FindsNow ↔ f.results = f.resultsNow := by
  rw [FindsNow, resultsNow_eq]

/-- Both views are current. -/
def Fresh (f : Finder) : Prop :=
  f.ShowsNow ∧ f.FindsNow

theorem current_iff : f.Current ↔ f.Fresh := by
  rw [Fresh, showsNow_iff, findsNow_iff, Current]

/-! ## Moves -/

/-- The finder after some moves, one after another. -/
def moved (f : Finder) (moves : List Move) : Finder :=
  moves.foldl move f

/-- Giving the text that the finder holds does nothing, and giving another one rebuilds both
views. -/
theorem setSearchText_cases (f : Finder) (text : Option String) :
    (f.searchText = some (text.getD "") ∧ f.setSearchText text = f)
      ∨ f.searchText ≠ some (text.getD "")
        ∧ f.setSearchText text = { f with searchText := some (text.getD "") }.refresh := by
  by_cases h : some (text.getD "") = f.searchText
  · exact .inl ⟨h.symm, if_pos h⟩
  · exact .inr ⟨Ne.symm h, if_neg h⟩

/-- Selecting the filter that is selected does nothing, and selecting another one rebuilds both
views. -/
theorem selectFilter_cases (f : Finder) (filter : Option Filter) :
    (f.selected = filter ∧ f.selectFilter filter = f)
      ∨ f.selected ≠ filter ∧ f.selectFilter filter = { f with selected := filter }.refresh := by
  by_cases h : filter = f.selected
  · exact .inl ⟨h.symm, if_pos h⟩
  · exact .inr ⟨Ne.symm h, if_neg h⟩

/-- A move leaves each view as it is or makes it current. -/
theorem views_move (f : Finder) (m : Move) :
    ((f.move m).filtered = f.filtered ∨ (f.move m).ShowsNow)
      ∧ ((f.move m).results = f.results ∨ (f.move m).FindsNow) := by
  rw [showsNow_iff, findsNow_iff]
  cases m with
  | assign a => cases a <;> exact ⟨.inl rfl, .inl rfl⟩
  | operate op =>
    rw [move]
    cases op with
    | updateApplications apps => exact ⟨.inr rfl, .inr rfl⟩
    | setPinned pinned => exact ⟨.inl rfl, .inr rfl⟩
    | setSearchText text =>
      rw [step]
      obtain ⟨-, hsame⟩ | ⟨-, hother⟩ := f.setSearchText_cases text
      · rw [hsame]
        exact ⟨.inl rfl, .inl rfl⟩
      · rw [hother]
        exact ⟨.inr rfl, .inr rfl⟩
    | selectFilter filter =>
      rw [step]
      obtain ⟨-, hsame⟩ | ⟨-, hother⟩ := f.selectFilter_cases filter
      · rw [hsame]
        exact ⟨.inl rfl, .inl rfl⟩
      · rw [hother]
        exact ⟨.inr rfl, .inr rfl⟩
    | refresh => exact ⟨.inr rfl, .inr rfl⟩
    | refreshFiltered => exact ⟨.inr rfl, .inl rfl⟩
    | refreshResults => exact ⟨.inl rfl, .inr rfl⟩

/-- A view that every move leaves as it is or makes current is, after a run, what some state on the
way had to show. -/
theorem exists_state_of_moved {α : Type} (view now : Finder → α) (hnew : view {} = now {})
    (hmove : ∀ f m, view (move f m) = view f ∨ view (move f m) = now (move f m))
    (moves : List Move) :
    ∃ before behind, moves = before ++ behind ∧ view (moved {} moves) = now (moved {} before) := by
  induction moves using List.reverseRecOn with
  | nil => exact ⟨[], [], rfl, hnew⟩
  | append_singleton moves m ih =>
    have hlast : moved {} (moves ++ [m]) = move (moved {} moves) m := List.foldl_concat ..
    rw [hlast]
    rcases hmove (moved {} moves) m with hkept | hnow
    · obtain ⟨before, behind, hmoves, hview⟩ := ih
      exact ⟨before, behind ++ [m], by rw [hmoves, List.append_assoc], hkept.trans hview⟩
    · exact ⟨moves ++ [m], [], (List.append_nil _).symm, hnow.trans (by rw [hlast])⟩

/-- However stale the views are, each of them shows what there was to show in some state of the run,
the new finder included. -/
theorem exists_shown_of_moved (moves : List Move) :
    (∃ before behind, moves = before ++ behind
        ∧ (moved {} moves).filtered = (moved {} before).inputs.shown)
      ∧ ∃ before behind, moves = before ++ behind
        ∧ (moved {} moves).results = (moved {} before).inputs.found :=
  have hnew : Fresh {} := current_iff.mp current_new
  ⟨exists_state_of_moved Finder.filtered (·.inputs.shown) hnew.1 (fun f m => (f.views_move m).1)
      moves,
    exists_state_of_moved Finder.results (·.inputs.found) hnew.2 (fun f m => (f.views_move m).2)
      moves⟩

/-! ## Inputs -/

/-- The two finders hold the same for an input. -/
def Agree (f f' : Finder) : Input → Prop
  | .applications => f'.applications = f.applications
  | .pinned => f'.pinned = f.pinned
  | .text => f'.searchText = f.searchText
  | .filter => f'.selected = f.selected

theorem agree_refl (f : Finder) (input : Input) : f.Agree f input := by
  cases input <;> rfl

/-- Current views leave nothing open: with the same inputs the finders are the same. -/
theorem eq_of_agree {f' : Finder} (hf : f.Current) (hf' : f'.Current)
    (h : ∀ input, f.Agree f' input) : f' = f := by
  have happs : f'.applications = f.applications := h .applications
  have hpinned : f'.pinned = f.pinned := h .pinned
  have htext : f'.searchText = f.searchText := h .text
  have hselected : f'.selected = f.selected := h .filter
  have hfiltered : f'.filtered = f.filtered := by
    rw [hf'.1, hf.1, filteredNow, filteredNow, happs, htext, hselected]
  have hresults : f'.results = f.results := by
    rw [hf'.2, hf.2, resultsNow, resultsNow, router, router, happs, hpinned, htext]
  cases f
  simp only at happs hpinned htext hselected hfiltered hresults
  rw [← happs, ← hpinned, ← htext, ← hselected, ← hfiltered, ← hresults]

/-- An operation sets no input but its own. -/
theorem agree_step (f : Finder) (h : op.input? ≠ some input) : f.Agree (f.step op) input := by
  cases op with
  | updateApplications apps =>
    cases input with
    | applications => exact absurd rfl h
    | _ => rfl
  | setPinned pinned =>
    cases input with
    | pinned => exact absurd rfl h
    | _ => rfl
  | setSearchText text =>
    rw [step]
    obtain ⟨-, hsame⟩ | ⟨-, hother⟩ := f.setSearchText_cases text
    · rw [hsame]
      exact agree_refl f input
    · rw [hother]
      cases input with
      | text => exact absurd rfl h
      | _ => rfl
  | selectFilter filter =>
    rw [step]
    obtain ⟨-, hsame⟩ | ⟨-, hother⟩ := f.selectFilter_cases filter
    · rw [hsame]
      exact agree_refl f input
    · rw [hother]
      cases input with
      | filter => exact absurd rfl h
      | _ => rfl
  | refresh => cases input <;> rfl
  | refreshFiltered => cases input <;> rfl
  | refreshResults => cases input <;> rfl

/-! ## Recovery -/

/-- The operation rebuilds both views, whatever the finder holds. -/
inductive Operation.Rebuilds : Operation → Prop where
  | refresh : Rebuilds .refresh
  | updateApplications (apps : List Application) : Rebuilds (.updateApplications apps)

theorem Operation.Rebuilds.current_step (h : op.Rebuilds) (f : Finder) : (f.step op).Current := by
  cases h with
  | refresh => exact current_refresh f
  | updateApplications apps => exact current_refresh _

/-- Giving a text makes both views current if it is another text, and leaves them alone if not. -/
theorem current_setSearchText_iff (f : Finder) (text : Option String) :
    (f.setSearchText text).Current ↔ f.searchText ≠ some (text.getD "") ∨ f.Current := by
  obtain ⟨he, hsame⟩ | ⟨hne, hother⟩ := f.setSearchText_cases text
  · rw [hsame]
    exact ⟨.inr, fun h => h.resolve_left fun hne => hne he⟩
  · rw [hother]
    exact iff_of_true (current_refresh _) (.inl hne)

/-- Selecting a filter makes both views current if it is another one, and leaves them alone if
not. -/
theorem current_selectFilter_iff (f : Finder) (filter : Option Filter) :
    (f.selectFilter filter).Current ↔ f.selected ≠ filter ∨ f.Current := by
  obtain ⟨he, hsame⟩ | ⟨hne, hother⟩ := f.selectFilter_cases filter
  · rw [hsame]
    exact ⟨.inr, fun h => h.resolve_left fun hne => hne he⟩
  · rw [hother]
    exact iff_of_true (current_refresh _) (.inl hne)

/-- After every run of operations and assignments on a new finder: refreshing and replacing the
applications make both views current, and they stay so through any operations behind; refreshing one
view makes it current, hands it out and leaves the other one alone; replacing the pinned actions
makes the results current and leaves the applications alone; giving a text or selecting a filter
leaves both views current exactly when it is not the one that the finder holds or they were current
before; and no operation touches an input that it does not set. -/
theorem recovered_run (moves : List Move) :
    let f := moved {} moves
    (∀ op, Operation.Rebuilds op → ∀ ops, ((f.step op).run ops).Fresh)
      ∧ ((f.step .refreshFiltered).ShowsNow
        ∧ f.answer? .refreshFiltered = some (.applications (f.step .refreshFiltered).filtered)
        ∧ (f.step .refreshFiltered).results = f.results)
      ∧ ((f.step .refreshResults).FindsNow
        ∧ f.answer? .refreshResults = some (.results (f.step .refreshResults).results)
        ∧ (f.step .refreshResults).filtered = f.filtered)
      ∧ (∀ pinned, (f.step (.setPinned pinned)).FindsNow
        ∧ (f.step (.setPinned pinned)).filtered = f.filtered)
      ∧ (∀ text, (f.step (.setSearchText text)).Fresh ↔
          f.searchText ≠ some (text.getD "") ∨ f.Fresh)
      ∧ (∀ filter, (f.step (.selectFilter filter)).Fresh ↔ f.selected ≠ filter ∨ f.Fresh)
      ∧ ∀ op input, Operation.input? op ≠ some input → f.Agree (f.step op) input := by
  intro f
  refine ⟨fun op hop ops => ?_, ⟨showsNow_iff.mpr rfl, rfl, rfl⟩, ⟨findsNow_iff.mpr rfl, rfl, rfl⟩,
    fun pinned => ⟨findsNow_iff.mpr rfl, rfl⟩, fun text => ?_, fun filter => ?_,
    fun op input h => agree_step f h⟩
  · exact current_iff.mp (current_run (hop.current_step f) ops)
  · rw [← current_iff, ← current_iff]
    exact current_setSearchText_iff f text
  · rw [← current_iff, ← current_iff]
    exact current_selectFilter_iff f filter

/-- A text is written to the finder alone. Giving the same text again leaves the list of the
applications stale, and a refresh makes it current and keeps the text. -/
theorem recovered_run_after_assignment :
    let app : Application := { title := "Notes", category := none, source := none, action := .noop }
    let f := moved {} [.operate (.updateApplications [app]), .operate (.setSearchText (some "x")),
      .assign (.searchText (some "note"))]
    ¬ (f.step (.setSearchText (some "note"))).Fresh
      ∧ Operation.Rebuilds .refresh ∧ (f.step .refresh).Fresh
      ∧ Operation.input? .refresh ≠ some .text ∧ f.Agree (f.step .refresh) .text := by
  intro app f
  have hstale : ¬ f.Fresh := by
    rintro ⟨hshows, -⟩
    have hfiltered : f.filtered = [] := by decide
    have hnow : f.filteredNow = [app] := by decide
    rw [showsNow_iff, hfiltered, hnow] at hshows
    cases hshows
  obtain ⟨hboth, -, -, -, htext, -, hinputs⟩ := recovered_run [
    .operate (.updateApplications [app]), .operate (.setSearchText (some "x")),
    .assign (.searchText (some "note"))]
  have hsame : f.searchText = some ((some "note").getD "") := rfl
  refine ⟨fun hf => ?_, .refresh, hboth .refresh .refresh [], nofun, hinputs .refresh .text nofun⟩
  rcases (htext (some "note")).mp hf with hother | hfresh
  · exact hother hsame
  · exact hstale hfresh

end QuickLaunch.Finder
