import QuickLaunch.Launcher.Basic
import QuickLaunch.Proofs.Search.Views

/-!
# Runs of a launcher

An operation binds the entries of a configuration, if it is given one, and asks the finder for a
few operations of its own (`step_eq`), so the views stay current whatever happens. `Given` keeps
what the launcher was given last: applications, a configuration and a search text. The selected
filter is one of those on offer as long as no other one is selected from outside.

* `Holds.run`: the launcher holds what it was given last;
* `Chosen.run`: the selected filter is one of those on offer;
* `selectNamed_cases`: what selecting a filter by name does;
* `kept_run`: all of this after every run, with what the views then show.
-/

namespace QuickLaunch.Launcher

/-- The launcher and the host after some operations, one after another. -/
def run (l : Launcher) (h : Host) (ops : List Operation) : Launcher × Host :=
  ops.foldl (fun s op => (s.1.step s.2 op).1) (l, h)

/-- What an operation asks of the finder. -/
def finderOps (l : Launcher) : Operation → List Finder.Operation
  | .apply c => [.setPinned c.pinnedEntries, .selectFilter (some Filter.all)]
  | .setApplications apps => [.updateApplications apps]
  | .search text => [.setSearchText text]
  | .clear => [.setSearchText (some "")]
  | .select filter => [.selectFilter filter]
  | .selectAt position =>
    match l.filterAt position with
    | .ok f => [.selectFilter (some f)]
    | .error _ => []
  | .selectNamed name =>
    match l.filterNamed? name with
    | some f => [.selectFilter (some f)]
    | none => []
  | .activate => []

/-- The launcher with the entries that an operation binds. -/
def rebound (l : Launcher) : Operation → Launcher
  | .apply c =>
    { l with
      macroGroups := c.macroEntries
      recent := c.recentEntries
      tileGroups := c.tileEntries
      configured := c.filterEntries }
  | .setApplications _ | .search _ | .clear | .select _ | .selectAt _ | .selectNamed _
  | .activate => l

/-- What an operation does to a launcher. -/
theorem step_eq (l : Launcher) (h : Host) (op : Operation) :
    (l.step h op).1.1 = { l.rebound op with finder := l.finder.run (l.finderOps op) } := by
  cases op with
  | apply c => rfl
  | setApplications apps => rfl
  | search text => rfl
  | clear => rfl
  | select filter => rfl
  | selectAt position =>
    rw [step, finderOps]
    cases l.filterAt position <;> rfl
  | selectNamed name =>
    rw [step, finderOps]
    cases l.filterNamed? name <;> rfl
  | activate => rfl

theorem current_step {l : Launcher} (hl : l.finder.Current) (h : Host) (op : Operation) :
    (l.step h op).1.1.finder.Current := by
  rw [step_eq]
  exact Finder.current_run hl _

theorem current_run {l : Launcher} (hl : l.finder.Current) (h : Host) (ops : List Operation) :
    (l.run h ops).1.finder.Current := by
  induction ops generalizing l h with
  | nil => exact hl
  | cons op rest ih => exact ih (current_step hl h op) _

/-! ## What was given -/

/-- What a launcher was given last. -/
structure Given where
  applications : List Application := []
  config : Config := {}
  text : String := ""

namespace Given

/-- What is given after an operation. -/
def after (g : Given) : Operation → Given
  | .apply c => { g with config := c }
  | .setApplications apps => { g with applications := apps }
  | .search text => { g with text := text.getD "" }
  | .clear => { g with text := "" }
  | .select _ | .selectAt _ | .selectNamed _ | .activate => g

/-- What the finder is given, together with the selected filter. -/
def sought (g : Given) (selected : Option Filter) : Finder.Given :=
  { applications := g.applications, pinned := g.config.pinnedEntries, text := g.text,
    filter := selected }

end Given

/-- The launcher holds what was given. -/
structure Holds (l : Launcher) (g : Given) : Prop where
  finder : l.finder.Holds (g.sought l.finder.selected)
  macroGroups : l.macroGroups = g.config.macroEntries
  recent : l.recent = g.config.recentEntries
  tileGroups : l.tileGroups = g.config.tileEntries
  configured : l.configured = g.config.filterEntries

variable {l : Launcher} {g : Given}

theorem current_new (i : Interpreter) : (ofInterpreter i).finder.Current :=
  Finder.current_step Finder.current_new (.selectFilter (some Filter.all))

theorem holds_new (i : Interpreter) : (ofInterpreter i).Holds {} where
  finder := Finder.holds_new.step (.selectFilter (some Filter.all))
  macroGroups := rfl
  recent := rfl
  tileGroups := rfl
  configured := rfl

/-- The finder is given what the launcher is given, and a filter. -/
theorem exists_sought (l : Launcher) (g : Given) (selected : Option Filter) (op : Operation) :
    ∃ next, (l.finderOps op).foldl Finder.Given.after (g.sought selected)
      = (g.after op).sought next := by
  cases op with
  | apply c => exact ⟨_, rfl⟩
  | setApplications apps => exact ⟨_, rfl⟩
  | search text => exact ⟨_, rfl⟩
  | clear => exact ⟨_, rfl⟩
  | select filter => exact ⟨_, rfl⟩
  | selectAt position =>
    rw [finderOps]
    split <;> exact ⟨_, rfl⟩
  | selectNamed name =>
    rw [finderOps]
    split <;> exact ⟨_, rfl⟩
  | activate => exact ⟨_, rfl⟩

theorem Holds.step (hl : l.Holds g) (h : Host) (op : Operation) :
    (l.step h op).1.1.Holds (g.after op) := by
  have hf : (l.finder.run (l.finderOps op)).Holds
      ((g.after op).sought (l.finder.run (l.finderOps op)).selected) := by
    obtain ⟨next, hnext⟩ := exists_sought l g l.finder.selected op
    have hrun := hl.finder.run (l.finderOps op)
    rw [hnext] at hrun
    rw [hrun.selected]
    exact hrun
  rw [step_eq]
  -- Applying a configuration binds the other entries anew, and nothing else touches them.
  cases op with
  | apply c => exact ⟨hf, rfl, rfl, rfl, rfl⟩
  | _ => exact ⟨hf, hl.macroGroups, hl.recent, hl.tileGroups, hl.configured⟩

theorem Holds.run (hl : l.Holds g) (h : Host) (ops : List Operation) :
    (l.run h ops).1.Holds (ops.foldl Given.after g) := by
  induction ops generalizing l g h with
  | nil => exact hl
  | cons op rest ih => exact ih (hl.step h op) _

/-! ## The selected filter -/

/-- The operation selects no filter but one that the launcher offers. -/
def Operation.Offered : Operation → Prop
  | .select _ => False
  | .apply _ | .setApplications _ | .search _ | .clear | .selectAt _ | .selectNamed _
  | .activate => True

instance : DecidablePred Operation.Offered
  | .select _ => inferInstanceAs (Decidable False)
  | .apply _ | .setApplications _ | .search _ | .clear | .selectAt _ | .selectNamed _
  | .activate => inferInstanceAs (Decidable True)

theorem selected_selectFilter (f : Finder) (filter : Option Filter) :
    (f.selectFilter filter).selected = filter := by
  rw [Finder.selectFilter]
  split
  · next he => exact he.symm
  · rfl

theorem selected_setSearchText (f : Finder) (text : Option String) :
    (f.setSearchText text).selected = f.selected := by
  simp only [Finder.setSearchText]
  split <;> rfl

theorem mem_filters_of_filterAt {position : Int} {f : Filter} (hf : l.filterAt position = .ok f) :
    f ∈ l.filters := by
  simp only [filterAt] at hf
  generalize (if position < 0 then position + l.filters.length else position) = index at hf
  split at hf
  · cases hf
  · split at hf
    · next hg =>
      cases hf
      exact List.mem_of_getElem? hg
    · cases hf

/-- The selected filter is one of those on offer. -/
def Chosen (l : Launcher) : Prop :=
  ∃ f ∈ l.filters, l.finder.selected = some f

theorem chosen_new (i : Interpreter) : (ofInterpreter i).Chosen :=
  ⟨Filter.all, List.mem_cons_self, rfl⟩

theorem chosen_select {f : Filter} (hf : f ∈ l.filters) : (l.select (some f)).Chosen :=
  ⟨f, hf, selected_selectFilter _ _⟩

theorem Chosen.step (hl : l.Chosen) (h : Host) {op : Operation} (ho : op.Offered) :
    (l.step h op).1.1.Chosen := by
  have search : ∀ text, (l.search text).Chosen := fun text =>
    let ⟨f, hf, hs⟩ := hl
    ⟨f, hf, (selected_setSearchText l.finder text).trans hs⟩
  cases op with
  | apply c => exact ⟨Filter.all, List.mem_cons_self, selected_selectFilter _ _⟩
  | setApplications apps => exact hl
  | search text => exact search text
  | clear => exact search (some "")
  | select filter => exact ho.elim
  | selectAt position =>
    rw [Launcher.step]
    split
    · next hf => exact chosen_select (mem_filters_of_filterAt hf)
    · exact hl
  | selectNamed name =>
    rw [Launcher.step]
    split
    · next hf => exact chosen_select (List.mem_of_find?_eq_some hf)
    · exact hl
  | activate => exact hl

theorem Chosen.run (hl : l.Chosen) (h : Host) {ops : List Operation}
    (ho : ∀ op ∈ ops, op.Offered) : (l.run h ops).1.Chosen := by
  induction ops generalizing l h with
  | nil => exact hl
  | cons op rest ih =>
    exact ih (hl.step h (ho op List.mem_cons_self)) _
      fun other hm => ho other (List.mem_cons_of_mem op hm)

theorem filterNamed?_eq_none_iff {name : String} :
    l.filterNamed? name = none ↔ ∀ f ∈ l.filters, Text.lower f.name ≠ Text.lower name := by
  rw [filterNamed?, List.find?_eq_none]
  exact forall₂_congr fun f _ => not_congr Text.sameIgnoringCase_iff

/-- The filter of a name is the first whose name is the same in lower case. -/
theorem filterNamed?_eq_some_iff {name : String} {f : Filter} :
    l.filterNamed? name = some f ↔ ∃ before behind, l.filters = before ++ f :: behind
      ∧ (∀ other ∈ before, Text.lower other.name ≠ Text.lower name)
      ∧ Text.lower f.name = Text.lower name := by
  rw [filterNamed?, List.find?_eq_some_iff_append]
  simp only [Bool.not_eq_true', ← Bool.not_eq_true, Text.sameIgnoringCase_iff]
  constructor
  · rintro ⟨hs, before, behind, hsplit, hb⟩
    exact ⟨before, behind, hsplit, hb, hs⟩
  · rintro ⟨before, behind, hsplit, hb, hs⟩
    exact ⟨hs, before, behind, hsplit, hb⟩

/-- Selecting by name selects the first filter whose name is the same in lower case. Without one it
changes nothing. -/
theorem selectNamed_cases (l : Launcher) (h : Host) (name : String) :
    ((∀ f ∈ l.filters, Text.lower f.name ≠ Text.lower name)
        ∧ l.step h (.selectNamed name) = ((l, h), .ok (some false)))
      ∨ ∃ before f behind, l.filters = before ++ f :: behind
        ∧ (∀ other ∈ before, Text.lower other.name ≠ Text.lower name)
        ∧ Text.lower f.name = Text.lower name
        ∧ l.step h (.selectNamed name) = ((l.select (some f), h), .ok (some true))
        ∧ (l.select (some f)).finder.selected = some f := by
  cases hn : l.filterNamed? name with
  | none => exact .inl ⟨filterNamed?_eq_none_iff.mp hn, by rw [step, hn]⟩
  | some f =>
    obtain ⟨before, behind, hsplit, hb, hs⟩ := filterNamed?_eq_some_iff.mp hn
    exact .inr ⟨before, f, behind, hsplit, hb, hs, by rw [step, hn], selected_selectFilter _ _⟩

/-! ## What is kept -/

theorem header_eq_iff {f : Finder} {g : Finder.Given} (hf : f.Holds g) :
    f.header = "Search Results" ↔ ¬ g.Blank := by
  rw [Finder.header, Finder.hasSearchText, hf.searchText, g.isBlank_eq]
  by_cases hb : g.Blank <;> simp [hb]

/-- After every run of operations on a new launcher that selects no filter but those on offer: the
first filter keeps everything and is called `All`; the selected filter is one of those on offer; the
launcher holds what it was given last, the views of its finder are those of what it holds, and the
heading tells whether there is something to search for; and a filter is selected by name if there is
one of that name, else nothing changes. The states on the way are the ends of shorter runs. -/
theorem kept_run (i : Interpreter) (h : Host) (ops : List Operation)
    (ho : ∀ op ∈ ops, op.Offered) :
    let l := ((ofInterpreter i).run h ops).1
    let g := ops.foldl Given.after {}
    let sought := g.sought l.finder.selected
    l.filters[0]? = some { name := "All", predicate := none }
      ∧ (∃ f ∈ l.filters, l.finder.selected = some f)
      ∧ l.Holds g
      ∧ l.finder.filtered = sought.shown
      ∧ l.finder.results = sought.found
      ∧ (l.finder.header = "Search Results" ↔ ¬ sought.Blank)
      ∧ ∀ h' name,
          ((∀ f ∈ l.filters, Text.lower f.name ≠ Text.lower name)
              ∧ l.step h' (.selectNamed name) = ((l, h'), .ok (some false)))
            ∨ ∃ before f behind, l.filters = before ++ f :: behind
              ∧ (∀ other ∈ before, Text.lower other.name ≠ Text.lower name)
              ∧ Text.lower f.name = Text.lower name
              ∧ l.step h' (.selectNamed name) = ((l.select (some f), h'), .ok (some true))
              ∧ (l.select (some f)).finder.selected = some f := by
  intro l g sought
  have hl : l.Holds g := (holds_new i).run h ops
  have hc : l.finder.Current := current_run (current_new i) h ops
  refine ⟨rfl, (chosen_new i).run h ho, hl, ?_, ?_, header_eq_iff hl.finder, selectNamed_cases l⟩
  · rw [hc.1, hl.finder.filteredNow]
  · rw [hc.2, hl.finder.resultsNow]

/-- A filter of a configuration is selected, and a configuration without it is applied: the filter
that keeps everything is selected again. -/
theorem kept_run_reapplied :
    let ops := [.apply { filters := [{ name := "Code", predicate := "code" }] },
      .selectNamed "CODE", .search (some "a"), .apply {}]
    (∀ op ∈ ops, Operation.Offered op)
      ∧ ((ofInterpreter default).run {} ops).1.finder.selected = some Filter.all := by
  intro ops
  have ho : ∀ op ∈ ops, op.Offered := by decide
  obtain ⟨f, hf, hs⟩ := (kept_run default {} ops ho).2.1
  have hall : f ∈ [Filter.all] := hf
  exact ⟨ho, hs.trans (congrArg some (List.mem_singleton.mp hall))⟩

end QuickLaunch.Launcher
