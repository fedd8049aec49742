import QuickLaunch.Proofs.Launcher.Runs
import QuickLaunch.Proofs.Search.Recovery

/-!
# Applying a configuration

Applying a configuration binds six collections anew and resets the filter. Two of the steps rebuild
views only where something changed. So views that were current before are current behind it, and
nothing of the state before shows in the state behind, beside the applications and the search text.

* `bind?_eq`, `filterEntries_eq`: the filters that a configuration describes;
* `finder_apply`, `binds_apply`: what is replaced, and what is kept;
* `apply_congr`, `apply_apply`: what the state behind depends on;
* `apply_run`: all of this for every launcher, with what holds in the states that a run reaches.
-/

namespace QuickLaunch

/-! ## Filters of a configuration -/

/-- An expression names a test unless it is blank. -/
theorem Predicate.isSome_parse?_iff {expression : String} :
    (parse? (some expression)).isSome ↔ Text.isBlankChars expression.toList = false := by
  rw [Option.isSome_iff_ne_none, ne_eq, parse?_eq_none_iff, Bool.not_eq_true, Text.isBlank]

theorem FilterConfig.bind?_eq (f : FilterConfig) :
    f.bind? =
      if Text.isBlankChars f.predicate.toList then none
      else some { name := f.name, predicate := Predicate.parse? (some f.predicate) } := by
  rw [bind?]
  split_ifs with hb
  · have hnone : Predicate.parse? (some f.predicate) = none :=
      Predicate.parse?_eq_none_iff.mpr hb
    rw [hnone, Option.map_none]
  · have hsome := Predicate.isSome_parse?_iff.mpr (Bool.eq_false_iff.mpr hb)
    obtain ⟨p, hp⟩ := Option.isSome_iff_exists.mp hsome
    rw [hp, Option.map_some]

/-- The filters of a configuration are those whose expression is not blank, in order. -/
theorem Config.filterEntries_eq (c : Config) :
    c.filterEntries =
      (c.filters.filter fun f => !Text.isBlankChars f.predicate.toList).map fun f =>
        { name := f.name, predicate := Predicate.parse? (some f.predicate) } := by
  rw [filterEntries]
  induction c.filters with
  | nil => rfl
  | cons f rest ih =>
    rw [List.filterMap_cons, f.bind?_eq]
    cases hb : Text.isBlankChars f.predicate.toList <;> simp [hb, ih]

namespace Launcher

/-! ## What is bound -/

/-- The launcher shows the entries of a configuration, one for one and in order: each field is
copied, and each command resolved. The filters follow the one that keeps everything; those whose
expression is blank are left out, and the others have the test that it names. -/
structure Binds (c : Config) (l : Launcher) : Prop where
  pinned : l.finder.pinned = c.pinned.map fun p =>
    { icon := p.icon, title := p.title, description := p.description,
      action := Command.resolve (some p.command) }
  macroGroups : l.macroGroups = c.macroGroups.map fun g =>
    { name := g.name
      actions := g.actions.map fun m =>
        { title := m.title, description := m.description,
          action := Command.resolve (some m.command) } }
  recent : l.recent = c.recent.map fun r =>
    { icon := r.icon, title := r.title, subtitle := r.subtitle,
      action := Command.resolve (some r.command) }
  tileGroups : l.tileGroups = c.tileGroups.map fun g =>
    { name := g.name
      tiles := g.tiles.map fun t =>
        { icon := t.icon, title := t.title, action := Command.resolve (some t.command) } }
  filters : l.filters = { name := "All", predicate := none } ::
    (c.filters.filter fun f => !Text.isBlankChars f.predicate.toList).map fun f =>
      { name := f.name, predicate := Predicate.parse? (some f.predicate) }
  tested : ∀ f ∈ c.filters, Text.isBlankChars f.predicate.toList = false →
    (Predicate.parse? (some f.predicate)).isSome

/-! ## The state behind -/

variable {l k : Launcher}

/-- Of what the finder holds, the pinned actions and the selected filter are replaced. -/
theorem finder_apply (l : Launcher) (c : Config) :
    (l.apply c).finder.applications = l.finder.applications
      ∧ (l.apply c).finder.searchText = l.finder.searchText
      ∧ (l.apply c).finder.pinned = c.pinnedEntries
      ∧ (l.apply c).finder.selected = some Filter.all := by
  have hstep : (l.apply c).finder =
      (l.finder.setPinned c.pinnedEntries).step (.selectFilter (some Filter.all)) := rfl
  have hagree : ∀ input, (Finder.Operation.selectFilter (some Filter.all)).input? ≠ some input →
      (l.finder.setPinned c.pinnedEntries).Agree (l.apply c).finder input := by
    intro input h
    rw [hstep]
    exact Finder.agree_step _ h
  exact ⟨hagree .applications nofun, hagree .text nofun, hagree .pinned nofun,
    selected_selectFilter _ _⟩

theorem binds_apply (l : Launcher) (c : Config) : Binds c (l.apply c) where
  pinned := (finder_apply l c).2.2.1
  macroGroups := rfl
  recent := rfl
  tileGroups := rfl
  filters := congrArg (Filter.all :: ·) c.filterEntries_eq
  tested _ _ := Predicate.isSome_parse?_iff.mpr

theorem current_apply (hl : l.finder.Current) (c : Config) : (l.apply c).finder.Current :=
  current_step hl {} (.apply c)

/-- Launchers with the same applications and search text are the same behind a configuration, but
for their interpreters. -/
theorem apply_congr (hl : l.finder.Current) (hk : k.finder.Current)
    (ha : k.finder.applications = l.finder.applications)
    (ht : k.finder.searchText = l.finder.searchText) (c : Config) :
    k.apply c = { l.apply c with interpreter := k.interpreter } := by
  obtain ⟨hla, hlt, hlp, hls⟩ := finder_apply l c
  obtain ⟨hka, hkt, hkp, hks⟩ := finder_apply k c
  have hagree : ∀ input, (l.apply c).finder.Agree (k.apply c).finder input := by
    intro input
    cases input with
    | applications => exact (hka.trans ha).trans hla.symm
    | pinned => exact hkp.trans hlp.symm
    | text => exact (hkt.trans ht).trans hlt.symm
    | filter => exact hks.trans hls.symm
  have hfinder := Finder.eq_of_agree (current_apply hl c) (current_apply hk c) hagree
  have hsplit : k.apply c =
      { l.apply c with interpreter := k.interpreter, finder := (k.apply c).finder } := rfl
  rw [hsplit, hfinder]

/-- A configuration that was applied before leaves nothing behind. -/
theorem apply_apply (hl : l.finder.Current) (c c' : Config) :
    (l.apply c').apply c = l.apply c := by
  obtain ⟨ha, ht, -, -⟩ := finder_apply l c'
  exact apply_congr hl (current_apply hl c') ha ht c

/-- Applying a configuration binds its entries, selects the filter that keeps everything and keeps
the applications and the search text, whatever the launcher is like. If its views are current, as
they are in every state that a run of operations on a new launcher reaches, they still are behind
the configuration; and that state is the same for every launcher with these applications and this
search text, but for the interpreter, and whatever configuration was applied in between. -/
theorem apply_run (c : Config) :
    (∀ i h ops, ((ofInterpreter i).run h ops).1.finder.Fresh)
      ∧ ∀ l : Launcher, Binds c (l.apply c)
        ∧ (l.apply c).finder.selected = some { name := "All", predicate := none }
        ∧ (l.apply c).finder.applications = l.finder.applications
        ∧ (l.apply c).finder.searchText = l.finder.searchText
        ∧ (l.finder.Fresh → (l.apply c).finder.Fresh
          ∧ (∀ k : Launcher, k.finder.Fresh →
              k.finder.applications = l.finder.applications →
              k.finder.searchText = l.finder.searchText →
              k.apply c = { l.apply c with interpreter := k.interpreter })
          ∧ ∀ c', (l.apply c').apply c = l.apply c) := by
  constructor
  · intro i h ops
    exact Finder.current_iff.mp (current_run (current_new i) h ops)
  · intro l
    obtain ⟨ha, ht, -, hs⟩ := finder_apply l c
    refine ⟨binds_apply l c, hs, ha, ht, fun hf => ?_⟩
    have hl := Finder.current_iff.mpr hf
    refine ⟨Finder.current_iff.mp (current_apply hl c), fun k hk hka hkt => ?_, apply_apply hl c⟩
    exact apply_congr hl (Finder.current_iff.mpr hk) hka hkt c

/-- A launcher with a configuration, in which a filter of it is selected, and one that never had
any are the same behind another configuration. -/
theorem apply_run_of_selected :
    let code : Config := { filters := [{ name := "Code", predicate := "code" }] }
    let l := ((ofInterpreter default).run {} [.search (some "a")]).1
    let k := ((ofInterpreter default).run {} [.apply code, .search (some "a"),
      .selectNamed "code"]).1
    l.finder.Fresh ∧ k.finder.Fresh
      ∧ k.finder.applications = l.finder.applications
      ∧ k.finder.searchText = l.finder.searchText ∧ k.finder.selected ≠ l.finder.selected
      ∧ k.apply {} = { l.apply {} with interpreter := k.interpreter } := by
  intro code l k
  obtain ⟨hreached, hany⟩ := apply_run {}
  have hl : l.finder.Fresh := hreached default {} _
  have hk : k.finder.Fresh := hreached default {} _
  have ha : k.finder.applications = l.finder.applications := rfl
  have ht : k.finder.searchText = l.finder.searchText := rfl
  have hs : k.finder.selected ≠ l.finder.selected := by decide
  obtain ⟨-, -, -, -, hstill⟩ := hany l
  obtain ⟨-, hsame, -⟩ := hstill hl
  exact ⟨hl, hk, ha, ht, hs, hsame k hk ha ht⟩

end Launcher

end QuickLaunch
