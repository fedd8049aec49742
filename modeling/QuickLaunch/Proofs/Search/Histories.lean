import QuickLaunch.Proofs.Search.Views

/-!
# Histories of a finder

Operations return early when they are given what the finder holds, and each of them rebuilds only
the views that it may change. None of this shows in the end: what was given last of each input
settles the whole state, so that runs which end with the same inputs end in the same state.

* `run_eq`: the state after a run, from what was given last;
* `foldl_after`: what was given last, input by input;
* `run_eq_of_lastGiven`: histories that give the same last leave the same state.
-/

namespace QuickLaunch.Finder

/-! ## The state of what was given -/

/-- The finder that holds what was given and shows what there is to show. -/
def Given.finder (g : Given) : Finder :=
  { applications := g.applications, pinned := g.pinned, searchText := some g.text,
    selected := g.filter, filtered := g.shown, results := g.found }

theorem Holds.eq_finder {f : Finder} {g : Given} (hf : f.Holds g) (hc : f.Current) :
    f = g.finder := by
  have hfiltered : f.filtered = g.shown := hc.1.trans hf.filteredNow
  have hresults : f.results = g.found := hc.2.trans hf.resultsNow
  obtain ⟨ha, hp, ht, hs⟩ := hf
  cases f
  simp only at ha hp ht hs hfiltered hresults
  rw [ha, hp, ht, hs, hfiltered, hresults]
  rfl

/-- What was given settles the state after a run, views included. -/
theorem run_eq (ops : List Operation) : run {} ops = (ops.foldl Given.after {}).finder :=
  (holds_new.run ops).eq_finder (current_run current_new ops)

/-! ## What was given last -/

/-- The inputs of a finder. -/
inductive Input where
  | applications | pinned | text | filter
  deriving DecidableEq, Repr

namespace Operation

/-- The input that an operation sets, if it sets one. -/
def input? : Operation → Option Input
  | .updateApplications _ => some .applications
  | .setPinned _ => some .pinned
  | .setSearchText _ => some .text
  | .selectFilter _ => some .filter
  | .refresh | .refreshFiltered | .refreshResults => none

/-- The applications that an operation gives. -/
def applications? : Operation → Option (List Application)
  | .updateApplications apps => some apps
  | _ => none

/-- The pinned actions that an operation gives. -/
def pinned? : Operation → Option (List Pinned)
  | .setPinned pinned => some pinned
  | _ => none

/-- The search text that an operation gives; a missing one counts as the empty text. -/
def text? : Operation → Option String
  | .setSearchText text => some (text.getD "")
  | _ => none

/-- The filter, or that there is none, that an operation gives. -/
def filter? : Operation → Option (Option Filter)
  | .selectFilter filter => some filter
  | _ => none

end Operation

variable {α : Type} {given? : Operation → Option α} {initial : α} {ops ops' : List Operation}
  {op op' : Operation}

/-- What a history gives last of an input, and the initial value where it never does. -/
def lastGiven (given? : Operation → Option α) (initial : α) (ops : List Operation) : α :=
  (ops.filterMap given?).getLast?.getD initial

theorem lastGiven_cons (given? : Operation → Option α) (initial : α) (op : Operation)
    (rest : List Operation) :
    lastGiven given? initial (op :: rest) = lastGiven given? ((given? op).getD initial) rest := by
  cases h : given? op with
  | none => rw [lastGiven, List.filterMap_cons_none h, Option.getD_none, lastGiven]
  | some a =>
    rw [lastGiven, List.filterMap_cons_some h, List.getLast?_cons, Option.getD_some,
      Option.getD_some, lastGiven]

theorem lastGiven_append (given? : Operation → Option α) (initial : α) (ops rest : List Operation) :
    lastGiven given? initial (ops ++ rest) =
      lastGiven given? (lastGiven given? initial ops) rest := by
  induction ops generalizing initial with
  | nil => rfl
  | cons op ops ih => rw [List.cons_append, lastGiven_cons, ih, lastGiven_cons]

theorem foldl_after (g : Given) (ops : List Operation) :
    ops.foldl Given.after g =
      { applications := lastGiven Operation.applications? g.applications ops
        pinned := lastGiven Operation.pinned? g.pinned ops
        text := lastGiven Operation.text? g.text ops
        filter := lastGiven Operation.filter? g.filter ops } := by
  induction ops generalizing g with
  | nil => rfl
  | cons op rest ih =>
    rw [List.foldl_cons, ih]
    simp only [lastGiven_cons]
    cases op <;> rfl

/-- Two histories give the same last of each input. -/
structure SameLast (ops ops' : List Operation) : Prop where
  applications :
    lastGiven Operation.applications? [] ops = lastGiven Operation.applications? [] ops'
  pinned : lastGiven Operation.pinned? [] ops = lastGiven Operation.pinned? [] ops'
  text : lastGiven Operation.text? "" ops = lastGiven Operation.text? "" ops'
  filter : lastGiven Operation.filter? none ops = lastGiven Operation.filter? none ops'

theorem SameLast.run_eq_run (h : SameLast ops ops') : run {} ops = run {} ops' := by
  rw [run_eq, run_eq, foldl_after, foldl_after, h.applications, h.pinned, h.text, h.filter]

/-! ## Changes to a history -/

/-- Something is given by the operations that set an input, and by no others. -/
def Gives (given? : Operation → Option α) (input : Input) : Prop :=
  ∀ op, (given? op).isSome ↔ op.input? = some input

theorem gives_applications : Gives Operation.applications? .applications := by
  intro op
  cases op <;> simp [Operation.applications?, Operation.input?]

theorem gives_pinned : Gives Operation.pinned? .pinned := by
  intro op
  cases op <;> simp [Operation.pinned?, Operation.input?]

theorem gives_text : Gives Operation.text? .text := by
  intro op
  cases op <;> simp [Operation.text?, Operation.input?]

theorem gives_filter : Gives Operation.filter? .filter := by
  intro op
  cases op <;> simp [Operation.filter?, Operation.input?]

variable {input : Input} (before between behind : List Operation)

theorem Gives.eq_none (hg : Gives given? input) (h : op.input? ≠ some input) :
    given? op = none := by
  rwa [← Option.not_isSome_iff_eq_none, hg op]

theorem Gives.lastGiven_swap (hg : Gives given? input) (h : op.input? ≠ op'.input?) :
    lastGiven given? initial (before ++ op :: op' :: behind) =
      lastGiven given? initial (before ++ op' :: op :: behind) := by
  simp only [lastGiven_append, lastGiven_cons]
  by_cases hop : op.input? = some input
  · have hop' : given? op' = none := hg.eq_none (hop ▸ h.symm)
    simp only [hop', Option.getD_none]
  · have hop : given? op = none := hg.eq_none hop
    simp only [hop, Option.getD_none]

/-- Operations that set different inputs can change places. -/
theorem sameLast_swap (h : op.input? ≠ op'.input?) :
    SameLast (before ++ op :: op' :: behind) (before ++ op' :: op :: behind) where
  applications := gives_applications.lastGiven_swap before behind h
  pinned := gives_pinned.lastGiven_swap before behind h
  text := gives_text.lastGiven_swap before behind h
  filter := gives_filter.lastGiven_swap before behind h

theorem Gives.lastGiven_later (hg : Gives given? input) (h : op.input? = op'.input?) :
    lastGiven given? initial (before ++ op :: between ++ op' :: behind) =
      lastGiven given? initial (before ++ between ++ op' :: behind) := by
  simp only [lastGiven_append, lastGiven_cons]
  by_cases hop : op.input? = some input
  · obtain ⟨a, ha⟩ := Option.isSome_iff_exists.mp ((hg op').mpr (h ▸ hop))
    rw [ha, Option.getD_some, Option.getD_some]
  · rw [hg.eq_none hop, Option.getD_none]

/-- An operation can be left out when a later one sets the same input. -/
theorem sameLast_later (h : op.input? = op'.input?) :
    SameLast (before ++ op :: between ++ op' :: behind) (before ++ between ++ op' :: behind) where
  applications := gives_applications.lastGiven_later before between behind h
  pinned := gives_pinned.lastGiven_later before between behind h
  text := gives_text.lastGiven_later before between behind h
  filter := gives_filter.lastGiven_later before between behind h

/-- Two histories of a new finder that give the same last of each of its inputs, whatever else they
give, in whichever order and with whichever refreshes, leave the same state: the inputs, whether
there is something to search for, the heading and both views. So operations that set different
inputs can change places, and one whose input is set again later leaves no trace. -/
theorem run_eq_of_lastGiven :
    (∀ ops ops', SameLast ops ops' →
        run {} ops = run {} ops' ∧ (run {} ops).hasSearchText = (run {} ops').hasSearchText
          ∧ (run {} ops).header = (run {} ops').header)
      ∧ (∀ before op op' behind, Operation.input? op ≠ Operation.input? op' →
        run {} (before ++ op :: op' :: behind) = run {} (before ++ op' :: op :: behind))
      ∧ ∀ before op between op' behind, Operation.input? op = Operation.input? op' →
        run {} (before ++ op :: between ++ op' :: behind) =
          run {} (before ++ between ++ op' :: behind) := by
  refine ⟨fun ops ops' h => ?_, fun before op op' behind h => ?_,
    fun before op between op' behind h => ?_⟩
  · have hrun : run {} ops = run {} ops' := h.run_eq_run
    exact ⟨hrun, congrArg hasSearchText hrun, congrArg header hrun⟩
  · exact (sameLast_swap before behind h).run_eq_run
  · exact (sameLast_later before between behind h).run_eq_run

/-- A text that is set and replaced, and a refresh that comes too early, show nowhere. -/
theorem run_eq_of_lastGiven_replaced :
    let app : Application := { title := "Notes", category := none, source := none, action := .noop }
    let ops : List Operation := [.setSearchText (some "x"), .refresh, .updateApplications [app],
      .selectFilter none, .setSearchText (some "note")]
    let ops' : List Operation := [.setSearchText (some "note"), .updateApplications [app]]
    SameLast ops ops' ∧ run {} ops = run {} ops' := by
  intro app ops ops'
  have h : SameLast ops ops' := ⟨rfl, rfl, rfl, rfl⟩
  exact ⟨h, (run_eq_of_lastGiven.1 ops ops' h).1⟩

end QuickLaunch.Finder
