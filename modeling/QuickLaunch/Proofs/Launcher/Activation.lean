import QuickLaunch.Proofs.Launcher.Runs
import QuickLaunch.Proofs.Runner.Attempts

/-!
# Activation

What is carried out is the first result of the view, which is stored and not made anew. Since the
view is always current, this is the first item that the search finds at that moment (`Picks`): an
application before any pinned action, in the order of the lists, and whatever filter is selected.

* `found_cases`: the first result, or that there is none;
* `step_activate_of_none`, `step_activate_of_some`: what activation makes of the host;
* `activate_run`: what activation does in every state that a run of operations reaches.
-/

namespace QuickLaunch

namespace Finder.Given

variable (g : Given)

/-- There is something to search for, and an application or a pinned action whose title has it. -/
def Finds : Prop :=
  ¬ g.Blank ∧ ((∃ app ∈ g.applications, g.Names app.title)
    ∨ ∃ p ∈ g.pinned, g.Names (some p.title))

/-- The action of the first application whose title has the text; without such an application, that
of the first pinned action. -/
inductive Picks : Action → Prop where
  | application (before : List Application) (app : Application) (behind : List Application) :
      g.applications = before ++ app :: behind → (∀ other ∈ before, ¬ g.Names other.title) →
      g.Names app.title → Picks app.action
  | pinned (before : List Pinned) (p : Pinned) (behind : List Pinned) :
      (∀ app ∈ g.applications, ¬ g.Names app.title) →
      g.pinned = before ++ p :: behind → (∀ other ∈ before, ¬ g.Names (some other.title)) →
      g.Names (some p.title) → Picks p.action

/-- Either nothing is found, or the first result is the one to pick. -/
theorem found_cases :
    (g.found = [] ∧ ¬ g.Finds) ∨ ∃ r rest, g.found = r :: rest ∧ g.Finds ∧ g.Picks r.action := by
  by_cases hb : g.Blank
  · exact .inl ⟨if_pos hb, fun hf => hf.1 hb⟩
  rw [found, if_neg hb]
  cases ha : g.applications.filter fun app => decide (g.Names app.title) with
  | cons app rest =>
    obtain ⟨before, behind, hsplit, hbefore, happ, -⟩ := List.filter_eq_cons_iff.mp ha
    simp only [decide_eq_true_eq] at hbefore happ
    exact .inr ⟨_, _, rfl, ⟨hb, .inl ⟨app, by simp [hsplit], happ⟩⟩,
      .application before app behind hsplit hbefore happ⟩
  | nil =>
    have hnone : ∀ app ∈ g.applications, ¬ g.Names app.title := by
      simpa [List.filter_eq_nil_iff] using ha
    cases hp : g.pinned.filter fun p => decide (g.Names (some p.title)) with
    | cons p rest =>
      obtain ⟨before, behind, hsplit, hbefore, hname, -⟩ := List.filter_eq_cons_iff.mp hp
      simp only [decide_eq_true_eq] at hbefore hname
      exact .inr ⟨_, _, rfl, ⟨hb, .inr ⟨p, by simp [hsplit], hname⟩⟩,
        .pinned before p behind hnone hsplit hbefore hname⟩
    | nil =>
      have hnopin : ∀ p ∈ g.pinned, ¬ g.Names (some p.title) := by
        simpa [List.filter_eq_nil_iff] using hp
      refine .inl ⟨rfl, ?_⟩
      rintro ⟨-, ⟨app, hm, hn⟩ | ⟨p, hm, hn⟩⟩
      · exact hnone app hm hn
      · exact hnopin p hm hn

theorem found_of_blank {g : Given} (hb : g.Blank) : g.found = [] :=
  if_pos hb

end Finder.Given

namespace Launcher

variable {l : Launcher}

theorem step_activate_of_none (hr : l.firstResult? = none) (h : Host) :
    l.step h .activate = ((l, h), .ok (some false)) := by
  rw [step, activate, hr]
  rfl

/-- Activation with a result runs its action. The host differs from what running it alone leaves in
the log only, which learns of the result and the outcomes. -/
theorem step_activate_of_some {r : Result} (hr : l.firstResult? = some r) (h : Host) :
    l.step h .activate =
      ((l, ((Runner.run l.interpreter h r.action).1.note [.activating (r.title.getD "None")]).note
          ((Runner.run l.interpreter h r.action).2.map Outcome.event)),
        .ok (some true)) := by
  have hrun : l.activate.runOn h =
      (.ok true, ((Runner.run l.interpreter h r.action).1.note
        [.activating (r.title.getD "None")]).note
          ((Runner.run l.interpreter h r.action).2.map Outcome.event)) := by
    rw [activate, hr]
    simp [Session.runOn_bind, Runner.runOn_perform, Runner.run_note]
  rw [step, hrun]
  rfl

theorem interpreter_step (l : Launcher) (h : Host) (op : Operation) :
    (l.step h op).1.1.interpreter = l.interpreter := by
  rw [step_eq]
  cases op <;> rfl

theorem interpreter_run (l : Launcher) (h : Host) (ops : List Operation) :
    (l.run h ops).1.interpreter = l.interpreter := by
  induction ops generalizing l h with
  | nil => rfl
  | cons op rest ih => exact (ih _ _).trans (interpreter_step l h op)

/-- The first result of a launcher whose views are current is the first that its search finds. -/
theorem firstResult?_eq {g : Finder.Given} (hf : l.finder.Holds g)
    (hc : l.finder.Current) : l.firstResult? = g.found.head? := by
  rw [firstResult?, Finder.hasSearchText, hf.searchText, g.isBlank_eq, hc.2, hf.resultsNow]
  by_cases hb : g.Blank
  · simp [hb, Finder.Given.found_of_blank hb]
  · simp [hb]

/-- In every state that a run of operations on a new launcher reaches, whatever was selected on the
way and whatever the host is like by then, activation answers whether the search for the text given
last finds anything. If so, it starts what running the action of the first item starts, and leaves
the files as that does; if not, it leaves the host as it is. The launcher stays the same. -/
theorem activate_run (i : Interpreter) (h : Host) (ops : List Operation) (h' : Host) :
    let l := ((ofInterpreter i).run h ops).1
    let g := (ops.foldl Given.after {}).sought none
    ∃ there h'', l.step h' .activate = ((l, h''), .ok (some there))
      ∧ (there = true ↔ g.Finds)
      ∧ (there = true → ∃ a, g.Picks a ∧ h''.starts = (Runner.run i h' a).1.starts
          ∧ h''.tree = (Runner.run i h' a).1.tree)
      ∧ (there = false → h'' = h') := by
  intro l g
  have hl : l.Holds (ops.foldl Given.after {}) := (holds_new i).run h ops
  have hi : l.interpreter = i := interpreter_run _ h ops
  -- What is found does not depend on the filter.
  have hfound : ((ops.foldl Given.after {}).sought l.finder.selected).found = g.found := rfl
  have hfirst := firstResult?_eq hl.finder (current_run (current_new i) h ops)
  rw [hfound] at hfirst
  rcases g.found_cases with ⟨hnil, hfinds⟩ | ⟨r, rest, hcons, hfinds, hpicks⟩
  · rw [hnil] at hfirst
    exact ⟨false, h', step_activate_of_none hfirst h', by simpa using hfinds, nofun, fun _ => rfl⟩
  · rw [hcons] at hfirst
    have hstep := step_activate_of_some hfirst h'
    rw [hi] at hstep
    exact ⟨true, _, hstep, by simpa using hfinds, fun _ => ⟨r.action, hpicks, rfl, rfl⟩, nofun⟩

end Launcher

end QuickLaunch
