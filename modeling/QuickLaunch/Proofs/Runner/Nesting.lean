import QuickLaunch.Proofs.Runner.Attempts

/-!
# Workflows within workflows

A workflow runs its steps in order, and those of a workflow within it in their place. Whether a step
can be run is looked up for the step as a whole, so that a workflow within another one is skipped
with all its leaves when one of them cannot be run, while a leaf is skipped alone. The leaves that
are left (`entered`) make up a workflow without any nesting that does the same.

* `run_workflow_append`: a workflow is run part by part;
* `run_entered`: running an action leaves the host that the workflow of its entered leaves leaves;
* `run_flattened`: the same for a workflow, with what becomes of its leaves;
* `run_nested_skipped`: a leaf that is run only without the nesting.
-/

namespace QuickLaunch

/-- The action as the only leaf, or none if it is a workflow. -/
def Action.asLeaf : Action → List Action
  | .workflow _ => []
  | .noop => [.noop]
  | .launch path => [.launch path]
  | .shell command => [.shell command]
  | .foreign typeName => [.foreign typeName]

theorem Action.asLeaf_of_isLeaf {a : Action} (hl : a.IsLeaf) : a.asLeaf = [a] := by
  cases a with
  | workflow steps => exact hl.elim
  | noop => rfl
  | launch path => rfl
  | shell command => rfl
  | foreign typeName => rfl

theorem Action.asLeaf_sublist (a : Action) : a.asLeaf.Sublist a.leaves := by
  cases a with
  | workflow steps => exact List.nil_sublist _
  | noop => exact .refl _
  | launch path => exact .refl _
  | shell command => exact .refl _
  | foreign typeName => exact .refl _

namespace Runner

mutual

/-- The leaves of an action, from left to right, without those below a workflow within it that a run
on the host skips as a whole. -/
def entered (i : Interpreter) (h : Host) : Action → List Action
  | .workflow steps => enteredSteps i h steps
  | .noop => [.noop]
  | .launch path => [.launch path]
  | .shell command => [.shell command]
  | .foreign typeName => [.foreign typeName]

/-- The leaves of the steps of a workflow. A step that cannot be run when its turn comes has none
unless it is one itself, and the others are run on the host that it leaves. -/
def enteredSteps (i : Interpreter) (h : Host) : List Action → List Action
  | [] => []
  | a :: rest =>
    if canRun h.tree a then entered i h a ++ enteredSteps i (run i h a).1 rest
    else a.asLeaf ++ enteredSteps i h rest

end

variable {i : Interpreter} {h : Host} {a : Action} {rest : List Action}

theorem entered_of_isLeaf (hl : a.IsLeaf) : entered i h a = [a] := by
  cases a with
  | workflow steps => exact hl.elim
  | noop => rfl
  | launch path => rfl
  | shell command => rfl
  | foreign typeName => rfl

theorem entered_workflow_of_canRun (hc : canRun h.tree a = true) :
    entered i h (.workflow (a :: rest)) =
      entered i h a ++ entered i (run i h a).1 (.workflow rest) := by
  rw [entered, enteredSteps, if_pos hc, entered]

theorem entered_workflow_of_not_canRun (hc : canRun h.tree a = false) :
    entered i h (.workflow (a :: rest)) = a.asLeaf ++ entered i h (.workflow rest) := by
  rw [entered, enteredSteps, if_neg (by simp [hc]), entered]

/-! ## Running what is left -/

/-- A workflow is run part by part. -/
theorem run_workflow_append (i : Interpreter) (h : Host) (as bs : List Action) :
    (run i h (.workflow (as ++ bs))).1 =
      (run i (run i h (.workflow as)).1 (.workflow bs)).1 := by
  induction as generalizing h with
  | nil => rfl
  | cons a rest ih =>
    rw [List.cons_append]
    cases hc : canRun h.tree a with
    | true => rw [run_workflow_cons_of_canRun i h hc, run_workflow_cons_of_canRun i h hc, ih]
    | false =>
      rw [run_workflow_cons_of_not_canRun i h hc, run_workflow_cons_of_not_canRun i h hc, ih]

/-- A leaf that cannot be run leaves the host as it is. -/
theorem run_of_not_canRun (hl : a.IsLeaf) (hc : canRun h.tree a = false) : (run i h a).1 = h := by
  cases a with
  | workflow steps => exact hl.elim
  | noop => rfl
  | foreign typeName => rfl
  | shell command => simp [canRun] at hc
  | launch path =>
    rw [canRun] at hc
    rw [run_launch_of_not_isFile i h hc]

/-- A leaf does the same alone and as the only step of a workflow. -/
theorem run_workflow_singleton (hl : a.IsLeaf) : (run i h (.workflow [a])).1 = (run i h a).1 := by
  cases hc : canRun h.tree a with
  | true => rw [run_workflow_cons_of_canRun i h hc, run_workflow_nil]
  | false => rw [run_workflow_cons_of_not_canRun i h hc, run_workflow_nil, run_of_not_canRun hl hc]

/-- A step that cannot be run does nothing, and neither does its leaf if it is one. -/
theorem run_workflow_asLeaf (hc : canRun h.tree a = false) :
    (run i h (.workflow a.asLeaf)).1 = h := by
  by_cases hl : a.IsLeaf
  · rw [Action.asLeaf_of_isLeaf hl, run_workflow_singleton hl, run_of_not_canRun hl hc]
  · cases a with
    | workflow steps => rfl
    | _ => exact absurd trivial hl

/-- Running an action leaves the host that running the workflow of its entered leaves leaves. -/
theorem run_entered (i : Interpreter) (h : Host) (a : Action) :
    (run i h (.workflow (entered i h a))).1 = (run i h a).1 := by
  refine step_induction (i := i)
    (P := fun h a => (run i h (.workflow (entered i h a))).1 = (run i h a).1)
    ?leaf ?done ?ready ?skipped h a
  case leaf =>
    intro h a hl
    rw [entered_of_isLeaf hl, run_workflow_singleton hl]
  case done => exact fun _ => rfl
  case ready =>
    intro h a rest hc ha hrest
    rw [entered_workflow_of_canRun hc, run_workflow_append, ha, hrest,
      run_workflow_cons_of_canRun i h hc]
  case skipped =>
    intro h a rest hc hrest
    rw [entered_workflow_of_not_canRun hc, run_workflow_append, run_workflow_asLeaf hc, hrest,
      run_workflow_cons_of_not_canRun i h hc]

/-! ## What is left -/

/-- No leaf is new, and none changes its place. -/
theorem entered_sublist (i : Interpreter) (h : Host) (a : Action) :
    (entered i h a).Sublist a.leaves := by
  refine step_induction (i := i) (P := fun h a => (entered i h a).Sublist a.leaves)
    ?leaf ?done ?ready ?skipped h a
  case leaf =>
    intro h a hl
    have hleaves : entered i h a = a.leaves :=
      (entered_of_isLeaf hl).trans (Action.leaves_of_isLeaf hl).symm
    exact hleaves ▸ .refl _
  case done => exact fun _ => .refl _
  case ready =>
    intro h a rest hc ha hrest
    rw [entered_workflow_of_canRun hc, Action.leaves_workflow_cons]
    exact ha.append hrest
  case skipped =>
    intro h a rest hc hrest
    rw [entered_workflow_of_not_canRun hc, Action.leaves_workflow_cons]
    exact a.asLeaf_sublist.append hrest

/-- All leaves are left if no workflow has an outcome, which it has only when it is skipped. -/
theorem entered_eq_leaves (hs : ∀ o ∈ (run i h a).2, o.action.IsLeaf) :
    entered i h a = a.leaves := by
  refine step_induction (i := i)
    (P := fun h a => (∀ o ∈ (run i h a).2, o.action.IsLeaf) → entered i h a = a.leaves)
    ?leaf ?done ?ready ?skipped h a hs
  case leaf =>
    intro h a hl _
    rw [entered_of_isLeaf hl, Action.leaves_of_isLeaf hl]
  case done => exact fun _ _ => rfl
  case ready =>
    intro h a rest hc ha hrest hs
    rw [run_workflow_cons_of_canRun i h hc, List.forall_mem_append] at hs
    rw [entered_workflow_of_canRun hc, Action.leaves_workflow_cons, ha hs.1, hrest hs.2]
  case skipped =>
    intro h a rest hc hrest hs
    rw [run_workflow_cons_of_not_canRun i h hc, List.forall_mem_cons] at hs
    rw [entered_workflow_of_not_canRun hc, Action.leaves_workflow_cons, hrest hs.2,
      Action.asLeaf_of_isLeaf hs.1, Action.leaves_of_isLeaf hs.1]

/-- Nesting decides which leaves of a workflow are left, and nothing else: the workflow of these
leaves, in their order, leaves the same host, with the same starts in the same order. All leaves are
left if no workflow within it is skipped. -/
theorem run_flattened (i : Interpreter) (h : Host) (steps : List Action) :
    let left := entered i h (.workflow steps)
    (run i h (.workflow left)).1 = (run i h (.workflow steps)).1
      ∧ left.Sublist (Action.workflow steps).leaves
      ∧ ((∀ o ∈ (run i h (.workflow steps)).2, o.action.IsLeaf) →
        left = (Action.workflow steps).leaves) :=
  ⟨run_entered i h _, entered_sublist i h _, entered_eq_leaves⟩

/-- With the file there, the workflow within is run as its two leaves, and the nesting makes no
difference. -/
theorem run_flattened_of_file :
    let leaves : List Action := [.launch "a", .shell "echo hi"]
    let h : Host := { tree := { entries := [(["a"], .file ByteArray.empty)] } }
    (∀ o ∈ (run (Interpreter.default .posix) h (.workflow [.workflow leaves])).2,
        o.action.IsLeaf)
      ∧ (run (Interpreter.default .posix) h (.workflow leaves)).1 =
        (run (Interpreter.default .posix) h (.workflow [.workflow leaves])).1 := by
  intro leaves h
  have hleaves : ∀ o ∈ (run (Interpreter.default .posix) h (.workflow [.workflow leaves])).2,
      o.action.IsLeaf := by
    have hc : canRun h.tree (.workflow leaves) = true := by decide
    have hf : canRun h.tree (.launch "a") = true := by decide
    rw [run_workflow_cons_of_canRun _ _ hc, run_workflow_nil, List.append_nil]
    rw [run_workflow_cons_of_canRun _ _ hf, run_workflow_cons_of_canRun _ _ rfl, run_workflow_nil,
      run_launch_of_isFile _ _ (by decide), run_shell]
    simp [Action.IsLeaf]
  obtain ⟨hrun, -, hall⟩ := run_flattened (Interpreter.default .posix) h [.workflow leaves]
  rw [hall hleaves] at hrun
  exact ⟨hleaves, hrun⟩

/-- A command beside a missing file in a workflow within another one is skipped together with the
file. Without the nesting it is run. -/
theorem run_nested_skipped :
    let a : Action := .workflow [.workflow [.launch "gone", .shell "echo hi"]]
    (run (Interpreter.default .posix) {} a).1.starts = []
      ∧ (run (Interpreter.default .posix) {} (.workflow a.leaves)).1.starts =
        [⟨.words [.text "sh", .text "-c", .text "echo hi"], some commandTies, false⟩] := by
  intro a
  have hinner : canRun ({} : Host).tree (.workflow [.launch "gone", .shell "echo hi"]) = false := by
    decide
  have hgone : canRun ({} : Host).tree (.launch "gone") = false := by decide
  have hrequest : (Interpreter.default .posix).request ({} : Host).environment.family "echo hi" =
      .ok (.words [.text "sh", .text "-c", .text "echo hi"]) := rfl
  constructor
  · rw [run_workflow_cons_of_not_canRun _ _ hinner, run_workflow_nil]
  · have hleaves : a.leaves = [.launch "gone", .shell "echo hi"] := rfl
    rw [hleaves, run_workflow_cons_of_not_canRun _ _ hgone, run_workflow_cons_of_canRun _ _ rfl,
      run_workflow_nil, run_shell, runOn_runCommand, hrequest]
    rfl

end Runner

end QuickLaunch
