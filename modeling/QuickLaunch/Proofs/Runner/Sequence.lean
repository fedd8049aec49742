import Mathlib.Data.List.Forall2
import QuickLaunch.Proofs.Command.Workflows
import QuickLaunch.Proofs.Runner.Attempts

/-!
# Workflows as sequences

A workflow looks whether a step can be run before it runs it, and a file to open is looked for once
more when it is opened. For paths and shell commands the two agree, so that running the workflow is
running its steps one after another, each on what the ones before it have left. Only the wording of
a skipped path tells which of the two found that the file is missing (`Alike`).

* `run_workflow_cons`: a first step, as part of a workflow and on its own;
* `run_workflow_eq_runEach`: the same for all steps;
* `run_joined`: a workflow that joins commands runs like these commands one after another.
-/

namespace QuickLaunch

open Command (IsSegment shellWord workflowWord resolve resolveStep workflowOf)

/-- How an attempt came out, in a word. -/
inductive Verdict where
  | ok | skipped | failed
  deriving DecidableEq, Repr

/-- The word for a status. -/
def Status.verdict : Status → Verdict
  | .done => .ok
  | .notReady | .fileMissing _ => .skipped
  | .failed _ => .failed

/-- What there is in an outcome beside its wording: the action, how its attempt came out, and the
fault that was met. -/
def Outcome.gist (o : Outcome) : Action × Verdict × Option Fault :=
  (o.action, o.status.verdict, o.fault?)

/-- The outcomes are the same, or those of a path that was skipped, once by a workflow and once when
it was to be opened. -/
inductive Outcome.Alike : Outcome → Outcome → Prop where
  | same (o : Outcome) : Alike o o
  | missing (path : String) : Alike ⟨.launch path, .notReady⟩ ⟨.launch path, .fileMissing path⟩

theorem Outcome.Alike.gist_eq {o o' : Outcome} (h : Alike o o') : o.gist = o'.gist := by
  cases h <;> rfl

/-- The action is a path or a shell command. -/
def Action.IsSimple : Action → Prop
  | .launch _ | .shell _ => True
  | .noop | .workflow _ | .foreign _ => False

theorem Action.IsSimple.isLeaf {a : Action} (ha : a.IsSimple) : a.IsLeaf := by
  cases a <;> trivial

theorem Action.IsSimple.ne_noop {a : Action} (ha : a.IsSimple) : a ≠ .noop := by
  rintro rfl
  exact ha

namespace Command

theorem isSimple_resolveStep {s : List Char} (hs : IsSegment s) : (resolveStep s).IsSimple := by
  cases h : Text.beginsWith shellWord s with
  | true =>
    rw [resolveStep_shell hs.not_isBlankChars h]
    trivial
  | false =>
    rw [resolveStep_launch hs.not_isBlankChars h]
    trivial

/-- The segments of a workflow that joins commands are the commands. -/
theorem resolve_joined {commands : List String} (hc : ∀ s ∈ commands, IsSegment s.toList) :
    resolve (some ("workflow:" ++ " && ".intercalate commands)) =
      workflowOf (commands.map String.toList) := by
  rw [resolve_workflow, segments_intercalate hc]

/-- Commands that ask for no workflow are read as steps. -/
theorem map_resolveStep {commands : List String}
    (hc : ∀ s ∈ commands, Text.beginsWith workflowWord s.toList = false) :
    (commands.map String.toList).map resolveStep = commands.map fun s => resolve (some s) := by
  rw [List.map_map]
  exact List.map_congr_left fun s hs => (resolveChars_eq_resolveStep (hc s hs)).symm

end Command

namespace Runner

open Outcome (Alike)

/-- Run actions one after another. -/
def runEach (i : Interpreter) (h : Host) : List Action → Host × List Outcome
  | [] => (h, [])
  | a :: rest =>
    ((runEach i (run i h a).1 rest).1, (run i h a).2 ++ (runEach i (run i h a).1 rest).2)

/-- What cannot be run now is a path without a file. -/
theorem exists_path_of_not_canRun {t : Tree} {a : Action} (ha : a.IsSimple)
    (hc : canRun t a = false) : ∃ path, a = .launch path ∧ t.isFile path = false := by
  cases a with
  | launch path =>
    rw [canRun] at hc
    exact ⟨path, rfl, hc⟩
  | shell command => simp [canRun] at hc
  | noop => exact ha.elim
  | workflow steps => exact ha.elim
  | foreign typeName => exact ha.elim

theorem forall₂_alike_refl (os : List Outcome) : List.Forall₂ Alike os os :=
  List.forall₂_same.mpr fun o _ => .same o

variable (i : Interpreter) (h : Host)

/-- The first step of a workflow leaves the host as it does on its own, and the other steps are run
on that host. -/
theorem run_workflow_cons {a : Action} (ha : a.IsSimple) (rest : List Action) :
    ∃ first, List.Forall₂ Alike first (run i h a).2
      ∧ run i h (.workflow (a :: rest)) =
        ((run i (run i h a).1 (.workflow rest)).1,
          first ++ (run i (run i h a).1 (.workflow rest)).2) := by
  cases hc : canRun h.tree a with
  | true => exact ⟨_, forall₂_alike_refl _, run_workflow_cons_of_canRun i h hc⟩
  | false =>
    obtain ⟨path, rfl, hf⟩ := exists_path_of_not_canRun ha hc
    rw [run_launch_of_not_isFile i h hf]
    exact ⟨[⟨.launch path, .notReady⟩], .cons (.missing path) .nil,
      run_workflow_cons_of_not_canRun i h hc⟩

/-- Running a workflow of paths and shell commands is running its steps one after another. -/
theorem run_workflow_eq_runEach {steps : List Action} (hs : ∀ a ∈ steps, a.IsSimple) :
    (run i h (.workflow steps)).1 = (runEach i h steps).1
      ∧ List.Forall₂ Alike (run i h (.workflow steps)).2 (runEach i h steps).2 := by
  induction steps generalizing h with
  | nil => exact ⟨rfl, .nil⟩
  | cons a rest ih =>
    obtain ⟨first, hf, hr⟩ := run_workflow_cons i h (hs a List.mem_cons_self) rest
    obtain ⟨hh, ho⟩ := ih (run i h a).1 fun b hb => hs b (List.mem_cons_of_mem a hb)
    rw [hr]
    exact ⟨hh, List.rel_append hf ho⟩

/-- Each of the actions is attempted, whatever became of those before it. -/
theorem map_action_runEach {steps : List Action} (hs : ∀ a ∈ steps, a.IsSimple) :
    (runEach i h steps).2.map Outcome.action = steps := by
  induction steps generalizing h with
  | nil => rfl
  | cons a rest ih =>
    have ha := hs a List.mem_cons_self
    obtain ⟨o, h', hr, hatt⟩ := exists_attempted i h ha.isLeaf ha.ne_noop
    have hrest := ih h' fun b hb => hs b (List.mem_cons_of_mem a hb)
    rw [runEach, hr, List.map_append, hrest, List.map_singleton, hatt.action_eq,
      List.singleton_append]

theorem run_workflowOf (ps : List (List Char)) :
    run i h (workflowOf ps) = run i h (.workflow (ps.map resolveStep)) := by
  cases ps <;> rfl

theorem map_gist_eq {os os' : List Outcome} (ho : List.Forall₂ Alike os os') :
    os.map Outcome.gist = os'.map Outcome.gist := by
  induction ho with
  | nil => rfl
  | cons h _ ih => rw [List.map_cons, List.map_cons, h.gist_eq, ih]

/-- A workflow that joins commands runs like these commands one after another, each on what the ones
before it have left: the host afterwards is the same, with its files and all starts, and so are the
outcomes but for the wording of paths that are skipped. Every command has its outcome, whatever
became of those before it. -/
theorem run_joined {commands : List String}
    (hc : ∀ s ∈ commands, IsSegment s.toList ∧ Text.beginsWith workflowWord s.toList = false) :
    let whole := run i h (resolve (some ("workflow:" ++ " && ".intercalate commands)))
    let each := runEach i h (commands.map fun s => resolve (some s))
    whole.1 = each.1 ∧ whole.2.map Outcome.gist = each.2.map Outcome.gist
      ∧ List.Forall₂ Alike whole.2 each.2
      ∧ each.2.map Outcome.action = commands.map fun s => resolve (some s) := by
  intro whole each
  have hseg : ∀ s ∈ commands, IsSegment s.toList := fun s hs => (hc s hs).1
  have hsteps := Command.map_resolveStep fun s hs => (hc s hs).2
  have hsimple : ∀ a ∈ commands.map fun s => resolve (some s), a.IsSimple := by
    intro a ha
    rw [← hsteps, List.map_map, List.mem_map] at ha
    obtain ⟨s, hs, rfl⟩ := ha
    exact Command.isSimple_resolveStep (hseg s hs)
  have hwhole : whole = run i h (.workflow (commands.map fun s => resolve (some s))) := by
    rw [← hsteps, ← run_workflowOf, ← Command.resolve_joined hseg]
  obtain ⟨hh, ho⟩ := run_workflow_eq_runEach i h hsimple
  rw [← hwhole] at hh ho
  exact ⟨hh, map_gist_eq ho, ho, map_action_runEach i h hsimple⟩

/-- A missing file, a command that makes a file although its start fails, and that file: the first
is skipped, and neither keeps the last from being opened. -/
theorem run_joined_after_failure :
    let commands := ["gone", "shell:make b", "b"]
    let h : Host := { rules := [(0, { create := some "b", fail := some "busy" })] }
    (∀ s ∈ commands, IsSegment s.toList ∧ Text.beginsWith workflowWord s.toList = false)
      ∧ (run (Interpreter.default .posix) h
          (resolve (some ("workflow:" ++ " && ".intercalate commands)))).2.map Outcome.gist =
        [(.launch "gone", .skipped, none), (.shell "make b", .failed, some (.refused "busy")),
          (.launch "b", .ok, none)] := by
  intro commands h
  have hc : ∀ s ∈ commands,
      IsSegment s.toList ∧ Text.beginsWith workflowWord s.toList = false := by decide
  exact ⟨hc, (run_joined (Interpreter.default .posix) h hc).2.1.trans rfl⟩

end Runner

end QuickLaunch
